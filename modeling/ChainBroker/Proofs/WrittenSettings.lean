import ChainBroker.Proofs.WrittenSections
import ChainBroker.Settings.Document
import Mathlib.Data.String.Basic

/-!
# Settings that come from the environment

Settings are written in sections, in any order, each text either as it is or as a placeholder of a
variable. From the document come these settings exactly: the values of the variables where
placeholders stand, the texts that are written out, and nothing where nothing is written
(`Settings.ofText_of_gives`).

The sections of settings are given here in the order of their names (`Settings.sections`). That is
the order in which the members of tables are decoded, so for each section the decoder takes back
what is written (`DockerSettings.decoder_written`), and so it does for the whole document
(`Settings.decoder_sections`).
-/

namespace ChainBroker

open Toml (Setting settingsTable sectionsTable)

/-! ## Names in order -/

namespace Toml

variable {names : List String}

/-- Members whose names ascend are left in their order. -/
theorem ofMembers_of_sublist (ascending : names.Pairwise (· < ·)) {l : List (String × Toml)}
    (h : (l.map Prod.fst).Sublist names) : ofMembers l = .table l := by
  have hnames := ascending.sublist h
  rw [List.pairwise_map] at hnames
  exact congrArg Toml.table (List.mergeSort_of_pairwise
    (hnames.imp fun hlt => decide_eq_true (le_of_lt hlt)))

/-- So are settings. -/
theorem settingsTable_of_sublist (ascending : names.Pairwise (· < ·))
    {ps : List (String × Setting)} (h : (ps.map Prod.fst).Sublist names) :
    settingsTable ps = .table (ps.map fun p => (p.1, p.2.value)) := by
  refine ofMembers_of_sublist ascending ?_
  rwa [List.map_map]

/-- Of names that ascend none is there twice. -/
theorem nodup_of_sublist (ascending : names.Pairwise (· < ·)) {l : List String}
    (h : l.Sublist names) : l.Nodup :=
  (ascending.sublist h).imp ne_of_lt

/-- A number of at most 64 bits is read as it is. -/
theorem naturalValue_integer {n : Nat} (h : n < UInt64.size) : naturalValue (.integer n) = .ok n :=
  if_pos h

end Toml

/-! ## Sections -/

namespace DockerSettings

/-- What is written in the section. -/
def written (s : DockerSettings) : List (String × Setting) :=
  ("external_address", .text s.externalAddress) ::
    (s.internalAddress.map fun address => ("internal_address", .text address)).toList

/-- The settings of Docker are written in the order of their names. -/
theorem names_written (s : DockerSettings) :
    (s.written.map Prod.fst).Sublist ["external_address", "internal_address"] := by
  obtain ⟨_ | _, _⟩ := s <;> simp [written]

/-- From the table of what is written for Docker come its settings. -/
theorem decoder_written (s : DockerSettings) : decoder (settingsTable s.written) = .ok s := by
  rw [Toml.settingsTable_of_sublist (by decide) s.names_written]
  obtain ⟨_ | _, _⟩ := s <;> rfl

end DockerSettings

namespace KubernetesSettings

/-- What is written in the section. -/
def written (s : KubernetesSettings) : List (String × Setting) :=
  ("host", .text s.host) :: (s.clusterNamespace.map fun name => ("namespace", .text name)).toList

/-- The settings of Kubernetes are written in the order of their names. -/
theorem names_written (s : KubernetesSettings) :
    (s.written.map Prod.fst).Sublist ["host", "namespace"] := by
  obtain ⟨_, _ | _⟩ := s <;> simp [written]

/-- From the table of what is written for Kubernetes come its settings. -/
theorem decoder_written (s : KubernetesSettings) : decoder (settingsTable s.written) = .ok s := by
  rw [Toml.settingsTable_of_sublist (by decide) s.names_written]
  obtain ⟨_, _ | _⟩ := s <;> rfl

end KubernetesSettings

namespace ToolSettings

/-- What is written in the section. -/
def written (s : ToolSettings) : List (String × Setting) :=
  (s.program.map fun program => ("program", .text program)).toList ++ ("script", .text s.script) ::
    (s.timeoutSeconds.map fun seconds => ("timeout_seconds", .number seconds)).toList

/-- The settings of the tool are written in the order of their names. -/
theorem names_written (s : ToolSettings) :
    (s.written.map Prod.fst).Sublist ["program", "script", "timeout_seconds"] := by
  obtain ⟨_ | _, _, _ | _⟩ := s <;> simp [written]

/-- From the table of what is written for the tool come its settings. -/
theorem decoder_written (s : ToolSettings) (h : ∀ n ∈ s.timeoutSeconds, n < UInt64.size) :
    decoder (settingsTable s.written) = .ok s := by
  rw [Toml.settingsTable_of_sublist (by decide) s.names_written]
  obtain ⟨_ | _, _, _ | n⟩ := s
  case none.none => rfl
  case some.none => rfl
  all_goals
    have hread := Toml.naturalValue_integer (h n rfl)
    simp [decoder, written, Toml.recordOf, Toml.members, shape, Toml.Field.of, Toml.optional,
      Toml.textValue, Toml.textAs, Setting.value, hread, Except.map]

end ToolSettings

/-- The kind of the platform is known by its name. -/
theorem PlatformKind.decoder_written (kind : PlatformKind) :
    decoder (settingsTable [("kind", .text kind.name)]) = .ok kind := by
  rw [Toml.settingsTable_of_sublist (List.pairwise_singleton _ "kind") (List.Sublist.refl _)]
  cases kind <;> rfl

namespace Settings

/-- All that there is to the settings, in sections. -/
def sections (s : Settings) : List (String × List (String × Setting)) :=
  ("backend", [("kind", .text s.platform.name)]) :: ("deployer", s.tool.written) ::
    ((s.docker.map fun docker => ("docker", docker.written)).toList ++
      (s.kubernetes.map fun kubernetes => ("kubernetes", kubernetes.written)).toList)

/-- The sections of settings are written in the order of their names. -/
theorem names_sections (s : Settings) :
    (s.sections.map Prod.fst).Sublist ["backend", "deployer", "docker", "kubernetes"] := by
  obtain ⟨_, _ | _, _ | _, _⟩ := s <;> simp [sections]

/-- No section is written twice, and in none of them a setting. -/
theorem distinct_sections (s : Settings) : Toml.Distinct s.sections where
  sections := Toml.nodup_of_sublist (by decide) s.names_sections
  settings := by
    obtain ⟨_, docker, kubernetes, tool⟩ := s
    have htool := Toml.nodup_of_sublist (by decide) tool.names_written
    have hdocker : ∀ d : DockerSettings, (d.written.map Prod.fst).Nodup :=
      fun d => Toml.nodup_of_sublist (by decide) d.names_written
    have hkubernetes : ∀ k : KubernetesSettings, (k.written.map Prod.fst).Nodup :=
      fun k => Toml.nodup_of_sublist (by decide) k.names_written
    cases docker <;> cases kubernetes <;> simp [sections, htool, hdocker, hkubernetes]

/-- From the table of the sections come the settings. -/
theorem decoder_sections (s : Settings) (h : ∀ n ∈ s.tool.timeoutSeconds, n < UInt64.size) :
    decoder (sectionsTable s.sections) = .ok s := by
  have hnames : (s.sections.map fun p => (p.1, settingsTable p.2)).map Prod.fst =
      s.sections.map Prod.fst := List.map_map
  unfold sectionsTable
  rw [Toml.ofMembers_of_sublist (by decide) (hnames ▸ s.names_sections)]
  obtain ⟨platform, docker, kubernetes, tool⟩ := s
  have hplatform := platform.decoder_written
  have htool := tool.decoder_written h
  cases docker <;> cases kubernetes <;>
    simp [decoder, sections, Toml.recordOf, Toml.members, shape, Toml.Field.of, Toml.optional,
      hplatform, htool, DockerSettings.decoder_written, KubernetesSettings.decoder_written,
      Except.map]

/-- A text that gives the settings. -/
inductive Gives (env : Environment) (s : Settings) : String → Prop where
  /-- Their sections stand in it in any order. -/
  | sections {ss : List (String × List (String × Setting))} {text : List Char}
    (order : Toml.Reordered s.sections ss) (h : Toml.Sections env ss text) :
    Gives env s (String.ofList text)

/-- **Settings that are taken from the environment arrive exactly.** A text may give the sections in
any order, and in each of them the settings in any order; each text setting may stand in it as it is,
or as a placeholder between quotation marks, of a variable whose value it is. Such a value may hold
anything but quotation marks, backslashes and control characters. From the text come these settings,
and none that are not written. -/
theorem ofText_of_gives {env : Environment} {s : Settings} {text : String} (h : Gives env s text)
    (small : ∀ n ∈ s.tool.timeoutSeconds, n < UInt64.size) : ofText env text = .ok s := by
  cases h with
  | sections order h =>
    unfold ofText
    rw [String.toList_ofList, h.document_eq order s.distinct_sections]
    simp only [s.decoder_sections small]
    rfl

/-- One variable has a value that looks like a placeholder, a comment and a setting, and one has an
empty value. -/
def oddEnvironment : Environment
  | "TOOL" => some "$\x7bHOST\x7d # = 'a' [b]\x7d"
  | "HOST" => some ""
  | _ => none

open Toml Placeholder in
/-- The value that looks like a placeholder is taken as it stands, and the empty one as an empty
text. -/
theorem ofText_odd :
    ofText oddEnvironment
        ("[deployer]\nscript = \"$\x7bTOOL\x7d\"\nprogram = 'node'\n\n# users\n" ++
          "[kubernetes]\nhost = \"$\x7bHOST\x7d\"\n[backend]\nkind = 'kubernetes'") =
      .ok { platform := .kubernetes, docker := none
            kubernetes := some { host := "", clusterNamespace := none }
            tool := { program := some "node", script := "$\x7bHOST\x7d # = 'a' [b]\x7d"
                      timeoutSeconds := none } } := by
  have tool : ∀ rest, Writes oddEnvironment (.text "$\x7bHOST\x7d # = 'a' [b]\x7d")
      ('"' :: (written "TOOL".toList ++ '"' :: rest)) rest :=
    fun rest => .variable rest ⟨by decide, by decide⟩ rfl (by simp [isPlain])
  have host : ∀ rest, Writes oddEnvironment (.text "")
      ('"' :: (written "HOST".toList ++ '"' :: rest)) rest :=
    fun rest => .variable rest ⟨by decide, by decide⟩ rfl (by simp)
  have literal : ∀ value ∈ ["node", "kubernetes"], ∀ rest, Writes oddEnvironment (.text value)
      ('\'' :: (value.toList ++ '\'' :: rest)) rest := by
    intro value h rest
    refine .literal (.inr rfl) ?_ (untouched_of_notMem ?_)
    all_goals
      simp only [List.mem_cons, List.not_mem_nil, or_false] at h
      rcases h with rfl | rfl <;> simp [isPlain]
  have newline : ∀ rest, EndsLine oddEnvironment ('\n' :: rest) rest :=
    fun rest => .breaks (.lineFeed rest)
  have comment : ∀ rest, Passes oddEnvironment
      ('\n' :: '#' :: (" users".toList ++ '\n' :: rest)) rest := fun rest =>
    .lineFeed (.comment (.comment (by simp [isPlain]) (untouched_of_notMem (by decide))
      (.lineFeed _)) (.nil _))
  have kind := SettingLine.spaced (by decide : IsBare "kind") (literal "kubernetes" (by simp) _)
    (.breaks .final)
  have backend := Sections.cons (.nil _) (.tight (by decide : IsBare "backend") (newline _))
    (.cons (.nil _) kind (.nil _)) (.nil (.nil _))
  have kubernetes := Sections.cons (comment _) (.tight (by decide : IsBare "kubernetes") (newline _))
    (.cons (.nil _) (.spaced (by decide : IsBare "host") (host _) (newline _)) (.nil _)) backend
  have document := Sections.cons (.nil _) (.tight (by decide : IsBare "deployer") (newline _))
    (.cons (.nil _) (.spaced (by decide : IsBare "script") (tool _) (newline _)) (.cons (.nil _)
      (.spaced (by decide : IsBare "program") (literal "node" (by simp) _) (newline _)) (.nil _)))
    kubernetes
  refine ofText_of_gives (.sections ⟨_, .trans (.swap _ _ _) (.cons _ (.swap _ _ _)), ?_⟩ document)
    (by simp)
  exact .cons ⟨rfl, .swap _ _ _⟩ (.cons ⟨rfl, .refl _⟩ (.cons ⟨rfl, .refl _⟩ .nil))

end Settings

end ChainBroker
