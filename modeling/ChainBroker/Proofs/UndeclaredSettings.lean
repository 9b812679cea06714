import ChainBroker.Proofs.TomlDocument
import ChainBroker.Proofs.WrittenSettings

/-!
# Settings that are not declared

What a document says is taken from it by name. A member of a record that is no field of its shape is
refused if the shape is closed (`Toml.members_of_unknown`), and passed over if it is not
(`Toml.members_filter`).

The shape of a whole document is closed, so a section that is not declared makes the document
unreadable. The shapes of its sections are not: a setting that is not declared in its section, such
as a misspelled one, is no different from one that is left out (`Settings.ofText_undeclared`).
-/

namespace ChainBroker

namespace Toml

variable {σ : Type} {shape : Shape σ} {name : String}

theorem find?_fields_eq_none_iff :
    shape.fields.find? (·.name == name) = none ↔ name ∉ shape.fields.map Field.name := by
  rw [List.find?_eq_none, List.mem_map]
  constructor
  · rintro h ⟨field, hfield, rfl⟩
    exact h field hfield (beq_self_eq_true _)
  · intro h field hfield hname
    exact h ⟨field, hfield, beq_iff_eq.mp hname⟩

variable (shape) in
/-- A closed record has no members but its fields, whatever the other members are. -/
theorem members_of_unknown (closed : shape.closed = true)
    (unknown : name ∉ shape.fields.map Field.name) {ms : List (String × Toml)}
    (h : name ∈ ms.map Prod.fst) (draft : σ) :
    ∃ misfit, members shape draft ms = .error misfit := by
  induction ms generalizing draft with
  | nil => simp at h
  | cons m ms ih =>
    obtain ⟨first, v⟩ := m
    unfold members
    cases hfind : shape.fields.find? (·.name == first) with
    | none =>
      simp only [closed, if_true]
      exact ⟨_, rfl⟩
    | some field =>
      cases hdecode : field.decode draft v with
      | error misfit => exact ⟨misfit, by simp only [hdecode]⟩
      | ok draft =>
        simp only [hdecode]
        rcases List.mem_cons.mp h with rfl | h
        · rw [find?_fields_eq_none_iff.mpr unknown] at hfind
          cases hfind
        · exact ih h draft

/-- An open record is what its fields make it. -/
theorem members_filter (opened : shape.closed = false) (draft : σ) (ms : List (String × Toml)) :
    members shape draft (ms.filter fun m => m.1 ∈ shape.fields.map Field.name) =
      members shape draft ms := by
  induction ms generalizing draft with
  | nil => rfl
  | cons m ms ih =>
    obtain ⟨first, v⟩ := m
    by_cases known : first ∈ shape.fields.map Field.name
    · rw [List.filter_cons_of_pos (by simpa using known)]
      unfold members
      simp only [ih]
    · rw [List.filter_cons_of_neg (by simpa using known), ih]
      conv_rhs => unfold members
      simp only [find?_fields_eq_none_iff.mpr known, opened, Bool.false_eq_true, if_false]

/-- Members that are decoded alike make the same record. -/
theorem members_map {change : String → Toml → Toml}
    (h : ∀ field ∈ shape.fields, ∀ draft v,
      field.decode draft (change field.name v) = field.decode draft v)
    (draft : σ) (ms : List (String × Toml)) :
    members shape draft (ms.map fun m => (m.1, change m.1 m.2)) = members shape draft ms := by
  induction ms generalizing draft with
  | nil => rfl
  | cons m ms ih =>
    obtain ⟨first, v⟩ := m
    rw [List.map_cons]
    unfold members
    cases hfind : shape.fields.find? (·.name == first) with
    | none => simp only [ih]
    | some field =>
      have hname : (field.name == first) = true :=
        List.find?_some (p := fun field : Field σ => field.name == first) hfind
      obtain rfl := beq_iff_eq.mp hname
      simp only [h field (List.mem_of_find?_eq_some hfind), ih]

/-- The value without the members that have other names. -/
def keep (known : List String) : Toml → Toml
  | .table ms => .table (ms.filter fun m => m.1 ∈ known)
  | v => v

variable (shape) in
theorem recordOf_keep (opened : shape.closed = false) (blank : σ) (v : Toml) :
    recordOf shape blank (v.keep (shape.fields.map Field.name)) = recordOf shape blank v := by
  cases v with
  | table ms => exact members_filter opened blank ms
  | _ => rfl

end Toml

/-! ## Sections -/

theorem PlatformKind.decoder_keep (v : Toml) : decoder (v.keep ["kind"]) = decoder v :=
  congrArg (Except.map _) (Toml.recordOf_keep shape rfl none v)

theorem DockerSettings.decoder_keep (v : Toml) :
    decoder (v.keep ["internal_address", "external_address"]) = decoder v :=
  congrArg (Except.map _) (Toml.recordOf_keep shape rfl {} v)

theorem KubernetesSettings.decoder_keep (v : Toml) :
    decoder (v.keep ["host", "namespace"]) = decoder v :=
  congrArg (Except.map _) (Toml.recordOf_keep shape rfl {} v)

theorem ToolSettings.decoder_keep (v : Toml) :
    decoder (v.keep ["program", "script", "timeout_seconds"]) = decoder v :=
  congrArg (Except.map _) (Toml.recordOf_keep shape rfl {} v)

/-! ## Documents -/

namespace Settings

/-- The sections of a document, each with the settings that are declared for it. -/
def declared : List (String × List String) :=
  [("backend", ["kind"]), ("docker", ["internal_address", "external_address"]),
    ("kubernetes", ["host", "namespace"]),
    ("deployer", ["program", "script", "timeout_seconds"])]

/-- The section of a name without the settings that are not declared for it. -/
def keepDeclared (name : String) (v : Toml) : Toml :=
  match declared.lookup name with
  | some known => v.keep known
  | none => v

/-- The document without the settings that are not declared for their sections. -/
def withoutUndeclared : Toml → Toml
  | .table sections => .table (sections.map fun s => (s.1, keepDeclared s.1 s.2))
  | v => v

theorem decode_keepDeclared : ∀ field ∈ shape.fields, ∀ draft v,
    field.decode draft (keepDeclared field.name v) = field.decode draft v := by
  simp only [shape, List.forall_mem_cons]
  refine ⟨fun draft v => ?_, fun draft v => ?_, fun draft v => ?_, fun draft v => ?_,
    List.forall_mem_nil _⟩
  · exact congrArg (Except.map _) (PlatformKind.decoder_keep v)
  · exact congrArg (Except.map _) (congrArg (Except.map some) (DockerSettings.decoder_keep v))
  · exact congrArg (Except.map _) (congrArg (Except.map some) (KubernetesSettings.decoder_keep v))
  · exact congrArg (Except.map _) (ToolSettings.decoder_keep v)

/-- The settings of a document are those that are declared. -/
theorem decoder_withoutUndeclared (document : Toml) :
    decoder (withoutUndeclared document) = decoder document := by
  unfold decoder
  cases document with
  | table sections => exact congrArg _ (Toml.members_map decode_keepDeclared {} sections)
  | _ => rfl

/-- A document with a section that is not declared holds no settings. -/
theorem decoder_of_undeclared {name : String} {document : Toml} (h : name ∈ document.names)
    (undeclared : name ∉ declared.map Prod.fst) : ∃ misfit, decoder document = .error misfit := by
  cases document with
  | table sections =>
    obtain ⟨misfit, hmembers⟩ := Toml.members_of_unknown shape rfl undeclared h {}
    exact ⟨misfit, congrArg (Except.map _) hmembers⟩
  | _ => simp [Toml.names] at h

/-- **A section that is not declared makes a document unreadable, whatever else the document holds,
and a setting that is not declared for its section is passed over**: a document is refused for such
settings only if it is refused without them, for it comes to the same settings, or to the same
failure, as every document that differs from it in nothing but such settings. -/
theorem ofText_undeclared (env : String → Option String) (text : String) :
    (∀ lines,
      Toml.lines (Toml.skipMark (Placeholder.substitute env text.toList)) = some lines →
      ∀ name ∈ (Toml.Document.ofLines lines).names, name ∉ declared.map Prod.fst →
        ∃ reason, ofText env text = .error (unreadable reason)) ∧
    ∀ document, Toml.document (Placeholder.substitute env text.toList) = some document →
      ∀ env' text' document',
        Toml.document (Placeholder.substitute env' text'.toList) = some document' →
        withoutUndeclared document' = withoutUndeclared document →
        ofText env' text' = ofText env text := by
  constructor
  · intro lines hlines name hname undeclared
    have hdocument : Toml.document (Placeholder.substitute env text.toList) =
        (Toml.Document.ofLines lines).value? := by
      unfold Toml.document
      rw [hlines]
      rfl
    unfold ofText
    rw [hdocument]
    -- lines that make no table are unreadable anyway
    cases hvalue : (Toml.Document.ofLines lines).value? with
    | none => exact ⟨_, rfl⟩
    | some document =>
      obtain ⟨misfit, hdecode⟩ :=
        decoder_of_undeclared ((Toml.mem_names_value?_iff hvalue).mpr hname) undeclared
      simp only [hdecode]
      exact ⟨misfit.message, rfl⟩
  · intro document h env' text' document' h' heq
    unfold ofText
    rw [h, h']
    simp only
    rw [← decoder_withoutUndeclared document', heq, decoder_withoutUndeclared document]

/-- The least that a configuration can say. -/
def plainText : String := "[deployer]\nscript = \"pusher.js\""

/-- The same with a setting whose name is misspelled. -/
def misspelledText : String := plainText ++ "\ntimeout = 5"

open Toml in
/-- The table of a section of the tool whose settings stand in the order of their names. -/
theorem sectionsTable_deployer {ps : List (String × Setting)}
    (h : (ps.map Prod.fst).Sublist ["program", "script", "timeout"]) :
    sectionsTable [("deployer", ps)] =
      .table [("deployer", .table (ps.map fun p => (p.1, p.2.value)))] := by
  have alone : ([("deployer", settingsTable ps)].map Prod.fst).Sublist ["deployer"] := .refl _
  unfold sectionsTable
  rw [List.map_singleton, ofMembers_of_sublist (by decide) alone,
    settingsTable_of_sublist (by decide) h]

open Toml in
/-- The misspelled setting is passed over, and the section of a broker is refused. -/
theorem misspelled_passed_over :
    (ofText (fun _ => none) misspelledText = ofText (fun _ => none) plainText ∧
      ofText (fun _ => none) plainText = .ok ⟨.docker, none, none, ⟨none, "pusher.js", none⟩⟩) ∧
    ∃ reason, ofText (fun _ => none) "[broker]" = .error (unreadable reason) := by
  have script : ∀ rest, Writes (fun _ => none) (.text "pusher.js")
      ('"' :: ("pusher.js".toList ++ '"' :: rest)) rest := fun rest =>
    .literal (.inl rfl) (by simp [isPlain]) (Placeholder.untouched_of_notMem (by decide))
  have seconds : Writes (fun _ => none) (.number 5) ("5".toList ++ []) [] :=
    .number [] ⟨by decide, List.all_eq_true.mp (by decide), by decide, by decide⟩
  have deployer : IsBare "deployer" := by decide
  have named : IsBare "script" := by decide
  have timeout := SettingLine.spaced (by decide : IsBare "timeout") seconds (.breaks .final)
  have plain := Sections.cons (.nil _) (.tight deployer (.breaks (.lineFeed _)))
    (.cons (.nil _) (.spaced named (script []) (.breaks .final)) (.nil _)) (.nil (.nil _))
  have typo := Sections.cons (.nil _) (.tight deployer (.breaks (.lineFeed _)))
    (.cons (.nil _) (.spaced named (script _) (.breaks (.lineFeed _)))
      (.cons (.nil _) timeout (.nil _)))
    (.nil (.nil _))
  have strange : Sections (fun _ => none) [("broker", [])] "[broker]".toList :=
    .cons (.nil _) (.tight (by decide : IsBare "broker") (.breaks .final)) (.nil _) (.nil (.nil _))
  have hplain : document (Placeholder.substitute (fun _ => none) plainText.toList) =
      some (.table [("deployer", .table [("script", .text "pusher.js")])]) :=
    (plain.document_eq ⟨_, .refl _, .cons ⟨rfl, .refl _⟩ .nil⟩ ⟨by simp, by simp⟩).trans
      (congrArg some (sectionsTable_deployer (by decide)))
  have htypo : document (Placeholder.substitute (fun _ => none) misspelledText.toList) =
      some (.table [("deployer", .table [("script", .text "pusher.js"),
        ("timeout", .integer 5)])]) :=
    (typo.document_eq ⟨_, .refl _, .cons ⟨rfl, .refl _⟩ .nil⟩ ⟨by simp, by simp⟩).trans
      (congrArg some (sectionsTable_deployer (by decide)))
  have hstrange := strange.lines_eq
  rw [← strange.skipMark_eq] at hstrange
  exact ⟨⟨(ofText_undeclared _ _).2 _ hplain _ _ _ htypo rfl, by decide +kernel⟩,
    (ofText_undeclared _ _).1 _ hstrange "broker" (by decide) (by decide)⟩

end Settings

end ChainBroker
