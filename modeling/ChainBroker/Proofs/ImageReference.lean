import ChainBroker.Image
import ChainBroker.Text.Split
import Mathlib.Data.List.TakeDrop
import Mathlib.Data.List.TakeWhile

/-!
# What image references denote

A reference is cut at its last colon, if no slash stands behind it (`Image.denotes_ofReference`). So
nothing of the reference is lost (`Image.Denotes.rejoined`), a colon in front of a slash is never
taken for the start of a tag (`Image.Denotes.path_prefix`), and the name and the tag joined by a
colon denote the same image again (`Image.ofReference_joined`).
-/

namespace ChainBroker.Image

variable {c : Char} {s before after name tag : List Char}

/-! ## The last occurrence of a character -/

theorem splitAtLast?_append (h : c ∉ after) :
    splitAtLast? c (before ++ c :: after) = some (before, after) := by
  have hafter : ∀ d ∈ after.reverse, decide (d ≠ c) = true := fun d hd =>
    Text.forall_ne_of_notMem h d (List.mem_reverse.mp hd)
  have hreverse : (before ++ c :: after).reverse = after.reverse ++ c :: before.reverse := by simp
  unfold splitAtLast?
  rw [hreverse, List.span_eq_takeWhile_dropWhile, List.takeWhile_append_of_pos hafter,
    List.dropWhile_append_of_pos hafter]
  simp

theorem splitAtLast?_of_notMem (h : c ∉ s) : splitAtLast? c s = none := by
  have hreverse : ∀ d ∈ s.reverse, decide (d ≠ c) = true := fun d hd =>
    Text.forall_ne_of_notMem h d (List.mem_reverse.mp hd)
  unfold splitAtLast?
  rw [List.span_eq_takeWhile_dropWhile, List.dropWhile_eq_nil_iff.mpr hreverse]

theorem exists_last (h : c ∈ s) : ∃ before after, s = before ++ c :: after ∧ c ∉ after := by
  obtain ⟨before, after, hs, hbefore⟩ := List.eq_append_cons_of_mem (List.mem_reverse.mpr h)
  refine ⟨after.reverse, before.reverse, ?_, fun hc => hbefore (List.mem_reverse.mp hc)⟩
  rw [← s.reverse_reverse, hs]
  simp

/-! ## The path of a reference -/

/-- The path ends at the last slash. -/
theorem splitPath_slash {path base : List Char} (h : '/' ∉ base) :
    splitPath (path ++ '/' :: base) = (path ++ ['/'], base) := by
  unfold splitPath
  rw [splitAtLast?_append h]

theorem splitPath_of_notMem (h : '/' ∉ s) : splitPath s = ([], s) := by
  unfold splitPath
  rw [splitAtLast?_of_notMem h]

/-- What is appended without a slash is appended behind the path. -/
theorem splitPath_append (s : List Char) (h : '/' ∉ after) :
    splitPath (s ++ after) = ((splitPath s).1, (splitPath s).2 ++ after) := by
  by_cases hs : '/' ∈ s
  · obtain ⟨path, base, rfl, hbase⟩ := exists_last hs
    rw [List.append_assoc, List.cons_append, splitPath_slash hbase,
      splitPath_slash (by simp [hbase, h])]
  · rw [splitPath_of_notMem hs, splitPath_of_notMem (by simp [hs, h])]

theorem splitPath_fst_append_snd (s : List Char) : (splitPath s).1 ++ (splitPath s).2 = s := by
  by_cases hs : '/' ∈ s
  · obtain ⟨path, base, rfl, hbase⟩ := exists_last hs
    rw [splitPath_slash hbase]
    simp
  · rw [splitPath_of_notMem hs]
    rfl

theorem slash_notMem_splitPath_snd (s : List Char) : '/' ∉ (splitPath s).2 := by
  by_cases hs : '/' ∈ s
  · obtain ⟨path, base, rfl, hbase⟩ := exists_last hs
    rwa [splitPath_slash hbase]
  · rwa [splitPath_of_notMem hs]

/-! ## Names and tags -/

theorem ofReference_digest {reference : String} (h : '@' ∈ reference.toList) :
    ofReference reference = ⟨reference, ""⟩ := by
  unfold ofReference
  exact if_pos h

/-- The tag stands behind the last colon, if there is no slash in it. -/
theorem ofReference_tagged (digestless : '@' ∉ name ++ ':' :: tag) (slash : '/' ∉ tag)
    (colon : ':' ∉ tag) :
    ofReference (String.ofList (name ++ ':' :: tag)) =
      ⟨String.ofList name, if tag = [] then "latest" else String.ofList tag⟩ := by
  have hpath : splitPath (name ++ ':' :: tag) = _ := splitPath_append name (by simp [slash])
  unfold ofReference
  simp only [String.toList_ofList]
  rw [if_neg digestless, hpath, splitAtLast?_append colon]
  simp only [splitPath_fst_append_snd]

/-- Where no colon stands behind the path there is no tag. -/
theorem ofReference_untagged {reference : String} (digestless : '@' ∉ reference.toList)
    (colon : ':' ∉ (splitPath reference.toList).2) :
    ofReference reference = ⟨reference, "latest"⟩ := by
  unfold ofReference
  simp only
  rw [if_neg digestless, splitAtLast?_of_notMem colon]

/-- What a reference without an at sign denotes. -/
inductive Denotes (s : List Char) : Image → Prop where
  /-- There is a tag behind the last colon. -/
  | tagged {name tag : List Char} (cut : s = name ++ ':' :: tag) (nonempty : tag ≠ [])
    (slash : '/' ∉ tag) (colon : ':' ∉ tag) : Denotes s ⟨String.ofList name, String.ofList tag⟩
  /-- There is nothing behind the last colon. -/
  | unfinished {name : List Char} (cut : s = name ++ [':']) :
    Denotes s ⟨String.ofList name, "latest"⟩
  /-- There is no colon behind the path. -/
  | untagged : Denotes s ⟨String.ofList s, "latest"⟩

theorem denotes_ofReference {reference : String} (digestless : '@' ∉ reference.toList) :
    Denotes reference.toList (ofReference reference) := by
  by_cases hcolon : ':' ∈ (splitPath reference.toList).2
  · obtain ⟨base, tag, hbase, colon⟩ := exists_last hcolon
    have slash := slash_notMem_splitPath_snd reference.toList
    rw [hbase, List.mem_append, List.mem_cons, not_or, not_or] at slash
    have hcut : reference.toList = ((splitPath reference.toList).1 ++ base) ++ ':' :: tag := by
      rw [List.append_assoc, ← hbase, splitPath_fst_append_snd]
    generalize (splitPath reference.toList).1 ++ base = name at hcut
    have hreference := ofReference_tagged (hcut ▸ digestless) slash.2.2 colon
    rw [← hcut, String.ofList_toList] at hreference
    rw [hreference]
    split
    · next hnil =>
      subst hnil
      exact .unfinished hcut
    · next nonempty => exact .tagged hcut nonempty slash.2.2 colon
  · rw [ofReference_untagged digestless hcolon]
    have huntagged := Denotes.untagged (s := reference.toList)
    rwa [String.ofList_toList] at huntagged

/-! ## What is kept of a reference -/

/-- A path lies in front of everything that is appended without a slash. -/
theorem path_prefix_of_append {path : List Char} (h : path ++ ['/'] <+: name ++ after)
    (slash : '/' ∉ after) : path ++ ['/'] <+: name := by
  rcases List.prefix_or_prefix_of_prefix h (List.prefix_append name after) with h' | h'
  · exact h'
  · rcases List.prefix_concat_iff.mp h' with rfl | ⟨rest, rfl⟩
    · exact List.prefix_refl _
    · -- the slash would stand in what is appended
      rw [List.append_assoc] at h
      obtain ⟨rest', hrest⟩ := (List.prefix_append_right_inj name).mp h
      rw [← hrest] at slash
      simp at slash

variable {image : Image}

/-- The text can stand behind the colon of a reference as its tag. -/
def IsTag (text : String) : Prop := text ≠ "" ∧ '/' ∉ text.toList ∧ ':' ∉ text.toList

theorem isTag_latest : IsTag "latest" := by
  unfold IsTag
  decide

theorem Denotes.isTag (h : Denotes s image) : IsTag image.tag := by
  cases h with
  | tagged cut nonempty slash colon =>
    unfold IsTag
    rw [String.toList_ofList]
    refine ⟨fun h => nonempty ?_, slash, colon⟩
    simpa using congrArg String.toList h
  | unfinished | untagged => exact isTag_latest

theorem Denotes.rejoined (h : Denotes s image) :
    image.name ++ ":" ++ image.tag = String.ofList s ∨
      image.tag = "latest" ∧
        (String.ofList s = image.name ∨ String.ofList s = image.name ++ ":") := by
  cases h with
  | tagged cut => exact .inl (String.toList_injective (by simp [cut]))
  | unfinished cut => exact .inr ⟨rfl, .inr (String.toList_injective (by simp [cut]))⟩
  | untagged => exact .inr ⟨rfl, .inl rfl⟩

theorem Denotes.path_prefix (h : Denotes s image) {path : List Char} (hpath : path ++ ['/'] <+: s) :
    path ++ ['/'] <+: image.name.toList := by
  cases h with
  | tagged cut nonempty slash colon =>
    subst cut
    rw [String.toList_ofList]
    exact path_prefix_of_append hpath (by simp [slash])
  | unfinished cut =>
    subst cut
    rw [String.toList_ofList]
    exact path_prefix_of_append hpath (by decide)
  | untagged => rwa [String.toList_ofList]

theorem Denotes.digestless (h : Denotes s image) (digestless : '@' ∉ s) :
    '@' ∉ image.name.toList ++ ':' :: image.tag.toList := by
  cases h with
  | tagged cut => simpa [cut] using digestless
  | unfinished cut =>
    rw [cut, List.mem_append, not_or] at digestless
    simp [digestless.1]
  | untagged => simp [digestless]

/-- A name and a tag, joined by a colon, denote the image of this name and this tag. -/
theorem ofReference_joined (digestless : '@' ∉ image.name.toList ++ ':' :: image.tag.toList)
    (isTag : IsTag image.tag) :
    ofReference (image.name ++ ":" ++ image.tag) = image := by
  obtain ⟨nonempty, slash, colon⟩ := isTag
  have hjoined : image.name ++ ":" ++ image.tag =
      String.ofList (image.name.toList ++ ':' :: image.tag.toList) :=
    String.toList_injective (by simp)
  rw [hjoined, ofReference_tagged digestless slash colon, if_neg (by simpa using nonempty)]
  simp

/-- **Image references are cut without loss.** A digest is left as it is. Any other reference has a
tag, which is a tag of the reference or else `latest`, and holds neither slashes nor colons; the
name and the tag make up the reference, but for what stands for a tag that is not given. The name
has all paths of the reference. Joined by a colon, the name and the tag denote the same image. -/
theorem ofReference_lossless (reference : String) :
    ('@' ∈ reference.toList → ofReference reference = ⟨reference, ""⟩) ∧
    ('@' ∉ reference.toList →
      let image := ofReference reference
      IsTag image.tag ∧
      (image.name ++ ":" ++ image.tag = reference ∨
        image.tag = "latest" ∧ (reference = image.name ∨ reference = image.name ++ ":")) ∧
      (∀ path, path ++ ['/'] <+: reference.toList → path ++ ['/'] <+: image.name.toList) ∧
      ofReference (image.name ++ ":" ++ image.tag) = image) := by
  refine ⟨ofReference_digest, fun digestless => ?_⟩
  intro image
  have denotes : Denotes reference.toList image := denotes_ofReference digestless
  refine ⟨denotes.isTag, ?_, fun path => denotes.path_prefix, ?_⟩
  · have hrejoined := denotes.rejoined
    rwa [String.ofList_toList] at hrejoined
  · exact ofReference_joined (denotes.digestless digestless) denotes.isTag

/-- The port of a registry is no tag. -/
theorem registry_port_kept :
    ofReference "localhost:5000/geth" = ⟨"localhost:5000/geth", "latest"⟩ ∧
      ofReference "localhost:5000/geth:latest" = ⟨"localhost:5000/geth", "latest"⟩ ∧
      ofReference "geth@sha256:abcd" = ⟨"geth@sha256:abcd", ""⟩ := by
  have hport : ofReference "localhost:5000/geth" = ⟨"localhost:5000/geth", "latest"⟩ := by
    decide +kernel
  obtain ⟨-, -, -, hagain⟩ := (ofReference_lossless "localhost:5000/geth").2 (by decide)
  rw [hport] at hagain
  exact ⟨hport, hagain, (ofReference_lossless "geth@sha256:abcd").1 (by decide)⟩

end ChainBroker.Image
