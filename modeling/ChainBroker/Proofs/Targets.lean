import ChainBroker.Http
import ChainBroker.Proofs.Percent
import Mathlib.Data.Bool.AllAny
import Mathlib.Data.List.Flatten
import Mathlib.Data.List.TakeDrop
import Mathlib.Data.List.TakeWhile

/-!
# Names in targets

A server cuts the target of a request into names again (`Http.names`): what stands between the
slashes of its path, decoded.

* A target that is read as the path of a URL has lost its dots on the way, and what is behind its
  marks (`Url.names_targetOf`); each of its names is empty or comes from one part of the text
  (`Url.mem_readSegments`).
* Before that, blanks and line breaks are left out of the text (`Url.clean_containers`), and nothing
  else is (`Url.filter_trimEnd_eq_self_iff`).
* No part is longer than the text that it is cut out of, and decoding makes nothing longer. So a text
  that is put into a target is found there only if it stands for itself (`eq_of_decode_eq`,
  `isSegment_of_part`).
-/

namespace ChainBroker

open Percent (utf8)

/-! ## Cutting texts -/

namespace Text

variable {c : Char}

theorem splitAt_cons_self (c : Char) (s : List Char) : splitAt c (c :: s) = [] :: splitAt c s := by
  rw [splitAt, if_pos rfl]

theorem splitAt_cons_of_ne {d : Char} (h : d ≠ c) (s : List Char) :
    ∃ part parts, splitAt c s = part :: parts ∧ splitAt c (d :: s) = (d :: part) :: parts := by
  obtain ⟨part, parts, hs⟩ := List.exists_cons_of_ne_nil (splitAt_ne_nil c s)
  refine ⟨part, parts, hs, ?_⟩
  rw [splitAt, if_neg h, hs]

theorem splitAt_of_not_mem {s : List Char} (h : c ∉ s) : splitAt c s = [s] := by
  induction s with
  | nil => rfl
  | cons d s ih =>
    rw [List.mem_cons, not_or] at h
    obtain ⟨part, parts, hs, hcons⟩ := splitAt_cons_of_ne (Ne.symm h.1) s
    rw [ih h.2] at hs
    cases hs
    exact hcons

/-- A text is split at each of its separators. -/
theorem splitAt_append (a b : List Char) :
    splitAt c (a ++ c :: b) = splitAt c a ++ splitAt c b := by
  induction a with
  | nil => exact splitAt_cons_self c b
  | cons d a ih =>
    rw [List.cons_append]
    by_cases h : d = c
    · subst h
      rw [splitAt_cons_self, splitAt_cons_self, ih, List.cons_append]
    · obtain ⟨part, parts, hs, hcons⟩ := splitAt_cons_of_ne h a
      obtain ⟨part', parts', hs', hcons'⟩ := splitAt_cons_of_ne h (a ++ c :: b)
      rw [ih, hs] at hs'
      cases hs'
      rw [hcons, hcons']
      rfl

/-- The parts hold no separator. -/
theorem mem_splitAt {s part : List Char} (h : part ∈ splitAt c s) :
    c ∉ part ∧ part.Sublist s := by
  induction s generalizing part with
  | nil =>
    obtain rfl := List.mem_singleton.mp h
    exact ⟨List.not_mem_nil, .slnil⟩
  | cons d s ih =>
    by_cases hd : d = c
    · subst hd
      rw [splitAt_cons_self] at h
      rcases List.mem_cons.mp h with rfl | h
      · exact ⟨List.not_mem_nil, List.nil_sublist _⟩
      · exact ⟨(ih h).1, (ih h).2.cons d⟩
    · obtain ⟨first, parts, hs, hcons⟩ := splitAt_cons_of_ne hd s
      rw [hs] at ih
      rw [hcons] at h
      rcases List.mem_cons.mp h with rfl | h
      · obtain ⟨hmem, hsub⟩ := ih List.mem_cons_self
        refine ⟨?_, hsub.cons_cons d⟩
        rw [List.mem_cons, not_or]
        exact ⟨Ne.symm hd, hmem⟩
      · obtain ⟨hmem, hsub⟩ := ih (List.mem_cons_of_mem _ h)
        exact ⟨hmem, hsub.cons d⟩

/-- Parts behind marks are found again. -/
theorem splitAt_flatMap {parts : List (List Char)} (h : ∀ part ∈ parts, c ∉ part) :
    splitAt c (parts.flatMap fun part => c :: part) = [] :: parts := by
  induction parts with
  | nil => rfl
  | cons part parts ih =>
    rw [List.forall_mem_cons] at h
    rw [List.flatMap_cons, List.cons_append, splitAt_cons_self]
    -- the first part is not alone: the mark that ends it is the one before the next part
    cases parts with
    | nil => rw [List.flatMap_nil, List.append_nil, splitAt_of_not_mem h.1]
    | cons next parts =>
      have hrest := ih h.2
      rw [List.flatMap_cons, List.cons_append] at hrest ⊢
      rw [splitAt_cons_self] at hrest
      rw [splitAt_append, splitAt_of_not_mem h.1, (List.cons.inj hrest).2]
      rfl

end Text

/-! ## Names -/

namespace Http

/-- The names along the path of a target, as a server reads them: what stands between its slashes,
decoded. -/
def names (target : String) : List Bytes :=
  (Text.splitAt '/' (target.toList.takeWhile (· ≠ '?'))).map fun part => Percent.decode (utf8 part)

/-- The request is for what has these names. -/
def Request.Addresses (r : Request) (parts : List String) : Prop :=
  names r.target = parts.map Utf8.encode

end Http

namespace Url

/-- What is left of a text before the first number sign and the first question mark. -/
def beforeMarks (s : List Char) : List Char := (s.takeWhile (· ≠ '#')).takeWhile (· ≠ '?')

/-- What stands in front of the first mark is kept. -/
theorem beforeMarks_append {a : List Char} (h : ∀ c ∈ a, c ≠ '#' ∧ c ≠ '?') (b : List Char) :
    beforeMarks (a ++ b) = a ++ beforeMarks b := by
  unfold beforeMarks
  rw [List.takeWhile_append_of_pos, List.takeWhile_append_of_pos]
  · intro c hc
    simpa using (h c hc).2
  · intro c hc
    simpa using (h c hc).1

theorem beforeMarks_sublist (s : List Char) : (beforeMarks s).Sublist s :=
  (List.takeWhile_sublist _).trans (List.takeWhile_sublist _)

theorem mem_beforeMarks {c : Char} {s : List Char} (h : c ∈ beforeMarks s) : c ≠ '#' ∧ c ≠ '?' := by
  have hquestion := List.mem_takeWhile_imp h
  have hnumber := List.mem_takeWhile_imp ((List.takeWhile_sublist _).mem h)
  exact ⟨by simpa using hnumber, by simpa using hquestion⟩

theorem beforeMarks_of_forall {s : List Char} (h : ∀ c ∈ s, c ≠ '#' ∧ c ≠ '?') :
    beforeMarks s = s := by
  have happend := beforeMarks_append h []
  rw [List.append_nil] at happend
  exact happend.trans (List.append_nil s)

theorem beforeMarks_concat_question (s : List Char) : beforeMarks (s ++ ['?']) = beforeMarks s := by
  induction s with
  | nil => rfl
  | cons c s ih =>
    unfold beforeMarks at ih ⊢
    by_cases hnumber : c = '#'
    · simp [hnumber]
    · by_cases hquestion : c = '?'
      · simp [hquestion]
      · simpa [hnumber, hquestion] using ih

/-! ## Paths of URLs -/

/-- The part is read neither as one dot nor as two. -/
def IsName (part : List Char) : Prop :=
  dots (Percent.encode Percent.path part) ≠ ['.', '.'] ∧
    dots (Percent.encode Percent.path part) ≠ ['.']

/-- A segment of a path is empty or comes from one part of the text. -/
theorem mem_readSegments {parts reversed : List (List Char)} {segment : List Char}
    (h : segment ∈ readSegments reversed parts) :
    segment ∈ reversed ∨ segment = [] ∨
      ∃ part ∈ parts, IsName part ∧ segment = Percent.encode Percent.path part := by
  induction parts generalizing reversed with
  | nil => exact .inl (List.mem_reverse.mp h)
  | cons part parts ih =>
    rw [readSegments] at h
    rcases ih h with h | h | ⟨part', hpart, hname, h⟩
    · -- the part is two dots, one dot, or a name; an empty segment stands for dots at the end
      split at h
      · split at h
        · rcases List.mem_cons.mp h with h | h
          · exact .inr (.inl h)
          · exact .inl (List.mem_of_mem_drop h)
        · exact .inl (List.mem_of_mem_drop h)
      · next hparent =>
        split at h
        · split at h
          · rcases List.mem_cons.mp h with h | h
            · exact .inr (.inl h)
            · exact .inl h
          · exact .inl h
        · next hself =>
          rcases List.mem_cons.mp h with h | h
          · exact .inr (.inr ⟨part, List.mem_cons_self, ⟨hparent, hself⟩, h⟩)
          · exact .inl h
    · exact .inr (.inl h)
    · exact .inr (.inr ⟨part', List.mem_cons_of_mem _ hpart, hname, h⟩)

/-- Parts that are no dots are the segments. -/
theorem readSegments_of_isName {parts : List (List Char)} (h : ∀ part ∈ parts, IsName part)
    (reversed : List (List Char)) :
    readSegments reversed parts = reversed.reverse ++ parts.map (Percent.encode Percent.path) := by
  induction parts generalizing reversed with
  | nil => simp [readSegments]
  | cons part parts ih =>
    rw [List.forall_mem_cons] at h
    rw [readSegments]
    rw [if_neg h.1.1, if_neg h.1.2, ih h.2, List.reverse_cons, List.append_assoc]
    rfl

theorem splitSlashes_false (s : List Char) : splitSlashes false s = Text.splitAt '/' s := by
  have hmap : (s.map fun c => if isSlash false c then '/' else c) = s := by
    refine (List.map_congr_left fun c _ => ?_).trans (List.map_id s)
    by_cases h : c = '/'
    · subst h
      rfl
    · have hslash : isSlash false c = false := by simp [isSlash, h]
      rw [hslash]
      rfl
  unfold splitSlashes
  rw [hmap]

theorem path_readRest {kind : SchemeKind} {url : Path → Url} {read : List Char → Path}
    (hurl : ∀ path, (url path).path = path) (s : List Char) :
    (readRest kind url read s).path = read (beforeMarks s) := by
  unfold readRest
  rw [List.span_eq_takeWhile_dropWhile]
  cases s.dropWhile (· ≠ '#') with
  | nil =>
    simp only [List.span_eq_takeWhile_dropWhile]
    cases (s.takeWhile (· ≠ '#')).dropWhile (· ≠ '?') <;> exact hurl _
  | cons c fragment =>
    simp only [List.span_eq_takeWhile_dropWhile]
    cases (s.takeWhile (· ≠ '#')).dropWhile (· ≠ '?') <;> exact hurl _

/-- No segment that was read holds a separator or a mark. -/
theorem not_mem_segment {s segment : List Char}
    (h : segment ∈ readSegments [] (Text.splitAt '/' s)) : '/' ∉ segment ∧ '?' ∉ segment := by
  rcases mem_readSegments h with h | rfl | ⟨part, hpart, -, rfl⟩
  · cases h
  · exact ⟨List.not_mem_nil, List.not_mem_nil⟩
  · constructor
    · intro hslash
      exact (Text.mem_splitAt hpart).1 ((Percent.mem_encode_path hslash).2 rfl)
    · intro hquestion
      exact (Percent.mem_encode_path hquestion).1 rfl

theorem takeWhile_behind (query : Option (List Char)) :
    (behind '?' query).takeWhile (· ≠ '?') = [] := by
  cases query <;> rfl

/-- The names of a path that is put behind a host. -/
theorem names_targetOf {path : String} {s : List Char} (h : clean path.toList = '/' :: s) :
    Http.names (targetOf path) =
      [] :: (readSegments [] (Text.splitAt '/' (beforeMarks s))).map
        fun segment => Percent.decode (utf8 segment) := by
  have hslash : beforeMarks ('/' :: s) = '/' :: beforeMarks s :=
    beforeMarks_append (List.forall_mem_singleton.mpr (by decide)) s
  have hpath : readPath false ('/' :: beforeMarks s) =
      .segments (readSegments [] (Text.splitAt '/' (beforeMarks s))) := by
    rw [← splitSlashes_false]
    rfl
  unfold targetOf
  rw [h]
  unfold target Http.names
  rw [path_readRest (fun _ => rfl), hslash, hpath, String.toList_ofList, Path.text]
  generalize hsegments : readSegments [] (Text.splitAt '/' (beforeMarks s)) = segments
  -- the segments hold no separator, so splitting gives them back
  have hmarks : ∀ segment ∈ segments, '/' ∉ segment ∧ '?' ∉ segment := by
    rw [← hsegments]
    exact fun segment => not_mem_segment
  rw [List.takeWhile_append_of_pos, takeWhile_behind, List.append_nil,
    Text.splitAt_flatMap fun segment hsegment => (hmarks segment hsegment).1]
  · rfl
  · intro c hc
    obtain ⟨segment, hsegment, hc⟩ := List.mem_flatMap.mp hc
    rcases List.mem_cons.mp hc with rfl | hc
    · rfl
    · exact Text.forall_ne_of_notMem (hmarks segment hsegment).2 c hc

/-! ## Blanks and line breaks -/

/-- The text without the blanks at its end. -/
def trimEnd (s : List Char) : List Char := (s.reverse.dropWhile (· ≤ ' ')).reverse

/-- Whether a character is no tab and no line break. -/
def isKept (c : Char) : Bool := c != '\t' && c != '\n' && c != '\r'

theorem trimEnd_sublist (s : List Char) : (trimEnd s).Sublist s := by
  have h := (List.dropWhile_sublist (l := s.reverse) (· ≤ ' ')).reverse
  rwa [List.reverse_reverse] at h

/-- A text that does not end with a blank is left as it is. -/
theorem trimEnd_eq_self_iff {s : List Char} :
    trimEnd s = s ↔ ∀ c, s.getLast? = some c → ¬c ≤ ' ' := by
  have hlast : s.getLast? = s.reverse.head? := List.head?_reverse.symm
  rw [hlast, trimEnd, List.reverse_eq_iff]
  cases s.reverse with
  | nil => simp
  | cons c r =>
    rw [List.head?_cons]
    by_cases h : c ≤ ' '
    · rw [List.dropWhile_cons_of_pos (by simpa using h)]
      refine iff_of_false ?_ fun hc => hc c rfl h
      intro heq
      have hlength := (List.dropWhile_sublist (l := r) (· ≤ ' ')).length_le
      rw [heq, List.length_cons] at hlength
      omega
    · rw [List.dropWhile_cons_of_neg (by simpa using h)]
      refine iff_of_true rfl ?_
      rintro _ ⟨⟩
      exact h

/-- Nothing is left out of a text exactly if there are no tabs and line breaks in it, and no blanks
at its end. -/
theorem filter_trimEnd_eq_self_iff {s : List Char} :
    (trimEnd s).filter isKept = s ↔
      (∀ c ∈ s, isKept c = true) ∧ ∀ c, s.getLast? = some c → ¬c ≤ ' ' := by
  rw [← trimEnd_eq_self_iff, ← List.filter_eq_self]
  constructor
  · intro h
    -- the filter cannot make up for what has been trimmed
    have htrim : trimEnd s = s := by
      refine (trimEnd_sublist s).eq_of_length_le ?_
      conv_lhs => rw [← h]
      exact List.length_filter_le _ _
    rw [htrim] at h
    exact ⟨h, htrim⟩
  · rintro ⟨hfilter, htrim⟩
    rw [htrim, hfilter]

theorem trimEnd_append {a : List Char} (h : trimEnd a = a) (s : List Char) :
    trimEnd (a ++ s) = a ++ trimEnd s := by
  have ha : a.reverse.dropWhile (· ≤ ' ') = a.reverse := List.reverse_eq_iff.mp h
  unfold trimEnd
  rw [List.reverse_append, List.dropWhile_append]
  split
  · next hempty =>
    rw [ha, List.isEmpty_iff.mp hempty, List.reverse_reverse, List.reverse_nil, List.append_nil]
  · rw [List.reverse_append, List.reverse_reverse]

/-- What is left of the path of a container: only its end is trimmed. -/
theorem clean_containers (s : List Char) :
    clean ("/containers/".toList ++ s) = "/containers/".toList ++ (trimEnd s).filter isKept := by
  have hfront : ("/containers/".toList ++ s).dropWhile (fun c => decide (c ≤ ' ')) =
      "/containers/".toList ++ s := rfl
  show (trimEnd (("/containers/".toList ++ s).dropWhile _)).filter isKept = _
  rw [hfront, trimEnd_append rfl, List.filter_append]
  rfl

end Url

/-! ## Texts that stand for themselves -/

open Percent in
/-- Texts with the same bytes are the same. -/
theorem utf8_inj {s t : List Char} : utf8 s = utf8 t ↔ s = t := by
  constructor
  · intro h
    have hencode : Utf8.encode (String.ofList s) = Utf8.encode (String.ofList t) := by
      unfold Utf8.encode
      rwa [String.toList_ofList, String.toList_ofList]
    have hlist := congrArg String.toList (Utf8.encode_inj.mp hencode)
    rwa [String.toList_ofList, String.toList_ofList] at hlist
  · rintro rfl
    rfl

/-- Only the whole of a text can be decoded to it. -/
theorem eq_of_decode_eq {part s : List Char} (hsub : part.Sublist s)
    (h : Percent.decode (utf8 part) = utf8 s) : part = s := by
  have hbytes : (utf8 part).Sublist (utf8 s) := hsub.flatMap _
  refine utf8_inj.mp (hbytes.eq_of_length_le ?_)
  rw [← h]
  exact Percent.length_decode_le _

/-- A text that is read from a path as it stands there. -/
structure IsSegment (s : String) : Prop where
  /-- Nothing in it ends a segment or a path. -/
  unmarked : ∀ c ∈ s.toList, c ≠ '/' ∧ c ≠ '#' ∧ c ≠ '?'
  /-- There are no escapes in it. -/
  undecoded : Percent.decode (Utf8.encode s) = Utf8.encode s

theorem ne_of_isAlphanum {c d : Char} (hc : c.isAlphanum = true) (hd : d.isAlphanum = false) :
    c ≠ d := by
  rintro rfl
  rw [hc] at hd
  cases hd

/-- Letters and digits stand for themselves. -/
theorem IsSegment.of_isAlphanum {s : String} (h : s.toList.all Char.isAlphanum = true) :
    IsSegment s := by
  rw [List.all_eq_true] at h
  refine ⟨?_, Percent.decode_utf8_of_not_mem ?_⟩
  · intro c hc
    exact ⟨ne_of_isAlphanum (h c hc) rfl, ne_of_isAlphanum (h c hc) rfl,
      ne_of_isAlphanum (h c hc) rfl⟩
  · intro hpercent
    exact ne_of_isAlphanum (h _ hpercent) rfl rfl

/-- A part that is decoded to a text, if the text has become it before the marks. -/
theorem isSegment_of_part {s : String} {text part : List Char} (hsub : text.Sublist s.toList)
    (hpart : part ∈ Text.splitAt '/' (Url.beforeMarks text))
    (h : Percent.decode (utf8 part) = Utf8.encode s) : text = s.toList ∧ IsSegment s := by
  obtain ⟨hslash, hpartSub⟩ := Text.mem_splitAt hpart
  have hmarks := Url.beforeMarks_sublist text
  -- each step to the part leaves something out or nothing, and in the end nothing is missing
  have heq : part = s.toList := eq_of_decode_eq (hpartSub.trans (hmarks.trans hsub)) h
  subst heq
  have hbefore : Url.beforeMarks text = s.toList :=
    (hmarks.trans hsub).eq_of_length_le hpartSub.length_le
  refine ⟨hsub.eq_of_length_le (hpartSub.trans hmarks).length_le, ?_, h⟩
  intro c hc
  refine ⟨?_, Url.mem_beforeMarks (hbefore ▸ hc)⟩
  rintro rfl
  exact hslash hc

theorem IsSegment.beforeMarks_eq {s : String} (h : IsSegment s) :
    Url.beforeMarks s.toList = s.toList :=
  Url.beforeMarks_of_forall fun c hc => (h.unmarked c hc).2

theorem IsSegment.splitAt_eq {s : String} (h : IsSegment s) :
    Text.splitAt '/' s.toList = [s.toList] :=
  Text.splitAt_of_not_mem fun hslash => (h.unmarked '/' hslash).1 rfl

end ChainBroker
