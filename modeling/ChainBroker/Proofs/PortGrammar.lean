import ChainBroker.Proofs.Port
import Mathlib.Data.List.DropRight
import Mathlib.Data.List.Forall2

/-!
# The grammar of ports

Which texts denote a port is said here without reading them: blanks may stand around the text, a
slash ends the number, the number is made of decimal digits after an optional plus sign, and the
protocol is its name in letters of either case.

1. Each step of the reading is exact: trimming (`Text.trimmed_iff`), the cut at the first slash
   (`Port.parts_iff`), the number (`Port.number?_eq_some_iff`) and the protocol
   (`Protocol.ofName?_eq_some_iff`).
2. A text is made of two parts in exactly one way, and what is read is settled by the parts
   (`Port.ConsistsOf.read`).
3. The key of a port is one of its texts, so ports are the same exactly if their keys are
   (`Port.key_inj`).
-/

namespace ChainBroker

/-! ## Blanks around a text -/

namespace Text

/-- The second text is the first one without the blanks around it. -/
structure Trimmed (s t : List Char) : Prop where
  /-- Only blanks are left out, at the start and at the end. -/
  around : ∃ before after, s = before ++ t ++ after ∧ (∀ c ∈ before, isBlank c = true) ∧
    ∀ c ∈ after, isBlank c = true
  /-- No blank is left at the start. -/
  first : ∀ c ∈ t.head?, isBlank c = false
  /-- No blank is left at the end. -/
  last : ∀ c ∈ t.getLast?, isBlank c = false

/-- Blanks are dropped up to the first character that is none. -/
theorem dropWhile_blanks_append {blanks rest : List Char} (h : ∀ c ∈ blanks, isBlank c = true)
    (first : ∀ c ∈ rest.head?, isBlank c = false) :
    (blanks ++ rest).dropWhile isBlank = rest := by
  rw [List.dropWhile_append_of_pos h]
  cases rest with
  | nil => rfl
  | cons c rest => exact List.dropWhile_cons_of_neg (by simp [first c rfl])

theorem isBlank_head?_dropWhile (s : List Char) :
    ∀ c ∈ (s.dropWhile isBlank).head?, isBlank c = false := by
  intro c hc
  have hhead := List.head?_dropWhile_not isBlank s
  rw [Option.mem_def.mp hc] at hhead
  exact hhead

theorem Trimmed.trim_eq {s t : List Char} (h : Trimmed s t) : trim s = t := by
  obtain ⟨before, after, rfl, hbefore, hafter⟩ := h.around
  have hreverse : ∀ c ∈ after.reverse, isBlank c = true := fun c hc =>
    hafter c (List.mem_reverse.mp hc)
  have hstart : (before ++ t ++ after).dropWhile isBlank = t ++ after ∨ t = [] := by
    cases t with
    | nil => exact .inr rfl
    | cons c t =>
      rw [List.append_assoc]
      exact .inl (dropWhile_blanks_append hbefore h.first)
  unfold trim
  rcases hstart with hstart | rfl
  · rw [hstart, List.reverse_append, dropWhile_blanks_append hreverse, List.reverse_reverse]
    rw [List.head?_reverse]
    exact h.last
  · -- where nothing is left, the blanks are all dropped from the start
    rw [List.append_nil, List.dropWhile_append_of_pos hbefore, List.dropWhile_eq_nil_iff.mpr hafter]
    rfl

theorem trimmed_trim (s : List Char) : Trimmed s (trim s) where
  around := by
    let u := s.dropWhile isBlank
    refine ⟨s.takeWhile isBlank, (u.reverse.takeWhile isBlank).reverse, ?_, ?_, ?_⟩
    · have hend : trim s ++ (u.reverse.takeWhile isBlank).reverse = u := by
        unfold trim
        rw [← List.reverse_append, List.takeWhile_append_dropWhile, List.reverse_reverse]
      rw [List.append_assoc, hend, List.takeWhile_append_dropWhile]
    · exact fun c hc => List.mem_takeWhile_imp hc
    · exact fun c hc => List.mem_takeWhile_imp (List.mem_reverse.mp hc)
  first := by
    intro c hc
    -- what is dropped at the end leaves the start as it is
    obtain ⟨rest, hrest⟩ : trim s <+: s.dropWhile isBlank := List.rdropWhile_prefix isBlank _
    refine isBlank_head?_dropWhile s c ?_
    rw [← hrest, List.head?_append, Option.mem_def.mp hc]
    rfl
  last := by
    intro c hc
    unfold trim at hc
    rw [List.getLast?_reverse] at hc
    exact isBlank_head?_dropWhile _ c hc

/-- There is one way to take the blanks off a text. -/
theorem trimmed_iff {s t : List Char} : Trimmed s t ↔ trim s = t := by
  constructor
  · exact Trimmed.trim_eq
  · rintro rfl
    exact trimmed_trim s

end Text

/-! ## Protocols -/

/-- The character is the letter in lower or in upper case. -/
def IsLetter (c letter : Char) : Prop := c = letter ∨ c = letter.toUpper

/-- Only capitals have another character as their lower case. -/
theorem toNat_toLower (c : Char) :
    c.toLower.toNat = if 65 ≤ c.toNat ∧ c.toNat ≤ 90 then c.toNat + 32 else c.toNat := by
  have hupper : 65 ≤ c.val ∧ c.val ≤ 90 ↔ 65 ≤ c.toNat ∧ c.toNat ≤ 90 := by
    simp [UInt32.le_iff_toNat_le]
  unfold Char.toLower
  split
  · next h =>
    rw [if_pos (hupper.mp h)]
    refine (UInt32.toNat_add _ _).trans (Nat.mod_eq_of_lt ?_)
    exact Nat.lt_of_le_of_lt (Nat.add_le_add_right (hupper.mp h).2 32) (by decide)
  · next h => rw [if_neg fun hc => h (hupper.mpr hc)]

theorem toNat_toUpper {c : Char} (lower : 97 ≤ c.toNat ∧ c.toNat ≤ 122) :
    c.toUpper.toNat = c.toNat - 32 := by
  have hlower : 97 ≤ c.val ∧ c.val ≤ 122 := by
    simpa [UInt32.le_iff_toNat_le] using lower
  unfold Char.toUpper
  split
  · have hadd : (c.val + (65 - 97)).toNat = (c.toNat + 4294967264) % 4294967296 :=
      UInt32.toNat_add c.val (65 - 97)
    refine hadd.trans ?_
    omega
  · next h => exact absurd hlower h

/-- Two characters have one letter as their lower case: the letter and its capital. -/
theorem toLower_eq_iff {c letter : Char} (lower : letter.isLower = true) :
    c.toLower = letter ↔ IsLetter c letter := by
  have hval : 97 ≤ letter.val ∧ letter.val ≤ 122 :=
    (Bool.and_eq_true_iff.mp lower).imp of_decide_eq_true of_decide_eq_true
  have hletter : 97 ≤ letter.toNat ∧ letter.toNat ≤ 122 := by
    simpa [UInt32.le_iff_toNat_le] using hval
  unfold IsLetter
  rw [← Char.toNat_inj, ← Char.toNat_inj, ← Char.toNat_inj, toNat_toLower, toNat_toUpper hletter]
  split <;> omega

theorem map_toLower_eq_iff {letters : List Char} (lower : ∀ c ∈ letters, c.isLower = true)
    {text : List Char} :
    text.map Char.toLower = letters ↔ List.Forall₂ IsLetter text letters := by
  induction letters generalizing text with
  | nil => simp
  | cons letter letters ih =>
    obtain ⟨hletter, hletters⟩ := List.forall_mem_cons.mp lower
    cases text with
    | nil => simp
    | cons c text =>
      rw [List.map_cons, List.cons.injEq, toLower_eq_iff hletter, ih hletters,
        List.forall₂_cons]

namespace Protocol

/-- The text is the name of the protocol, each of its letters in lower or in upper case. -/
def Spelled (p : Protocol) (text : List Char) : Prop := List.Forall₂ IsLetter text p.name.toList

/-- A protocol is known by its name, in any case. -/
theorem ofName?_eq_some_iff {p : Protocol} {text : List Char} :
    ofName? text = some p ↔ p.Spelled text := by
  have hlower : ∀ c ∈ p.name.toList, c.isLower = true :=
    List.all_eq_true.mp (by cases p <;> decide)
  rw [Spelled, ← map_toLower_eq_iff hlower]
  unfold ofName?
  constructor
  · intro h
    split at h
    · next htcp =>
      cases h
      exact htcp
    · next hudp =>
      cases h
      exact hudp
    · next hsctp =>
      cases h
      exact hsctp
    · cases h
  · intro h
    rw [h]
    cases p <;> rfl

end Protocol

namespace Port

/-! ## Numbers -/

/-- The decimal digits of a number, of which there is at least one, with or without a plus sign
before them. -/
inductive Numeral : List Char → Nat → Prop where
  /-- There is no sign. -/
  | plain {digits : List Char} (nonempty : digits ≠ [])
    (decimal : ∀ c ∈ digits, c.isDigit = true) : Numeral digits (Nat.ofDigitChars 10 digits 0)
  /-- There is a sign. -/
  | signed {digits : List Char} (nonempty : digits ≠ [])
    (decimal : ∀ c ∈ digits, c.isDigit = true) :
    Numeral ('+' :: digits) (Nat.ofDigitChars 10 digits 0)

theorem number?_plus (s : List Char) :
    number? ('+' :: s) = if s ≠ [] ∧ s.all Char.isDigit then some (decimalValue s) else none :=
  rfl

theorem number?_of_ne {s : List Char} (h : ∀ rest, s ≠ '+' :: rest) :
    number? s = if s ≠ [] ∧ s.all Char.isDigit then some (decimalValue s) else none := by
  -- the hypothesis excludes the first case of the match
  unfold number?
  simp only

/-- A number is what the grammar calls one. -/
theorem number?_eq_some_iff {s : List Char} {n : Nat} : number? s = some n ↔ Numeral s n := by
  have decimal : ∀ {digits : List Char} {n : Nat},
      (if digits ≠ [] ∧ digits.all Char.isDigit then some (decimalValue digits) else none) =
        some n →
      digits ≠ [] ∧ (∀ c ∈ digits, c.isDigit = true) ∧ Nat.ofDigitChars 10 digits 0 = n := by
    intro digits n h
    split at h
    · next hdigits =>
      rw [← decimalValue_eq]
      exact ⟨hdigits.1, List.all_eq_true.mp hdigits.2, Option.some.inj h⟩
    · cases h
  constructor
  · intro h
    by_cases hsign : ∃ rest, s = '+' :: rest
    · obtain ⟨rest, rfl⟩ := hsign
      rw [number?_plus] at h
      obtain ⟨nonempty, hdecimal, rfl⟩ := decimal h
      exact .signed nonempty hdecimal
    · rw [number?_of_ne (not_exists.mp hsign)] at h
      obtain ⟨nonempty, hdecimal, rfl⟩ := decimal h
      exact .plain nonempty hdecimal
  · rintro (⟨nonempty, hdecimal⟩ | ⟨nonempty, hdecimal⟩)
    · rw [number?_of_isDigit nonempty hdecimal, decimalValue_eq]
    · rw [number?_plus, if_pos ⟨nonempty, List.all_eq_true.mpr hdecimal⟩, decimalValue_eq]

/-! ## Parts -/

/-- A text falls into a number and a protocol at its first slash. Without a slash all of it is the
number, and the protocol is TCP. -/
inductive Parts : List Char → List Char → List Char → Prop where
  /-- There is no slash. -/
  | bare {number : List Char} (free : '/' ∉ number) : Parts number number Protocol.tcp.name.toList
  /-- There is a slash. -/
  | slashed {number protocol : List Char} (free : '/' ∉ number) :
    Parts (number ++ '/' :: protocol) number protocol

theorem parts_split (s : List Char) : Parts s (split s).1 (split s).2 := by
  have hfree : '/' ∉ s.takeWhile (· ≠ '/') := fun h => by simpa using List.mem_takeWhile_imp h
  have hsplit : s.takeWhile (· ≠ '/') ++ s.dropWhile (· ≠ '/') = s :=
    List.takeWhile_append_dropWhile
  unfold split
  rw [List.span_eq_takeWhile_dropWhile]
  cases hrest : s.dropWhile (· ≠ '/') with
  | nil =>
    rw [hrest, List.append_nil] at hsplit
    rw [hsplit] at hfree ⊢
    exact .bare hfree
  | cons c protocol =>
    have hslash : c = '/' := by
      have hhead := List.head?_dropWhile_not (· ≠ '/') s
      rw [hrest] at hhead
      simpa using hhead
    subst hslash
    have hparts : Parts (_ ++ '/' :: protocol) _ protocol := .slashed hfree
    rw [← hrest, hsplit] at hparts
    exact hparts

/-- There is one way to take a text apart. -/
theorem parts_iff {s number protocol : List Char} :
    Parts s number protocol ↔ split s = (number, protocol) := by
  constructor
  · rintro (hfree | hfree)
    · exact split_of_notMem hfree
    · exact split_append hfree
  · intro h
    have hparts := parts_split s
    rw [h] at hparts
    exact hparts

/-! ## Texts -/

/-- Apart from blanks around it, the text is made of a number and a protocol. -/
def ConsistsOf (s : String) (number protocol : List Char) : Prop :=
  ∃ text, Text.Trimmed s.toList text ∧ Parts text number protocol

theorem exists_consistsOf (s : String) : ∃ number protocol, ConsistsOf s number protocol :=
  ⟨_, _, _, Text.trimmed_trim s.toList, parts_split _⟩

/-- The text is a number of sixteen bits that is not zero. -/
def IsNumber (number : List Char) : Prop := ∃ n, Numeral number n ∧ 0 < n ∧ n < 65536

/-- What a number and a protocol are read as. -/
inductive Read (number protocol : List Char) : Except Defect Port → Prop where
  /-- They are those of a port. -/
  | port {p : Port} (numeral : Numeral number p.number) (spelled : p.protocol.Spelled protocol) :
    Read number protocol (.ok p)
  /-- The number is none, whatever the protocol is. -/
  | badNumber (bad : ¬IsNumber number) : Read number protocol (.error .number)
  /-- Only the protocol is none. -/
  | badProtocol (good : IsNumber number) (bad : ¬∃ p : Protocol, p.Spelled protocol) :
    Read number protocol (.error .protocol)

variable {s : String} {number protocol : List Char}

/-- What a text consists of tells what it is read as. -/
theorem ConsistsOf.read (h : ConsistsOf s number protocol) : Read number protocol (parse s) := by
  obtain ⟨text, htext, hparts⟩ := h
  unfold parse
  rw [Text.trimmed_iff.mp htext, parts_iff.mp hparts]
  simp only
  -- the number is looked at first, then its bounds, then the protocol
  split
  · next hnumber =>
    refine .badNumber ?_
    rintro ⟨n, numeral, -⟩
    rw [number?_eq_some_iff.mpr numeral] at hnumber
    cases hnumber
  · next n hnumber =>
    have numeral := number?_eq_some_iff.mp hnumber
    split
    · next hbounds =>
      split
      · next p hprotocol => exact .port numeral (Protocol.ofName?_eq_some_iff.mp hprotocol)
      · next hprotocol =>
        refine .badProtocol ⟨n, numeral, hbounds⟩ ?_
        rintro ⟨p, spelled⟩
        rw [Protocol.ofName?_eq_some_iff.mpr spelled] at hprotocol
        cases hprotocol
    · next hbounds =>
      refine .badNumber ?_
      rintro ⟨n', numeral', hbounds'⟩
      rw [number?_eq_some_iff.mpr numeral', Option.some.injEq] at hnumber
      subst hnumber
      exact hbounds hbounds'

/-- A numeral denotes one number. -/
theorem Numeral.unique {n n' : Nat} (h : Numeral number n) (h' : Numeral number n') : n = n' := by
  rw [← number?_eq_some_iff] at h h'
  exact Option.some.inj (h.symm.trans h')

/-- A text denotes a port if its parts denote the number and the protocol. -/
theorem parse_eq_ok_iff (h : ConsistsOf s number protocol) {p : Port} :
    parse s = .ok p ↔ Numeral number p.number ∧ p.protocol.Spelled protocol := by
  have hread := h.read
  generalize parse s = result at hread ⊢
  cases hread with
  | @port p' numeral spelled =>
    constructor
    · rintro ⟨⟩
      exact ⟨numeral, spelled⟩
    · rintro ⟨numeral', spelled'⟩
      rw [← Protocol.ofName?_eq_some_iff] at spelled spelled'
      have hprotocol := Option.some.inj (spelled.symm.trans spelled')
      rw [ext_iff_number.mpr ⟨numeral.unique numeral', hprotocol⟩]
  | badNumber bad =>
    refine ⟨nofun, fun ⟨numeral, _⟩ => ?_⟩
    exact absurd ⟨_, numeral, p.number_pos, p.number_lt⟩ bad
  | badProtocol good bad => exact ⟨nofun, fun ⟨_, spelled⟩ => absurd ⟨_, spelled⟩ bad⟩

/-- A bad number is found whatever the protocol is. -/
theorem parse_eq_badNumber_iff (h : ConsistsOf s number protocol) :
    parse s = .error .number ↔ ¬IsNumber number := by
  have hread := h.read
  generalize parse s = result at hread ⊢
  cases hread with
  | @port p numeral spelled =>
    exact ⟨nofun, fun bad => absurd ⟨_, numeral, p.number_pos, p.number_lt⟩ bad⟩
  | badNumber bad => exact ⟨fun _ => bad, fun _ => rfl⟩
  | badProtocol good bad => exact ⟨nofun, fun bad => absurd good bad⟩

/-- The protocol is complained about only where the number is not. -/
theorem parse_eq_badProtocol_iff (h : ConsistsOf s number protocol) :
    parse s = .error .protocol ↔ IsNumber number ∧ ¬∃ p : Protocol, p.Spelled protocol := by
  have hread := h.read
  generalize parse s = result at hread ⊢
  cases hread with
  | port numeral spelled => exact ⟨nofun, fun ⟨_, bad⟩ => absurd ⟨_, spelled⟩ bad⟩
  | badNumber bad => exact ⟨nofun, fun ⟨good, _⟩ => absurd good bad⟩
  | badProtocol good bad => exact ⟨fun _ => ⟨good, bad⟩, fun _ => rfl⟩

/-! ## Keys -/

/-- The key is a canonical text: a port is read from it again. -/
theorem key_inj {p q : Port} : p.key = q.key ↔ p = q := by
  constructor
  · intro h
    have hparse := parse_key p
    rw [h, parse_key] at hparse
    exact (Except.ok.inj hparse).symm
  · rintro rfl
    rfl

/-! ## What is said about a text -/

/-- A port text that is given alone fails as the text itself, for the reason of its defect. -/
theorem parsedPorts_singleton_eq_error_iff {name image : String} (defect : Defect) :
    (Workload.mk name image [s]).parsedPorts = .error (.invalidPort s defect.message) ↔
      parse s = .error defect := by
  have hmessage : ∀ defect' : Defect, defect'.message = defect.message ↔ defect' = defect := by
    intro defect'
    cases defect' <;> cases defect <;> simp [Defect.message]
  unfold Workload.parsedPorts
  simp only [parseAll]
  cases parse s with
  | ok p => simp [Except.mapError]
  | error defect' => simp [Except.mapError, Failure.ofPort, hmessage]

/-- **Which texts denote a port, and what is said about the others.** Every text has a number and a
protocol, and it denotes a port exactly if these are a number between 1 and 65535 and the name of a
protocol; otherwise the text is reported, for its number if that is bad, and else for its protocol.
The key of a port denotes the port again, so two texts denote the same port exactly if their ports
have the same key. -/
theorem spelling_exact (s : String) :
    (∃ number protocol, ConsistsOf s number protocol) ∧
    (∀ number protocol, ConsistsOf s number protocol →
      (∀ p, parse s = .ok p ↔ Numeral number p.number ∧ p.protocol.Spelled protocol) ∧
      ∀ name image,
        ((Workload.mk name image [s]).parsedPorts =
            .error (.invalidPort s "port must be a number between 1 and 65535") ↔
          ¬IsNumber number) ∧
        ((Workload.mk name image [s]).parsedPorts =
            .error (.invalidPort s "protocol must be tcp, udp or sctp") ↔
          IsNumber number ∧ ¬∃ p : Protocol, p.Spelled protocol)) ∧
    (∀ p, parse s = .ok p → parse p.key = .ok p) ∧
    ∀ s' p p', parse s = .ok p → parse s' = .ok p' → (parse s = parse s' ↔ p.key = p'.key) := by
  refine ⟨exists_consistsOf s, ?_, fun p _ => parse_key p, ?_⟩
  · intro number protocol h
    refine ⟨fun p => parse_eq_ok_iff h, fun name image => ⟨?_, ?_⟩⟩
    · rw [← parse_eq_badNumber_iff h]
      exact parsedPorts_singleton_eq_error_iff .number
    · rw [← parse_eq_badProtocol_iff h]
      exact parsedPorts_singleton_eq_error_iff .protocol
  · intro s' p p' hp hp'
    rw [hp, hp', key_inj, Except.ok.injEq]

/-- A text with everything that does not matter, and one of another port. -/
theorem respelled_told_apart : ∃ p p' : Port,
    parse "\t+008545/TcP " = .ok p ∧ parse "8545/udp" = .ok p' ∧
      (∃ number protocol, ConsistsOf "\t+008545/TcP " number protocol ∧ Numeral number 8545 ∧
        Protocol.tcp.Spelled protocol) ∧
      parse p.key = .ok p ∧ (parse "\t+008545/TcP " = parse "8545/udp" ↔ p.key = p'.key) ∧
      p.key ≠ p'.key := by
  have hsigned : parse "\t+008545/TcP " = .ok { number := 8545, protocol := .tcp } := by
    decide +kernel
  have hplain : parse "8545/udp" = .ok { number := 8545, protocol := .udp } := by decide +kernel
  obtain ⟨⟨number, protocol, h⟩, hread, hkey, hsame⟩ := spelling_exact "\t+008545/TcP "
  obtain ⟨hdenotes, -⟩ := hread number protocol h
  exact ⟨_, _, hsigned, hplain, ⟨number, protocol, h, (hdenotes _).mp hsigned⟩, hkey _ hsigned,
    hsame _ _ _ hsigned hplain, by decide⟩

end Port

end ChainBroker
