import ChainBroker.Platform
import ChainBroker.Text.Split
import Mathlib.Data.List.TakeDrop
import Mathlib.Data.List.TakeWhile

/-!
# Ports and their spellings

However a port is spelled, its number in decimal digits is one and the same text, and two ports of
different numbers have different texts. The number, a slash and the name of the protocol in lower or
upper case are a spelling of the port (`Port.parse_spelling`).

A list of spellings denotes ports exactly if each of them does (`Port.parseAll_eq_ok_iff`), and the
first text that denotes none is reported (`Port.parseAll_eq_error_iff`).
-/

namespace ChainBroker

theorem Text.trim_eq_self {s : List Char} (h : ∀ c ∈ s, isBlank c = false) : trim s = s := by
  have dropped : ∀ {l : List Char}, (∀ c ∈ l, isBlank c = false) → l.dropWhile isBlank = l := by
    intro l hl
    cases l with
    | nil => rfl
    | cons c l => exact List.dropWhile_cons_of_neg (by simp [hl c List.mem_cons_self])
  have hreverse : ∀ c ∈ s.reverse, isBlank c = false := fun c hc => h c (List.mem_reverse.mp hc)
  unfold trim
  rw [dropped h, dropped hreverse, List.reverse_reverse]

namespace Protocol

theorem ofName?_name (p : Protocol) : ofName? p.name.toList = some p := by
  cases p <;> decide

theorem ofName?_upperName (p : Protocol) : ofName? p.upperName.toList = some p := by
  cases p <;> decide

theorem isBlank_name (p : Protocol) : ∀ c ∈ p.name.toList, Text.isBlank c = false := by
  cases p <;> simp [name, Text.isBlank]

theorem isBlank_upperName (p : Protocol) : ∀ c ∈ p.upperName.toList, Text.isBlank c = false := by
  cases p <;> simp [upperName, Text.isBlank]

end Protocol

namespace Port

theorem ext_iff_number {p q : Port} : p = q ↔ p.number = q.number ∧ p.protocol = q.protocol := by
  cases p
  cases q
  simp

/-! ## Numbers in digits -/

theorem toList_digits (p : Port) : p.digits.toList = Nat.toDigits 10 p.number := by
  unfold digits
  rw [Nat.toString_eq_repr, Nat.toList_repr]

/-- The digits read as a number again. -/
theorem ofDigitChars_digits (p : Port) : Nat.ofDigitChars 10 p.digits.toList 0 = p.number := by
  rw [toList_digits, Nat.ofDigitChars_ten_toDigits]

/-- The digits tell the number. -/
theorem digits_inj {p q : Port} : p.digits = q.digits ↔ p.number = q.number := by
  constructor
  · intro h
    rw [← ofDigitChars_digits p, h, ofDigitChars_digits]
  · intro h
    unfold digits
    rw [h]

/-- Distinct numbers have distinct digits. -/
theorem nodup_digits {ports : List Port} (h : (ports.map number).Nodup) :
    (ports.map digits).Nodup := by
  rw [List.Nodup, List.pairwise_map] at h ⊢
  exact h.imp fun hne heq => hne (digits_inj.mp heq)

theorem isDigit_of_mem_digits {p : Port} {c : Char} (h : c ∈ p.digits.toList) : c.isDigit := by
  rw [toList_digits] at h
  exact Nat.isDigit_of_mem_toDigits (by decide) (by decide) h

theorem slash_notMem_digits (p : Port) : '/' ∉ p.digits.toList := by
  intro h
  exact absurd (isDigit_of_mem_digits h) (by decide)

theorem toList_digits_ne_nil (p : Port) : p.digits.toList ≠ [] := by
  intro h
  have hnumber := ofDigitChars_digits p
  rw [h] at hnumber
  exact absurd hnumber (Nat.ne_of_lt p.number_pos)

/-! ## Spellings -/

theorem isBlank_of_isDigit {c : Char} (h : c.isDigit = true) : Text.isBlank c = false := by
  have bounds : 48 ≤ c.toNat ∧ c.toNat ≤ 57 := by
    simp only [Char.isDigit, Bool.and_eq_true, decide_eq_true_eq, UInt32.le_iff_toNat_le] at h
    exact h
  unfold Text.isBlank
  simp
  omega

/-- Digits are read from the left. -/
theorem decimalValue_eq (s : List Char) : decimalValue s = Nat.ofDigitChars 10 s 0 := by
  simp only [decimalValue, Nat.ofDigitChars_eq_foldl, Nat.mul_comm]

theorem number?_of_isDigit {s : List Char} (hne : s ≠ []) (hall : ∀ c ∈ s, c.isDigit = true) :
    number? s = some (decimalValue s) := by
  cases s with
  | nil => exact absurd rfl hne
  | cons c s =>
    have hsign : c ≠ '+' := by
      rintro rfl
      exact absurd (hall _ List.mem_cons_self) (by decide)
    obtain ⟨hfirst, hrest⟩ := List.forall_mem_cons.mp hall
    simpa [number?, hsign, hfirst] using hrest

/-- The digits of a port are read as its number. -/
theorem number?_digits (p : Port) : number? p.digits.toList = some p.number := by
  rw [number?_of_isDigit (toList_digits_ne_nil p) fun c => isDigit_of_mem_digits, decimalValue_eq,
    ofDigitChars_digits]

/-- The part before the slash ends at the first one. -/
theorem split_append {number protocol : List Char} (h : '/' ∉ number) :
    split (number ++ '/' :: protocol) = (number, protocol) := by
  unfold split
  rw [List.span_eq_takeWhile_dropWhile, List.takeWhile_append_of_pos (Text.forall_ne_of_notMem h),
    List.dropWhile_append_of_pos (Text.forall_ne_of_notMem h)]
  simp

/-- Without a slash the protocol is TCP. -/
theorem split_of_notMem {s : List Char} (h : '/' ∉ s) : split s = (s, Protocol.tcp.name.toList) := by
  unfold split
  rw [List.span_eq_takeWhile_dropWhile, List.takeWhile_eq_self_iff.mpr (Text.forall_ne_of_notMem h),
    List.dropWhile_eq_nil_iff.mpr (Text.forall_ne_of_notMem h)]
  rfl

/-- A number in digits and the name of a protocol, in any case, denote the port. -/
theorem parse_spelling {p : Port} {name : String}
    (known : Protocol.ofName? name.toList = some p.protocol)
    (unblank : ∀ c ∈ name.toList, Text.isBlank c = false) :
    parse (p.digits ++ "/" ++ name) = .ok p := by
  have htext : (p.digits ++ "/" ++ name).toList = p.digits.toList ++ '/' :: name.toList := by
    simp
  have htrim : Text.trim (p.digits.toList ++ '/' :: name.toList) =
      p.digits.toList ++ '/' :: name.toList := by
    refine Text.trim_eq_self fun c hc => ?_
    rcases List.mem_append.mp hc with hc | hc
    · exact isBlank_of_isDigit (isDigit_of_mem_digits hc)
    · rcases List.mem_cons.mp hc with rfl | hc
      · rfl
      · exact unblank c hc
  unfold parse
  rw [htext, htrim, split_append (slash_notMem_digits p)]
  simp only [number?_digits, known, dif_pos (And.intro p.number_pos p.number_lt)]

/-- A port is read back from its key, -/
theorem parse_key (p : Port) : parse p.key = .ok p :=
  parse_spelling p.protocol.ofName?_name p.protocol.isBlank_name

/-- and also where the protocol is in capitals. -/
theorem parse_upperName (p : Port) : parse (p.digits ++ "/" ++ p.protocol.upperName) = .ok p :=
  parse_spelling p.protocol.ofName?_upperName p.protocol.isBlank_upperName

/-! ## Lists of spellings -/

/-- The texts denote the ports one by one. -/
theorem parseAll_eq_ok_iff {specs : List String} {ports : List Port} :
    parseAll specs = .ok ports ↔ specs.map parse = ports.map .ok := by
  -- by induction on the texts, as they are read
  induction specs generalizing ports with
  | nil =>
    cases ports with
    | nil => simp [parseAll]
    | cons => simp [parseAll]
  | cons spec specs ih =>
    unfold parseAll
    cases hspec : parse spec with
    | error defect => cases ports <;> simp [hspec]
    | ok port =>
      cases hspecs : parseAll specs with
      | error e =>
        cases ports with
        | nil => simp
        | cons p ports =>
          have hne : ¬specs.map parse = ports.map .ok := fun h => by
            rw [ih.mpr h] at hspecs
            cases hspecs
          simp [hne]
      | ok rest =>
        cases ports with
        | nil => simp
        | cons p ports => simp [hspec, ← ih, hspecs]

/-- Texts can be read together if each of them can. -/
theorem exists_parseAll_iff {specs : List String} :
    (∃ ports, parseAll specs = .ok ports) ↔ ∀ spec ∈ specs, ∃ port, parse spec = .ok port := by
  simp only [parseAll_eq_ok_iff]
  induction specs with
  | nil => exact ⟨fun _ _ h => by simp at h, fun _ => ⟨[], rfl⟩⟩
  | cons spec specs ih =>
    rw [List.forall_mem_cons, ← ih]
    constructor
    · rintro ⟨ports, h⟩
      cases ports with
      | nil => simp at h
      | cons port ports =>
        rw [List.map_cons, List.map_cons, List.cons.injEq] at h
        exact ⟨⟨port, h.1⟩, ⟨ports, h.2⟩⟩
    · rintro ⟨⟨port, h⟩, ⟨ports, hs⟩⟩
      exact ⟨port :: ports, by rw [List.map_cons, List.map_cons, h, hs]⟩

theorem parseAll_cons_of_ok {spec : String} {port : Port} (h : parse spec = .ok port)
    {specs : List String} {e : String × Defect} :
    parseAll (spec :: specs) = .error e ↔ parseAll specs = .error e := by
  rw [parseAll, h]
  cases parseAll specs <;> simp

/-- The first text that denotes no port is reported. -/
theorem parseAll_eq_error_iff {specs : List String} {spec : String} {defect : Defect} :
    parseAll specs = .error (spec, defect) ↔
      ∃ before after, specs = before ++ spec :: after ∧
        (∀ earlier ∈ before, ∃ port, parse earlier = .ok port) ∧ parse spec = .error defect := by
  constructor
  · intro h
    induction specs with
    | nil => cases h
    | cons first specs ih =>
      cases hfirst : parse first with
      | error other =>
        rw [parseAll, hfirst] at h
        cases h
        exact ⟨[], specs, rfl, nofun, hfirst⟩
      | ok port =>
        obtain ⟨before, after, rfl, hbefore, hspec⟩ := ih ((parseAll_cons_of_ok hfirst).mp h)
        exact ⟨first :: before, after, rfl, List.forall_mem_cons.mpr ⟨⟨port, hfirst⟩, hbefore⟩,
          hspec⟩
  · rintro ⟨before, after, rfl, hbefore, hspec⟩
    induction before with
    | nil => rw [List.nil_append, parseAll, hspec]
    | cons first before ih =>
      obtain ⟨⟨port, hport⟩, hbefore⟩ := List.forall_mem_cons.mp hbefore
      exact (parseAll_cons_of_ok hport).mpr (ih hbefore)

end Port

/-! ## The ports of a plan -/

/-- The port to deploy to is the first one, whatever its protocol. -/
theorem Plan.primaryPort?_eq {plan : Plan} {port : Port} {ports : List Port}
    (parsed : Port.parseAll plan.ports = .ok (port :: ports)) :
    plan.primaryPort? = some port.digits := by
  rw [Port.parseAll_eq_ok_iff] at parsed
  unfold primaryPort?
  cases hports : plan.ports with
  | nil => simp [hports] at parsed
  | cons spec specs =>
    rw [hports, List.map_cons, List.map_cons, List.cons.injEq] at parsed
    simp [parsed.1, Except.toOption]

theorem Workload.parsedPorts_eq_ok_iff {w : Workload} {ports : List Port} :
    w.parsedPorts = .ok ports ↔ Port.parseAll w.ports = .ok ports := by
  unfold parsedPorts
  cases Port.parseAll w.ports with
  | ok parsed =>
    constructor
    · rintro ⟨⟩
      rfl
    · rintro ⟨⟩
      rfl
  | error cause => exact ⟨nofun, nofun⟩

end ChainBroker
