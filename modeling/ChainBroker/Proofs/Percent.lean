import ChainBroker.Proofs.Utf8
import ChainBroker.Url.Parse
import Mathlib.Tactic.IntervalCases

/-!
# Decoding what was percent-encoded

A percent sign in front of two hexadecimal digits is an escape. An encoding never touches percent
signs and digits, so it adds escapes of its own and leaves those that are there: what is decoded is
the same before and after (`decode_encode`). So it is with the reading of encoded dots
(`decode_dots`).

The laws are about the bytes of a text, `utf8 s`; a byte of a longer encoding is never taken for a
percent sign or a digit.
-/

namespace ChainBroker.Percent

open Text (hexValue?)

/-- The bytes of a text. -/
abbrev utf8 (s : List Char) : Bytes := s.flatMap String.utf8EncodeChar

/-! ## Bytes of characters -/

/-- The value of a byte as a hexadecimal digit. -/
abbrev byteHex? (b : UInt8) : Option Nat := hexValue? (Char.ofNat b.toNat)

theorem toNat_charOfNat {n : Nat} (h : n < 256) : (Char.ofNat n).toNat = n := by
  have hvalid : n.isValidChar := .inl (by omega)
  unfold Char.ofNat
  rw [dif_pos hvalid]
  rfl

/-- Nothing beyond the basic characters is a hexadecimal digit. -/
theorem hexValue?_of_le {c : Char} (h : 0x80 ≤ c.toNat) : hexValue? c = none := by
  have hle : ∀ d : Char, d.toNat < 0x80 → decide (c ≤ d) = false := by
    intro d hd
    rw [decide_eq_false_iff_not]
    show ¬c.toNat ≤ d.toNat
    omega
  unfold hexValue?
  rw [hle '9' (by decide), hle 'f' (by decide), hle 'F' (by decide)]
  simp

theorem byteHex?_of_le {b : UInt8} (h : 0x80 ≤ b.toNat) : byteHex? b = none := by
  refine hexValue?_of_le ?_
  rwa [toNat_charOfNat b.toNat_lt]

theorem le_toNat_ofNat {n : Nat} (h : n < 256) (h' : 0x80 ≤ n) : 0x80 ≤ (UInt8.ofNat n).toNat := by
  rwa [Utf8.toNat_ofNat_of_lt h]

/-- A character is one byte of its own, or several that stand for no character. -/
theorem utf8EncodeChar_cases (c : Char) :
    (c.toNat < 0x80 ∧ String.utf8EncodeChar c = [.ofNat c.toNat]) ∨
      (0x80 ≤ c.toNat ∧ ∀ b ∈ String.utf8EncodeChar c, 0x80 ≤ b.toNat) := by
  have hvalid : c.toNat < 0xD800 ∨ 0xDFFF < c.toNat ∧ c.toNat < 0x110000 := c.valid
  unfold String.utf8EncodeChar
  rw [show c.val.toNat = c.toNat from rfl]
  generalize c.toNat = v at hvalid
  simp only
  split
  · exact .inl ⟨by omega, rfl⟩
  · refine .inr ⟨by omega, ?_⟩
    have last : 0x80 ≤ (UInt8.ofNat (v % 64 + 0x80)).toNat := le_toNat_ofNat (by omega) (by omega)
    have second : 0x80 ≤ (UInt8.ofNat (v / 64 % 64 + 0x80)).toNat :=
      le_toNat_ofNat (by omega) (by omega)
    have third : 0x80 ≤ (UInt8.ofNat (v / 4096 % 64 + 0x80)).toNat :=
      le_toNat_ofNat (by omega) (by omega)
    split
    · have first := le_toNat_ofNat (show v / 64 % 32 + 0xC0 < 256 by omega) (by omega)
      simp only [List.forall_mem_cons]
      exact ⟨first, last, by simp⟩
    · split
      · have first := le_toNat_ofNat (show v / 4096 % 16 + 0xE0 < 256 by omega) (by omega)
        simp only [List.forall_mem_cons]
        exact ⟨first, second, last, by simp⟩
      · have first := le_toNat_ofNat (show v / 262144 % 8 + 0xF0 < 256 by omega) (by omega)
        simp only [List.forall_mem_cons]
        exact ⟨first, third, second, last, by simp⟩

/-- The first byte of a character tells which digit the character is. -/
theorem exists_first_byte (c : Char) :
    ∃ b bs, String.utf8EncodeChar c = b :: bs ∧ byteHex? b = hexValue? c ∧
      (hexValue? c ≠ none → bs = []) := by
  rcases utf8EncodeChar_cases c with ⟨hlt, hc⟩ | ⟨hle, hbytes⟩
  · refine ⟨_, [], hc, ?_, fun _ => rfl⟩
    unfold byteHex?
    rw [Utf8.toNat_ofNat_of_lt (by omega), Char.ofNat_toNat]
  · have hpos : 0 < (String.utf8EncodeChar c).length := by
      rw [String.length_utf8EncodeChar]
      exact c.utf8Size_pos
    obtain ⟨b, bs, hc⟩ := List.exists_cons_of_length_pos hpos
    have hb : 0x80 ≤ b.toNat := by
      refine hbytes b ?_
      rw [hc]
      exact List.mem_cons_self
    refine ⟨b, bs, hc, ?_, fun h => absurd (hexValue?_of_le hle) h⟩
    rw [byteHex?_of_le hb, hexValue?_of_le hle]

/-! ## Decoding character by character -/

/-- Only what stands behind a percent sign is decoded. -/
theorem decode_cons_of_ne {b : UInt8} (h : b ≠ 0x25) (r : Bytes) :
    decode (b :: r) = b :: decode r := by
  rw [decode.eq_def]
  exact if_neg h

theorem decode_append_of_ne {bs : Bytes} (h : ∀ b ∈ bs, b ≠ 0x25) (r : Bytes) :
    decode (bs ++ r) = bs ++ decode r := by
  induction bs with
  | nil => rfl
  | cons b bs ih =>
    rw [List.forall_mem_cons] at h
    rw [List.cons_append, decode_cons_of_ne h.1, ih h.2, List.cons_append]

/-- Two hexadecimal digits behind a percent sign make one byte. -/
theorem decode_escape {h l : UInt8} {high low : Nat} (hh : byteHex? h = some high)
    (hl : byteHex? l = some low) (r : Bytes) :
    decode (0x25 :: h :: l :: r) = .ofNat (high * 16 + low) :: decode r := by
  rw [decode.eq_def]
  simp only [hh, hl]
  rfl

/-- Without two such digits behind it the sign stands for itself. -/
theorem decode_percent_of_none {r : Bytes}
    (h : ∀ h l t, r = h :: l :: t → byteHex? h = none ∨ byteHex? l = none) :
    decode (0x25 :: r) = 0x25 :: decode r := by
  rw [decode.eq_def]
  match r with
  | [] => rfl
  | [_] => rfl
  | h' :: l :: t =>
    have hnone := h h' l t rfl
    simp only [if_true]
    split
    · next hh hl => simp [hh, hl] at hnone
    · rfl

/-- What a percent sign in front of the text stands for, and what follows. -/
def escape? : List Char → Option (Nat × List Char)
  | h :: l :: s =>
    match hexValue? h, hexValue? l with
    | some high, some low => some (high * 16 + low, s)
    | _, _ => none
  | _ => none

theorem length_lt_of_escape? {s t : List Char} {n : Nat} (h : escape? s = some (n, t)) :
    t.length < s.length := by
  unfold escape? at h
  split at h
  · split at h
    · cases h
      simp only [List.length_cons]
      omega
    · cases h
  · cases h

theorem decode_utf8_cons {c : Char} (h : c ≠ '%') (s : List Char) :
    decode (utf8 (c :: s)) = String.utf8EncodeChar c ++ decode (utf8 s) := by
  rw [utf8, List.flatMap_cons]
  refine decode_append_of_ne ?_ _
  intro b hb
  rintro rfl
  rcases utf8EncodeChar_cases c with ⟨hlt, hc⟩ | ⟨-, hbytes⟩
  · rw [hc, List.mem_singleton, ← UInt8.toNat_inj, Utf8.toNat_ofNat_of_lt (by omega)] at hb
    exact h (Char.toNat_inj.mp hb.symm)
  · exact absurd (hbytes _ hb) (by decide)

/-- A text without percent signs decodes to its own bytes. -/
theorem decode_utf8_of_not_mem {s : List Char} (h : '%' ∉ s) : decode (utf8 s) = utf8 s := by
  induction s with
  | nil => rfl
  | cons c s ih =>
    rw [List.mem_cons, not_or] at h
    rw [decode_utf8_cons (Ne.symm h.1), ih h.2]
    exact List.flatMap_cons.symm

/-- A percent sign in a text is looked at together with the two characters behind it. -/
theorem decode_utf8_percent (s : List Char) :
    decode (utf8 ('%' :: s)) =
      match escape? s with
      | some (n, t) => .ofNat n :: decode (utf8 t)
      | none => 0x25 :: decode (utf8 s) := by
  have hpercent : utf8 ('%' :: s) = 0x25 :: utf8 s := rfl
  rw [hpercent]
  cases hs : escape? s with
  | some found =>
    obtain ⟨n, t⟩ := found
    unfold escape? at hs
    split at hs
    · next h l s' =>
      split at hs
      · next high low hh hl =>
        cases hs
        -- a hexadecimal digit is a single byte, so the two digits are the two bytes
        obtain ⟨hb, hbs, hbytes, hhex, hsingle⟩ := exists_first_byte h
        obtain ⟨lb, lbs, lbytes, lhex, lsingle⟩ := exists_first_byte l
        have hnil : hbs = [] := hsingle (by simp [hh])
        have lnil : lbs = [] := lsingle (by simp [hl])
        rw [utf8, List.flatMap_cons, List.flatMap_cons, hbytes, lbytes, hnil, lnil]
        exact decode_escape (hhex.trans hh) (lhex.trans hl) _
      · cases hs
    · cases hs
  | none =>
    refine decode_percent_of_none ?_
    intro hb lb r hr
    cases s with
    | nil => cases hr
    | cons h s =>
      obtain ⟨b, bs, hbytes, hhex, hsingle⟩ := exists_first_byte h
      rw [utf8, List.flatMap_cons, hbytes, List.cons_append] at hr
      obtain ⟨rfl, htail⟩ := List.cons.inj hr
      by_cases hh : hexValue? h = none
      · exact .inl (hhex.trans hh)
      · -- the first character is a digit, so the second byte belongs to the second character
        rw [hsingle hh, List.nil_append] at htail
        cases s with
        | nil => cases htail
        | cons l s =>
          obtain ⟨b', bs', lbytes, lhex, -⟩ := exists_first_byte l
          rw [List.flatMap_cons, lbytes, List.cons_append] at htail
          obtain ⟨rfl, -⟩ := List.cons.inj htail
          refine .inr (lhex.trans ?_)
          obtain ⟨high, hhigh⟩ := Option.ne_none_iff_exists'.mp hh
          cases hl : hexValue? l with
          | none => rfl
          | some low => simp [escape?, hhigh, hl] at hs

/-- Decoding makes nothing longer. -/
theorem length_decode_le (bs : Bytes) : (decode bs).length ≤ bs.length := by
  fun_induction decode bs <;> simp only [List.length_nil, List.length_cons] at * <;> omega

/-! ## What leaves escapes alone -/

theorem escape?_cons_of_none {c : Char} (h : hexValue? c = none) (s : List Char) :
    escape? (c :: s) = none := by
  cases s with
  | nil => rfl
  | cons l s => simp [escape?, h]

theorem escape?_cons_of_second {c l : Char} (h : hexValue? l = none) (s : List Char) :
    escape? (c :: l :: s) = none := by
  cases hc : hexValue? c <;> simp [escape?, hc, h]

/-- Behind a percent sign a text may be put in the place of another one that has the same escape. -/
theorem decode_percent_congr {s t : List Char} {f : List Char → List Char}
    (hescape : escape? t = (escape? s).map fun found => (found.1, f found.2))
    (htext : decode (utf8 t) = decode (utf8 s))
    (hrest : ∀ n u, escape? s = some (n, u) → decode (utf8 (f u)) = decode (utf8 u)) :
    decode (utf8 ('%' :: t)) = decode (utf8 ('%' :: s)) := by
  rw [decode_utf8_percent, decode_utf8_percent, hescape]
  cases hs : escape? s with
  | none => exact congrArg _ htext
  | some found => exact congrArg _ (hrest found.1 found.2 hs)

/-- The characters of a set are neither percent signs nor digits of escapes. -/
def Spares (set : Char → Bool) : Prop := ∀ c, set c = true → c ≠ '%' ∧ hexValue? c = none

variable {set : Char → Bool}

/-- A character of the set is written as the bytes that it has in UTF-8. -/
theorem encode_cons_of_set {c : Char} (h : set c = true) (s : List Char) :
    encode set (c :: s) = (String.utf8EncodeChar c).flatMap encodeByte ++ encode set s := by
  rw [encode, List.flatMap_cons, if_pos h]
  rfl

/-- Any other character is written as it is. -/
theorem encode_cons_of_not_set {c : Char} (h : set c = false) (s : List Char) :
    encode set (c :: s) = c :: encode set s := by
  rw [encode, List.flatMap_cons, if_neg (by simp [h])]
  rfl

/-- A written character does not complete an escape that starts in front of it. -/
theorem escape?_encode_of_set {c : Char} (h : set c = true) (s : List Char) :
    escape? (encode set (c :: s)) = none ∧ ∀ d, escape? (d :: encode set (c :: s)) = none := by
  obtain ⟨b, bs, hc, -⟩ := exists_first_byte c
  have hpercent : hexValue? '%' = none := rfl
  rw [encode_cons_of_set h, hc]
  exact ⟨escape?_cons_of_none hpercent _, fun d => escape?_cons_of_second hpercent _⟩

/-- Encoding makes no escapes of what is not one, and leaves those that are there, if the set spares
what they consist of. -/
theorem escape?_encode (spares : Spares set) (s : List Char) :
    escape? (encode set s) = (escape? s).map fun found => (found.1, encode set found.2) := by
  cases s with
  | nil => rfl
  | cons h s =>
    cases hset : set h with
    | true =>
      rw [(escape?_encode_of_set hset s).1, escape?_cons_of_none (spares h hset).2]
      rfl
    | false =>
      rw [encode_cons_of_not_set hset]
      cases s with
      | nil => rfl
      | cons l s =>
        cases lset : set l with
        | true =>
          rw [(escape?_encode_of_set lset s).2, escape?_cons_of_second (spares l lset).2]
          rfl
        | false =>
          rw [encode_cons_of_not_set lset]
          cases hh : hexValue? h <;> cases hl : hexValue? l <;> simp [escape?, hh, hl]

theorem hexDigitUpper_toNat_lt {d : Nat} (h : d < 16) :
    (Text.hexDigitUpper d).toNat < 0x80 ∧ hexValue? (Text.hexDigitUpper d) = some d := by
  interval_cases d <;> decide

/-- A byte that was written is read back. -/
theorem decode_encodeByte (b : UInt8) (s : List Char) :
    decode (utf8 (encodeByte b ++ s)) = b :: decode (utf8 s) := by
  have hb : b.toNat < 256 := b.toNat_lt
  obtain ⟨-, high⟩ := hexDigitUpper_toNat_lt (show b.toNat / 16 < 16 by omega)
  obtain ⟨-, low⟩ := hexDigitUpper_toNat_lt (show b.toNat % 16 < 16 by omega)
  have hescape : escape? (Text.hexDigitUpper (b.toNat / 16) :: Text.hexDigitUpper (b.toNat % 16) ::
      s) = some (b.toNat, s) := by
    simp only [escape?, high, low]
    rw [Nat.div_add_mod']
  show decode (utf8 ('%' :: _ :: _ :: s)) = _
  rw [decode_utf8_percent, hescape]
  simp

/-- So are several. -/
theorem decode_flatMap_encodeByte (bs : Bytes) (s : List Char) :
    decode (utf8 (bs.flatMap encodeByte ++ s)) = bs ++ decode (utf8 s) := by
  induction bs with
  | nil => rfl
  | cons b bs ih => rw [List.flatMap_cons, List.append_assoc, decode_encodeByte, ih, List.cons_append]

/-- **An encoding is undone by the decoding**, which otherwise does what it would have done. -/
theorem decode_encode (spares : Spares set) (s : List Char) :
    decode (utf8 (encode set s)) = decode (utf8 s) := by
  -- behind a percent sign the induction goes on after the digits, too
  induction hn : s.length using Nat.strong_induction_on generalizing s with
  | _ n ih =>
    cases s with
    | nil => rfl
    | cons c s =>
      have hs : decode (utf8 (encode set s)) = decode (utf8 s) := by
        refine ih s.length ?_ s rfl
        rw [← hn, List.length_cons]
        omega
      by_cases hpercent : c = '%'
      · subst hpercent
        have hset : set '%' = false := by
          by_contra h
          exact (spares '%' (by simpa using h)).1 rfl
        rw [encode_cons_of_not_set hset]
        refine decode_percent_congr (escape?_encode spares s) hs fun n u hu => ?_
        refine ih u.length ?_ u rfl
        have hlt := length_lt_of_escape? hu
        rw [← hn, List.length_cons]
        omega
      · rw [decode_utf8_cons hpercent, ← hs]
        cases hset : set c with
        | true => rw [encode_cons_of_set hset, decode_flatMap_encodeByte]
        | false => rw [encode_cons_of_not_set hset, decode_utf8_cons hpercent]

/-! ## Encoded dots -/

/-- Of all escapes, only those of dots are made into what they stand for. -/
theorem dots_cons_cases (c : Char) (s : List Char) :
    (c = '%' ∧ ∃ e rest, s = '2' :: e :: rest ∧ escape? s = some (0x2E, rest) ∧
        Url.dots (c :: s) = '.' :: Url.dots rest) ∨
      Url.dots (c :: s) = c :: Url.dots s := by
  rw [Url.dots.eq_def]
  split
  · next rest h =>
    cases h
    exact .inl ⟨rfl, 'e', rest, rfl, rfl, rfl⟩
  · next rest h =>
    cases h
    exact .inl ⟨rfl, 'E', rest, rfl, rfl, rfl⟩
  · next h =>
    cases h
    exact .inr rfl
  · next h => cases h

/-- The dots that come of escapes neither make nor destroy other escapes. -/
theorem escape?_dots (s : List Char) :
    escape? (Url.dots s) = (escape? s).map fun found => (found.1, Url.dots found.2) := by
  have hpercent : hexValue? '%' = none := rfl
  have hdot : hexValue? '.' = none := rfl
  cases s with
  | nil => rfl
  | cons h s =>
    rcases dots_cons_cases h s with ⟨rfl, e, rest, -, -, hdots⟩ | hdots
    · rw [hdots, escape?_cons_of_none hdot, escape?_cons_of_none hpercent]
      rfl
    · rw [hdots]
      cases s with
      | nil => rfl
      | cons l s =>
        rcases dots_cons_cases l s with ⟨rfl, e, rest, -, -, hdots⟩ | hdots
        · rw [hdots, escape?_cons_of_second hdot, escape?_cons_of_second hpercent]
          rfl
        · rw [hdots]
          cases hh : hexValue? h <;> cases hl : hexValue? l <;> simp [escape?, hh, hl]

/-- Dots are decoded in any case. -/
theorem decode_dots (s : List Char) : decode (utf8 (Url.dots s)) = decode (utf8 s) := by
  -- by induction on the length, for an escape uses up three characters
  induction hn : s.length using Nat.strong_induction_on generalizing s with
  | _ n ih =>
    cases s with
    | nil => rfl
    | cons c s =>
      have hs : decode (utf8 (Url.dots s)) = decode (utf8 s) := by
        refine ih s.length ?_ s rfl
        rw [← hn, List.length_cons]
        omega
      have hescaped : ∀ n u, escape? s = some (n, u) →
          decode (utf8 (Url.dots u)) = decode (utf8 u) := by
        intro n u hu
        refine ih u.length ?_ u rfl
        have hlt := length_lt_of_escape? hu
        rw [← hn, List.length_cons]
        omega
      rcases dots_cons_cases c s with ⟨rfl, e, rest, -, hrest, hdots⟩ | hdots
      · rw [hdots, decode_utf8_cons (by decide), decode_utf8_percent, hrest, hescaped _ _ hrest]
        rfl
      · rw [hdots]
        by_cases hpercent : c = '%'
        · subst hpercent
          exact decode_percent_congr (escape?_dots s) hs hescaped
        · rw [decode_utf8_cons hpercent, decode_utf8_cons hpercent, hs]

/-! ## Paths -/

/-- The set of paths leaves percent signs and digits alone. -/
theorem spares_path : Spares path := by
  have hascii : ∀ n < 0x80, path (Char.ofNat n) = true → hexValue? (Char.ofNat n) = none := by
    decide
  intro c hc
  constructor
  · rintro rfl
    cases hc
  · by_cases h : c.toNat < 0x80
    · have hdigit := hascii c.toNat h
      rw [Char.ofNat_toNat] at hdigit
      exact hdigit hc
    · exact hexValue?_of_le (Nat.le_of_not_lt h)

/-- No written byte separates the parts of a path or ends it. -/
theorem mem_encodeByte {c : Char} {b : UInt8} (h : c ∈ encodeByte b) : c ≠ '?' ∧ c ≠ '/' := by
  have hdigit : ∀ d < 16, Text.hexDigitUpper d ≠ '?' ∧ Text.hexDigitUpper d ≠ '/' := by decide
  have hb : b.toNat < 256 := b.toNat_lt
  unfold encodeByte at h
  simp only [List.mem_cons, List.not_mem_nil, or_false] at h
  rcases h with rfl | rfl | rfl
  · decide
  · exact hdigit _ (by omega)
  · exact hdigit _ (by omega)

/-- What is encoded for a path holds no question mark, and no slash that has not been there. -/
theorem mem_encode_path {c : Char} {s : List Char} (h : c ∈ encode path s) :
    c ≠ '?' ∧ (c = '/' → '/' ∈ s) := by
  obtain ⟨d, hd, hc⟩ := List.mem_flatMap.mp h
  split at hc
  · obtain ⟨b, -, hb⟩ := List.mem_flatMap.mp hc
    exact ⟨(mem_encodeByte hb).1, fun hslash => absurd hslash (mem_encodeByte hb).2⟩
  · next hset =>
    obtain rfl := List.mem_singleton.mp hc
    refine ⟨?_, ?_⟩
    · rintro rfl
      exact hset rfl
    · rintro rfl
      exact hd

end ChainBroker.Percent
