import ChainBroker.Proofs.Sorting
import ChainBroker.Text.Utf8
import Mathlib.Tactic.IntervalCases

/-!
# Reading what was encoded

An encoding of one to four bytes is read as the character it encodes, one lemma for each number of
bytes; so what a text is encoded as is read as the characters of the text. Conversely the pieces of
any bytes make up these bytes, so bytes are read as a text only if they are its encoding. What is
lost of other bytes is neither that there are any nor whether one of them is null. Encodings are
ordered as the characters are, whatever follows them, so texts are ordered as their bytes are.
-/

namespace ChainBroker.Utf8

/-! ## Bytes by their values -/

theorem toNat_ofNat_of_lt {n : Nat} (h : n < 256) : (UInt8.ofNat n).toNat = n := by
  rw [UInt8.toNat_ofNat']
  exact Nat.mod_eq_of_lt h

theorem within_ofNat {low high : UInt8} {n : Nat} (h : n < 256) (hlow : low.toNat ≤ n)
    (hhigh : n ≤ high.toNat) : (decide (low ≤ .ofNat n) && decide (.ofNat n ≤ high)) = true := by
  rw [Bool.and_eq_true, decide_eq_true_eq, decide_eq_true_eq, UInt8.le_iff_toNat_le,
    UInt8.le_iff_toNat_le, toNat_ofNat_of_lt h]
  exact ⟨hlow, hhigh⟩

theorem isContinuation_ofNat {n : Nat} (h : n < 64) :
    isContinuation (.ofNat (n + 0x80)) = true :=
  within_ofNat (by omega) (Nat.le_add_left ..) (show n + 0x80 ≤ 0xBF by omega)

theorem extend_ofNat (value : Nat) {n : Nat} (h : n < 64) :
    extend value (.ofNat (n + 0x80)) = value * 64 + n := by
  unfold extend
  rw [toNat_ofNat_of_lt (by omega)]
  omega

theorem not_ascii_ofNat {n : Nat} (h : n < 256) (h' : 0x80 ≤ n) : ¬UInt8.ofNat n < 0x80 := by
  rw [UInt8.lt_iff_toNat_lt, toNat_ofNat_of_lt h]
  exact Nat.not_lt.mpr h'

/-- A byte of this form is the first of two. -/
theorem lead?_two {n : Nat} (h : 2 ≤ n) (h' : n < 32) :
    lead? (.ofNat (n + 0xC0)) = some ⟨1, n, 0x80, 0xBF⟩ := by
  interval_cases n <;> rfl

/-- A byte of this form is the first of three. It bounds the second, so that nothing shorter is
meant and no surrogate. -/
theorem lead?_three {n : Nat} (h : n < 16) :
    lead? (.ofNat (n + 0xE0)) =
      some ⟨2, n, if n = 0 then 0xA0 else 0x80, if n = 0xD then 0x9F else 0xBF⟩ := by
  interval_cases n <;> rfl

/-- A byte of this form is the first of four. It bounds the second, so that nothing shorter is
meant and nothing beyond the last character. -/
theorem lead?_four {n : Nat} (h : n < 5) :
    lead? (.ofNat (n + 0xF0)) =
      some ⟨3, n, if n = 0 then 0x90 else 0x80, if n = 4 then 0x8F else 0xBF⟩ := by
  interval_cases n <;> rfl

/-! ## Encodings of one to four bytes -/

/-- A byte below 128 is a character. -/
theorem pieces_one {n : Nat} (h : n < 0x80) (rest : Bytes) :
    pieces (.ofNat n :: rest) = .char (Char.ofNat n) :: pieces rest := by
  rw [pieces, if_pos, toNat_ofNat_of_lt (by omega)]
  rw [UInt8.lt_iff_toNat_lt, toNat_ofNat_of_lt (by omega)]
  exact h

theorem pieces_two {n m : Nat} (h : 2 ≤ n) (hn : n < 32) (hm : m < 64) (rest : Bytes) :
    pieces (.ofNat (n + 0xC0) :: .ofNat (m + 0x80) :: rest) =
      .char (Char.ofNat (n * 64 + m)) :: pieces rest := by
  have second := isContinuation_ofNat hm
  unfold isContinuation at second
  rw [pieces, if_neg (not_ascii_ofNat (by omega) (by omega))]
  simp only [lead?_two h hn]
  rw [if_pos second, if_pos trivial, extend_ofNat _ hm]

/-- The bounds of the second byte leave out what has a shorter encoding, and surrogates. -/
theorem pieces_three {n m k : Nat} (hn : n < 16) (hm : m < 64) (hk : k < 64)
    (low : n = 0 → 0x20 ≤ m) (high : n = 0xD → m < 0x20) (rest : Bytes) :
    pieces (.ofNat (n + 0xE0) :: .ofNat (m + 0x80) :: .ofNat (k + 0x80) :: rest) =
      .char (Char.ofNat ((n * 64 + m) * 64 + k)) :: pieces rest := by
  have hlow : (if n = 0 then 0xA0 else 0x80 : UInt8).toNat ≤ m + 0x80 := by
    split
    · next h => exact Nat.add_le_add_right (low h) 0x80
    · exact Nat.le_add_left ..
  have hhigh : m + 0x80 ≤ (if n = 0xD then 0x9F else 0xBF : UInt8).toNat := by
    split
    · next h => exact Nat.add_le_add_right (Nat.le_of_lt_succ (high h)) 0x80
    · exact Nat.add_le_add_right (Nat.le_of_lt_succ hm) 0x80
  rw [pieces, if_neg (not_ascii_ofNat (by omega) (by omega))]
  simp only [lead?_three hn]
  rw [if_pos (within_ofNat (by omega) hlow hhigh), if_neg (by decide),
    if_pos (isContinuation_ofNat hk), if_pos trivial, extend_ofNat _ hm, extend_ofNat _ hk]

/-- The bounds of the second byte leave out what has a shorter encoding, and what lies beyond the
last character. -/
theorem pieces_four {n m k l : Nat} (hn : n < 5) (hm : m < 64) (hk : k < 64) (hl : l < 64)
    (low : n = 0 → 0x10 ≤ m) (high : n = 4 → m < 0x10) (rest : Bytes) :
    pieces (.ofNat (n + 0xF0) :: .ofNat (m + 0x80) :: .ofNat (k + 0x80) :: .ofNat (l + 0x80) ::
        rest) =
      .char (Char.ofNat (((n * 64 + m) * 64 + k) * 64 + l)) :: pieces rest := by
  have hlow : (if n = 0 then 0x90 else 0x80 : UInt8).toNat ≤ m + 0x80 := by
    split
    · next h => exact Nat.add_le_add_right (low h) 0x80
    · exact Nat.le_add_left ..
  have hhigh : m + 0x80 ≤ (if n = 4 then 0x8F else 0xBF : UInt8).toNat := by
    split
    · next h => exact Nat.add_le_add_right (Nat.le_of_lt_succ (high h)) 0x80
    · exact Nat.add_le_add_right (Nat.le_of_lt_succ hm) 0x80
  rw [pieces, if_neg (not_ascii_ofNat (by omega) (by omega))]
  simp only [lead?_four hn]
  rw [if_pos (within_ofNat (by omega) hlow hhigh), if_neg (by decide),
    if_pos (isContinuation_ofNat hk), if_neg (by decide), if_pos (isContinuation_ofNat hl),
    extend_ofNat _ hm, extend_ofNat _ hk, extend_ofNat _ hl]

/-! ## Texts -/

/-- The encoding of a character is read as that character. -/
theorem pieces_utf8EncodeChar_append (c : Char) (rest : Bytes) :
    pieces (String.utf8EncodeChar c ++ rest) = .char c :: pieces rest := by
  have hvalid : c.toNat < 0xD800 ∨ 0xDFFF < c.toNat ∧ c.toNat < 0x110000 := c.valid
  have hback : Char.ofNat c.toNat = c := Char.ofNat_toNat c
  unfold String.utf8EncodeChar
  rw [show c.val.toNat = c.toNat from rfl]
  generalize c.toNat = v at hvalid hback
  subst hback
  simp only
  split
  · exact pieces_one (by omega) rest
  · split
    · rw [Nat.mod_eq_of_lt (show v / 64 < 32 by omega)]
      refine (pieces_two (by omega) (by omega) (by omega) rest).trans ?_
      rw [show v / 64 * 64 + v % 64 = v by omega]
    · split
      · rw [Nat.mod_eq_of_lt (show v / 4096 < 16 by omega)]
        refine (pieces_three (by omega) (by omega) (by omega) (by omega) (by omega) rest).trans ?_
        rw [show (v / 4096 * 64 + v / 64 % 64) * 64 + v % 64 = v by omega]
      · rw [Nat.mod_eq_of_lt (show v / 262144 < 8 by omega)]
        refine (pieces_four (by omega) (by omega) (by omega) (by omega) (by omega) (by omega)
          rest).trans ?_
        rw [show ((v / 262144 * 64 + v / 4096 % 64) * 64 + v / 64 % 64) * 64 + v % 64 = v by omega]

/-- **What a text is encoded as is read as its characters.** -/
theorem pieces_encode (s : String) : pieces (encode s) = ofText s := by
  unfold encode ofText
  induction s.toList with
  | nil => rfl
  | cons c l ih => rw [List.flatMap_cons, pieces_utf8EncodeChar_append, ih, List.map_cons]

theorem toByteArray_encode (s : String) : (encode s).toByteArray = s.toUTF8 := by
  show s.toList.utf8Encode = s.toByteArray
  rw [← String.toByteArray_ofList, String.ofList_toList]

/-- Texts with the same bytes are the same. -/
theorem encode_inj {s t : String} : encode s = encode t ↔ s = t := by
  constructor
  · intro h
    have hbytes : s.toUTF8 = t.toUTF8 := by rw [← toByteArray_encode, h, toByteArray_encode]
    exact String.toByteArray_inj.mp hbytes
  · rintro rfl
    rfl

/-! ## Bytes of pieces -/

theorem toNat_val_ofNat {v : Nat} (h : v.isValidChar) : (Char.ofNat v).val.toNat = v := by
  have taken : Char.ofNat v = Char.ofNatAux v h := dif_pos h
  rw [taken]
  rfl

/-- The character that one byte stands for has this byte. -/
theorem utf8EncodeChar_one {n : Nat} (h : n < 0x80) :
    String.utf8EncodeChar (Char.ofNat n) = [.ofNat n] := by
  unfold String.utf8EncodeChar
  rw [toNat_val_ofNat (.inl (by omega))]
  simp only
  rw [if_pos (by omega)]

/-- So do the characters of two bytes, -/
theorem utf8EncodeChar_two {n m : Nat} (h : 2 ≤ n) (hn : n < 32) (hm : m < 64) :
    String.utf8EncodeChar (Char.ofNat (n * 64 + m)) = [.ofNat (n + 0xC0), .ofNat (m + 0x80)] := by
  unfold String.utf8EncodeChar
  rw [toNat_val_ofNat (.inl (by omega))]
  simp only
  rw [if_neg (by omega), if_pos (by omega), show (n * 64 + m) / 64 % 32 = n by omega,
    show (n * 64 + m) % 64 = m by omega]

/-- those of three, -/
theorem utf8EncodeChar_three {n m k : Nat} (hn : n < 16) (hm : m < 64) (hk : k < 64)
    (low : n = 0 → 0x20 ≤ m) (high : n = 0xD → m < 0x20) :
    String.utf8EncodeChar (Char.ofNat ((n * 64 + m) * 64 + k)) =
      [.ofNat (n + 0xE0), .ofNat (m + 0x80), .ofNat (k + 0x80)] := by
  unfold String.utf8EncodeChar
  rw [toNat_val_ofNat (by unfold Nat.isValidChar; omega)]
  simp only
  rw [if_neg (by omega), if_neg (by omega), if_pos (by omega),
    show ((n * 64 + m) * 64 + k) / 4096 % 16 = n by omega,
    show ((n * 64 + m) * 64 + k) / 64 % 64 = m by omega,
    show ((n * 64 + m) * 64 + k) % 64 = k by omega]

/-- and those of four. -/
theorem utf8EncodeChar_four {n m k l : Nat} (hn : n < 5) (hm : m < 64) (hk : k < 64) (hl : l < 64)
    (low : n = 0 → 0x10 ≤ m) (high : n = 4 → m < 0x10) :
    String.utf8EncodeChar (Char.ofNat (((n * 64 + m) * 64 + k) * 64 + l)) =
      [.ofNat (n + 0xF0), .ofNat (m + 0x80), .ofNat (k + 0x80), .ofNat (l + 0x80)] := by
  unfold String.utf8EncodeChar
  rw [toNat_val_ofNat (by unfold Nat.isValidChar; omega)]
  simp only
  rw [if_neg (by omega), if_neg (by omega), if_neg (by omega),
    show (((n * 64 + m) * 64 + k) * 64 + l) / 262144 % 8 = n by omega,
    show (((n * 64 + m) * 64 + k) * 64 + l) / 4096 % 64 = m by omega,
    show (((n * 64 + m) * 64 + k) * 64 + l) / 64 % 64 = k by omega,
    show (((n * 64 + m) * 64 + k) * 64 + l) % 64 = l by omega]

/-- The bytes of a piece. -/
def Piece.bytes : Piece → Bytes
  | .char c => String.utf8EncodeChar c
  | .broken bytes => bytes

theorem eq_ofNat_of_le {b : UInt8} {n : Nat} (h : n ≤ b.toNat) :
    b = .ofNat (b.toNat - n + n) := by
  rw [Nat.sub_add_cancel h, UInt8.ofNat_toNat]

theorem bounds_of_within {b low high : UInt8}
    (h : (decide (low ≤ b) && decide (b ≤ high)) = true) :
    low.toNat ≤ b.toNat ∧ b.toNat ≤ high.toNat := by
  rwa [Bool.and_eq_true, decide_eq_true_eq, decide_eq_true_eq, UInt8.le_iff_toNat_le,
    UInt8.le_iff_toNat_le] at h

/-- A byte within the bounds of a second byte continues an encoding. -/
theorem exists_of_within {b low high : UInt8} (hlow : 0x80 ≤ low.toNat) (hhigh : high.toNat ≤ 0xBF)
    (h : (decide (low ≤ b) && decide (b ≤ high)) = true) :
    ∃ m < 64, b = .ofNat (m + 0x80) ∧ low.toNat ≤ m + 0x80 ∧ m + 0x80 ≤ high.toNat := by
  have bounds := bounds_of_within h
  exact ⟨b.toNat - 0x80, by omega, eq_ofNat_of_le (by omega), by omega, by omega⟩

/-- A byte that continues a character carries six bits. -/
theorem exists_of_isContinuation {b : UInt8} (h : isContinuation b = true) :
    ∃ m < 64, b = .ofNat (m + 0x80) := by
  obtain ⟨m, hm, hb, -⟩ := exists_of_within (by decide) (by decide) h
  exact ⟨m, hm, hb⟩

/-- What the leading bytes announce, by the number of bytes that follow. -/
theorem lead?_eq_some {b : UInt8} {lead : Lead} (h : lead? b = some lead) :
    (∃ n, 2 ≤ n ∧ n < 32 ∧ b = .ofNat (n + 0xC0) ∧ lead = ⟨1, n, 0x80, 0xBF⟩) ∨
    (∃ n < 16, b = .ofNat (n + 0xE0) ∧
      lead = ⟨2, n, if n = 0 then 0xA0 else 0x80, if n = 0xD then 0x9F else 0xBF⟩) ∨
    ∃ n < 5, b = .ofNat (n + 0xF0) ∧
      lead = ⟨3, n, if n = 0 then 0x90 else 0x80, if n = 4 then 0x8F else 0xBF⟩ := by
  unfold lead? at h
  -- some leads bound the second byte further, and each of these is a case of its own
  split at h
  · next hb =>
    cases h
    have bounds : 0xC2 ≤ b.toNat ∧ b.toNat ≤ 0xDF := bounds_of_within hb
    exact .inl ⟨b.toNat - 0xC0, by omega, by omega, eq_ofNat_of_le (by omega), rfl⟩
  · split at h
    · next hb =>
      cases h
      exact .inr (.inl ⟨0, by omega, beq_iff_eq.mp hb, rfl⟩)
    · split at h
      · next hb =>
        cases h
        exact .inr (.inl ⟨0xD, by omega, beq_iff_eq.mp hb, rfl⟩)
      · split at h
        · next hE0 hED hb =>
          cases h
          have bounds : 0xE1 ≤ b.toNat ∧ b.toNat ≤ 0xEF := bounds_of_within hb
          have hne : b.toNat ≠ 0xED := fun heq => hED (beq_iff_eq.mpr (UInt8.toNat_inj.mp heq))
          refine .inr (.inl ⟨b.toNat - 0xE0, by omega, eq_ofNat_of_le (by omega), ?_⟩)
          rw [if_neg (by omega), if_neg (by omega)]
        · split at h
          · next hb =>
            cases h
            exact .inr (.inr ⟨0, by omega, beq_iff_eq.mp hb, rfl⟩)
          · split at h
            · next hb =>
              cases h
              exact .inr (.inr ⟨4, by omega, beq_iff_eq.mp hb, rfl⟩)
            · split at h
              · next hb =>
                cases h
                have bounds : 0xF1 ≤ b.toNat ∧ b.toNat ≤ 0xF3 := bounds_of_within hb
                refine .inr (.inr ⟨b.toNat - 0xF0, by omega, eq_ofNat_of_le (by omega), ?_⟩)
                rw [if_neg (by omega), if_neg (by omega)]
              · cases h

/-- Two bytes that are read as a character are its bytes. -/
theorem bytes_two {b b₁ : UInt8} {lead : Lead} (hlead : lead? b = some lead)
    (second : (decide (lead.low ≤ b₁) && decide (b₁ ≤ lead.high)) = true)
    (following : lead.following = 1) :
    String.utf8EncodeChar (Char.ofNat (extend lead.bits b₁)) = [b, b₁] := by
  rcases lead?_eq_some hlead with ⟨n, h, hn, rfl, rfl⟩ | ⟨n, hn, rfl, rfl⟩ | ⟨n, hn, rfl, rfl⟩
  · obtain ⟨m, hm, rfl⟩ := exists_of_isContinuation second
    rw [extend_ofNat _ hm, utf8EncodeChar_two h hn hm]
  · cases following
  · cases following

/-- So are three, -/
theorem bytes_three {b b₁ b₂ : UInt8} {lead : Lead} (hlead : lead? b = some lead)
    (second : (decide (lead.low ≤ b₁) && decide (b₁ ≤ lead.high)) = true)
    (third : isContinuation b₂ = true) (following : lead.following = 2) :
    String.utf8EncodeChar (Char.ofNat (extend (extend lead.bits b₁) b₂)) = [b, b₁, b₂] := by
  rcases lead?_eq_some hlead with ⟨n, h, hn, rfl, rfl⟩ | ⟨n, hn, rfl, rfl⟩ | ⟨n, hn, rfl, rfl⟩
  · cases following
  · have hlow : 0x80 ≤ (if n = 0 then 0xA0 else 0x80 : UInt8).toNat := by split <;> decide
    have hhigh : (if n = 0xD then 0x9F else 0xBF : UInt8).toNat ≤ 0xBF := by split <;> decide
    obtain ⟨m, hm, rfl, low, high⟩ := exists_of_within hlow hhigh second
    obtain ⟨k, hk, rfl⟩ := exists_of_isContinuation third
    rw [extend_ofNat _ hm, extend_ofNat _ hk, utf8EncodeChar_three hn hm hk]
    · intro h
      rw [if_pos h] at low
      exact Nat.le_of_add_le_add_right (show 0x20 + 0x80 ≤ m + 0x80 from low)
    · intro h
      rw [if_pos h] at high
      exact Nat.lt_of_add_lt_add_right (show m + 0x80 < 0x20 + 0x80 from Nat.lt_succ_of_le high)
  · cases following

/-- and four. -/
theorem bytes_four {b b₁ b₂ b₃ : UInt8} {lead : Lead} (hlead : lead? b = some lead)
    (second : (decide (lead.low ≤ b₁) && decide (b₁ ≤ lead.high)) = true)
    (third : isContinuation b₂ = true) (fourth : isContinuation b₃ = true)
    (hone : lead.following ≠ 1) (htwo : lead.following ≠ 2) :
    String.utf8EncodeChar (Char.ofNat (extend (extend (extend lead.bits b₁) b₂) b₃)) =
      [b, b₁, b₂, b₃] := by
  rcases lead?_eq_some hlead with ⟨n, h, hn, rfl, rfl⟩ | ⟨n, hn, rfl, rfl⟩ | ⟨n, hn, rfl, rfl⟩
  · exact absurd rfl hone
  · exact absurd rfl htwo
  · have hlow : 0x80 ≤ (if n = 0 then 0x90 else 0x80 : UInt8).toNat := by split <;> decide
    have hhigh : (if n = 4 then 0x8F else 0xBF : UInt8).toNat ≤ 0xBF := by split <;> decide
    obtain ⟨m, hm, rfl, low, high⟩ := exists_of_within hlow hhigh second
    obtain ⟨k, hk, rfl⟩ := exists_of_isContinuation third
    obtain ⟨l, hl, rfl⟩ := exists_of_isContinuation fourth
    rw [extend_ofNat _ hm, extend_ofNat _ hk, extend_ofNat _ hl, utf8EncodeChar_four hn hm hk hl]
    · intro h
      rw [if_pos h] at low
      exact Nat.le_of_add_le_add_right (show 0x10 + 0x80 ≤ m + 0x80 from low)
    · intro h
      rw [if_pos h] at high
      exact Nat.lt_of_add_lt_add_right (show m + 0x80 < 0x10 + 0x80 from Nat.lt_succ_of_le high)

/-- The pieces make up the bytes. -/
theorem flatMap_bytes_pieces (bytes : Bytes) : (pieces bytes).flatMap Piece.bytes = bytes := by
  -- the cases are those of the decoder: a byte alone, two, three or four of them, or a broken run
  fun_induction pieces bytes with
  | case1 => rfl
  | case2 b rest h ih =>
    have hone : String.utf8EncodeChar (Char.ofNat b.toNat) = [b] := by
      rw [utf8EncodeChar_one (show b.toNat < 0x80 from h), UInt8.ofNat_toNat]
    rw [List.flatMap_cons, ih, Piece.bytes, hone, List.singleton_append]
  | case3 b rest _ _ ih => rw [List.flatMap_cons, ih, Piece.bytes, List.singleton_append]
  | case4 => rfl
  | case5 b _ lead hlead b₁ rest₁ hsecond hfollowing ih =>
    rw [List.flatMap_cons, ih, Piece.bytes, bytes_two hlead hsecond hfollowing]
    rfl
  | case6 => rfl
  | case7 b _ lead hlead b₁ hsecond hone b₂ rest₂ hthird htwo ih =>
    rw [List.flatMap_cons, ih, Piece.bytes, bytes_three hlead hsecond hthird htwo]
    rfl
  | case8 => rfl
  | case9 b _ lead hlead b₁ hsecond hone b₂ hthird htwo b₃ rest₃ hfourth ih =>
    rw [List.flatMap_cons, ih, Piece.bytes, bytes_four hlead hsecond hthird hfourth hone htwo]
    rfl
  | case10 _ _ _ _ _ _ _ _ _ _ _ _ _ ih =>
    rw [List.flatMap_cons, ih]
    rfl
  | case11 _ _ _ _ _ _ _ _ _ _ ih =>
    rw [List.flatMap_cons, ih]
    rfl
  | case12 _ _ _ _ _ _ _ ih =>
    rw [List.flatMap_cons, ih]
    rfl

/-- Pieces are characters throughout, or they are not. -/
theorem mapM_char?_eq_some_iff {l : List Piece} {cs : List Char} :
    l.mapM Piece.char? = some cs ↔ l = cs.map .char := by
  induction l generalizing cs with
  | nil => cases cs <;> simp
  | cons p l ih =>
    rw [List.mapM_cons]
    cases p with
    | broken bytes => cases cs <;> simp [Piece.char?]
    | char c => cases cs <;> simp [Piece.char?, Option.bind_eq_some_iff, ih, and_comm]

/-- **The bytes are valid exactly if they are the encoding of a text.** -/
theorem decode?_eq_some_iff {bytes : Bytes} {s : String} :
    decode? bytes = some s ↔ bytes = encode s := by
  have chars : decode? bytes = some s ↔ pieces bytes = ofText s := by
    unfold decode? ofText
    rw [Option.map_eq_some_iff]
    simp only [mapM_char?_eq_some_iff]
    constructor
    · rintro ⟨cs, hcs, rfl⟩
      rw [hcs, String.toList_ofList]
    · intro h
      exact ⟨s.toList, h, String.ofList_toList⟩
  rw [chars]
  constructor
  · intro h
    rw [← flatMap_bytes_pieces bytes, h, ofText, List.flatMap_map]
    rfl
  · rintro rfl
    exact pieces_encode s

/-! ## Null -/

theorem zero_ne_ofNat {n : Nat} (h : n < 256) (h' : 0 < n) : (0 : UInt8) ≠ .ofNat n := by
  intro heq
  have hzero := congrArg UInt8.toNat heq
  rw [toNat_ofNat_of_lt h] at hzero
  exact absurd hzero (Nat.ne_of_lt h')

/-- The null byte is only used for the null character. -/
theorem zero_mem_utf8EncodeChar_iff {c : Char} : 0 ∈ String.utf8EncodeChar c ↔ c = '\x00' := by
  constructor
  · intro h
    by_contra hne
    have hpos : 0 < c.toNat := Nat.pos_of_ne_zero fun hzero => hne (Char.toNat_inj.mp hzero)
    have hvalid : c.toNat < 0xD800 ∨ 0xDFFF < c.toNat ∧ c.toNat < 0x110000 := c.valid
    unfold String.utf8EncodeChar at h
    rw [show c.val.toNat = c.toNat from rfl] at h
    simp only at h
    split at h
    · exact zero_ne_ofNat (by omega) hpos (List.mem_singleton.mp h)
    · split at h
      · simp only [List.mem_cons, List.not_mem_nil, or_false] at h
        rcases h with h | h <;> exact zero_ne_ofNat (by omega) (by omega) h
      · split at h
        · simp only [List.mem_cons, List.not_mem_nil, or_false] at h
          rcases h with h | h | h <;> exact zero_ne_ofNat (by omega) (by omega) h
        · simp only [List.mem_cons, List.not_mem_nil, or_false] at h
          rcases h with h | h | h | h <;> exact zero_ne_ofNat (by omega) (by omega) h
  · rintro rfl
    decide

theorem zero_ne_of_not_ascii {b : UInt8} (h : ¬b < 0x80) : 0 ≠ b := by
  rintro rfl
  exact h (by decide)

/-- No byte behind the first one is zero. -/
theorem zero_ne_of_second {b b₁ : UInt8} {lead : Lead} (hlead : lead? b = some lead)
    (h : (decide (lead.low ≤ b₁) && decide (b₁ ≤ lead.high)) = true) : 0 ≠ b₁ := by
  rintro rfl
  have low : lead.low.toNat ≤ 0 := (bounds_of_within h).1
  rcases lead?_eq_some hlead with ⟨n, -, -, -, rfl⟩ | ⟨n, -, -, rfl⟩ | ⟨n, -, -, rfl⟩
  · exact absurd low (by simp)
  · simp only at low
    split at low <;> exact absurd low (by decide)
  · simp only at low
    split at low <;> exact absurd low (by decide)

theorem zero_ne_of_isContinuation {b : UInt8} (h : isContinuation b = true) : 0 ≠ b := by
  rintro rfl
  exact absurd h (by decide)

/-- Of all characters only the null character has a byte that is zero. -/
theorem null_char (c : Char) : (Piece.char c).lossy = '\x00' ↔ 0 ∈ (Piece.char c).bytes :=
  zero_mem_utf8EncodeChar_iff.symm

/-- A run of broken bytes that has no zero is not shown as the null character. -/
theorem null_broken {run : Bytes} (h : 0 ∉ run) :
    (Piece.broken run).lossy = '\x00' ↔ 0 ∈ (Piece.broken run).bytes :=
  ⟨fun h' => absurd h' (show '\uFFFD' ≠ '\x00' by decide), fun h' => absurd h' h⟩

/-- The null byte is a character, so it is not among bytes that encode none. -/
theorem null_pieces (bytes : Bytes) : ∀ p ∈ pieces bytes, p.lossy = '\x00' ↔ 0 ∈ p.bytes := by
  fun_induction pieces bytes with
  | case1 => exact nofun
  | case2 b rest _ ih => exact List.forall_mem_cons.mpr ⟨null_char _, ih⟩
  | case3 b rest hb _ ih =>
    exact List.forall_mem_cons.mpr ⟨null_broken (by simp [zero_ne_of_not_ascii hb]), ih⟩
  | case4 b hb lead hlead =>
    exact List.forall_mem_singleton.mpr (null_broken (by simp [zero_ne_of_not_ascii hb]))
  | case5 b _ lead hlead b₁ rest₁ hsecond hfollowing ih =>
    exact List.forall_mem_cons.mpr ⟨null_char _, ih⟩
  | case6 b hb lead hlead b₁ hsecond =>
    exact List.forall_mem_singleton.mpr
      (null_broken (by simp [zero_ne_of_not_ascii hb, zero_ne_of_second hlead hsecond]))
  | case7 b _ lead hlead b₁ hsecond hone b₂ rest₂ hthird htwo ih =>
    exact List.forall_mem_cons.mpr ⟨null_char _, ih⟩
  | case8 b hb lead hlead b₁ hsecond hone b₂ hthird =>
    exact List.forall_mem_singleton.mpr
      (null_broken (by simp [zero_ne_of_not_ascii hb, zero_ne_of_second hlead hsecond,
        zero_ne_of_isContinuation hthird]))
  | case9 b _ lead hlead b₁ hsecond hone b₂ hthird htwo b₃ rest₃ hfourth ih =>
    exact List.forall_mem_cons.mpr ⟨null_char _, ih⟩
  | case10 b hb lead hlead b₁ hsecond hone b₂ hthird htwo b₃ rest₃ hfourth ih =>
    exact List.forall_mem_cons.mpr
      ⟨null_broken (by simp [zero_ne_of_not_ascii hb, zero_ne_of_second hlead hsecond,
        zero_ne_of_isContinuation hthird]), ih⟩
  | case11 b hb lead hlead b₁ hsecond hone b₂ rest₂ hthird ih =>
    exact List.forall_mem_cons.mpr
      ⟨null_broken (by simp [zero_ne_of_not_ascii hb, zero_ne_of_second hlead hsecond]), ih⟩
  | case12 b hb lead hlead b₁ rest₁ hsecond ih =>
    exact List.forall_mem_cons.mpr ⟨null_broken (by simp [zero_ne_of_not_ascii hb]), ih⟩

/-- A text that was read with losses has a null character if the bytes have a zero. -/
theorem null_mem_decodeLossy_iff {bytes : Bytes} :
    '\x00' ∈ (decodeLossy bytes).toList ↔ 0 ∈ bytes := by
  unfold decodeLossy
  rw [String.toList_ofList, List.mem_map]
  constructor
  · rintro ⟨p, hp, null⟩
    rw [← flatMap_bytes_pieces bytes, List.mem_flatMap]
    exact ⟨p, hp, (null_pieces bytes p hp).mp null⟩
  · intro h
    rw [← flatMap_bytes_pieces bytes, List.mem_flatMap] at h
    obtain ⟨p, hp, hzero⟩ := h
    exact ⟨p, hp, (null_pieces bytes p hp).mpr hzero⟩

theorem pieces_eq_nil_iff {bytes : Bytes} : pieces bytes = [] ↔ bytes = [] := by
  constructor
  · intro h
    rw [← flatMap_bytes_pieces bytes, h, List.flatMap_nil]
  · rintro rfl
    rfl

/-- Nothing is lost altogether: only from no bytes comes an empty text. -/
theorem decodeLossy_eq_empty_iff {bytes : Bytes} : decodeLossy bytes = "" ↔ bytes = [] := by
  rw [← pieces_eq_nil_iff]
  unfold decodeLossy
  rw [← String.toList_inj, String.toList_ofList]
  exact List.map_eq_nil_iff

/-! ## Order -/

/-- Bytes are compared from the first one on. -/
theorem cons_lt_cons_ofNat {n m : Nat} {s t : Bytes} (hm : m < 256) (h : n < m ∨ n = m ∧ s < t) :
    UInt8.ofNat n :: s < UInt8.ofNat m :: t := by
  rw [List.cons_lt_cons_iff]
  rcases h with h | ⟨rfl, h⟩
  · left
    rw [UInt8.lt_iff_toNat_lt, toNat_ofNat_of_lt (h.trans hm), toNat_ofNat_of_lt hm]
    exact h
  · exact .inr ⟨rfl, h⟩

theorem lt_two {a b a' b' : Nat} {s t : Bytes} (ha : a' < 256) (hb : b' < 256)
    (h : a < a' ∨ a = a' ∧ b < b') :
    UInt8.ofNat a :: .ofNat b :: s < UInt8.ofNat a' :: .ofNat b' :: t :=
  cons_lt_cons_ofNat ha (h.imp_right (And.imp_right fun h => cons_lt_cons_ofNat hb (.inl h)))

theorem lt_three {a b c a' b' c' : Nat} {s t : Bytes} (ha : a' < 256) (hb : b' < 256)
    (hc : c' < 256) (h : a < a' ∨ a = a' ∧ (b < b' ∨ b = b' ∧ c < c')) :
    UInt8.ofNat a :: .ofNat b :: .ofNat c :: s < UInt8.ofNat a' :: .ofNat b' :: .ofNat c' :: t :=
  cons_lt_cons_ofNat ha (h.imp_right (And.imp_right (lt_two hb hc)))

theorem lt_four {a b c d a' b' c' d' : Nat} {s t : Bytes} (ha : a' < 256) (hb : b' < 256)
    (hc : c' < 256) (hd : d' < 256)
    (h : a < a' ∨ a = a' ∧ (b < b' ∨ b = b' ∧ (c < c' ∨ c = c' ∧ d < d'))) :
    UInt8.ofNat a :: .ofNat b :: .ofNat c :: .ofNat d :: s <
      UInt8.ofNat a' :: .ofNat b' :: .ofNat c' :: .ofNat d' :: t :=
  cons_lt_cons_ofNat ha (h.imp_right (And.imp_right (lt_three hb hc hd)))

/-- The encoding of a lesser character is less, whatever follows: where the numbers of bytes differ,
the leading bytes do. -/
theorem utf8EncodeChar_append_lt {c d : Char} (h : c < d) (s t : Bytes) :
    String.utf8EncodeChar c ++ s < String.utf8EncodeChar d ++ t := by
  have hlt : c.val.toNat < d.val.toNat := h
  have hd : d.val.toNat < 0x110000 := by
    have hvalid : d.val.toNat < 0xD800 ∨ 0xDFFF < d.val.toNat ∧ d.val.toNat < 0x110000 := d.valid
    omega
  unfold String.utf8EncodeChar
  generalize c.val.toNat = v at hlt
  generalize d.val.toNat = w at hlt hd
  simp only
  -- by the number of bytes of the smaller character; the greater one has at least as many
  by_cases one : v ≤ 0x7F
  · rw [if_pos one]
    split
    · exact cons_lt_cons_ofNat (by omega) (.inl hlt)
    · split
      · exact cons_lt_cons_ofNat (by omega) (.inl (by omega))
      · split <;> exact cons_lt_cons_ofNat (by omega) (.inl (by omega))
  · rw [if_neg one, if_neg (show ¬w ≤ 0x7F by omega)]
    by_cases two : v ≤ 0x7FF
    · rw [if_pos two]
      split
      · exact lt_two (by omega) (by omega) (by omega)
      · split <;> exact cons_lt_cons_ofNat (by omega) (.inl (by omega))
    · rw [if_neg two, if_neg (show ¬w ≤ 0x7FF by omega)]
      by_cases three : v ≤ 0xFFFF
      · rw [if_pos three]
        split
        · exact lt_three (by omega) (by omega) (by omega) (by omega)
        · exact cons_lt_cons_ofNat (by omega) (.inl (by omega))
      · rw [if_neg three, if_neg (show ¬w ≤ 0xFFFF by omega),
          Nat.mod_eq_of_lt (show v / 262144 < 8 by omega),
          Nat.mod_eq_of_lt (show w / 262144 < 8 by omega)]
        exact lt_four (by omega) (by omega) (by omega) (by omega) (by omega)

/-- The bytes of characters are in the order of the characters. -/
theorem flatMap_utf8EncodeChar_lt {l k : List Char} (h : l < k) :
    l.flatMap String.utf8EncodeChar < k.flatMap String.utf8EncodeChar := by
  induction k generalizing l with
  | nil => exact absurd h (List.not_lt_nil l)
  | cons d k ih =>
    rw [List.flatMap_cons]
    cases l with
    | nil =>
      obtain ⟨b, bytes, hb⟩ := List.exists_cons_of_ne_nil (String.utf8EncodeChar_ne_nil (c := d))
      rw [hb]
      exact List.nil_lt_cons _ _
    | cons c l =>
      rw [List.flatMap_cons]
      rcases List.cons_lt_cons_iff.mp h with hlt | ⟨rfl, hlt⟩
      · exact utf8EncodeChar_append_lt hlt _ _
      · exact List.append_left_lt (ih hlt)

theorem encode_lt_encode {s t : String} (h : s < t) : encode s < encode t :=
  flatMap_utf8EncodeChar_lt (String.lt_iff.mp h)

/-- The order of texts is that of their bytes. -/
theorem encode_le_encode_iff {s t : String} : encode s ≤ encode t ↔ s ≤ t := by
  constructor
  · intro h
    rw [← String.not_lt]
    exact fun hlt => List.not_le.mpr (encode_lt_encode hlt) h
  · intro h
    by_cases heq : s = t
    · rw [heq]
      exact List.le_refl _
    · exact List.not_lt.mp (List.lt_asymm (encode_lt_encode (Std.lt_of_le_of_ne h heq)))

/-- What is sorted by a text is in the order of the bytes. -/
theorem pairwise_mergeSort {α : Type} (text : α → String) (l : List α) :
    (l.mergeSort fun a b => text a ≤ text b).Pairwise fun a b =>
      encode (text a) ≤ encode (text b) := by
  refine (pairwise_mergeSort_text text l).imp ?_
  exact encode_le_encode_iff.mpr

end ChainBroker.Utf8
