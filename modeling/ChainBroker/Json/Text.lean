import ChainBroker.Json.Source
import ChainBroker.Text.Hex

/-!
# Texts in JSON

What is demanded of a text depends on its use: `openText` decodes it, so its escapes must denote
characters and its bytes must be UTF-8; `skipText` passes over it and checks the shape of the
escapes only. Neither lets a control character pass.
-/

namespace ChainBroker.Json

open Utf8 (Piece)

/-- The value of a piece that is a hexadecimal digit. -/
def hexPiece? : Piece → Option Nat
  | .char c => Text.hexValue? c
  | .broken _ => none

/-- Four hexadecimal digits. Fewer than four bytes before the end are an early end, and any other
four bytes are no escape. -/
def hexQuad : Reader Nat
  | a :: b :: c :: d :: rest =>
    match hexPiece? a, hexPiece? b, hexPiece? c, hexPiece? d with
    | some a, some b, some c, some d =>
      .ok ⟨((a * 16 + b) * 16 + c) * 16 + d, rest, by simp only [List.length_cons]; omega⟩
    | _, _, _, _ => .error .invalidEscape
  | s =>
    if s.foldl (fun size piece => size + piece.size) 0 < 4 then .error .endInText
    else .error .invalidEscape

/-- The character of a letter that follows a backslash. -/
def escapeLetter? : Char → Option Char
  | '"' => some '"'
  | '\\' => some '\\'
  | '/' => some '/'
  | 'b' => some '\x08'
  | 'f' => some '\x0c'
  | 'n' => some '\n'
  | 'r' => some '\r'
  | 't' => some '\t'
  | _ => none

/-- The second half of a surrogate pair, after the first half. -/
def lowSurrogate (high : Nat) (s : Source) : Except Fault (Taken s.length Char) :=
  match s with
  | [] => .error .endInText
  | .char '\\' :: s₁ =>
    match s₁ with
    | [] => .error .endInText
    | .char 'u' :: s₂ =>
      match hexQuad s₂ with
      | .error e => .error e
      | .ok low =>
        if 0xDC00 ≤ low.value && low.value ≤ 0xDFFF then
          let c := Char.ofNat (0x10000 + (high - 0xD800) * 0x400 + (low.value - 0xDC00))
          .ok ⟨c, low.rest, by have := low.shorter; simp only [List.length_cons]; omega⟩
        else .error .loneSurrogate
    | _ => .error .surrogateCut
  | _ => .error .surrogateCut

/-- The character that an escape stands for, after its backslash. -/
def escape? (s : Source) : Except Fault (Taken s.length Char) :=
  match s with
  | [] => .error .endInText
  | .char 'u' :: rest =>
    match hexQuad rest with
    | .error e => .error e
    | .ok unit =>
      have := unit.shorter
      if 0xDC00 ≤ unit.value && unit.value ≤ 0xDFFF then .error .loneSurrogate
      else if 0xD800 ≤ unit.value && unit.value ≤ 0xDBFF then
        match lowSurrogate unit.value unit.rest with
        | .error e => .error e
        | .ok c => .ok (c.widen (by simp only [List.length_cons]; omega))
      else .ok ⟨Char.ofNat unit.value, unit.rest, by simp only [List.length_cons]; omega⟩
  | .char c :: rest =>
    match escapeLetter? c with
    | some c => .ok ⟨c, rest, by simp⟩
    | none => .error .invalidEscape
  | .broken _ :: _ => .error .invalidEscape

/-- Whether the piece is a character that may not stand in a text. -/
def isControl : Piece → Bool
  | .char c => c.toNat < 0x20
  | .broken _ => false

/-- The pieces of a text up to its closing quotation mark, with its escapes replaced. -/
def textBody (s : Source) : Except Fault (Taken s.length (List Piece)) :=
  match s with
  | [] => .error .endInText
  | .char '"' :: rest => .ok ⟨[], rest, by simp⟩
  | .char '\\' :: rest =>
    match escape? rest with
    | .error e => .error e
    | .ok c =>
      have := c.shorter
      match textBody c.rest with
      | .error e => .error e
      | .ok body =>
        .ok ((body.map (.char c.value :: ·)).widen (by simp only [List.length_cons]; omega))
  | p :: rest =>
    if isControl p then .error .controlCharacter
    else
      match textBody rest with
      | .error e => .error e
      | .ok body => .ok ((body.map (p :: ·)).behind p)
termination_by s.length

/-- The text that the pieces make, if all of them are characters. -/
def decodeText (pieces : List Piece) : Except Fault String :=
  match pieces.mapM Piece.char? with
  | some cs => .ok (String.ofList cs)
  | none => .error .notUtf8

/-- A text after its opening quotation mark. -/
def openText (s : Source) : Except Fault (Taken s.length String) :=
  match textBody s with
  | .error e => .error e
  | .ok body =>
    match decodeText body.value with
    | .error e => .error e
    | .ok decoded => .ok (body.map fun _ => decoded)

/-- Passes over a text after its opening quotation mark: escapes are checked for their shape only.
-/
def skipText (s : Source) : Except Fault (Taken s.length Unit) :=
  match s with
  | [] => .error .endInText
  | .char '"' :: rest => .ok ⟨(), rest, by simp⟩
  | .char '\\' :: .char 'u' :: rest =>
    match hexQuad rest with
    | .error e => .error e
    | .ok unit =>
      have := unit.shorter
      match skipText unit.rest with
      | .error e => .error e
      | .ok t => .ok (t.widen (by simp only [List.length_cons]; omega))
  | [.char '\\'] => .error .endInText
  | .char '\\' :: p :: rest =>
    if (p.char?.bind escapeLetter?).isSome then
      match skipText rest with
      | .error e => .error e
      | .ok t => .ok (t.widen (by simp only [List.length_cons]; omega))
    else .error .invalidEscape
  | p :: rest =>
    if isControl p then .error .controlCharacter
    else
      match skipText rest with
      | .error e => .error e
      | .ok t => .ok (t.behind p)
termination_by s.length

end ChainBroker.Json
