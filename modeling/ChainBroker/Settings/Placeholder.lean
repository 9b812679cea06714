/-!
# Placeholders

A placeholder is a dollar sign and a name between braces; the name is not empty and holds no closing
brace. Where a text has a placeholder whose name has a value, the value stands in its place.
Everything else stays as it is, and values are not looked at again.
-/

namespace ChainBroker.Placeholder

/-- The name of the placeholder at the front of a text, given what follows its opening brace, and
the rest of the text. -/
def name? (s : List Char) : Option (List Char × List Char) :=
  match s.takeWhile (· ≠ '\x7d'), s.dropWhile (· ≠ '\x7d') with
  | c :: name, _ :: rest => some (c :: name, rest)
  | _, _ => none

theorem length_lt_of_name? {s name rest : List Char} (h : name? s = some (name, rest)) :
    rest.length < s.length := by
  unfold name? at h
  split at h
  · next heq =>
    have := (List.dropWhile_suffix (· ≠ '\x7d') (l := s)).length_le
    rw [heq] at this
    simp only [Option.some.injEq, Prod.mk.injEq] at h
    rw [← h.2]
    exact this
  · simp at h

/-- The text with the values of its placeholders. -/
def substitute (value : String → Option String) : List Char → List Char
  | [] => []
  | '$' :: '\x7b' :: s =>
    match h : name? s with
    | some (name, rest) =>
      have := length_lt_of_name? h
      let inserted := match value (String.ofList name) with
        | some v => v.toList
        | none => '$' :: '\x7b' :: name ++ ['\x7d']
      inserted ++ substitute value rest
    | none => '$' :: substitute value ('\x7b' :: s)
  | c :: s => c :: substitute value s
termination_by s => s.length
decreasing_by all_goals (simp only [List.length_cons]; omega)

end ChainBroker.Placeholder
