import ServiceLoom.Dict
import ServiceLoom.Text.Category

/-!
# Placeholders

A placeholder is a word between double braces. Substitution replaces every
placeholder whose word has a value, and leaves everything else as it is; a value
that was put in is not searched again.
-/

namespace ServiceLoom.Template

/-- The word and the rest, if a placeholder's opening braces are followed by a
word and closing braces. -/
def placeholder? (cs : List Char) : Option (List Char × List Char) :=
  match cs.takeWhile Text.isWordChar, cs.dropWhile Text.isWordChar with
  | [], _ => none
  | word, '\x7d' :: '\x7d' :: rest => some (word, rest)
  | _, _ => none

/-- What follows a placeholder is shorter than what follows its opening
braces. -/
theorem length_lt_of_placeholder? {cs word rest : List Char}
    (h : placeholder? cs = some (word, rest)) : rest.length < cs.length := by
  have hle := (List.dropWhile_suffix Text.isWordChar (l := cs)).length_le
  unfold placeholder? at h
  generalize cs.takeWhile Text.isWordChar = front at h
  generalize cs.dropWhile Text.isWordChar = back at h hle
  split at h
  · simp at h
  · simp only [Option.some.injEq, Prod.mk.injEq] at h
    obtain ⟨-, rfl⟩ := h
    simp only [List.length_cons] at hle
    omega
  · simp at h

/-- A placeholder as it was written. -/
def written (word : List Char) : List Char :=
  ['\x7b', '\x7b'] ++ word ++ ['\x7d', '\x7d']

/-- What stands for a placeholder: the value of its word, or the placeholder
itself. -/
def replacement (context : Dict String) (word : List Char) : List Char :=
  match context.get? (String.ofList word) with
  | some value => value.toList
  | none => written word

/-- The characters with every placeholder replaced that has a value. -/
def substituteChars (context : Dict String) : List Char → List Char
  | [] => []
  | '\x7b' :: '\x7b' :: cs =>
    match h : placeholder? cs with
    | some (word, rest) =>
      have := length_lt_of_placeholder? h
      replacement context word ++ substituteChars context rest
    | none => '\x7b' :: substituteChars context ('\x7b' :: cs)
  | c :: cs => c :: substituteChars context cs
termination_by cs => cs.length
decreasing_by all_goals simp_wf; try omega

/-- The text with every placeholder replaced that has a value. -/
def substitute (context : Dict String) (text : String) : String :=
  String.ofList (substituteChars context text.toList)

end ServiceLoom.Template
