import ServiceLoom.Template.Placeholder
import Mathlib.Data.List.TakeWhile

/-!
# What substitution does to a text

A placeholder lies within one line and has its own braces.  So substitution can
be cut at any line break and at any placeholder: what is on one side does not
matter for the other.  A value is put in as it is, and a text in which no
placeholder with a value stands is left alone.

* `StartsAnew.substituteChars_append` — where a text can be cut;
* `substituteChars_lineBreak`, `substituteChars_written` — at line breaks and at
  placeholders;
* `substitute_join` — texts that each end where a line ends;
* `substituteChars_eq_self` — texts that are left alone.
-/

namespace ServiceLoom.Template

variable {context : Dict String} {cs front back word rest : List Char}

/-! ## Parts that end where lines end -/

/-- The text is empty or ends with a line break. -/
def EndsLine (cs : List Char) : Prop := ∀ c, cs.getLast? = some c → c = '\n'

theorem EndsLine.tail {c : Char} (h : EndsLine (c :: cs)) : EndsLine cs := by
  intro last hlast
  cases cs with
  | nil => cases hlast
  | cons next rest =>
      exact h last (by rw [List.getLast?_cons_cons]; exact hlast)

/-- Whatever stands before the end of a line, the line break follows. -/
theorem EndsLine.mem_of_ne {c : Char} (h : EndsLine (c :: cs)) (hc : c ≠ '\n') :
    '\n' ∈ cs := by
  cases hlast : cs.getLast? with
  | none =>
      rw [List.getLast?_eq_none_iff.mp hlast] at h
      exact absurd (h c rfl) hc
  | some last =>
      rw [← h.tail last hlast]
      exact List.mem_of_getLast? hlast

theorem endsLine_concat (cs : List Char) : EndsLine (cs ++ ['\n']) := by
  intro c hc
  rw [List.getLast?_concat] at hc
  exact (Option.some.inj hc).symm

/-- A line break is no part of a word. -/
theorem isWordChar_lineBreak : Text.isWordChar '\n' = false := by decide +kernel

/-- Neither is a brace. -/
theorem isWordChar_openingBrace : Text.isWordChar '\x7b' = false := by
  decide +kernel

/-! ## Placeholders -/

/-- What is read as a placeholder is a word and its closing braces. -/
theorem eq_of_placeholder?_eq_some (h : placeholder? cs = some (word, rest)) :
    word ≠ [] ∧ (∀ c ∈ word, Text.isWordChar c = true) ∧
    cs = word ++ '\x7d' :: '\x7d' :: rest := by
  have hsplit := List.takeWhile_append_dropWhile (p := Text.isWordChar) (l := cs)
  have hword : ∀ c ∈ cs.takeWhile Text.isWordChar, Text.isWordChar c = true :=
    fun c hc => List.mem_takeWhile_imp hc
  unfold placeholder? at h
  generalize cs.takeWhile Text.isWordChar = start at h hsplit hword
  generalize cs.dropWhile Text.isWordChar = tail at h hsplit
  split at h
  · cases h
  next _ _ hne =>
    simp only [Option.some.injEq, Prod.mk.injEq] at h
    obtain ⟨rfl, rfl⟩ := h
    exact ⟨hne, hword, hsplit.symm⟩
  · cases h

/-- A word before closing braces is read as a placeholder. -/
theorem placeholder?_word (hne : word ≠ [])
    (hword : ∀ c ∈ word, Text.isWordChar c = true) (rest : List Char) :
    placeholder? (word ++ '\x7d' :: '\x7d' :: rest) = some (word, rest) := by
  have hclose : ¬ Text.isWordChar '\x7d' = true := by decide +kernel
  rw [placeholder?, List.takeWhile_append_of_pos hword,
    List.dropWhile_append_of_pos hword, List.takeWhile_cons_of_neg hclose,
    List.dropWhile_cons_of_neg hclose, List.append_nil]
  cases word with
  | nil => exact absurd rfl hne
  | cons c rest => rfl

/-- A word does not start with a brace. -/
theorem placeholder?_brace (cs : List Char) :
    placeholder? ('\x7b' :: cs) = none := by
  rw [placeholder?,
    List.takeWhile_cons_of_neg (ne_true_of_eq_false isWordChar_openingBrace)]

/-- A text that no placeholder before it reaches into: its first character is no
part of a word and closes nothing, and if that is an opening brace, then it
opens nothing together with a brace before it. -/
structure StartsAnew (back : List Char) : Prop where
  not_word : ∀ c, back.head? = some c → Text.isWordChar c = false
  not_closing : ∀ c, back.head? = some c → c ≠ '\x7d'
  not_opening : ∀ rest, back = '\x7b' :: rest → placeholder? rest = none

/-- What follows a line break starts anew with it. -/
theorem startsAnew_lineBreak (rest : List Char) :
    StartsAnew ('\n' :: rest) where
  not_word := by
    rintro c ⟨⟩
    exact isWordChar_lineBreak
  not_closing := by
    rintro c ⟨⟩
    decide
  not_opening := nofun

/-- So does a placeholder with its own braces. -/
theorem startsAnew_written (word rest : List Char) :
    StartsAnew (written word ++ rest) where
  not_word := by
    rintro c ⟨⟩
    exact isWordChar_openingBrace
  not_closing := by
    rintro c ⟨⟩
    decide
  not_opening := by
    rintro tail ⟨⟩
    exact placeholder?_brace _

/-- A word at the front stops where a text starts anew, at the latest. -/
theorem StartsAnew.takeWhile_dropWhile_append (h : StartsAnew back)
    (cs : List Char) :
    (cs ++ back).takeWhile Text.isWordChar = cs.takeWhile Text.isWordChar ∧
      (cs ++ back).dropWhile Text.isWordChar =
        cs.dropWhile Text.isWordChar ++ back := by
  induction cs with
  | nil =>
      cases back with
      | nil => exact ⟨rfl, rfl⟩
      | cons c back => simp [h.not_word c rfl]
  | cons c rest ih =>
      cases hc : Text.isWordChar c with
      | false => simp [hc]
      | true => simpa [hc] using ih

/-- What starts anew does not matter for a placeholder before it. -/
theorem StartsAnew.placeholder?_append (h : StartsAnew back) (cs : List Char) :
    placeholder? (cs ++ back) = (placeholder? cs).map fun e =>
      (e.1, e.2 ++ back) := by
  obtain ⟨htake, hdrop⟩ := h.takeWhile_dropWhile_append cs
  have hclosing := h.not_closing
  unfold placeholder?
  rw [htake, hdrop]
  generalize cs.takeWhile Text.isWordChar = word
  generalize cs.dropWhile Text.isWordChar = tail
  cases word with
  | nil => rfl
  | cons w word =>
      match tail, back with
      | [], [] => rfl
      | [], c :: back => simp [hclosing c rfl]
      | [a], [] => simp
      | [a], c :: back => simp [hclosing c rfl]
      | a :: b :: tail, back =>
          by_cases ha : a = '\x7d'
          · by_cases hb : b = '\x7d'
            · subst ha hb
              rfl
            · simp [hb]
          · simp [ha]

/-! ## Substitution -/

section Steps

variable (context : Dict String)

theorem substituteChars_of_some (h : placeholder? cs = some (word, rest)) :
    substituteChars context ('\x7b' :: '\x7b' :: cs) =
      replacement context word ++ substituteChars context rest := by
  rw [substituteChars]
  split
  next heq =>
    rw [h] at heq
    cases heq
    rfl
  next heq =>
    rw [h] at heq
    cases heq

theorem substituteChars_of_none (h : placeholder? cs = none) :
    substituteChars context ('\x7b' :: '\x7b' :: cs) =
      '\x7b' :: substituteChars context ('\x7b' :: cs) := by
  rw [substituteChars]
  split
  next heq =>
    rw [h] at heq
    cases heq
  · rfl

theorem substituteChars_of_ne {c : Char}
    (h : ∀ tail, c = '\x7b' → cs = '\x7b' :: tail → False) :
    substituteChars context (c :: cs) = c :: substituteChars context cs := by
  rw [substituteChars]
  exact h

/-- **Substitution goes through the parts of a text**, if the second starts
anew. -/
theorem StartsAnew.substituteChars_append (h : StartsAnew back)
    (front : List Char) :
    substituteChars context (front ++ back) =
      substituteChars context front ++ substituteChars context back := by
  induction front using substituteChars.induct with
  | case1 => simp [substituteChars]
  | case2 cs word rest hsome _ ih =>
      have happend : placeholder? (cs ++ back) = some (word, rest ++ back) := by
        rw [h.placeholder?_append, hsome]
        rfl
      show substituteChars context ('\x7b' :: '\x7b' :: (cs ++ back)) = _
      rw [substituteChars_of_some context happend,
        substituteChars_of_some context hsome, ih, List.append_assoc]
  | case3 cs hnone ih =>
      have happend : placeholder? (cs ++ back) = none := by
        rw [h.placeholder?_append, hnone]
        rfl
      show substituteChars context ('\x7b' :: '\x7b' :: (cs ++ back)) = _
      rw [substituteChars_of_none context happend, substituteChars_of_none
          context hnone, List.cons_append, ← ih, List.cons_append]
  | case4 c cs hne ih =>
      rw [substituteChars_of_ne context hne, List.cons_append,
        List.cons_append, ← ih]
      cases cs with
      | cons d cs =>
          exact substituteChars_of_ne context fun tail hc hcs =>
            hne cs hc (by rw [(List.cons.inj hcs).1])
      | nil =>
          -- The last character before the second part may be a brace, and the
          -- second part may start with one.
          by_cases hboth : c = '\x7b' ∧ ∃ tail, back = '\x7b' :: tail
          · obtain ⟨rfl, tail, rfl⟩ := hboth
            exact substituteChars_of_none context (h.not_opening tail rfl)
          · exact substituteChars_of_ne context fun tail hc hback =>
              hboth ⟨hc, tail, hback⟩

/-- Substitution goes line by line. -/
theorem substituteChars_lineBreak (front back : List Char) :
    substituteChars context (front ++ '\n' :: back) =
      substituteChars context front ++ '\n' ::
        substituteChars context back := by
  rw [(startsAnew_lineBreak back).substituteChars_append,
    substituteChars_of_ne context fun _ hc _ => absurd hc (by decide)]

/-- Substitution goes through the parts of a text, if the first ends where a
line ends. -/
theorem substituteChars_append (hfront : EndsLine front) (back : List Char) :
    substituteChars context (front ++ back) =
      substituteChars context front ++ substituteChars context back := by
  rcases List.eq_nil_or_concat front with rfl | ⟨start, c, rfl⟩
  · simp [substituteChars]
  · obtain rfl : c = '\n' := hfront c (by simp)
    rw [List.concat_eq_append, List.append_assoc, List.singleton_append,
      substituteChars_lineBreak, substituteChars_lineBreak, substituteChars,
      List.append_assoc, List.singleton_append]

/-- **What stands for a placeholder is put in as it is**, wherever the
placeholder stands. -/
theorem substituteChars_written (hne : word ≠ [])
    (hword : ∀ c ∈ word, Text.isWordChar c = true) (front back : List Char) :
    substituteChars context (front ++ (written word ++ back)) =
      substituteChars context front ++
        (replacement context word ++ substituteChars context back) := by
  have hread := placeholder?_word hne hword back
  rw [(startsAnew_written word back).substituteChars_append]
  refine congrArg _ ?_
  rw [← substituteChars_of_some context hread, written]
  simp

theorem toList_substitute (text : String) :
    (substitute context text).toList = substituteChars context text.toList :=
  String.toList_ofList

/-- Texts are substituted one by one, if the first ends where a line ends. -/
theorem substitute_append {s : String} (h : EndsLine s.toList) (t : String) :
    substitute context (s ++ t) = substitute context s ++
      substitute context t := by
  simp only [← String.toList_inj, toList_substitute,
    String.toList_append, substituteChars_append context h]

/-- So are any number of texts, if all but the last end where a line ends. -/
theorem substitute_join_append {texts : List String}
    (htexts : ∀ text ∈ texts, EndsLine text.toList) (last : String) :
    substitute context (String.join texts ++ last) =
      String.join (texts.map (substitute context)) ++
        substitute context last := by
  induction texts with
  | nil => simp
  | cons text rest ih =>
      rw [String.join_cons, String.append_assoc,
        substitute_append context (htexts text List.mem_cons_self),
        ih fun text htext => htexts text (List.mem_cons_of_mem _ htext),
        List.map_cons, String.join_cons, String.append_assoc]

/-- Substitution goes through texts that each end where a line ends. -/
theorem substitute_join {texts : List String}
    (htexts : ∀ text ∈ texts, EndsLine text.toList) :
    substitute context (String.join texts) =
      String.join (texts.map (substitute context)) := by
  have hempty : substitute context "" = "" := by
    simp [substitute, substituteChars]
  have hjoin := substitute_join_append context htexts ""
  rwa [hempty, String.append_empty, String.append_empty] at hjoin

/-- A placeholder with a value stands somewhere in a text. -/
def HasPlaceholder (cs : List Char) : Prop :=
  ∃ front word back, cs = front ++ (written word ++ back) ∧ word ≠ [] ∧
    (∀ c ∈ word, Text.isWordChar c = true) ∧
      (context.get? (String.ofList word)).isSome = true

variable {context}

theorem HasPlaceholder.append_left (front : List Char)
    (h : HasPlaceholder context cs) : HasPlaceholder context (front ++ cs) := by
  obtain ⟨before, word, back, rfl, hword⟩ := h
  exact ⟨front ++ before, word, back, by rw [List.append_assoc], hword⟩

/-- **A text without placeholders that have values is left alone.** -/
theorem substituteChars_eq_self (h : ¬ HasPlaceholder context cs) :
    substituteChars context cs = cs := by
  induction cs using substituteChars.induct with
  | case1 => simp [substituteChars]
  | case2 cs word rest hsome _ ih =>
      obtain ⟨hne, hword, rfl⟩ := eq_of_placeholder?_eq_some hsome
      have hwhole : '\x7b' :: '\x7b' :: (word ++ '\x7d' :: '\x7d' :: rest) =
          written word ++ rest := by
        simp [written]
      have hnone : context.get? (String.ofList word) = none := by
        rw [← Option.not_isSome_iff_eq_none]
        exact fun hsome => h ⟨[], word, rest, hwhole, hne, hword, hsome⟩
      rw [substituteChars_of_some context hsome, replacement, hnone, hwhole]
      exact congrArg _ (ih fun hrest =>
        h (hwhole ▸ hrest.append_left (written word)))
  | case3 cs hnone ih =>
      rw [substituteChars_of_none context hnone,
        ih fun hrest => h (hrest.append_left ['\x7b'])]
  | case4 c cs hne ih =>
      rw [substituteChars_of_ne context hne,
        ih fun hrest => h (hrest.append_left [c])]

end Steps

end ServiceLoom.Template
