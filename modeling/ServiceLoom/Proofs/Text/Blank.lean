import ServiceLoom.Text.Blank
import Mathlib.Data.List.DropRight
import Mathlib.Data.List.TakeWhile

/-!
# What trimming keeps

Trimming takes blanks from both ends, so every other character of a text stays
(`Text.mem_trim`), and one more blank at the end changes nothing
(`Text.trimChars_concat`).  Trimming twice is trimming once
(`Text.trimChars_trimChars`), and a text without blanks stays as it is
(`Text.trimChars_eq_self`).
-/

namespace ServiceLoom.Text

/-- What is not dropped from the front of a list stays in it. -/
theorem mem_dropWhile_of_not {p : Char → Bool} {cs : List Char} {c : Char}
    (hmem : c ∈ cs) (hc : p c = false) : c ∈ cs.dropWhile p := by
  rw [← List.takeWhile_append_dropWhile (p := p) (l := cs)] at hmem
  rcases List.mem_append.mp hmem with hmem | hmem
  · have := List.mem_takeWhile_imp hmem
    simp [hc] at this
  · exact hmem

/-- **Trimming keeps what is not blank.** -/
theorem mem_trim {s : String} {c : Char} (hmem : c ∈ s.toList)
    (hc : isBlankChar c = false) : c ∈ (trim s).toList := by
  have hstart : c ∈ trimStart s.toList := mem_dropWhile_of_not hmem hc
  have hend : c ∈ trimEnd (trimStart s.toList) :=
    List.mem_reverse.mpr (mem_dropWhile_of_not (List.mem_reverse.mpr hstart) hc)
  simpa [trim, trimChars] using hend

/-- Trimming leaves something of a text that is not blank. -/
theorem isBlank_trim {s : String} (h : isBlank s = false) :
    isBlank (trim s) = false := by
  obtain ⟨c, hmem, hc⟩ := List.all_eq_false.mp h
  exact List.all_eq_false.mpr ⟨c, mem_trim hmem (by simpa using hc), hc⟩

/-- A blank at the end of a text is trimmed away with the others. -/
theorem trimChars_concat {c : Char} (hc : isBlankChar c = true)
    (cs : List Char) : trimChars (cs ++ [c]) = trimChars cs := by
  rw [trimChars, trimChars, trimStart, trimStart, List.dropWhile_append]
  split
  next hempty =>
    rw [List.isEmpty_iff.mp hempty]
    simp [trimEnd, hc]
  next => simp [trimEnd, hc]

/-- What is trimmed has no blanks to trim. -/
theorem trimChars_trimChars (cs : List Char) :
    trimChars (trimChars cs) = trimChars cs := by
  have hend : ∀ ds : List Char, trimEnd (trimEnd ds) = trimEnd ds :=
    fun ds => List.rdropWhile_idempotent _ _
  have hstart : trimStart (trimEnd (trimStart cs)) =
      trimEnd (trimStart cs) := by
    cases hds : trimEnd (trimStart cs) with
    | nil => rfl
    | cons c rest =>
        have hprefix : c :: rest <+: trimStart cs :=
          hds ▸ List.rdropWhile_prefix isBlankChar (trimStart cs)
        obtain ⟨more, hmore⟩ := hprefix
        have hhead := List.head?_dropWhile_not isBlankChar cs
        rw [← trimStart, ← hmore] at hhead
        have hhead : isBlankChar c = false := hhead
        exact List.dropWhile_cons_of_neg (by simp [hhead])
  rw [trimChars, trimChars, hstart, hend]

/-- Trimming goes with any change of characters that keeps blanks apart from
others. -/
theorem trimChars_map {f : Char → Char}
    (hf : ∀ c, isBlankChar (f c) = isBlankChar c) (cs : List Char) :
    trimChars (cs.map f) = (trimChars cs).map f := by
  have hcomp : isBlankChar ∘ f = isBlankChar := funext hf
  rw [trimChars, trimChars, trimStart, trimStart, trimEnd, trimEnd,
    List.dropWhile_map, hcomp, ← List.map_reverse, List.dropWhile_map, hcomp,
    ← List.map_reverse]

/-- A digit is no blank. -/
theorem isBlankChar_of_isDigit {c : Char} (h : c.isDigit = true) :
    isBlankChar c = false := by
  have hbounds : 48 ≤ c.toNat ∧ c.toNat ≤ 57 := by
    simpa [Char.isDigit, UInt32.le_iff_toNat_le] using h
  unfold isBlankChar
  simp only [Bool.or_eq_false_iff, Bool.and_eq_false_iff,
    decide_eq_false_iff_not, beq_eq_false_iff_ne]
  omega

/-- A text without blanks has none to trim. -/
theorem trimChars_eq_self {cs : List Char}
    (h : ∀ c ∈ cs, isBlankChar c = false) : trimChars cs = cs := by
  have hkeep : ∀ ds : List Char, (∀ c ∈ ds, isBlankChar c = false) →
      ds.dropWhile isBlankChar = ds := by
    intro ds hds
    cases ds with
    | nil => rfl
    | cons c rest =>
        exact List.dropWhile_cons_of_neg (by simp [hds c List.mem_cons_self])
  have hreverse : ∀ c ∈ cs.reverse, isBlankChar c = false :=
    fun c hc => h c (List.mem_reverse.mp hc)
  rw [trimChars, trimStart, hkeep cs h, trimEnd, hkeep cs.reverse hreverse,
    List.reverse_reverse]

end ServiceLoom.Text
