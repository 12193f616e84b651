import ServiceLoom.Calendar.Reader
import Mathlib.Algebra.Group.Nat.Defs
import Mathlib.Data.List.TakeWhile

/-!
# Padded numbers

Dates and numbers in a sequence are written with leading zeros.  What is written
so has digits only, as many as there is room for (`length_padded`), and is read
in base ten as the number that was written (`natOfDigits_padded`).  A scanner
for so many digits takes it off the front of a text, whatever follows
(`digits?_padded`); one for at least so many needs what follows to start with no
digit (`digits?_eq`).
-/

namespace ServiceLoom

open Decimal Calendar

/-- Digits are read in base ten. -/
theorem natOfDigits_eq_ofDigitChars (digits : List Char) :
    natOfDigits digits = Nat.ofDigitChars 10 digits 0 := by
  rw [natOfDigits, Nat.ofDigitChars_eq_foldl]
  congr 1
  funext n c
  rw [Nat.mul_comm]
  rfl

/-- Leading zeros do not change a number. -/
theorem natOfDigits_padded (width n : Nat) :
    natOfDigits (padded width n) = n := by
  rw [natOfDigits_eq_ofDigitChars, padded, Nat.ofDigitChars_append,
    Nat.ofDigitChars_replicate_zero, Nat.mul_zero, Nat.ofDigitChars_ten_toDigits]

/-- Digits denote a number that they have room for. -/
theorem natOfDigits_lt {ds : List Char} (hds : ∀ c ∈ ds, c.isDigit = true) :
    natOfDigits ds < 10 ^ ds.length := by
  have hfold : ∀ ds : List Char, (∀ c ∈ ds, c.isDigit = true) → ∀ n : Nat,
      ds.foldl (fun n c => n * 10 + (c.toNat - 0x30)) n <
          (n + 1) * 10 ^ ds.length := by
    intro ds
    induction ds with
    | nil => intro _ n; simp
    | cons c rest ih =>
        intro hds n
        have hc : c.isDigit = true := hds c List.mem_cons_self
        have hdigit : c.toNat - 0x30 ≤ 9 := by
          have hbounds : 48 ≤ c.toNat ∧ c.toNat ≤ 57 := by
            simpa [Char.isDigit, UInt32.le_iff_toNat_le] using hc
          omega
        have hrest := ih (fun c hc => hds c (List.mem_cons_of_mem _ hc))
            (n * 10 + (c.toNat - 0x30))
        rw [List.foldl_cons, List.length_cons, Nat.pow_succ]
        calc _ < (n * 10 + (c.toNat - 0x30) + 1) * 10 ^ rest.length := hrest
          _ ≤ ((n + 1) * 10) * 10 ^ rest.length :=
            Nat.mul_le_mul_right _ (by omega)
          _ = (n + 1) * (10 ^ rest.length * 10) := by
            rw [Nat.mul_assoc, Nat.mul_comm 10]
  simpa [natOfDigits] using hfold ds hds 0

/-- A padded number has digits, and nothing else. -/
theorem padded_isDigit {width n : Nat} {c : Char} (hc : c ∈ padded width n) :
    c.isDigit = true := by
  rcases List.mem_append.mp hc with hc | hc
  · rw [List.eq_of_mem_replicate hc]
    rfl
  · exact Nat.isDigit_of_mem_toDigits (show 0 < 10 by decide) (by decide) hc

theorem padded_ne_nil (width n : Nat) : padded width n ≠ [] := by
  intro hnil
  exact Nat.toDigits_ne_nil (List.append_eq_nil_iff.mp hnil).2

/-- A number that has room fills it. -/
theorem length_padded {width n : Nat} (hwidth : 0 < width)
    (hn : n < 10 ^ width) : (padded width n).length = width := by
  have hlength : (Nat.toDigits 10 n).length ≤ width :=
    (Nat.length_toDigits_le_iff (by decide) hwidth).mpr hn
  unfold padded
  rw [List.length_append, List.length_replicate]
  omega

/-- A number without room is written in full. -/
theorem le_length_padded (width n : Nat) : width ≤ (padded width n).length := by
  unfold padded
  rw [List.length_append, List.length_replicate]
  omega

namespace Calendar

/-- Digits are taken up to the greatest number of them, or up to what is no
digit. -/
theorem digits?_eq {least most : Nat} {ds rest : List Char}
    (hds : ∀ c ∈ ds, c.isDigit = true) (hleast : least ≤ ds.length)
    (hmost : ds.length ≤ most)
    (hrest : ds.length = most ∨ ∀ c ∈ rest.head?, c.isDigit = false) :
    digits? least most (ds ++ rest) = some (natOfDigits ds, rest) := by
  have hstop : (rest.take (most - ds.length)).takeWhile Char.isDigit = [] := by
    rcases hrest with heq | hhead
    · have hnone : most - ds.length = 0 := by omega
      rw [hnone]
      rfl
    · cases rest with
      | nil => rw [List.take_nil]; rfl
      | cons c rest =>
          have hc : c.isDigit = false := hhead c rfl
          cases most - ds.length with
          | zero => rfl
          | succ k => simp [hc]
  have htaken : ((ds ++ rest).take most).takeWhile Char.isDigit = ds := by
    rw [List.take_append, List.take_of_length_le hmost,
      List.takeWhile_append_of_pos hds, hstop, List.append_nil]
  unfold digits?
  dsimp only
  rw [htaken, if_neg (by omega), List.drop_left]

/-- A padded number is taken by a scanner for so many digits. -/
theorem digits?_padded {width n : Nat} (hwidth : 0 < width)
    (hn : n < 10 ^ width) (rest : List Char) :
    digits? width width (padded width n ++ rest) = some (n, rest) := by
  have hlength := length_padded hwidth hn
  rw [digits?_eq (fun c hc => padded_isDigit hc) (by omega)
    (by omega) (Or.inl hlength), natOfDigits_padded]

end Calendar

end ServiceLoom
