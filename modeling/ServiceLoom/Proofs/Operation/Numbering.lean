import ServiceLoom.Operation.Collections
import ServiceLoom.Proofs.Calendar.Digits
import ServiceLoom.Proofs.Rule.Verdict

/-!
# Numbering

A number that is handed out comes after the largest in use.  As long as that
one is not the last of 64 bits it is one more, so its text is new: a row with
that text would have the number itself.  For this the text must be read as the
number that was written, leading zeros included (`readNat64?_padded`).  A value
that is supplied is kept only when no row has its text.  Either way no other row
has the text of the field afterwards.  After the last number comes zero, about
which nothing is known.
-/

namespace ServiceLoom

open Decimal Calendar

/-- **A number is read as it was written**, as long as 64 bits hold it. -/
theorem readNat64?_padded {width n : Nat} (hn : n < Word64.bound) :
    readNat64? (padded width n) = some n := by
  have hall : (padded width n).all Char.isDigit = true :=
    List.all_eq_true.mpr fun c hc => padded_isDigit hc
  unfold readNat64?
  dsimp only
  split
  next rest hplus =>
    have hdigit : ('+' : Char).isDigit = true :=
      padded_isDigit (hplus ▸ List.mem_cons_self)
    cases hdigit
  next =>
    rw [if_pos ⟨padded_ne_nil width n, hall⟩, natOfDigits_padded, if_pos hn]

/-- What is read has 64 bits. -/
theorem readNat64?_lt {cs : List Char} {k : Nat} (h : readNat64? cs = some k) :
    k < Word64.bound := by
  have h := (Option.ite_none_right_eq_some.mp h).2
  obtain ⟨hlt, hread⟩ := Option.ite_none_right_eq_some.mp h
  exact Option.some.inj hread ▸ hlt

/-- The text of a number has that number. -/
theorem sequenceNumber?_sequenceText (label : String) (width : Nat) {n : Nat}
    (hn : n < Word64.bound) :
    sequenceNumber? label (sequenceText label width n) = some n := by
  have hchars : (sequenceText label width n).toList =
      label.toList ++ padded width n := by
    rw [sequenceText, String.toList_append, String.toList_ofList]
  rw [sequenceNumber?, hchars, List.drop_left, if_pos (by simp),
    readNat64?_padded hn]

/-- A text that ends in digits is not blank. -/
theorem isBlank_sequenceText (label : String) (width k : Nat) :
    isBlank (some (.string (sequenceText label width k))) = false := by
  show Text.isBlank (sequenceText label width k) = false
  obtain ⟨c, hc⟩ := List.exists_mem_of_ne_nil _ (padded_ne_nil width k)
  rw [Text.isBlank, sequenceText, String.toList_append,
    String.toList_ofList, List.all_append, Bool.and_eq_false_iff]
  exact Or.inr (List.all_eq_false.mpr
    ⟨c, hc, by simp [Text.isBlankChar_of_isDigit (padded_isDigit hc)]⟩)

/-- No number is larger than the maximum. -/
private theorem le_foldl_max {xs : List Nat} {n x : Nat} (hx : x ∈ xs ∨ x ≤ n) :
    x ≤ xs.foldl max n := by
  induction xs generalizing n with
  | nil => simpa using hx
  | cons y rest ih =>
      rw [List.foldl_cons]
      refine ih ?_
      rcases hx with hx | hx
      · rcases List.mem_cons.mp hx with rfl | hx
        · exact Or.inr (Nat.le_max_right _ _)
        · exact Or.inl hx
      · exact Or.inr (Nat.le_trans hx (Nat.le_max_left _ _))

/-- The largest of some numbers is one of them, or zero. -/
theorem foldl_max_mem (xs : List Nat) (x : Nat) :
    xs.foldl max x = x ∨ xs.foldl max x ∈ xs := by
  induction xs generalizing x with
  | nil => exact Or.inl rfl
  | cons y rest ih =>
      rw [List.foldl_cons]
      rcases ih (max x y) with heq | hmem
      · rcases Nat.le_total x y with hle | hle
        · exact Or.inr
            (List.mem_cons.mpr (Or.inl (heq.trans (Nat.max_eq_right hle))))
        · exact Or.inl (heq.trans (Nat.max_eq_left hle))
      · exact Or.inr (List.mem_cons_of_mem _ hmem)

/-- No number in use is larger than the last one. -/
theorem le_lastNumber {label field : String} {rows : List Record} {row : Record}
    {w : Json} {n : Nat} (hrow : row ∈ rows) (hw : row.get? field = some w)
    (hn : sequenceNumber? label w.plainText = some n) :
    n ≤ lastNumber label field rows := by
  refine le_foldl_max (Or.inl (List.mem_filterMap.mpr ⟨row, hrow, ?_⟩))
  rw [hw]
  exact hn

/-- As long as there is room, the next number is one more. -/
theorem succ_of_lt {n : Nat} (h : n + 1 < Word64.bound) :
    Word64.succ n = n + 1 := Nat.mod_eq_of_lt h

/-- **The next number is new.** -/
theorem plainText_ne_sequenceText {label field : String} {rows : List Record}
    {width : Nat} (hlast : lastNumber label field rows + 1 < Word64.bound)
    {row : Record} (hrow : row ∈ rows) {w : Json}
    (hw : row.get? field = some w) : w.plainText ≠
      sequenceText label width (Word64.succ (lastNumber label field rows)) := by
  rw [succ_of_lt hlast]
  intro heq
  have hnumber := sequenceNumber?_sequenceText label width hlast
  rw [← heq] at hnumber
  have hle := le_lastNumber hrow hw hnumber
  omega

/-- A value that passes a check for uniqueness is unshared. -/
theorem requireUnique_unshared {host : Host}
    {s : Store} {slug field message : String} {r : Record} (mode : WriteMode)
    (hrun : ((requireUnique slug r field mode.ownId message).run host
      Outage.none s).1 = .ok ()) :
    Unshared field mode (r.get? field) (s.rows slug) := by
  intro v hv hfilled row hrow
  rw [hv] at hfilled
  have hvalue : r.filled? field = some v := by
    simp [Record.filled?, hv, Option.filter, hfilled]
  rw [requireUnique, hvalue] at hrun
  dsimp only at hrun
  rw [Access.run_bind_ok _ _ _ (Access.run_rows host Outage.none s rfl)] at hrun
  split at hrun
  · cases hrun
  next hfree =>
    have hrow : row.holdsText field v.plainText mode.ownId = false := by
      simpa using fun hholds => hfree (List.any_eq_true.mpr ⟨row, hrow, hholds⟩)
    cases hmode : mode.ownId with
    | none =>
        right
        intro w hw heq
        simp [Record.holdsText, hmode, hw, heq] at hrow
    | some id =>
        by_cases hid : row.id? = some id
        · exact Or.inl ⟨id, rfl, hid⟩
        · right
          intro w hw heq
          simp [Record.holdsText, hmode, hid, hw, heq] at hrow

/-- **A numbered field is unshared**, whether its value was supplied or handed
out, if there was room for another number. -/
theorem nextSequence_unshared {host : Host} {s : Store}
    {slug field label message : String} {width : Nat} {r data : Record}
    (hroom : isBlank (r.get? field) = true →
      lastNumber label field (s.rows slug) + 1 < Word64.bound)
    (hrun : ((nextSequence slug r field label width message).run host
      Outage.none s).1 = .ok data) :
    Unshared field .create (data.get? field) (s.rows slug) := by
  unfold nextSequence at hrun
  split at hrun
  next hblank =>
    rw [Access.run_bind_ok _ _ _ (Access.run_rows host Outage.none s rfl)]
      at hrun
    cases hrun
    intro v hv _ row hrow
    rw [Dict.get?_insert_self] at hv
    obtain rfl := Option.some.inj hv
    exact Or.inr fun w hw => plainText_ne_sequenceText (hroom hblank) hrow hw
  · rw [Access.run_bind] at hrun
    cases hcheck :
        (requireUnique slug r field none message).run host Outage.none s with
    | mk answer left =>
        rw [hcheck] at hrun
        cases answer with
        | error f => cases hrun
        | ok u =>
            cases hrun
            exact requireUnique_unshared .create (congrArg Prod.fst hcheck)

end ServiceLoom
