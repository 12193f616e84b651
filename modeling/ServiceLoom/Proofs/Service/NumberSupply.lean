import ServiceLoom.Proofs.Service.NumberedRows

/-!
# When numbers run out

The number that is handed out comes after the last one in use, and 64 bits hold
no more than the numbers below `Word64.bound`.  So it is above all that are in
use exactly when the last number of 64 bits is not, and otherwise it is zero
(`Numbering.numbered_above_iff`).

That number can be in use: a value that comes with a record is kept when no row
has its text, whatever its number is, and one such row ends the numbering for
good (`lastInvoice_exhausts`).  Handing out numbers by itself does not get
there: each insertion takes the last number at most one further than where it
was, or to a number that was supplied (`Numbering.last_after_le`), so it takes a
supplied number close to the end, or as many insertions as there are numbers
(`Numbering.open_afterAll`).
-/

namespace ServiceLoom

namespace Numbering

variable (n : Numbering) {s : Store} {host : Host} {data : Record}

/-! ## One number -/

/-- When the last number is in use, the next one is zero. -/
theorem next_of_not_open (hclosed : ¬ n.Open s) : n.next s = 0 := by
  obtain ⟨row, hrow, hlast⟩ : ∃ row ∈ s.rows n.slug,
      n.number? row = some (Word64.bound - 1) := by
    simpa [Open] using hclosed
  have hle := n.le_last hrow hlast
  have hroom : ¬ n.last s + 1 < Word64.bound := mt n.open_iff.mpr hclosed
  have hbound : n.last s < Word64.bound := by
    rcases n.last_cases s with hzero | ⟨_, -, hnumber⟩
    · rw [hzero]
      decide
    · exact n.number?_lt hnumber
  have hend : n.last s + 1 = Word64.bound := by omega
  rw [next, Word64.succ, hend, Nat.mod_self]

/-- What is numbered zero is not above the numbers in use, if there are any. -/
theorem not_numbers_zero {row : Record} {k : Nat} (hrow : row ∈ s.rows n.slug)
    (hk : n.number? row = some k) (hblank : isBlank (data.get? n.field) = true) :
    ¬ n.Numbers (s.rows n.slug) data (n.withNumber data 0) := by
  intro h
  obtain ⟨digits, j, htext, -, -, hread, habove⟩ := h.assigned hblank
  have hnumber : n.number? (n.withNumber data 0) = some j := by
    rw [number?, text?, htext]
    show sequenceNumber? n.label (n.label ++ String.ofList digits) = some j
    rw [sequenceNumber?, String.toList_append, String.toList_ofList,
      List.drop_left, if_pos (by simp), hread]
  have hzero : n.number? (n.withNumber data 0) = some 0 := by
    rw [number?, text?, withNumber, Dict.get?_insert_self]
    exact sequenceNumber?_sequenceText n.label n.width (by decide)
  have hlt := habove row hrow k hk
  have hj : j = 0 := Option.some.inj (hnumber.symm.trans hzero)
  omega

/-- **A record without a number gets the next one, which is above all that are
in use exactly when the last number of 64 bits is not.** Otherwise it is zero.
The store stays as it is. -/
theorem numbered_above_iff {outage : Outage}
    (hread : outage .findAll n.slug = false)
    (hblank : isBlank (data.get? n.field) = true) :
    (n.numbered data).run host outage s =
        (.ok (n.withNumber data (n.next s)), s) ∧
      (n.Open s ↔ n.last s + 1 < Word64.bound) ∧
      (n.Open s ↔
        n.Numbers (s.rows n.slug) data (n.withNumber data (n.next s))) ∧
      (¬ n.Open s ↔ n.next s = 0) := by
  refine ⟨n.run_numbered hread hblank, n.open_iff, ⟨fun hopen => ?_, ?_⟩,
    n.next_of_not_open, fun hzero hopen => ?_⟩
  · have hplain : (n.numbered data).run host Outage.none s = _ :=
      n.run_numbered rfl hblank
    exact n.numbers_of_run (fun _ => hopen) (congrArg Prod.fst hplain)
  · intro hnumbers row hrow hlast
    have hclosed : ¬ n.Open s := fun hopen => hopen row hrow hlast
    rw [n.next_of_not_open hclosed] at hnumbers
    exact n.not_numbers_zero hrow hlast hblank hnumbers
  · have hnext := n.next_of_open hopen
    omega

/-! ## Many insertions -/

/-- The row that an insertion appends has the number that it came with, or the
next one. -/
theorem number?_of_after (hfield : n.field ∉ Record.systemFields) (s : Store)
    (e : Host × Record) :
    (n.after s e).rows n.slug = s.rows n.slug ∨
      ∃ row, (n.after s e).rows n.slug = s.rows n.slug ++ [row] ∧
        (n.number? row = n.number? e.2 ∨ n.number? row = some (n.next s)) := by
  rcases n.after_run hfield s e with
      ⟨-, hsame⟩ | ⟨new, row, hnew, -, happended, hget⟩
  · exact .inl hsame
  · have hnumber : n.number? row = n.number? new := by
      rw [number?, number?, text?, text?, hget]
    refine .inr ⟨row, happended, ?_⟩
    rw [hnumber]
    cases hblank : isBlank (e.2.get? n.field) with
    | false =>
        rw [n.eq_of_supplied hnew hblank]
        exact .inl rfl
    | true =>
        have hlt : n.next s < Word64.bound := Nat.mod_lt _ (by decide)
        have hread : n.number? new = some (n.next s) := by
          rw [n.eq_of_assigned hnew hblank, number?, text?, withNumber,
            Dict.get?_insert_self]
          exact sequenceNumber?_sequenceText n.label n.width hlt
        exact .inr hread

/-- **An insertion takes the last number** one further, or to the number that it
came with. -/
theorem last_after_le (hfield : n.field ∉ Record.systemFields)
    (s : Store) (e : Host × Record) {most : Nat} (hlast : n.last s ≤ most)
    (hsupplied : ∀ k ∈ n.number? e.2, k ≤ most) :
    n.last (n.after s e) ≤ most + 1 := by
  rcases n.last_cases (n.after s e) with hzero | ⟨row, hrow, hnumber⟩
  · omega
  · -- the last number is that of a row before, or of the new one
    have hbefore : row ∈ s.rows n.slug → n.last (n.after s e) ≤ most + 1 := by
      intro hold
      have hle := n.le_last hold hnumber
      omega
    rcases n.number?_of_after hfield s e with hsame | ⟨new, happended, hnew⟩
    · exact hbefore (hsame ▸ hrow)
    · rw [happended] at hrow
      rcases List.mem_append.mp hrow with hold | hrow
      · exact hbefore hold
      · obtain rfl := List.mem_singleton.mp hrow
        rcases hnew with hsame | hnext
        · have hle := hsupplied _ (hsame ▸ hnumber)
          omega
        · have hle : n.next s ≤ n.last s + 1 := Nat.mod_le _ _
          have hsame : n.last (n.after s e) = n.next s :=
            Option.some.inj (hnumber.symm.trans hnext)
          omega

/-- Insertions one after the other take the last number at most as far as there
are of them, from where it was or from a number that one of them came with. -/
theorem last_afterAll_le (hfield : n.field ∉ Record.systemFields) (s : Store)
    {entries : List (Host × Record)} {most : Nat} (hlast : n.last s ≤ most)
    (hsupplied : ∀ e ∈ entries, ∀ k ∈ n.number? e.2, k ≤ most) :
    n.last (n.afterAll s entries) ≤ most + entries.length := by
  induction entries generalizing s most with
  | nil => exact hlast
  | cons e rest ih =>
      have hfirst :=
        n.last_after_le hfield s e hlast (hsupplied e List.mem_cons_self)
      have hrest : ∀ e ∈ rest, ∀ k ∈ n.number? e.2, k ≤ most + 1 := by
        intro e he k hk
        have hle := hsupplied e (List.mem_cons_of_mem _ he) k hk
        omega
      have hall := ih (n.after s e) hfirst hrest
      rw [List.length_cons]
      show n.last (n.afterAll (n.after s e) rest) ≤ _
      omega

/-- **Numbers do not run out by themselves**: as long as the last number and the
numbers that insertions come with are further from the end than there are
insertions, a record without a number gets one after them. -/
theorem open_afterAll (hfield : n.field ∉ Record.systemFields) (s : Store)
    {entries : List (Host × Record)} {most : Nat} (hlast : n.last s ≤ most)
    (hsupplied : ∀ e ∈ entries, ∀ k ∈ n.number? e.2, k ≤ most)
    (hroom : most + entries.length + 1 < Word64.bound) :
    n.Open (n.afterAll s entries) := by
  have hle := n.last_afterAll_le hfield s hlast hsupplied
  exact n.open_iff.mpr (by omega)

/-! ## Invoices -/

/-- The last of the four invoices has number 42.  They are far from the end, so
that the next one gets a number above them. -/
theorem fourInvoices_continued :
    let s := ofInvoices.afterAll Store.empty fourInvoices
    Outage.none .findAll "invoices" = false ∧
      isBlank (Dict.get? ([] : Record) "number") = true ∧
      ofInvoices.next s = 43 ∧ ofInvoices.Open s ∧
      ofInvoices.Numbers (s.rows "invoices") []
          (ofInvoices.withNumber [] 43) := by
  intro s
  have hopen : ofInvoices.Open s :=
    ofInvoices.open_afterAll (by decide) Store.empty
      (show ofInvoices.last Store.empty ≤ 41 by decide) (by decide +kernel)
      (by decide)
  have hnext : ofInvoices.next s = 43 := by decide +kernel
  obtain ⟨-, -, habove, -⟩ :=
    @numbered_above_iff ofInvoices s fourInvoices[0].1 [] Outage.none rfl rfl
  exact ⟨rfl, rfl, hnext, hopen, hnext ▸ habove.mp hopen⟩

/-- An invoice with the last number of 64 bits. -/
def lastInvoice : Host × Record :=
  (⟨.ofDay 0, fun k => toString k⟩,
    [("number", .string "INV-18446744073709551615")])

/-- **The last number is accepted like any other**, and then the next invoice
gets number zero. -/
theorem lastInvoice_exhausts :
    let s := ofInvoices.after Store.empty lastInvoice
    (∃ row, ofInvoices.answer Store.empty lastInvoice = .ok row) ∧
      (s.rows "invoices").map ofInvoices.number? = [some (Word64.bound - 1)] ∧
      (ofInvoices.numbered []).run lastInvoice.1 Outage.none s =
        (.ok [("number", .string "INV-0000")], s) := by
  intro s
  have hnext : ofInvoices.next s = 0 := by decide +kernel
  refine ⟨⟨_, rfl⟩, by decide +kernel, ?_⟩
  rw [ofInvoices.run_numbered rfl rfl, hnext]
  rfl

end Numbering

end ServiceLoom
