import ServiceLoom.Proofs.Operation.Totals
import Mathlib.Data.Set.Basic

/-!
# Recomputing totals is a matter of the set of parents

What becomes of a row when parents are recomputed depends on whether its
identifier is on the list (`Billing.recalculated`).  So neither the order of the
list counts nor what it repeats, and since identifiers are texts, it does not
count either how they are written (`Billing.recalculateTotals_setwise`).  To
recompute once more, at a later time, is to recompute at that time only
(`Billing.Recalculated.again`).

Nothing here depends on what the operations on amounts compute.
-/

namespace ServiceLoom

/-- Patches at different times differ by the time of change only. -/
theorem Record.erase_patched (row patch : Record) (now later : Json) :
    Dict.erase (row.patched patch now) "updated_at" =
      Dict.erase (row.patched patch later) "updated_at" := by
  unfold Record.patched
  rw [Dict.erase_insert_self, Dict.erase_insert_self]

/-- Two stores hold the same rows in the same order, but for the times at which
rows were changed. -/
structure Store.SameButTimes (s t : Store) : Prop where
  issued : s.issued = t.issued
  rows : ∀ slug, (s.rows slug).map (Dict.erase · "updated_at") =
    (t.rows slug).map (Dict.erase · "updated_at")

namespace Billing

variable {b : Billing} {s left : Store} {ids others : List String}
    {now later : Json}

/-- **Of the list only its members count**, and of the time only the time of
change. -/
theorem erase_recalculated (b : Billing) (s : Store) (now later : Json)
    (hids : ∀ id, id ∈ ids ↔ id ∈ others) (row : Record) :
    Dict.erase (b.recalculated s now ids row) "updated_at" =
      Dict.erase (b.recalculated s later others row) "updated_at" := by
  rcases mem_cases row ids with ⟨id, hmem, hid⟩ | hnone
  · rw [recalculated_of_mem hid hmem,
      recalculated_of_mem hid ((hids id).mp hmem)]
    exact Record.erase_patched _ _ _ _
  · rw [recalculated_of_notMem hnone,
      recalculated_of_notMem fun id hmem => hnone id ((hids id).mpr hmem)]

/-- **A parent that is recalculated again is as recalculated the second
time**. -/
theorem recalculated_recalculated (b : Billing) (s : Store) (now later : Json)
    (ids : List String) (row : Record) : b.recalculated s later
      ids (b.recalculated s now ids row) = b.recalculated s later ids row := by
  rcases mem_cases row ids with ⟨id, hmem, hid⟩ | hnone
  · have hkept : (row.patched (b.totalsOf s id) now).id? = some id :=
      (Record.id?_patched _ _ _).trans hid
    rw [recalculated_of_mem hid hmem,
      recalculated_of_mem hkept hmem, recalculated_of_mem hid hmem,
      Record.patched_patched (b.ordered_totalsOf s id)]
  · rw [recalculated_of_notMem hnone]

namespace Recalculated

variable {right : Store}

/-- **Lists with the same members** lead to the same store, but for the times of
change. -/
theorem sameButTimes (hleft : b.Recalculated s left now ids)
    (hright : b.Recalculated s right later others)
    (hids : ∀ id, id ∈ ids ↔ id ∈ others) : left.SameButTimes right where
  issued := hleft.issued.trans hright.issued.symm
  rows slug := by
    by_cases hslug : slug = b.parents
    · rw [hslug, hleft.parents, hright.parents, List.map_map, List.map_map]
      exact List.map_congr_left fun row _ =>
        b.erase_recalculated s now later hids row
    · rw [hleft.others slug hslug, hright.others slug hslug]

/-- **What is recalculated again** might as well have been recalculated the
second time only. -/
theorem again (hleft : b.Recalculated s left now ids)
    (hright : b.Recalculated left right later ids) :
    b.Recalculated s right later ids where
  parents := by
    rw [hright.parents, hleft.parents, List.map_map,
      recalculated_congr hleft.items]
    exact List.map_congr_left fun row _ =>
      b.recalculated_recalculated s now later ids row
  others slug hslug :=
    (hright.others slug hslug).trans (hleft.others slug hslug)
  issued := hright.issued.trans hleft.issued

end Recalculated

/-- The texts of the values that are not blank. -/
def textsOf (values : List (Option Json)) : Set String :=
  {t | ∃ v, some v ∈ values ∧ isBlank (some v) = false ∧ v.plainText = t}

/-- These are the identifiers that are recomputed. -/
theorem mem_textsOf_iff {values : List (Option Json)} {t : String} :
    t ∈ textsOf values ↔ t ∈ distinctTexts values :=
  mem_distinctTexts_iff.symm

/-- **Recomputing depends on the set of parents only.** Two lists whose values
that are not blank have the same texts lead to the same store but for the times
of change, at whatever times they are recalculated, and to recompute the first
list again changes nothing but these times. -/
theorem recalculateTotals_setwise
    (b : Billing) (hs : s.Written) {values others : List (Option Json)}
    (hsame : textsOf values = textsOf others) (host other later : Host) :
    ∃ left right again,
      (recalculateTotals b.items b.foreignKey b.parents values b.taxRate).run
        host Outage.none s = (.ok (), left) ∧
      (recalculateTotals b.items b.foreignKey b.parents others b.taxRate).run
        other Outage.none s = (.ok (), right) ∧
      (recalculateTotals b.items b.foreignKey b.parents values b.taxRate).run
        later Outage.none left =
        (.ok (), again) ∧
      left.SameButTimes right ∧ again.SameButTimes left := by
  have hparents := hs.identified b.parents
  obtain ⟨left, hleftRun, hleft⟩ :=
    recalculateEach_recalculated host hparents (distinctTexts values)
  obtain ⟨right, hrightRun, hright⟩ :=
    recalculateEach_recalculated other hparents (distinctTexts others)
  obtain ⟨again, hagainRun, hagain⟩ :=
    recalculateEach_recalculated later (hleft.identified hparents)
      (distinctTexts values)
  have hids : ∀ id, id ∈ distinctTexts values ↔ id ∈ distinctTexts others := by
    intro id
    rw [← mem_textsOf_iff, ← mem_textsOf_iff, hsame]
  exact ⟨left, right, again, hleftRun, hrightRun, hagainRun,
    hleft.sameButTimes hright hids,
    (hleft.again hagain).sameButTimes hleft fun _ => Iff.rfl⟩

/-- Lines of bills, taxed at eighteen percent. -/
def billLines : Billing := ⟨"lines", "bills", "bill_id", 18, by decide⟩

/-- A desk at which a number of days has passed. -/
def deskHost (day : Int) : Host := ⟨.ofDay day, fun k => toString k⟩

/-- Two bills, and a line that names the first of them by a number. -/
def twoBills : Store :=
  (((Store.empty.create (deskHost 0) "bills" [("id", .string "7")]).2.create
    (deskHost 0) "bills"
    [("id", .string "8")]).2.create (deskHost 0) "lines" [("bill_id", .ofNat 7),
      ("line_total", .ofNat 5)]).2

/-- The bill is recomputed whether it is named by a text, a whole number or a
float, once or twice, and among blanks. -/
theorem twoBills_setwise :
    let values : List (Option Json) :=
  [some (.string "7"), none, some (.ofNat 7), some (.string " ")]
    let others : List (Option Json) := [some (.number (.float 7.0 (by decide)))]
    twoBills.Written ∧ textsOf values = textsOf others ∧ "7" ∈ textsOf values ∧
      ∃ left right again,
        (recalculateTotals "lines" "bill_id" "bills" values 18).run
          (deskHost 1) Outage.none twoBills = (.ok (), left) ∧
        (recalculateTotals "lines" "bill_id" "bills" others 18).run
          (deskHost 2) Outage.none twoBills =
          (.ok (), right) ∧
        (recalculateTotals "lines" "bill_id" "bills" values 18).run
          (deskHost 3) Outage.none left = (.ok (), again) ∧
        left.SameButTimes right ∧ again.SameButTimes left := by
  intro values others
  have hwritten : twoBills.Written :=
    ((Store.Written.empty.create _ _ _).create _ _ _).create _ _ _
  have hvalues : distinctTexts values = ["7"] := by decide +kernel
  have hothers : distinctTexts others = ["7"] := by decide +kernel
  have hsame : textsOf values = textsOf others := by
    ext t
    rw [mem_textsOf_iff, mem_textsOf_iff, hvalues, hothers]
  refine ⟨hwritten, hsame, ?_, billLines.recalculateTotals_setwise
    hwritten hsame (deskHost 1) (deskHost 2) (deskHost 3)⟩
  rw [mem_textsOf_iff, hvalues]
  exact List.mem_singleton_self "7"

end Billing

end ServiceLoom
