import ServiceLoom.Proofs.Store.Runs
import ServiceLoom.Rule.DeleteGuard

/-!
# What a guard looks for

A row holds an identifier through a single field when the text of the field is
the identifier, and through a field with several values when the field is a list
with such an item.  A guard that can read its collections collects exactly the
rows that hold the identifier, collection by collection, and lets a row go when
there are none.
-/

namespace ServiceLoom

/-- Whether a row holds an identifier through a field. -/
def RefField.Holds (f : RefField) (row : Record) (id : String) : Prop :=
  if f.multiple then ∃ items, row.get? f.name = some (.array items) ∧
    ∃ v ∈ items, v.plainText = id
  else ∃ v, row.get? f.name = some v ∧ v.plainText = id

/-- **A field refers to what it holds.** -/
theorem RefField.refers_iff_holds (f : RefField) (row : Record) (id : String) :
    f.refers row id = true ↔ f.Holds row id := by
  unfold RefField.refers RefField.Holds
  cases hv : Dict.get? row f.name with
  | none => cases f.multiple <;> simp
  | some v =>
      cases v with
      | array items => cases f.multiple <;> simp
      | _ => cases f.multiple <;> simp

instance (f : RefField) (row : Record) (id : String) :
    Decidable (f.Holds row id) :=
  decidable_of_iff _ (f.refers_iff_holds row id)

/-- A dependent refers to what one of its fields holds. -/
theorem DependentSpec.refers_iff (d : DependentSpec) (row : Record)
    (id : String) :
    d.refers row id = true ↔ ∃ f ∈ d.fields, f.Holds row id := by
  simp [DependentSpec.refers, RefField.refers_iff_holds]

namespace DeleteGuard

variable (h : Host) (outage : Outage) (s : Store) (id : String)

/-- The rows of a store that refer to an identifier, dependent by dependent. -/
def found (dependents : List DependentSpec) : List DependentRecord :=
  dependents.filterMap fun d => d.recordOf? (s.rows d.entity) id

/-- A scan that can read its collections finds the rows that refer to the
identifier. -/
theorem scanEach_run {dependents : List DependentSpec}
    (hread : ∀ d ∈ dependents, outage .findAll d.entity = false) :
    (scanEach id dependents).run h outage s =
      (.ok (found s id dependents), s) := by
  induction dependents with
  | nil => rfl
  | cons d rest ih =>
      have hrest := ih fun d hd => hread d (List.mem_cons_of_mem _ hd)
      have hrows := Access.run_rows h outage s (hread d List.mem_cons_self)
      rw [scanEach, Access.run_bind_ok _ _ _ hrows,
        Access.run_bind_ok _ _ _ hrest, Access.run_pure]
      cases hd : d.recordOf? (s.rows d.entity) id <;> simp [found, hd]

/-- **A check that can read its collections** refuses with what it has found, if
anything. -/
theorem check_run {g : DeleteGuard}
    (hread : ∀ d ∈ g.dependents, outage .findAll d.entity = false) :
    (g.check id).run h outage s =
      (if (found s id g.dependents).isEmpty then .ok ()
        else .error (.refused (.deleteBlocked (found s id g.dependents))),
          s) := by
  rw [check, scan, Access.run_bind_ok _ _ _ (scanEach_run h outage s id hread)]
  split <;> rfl

/-- A dependent is reported when one of its rows refers to the identifier. -/
theorem recordOf?_eq_none_iff {d : DependentSpec} {rows : List Record} :
    d.recordOf? rows id = none ↔
    ∀ row ∈ rows, ∀ f ∈ d.fields, ¬ f.Holds row id := by
  simp only [DependentSpec.recordOf?]
  split
  next hempty =>
    simp only [true_iff]
    intro row hrow f hf hholds
    have hrefers : d.refers row id = true :=
      (d.refers_iff row id).mpr ⟨f, hf, hholds⟩
    have hmem : row ∈ rows.filter (d.refers · id) :=
      List.mem_filter.mpr ⟨hrow, hrefers⟩
    rw [List.isEmpty_iff.mp hempty] at hmem
    cases hmem
  next hne =>
    simp only [reduceCtorEq, false_iff]
    intro hnone
    apply hne
    rw [List.isEmpty_iff, List.filter_eq_nil_iff]
    intro row hrow hrefers
    obtain ⟨f, hf, hholds⟩ := (d.refers_iff row id).mp hrefers
    exact hnone row hrow f hf hholds

/-- A check lets a row go exactly when no row of a dependent holds the
identifier. -/
theorem check_ok_iff {g : DeleteGuard}
    (hread : ∀ d ∈ g.dependents, outage .findAll d.entity = false) :
    ((g.check id).run h outage s).1 = .ok () ↔
      ∀ d ∈ g.dependents, ∀ row ∈ s.rows d.entity,
        ∀ f ∈ d.fields, ¬ f.Holds row id := by
  rw [check_run h outage s id hread]
  have hnone : (found s id g.dependents).isEmpty = true ↔
      ∀ d ∈ g.dependents, d.recordOf? (s.rows d.entity) id = none := by
    rw [List.isEmpty_iff, found, List.filterMap_eq_nil_iff]
  split
  next hempty =>
    simp only [true_iff]
    intro d hd
    exact (recordOf?_eq_none_iff id).mp (hnone.mp hempty d hd)
  next hne =>
    simp only [reduceCtorEq, false_iff]
    intro hall
    exact hne (hnone.mpr fun d hd => (recordOf?_eq_none_iff id).mpr (hall d hd))

end DeleteGuard

end ServiceLoom
