import ServiceLoom.Proofs.Record.Values
import ServiceLoom.Store.Basic
import Mathlib.Data.List.Nodup

/-!
# What a write does to the rows

A write touches one collection.  Inserting appends a row with an identifier that
is new there, patching replaces the row with an identifier in its place, and
removing filters.  So identifiers stay distinct, and with distinct identifiers
"the first row" of a look-up or a patch is the only one.
-/

namespace ServiceLoom

/-- Every row has an identifier, and no two rows of the list have the same. -/
structure Identified (rows : List Record) : Prop where
  id_isSome : ∀ row ∈ rows, row.id?.isSome = true
  ids_nodup : (rows.map (·.id?)).Nodup

theorem Identified.nil : Identified [] := ⟨by simp, by simp⟩

/-- The identifiers of a list of rows. -/
def idsOf (rows : List Record) : List String := rows.filterMap (·.id?)

theorem mem_idsOf_iff {rows : List Record} {id : String} :
    id ∈ idsOf rows ↔ ∃ row ∈ rows, row.id? = some id := List.mem_filterMap

namespace Store

variable (s : Store)

@[simp] theorem rows_withRows_self (slug : String) (rows : List Record) :
    (s.withRows slug rows).rows slug = rows := by
  simp [Store.rows, withRows]

theorem rows_withRows_of_ne {slug other : String} (rows : List Record)
    (h : other ≠ slug) : (s.withRows slug rows).rows other = s.rows other := by
  simp [Store.rows, withRows, Dict.get?_insert_of_ne _ _ h]

/-- A row that is found has the identifier. -/
theorem find?_some {slug id : String} {row : Record}
    (h : s.find? slug id = some row) : row ∈ s.rows slug ∧ row.id? = some id :=
  ⟨List.mem_of_find?_eq_some h, by simpa [Record.hasId] using List.find?_some h⟩

/-- **Inserting** appends the stamped data, or is refused and leaves the
rows. -/
theorem create_cases (h : Host) (slug : String) (data : Record) :
    ((∃ e, (s.create h slug data).1 = .error e) ∧
      ∀ t, (s.create h slug data).2.rows t = s.rows t) ∨
      ∃ id, (s.create h slug data).1 = .ok (data.stamped id h.stamp) ∧
        id ∉ idsOf (s.rows slug) ∧
        (s.create h slug data).2.rows slug =
          s.rows slug ++ [data.stamped id h.stamp] ∧
        ∀ t, t ≠ slug → (s.create h slug data).2.rows t = s.rows t := by
  have hrows : ∀ t, (s.assignId h data).2.rows t = s.rows t := by
    intro t
    unfold assignId
    split <;> rfl
  simp only [create, stamp, hrows]
  split
  · exact Or.inl ⟨⟨_, rfl⟩, hrows⟩
  next hfree =>
    refine Or.inr ⟨_, rfl, ?_,
      by simp, fun t ht => (rows_withRows_of_ne _ _ ht).trans (hrows t)⟩
    rw [mem_idsOf_iff]
    rintro ⟨row, hrow, hid⟩
    exact hfree
      (List.any_eq_true.mpr ⟨row, hrow, by simpa [Record.hasId] using hid⟩)

/-- An insertion is refused as an error of the store. -/
theorem exists_storage_of_create {s : Store}
    {h : Host} {slug : String} {data : Record} {e : ServiceError}
    (hrefused : (s.create h slug data).1 = .error e) :
    ∃ text, e = .storage text := by
  unfold create at hrefused
  dsimp only at hrefused
  split at hrefused
  · exact ⟨_, (Except.error.inj hrefused).symm⟩
  · cases hrefused

/-- An insertion leaves other collections alone. -/
theorem rows_create_of_ne (h : Host) {slug t : String} (data : Record)
    (ht : t ≠ slug) : (s.create h slug data).2.rows t = s.rows t := by
  rcases s.create_cases h slug data with ⟨-, hrows⟩ | ⟨_, -, -, -, hother⟩
  · exact hrows t
  · exact hother t ht

/-- With distinct identifiers, changing the first row with one is changing every
such row. -/
theorem modifyFirst_eq_map {rows : List Record} (hrows : Identified rows)
    (id : String) (f : Record → Record) :
    modifyFirst (·.hasId id) f rows = rows.map fun row =>
      if row.hasId id then f row else row := by
  induction rows with
  | nil => rfl
  | cons row rest ih =>
      have hsplit := List.nodup_cons.mp hrows.ids_nodup
      have hrest : Identified rest :=
        ⟨fun row hrow =>
          hrows.id_isSome row (List.mem_cons_of_mem _ hrow), hsplit.2⟩
      rw [modifyFirst, List.map_cons, ih hrest]
      split
      next hrow =>
        congr 1
        symm
        refine (List.map_congr_left fun other hother => ?_).trans
          (List.map_id rest)
        have hne : other.hasId id = false := by
          rw [Bool.eq_false_iff]
          intro hid
          have hsame : other.id? = row.id? := by
            simp only [Record.hasId, beq_iff_eq] at hid hrow
            rw [hid, hrow]
          exact hsplit.1 (List.mem_map.mpr ⟨other, hother, hsame⟩)
        simp [hne]
      · rfl

/-- **Patching** replaces the row with the identifier in its place; without such
a row it does nothing. -/
theorem update_cases (h : Host) (slug id : String) (patch : Record)
    (hrows : Identified (s.rows slug)) :
    (s.find? slug id = none ∧ s.update h slug id patch = (none, s)) ∨
      ∃ row, s.find? slug id = some row ∧
        (s.update h slug id patch).1 = some (row.patched patch h.stamp) ∧
        (s.update h slug id patch).2.rows slug = (s.rows slug).map (fun other =>
          if other.hasId id then row.patched patch h.stamp else other) ∧
        ∀ t, t ≠ slug → (s.update h slug id patch).2.rows t = s.rows t := by
  cases hfind : s.find? slug id with
  | none => exact Or.inl ⟨rfl, by rw [update, hfind]⟩
  | some row =>
      refine Or.inr ⟨row, rfl, ?_⟩
      rw [update, hfind]
      refine ⟨rfl, ?_, fun t ht => rows_withRows_of_ne _ _ ht⟩
      exact (rows_withRows_self _ _ _).trans (modifyFirst_eq_map hrows id _)

/-- What the first row of a kind is changed to is the first of that kind. -/
theorem find?_modifyFirst {p : Record → Bool} {rows : List Record}
    {row new : Record} (hfind : rows.find? p = some row) (hnew : p new = true) :
    (modifyFirst p (fun _ => new) rows).find? p = some new := by
  induction rows with
  | nil => cases hfind
  | cons first rest ih =>
      cases hfirst : p first with
      | true => simp [modifyFirst, hfirst, hnew]
      | false =>
          rw [List.find?_cons_of_neg (by simp [hfirst])] at hfind
          simp [modifyFirst, hfirst, ih hfind]

/-- A patched row is found in its place. -/
theorem find?_update_self (h : Host) {s : Store} {slug id : String}
    {row : Record} (hfind : s.find? slug id = some row) (patch : Record) :
    (s.update h slug id patch).2.find? slug id =
      some (row.patched patch h.stamp) := by
  have hid : (row.patched patch h.stamp).hasId id = true := by
    rw [Record.hasId, Record.id?_patched, (s.find?_some hfind).2]
    exact beq_self_eq_true _
  rw [update, hfind]
  show (rows _ slug).find? _ = _
  rw [rows_withRows_self]
  exact find?_modifyFirst hfind hid

/-- A patch leaves other collections alone. -/
theorem rows_update_of_ne (h : Host) {slug t : String} (id : String)
    (patch : Record) (ht : t ≠ slug) :
    (s.update h slug id patch).2.rows t = s.rows t := by
  unfold update
  split
  · rfl
  · exact rows_withRows_of_ne _ _ ht

/-- **Removing** keeps the rows with other identifiers. -/
theorem rows_delete (slug id t : String) :
    (s.delete slug id).2.rows t =
      if t = slug then (s.rows slug).filter fun row => !row.hasId id
      else s.rows t := by
  unfold delete
  split
  next hnone =>
    split
    next ht =>
      subst ht
      simp [Store.rows, hnone]
    · rfl
  next rows hsome =>
    split
    next ht =>
      subst ht
      simp [Store.rows, hsome, withRows]
    next ht => exact rows_withRows_of_ne _ _ ht

end Store

namespace Identified

variable {rows : List Record}

/-- Rows with the same identifier are one row. -/
theorem eq_of_id?_eq {row other : Record} (h : Identified rows)
    (hrow : row ∈ rows) (hother : other ∈ rows) (hid : row.id? = other.id?) :
    row = other := List.inj_on_of_nodup_map h.ids_nodup hrow hother hid

/-- Rows with one identifier are one row. -/
theorem eq_of_id {row other : Record} {id : String} (h : Identified rows)
    (hrow : row ∈ rows) (hother : other ∈ rows) (hid : row.id? = some id)
    (hotherid : other.id? = some id) : row = other :=
  h.eq_of_id?_eq hrow hother (hid.trans hotherid.symm)

/-- A row is found under its identifier. -/
theorem find?_hasId_eq {row : Record} {id : String} (h : Identified rows)
    (hrow : row ∈ rows) (hid : row.id? = some id) :
    rows.find? (·.hasId id) = some row := by
  cases hfind : rows.find? (·.hasId id) with
  | none => simpa [Record.hasId, hid] using List.find?_eq_none.mp hfind row hrow
  | some other =>
      have hother : other.id? = some id := by
        simpa [Record.hasId] using List.find?_some hfind
      rw [h.eq_of_id hrow (List.mem_of_find?_eq_some hfind) hid hother]

/-- A row may be appended when its identifier is new. -/
theorem append {row : Record} {id : String} (h : Identified rows)
    (hid : row.id? = some id) (hnew : id ∉ idsOf rows) :
    Identified (rows ++ [row]) := by
  constructor
  · intro other hother
    rcases List.mem_append.mp hother with hother | hother
    · exact h.id_isSome other hother
    · rw [List.mem_singleton.mp hother, hid]
      rfl
  · rw [List.map_append, List.nodup_append]
    refine ⟨h.ids_nodup, by simp, ?_⟩
    intro a ha b hb heq
    obtain ⟨other, hother, rfl⟩ := List.mem_map.mp ha
    have hb : b = some id := by simpa [hid] using hb
    exact hnew (mem_idsOf_iff.mpr ⟨other, hother, heq.trans hb⟩)

/-- A change that keeps the identifier of every row keeps them distinct. -/
theorem map {f : Record → Record} (h : Identified rows)
    (hf : ∀ row ∈ rows, (f row).id? = row.id?) : Identified (rows.map f) := by
  have hids : (rows.map f).map (·.id?) = rows.map (·.id?) := by
    rw [List.map_map]
    exact List.map_congr_left hf
  constructor
  · intro row hrow
    obtain ⟨other, hother, rfl⟩ := List.mem_map.mp hrow
    rw [hf other hother]
    exact h.id_isSome other hother
  · rw [hids]
    exact h.ids_nodup

/-- Removing rows keeps the others apart. -/
theorem filter (p : Record → Bool) (h : Identified rows) :
    Identified (rows.filter p) := by
  constructor
  · intro row hrow
    exact h.id_isSome row (List.mem_filter.mp hrow).1
  · exact (List.filter_sublist.map _).nodup h.ids_nodup

end Identified

/-! ## Histories -/

namespace Store

variable {s : Store}

/-- Inserting keeps the rows of a collection identified. -/
theorem identified_create {t : String} (ht : Identified (s.rows t)) (h : Host)
    (slug : String) (data : Record) :
    Identified ((s.create h slug data).2.rows t) := by
  rcases s.create_cases h slug data with
      ⟨-, hrows⟩ | ⟨id, -, hnew, hrow, hother⟩
  · rwa [hrows t]
  · by_cases hslug : t = slug
    · subst hslug
      rw [hrow]
      exact ht.append (Record.id?_stamped _ _ _) hnew
    · rwa [hother t hslug]

/-- Patching keeps the rows of a collection identified. -/
theorem identified_update {t slug : String} (ht : Identified (s.rows t))
    (hslug : Identified (s.rows slug)) (h : Host) (id : String)
    (patch : Record) : Identified ((s.update h slug id patch).2.rows t) := by
  rcases s.update_cases h slug id patch hslug with
      ⟨-, heq⟩ | ⟨row, hfind, -, hmap, hother⟩
  · rwa [heq]
  · by_cases hsame : t = slug
    · subst hsame
      rw [hmap]
      refine ht.map fun other _ => ?_
      split
      next hid => rw [Record.id?_patched, (s.find?_some hfind).2,
        beq_iff_eq.mp hid]
      · rfl
    · rwa [hother t hsame]

/-- Removing keeps the rows of a collection identified. -/
theorem identified_delete {t : String} (ht : Identified (s.rows t))
    (slug id : String) : Identified ((s.delete slug id).2.rows t) := by
  rw [s.rows_delete]
  split
  next hslug => exact (hslug ▸ ht).filter _
  · exact ht

/-- The stores that insertions, patches and removals lead to from an empty
one. -/
inductive Written : Store → Prop
  | empty : Written Store.empty
  | create {s : Store} (h : Host) (slug : String) (data : Record) :
      Written s → Written (s.create h slug data).2
  | update {s : Store} (h : Host) (slug id : String) (patch : Record) :
      Written s → Written (s.update h slug id patch).2
  | delete {s : Store} (slug id : String) : Written s →
      Written (s.delete slug id).2

/-- **Rows of a written store are identified**, in every collection. -/
theorem Written.identified (hs : s.Written) (t : String) :
    Identified (s.rows t) := by
  induction hs generalizing t with
  | empty => exact Identified.nil
  | create h slug data _ ih => exact identified_create (ih t) h slug data
  | update h slug id patch _ ih =>
      exact identified_update (ih t) (ih slug) h id patch
  | delete slug id _ ih => exact identified_delete (ih t) slug id

end Store

end ServiceLoom
