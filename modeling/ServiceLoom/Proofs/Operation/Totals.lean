import ServiceLoom.Operation.Invoices
import ServiceLoom.Proofs.Record.Order
import ServiceLoom.Proofs.Store.Rows
import ServiceLoom.Proofs.Store.Runs

/-!
# Totals of parents

Items name their parent by a foreign key, and the parent carries totals over its
items.  Recomputing patches the parents of a list one after the other, each with
the totals over its items.  No patch touches an item, so all totals are those of
the beginning, and a row that is patched twice with the same totals is as
patched once, but for the time of change.  So what becomes of a row is said by a
function of the row (`Billing.recalculated`), and of the list only its members
count (`Billing.recalculateEach_recalculated`).

A parent is in sync when its totals are those of the items that name it now.
Recomputing brings the parents that it is given in sync and takes no other
parent out of sync (`Billing.recalculateEach_recomputes`); a write of one item
changes the items of those parents only that the item names before or after it
(`Billing.itemsOf_create`, `Billing.itemsOf_update`, `Billing.itemsOf_delete`).

Nothing here depends on what the operations on amounts compute.
-/

namespace ServiceLoom

/-- **A patch that is repeated** leaves no trace but its own time. -/
theorem Record.patched_patched {patch : Record} (hpatch : patch.Ordered)
    (row : Record) (now later : Json) :
    (row.patched patch now).patched patch later = row.patched patch later := by
  have hkept : Dict.Ordered (patch.filter fun e =>
      e.1 ≠ "id" && e.1 ≠ "created_at") := List.Pairwise.filter _ hpatch
  unfold Record.patched
  rw [Dict.insert_merge_insert, Dict.merge_merge_self hkept]

/-- How items add up to their parents. -/
structure Billing where
  /-- The collection of the items. -/
  items : String
  /-- The collection of the parents. -/
  parents : String
  /-- The field in which an item names its parent. -/
  foreignKey : String
  taxRate : Float
  items_ne_parents : items ≠ parents

namespace Billing

variable (b : Billing)

/-- Whether an item names a parent: its key has the text of the identifier. -/
def names (id : String) (item : Record) : Bool :=
  (item.get? b.foreignKey).map Json.plainText == some id

/-- The items of a parent, in storage order. -/
def itemsOf (s : Store) (id : String) : List Record :=
  (s.rows b.items).filter (b.names id)

/-- The totals over the items of a parent. -/
def totalsOf (s : Store) (id : String) : Record :=
  parentTotals (b.itemsOf s id) b.taxRate

/-- The rows with an identifier carry the totals over their items. -/
def InSyncAt (s : Store) (id : String) : Prop :=
  ∀ row ∈ s.rows b.parents, row.id? = some id →
    ∀ field ∈ Record.totalFields, row.get? field = (b.totalsOf s id).get? field

/-- Every parent with an identifier that is not blank is in sync. -/
def InSync (s : Store) : Prop := ∀ id, Text.isBlank id = false → b.InSyncAt s id

variable {b} {s left : Store} {host : Host} {row : Record} {id : String}
    {ids : List String} {now later : Json}

theorem itemsOf_congr (h : left.rows b.items = s.rows b.items) (id : String) :
    b.itemsOf left id = b.itemsOf s id := by
  rw [itemsOf, itemsOf, h]

theorem totalsOf_congr (h : left.rows b.items = s.rows b.items) (id : String) :
    b.totalsOf left id = b.totalsOf s id :=
  congrArg (parentTotals · b.taxRate) (itemsOf_congr h id)

/-- Being in sync depends on the rows of the parents and on the items of the
identifier. -/
theorem InSyncAt.congr (h : b.InSyncAt s id)
    (hparents : left.rows b.parents = s.rows b.parents)
    (hitems : b.itemsOf left id = b.itemsOf s id) : b.InSyncAt left id := by
  intro row hrow hid field hfield
  rw [totalsOf, hitems]
  exact h row (hparents ▸ hrow) hid field hfield

/-! ## Recomputing -/

/-- Filtering by the key finds the items of a parent. -/
theorem agrees_eq_names (b : Billing) (id : String) :
    Access.agrees [(b.foreignKey, .string id)] = b.names id := by
  funext item
  simp [Access.agrees, names, Json.plainText]

/-- Totals over items have the fields for totals, each once. -/
theorem parentTotals_eq (items : List Record) (taxRate : Float) :
    ∃ subtotal tax grand : Json, parentTotals items taxRate =
      [("grand_total", grand), ("subtotal", subtotal), ("tax_total", tax)] :=
  ⟨_, _, _, rfl⟩

/-- Totals are fields that users write. -/
theorem notMem_systemFields {field : String}
    (hfield : field ∈ Record.totalFields) : field ∉ Record.systemFields := by
  simp only [Record.totalFields, List.mem_cons, List.not_mem_nil,
    or_false] at hfield
  rcases hfield with rfl | rfl | rfl <;> decide

/-- A patch with totals sets them. -/
theorem get?_patched_parentTotals (row : Record)
    (items : List Record) (taxRate : Float) (now : Json) {field : String}
    (hfield : field ∈ Record.totalFields) :
    (row.patched (parentTotals items taxRate) now).get? field =
      (parentTotals items taxRate).get? field := by
  obtain ⟨subtotal, tax, grand, heq⟩ := parentTotals_eq items taxRate
  have hgrand : "grand_total" ≠ "subtotal" ∧
      "grand_total" ≠ "tax_total" := by decide
  have hsubtotal : "subtotal" ≠ "tax_total" := by decide
  rw [Record.get?_patched (notMem_systemFields hfield), heq]
  show (((row.insert "grand_total" grand).insert "subtotal" subtotal).insert
      "tax_total" tax).get? field = _
  simp only [Record.totalFields, List.mem_cons, List.not_mem_nil,
    or_false] at hfield
  rcases hfield with rfl | rfl | rfl
  · rw [Dict.get?_insert_of_ne _ _ hsubtotal, Dict.get?_insert_self]
    rfl
  · rw [Dict.get?_insert_self]
    rfl
  · rw [Dict.get?_insert_of_ne _ _ hgrand.2,
      Dict.get?_insert_of_ne _ _ hgrand.1, Dict.get?_insert_self]
    rfl

/-! ### Row by row -/

/-- Totals name their fields in order. -/
theorem ordered_totalsOf (b : Billing) (s : Store) (id : String) :
    (b.totalsOf s id).Ordered := by
  obtain ⟨subtotal, tax, grand, heq⟩ :=
    parentTotals_eq (b.itemsOf s id) b.taxRate
  have hnames : ["grand_total", "subtotal",
      "tax_total"].Pairwise (· < ·) := by decide
  rw [totalsOf, heq]
  exact List.pairwise_map.mp hnames

/-- What becomes of a parent when those with the given identifiers are
recalculated. -/
def recalculated (b : Billing) (s : Store) (now : Json) (ids : List String)
    (row : Record) : Record :=
  match row.id? with
  | some id => if id ∈ ids then row.patched (b.totalsOf s id) now else row
  | none => row

theorem recalculated_of_mem (hid : row.id? = some id) (hmem : id ∈ ids) :
    b.recalculated s now ids row = row.patched (b.totalsOf s id) now := by
  simp [recalculated, hid, hmem]

theorem recalculated_of_notMem (h : ∀ id ∈ ids, row.id? ≠ some id) :
    b.recalculated s now ids row = row := by
  unfold recalculated
  split
  next id hid => exact if_neg fun hmem => h id hmem hid
  · rfl

/-- A parent keeps its identifier. -/
theorem id?_recalculated (b : Billing) (s : Store) (now : Json)
    (ids : List String) (row : Record) :
    (b.recalculated s now ids row).id? = row.id? := by
  unfold recalculated
  split
  · split
    · exact Record.id?_patched _ _ _
    · rfl
  · rfl

/-- A parent is on the list or not. -/
theorem mem_cases (row : Record) (ids : List String) :
    (∃ id ∈ ids, row.id? = some id) ∨ ∀ id ∈ ids, row.id? ≠ some id := by
  by_cases h : ∃ id ∈ ids, row.id? = some id
  · exact .inl h
  · exact .inr fun id hmem hid => h ⟨id, hmem, hid⟩

theorem recalculated_singleton (b : Billing) (s : Store) (now : Json)
    (id : String) (row : Record) :
    b.recalculated s now [id] row = if row.hasId id then
      row.patched (b.totalsOf s id) now else row := by
  unfold recalculated Record.hasId
  cases row.id? with
  | none => rfl
  | some i =>
      by_cases hi : i = id
      · simp [hi]
      · simp [hi]

/-- The head of a list first, and then the rest. -/
theorem recalculated_cons (b : Billing) (s : Store) (now : Json) (id : String)
    (rest : List String) (row : Record) :
    b.recalculated s now rest (b.recalculated s now [id] row) =
      b.recalculated s now (id :: rest) row := by
  rw [recalculated_singleton, Record.hasId]
  by_cases hid : row.id? = some id
  · have hkept : (row.patched (b.totalsOf s id) now).id? = some id :=
      (Record.id?_patched _ _ _).trans hid
    rw [if_pos (beq_iff_eq.mpr hid), recalculated_of_mem hid List.mem_cons_self]
    by_cases hmem : id ∈ rest
    · rw [recalculated_of_mem hkept hmem,
        Record.patched_patched (b.ordered_totalsOf s id)]
    · refine recalculated_of_notMem fun other hother heq => hmem ?_
      rw [hkept] at heq
      exact Option.some.inj heq ▸ hother
  · rw [if_neg fun hhas => hid (beq_iff_eq.mp hhas)]
    rcases mem_cases row rest with ⟨i, hmem, hi⟩ | hnone
    · rw [recalculated_of_mem hi hmem,
        recalculated_of_mem hi (List.mem_cons_of_mem _ hmem)]
    · rw [recalculated_of_notMem hnone,
        recalculated_of_notMem (List.forall_mem_cons.mpr ⟨hid, hnone⟩)]

/-- Totals are those of the items, whatever becomes of the parents. -/
theorem recalculated_congr (hitems : left.rows b.items = s.rows b.items)
    (now : Json) (ids : List String) :
    b.recalculated left now ids = b.recalculated s now ids := by
  funext row
  unfold recalculated
  simp only [totalsOf_congr hitems]

/-! ### Run by run -/

/-- A store after the parents of a list are recalculated: these rows have
changed, and nothing else. -/
structure Recalculated (b : Billing) (s left : Store) (now : Json)
    (ids : List String) : Prop where
  parents : left.rows b.parents =
    (s.rows b.parents).map (b.recalculated s now ids)
  others : ∀ slug, slug ≠ b.parents → left.rows slug = s.rows slug
  issued : left.issued = s.issued

namespace Recalculated

/-- The items are as they were. -/
theorem items (h : b.Recalculated s left now ids) :
    left.rows b.items = s.rows b.items :=
  h.others b.items b.items_ne_parents

/-- Parents keep their identifiers. -/
theorem identified (h : b.Recalculated s left now ids)
    (hs : Identified (s.rows b.parents)) :
    Identified (left.rows b.parents) := by
  rw [h.parents]
  exact hs.map fun row _ => b.id?_recalculated s now ids row

/-- Nothing is recalculated. -/
theorem nil (b : Billing) (s : Store) (now : Json) :
    b.Recalculated s s now [] where
  parents := by
    have hkept : ∀ row ∈ s.rows b.parents, b.recalculated s now [] row = row :=
      fun _ _ => recalculated_of_notMem nofun
    rw [List.map_congr_left hkept, List.map_id']
  others _ _ := rfl
  issued := rfl

/-- One parent is recalculated by a patch with the totals over its items. -/
theorem update (hs : Identified (s.rows b.parents)) (host : Host)
    (id : String) :
    b.Recalculated s (s.update host b.parents id (b.totalsOf s id)).2
      host.stamp [id] where
  others slug hslug := s.rows_update_of_ne host id _ hslug
  issued := by
    unfold Store.update
    split
    · rfl
    · rfl
  parents := by
    rcases s.update_cases host b.parents id (b.totalsOf s id) hs with
        ⟨hnone, heq⟩ | ⟨found, hfound, -, hmap, -⟩
    · have hkept : ∀ row ∈ s.rows b.parents,
          b.recalculated s host.stamp [id] row = row := by
        intro row hrow
        rw [recalculated_singleton,
          if_neg (List.find?_eq_none.mp hnone row hrow)]
      rw [heq, List.map_congr_left hkept, List.map_id']
    · rw [hmap]
      refine List.map_congr_left fun row hrow => ?_
      rw [recalculated_singleton]
      split
      next hhas =>
        obtain ⟨hfoundMem, hfoundId⟩ := s.find?_some hfound
        rw [hs.eq_of_id hrow hfoundMem (beq_iff_eq.mp hhas) hfoundId]
      · rfl

/-- The head of a list is recalculated, and then the rest. -/
theorem cons {middle : Store}
    {rest : List String} (hfirst : b.Recalculated s middle now [id])
    (hrest : b.Recalculated middle left now rest) :
    b.Recalculated s left now (id :: rest) where
  parents := by
    rw [hrest.parents, hfirst.parents, List.map_map,
      recalculated_congr hfirst.items]
    exact List.map_congr_left fun row _ => b.recalculated_cons s now id rest row
  others slug hslug :=
    (hrest.others slug hslug).trans (hfirst.others slug hslug)
  issued := hrest.issued.trans hfirst.issued

/-- The parents of the list are in sync. -/
theorem inSyncAt_of_mem (h : b.Recalculated s left now ids) (hmem : id ∈ ids) :
    b.InSyncAt left id := by
  intro new hnew hid field hfield
  rw [h.parents] at hnew
  obtain ⟨old, -, rfl⟩ := List.mem_map.mp hnew
  rw [id?_recalculated] at hid
  rw [recalculated_of_mem hid hmem, totalsOf_congr h.items]
  exact get?_patched_parentTotals old _ _ _ hfield

/-- A parent in sync stays so. -/
theorem inSyncAt (h : b.Recalculated s left now ids) (hsync : b.InSyncAt s id) :
    b.InSyncAt left id := by
  by_cases hmem : id ∈ ids
  · exact h.inSyncAt_of_mem hmem
  · intro new hnew hid field hfield
    rw [h.parents] at hnew
    obtain ⟨old, hold, rfl⟩ := List.mem_map.mp hnew
    rw [id?_recalculated] at hid
    have hnone : ∀ other ∈ ids, old.id? ≠ some other := by
      intro other hother heq
      rw [hid] at heq
      exact hmem (Option.some.inj heq ▸ hother)
    rw [recalculated_of_notMem hnone, totalsOf_congr h.items]
    exact hsync old hold hid field hfield

end Recalculated

/-- The first parent of a list is patched with the totals over its items, and
the others follow. -/
theorem run_recalculateEach_cons (b : Billing) (host : Host) (s : Store)
    (id : String) (rest : List String) :
    (recalculateEach b.items b.foreignKey b.parents b.taxRate (id :: rest)).run
      host Outage.none s =
      (recalculateEach b.items b.foreignKey b.parents b.taxRate rest).run
        host Outage.none
        (s.update host b.parents id (b.totalsOf s id)).2 := by
  have hmatching : (Access.matching b.items [(b.foreignKey, .string id)]).run
      host Outage.none s =
      (.ok (b.itemsOf s id), s) := by
    rw [itemsOf, ← agrees_eq_names]
    exact Access.run_matching host Outage.none s rfl
  rw [recalculateEach, Access.run_bind_ok _ _ _ hmatching,
    Access.run_bind_ok _ _ _ (Access.run_patch _ _ _ rfl)]
  rfl

/-- **Recomputing parents one after the other** answers, and changes each of
them once. -/
theorem recalculateEach_recalculated (host : Host)
    (hs : Identified (s.rows b.parents)) (ids : List String) :
    ∃ left, (recalculateEach b.items b.foreignKey b.parents b.taxRate ids).run
      host Outage.none s = (.ok (), left) ∧
      b.Recalculated s left host.stamp ids := by
  induction ids generalizing s with
  | nil => exact ⟨s, rfl, .nil b s host.stamp⟩
  | cons id rest ih =>
      have hfirst := Recalculated.update hs host id
      obtain ⟨left, hrun, hrest⟩ := ih (hfirst.identified hs)
      refine ⟨left, ?_, hfirst.cons hrest⟩
      rw [run_recalculateEach_cons]
      exact hrun

/-- What recomputing the totals of some parents does for being in sync: it
leaves the items, brings these parents in sync, and takes no other out of
sync. -/
structure Recomputes (b : Billing) (s left : Store)
    (ids : List String) : Prop where
  items : left.rows b.items = s.rows b.items
  identified : Identified (left.rows b.parents)
  inSyncAt_of_mem : ∀ id ∈ ids, b.InSyncAt left id
  inSyncAt : ∀ id, b.InSyncAt s id → b.InSyncAt left id

/-- **Recomputing parents one after the other** answers, and brings them all in
sync. -/
theorem recalculateEach_recomputes (host : Host)
    (h : Identified (s.rows b.parents)) (ids : List String) :
    ∃ left, (recalculateEach b.items b.foreignKey b.parents b.taxRate ids).run
      host Outage.none s =
      (.ok (), left) ∧ b.Recomputes s left ids := by
  obtain ⟨left, hrun, hleft⟩ := recalculateEach_recalculated host h ids
  exact ⟨left, hrun, hleft.items, hleft.identified h,
    fun _ => hleft.inSyncAt_of_mem, fun _ => hleft.inSyncAt⟩

/-- The distinct texts are those of the values that are not blank. -/
theorem mem_distinctTexts_iff {values : List (Option Json)} {t : String} :
    t ∈ distinctTexts values ↔ ∃ v, some v ∈ values ∧
      isBlank (some v) = false ∧ v.plainText = t := by
  have hseen : ∀ (texts seen : List String),
      t ∈ texts.foldl (fun seen t => if seen.contains t then seen
        else seen ++ [t]) seen ↔
        t ∈ seen ∨ t ∈ texts := by
    intro texts
    induction texts with
    | nil => simp
    | cons u rest ih =>
        intro seen
        rw [List.foldl_cons, ih, List.mem_cons]
        split
        next hthere =>
          have hu : u ∈ seen := by simpa using hthere
          constructor
          · exact Or.imp_right Or.inr
          · rintro (hmem | rfl | hmem)
            · exact Or.inl hmem
            · exact Or.inl hu
            · exact Or.inr hmem
        · rw [List.mem_append, List.mem_singleton, or_assoc]
  rw [distinctTexts, hseen, List.mem_filterMap]
  constructor
  · rintro (hnil | ⟨v, hv, htext⟩)
    · cases hnil
    · obtain ⟨hmem, hfilled⟩ := List.mem_filter.mp hv
      obtain ⟨w, rfl, rfl⟩ := Option.map_eq_some_iff.mp htext
      exact ⟨w, hmem, by simpa using hfilled, rfl⟩
  · rintro ⟨v, hmem, hfilled, rfl⟩
    exact Or.inr ⟨some v, List.mem_filter.mpr ⟨hmem, by simp [hfilled]⟩, rfl⟩

/-- An item that names a parent with an identifier that is not blank has it
recomputed. -/
theorem mem_distinctTexts_of_names {item : Record} {values : List (Option Json)}
    (hid : Text.isBlank id = false) (hnames : b.names id item = true)
    (hmem : item.get? b.foreignKey ∈ values) : id ∈ distinctTexts values := by
  obtain ⟨v, hv, htext⟩ := Option.map_eq_some_iff.mp (beq_iff_eq.mp hnames)
  refine mem_distinctTexts_iff.mpr ⟨v, hv ▸ hmem, ?_, htext⟩
  rw [← Json.isBlank_plainText, htext, hid]

/-! ## Writes of items -/

/-- An insertion leaves the items of every parent that the new item does not
name. -/
theorem itemsOf_create
    {data item : Record} (hcreate : (s.create host b.items data).1 = .ok item)
    (hnames : b.names id item = false) :
    b.itemsOf (s.create host b.items data).2 id = b.itemsOf s id := by
  rcases s.create_cases host b.items data with
      ⟨⟨e, herror⟩, -⟩ | ⟨new, hok, -, hrow, -⟩
  · rw [hcreate] at herror
    cases herror
  · obtain rfl : item = data.stamped new host.stamp := by
      rw [hcreate] at hok
      exact Except.ok.inj hok
    rw [itemsOf, hrow, List.filter_append]
    simp [itemsOf, hnames]

/-- Changing rows that are filtered out before and after does not show. -/
theorem filter_map_eq_filter
    {p : Record → Bool} {f : Record → Record} {rows : List Record}
    (h : ∀ row ∈ rows, f row = row ∨ p row = false ∧ p (f row) = false) :
    (rows.map f).filter p = rows.filter p := by
  induction rows with
  | nil => rfl
  | cons row rest ih =>
      have hrest := ih fun other hother =>
          h other (List.mem_cons_of_mem _ hother)
      rw [List.map_cons, List.filter_cons, List.filter_cons, hrest]
      rcases h row List.mem_cons_self with hsame | ⟨hbefore, hafter⟩
      · rw [hsame]
      · simp [hbefore, hafter]

/-- A patch leaves the items of every parent that the item names neither before
nor after it. -/
theorem itemsOf_update
    {key : String} {existing data : Record} (h : Identified (s.rows b.items))
    (hfind : s.find? b.items key = some existing)
    (hbefore : b.names id existing = false)
    (hafter : b.names id (existing.patched data host.stamp) = false) :
    b.itemsOf (s.update host b.items key data).2 id = b.itemsOf s id := by
  rcases s.update_cases host b.items key data h with
      ⟨hnone, -⟩ | ⟨row, hsome, -, hmap, -⟩
  · rw [hfind] at hnone
    cases hnone
  · obtain rfl : existing = row := Option.some.inj (hfind.symm.trans hsome)
    obtain ⟨hmem, hkey⟩ := s.find?_some hfind
    rw [itemsOf, itemsOf, hmap]
    refine filter_map_eq_filter fun other hother => ?_
    split
    next hsame =>
      rw [h.eq_of_id hother hmem (beq_iff_eq.mp hsame) hkey]
      exact Or.inr ⟨hbefore, hafter⟩
    · exact Or.inl rfl

/-- A removal leaves the items of every parent that the item does not name. -/
theorem itemsOf_delete
    {key : String} {existing : Record} (h : Identified (s.rows b.items))
    (hfind : s.find? b.items key = some existing)
    (hbefore : b.names id existing = false) :
    b.itemsOf (s.delete b.items key).2 id = b.itemsOf s id := by
  obtain ⟨hmem, hkey⟩ := s.find?_some hfind
  rw [itemsOf, s.rows_delete, if_pos rfl, List.filter_filter, itemsOf]
  refine List.filter_congr fun other hother => ?_
  cases hsame : other.hasId key with
  | false => simp
  | true =>
      rw [h.eq_of_id hother hmem (beq_iff_eq.mp hsame) hkey, hbefore]
      rfl

end Billing

end ServiceLoom
