import ServiceLoom.Proofs.Record.Order
import ServiceLoom.Proofs.Store.Rows
import Mathlib.Logic.Function.Basic

/-!
# Collections as maps

Seen from outside, a collection is a finite map from identifiers to rows that
keeps its entries in the order of insertion.  `Store.contents` reads a store as
one such map for each slug, and every call of a written store does to the maps
what its name says, and nothing else: look-up, insertion at the end, change in
place, removal (`Store.ActsAsMap`).  That the first row with an identifier is
all that a look-up or a patch needs, while a removal takes every such row, makes
no difference, since identifiers are distinct in every store that was written by
calls (`Store.Written.actsAsMap`).
-/

namespace ServiceLoom

/-! ## Rows by identifier -/

/-- The rows of a list that have an identifier, each with it. -/
def contentsOf (rows : List Record) : List (String × Record) :=
  rows.filterMap fun row => row.id?.map fun id => (id, row)

/-- The row first in a list, with its identifier if it has one. -/
theorem contentsOf_cons (row : Record) (rows : List Record) :
    contentsOf (row :: rows) = (row.id?.map fun id => (id, row)).toList ++
      contentsOf rows := by
  rw [contentsOf, List.filterMap_cons]
  cases row.id? <;> rfl

theorem contentsOf_append (rows more : List Record) :
    contentsOf (rows ++ more) = contentsOf rows ++ contentsOf more :=
  List.filterMap_append

/-- The names of the map are the identifiers of the rows. -/
theorem map_fst_contentsOf (rows : List Record) :
    (contentsOf rows).map (·.1) = idsOf rows := by
  rw [contentsOf, idsOf, List.map_filterMap]
  refine List.filterMap_congr fun row _ => ?_
  cases row.id? <;> rfl

theorem mem_contentsOf {rows : List Record} {id : String} {row : Record} :
    (id, row) ∈ contentsOf rows ↔ row ∈ rows ∧ row.id? = some id := by
  simp only [contentsOf, List.mem_filterMap, Option.map_eq_some_iff,
    Prod.mk.injEq]
  constructor
  · rintro ⟨other, hmem, i, hid, rfl, rfl⟩
    exact ⟨hmem, hid⟩
  · rintro ⟨hmem, hid⟩
    exact ⟨row, hmem, id, hid, rfl, rfl⟩

/-- The first row with an identifier is what the map has under it. -/
theorem find?_hasId (rows : List Record) (id : String) :
    rows.find? (·.hasId id) = (contentsOf rows).lookup id := by
  induction rows with
  | nil => rfl
  | cons row rest ih =>
      rw [contentsOf_cons, List.find?_cons, Record.hasId, ih]
      cases hid : row.id? with
      | none => rfl
      | some i =>
          by_cases hi : i = id
          · simp [hi]
          · have hrow : (some i == some id) = false := by simpa using hi
            have hentry : (id == i) = false := by simpa using Ne.symm hi
            simp [hrow, List.lookup_cons, hentry]

/-- A row put in the place of those with its identifier takes their entries. -/
theorem contentsOf_replace {rows : List Record} {new : Record} {id : String}
    (hnew : new.id? = some id) :
    contentsOf (rows.map fun row => if row.hasId id then new else row) =
      (contentsOf rows).map fun e => if e.1 = id then (id, new) else e := by
  induction rows with
  | nil => rfl
  | cons row rest ih =>
      rw [List.map_cons, contentsOf_cons, contentsOf_cons, List.map_append, ih]
      cases hid : row.id? with
      | none => simp [Record.hasId, hid]
      | some i => by_cases hi : i = id <;> simp [Record.hasId, hid, hi, hnew]

/-- Rows without an identifier are the entries under other ones. -/
theorem contentsOf_filter (rows : List Record) (id : String) :
    contentsOf (rows.filter fun row => !row.hasId id) =
      (contentsOf rows).filter (·.1 ≠ id) := by
  induction rows with
  | nil => rfl
  | cons row rest ih =>
      rw [contentsOf_cons, List.filter_append, ← ih, List.filter_cons]
      cases hid : row.id? with
      | none => simp [Record.hasId, hid, contentsOf_cons]
      | some i =>
          by_cases hi : i = id <;> simp [Record.hasId, hid, hi, contentsOf_cons]

namespace Identified

variable {rows : List Record}

/-- The map of identified rows has all of them, in order. -/
theorem map_snd_contentsOf (h : Identified rows) :
    (contentsOf rows).map (·.2) = rows := by
  have hself : ∀ row ∈ rows, (row.id?.map fun id => (id, row)).map (·.2) =
      some row := by
    intro row hrow
    obtain ⟨id, hid⟩ := Option.isSome_iff_exists.mp (h.id_isSome row hrow)
    rw [hid]
    rfl
  rw [contentsOf, List.map_filterMap, List.filterMap_congr hself,
    List.filterMap_some]

/-- The identifiers of identified rows are distinct. -/
theorem nodup_idsOf (h : Identified rows) : (idsOf rows).Nodup := by
  have hids : idsOf rows = (rows.map (·.id?)).filterMap id := by
    rw [List.filterMap_map]
    rfl
  rw [hids]
  refine h.ids_nodup.filterMap fun a b id ha hb => ?_
  exact (show a = some id from ha).trans (show b = some id from hb).symm

end Identified

/-! ## Rows field by field -/

namespace Record

/-- A stamped row has the identifier as text and one time twice; all else is as
in the data. -/
theorem get?_stamped_eq (data : Record) (id : String) (now : Json)
    (field : String) :
    (data.stamped id now).get? field =
      if field = "id" then some (.string id)
      else if field = "created_at" ∨ field = "updated_at" then some now
      else data.get? field := by
  unfold stamped
  by_cases hupdated : field = "updated_at"
  · simp [hupdated]
  · rw [Dict.get?_insert_of_ne _ _ hupdated]
    by_cases hcreated : field = "created_at"
    · simp [hcreated]
    · rw [Dict.get?_insert_of_ne _ _ hcreated]
      by_cases hid : field = "id"
      · simp [hid]
      · simp [Dict.get?_insert_of_ne _ _ hid, hid, hcreated, hupdated]

/-- A patched row has the new time of change, its own identifier and time of
creation, and all else as in the patch, or as it was where the patch says
nothing. -/
theorem get?_patched_eq {row patch : Record} (hpatch : patch.Ordered)
    (now : Json) (field : String) :
    (row.patched patch now).get? field =
      if field = "updated_at" then some now
      else if field = "id" ∨ field = "created_at" then row.get? field
      else (patch.get? field).or (row.get? field) := by
  by_cases hupdated : field = "updated_at"
  · simp [patched, hupdated]
  · rw [if_neg hupdated]
    by_cases hfixed : field = "id" ∨ field = "created_at"
    · rw [if_pos hfixed]
      exact get?_patched_fixed _ hfixed
    · rw [if_neg hfixed, ← Dict.get?_merge hpatch]
      obtain ⟨hid, hcreated⟩ := not_or.mp hfixed
      rw [patched, Dict.get?_insert_of_ne _ _ hupdated]
      exact Dict.get?_merge_filter
        (fun e _ he => by simp [he, hid, hcreated]) rfl

/-- The identifier of a record is the text of its value. -/
theorem id?_of_get? {data : Record} {v : Json} (hget : data.get? "id" = some v)
    (hnull : v.isNull = false) : data.id? = some v.plainText := by
  rw [id?, present?_eq_some hget hnull, Option.map_some]

end Record

/-! ## Calls on maps -/

namespace Store

/-- What a store holds: a map for each slug. -/
def contents (s : Store) (slug : String) : List (String × Record) :=
  contentsOf (s.rows slug)

/-- The identifier under which a row is to be inserted: its own, as text, or the
next one to be handed out. -/
def idFor (h : Host) (s : Store) (data : Record) : String :=
  (s.assignId h data).1

/-- A record with an identifier is inserted under that. -/
theorem idFor_eq (h : Host) (s : Store) {data : Record} {v : Json}
    (hget : data.get? "id" = some v) (hnull : v.isNull = false) :
    s.idFor h data = v.plainText := by
  rw [idFor, assignId, Record.id?_of_get? hget hnull]

/-- Stores with the same rows but for one slug hold the same, but for that
slug. -/
theorem contents_eq_update {s t : Store}
    {slug : String} {rows : List Record} (hslug : t.rows slug = rows)
    (hother : ∀ other, other ≠ slug → t.rows other = s.rows other) :
    t.contents = Function.update s.contents slug (contentsOf rows) := by
  funext other
  by_cases h : other = slug
  · rw [h, Function.update_self, contents, hslug]
  · rw [Function.update_of_ne h, contents, hother other h, contents]

/-- A store acts as a finite map for each slug that keeps its entries in the
order of insertion. -/
structure ActsAsMap (s : Store) : Prop where
  /-- The maps are all that there is to see. -/
  rows_eq : ∀ slug, s.rows slug = (s.contents slug).map (·.2)
  /-- A row stands under its identifier, which is a text. -/
  id_text : ∀ slug, ∀ e ∈ s.contents slug, e.2.get? "id" = some (.string e.1)
  ids_nodup : ∀ slug, ((s.contents slug).map (·.1)).Nodup
  find_eq : ∀ slug id, s.find? slug id = (s.contents slug).lookup id
  /-- The identifier of data is its own, as text, when there is one. -/
  idFor_eq : ∀ (h : Host) (data : Record) (v : Json), data.get? "id" = some v →
    v.isNull = false →
    s.idFor h data = v.plainText
  /-- An identifier in use is refused, and nothing changes. -/
  create_taken : ∀ (h : Host) slug (data : Record) (v : Json),
    data.get? "id" = some v → v.isNull = false →
    v.plainText ∈ (s.contents slug).map (·.1) →
      s.create h slug data = (.error
        (.storage (slug ++ " '" ++ v.plainText ++ "' already exists")), s)
  /-- A row with another identifier, or with a new one that is handed out, is
  appended, and nothing else changes. -/
  create_new : ∀ (h : Host) slug (data : Record),
    s.idFor h data ∉ (s.contents slug).map (·.1) →
    ∃ row, (s.create h slug data).1 = .ok row ∧
      (s.create h slug data).2.contents =
        Function.update s.contents slug
          (s.contents slug ++ [(s.idFor h data, row)]) ∧
      ∀ field, row.get? field =
        if field = "id" then some (.string (s.idFor h data))
        else if field = "created_at" ∨ field = "updated_at" then some h.stamp
        else data.get? field
  update_absent : ∀ (h : Host) slug id (patch : Record),
    id ∉ (s.contents slug).map (·.1) →
    s.update h slug id patch = (none, s)
  /-- A row is changed in its place, and nothing else changes.  It keeps its
  identifier and its time of creation, has the new time of change, and takes
  every other entry of the patch.  The names of a patch are in order, as those
  of any record are that is made of entries (`Dict.ordered_ofEntries`). -/
  update_present : ∀ (h : Host) slug id (patch row : Record), patch.Ordered →
    (id, row) ∈ s.contents slug →
    ∃ new, (s.update h slug id patch).1 = some new ∧
      (s.update h slug id patch).2.contents = Function.update s.contents slug
        ((s.contents slug).map fun e => if e.1 = id then (id, new) else e) ∧
      ∀ field, new.get? field =
        if field = "updated_at" then some h.stamp
        else if field = "id" ∨ field = "created_at" then row.get? field
        else (patch.get? field).or (row.get? field)
  /-- A removal says whether there was such a row, and the others keep their
  order. -/
  delete_eq : ∀ slug id,
    ((s.delete slug id).1 = true ↔ id ∈ (s.contents slug).map (·.1)) ∧
    (s.delete slug id).2.contents =
      Function.update s.contents slug ((s.contents slug).filter (·.1 ≠ id))

variable {s : Store}

/-- Without a row of an identifier none is found. -/
theorem find?_eq_none_of_notMem {slug id : String}
    (h : id ∉ (s.contents slug).map (·.1)) : s.find? slug id = none := by
  rw [contents, map_fst_contentsOf, mem_idsOf_iff] at h
  refine List.find?_eq_none.mpr fun row hrow hid => h ⟨row, hrow, ?_⟩
  simpa [Record.hasId] using hid

/-- Without a row of an identifier it is free. -/
theorem any_hasId_iff (slug id : String) :
    (s.rows slug).any (·.hasId id) = true ↔
      id ∈ (s.contents slug).map (·.1) := by
  rw [contents, map_fst_contentsOf, mem_idsOf_iff, List.any_eq_true]
  simp only [Record.hasId, beq_iff_eq]

/-- **Inserting under an identifier in use** is refused, and nothing changes. -/
theorem create_of_mem (h : Host) {slug : String} {data : Record}
    {v : Json} (hget : data.get? "id" = some v) (hnull : v.isNull = false)
    (hmem : v.plainText ∈ (s.contents slug).map (·.1)) :
    s.create h slug data = (.error
      (.storage (slug ++ " '" ++ v.plainText ++ "' already exists")), s) := by
  simp only [create, stamp, assignId, Record.id?_of_get? hget hnull]
  rw [if_pos ((any_hasId_iff slug _).mpr hmem)]

/-- **Inserting under another identifier** appends the stamped data. -/
theorem create_of_notMem (h : Host) {slug : String} {data : Record}
    (hfree : s.idFor h data ∉ (s.contents slug).map (·.1)) :
    (s.create h slug data).1 = .ok (data.stamped (s.idFor h data) h.stamp) ∧
      (s.create h slug data).2.contents = Function.update s.contents slug
        (s.contents slug ++
          [(s.idFor h data, data.stamped (s.idFor h data) h.stamp)]) := by
  have hrows : ∀ t, (s.assignId h data).2.rows t = s.rows t := by
    intro t
    unfold assignId
    split <;> rfl
  have hcreate : s.create h slug data =
      (.ok (data.stamped (s.idFor h data) h.stamp),
      (s.assignId h data).2.withRows slug
          (s.rows slug ++ [data.stamped (s.idFor h data) h.stamp])) := by
    simp only [create, stamp, hrows]
    exact if_neg fun htaken => hfree ((any_hasId_iff slug _).mp htaken)
  rw [hcreate]
  refine ⟨rfl, ?_⟩
  rw [contents_eq_update (rows_withRows_self _ _ _)
      fun t ht => (rows_withRows_of_ne _ _ ht).trans (hrows t),
        contentsOf_append, contentsOf_cons,
    Record.id?_stamped]
  rfl

/-- **Patching** replaces a row in its place. -/
theorem update_of_mem (hids : ∀ slug, Identified (s.rows slug))
    (h : Host) {slug id : String} (patch : Record) {row : Record}
    (hmem : (id, row) ∈ s.contents slug) :
    (s.update h slug id patch).1 = some (row.patched patch h.stamp) ∧
      (s.update h slug id patch).2.contents = Function.update s.contents slug
        ((s.contents slug).map fun e =>
          if e.1 = id then (id, row.patched patch h.stamp) else e) := by
  obtain ⟨hrow, hid⟩ := mem_contentsOf.mp hmem
  rcases s.update_cases h slug id patch (hids slug) with
      ⟨hnone, -⟩ | ⟨found, hfound, hanswer, hmap, hother⟩
  · have hmiss := List.find?_eq_none.mp hnone row hrow
    simp [Record.hasId, hid] at hmiss
  · obtain ⟨hfoundMem, hfoundId⟩ := s.find?_some hfound
    obtain rfl := (hids slug).eq_of_id hrow hfoundMem hid hfoundId
    refine ⟨hanswer, ?_⟩
    rw [contents_eq_update hmap hother,
      contentsOf_replace ((Record.id?_patched _ _ _).trans hid)]
    rfl

/-- **Removing** takes the row with the identifier, and says whether there was
one. -/
theorem delete_contents (slug id : String) :
    ((s.delete slug id).1 = true ↔ id ∈ (s.contents slug).map (·.1)) ∧
      (s.delete slug id).2.contents = Function.update
        s.contents slug ((s.contents slug).filter (·.1 ≠ id)) := by
  constructor
  · rw [← any_hasId_iff]
    unfold delete
    split
    next hnone => simp [Store.rows, hnone]
    next rows hsome =>
      have hrows : s.rows slug = rows := by rw [Store.rows, hsome]; rfl
      rw [hrows, bne_iff_ne, ne_eq, List.length_filter_eq_length_iff,
        List.any_eq_true]
      simp
  · have hself := (s.rows_delete slug id slug).trans (if_pos rfl)
    have hother : ∀ t, t ≠ slug → (s.delete slug id).2.rows t = s.rows t :=
      fun t ht => (s.rows_delete slug id t).trans (if_neg ht)
    rw [contents_eq_update hself hother, contentsOf_filter]
    rfl

/-- In a written store the identifier of a row is a text. -/
theorem Written.id_text (hs : s.Written) (slug : String) :
    ∀ row ∈ s.rows slug, ∃ id, row.get? "id" = some (.string id) := by
  induction hs generalizing slug with
  | empty =>
      intro row hrow
      cases hrow
  | @create s h t data _ ih =>
      rcases s.create_cases h t data with
          ⟨-, hrows⟩ | ⟨id, -, -, happended, hother⟩
      · rw [hrows]
        exact ih slug
      · by_cases hslug : slug = t
        · subst hslug
          rw [happended]
          intro row hrow
          rcases List.mem_append.mp hrow with hrow | hrow
          · exact ih slug row hrow
          · rw [List.mem_singleton.mp hrow]
            exact ⟨id, by rw [Record.get?_stamped_eq, if_pos rfl]⟩
        · rw [hother slug hslug]
          exact ih slug
  | @update s h t id patch hwritten ih =>
      rcases s.update_cases h t id patch (hwritten.identified t) with
          ⟨-, heq⟩ | ⟨found, hfound, -, hmap, hother⟩
      · rw [heq]
        exact ih slug
      · by_cases hslug : slug = t
        · subst hslug
          rw [hmap]
          intro row hrow
          obtain ⟨old, hold, rfl⟩ := List.mem_map.mp hrow
          split
          · obtain ⟨i, hi⟩ := ih slug found (s.find?_some hfound).1
            exact ⟨i, (Record.get?_patched_fixed _ (.inl rfl)).trans hi⟩
          · exact ih slug old hold
        · rw [hother slug hslug]
          exact ih slug
  | @delete s t id _ ih =>
      rw [s.rows_delete]
      split
      · exact fun row hrow => ih t row (List.mem_of_mem_filter hrow)
      · exact ih slug

/-- **A written store acts as a finite map for each slug**, whatever was written
before and by whom. -/
theorem Written.actsAsMap (hs : s.Written) : s.ActsAsMap where
  rows_eq slug := (hs.identified slug).map_snd_contentsOf.symm
  id_text := by
    rintro slug ⟨id, row⟩ hmem
    obtain ⟨hrow, hid⟩ := mem_contentsOf.mp hmem
    obtain ⟨text, htext⟩ := hs.id_text slug row hrow
    obtain rfl :=
      Option.some.inj ((Record.id?_of_get? htext rfl).symm.trans hid)
    exact htext
  ids_nodup slug := by
    rw [contents, map_fst_contentsOf]
    exact (hs.identified slug).nodup_idsOf
  find_eq slug id := find?_hasId (s.rows slug) id
  idFor_eq h data v hget hnull := s.idFor_eq h hget hnull
  create_taken h slug data v hget hnull hmem := create_of_mem h hget hnull hmem
  create_new h slug data hfree := by
    obtain ⟨hanswer, hcontents⟩ := create_of_notMem h hfree
    exact ⟨_, hanswer, hcontents, Record.get?_stamped_eq _ _ _⟩
  update_absent h slug id patch habsent := by
    rw [Store.update, find?_eq_none_of_notMem habsent]
  update_present h slug id patch row hpatch hmem := by
    obtain ⟨hanswer, hcontents⟩ := update_of_mem hs.identified h patch hmem
    exact ⟨_, hanswer, hcontents, Record.get?_patched_eq hpatch _⟩
  delete_eq := delete_contents

end Store

/-- The number seven, as an integer and as a float. -/
def sevens : List Json :=
  [.number (.integer 7 (by decide)), .number (.float 7.0 (by decide))]

/-- A host on the first day of the calendar that hands out numerals. -/
def dockHost : Host := ⟨.ofDay 0, fun k => toString k⟩

/-- A dock with the number seven. -/
def dockStore : Store :=
  (Store.empty.create dockHost "docks"
    [("id", .number (.integer 7 (by decide))), ("name", .string "north")]).2

/-- The dock is found under the text of its number, and each of 7, 7.0 and the
text is refused for another. -/
theorem dockStore_actsAsMap : dockStore.Written ∧ dockStore.ActsAsMap ∧
    (dockStore.contents "docks").map (·.1) = ["7"] ∧
    ∀ v ∈ .string "7" :: sevens, dockStore.create dockHost "docks" [("id", v)] =
      (.error (.storage "docks '7' already exists"), dockStore) := by
  have hwritten : dockStore.Written :=
    Store.Written.empty.create dockHost "docks" _
  have hmap := Store.Written.actsAsMap hwritten
  have hids : (dockStore.contents "docks").map (·.1) = ["7"] := by
    decide +kernel
  have htaken : ∀ v : Json, v.isNull = false → v.plainText = "7" →
      dockStore.create dockHost "docks" [("id", v)] =
        (.error (.storage "docks '7' already exists"), dockStore) := by
    intro v hnull htext
    have hrefused := hmap.create_taken dockHost "docks"
        [("id", v)] v rfl hnull (by rw [htext, hids]; decide)
    rw [hrefused, htext]
    rfl
  refine ⟨hwritten, hmap, hids, ?_⟩
  rw [sevens, List.forall_mem_cons, List.forall_mem_cons,
    List.forall_mem_singleton]
  exact ⟨htaken _ rfl rfl, htaken _ rfl (by decide +kernel),
    htaken _ rfl (by decide +kernel)⟩

/-- **A patch does not set the time of change.** It is an entry of the patch
that is neither the identifier nor the time of creation, and the row does not
take it. -/
theorem dockStore_overrules_patch : dockStore.Written ∧
    ∃ row, (dockStore.update dockHost "docks" "7"
      [("updated_at", .string "yesterday")]).1 = some row ∧
      row.get? "updated_at" = some (.string "1970-01-01T00:00:00.000Z") ∧
      row.get? "updated_at" ≠ some (.string "yesterday") := by
  have hwritten : dockStore.Written :=
    Store.Written.empty.create dockHost "docks" _
  have hdock : dockStore.contents "docks" = [("7", _)] := rfl
  have hpatched := (Store.update_of_mem hwritten.identified
      dockHost [("updated_at", .string "yesterday")]
    (hdock ▸ List.mem_singleton_self _)).1
  have htime : dockHost.stamp = .string "1970-01-01T00:00:00.000Z" :=
    congrArg Json.string (by decide +kernel)
  refine ⟨hwritten, _, hpatched, ?_⟩
  rw [Record.get?_patched_eq (by decide), if_pos rfl, htime]
  exact ⟨rfl, by simp⟩

end ServiceLoom
