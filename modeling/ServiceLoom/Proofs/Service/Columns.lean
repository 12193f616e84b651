import ServiceLoom.Proofs.Service.Requests

/-!
# What a request does to a column

A column lists the values of one field of a collection, each with the identifier
of its row.  Fragments never change it, unless they recompute totals of the
collection itself; so a creation adds one entry, an update changes one, a
removal filters, and a request that is refused before its write changes nothing
(`Service.Stable.create_column`, `Service.Stable.update_column`,
`Service.Stable.delete_column`).  So a request writes one entry or at most
removes some (`Service.Stable.after_cases`).
-/

namespace ServiceLoom

/-- The values of a field in a collection, with the identifiers of their
rows. -/
def Store.column (s : Store) (slug field : String) :
    List (Option String × Option Json) :=
  (s.rows slug).map fun row => (row.id?, row.get? field)

namespace Store

variable {s s' : Store} {slug field : String}

theorem column_congr (field : String) (h : s'.rows slug = s.rows slug) :
    s'.column slug field = s.column slug field := by
  rw [column, column, h]

/-- Whether rows are identified can be seen from any column. -/
theorem identified_iff_column (field : String) :
    Identified (s.rows slug) ↔ (∀ e ∈ s.column slug field, e.1.isSome = true) ∧
      ((s.column slug field).map (·.1)).Nodup := by
  have hids : (s.column slug field).map (·.1) = (s.rows slug).map (·.id?) := by
    rw [column, List.map_map]
    rfl
  rw [hids, column]
  constructor
  · intro h
    refine ⟨?_, h.ids_nodup⟩
    intro e he
    obtain ⟨row, hrow, rfl⟩ := List.mem_map.mp he
    exact h.id_isSome row hrow
  · rintro ⟨hsome, hnodup⟩
    exact ⟨fun row hrow => hsome _ (List.mem_map_of_mem hrow), hnodup⟩

/-- What is read off a row stays when the first row of a kind is replaced by one
that reads the same. -/
theorem map_modifyFirst {β : Type} {g : Record → β}
    {p : Record → Bool} {new : Record} {rows : List Record}
    (h : ∀ row, rows.find? p = some row → g new = g row) :
    (modifyFirst p (fun _ => new) rows).map g = rows.map g := by
  induction rows with
  | nil => rfl
  | cons row rest ih =>
      rw [modifyFirst]
      by_cases hrow : p row = true
      · have hnew : g new = g row := h row (List.find?_cons_of_pos hrow)
        rw [if_pos hrow, List.map_cons, List.map_cons, hnew]
      · have hrest : ∀ other, rest.find? p = some other →
            g new = g other := fun other hother =>
              h other ((List.find?_cons_of_neg hrow).trans hother)
        rw [if_neg hrow, List.map_cons, List.map_cons, ih hrest]

/-- A patch that does not mention a field leaves its column. -/
theorem update_column (host : Host) (id : String)
    {t : String} {patch : Record} (hfield : field ∉ Record.systemFields)
    (hpatch : t = slug → Dict.SameAt field [] patch) :
    (s.update host t id patch).2.column slug field = s.column slug field := by
  rw [update]
  cases hfind : s.find? t id with
  | none => rfl
  | some row =>
      by_cases ht : t = slug
      · subst ht
        rw [column, rows_withRows_self]
        refine map_modifyFirst fun other hother => ?_
        obtain rfl : row = other := Option.some.inj (hfind.symm.trans hother)
        rw [Record.id?_patched, Record.get?_patched hfield,
          ← (hpatch rfl).get?_merge_eq row]
        rfl
      · exact column_congr field (rows_withRows_of_ne _ _ (Ne.symm ht))

/-- An insertion elsewhere leaves a column. -/
theorem create_column_of_ne (host : Host) {t : String} (data : Record)
    (hne : slug ≠ t) :
    (s.create host t data).2.column slug field = s.column slug field := by
  rcases s.create_cases host t data with ⟨-, hrows⟩ | ⟨id, -, -, -, hother⟩
  · exact column_congr field (hrows slug)
  · exact column_congr field (hother slug hne)

end Store

/-! ## Procedures that keep a column -/

namespace Access

variable {α β : Type} {slug field : String}

/-- A procedure that leaves a column, whether it answers or not. -/
def KeepsColumn (slug field : String) (p : Access α) : Prop :=
  ∀ host outage s, (p.run host outage s).2.column slug field =
    s.column slug field

theorem Reads.keepsColumn {p : Access α} {P : α → Prop} (hp : p.Reads P) :
    p.KeepsColumn slug field :=
  fun host outage s => by rw [hp.store host outage s]

theorem KeepsColumn.bind {p : Access α} {k : α → Access β}
    (hp : p.KeepsColumn slug field) (hk : ∀ a, (k a).KeepsColumn slug field) :
    (p >>= k).KeepsColumn slug field := by
  intro host outage s
  have hfirst := hp host outage s
  rw [run_bind]
  cases hrun : p.run host outage s with
  | mk answer left =>
      rw [hrun] at hfirst
      cases answer with
      | error f => exact hfirst
      | ok a => exact (hk a host outage left).trans hfirst

theorem keepsColumn_patch
    {t id : String} {data : Record} (hfield : field ∉ Record.systemFields)
    (hdata : t = slug → Dict.SameAt field [] data) :
    (patch t id data).KeepsColumn slug field := by
  intro host outage s
  rw [patch, run]
  split
  · rfl
  · exact Store.update_column host id hfield hdata

/-- Totals are written to the fields for totals. -/
theorem sameAt_parentTotals (items : List Record) (taxRate : Float)
    (hfield : field ∉ Record.totalFields) :
    Dict.SameAt field [] (parentTotals items taxRate) := by
  have hne : field ≠ "subtotal" :=
    fun heq => hfield (by simp [heq, Record.totalFields])
  exact Dict.SameAt.trans (Dict.SameAt.insert [] _ hne)
    ((Record.rewritten_invoiceTotals _ taxRate).sameAt hfield)

/-- Recomputing the totals of another collection, or of another field, keeps a
column. -/
theorem keepsColumn_recalculateTotals
    {child foreignKey parentSlug : String} {parents : List (Option Json)}
    {taxRate : Float} (hfield : field ∉ Record.systemFields)
    (hparent : parentSlug = slug → field ∉ Record.totalFields) :
    (recalculateTotals child foreignKey parentSlug parents taxRate).KeepsColumn
      slug field := by
  unfold recalculateTotals
  induction distinctTexts parents with
  | nil =>
      exact (Reads.done trivial : (done ()).Reads fun _ => True).keepsColumn
  | cons id rest ih =>
      have hmatching :
          (matching child [(foreignKey, .string id)]).Reads fun _ => True :=
        Reads.findAll fun rows => Reads.done trivial
      refine hmatching.keepsColumn.bind fun items => ?_
      exact (keepsColumn_patch hfield fun heq =>
        sameAt_parentTotals items taxRate (hparent heq)).bind
        fun _ => ih

/-- The audit log is a collection of its own. -/
theorem keepsColumn_audit {action : AuditAction} {entity id : String}
    (hslug : slug ≠ auditSlug) :
    (audit action entity id).KeepsColumn slug field := by
  intro host outage s
  rw [audit, run, run]
  split
  · rfl
  · have hcreate : (s.create host auditSlug
        (auditEntry host.now action entity id)).2.column slug field =
        s.column slug field := Store.create_column_of_ne host _ hslug
    split
    next heq => rwa [heq] at hcreate
    next heq => rwa [heq] at hcreate

end Access

/-! ## Fragments and requests -/

/-- Whether a fragment recomputes a field of the collection that it serves. -/
def Fragment.recomputes (slug field : String) : Fragment → Bool
  | recalculateParent _ parentSlug _ =>
      parentSlug = slug ∧ field ∈ Record.totalFields
  | _ => false

/-- A fragment keeps a column of its collection unless it recomputes it. -/
theorem Fragment.call_keepsColumn [Pattern.Engine]
    {sv : Service} {h : Hook} {x : Scope} {φ : Fragment} {field : String}
    (hslug : sv.slug ≠ auditSlug) (hfield : field ∉ Record.systemFields)
    (hφ : φ.recomputes sv.slug field = false) :
    (φ.call sv h x).KeepsColumn sv.slug field := by
  have hreturn : ∀ data :
      Record, (pure data : Access Record).KeepsColumn sv.slug field :=
    fun data => (Access.Reads.done trivial : (Access.done data).Reads
      fun _ => True).keepsColumn
  cases hprecedes : φ.precedesWrite with
  | true => exact (φ.call_frame sv h x hprecedes).keepsColumn
  | false =>
      cases φ with
      | recalculateParent foreignKey parentSlug taxRate =>
          have hparent : parentSlug = sv.slug → field ∉ Record.totalFields := by
            simpa [recomputes] using hφ
          exact (Access.keepsColumn_recalculateTotals hfield hparent).bind
            fun _ => hreturn _
      | audit => exact (Access.keepsColumn_audit hslug).bind fun _ => hreturn _
      | _ => cases hprecedes

/-- An entity that is served is not the audit log. -/
theorem SchemaGraph.slug_ne_auditSlug (g : SchemaGraph) {e : Entity}
    (he : e ∈ g.servedEntities) : e.slug ≠ auditSlug := by
  intro heq
  have hserved : e.isSystem = false := by simpa using (List.mem_filter.mp he).2
  rw [Entity.isSystem, heq] at hserved
  cases hserved

namespace Service

/-- A service none of whose fragments recomputes a field of its own rows. -/
structure Stable (sv : Service) (field : String) : Prop where
  placed : sv.Placed
  slug_ne : sv.slug ≠ auditSlug
  user_field : field ∉ Record.systemFields
  recomputes : ∀ h φ, (h, φ) ∈ sv.woven → φ.recomputes sv.slug field = false

variable {sv : Service} {field : String}

/-- Fragments keep a column, one after the other. -/
theorem Stable.runHook_keepsColumn [Pattern.Engine] (hsv : sv.Stable field)
    (h : Hook) (x : Scope) : (sv.runHook h x).KeepsColumn sv.slug field := by
  have hall : ∀ φ ∈ sv.fragmentsAt h, φ.recomputes sv.slug field = false :=
    fun φ hφ => hsv.recomputes h φ (mem_fragmentsAt_iff.mp hφ)
  unfold runHook
  revert hall
  induction sv.fragmentsAt h generalizing x with
  | nil =>
      intro _
      exact (Access.Reads.done trivial : (Access.done x.data).Reads
        fun _ => True).keepsColumn
  | cons φ rest ih =>
      intro hall
      exact (Fragment.call_keepsColumn hsv.slug_ne
        hsv.user_field (hall φ List.mem_cons_self)).bind
        fun data => ih { x with data } fun φ hφ =>
          hall φ (List.mem_cons_of_mem _ hφ)

/-- A request writes a record: what the rules have checked, what is stored, and
how it was checked. -/
inductive Stores [Pattern.Engine] (sv : Service) (host : Host) (s : Store) :
    Request → Record → Record → WriteMode → Prop
  | create {body data row : Record}
      (hprepared : ((sv.prepareCreate body).run host Outage.none s).1 = .ok data)
      (hinserted : (s.create host sv.slug data).1 = .ok row) :
      Stores sv host s (.create body) body data .create
  | update {id : String} {body existing data : Record}
      (hfound : s.find? sv.slug id = some existing)
      (hprepared : ((sv.prepareUpdate id existing body).run
        host Outage.none s).1 = .ok data) :
      Stores sv host s (.update id body) (Dict.merge existing body)
        (Dict.merge existing data) (.update id)

variable {host : Host} {s : Store}

/-- A request stores at most one record. -/
theorem Stores.unique [Pattern.Engine]
    {q : Request} {checked stored checked' stored' : Record}
    {mode mode' : WriteMode} (h : sv.Stores host s q checked stored mode)
    (h' : sv.Stores host s q checked' stored' mode') :
    checked' = checked ∧ stored' = stored ∧ mode' = mode := by
  cases h with
  | create hprepared _ =>
      cases h' with
      | create hprepared' _ =>
          rw [hprepared] at hprepared'
          cases hprepared'
          exact ⟨rfl, rfl, rfl⟩
  | update hfound hprepared =>
      cases h' with
      | update hfound' hprepared' =>
          rw [hfound] at hfound'
          cases hfound'
          rw [hprepared] at hprepared'
          cases hprepared'
          exact ⟨rfl, rfl, rfl⟩

/-- **A creation** is refused and leaves a column, or adds the stored value
under a new identifier. -/
theorem Stable.create_column [Pattern.Engine] (hsv : sv.Stable field)
    (host : Host) (s : Store) (body : Record) :
    ((¬ ∃ checked stored mode,
        sv.Stores host s (.create body) checked stored mode) ∧
        (sv.after host s (.create body)).column sv.slug field =
          s.column sv.slug field) ∨
      ∃ data id, sv.Stores host s (.create body) body data .create ∧
        id ∉ idsOf (s.rows sv.slug) ∧
        (sv.after host s (.create body)).column sv.slug field =
          s.column sv.slug field ++ [(some id, data.get? field)] := by
  rcases hsv.placed.after_create host s body with
    ⟨⟨f, hfailed⟩, hafter⟩ | ⟨data, hprepared,
      ⟨⟨e, hrefused⟩, hafter⟩ | ⟨result, hinserted, hafter⟩⟩
  · refine Or.inl ⟨?_, by rw [hafter]⟩
    rintro ⟨_, _, _, hstores⟩
    cases hstores with
    | create hprepared _ =>
        rw [hfailed] at hprepared
        cases hprepared
  · rw [hafter]
    rcases s.create_cases host sv.slug data with ⟨-, hrows⟩ | ⟨id, hok, -, -, -⟩
    · refine Or.inl ⟨?_, Store.column_congr field (hrows sv.slug)⟩
      rintro ⟨_, _, _, hstores⟩
      cases hstores with
      | create hprepared' hinserted =>
          rw [hprepared] at hprepared'
          cases hprepared'
          rw [hrefused] at hinserted
          cases hinserted
    · rw [hrefused] at hok
      cases hok
  · rw [hafter]
    rcases s.create_cases host sv.slug data with
        ⟨⟨e, herror⟩, -⟩ | ⟨id, -, hnew, hrow, -⟩
    · rw [hinserted] at herror
      cases herror
    · refine Or.inr ⟨data, id, .create hprepared hinserted, hnew, ?_⟩
      refine (hsv.runHook_keepsColumn .afterCreateLogging
        _ host Outage.none _).trans ?_
      simp [Store.column, hrow, Record.get?_stamped hsv.user_field]

/-- **An update** is refused and leaves a column, or stores another value under
the identifier. -/
theorem Stable.update_column [Pattern.Engine] (hsv : sv.Stable field)
    (host : Host) (s : Store) (id : String) (body : Record)
    (hrows : Identified (s.rows sv.slug)) :
    ((¬ ∃ checked stored mode,
        sv.Stores host s (.update id body) checked stored mode) ∧
        (sv.after host s (.update id body)).column sv.slug field =
          s.column sv.slug field) ∨
      ∃ existing data, s.find? sv.slug id = some existing ∧
        sv.Stores host s (.update id body) (Dict.merge existing body)
          (Dict.merge existing data) (.update id) ∧
        (sv.after host s (.update id body)).column sv.slug field =
          (s.column sv.slug field).map fun e =>
            if e.1 = some id then (e.1, (Dict.merge existing data).get? field)
            else e := by
  rcases hsv.placed.after_update host s id body with
    ⟨hrefused, hafter⟩ | ⟨existing, data, hfind, hprepared, hafter⟩
  · refine Or.inl ⟨?_, by rw [hafter]⟩
    rintro ⟨_, _, _, hstores⟩
    cases hstores with
    | update hfound hprepared =>
        rcases hrefused with hnone | ⟨existing, f, hsome, hfailed⟩
        · rw [hnone] at hfound
          cases hfound
        · rw [hsome] at hfound
          cases hfound
          rw [hfailed] at hprepared
          cases hprepared
  · rw [hafter]
    rcases s.update_cases host sv.slug id data hrows with
        ⟨hnone, -⟩ | ⟨row, hsome, -, hmap, -⟩
    · rw [hfind] at hnone
      cases hnone
    · obtain rfl : existing = row := Option.some.inj (hfind.symm.trans hsome)
      refine Or.inr ⟨existing, data, hfind, .update hfind hprepared, ?_⟩
      refine (hsv.runHook_keepsColumn .afterUpdateLogging
        _ host Outage.none _).trans ?_
      rw [Store.column, Store.column, hmap, List.map_map, List.map_map]
      refine List.map_congr_left fun other _ => ?_
      by_cases hid : other.id? = some id
      · have hexisting : existing.id? = some id := (s.find?_some hfind).2
        simp [Record.hasId, hid, hexisting, Record.get?_patched hsv.user_field]
      · simp [Record.hasId, hid]

/-- **A removal** is refused and leaves a column, or removes what stands under
the identifier. -/
theorem Stable.delete_column [Pattern.Engine] (hsv : sv.Stable field)
    (host : Host) (s : Store) (id : String) :
    (sv.after host s (.delete id)).column sv.slug field =
      s.column sv.slug field ∨
      (sv.after host s (.delete id)).column sv.slug field =
        (s.column sv.slug field).filter fun e => e.1 ≠ some id := by
  rcases hsv.placed.after_delete host s id with hafter | ⟨existing, -, hafter⟩
  · exact Or.inl (by rw [hafter])
  · refine Or.inr ?_
    rw [hafter]
    refine (hsv.runHook_keepsColumn .afterDeleteLogging
      _ host Outage.none _).trans ?_
    rw [Store.column, s.rows_delete sv.slug id, if_pos rfl,
      Store.column, List.filter_map]
    congr 1
    refine List.filter_congr fun row _ => ?_
    by_cases hid : row.id? = some id
    · simp [Record.hasId, hid]
    · simp [Record.hasId, hid]

/-! ## One entry written -/

/-- A request stores a record under an identifier, and leaves the other values
of a column. -/
structure Writes [Pattern.Engine] (sv : Service) (host : Host)
    (s : Store) (q : Request) (field id : String) (checked stored : Record)
    (mode : WriteMode) : Prop where
  stores : sv.Stores host s q checked stored mode
  identified : Identified ((sv.after host s q).rows sv.slug)
  own_iff : ∀ row ∈ s.rows sv.slug,
    (∃ own, mode.ownId = some own ∧ row.id? = some own) ↔ row.id? = some id
  mem_iff : ∀ e, e ∈ (sv.after host s q).column sv.slug field ↔
    e = (some id, stored.get? field) ∨ e ∈ s.column sv.slug field ∧
      e.1 ≠ some id

/-- A creation writes under a new identifier. -/
theorem writes_create [Pattern.Engine]
    {body data : Record} {id : String} (h : Identified (s.rows sv.slug))
    (hstores : sv.Stores host s (.create body) body data .create)
    (hnew : id ∉ idsOf (s.rows sv.slug))
    (hcolumn : (sv.after host s (.create body)).column sv.slug field =
      s.column sv.slug field ++ [(some id, data.get? field)]) :
    sv.Writes host s (.create body) field id body data .create := by
  have hother : ∀ row ∈ s.rows sv.slug, row.id? ≠ some id :=
    fun row hrow hid => hnew (mem_idsOf_iff.mpr ⟨row, hrow, hid⟩)
  have hne : ∀ e ∈ s.column sv.slug field, e.1 ≠ some id := by
    intro e he
    obtain ⟨row, hrow, rfl⟩ := List.mem_map.mp he
    exact hother row hrow
  obtain ⟨hsome, hnodup⟩ := (Store.identified_iff_column field).mp h
  refine ⟨hstores, (Store.identified_iff_column field).mpr ⟨?_, ?_⟩, ?_, ?_⟩
  · intro e he
    rw [hcolumn] at he
    rcases List.mem_append.mp he with he | he
    · exact hsome e he
    · rw [List.mem_singleton.mp he]
      rfl
  · rw [hcolumn, List.map_append, List.nodup_append]
    refine ⟨hnodup, by simp, ?_⟩
    intro a ha b hb
    obtain ⟨e, he, rfl⟩ := List.mem_map.mp ha
    obtain rfl : b = some id := by simpa using hb
    exact hne e he
  · intro row hrow
    simpa [WriteMode.ownId] using hother row hrow
  · intro e
    rw [hcolumn, List.mem_append, List.mem_singleton, or_comm]
    exact or_congr_right (iff_self_and.mpr (hne e))

/-- An update writes under the identifier of its row. -/
theorem writes_update [Pattern.Engine] {body existing data : Record}
    {id : String} (h : Identified (s.rows sv.slug))
    (hfound : s.find? sv.slug id = some existing)
    (hstores : sv.Stores host s (.update id body) (Dict.merge existing body)
      (Dict.merge existing data) (.update id))
    (hcolumn : (sv.after host s (.update id body)).column sv.slug field =
      (s.column sv.slug field).map fun e => if e.1 = some id then
      (e.1, (Dict.merge existing data).get? field) else e) :
    sv.Writes host s (.update id body) field id (Dict.merge existing body)
      (Dict.merge existing data)
      (.update id) := by
  have hkeep : ∀ e : Option String × Option Json,
      (if e.1 = some id then
          (e.1, (Dict.merge existing data).get? field) else e).1 = e.1 := by
    intro e
    split <;> rfl
  obtain ⟨hsome, hnodup⟩ := (Store.identified_iff_column field).mp h
  refine ⟨hstores, (Store.identified_iff_column field).mpr ⟨?_, ?_⟩, ?_, ?_⟩
  · intro e he
    rw [hcolumn] at he
    obtain ⟨old, hold, rfl⟩ := List.mem_map.mp he
    rw [hkeep old]
    exact hsome old hold
  · rw [hcolumn, List.map_map]
    exact (List.map_congr_left fun e _ => hkeep e) ▸ hnodup
  · intro row _
    simp [WriteMode.ownId]
  · intro e
    rw [hcolumn, List.mem_map]
    constructor
    · rintro ⟨old, hold, rfl⟩
      by_cases hown : old.1 = some id
      · rw [if_pos hown, hown]
        exact Or.inl rfl
      · rw [if_neg hown]
        exact Or.inr ⟨hold, hown⟩
    · rintro (rfl | ⟨hold, hown⟩)
      · obtain ⟨hexisting, hid⟩ := s.find?_some hfound
        exact ⟨_, List.mem_map_of_mem hexisting, by rw [if_pos hid, hid]⟩
      · exact ⟨e, hold, if_neg hown⟩

/-- **A request** stores nothing and at most removes values of a column, or it
writes one. -/
theorem Stable.after_cases [Pattern.Engine] (hsv : sv.Stable field)
    (host : Host) (h : Identified (s.rows sv.slug)) (q : Request) :
    ((¬ ∃ checked stored mode, sv.Stores host s q checked stored mode) ∧
        ((sv.after host s q).column sv.slug field).Sublist
          (s.column sv.slug field)) ∨
      ∃ id checked stored mode,
        sv.Writes host s q field id checked stored mode := by
  have hsame : ∀ {column other : List (Option String × Option Json)},
      column = other →
      column.Sublist other := fun heq => heq ▸ List.Sublist.refl _
  cases q with
  | create body =>
      rcases hsv.create_column host s body with
          ⟨hnone, hcolumn⟩ | ⟨data, id, hstores, hnew, hcolumn⟩
      · exact Or.inl ⟨hnone, hsame hcolumn⟩
      · exact Or.inr ⟨id, _, _, _, writes_create h hstores hnew hcolumn⟩
  | update id body =>
      rcases hsv.update_column host s id body h with
          ⟨hnone, hcolumn⟩ | ⟨existing, data, hfound, hstores, hcolumn⟩
      · exact Or.inl ⟨hnone, hsame hcolumn⟩
      · exact Or.inr ⟨id, _, _, _, writes_update h hfound hstores hcolumn⟩
  | delete id =>
      refine Or.inl ⟨?_, ?_⟩
      · rintro ⟨_, _, _, hstores⟩
        cases hstores
      · rcases hsv.delete_column host s id with hcolumn | hcolumn
        · exact hsame hcolumn
        · rw [hcolumn]
          exact List.filter_sublist

/-- Rows stay identified. -/
theorem Stable.identified_after [Pattern.Engine] (hsv : sv.Stable field)
    (h : Identified (s.rows sv.slug)) (q : Request) :
    Identified ((sv.after host s q).rows sv.slug) := by
  rcases hsv.after_cases host h q with ⟨-, hsub⟩ | ⟨_, _, _, _, hwrites⟩
  · obtain ⟨hsome, hnodup⟩ := (Store.identified_iff_column field).mp h
    rw [Store.identified_iff_column field]
    exact ⟨fun e he => hsome e (hsub.subset he), (hsub.map _).nodup hnodup⟩
  · exact hwrites.identified

/-- Rows of a reachable store are identified. -/
theorem Stable.identified [Pattern.Engine] (hsv : sv.Stable field)
    (hs : sv.Reachable s) : Identified (s.rows sv.slug) := by
  induction hs with
  | empty => exact Identified.nil
  | serve host q _ ih => exact hsv.identified_after ih q

end Service

/-- Fragments of a schema's service keep a column that they do not recompute. -/
theorem SchemaGraph.serviceOf_stable [Pattern.Engine]
    (g : SchemaGraph) (l : BundleLibrary) {e : Entity} {field : String}
    (he : e ∈ g.servedEntities) (huser : field ∉ Record.systemFields)
    (hkeep : ∀ h φ, (h, φ) ∈ (g.serviceOf l e).woven →
      φ.recomputes e.slug field = false) : (g.serviceOf l e).Stable field where
  placed := fun _ _ hmem => EntityPlan.mayStandAt _ e.slug hmem
  slug_ne := g.slug_ne_auditSlug he
  user_field := huser
  recomputes := hkeep

end ServiceLoom
