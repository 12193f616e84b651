import ServiceLoom.Proofs.Service.Columns

/-!
# Laws about rows

A law about rows looks at some of their fields.  A request leaves the rows of
its collection as they are in these fields, or removes some, or it stores one
record (`Service.StableFor.rows_after`); so a collection that keeps a law keeps
it through a request exactly when what the request stores satisfies it
(`Service.StableFor.keeps_after_iff`).  A law that is kept so by every request
of a kind holds in every row that such requests lead to
(`Service.StableFor.run_keeps`).
-/

namespace ServiceLoom

/-- A condition on rows that depends on some of their fields. -/
structure RowLaw where
  fields : List String
  fields_ne : fields ≠ []
  Holds : Record → Prop
  congr : ∀ {row other : Record}, (∀ f ∈ fields, row.get? f = other.get? f) →
    (Holds row ↔ Holds other)

/-- Every row of a collection satisfies a law. -/
def Store.Keeps (s : Store) (slug : String) (law : RowLaw) : Prop :=
  ∀ row ∈ s.rows slug, law.Holds row

namespace Store

variable {s : Store} {slug field : String} {fields : List String}

theorem mem_column_iff {id : Option String} {v : Option Json} :
    (id, v) ∈ s.column slug field ↔ ∃ row ∈ s.rows slug, row.id? = id ∧
      row.get? field = v := by
  simp only [column, List.mem_map, Prod.mk.injEq]

/-- Values that stand under one identifier in several columns stand in one
row. -/
theorem exists_row_of_columns (h : Identified (s.rows slug))
    (hfields : fields ≠ []) {id : String} {values : String → Option Json}
    (hcolumns : ∀ f ∈ fields, (some id, values f) ∈ s.column slug f) :
    ∃ row ∈ s.rows slug, row.id? = some id ∧
      ∀ f ∈ fields, row.get? f = values f := by
  obtain ⟨first, hfirst⟩ := List.exists_mem_of_ne_nil _ hfields
  obtain ⟨row, hrow, hid, -⟩ := mem_column_iff.mp (hcolumns first hfirst)
  refine ⟨row, hrow, hid, fun f hf => ?_⟩
  obtain ⟨other, hother, hother_id, hvalue⟩ := mem_column_iff.mp (hcolumns f hf)
  obtain rfl : row = other := h.eq_of_id hrow hother hid hother_id
  exact hvalue

end Store

namespace Service

variable {sv : Service} {host : Host} {s : Store} {q : Request} {law : RowLaw}

/-- What is written stands under one identifier, whichever column shows it. -/
theorem Writes.id_eq [Pattern.Engine] {field other id id' : String}
    {checked stored checked' stored' : Record} {mode mode' : WriteMode}
    (hwrites : sv.Writes host s q field id checked stored mode)
    (hother : sv.Writes host s q other id' checked' stored' mode') :
    id' = id := by
  obtain ⟨-, -, hmode⟩ := hwrites.stores.unique hother.stores
  obtain ⟨row, hrow, hid, -⟩ :=
    Store.mem_column_iff.mp ((hwrites.mem_iff _).mpr (Or.inl rfl))
  -- The row that was written is an entry of the other column, new there too or
  -- an old one.
  have hentry : (some id, row.get? other) ∈
      (sv.after host s q).column sv.slug other :=
    Store.mem_column_iff.mpr ⟨row, hrow, hid, rfl⟩
  rcases (hother.mem_iff _).mp hentry with heq | ⟨hold, hne⟩
  · exact (Option.some.inj (Prod.mk.inj heq).1).symm
  · obtain ⟨old, hold, hold_id, -⟩ := Store.mem_column_iff.mp hold
    have hown := (hwrites.own_iff old hold).mpr hold_id
    have hown' : old.id? = some id' :=
      (hother.own_iff old hold).mp (hmode ▸ hown)
    exact absurd (hold_id.symm.trans hown') hne

/-- None of the fields that a law looks at is recomputed. -/
def StableFor (sv : Service) (law : RowLaw) : Prop :=
  ∀ f ∈ law.fields, sv.Stable f

/-- **The rows after a request**, in the fields of a law: old ones, or old ones
and what is stored. -/
theorem StableFor.rows_after [Pattern.Engine] (hsv : sv.StableFor law)
    (host : Host) (h : Identified (s.rows sv.slug)) (q : Request) :
    ((¬ ∃ checked stored mode, sv.Stores host s q checked stored mode) ∧
        ∀ row ∈ (sv.after host s q).rows sv.slug, ∃ old ∈ s.rows sv.slug,
          ∀ f ∈ law.fields, old.get? f = row.get? f) ∨
      ∃ checked stored mode, sv.Stores host s q checked stored mode ∧
        (∃ row ∈ (sv.after host s q).rows sv.slug,
          ∀ f ∈ law.fields, row.get? f = stored.get? f) ∧
        ∀ row ∈ (sv.after host s q).rows sv.slug,
          (∀ f ∈ law.fields, stored.get? f = row.get? f) ∨
            ∃ old ∈ s.rows sv.slug, ∀ f ∈ law.fields,
              old.get? f = row.get? f := by
  obtain ⟨first, hfirst⟩ := List.exists_mem_of_ne_nil _ law.fields_ne
  have hidentified : Identified ((sv.after host s q).rows sv.slug) :=
    (hsv first hfirst).identified_after h q
  have hids : ∀ row ∈ (sv.after host s q).rows sv.slug,
      ∃ id, row.id? = some id :=
    fun row hrow => Option.isSome_iff_exists.mp (hidentified.id_isSome row hrow)
  rcases (hsv first hfirst).after_cases host h q with
      ⟨hnone, -⟩ | ⟨id, checked, stored, mode, hwrites⟩
  · refine Or.inl ⟨hnone, fun row hrow => ?_⟩
    obtain ⟨i, hid⟩ := hids row hrow
    have hcolumns : ∀ f ∈ law.fields,
        (some i, row.get? f) ∈ s.column sv.slug f := by
      intro f hf
      have hentry := Store.mem_column_iff.mpr
          ⟨row, hrow, hid, (rfl : row.get? f = row.get? f)⟩
      rcases (hsv f hf).after_cases host h q with
          ⟨-, hsub⟩ | ⟨_, checked, stored, mode, hwrites⟩
      · exact hsub.subset hentry
      · exact absurd ⟨checked, stored, mode, hwrites.stores⟩ hnone
    obtain ⟨old, hold, -, hagrees⟩ :=
      Store.exists_row_of_columns h law.fields_ne hcolumns
    exact ⟨old, hold, hagrees⟩
  · refine Or.inr ⟨checked, stored, mode, hwrites.stores, ?_⟩
    have hmem : ∀ f ∈ law.fields, ∀ e,
        e ∈ (sv.after host s q).column sv.slug f ↔
        e = (some id, stored.get? f) ∨ e ∈ s.column sv.slug f ∧
            e.1 ≠ some id := by
      intro f hf
      rcases (hsv f hf).after_cases host h q with
          ⟨hnone, -⟩ | ⟨id', checked', stored', mode', hother⟩
      · exact absurd ⟨checked, stored, mode, hwrites.stores⟩ hnone
      · obtain ⟨-, rfl, -⟩ := hwrites.stores.unique hother.stores
        obtain rfl : id' = id := hwrites.id_eq hother
        exact hother.mem_iff
    constructor
    · have hcolumns : ∀ f ∈ law.fields,
          (some id, stored.get? f) ∈ (sv.after host s q).column sv.slug f :=
        fun f hf => (hmem f hf _).mpr (Or.inl rfl)
      obtain ⟨row, hrow, -, hagrees⟩ :=
        Store.exists_row_of_columns hidentified law.fields_ne hcolumns
      exact ⟨row, hrow, hagrees⟩
    · intro row hrow
      obtain ⟨i, hid⟩ := hids row hrow
      have hentry : ∀ f ∈ law.fields, (some i, row.get? f) =
          (some id, stored.get? f) ∨
          (some i, row.get? f) ∈ s.column sv.slug f ∧ some i ≠ some id :=
        fun f hf =>
          (hmem f hf _).mp (Store.mem_column_iff.mpr ⟨row, hrow, hid, rfl⟩)
      by_cases hi : i = id
      · refine Or.inl fun f hf => ?_
        rcases hentry f hf with heq | ⟨-, hne⟩
        · exact (Prod.mk.inj heq).2.symm
        · exact absurd (congrArg some hi) hne
      · refine Or.inr ?_
        have hcolumns :
            ∀ f ∈ law.fields, (some i, row.get? f) ∈ s.column sv.slug f := by
          intro f hf
          rcases hentry f hf with heq | ⟨hold, -⟩
          · exact absurd (Option.some.inj (Prod.mk.inj heq).1) hi
          · exact hold
        obtain ⟨old, hold, -, hagrees⟩ :=
          Store.exists_row_of_columns h law.fields_ne hcolumns
        exact ⟨old, hold, hagrees⟩

/-- **A request keeps a law exactly when what it stores satisfies it.** -/
theorem StableFor.keeps_after_iff [Pattern.Engine]
    (hsv : sv.StableFor law) (host : Host) (h : Identified (s.rows sv.slug))
    (hkeeps : s.Keeps sv.slug law) (q : Request) :
    (sv.after host s q).Keeps sv.slug law ↔
      ∀ checked stored mode, sv.Stores host s q checked stored mode →
        law.Holds stored := by
  have hold : ∀ row,
      (∃ old ∈ s.rows sv.slug, ∀ f ∈ law.fields, old.get? f = row.get? f) →
      law.Holds row := by
    rintro row ⟨old, hold, hagrees⟩
    exact (law.congr hagrees).mp (hkeeps old hold)
  rcases hsv.rows_after host h q with
      ⟨hnone, hrows⟩ | ⟨checked, stored, mode, hstores, hwritten, hrows⟩
  · have hkept : (sv.after host s q).Keeps sv.slug law :=
      fun row hrow => hold row (hrows row hrow)
    exact iff_of_true hkept fun _ _ _ hstores => absurd ⟨_, _, _, hstores⟩ hnone
  · constructor
    · intro hafter checked' stored' mode' hstores'
      obtain ⟨-, rfl, -⟩ := hstores.unique hstores'
      obtain ⟨row, hrow, hagrees⟩ := hwritten
      exact (law.congr hagrees).mp (hafter row hrow)
    · intro hstored row hrow
      rcases hrows row hrow with hnew | hkept
      · exact (law.congr hnew).mp (hstored checked stored mode hstores)
      · exact hold row hkept

/-- A request stores something. -/
def Accepts [Pattern.Engine] (sv : Service) (host : Host) (s : Store)
    (q : Request) : Prop :=
  ∃ checked stored mode, sv.Stores host s q checked stored mode

/-- A request keeps a law exactly when it is not accepted as a bad one, if a bad
one is what stores against the law. -/
theorem StableFor.keeps_after_iff_not [Pattern.Engine]
    (hsv : sv.StableFor law) (host : Host) (h : Identified (s.rows sv.slug))
    (hkeeps : s.Keeps sv.slug law) {q : Request} {bad : Prop}
    (hstored : ∀ checked stored mode, sv.Stores host s q checked stored mode →
      (law.Holds stored ↔ ¬ bad)) :
    (sv.after host s q).Keeps sv.slug law ↔ ¬ (sv.Accepts host s q ∧ bad) := by
  rw [hsv.keeps_after_iff host h hkeeps q]
  constructor
  · rintro hall ⟨⟨checked, stored, mode, hstores⟩, hbad⟩
    exact (hstored checked stored mode hstores).mp
      (hall checked stored mode hstores) hbad
  · intro hnone checked stored mode hstores
    exact (hstored checked stored mode hstores).mpr fun hbad =>
      hnone ⟨⟨checked, stored, mode, hstores⟩, hbad⟩

/-- A request stores null in a field. -/
def StoresNull [Pattern.Engine] (sv : Service) (host : Host) (s : Store)
    (q : Request) (field : String) : Prop :=
  ∃ checked stored mode, sv.Stores host s q checked stored mode ∧
    stored.get? field = some .null

/-! ## Runs -/

/-- The stores that requests of a kind lead to from an empty one. -/
inductive Run [Pattern.Engine] (sv : Service) (admits : Request → Prop) :
    Store → Prop
  | empty : Run sv admits Store.empty
  | serve {s : Store} (host : Host) {q : Request} (hq : admits q) :
      Run sv admits s → Run sv admits (sv.after host s q)

variable {admits : Request → Prop}

theorem Run.reachable [Pattern.Engine] (hs : sv.Run admits s) :
    sv.Reachable s := by
  induction hs with
  | empty => exact .empty
  | serve host hq _ ih => exact .serve host _ ih

/-- Requests of any kind lead to the reachable stores. -/
theorem Reachable.run [Pattern.Engine] (hs : sv.Reachable s) :
    sv.Run (fun _ => True) s := by
  induction hs with
  | empty => exact .empty
  | serve host q _ ih => exact .serve host trivial ih

/-- **All runs have what the empty store has** exactly when no request of one is
bad, if a bad one is what loses it. -/
theorem Run.forall_iff [Pattern.Engine] {P : Store → Prop}
    {bad : Store → Host → Request → Prop} (hempty : P Store.empty)
    (hstep : ∀ s host q, sv.Run admits s → admits q → P s →
      (P (sv.after host s q) ↔ ¬ bad s host q)) :
    (∀ s, sv.Run admits s → P s) ↔ ∀ s host q, sv.Run admits s →
      admits q → ¬ bad s host q := by
  constructor
  · intro hall s host q hs hq
    exact (hstep s host q hs hq (hall s hs)).mp (hall _ (.serve host hq hs))
  · intro hnone s hs
    induction hs with
    | empty => exact hempty
    | serve host hq hs ih =>
        exact (hstep _ host _ hs hq ih).mpr (hnone _ host _ hs hq)

/-- Rows of a run are identified. -/
theorem StableFor.identified [Pattern.Engine] (hsv : sv.StableFor law)
    (hs : sv.Run admits s) : Identified (s.rows sv.slug) := by
  obtain ⟨first, hfirst⟩ := List.exists_mem_of_ne_nil _ law.fields_ne
  exact (hsv first hfirst).identified hs.reachable

/-- **A law that every request of a kind stores by** holds wherever such
requests lead. -/
theorem StableFor.run_keeps [Pattern.Engine] (hsv : sv.StableFor law)
    (hstores : ∀ s host q, sv.Run admits s → s.Keeps sv.slug law →
      admits q → ∀ checked stored mode, sv.Stores host s q checked stored mode →
        law.Holds stored) (hs : sv.Run admits s) : s.Keeps sv.slug law := by
  induction hs with
  | empty => exact nofun
  | serve host hq hs ih =>
      exact (hsv.keeps_after_iff host (hsv.identified hs) ih _).mpr
        (hstores _ host _ hs ih hq)

end Service

end ServiceLoom
