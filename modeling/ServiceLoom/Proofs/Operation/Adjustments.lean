import ServiceLoom.Proofs.Decimal.Order
import ServiceLoom.Proofs.Operation.Quantities
import Mathlib.Algebra.BigOperators.Group.List.Basic

/-!
# Keeping count

A field of a collection keeps count when its rows are adjusted one after the
other, as long as there are floats for the sums: an adjustment is accepted when
its row has enough, and then it changes the count of that row by what it says
and nothing else (`Tally.after_cases`).  So a row has in the end what it had and
what the accepted adjustments of it have added (`Tally.accounted_afterAll`).

Identifiers need not be distinct.  A row that stands behind another with its
identifier is not found under it, so it is the positions of rows that are
counted by (`Store.position`).
-/

namespace ServiceLoom

open Decimal (value? Representable)

/-! ## Counts that are stored and compared -/

/-- What is stored of a float that denotes a number is that float. -/
theorem quantityOf_ofFloat_of_value? {x : Float} {q : ℚ}
    (h : value? x = some q) : quantityOf (some (.ofFloat x)) = x := by
  simp [Json.ofFloat, Number.ofFloat?, Decimal.isFinite_of_value? h,
    quantityOf, Json.numeric?, Number.toFloat]

/-! ## Positions -/

/-- Rows with one identifier stand at one position. -/
theorem Identified.index_eq {rows : List Record} (h : Identified rows) {i j : ℕ}
    {row other : Record} (hi : rows[i]? = some row) (hj : rows[j]? = some other)
    (hid : row.id? = other.id?) : i = j := by
  have hlt : i < (rows.map (·.id?)).length := by
    rw [List.length_map]
    exact (List.getElem?_eq_some_iff.mp hi).1
  refine (List.getElem?_inj hlt h.ids_nodup).mp ?_
  rw [List.getElem?_map, List.getElem?_map, hi, hj,
    Option.map_some, Option.map_some, hid]

namespace Store

/-- Where the row stands that is found under an identifier. -/
def position (s : Store) (slug id : String) : Option ℕ :=
  (s.rows slug).findIdx? (·.hasId id)

/-- The first row of a kind is changed at its position. -/
theorem modifyFirst_eq_set {p : Record → Bool} {rows : List Record}
    {row : Record} (h : rows.find? p = some row) (new : Record) :
    ∃ i, rows.findIdx? p = some i ∧ rows[i]? = some row ∧
      modifyFirst p (fun _ => new) rows = rows.set i new := by
  induction rows with
  | nil => cases h
  | cons first rest ih =>
      cases hfirst : p first with
      | true =>
          rw [List.find?_cons_of_pos hfirst] at h
          exact ⟨0, by
            simp [List.findIdx?_cons, hfirst], h, by simp [modifyFirst, hfirst]⟩
      | false =>
          rw [List.find?_cons_of_neg (by simp [hfirst])] at h
          obtain ⟨i, hposition, hrow, hset⟩ := ih h
          exact ⟨i + 1, by simp [List.findIdx?_cons,
            hfirst, hposition], hrow, by simp [modifyFirst, hfirst, hset]⟩

/-- **A patch** replaces the row at the position of its identifier. -/
theorem update_at (host : Host) {s : Store} {slug id : String} {row : Record}
    (hfind : s.find? slug id = some row) (patch : Record) :
    ∃ i, s.position slug id = some i ∧ (s.rows slug)[i]? = some row ∧
      (s.update host slug id patch).2.rows slug =
        (s.rows slug).set i (row.patched patch host.stamp) := by
  obtain ⟨i, hposition, hrow, hset⟩ :=
    modifyFirst_eq_set hfind (row.patched patch host.stamp)
  refine ⟨i, hposition, hrow, ?_⟩
  rw [update, hfind, rows_withRows_self, hset]

/-- Where the identifiers of rows are distinct, a row stands at the position of
its own. -/
theorem position_eq {s : Store}
    {slug id : String} (hrows : Identified (s.rows slug)) {i : ℕ} {row : Record}
    (hrow : (s.rows slug)[i]? = some row) (hid : row.id? = some id) :
    s.position slug id = some i := by
  obtain ⟨hi, hget⟩ := List.getElem?_eq_some_iff.mp hrow
  refine List.findIdx?_eq_some_iff_getElem.mpr
    ⟨hi, by simp [Record.hasId, hget, hid], fun j hji hj => ?_⟩
  have hj : (s.rows slug)[j].id? = some id := by simpa [Record.hasId] using hj
  exact Nat.ne_of_lt hji (hrows.index_eq (List.getElem?_eq_getElem (by omega))
    hrow (hj.trans hid.symm))

theorem issued_update (host : Host) (s : Store) (slug id : String)
    (patch : Record) : (s.update host slug id patch).2.issued = s.issued := by
  unfold update
  split <;> rfl

end Store

/-! ## Adjustments -/

/-- A field of a collection in which something is counted. -/
structure Tally where
  slug : String
  field : String

/-- A change of a count by a number of units. -/
structure Change where
  delta : Float
  units : ℤ
  denotes : value? delta = some (units : ℚ)

/-- The change of the count of a row, at a time. -/
structure Adjustment extends Change where
  host : Host
  id : String

namespace Tally

variable (k : Tally)

/-- The adjustment of a row. -/
def adjustment (a : Adjustment) : Access Record :=
  adjustStock k.slug a.id k.field a.delta

/-- Whether an adjustment is answered with the row. -/
def accepts (s : Store) (a : Adjustment) : Bool :=
  ((k.adjustment a).run a.host Outage.none s).1.isOk

/-- The store after an adjustment. -/
def after (s : Store) (a : Adjustment) : Store :=
  ((k.adjustment a).run a.host Outage.none s).2

/-- The store after adjustments one after the other. -/
def afterAll (s : Store) (as : List Adjustment) : Store := as.foldl k.after s

/-- The count of a row; what is missing or no number counts as zero. -/
def count? (row : Record) : Option ℚ := value? (row.amount k.field)

/-- The counts are natural numbers. -/
def Counted (s : Store) : Prop := ∀ row ∈ s.rows k.slug, ∃ n :
    ℕ, k.count? row = some (n : ℚ)

/-- There is a row for an adjustment, and it has enough. -/
def Covers (s : Store) (a : Adjustment) : Prop :=
  ∃ row, s.find? k.slug a.id = some row ∧ ∃ n : ℕ, k.count? row = some (n : ℚ) ∧
    0 ≤ n + a.units

/-- There are floats for the sums that adjustments one after the other come
to. -/
def Exact (s : Store) : List Adjustment → Prop
  | [] => True
  | a :: rest =>
    (∀ row q, s.find? k.slug a.id = some row → k.count? row = some q →
      Representable (q + a.units)) ∧
      Exact (k.after s a) rest

/-- The adjustments that are accepted for the row at a position. -/
def hits (s : Store) : List Adjustment → ℕ → List Adjustment
  | [], _ => []
  | a :: rest, i =>
    if k.accepts s a = true ∧ s.position k.slug a.id = some i then
      a :: hits (k.after s a) rest i
    else hits (k.after s a) rest i

/-- What adjustments make of a row: the count is changed by so many units, and
nothing else is but the time of change. -/
structure Adjusted (old new : Record) (units : ℤ) : Prop where
  count : ∃ n m : ℕ, k.count? old = some (n : ℚ) ∧
    k.count? new = some (m : ℚ) ∧ (m : ℤ) = n + units
  rest : ∀ name, name ≠ k.field → name ≠ "updated_at" →
    new.get? name = old.get? name

/-- What becomes of a store when adjustments are made one after the other.  A
row without an accepted adjustment stays as it is. -/
structure Accounted (s t : Store) (as : List Adjustment) : Prop where
  others : ∀ slug, slug ≠ k.slug → t.rows slug = s.rows slug
  issued : t.issued = s.issued
  length : (t.rows k.slug).length = (s.rows k.slug).length
  row : ∀ i old, (s.rows k.slug)[i]? = some old →
    ∃ new, (t.rows k.slug)[i]? = some new ∧
    k.Adjusted old new ((k.hits s as i).map (·.units)).sum ∧
      (k.hits s as i = [] → new = old)

variable {k} {s : Store} {a : Adjustment}

theorem Adjusted.refl {row : Record} {n : ℕ} (h : k.count? row = some (n : ℚ)) :
    k.Adjusted row row 0 :=
  ⟨⟨n, n, h, h, (Int.add_zero _).symm⟩, fun _ _ _ => rfl⟩

theorem Adjusted.trans {old mid new : Record} {units more : ℤ}
    (h : k.Adjusted old mid units) (h' : k.Adjusted mid new more) :
    k.Adjusted old new (units + more) := by
  obtain ⟨n, m, hold, hmid, hm⟩ := h.count
  obtain ⟨m', l, hmid', hnew, hl⟩ := h'.count
  obtain rfl : m = m' := by
    exact_mod_cast Option.some.inj (hmid.symm.trans hmid')
  exact ⟨⟨n, l, hold, hnew, by omega⟩,
    fun name hfield hupdated =>
      (h'.rest name hfield hupdated).trans (h.rest name hfield hupdated)⟩

/-- The sum that an adjustment comes to is that of the count and the units. -/
theorem value?_sum {row : Record} {n : ℕ} (hcount : k.count? row = some (n : ℚ))
    (hsum : Representable ((n : ℚ) + a.units)) :
    value? (row.amount k.field + a.delta) = some ((n + a.units : ℤ) : ℚ) := by
  rw [Decimal.value?_add hcount a.denotes hsum]
  push_cast
  rfl

theorem covers_iff {row : Record} {n : ℕ} (hfind : s.find? k.slug a.id = some row)
    (hcount : k.count? row = some (n : ℚ)) : k.Covers s a ↔
    0 ≤ n + a.units := by
  constructor
  · rintro ⟨row', hrow, m, hm, hge⟩
    obtain rfl := Option.some.inj (hfind.symm.trans hrow)
    obtain rfl : n = m := by
      exact_mod_cast Option.some.inj (hcount.symm.trans hm)
    exact hge
  · exact fun hge => ⟨row, hfind, n, hcount, hge⟩

/-- Patching a row with the sum changes its count by the units. -/
theorem adjusted_patched {row : Record} {n : ℕ}
    (hfield : k.field ∉ Record.systemFields)
    (hcount : k.count? row = some (n : ℚ)) (hge : 0 ≤ n + a.units)
    (hsum : value? (row.amount k.field + a.delta) = some ((n + a.units : ℤ) : ℚ))
    (now : Json) :
    k.Adjusted row (row.patched
      [(k.field, .ofFloat (row.amount k.field + a.delta))] now) a.units := by
  obtain ⟨m, hm⟩ := Int.eq_ofNat_of_zero_le hge
  refine ⟨⟨n, m, hcount, ?_, hm.symm⟩, fun name =>
    Record.get?_patched_single row _ _⟩
  rw [count?, Record.amount_patched_single _ _ _ hfield,
    quantityOf_ofFloat_of_value? hsum, hsum, hm]
  rfl

/-- **An adjustment** is refused, and the store stays as it is, or it changes
the count of one row. -/
theorem after_cases (hfield : k.field ∉ Record.systemFields)
    (hcounted : k.Counted s)
    (hexact : ∀ row q, s.find? k.slug a.id = some row → k.count? row = some q →
      Representable (q + a.units)) :
    (k.accepts s a = false ∧ ¬ k.Covers s a ∧ k.after s a = s) ∨
      (k.accepts s a = true ∧ k.Covers s a ∧
        ∃ i old new, s.position k.slug a.id = some i ∧
        (s.rows k.slug)[i]? = some old ∧
          (k.after s a).rows k.slug = (s.rows k.slug).set i new ∧
        k.Adjusted old new a.units ∧
          (∀ slug, slug ≠ k.slug → (k.after s a).rows slug = s.rows slug) ∧
        (k.after s a).issued = s.issued) := by
  have hrun := run_adjustStock a.host s k.slug a.id k.field a.delta
  cases hfind : s.find? k.slug a.id with
  | none =>
      rw [hfind] at hrun
      refine Or.inl ⟨congrArg (·.1.isOk) hrun, ?_, congrArg Prod.snd hrun⟩
      rintro ⟨row, hrow, -⟩
      cases hfind.symm.trans hrow
  | some old =>
      rw [hfind] at hrun
      dsimp only at hrun
      obtain ⟨n, hn⟩ := hcounted old (s.find?_some hfind).1
      have hsum := value?_sum hn (hexact old n hfind hn)
      have hcovers := covers_iff hfind hn
      have hsign : old.amount k.field + a.delta < 0 ↔ ¬ 0 ≤ n + a.units := by
        rw [Decimal.lt_iff hsum Decimal.value?_zero, not_le]
        exact Int.cast_lt_zero
      by_cases hge : 0 ≤ n + a.units
      · rw [if_neg fun hlt => hsign.mp hlt hge] at hrun
        have hafter : k.after s a = _ := congrArg Prod.snd hrun
        obtain ⟨i, hposition, hrow, hrows⟩ := s.update_at a.host hfind
          [(k.field, .ofFloat (old.amount k.field + a.delta))]
        rw [hafter]
        exact Or.inr ⟨congrArg (·.1.isOk) hrun, hcovers.mpr hge,
          i, old, _, hposition, hrow, hrows,
          adjusted_patched hfield hn hge hsum _, fun slug hslug =>
            Store.rows_update_of_ne _ _ _ _ hslug,
          Store.issued_update _ _ _ _ _⟩
      · rw [if_pos (hsign.mpr hge)] at hrun
        exact Or.inl ⟨congrArg (·.1.isOk) hrun, fun h =>
          hge (hcovers.mp h), congrArg Prod.snd hrun⟩

/-- A row after an adjustment is one from before it, or one whose count is
changed. -/
theorem mem_rows_after (hfield : k.field ∉ Record.systemFields)
    (hcounted : k.Counted s)
    (hexact : ∀ row q, s.find? k.slug a.id = some row →
      k.count? row = some q → Representable (q + a.units)) {row : Record}
    (hrow : row ∈ (k.after s a).rows k.slug) :
    row ∈ s.rows k.slug ∨
    ∃ old ∈ s.rows k.slug, k.Adjusted old row a.units := by
  rcases after_cases hfield hcounted hexact with
      ⟨-, -, hsame⟩ | ⟨-, -, i, old, new, -, hold, hrows, hadjusted, -⟩
  · exact Or.inl (hsame ▸ hrow)
  · rw [hrows] at hrow
    rcases List.mem_or_eq_of_mem_set hrow with hmem | rfl
    · exact Or.inl hmem
    · exact Or.inr ⟨old, List.mem_of_getElem? hold, hadjusted⟩

/-- Counts stay natural numbers. -/
theorem Counted.after
    (hcounted : k.Counted s) (hfield : k.field ∉ Record.systemFields)
    (hexact : ∀ row q, s.find? k.slug a.id = some row → k.count? row = some q →
      Representable (q + a.units)) : k.Counted (k.after s a) := by
  intro row hrow
  rcases mem_rows_after hfield hcounted hexact hrow with
      hmem | ⟨old, -, hadjusted⟩
  · exact hcounted row hmem
  · obtain ⟨n, m, -, hm, -⟩ := hadjusted.count
    exact ⟨m, hm⟩

/-! ## Many adjustments -/

/-- **Sums up to `2 ^ 53` have floats**: adjustments are exact when the counts
and what is added or taken are that small together. -/
theorem exact_of_le (hfield : k.field ∉ Record.systemFields)
    {as : List Adjustment} {bound : ℕ}
    (hcounts : ∀ row ∈ s.rows k.slug, ∃ n : ℕ, k.count? row = some (n : ℚ) ∧
      n ≤ bound) (hsum : bound + (as.map (·.units.natAbs)).sum ≤ 2 ^ 53) :
    k.Exact s as := by
  induction as generalizing s bound with
  | nil => trivial
  | cons a rest ih =>
      rw [List.map_cons, List.sum_cons] at hsum
      have hcounted : k.Counted s :=
        fun row hrow => (hcounts row hrow).imp fun n hn => hn.1
      have hexact : ∀ row q, s.find? k.slug a.id = some row →
          k.count? row = some q →
          Representable (q + a.units) := by
        intro row q hfind hq
        obtain ⟨n, hn, hle⟩ := hcounts row (s.find?_some hfind).1
        obtain rfl := Option.some.inj (hn.symm.trans hq)
        have hcast : (n : ℚ) + a.units = ((n + a.units : ℤ) : ℚ) := by
          push_cast
          rfl
        rw [hcast]
        exact Decimal.representable_intCast (by omega)
      have hafter : ∀ row ∈ (k.after s a).rows k.slug, ∃ n :
          ℕ, k.count? row = some (n : ℚ) ∧
          n ≤ bound + a.units.natAbs := by
        intro row hrow
        rcases mem_rows_after hfield hcounted hexact hrow with
            hmem | ⟨old, hold, hadjusted⟩
        · obtain ⟨n, hn, hle⟩ := hcounts row hmem
          exact ⟨n, hn, by omega⟩
        · obtain ⟨n, hn, hle⟩ := hcounts old hold
          obtain ⟨n', m, hn', hm, hunits⟩ := hadjusted.count
          obtain rfl : n = n' := by
            exact_mod_cast Option.some.inj (hn.symm.trans hn')
          exact ⟨m, hm, by omega⟩
      exact ⟨hexact, ih hafter (by omega)⟩

/-- After some of the adjustments the counts are natural numbers still, and the
others are exact still. -/
theorem Exact.split (hfield : k.field ∉ Record.systemFields)
    {before rest : List Adjustment} (hcounted : k.Counted s)
    (hexact : k.Exact s (before ++ rest)) :
    k.Counted (k.afterAll s before) ∧ k.Exact (k.afterAll s before) rest := by
  induction before generalizing s with
  | nil => exact ⟨hcounted, hexact⟩
  | cons a before ih => exact ih (hcounted.after hfield hexact.1) hexact.2

theorem hits_cons_self
    {rest : List Adjustment} {i : ℕ} (haccepts : k.accepts s a = true)
    (hposition : s.position k.slug a.id = some i) :
    k.hits s (a :: rest) i = a :: k.hits (k.after s a) rest i := by
  rw [hits, if_pos ⟨haccepts, hposition⟩]

theorem hits_cons_of_not {rest : List Adjustment} {i : ℕ}
    (h : k.accepts s a = false ∨ s.position k.slug a.id ≠ some i) :
    k.hits s (a :: rest) i = k.hits (k.after s a) rest i := by
  rw [hits, if_neg]
  rintro ⟨haccepts, hposition⟩
  rcases h with hrefused | hne
  · rw [haccepts] at hrefused
    cases hrefused
  · exact hne hposition

/-- **Adjustments add up**, row by row. -/
theorem accounted_afterAll (hfield : k.field ∉ Record.systemFields)
    {as : List Adjustment} (hcounted : k.Counted s) (hexact : k.Exact s as) :
    k.Accounted s (k.afterAll s as) as := by
  induction as generalizing s with
  | nil =>
      refine ⟨fun _ _ => rfl, rfl, rfl, fun i old hold =>
        ⟨old, hold, ?_, fun _ => rfl⟩⟩
      obtain ⟨n, hn⟩ := hcounted old (List.mem_of_getElem? hold)
      exact Adjusted.refl hn
  | cons a rest ih =>
      have hrest := ih (hcounted.after hfield hexact.1) hexact.2
      rcases after_cases hfield hcounted hexact.1 with
        ⟨hrefused, -, hsame⟩ | ⟨haccepts, -, i, old,
          new, hposition, hold, hrows, hadjusted, hother, hissued⟩
      · have hhits :
            ∀ j, k.hits s (a :: rest) j = k.hits (k.after s a) rest j :=
          fun j => hits_cons_of_not (Or.inl hrefused)
        show k.Accounted s (k.afterAll (k.after s a) rest) (a :: rest)
        rw [hsame] at hrest hhits ⊢
        exact ⟨hrest.others, hrest.issued, hrest.length,
          fun j row hrow => by rw [hhits]; exact hrest.row j row hrow⟩
      · refine ⟨fun slug hslug => (hrest.others slug hslug).trans
          (hother slug hslug), hrest.issued.trans hissued,
          hrest.length.trans (by rw [hrows, List.length_set]),
            fun j row hrow => ?_⟩
        by_cases hj : j = i
        · subst hj
          obtain rfl := Option.some.inj (hold.symm.trans hrow)
          have hnew : ((k.after s a).rows k.slug)[j]? = some new := by
            rw [hrows,
              List.getElem?_set_self (List.getElem?_eq_some_iff.mp hrow).1]
          obtain ⟨last, hlast, htotal, -⟩ := hrest.row j new hnew
          refine ⟨last, hlast, ?_, ?_⟩
          · rw [hits_cons_self haccepts hposition, List.map_cons, List.sum_cons]
            exact hadjusted.trans htotal
          · rw [hits_cons_self haccepts hposition]
            exact fun hnil => absurd hnil (List.cons_ne_nil _ _)
        · have hkept : ((k.after s a).rows k.slug)[j]? = some row := by
            rw [hrows, List.getElem?_set_ne (Ne.symm hj), hrow]
          have hne : s.position k.slug a.id ≠ some j := by
            rw [hposition]
            exact fun heq => hj (Option.some.inj heq).symm
          rw [hits_cons_of_not (Or.inr hne)]
          exact hrest.row j row hkept

/-- **Adjustments of stock keep count**, when the counts are natural numbers and
there are floats for the sums.  Each is accepted when its row is there and has
enough, and otherwise the store stays as it is.  In the end every row has what
it had and what the accepted adjustments of it have added, and nothing else has
changed but its time of change. -/
theorem adjustments_keep_count (hfield : k.field ∉ Record.systemFields)
    {as : List Adjustment} (hcounted : k.Counted s) (hexact : k.Exact s as) :
    (∀ before a after, as = before ++ a :: after →
      (k.accepts (k.afterAll s before) a = true ↔
        k.Covers (k.afterAll s before) a) ∧
      (k.accepts (k.afterAll s before) a = false →
        k.after (k.afterAll s before) a = k.afterAll s before)) ∧
    k.Accounted s (k.afterAll s as) as := by
  refine ⟨?_, accounted_afterAll hfield hcounted hexact⟩
  rintro before a after rfl
  obtain ⟨hcounted, hexact⟩ := Exact.split hfield hcounted hexact
  rcases after_cases hfield hcounted hexact.1 with
      ⟨hrefused, hshort, hsame⟩ | ⟨haccepts, hcovers, -⟩
  · exact ⟨by simp [hrefused, hshort], fun _ => hsame⟩
  · exact ⟨by simp [haccepts,
      hcovers], fun hrefused => absurd (haccepts.symm.trans hrefused) nofun⟩

/-- The quantities of parts. -/
def ofParts : Tally := ⟨"parts", "quantity"⟩

/-- The morning on which parts are counted. -/
def morning : Host := ⟨.ofDay 0, fun k => toString k⟩

/-- A part of which there are five. -/
def partX : Record :=
  [("id", .string "x"), ("quantity", .number (.integer 5 (by decide)))]

/-- Two parts, one of which has no quantity yet. -/
def twoParts : Store :=
  ((Store.empty.create morning "parts" partX).2.create
    morning "parts" [("id", .string "y")]).2

/-- Parts are taken and added.  The second adjustment takes too many, and the
fourth is of a part that is not there. -/
def movements : List Adjustment :=
  [⟨⟨-3, -3, by decide +kernel⟩, morning, "x"⟩,
    ⟨⟨-1, -1, by decide +kernel⟩, morning, "y"⟩, ⟨⟨4, 4, by decide +kernel⟩,
    morning, "y"⟩, ⟨⟨6, 6, by decide +kernel⟩, morning, "z"⟩,
    ⟨⟨-2, -2, by decide +kernel⟩, morning, "x"⟩]

/-- The parts are counted right. -/
theorem twoParts_keep_count :
    ofParts.Counted twoParts ∧ ofParts.Exact twoParts movements ∧
    ofParts.Accounted twoParts (ofParts.afterAll twoParts movements) movements ∧
    ((ofParts.afterAll twoParts movements).rows "parts").map ofParts.count? =
      [some 0, some 4] ∧
    (ofParts.hits twoParts movements 0).map (·.units) = [-3, -2] ∧
    (ofParts.hits twoParts movements 1).map (·.units) = [4] := by
  have hfield : ofParts.field ∉ Record.systemFields := by decide
  have hcounts : ∀ row ∈ twoParts.rows "parts",
      ofParts.count? row = some ((5 : ℕ) : ℚ) ∨
        ofParts.count? row = some ((0 : ℕ) : ℚ) := by decide +kernel
  have hbounded : ∀ row ∈ twoParts.rows "parts", ∃ n :
      ℕ, ofParts.count? row = some (n : ℚ) ∧ n ≤ 5 :=
    fun row hrow => (hcounts row hrow).elim (fun h => ⟨5, h, by decide⟩)
      fun h => ⟨0, h, by decide⟩
  have hcounted : ofParts.Counted twoParts :=
    fun row hrow => (hbounded row hrow).imp fun n hn => hn.1
  have hexact : ofParts.Exact twoParts movements :=
    exact_of_le hfield hbounded (by decide)
  exact ⟨hcounted, hexact, (adjustments_keep_count hfield hcounted hexact).2,
    by decide +kernel, by decide +kernel,
    by decide +kernel⟩

end Tally

end ServiceLoom
