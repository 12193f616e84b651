import ServiceLoom.Proofs.Operation.Moves

/-!
# What moves do to counts

A move that is answered conserves the total of its collection, as long as there
are floats for the amounts that it comes to: the row that it takes from has so
many units less, and the row that it gives to has them more, or is opened with
them (`Move.conserves`).  When the two are one row, it has what it had.

There is enough to take, but nothing is asked of what is given.  So a move of a
negative quantity can leave a row with less than nothing, and no other move can
(`Move.stays_inStock_iff`).
-/

namespace ServiceLoom

open Decimal (value? Representable)

/-! ## Totals -/

/-- A property of all members is one of all members after a change when it is
one of the new member. -/
theorem forall_mem_set_iff {α : Type} {l : List α} {i : ℕ} {a : α}
    {p : α → Prop} (hl : ∀ x ∈ l, p x) (hi : i < l.length) :
    (∀ x ∈ l.set i a, p x) ↔ p a := by
  constructor
  · exact fun hall => hall a (List.mem_set hi a)
  · intro ha x hx
    rcases List.mem_or_eq_of_mem_set hx with hold | rfl
    · exact hl x hold
    · exact ha

namespace Tally

variable (k : Tally)

/-- The count of a row.  What is not finite counts as zero, like what is missing
or no number. -/
def countOf (row : Record) : ℚ := (k.count? row).getD 0

/-- The sum of the counts of rows. -/
def total (rows : List Record) : ℚ := (rows.map k.countOf).sum

variable {k} {rows : List Record}

theorem countOf_eq {row : Record} {n : ℚ} (h : k.count? row = some n) :
    k.countOf row = n := by
  rw [countOf, h, Option.getD_some]

/-- A change of one row changes the total by the difference. -/
theorem total_set {i : ℕ} {old : Record} (hold : rows[i]? = some old)
    (new : Record) :
    k.total (rows.set i new) = k.total rows - k.countOf old + k.countOf new := by
  obtain ⟨hi, rfl⟩ := List.getElem?_eq_some_iff.mp hold
  rw [total, List.map_set, List.sum_set', dif_pos (by rwa [List.length_map]),
    List.getElem_map, total]
  ring

theorem total_concat (row : Record) :
    k.total (rows ++ [row]) = k.total rows + k.countOf row := by
  rw [total, List.map_append, List.sum_append, List.map_singleton,
    List.sum_singleton, total]

end Tally

namespace Move

/-- The count of quantities that a move is about. -/
def tally (m : Move) : Tally := ⟨m.slug, "quantity"⟩

/-- A move is of so many units, and there are floats for the amounts that it
comes to. -/
structure Exact (m : Move) (s : Store) (units : ℚ) : Prop where
  quantity : value? m.quantity = some units
  source : ∀ item, m.source? s = some item →
    ∃ n : ℚ, m.tally.count? item = some n ∧ Representable (n - units)
  destination : ∀ item target, m.source? s = some item →
    m.destination? s item = some target →
    target.id? ≠ item.id? → ∃ n : ℚ, m.tally.count? target = some n ∧
      Representable (n + units)

variable {m : Move} {h : Host} {s t : Store} {item target old : Record}
    {rows : List Record} {i : ℕ} {units : ℚ}

/-- **Moves of integers are exact** when the counts and what is moved are up to
`2 ^ 53` together. -/
theorem exact_of_le {units : ℤ} (hquantity : value? m.quantity = some (units : ℚ))
    (hcounts : ∀ row ∈ s.rows m.slug, ∃ n : ℤ, m.tally.count? row = some (n : ℚ) ∧
      n.natAbs + units.natAbs ≤ 2 ^ 53) : m.Exact s units where
  quantity := hquantity
  source := by
    intro item hfound
    obtain ⟨n, hn, hle⟩ := hcounts item (s.find?_some hfound).1
    refine ⟨n, hn, ?_⟩
    rw [← Int.cast_sub]
    exact Decimal.representable_intCast (by omega)
  destination := by
    intro item target _ hdest _
    obtain ⟨n, hn, hle⟩ := hcounts target (List.mem_of_find?_eq_some hdest)
    refine ⟨n, hn, ?_⟩
    rw [← Int.cast_add]
    exact Decimal.representable_intCast (by omega)

theorem boltsToBack_exact : boltsToBack.Exact workshop 2 := by
  have hcounts : ∀ row ∈ workshop.rows "parts",
      boltsToBack.tally.count? row = some ((5 : ℤ) : ℚ) ∨
      boltsToBack.tally.count? row = some ((3 : ℤ) : ℚ) := by decide +kernel
  exact @exact_of_le boltsToBack workshop 2 (by decide +kernel) fun row hrow =>
    (hcounts row hrow).elim (fun h => ⟨5, h, by decide⟩) fun h =>
      ⟨3, h, by decide⟩

/-! ## Counts of the rows that are written -/

theorem count?_recounted {row : Record} {x : Float} {n : ℚ}
    (hx : value? x = some n) (now : Json) :
    m.tally.count? (row.recounted x now) = some n := by
  show value? (quantityOf ((row.recounted x now).get? "quantity")) = some n
  rw [Record.get?_quantity_recounted, quantityOf_ofFloat_of_value? hx, hx]

theorem count?_debited {n : ℚ} (hn : m.tally.count? item = some n)
    (hquantity : value? m.quantity = some units)
    (hrest : Representable (n - units)) :
    m.tally.count? (m.debited h item) = some (n - units) :=
  count?_recounted (Decimal.value?_sub hn hquantity hrest) _

theorem count?_credited {n : ℚ} (hn : m.tally.count? target = some n)
    (hquantity : value? m.quantity = some units)
    (hsum : Representable (n + units)) :
    m.tally.count? (m.credited h target) = some (n + units) :=
  count?_recounted (Decimal.value?_add hn hquantity hsum) _

/-- What goes back to the row that it was taken from makes up for what was
taken. -/
theorem count?_back {n : ℚ} (hn : m.tally.count? item = some n)
    (hquantity : value? m.quantity = some units)
    (hrest : Representable (n - units)) :
    m.tally.count? (m.credited h (m.debited h item)) = some n := by
  have hsum : Representable (n - units + units) := by
    rw [sub_add_cancel]
    exact ⟨_, hn⟩
  have hback := count?_credited (h := h)
      (count?_debited (h := h) hn hquantity hrest) hquantity hsum
  rwa [sub_add_cancel] at hback

/-- A row that is opened has what is given to it. -/
theorem count?_opened {id : String} {now : Json}
    (hquantity : value? m.quantity = some units) :
    m.tally.count? ((movedRow item m.location m.quantity).stamped id now) =
      some units := by
  show value? (quantityOf (((movedRow item m.location m.quantity).stamped
      id now).get? "quantity")) = some units
  rw [Record.get?_quantity_opened,
    quantityOf_ofFloat_of_value? hquantity, hquantity]

/-! ## Conservation -/

/-- The identifier of the row that a move gives to, if it does not open one. -/
def destinationId? (m : Move) (s : Store) (item : Record) : Option String :=
  (m.destination? s item).bind (·.id?)

/-- What a row gains by a move: the row that it takes from loses the units, and
the row that it gives to gets them. -/
def gain (m : Move) (s : Store) (item : Record) (units : ℚ)
    (row : Record) : ℚ :=
  (if row.id? = item.id? then -units else 0) + if row.id? =
    m.destinationId? s item then units else 0

/-- What becomes of a row by a move: it gains its share and keeps all else but
the time of change.  A row that a move neither takes from nor gives to stays as
it is. -/
structure Becomes (m : Move) (s : Store) (item : Record) (units : ℚ)
    (old new : Record) : Prop where
  count : m.tally.countOf new = m.tally.countOf old + m.gain s item units old
  rest : ∀ name, name ≠ "quantity" → name ≠ "updated_at" →
    new.get? name = old.get? name
  kept : old.id? ≠ item.id? → old.id? ≠ m.destinationId? s item → new = old

/-- What a move of an item does to a store: it adds a row only if it finds none
to give to. -/
structure Conserves (m : Move) (s t : Store) (item : Record)
    (units : ℚ) : Prop where
  total : m.tally.total (t.rows m.slug) = m.tally.total (s.rows m.slug)
  others : ∀ slug, slug ≠ m.slug → t.rows slug = s.rows slug
  length : (t.rows m.slug).length =
    (s.rows m.slug).length + if m.destination? s item = none then 1 else 0
  row : ∀ (i : ℕ) (old : Record), (s.rows m.slug)[i]? = some old →
    ∃ new, (t.rows m.slug)[i]? = some new ∧ m.Becomes s item units old new
  opened : ∀ row, (t.rows m.slug)[(s.rows m.slug).length]? = some row →
    m.tally.countOf row = units ∧
      row.get? "location_id" = some (.string m.location) ∧
      ∀ name, name ∉ Record.systemFields → name ≠ "location_id" →
        name ≠ "quantity" → row.get? name = item.get? name

theorem Becomes.self (hsource : old.id? ≠ item.id?)
    (hdest : old.id? ≠ m.destinationId? s item) :
    m.Becomes s item units old old where
  count := by rw [gain, if_neg hsource, if_neg hdest, add_zero, add_zero]
  rest _ _ _ := rfl
  kept _ _ := rfl

/-- **The row that a move takes from** loses the units, unless they go back to
it. -/
theorem Exact.becomes_debited (hexact : m.Exact s units)
    (h : Host) (hfound : m.source? s = some item)
    (hapart : item.id? ≠ m.destinationId? s item) :
    m.Becomes s item units item (m.debited h item) where
  count := by
    obtain ⟨n, hn, hrest⟩ := hexact.source item hfound
    rw [Tally.countOf_eq (count?_debited hn hexact.quantity hrest),
      Tally.countOf_eq hn, gain, if_pos rfl, if_neg hapart]
    ring
  rest _ := Record.get?_recounted
  kept hne := absurd rfl hne

/-- The row that a move takes from has what it had if the units go back to
it. -/
theorem Exact.becomes_back (hexact : m.Exact s units)
    (h : Host) (hfound : m.source? s = some item)
    (hdest : m.destination? s item = some item) :
    m.Becomes s item units item (m.credited h (m.debited h item)) where
  count := by
    obtain ⟨n, hn, hrest⟩ := hexact.source item hfound
    rw [Tally.countOf_eq (count?_back hn hexact.quantity hrest),
      Tally.countOf_eq hn, gain, if_pos rfl, destinationId?, hdest,
      Option.bind_some, if_pos rfl]
    ring
  rest name hquantity hupdated :=
    (Record.get?_recounted hquantity hupdated).trans
      (Record.get?_recounted hquantity hupdated)
  kept hne := absurd rfl hne

/-- **The row that a move gives to** gets the units. -/
theorem Exact.becomes_credited (hexact : m.Exact s units) (h : Host)
    (hfound : m.source? s = some item)
    (hdest : m.destination? s item = some target)
    (hapart : target.id? ≠ item.id?) :
    m.Becomes s item units target (m.credited h target) where
  count := by
    obtain ⟨n, hn, hsum⟩ := hexact.destination item target hfound hdest hapart
    rw [Tally.countOf_eq (count?_credited hn hexact.quantity hsum),
      Tally.countOf_eq hn, gain, if_neg hapart, destinationId?, hdest,
      Option.bind_some, if_pos rfl]
    ring
  rest _ := Record.get?_recounted
  kept _ hne := absurd (by rw [destinationId?, hdest, Option.bind_some]) hne

/-- **What becomes of the rows** by a move that is answered. -/
theorem Gives.becomes (hgives : m.Gives h s item i rows)
    (htakes : m.Takes s item i) (hrows : Identified (s.rows m.slug))
    (hexact : m.Exact s units) {j : ℕ} (hold : (s.rows m.slug)[j]? = some old) :
    ∃ new, rows[j]? = some new ∧ m.Becomes s item units old new := by
  have hlt := (List.getElem?_eq_some_iff.mp hold).1
  have hsource : j ≠ i → old.id? ≠ item.id? :=
    fun hne hid => hne (hrows.index_eq hold htakes.standing hid)
  cases hgives with
  | back hdest =>
      have hdestId : m.destinationId? s item = item.id? := by
        rw [destinationId?, hdest, Option.bind_some]
      by_cases hj : j = i
      · subst hj
        obtain rfl := Option.some.inj (hold.symm.trans htakes.standing)
        exact ⟨_, List.getElem?_set_self hlt,
          hexact.becomes_back h htakes.found hdest⟩
      · exact ⟨old, by rw [List.getElem?_set_ne (Ne.symm hj),
          hold], .self (hsource hj) (hdestId ▸ hsource hj)⟩
  | @across target k hdest hstanding hapart =>
      have hdestId : m.destinationId? s item = target.id? := by
        rw [destinationId?, hdest, Option.bind_some]
      -- What is given is written last, so its position is looked at first.
      by_cases hk : j = k
      · subst hk
        obtain rfl := Option.some.inj (hold.symm.trans hstanding)
        exact ⟨_, List.getElem?_set_self (by rwa [List.length_set]),
          hexact.becomes_credited h htakes.found hdest hapart⟩
      · by_cases hj : j = i
        · subst hj
          obtain rfl := Option.some.inj (hold.symm.trans htakes.standing)
          exact ⟨_, by rw [List.getElem?_set_ne (Ne.symm hk),
            List.getElem?_set_self hlt],
            hexact.becomes_debited h htakes.found (hdestId ▸ hapart.symm)⟩
        · refine ⟨old, by rw [List.getElem?_set_ne (Ne.symm hk),
            List.getElem?_set_ne (Ne.symm hj), hold],
            .self (hsource hj) ?_⟩
          rw [hdestId]
          exact fun hid => hk (hrows.index_eq hold hstanding hid)
  | opening hdest =>
      have hdestId : m.destinationId? s item = none := by
        rw [destinationId?, hdest, Option.bind_none]
      -- No row that was there before is given anything: each has an identifier.
      have hother : old.id? ≠ m.destinationId? s item := by
        rw [hdestId]
        exact Option.isSome_iff_ne_none.mp
          (hrows.id_isSome old (List.mem_of_getElem? hold))
      rw [List.getElem?_append_left (by rwa [List.length_set])]
      by_cases hj : j = i
      · subst hj
        obtain rfl := Option.some.inj (hold.symm.trans htakes.standing)
        exact ⟨_, List.getElem?_set_self hlt,
          hexact.becomes_debited h htakes.found hother⟩
      · exact ⟨old, by rw [List.getElem?_set_ne (Ne.symm hj),
          hold], .self (hsource hj) hother⟩

/-- **The total is conserved** by a move that is answered. -/
theorem Gives.total_eq (hgives : m.Gives h s item i rows)
    (htakes : m.Takes s item i) (hexact : m.Exact s units) :
    m.tally.total rows = m.tally.total (s.rows m.slug) := by
  obtain ⟨n, hn, hrest⟩ := hexact.source item htakes.found
  have hdebited := count?_debited (h := h) hn hexact.quantity hrest
  cases hgives with
  | back hdest =>
      rw [Tally.total_set htakes.standing, Tally.countOf_eq hn,
        Tally.countOf_eq (count?_back hn hexact.quantity hrest)]
      ring
  | @across target j hdest hstanding hapart =>
      obtain ⟨k, hk, hsum⟩ :=
        hexact.destination item target htakes.found hdest hapart
      have hne : i ≠ j := by
        rintro rfl
        exact hapart
          (congrArg _ (Option.some.inj (hstanding.symm.trans htakes.standing)))
      rw [Tally.total_set (by rw [List.getElem?_set_ne hne, hstanding]),
        Tally.total_set htakes.standing, Tally.countOf_eq hn,
        Tally.countOf_eq hdebited, Tally.countOf_eq hk,
        Tally.countOf_eq (count?_credited hk hexact.quantity hsum)]
      ring
  | opening hdest =>
      rw [Tally.total_concat, Tally.total_set htakes.standing,
        Tally.countOf_eq hn, Tally.countOf_eq hdebited,
        Tally.countOf_eq (count?_opened hexact.quantity)]
      ring

/-- A row is added only if there is none to give to. -/
theorem Gives.length_eq (hgives : m.Gives h s item i rows) :
    rows.length = (s.rows m.slug).length + if m.destination? s item = none then
      1 else 0 := by
  cases hgives with
  | back hdest => rw [List.length_set, hdest, if_neg nofun, Nat.add_zero]
  | across hdest =>
      rw [List.length_set, List.length_set, hdest, if_neg nofun, Nat.add_zero]
  | opening hdest =>
      rw [List.length_append, List.length_set, hdest,
        if_pos rfl, List.length_singleton]

/-- A row that is added is the one that is opened. -/
theorem Gives.exists_opened {row : Record} (hgives : m.Gives h s item i rows)
    (hrow : rows[(s.rows m.slug).length]? = some row) :
    ∃ id, row = (movedRow item m.location m.quantity).stamped id h.stamp := by
  have hadded := (List.getElem?_eq_some_iff.mp hrow).1
  cases hgives with
  | back hdest =>
      exact absurd hadded (by rw [List.length_set]; exact lt_irrefl _)
  | across hdest =>
      exact absurd hadded
        (by rw [List.length_set, List.length_set]; exact lt_irrefl _)
  | @opening id hdest =>
      rw [List.getElem?_append_right (by rw [List.length_set]),
        List.length_set, Nat.sub_self] at hrow
      exact ⟨id, (Option.some.inj hrow).symm⟩

/-- **Moves conserve**: when there are floats for the amounts that a move comes
to and it is answered, the total of its collection is what it was.  The row that
it takes from loses the units and the row that it gives to gets them, or a row
is opened with them at the location.  All other rows stay as they are, and so do
all other collections. -/
theorem conserves {outage : Outage} (hs : s.Written) (hexact : m.Exact s units)
    (hrun : m.procedure.run h outage s = (.ok (), t)) :
    ∃ item, m.source? s = some item ∧ m.Conserves s t item units := by
  have hrows := hs.identified m.slug
  obtain ⟨item, i, hanswered⟩ := exists_answered_of_run hrows hrun
  have htakes := hanswered.toTakes
  have hgives := hanswered.gives
  refine ⟨item, htakes.found, hgives.total_eq htakes hexact,
    hanswered.others, hgives.length_eq,
    fun j old hold => hgives.becomes htakes hrows hexact hold,
      fun row hrow => ?_⟩
  obtain ⟨id, rfl⟩ := hgives.exists_opened hrow
  exact ⟨Tally.countOf_eq (count?_opened hexact.quantity),
    Record.get?_location_opened, fun _ => Record.get?_opened⟩

/-- There are eleven parts in the workshop before and after. -/
theorem boltsToBack_conserves :
    (boltsToBack.procedure.run Tally.morning Outage.none workshop).1 = .ok () ∧
    boltsToBack.tally.total (workshop.rows "parts") = 11 ∧
    ∃ item, boltsToBack.source? workshop = some item ∧
      boltsToBack.Conserves workshop (boltsToBack.procedure.run
        Tally.morning Outage.none workshop).2 item 2 := by
  have hanswered : (boltsToBack.procedure.run Tally.morning
      Outage.none workshop).1 = .ok () := by decide +kernel
  exact ⟨hanswered, by decide +kernel,
    conserves workshop_written boltsToBack_exact (Prod.ext hanswered rfl)⟩

/-! ## Rows with less than nothing -/

/-- A move would leave the row that it gives to with less than nothing. -/
def Overdraws (m : Move) (s : Store) : Prop :=
  ∃ item, m.source? s = some item ∧
    match m.destination? s item with
    | some target =>
        target.id? ≠ item.id? ∧ target.amount "quantity" + m.quantity < 0
    | none => m.quantity < 0

theorem overdraws_iff (hfound : m.source? s = some item) :
    m.Overdraws s ↔ match m.destination? s item with
      | some target =>
          target.id? ≠ item.id? ∧ target.amount "quantity" + m.quantity < 0
      | none => m.quantity < 0 := by
  constructor
  · rintro ⟨other, hother, hover⟩
    obtain rfl := Option.some.inj (hfound.symm.trans hother)
    exact hover
  · exact fun hover => ⟨item, hfound, hover⟩

theorem zero_le_amount_iff {row : Record} {n : ℚ}
    (hn : m.tally.count? row = some n) :
    0 ≤ row.amount "quantity" ↔ 0 ≤ n := Decimal.le_iff Decimal.value?_zero hn

theorem credit_lt_zero_iff {n : ℚ} (hn : m.tally.count? target = some n)
    (hquantity : value? m.quantity = some units)
    (hsum : Representable (n + units)) :
    target.amount "quantity" + m.quantity < 0 ↔ n + units < 0 :=
  Decimal.lt_iff (Decimal.value?_add hn hquantity hsum) Decimal.value?_zero

/-- **What is given decides.** A move takes no more than there is, so when no
row had less than nothing, only the row that is given to can have. -/
theorem Gives.all_inStock_iff (hgives : m.Gives h s item i rows)
    (htakes : m.Takes s item i) (hexact : m.Exact s units)
    (hstock : ∀ row ∈ s.rows m.slug, 0 ≤ row.amount "quantity") :
    (∀ row ∈ rows, 0 ≤ row.amount "quantity") ↔ ¬ m.Overdraws s := by
  obtain ⟨n, hn, hrest⟩ := hexact.source item htakes.found
  have hlt := (List.getElem?_eq_some_iff.mp htakes.standing).1
  have htaken : 0 ≤ (m.debited h item).amount "quantity" := by
    rw [zero_le_amount_iff (count?_debited (h := h) hn hexact.quantity hrest),
      sub_nonneg, ← not_lt]
    exact fun hshort =>
      htakes.enough ((Decimal.lt_iff hn hexact.quantity).mpr hshort)
  have hafter := (forall_mem_set_iff hstock hlt).mpr htaken
  rw [overdraws_iff htakes.found]
  cases hgives with
  | back hdest =>
      rw [forall_mem_set_iff hstock hlt,
        zero_le_amount_iff (count?_back hn hexact.quantity hrest), hdest]
      have hitem : 0 ≤ item.amount "quantity" :=
        hstock item (List.mem_of_getElem? htakes.standing)
      exact iff_of_true ((zero_le_amount_iff hn).mp hitem)
        fun hover => hover.1 rfl
  | @across target j hdest hstanding hapart =>
      obtain ⟨k, hk, hsum⟩ :=
        hexact.destination item target htakes.found hdest hapart
      have hj : j < ((s.rows m.slug).set i (m.debited h item)).length := by
        rw [List.length_set]
        exact (List.getElem?_eq_some_iff.mp hstanding).1
      rw [forall_mem_set_iff hafter hj,
        zero_le_amount_iff (count?_credited hk hexact.quantity hsum), hdest]
      dsimp only
      rw [credit_lt_zero_iff hk hexact.quantity hsum,
        and_iff_right hapart, not_lt]
  | opening hdest =>
      rw [List.forall_mem_append, List.forall_mem_singleton, and_iff_right
          hafter, zero_le_amount_iff (count?_opened hexact.quantity), hdest]
      dsimp only
      rw [Decimal.lt_iff hexact.quantity Decimal.value?_zero, not_lt]

/-- **When a move leaves a row with less than nothing**, if there was none
before and there are floats for the amounts that it comes to: exactly when it
takes away from the row that it gives to, and more than is there.  Moves of
quantities that are not negative never do. -/
theorem stays_inStock_iff
    {outage : Outage} (hs : s.Written) (hexact : m.Exact s units)
    (hstock : ∀ row ∈ s.rows m.slug, 0 ≤ row.amount "quantity")
    (hrun : m.procedure.run h outage s = (.ok (), t)) :
    (¬ m.quantity < 0 → ∀ row ∈ t.rows m.slug, 0 ≤ row.amount "quantity") ∧
      ((∀ row ∈ t.rows m.slug, 0 ≤ row.amount "quantity") ↔
        ¬ m.Overdraws s) := by
  obtain ⟨item, i, hanswered⟩ :=
    exists_answered_of_run (hs.identified m.slug) hrun
  have hiff := hanswered.gives.all_inStock_iff hanswered.toTakes hexact hstock
  refine ⟨fun hquantity => hiff.mpr ?_, hiff⟩
  rintro ⟨item, hfound, hover⟩
  cases hdest : m.destination? s item with
  | some target =>
      rw [hdest] at hover
      obtain ⟨hapart, hover⟩ := hover
      obtain ⟨k, hk, hsum⟩ := hexact.destination item target hfound hdest hapart
      have htarget : 0 ≤ k := (zero_le_amount_iff hk).mp
          (hstock target (List.mem_of_find?_eq_some hdest))
      rw [credit_lt_zero_iff hk hexact.quantity hsum] at hover
      rw [Decimal.lt_iff hexact.quantity Decimal.value?_zero] at hquantity
      linarith
  | none =>
      rw [hdest] at hover
      exact hquantity hover

/-- No part is missing in the workshop when bolts have gone to the back. -/
theorem boltsToBack_inStock :
    (boltsToBack.procedure.run Tally.morning Outage.none workshop).1 = .ok () ∧
      ¬ boltsToBack.Overdraws workshop := by
  have hanswered : (boltsToBack.procedure.run Tally.morning
      Outage.none workshop).1 = .ok () := by decide +kernel
  obtain ⟨hinStock, hiff⟩ :=
    stays_inStock_iff workshop_written boltsToBack_exact
      (by decide +kernel) (Prod.ext hanswered rfl)
  exact ⟨hanswered, hiff.mp (hinStock (by decide +kernel))⟩

/-- Minus five parts go to the back. -/
def minusFiveToBack : Move := ⟨"parts", "x", "back", -5⟩

/-- **A move can leave less than nothing**: there are ten parts at the front and
minus five at the back. -/
theorem minusFiveToBack_overdraws :
    fiveInFront.Written ∧
    (∀ row ∈ fiveInFront.rows "parts", 0 ≤ row.amount "quantity") ∧
    (minusFiveToBack.procedure.run Tally.morning Outage.none fiveInFront).1 =
      .ok () ∧
    ∃ row ∈ (minusFiveToBack.procedure.run Tally.morning
      Outage.none fiveInFront).2.rows "parts",
      row.amount "quantity" < 0 ∧ Tally.ofParts.count? row = some (-5) :=
  ⟨Store.Written.empty.create Tally.morning "parts" _,
    by decide +kernel, by decide +kernel, by decide +kernel⟩

end Move

end ServiceLoom
