import ServiceLoom.Proofs.Operation.Adjustments
import ServiceLoom.Proofs.Store.Turns
import Mathlib.Data.List.Permutation

/-!
# Adjustments in turn

An adjustment is two calls: it reads the row, and it writes the sum.  When two
clients adjust one row in turn, both changes are kept if one has written before
the other reads (`Tally.play_serial`).  Otherwise both have read the same row,
and what the first has written is overwritten by the second
(`Tally.play_overlapping`).  There are no other ways for four calls to follow
each other (`interleavings`), so this is what becomes of the row
(`Tally.play_adjustments`).
-/

namespace ServiceLoom

open Decimal (value? Representable)

/-! ## Changes -/

/-- The amount that a row has after a change that is accepted. -/
def Change.applied (x : Float) (d : Change) : Float :=
  quantityOf (some (.ofFloat (x + d.delta)))

/-- **A change that has a float for its sum** adds its units. -/
theorem value?_applied {x : Float} {q : ℚ} {d : Change} (hx : value? x = some q)
    (hsum : Representable (q + d.units)) :
    value? (d.applied x) = some (q + d.units) := by
  have hadd := Decimal.value?_add hx d.denotes hsum
  rw [Change.applied, quantityOf_ofFloat_of_value? hadd, hadd]

/-- An amount becomes another by changes that are accepted one after the other.
Where there are floats for the sums, it grows by the units. -/
structure Changes (x y : Float) (ds : List Change) : Prop where
  amount : y = ds.foldl (fun x d => d.applied x) x
  exact : ∀ q : ℚ, value? x = some q →
    (∀ first, first <+: ds →
      Representable (q + ((first.map (·.units)).sum : ℤ))) →
      value? y = some (q + ((ds.map (·.units)).sum : ℤ))

theorem Changes.of_amount_eq {x y : Float} {ds : List Change}
    (h : y = ds.foldl (fun x d => d.applied x) x) : Changes x y ds := by
  refine ⟨h, ?_⟩
  subst h
  induction ds generalizing x with
  | nil =>
      intro q hx _
      simpa using hx
  | cons d rest ih =>
      intro q hx hsums
      have hassoc : ∀ ds :
          List Change, q + (((d :: ds).map (·.units)).sum : ℤ) =
          q + d.units + ((ds.map (·.units)).sum : ℤ) := by
        intro ds
        rw [List.map_cons, List.sum_cons, Int.cast_add, add_assoc]
      have hsum : Representable (q + d.units) := by
        have hfirst := hsums [d] ⟨rest, rfl⟩
        rwa [hassoc, List.map_nil, List.sum_nil, Int.cast_zero,
          add_zero] at hfirst
      rw [hassoc, List.foldl_cons]
      refine ih _ (value?_applied hx hsum) fun first hfirst => ?_
      rw [← hassoc]
      exact hsums (d :: first) (List.cons_prefix_cons.mpr ⟨rfl, hfirst⟩)

/-! ## Orders of four turns -/

/-- The turns of two clients follow each other in one of two ways: those of one
before those of the other, or first turns before second turns. -/
theorem interleavings {ι : Type} {a b : ι} {order : List ι}
    (h : order.Perm [a, a, b, b]) :
    (∃ c d, order = [c, c, d, d] ∧ [c, d].Perm [a, b]) ∨
      ∃ c d e f, order = [c, d, e, f] ∧ [c, d].Perm [a, b] ∧
        [e, f].Perm [c, d] := by
  have hfirst : ∀ {c d : ι} {rest : List ι}, (c :: rest).Perm [c, c, d, d] →
      rest = [c, d, d] ∨ ∃ e f, rest = [d, e, f] ∧ [e, f].Perm [c, d] := by
    intro c d rest h
    have hrest : rest.Perm [c, d, d] := h.cons_inv
    cases rest with
    | nil => cases hrest.length_eq
    | cons x rest =>
        have hx : x = c ∨ x = d := by
          simpa using hrest.subset List.mem_cons_self
        rcases hx with rfl | rfl
        · exact Or.inl
            (congrArg _ (by simpa using List.perm_pair.mp hrest.cons_inv))
        · have hlast : rest.Perm [c, x] :=
            (hrest.trans (List.Perm.swap x c [x])).cons_inv
          rcases List.perm_pair.mp hlast with rfl | rfl
          · exact Or.inr ⟨c, x, rfl, hlast⟩
          · exact Or.inr ⟨x, c, rfl, hlast⟩
  have hcase : ∀ {c d : ι} {rest : List ι}, (c :: rest).Perm [c, c, d, d] →
      [c, d].Perm [a, b] →
      (∃ x y, c :: rest = [x, x, y, y] ∧ [x, y].Perm [a, b]) ∨
        ∃ x y e f, c :: rest = [x, y, e, f] ∧ [x, y].Perm [a, b] ∧
            [e, f].Perm [x, y] := by
    intro c d rest h hcd
    rcases hfirst h with rfl | ⟨e, f, rfl, hef⟩
    · exact Or.inl ⟨c, d, rfl, hcd⟩
    · exact Or.inr ⟨c, d, e, f, rfl, hcd, hef⟩
  cases order with
  | nil => cases h.length_eq
  | cons x rest =>
      have hx : x = a ∨ x = b := by simpa using h.subset List.mem_cons_self
      rcases hx with rfl | rfl
      · exact hcase h (List.Perm.refl _)
      · exact hcase (h.trans (@List.perm_append_comm _ [a, a] [x, x]))
          (List.Perm.swap a x [])

/-- The turns of a schedule are those of its clients, each at a time. -/
theorem exists_hosts {ι : Type} {c d e f : ι} {schedule : List (ι × Host)}
    (h : schedule.map Prod.fst = [c, d, e, f]) :
    ∃ h₁ h₂ h₃ h₄, schedule = [(c, h₁), (d, h₂), (e, h₃), (f, h₄)] := by
  simp only [List.map_eq_cons_iff, List.map_eq_nil_iff] at h
  obtain ⟨⟨_, h₁⟩, _, rfl, rfl, ⟨_, h₂⟩, _, rfl, rfl,
      ⟨_, h₃⟩, _, rfl, rfl, ⟨_, h₄⟩, _, rfl, rfl, rfl⟩ := h
  exact ⟨h₁, h₂, h₃, h₄, rfl⟩

/-! ## Turns of an adjustment -/

namespace Tally

variable (k : Tally) (id : String)

/-- What is left of an adjustment that has looked for its row. -/
def writing (d : Change) (found : Option Record) : Access Record :=
  match found with
  | none => .refuse (missingRow k.slug id)
  | some item =>
    let current := item.amount k.field
    let next := current + d.delta
    if next < 0 then .refuse (insufficientStock k.field current d.delta)
    else do
      match ← Access.patch k.slug id [(k.field, .ofFloat next)] with
      | some row => .done row
      | none => .refuse (missingRow k.slug id)

variable {k id} {ι : Type} [DecidableEq ι] {p : Shared ι Record} {c : ι}
    {d : Change}

/-- **The first turn** reads. -/
theorem step_reads (hc : p.procedure c = adjustStock k.slug id k.field d.delta)
    (h : Host) :
    (p.step (c, h)).procedure c = k.writing id d (p.store.find? k.slug id) ∧
      (p.step (c, h)).store = p.store := by
  rw [Shared.procedure_step_self, Shared.store_step, hc]
  exact ⟨rfl, rfl⟩

/-- Only an adjustment that has found its row has an answer. -/
theorem exists_item {found : Option Record}
    {h : Host} (hc : p.procedure c = k.writing id d found)
    (hdone : ∃ row, (p.step (c, h)).procedure c = .done row) :
    ∃ item, found = some item := by
  obtain ⟨row, hdone⟩ := hdone
  rw [Shared.procedure_step_self, hc] at hdone
  cases found with
  | none => cases hdone
  | some item => exact ⟨item, rfl⟩

/-- **The second turn** writes what the first has read and the change, whatever
stands in the row by then. -/
theorem step_writes {item current : Record}
    {h : Host} (hc : p.procedure c = k.writing id d (some item))
    (hcurrent : p.store.find? k.slug id = some current)
    (hfield : k.field ∉ Record.systemFields)
    (hdone : ∃ row, (p.step (c, h)).procedure c = .done row) :
    ∃ new, (p.step (c, h)).store.find? k.slug id = some new ∧
      new.amount k.field = d.applied (item.amount k.field) := by
  obtain ⟨row, hdone⟩ := hdone
  rw [Shared.procedure_step_self, hc] at hdone
  rw [Shared.store_step, hc]
  unfold writing at hdone ⊢
  dsimp only at hdone ⊢
  split at hdone
  · cases hdone
  next hge =>
    rw [if_neg hge]
    exact ⟨_, Store.find?_update_self h hcurrent _,
      Record.amount_patched_single _ _ _ hfield⟩

/-! ## Two clients -/

variable {change : ι → Change} {a b : ι}

/-- **Both changes are kept** when one client has had its turns before the other
begins. -/
theorem play_serial (hne : a ≠ b) (hfield : k.field ∉ Record.systemFields)
    (hstart : ∀ x, x = a ∨ x = b → p.procedure x =
      adjustStock k.slug id k.field (change x).delta) {h₁ h₂ h₃ h₄ : Host}
    (hdone : ∀ x, x = a ∨ x = b → ∃ row,
      (p.play [(a, h₁), (a, h₂), (b, h₃), (b, h₄)]).procedure x = .done row) :
    ∃ old new, p.store.find? k.slug id = some old ∧
      (p.play [(a, h₁), (a, h₂), (b, h₃), (b, h₄)]).store.find?
        k.slug id = some new ∧
      Changes (old.amount k.field) (new.amount k.field) [change a,
        change b] := by
  obtain ⟨rowA, hdoneA⟩ := hdone a (Or.inl rfl)
  have hdoneB := hdone b (Or.inr rfl)
  show ∃ old new, _ ∧
      ((((p.step (a, h₁)).step (a, h₂)).step (b, h₃)).step (b, h₄)).store.find?
      k.slug id = some new ∧ _
  change ((((p.step (a, h₁)).step (a, h₂)).step (b, h₃)).step (b, h₄)).procedure
    a = _ at hdoneA
  change ∃ row, ((((p.step (a, h₁)).step (a, h₂)).step (b, h₃)).step
    (b, h₄)).procedure b = _ at hdoneB
  rw [Shared.procedure_step_of_ne _ hne,
    Shared.procedure_step_of_ne _ hne] at hdoneA
  -- The first client has written when the second one reads.
  obtain ⟨hreadA, hstoreA⟩ := step_reads (hstart a (Or.inl rfl)) h₁
  obtain ⟨old, hold⟩ := exists_item hreadA ⟨rowA, hdoneA⟩
  rw [hold] at hreadA
  obtain ⟨mid, hmid, hamount⟩ :=
    step_writes hreadA (hstoreA ▸ hold) hfield ⟨rowA, hdoneA⟩
  have hwaits : ((p.step (a, h₁)).step (a, h₂)).procedure b =
      adjustStock k.slug id k.field (change b).delta := by
    rw [Shared.procedure_step_of_ne _ hne.symm,
      Shared.procedure_step_of_ne _ hne.symm, hstart b (Or.inr rfl)]
  obtain ⟨hreadB, hstoreB⟩ := step_reads hwaits h₃
  rw [hmid] at hreadB
  obtain ⟨new, hnew, hsum⟩ := step_writes hreadB (hstoreB ▸ hmid) hfield hdoneB
  refine ⟨old, new, hold, hnew, Changes.of_amount_eq ?_⟩
  rw [hsum, hamount]
  rfl

/-- **The change of the client that writes last is kept**, and that of the other
is lost, when both have read before either writes. -/
theorem play_overlapping {e f : ι} (hne : a ≠ b)
    (hfield : k.field ∉ Record.systemFields)
    (hstart : ∀ x, x = a ∨ x = b →
      p.procedure x = adjustStock k.slug id k.field (change x).delta)
    (hwrites : [e, f].Perm [a, b]) {h₁ h₂ h₃ h₄ : Host}
    (hdone : ∀ x, x = a ∨ x = b → ∃ row,
      (p.play [(a, h₁), (b, h₂), (e, h₃), (f, h₄)]).procedure x = .done row) :
    ∃ old new, p.store.find? k.slug id = some old ∧
      (p.play [(a, h₁), (b, h₂), (e, h₃), (f, h₄)]).store.find?
        k.slug id = some new ∧
      Changes (old.amount k.field) (new.amount k.field) [change f] := by
  have he : e = a ∨ e = b := by simpa using hwrites.subset List.mem_cons_self
  have hf : f = a ∨ f = b := by
    simpa using
      hwrites.subset (List.mem_cons_of_mem _ (List.mem_singleton_self f))
  have hef : e ≠ f := by simpa using hwrites.nodup_iff.mpr (by simpa using hne)
  obtain ⟨rowE, hdoneE⟩ := hdone e he
  have hdoneF := hdone f hf
  show ∃ old new, _ ∧
      ((((p.step (a, h₁)).step (b, h₂)).step (e, h₃)).step (f, h₄)).store.find?
      k.slug id = some new ∧ _
  change ((((p.step (a, h₁)).step (b, h₂)).step (e, h₃)).step (f, h₄)).procedure
    e = _ at hdoneE
  change ∃ row, ((((p.step (a, h₁)).step (b, h₂)).step (e, h₃)).step
    (f, h₄)).procedure f = _ at hdoneF
  rw [Shared.procedure_step_of_ne _ hef] at hdoneE
  -- Both clients have read the row as it was.
  obtain ⟨hreadA, hstoreA⟩ := step_reads (hstart a (Or.inl rfl)) h₁
  have hwaits : (p.step (a, h₁)).procedure b =
      adjustStock k.slug id k.field (change b).delta := by
    rw [Shared.procedure_step_of_ne _ hne.symm, hstart b (Or.inr rfl)]
  obtain ⟨hreadB, hstore⟩ := step_reads hwaits h₂
  rw [hstoreA] at hreadB hstore
  have hread : ∀ x, x = a ∨ x = b →
      ((p.step (a, h₁)).step (b, h₂)).procedure x =
          k.writing id (change x) (p.store.find? k.slug id) := by
    rintro x (rfl | rfl)
    · rw [Shared.procedure_step_of_ne _ hne, hreadA]
    · exact hreadB
  obtain ⟨old, hold⟩ := exists_item (hread e he) ⟨rowE, hdoneE⟩
  rw [hold] at hread
  obtain ⟨mid, hmid, -⟩ :=
    step_writes (hread e he) (hstore ▸ hold) hfield ⟨rowE, hdoneE⟩
  obtain ⟨new, hnew, hamount⟩ :=
    step_writes ((Shared.procedure_step_of_ne _ hef.symm h₃).trans (hread f hf))
      hmid hfield hdoneF
  exact ⟨old, new, hold, hnew, Changes.of_amount_eq hamount⟩

/-- **What becomes of a row that two clients adjust.** If one has had its turns
before the other begins, the row has both changes.  Otherwise it has the change
of the client that writes last, and that of the other is lost. -/
theorem play_adjustments (hne : a ≠ b) (hfield : k.field ∉ Record.systemFields)
    (hstart : ∀ x, x = a ∨ x = b →
      p.procedure x = adjustStock k.slug id k.field (change x).delta)
    {schedule : List (ι × Host)}
    (hturns : (schedule.map Prod.fst).Perm [a, a, b, b])
    (hdone : ∀ x, x = a ∨ x = b →
      ∃ row, (p.play schedule).procedure x = .done row) :
    ∃ old new, p.store.find? k.slug id = some old ∧
      (p.play schedule).store.find? k.slug id = some new ∧
      (∀ x y, schedule.map Prod.fst = [x, x, y, y] →
        Changes (old.amount k.field) (new.amount k.field) [change x,
          change y]) ∧
      ((∀ x y, schedule.map Prod.fst ≠ [x, x, y, y]) →
        ∀ last, (schedule.map Prod.fst).getLast? = some last →
        Changes (old.amount k.field) (new.amount k.field) [change last]) := by
  have hmembers : ∀ {c d : ι}, [c, d].Perm [a, b] →
      c ≠ d ∧ ∀ x, x = c ∨ x = d → x = a ∨ x = b := by
    intro c d h
    refine ⟨by simpa using h.nodup_iff.mpr (by simpa using hne), fun x hx => ?_⟩
    simpa using h.subset (show x ∈ [c, d] by simpa using hx)
  rcases interleavings hturns with
      ⟨c, d, horder, hcd⟩ | ⟨c, d, e, f, horder, hcd, hef⟩
  · obtain ⟨h₁, h₂, h₃, h₄, rfl⟩ := exists_hosts horder
    obtain ⟨hne, hmem⟩ := hmembers hcd
    obtain ⟨old, new, hold, hnew, hchanges⟩ :=
      play_serial hne hfield (fun x hx => hstart x (hmem x hx)) fun x hx =>
        hdone x (hmem x hx)
    refine ⟨old, new, hold, hnew, ?_, fun hoverlap =>
      absurd horder (hoverlap c d)⟩
    intro x y hxy
    obtain ⟨rfl, rfl⟩ : c = x ∧ d = y := by simpa using horder.symm.trans hxy
    exact hchanges
  · obtain ⟨h₁, h₂, h₃, h₄, rfl⟩ := exists_hosts horder
    obtain ⟨hne, hmem⟩ := hmembers hcd
    obtain ⟨old, new, hold, hnew, hchanges⟩ :=
      play_overlapping hne hfield (fun x hx => hstart x (hmem x hx)) hef
        fun x hx => hdone x (hmem x hx)
    refine ⟨old, new, hold, hnew, ?_, ?_⟩
    · intro x y hxy
      obtain ⟨hcx, hdx, -⟩ : c = x ∧ d = x ∧ _ := by
        simpa using horder.symm.trans hxy
      exact absurd (hcx.trans hdx.symm) hne
    · intro _ last hlast
      obtain rfl : f = last := by simpa using hlast
      exact hchanges

end Tally

/-! ## Two clerks -/

/-- Two clerks at one store. -/
inductive Clerk where
  | first
  | second
deriving DecidableEq

/-- The first clerk adds one part, and the second two. -/
def Clerk.change : Clerk → Change
  | first => ⟨1, 1, by decide +kernel⟩
  | second => ⟨2, 2, by decide +kernel⟩

/-- The two clerks before five parts. -/
def fiveParts : Shared Clerk Record where
  procedure c := adjustStock "parts" "x" "quantity" c.change.delta
  store := (Store.empty.create Tally.morning "parts" Tally.partX).2

/-- The second clerk has both turns between those of the first. -/
def interrupted : List (Clerk × Host) :=
  [Clerk.first, .second, .second, .first].map (·, Tally.morning)

theorem fiveParts_answered (x : Clerk) :
    ∃ row, (fiveParts.play interrupted).procedure x = .done row := by
  have hanswered : ∀ p : Access Record, (p matches .done _) = true →
      ∃ row, p = .done row := by
    intro p hp
    cases p with
    | done row => exact ⟨row, rfl⟩
    | _ => cases hp
  cases x <;> exact hanswered _ (by decide +kernel)

/-- The first clerk has written last, and there are six parts. -/
theorem fiveParts_interrupted :
    (∃ old new, fiveParts.store.find? "parts" "x" = some old ∧
      (fiveParts.play interrupted).store.find? "parts" "x" = some new ∧
      Changes (old.amount "quantity") (new.amount "quantity")
        [Clerk.first.change]) ∧
    ((fiveParts.play interrupted).store.rows "parts").map Tally.ofParts.count? =
      [some 6] := by
  refine ⟨?_, by decide +kernel⟩
  obtain ⟨old, new, hold, hnew, -, hlast⟩ :=
    @Tally.play_adjustments Tally.ofParts "x" Clerk _ fiveParts Clerk.change
      .first .second (by decide) (by decide) (fun _ _ => rfl)
        interrupted (by decide) fun x _ => fiveParts_answered x
  refine ⟨old, new, hold, hnew, hlast ?_ _ rfl⟩
  intro x y hxy
  cases x <;> cases y <;> cases hxy

/-- **A change can be lost**: it is not so that both are kept whatever the order
of the turns. -/
theorem fiveParts_change_lost :
    ¬ ∀ schedule : List (Clerk × Host),
      (schedule.map Prod.fst).Perm [Clerk.first, .first, .second, .second] →
      (∀ x, ∃ row, (fiveParts.play schedule).procedure x = .done row) →
      ∃ old new, fiveParts.store.find? "parts" "x" = some old ∧
        (fiveParts.play schedule).store.find? "parts" "x" = some new ∧
        ∃ n : ℤ, Tally.ofParts.count? old = some (n : ℚ) ∧
          Tally.ofParts.count? new = some ((n + Clerk.first.change.units +
            Clerk.second.change.units : ℤ) : ℚ) := by
  intro h
  obtain ⟨old, new, hold, hnew, n, hn, hsum⟩ :=
    h interrupted (by decide) fiveParts_answered
  have hfive : (fiveParts.store.find? "parts" "x").map Tally.ofParts.count? =
      some (some ((5 : ℤ) : ℚ)) := by
    decide +kernel
  have hsix : ((fiveParts.play interrupted).store.find? "parts" "x").map
      Tally.ofParts.count? =
      some (some ((6 : ℤ) : ℚ)) := by decide +kernel
  rw [hold, Option.map_some, hn] at hfive
  rw [hnew, Option.map_some, hsum] at hsix
  obtain rfl : n = 5 := by
    exact_mod_cast Option.some.inj (Option.some.inj hfive)
  have hsame :
      (5 + Clerk.first.change.units + Clerk.second.change.units : ℤ) = 6 := by
    exact_mod_cast Option.some.inj (Option.some.inj hsix)
  revert hsame
  decide

end ServiceLoom
