import ServiceLoom.Pattern.Builtin
import ServiceLoom.Proofs.Rule.DeleteGuard
import ServiceLoom.Proofs.Rule.Verdict

/-!
# Checked writes keep rows valid

A row is checked against its rules before it is written, and removed only when
its guard finds no row that refers to it.  Whoever writes in no other way keeps
every row valid, although a write is checked against the rules of its own
collection only: what a write can spoil elsewhere is uniqueness, which is
symmetric, and a reference, which the guard of the target looks for in the same
way in which the rule reads it.

The invariant is `Store.Sound`; `Store.Sound.write` carries it over creations
and patches alike, and `Store.Sound.remove` over removals.
-/

namespace ServiceLoom

/-- A write that is checked before it is made. -/
inductive CheckedWrite where
  | create (slug : String) (data : Record)
  | update (slug id : String) (patch : Record)
  | delete (slug id : String)

/-- The rules and the guard of every collection. -/
structure Checks where
  rules : String → RuleSet
  guard : String → DeleteGuard

namespace Checks

variable (c : Checks)

/-- What a write does: a check, and then the write itself. -/
def procedure [Pattern.Engine] : CheckedWrite → Access Unit
  | .create slug data => do
    (c.rules slug).validate slug data .create
    let _ ← Access.insert slug data
  | .update slug id patch => do
    let some row ← Access.row? slug id
        | .refuse (.notFound (slug ++ " '" ++ id ++ "' not found"))
    (c.rules slug).validate slug (Dict.merge row patch) (.update id)
    let _ ← Access.patch slug id patch
  | .delete slug id => do
    (c.guard slug).check id
    let _ ← Access.remove slug id

/-- The stores that checked writes lead to. Every write may come at another
time. -/
inductive Reachable [Pattern.Engine] : Store → Prop
  | empty : Reachable Store.empty
  | write {s : Store} (host : Host) (w : CheckedWrite) :
      Reachable s → Reachable ((c.procedure w).run host Outage.none s).2

/-- The store after a list of writes at one time. -/
def after [Pattern.Engine] (host : Host) (s : Store)
    (writes : List CheckedWrite) : Store :=
  writes.foldl (fun s w => ((c.procedure w).run host Outage.none s).2) s

/-- A list of writes leads from a reachable store to a reachable store. -/
theorem Reachable.after [Pattern.Engine] {c : Checks} {s : Store}
    (hs : c.Reachable s) (host : Host) (writes : List CheckedWrite) :
    c.Reachable (c.after host s writes) := by
  induction writes generalizing s with
  | nil => exact hs
  | cons w rest ih => exact ih (Reachable.write host w hs)

/-- Rules are about the fields that users write, and what refers to another
collection is guarded there. -/
structure Paired : Prop where
  fields : ∀ slug, ∀ r ∈ (c.rules slug).rules, r.field ∉ Record.systemFields
  guarded : ∀ slug, ∀ r ∈ (c.rules slug).rules, ∀ target,
    r.reference = some target → target ≠ slug →
    ∃ d ∈ (c.guard target).dependents, d.entity = slug ∧
      ⟨r.field, r.multiple⟩ ∈ d.fields

end Checks

/-- The rule without a reference to its own collection. -/
def FieldRule.withoutOwn (r : FieldRule) (slug : String) : FieldRule :=
  if r.reference = some slug then { r with reference := none } else r

/-- The rules without references to their own collection. -/
def RuleSet.withoutOwn (rules : RuleSet) (slug : String) : RuleSet :=
  ⟨rules.rules.map (·.withoutOwn slug)⟩

/-- Two rows do not share the text of a filled field. -/
def Record.Apart (field : String) (a b : Record) : Prop :=
  Json.Apart (a.get? field) (b.get? field)

/-- A row that satisfies the rules of a collection. -/
def RuleSet.Fits [Pattern.Engine] (rules : RuleSet) (s : Store) (slug : String)
    (mode : WriteMode) (row : Record) : Prop :=
  ∀ r ∈ rules.rules, r.Admits (row.get? r.field) ∧
    (r.unique = true → Unshared r.field mode (row.get? r.field) (s.rows slug)) ∧
    ∀ target, r.reference = some target →
      r.Resolves (row.get? r.field) (idsOf (s.rows target))

/-- The rows of a store satisfy the rules of their collections, references to
the own one apart. -/
structure Store.Sound [Pattern.Engine] (s : Store)
    (rules : String → RuleSet) : Prop where
  identified : ∀ slug, Identified (s.rows slug)
  admitted : ∀ slug, ∀ r ∈ (rules slug).rules, ∀ row ∈ s.rows slug,
    r.Admits (row.get? r.field)
  apart : ∀ slug, ∀ r ∈ (rules slug).rules, r.unique = true →
    ∀ a ∈ s.rows slug, ∀ b ∈ s.rows slug, a.id? ≠ b.id? → a.Apart r.field b
  resolved : ∀ slug, ∀ r ∈ (rules slug).rules, ∀ target,
    r.reference = some target → target ≠ slug →
    ∀ row ∈ s.rows slug, r.Resolves (row.get? r.field) (idsOf (s.rows target))

/-! ## Rules -/

section Rules

variable {s : Store} {slug : String} {mode : WriteMode} {row : Record}

/-- A record passes a check when it fits. -/
theorem RuleSet.verdicts_eq_nil_iff_fits [Pattern.Engine] (rules : RuleSet) :
    RuleSet.verdicts (s.read Outage.none) slug row mode rules.rules [] =
      .ok [] ↔ rules.Fits s slug mode row := by
  rw [RuleSet.verdicts_eq_nil_iff]
  exact forall_congr' fun r => imp_congr_right fun _ =>
    r.verdict_none_iff s slug mode _

/-- A check passes a record that fits, refuses any other, and leaves the
store. -/
theorem RuleSet.validate_run [Pattern.Engine] (rules : RuleSet) (host : Host) :
    (rules.Fits s slug mode row ∧
      (rules.validate slug row mode).run host Outage.none s = (.ok (), s)) ∨
      ∃ f, (rules.validate slug row mode).run host Outage.none s =
        (.error f, s) := by
  have hok := rules.validate_ok_iff slug row mode host Outage.none s
  have hstore := rules.validate_store slug row mode host Outage.none s
  cases hrun : (rules.validate slug row mode).run host Outage.none s with
  | mk answer left =>
      rw [hrun] at hok hstore
      obtain rfl : left = s := hstore
      cases answer with
      | error f => exact Or.inr ⟨f, rfl⟩
      | ok u =>
          exact Or.inl ⟨rules.verdicts_eq_nil_iff_fits.mp (hok.mp rfl), rfl⟩

/-- Whether a record fits depends on the fields of its rules. -/
theorem RuleSet.Fits.congr [Pattern.Engine]
    {rules : RuleSet} {other : Record} (h : rules.Fits s slug mode row)
    (hfields : ∀ r ∈ rules.rules, other.get? r.field = row.get? r.field) :
    rules.Fits s slug mode other := by
  intro r hr
  rw [hfields r hr]
  exact h r hr

/-- A reference stays valid when identifiers are added. -/
theorem FieldRule.Resolves.mono {r : FieldRule} {value : Option Json}
    {ids more : List String} (h : r.Resolves value ids)
    (hsub : ∀ id ∈ ids, id ∈ more) : r.Resolves value more :=
  fun v hv hfilled id hid => hsub id (h v hv hfilled id hid)

/-- **A guard sees what a rule reads**: the row holds every identifier that its
value refers to. -/
theorem FieldRule.holds_of_mem_referred {r : FieldRule}
    {v : Json} {id : String} (hv : row.get? r.field = some v)
    (hshape : r.multiple = true → v.isArray = true) (hid : id ∈ r.referred v) :
    RefField.Holds ⟨r.field, r.multiple⟩ row id := by
  unfold RefField.Holds
  by_cases hmultiple : r.multiple = true
  · rw [if_pos hmultiple]
    cases v with
    | array items =>
        simp only [referred, hmultiple, if_true, List.mem_map] at hid
        exact ⟨items, hv, hid⟩
    | _ => cases hshape hmultiple
  · rw [if_neg hmultiple]
    refine ⟨v, hv, ?_⟩
    cases v with
    | array items => simpa [referred, hmultiple, eq_comm] using hid
    | _ => simpa [referred, eq_comm] using hid

end Rules

/-! ## Writes -/

namespace Store.Sound

variable {rules : String → RuleSet} {s s' : Store} {id : String}

theorem empty [Pattern.Engine] : Store.empty.Sound rules where
  identified := fun _ => Identified.nil
  admitted := fun _ _ _ _ hrow => absurd hrow List.not_mem_nil
  apart := fun _ _ _ _ _ hrow => absurd hrow List.not_mem_nil
  resolved := fun _ _ _ _ _ _ _ hrow => absurd hrow List.not_mem_nil

/-- **Writing a row that fits keeps a store sound**, whether the row is new or
replaces the one with its identifier.  The other rows of the collection are
apart from it because it is unshared among them. -/
theorem write [Pattern.Engine]
    (slug : String) (mode : WriteMode) (row : Record) (h : s.Sound rules)
    (hid : row.id? = some id) (hmode : ∀ own, mode.ownId = some own → own = id)
    (hfits : (rules slug).Fits s slug mode row)
    (hident : Identified (s'.rows slug))
    (hrows : ∀ other ∈ s'.rows slug, other = row ∨
      (other ∈ s.rows slug ∧ other.id? ≠ some id))
    (hids : ∀ own ∈ idsOf (s.rows slug), own ∈ idsOf (s'.rows slug))
    (hother : ∀ t, t ≠ slug → s'.rows t = s.rows t) : s'.Sound rules := by
  have hsub : ∀ t, ∀ own ∈ idsOf (s.rows t), own ∈ idsOf (s'.rows t) := by
    intro t
    by_cases ht : t = slug
    · exact ht ▸ hids
    · rw [hother t ht]
      exact fun _ hown => hown
  have hapart : ∀ r ∈ (rules slug).rules, r.unique = true →
      ∀ other ∈ s.rows slug,
      other.id? ≠ some id → row.Apart r.field other := by
    intro r hr hunique other hmem hne
    rcases unshared_iff_apart.mp ((hfits r hr).2.1 hunique) other hmem with
        ⟨own, hown, hsame⟩ | hapart
    · exact absurd (hmode own hown ▸ hsame) hne
    · exact hapart
  constructor
  · intro t
    by_cases ht : t = slug
    · exact ht ▸ hident
    · rw [hother t ht]
      exact h.identified t
  · intro t r hr other hmem
    by_cases ht : t = slug
    · subst ht
      rcases hrows other hmem with rfl | ⟨hold, -⟩
      · exact (hfits r hr).1
      · exact h.admitted t r hr other hold
    · exact h.admitted t r hr other (hother t ht ▸ hmem)
  · intro t r hr hunique a ha b hb hne
    by_cases ht : t = slug
    · subst ht
      rcases hrows a ha with rfl | ⟨haold, hanot⟩
      · rcases hrows b hb with rfl | ⟨hbold, hbnot⟩
        · exact absurd rfl hne
        · exact hapart r hr hunique b hbold hbnot
      · rcases hrows b hb with rfl | ⟨hbold, -⟩
        · exact Json.Apart.symm (hapart r hr hunique a haold hanot)
        · exact h.apart t r hr hunique a haold b hbold hne
    · rw [hother t ht] at ha hb
      exact h.apart t r hr hunique a ha b hb hne
  · intro t r hr target htarget hne other hmem
    refine FieldRule.Resolves.mono ?_ (hsub target)
    by_cases ht : t = slug
    · subst ht
      rcases hrows other hmem with rfl | ⟨hold, -⟩
      · exact (hfits r hr).2.2 target htarget
      · exact h.resolved t r hr target htarget hne other hold
    · exact h.resolved t r hr target htarget hne other (hother t ht ▸ hmem)

/-- **Removing a row to which no other collection refers keeps a store
sound.** -/
theorem remove [Pattern.Engine] {slug : String} (h : s.Sound rules)
    (hfree : ∀ t, ∀ r ∈ (rules t).rules, r.reference = some slug → slug ≠ t →
      ∀ row ∈ s.rows t, ¬ RefField.Holds ⟨r.field, r.multiple⟩ row id)
    (hrows : ∀ t, s'.rows t = if t = slug then (s.rows slug).filter fun row =>
      !row.hasId id else s.rows t) : s'.Sound rules := by
  have hsub : ∀ t, ∀ row ∈ s'.rows t, row ∈ s.rows t := by
    intro t row hrow
    rw [hrows] at hrow
    split at hrow
    next ht =>
      subst ht
      exact (List.mem_filter.mp hrow).1
    next => exact hrow
  constructor
  · intro t
    rw [hrows]
    split
    · exact (h.identified slug).filter _
    · exact h.identified t
  · intro t r hr row hrow
    exact h.admitted t r hr row (hsub t row hrow)
  · intro t r hr hunique a ha b hb hne
    exact h.apart t r hr hunique a (hsub t a ha) b (hsub t b hb) hne
  · intro t r hr target htarget hne row hrow v hv hfilled own hown
    have hold := h.resolved t r hr target htarget hne
        row (hsub t row hrow) v hv hfilled own hown
    rw [hrows]
    split
    next heq =>
      subst heq
      obtain ⟨other, hother, hid⟩ := mem_idsOf_iff.mp hold
      refine mem_idsOf_iff.mpr ⟨other, List.mem_filter.mpr ⟨hother, ?_⟩, hid⟩
      have hne : own ≠ id := by
        rintro rfl
        refine hfree t r hr htarget hne row (hsub t row hrow)
          (FieldRule.holds_of_mem_referred hv ?_ hown)
        exact (h.admitted t r hr row (hsub t row hrow)).listed
          v hv hfilled (by rw [htarget]; rfl)
      simp [Record.hasId, hid, hne]
    next => exact hold

/-- Soundness is about the rows. -/
theorem of_rows [Pattern.Engine] (h : s.Sound rules)
    (hrows : ∀ t, s'.rows t = s.rows t) : s'.Sound rules where
  identified := fun t => hrows t ▸ h.identified t
  admitted := fun t r hr row hrow => h.admitted t r hr row (hrows t ▸ hrow)
  apart := fun t r hr hunique a ha b hb =>
    h.apart t r hr hunique a (hrows t ▸ ha) b (hrows t ▸ hb)
  resolved := fun t r hr target htarget hne row hrow => by
    rw [hrows target]
    exact h.resolved t r hr target htarget hne row (hrows t ▸ hrow)

/-- **A row of a sound store fits again**, except for references to its own
collection. -/
theorem fits_withoutOwn [Pattern.Engine] {slug : String} {row : Record}
    (h : s.Sound rules) (hrow : row ∈ s.rows slug) (hid : row.id? = some id) :
    ((rules slug).withoutOwn slug).Fits s slug (.update id) row := by
  intro r' hr'
  obtain ⟨r, hr, rfl⟩ := List.mem_map.mp hr'
  have hadmits := h.admitted slug r hr row hrow
  have hunshared : r.unique = true →
      Unshared r.field (.update id) (row.get? r.field) (s.rows slug) := by
    intro hunique
    refine unshared_iff_apart.mpr fun other hother => ?_
    by_cases hsame : other.id? = row.id?
    · exact Or.inl ⟨id, rfl, hsame.trans hid⟩
    · exact Or.inr
        (h.apart slug r hr hunique row hrow other hother (Ne.symm hsame))
  unfold FieldRule.withoutOwn
  split
  next =>
    refine ⟨⟨hadmits.present, hadmits.allowed, ?_⟩, hunshared, ?_⟩
    · intro _ _ _ hreference
      cases hreference
    · intro target htarget
      cases htarget
  next hother =>
    refine ⟨hadmits, hunshared, fun target htarget => ?_⟩
    exact h.resolved slug r hr target htarget
      (fun heq => hother (heq ▸ htarget)) row hrow

end Store.Sound

namespace Checks

variable (c : Checks) (host : Host) {s : Store}

/-- A creation is rejected and leaves the rows, or appends data that fits. -/
theorem create_cases [Pattern.Engine] (slug : String) (data : Record) :
    ((∃ f,
        ((c.procedure (.create slug data)).run host Outage.none s).1 =
          .error f) ∧
        ∀ t, ((c.procedure (.create slug data)).run host Outage.none s).2.rows
          t = s.rows t) ∨
      ((c.procedure (.create slug data)).run host Outage.none s).1 = .ok () ∧
        (c.rules slug).Fits s slug .create data ∧
          ∃ id, id ∉ idsOf (s.rows slug) ∧
        ((c.procedure (.create slug data)).run host Outage.none s).2.rows slug =
          s.rows slug ++ [data.stamped id host.stamp] ∧
        ∀ t, t ≠ slug →
          ((c.procedure (.create slug data)).run host Outage.none s).2.rows t =
            s.rows t := by
  rw [procedure]
  rcases (c.rules slug).validate_run (s := s) host with
      ⟨hfits, hrun⟩ | ⟨f, hrun⟩
  · rw [Access.run_bind_ok _ _ _ hrun, Access.run_bind,
      Access.run_insert _ _ _ rfl]
    rcases s.create_cases host slug data with
        ⟨⟨e, herror⟩, hrows⟩ | ⟨id, hok, hnew, hrow, hother⟩
    · rw [herror]
      exact Or.inl ⟨⟨_, rfl⟩, hrows⟩
    · rw [hok]
      exact Or.inr ⟨rfl, hfits, id, hnew, hrow, hother⟩
  · rw [Access.run_bind_error _ _ _ hrun]
    exact Or.inl ⟨⟨f, rfl⟩, fun _ => rfl⟩

/-- An update is rejected and leaves the rows, or replaces a row such that the
merge fits. -/
theorem update_cases [Pattern.Engine] (slug id : String) (patch : Record)
    (hrows : Identified (s.rows slug)) :
    ((∃ f, ((c.procedure (.update slug id patch)).run host Outage.none s).1 =
        .error f) ∧
        ∀ t, ((c.procedure (.update slug id patch)).run
          host Outage.none s).2.rows t = s.rows t) ∨
      ((c.procedure (.update slug id patch)).run host Outage.none s).1 = .ok () ∧
        ∃ row ∈ s.rows slug, row.id? = some id ∧
        (c.rules slug).Fits s slug (.update id) (Dict.merge row patch) ∧
        ((c.procedure (.update slug id patch)).run host Outage.none s).2.rows
          slug =
          (s.rows slug).map (fun other =>
            if other.hasId id then row.patched patch host.stamp else other) ∧
        ∀ t, t ≠ slug →
          ((c.procedure (.update slug id patch)).run host Outage.none s).2.rows
            t = s.rows t := by
  rw [procedure,
    Access.run_bind_ok _ _ _ (Access.run_row? host Outage.none s rfl)]
  rcases s.update_cases host slug id patch hrows with
      ⟨hnone, -⟩ | ⟨row, hsome, hok, hmap, hother⟩
  · rw [hnone]
    exact Or.inl ⟨⟨_, rfl⟩, fun _ => rfl⟩
  · rw [hsome]
    obtain ⟨hmem, hid⟩ := s.find?_some hsome
    rcases (c.rules slug).validate_run (s := s) host with
        ⟨hfits, hrun⟩ | ⟨f, hrun⟩
    · dsimp only
      rw [Access.run_bind_ok _ _ _ hrun,
        Access.run_bind_ok _ _ _ (Access.run_patch host Outage.none s rfl)]
      exact Or.inr ⟨rfl, row, hmem, hid, hfits, hmap, hother⟩
    · dsimp only
      rw [Access.run_bind_error _ _ _ hrun]
      exact Or.inl ⟨⟨f, rfl⟩, fun _ => rfl⟩

/-- A removal is rejected and leaves the rows, or there is no row that its guard
looks for. -/
theorem delete_cases [Pattern.Engine] (slug id : String) :
    ((∃ f,
        ((c.procedure (.delete slug id)).run host Outage.none s).1 =
          .error f) ∧
        ∀ t, ((c.procedure (.delete slug id)).run host Outage.none s).2.rows
          t = s.rows t) ∨
      ((c.procedure (.delete slug id)).run host Outage.none s).1 = .ok () ∧
        (∀ d ∈ (c.guard slug).dependents, ∀ row ∈ s.rows d.entity,
          ∀ f ∈ d.fields, ¬ f.Holds row id) ∧
        ∀ t, ((c.procedure (.delete slug id)).run host Outage.none s).2.rows t =
          if t = slug then (s.rows slug).filter fun row => !row.hasId id
          else s.rows t := by
  have hok := DeleteGuard.check_ok_iff host Outage.none s id (g := c.guard slug)
      fun _ _ => rfl
  have hcheck := DeleteGuard.check_run host Outage.none s id (g := c.guard slug)
      fun _ _ => rfl
  rw [procedure, Access.run_bind, hcheck]
  rw [hcheck] at hok
  split at hok
  next hnone =>
    rw [if_pos hnone]
    dsimp only
    rw [Access.run_bind_ok _ _ _ (Access.run_remove host Outage.none s rfl)]
    exact Or.inr ⟨rfl, hok.mp rfl, s.rows_delete slug id⟩
  next hsome =>
    rw [if_neg hsome]
    exact Or.inl ⟨⟨_, rfl⟩, fun _ => rfl⟩

/-- A write that is rejected changes no row. -/
theorem rejected_rows [Pattern.Engine]
    {w : CheckedWrite} {f : Failure} (hs : ∀ slug, Identified (s.rows slug))
    (hrejected : ((c.procedure w).run host Outage.none s).1 = .error f)
    (t : String) :
    ((c.procedure w).run host Outage.none s).2.rows t = s.rows t := by
  have hnot : ((c.procedure w).run host Outage.none s).1 ≠ .ok () := by
    rw [hrejected]
    nofun
  cases w with
  | create slug data =>
      rcases c.create_cases host slug data with ⟨-, hrows⟩ | ⟨hok, -⟩
      · exact hrows t
      · exact absurd hok hnot
  | update slug id patch =>
      rcases c.update_cases host slug id patch (hs slug) with
          ⟨-, hrows⟩ | ⟨hok, -⟩
      · exact hrows t
      · exact absurd hok hnot
  | delete slug id =>
      rcases c.delete_cases host slug id with ⟨-, hrows⟩ | ⟨hok, -⟩
      · exact hrows t
      · exact absurd hok hnot

variable {c}

/-- **A checked write keeps a store sound.** -/
theorem step_sound [Pattern.Engine] (hc : c.Paired) (hs : s.Sound c.rules)
    (w : CheckedWrite) :
    ((c.procedure w).run host Outage.none s).2.Sound c.rules := by
  cases w with
  | create slug data =>
      rcases c.create_cases host slug data with
          ⟨-, hrows⟩ | ⟨-, hfits, id, hnew, hrows, hother⟩
      · exact hs.of_rows hrows
      · refine hs.write slug .create _ (Record.id?_stamped data id host.stamp)
          (fun _ hown => by cases hown)
          (hfits.congr fun r hr => Record.get?_stamped (hc.fields slug r hr))
            ?_ ?_ ?_ hother
        · rw [hrows]
          exact (hs.identified slug).append (Record.id?_stamped _ _ _) hnew
        · intro other hmem
          rw [hrows] at hmem
          rcases List.mem_append.mp hmem with hmem | hmem
          · exact Or.inr ⟨hmem, fun hid =>
              hnew (mem_idsOf_iff.mpr ⟨other, hmem, hid⟩)⟩
          · exact Or.inl (List.mem_singleton.mp hmem)
        · intro own hown
          rw [hrows, idsOf, List.filterMap_append]
          exact List.mem_append_left _ hown
  | update slug id patch =>
      rcases c.update_cases host slug id patch (hs.identified slug) with
        ⟨-, hrows⟩ | ⟨-, row, hmem, hid, hfits, hrows, hother⟩
      · exact hs.of_rows hrows
      · have hpatched : (row.patched patch host.stamp).id? = some id := by
          rw [Record.id?_patched, hid]
        have hkeep : ∀ other ∈ s.rows slug,
            (if other.hasId id then
                row.patched patch host.stamp else other).id? = other.id? := by
          intro other _
          split
          next hother =>
            rw [hpatched]
            have hotherId : other.id? = some id := by
              simpa [Record.hasId] using hother
            exact hotherId.symm
          next => rfl
        refine hs.write slug (.update id) _ hpatched
          (fun own hown => (Option.some.inj hown).symm)
          (hfits.congr fun r hr => Record.get?_patched (hc.fields slug r hr))
            ?_ ?_ ?_ hother
        · rw [hrows]
          exact (hs.identified slug).map hkeep
        · intro other hother
          rw [hrows] at hother
          obtain ⟨old, hold, rfl⟩ := List.mem_map.mp hother
          split
          next => exact Or.inl rfl
          next hnot => exact Or.inr ⟨hold, by simpa [Record.hasId] using hnot⟩
        · intro own hown
          obtain ⟨old, hold, hown⟩ := mem_idsOf_iff.mp hown
          rw [hrows]
          exact mem_idsOf_iff.mpr ⟨_, List.mem_map_of_mem hold,
            (hkeep old hold).trans hown⟩
  | delete slug id =>
      rcases c.delete_cases host slug id with ⟨-, hrows⟩ | ⟨-, hfree, hrows⟩
      · exact hs.of_rows hrows
      · refine hs.remove ?_ hrows
        intro t r hr htarget hne row hrow
        obtain ⟨d, hd, rfl, hf⟩ := hc.guarded t r hr slug htarget hne
        exact hfree d hd row hrow _ hf

/-- Every reachable store is sound. -/
theorem Reachable.sound [Pattern.Engine] (hc : c.Paired) (hs : c.Reachable s) :
    s.Sound c.rules := by
  induction hs with
  | empty => exact Store.Sound.empty
  | write host w _ ih => exact step_sound host hc ih w

/-- **Rows that were written with checks pass them again.** In every reachable
store every row has an identifier and, checked as an update of itself without
references to its own collection, no field error; and no write that was rejected
on the way has changed a row. -/
theorem Paired.recheck [Pattern.Engine] (hc : c.Paired) (hs : c.Reachable s) :
    (∀ slug, ∀ row ∈ s.rows slug, ∃ id, row.id? = some id ∧
      ∀ now, (((c.rules slug).withoutOwn slug).collectErrors
        slug row (.update id)).run now Outage.none s =
        (.ok [], s)) ∧
      ∀ w now f, ((c.procedure w).run now Outage.none s).1 = .error f →
        ∀ slug, ((c.procedure w).run now Outage.none s).2.rows slug =
          s.rows slug := by
  have hsound := hs.sound hc
  constructor
  · intro slug row hrow
    obtain ⟨id, hid⟩ :=
      Option.isSome_iff_exists.mp ((hsound.identified slug).id_isSome row hrow)
    refine ⟨id, hid, fun now => ?_⟩
    rw [RuleSet.collectErrors_run, (RuleSet.verdicts_eq_nil_iff_fits _).mpr
        (hsound.fits_withoutOwn hrow hid)]
  · intro w now f hrejected slug
    exact c.rejected_rows now hsound.identified hrejected slug

/-- A collection of items with unique codes, and orders that refer to items. -/
def itemChecks : Checks where
  rules slug :=
    if slug = "orders" then
      ⟨[{ field := "item_ids", label := "Items", kind :=
        .text, multiple := true, reference := some "items" }]⟩
    else ⟨[{ field := "code", label := "Code", kind :=
      .text, required := true, unique := true }]⟩
  guard slug := if slug = "items" then
    ⟨[⟨"orders", "id", [⟨"item_ids", true⟩]⟩]⟩ else ⟨[]⟩

/-- The rules and guards of items and orders belong together. -/
theorem itemChecks_paired : itemChecks.Paired where
  fields := by
    intro slug r hr
    simp only [itemChecks] at hr
    split at hr
    all_goals
      obtain rfl := List.mem_singleton.mp hr
      decide
  guarded := by
    intro slug r hr target htarget hne
    simp only [itemChecks] at hr
    split at hr
    next hslug =>
      obtain rfl := List.mem_singleton.mp hr
      obtain rfl := Option.some.inj htarget
      exact ⟨_, List.mem_singleton_self _, hslug.symm, List.mem_singleton_self _⟩
    next =>
      obtain rfl := List.mem_singleton.mp hr
      cases htarget

/-- An item, an order for it, a second item, and a removal of the first that is
rejected. -/
def itemWrites : List CheckedWrite :=
  [.create "items" [("code", .string "A"), ("id", .string "a")],
    .create "orders" [("id", .string "o"), ("item_ids", .array [.string "a"])],
    .create "items" [("code", .string "7"), ("id", .string "b")],
    .delete "items" "a"]

/-- Both items and the order stay, and pass their checks again. -/
theorem itemWrites_recheck :
    let s := itemChecks.after ⟨Calendar.Instant.ofDay 0, fun _ => ""⟩
        Store.empty itemWrites
    itemChecks.Paired ∧ itemChecks.Reachable s ∧
      (s.rows "items").map (·.id?) = [some "a", some "b"] ∧
      (s.rows "orders").map (·.id?) = [some "o"] ∧
      ∀ slug, ∀ row ∈ s.rows slug, ∃ id, row.id? = some id ∧
        ∀ now, (((itemChecks.rules slug).withoutOwn slug).collectErrors
          slug row (.update id)).run now
          Outage.none s = (.ok [], s) := by
  intro s
  have hreachable : itemChecks.Reachable s := Reachable.empty.after _ _
  exact ⟨itemChecks_paired, hreachable, by decide +kernel, by decide +kernel,
    (itemChecks_paired.recheck hreachable).1⟩

end Checks

end ServiceLoom
