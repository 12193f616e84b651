import ServiceLoom.Proofs.Record.Order
import ServiceLoom.Proofs.Service.Placement

/-!
# What a request does

A request first prepares its write, which only reads, then writes once, and then
runs the hook after the write. So it is refused and leaves the store as it is,
or the store answers the write, and what the last hook does is all that follows
(`Placed.after_create`, `Placed.after_update`, `Placed.after_delete`).
-/

namespace ServiceLoom

/-- A row that is found is removed. -/
theorem Store.delete_fst_of_find? {s : Store} {slug id : String} {row : Record}
    (h : s.find? slug id = some row) : (s.delete slug id).1 = true := by
  obtain ⟨hmem, hid⟩ := s.find?_some h
  unfold Store.delete
  split
  next hnone => simp [Store.rows, hnone] at hmem
  next rows hsome =>
    have hrow : row ∈ rows := by simpa [Store.rows, hsome] using hmem
    have hkept : (rows.filter fun row => !row.hasId id).length ≠
        rows.length := by
      intro heq
      have hall := List.length_filter_eq_length_iff.mp heq row hrow
      simp [Record.hasId, hid] at hall
    simpa using hkept

namespace Service

/-- A request whose record, if it brings one, lists each field once. -/
def Request.Ordered : Request → Prop
  | create body | update _ body => Dict.Ordered body
  | delete _ => True

variable {sv : Service} {host : Host} {s : Store}

/-- Before a write the fragments of a hook only read. -/
theorem Placed.runHook_frame [Pattern.Engine] (hsv : sv.Placed) {h : Hook}
    (hprecedes : h.followsWrite = false) (x : Scope) :
    (sv.runHook h x).Reads fun data =>
      ∀ key, (∀ φ ∈ sv.fragmentsAt h, key ∉ φ.targets) →
        Dict.SameAt key x.data data :=
  sv.runFragments_frame h (hsv.precedesWrite hprecedes) x

/-- Preparing a creation only reads. -/
theorem Placed.prepareCreate_reads [Pattern.Engine] (hsv : sv.Placed)
    (body : Record) : (sv.prepareCreate body).Reads fun _ => True :=
  (hsv.runHook_frame rfl _).bind fun _ _ =>
    ⟨(hsv.runHook_frame rfl _).store, fun _ _ _ _ _ => trivial⟩

/-- Preparing an update only reads. -/
theorem Placed.prepareUpdate_reads [Pattern.Engine] (hsv : sv.Placed)
    (id : String) (existing body : Record) :
    (sv.prepareUpdate id existing body).Reads fun _ => True :=
  ⟨(hsv.runHook_frame rfl _).store, fun _ _ _ _ _ => trivial⟩

/-- What an update makes of a record that lists each field once does so, too. -/
theorem Placed.ordered_prepareUpdate [Pattern.Engine] (hsv : sv.Placed)
    {id : String} {existing body data : Record} (hbody : Dict.Ordered body)
    (hrun : ((sv.prepareUpdate id existing body).run host Outage.none s).1 =
      .ok data) : Dict.Ordered data :=
  (sv.runFragments_keeps .beforeUpdateValidation
    (fun _ key value hr => hr.insert key value)
    (hsv.precedesWrite rfl) hbody).answer host Outage.none s data hrun

/-- What a service answers after a hook does not matter for the store. -/
theorem run_runHook_return [Pattern.Engine] {α : Type} (h : Hook)
    (x : Scope) (a : α) :
    ((sv.runHook h x >>= fun _ => (pure a : Access α)).run host Outage.none s).2 =
      ((sv.runHook h x).run host Outage.none s).2 := by
  rw [Access.run_bind]
  cases (sv.runHook h x).run host Outage.none s with
  | mk answer left => cases answer <;> rfl

/-- **A creation** is refused before its write or by the store, or a row is
inserted and the hook after the creation runs. -/
theorem Placed.after_create [Pattern.Engine] (hsv : sv.Placed) (host : Host)
    (s : Store) (body : Record) :
    ((∃ f, ((sv.prepareCreate body).run host Outage.none s).1 = .error f) ∧
        sv.after host s (.create body) = s) ∨
      ∃ data, ((sv.prepareCreate body).run host Outage.none s).1 = .ok data ∧
        ((∃ e, (s.create host sv.slug data).1 = .error e) ∧
            sv.after host s (.create body) = (s.create host sv.slug data).2 ∨
          ∃ result, (s.create host sv.slug data).1 = .ok result ∧
            sv.after host s (.create body) =
              ((sv.runHook .afterCreateLogging { data, result }).run host
              Outage.none (s.create host sv.slug data).2).2) := by
  obtain ⟨answer, hprepare, -⟩ :=
    (hsv.prepareCreate_reads body).run_eq host Outage.none s
  rw [after, Service.create, Access.run_bind, hprepare]
  cases answer with
  | error f => exact Or.inl ⟨⟨f, rfl⟩, rfl⟩
  | ok data =>
      refine Or.inr ⟨data, rfl, ?_⟩
      dsimp only
      rw [Access.run_bind, Access.run_insert _ _ _ rfl]
      cases hcreate : (s.create host sv.slug data).1 with
      | error e => exact Or.inl ⟨⟨e, rfl⟩, rfl⟩
      | ok result => exact Or.inr ⟨result, rfl, run_runHook_return _ _ _⟩

/-- **An update** is refused before its write, or a row is patched and the hook
after the update runs. -/
theorem Placed.after_update [Pattern.Engine] (hsv : sv.Placed) (host : Host)
    (s : Store) (id : String) (body : Record) :
    (((s.find? sv.slug id = none) ∨
          ∃ existing f, s.find? sv.slug id = some existing ∧
          ((sv.prepareUpdate id existing body).run host Outage.none s).1 =
            .error f) ∧
        sv.after host s (.update id body) = s) ∨
      ∃ existing data, s.find? sv.slug id = some existing ∧
        ((sv.prepareUpdate id existing body).run host Outage.none s).1 =
          .ok data ∧
        sv.after host s (.update id body) = ((sv.runHook .afterUpdateLogging
          { data, id, existing,
            result := existing.patched data host.stamp }).run host Outage.none
            (s.update host sv.slug id data).2).2 := by
  rw [after, Service.update, Service.get, Access.run_bind,
    Access.run_bind, Access.run_row? _ _ _ rfl]
  cases hfind : s.find? sv.slug id with
  | none => exact Or.inl ⟨Or.inl rfl, rfl⟩
  | some existing =>
      obtain ⟨answer, hprepare, -⟩ :=
        (hsv.prepareUpdate_reads id existing body).run_eq host Outage.none s
      dsimp only
      rw [Access.run_pure]
      dsimp only
      rw [Access.run_bind, hprepare]
      cases answer with
      | error f =>
          exact Or.inl
            ⟨Or.inr ⟨existing, f, rfl, congrArg Prod.fst hprepare⟩, rfl⟩
      | ok data =>
          refine Or.inr ⟨existing, data, rfl, congrArg Prod.fst hprepare, ?_⟩
          have hupdate : (s.update host sv.slug id data).1 =
              some (existing.patched data host.stamp) := by
            rw [Store.update, hfind]
          dsimp only
          rw [Access.run_bind, Access.run_patch _ _ _ rfl, hupdate]
          exact run_runHook_return _ _ _

/-- **A removal** is refused before its write, or a row is removed and the hook
after the removal runs. -/
theorem Placed.after_delete [Pattern.Engine] (hsv : sv.Placed) (host : Host)
    (s : Store) (id : String) :
    sv.after host s (.delete id) = s ∨
      ∃ existing, s.find? sv.slug id = some existing ∧
        sv.after host s (.delete id) =
          ((sv.runHook .afterDeleteLogging { id, existing }).run host
          Outage.none (s.delete sv.slug id).2).2 := by
  rw [after, Service.delete, Service.get, Access.run_bind,
    Access.run_bind, Access.run_row? _ _ _ rfl]
  cases hfind : s.find? sv.slug id with
  | none => exact Or.inl rfl
  | some existing =>
      obtain ⟨answer, hcheck, -⟩ :=
        (hsv.runHook_frame (h := .beforeDeleteValidation) rfl
          { id, existing }).run_eq host Outage.none s
      dsimp only
      rw [Access.run_pure]
      dsimp only
      rw [Access.run_bind, hcheck]
      cases answer with
      | error f => exact Or.inl rfl
      | ok data =>
          refine Or.inr ⟨existing, rfl, ?_⟩
          dsimp only
          rw [Access.run_bind, Access.run_remove _ _ _ rfl,
            Store.delete_fst_of_find? hfind]
          exact run_runHook_return _ _ _

end Service

end ServiceLoom
