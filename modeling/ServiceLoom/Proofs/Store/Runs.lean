import ServiceLoom.Store.Access

/-!
# Runs of procedures

A run follows a procedure call by call.  The laws here let later proofs take a
run apart at a `do` step without looking at calls again: a sequence runs its
first part and then, on the store that this leaves, its second; a failure ends
the run and keeps that store.
-/

namespace ServiceLoom.Access

variable {α β : Type} (h : Host) (outage : Outage) (s : Store)

/-- **A sequence runs its parts one after the other.** -/
theorem run_bind (p : Access α) (k : α → Access β) :
    (p >>= k).run h outage s =
      match p.run h outage s with
      | (.ok a, s) => (k a).run h outage s
      | (.error f, s) => (.error f, s) := by
  show (p.bind k).run h outage s = _
  induction p generalizing s with
  | done a => rfl
  | stopped f => rfl
  | clock next ih => exact ih _ s
  | findAll slug next ih =>
      simp only [bind, run]
      split
      · rfl
      · exact ih _ s
  | findById slug id next ih =>
      simp only [bind, run]
      split
      · rfl
      · exact ih _ s
  | create slug data next ih =>
      simp only [bind, run]
      split
      · rfl
      · split
        · exact ih _ _
        · rfl
  | update slug id patch next ih =>
      simp only [bind, run]
      split
      · rfl
      · exact ih _ _
  | delete slug id next ih =>
      simp only [bind, run]
      split
      · rfl
      · exact ih _ _

@[simp] theorem run_done (a : α) : (done a).run h outage s = (.ok a, s) := rfl

@[simp] theorem run_pure (a : α) :
    (pure a : Access α).run h outage s = (.ok a, s) := rfl

@[simp] theorem run_refuse (e : ServiceError) :
    (refuse e : Access α).run h outage s = (.error (.refused e), s) := rfl

/-- A step without a store answers as it says. -/
theorem eq_ok_of_run_ofExcept {e : Except ServiceError α} {a : α}
    (hrun : ((ofExcept e).run h outage s).1 = .ok a) : e = .ok a := by
  cases e with
  | error e => cases hrun
  | ok b => exact congrArg _ (Except.ok.inj hrun)

/-- A sequence whose first part answers goes on with the answer. -/
theorem run_bind_ok {p : Access α} {k : α → Access β} {a : α} {s' : Store}
    (hp : p.run h outage s = (.ok a, s')) :
    (p >>= k).run h outage s = (k a).run h outage s' := by
  rw [run_bind, hp]

/-- A sequence whose first part fails ends there. -/
theorem run_bind_error {p : Access α} {k : α → Access β} {f : Failure}
    {s' : Store} (hp : p.run h outage s = (.error f, s')) :
    (p >>= k).run h outage s = (.error f, s') := by
  rw [run_bind, hp]

/-- A read that does not fail answers with the rows and leaves the store. -/
theorem run_rows {slug : String} (hread : outage .findAll slug = false) :
    (rows slug).run h outage s = (.ok (s.rows slug), s) := by
  simp [rows, run, hread]

/-- A filtered read that does not fail answers with the rows that agree, and
leaves the store. -/
theorem run_matching {slug : String} {filter : Record}
    (hread : outage .findAll slug = false) :
    (matching slug filter).run h outage s =
      (.ok ((s.rows slug).filter (agrees filter)), s) :=
  run_bind_ok h outage s (run_rows h outage s hread)

/-- A look-up that does not fail answers with the row, if there is one, and
leaves the store. -/
theorem run_row? {slug id : String} (hread : outage .findById slug = false) :
    (row? slug id).run h outage s = (.ok (s.find? slug id), s) := by
  simp [row?, run, hread]

/-- An insertion that does not fail is that of the store. -/
theorem run_insert {slug : String} {data : Record}
    (hwrite : outage .create slug = false) :
    (insert slug data).run h outage s =
      ((s.create h slug data).1.mapError .refused, (s.create h slug data).2) := by
  simp only [insert, run, hwrite, Bool.false_eq_true, if_false]
  cases s.create h slug data with
  | mk answer left => cases answer <;> rfl

/-- A patch that does not fail is that of the store. -/
theorem run_patch {slug id : String} {data : Record}
    (hwrite : outage .update slug = false) :
    (patch slug id data).run h outage s =
      (.ok (s.update h slug id data).1, (s.update h slug id data).2) := by
  simp [patch, run, hwrite]

/-- A removal that does not fail is that of the store. -/
theorem run_remove {slug id : String} (hwrite : outage .delete slug = false) :
    (remove slug id).run h outage s =
      (.ok (s.delete slug id).1, (s.delete slug id).2) := by
  simp [remove, run, hwrite]

end ServiceLoom.Access
