import ServiceLoom.Store.Access

/-!
# Runs in which single calls fail

An outage names the calls that fail by what they ask for.  Faults name them by
their turn: the first call of a run, the second, and so on.  A call that fails
does nothing else, and it is the last one of the run (`Access.runWith`).

For a run with an outage there are faults that do the same to it
(`Access.exists_faults`).  So what holds of a run whatever the faults holds of
it whatever the outage.
-/

namespace ServiceLoom

/-- Which calls of a run fail, from the first on. -/
abbrev Faults := Nat → Bool

/-- The faults from the second call on. -/
def Faults.rest (faults : Faults) : Faults := fun n => faults (n + 1)

namespace Access

variable {α β : Type} (h : Host)

/-- Runs a procedure on a store when the calls fail that the faults say.  Asking
for the time is no call. -/
def runWith : Faults → Access α → Store → Except Failure α × Store
  | _, done a, s => (.ok a, s)
  | _, stopped f, s => (.error f, s)
  | faults, clock next, s => (next h.now).runWith faults s
  | faults, findAll slug next, s =>
    if faults 0 then (.error (Call.findAll.failure slug), s)
    else (next (s.rows slug)).runWith faults.rest s
  | faults, findById slug id next, s =>
    if faults 0 then (.error (Call.findById.failure slug), s)
    else (next (s.find? slug id)).runWith faults.rest s
  | faults, create slug data next, s =>
    if faults 0 then (.error (Call.create.failure slug), s)
    else match s.create h slug data with
      | (.ok row, s) => (next row).runWith faults.rest s
      | (.error e, s) => (.error (.refused e), s)
  | faults, update slug id patch next, s =>
    if faults 0 then (.error (Call.update.failure slug), s)
    else (next (s.update h slug id patch).1).runWith
      faults.rest (s.update h slug id patch).2
  | faults, delete slug id next, s =>
    if faults 0 then (.error (Call.delete.failure slug), s)
    else (next (s.delete slug id).1).runWith faults.rest (s.delete slug id).2

/-! ## Sequences that begin with a call -/

variable {h} {faults : Faults} {s : Store} {slug id : String}

theorem runWith_row?_bind (k : Option Record → Access β) :
    (row? slug id >>= k).runWith h faults s =
      if faults 0 then (.error (Call.findById.failure slug), s)
      else (k (s.find? slug id)).runWith h faults.rest s := rfl

theorem runWith_matching_bind (filter : Record) (k : List Record → Access β) :
    (matching slug filter >>= k).runWith h faults s =
      if faults 0 then (.error (Call.findAll.failure slug), s)
      else (k ((s.rows slug).filter (agrees filter))).runWith h faults.rest s :=
  rfl

theorem runWith_patch_bind (data : Record) (k : Option Record → Access β) :
    (patch slug id data >>= k).runWith h faults s =
      if faults 0 then (.error (Call.update.failure slug), s)
      else (k (s.update h slug id data).1).runWith
        h faults.rest (s.update h slug id data).2 := rfl

theorem runWith_insert_bind (data : Record) (k : Record → Access β) :
    (insert slug data >>= k).runWith h faults s =
      if faults 0 then (.error (Call.create.failure slug), s)
      else match s.create h slug data with
        | (.ok row, s) => (k row).runWith h faults.rest s
        | (.error e, s) => (.error (.refused e), s) := by
  show (create slug data k).runWith h faults s = _
  rw [runWith]

/-! ## Outages -/

/-- A first call that fails or not, and faults for the calls after it. -/
def faultsFrom (first : Bool) (rest : Faults) : Faults
  | 0 => first
  | n + 1 => rest n

/-- **An outage does to a run what some faults do.** -/
theorem exists_faults (h : Host) (outage : Outage) (p : Access α) (s : Store) :
    ∃ faults, p.runWith h faults s = p.run h outage s := by
  -- A call that the outage names gets a fault, and any other call the faults of
  -- what follows it.
  induction p generalizing s with
  | done a => exact ⟨fun _ => false, rfl⟩
  | stopped f => exact ⟨fun _ => false, rfl⟩
  | clock next ih => exact ih h.now s
  | findAll slug next ih =>
      obtain ⟨rest, hrest⟩ := ih (s.rows slug) s
      refine ⟨faultsFrom (outage .findAll slug) rest, ?_⟩
      rw [run, ← hrest]
      rfl
  | findById slug id next ih =>
      obtain ⟨rest, hrest⟩ := ih (s.find? slug id) s
      refine ⟨faultsFrom (outage .findById slug) rest, ?_⟩
      rw [run, ← hrest]
      rfl
  | create slug data next ih =>
      cases hcreate : s.create h slug data with
      | mk answer left =>
          cases answer with
          | error e =>
              refine ⟨faultsFrom (outage .create slug) fun _ => false, ?_⟩
              rw [run, runWith, hcreate]
              rfl
          | ok row =>
              obtain ⟨rest, hrest⟩ := ih row left
              refine ⟨faultsFrom (outage .create slug) rest, ?_⟩
              rw [run, runWith, hcreate]
              dsimp only
              rw [← hrest]
              rfl
  | update slug id patch next ih =>
      obtain ⟨rest, hrest⟩ :=
        ih (s.update h slug id patch).1 (s.update h slug id patch).2
      refine ⟨faultsFrom (outage .update slug) rest, ?_⟩
      rw [run, ← hrest]
      rfl
  | delete slug id next ih =>
      obtain ⟨rest, hrest⟩ := ih (s.delete slug id).1 (s.delete slug id).2
      refine ⟨faultsFrom (outage .delete slug) rest, ?_⟩
      rw [run, ← hrest]
      rfl

end Access

end ServiceLoom
