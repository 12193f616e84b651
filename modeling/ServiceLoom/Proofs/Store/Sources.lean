import ServiceLoom.Store.Access

/-!
# Sources of rows

A source says for every collection which rows a read of it answers, or why there
is no answer.  Nothing ties the collections of a source together, and reading
changes nothing; a store whose reads may fail is one (`Store.read`).

A procedure that asks for rows and nothing else has an answer from a source
(`Access.answerFrom`), and it answers alike when it is run on a store that the
source describes (`run_of_answerFrom`).
-/

namespace ServiceLoom

/-- The rows of every collection, or why they cannot be read. -/
abbrev Source := String → Except Failure (List Record)

/-- The answer to a read of a collection. -/
def Store.read (s : Store) (outage : Outage) (slug : String) :
    Except Failure (List Record) :=
  if outage .findAll slug then .error (Call.findAll.failure slug)
  else .ok (s.rows slug)

namespace Access

variable {α β : Type}

/-- What a procedure answers when its reads are answered from a source. A
procedure that calls for anything else has no answer. -/
def answerFrom (src : Source) : Access α → Option (Except Failure α)
  | done a => some (.ok a)
  | stopped f => some (.error f)
  | findAll slug next =>
    match src slug with
    | .ok rows => (next rows).answerFrom src
    | .error f => some (.error f)
  | clock _ => none
  | findById _ _ _ => none
  | create _ _ _ => none
  | update _ _ _ _ => none
  | delete _ _ _ => none

variable {src : Source}

@[simp] theorem answerFrom_done (a : α) :
    (done a).answerFrom src = some (.ok a) := rfl

/-- A sequence whose first part answers goes on with the answer. -/
theorem answerFrom_bind_ok {p : Access α} {k : α → Access β} {a : α}
    (hp : p.answerFrom src = some (.ok a)) :
    (p >>= k).answerFrom src = (k a).answerFrom src := by
  show (p.bind k).answerFrom src = _
  induction p with
  | done b =>
      obtain rfl : b = a := by simpa using hp
      rfl
  | stopped f => simp [answerFrom] at hp
  | findAll slug next ih =>
      rw [answerFrom] at hp
      rw [bind, answerFrom]
      cases hread : src slug with
      | error f => simp [hread] at hp
      | ok rows =>
          rw [hread] at hp
          exact ih rows hp
  | _ => cases hp

/-- A sequence whose first part fails ends there. -/
theorem answerFrom_bind_error {p : Access α} {k : α → Access β} {f : Failure}
    (hp : p.answerFrom src = some (.error f)) :
    (p >>= k).answerFrom src = some (.error f) := by
  show (p.bind k).answerFrom src = _
  induction p with
  | done b => simp at hp
  | stopped g =>
      obtain rfl : g = f := by simpa [answerFrom] using hp
      rfl
  | findAll slug next ih =>
      rw [answerFrom] at hp
      rw [bind, answerFrom]
      cases hread : src slug with
      | error g => simpa [hread] using hp
      | ok rows =>
          rw [hread] at hp
          exact ih rows hp
  | _ => cases hp

/-- **A procedure that only reads answers on a store as from the source that the
store is**, and leaves it. -/
theorem run_of_answerFrom {p : Access α} {outage : Outage} {s : Store}
    {answer : Except Failure α} (hp : p.answerFrom (s.read outage) = some answer)
    (h : Host) : p.run h outage s = (answer, s) := by
  induction p with
  | done a =>
      obtain rfl : Except.ok a = answer := by simpa using hp
      rfl
  | stopped f =>
      obtain rfl : Except.error f = answer := by simpa [answerFrom] using hp
      rfl
  | findAll slug next ih =>
      rw [answerFrom, Store.read] at hp
      rw [run]
      split at hp
      next rows hread =>
        split at hread
        · cases hread
        next hok =>
          obtain rfl := Except.ok.inj hread
          rw [if_neg hok]
          exact ih _ hp
      next f hread =>
        split at hread
        next hfail =>
          obtain rfl := Except.error.inj hread
          obtain rfl := Option.some.inj hp
          rw [if_pos hfail]
        · cases hread
  | _ => cases hp

end Access

end ServiceLoom
