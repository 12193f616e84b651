import ServiceLoom.Proofs.Store.Runs
import Mathlib.Logic.Function.Basic

/-!
# Procedures in turn

A store serves one call at a time, and between two calls of one procedure there
may be calls of others.  A turn of a procedure is one call of it and what
follows the answer, up to the next call (`Access.turn`).  Turns make up a run
(`Access.run_turn`), and clients that share a store take them in any order
(`Shared.play`).
-/

namespace ServiceLoom

namespace Access

variable {α : Type} (h : Host) (outage : Outage)

/-- One call of a procedure: what is left of the procedure, and the store.
Asking for the time is no call. -/
def turn : Access α → Store → Access α × Store
  | done a, s => (done a, s)
  | stopped f, s => (stopped f, s)
  | clock next, s => (next h.now).turn s
  | findAll slug next, s =>
    if outage .findAll slug then (stopped (Call.findAll.failure slug), s)
    else (next (s.rows slug), s)
  | findById slug id next, s =>
    if outage .findById slug then (stopped (Call.findById.failure slug), s)
    else (next (s.find? slug id), s)
  | create slug data next, s =>
    if outage .create slug then (stopped (Call.create.failure slug), s)
    else match s.create h slug data with
      | (.ok row, s) => (next row, s)
      | (.error e, s) => (stopped (.refused e), s)
  | update slug id patch next, s =>
    if outage .update slug then (stopped (Call.update.failure slug), s)
    else (next (s.update h slug id patch).1, (s.update h slug id patch).2)
  | delete slug id next, s =>
    if outage .delete slug then (stopped (Call.delete.failure slug), s)
    else (next (s.delete slug id).1, (s.delete slug id).2)

/-- **A run goes on after a turn as it would have without it.** -/
theorem run_turn (p : Access α) (s : Store) :
    (p.turn h outage s).1.run h outage (p.turn h outage s).2 =
      p.run h outage s := by
  induction p generalizing s with
  | done a => rfl
  | stopped f => rfl
  | clock next ih => exact ih h.now s
  | findAll slug next =>
      simp only [turn, run]
      split <;> rfl
  | findById slug id next =>
      simp only [turn, run]
      split <;> rfl
  | create slug data next =>
      simp only [turn, run]
      split
      · rfl
      · cases s.create h slug data with
        | mk answer left => cases answer <;> rfl
  | update slug id patch next =>
      simp only [turn, run]
      split <;> rfl
  | delete slug id next =>
      simp only [turn, run]
      split <;> rfl

end Access

/-- Clients with a procedure each, and the store that they share. -/
structure Shared (ι α : Type) where
  procedure : ι → Access α
  store : Store

namespace Shared

variable {ι α : Type} [DecidableEq ι] (p : Shared ι α)

/-- A client takes a turn, at a time. -/
def step (turn : ι × Host) : Shared ι α where
  procedure := Function.update p.procedure turn.1
    ((p.procedure turn.1).turn turn.2 Outage.none p.store).1
  store := ((p.procedure turn.1).turn turn.2 Outage.none p.store).2

/-- Clients take turns. -/
def play (schedule : List (ι × Host)) : Shared ι α := schedule.foldl step p

/-- What is left of the procedure of the client that takes a turn. -/
@[simp] theorem procedure_step_self (c : ι) (h : Host) :
    (p.step (c, h)).procedure c =
      ((p.procedure c).turn h Outage.none p.store).1 :=
  Function.update_self _ _ _

/-- The procedures of the others are as they were. -/
theorem procedure_step_of_ne {c d : ι} (hne : d ≠ c) (h : Host) :
    (p.step (c, h)).procedure d = p.procedure d :=
  Function.update_of_ne hne _ _

@[simp] theorem store_step (c : ι) (h : Host) :
    (p.step (c, h)).store = ((p.procedure c).turn h Outage.none p.store).2 :=
  rfl

/-- **A client that takes turns alone**, at one time, until it has an answer has
run its procedure. -/
theorem run_of_play_alone {c : ι} {h : Host} {a : α} {n : Nat}
    (hdone : (p.play (List.replicate n (c, h))).procedure c = .done a) :
    (p.procedure c).run h Outage.none p.store =
      (.ok a, (p.play (List.replicate n (c, h))).store) := by
  induction n generalizing p with
  | zero =>
      show (p.procedure c).run h Outage.none p.store = (.ok a, p.store)
      rw [show p.procedure c = .done a from hdone]
      rfl
  | succ n ih =>
      rw [← Access.run_turn]
      have hrest := ih (p.step (c, h)) hdone
      rwa [procedure_step_self, store_step] at hrest

end Shared

end ServiceLoom
