import ServiceLoom.Pattern.Builtin
import ServiceLoom.Proofs.Service.Frame
import ServiceLoom.Proofs.Service.PaymentTerms

/-!
# Fragments that work in place

A fragment is given the incoming record to change it in place, and so it matters
what it has written when it fails.  `Fragment.call` does not say this, since its
answer is a record or a failure.  Here the same fragments are programs over a
`Workspace`, the record and the store, which they leave behind whatever they
answer; they write entries one by one and look at the record as it is by then.

* Every fragment does in place what its call does, and a failure leaves the
  record as it was, but for a due date that does not exist: then today has been
  filled in already (`Fragment.runOn_inPlace`).
* So a fragment before a write leaves the store, writes its targets only, and
  refuses before it writes (`Fragment.inPlace_frame`).
* A hook leaves the store and what none of its fragments aims at
  (`Service.runInPlace_frame`), and when it refuses, the record is as the
  fragments before the refusing one have left it (`Service.runInPlace_refused`).
-/

namespace ServiceLoom

/-- What a fragment works on. -/
structure Workspace where
  data : Record
  store : Store

/-- A program on a workspace.  A failure leaves the workspace as it is by
then. -/
abbrev InPlace (α : Type) := ExceptT Failure (StateM Workspace) α

namespace InPlace

variable {α β : Type}

/-- The answer of a program and the workspace that it leaves behind. -/
def runOn (p : InPlace α) (w : Workspace) :
    Except Failure α × Workspace := p.run.run w

/-- The record as it is now. -/
def record : InPlace Record := return (← get).data

/-- Writes an entry of the record. -/
def write (field : String) (value : Json) : InPlace Unit :=
  modify fun w => { w with data := w.data.insert field value }

/-- Refuses the request. -/
def refuse (e : ServiceError) : InPlace α := throw (.refused e)

/-- Runs a procedure on the store. -/
def ask (host : Host) (outage : Outage) (p : Access α) : InPlace α := do
  let (answer, store) := p.run host outage (← get).store
  modify fun w => { w with store }
  match answer with
  | .ok a => return a
  | .error f => throw f

/-! ## Runs -/

variable (w : Workspace)

/-- A sequence runs its parts one after the other. -/
theorem runOn_bind (p : InPlace α) (k : α → InPlace β) :
    (p >>= k).runOn w =
      match p.runOn w with
      | (.ok a, w) => (k a).runOn w
      | (.error f, w) => (.error f, w) := by
  unfold runOn
  rw [ExceptT.run_bind, StateT.run_bind]
  cases p.run.run w with
  | mk answer left =>
      cases answer with
      | ok a => rfl
      | error f => rfl

/-- What follows a read is given the record. -/
theorem runOn_record_bind (k : Record → InPlace α) :
    (record >>= k).runOn w = (k w.data).runOn w := by
  rw [runOn_bind]
  rfl

/-- A procedure answers as on the store, and leaves the record. -/
theorem runOn_ask (host : Host) (outage : Outage) (p : Access α) :
    (ask host outage p).runOn w =
      ((p.run host outage w.store).1,
        { w with store := (p.run host outage w.store).2 }) := by
  unfold ask
  rw [runOn_bind]
  show runOn (modify _ >>= _) w = _
  rw [runOn_bind]
  show runOn (match (p.run host outage w.store).1 with
      | .ok a => pure a | .error f => throw f) _ = _
  cases (p.run host outage w.store).1 with
  | ok a => rfl
  | error f => rfl

/-! ## Operations -/

/-- Refuses what a check refuses. -/
def check (e : Except ServiceError Unit) : InPlace Unit :=
  match e with
  | .ok () => return ()
  | .error e => refuse e

def setDefault (field : String) (value : Json) : InPlace Unit := do
  if ((← record).present? field).isSome then return () else write field value

def coerceNumber (field message : String) : InPlace Unit := do
  match (← record).present? field with
  | none => return ()
  | some v =>
    match v.numeric? with
    | none => refuse (.invalid field message)
    | some x => write field (.ofFloat x)

def normalizeText (field : String) (c : TextCase) : InPlace Unit := do
  match (← record).present? field with
  | none => return ()
  | some v => write field (.string (c.apply v.plainText))

def normalizeDate (field : String) : InPlace Unit := do
  match (← record).instant? field with
  | none => return ()
  | some t => write field (.string t.text)

def oneOf (field : String) (options : List String) (default : Option String)
    (message : String) : InPlace Unit := do
  let r ← record
  if isBlank (r.get? field) then
    match default with
    | some d => write field (.string d)
    | none => return ()
  else if options.contains (((r.get? field).map Json.plainText).getD "") then
    return ()
  else refuse (.invalid field message)

def nextSequence (host : Host) (outage : Outage) (slug field label : String)
    (width : Nat) (duplicateMessage : String) : InPlace Unit := do
  let r ← record
  if isBlank (r.get? field) then
    let next := Word64.succ
        (lastNumber label field (← ask host outage (Access.rows slug)))
    write field (.string (sequenceText label width next))
  else ask host outage (requireUnique slug r field none duplicateMessage)

def defaultToday (now : Calendar.Instant) (field : String) : InPlace Unit := do
  if isBlank ((← record).get? field) then write field (Record.dayValue now.day)
  else return ()

/-- Today is filled in before it is known whether there is a due date. -/
def dueDate (now : Calendar.Instant) (issue due : String) (days : Int) :
    InPlace Unit := do
  defaultToday now issue
  let r ← record
  if isBlank (r.get? due) then
    match r.instant? issue with
    | none => return ()
    | some t =>
      match Record.dayAfter? t days with
      | some day => write due (Record.dayValue day)
      | none => throw (.halted .calendarExceeded)
  else return ()

def invoiceTotals (taxRate : Float) : InPlace Unit := do
  let subtotal := (← record).amount "subtotal"
  let tax := Decimal.roundCents (subtotal * taxRate / 100)
  write "subtotal" (.ofFloat subtotal)
  write "tax_total" (.ofFloat tax)
  write "grand_total" (.ofFloat (Decimal.roundCents (subtotal + tax)))

def invoiceTotalsIfTouched (taxRate : Float) : InPlace Unit := do
  let r ← record
  if Record.totalFields.any fun f => Dict.contains r f then
    invoiceTotals taxRate
  else return ()

def lineTotal (existing : Option Record)
    (quantity unitPrice target message : String) : InPlace Unit := do
  let r ← record
  if existing.isSome && !(Dict.contains r quantity) &&
    !(Dict.contains r unitPrice) then return ()
  else
    match r.factor? existing quantity, r.factor? existing unitPrice with
    | some q, some p => write target (.ofFloat (Decimal.roundCents (q * p)))
    | _, _ => refuse (.invalid quantity message)

end InPlace

/-- What is left behind: the record of an answer, or the one that a failure
leaves. -/
def Workspace.after (failing : Record) : Except Failure Record × Store →
    Except Failure Unit × Workspace
  | (.ok data, store) => (.ok (), { data, store })
  | (.error f, store) => (.error f, { data := failing, store })

namespace InPlace

variable (host : Host) (outage : Outage) (w : Workspace)

/-- A program that asks and writes nothing leaves the record whatever the answer
is. -/
theorem runOn_ask_after (p : Access Unit) :
    (ask host outage p).runOn w =
      Workspace.after w.data ((p >>= fun _ => (pure w.data : Access Record)).run
        host outage w.store) := by
  rw [runOn_ask, Access.run_bind]
  cases p.run host outage w.store with
  | mk answer store =>
      cases answer with
      | ok a => rfl
      | error f => rfl

theorem runOn_check (e : Except ServiceError Unit) :
    (check e).runOn w =
      Workspace.after w.data ((Access.ofExcept e >>= fun _ =>
        (pure w.data : Access Record)).run host outage w.store) := by
  cases e with
  | ok a => rfl
  | error e => rfl

theorem runOn_setDefault (field : String) (value : Json) :
    (setDefault field value).runOn w =
      (.ok (), { w with data := w.data.setDefault field value }) := by
  unfold setDefault Record.setDefault
  rw [runOn_record_bind]
  split
  · rfl
  · rfl

theorem runOn_coerceNumber (field message : String) :
    (coerceNumber field message).runOn w =
      Workspace.after w.data ((Access.ofExcept
        (w.data.coerceNumber field message)).run host outage w.store) := by
  unfold coerceNumber Record.coerceNumber
  rw [runOn_record_bind]
  cases w.data.present? field with
  | none => rfl
  | some v =>
      dsimp only
      cases v.numeric? with
      | none => rfl
      | some x => rfl

theorem runOn_normalizeText (field : String) (c : TextCase) :
    (normalizeText field c).runOn w =
      (.ok (), { w with data := w.data.normalizeText field c }) := by
  unfold normalizeText Record.normalizeText
  rw [runOn_record_bind]
  cases w.data.present? field with
  | none => rfl
  | some v => rfl

theorem runOn_normalizeDate (field : String) :
    (normalizeDate field).runOn w =
      (.ok (), { w with data := w.data.normalizeDate field }) := by
  unfold normalizeDate Record.normalizeDate
  rw [runOn_record_bind]
  cases w.data.instant? field with
  | none => rfl
  | some t => rfl

theorem runOn_oneOf (field : String) (options : List String)
    (default : Option String) (message : String) :
    (oneOf field options default message).runOn w =
      Workspace.after w.data
        ((Access.ofExcept (w.data.oneOf field options default message)).run
          host outage w.store) := by
  unfold oneOf Record.oneOf
  rw [runOn_record_bind]
  split
  · cases default with
    | none => rfl
    | some d => rfl
  · split
    · rfl
    · rfl

theorem runOn_nextSequence (slug field label : String) (width : Nat)
    (message : String) :
    (nextSequence host outage slug field label width message).runOn w =
      Workspace.after w.data
        ((ServiceLoom.nextSequence slug w.data field label width message).run
          host outage w.store) := by
  unfold nextSequence ServiceLoom.nextSequence
  rw [runOn_record_bind]
  split
  · rw [runOn_bind, runOn_ask, Access.run_bind]
    cases (Access.rows slug).run host outage w.store with
    | mk answer store =>
        cases answer with
        | error f => rfl
        | ok rows => rfl
  · exact runOn_ask_after host outage w _

theorem runOn_defaultToday (now : Calendar.Instant) (field : String) :
    (defaultToday now field).runOn w =
      (.ok (), { w with data := w.data.defaultToday now field }) := by
  unfold defaultToday Record.defaultToday
  rw [runOn_record_bind]
  split
  · rfl
  · rfl

theorem runOn_dueDate (issue due : String) (days : Int) :
    (dueDate host.now issue due days).runOn w =
      Workspace.after (w.data.defaultToday host.now issue)
        ((ServiceLoom.dueDate w.data issue due days).run host outage
          w.store) := by
  rw [Record.run_dueDate]
  unfold dueDate Record.dueDate?
  rw [runOn_bind, runOn_defaultToday]
  dsimp only
  rw [runOn_record_bind]
  split
  · cases (w.data.defaultToday host.now issue).instant? issue with
    | none => rfl
    | some t =>
        dsimp only
        cases Record.dayAfter? t days with
        | none => rfl
        | some day => rfl
  · rfl

theorem runOn_invoiceTotals (taxRate : Float) :
    (invoiceTotals taxRate).runOn w =
      (.ok (), { w with data := w.data.invoiceTotals taxRate }) := rfl

theorem runOn_invoiceTotalsIfTouched (taxRate : Float) :
    (invoiceTotalsIfTouched taxRate).runOn w =
      (.ok (), { w with data := w.data.invoiceTotalsIfTouched taxRate }) := by
  unfold invoiceTotalsIfTouched Record.invoiceTotalsIfTouched
  rw [runOn_record_bind]
  split
  · rfl
  · rfl

theorem runOn_lineTotal (existing : Option Record)
    (quantity unitPrice target message : String) :
    (lineTotal existing quantity unitPrice target message).runOn w =
      Workspace.after w.data ((Access.ofExcept
        (w.data.lineTotal existing quantity unitPrice target message)).run
        host outage w.store) := by
  unfold lineTotal Record.lineTotal
  rw [runOn_record_bind]
  split
  · rfl
  · cases w.data.factor? existing quantity with
    | none => rfl
    | some q =>
        cases w.data.factor? existing unitPrice with
        | none => rfl
        | some p => rfl

end InPlace

/-! ## Fragments -/

namespace Fragment

open InPlace

/-- What a fragment does at a hook to the record that it finds. -/
def inPlace [Pattern.Engine] (sv : Service) (host : Host) (outage : Outage)
    (h : Hook) (x : Scope) : Fragment → InPlace Unit
  | fieldRules => do
    let x := { x with data := ← record }
    ask host outage (sv.rules.validate sv.slug (x.checked h) (x.mode h))
  | deleteGuard => ask host outage (sv.guard.check x.id)
  | defaultValue field value => setDefault field value
  | forceValue field value => write field value
  | coerceNumber field message => InPlace.coerceNumber field message
  | normalize field case => normalizeText field case
  | normalizeDate field => InPlace.normalizeDate field
  | require field message => do check ((← record).require field message)
  | rejectBlank field message => do check ((← record).rejectBlank field message)
  | requireAny fields message => do check ((← record).requireAny fields message)
  | atLeast field least message => do
      check ((← record).atLeast field least message)
  | fixedValue field value message => do
      check ((← record).fixedValue field value message)
  | unique field message => do
    ask host outage
      (requireUnique sv.slug (← record) field (x.mode h).ownId message)
  | oneOf field options default message =>
      InPlace.oneOf field options default message
  | checkDate field allowPast invalidMessage pastMessage => do
    check
      ((← record).checkDate host.now field allowPast invalidMessage pastMessage)
  | validDate field message => do check ((← record).validDate field message)
  | dateOrder start finish message => do
    let x := { x with data := ← record }
    check ((x.checked h).dateOrder start finish message)
  | sequence field label width message =>
      InPlace.nextSequence host outage sv.slug field label width message
  | dueDate issue due days => InPlace.dueDate host.now issue due days
  | invoiceTotals taxRate onlyIfTouched =>
    if onlyIfTouched then invoiceTotalsIfTouched taxRate
    else InPlace.invoiceTotals taxRate
  | lineTotal quantity unitPrice target message =>
    InPlace.lineTotal (if h.action = .update then some x.existing else none)
      quantity unitPrice target message
  | recalculateParent foreignKey parentSlug taxRate =>
    ask host outage (recalculateTotals sv.slug foreignKey
      parentSlug (x.parents h foreignKey) taxRate)
  | audit => ask host outage
    (ServiceLoom.audit h.action sv.slug
      (if h.action = .create then x.result.id?.getD "" else x.id))

/-- The record that a failure of a fragment leaves. -/
def failing (now : Calendar.Instant) (r : Record) : Fragment → Record
  | dueDate issue _ _ => r.defaultToday now issue
  | _ => r

variable (sv : Service) (host : Host) (outage : Outage) (h : Hook) (x : Scope)
    (w : Workspace)

/-- **In place a fragment does what its call does.** An answer is what the
record is then, and a failure leaves the record as it was, but for a due date
that does not exist. -/
theorem runOn_inPlace [Pattern.Engine] (φ : Fragment) :
    (φ.inPlace sv host outage h x).runOn w =
      Workspace.after (φ.failing host.now w.data)
        ((φ.call sv h { x with data := w.data }).run host outage w.store) := by
  cases φ with
  | fieldRules => exact runOn_ask_after host outage w _
  | deleteGuard => exact runOn_ask_after host outage w _
  | defaultValue field value => exact runOn_setDefault w field value
  | forceValue field value => rfl
  | coerceNumber field message =>
      exact runOn_coerceNumber host outage w field message
  | normalize field case => exact runOn_normalizeText w field case
  | normalizeDate field => exact runOn_normalizeDate w field
  | require field message => exact runOn_check host outage w _
  | rejectBlank field message => exact runOn_check host outage w _
  | requireAny fields message => exact runOn_check host outage w _
  | atLeast field least message => exact runOn_check host outage w _
  | fixedValue field value message => exact runOn_check host outage w _
  | unique field message => exact runOn_ask_after host outage w _
  | oneOf field options default message =>
      exact runOn_oneOf host outage w field options default message
  | checkDate field allowPast invalidMessage pastMessage =>
      exact runOn_check host outage w _
  | validDate field message => exact runOn_check host outage w _
  | dateOrder start finish message => exact runOn_check host outage w _
  | sequence field label width message =>
      exact runOn_nextSequence host outage w sv.slug field label width message
  | dueDate issue due days => exact runOn_dueDate host outage w issue due days
  | invoiceTotals taxRate onlyIfTouched =>
      cases onlyIfTouched with
      | false => exact runOn_invoiceTotals w taxRate
      | true => exact runOn_invoiceTotalsIfTouched w taxRate
  | lineTotal quantity unitPrice target message =>
      exact runOn_lineTotal host outage w _ quantity unitPrice target message
  | recalculateParent foreignKey parentSlug taxRate =>
      exact runOn_ask_after host outage w _
  | audit => exact runOn_ask_after host outage w _

/-- The answer of the call is the record as it is left, and the store is left
alike. -/
theorem run_call_of_inPlace [Pattern.Engine] (φ : Fragment) :
    (φ.call sv h { x with data := w.data }).run host outage w.store =
      (((φ.inPlace sv host outage h x).runOn w).1.map fun _ =>
        ((φ.inPlace sv host outage h x).runOn w).2.data,
        ((φ.inPlace sv host outage h x).runOn w).2.store) := by
  rw [runOn_inPlace]
  cases (φ.call sv h { x with data := w.data }).run host outage w.store with
  | mk answer store =>
      cases answer with
      | ok data => rfl
      | error f => rfl

variable {φ : Fragment}

/-- A fragment before a write leaves the store. -/
theorem store_inPlace [Pattern.Engine] (hφ : φ.precedesWrite = true) :
    ((φ.inPlace sv host outage h x).runOn w).2.store = w.store := by
  have hcall :=
    (φ.call_frame sv h { x with data := w.data } hφ).store host outage w.store
  rw [φ.run_call_of_inPlace] at hcall
  exact hcall

/-- A fragment before a write leaves what it does not aim at, also when it
fails. -/
theorem sameAt_inPlace [Pattern.Engine] (hφ : φ.precedesWrite = true)
    {key : String} (hkey : key ∉ φ.targets) :
    Dict.SameAt key w.data ((φ.inPlace sv host outage h x).runOn w).2.data := by
  obtain ⟨answer, hrun, hframe⟩ :=
    (φ.call_frame sv h { x with data := w.data } hφ).run_eq host outage w.store
  rw [runOn_inPlace, hrun]
  cases answer with
  | ok data => exact hframe data rfl key hkey
  | error f =>
      show Dict.SameAt key w.data (φ.failing host.now w.data)
      cases φ with
      | dueDate issue due days =>
          exact (w.data.rewritten_defaultToday host.now issue due).sameAt hkey
      | _ => exact Dict.SameAt.refl key w.data

/-- **What is refused has not been written**: the one fragment that writes
before it can fail never refuses. -/
theorem data_inPlace_of_refused [Pattern.Engine] {e : ServiceError}
    (hrefused :
      ((φ.inPlace sv host outage h x).runOn w).1 = .error (.refused e)) :
    ((φ.inPlace sv host outage h x).runOn w).2.data = w.data := by
  have hcall : ((φ.call sv h { x with data := w.data }).run
      host outage w.store).1 = .error (.refused e) := by
    rw [φ.run_call_of_inPlace, hrefused]
    rfl
  rw [runOn_inPlace]
  cases hrun :
      (φ.call sv h { x with data := w.data }).run host outage w.store with
  | mk answer store =>
      rw [hrun] at hcall
      cases hcall
      cases φ with
      | dueDate issue due days =>
          rw [call, Record.run_dueDate] at hrun
          split at hrun
          · cases hrun
          · cases hrun
      | _ => rfl

/-- **A fragment before a write works in place** without touching the store or
an entry of the record that it does not aim at, and if it refuses then it has
not touched the record at all.  Its answer, and the record when it answers, are
those of its call. -/
theorem inPlace_frame [Pattern.Engine] (hφ : φ.precedesWrite = true) :
    ∃ answer left, (φ.inPlace sv host outage h x).runOn w = (answer, left) ∧
      left.store = w.store ∧
      (∀ key ∉ φ.targets, Dict.SameAt key w.data left.data) ∧
      (∀ e, answer = .error (.refused e) → left.data = w.data) ∧
      (φ.call sv h { x with data := w.data }).run host outage w.store =
        (answer.map fun _ => left.data, left.store) :=
  ⟨_, _, rfl, store_inPlace sv host outage h x w hφ,
    fun _ => sameAt_inPlace sv host outage h x w hφ,
    fun _ => data_inPlace_of_refused sv host outage h x w,
      φ.run_call_of_inPlace sv host outage h x w⟩

/-- An item without a usable price, to be changed to a quantity of three. -/
def pricelessItem : Workspace := ⟨[("quantity", .ofNat 3)], Store.empty⟩

/-- The line total of the item is refused, and the change is as it was, without
a line total. -/
theorem pricelessItem_refused :
    let line := lineTotal "quantity" "unit_price" "line_total" "bad"
    let sv : Service := ⟨"items", ⟨[]⟩, ⟨[]⟩, []⟩
    let host : Host := ⟨.ofDay 0, fun k => toString k⟩
    let x : Scope := { id := "7", existing := [("unit_price", .string "many")] }
    line.precedesWrite = true ∧
      ∃ left, (line.inPlace sv host Outage.none .beforeUpdateValidation x).runOn
          pricelessItem =
          (.error (.refused (.invalid "quantity" "bad")), left) ∧
        left.store = Store.empty ∧ left.data = [("quantity", .ofNat 3)] := by
  intro line sv host x
  obtain ⟨answer, left, hrun, hstore, -, hrefused, hcall⟩ :=
    inPlace_frame sv host Outage.none .beforeUpdateValidation
      x pricelessItem (show line.precedesWrite = true from rfl)
  have hprice : ((line.inPlace sv host Outage.none
      .beforeUpdateValidation x).runOn pricelessItem).1 =
      .error (.refused (.invalid "quantity" "bad")) := by decide +kernel
  have hanswer : answer = .error (.refused (.invalid "quantity" "bad")) := by
    rw [← hprice, hrun]
  exact ⟨rfl, left, hanswer ▸ hrun, hstore, hrefused _ hanswer⟩

end Fragment

/-! ## Hooks -/

namespace Service

variable (sv : Service) (host : Host) (outage : Outage) (h : Hook)

/-- Runs fragments in place, one after the other. -/
def runInPlace [Pattern.Engine] (x : Scope) : List Fragment → InPlace Unit
  | [] => return ()
  | φ :: rest => do
    φ.inPlace sv host outage h x
    runInPlace x rest

/-- **Fragments in place do what their calls do**, one after the other. -/
theorem runOn_runInPlace [Pattern.Engine] (x : Scope)
    (fragments : List Fragment) (w : Workspace) :
    (sv.runFragments h fragments { x with data := w.data }).run
      host outage w.store =
      (((sv.runInPlace host outage h x fragments).runOn w).1.map fun _ =>
          ((sv.runInPlace host outage h x fragments).runOn w).2.data,
        ((sv.runInPlace host outage h x fragments).runOn w).2.store) := by
  induction fragments generalizing w with
  | nil => rfl
  | cons φ rest ih =>
      rw [runInPlace, InPlace.runOn_bind, runFragments,
        Access.run_bind, φ.run_call_of_inPlace]
      cases (φ.inPlace sv host outage h x).runOn w with
      | mk answer left =>
          cases answer with
          | error f => rfl
          | ok _ => exact ih left

/-- **Fragments before a write** leave the store and all that none of them aims
at, whether they answer or fail. -/
theorem runInPlace_frame [Pattern.Engine] (x : Scope) {fragments : List Fragment}
    (hfragments : ∀ φ ∈ fragments, φ.precedesWrite = true) (w : Workspace) :
    ((sv.runInPlace host outage h x fragments).runOn w).2.store = w.store ∧
      ∀ key, (∀ φ ∈ fragments, key ∉ φ.targets) →
        Dict.SameAt key w.data
          ((sv.runInPlace host outage h x fragments).runOn w).2.data := by
  induction fragments generalizing w with
  | nil => exact ⟨rfl, fun key _ => Dict.SameAt.refl key w.data⟩
  | cons φ rest ih =>
      obtain ⟨hφ, hrest⟩ := List.forall_mem_cons.mp hfragments
      have hstore := φ.store_inPlace sv host outage h x w hφ
      have hframe : ∀ key ∉ φ.targets, Dict.SameAt
          key w.data ((φ.inPlace sv host outage h x).runOn w).2.data :=
        fun _ => φ.sameAt_inPlace sv host outage h x w hφ
      rw [runInPlace, InPlace.runOn_bind]
      cases hrun : (φ.inPlace sv host outage h x).runOn w with
      | mk answer left =>
          rw [hrun] at hstore hframe
          cases answer with
          | error f =>
              exact ⟨hstore, fun key hkey =>
                hframe key (hkey φ List.mem_cons_self)⟩
          | ok _ =>
              obtain ⟨hafter, hsame⟩ := ih hrest left
              refine ⟨hafter.trans hstore, fun key hkey => ?_⟩
              obtain ⟨hfirst, hothers⟩ := List.forall_mem_cons.mp hkey
              exact (hframe key hfirst).trans (hsame key hothers)

/-- **A refused hook** has done what the fragments before the refusing one do,
and nothing else. -/
theorem runInPlace_refused [Pattern.Engine]
    (x : Scope) {fragments : List Fragment}
    (hfragments : ∀ φ ∈ fragments, φ.precedesWrite = true)
    {w left : Workspace} {e : ServiceError}
    (hrefused : (sv.runInPlace host outage h x fragments).runOn w =
      (.error (.refused e), left)) :
    ∃ front φ back, fragments = front ++ φ :: back ∧
      (sv.runInPlace host outage h x front).runOn w = (.ok (), left) ∧
      (φ.inPlace sv host outage h x).runOn left =
        (.error (.refused e), left) := by
  induction fragments generalizing w with
  | nil => cases hrefused
  | cons φ rest ih =>
      obtain ⟨hφ, hrest⟩ := List.forall_mem_cons.mp hfragments
      rw [runInPlace, InPlace.runOn_bind] at hrefused
      cases hrun : (φ.inPlace sv host outage h x).runOn w with
      | mk answer next =>
          rw [hrun] at hrefused
          cases answer with
          | error f =>
              obtain ⟨hf, hnext⟩ := Prod.mk.inj hrefused
              obtain rfl : f = .refused e := Except.error.inj hf
              -- refusing leaves the record, and the store is left in any case
              have hdata := φ.data_inPlace_of_refused
                  sv host outage h x w (congrArg Prod.fst hrun)
              have hstore := φ.store_inPlace sv host outage h x w hφ
              rw [hrun] at hdata hstore
              have hsame : next = w := congrArg₂ Workspace.mk hdata hstore
              exact ⟨[], φ, rest, rfl, by
                rw [← hnext, hsame]; rfl, by rw [← hnext, hsame, hrun, hsame]⟩
          | ok _ =>
              obtain ⟨front, ψ, back, hsplit, hfront, hlast⟩ :=
                ih hrest hrefused
              refine ⟨φ :: front, ψ, back, by rw [hsplit]; rfl, ?_, hlast⟩
              rw [runInPlace, InPlace.runOn_bind, hrun]
              exact hfront

end Service

end ServiceLoom
