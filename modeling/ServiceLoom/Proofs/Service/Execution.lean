import ServiceLoom.Generation.Files
import ServiceLoom.Operation.Dates
import ServiceLoom.Operation.Invoices
import ServiceLoom.Operation.Stock
import ServiceLoom.Proofs.Store.Runs
import ServiceLoom.Rule.Check

/-!
# What a generated service does

The text of a service is fixed but for the fragments that are woven into it.
Here the same service is a procedure: every fragment is the call that its text
makes, with what is in scope where it stands, and create, update and delete run
the fragments of their hooks in weaving order, around the one write of the
skeleton.

A service is used by requests, each at a time of its own.  What requests can
lead to from an empty store are the reachable stores of the service.
-/

namespace ServiceLoom

/-- What is in scope where a fragment stands. At a hook where something is not
in scope it is empty. -/
structure Scope where
  /-- The incoming record, which fragments may change. -/
  data : Record := []
  id : String := ""
  /-- The stored row before an update or removal. -/
  existing : Record := []
  /-- The stored row after a creation or update. -/
  result : Record := []

namespace Scope

/-- What the rules check at a hook: on update the stored row with the
changes. -/
def checked (x : Scope) (h : Hook) : Record :=
  if h.action = .update then Dict.merge x.existing x.data else x.data

/-- How the rules check it. -/
def mode (x : Scope) (h : Hook) : WriteMode :=
  if h.action = .update then .update x.id else .create

/-- The values of a foreign key before and after the write. -/
def parents (x : Scope) (h : Hook) (foreignKey : String) : List (Option Json) :=
  match h.action with
  | .create => [x.result.get? foreignKey]
  | .update => [x.existing.get? foreignKey, x.result.get? foreignKey]
  | .delete => [x.existing.get? foreignKey]

end Scope

/-- A generated service. -/
structure Service where
  slug : String
  rules : RuleSet
  guard : DeleteGuard
  /-- The fragments in weaving order. -/
  woven : List (Hook × Fragment)

/-- The service of a plan. -/
def EntityPlan.service (p : EntityPlan) (slug : String) : Service where
  slug := slug
  rules := p.rules.fieldRules
  guard := p.rules.deleteGuard
  woven := p.fragmentSets.flatMap (·.hooks)

/-- The service of an entity of a schema. -/
def SchemaGraph.serviceOf [Pattern.Engine] (g : SchemaGraph) (l : BundleLibrary)
    (e : Entity) : Service :=
  (EntityPlan.ofEntity l g e).service e.slug

/-- The call that a fragment makes at a hook, and the incoming record after
it. -/
def Fragment.call [Pattern.Engine] (sv : Service) (h : Hook) (x : Scope) :
    Fragment → Access Record
  | fieldRules => do
    sv.rules.validate sv.slug (x.checked h) (x.mode h)
    return x.data
  | deleteGuard => do
    sv.guard.check x.id
    return x.data
  | defaultValue field value => return x.data.setDefault field value
  | forceValue field value => return x.data.force field value
  | coerceNumber field message =>
      Access.ofExcept (x.data.coerceNumber field message)
  | normalize field case => return x.data.normalizeText field case
  | normalizeDate field => return x.data.normalizeDate field
  | require field message => do
    Access.ofExcept (x.data.require field message)
    return x.data
  | rejectBlank field message => do
    Access.ofExcept (x.data.rejectBlank field message)
    return x.data
  | requireAny fields message => do
    Access.ofExcept (x.data.requireAny fields message)
    return x.data
  | atLeast field least message => do
    Access.ofExcept (x.data.atLeast field least message)
    return x.data
  | fixedValue field value message => do
    Access.ofExcept (x.data.fixedValue field value message)
    return x.data
  | unique field message => do
    requireUnique sv.slug x.data field (x.mode h).ownId message
    return x.data
  | oneOf field options default message =>
      Access.ofExcept (x.data.oneOf field options default message)
  | checkDate field allowPast invalidMessage pastMessage => do
    Access.ofExcept (x.data.checkDate (← Access.now)
      field allowPast invalidMessage pastMessage)
    return x.data
  | validDate field message => do
    Access.ofExcept (x.data.validDate field message)
    return x.data
  | dateOrder start finish message => do
    Access.ofExcept ((x.checked h).dateOrder start finish message)
    return x.data
  | sequence field label width message =>
      nextSequence sv.slug x.data field label width message
  | dueDate issue due days => ServiceLoom.dueDate x.data issue due days
  | invoiceTotals taxRate onlyIfTouched =>
    return if onlyIfTouched then x.data.invoiceTotalsIfTouched taxRate
      else x.data.invoiceTotals taxRate
  | lineTotal quantity unitPrice target message =>
    Access.ofExcept (x.data.lineTotal
      (if h.action = .update then some x.existing else none) quantity
      unitPrice target message)
  | recalculateParent foreignKey parentSlug taxRate => do
    recalculateTotals sv.slug foreignKey parentSlug
      (x.parents h foreignKey) taxRate
    return x.data
  | audit => do
    ServiceLoom.audit h.action sv.slug
      (if h.action = .create then x.result.id?.getD "" else x.id)
    return x.data

namespace Service

variable (sv : Service)

/-- The fragments of a hook, in weaving order. -/
def fragmentsAt (h : Hook) : List Fragment :=
  sv.woven.filterMap fun (hook, φ) => if hook = h then some φ else none

/-- Runs fragments one after the other; each sees the record as the one before
has left it. -/
def runFragments [Pattern.Engine] (h : Hook) : List Fragment →
    Scope → Access Record
  | [], x => return x.data
  | φ :: rest, x => do
    let data ← φ.call sv h x
    runFragments h rest { x with data }

/-- Runs the fragments of a hook. -/
def runHook [Pattern.Engine] (h : Hook) (x : Scope) : Access Record :=
  sv.runFragments h (sv.fragmentsAt h) x

/-- The record that a creation inserts. -/
def prepareCreate [Pattern.Engine] (body : Record) : Access Record := do
  let data ← sv.runHook .beforeCreateValidation { data := body }
  sv.runHook .beforeCreateTransformation { data }

/-- The stored row with an identifier. -/
def get (id : String) : Access Record := do
  let some row ← Access.row? sv.slug id | .refuse (missingRow sv.slug id)
  return row

/-- Checks, completes and inserts a record. -/
def create [Pattern.Engine] (body : Record) : Access Record := do
  let data ← sv.prepareCreate body
  let result ← Access.insert sv.slug data
  let _ ← sv.runHook .afterCreateLogging { data, result }
  return result

/-- The changes that an update applies to a stored row. -/
def prepareUpdate [Pattern.Engine] (id : String) (existing body : Record) :
    Access Record :=
  sv.runHook .beforeUpdateValidation { data := body, id, existing }

/-- Checks, completes and applies changes to a row. -/
def update [Pattern.Engine] (id : String) (body : Record) : Access Record := do
  let existing ← sv.get id
  let data ← sv.prepareUpdate id existing body
  let some result ← Access.patch sv.slug id data
      | .refuse (missingRow sv.slug id)
  let _ ← sv.runHook .afterUpdateLogging { data, id, existing, result }
  return result

/-- Removes a row that nothing holds. -/
def delete [Pattern.Engine] (id : String) : Access Unit := do
  let existing ← sv.get id
  let _ ← sv.runHook .beforeDeleteValidation { id, existing }
  if ← Access.remove sv.slug id then
    let _ ← sv.runHook .afterDeleteLogging { id, existing }
    return ()
  else .refuse (missingRow sv.slug id)

/-- A request to a service. -/
inductive Request where
  | create (body : Record)
  | update (id : String) (body : Record)
  | delete (id : String)

/-- The store after a request. A request that fails may have written before it
did. -/
def after [Pattern.Engine] (host : Host) (s : Store) : Request → Store
  | .create body => ((sv.create body).run host Outage.none s).2
  | .update id body => ((sv.update id body).run host Outage.none s).2
  | .delete id => ((sv.delete id).run host Outage.none s).2

/-- The stores that requests lead to from an empty one, each at a time of its
own. -/
inductive Reachable [Pattern.Engine] : Store → Prop
  | empty : Reachable Store.empty
  | serve {s : Store} (host : Host) (q : Request) : Reachable s →
      Reachable (sv.after host s q)

end Service

end ServiceLoom
