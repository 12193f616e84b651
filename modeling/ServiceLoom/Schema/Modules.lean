import ServiceLoom.Json.Decoder
import ServiceLoom.Schema.Encoder

/-!
# Modules

A document may divide its entities into modules and switch some of them off.
This module interprets the module settings and places entities. Entities of the
module `shared` may be used by all others.
-/

namespace ServiceLoom

/-- The modules to which an entity can belong, besides the shared one. -/
def moduleNames : List String := ["inventory", "invoice", "hr"]

/-- The module of entities that name none, or one that is not known. -/
def defaultModule : String := "inventory"

def sharedModule : String := "shared"

/-- Whether entities are audited without asking for it. -/
structure ActivityLog where
  enabled : Bool
  /-- If there are any, only these entities are. -/
  entities : List String
deriving DecidableEq, Repr

/-- Whether there is a collection for scheduled reports. -/
structure ScheduledReports where
  enabled : Bool
  targetSlug : String
deriving DecidableEq, Repr

/-- The modules that are switched on, and the switches that concern all
entities. -/
structure ModuleConfig where
  /-- The names of the modules that are switched on, in order. -/
  enabled : List String
  /-- Whether the document mentions a module. If not, every entity belongs to
  the default one. -/
  explicit : Bool
  activityLog : ActivityLog
  scheduledReports : ScheduledReports
deriving DecidableEq, Repr

/-- The texts of a list; other items are left out. -/
def textItems (j : Option Json) : List String :=
  ((j.bind Json.array?).getD []).filterMap Json.string?

/-- The activity log settings: an object, or a truth value. -/
def ActivityLog.ofSetting : Option Json → ActivityLog
  | some (.object m) =>
    ⟨(Dict.get? m "enabled").bind Json.bool? = some true,
      textItems (Dict.get? m "entities")⟩
  | some (.bool b) => ⟨b, []⟩
  | _ => ⟨false, []⟩

/-- The collection for reports if the document names none. -/
def defaultReportsSlug : String := "__reports"

/-- The report settings: an object, or a truth value. -/
def ScheduledReports.ofSetting : Option Json → ScheduledReports
  | some (.object m) =>
    let slug := ((Dict.get? m "target_slug").orElse fun _ =>
        Dict.get? m "targetSlug").bind Json.string?
    ⟨(Dict.get? m "enabled").bind Json.bool? = some true,
      ((slug.filter fun s => !Text.isBlank s).map Text.trim).getD
        defaultReportsSlug⟩
  | some j => ⟨j.bool? = some true, defaultReportsSlug⟩
  | none => ⟨false, defaultReportsSlug⟩

/-- Whether a setting switches a module off. -/
def isSwitchedOff : Option Json → Bool
  | some (.bool b) => !b
  | some (.object m) => (Dict.get? m "enabled").bind Json.bool? = some false
  | _ => false

/-- A list without repetitions in ascending order. -/
def sortedNames (names : List String) : List String :=
  Dict.keys (Dict.ofEntries (names.map (·, ())))

namespace ModuleConfig

/-- The modules that a block of settings leaves on; the default one if it leaves
none. -/
def enabledBy (modules : Dict Json) : List String :=
  let enabled := moduleNames.filter fun name =>
      !isSwitchedOff (modules.get? name)
  if moduleNames.any modules.contains && !enabled.isEmpty then
    sortedNames enabled
  else [defaultModule]

/-- The meaning of a block of module settings. -/
def ofSettings (modules : Dict Json) : ModuleConfig where
  enabled := enabledBy modules
  explicit := moduleNames.any modules.contains
  activityLog := .ofSetting (modules.get? "activity_log")
  scheduledReports := .ofSetting (modules.get? "scheduled_reports")

/-- Whether a module is switched on. The shared one is, if any is. -/
def isEnabled (c : ModuleConfig) (name : String) : Bool :=
  if name = sharedModule then !c.enabled.isEmpty else c.enabled.contains name

/-- The module of an entity, and a warning if it names one that is not known. -/
def assign (c : ModuleConfig) (e : Entity) : String × Option String :=
  let raw := e.module.getD ""
  let name := Text.lowerAscii (Text.trim raw)
  if !c.explicit || name = "" then (defaultModule, none)
  else if name = sharedModule || moduleNames.contains name then (name, none)
  else (defaultModule,
    some ("entity '" ++ e.slug ++ "': unknown module '" ++
      raw ++ "', defaulting to '" ++
      defaultModule ++ "'"))

/-- The module of an entity. -/
def moduleOf (c : ModuleConfig) (e : Entity) : String := (c.assign e).1

/-- Whether an entity is audited when it does not say either way. -/
def auditsByDefault (c : ModuleConfig) (slug : String) : Bool :=
  c.activityLog.enabled &&
    (c.activityLog.entities.isEmpty || c.activityLog.entities.contains slug)

/-- The settings as a document. -/
def toJson (c : ModuleConfig) : Json :=
  .object [
    ("enabled", .strings c.enabled), ("explicit", .bool c.explicit),
    ("activity_log", .object (("enabled", .bool c.activityLog.enabled) ::
      listMember "entities" .string c.activityLog.entities)),
    ("scheduled_reports", .object [("enabled", .bool c.scheduledReports.enabled),
      ("target_slug", .string c.scheduledReports.targetSlug)])]

/-- Reads settings that were written as a document. -/
def decode? (j : Json) : Option ModuleConfig := do
  let f ← j.fields? 4
  let log (j : Json) : Option ActivityLog := do
    let f ← j.fields? 2
    return ⟨← f.required? 0 ["enabled"] Json.bool?,
      ← f.default? 1 ["entities"] (Json.list? Json.string?) []⟩
  let reports (j : Json) : Option ScheduledReports := do
    let f ← j.fields? 2
    return ⟨← f.required? 0 ["enabled"] Json.bool?,
      ← f.required? 1 ["target_slug"] Json.string?⟩
  return {
    enabled :=
      sortedNames (← f.required? 0 ["enabled"] (Json.list? Json.string?))
    explicit := ← f.required? 1 ["explicit"] Json.bool?
    activityLog := ← f.required? 2 ["activity_log"] log
    scheduledReports := ← f.required? 3 ["scheduled_reports"] reports }

end ModuleConfig

end ServiceLoom
