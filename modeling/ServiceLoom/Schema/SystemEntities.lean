import ServiceLoom.Schema.Modules
import ServiceLoom.Operation.Collections

/-!
# Internal entities

The audit log and the collection for reports, which are added to a schema that
needs them.
-/

namespace ServiceLoom

/-- A field of an internal entity. -/
def internalField (name : String) (type : FieldType) (label : String)
    (required : Bool) : Field :=
  { name, type, label := some label, required }

/-- An entity that users do not see. Its list shows the first five fields. -/
def hiddenEntity (slug displayName displayField : String)
    (fields : List Field) : Entity where
  slug := slug
  module := some sharedModule
  displayName := some displayName
  displayField := some displayField
  fields := fields
  system := some (.object [("hidden", .bool true)])
  ui := some (.object [("csv_export", .bool false), ("csv_import", .bool false),
    ("print", .bool false), ("search", .bool true)])
  list := some (.object [("columns", .strings ((fields.take 5).map (·.name)))])

/-- The audit log. -/
def auditLogEntity : Entity :=
  hiddenEntity auditSlug "Audit Logs" "at" [
    internalField "at" .string "At" true,
    internalField "action" .string "Action" true,
    internalField "entity" .string "Entity" true,
    internalField "entity_id" .string "Entity ID" false,
    internalField "message" .string "Message" false,
    internalField "meta" .text "Meta" false]

/-- The collection for reports. -/
def reportsEntity (slug : String) : Entity :=
  hiddenEntity slug "Reports" "report_date" [
    internalField "report_date" .string "Report Date" true,
    internalField "report_type" .string "Report Type" true,
    internalField "generated_at" .string "Generated At" true,
    internalField "data" .text "Data (JSON)" false]

/-- Whether the entities need an audit log. -/
def wantsAuditLog (entities : List Entity) (c : ModuleConfig) : Bool :=
  c.activityLog.enabled || entities.any fun e =>
    Features.isEnabled e.features "audit_trail"

/-- The internal entities that the given ones need, without those whose slug is
taken. -/
def systemEntities (entities : List Entity) (c : ModuleConfig) : List Entity :=
  let isFree (slug : String) : Bool := !entities.any (·.slug = slug)
  (if wantsAuditLog entities c && isFree auditSlug then
    [auditLogEntity] else []) ++
    (if c.scheduledReports.enabled && isFree c.scheduledReports.targetSlug then
      [reportsEntity c.scheduledReports.targetSlug] else [])

end ServiceLoom
