import ServiceLoom.Plan.Fragment
import ServiceLoom.Decimal.Reader

/-!
# Behaviour bundles

A bundle is a named piece of optional behaviour: from a configuration it makes
the fragments and methods that it contributes. Settings are read under their
name with underscores, or else with capitals.
-/

namespace ServiceLoom

/-- The configuration of a bundle. -/
abbrev BundleConfig := Dict Json

namespace BundleConfig

/-- A setting under the first of its names that is there. -/
def setting? (c : BundleConfig) (names : List String) : Option Json :=
  names.findSome? (Dict.get? c)

/-- A switch. -/
def flag (c : BundleConfig) (names : List String) (default : Bool) : Bool :=
  ((setting? c names).bind Json.bool?).getD default

/-- A number, or a text that holds one. -/
def number (c : BundleConfig) (names : List String) (default : Float) : Float :=
  match setting? c names with
  | some (.number n) => n.toFloat
  | some (.string s) => (Decimal.read? (Text.trim s)).getD default
  | _ => default

def text (c : BundleConfig) (names : List String) (default : String) : String :=
  ((setting? c names).bind Json.string?).getD default

/-- The texts of a list; a list without any stands for the default. -/
def texts (c : BundleConfig) (names : List String) (default : List String) :
    List String :=
  let items :=
    (((setting? c names).bind Json.array?).getD []).filterMap Json.string?
  if items.isEmpty then default else items

end BundleConfig

/-- The integer part of a number within the range of 64 bits. NaN counts as
zero. -/
def wholeDays (x : Float) : Int :=
  match Decimal.reading x with
  | .notANumber => 0
  | .infinite negative =>
      if negative then Word64.least else Word64.signedBound - 1
  | .finite b =>
    let magnitude : Int :=
      if 0 ≤ b.exponent then b.mantissa * Decimal.twoTo b.exponent.toNat
      else (b.mantissa / Decimal.twoTo (-b.exponent).toNat : Nat)
    if b.negative then max (-magnitude) Word64.least
    else min magnitude (Word64.signedBound - 1)

/-- The built-in bundles. -/
inductive Bundle where
  | inventory | batchTracking | serialTracking | audit | location
  | invoice | invoiceItems | hrLeave | hrEmployee | hrDepartment
deriving DecidableEq, Repr

namespace Bundle

/-- All bundles, in the order of their names. -/
def all : List Bundle :=
  [audit, batchTracking, hrDepartment, hrEmployee, hrLeave, inventory, invoice,
    invoiceItems, location, serialTracking]

def name : Bundle → String
  | inventory => "inventory"
  | batchTracking => "batch_tracking"
  | serialTracking => "serial_tracking"
  | audit => "audit"
  | location => "location"
  | invoice => "invoice"
  | invoiceItems => "invoice_items"
  | hrLeave => "hr_leave"
  | hrEmployee => "hr_employee"
  | hrDepartment => "hr_department"

/-- The bundle with a name. -/
def ofName? (name : String) : Option Bundle := all.find? (·.name = name)

/-- The bundles that must come before a bundle. None of these has such bundles
itself. -/
def requires : Bundle → List Bundle
  | batchTracking | serialTracking | location => [inventory]
  | _ => []

/-- The bundle that a mixin's name stands for. -/
def ofMixin? (name : String) : Option Bundle :=
  match Text.trim name with
  | "audit" | "audit_trail" | "AuditMixin" => some audit
  | "inventory" | "stock_tracking" | "InventoryMixin" => some inventory
  | "batch" | "batch_tracking" | "BatchTrackingMixin" => some batchTracking
  | "serial" | "serial_tracking" | "SerialTrackingMixin" => some serialTracking
  | "location" | "multi_location" | "LocationMixin" => some location
  | "invoice" | "InvoiceMixin" => some invoice
  | "invoice_items" | "InvoiceItemsMixin" => some invoiceItems
  | "leave" | "hr_leave" | "HRLeaveMixin" => some hrLeave
  | "employee" | "hr_employee" | "HREmployeeMixin" => some hrEmployee
  | "department" | "hr_department" | "HRDepartmentMixin" => some hrDepartment
  | _ => none

open Hook

/-- Stock: a quantity that is a number, zero at first and never negative. -/
def inventorySet (c : BundleConfig) : FragmentSet :=
  let field := c.text ["quantity_field", "quantityField"] "quantity"
  let message := "Quantity must be a number"
  { hooks := [
      (beforeCreateTransformation, .defaultValue field (.ofNat 0)),
      (beforeCreateTransformation, .coerceNumber field message),
      (beforeUpdateValidation, .coerceNumber field message),
      (beforeUpdateValidation, .atLeast field 0 "Stock cannot be negative")]
    methods := [.adjustStock "adjust_stock" field] }

/-- Batches: a batch number, and an expiry date. -/
def batchTrackingSet (c : BundleConfig) : FragmentSet :=
  { hooks :=
      [(beforeCreateValidation,
        .require "batch_number" "Batch number is required for this item")] ++
      (if c.flag ["require_expiry", "requireExpiry"] false then
        [(beforeCreateValidation,
          .require "expiry_date" "Expiry date is required for this item")]
        else []) ++
      [(beforeCreateValidation,
        .checkDate "expiry_date"
          (c.flag ["allow_past_expiry", "allowPastExpiry"] true)
          "Invalid expiry date format" "Expiry date cannot be in the past"),
       (beforeCreateTransformation, .normalize "batch_number" .upper),
       (beforeCreateTransformation, .normalizeDate "expiry_date")]
    methods := [.findBy "find_by_batch" "batch_number",
      .expired "expired_items" "expiry_date"] }

/-- Serial numbers: every row is one item. -/
def serialTrackingSet : FragmentSet :=
  { hooks := [
      (beforeCreateValidation,
        .require "serial_number" "Serial number is required"),
      (beforeCreateValidation,
        .unique "serial_number" "Serial number already exists"),
      (beforeCreateValidation, .forceValue "quantity" (.ofNat 1)),
      (beforeUpdateValidation,
        .fixedValue "quantity" (.ofNat 1)
          "Serialized items must have quantity of 1")]
    methods := [] }

/-- An entry in the audit log for every write. -/
def auditSet : FragmentSet :=
  { hooks := [(afterCreateLogging, .audit),
    (afterUpdateLogging, .audit), (afterDeleteLogging, .audit)]
    methods := [] }

/-- Locations: moving stock from one to another. -/
def locationSet (c : BundleConfig) : FragmentSet :=
  { hooks :=
      if c.flag ["require_location", "requireLocation"] true then
        [(beforeCreateValidation,
          .requireAny ["location_id", "location_ids"] "Location is required")]
      else []
    methods := [.moveStock "move_stock"] }

/-- Invoices: status, number, dates and totals. -/
def invoiceSet (c : BundleConfig) : FragmentSet :=
  let statuses := c.texts ["statuses"] ["Draft", "Sent", "Paid", "Overdue"]
  let taxRate := c.number ["tax_rate", "taxRate"] 0
  let statusMessage := "Invalid invoice status"
  let numberMessage := "Invoice number must be unique"
  { hooks := [
      (beforeCreateTransformation,
        .oneOf "status" statuses statuses.head? statusMessage),
      (beforeCreateTransformation,
        .sequence "invoice_number" (c.text ["prefix"] "INV-") 6 numberMessage),
      (beforeCreateTransformation,
        .dueDate "issue_date" "due_date"
          (wholeDays (c.number ["payment_terms", "paymentTerms"] 30))),
      (beforeCreateTransformation,
        .dateOrder "issue_date" "due_date"
          "Due date cannot be before issue date"),
      (beforeCreateTransformation, .invoiceTotals taxRate false),
      (beforeUpdateValidation, .oneOf "status" statuses none statusMessage),
      (beforeUpdateValidation, .unique "invoice_number" numberMessage),
      (beforeUpdateValidation, .invoiceTotals taxRate true)]
    methods := [] }

/-- Items of invoices: line totals, and the totals of the invoice. -/
def invoiceItemsSet (c : BundleConfig) : FragmentSet :=
  let line := Fragment.lineTotal "quantity" "unit_price" "line_total"
    "Quantity and unit price must be numbers"
  let recalculate := Fragment.recalculateParent
    (c.text ["foreign_key", "foreignKey"] "invoice_id")
    (c.text ["parent_slug", "parentSlug"] "invoices")
    (c.number ["tax_rate", "taxRate"] 0)
  { hooks := [
      (beforeCreateTransformation, line), (beforeUpdateValidation, line),
      (afterCreateLogging, recalculate), (afterUpdateLogging, recalculate),
      (afterDeleteLogging, recalculate)]
    methods := [] }

/-- Fields that lose the blanks at their ends. -/
def trimmed (h : Hook) (fields : List String) : List (Hook × Fragment) :=
  fields.map fun field => (h, .normalize field .trim)

/-- A date that is checked and then written in the internet form. -/
def checkedDate (h : Hook) (field message : String) : List (Hook × Fragment) :=
  [(h, .validDate field message), (h, .normalizeDate field)]

/-- Leave: two dates in order. -/
def hrLeaveSet (c : BundleConfig) : FragmentSet :=
  let start := c.text ["start_field", "startField"] "start_date"
  let finish := c.text ["end_field", "endField"] "end_date"
  let order := Fragment.dateOrder start finish
    ("Leave " ++ finish ++ " must be on or after " ++ start)
  { hooks :=
      [(beforeCreateValidation, .validDate start "Invalid leave date range"),
       (beforeCreateValidation, .validDate finish "Invalid leave date range"),
       (beforeCreateValidation, order),
       (beforeCreateTransformation, .normalizeDate start),
       (beforeCreateTransformation, .normalizeDate finish)] ++
      checkedDate beforeUpdateValidation start ("Invalid " ++ start) ++
      checkedDate beforeUpdateValidation finish ("Invalid " ++ finish) ++
      [(beforeUpdateValidation, order)]
    methods := [] }

def employeeNames : List String := ["first_name", "last_name", "job_title"]

/-- Employees: names, an address for mail and the date of hire. -/
def hrEmployeeSet : FragmentSet :=
  let present := Fragment.rejectBlank "email" "Email cannot be empty"
  let lower := Fragment.normalize "email" .lower
  { hooks :=
      [(beforeCreateValidation, present),
       (beforeCreateValidation, .validDate "hire_date" "Invalid hire_date")] ++
      trimmed beforeCreateTransformation employeeNames ++
      [(beforeCreateTransformation, lower),
       (beforeCreateTransformation, .normalizeDate "hire_date"),
       (beforeUpdateValidation, lower),
       (beforeUpdateValidation, present)] ++
      trimmed beforeUpdateValidation employeeNames ++
      checkedDate beforeUpdateValidation "hire_date" "Invalid hire_date"
    methods := [] }

/-- Departments: a name and a place. -/
def hrDepartmentSet : FragmentSet :=
  { hooks :=
      [(beforeCreateValidation, .require "name" "Department name is required")] ++
      trimmed beforeCreateTransformation ["name", "location"] ++
      trimmed beforeUpdateValidation ["name", "location"] ++
      [(beforeUpdateValidation,
        .rejectBlank "name" "Department name cannot be empty")]
    methods := [] }

/-- What a bundle contributes under a configuration. -/
def fragments (c : BundleConfig) : Bundle → FragmentSet
  | inventory => inventorySet c
  | batchTracking => batchTrackingSet c
  | serialTracking => serialTrackingSet
  | audit => auditSet
  | location => locationSet c
  | invoice => invoiceSet c
  | invoiceItems => invoiceItemsSet c
  | hrLeave => hrLeaveSet c
  | hrEmployee => hrEmployeeSet
  | hrDepartment => hrDepartmentSet

end Bundle

/-- The bundles that a generator knows, and those that it must not use. -/
structure BundleLibrary where
  registered : List Bundle
  disabled : List String

namespace BundleLibrary

/-- All built-in bundles. -/
def builtin : BundleLibrary := ⟨Bundle.all, []⟩

/-- Whether a bundle is known and may be used. -/
def locates (l : BundleLibrary) (b : Bundle) : Bool :=
  l.registered.contains b && !l.disabled.contains b.name

/-- The usable bundle with a name. -/
def get? (l : BundleLibrary) (name : String) : Option Bundle :=
  (Bundle.ofName? name).filter l.locates

/-- The names of the known bundles, in order. -/
def names (l : BundleLibrary) : List String :=
  (Bundle.all.filter l.registered.contains).map (·.name)

end BundleLibrary

end ServiceLoom
