import ServiceLoom.Main
import ServiceLoom.Operation.Dates
import ServiceLoom.Operation.Stock
import ServiceLoom.Rule.Check
import ServiceLoom.Rule.Decoder
import ServiceLoom.Proofs.Schema.Validation
import ServiceLoom.Proofs.Schema.Defects
import ServiceLoom.Proofs.Schema.Slugs
import ServiceLoom.Proofs.Schema.Resolution
import ServiceLoom.Proofs.Schema.Surroundings
import ServiceLoom.Proofs.Schema.EntityOrder
import ServiceLoom.Proofs.Schema.DisabledEntities
import ServiceLoom.Proofs.Schema.Isolation
import ServiceLoom.Proofs.Decimal.Finite
import ServiceLoom.Proofs.Json.Normal
import ServiceLoom.Proofs.Json.Structures
import ServiceLoom.Proofs.Schema.FieldType
import ServiceLoom.Proofs.Schema.RoundTrip
import ServiceLoom.Proofs.Rule.DeleteGuard
import ServiceLoom.Proofs.Plan.Guard
import ServiceLoom.Proofs.Plan.References
import ServiceLoom.Proofs.Plan.Selection
import ServiceLoom.Proofs.Text.Blank
import ServiceLoom.Proofs.Calendar.Digits
import ServiceLoom.Proofs.Calendar.Days
import ServiceLoom.Proofs.Calendar.Readings
import ServiceLoom.Proofs.Calendar.DateText
import ServiceLoom.Proofs.Record.Values
import ServiceLoom.Proofs.Record.Order
import ServiceLoom.Proofs.Store.Rows
import ServiceLoom.Proofs.Store.Contents
import ServiceLoom.Proofs.Rule.Verdict
import ServiceLoom.Proofs.Rule.CheckedWrites
import ServiceLoom.Proofs.Service.Execution
import ServiceLoom.Proofs.Service.Frame
import ServiceLoom.Proofs.Operation.Numbering
import ServiceLoom.Proofs.Operation.Totals
import ServiceLoom.Proofs.Operation.Quantities
import ServiceLoom.Proofs.Operation.DateOrder
import ServiceLoom.Proofs.Service.Placement
import ServiceLoom.Proofs.Service.Requests
import ServiceLoom.Proofs.Service.Columns
import ServiceLoom.Proofs.Service.Billing
import ServiceLoom.Proofs.Service.Stock
import ServiceLoom.Proofs.Service.Uniqueness
import ServiceLoom.Proofs.Service.RowLaws
import ServiceLoom.Proofs.Service.Drift
import ServiceLoom.Proofs.Service.Leave
import ServiceLoom.Proofs.Service.Departments
import ServiceLoom.Proofs.Service.Invoices
import ServiceLoom.Proofs.Service.SerialItems
import ServiceLoom.Proofs.Plan.AuditLog
import ServiceLoom.Proofs.Template.Substitution
import ServiceLoom.Proofs.Template.Weaving
import ServiceLoom.Proofs.Template.Calls
import ServiceLoom.Proofs.Generation.ServiceText
import ServiceLoom.Proofs.Plan.CodeReader
import ServiceLoom.Proofs.Plan.RuleCode
import ServiceLoom.Proofs.Generation.Files
import ServiceLoom.Proofs.Generation.Addition
import ServiceLoom.Proofs.Schema.ResolutionLaws
import ServiceLoom.Proofs.Service.NumberedRows
import ServiceLoom.Proofs.Decimal.Exactness
import ServiceLoom.Proofs.Decimal.Order
import ServiceLoom.Proofs.Operation.Adjustments
import ServiceLoom.Proofs.Store.Turns
import ServiceLoom.Proofs.Operation.LostUpdates
import ServiceLoom.Proofs.Store.Sources
import ServiceLoom.Proofs.Decimal.Comparison
import ServiceLoom.Proofs.Rule.Constraints
import ServiceLoom.Proofs.Rule.FieldErrors
import ServiceLoom.Proofs.Rule.Scalars
import ServiceLoom.Proofs.Rule.Options
import ServiceLoom.Proofs.Store.Faults
import ServiceLoom.Proofs.Operation.Moves
import ServiceLoom.Proofs.Operation.Conservation
import ServiceLoom.Proofs.Operation.WrittenDates
import ServiceLoom.Proofs.Operation.UpdatedTotals
import ServiceLoom.Proofs.Service.NumberSupply
import ServiceLoom.Proofs.Service.PaymentTerms
import ServiceLoom.Proofs.Operation.Recalculation
import ServiceLoom.Proofs.Service.InPlace
import ServiceLoom.Proofs.Template.Segments
import ServiceLoom.Proofs.Template.Rendering
import ServiceLoom.Proofs.Template.Methods
import ServiceLoom.Proofs.Template.LegalNames
import ServiceLoom.Proofs.Output.Saving
import ServiceLoom.Proofs.Generation.Paths
import ServiceLoom.Proofs.Operation.CoercedNumbers
import ServiceLoom.Proofs.Plan.Methods
import ServiceLoom.Proofs.Generation.Confinement
import ServiceLoom.Proofs.Text.LiteralForms
import ServiceLoom.Proofs.Decimal.Shortest
import ServiceLoom.Proofs.Json.Numeral
import ServiceLoom.Proofs.Plan.ValueCode
import ServiceLoom.Proofs.Decimal.Intervals
import ServiceLoom.Proofs.Decimal.Whole
import ServiceLoom.Proofs.Decimal.Notation
import ServiceLoom.Proofs.Record.NumberText
import ServiceLoom.Proofs.Rule.Recognition
