import RecordRules.Service
import RecordRules.Settings
import RecordRules.Proofs.Constraint.Evaluation
import RecordRules.Proofs.Date.RoundTrip
import RecordRules.Proofs.Rule.Rewriting
import RecordRules.Proofs.Batch.Agreement
import RecordRules.Proofs.Edit.Permission
import RecordRules.Proofs.Rule.Contract
import RecordRules.Proofs.Constraint.Contract
import RecordRules.Proofs.Constraint.Errors
import RecordRules.Proofs.Constraint.Detached
import RecordRules.Proofs.Constraint.Fields
import RecordRules.Proofs.Batch.Log
import RecordRules.Proofs.Service.History
import RecordRules.Proofs.Service.Failures
import RecordRules.Proofs.Record.Messages
import RecordRules.Proofs.Batch.Totals
import RecordRules.Proofs.Batch.WrittenSheet
import RecordRules.Proofs.Calendar.Ordinal
import RecordRules.Proofs.Date.Resolution
import RecordRules.Proofs.Rule.Readings
import RecordRules.Proofs.Constraint.WriteProtection
import RecordRules.Proofs.Constraint.FormatStep
import RecordRules.Proofs.Phone.ReadBack
import RecordRules.Proofs.Constraint.PhoneImport
import RecordRules.Proofs.Numeric.NearestDecimal
import RecordRules.Proofs.Amount.Grouping
import RecordRules.Proofs.Amount.Currency
import RecordRules.Proofs.Amount.NumberText
import RecordRules.Proofs.Amount.WrittenNumber
import RecordRules.Proofs.Numeric.NearestInteger
import RecordRules.Proofs.Amount.IntegerReading
import RecordRules.Proofs.Numeric.WholeNumber
import RecordRules.Proofs.Value.HasText
import RecordRules.Proofs.Rule.TextVerdicts
import RecordRules.Proofs.Calendar.Range
import RecordRules.Proofs.Date.Readable
import RecordRules.Proofs.Date.ShortNumbers
import RecordRules.Proofs.Rule.DateVerdicts
import RecordRules.Proofs.Rule.PhoneRewriting
import RecordRules.Proofs.SocialSecurity.Issued
import RecordRules.Proofs.Rule.SsnRewriting
import RecordRules.Proofs.Amount.Signs
import RecordRules.Proofs.Amount.DecimalStyles
import RecordRules.Proofs.Date.WrittenAlike
import RecordRules.Proofs.Rule.TwoSided
import RecordRules.Proofs.Email.Grammar
import RecordRules.Proofs.Calendar.Shifts
import RecordRules.Proofs.Date.RelativeSteps
import RecordRules.Proofs.Date.LongestMatch
import RecordRules.Proofs.Format.Shape
import RecordRules.Proofs.Amount.GroupPattern
import RecordRules.Proofs.Amount.Ungrouping
import RecordRules.Proofs.Text.TitleCase
