import FormCheck.Checks.Custom
import FormCheck.Session
import FormCheck.Proofs.OrderedMap
import FormCheck.Proofs.Report
import FormCheck.Proofs.Run.Failures
import FormCheck.Proofs.Run.Mistakes
import FormCheck.Proofs.Run.Grouping
import FormCheck.Proofs.Run.Wording
import FormCheck.Proofs.Checks.Format
import FormCheck.Proofs.Run.Cleaning
import FormCheck.Proofs.Run.Footprint
import FormCheck.Proofs.Run.Rerun
import FormCheck.Proofs.Run.Absent
import FormCheck.Proofs.Rules.Written
import FormCheck.Proofs.Rules.Pattern
import FormCheck.Proofs.Rules.Forms
import FormCheck.Proofs.Messages.Catalog
import FormCheck.Proofs.Messages.History
import FormCheck.Proofs.Messages.Fallback
import FormCheck.Proofs.Messages.Overrides
import FormCheck.Proofs.Value.Json
import FormCheck.Proofs.Value.Decoders
import FormCheck.Proofs.Run.Accounts
import FormCheck.Proofs.Checks.Alphabet
import FormCheck.Proofs.Run.Transparent
import FormCheck.Proofs.Run.Appended
import FormCheck.Proofs.Rules.Registry
import FormCheck.Proofs.Messages.Loading
import FormCheck.Proofs.InPlace.Session
import FormCheck.Proofs.Run.Events
import FormCheck.Proofs.Rules.Composed
import FormCheck.Proofs.Messages.Substitution
import FormCheck.Proofs.Messages.Precedence
import FormCheck.Proofs.Run.Siblings
import FormCheck.Proofs.Run.Presence
import FormCheck.Proofs.Messages.Placeholders
import FormCheck.Proofs.Checks.Measure
import FormCheck.Proofs.Decimal.Numeral
import FormCheck.Proofs.Calendar.Today
import FormCheck.Proofs.Calendar.Rendered
import FormCheck.Proofs.Calendar.Layouts
import FormCheck.Proofs.Checks.Upload
import FormCheck.Proofs.Json.Pieces
import FormCheck.Proofs.Pattern.Delimited
import FormCheck.Proofs.Pattern.Digits
import FormCheck.Proofs.Markup.Recognition
