import NoteQuery.Main
import NoteQuery.Proofs.Query.Evaluation
import NoteQuery.Query.Edit
import NoteQuery.Proofs.Query.Grammar
import NoteQuery.Proofs.Query.Meaning
import NoteQuery.Proofs.Dates.ClockDependence
import NoteQuery.Proofs.Query.ParseTime
import NoteQuery.Proofs.Session.Runs
import NoteQuery.Proofs.Session.Transparency
import NoteQuery.Proofs.Text.Stripping
import NoteQuery.Proofs.Query.Words
import NoteQuery.Proofs.Query.Separators
import NoteQuery.Proofs.Query.Offsets
import NoteQuery.Proofs.Query.Leaves
import NoteQuery.Proofs.Query.Spacing
import NoteQuery.Proofs.Query.Quoting
import NoteQuery.Proofs.Query.Adding
import NoteQuery.Proofs.Query.Printing
import NoteQuery.Proofs.Calendar.Months
import NoteQuery.Proofs.Calendar.Weeks
import NoteQuery.Proofs.Dates.Spans
import NoteQuery.Proofs.Dates.Spelling
import NoteQuery.Proofs.Dates.Tiling
import NoteQuery.Proofs.Dates.Ordered
import NoteQuery.Proofs.Dates.Ranges
import NoteQuery.Proofs.Query.Closed
import NoteQuery.Proofs.Session.Searching
import NoteQuery.Proofs.Query.Toggling
import NoteQuery.Proofs.Query.ToggleRuns
import NoteQuery.Proofs.Calendar.IsoReading
import NoteQuery.Proofs.Note.RoundTrip
import NoteQuery.Proofs.Query.PureForm
import NoteQuery.Proofs.Text.Splitting
import NoteQuery.Proofs.Query.Shape
import NoteQuery.Proofs.Query.WellFormed
import NoteQuery.Proofs.Note.Escaping
import NoteQuery.Proofs.Note.LoadErrors
import NoteQuery.Proofs.Faults.Dates
import NoteQuery.Proofs.Faults.Parsing
import NoteQuery.Proofs.Faults.Editing
import NoteQuery.Proofs.Faults.Positions
import NoteQuery.Proofs.Faults.Totality
import NoteQuery.Proofs.Session.Slots
import NoteQuery.Proofs.Settings.Sources
import NoteQuery.Proofs.Value.JsonStrings
import NoteQuery.Proofs.Value.JsonReading
import NoteQuery.Proofs.Note.JsonText
import NoteQuery.Proofs.Display.FirstWord
import NoteQuery.Proofs.CommandLine.Containment
import NoteQuery.Proofs.CommandLine.JsonSearch
import NoteQuery.Proofs.Query.WordForm
import NoteQuery.Proofs.Query.Removing
import NoteQuery.Proofs.Query.Regrouping
import NoteQuery.Proofs.Query.Extending
import NoteQuery.Proofs.Query.Strengthening
import NoteQuery.Proofs.Text.Folding
import NoteQuery.Proofs.Tag.Normal
import NoteQuery.Proofs.Query.TagToggling
import NoteQuery.Proofs.Query.QuoteReading
import NoteQuery.Proofs.Query.ChangedFlag
import NoteQuery.Proofs.Query.TrailingBlanks
import NoteQuery.Proofs.Query.PropertyFinding
import NoteQuery.Proofs.Text.Casing
import NoteQuery.Proofs.Dates.RelativeWords
import NoteQuery.Proofs.Dates.DayDependence
import NoteQuery.Proofs.Dates.Numbers
import NoteQuery.Proofs.Dates.Shapes
import NoteQuery.Proofs.Dates.SingleDates
import NoteQuery.Proofs.Dates.NumericOrder
import NoteQuery.Proofs.Tag.Order
import NoteQuery.Proofs.Note.Folders
import NoteQuery.Proofs.Query.Respacing
import NoteQuery.Proofs.Query.Negation
import NoteQuery.Proofs.Query.Alike
import NoteQuery.Proofs.Query.Lookups
import NoteQuery.Proofs.Query.Casings
import NoteQuery.Proofs.Query.Presence
import NoteQuery.Proofs.Settings.Active
import NoteQuery.Proofs.Query.Dividing
import NoteQuery.Proofs.Query.Parts
import NoteQuery.Proofs.Query.Reaching
