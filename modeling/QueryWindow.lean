import QueryWindow.Calendar.Date
import QueryWindow.Calendar.Time
import QueryWindow.Calendar.Timestamp
import QueryWindow.Calendar.Week
import QueryWindow.Candidate
import QueryWindow.Decimal.Binary64
import QueryWindow.Decimal.Shortest
import QueryWindow.Decimal.Word
import QueryWindow.Formats
import QueryWindow.Interchange
import QueryWindow.Json.Decode
import QueryWindow.Json.Read
import QueryWindow.Json.Token
import QueryWindow.Json.Value
import QueryWindow.Json.Write
import QueryWindow.Lookback
import QueryWindow.Pattern
import QueryWindow.Pattern.Dating
import QueryWindow.Pattern.Fields
import QueryWindow.Pattern.Item
import QueryWindow.Pattern.Items
import QueryWindow.Pattern.Names
import QueryWindow.Pattern.Read
import QueryWindow.Pattern.Write
import QueryWindow.Proofs.Calendar.DayNumber
import QueryWindow.Proofs.Calendar.Elapsed
import QueryWindow.Proofs.Calendar.Instant
import QueryWindow.Proofs.Calendar.Succession
import QueryWindow.Proofs.Candidate.Agreement
import QueryWindow.Proofs.Candidate.Messages
import QueryWindow.Proofs.Candidate.Verdict
import QueryWindow.Proofs.Formats.Application
import QueryWindow.Proofs.Formats.Attempts
import QueryWindow.Proofs.Formats.Grammar
import QueryWindow.Proofs.Formats.Order
import QueryWindow.Proofs.Formats.Partial
import QueryWindow.Proofs.Formats.Reference
import QueryWindow.Proofs.Formats.Standard
import QueryWindow.Proofs.Interchange.Ends
import QueryWindow.Proofs.Interchange.Records
import QueryWindow.Proofs.Interchange.Requests
import QueryWindow.Proofs.Interchange.Settings
import QueryWindow.Proofs.Interchange.Windows
import QueryWindow.Proofs.Json.RoundTrip
import QueryWindow.Proofs.Json.Tokens
import QueryWindow.Proofs.Outcome
import QueryWindow.Proofs.Pattern.Dates
import QueryWindow.Proofs.Pattern.Faithful
import QueryWindow.Proofs.Pattern.Numbers
import QueryWindow.Proofs.Pattern.Ranges
import QueryWindow.Proofs.Pattern.Reach
import QueryWindow.Proofs.Pattern.Reads
import QueryWindow.Proofs.Pattern.RoundTrip
import QueryWindow.Proofs.Pattern.Specifiers
import QueryWindow.Proofs.Pattern.Stored
import QueryWindow.Proofs.Pattern.Telling
import QueryWindow.Proofs.Pattern.Times
import QueryWindow.Proofs.Resolution.Absolute
import QueryWindow.Proofs.Resolution.Decision
import QueryWindow.Proofs.Resolution.Elapsed
import QueryWindow.Proofs.Resolution.FeedBack
import QueryWindow.Proofs.Resolution.Logging
import QueryWindow.Proofs.Resolution.Outcomes
import QueryWindow.Proofs.Resolution.Soundness
import QueryWindow.Proofs.Resolution.Spacing
import QueryWindow.Proofs.Resolution.Transport
import QueryWindow.Proofs.Resolution.Validity
import QueryWindow.Proofs.Text.Numerals
import QueryWindow.Proofs.Text.Quoting
import QueryWindow.Proofs.Text.Trim
import QueryWindow.Proofs.Window.Default
import QueryWindow.Proofs.Window.Direction
import QueryWindow.Proofs.Window.Exact
import QueryWindow.Proofs.Window.Saturation
import QueryWindow.Request
import QueryWindow.Resolution
import QueryWindow.Text.Blank
import QueryWindow.Text.Digits
import QueryWindow.Text.GraphemeExtend
import QueryWindow.Text.Printable
import QueryWindow.Text.Quoted
import QueryWindow.Text.Unassigned
import QueryWindow.Window
