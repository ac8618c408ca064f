import FormIntake.Assoc
import FormIntake.Calendar.Date
import FormIntake.Calendar.Instant
import FormIntake.Calendar.IsoText
import FormIntake.Checked
import FormIntake.Double.Basic
import FormIntake.Double.Shortest
import FormIntake.Form.Document
import FormIntake.Form.Members
import FormIntake.Form.Onboarding
import FormIntake.Form.Reader
import FormIntake.Form.Schema
import FormIntake.Json.Basic
import FormIntake.Json.Octets
import FormIntake.Json.Printer
import FormIntake.Json.Reader
import FormIntake.Logging
import FormIntake.Number
import FormIntake.Number.Reading
import FormIntake.Numeral
import FormIntake.Pattern.Matching
import FormIntake.Pattern.Reader
import FormIntake.Pattern.Syntax
import FormIntake.Problem
import FormIntake.Proofs.Calendar.Order
import FormIntake.Proofs.Checked
import FormIntake.Proofs.Number.Order
import FormIntake.Proofs.Text.Blank
import FormIntake.Proofs.Validation.Rules
import FormIntake.RateLimit
import FormIntake.Scalar
import FormIntake.Service.App
import FormIntake.Service.Body
import FormIntake.Service.LogEntry
import FormIntake.Service.Path
import FormIntake.Service.Request
import FormIntake.Service.Route
import FormIntake.Settings
import FormIntake.Submission.Listing
import FormIntake.Submission.MemoryStore
import FormIntake.Submission.Paging
import FormIntake.Submission.Store
import FormIntake.Submission.Table
import FormIntake.Text.Basic
import FormIntake.Text.Blank
import FormIntake.Text.Quoted
import FormIntake.Text.Utf8
import FormIntake.Unicode.Alphanumeric
import FormIntake.Unicode.Digit
import FormIntake.Unicode.Identifier
import FormIntake.Unicode.LetterCase
import FormIntake.Unicode.RangeTable
import FormIntake.Unicode.Unprintable
import FormIntake.Uuid
import FormIntake.Validation
import FormIntake.Validation.Violation
import FormIntake.Proofs.Validation.Judging
import FormIntake.Proofs.Json.Digits
import FormIntake.Proofs.Numeral
import FormIntake.Proofs.Scalar
import FormIntake.Proofs.Form.Accepted
import FormIntake.Proofs.Validation.Checks
import FormIntake.Proofs.Validation.Fields
import FormIntake.Proofs.Validation.Records
import FormIntake.Proofs.Pattern.Recognition
import FormIntake.Proofs.Pattern.Run
import FormIntake.Proofs.Pattern.Notation
import FormIntake.Proofs.Pattern.Tokens
import FormIntake.Proofs.Pattern.Escapes
import FormIntake.Proofs.Pattern.Counts
import FormIntake.Proofs.Pattern.Rows
import FormIntake.Proofs.Pattern.Reading
import FormIntake.Proofs.Onboarding
import FormIntake.Proofs.Submission.Store
import FormIntake.Proofs.Text.Surrogates
import FormIntake.Proofs.Service.Step
import FormIntake.Proofs.Uuid
import FormIntake.Proofs.Service.Reachable
import FormIntake.Proofs.Json.Reader
import FormIntake.Proofs.Service.Frame
import FormIntake.Proofs.Service.Run
import FormIntake.Proofs.Submission.Steps
import FormIntake.Proofs.Submission.Agreement
import FormIntake.Proofs.RateLimit.Run
import FormIntake.Proofs.RateLimit.Bursts
import FormIntake.Proofs.RateLimit.Table
import FormIntake.Proofs.RateLimit.Waits
import FormIntake.Proofs.Form.Grammar
import FormIntake.Proofs.Form.Acceptance
import FormIntake.Proofs.Form.RoundTrip
import FormIntake.Proofs.Validation.Reports
import FormIntake.Proofs.Service.Preview
import FormIntake.Proofs.Json.Encoding
import FormIntake.Proofs.Submission.Paging
import FormIntake.Proofs.Submission.QueryNumbers
import FormIntake.Proofs.Service.Listing
import FormIntake.Proofs.Service.Deletion
import FormIntake.Proofs.Validation.Independence
import FormIntake.Proofs.Double.Quotient
import FormIntake.Proofs.Submission.Pages
import FormIntake.Proofs.Validation.Relaxing
import FormIntake.Proofs.Submission.Clients
import FormIntake.Proofs.Submission.Interleaving
import FormIntake.Proofs.Submission.Sorting
import FormIntake.Proofs.Calendar.Numbering
import FormIntake.Proofs.Calendar.Weeks
import FormIntake.Proofs.Calendar.Places
import FormIntake.Proofs.Calendar.Clock
import FormIntake.Proofs.Calendar.Spellings
import FormIntake.Proofs.Calendar.Moments
import FormIntake.Proofs.Double.Nearest
import FormIntake.Proofs.Double.Whole
import FormIntake.Proofs.Submission.PageCount
import FormIntake.Proofs.Number.Literals
import FormIntake.Proofs.Number.Spellings
import FormIntake.Proofs.Validation.Exactness
import FormIntake.Proofs.Validation.EarliestDays
import FormIntake.Proofs.Validation.Patterns
import FormIntake.Proofs.Validation.Padding
import FormIntake.Proofs.Origins
import FormIntake.Proofs.Logging
import FormIntake.Proofs.Relocation
import FormIntake.Proofs.Form.Members
import FormIntake.Proofs.Form.Spellings
import FormIntake.Proofs.Form.Respelling
import FormIntake.Json.Nesting
import FormIntake.Json.Texts
import FormIntake.Proofs.Assoc
import FormIntake.Proofs.Json.Parts
import FormIntake.Proofs.Json.Texts
import FormIntake.Proofs.Onboarding.ReadBack
import FormIntake.Text.Surrogates
import FormIntake.Unicode.Name
import FormIntake.Unicode.NameTable
