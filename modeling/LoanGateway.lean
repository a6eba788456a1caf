import LoanGateway.Text.Blank
import LoanGateway.Text.Lowercase
import LoanGateway.Text.Quoted
import LoanGateway.Duration
import LoanGateway.Json.Draft
import LoanGateway.Json.Printer
import LoanGateway.Calendar.DateText
import LoanGateway.Failure.Gateway
import LoanGateway.Backend.Resource
import LoanGateway.Backend.Verdict
import LoanGateway.Http.Wire
import LoanGateway.Settings.Error
import LoanGateway.Token.Answer
import LoanGateway.Token.Cache
import LoanGateway.Session.Cookie
import LoanGateway.Bundle.Encoding
import LoanGateway.Bundle.Decoding
import LoanGateway.Url.Endpoint
import LoanGateway.Settings.Backend
import LoanGateway.Retry.Policy
import LoanGateway.Session.Schedule
import LoanGateway.Session.Authenticator
import LoanGateway.Retry.Source
import LoanGateway.Client.Operation
import LoanGateway.Client.Assembly
import LoanGateway.Proofs.Session.Steps
import LoanGateway.Proofs.Session.Gate
import LoanGateway.Proofs.Http.Headers
import LoanGateway.Proofs.Session.Blocks
import LoanGateway.Proofs.Session.Reuse
import LoanGateway.Proofs.Client.Refusal
import LoanGateway.Client.Errands
import LoanGateway.Proofs.Client.LateRefusal
import LoanGateway.Proofs.Session.Alone
import LoanGateway.Proofs.Client.Alone
import LoanGateway.Proofs.Session.History
import LoanGateway.Proofs.Session.Failures
import LoanGateway.Proofs.Session.Freshness
import LoanGateway.Proofs.Session.Headers
import LoanGateway.Proofs.Json.StringLiteral
import LoanGateway.Proofs.Text.Digits
import LoanGateway.Proofs.Json.NumberLiteral
import LoanGateway.Proofs.Json.Structure
import LoanGateway.Proofs.Json.Tokens
import LoanGateway.Proofs.Json.RoundTrip
import LoanGateway.Proofs.Calendar.RoundTrip
import LoanGateway.Proofs.Json.Members
import LoanGateway.Proofs.Bundle.Messages
import LoanGateway.Proofs.Bundle.RoundTrip
import LoanGateway.Proofs.Bundle.Format
import LoanGateway.Proofs.Client.Effects
import LoanGateway.Proofs.Bundle.Submission
import LoanGateway.Proofs.Bundle.Location
import LoanGateway.Proofs.Url.Segments
import LoanGateway.Proofs.Settings.Reach
import LoanGateway.Proofs.Backend.Meaning
import LoanGateway.Proofs.Client.Agreement
import LoanGateway.Proofs.Client.Discretion
import LoanGateway.Proofs.Session.Rounds
import LoanGateway.Proofs.Session.Repetition
import LoanGateway.Proofs.Session.Cookies
import LoanGateway.Proofs.Url.Authority
import LoanGateway.Proofs.Url.Reference
import LoanGateway.Proofs.Url.Nameless
import LoanGateway.Proofs.Client.Bisimulation
import LoanGateway.Proofs.Session.Twins
import LoanGateway.Proofs.Client.Secrecy
import LoanGateway.Proofs.Token.Answer
import LoanGateway.Proofs.Session.Single
import LoanGateway.Proofs.Retry.Execution
import LoanGateway.Proofs.Client.Assembly
import LoanGateway.Retry.Loop
import LoanGateway.Proofs.Retry.Loop
import LoanGateway.Proofs.Json.Grammar
import LoanGateway.Proofs.Json.Lexemes
import LoanGateway.Proofs.Json.Recognition
import LoanGateway.Proofs.Json.Escapes
import LoanGateway.Proofs.Backend.Bodies
import LoanGateway.Proofs.Backend.Decision
import LoanGateway.Proofs.Backend.Structured
import LoanGateway.Proofs.Client.Reading
import LoanGateway.Proofs.Session.SentBack
import LoanGateway.Proofs.Token.History
import LoanGateway.Proofs.Settings.Written
import LoanGateway.Proofs.Settings.Reference
import LoanGateway.Proofs.Floating.Arithmetic
import LoanGateway.Proofs.Retry.Delay
import LoanGateway.Proofs.Session.Merging
import LoanGateway.Proofs.Text.Lowercase
import LoanGateway.Proofs.Http.Lookup
