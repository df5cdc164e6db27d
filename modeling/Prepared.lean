import Prepared.Json.Read
import Prepared.Json.Write
import Prepared.Log.Message
import Prepared.Log.Registry
import Prepared.Log.History
import Prepared.Session.Run
import Prepared.Proofs.Template.Cut
import Prepared.Proofs.Rewrite.Substitution
import Prepared.Proofs.Session.Task
import Prepared.Proofs.Connection.Queue
import Prepared.Proofs.Session.Move
import Prepared.Proofs.Session.Waiting
import Prepared.Proofs.Session.Exclusion
import Prepared.Proofs.Session.RoundTrip
import Prepared.Proofs.Session.Release
import Prepared.Proofs.Session.Schedule
import Prepared.Proofs.Number.Digits
import Prepared.Proofs.Template.Probe
import Prepared.Proofs.Template.Outline
import Prepared.Proofs.Rewrite.Filling
import Prepared.Proofs.Rewrite.Agreement
import Prepared.Proofs.Rewrite.Independence
import Prepared.Proofs.Rewrite.Detection
import Prepared.Proofs.Rewrite.Numbering
import Prepared.Proofs.Number.Spelling
import Prepared.Proofs.Literal.Scanner
import Prepared.Proofs.Rewrite.Reading
import Prepared.Proofs.Session.Outcome
import Prepared.Proofs.Session.Recast
import Prepared.Proofs.Session.Once
import Prepared.Proofs.Connection.Line
import Prepared.Proofs.Session.Order
import Prepared.Proofs.Session.Cancellation
import Prepared.Proofs.Rewrite.Completion
import Prepared.Proofs.Rewrite.Stopping
import Prepared.Proofs.Rewrite.Quoting
import Prepared.Proofs.Rewrite.Refusal
import Prepared.Proofs.Session.Failure
import Prepared.Proofs.Log.Namespace
import Prepared.Proofs.Log.Delivery
import Prepared.Proofs.Log.Line
import Prepared.Proofs.Session.Alone
import Prepared.Proofs.Session.Modes
import Prepared.Proofs.Json.Token
import Prepared.Proofs.Json.Reading
import Prepared.Proofs.Template.Search
import Prepared.Proofs.Rewrite.Sequence
import Prepared.Proofs.Literal.Strings
import Prepared.Proofs.Number.Notation
import Prepared.Proofs.Literal.Number
import Prepared.Proofs.Literal.Standard
import Prepared.Proofs.Rewrite.Trace
import Prepared.Proofs.Session.Warning
import Prepared.Proofs.Text.Utf8
import Prepared.Proofs.Rewrite.Octets
import Prepared.Proofs.Number.Denotation
import Prepared.Proofs.Number.Rounding
import Prepared.Proofs.Rewrite.Exactness
import Prepared.Proofs.Error.Guard
import Prepared.Proofs.Log.Mark
import Prepared.Proofs.Session.Telling
import Prepared.Proofs.Log.Field
import Prepared.Proofs.Operation.Leading
import Prepared.Proofs.Config.Copy
import Prepared.Proofs.Operation.Leading
import Prepared.Proofs.Config.Copy
