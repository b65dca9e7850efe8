import Leadership.Config.Exchange
import Leadership.Config.File
import Leadership.Session
import Leadership.Proofs.Fleet.History
import Leadership.Proofs.Fleet.Schedule
import Leadership.Proofs.Fleet.Shifts
import Leadership.Proofs.Fleet.Calls
import Leadership.Proofs.Session.Steady
import Leadership.Proofs.Session.Hosting
import Leadership.Proofs.Session.Answers
import Leadership.Proofs.Session.Questions
import Leadership.Proofs.Session.Calls
import Leadership.Proofs.Session.LeadLines
import Leadership.Proofs.Routing.Agreement
import Leadership.Proofs.Routing.Cluster
import Leadership.Proofs.Routing.Consultations
import Leadership.Proofs.Routing.MemberOrder
import Leadership.Proofs.Routing.OwnEndpoint
import Leadership.Proofs.Fault.Wording
import Leadership.Proofs.Routing.RecordedFault
import Leadership.Proofs.Wait.Outcome
import Leadership.Proofs.Wait.Polls
import Leadership.Proofs.Wait.Watch
import Leadership.Proofs.Wait.Clock
import Leadership.Proofs.Endpoint.RoundTrip
import Leadership.Proofs.Json.Strings
import Leadership.Proofs.Json.Values
import Leadership.Proofs.Toml.Escapes
import Leadership.Proofs.Toml.Strings
import Leadership.Proofs.Toml.Items
import Leadership.Proofs.Toml.Lines
import Leadership.Proofs.Toml.Bounds
import Leadership.Proofs.Config.Exchange
import Leadership.Proofs.Config.SaveLoad
import Leadership.Proofs.Config.Reload
import Leadership.Proofs.Config.Violations
import Leadership.Proofs.Config.FailedSave
import Leadership.Proofs.Decode.Kinds
import Leadership.Proofs.Decode.Flaws
import Leadership.Proofs.Decode.Restated
import Leadership.Proofs.Routing.StatusText
import Leadership.Proofs.Span.Text
import Leadership.Proofs.Wait.TimeoutText
