import ServiceProbe.Main
import ServiceProbe.Pool.Handover
import ServiceProbe.Session.Script
import ServiceProbe.Proofs.Pool.Attribution
import ServiceProbe.Proofs.Pool.WorkerBudget
import ServiceProbe.Proofs.Task.Course
import ServiceProbe.Proofs.Task.FirstDecisive
import ServiceProbe.Proofs.Session.Later
import ServiceProbe.Proofs.Summary.Order
import ServiceProbe.Proofs.Pool.Steady
import ServiceProbe.Proofs.LoadTest.Measurement
import ServiceProbe.Proofs.Pool.Delivery
import ServiceProbe.Proofs.Url.Encoding
import ServiceProbe.Proofs.Url.Punycode
import ServiceProbe.Proofs.Url.Cutting
import ServiceProbe.Proofs.Url.Address
import ServiceProbe.Proofs.Url.Host
import ServiceProbe.Proofs.Url.Rereading
import ServiceProbe.Proofs.Http.Addressing
import ServiceProbe.Proofs.Http.Requests
import ServiceProbe.Proofs.Http.Paths
import ServiceProbe.Proofs.Http.Credential
import ServiceProbe.Proofs.Json.Members
import ServiceProbe.Proofs.Task.Bodies
import ServiceProbe.Proofs.Config.Layers
import ServiceProbe.Proofs.Task.TimeLimit
import ServiceProbe.Proofs.Config.Sections
import ServiceProbe.Proofs.Config.Loaders
import ServiceProbe.Proofs.Config.TextSettings
import ServiceProbe.Proofs.Number.Wholes
import ServiceProbe.Proofs.Config.Literals
import ServiceProbe.Proofs.Config.Documents
import ServiceProbe.Proofs.Config.WholeSettings
import ServiceProbe.Proofs.Session.Clock
import ServiceProbe.Proofs.Scenario.Sequence
import ServiceProbe.Proofs.Json.Content
import ServiceProbe.Proofs.Scenario.Evidence
import ServiceProbe.Proofs.Session.Allowance
import ServiceProbe.Proofs.Scenario.Discipline
import ServiceProbe.Proofs.Http.Answers
import ServiceProbe.Proofs.Config.Readiness
import ServiceProbe.Proofs.Number.Monotone
import ServiceProbe.Proofs.Number.Floor
import ServiceProbe.Proofs.Summary.Percentiles
import ServiceProbe.Proofs.Config.Merging
import ServiceProbe.Proofs.Config.Documented
import ServiceProbe.Proofs.Config.Precedence
import ServiceProbe.Proofs.Session.Motion
import ServiceProbe.Proofs.LoadTest.Submissions
import ServiceProbe.Proofs.Http.Sending
import ServiceProbe.Proofs.CommandLine.ExitCode
import ServiceProbe.Proofs.CommandLine.Commands
import ServiceProbe.Proofs.Pool.MoreWorkers
import ServiceProbe.Proofs.Task.LargerBudget
import ServiceProbe.Proofs.Scenario.LongCrawl
import ServiceProbe.Proofs.Scenario.RateLimit
import ServiceProbe.Proofs.Pool.Turns
import ServiceProbe.Proofs.Task.Steps
import ServiceProbe.Proofs.LoadTest.Failures
import ServiceProbe.Proofs.LoadTest.Accounting
import ServiceProbe.Proofs.Scenario.Concurrent
import ServiceProbe.Proofs.Text.Trimming
import ServiceProbe.Proofs.Task.StatusBodies
import ServiceProbe.Proofs.Scenario.Cancellation
import ServiceProbe.Proofs.Summary.Options
import ServiceProbe.Proofs.Task.EndpointNames
import ServiceProbe.Proofs.Summary.Quantiles
import ServiceProbe.Proofs.Task.RoundTrips
import ServiceProbe.Proofs.CommandLine.EndpointTexts
