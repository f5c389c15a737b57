import WorkBridge.Main
import WorkBridge.Metrics.Exposition
import WorkBridge.Proofs.Feed.PendingPush
import WorkBridge.Proofs.Feed.FreshSync
import WorkBridge.Proofs.Link.Reconnects
import WorkBridge.Proofs.Link.Guards
import WorkBridge.Proofs.Feed.Staleness
import WorkBridge.Proofs.Feed.Ending
import WorkBridge.Proofs.Stats.Ending
import WorkBridge.Proofs.Cancellation
import WorkBridge.Proofs.Connection.Calls
import WorkBridge.Proofs.Connection.Clients
import WorkBridge.Proofs.Metrics.Reading
import WorkBridge.Proofs.Connection.Record
import WorkBridge.Proofs.Feed.Pace
import WorkBridge.Proofs.Feed.Pacing
import WorkBridge.Proofs.Feed.Line
import WorkBridge.Proofs.Manager.Step
import WorkBridge.Proofs.Service.Machine
import WorkBridge.Proofs.Connection.Line
import WorkBridge.Proofs.Service.Step
import WorkBridge.Proofs.Service.Crew
import WorkBridge.Proofs.Service.Line
import WorkBridge.Proofs.Service.Start
import WorkBridge.Proofs.Service.Clients
import WorkBridge.Proofs.Service.Ending
import WorkBridge.Proofs.Service.Shutdown
import WorkBridge.Proofs.Timers
import WorkBridge.Proofs.Feed.Attempts
import WorkBridge.Proofs.Feed.Gauge
import WorkBridge.Proofs.Feed.Tokens
import WorkBridge.Proofs.Service.Turns
import WorkBridge.Proofs.Service.Renewal
import WorkBridge.Proofs.Metrics.Requests
import WorkBridge.Proofs.Link.Attempts
import WorkBridge.Proofs.Link.Accounting
import WorkBridge.Proofs.Service.Sampling
import WorkBridge.Proofs.Feed.Spacing
import WorkBridge.Proofs.Sync.Waiting
import WorkBridge.Proofs.Link.Acts
import WorkBridge.Proofs.Link.Renewing
import WorkBridge.Proofs.Link.Silence
import WorkBridge.Proofs.Url.Scheme
import WorkBridge.Proofs.Node.Address
import WorkBridge.Proofs.Stats.Spacing
import WorkBridge.Proofs.Signals
import WorkBridge.Proofs.Node.Decoding
import WorkBridge.Proofs.Options.Resolution
import WorkBridge.Proofs.Reports
