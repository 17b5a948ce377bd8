import MiniGateway.TransitionSystem
import MiniGateway.Token
import MiniGateway.StraightLine
import MiniGateway.EarliestDue
import MiniGateway.EarliestDue.Response
import MiniGateway.Tally
import MiniGateway.Lease
import MiniGateway.Throwing
import MiniGateway.Binary64
import MiniGateway.Binary64.Arithmetic
import MiniGateway.Binary64.Nearest
import MiniGateway.Binary64.Digits
import MiniGateway.JsonText
import MiniGateway.JsonText.Reads
import MiniGateway.JsonText.Numbers
import MiniGateway.Utf8
import MiniGateway.Model
import MiniGateway.Decimal
import MiniGateway.Conversion
import MiniGateway.Config.Types
import MiniGateway.Normalizer
import MiniGateway.Processing
import MiniGateway.Config.Parse
import MiniGateway.Config.Accepted
import MiniGateway.Finiteness
import MiniGateway.Normalizer.Integers
import MiniGateway.Normalizer.Soundness
import MiniGateway.Normalizer.Batches
import MiniGateway.Normalizer.EventIds
import MiniGateway.BoundedQueue
import MiniGateway.BoundedQueue.Waiting
import MiniGateway.ControlQueue
import MiniGateway.DataPath
import MiniGateway.Delivery
import MiniGateway.Processing.Windows
import MiniGateway.Processing.Appending
import MiniGateway.Config.Durations
import MiniGateway.Scheduler.Policy
import MiniGateway.Runtime.Parts
import MiniGateway.Config.Runnable
import MiniGateway.Config.Schema
import MiniGateway.Config.Diagnostics
import MiniGateway.Config.Verdict
import MiniGateway.Config.Render
import MiniGateway.Config.RoundTrip
import MiniGateway.Scheduler.Engine
import MiniGateway.Scheduler.Drift
import MiniGateway.Scheduler.Overtaking
import MiniGateway.Scheduler.Stopping
import MiniGateway.Scheduler.Sleeping
import MiniGateway.Scheduler.Punctual
import MiniGateway.Dispatcher.State
import MiniGateway.Dispatcher.Step
import MiniGateway.Dispatcher.Execute
import MiniGateway.Dispatcher.Cases
import MiniGateway.Dispatcher.Invariant
import MiniGateway.Dispatcher.Ledger
import MiniGateway.Dispatcher.Completion
import MiniGateway.Dispatcher.Joining
import MiniGateway.Dispatcher.Accounting
import MiniGateway.Dispatcher.Progress
import MiniGateway.Dispatcher.Statistics
import MiniGateway.Plugins.Path
import MiniGateway.Plugins.Registry
import MiniGateway.Plugins.Loaded
import MiniGateway.Plugins.Contract
import MiniGateway.Plugins.Growth
import MiniGateway.Plugins.Lifetime
import MiniGateway.Plugins.Ownership
import MiniGateway.Plugins.Unloading
import MiniGateway.Plugins.Creation
import MiniGateway.Mqtt.Payload
import MiniGateway.Mqtt.WellFormed
import MiniGateway.Mqtt.Numbers
import MiniGateway.Mqtt.Faithful
import MiniGateway.PayloadStream
import MiniGateway.Mqtt.Topic
import MiniGateway.Mqtt.Client
import MiniGateway.Mqtt.Cases
import MiniGateway.Mqtt.Handle
import MiniGateway.Mqtt.Discipline
import MiniGateway.Runtime.Program
import MiniGateway.Runtime.Lifecycle
import MiniGateway.Runtime.Phase
import MiniGateway.Runtime.Step
import MiniGateway.Runtime.Cases
import MiniGateway.Runtime.Calls
import MiniGateway.Runtime.Use
import MiniGateway.Runtime.Polling
import MiniGateway.Runtime.Control
import MiniGateway.Runtime.Gates
import MiniGateway.Runtime.Shutdown
import MiniGateway.Runtime.Accounting
import MiniGateway.Runtime.Callbacks
import MiniGateway.Runtime.Progress
import MiniGateway.Runtime.Returns
import MiniGateway.Runtime.Deadlock
import MiniGateway.Runtime.Windows
