import Routing.Application.Deployment
import Routing.Value.Unordered
import Routing.Watch
import Routing.Proofs.Assoc
import Routing.Proofs.Directive.Fields
import Routing.Proofs.Directive.Lines
import Routing.Proofs.Directive.Layout
import Routing.Proofs.Table.Source
import Routing.Proofs.Binding.Refusals
import Routing.Proofs.Expansion.Builds
import Routing.Proofs.Expansion.Again
import Routing.Proofs.Reverse.Search
import Routing.Proofs.Table.Announcing
import Routing.Proofs.Table.Compilation
import Routing.Proofs.Table.LineNumbers
import Routing.Proofs.Step.Agrees
import Routing.Proofs.Binding.Strictness
import Routing.Proofs.Table.Alike
import Routing.Proofs.Reverse.Strictness
import Routing.Proofs.Table.Delivery
import Routing.Proofs.Plugin.Attached
import Routing.Proofs.Plugin.Hearing
import Routing.Proofs.Plugin.Newcomer
import Routing.Proofs.Session.Calls
import Routing.Proofs.Step.Blind
import Routing.Proofs.Session.Requests
import Routing.Proofs.Session.Resemblance
import Routing.Proofs.Session.FailedAttach
import Routing.Proofs.Session.Following
import Routing.Proofs.Session.Switches
import Routing.Proofs.Table.Watched
import Routing.Proofs.Store.Targets
import Routing.Proofs.Store.InTurn
import Routing.Proofs.Store.Alike
import Routing.Proofs.Store.Settled
import Routing.Proofs.Store.Accepted
import Routing.Proofs.Handler.Trace
import Routing.Proofs.Handler.Layers
import Routing.Proofs.Host.Serving
import Routing.Proofs.Session.Delivery
import Routing.Proofs.Host.Alike
import Routing.Proofs.Plugin.Passing
import Routing.Proofs.Session.Twins
import Routing.Proofs.Session.Reporting
import Routing.Proofs.Table.Again
import Routing.Proofs.Session.Interleaving
import Routing.Proofs.Controller.Kinds
import Routing.Proofs.Controller.Uses
import Routing.Proofs.Host.Deliveries
import Routing.Proofs.Host.Wildcards
import Routing.Proofs.Table.Lifecycle
import Routing.Proofs.Pattern.Filling
import Routing.Proofs.Binding.Places
import Routing.Proofs.Binding.Objects
import Routing.Proofs.Binding.Agreement
import Routing.Proofs.Binding.Splitting
import Routing.Proofs.Store.Changes
import Routing.Proofs.Plugin.Configuring
import Routing.Proofs.Plugin.SeveralTargets
import Routing.Proofs.Store.Marks
import Routing.Proofs.Store.BaseFirst
import Routing.Proofs.Session.Diary
import Routing.Proofs.Session.InForce
import Routing.Proofs.Session.LastSwitch
import Routing.Proofs.Table.Readings
import Routing.Proofs.Table.Naming
import Routing.Proofs.Text.Replacing
import Routing.Proofs.Text.Trimming
import Routing.Proofs.Controller.Homes
import Routing.Proofs.Expansion.Collisions
import Routing.Proofs.Binding.Contributions
import Routing.Proofs.Pattern.Occurrences
import Routing.Proofs.Binding.Completed
import Routing.Proofs.Plugin.Flags
import Routing.Proofs.Table.Grouping
import Routing.Proofs.Session.Introspection
import Routing.Proofs.Session.Index
import Routing.Proofs.Session.Bookkeeping
import Routing.Proofs.Creation
