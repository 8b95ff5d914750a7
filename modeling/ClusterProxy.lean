import ClusterProxy.Bytes
import ClusterProxy.Command.Basic
import ClusterProxy.Command.Call
import ClusterProxy.Domain.Basic
import ClusterProxy.Domain.Direction
import ClusterProxy.Domain.Joining
import ClusterProxy.Domain.Punycode
import ClusterProxy.Domain.Repertoire
import ClusterProxy.Domain.Replacement
import ClusterProxy.Fault
import ClusterProxy.Frame.Basic
import ClusterProxy.Frame.Decoder
import ClusterProxy.Frame.Scan
import ClusterProxy.Json.Reader
import ClusterProxy.Json.Value
import ClusterProxy.Json.Writer
import ClusterProxy.Request
import ClusterProxy.Router.Action
import ClusterProxy.Router.Basic
import ClusterProxy.Router.Bootstrap
import ClusterProxy.Router.Docket
import ClusterProxy.Router.InFlight
import ClusterProxy.Router.Phase
import ClusterProxy.Router.Reply
import ClusterProxy.Router.Route
import ClusterProxy.Search
import ClusterProxy.Settings.Basic
import ClusterProxy.Settings.Seed
import ClusterProxy.Settings.Text
import ClusterProxy.Slot
import ClusterProxy.SlotGroup
import ClusterProxy.Text.CharTable
import ClusterProxy.Text.Composition
import ClusterProxy.Text.Digits
import ClusterProxy.Text.Mark
import ClusterProxy.Text.Utf8
import ClusterProxy.Text.Words
import ClusterProxy.Topology.Dump
import ClusterProxy.Topology.Node
import ClusterProxy.Topology.Reading
import ClusterProxy.Topology.Store
import ClusterProxy.Topology.Table
import ClusterProxy.Url.Basic
import ClusterProxy.Url.Host
import ClusterProxy.Url.Ipv6
import ClusterProxy.Proofs.Frame.Steady
import ClusterProxy.Proofs.Frame.Extent
import ClusterProxy.Proofs.Frame.Stream
import ClusterProxy.Proofs.Frame.Limit
import ClusterProxy.Proofs.Topology.Table
import ClusterProxy.Proofs.Router.Step
import ClusterProxy.Proofs.Router.InStep
import ClusterProxy.Proofs.Router.Progress
import ClusterProxy.Proofs.Frame.Header
import ClusterProxy.Proofs.Frame.Tree
import ClusterProxy.Proofs.Frame.Layout
import ClusterProxy.Proofs.Frame.Grammar
import ClusterProxy.Proofs.Router.Cluster
import ClusterProxy.Proofs.Router.Healing
import ClusterProxy.Proofs.Router.Exchange
import ClusterProxy.Proofs.Router.Routing
import ClusterProxy.Proofs.Topology.Dump
import ClusterProxy.Proofs.Topology.History
import ClusterProxy.Proofs.Frame.Allowance
import ClusterProxy.Proofs.Frame.Message
import ClusterProxy.Proofs.Frame.Excerpt
import ClusterProxy.Proofs.Splitting
import ClusterProxy.Proofs.Router.Docket
import ClusterProxy.Proofs.Router.Consistency
import ClusterProxy.Proofs.Router.ErrorReply
import ClusterProxy.Proofs.Router.Failover
import ClusterProxy.Proofs.Process.Basic
import ClusterProxy.Proofs.Process.Isolation
import ClusterProxy.Proofs.Ipv6
import ClusterProxy.Proofs.Address
import ClusterProxy.Proofs.Seed
import ClusterProxy.Proofs.Process.Hosts
import ClusterProxy.Proofs.Topology.Resolving
import ClusterProxy.Proofs.Topology.NodeLine
import ClusterProxy.Proofs.Frame.Verdicts
import ClusterProxy.Proofs.Command
import ClusterProxy.Proofs.LetterCase
import ClusterProxy.Proofs.Text.Utf8
import ClusterProxy.Proofs.Text.Numbers
import ClusterProxy.Proofs.KeyPlaces
import ClusterProxy.Proofs.Slot
import ClusterProxy.Proofs.Partition
import ClusterProxy.Proofs.Process.Heeding
import ClusterProxy.Proofs.Router.Owners
import ClusterProxy.Proofs.Router.Counters
import ClusterProxy.Proofs.Frame.Guarded
import ClusterProxy.Proofs.Json
import ClusterProxy.Proofs.Settings
