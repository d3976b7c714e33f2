import RouteWatch.Cluster.Discovery
import RouteWatch.Cluster.Drivers
import RouteWatch.Cluster.Error
import RouteWatch.Cluster.Health
import RouteWatch.Cluster.Manifest
import RouteWatch.Cluster.Objects
import RouteWatch.Cluster.Session
import RouteWatch.Command
import RouteWatch.Command.Json
import RouteWatch.CommandLine.Options
import RouteWatch.CommandLine.Relay
import RouteWatch.CommandLine.Run
import RouteWatch.Config.Basic
import RouteWatch.Config.Printer
import RouteWatch.Config.Reader
import RouteWatch.Convergence
import RouteWatch.Distinct
import RouteWatch.Expectation
import RouteWatch.Host.Session
import RouteWatch.Ip.Address
import RouteWatch.Ip.Printer
import RouteWatch.Ip.Reader
import RouteWatch.Ip.Subnet
import RouteWatch.Json.Printer
import RouteWatch.Json.Reader
import RouteWatch.Json.Value
import RouteWatch.Lab
import RouteWatch.Lab.Status
import RouteWatch.LabSampling
import RouteWatch.Main
import RouteWatch.Match.Neighbor
import RouteWatch.Match.Route
import RouteWatch.Mesh
import RouteWatch.NetworkName
import RouteWatch.Node
import RouteWatch.Plan
import RouteWatch.Poll
import RouteWatch.Proofs.Cluster.Calls
import RouteWatch.Proofs.Cluster.Drivers
import RouteWatch.Proofs.Cluster.Manifests
import RouteWatch.Proofs.Cluster.Nodes
import RouteWatch.Proofs.Command
import RouteWatch.Proofs.Convergence
import RouteWatch.Proofs.Host.Session
import RouteWatch.Proofs.Ip.Networks
import RouteWatch.Proofs.Ip.Numbers
import RouteWatch.Proofs.Ip.RoundTrip
import RouteWatch.Proofs.Items
import RouteWatch.Proofs.Json.RoundTrip
import RouteWatch.Proofs.Lab.Addresses
import RouteWatch.Proofs.Lab.Cleanup
import RouteWatch.Proofs.Lab.Creation
import RouteWatch.Proofs.Lab.Sessions
import RouteWatch.Proofs.Lab.Setup
import RouteWatch.Proofs.Lab.Sharing
import RouteWatch.Proofs.Lab.Site
import RouteWatch.Proofs.Match.Addresses
import RouteWatch.Proofs.Match.DaemonTable
import RouteWatch.Proofs.Match.Headers
import RouteWatch.Proofs.Match.KernelTable
import RouteWatch.Proofs.Match.NeighborSections
import RouteWatch.Proofs.Match.Patterns
import RouteWatch.Proofs.Match.Route
import RouteWatch.Proofs.Mesh
import RouteWatch.Proofs.Mesh.Order
import RouteWatch.Proofs.NetworkName
import RouteWatch.Proofs.Node
import RouteWatch.Proofs.Plan
import RouteWatch.Proofs.Plan.Contradiction
import RouteWatch.Proofs.Plan.Polarity
import RouteWatch.Proofs.Plan.Recipe
import RouteWatch.Proofs.Plan.Triples
import RouteWatch.Proofs.Poll
import RouteWatch.Proofs.Poll.Bounds
import RouteWatch.Proofs.Poll.Detection
import RouteWatch.Proofs.Poll.Instant
import RouteWatch.Proofs.Router.CommandLines
import RouteWatch.Proofs.Router.Configured
import RouteWatch.Proofs.Router.Decoding
import RouteWatch.Proofs.Router.Document
import RouteWatch.Proofs.Router.Reading
import RouteWatch.Proofs.Router.Removal
import RouteWatch.Proofs.Scenario.Account
import RouteWatch.Proofs.Scenario.Checks
import RouteWatch.Proofs.Scenario.Cleanup
import RouteWatch.Proofs.Scenario.Contradiction
import RouteWatch.Proofs.Scenario.Effects
import RouteWatch.Proofs.Scenario.History
import RouteWatch.Proofs.Scenario.Labels
import RouteWatch.Proofs.Scenario.Parts
import RouteWatch.Proofs.Scenario.Passes
import RouteWatch.Proofs.Scenario.Returns
import RouteWatch.Proofs.Scenario.Trace
import RouteWatch.Proofs.Scenario.Withdrawal
import RouteWatch.Proofs.Shell.Line
import RouteWatch.Proofs.Shell.Quote
import RouteWatch.Proofs.Simulation.Cleanup
import RouteWatch.Proofs.Simulation.Converge
import RouteWatch.Proofs.Simulation.DefaultNetwork
import RouteWatch.Proofs.Simulation.Environment
import RouteWatch.Proofs.Simulation.Failover
import RouteWatch.Proofs.Simulation.Faults
import RouteWatch.Proofs.Simulation.FullMesh
import RouteWatch.Proofs.Simulation.Recovery
import RouteWatch.Proofs.Simulation.Selector
import RouteWatch.Proofs.Simulation.Tables
import RouteWatch.Proofs.Simulation.Views
import RouteWatch.Proofs.Simulation.Visible
import RouteWatch.Proofs.Stack
import RouteWatch.Proofs.Text.Words
import RouteWatch.Proofs.Time.Action
import RouteWatch.Proofs.Time.Leads
import RouteWatch.Proofs.Topology
import RouteWatch.Proofs.Topology.Construction
import RouteWatch.Report
import RouteWatch.Router.Container
import RouteWatch.Router.Daemons
import RouteWatch.Router.Document
import RouteWatch.Router.Spec
import RouteWatch.Sampling
import RouteWatch.Scenario.Environment
import RouteWatch.Scenario.Error
import RouteWatch.Scenario.Run
import RouteWatch.Scenario.Work
import RouteWatch.Shell.Quote
import RouteWatch.Simulation.Commands
import RouteWatch.Simulation.Faults
import RouteWatch.Simulation.Scripts
import RouteWatch.Simulation.Tables
import RouteWatch.Simulation.World
import RouteWatch.Stack
import RouteWatch.Table
import RouteWatch.Text.Blank
import RouteWatch.Text.CodePoints
import RouteWatch.Text.Hex
import RouteWatch.Text.Literal
import RouteWatch.Text.Place
import RouteWatch.Text.Quoted
import RouteWatch.Text.Search
import RouteWatch.Text.Utf8
import RouteWatch.Text.WordChar
import RouteWatch.Time.Calendar
import RouteWatch.Time.Seconds
import RouteWatch.Time.Span
import RouteWatch.Time.Timed
import RouteWatch.Toml.Document
import RouteWatch.Toml.Number
import RouteWatch.Toml.Section
import RouteWatch.Toml.Token
import RouteWatch.Toml.Value
import RouteWatch.Topology.Basic
import RouteWatch.Topology.Error
import RouteWatch.Workbench
