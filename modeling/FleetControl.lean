import FleetControl.Address
import FleetControl.CommandLine
import FleetControl.Engine.Arguments
import FleetControl.Engine.Authority
import FleetControl.Engine.Certificate
import FleetControl.Engine.Child
import FleetControl.Engine.Material
import FleetControl.Error
import FleetControl.Files.Directory
import FleetControl.Files.OsPath
import FleetControl.Files.Path
import FleetControl.Files.Step
import FleetControl.Files.Tree
import FleetControl.Fleet.Bootstrap
import FleetControl.Fleet.Call
import FleetControl.Fleet.Discovery
import FleetControl.Fleet.Layout
import FleetControl.Fleet.Monitor
import FleetControl.Fleet.State
import FleetControl.Fleet.System
import FleetControl.Fleet.View
import FleetControl.Keyed
import FleetControl.Log
import FleetControl.Main
import FleetControl.Member.Config
import FleetControl.Member.Record
import FleetControl.Member.Status
import FleetControl.Metrics.Exposition
import FleetControl.Metrics.Server
import FleetControl.Metrics.Store
import FleetControl.Network.Client
import FleetControl.Network.Deadline
import FleetControl.Network.EndpointIndex
import FleetControl.Network.HostName
import FleetControl.Network.IpAddress
import FleetControl.Network.Probe
import FleetControl.Network.Uri
import FleetControl.Number.Binary64
import FleetControl.Number.Decimal
import FleetControl.Number.Word
import FleetControl.Proofs.Address
import FleetControl.Proofs.Course
import FleetControl.Proofs.Engine.Arguments
import FleetControl.Proofs.Engine.Authorities
import FleetControl.Proofs.Engine.Certificate
import FleetControl.Proofs.Engine.Coverage
import FleetControl.Proofs.Engine.Issuance
import FleetControl.Proofs.Engine.Material
import FleetControl.Proofs.Engine.Succession
import FleetControl.Proofs.Files.Components
import FleetControl.Proofs.Files.Growth
import FleetControl.Proofs.Files.Ordinary
import FleetControl.Proofs.Files.Paving
import FleetControl.Proofs.Files.Removal
import FleetControl.Proofs.Files.Rooted
import FleetControl.Proofs.Files.Spelling
import FleetControl.Proofs.Files.Wiping
import FleetControl.Proofs.Files.Writing
import FleetControl.Proofs.Fleet.Abandonment
import FleetControl.Proofs.Fleet.Addresses
import FleetControl.Proofs.Fleet.Aftermath
import FleetControl.Proofs.Fleet.Agreement
import FleetControl.Proofs.Fleet.AllOrNothing
import FleetControl.Proofs.Fleet.Apart
import FleetControl.Proofs.Fleet.Change
import FleetControl.Proofs.Fleet.Closing
import FleetControl.Proofs.Fleet.Completion
import FleetControl.Proofs.Fleet.Cooldown
import FleetControl.Proofs.Fleet.Custody
import FleetControl.Proofs.Fleet.Departure
import FleetControl.Proofs.Fleet.Descriptor
import FleetControl.Proofs.Fleet.Discovery
import FleetControl.Proofs.Fleet.Endpoints
import FleetControl.Proofs.Fleet.Fresh
import FleetControl.Proofs.Fleet.Gauges
import FleetControl.Proofs.Fleet.Healing
import FleetControl.Proofs.Fleet.Identity
import FleetControl.Proofs.Fleet.Inheritance
import FleetControl.Proofs.Fleet.Isolation
import FleetControl.Proofs.Fleet.Layout
import FleetControl.Proofs.Fleet.Leadership
import FleetControl.Proofs.Fleet.Ledger
import FleetControl.Proofs.Fleet.Lineage
import FleetControl.Proofs.Fleet.Lock
import FleetControl.Proofs.Fleet.Occupation
import FleetControl.Proofs.Fleet.Ownership
import FleetControl.Proofs.Fleet.Passage
import FleetControl.Proofs.Fleet.Ports
import FleetControl.Proofs.Fleet.Probes
import FleetControl.Proofs.Fleet.Pursuit
import FleetControl.Proofs.Fleet.Quiet
import FleetControl.Proofs.Fleet.Reach
import FleetControl.Proofs.Fleet.Readiness
import FleetControl.Proofs.Fleet.Records
import FleetControl.Proofs.Fleet.Restart
import FleetControl.Proofs.Fleet.Round
import FleetControl.Proofs.Fleet.Search
import FleetControl.Proofs.Fleet.Security
import FleetControl.Proofs.Fleet.Sequences
import FleetControl.Proofs.Fleet.Serial
import FleetControl.Proofs.Fleet.Setback
import FleetControl.Proofs.Fleet.Shutdown
import FleetControl.Proofs.Fleet.Stale
import FleetControl.Proofs.Fleet.Standing
import FleetControl.Proofs.Fleet.Start
import FleetControl.Proofs.Fleet.Step
import FleetControl.Proofs.Fleet.Stopping
import FleetControl.Proofs.Fleet.Stride
import FleetControl.Proofs.Fleet.Tally
import FleetControl.Proofs.Fleet.Titles
import FleetControl.Proofs.Fleet.Turn
import FleetControl.Proofs.Fleet.Unobserved
import FleetControl.Proofs.Fleet.Unwinding
import FleetControl.Proofs.Fleet.Visit
import FleetControl.Proofs.Fleet.Watch
import FleetControl.Proofs.Fleet.Whereabouts
import FleetControl.Proofs.Member.Snapshot
import FleetControl.Proofs.Network.Cancellation
import FleetControl.Proofs.Network.Lookup
import FleetControl.Proofs.Number.Hexadecimal
import FleetControl.Proofs.Settings.Acceptance
import FleetControl.Proofs.Settings.Leaves
import FleetControl.Proofs.Settings.Override
import FleetControl.Proofs.Settings.Precedence
import FleetControl.Proofs.Settings.Schema
import FleetControl.Proofs.Simulation.Beats
import FleetControl.Proofs.Simulation.Calls
import FleetControl.Proofs.Simulation.Cues
import FleetControl.Proofs.Simulation.GroundTruth
import FleetControl.Proofs.Simulation.InFlight
import FleetControl.Proofs.Simulation.Mirror
import FleetControl.Proofs.Simulation.Muster
import FleetControl.Proofs.Simulation.Rounds
import FleetControl.Proofs.Text.RelativeTime
import FleetControl.Settings.Basic
import FleetControl.Settings.Coercion
import FleetControl.Settings.Data
import FleetControl.Settings.Environment
import FleetControl.Settings.Layer
import FleetControl.Settings.Load
import FleetControl.Simulation.Host
import FleetControl.Simulation.Presets
import FleetControl.Simulation.Rehearsal
import FleetControl.Simulation.Script
import FleetControl.Simulation.Shell
import FleetControl.Simulation.SimulatedFleet
import FleetControl.Simulation.Surroundings
import FleetControl.Simulation.Timeline
import FleetControl.Text.Blank
import FleetControl.Text.ByteSize
import FleetControl.Text.Hidden
import FleetControl.Text.LowerCase
import FleetControl.Text.Place
import FleetControl.Text.Quoted
import FleetControl.Text.RelativeTime
import FleetControl.Text.Span
import FleetControl.Tls
import FleetControl.Toml.Document
import FleetControl.Toml.Key
import FleetControl.Toml.Scalar
import FleetControl.Toml.Scan
import FleetControl.Toml.Table
import FleetControl.Toml.Text
import FleetControl.Value
