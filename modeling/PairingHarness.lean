import PairingHarness.CommandLine.Arguments
import PairingHarness.CommandLine.Command
import PairingHarness.CommandLine.Report
import PairingHarness.Conformance
import PairingHarness.Decimal
import PairingHarness.Decimal.Shortest
import PairingHarness.Decimal.Tenths
import PairingHarness.Dictionary
import PairingHarness.Double
import PairingHarness.Failure
import PairingHarness.Frame.Handshake
import PairingHarness.Frame.Link
import PairingHarness.Frame.Record
import PairingHarness.Frame.Relay
import PairingHarness.Host.Descendants
import PairingHarness.Host.Machine
import PairingHarness.Host.Stat
import PairingHarness.Host.Table
import PairingHarness.Json.Escaped
import PairingHarness.Json.Fault
import PairingHarness.Json.Reader
import PairingHarness.Json.Skip
import PairingHarness.Json.Token
import PairingHarness.Json.Value
import PairingHarness.Main
import PairingHarness.Network.Service
import PairingHarness.Network.Session
import PairingHarness.Network.Url
import PairingHarness.Network.World
import PairingHarness.Payload
import PairingHarness.Rehearsal.Script
import PairingHarness.Rehearsal.Shell.Actor
import PairingHarness.Rehearsal.Shell.Command
import PairingHarness.Rehearsal.Shell.Expansion
import PairingHarness.Rehearsal.Shell.Play
import PairingHarness.Rehearsal.Shell.Programs
import PairingHarness.Rehearsal.Shell.Reader
import PairingHarness.Rehearsal.Shell.Token
import PairingHarness.Rehearsal.Shell.Utility
import PairingHarness.Scenario.Chance
import PairingHarness.Scenario.Kind
import PairingHarness.Scenario.Run
import PairingHarness.Scenario.Timing
import PairingHarness.Settings.Basic
import PairingHarness.Settings.LaunchEnv
import PairingHarness.Settings.Limits
import PairingHarness.Supervisor
import PairingHarness.Text.Base64
import PairingHarness.Text.Blank
import PairingHarness.Text.Concealed
import PairingHarness.Text.Letter
import PairingHarness.Text.Quoted
import PairingHarness.Text.Toml
import PairingHarness.Text.Utf8
import PairingHarness.Proofs.Network.Run
import PairingHarness.Proofs.Network.Session
import PairingHarness.Proofs.Network.Course
import PairingHarness.Proofs.Network.Permanence
import PairingHarness.Proofs.Network.Delivery
import PairingHarness.Proofs.Network.Opening
import PairingHarness.Proofs.Network.Dropped
import PairingHarness.Proofs.Network.Attempt
import PairingHarness.Proofs.Network.Aside
import PairingHarness.Proofs.Scenario.MaxExchange
import PairingHarness.Proofs.Dictionary
import PairingHarness.Proofs.Settings.Overrides
import PairingHarness.Proofs.Settings.LaunchEnv
import PairingHarness.Proofs.Settings.Variables
import PairingHarness.Proofs.Text.Letter
import PairingHarness.Proofs.Traversal
import PairingHarness.Proofs.Conformance
import PairingHarness.Proofs.CommandLine.Overrides
import PairingHarness.Proofs.CommandLine.Checking
import PairingHarness.Proofs.CommandLine.Report
import PairingHarness.Proofs.Json.Grammar
import PairingHarness.Proofs.Json.Token
import PairingHarness.Proofs.Json.Numeral
import PairingHarness.Proofs.Json.Bracket
import PairingHarness.Proofs.Json.Value
import PairingHarness.Proofs.Json.Skip
import PairingHarness.Proofs.Json.Encodable
import PairingHarness.Proofs.Frame.Record
import PairingHarness.Proofs.Frame.Relay
import PairingHarness.Proofs.Frame.Link
import PairingHarness.Proofs.Frame.Handshake
import PairingHarness.Proofs.Frame.Documented
import PairingHarness.Proofs.Scenario.Relaying
import PairingHarness.Proofs.Scenario.FullExchange
import PairingHarness.Proofs.Scenario.MaxPeriod
import PairingHarness.Proofs.Scenario.BadChannel
import PairingHarness.Proofs.Payload
import PairingHarness.Proofs.Network.Reaching
import PairingHarness.Proofs.Network.Replying
import PairingHarness.Proofs.Network.Url
import PairingHarness.Proofs.Scenario.Pairing
import PairingHarness.Proofs.Scenario.MaxData
import PairingHarness.Proofs.Scenario.Ceiling
import PairingHarness.Proofs.Network.Talk
import PairingHarness.Proofs.Network.Keeping
import PairingHarness.Proofs.Scenario.Farewell
import PairingHarness.Proofs.Network.Twin
import PairingHarness.Proofs.Network.Parting
import PairingHarness.Proofs.Scenario.CloseForm
import PairingHarness.Proofs.Network.Confined
import PairingHarness.Proofs.Scenario.Causes
import PairingHarness.Proofs.Decimal
import PairingHarness.Proofs.Host.Table
import PairingHarness.Proofs.Host.History
import PairingHarness.Proofs.Host.Stat
import PairingHarness.Proofs.Host.Descendants
import PairingHarness.Proofs.Host.Distance
import PairingHarness.Proofs.Host.Kinship
import PairingHarness.Proofs.Host.Telling
import PairingHarness.Proofs.Supervisor.Calls
import PairingHarness.Proofs.Supervisor.Operation
import PairingHarness.Proofs.Supervisor.Ownership
import PairingHarness.Proofs.Supervisor.Teardown
import PairingHarness.Proofs.Conformance.Failures
import PairingHarness.Proofs.Text.ByteOrder
import PairingHarness.Proofs.Dictionary.Extremes
import PairingHarness.Proofs.Settings.Handover
import PairingHarness.Proofs.Settings.Precedence
import PairingHarness.Proofs.Text.Blank
import PairingHarness.Proofs.Settings.Limits
import PairingHarness.Proofs.Text.Toml.Grammar
import PairingHarness.Proofs.Text.Toml.Reading
import PairingHarness.Proofs.Text.Toml.Written
import PairingHarness.Proofs.CommandLine.Printed
import PairingHarness.Proofs.Text.Base64
import PairingHarness.Proofs.Scenario.Naming
import PairingHarness.Proofs.Text.Quoted
import PairingHarness.Proofs.Failure
import PairingHarness.Proofs.Rehearsal.Moves
import PairingHarness.Proofs.Rehearsal.Staged
import PairingHarness.Proofs.Rehearsal.Quoting
