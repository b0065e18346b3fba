import Cosimulation.Text.Utf8
import Cosimulation.Text.Blank
import Cosimulation.Text.Numeral
import Cosimulation.Text.Hex
import Cosimulation.Checksum
import Cosimulation.Json.Numeral
import Cosimulation.Json.Basic
import Cosimulation.Json.Holding
import Cosimulation.Json.Record
import Cosimulation.Json.Printer
import Cosimulation.Json.Token
import Cosimulation.Json.Parser
import Cosimulation.Error
import Cosimulation.Fault
import Cosimulation.SignalValue
import Cosimulation.RequestId
import Cosimulation.Command
import Cosimulation.Response
import Cosimulation.Invocation
import Cosimulation.Configuration
import Cosimulation.Wire.Message
import Cosimulation.Wire.Value
import Cosimulation.Wire.Command
import Cosimulation.Wire.Response
import Cosimulation.Channel
import Cosimulation.Frame.Basic
import Cosimulation.Frame.Reading
import Cosimulation.Frame.Writing
import Cosimulation.Frame.Splitting
import Cosimulation.Connection
import Cosimulation.Registration
import Cosimulation.Simulator.Basic
import Cosimulation.Simulator.Memory
import Cosimulation.Session.Outcome
import Cosimulation.Session.Application
import Cosimulation.Session.Dispatcher
import Cosimulation.Socket.Directory
import Cosimulation.Socket.Connect
import Cosimulation.Controller
import Cosimulation.Bridge.Host
import Cosimulation.Bridge.Basic
import Cosimulation.Bridge.Peer
import Cosimulation.Bridge.Playback
import Cosimulation.Vpi.Host
import Cosimulation.Vpi.Simulator
import Cosimulation.Vpi.Scheduler
import Cosimulation.Vpi.Plugin
import Cosimulation.Proofs.Text.Utf8
import Cosimulation.Proofs.Text.RequestId
import Cosimulation.Proofs.Text.Numeral
import Cosimulation.Proofs.Text.Blank
import Cosimulation.Proofs.Json.Tokens
import Cosimulation.Proofs.Json.Spelling
import Cosimulation.Proofs.Json.Lexing
import Cosimulation.Proofs.Json.RoundTrip
import Cosimulation.Proofs.Json.Size
import Cosimulation.Proofs.Wire.RoundTrip
import Cosimulation.Proofs.Wire.Spelling
import Cosimulation.Proofs.Wire.Size
import Cosimulation.Proofs.Wire.Stream
import Cosimulation.Proofs.Configuration.Options
import Cosimulation.Proofs.Configuration.Overrides
import Cosimulation.Proofs.Simulator.Memory
import Cosimulation.Proofs.Simulator.References
import Cosimulation.Proofs.Simulator.Rendering
import Cosimulation.Proofs.Frame.Directions
import Cosimulation.Proofs.Frame.Writing
import Cosimulation.Proofs.Frame.Reading
import Cosimulation.Proofs.Frame.Splitting
import Cosimulation.Proofs.Frame.Parsing
import Cosimulation.Proofs.Frame.Checksum
import Cosimulation.Proofs.Frame.Corruption
import Cosimulation.Proofs.Session.Responding
import Cosimulation.Proofs.Session.Run
import Cosimulation.Proofs.Session.Application
import Cosimulation.Proofs.Session.Turns
import Cosimulation.Proofs.Session.Draining
import Cosimulation.Proofs.Session.Closing
import Cosimulation.Proofs.Session.Effects
import Cosimulation.Proofs.Session.Conversation
import Cosimulation.Proofs.Session.Answers
import Cosimulation.Proofs.Session.Reference
import Cosimulation.Proofs.Session.Faultless
import Cosimulation.Proofs.Session.Serving
import Cosimulation.Proofs.Session.Oversize
import Cosimulation.Proofs.Session.Pathless
import Cosimulation.Proofs.Session.Failures
import Cosimulation.Proofs.Session.Counting
import Cosimulation.Proofs.Session.Failing
import Cosimulation.Proofs.Session.Balance
import Cosimulation.Proofs.Session.Coupling
import Cosimulation.Proofs.Bridge.Run
import Cosimulation.Proofs.Bridge.Driver
import Cosimulation.Proofs.Bridge.Draining
import Cosimulation.Proofs.Bridge.Timeline
import Cosimulation.Proofs.Bridge.Calls
import Cosimulation.Proofs.Bridge.Delays
import Cosimulation.Proofs.Bridge.Effects
import Cosimulation.Proofs.Bridge.Lifecycle
import Cosimulation.Proofs.Bridge.Parting
import Cosimulation.Proofs.Controller.Dialogue
import Cosimulation.Proofs.Controller.Lossless
import Cosimulation.Proofs.Controller.Calls
import Cosimulation.Proofs.Controller.Stages
import Cosimulation.Proofs.Controller.Agreement
import Cosimulation.Proofs.Controller.Reception
import Cosimulation.Proofs.Bridge.Coupling
import Cosimulation.Proofs.Bridge.Quiet
import Cosimulation.Proofs.Bridge.Spent
import Cosimulation.Proofs.Vpi.Installing
import Cosimulation.Proofs.Vpi.Heedless
import Cosimulation.Proofs.Vpi.Coupling
import Cosimulation.Proofs.Vpi.Reentrance
import Cosimulation.Proofs.Session.Executing
import Cosimulation.Proofs.Vpi.Steps
import Cosimulation.Proofs.Vpi.Handles
import Cosimulation.Proofs.Vpi.Assignments
import Cosimulation.Proofs.Vpi.Callbacks
import Cosimulation.Proofs.Bridge.Recording
import Cosimulation.Proofs.Bridge.Playback
