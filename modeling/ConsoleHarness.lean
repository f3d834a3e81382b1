import ConsoleHarness.Main
import ConsoleHarness.Session.Merge
import ConsoleHarness.Proofs.Session.Merge
import ConsoleHarness.Proofs.Bench.Deeds
import ConsoleHarness.Proofs.Bench.World
import ConsoleHarness.Proofs.Bench.Reading
import ConsoleHarness.Proofs.Bench.Program
import ConsoleHarness.Proofs.Bench.Clock
import ConsoleHarness.Proofs.Bench.Exchange
import ConsoleHarness.Proofs.Bench.Linked
import ConsoleHarness.Proofs.Bench.Fidelity
import ConsoleHarness.Proofs.Bench.Handshake
import ConsoleHarness.Proofs.Bench.Settling
import ConsoleHarness.Proofs.Bench.Interrupt
import ConsoleHarness.Proofs.Bench.Callbacks
import ConsoleHarness.Proofs.Bench.Turns
import ConsoleHarness.Proofs.Bench.OneWay
import ConsoleHarness.Proofs.Bench.Refusal
import ConsoleHarness.Proofs.Path
import ConsoleHarness.Proofs.Files
import ConsoleHarness.Proofs.Report.Verdict
import ConsoleHarness.Proofs.Report.Artifact
import ConsoleHarness.Proofs.Report.Laws
import ConsoleHarness.Proofs.Run.Course
import ConsoleHarness.Proofs.Run.Verdict
import ConsoleHarness.Proofs.Run.Kill
import ConsoleHarness.Proofs.Run.Interrupt
import ConsoleHarness.Proofs.Run.Incidents
import ConsoleHarness.Proofs.Run.State
import ConsoleHarness.Proofs.Bench.Punctual
import ConsoleHarness.Proofs.Config.Field
import ConsoleHarness.Proofs.Config.Precedence
import ConsoleHarness.Proofs.Config.Loading
import ConsoleHarness.Proofs.Config.Safe
import ConsoleHarness.Proofs.Config.Fault
import ConsoleHarness.Proofs.Config.Lawful
import ConsoleHarness.Proofs.Config.Offence
import ConsoleHarness.Proofs.Config.Grammar
import ConsoleHarness.Proofs.Config.Strict
import ConsoleHarness.Proofs.Config.Image
import ConsoleHarness.Proofs.Config.Arguments
import ConsoleHarness.Proofs.Text.Decoder
import ConsoleHarness.Proofs.Text.Utf16
import ConsoleHarness.Proofs.Bench.Stream
import ConsoleHarness.Proofs.Run.Lines
import ConsoleHarness.Proofs.Report.Mirror
import ConsoleHarness.Proofs.Run.Launch
import ConsoleHarness.Proofs.Bench.Scanning
import ConsoleHarness.Proofs.Bench.Deadline
import ConsoleHarness.Proofs.Bench.Timers
import ConsoleHarness.Proofs.Cli.Status
import ConsoleHarness.Proofs.Run.Waits
