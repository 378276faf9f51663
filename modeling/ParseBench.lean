import ParseBench.Decimal.Shortest
import ParseBench.Decimal.Fixed
import ParseBench.Decimal.Reader
import ParseBench.Text.CellWidth
import ParseBench.Text.Utf8
import ParseBench.Text.Newlines
import ParseBench.Text.Pad
import ParseBench.Json.Reader
import ParseBench.Json.Printer
import ParseBench.Contract
import ParseBench.Fixture.Identifier
import ParseBench.Path
import ParseBench.Files.Access
import ParseBench.Bench.Config
import ParseBench.Bench.Label
import ParseBench.Bench.Table
import ParseBench.Bench.Runner
import ParseBench.Bench.Artifact
import ParseBench.Inspect
import ParseBench.Binding.Loader
import ParseBench.Binding.Raise
import ParseBench.Console.Backend
import ParseBench.Fixture.Manifest
import ParseBench.Fixture.Resolution
import ParseBench.Http.Raise
import ParseBench.Main
import ParseBench.Proofs.Text.Utf8
import ParseBench.Proofs.Files.Volume
import ParseBench.Proofs.Files.Walk
import ParseBench.Proofs.Files.Directories
import ParseBench.Proofs.Url.Target
import ParseBench.Proofs.Http.Fetch
import ParseBench.Proofs.Fixture.Store
import ParseBench.Proofs.Fixture.Entry
import ParseBench.Proofs.Fixture.Manifest
import ParseBench.Proofs.Fixture.Attempts
import ParseBench.Proofs.Fixture.Run
import ParseBench.Proofs.Fixture.Outcome
import ParseBench.Proofs.Fixture.Timing
import ParseBench.Proofs.Fixture.Crash
import ParseBench.Proofs.Fixture.Failure
import ParseBench.Proofs.Fixture.Refetch
import ParseBench.Proofs.Fixture.Leftover
import ParseBench.Proofs.Journal
import ParseBench.Proofs.Except
import ParseBench.Proofs.Binding.Parser
import ParseBench.Proofs.Contract
import ParseBench.Proofs.Bench.Runner
import ParseBench.Proofs.Bench.Invocation
import ParseBench.Proofs.Bench.History
import ParseBench.Proofs.Bench.Failure
import ParseBench.Proofs.Json.Token
import ParseBench.Proofs.Json.RoundTrip
import ParseBench.Proofs.Files.Places
import ParseBench.Proofs.Files.Faults
import ParseBench.Proofs.Fixture.Reach
import ParseBench.Proofs.Bench.Artifact
import ParseBench.Proofs.Program.Bench
import ParseBench.Proofs.Decimal.Binary64
import ParseBench.Proofs.Bench.Measurement
import ParseBench.Proofs.Fixture.Confined
import ParseBench.Proofs.Fixture.Reasons
import ParseBench.Proofs.Inspect
import ParseBench.Proofs.Program.Report
import ParseBench.Proofs.Program.Artifact
import ParseBench.Proofs.Files.TextFile
import ParseBench.Proofs.Fixture.Unusable
import ParseBench.Proofs.Binding.Normalization
import ParseBench.Proofs.Console.Legible
import ParseBench.Proofs.Program.Output
import ParseBench.Proofs.Program.Inspect
import ParseBench.Proofs.Bench.Registry
import ParseBench.Proofs.Console.Table
import ParseBench.Proofs.Fixture.Identifier
