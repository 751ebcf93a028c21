import Crucible.Lib.Checked
import Crucible.Lib.LowBits
import Crucible.Lib.Ledger
import Crucible.Noir.Values
import Crucible.Circuit.Lib
import Crucible.Circuit.Main
import Crucible.Circuit.Execution
import Crucible.Circuit.Value
import Crucible.Circuit.Spending
import Crucible.Interfaces.Values
import Crucible.Interfaces.Circuit
import Crucible.Interfaces.Proof
import Crucible.Interfaces.Verifier
import Crucible.UltraHonk.VerificationKey
import Crucible.UltraHonk.Verifier
import Crucible.UltraHonk.Binding
import Crucible.Mock.Verifier
import Crucible.Verifiers
import Crucible.ProverCore.Service
import Crucible.ProverCore.Policy
import Crucible.Interfaces.Numbers
import Crucible.StateRoot
import Crucible.Lib.Lines
import Crucible.Witness.Assembly
import Crucible.Witness.Toml
import Crucible.ProverCore.Overlap
import Crucible.Lib.Json
import Crucible.Interfaces.Serde
import Crucible.Mock.Prover
import Crucible.ProofTypes.Envelope
import Crucible.ProverCore.Envelope
import Crucible.Cli.Verify
import Crucible.Interfaces.Render
import Crucible.Mock.Secrets
import Crucible.Artifacts.Loader
import Crucible.Noir.Toolchain
import Crucible.UltraHonk.Proving
import Crucible.UltraHonk.Provider
import Crucible.UltraHonk.Surface
import Crucible.UltraHonk.Identity
import Crucible.UltraHonk.Words
import Crucible.UltraHonk.Completeness
import Crucible.Verifier.Service
import Crucible.Circuit.Honest
import Crucible.UltraHonk.Panics
import Crucible.Cli.Untrusted
import Crucible.ProofTypes.Invariants
import Crucible.UltraHonk.Store
import Crucible.UltraHonk.StoreMap
import Crucible.Artifacts.Contained
import Crucible.Lib.Utf8
import Crucible.Artifacts.Exact
import Crucible.Lib.SortedMap
import Crucible.Vectors.Vector
import Crucible.Vectors.Requests
import Crucible.Circuit.Nullifiers
import Crucible.Circuit.Openings
import Crucible.Interfaces.Canonical
import Crucible.Interfaces.Histories
import Crucible.Mock.Panics
import Crucible.Mock.Tamper
import Crucible.UltraHonk.KeyIds
import Crucible.UltraHonk.Failures
import Crucible.Lib.JsonSchema
import Crucible.Schemas.Published
import Crucible.Schemas.Conformance
import Crucible.Lib.Bytes
import Crucible.UltraHonk.Calldata
import Crucible.UltraHonk.RoundTrips
import Crucible.Interfaces.Calls
import Crucible.ProverCore.Boxed
import Crucible.ProverCore.Outputs
import Crucible.UltraHonk.Diagnostics
import Crucible.Circuit.Ranges
import Crucible.Lib.Runs
import Crucible.ProverCore.Registry
import Crucible.Witness.Secrets
import Crucible.Artifacts.Checksum
import Crucible.Lib.Slices
import Crucible.Noir.Outputs
import Crucible.Lib.JsonCodes
import Crucible.Lib.StableSort
import Crucible.Artifacts.Normal
import Crucible.Vectors.Values
import Crucible.Circuit.Supply
import Crucible.Cli.Prove
import Crucible.UltraHonk.Effects
import Crucible.UltraHonk.Sessions
import Crucible.Cli.Artifacts
import Crucible.Cli.Pins
import Crucible.Cli.Vectors
import Crucible.Lib.Buffered
import Crucible.Lib.JsonScan
import Crucible.Lib.Records
import Crucible.ProverCore.Transcript
import Crucible.Vectors.CircuitTier
import Crucible.Cli.Witness
import Crucible.Lib.Copies
import Crucible.UltraHonk.Scratch
