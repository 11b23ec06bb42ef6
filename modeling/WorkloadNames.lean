import WorkloadNames.Main
import WorkloadNames.Proofs.Dns.Acceptance
import WorkloadNames.Proofs.Sanitize.Scan
import WorkloadNames.Proofs.Friendly.Construction
import WorkloadNames.Proofs.Friendly.Cap
import WorkloadNames.Proofs.Friendly.Collision
import WorkloadNames.Proofs.Friendly.Validity
import WorkloadNames.Proofs.Dns.Breach
import WorkloadNames.Proofs.Dns.Grammar
import WorkloadNames.Proofs.Friendly.Components
import WorkloadNames.Proofs.Friendly.Rejection
import WorkloadNames.Proofs.Friendly.Cuts
import WorkloadNames.Proofs.Friendly.Blame
import WorkloadNames.Proofs.Json.Reader
import WorkloadNames.Proofs.Json.RoundTrip
import WorkloadNames.Proofs.CommandLine.Steps
import WorkloadNames.Proofs.CommandLine.Written
import WorkloadNames.Proofs.CommandLine.Provenance
import WorkloadNames.Proofs.Program.Completion
import WorkloadNames.Proofs.Program.Check
import WorkloadNames.Proofs.Program.Agreement
import WorkloadNames.Proofs.Sanitize.Runs
import WorkloadNames.Proofs.Program.Refusal
import WorkloadNames.Proofs.Toml.Keys
import WorkloadNames.Proofs.Config.Entries
import WorkloadNames.Proofs.Program.Settings
import WorkloadNames.Proofs.CommandLine.Abreast
import WorkloadNames.Proofs.CommandLine.LogFlag
import WorkloadNames.Proofs.Program.Noninterference
import WorkloadNames.Proofs.Sanitize.Retraction
import WorkloadNames.Proofs.Sanitize.Composition
import WorkloadNames.Proofs.Dns.FirstBreach
import WorkloadNames.Proofs.Dns.Joining
import WorkloadNames.Proofs.Dns.Restriction
import WorkloadNames.Proofs.Dns.Dotted
import WorkloadNames.Proofs.Friendly.Interchange
import WorkloadNames.Proofs.Friendly.Relabelling
import WorkloadNames.Proofs.Text.Separated
import WorkloadNames.Proofs.Dns.Wording
import WorkloadNames.Proofs.Friendly.Wording
import WorkloadNames.Proofs.Program.Wording
import WorkloadNames.Proofs.Log.Deciding
import WorkloadNames.Proofs.Log.SingleLevel
import WorkloadNames.Proofs.Program.Logging
import WorkloadNames.Proofs.Program.Chronicle
import WorkloadNames.Proofs.Text.Fragments
