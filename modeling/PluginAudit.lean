import PluginAudit.Main
import PluginAudit.Proofs.Batch.Registration
import PluginAudit.Proofs.Batch.Scheduling
import PluginAudit.Proofs.CommandLine.Rules
import PluginAudit.Proofs.CommandLine.Targets
import PluginAudit.Proofs.CommandLine.Validation
import PluginAudit.Proofs.Dependencies.Packages
import PluginAudit.Proofs.Manifest.Lowering
import PluginAudit.Proofs.Manifest.Routes
import PluginAudit.Proofs.ModuleContract.Handlers
import PluginAudit.Proofs.Registry.Concurrency
import PluginAudit.Proofs.Registry.EntryText
import PluginAudit.Proofs.Registry.FailedRegistration
import PluginAudit.Proofs.Registry.Resaving
import PluginAudit.Proofs.Registry.Steadiness
import PluginAudit.Proofs.Rules.Strictness
import PluginAudit.Proofs.Scan.Continuation
import PluginAudit.Proofs.Scan.Coverage
import PluginAudit.Proofs.Scan.Granularity
import PluginAudit.Proofs.Scan.Occurrences
import PluginAudit.Proofs.Scan.PrimaryModule
import PluginAudit.Proofs.Scan.RuleChanges
import PluginAudit.Proofs.Suppression
import PluginAudit.Proofs.Validation.Confinement
import PluginAudit.Proofs.Validation.Independence
import PluginAudit.Proofs.Validation.Messages
