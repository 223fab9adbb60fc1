import DomainRules.Main
import DomainRules.RuleText.Loose
import DomainRules.RuleText.Write
import DomainRules.CapacityHint
import DomainRules.Options
import DomainRules.Regex.Pattern
import DomainRules.Suffix.Trie
import DomainRules.Text.Blank
import DomainRules.Text.Case
import DomainRules.Text.Identifier
import DomainRules.Text.Integer
import DomainRules.Text.Utf8
import DomainRules.Workload
import DomainRules.Proofs.Suffix.Lookup
import DomainRules.Proofs.Suffix.Enumeration
import DomainRules.Proofs.Suffix.Canonicity
import DomainRules.Proofs.Collecting
import DomainRules.Proofs.Building
import DomainRules.Proofs.RuleText.Reading
import DomainRules.Proofs.Snapshot.Reading
import DomainRules.Proofs.Snapshot.RoundTrip
import DomainRules.Proofs.Agreement
import DomainRules.Proofs.Snapshot.Format
import DomainRules.Proofs.CapacityHint
import DomainRules.Proofs.Determinacy
import DomainRules.Proofs.RuleText.Hinting
import DomainRules.Proofs.RuleText.Streaming
import DomainRules.Proofs.RuleText.Writing
import DomainRules.Proofs.Snapshot.Damage
import DomainRules.Proofs.Lifecycle
import DomainRules.Proofs.Reporting
import DomainRules.Proofs.Suffix.Freezing
import DomainRules.Proofs.CommandLine.Folder
import DomainRules.Proofs.Snapshot.Saving
import DomainRules.Proofs.CommandLine.Compiling
import DomainRules.Proofs.Suffix.Frame
import DomainRules.Proofs.RuleText.Grammar
import DomainRules.Proofs.RuleText.Unterminated
import DomainRules.Proofs.Interleaving
import DomainRules.Proofs.Suffix.Reinsertion
import DomainRules.Proofs.Snapshot.Resaving
import DomainRules.Proofs.Suffix.Order
import DomainRules.Proofs.Suffix.Limits
import DomainRules.Proofs.Workload.Answering
