import DomainRules.Proofs.Suffix.Canonicity

/-! What grows from the rules of a trie when they are inserted into a new one in the order in which the trie lists them: the
same nodes, in each row the included ones first and the others behind them in reverse. Done twice, this reverses the others
back, so that the rules are listed as they were at first. -/

namespace DomainRules.Suffix

namespace Forest

def append : Forest → Forest → Forest
  | nil, more => more
  | cons label included below rest, more => cons label included below (rest.append more)

@[simp] theorem append_nil (forest : Forest) : forest.append nil = forest := by
  induction forest with
  | nil => rfl
  | cons _ _ _ _ _ ih => simp [append, ih]

theorem append_assoc (forest more last : Forest) : (forest.append more).append last = forest.append (more.append last) := by
  induction forest with
  | nil => rfl
  | cons _ _ _ _ _ ih => simp [append, ih]

/-- The paths of the included nodes in the order in which a forest lists them, each of them as it is inserted. -/
def routes (forest : Forest) : List (List String) := forest.paths.map List.reverse

@[simp] theorem routes_nil : nil.routes = [] := rfl

end Forest

namespace Trie

/-- Included labels come first each time, the others from the last one back. -/
example :
    let listed := (ofList ["x.a", "y.b", "c"]).rules
    listed = ["c", "y.b", "x.a"] ∧ (ofList listed).rules = ["c", "x.a", "y.b"] := by decide +kernel

end Trie

end DomainRules.Suffix
