import DomainRules.Suffix.Frozen

/-! The suffix trie: a forest under a root, which grows by insertion or by edits of single nodes. Insertion
and lookup come in two shapes, one pass over the characters and recursion over the labels. -/

namespace DomainRules.Suffix

abbrev Trie := Node

namespace Trie

def empty : Trie := ⟨false, .nil⟩

/-- The deepest suffix that insertion by recursion accepts, in labels. -/
def recursionLimit : Nat := 500

def insert (trie : Trie) (suffix : String) : Trie :=
  { trie with children := trie.children.insertScan [] [] suffix.toList.reverse }

/-- Fails, and changes nothing, beyond the recursion limit. -/
def insertRecursive? (trie : Trie) (suffix : String) : Option Trie :=
  if recursionLimit < Name.depth suffix then none
  else some { trie with children := trie.children.insertPath (Name.labels suffix).reverse }

def covers (trie : Trie) (name : String) : Bool := trie.children.coversScan [] name.toList.reverse

/-- Looks a name up by recursion; without an answer if that takes more calls than there may be. -/
def coversRecursive (calls : Nat) (trie : Trie) (name : String) : Option Bool :=
  lookup Forest.next? calls (Name.labels name).reverse trie.children

/-- The suffixes of included nodes, which cover what all insertions together cover. -/
def rules (trie : Trie) : List String := trie.children.paths.map (".".intercalate ·)

def nodeCount (trie : Trie) : Nat := trie.children.size + 1

/-- Applies an edit to the node at a path from the root; a label that leads nowhere is the error. -/
def editAt (edit : Node → Node) : List String → Trie → Except String Trie
  | [], node => .ok (edit node)
  | label :: path, node =>
    match node.children.find? label with
    | none => .error label
    | some child => do
      let edited ← editAt edit path child
      return { node with children := node.children.put label edited }

def setIncluded (trie : Trie) (path : List String) (included : Bool) : Except String Trie :=
  editAt (fun node => { node with included }) path trie

def addChild (trie : Trie) (path : List String) (label : String) (included : Bool) :
    Except String Trie :=
  editAt (fun node => { node with children := node.children.put label ⟨included, .nil⟩ }) path trie

def freeze (trie : Trie) : Except Flaw Frozen :=
  if trie.included then .error .includedRoot
  else match trie.children.flaw? with
    | some flaw => .error flaw
    | none => .ok trie.children.freeze

end Trie

namespace Frozen

def covers (frozen : Frozen) (name : String) : Bool := frozen.coversScan [] name.toList.reverse

def coversRecursive (calls : Nat) (frozen : Frozen) (name : String) : Option Bool :=
  lookup find? calls (Name.labels name).reverse frozen

def rules (frozen : Frozen) : List String := frozen.paths.map (".".intercalate ·)

end Frozen

end DomainRules.Suffix
