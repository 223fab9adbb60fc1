import DomainRules.Rule
import DomainRules.Text.Quoted

/-! How a rule set is built: the index for names and for suffixes, how payload strings are stored, and the
order in which the kinds are asked. -/

namespace DomainRules

inductive DomainIndex
  | linear
  | hash
  deriving DecidableEq

inductive SuffixIndex
  | linear
  | hash
  | trie
  | trieRecursive
  deriving DecidableEq

inductive Storage
  | asIs
  | clone
  | arena
  deriving DecidableEq

def DomainIndex.all : List DomainIndex := [linear, hash]

def DomainIndex.name : DomainIndex → String
  | linear => "linear"
  | hash => "hash"

def SuffixIndex.all : List SuffixIndex := [linear, hash, trie, trieRecursive]

def SuffixIndex.name : SuffixIndex → String
  | linear => "linear"
  | hash => "hash"
  | trie => "trie"
  | trieRecursive => "trie-recursive"

def Storage.all : List Storage := [asIs, clone, arena]

def Storage.name : Storage → String
  | asIs => "alias"
  | clone => "clone"
  | arena => "arena"

def DomainIndex.ofName? (name : String) : Option DomainIndex := all.find? fun index => index.name == name

def SuffixIndex.ofName? (name : String) : Option SuffixIndex := all.find? fun index => index.name == name

def Storage.ofName? (name : String) : Option Storage := all.find? fun storage => storage.name == name

/-- The order lists every kind once. It decides how much work precedes a hit, never the answer. -/
structure Options where
  domain : DomainIndex := .hash
  suffix : SuffixIndex := .trie
  storage : Storage := .asIs
  order : List Kind := Kind.all
  order_perm : order.Perm Kind.all := by exact .refl _
  deriving DecidableEq

namespace Options

/-- Linear scans for every kind. -/
def linear : Options := { domain := .linear, suffix := .linear }

/-- Hash sets for names and suffixes. -/
def fast : Options := { suffix := .hash }

/-- Why options cannot be made. A `family` is a set of names that one option takes. -/
inductive Flaw
  | unknownName (family value : String)
  | unknownStrategy (family value : String)
  | order (given : List Kind)
  deriving DecidableEq

def shownOrder : List Kind → String
  | [] => "()"
  | [kind] => "(" ++ kind.shown ++ ",)"
  | kinds => "(" ++ ", ".intercalate (kinds.map Kind.shown) ++ ")"

def Flaw.message : Flaw → String
  | .unknownName family value => Text.quoted value ++ " is not a valid " ++ family
  | .unknownStrategy family value =>
    "unknown strategy: " ++ Text.quoted value ++ " is not a valid " ++ family
  | .order given => "order must list every RuleKind exactly once, got " ++ shownOrder given

/-- An order is refused unless it lists every kind once. -/
def withOrder (options : Options) (order : List Kind) : Except Flaw Options :=
  if complete : order.Perm Kind.all then
    .ok { options with order, order_perm := complete }
  else .error (.order order)

def readKind (name : String) : Except Flaw Kind :=
  (Kind.ofName? name).elim (.error (.unknownName "RuleKind" name)) .ok

def readStorage (name : String) : Except Flaw Storage :=
  (Storage.ofName? name).elim (.error (.unknownName "MaterializeStrategy" name)) .ok

/-- The value that a name stands for, or the default if no name is given. -/
def choose (family : String) (ofName? : String → Option α) (default : α) :
    Option String → Except Flaw α
  | none => .ok default
  | some name => (ofName? name).elim (.error (.unknownStrategy family name)) .ok

/-- Options by the names of the indexes and of the storage. -/
def ofNames (domain suffix storage : Option String) : Except Flaw Options := do
  let domain ← choose "DomainStrategy" DomainIndex.ofName? .hash domain
  let suffix ← choose "SuffixStrategy" SuffixIndex.ofName? .trie suffix
  let storage ← choose "MaterializeStrategy" Storage.ofName? .asIs storage
  return { domain, suffix, storage }

def description (options : Options) : String :=
  "domain=" ++ options.domain.name ++ " suffix=" ++ options.suffix.name
    ++ " materialize=" ++ options.storage.name

end Options

end DomainRules
