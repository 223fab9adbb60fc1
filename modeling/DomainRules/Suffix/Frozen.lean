import DomainRules.Suffix.Forest

/-! Frozen forests: every node is either a leaf, which is included, or a branch with nodes below it. -/

namespace DomainRules.Suffix

inductive Frozen
  | nil
  | leaf (label : String) (rest : Frozen)
  | branch (label : String) (below rest : Frozen)
  deriving DecidableEq

namespace Frozen

def find? (label : String) : Frozen → Option (Entry Frozen)
  | nil => none
  | leaf head rest => if head = label then some .covered else rest.find? label
  | branch head below rest => if head = label then some (.below below) else rest.find? label

def leafCount : Frozen → Nat
  | nil => 0
  | leaf _ rest => rest.leafCount + 1
  | branch _ below rest => below.leafCount + rest.leafCount

/-- Looks a name read backwards up in one pass; `label` holds the characters since the last dot. -/
def coversScan (row : Frozen) (label : List Char) : List Char → Bool
  | [] => match row.find? (String.ofList label) with
    | some .covered => true
    | _ => false
  | c :: before =>
    if c = '.' then
      match row.find? (String.ofList label) with
      | none => false
      | some .covered => true
      | some (.below below) => coversScan below [] before
    else coversScan row (c :: label) before

def leaves (path : List String) : Frozen → List (List String)
  | nil => []
  | leaf label rest => (label :: path) :: rest.leaves path
  | branch _ _ rest => rest.leaves path

def deeper (path : List String) : Frozen → List (List String)
  | nil => []
  | leaf _ rest => rest.deeper path
  | branch label below rest =>
    rest.deeper path ++ (below.leaves (label :: path) ++ below.deeper (label :: path))

def paths (row : Frozen) : List (List String) := row.leaves [] ++ row.deeper []

end Frozen

/-- A forest that insertion alone does not produce. -/
inductive Flaw
  | includedRoot
  | childrenBelow (place : String) (count : Nat)
  | dangling (place : String)
  deriving DecidableEq

namespace Forest

/-- A label before the place of its parent; nothing stands for the place of a row at the top. -/
def place (label parent : String) : String :=
  if parent = "" then label else label ++ "." ++ parent

/-- The first node of a row that is included and has children, or is neither. -/
def rowFlaw? (parent : String) : Forest → Option Flaw
  | nil => none
  | cons label included below rest =>
    if included then
      if below = nil then rest.rowFlaw? parent else some (.childrenBelow (place label parent) below.width)
    else if below = nil then some (.dangling (place label parent))
    else rest.rowFlaw? parent

/-- The first flaw below a row, the last branch before the others. -/
def deepFlaw? (parent : String) : Forest → Option Flaw
  | nil => none
  | cons label included below rest =>
    rest.deepFlaw? parent <|>
      if included then none
      else below.rowFlaw? (place label parent) <|> below.deepFlaw? (place label parent)

def flaw? (forest : Forest) : Option Flaw := forest.rowFlaw? "" <|> forest.deepFlaw? ""

def freeze : Forest → Frozen
  | nil => .nil
  | cons label true _ rest => .leaf label rest.freeze
  | cons label false below rest => .branch label below.freeze rest.freeze

end Forest

end DomainRules.Suffix
