import DomainRules.Name
import DomainRules.Suffix.Lookup

/-! Label forests: the rightmost labels of suffixes side by side, and below each label those to its left, in
order of first insertion. An included node stands for every name that ends in its path. -/

namespace DomainRules.Suffix

/-- The first node of a row with what lies below it, and the rest of the row. -/
inductive Forest
  | nil
  | cons (label : String) (included : Bool) (below rest : Forest)
  deriving DecidableEq

structure Node where
  included : Bool
  children : Forest
  deriving DecidableEq

namespace Forest

def width : Forest → Nat
  | nil => 0
  | cons _ _ _ rest => rest.width + 1

def size : Forest → Nat
  | nil => 0
  | cons _ _ below rest => below.size + rest.size + 1

def find? (label : String) : Forest → Option Node
  | nil => none
  | cons head included below rest => if head = label then some ⟨included, below⟩ else rest.find? label

/-- Sets the node of a label; a label already in the row keeps its place, a new one goes to the end. -/
def put (label : String) (node : Node) : Forest → Forest
  | nil => cons label node.included node.children nil
  | cons head included below rest =>
    if head = label then cons head node.included node.children rest
    else cons head included below (rest.put label node)

@[simp] theorem find?_put (forest : Forest) (label other : String) (node : Node) :
    (forest.put label node).find? other = if label = other then some node else forest.find? other := by
  induction forest with
  | nil => simp [put, find?]
  | cons head _ _ _ _ ih =>
    by_cases same : head = label <;> by_cases hit : label = other <;> simp_all [put, find?]

/-- Includes a label and prunes what lies below it. -/
def mark (label : String) (forest : Forest) : Forest :=
  match forest.find? label with
  | some ⟨true, _⟩ => forest
  | _ => forest.put label ⟨true, nil⟩

/-- Inserts a path, rightmost label first. A shorter suffix on the way covers it. -/
def insertPath : List String → Forest → Forest
  | [], forest => forest
  | [label], forest => forest.mark label
  | label :: path, forest =>
    match forest.find? label with
    | none => forest.put label ⟨false, insertPath path nil⟩
    | some ⟨true, _⟩ => forest
    | some ⟨false, below⟩ => forest.put label ⟨false, insertPath path below⟩

/-- An included node covers what lies below it; any other one leads on to its row. -/
def next? (label : String) (forest : Forest) : Option (Entry Forest) :=
  (forest.find? label).map fun node => if node.included then .covered else .below node.children

/-- A step down from a row, by one of its labels. -/
structure Step where
  label : String
  row : Forest

/-- Puts a row back below the steps that led to it, the last step first. -/
def climb (row : Forest) (steps : List Step) : Forest :=
  steps.foldl (fun below step => step.row.put step.label ⟨false, below⟩) row

/-- Inserts a suffix read backwards in one pass; `label` holds the characters since the last dot. -/
def insertScan (steps : List Step) (row : Forest) (label : List Char) : List Char → Forest
  | [] => climb (row.mark (String.ofList label)) steps
  | c :: before =>
    if c = '.' then
      let name := String.ofList label
      match row.find? name with
      | none => insertScan (⟨name, row⟩ :: steps) nil [] before
      | some ⟨true, _⟩ => climb row steps
      | some ⟨false, below⟩ => insertScan (⟨name, row⟩ :: steps) below [] before
    else insertScan steps row (c :: label) before

/-- Looks a name read backwards up in one pass. -/
def coversScan (row : Forest) (label : List Char) : List Char → Bool
  | [] => match row.find? (String.ofList label) with
    | none => false
    | some child => child.included
  | c :: before =>
    if c = '.' then
      match row.find? (String.ofList label) with
      | none => false
      | some child => child.included || coversScan child.children [] before
    else coversScan row (c :: label) before

/-- The paths of the included nodes of a row, each from left to right, before the given labels. -/
def included (path : List String) : Forest → List (List String)
  | nil => []
  | cons label true _ rest => (label :: path) :: rest.included path
  | cons _ false _ rest => rest.included path

/-- The paths of included nodes below a row: the last node that is not included comes first, with its own
row before what lies deeper. -/
def deeper (path : List String) : Forest → List (List String)
  | nil => []
  | cons _ true _ rest => rest.deeper path
  | cons label false below rest =>
    rest.deeper path ++ (below.included (label :: path) ++ below.deeper (label :: path))

/-- The paths of all included nodes that no other one covers. -/
def paths (forest : Forest) : List (List String) := forest.included [] ++ forest.deeper []

end Forest

end DomainRules.Suffix
