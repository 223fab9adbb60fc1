import DomainRules.Text.Split

/-! Names and their labels. A suffix covers a name when they are equal or when the name ends in the suffix
just behind a dot. -/

namespace DomainRules.Name

/-- The labels of a name, left to right. The empty name is one empty label. -/
def labels (name : String) : List String :=
  (Text.splitOn '.' name.toList).map String.ofList

def depth (name : String) : Nat := name.toList.count '.' + 1

/-- The suffix test for one rule, on characters: equal, or longer and ending in a dot and the suffix. -/
def coversChars (suffix name : List Char) : Bool :=
  suffix == name ||
    (suffix.length < name.length && name.drop (name.length - suffix.length - 1) == '.' :: suffix)

def covers (suffix name : String) : Bool := coversChars suffix.toList name.toList

/-- The tails behind each dot of a name read backwards, shortest first, and at last the whole of it. -/
def tailsFrom (behind : List Char) : List Char → List String
  | [] => [String.ofList behind]
  | c :: before =>
    if c = '.' then String.ofList behind :: tailsFrom (c :: behind) before
    else tailsFrom (c :: behind) before

/-- Every suffix that covers the name, shortest first. -/
def tails (name : String) : List String := tailsFrom [] name.toList.reverse

end DomainRules.Name
