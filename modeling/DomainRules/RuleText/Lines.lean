import DomainRules.Text.Split

/-! Lines of rule text. A line ends in a line feed, or in a carriage return and a line feed; other separators
belong to the line. -/

namespace DomainRules.RuleText

/-- Drops a mark at the end. -/
def dropMark [DecidableEq α] (mark : α) (line : List α) : List α :=
  if line.getLast? = some mark then line.dropLast else line

/-- The runs between marks; nothing follows a mark at the very end. -/
def runs [DecidableEq α] (mark : α) (text : List α) : List (List α) :=
  let parts := Text.splitOn mark text
  if parts.getLast? = some [] then parts.dropLast else parts

def dropReturn (line : List Char) : List Char := dropMark '\r' line

/-- Drops the terminator of a line: a line feed at the end, then a carriage return. -/
def dropTerminator (line : List Char) : List Char := dropReturn (dropMark '\n' line)

/-- The runs between line feeds. -/
def rawLines (text : List Char) : List (List Char) := runs '\n' text

/-- The lines of a text without their terminators. -/
def lines (text : String) : List String :=
  (rawLines text.toList).map fun line => String.ofList (dropReturn line)

/-- Cuts behind each occurrence of `mark`, which stays with what it ends. -/
def cutAfter [DecidableEq α] (mark : α) (items : List α) : List (List α) :=
  items.foldr
    (fun item pieces =>
      if item = mark then [item] :: pieces
      else match pieces with
        | [] => [[item]]
        | piece :: others => (item :: piece) :: others)
    []

def terminatedLines (text : String) : List String :=
  (cutAfter '\n' text.toList).map String.ofList

def withoutTerminator (line : String) : String := String.ofList (dropTerminator line.toList)

end DomainRules.RuleText
