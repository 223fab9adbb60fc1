/-! Splitting text at every occurrence of a separator. -/

namespace DomainRules.Text

variable {α : Type} [DecidableEq α]

/-- The runs between separators, in order; there is one more of them than there are separators. -/
def splitOn (separator : α) (text : List α) : List (List α) :=
  text.foldr (fun c parts => if c = separator then [] :: parts else parts.modifyHead (c :: ·)) [[]]

@[simp] theorem splitOn_nil (separator : α) : splitOn separator [] = [[]] := rfl

theorem splitOn_cons (separator c : α) (text : List α) :
    splitOn separator (c :: text) =
      if c = separator then [] :: splitOn separator text
      else (splitOn separator text).modifyHead (c :: ·) := rfl

end DomainRules.Text
