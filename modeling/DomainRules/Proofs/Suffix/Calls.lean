import DomainRules.Suffix.Lookup

/-! The calls of a lookup by recursion. With enough of them it has the answer of one that nothing limits, and with fewer it has
none. -/

namespace DomainRules.Suffix

section
variable {Row : Type} (next? : String → Row → Option (Entry Row))

/-- The answer of a lookup that nothing limits. -/
def coversPath : List String → Row → Bool
  | [], _ => false
  | label :: path, row =>
    match next? label row with
    | none => false
    | some .covered => true
    | some (.below below) => coversPath path below

/-- The calls that are open at the end of a lookup: each takes a label from a path, and another one follows further down if there
are labels left. -/
def calls : List String → Row → Nat
  | [], _ => 0
  | label :: path, row =>
    match next? label row with
    | some (.below below) => calls path below + 1
    | _ => 1

theorem calls_le_length (path : List String) (row : Row) : calls next? path row ≤ path.length := by
  induction path generalizing row with
  | nil => exact Nat.le_refl 0
  | cons label path ih =>
    rcases found : next? label row with _ | _ | below
    · simp [calls, found]
    · simp [calls, found]
    · simpa [calls, found] using ih below

/-- A lookup that may take its calls has the answer of one that nothing limits. -/
theorem lookup_eq (limit : Nat) (path : List String) (row : Row) :
    lookup next? limit path row = if calls next? path row ≤ limit then some (coversPath next? path row) else none := by
  induction path generalizing limit row with
  | nil => cases limit <;> rfl
  | cons label path ih =>
    cases limit with
    | zero => rcases found : next? label row with _ | _ | below <;> simp [lookup, calls, found]
    | succ limit => rcases found : next? label row with _ | _ | below <;> simp [lookup, calls, coversPath, found, ih]

end

def Entry.map {Row Other : Type} (f : Row → Other) : Entry Row → Entry Other
  | covered => covered
  | below row => below (f row)

section
variable {Row Other : Type} {next? : String → Row → Option (Entry Row)} {other? : String → Other → Option (Entry Other)}
  {f : Row → Other} (same : ∀ label row, other? label (f row) = (next? label row).map (Entry.map f))

include same

theorem coversPath_map (path : List String) (row : Row) : coversPath other? path (f row) = coversPath next? path row := by
  induction path generalizing row with
  | nil => rfl
  | cons label path ih =>
    rcases found : next? label row with _ | _ | below <;> simp [coversPath, same, found, Entry.map, ih]

theorem calls_map (path : List String) (row : Row) : calls other? path (f row) = calls next? path row := by
  induction path generalizing row with
  | nil => rfl
  | cons label path ih =>
    rcases found : next? label row with _ | _ | below <;> simp [calls, same, found, Entry.map, ih]

end

end DomainRules.Suffix
