import DomainRules.Decimal.Fixed

/-! Reports on measurements: one configuration in full, or several as rows of a table. Times have two places,
lookups are whole nanoseconds, and columns never cut what they hold. -/

namespace DomainRules

/-- Times are milliseconds, and nanoseconds for one lookup. -/
structure Measurement where
  label : String
  options : String
  rules : Int
  iterations : Int
  snapshotBytes : Int
  setup : Float
  restore : Float
  lookups : List (String × Float)

namespace Report

/-- Each title once, in order of first mention, with the last value given for it. -/
def latest (given : List (String × Float)) : List (String × Float) :=
  given.foldl
    (fun known entry =>
      if known.any (·.1 == entry.1) then
        known.map fun other => if other.1 == entry.1 then entry else other
      else known ++ [entry])
    []

def milliseconds (x : Float) : String := Decimal.fixed 2 x

def nanoseconds (x : Float) : String := Decimal.fixed 0 x

def lookupLine (lookup : String × Float) : String :=
  "  " ++ Decimal.padRight 16 lookup.1 ++ " " ++ Decimal.padLeft 10 (nanoseconds lookup.2) ++ " ns/op"

def full (m : Measurement) : String :=
  "\n".intercalate ([
    "=== " ++ m.label ++ " ===",
    "Options:           " ++ m.options,
    "Rules:             " ++ Decimal.grouped m.rules,
    "Setup:             " ++ milliseconds m.setup ++ " ms (avg of " ++ toString m.iterations ++ ")",
    "Snapshot restore:  " ++ milliseconds m.restore ++ " ms (" ++ Decimal.grouped m.snapshotBytes
      ++ " bytes)",
    "",
    "Lookups:"] ++ (latest m.lookups).map lookupLine)

def titles (measurements : List Measurement) : List String :=
  (measurements.flatMap fun m => m.lookups.map (·.1)).eraseDups

def header (titles : List String) : String :=
  Decimal.padRight 16 "Config" ++ " " ++ Decimal.padLeft 10 "Setup ms" ++ " "
    ++ Decimal.padLeft 11 "Restore ms" ++ " " ++ Decimal.padLeft 9 "vs first"
    ++ String.join (titles.map fun title => " " ++ Decimal.padLeft 12 (title ++ " ns"))

def ruler (header : String) : String := String.ofList (List.replicate header.length '-')

/-- How many times faster a setup is than the first one. -/
def speedup (first setup : Float) : String :=
  if setup ≤ 0.0 then "inf" else Decimal.fixed 1 (first / setup) ++ "x"

def row (first : Float) (titles : List String) (m : Measurement) : String :=
  let known := latest m.lookups
  let cell (title : String) :=
    match known.find? (·.1 == title) with
    | some entry => " " ++ Decimal.padLeft 12 (nanoseconds entry.2)
    | none => " " ++ Decimal.padLeft 12 "-"
  Decimal.padRight 16 m.label ++ " " ++ Decimal.padLeft 10 (milliseconds m.setup) ++ " "
    ++ Decimal.padLeft 11 (milliseconds m.restore) ++ " " ++ Decimal.padLeft 9 (speedup first m.setup)
    ++ String.join (titles.map cell)

def comparison : List Measurement → String
  | [] => ""
  | first :: others =>
    let all := first :: others
    let header := header (titles all)
    "\n".intercalate (header :: ruler header :: all.map (row first.setup (titles all)))

end Report

end DomainRules
