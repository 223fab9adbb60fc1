/-! The Mersenne Twister with 32-bit words, and draws of whole numbers, reals and permutations from it. -/

namespace DomainRules

/-- The words of the generator and how many of them have been handed out. -/
structure Twister where
  words : Array UInt32
  used : Nat

/-- A computation that draws numbers. -/
abbrev Random := StateM Twister

namespace Twister

def size : Nat := 624

def word (words : Array UInt32) (i : Nat) : UInt32 := words.getD (i % size) 0

/-- What two words are mixed to when the state is seeded. -/
def scramble (previous factor : UInt32) : UInt32 := (previous ^^^ (previous >>> 30)) * factor

def seeded (seed : UInt32) : Array UInt32 :=
  (List.range (size - 1)).foldl
    (fun words i => words.push (scramble (word words i) 1812433253 + (i + 1).toUInt32)) #[seed]

/-- One step of mixing at place `i`, which is followed by the next place, or by 1 behind the last one. -/
def mixAt (factor extra : UInt32) (words : Array UInt32) (i : Nat) : Array UInt32 × Nat :=
  let mixed := (word words i ^^^ scramble (word words (i - 1)) factor) + extra
  let words := words.setIfInBounds i mixed
  if i + 1 < size then (words, i + 1) else (words.setIfInBounds 0 mixed, 1)

def mixKey (key : Array UInt32) (words : Array UInt32) : Array UInt32 × Nat :=
  (List.range (max size key.size)).foldl
    (fun (words, i) step =>
      let j := step % key.size
      mixAt 1664525 (key.getD j 0 + j.toUInt32) words i) (words, 1)

def mixPlaces (words : Array UInt32) (i : Nat) : Array UInt32 :=
  ((List.range (size - 1)).foldl
    (fun (words, i) _ => mixAt 1566083941 (0 - i.toUInt32) words i) (words, i)).1

/-- The generator for a key of words, which is not empty. -/
def ofKey (key : Array UInt32) : Twister :=
  let (words, i) := mixKey key (seeded 19650218)
  ⟨(mixPlaces words i).setIfInBounds 0 0x80000000, size⟩

/-- The words of a number, the lowest first; the fuel exceeds their count. -/
def keyWords : Nat → Nat → List UInt32
  | 0, _ => []
  | fuel + 1, n => if n = 0 then [] else n.toUInt32 :: keyWords fuel (n / 0x100000000)

/-- The generator for a seed; the sign of the seed does not count. -/
def ofSeed (seed : Int) : Twister :=
  let words := keyWords (seed.natAbs.log2 + 1) seed.natAbs
  ofKey (if words.isEmpty then #[0] else words.toArray)

/-- Renews all words, each from its neighbour and from one farther on. -/
def renew (words : Array UInt32) : Array UInt32 :=
  (List.range size).foldl
    (fun words i =>
      let joined := (word words i &&& 0x80000000) ||| (word words (i + 1) &&& 0x7FFFFFFF)
      let twist : UInt32 := if joined &&& 1 = 1 then 0x9908B0DF else 0
      words.setIfInBounds i (word words (i + 397) ^^^ (joined >>> 1) ^^^ twist)) words

def temper (y : UInt32) : UInt32 :=
  let y := y ^^^ (y >>> 11)
  let y := y ^^^ ((y <<< 7) &&& 0x9D2C5680)
  let y := y ^^^ ((y <<< 15) &&& 0xEFC60000)
  y ^^^ (y >>> 18)

def next (twister : Twister) : UInt32 × Twister :=
  let current := if twister.used < size then twister else ⟨renew twister.words, 0⟩
  (temper (word current.words current.used), { current with used := current.used + 1 })

end Twister

namespace Random

def word : Random UInt32 := fun twister => twister.next

/-- A number of `count` bits, at most 32. -/
def bits (count : Nat) : Random Nat := return (← word).toNat >>> (32 - count)

/-- A number below `n`: draws are thrown away until one fits. Each is thrown away less than half of the time;
after `fuel` of them the answer is zero. -/
def belowFrom (n count : Nat) (positive : 0 < n) : (fuel : Nat) → Random (Fin n)
  | 0 => return ⟨0, positive⟩
  | fuel + 1 => do
    let drawn ← bits count
    if fits : drawn < n then return ⟨drawn, fits⟩ else belowFrom n count positive fuel

def below (n : Nat) (positive : 0 < n) : Random (Fin n) := belowFrom n (n.log2 + 1) positive 4096

def choose (options : Array α) (nonempty : 0 < options.size) : Random α :=
  return options[← below options.size nonempty]

/-- A real number from 0 up to, and without, 1. -/
def real : Random Float := do
  let high := (← word) >>> 5
  let low := (← word) >>> 6
  return (high.toNat.toFloat * 67108864.0 + low.toNat.toFloat) * (1.0 / 9007199254740992.0)

/-- Exchanges each member, from the last one on, with one that does not come later. -/
def shuffleFrom (values : Array α) : Nat → Random (Array α)
  | 0 => return values
  | i + 1 => do
    let j ← below (i + 2) (Nat.succ_pos _)
    shuffleFrom (values.swapIfInBounds (i + 1) j) i

def shuffle (values : Array α) : Random (Array α) := shuffleFrom values (values.size - 1)

def sums (weights : List Float) : List Float :=
  (weights.foldl (fun (acc : List Float × Float) weight =>
    let sum := acc.2 + weight
    (sum :: acc.1, sum)) ([], 0.0)).1.reverse

/-- The place of the first sum above a point, the last place at most. -/
def placeOf (point : Float) (sums : List Float) : Nat := (sums.dropLast.takeWhile (· ≤ point)).length

/-- Draws with weights, independently of one another; nothing is drawn from nothing. -/
def sample (values : Array String) (weights : List Float) (count : Nat) : Random (List String) := do
  let sums := sums weights
  let total := sums.getLast?.getD 0.0
  (List.range count).mapM fun _ => do
    let place := placeOf ((← real) * total) sums
    return values.getD place ""

end Random

end DomainRules
