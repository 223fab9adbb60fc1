import Std.Data.TreeSet

/-! The arena pools payload strings in chunks with a byte budget. A chunk that cannot take a new string is
retired for a fresh one. -/

namespace DomainRules

/-- What a retired chunk held and could have held, in bytes. -/
structure Arena.Chunk where
  used : Nat
  capacity : Nat
  deriving DecidableEq

/-- `retired` lists the chunks given up, the latest first; `pool` holds the strings of the current one. -/
structure Arena where
  chunkSize : Nat
  pool : Std.TreeSet String
  capacity : Nat
  used : Nat
  retired : List Arena.Chunk
  issued : Nat

namespace Arena

def defaultChunkSize : Nat := 65536

def new (chunkSize : Nat) : Arena := ⟨chunkSize, ∅, chunkSize, 0, [], 0⟩

/-- The arena of a build that expects `count` strings, of 32 bytes each. -/
def forCount (count : Int) : Arena := new (max (defaultChunkSize : Int) (count * 32)).toNat

/-- Chunks begun so far, the current one among them. -/
def chunks (arena : Arena) : Nat := arena.retired.length + 1

/-- A fresh chunk has room for twice the string that needs it, and never less than the chunk size. -/
def rotate (arena : Arena) (needed : Nat) : Arena :=
  { arena with
    pool := ∅
    capacity := max arena.chunkSize (2 * needed)
    used := 0
    retired := ⟨arena.used, arena.capacity⟩ :: arena.retired }

/-- Pools a string that the current chunk does not hold yet. -/
def add (arena : Arena) (value : String) : Arena :=
  let size := value.utf8ByteSize
  let target := if arena.capacity < arena.used + size then arena.rotate size else arena
  { target with pool := target.pool.insert value, used := target.used + size }

/-- Hands out the pooled string of the same text, if the current chunk has one. -/
def store (arena : Arena) (value : String) : Arena × String :=
  let counted := { arena with issued := arena.issued + 1 }
  match arena.pool.get? value with
  | some pooled => (counted, pooled)
  | none => (counted.add value, value)

def storeAll (arena : Arena) (values : List String) : Arena :=
  values.foldl (fun current value => (current.store value).1) arena

end Arena

end DomainRules
