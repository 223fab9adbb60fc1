import DomainRules.Arena
import DomainRules.Fault
import DomainRules.Text.CodePoint

/-! String stores: what becomes of a payload between the text and the rules. Each answers with the text that
it was given, unless it has to encode a text that has no UTF-8 form. -/

namespace DomainRules

/-- An arena of a given chunk size, which must be positive. -/
def Arena.ofSize (size : Int) : Except Fault Arena :=
  if size ≤ 0 then .error (.chunkSize size) else .ok (.new size.toNat)

inductive StringStore
  | asIs
  | clone
  | arena (arena : Arena)

namespace StringStore

def new (count : Int) : Storage → StringStore
  | .asIs => .asIs
  | .clone => .clone
  | .arena => .arena (.forCount count)

/-- Takes a text of characters. -/
def keep (store : StringStore) (value : String) : StringStore × String :=
  match store with
  | asIs => (asIs, value)
  | clone => (clone, String.ofList value.toList)
  | arena pool =>
    let (pool, kept) := pool.store value
    (arena pool, kept)

/-- Takes a text of any code points, if it can. The arena has counted a text before it turns out to have no
UTF-8 form. -/
def keepLoose (store : StringStore) (value : Text.Loose) : StringStore × Except Text.Gap Text.Loose :=
  match store, value.strict with
  | asIs, _ => (asIs, .ok value)
  | clone, .error gap => (clone, .error gap)
  | arena pool, .error gap => (arena { pool with issued := pool.issued + 1 }, .error gap)
  | store, .ok plain =>
    let (store, kept) := store.keep plain
    (store, .ok (.ofString kept))

/-- Chunks given up so far, the first one first. -/
def retired : StringStore → List Arena.Chunk
  | asIs | clone => []
  | arena pool => pool.retired.reverse

def keepAll (store : StringStore) : List String → StringStore × List String
  | [] => (store, [])
  | value :: values =>
    let (store, kept) := store.keep value
    let (store, others) := store.keepAll values
    (store, kept :: others)

end StringStore

end DomainRules
