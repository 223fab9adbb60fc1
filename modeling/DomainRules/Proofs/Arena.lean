import DomainRules.Arena
import Mathlib.Algebra.BigOperators.Group.Finset.Basic
import Mathlib.Algebra.GroupWithZero.Nat
import Mathlib.Algebra.Order.BigOperators.Group.List
import Mathlib.Algebra.Order.Group.Nat

/-! The books of an arena. A string is counted once for each chunk that it is pooled in, no chunk takes more than its budget,
and a chunk is retired only if what it holds and the string that it cannot take exceed its budget together. So the chunks
given up never cost more than twice the bytes that were asked for. -/

namespace DomainRules.Arena

/-- What storing a value does: the current chunk has it, or has room for it, or is retired for one that begins with it. -/
inductive Stores (value : String) (arena : Arena) : Arena → Prop
  | known : value ∈ arena.pool → Stores value arena { arena with issued := arena.issued + 1 }
  | fits : value ∉ arena.pool → arena.used + value.utf8ByteSize ≤ arena.capacity →
      Stores value arena
        { arena with
          pool := arena.pool.insert value
          used := arena.used + value.utf8ByteSize
          issued := arena.issued + 1 }
  | begins : value ∉ arena.pool → arena.capacity < arena.used + value.utf8ByteSize →
      Stores value arena
        { arena with
          pool := (∅ : Std.TreeSet String).insert value
          capacity := max arena.chunkSize (2 * value.utf8ByteSize)
          used := value.utf8ByteSize
          retired := ⟨arena.used, arena.capacity⟩ :: arena.retired
          issued := arena.issued + 1 }

theorem store_of_mem {arena : Arena} {value : String} (known : value ∈ arena.pool) :
    arena.store value = ({ arena with issued := arena.issued + 1 }, value) := by
  rw [store, Std.TreeSet.get?_eq_some known]

theorem store_of_not_mem {arena : Arena} {value : String} (fresh : value ∉ arena.pool) :
    arena.store value = (add { arena with issued := arena.issued + 1 } value, value) := by
  rw [store, Std.TreeSet.get?_eq_none fresh]

theorem store_snd (arena : Arena) (value : String) : (arena.store value).2 = value := by
  by_cases known : value ∈ arena.pool
  · rw [store_of_mem known]
  · rw [store_of_not_mem known]

theorem stores (arena : Arena) (value : String) : Stores value arena (arena.store value).1 := by
  by_cases known : value ∈ arena.pool
  · rw [store_of_mem known]
    exact .known known
  · rw [store_of_not_mem known, add]
    by_cases full : arena.capacity < arena.used + value.utf8ByteSize
    · simpa [full, rotate] using Stores.begins known full
    · simpa [full] using Stores.fits known (Nat.not_lt.mp full)

/-- The values stored since the current chunk was begun, with the one that began it. Of those before the given values, the
chunk has seen `earlier`. -/
def sinceBegun (arena : Arena) (earlier : List String) : List String → List String
  | [] => earlier
  | value :: values =>
    let next := (arena.store value).1
    next.sinceBegun (if next.chunks = arena.chunks then earlier ++ [value] else [value]) values

/-- How the current chunk was begun: with the arena, or by the first of the values stored since. -/
inductive Begun (size : Nat) : List String → List Chunk → Nat → Prop
  | atFirst {since} : Begun size since [] size
  | later {first others chunk retired} :
      Begun size (first :: others) (chunk :: retired) (max size (2 * first.utf8ByteSize))

/-- An arena of the given chunk size after some calls, the last of them since its chunk was begun. -/
structure Holds (size : Nat) (calls since : List String) (arena : Arena) : Prop where
  chunkSize_eq : arena.chunkSize = size
  issued_eq : arena.issued = calls.length
  mem_pool : ∀ value, value ∈ arena.pool ↔ value ∈ since
  used_eq : arena.used = ∑ value ∈ since.toFinset, value.utf8ByteSize
  used_le : arena.used ≤ arena.capacity
  begun : Begun size since arena.retired arena.capacity
  size_le : ∀ chunk ∈ arena.retired, size ≤ chunk.capacity
  reserved_le : (arena.retired.map Chunk.capacity).sum + arena.used ≤ 2 * (calls.map String.utf8ByteSize).sum

theorem holds_new (size : Nat) : (new size).Holds size [] [] where
  chunkSize_eq := rfl
  issued_eq := rfl
  mem_pool value := by simp [new]
  used_eq := rfl
  used_le := Nat.zero_le _
  begun := .atFirst
  size_le := by simp [new]
  reserved_le := by simp [new]

namespace Begun

variable {size capacity : Nat} {since : List String} {retired : List Chunk}

theorem size_le (h : Begun size since retired capacity) : size ≤ capacity := by
  cases h with
  | atFirst => exact le_refl size
  | later => exact le_max_left _ _

/-- More values in the same chunk do not change how it was begun. -/
theorem append (h : Begun size since retired capacity) (value : String) : Begun size (since ++ [value]) retired capacity := by
  cases h with
  | atFirst => exact .atFirst
  | later => exact .later

theorem capacity_eq (h : Begun size since retired capacity) :
    capacity = size ∨ ∃ first others, since = first :: others ∧ retired ≠ [] ∧ capacity = 2 * first.utf8ByteSize := by
  cases h with
  | atFirst => exact .inl rfl
  | @later first others chunk retired =>
    rcases le_total size (2 * first.utf8ByteSize) with small | large
    · exact .inr ⟨first, others, rfl, List.cons_ne_nil _ _, max_eq_right small⟩
    · exact .inl (max_eq_left large)

end Begun

section
variable {size : Nat} {calls since : List String} {arena : Arena}

/-- Only a value that was not there adds its size. -/
theorem sum_toFinset_append (since : List String) (value : String) :
    ∑ other ∈ (since ++ [value]).toFinset, other.utf8ByteSize =
      (∑ other ∈ since.toFinset, other.utf8ByteSize) + if value ∈ since then 0 else value.utf8ByteSize := by
  have joined : (since ++ [value]).toFinset = insert value since.toFinset := by
    ext other
    simp
  rw [joined]
  by_cases seen : value ∈ since
  · simp [seen]
  · simp [seen, Finset.sum_insert, Nat.add_comm]

theorem Holds.known (h : arena.Holds size calls since) {value : String} (known : value ∈ arena.pool) :
    Holds size (calls ++ [value]) (since ++ [value]) { arena with issued := arena.issued + 1 } where
  chunkSize_eq := h.chunkSize_eq
  issued_eq := by simp [h.issued_eq]
  mem_pool other := by
    have seen := (h.mem_pool value).mp known
    rw [h.mem_pool, List.mem_append, List.mem_singleton]
    exact ⟨.inl, fun either => either.elim id fun same => same ▸ seen⟩
  used_eq := by
    rw [sum_toFinset_append, if_pos ((h.mem_pool value).mp known), Nat.add_zero]
    exact h.used_eq
  used_le := h.used_le
  begun := h.begun.append value
  size_le := h.size_le
  reserved_le := by
    have := h.reserved_le
    simp only [List.map_append, List.sum_append, List.map_singleton, List.sum_singleton]
    omega

theorem Holds.fits (h : arena.Holds size calls since) {value : String} (fresh : value ∉ arena.pool)
    (room : arena.used + value.utf8ByteSize ≤ arena.capacity) :
    Holds size (calls ++ [value]) (since ++ [value])
      { arena with
        pool := arena.pool.insert value
        used := arena.used + value.utf8ByteSize
        issued := arena.issued + 1 } where
  chunkSize_eq := h.chunkSize_eq
  issued_eq := by simp [h.issued_eq]
  mem_pool other := by simp [h.mem_pool, or_comm, @eq_comm _ value]
  used_eq := by rw [sum_toFinset_append, if_neg (mt (h.mem_pool value).mpr fresh), h.used_eq]
  used_le := room
  begun := h.begun.append value
  size_le := h.size_le
  reserved_le := by
    have := h.reserved_le
    simp only [List.map_append, List.sum_append, List.map_singleton, List.sum_singleton]
    omega

/-- What the old chunk holds and the value that it cannot take pay for its capacity. -/
theorem Holds.begins (h : arena.Holds size calls since) {value : String} (full : arena.capacity < arena.used + value.utf8ByteSize) :
    Holds size (calls ++ [value]) [value]
      { arena with
        pool := (∅ : Std.TreeSet String).insert value
        capacity := max arena.chunkSize (2 * value.utf8ByteSize)
        used := value.utf8ByteSize
        retired := ⟨arena.used, arena.capacity⟩ :: arena.retired
        issued := arena.issued + 1 } where
  chunkSize_eq := h.chunkSize_eq
  issued_eq := by simp [h.issued_eq]
  mem_pool other := by simp [@eq_comm _ value]
  used_eq := by simp
  used_le := le_max_of_le_right (Nat.le_mul_of_pos_left _ (by decide))
  begun := h.chunkSize_eq ▸ .later
  size_le := List.forall_mem_cons.mpr ⟨h.begun.size_le, h.size_le⟩
  reserved_le := by
    have := h.reserved_le
    simp only [List.map_append, List.map_cons, List.map_nil, List.sum_append, List.sum_cons, List.sum_nil]
    omega

theorem Holds.store (h : arena.Holds size calls since) (value : String) :
    let next := (arena.store value).1
    next.Holds size (calls ++ [value]) (if next.chunks = arena.chunks then since ++ [value] else [value]) := by
  intro next
  generalize made : next = reached
  have did : Stores value arena reached := made ▸ arena.stores value
  cases did with
  | known known => simpa [chunks] using h.known known
  | fits fresh room => simpa [chunks] using h.fits fresh room
  | begins fresh full => simpa [chunks] using h.begins full

theorem Holds.storeAll (h : arena.Holds size calls since) (values : List String) :
    (arena.storeAll values).Holds size (calls ++ values) (arena.sinceBegun since values) := by
  induction values generalizing arena calls since with
  | nil => simpa [Arena.storeAll, sinceBegun] using h
  | cons value values ih => simpa [Arena.storeAll, sinceBegun] using ih (h.store value)

theorem holds_storeAll_new (size : Nat) (values : List String) :
    ((new size).storeAll values).Holds size values ((new size).sinceBegun [] values) :=
  (holds_new size).storeAll values

theorem Holds.chunks_store (h : arena.Holds size calls since) (value : String) :
    (arena.store value).1.chunks =
      arena.chunks + if value ∉ since ∧ arena.capacity - arena.used < value.utf8ByteSize then 1 else 0 := by
  have held := h.used_le
  have pooled := h.mem_pool value
  generalize made : (arena.store value).1 = reached
  have did : Stores value arena reached := made ▸ arena.stores value
  cases did with
  | known known =>
    rw [if_neg fun both => both.1 (pooled.mp known)]
    rfl
  | fits fresh room =>
    rw [if_neg fun both => absurd both.2 (by omega)]
    rfl
  | begins fresh full =>
    rw [if_pos ⟨mt pooled.mpr fresh, by omega⟩]
    rfl

end

/-- After any calls an arena knows how many there were. Its current chunk holds each value stored since it was begun once, in
its size in UTF-8, and never more than its capacity, which is the chunk size or twice the size of the value that it was begun
for. The next call hands its value out again, and begins a chunk just if the current one has neither the value nor room for
it. -/
theorem accounts_exact (size : Nat) (values : List String) :
    let arena := (new size).storeAll values
    let since := (new size).sinceBegun [] values
    arena.issued = values.length ∧
    arena.used = ∑ value ∈ since.toFinset, value.utf8ByteSize ∧
    arena.used ≤ arena.capacity ∧
    size ≤ arena.capacity ∧
    (arena.capacity = size ∨
      ∃ first others, since = first :: others ∧ arena.chunks ≠ 1 ∧ arena.capacity = 2 * first.utf8ByteSize) ∧
    ∀ value, (arena.store value).2 = value ∧ (arena.store value).1.chunks =
      arena.chunks + if value ∉ since ∧ arena.capacity - arena.used < value.utf8ByteSize then 1 else 0 := by
  intro arena since
  have h : arena.Holds size values since := holds_storeAll_new size values
  refine ⟨h.issued_eq, h.used_eq, h.used_le, h.begun.size_le, ?_, fun value => ⟨store_snd arena value, h.chunks_store value⟩⟩
  simpa [chunks] using h.begun.capacity_eq

/-- A string of a chunk that was given up is pooled anew. -/
example : ((new 4).storeAll ["abc", "de", "abc", "abc"]).retired = [⟨2, 4⟩, ⟨3, 4⟩] := by decide +kernel

/-- The chunks given up, each at its capacity, come to no more than twice the bytes asked for, and so do as many chunks of the
least size. -/
theorem waste_bounded (size : Nat) (values : List String) :
    let arena := (new size).storeAll values
    (arena.chunks - 1) * size ≤ 2 * (values.map String.utf8ByteSize).sum ∧
    (arena.retired.map Chunk.capacity).sum ≤ 2 * (values.map String.utf8ByteSize).sum := by
  intro arena
  have h : arena.Holds size values _ := holds_storeAll_new size values
  have reserved : (arena.retired.map Chunk.capacity).sum ≤ 2 * (values.map String.utf8ByteSize).sum :=
    (Nat.le_add_right _ _).trans h.reserved_le
  have least : arena.retired.length * size ≤ (arena.retired.map Chunk.capacity).sum := by
    simpa using List.card_nsmul_le_sum (arena.retired.map Chunk.capacity) size (by simpa using h.size_le)
  exact ⟨least.trans reserved, reserved⟩

end DomainRules.Arena
