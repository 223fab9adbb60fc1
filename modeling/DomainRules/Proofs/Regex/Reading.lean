import DomainRules.Proofs.Outcome
import DomainRules.Regex.Pattern

/-! Reading expressions that start with plain characters. Such a character is an item by itself, so that the rest is read as if
those items had been there before; and what is read to the end compiles if its items do. -/

namespace DomainRules.Regex

/-- A character that is an item by itself, whatever stands around it. -/
def StandsAlone (c : Char) : Prop := c ∉ ['\\', '[', '?', '*', '+', '{', '(', ')', '|']

instance (c : Char) : Decidable (StandsAlone c) := inferInstanceAs (Decidable (_ ∉ _))

def itemOf : Char → Expr
  | '.' => .any
  | '^' => .anchor .lineStart
  | '$' => .anchor .lineEnd
  | c => .char c.toNat false

theorem tokens_append {front : List Char} (bare : '\\' ∉ front) (rest : List Char) :
    tokens (front ++ rest) = front.map Token.plain ++ tokens rest := by
  induction front with
  | nil => rfl
  | cons c front ih =>
    obtain ⟨differ, bare⟩ := List.ne_and_not_mem_of_not_mem_cons bare
    rw [List.cons_append, tokens, ih bare]
    · rfl
    · intro same
      exact absurd same.symm differ
    · intro _ _ same
      exact absurd same.symm differ

theorem head?_plain_append {rest : List Token} (whole : rest.head? ≠ some .dangling) (chars : List Char) :
    (chars.map Token.plain ++ rest).head? ≠ some .dangling := by
  cases chars <;> simp [whole]

/-- A reader that has met neither flags nor groups. -/
def Reader.bare (ahead : List Token) (position : Nat) : Reader := ⟨ahead, position, [], [], [none], none, [], 0⟩

section
variable {rest : List Token} (whole : rest.head? ≠ some .dangling) (fuel position : Nat) (first : Bool) (pieces : List Piece)
include whole

theorem run_take (token : Token) :
    Read.take.run (.bare (token :: rest) position) = .ok (some token, .bare rest (position + token.length)) := by
  simp [Read.take, Read.checkAhead, Read.peek, Reader.bare, whole]

theorem run_readSequence_cons [Host] {c : Char} (alone : StandsAlone c) :
    (readSequence (fuel + 1) first false pieces).run (.bare (.plain c :: rest) position) =
      (readSequence fuel first false (.item (itemOf c) :: pieces)).run (.bare rest (position + 1)) := by
  have taken := run_take whole position (.plain c)
  have ahead : (Reader.bare (.plain c :: rest) position).ahead = .plain c :: rest := rfl
  simp only [StandsAlone, List.mem_cons, not_or] at alone
  rw [readSequence]
  by_cases symbol : c = '.' ∨ c = '^' ∨ c = '$'
  · rcases symbol with rfl | rfl | rfl <;>
      simp [Read.position, Read.peek, taken, ahead, itemOf, Token.length, Token.text]
  · simp only [not_or] at symbol
    simp [Read.position, Read.peek, taken, ahead, itemOf, Token.length, Token.text, alone, symbol]

theorem run_readSequence_append [Host] {chars : List Char} (alone : ∀ c ∈ chars, StandsAlone c) :
    (readSequence (fuel + chars.length) first false pieces).run (.bare (chars.map .plain ++ rest) position) =
      (readSequence fuel first false ((chars.map fun c => .item (itemOf c)).reverse ++ pieces)).run
        (.bare rest (position + chars.length)) := by
  induction chars generalizing pieces position with
  | nil => rfl
  | cons c chars ih =>
    obtain ⟨here, later⟩ := List.forall_mem_cons.mp alone
    have clear := head?_plain_append whole chars
    rw [List.length_cons, ← Nat.add_assoc, List.map_cons, List.cons_append,
      run_readSequence_cons clear _ position first pieces here, ih _ _ later]
    simp [Nat.add_assoc, Nat.add_comm 1]

end

/-- A sequence that is read to the end, and no flags, is the whole expression. -/
theorem read_of_run [Host] {source : List Char} {items : List Expr} {fuel position : Nat} {groups : List (Option Width)}
    (whole : (tokens source).head? ≠ some .dangling) (enough : 3 * ((tokens source).length + 2) = fuel + 1)
    (run : (readSequence fuel true false []).run (.bare (tokens source) 0) =
      .ok (items, ⟨[], position, [], [], groups, none, [], 0⟩)) :
    read source = .ok ⟨.ofItems items, [.unicode], groups⟩ := by
  have alternatives : (readAlternatives (3 * ((tokens source).length + 2)) true false true).run (.bare (tokens source) 0) =
      .ok ([items], ⟨[], position, [], [], groups, none, [], 0⟩) := by
    rw [enough, readAlternatives, Bool.and_self, StateT.run_bind, run]
    simp [Read.accept, Read.peek]
  have start : read source = Prod.fst <$> readAll.run (.bare (tokens source) 0) := rfl
  have ahead : (Reader.bare (tokens source) 0).ahead = tokens source := rfl
  rw [start, readAll]
  simp [Read.checkAhead, Read.peek, whole, ahead, alternatives, joinAlternatives]

section
variable {groups : Nat → Width} {flags : Flags}

/-- Whether an expression compiles at all. -/
def Expr.Compiles (groups : Nat → Width) (flags : Flags) (expr : Expr) : Prop :=
  ∃ program, expr.compile groups flags = .ok program

theorem Expr.compiles_ofItems {items : List Expr} (h : ∀ item ∈ items, item.Compiles groups flags) :
    (ofItems items).Compiles groups flags := by
  induction items with
  | nil => exact ⟨.empty, rfl⟩
  | cons item items ih =>
    obtain ⟨first, others⟩ := List.forall_mem_cons.mp h
    obtain ⟨one, compiled⟩ := first
    obtain ⟨rest, compiled'⟩ := ih others
    refine ⟨.seq one rest, ?_⟩
    rw [ofItems, List.foldr_cons, ← ofItems, Expr.compile, compiled, compiled']
    rfl

theorem compiles_itemOf (c : Char) : (itemOf c).Compiles groups flags := by
  unfold itemOf
  split <;> exact ⟨_, rfl⟩

end

theorem Pattern.exists_compile [Host] {source : String} {reading : Reading} (found : read source.toList = .ok reading)
    (compiles : reading.expr.Compiles (widthOf reading.groups) reading.flags) :
    ∃ pattern, compile source = .ok pattern := by
  obtain ⟨program, compiled⟩ := compiles
  refine ⟨⟨source, program, reading.groups.length - 1⟩, ?_⟩
  rw [compile, found, ok_bind, compiled]
  rfl

end DomainRules.Regex
