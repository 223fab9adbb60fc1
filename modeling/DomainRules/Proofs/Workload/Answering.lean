import DomainRules.Proofs.Regex.Reading
import DomainRules.Proofs.Workload.Naming
import Mathlib

/-! Workloads as rule text. Each rule passes the checks of every index, so that the text is read whatever is drawn; the set
that is built from it covers the hits, and only its patterns can cover strangers. -/

namespace DomainRules.Workload

theorem IsPlain.standsAlone {part : String} (h : IsPlain part) : ∀ c ∈ part.toList, Regex.StandsAlone c := by
  intro c mem special
  have plain := h c mem
  simp only [List.mem_cons, List.not_mem_nil, or_false] at special
  rcases special with rfl | rfl | rfl | rfl | rfl | rfl | rfl | rfl | rfl <;> exact absurd plain (by decide)

/-- What `\.[a-z]+\.(com|net)$` is read as. -/
def ending : List Regex.Expr :=
  let com := Regex.Expr.ofItems ("com".toList.map Regex.itemOf)
  let net := Regex.Expr.ofItems ("net".toList.map Regex.itemOf)
  [.char '.'.toNat false, .loop .greedy 1 none (.set [.range 'a'.toNat 'z'.toNat] false), .char '.'.toNat false,
    .group (some 1) [] [] (.ofItems [.either com net]), .anchor .lineEnd]

theorem run_readSequence_ending [Regex.Host] (fuel position : Nat) (pieces : List Regex.Piece) :
    (Regex.readSequence (fuel + 20) true false pieces).run
        (.bare (Regex.tokens "\\.[a-z]+\\.(com|net)$".toList) position) =
      .ok (((ending.map Regex.Piece.item).reverse ++ pieces).reverse.flatMap Regex.Piece.items,
        ⟨[], position + 20, [], [], [none, some (.exactly 3)], none, [], 0⟩) := by
  cbv

theorem compiles_ending (groups : Nat → Regex.Width) : ∀ item ∈ ending, item.Compiles groups [.unicode] := by
  simp only [ending, List.forall_mem_cons]
  exact ⟨⟨_, rfl⟩, ⟨_, rfl⟩, ⟨_, rfl⟩, ⟨_, rfl⟩, ⟨_, rfl⟩, nofun⟩

theorem exists_compile_regexp [Regex.Host] (i : Nat) : ∃ pattern, Regex.Pattern.compile (regexp i) = .ok pattern := by
  have alone : ∀ c ∈ ("^ad" ++ toString i).toList, Regex.StandsAlone c := by
    rw [String.toList_append, List.forall_mem_append]
    exact ⟨by simp [Regex.StandsAlone], (isPlain_toString i).standsAlone⟩
  have bare : '\\' ∉ ("^ad" ++ toString i).toList := fun mem => alone _ mem (by decide)
  have cut : Regex.tokens (regexp i).toList =
      ("^ad" ++ toString i).toList.map .plain ++ Regex.tokens "\\.[a-z]+\\.(com|net)$".toList := by
    rw [regexp, String.toList_append, Regex.tokens_append bare]
  generalize ("^ad" ++ toString i).toList = front at alone cut
  have clear : (Regex.tokens "\\.[a-z]+\\.(com|net)$".toList).head? ≠ some .dangling := by decide
  have size : (Regex.tokens "\\.[a-z]+\\.(com|net)$".toList).length = 18 := by decide
  have run := run_readSequence_ending (2 * front.length + 39) (0 + front.length)
    ((front.map fun c => .item (Regex.itemOf c)).reverse ++ [])
  rw [← Regex.run_readSequence_append clear _ 0 true [] alone, ← cut] at run
  have enough : 3 * ((Regex.tokens (regexp i).toList).length + 2) = 2 * front.length + 39 + 20 + front.length + 1 := by
    rw [cut, List.length_append, size, List.length_map]
    omega
  have found := Regex.read_of_run (cut ▸ Regex.head?_plain_append clear front) enough run
  refine Regex.Pattern.exists_compile found (Regex.Expr.compiles_ofItems fun item mem => ?_)
  have origin : (∃ c ∈ front, item = Regex.itemOf c) ∨ item ∈ ending := by
    simpa [List.flatMap_map, Regex.Piece.items] using mem
  rcases origin with ⟨c, -, rfl⟩ | listed
  · exact Regex.compiles_itemOf c
  · exact compiles_ending _ item listed

theorem IsHit.covered [Regex.Host] {rules : ByKind (List String)} {name : String} (h : IsHit rules name) :
    ∃ rule ∈ Rule.listing rules.get, rule.Covers name := by
  cases h with
  | suffix mem hosted =>
    obtain ⟨host, -, rfl⟩ := hosted
    exact ⟨(.suffix, _), Rule.mem_listing.mpr mem, .inr ⟨host, rfl⟩⟩
  | domain mem => exact ⟨(.domain, name), Rule.mem_listing.mpr mem, rfl⟩
  | keyword mem hosted =>
    obtain ⟨host, -, rfl⟩ := hosted
    refine ⟨(.keyword, _), Rule.mem_listing.mpr mem, host ++ ".", ".example.org", ?_⟩
    simp [String.append_assoc]

theorem text_eq (workload : Workload) (withHint : Bool) :
    workload.text withHint =
      "\n".intercalate (RuleText.writtenLines (if withHint then some workload.hint else none) (Rule.listing workload.rules.get)) ++
        "\n" := by
  have lines : (Kind.all.flatMap fun kind => (workload.rules.get kind).map (kind.tag ++ ·)) =
      (Rule.listing workload.rules.get).map RuleText.lineOf := by
    simp [Rule.listing, RuleText.lineOf, List.map_flatMap, Function.comp_def]
  rw [text, lines, RuleText.joined_eq]

theorem hint_nonneg (workload : Workload) (kind : Kind) : 0 ≤ workload.hint.get kind := by
  simp [hint]

section
variable {sizes : ByKind Int} {workload : Workload} (drawn : Drawn sizes workload) (options : Options)
include drawn

theorem Drawn.length_get (kind : Kind) : (workload.rules.get kind).length = (sizes.get kind).toNat := by
  cases kind with
  | domain => simpa [ByKind.get] using drawn.domains.length_eq.symm
  | suffix => simpa [ByKind.get] using drawn.suffixes.length_eq.symm
  | keyword => simp [ByKind.get, drawn.keywords]
  | regexp => simp [ByKind.get, drawn.regexps]

theorem Drawn.listing_ne_nil (wanted : ∃ kind, 0 < sizes.get kind) : Rule.listing workload.rules.get ≠ [] := by
  obtain ⟨kind, positive⟩ := wanted
  have filled : 0 < (workload.rules.get kind).length := by rw [drawn.length_get]; omega
  exact fun none => List.ne_nil_of_length_pos filled (Rule.listing_eq_nil_iff.mp none kind)

theorem Drawn.check_eq_ok [Regex.Host] {kind : Kind} {payload : String} (mem : payload ∈ workload.rules.get kind) :
    kind.check options payload = .ok () := by
  cases kind with
  | domain => rfl
  | suffix =>
    obtain ⟨i, formed⟩ := drawn.isSuffix mem
    obtain ⟨n, few, named⟩ := formed.isName
    exact Kind.check_suffix_eq_ok.mpr fun _ => named.depth_eq ▸ few.trans (by decide)
  | keyword => rfl
  | regexp =>
    obtain ⟨i, rfl⟩ := exists_of_mem_numbered drawn.regexps mem
    exact Kind.check_regexp_eq_ok.mpr (exists_compile_regexp i)

theorem Drawn.reading_text [Regex.Host] (wanted : ∃ kind, 0 < sizes.get kind) (withHint useHint : Bool) :
    RuleText.Source.reading (Rule.check options) useHint (.text (workload.text withHint)) =
      .ok (if useHint then (if withHint then some workload.hint else none).getD .unknown else .unknown,
        Rule.listing workload.rules.get) := by
  have counts : ∀ given ∈ (if withHint then some workload.hint else none), ∀ kind, 0 ≤ given.get kind := by
    cases withHint with
    | true => exact fun _ same => Option.some.inj same ▸ workload.hint_nonneg
    | false => nofun
  have whole : ∀ rule ∈ Rule.listing workload.rules.get, ¬RuleText.BreaksLine rule.2 := fun rule mem =>
    (drawn.isVisible (Rule.mem_listing.mp mem)).not_breaksLine
  have passed : forM (Rule.listing workload.rules.get) (Rule.check options) = .ok () :=
    forM_eq_ok.mpr fun rule mem => drawn.check_eq_ok options (Rule.mem_listing.mp mem)
  have filled := RuleText.required_eq_ok.mpr ⟨rfl, drawn.listing_ne_nil wanted⟩
  rw [text_eq, RuleText.reading_joined counts whole, passed, ok_bind, filled, map_ok]

theorem Drawn.origin {name : String} (mem : name ∈ workload.candidates) :
    IsHit workload.rules name ∨ IsNearMiss workload.rules name ∨ IsStranger name := by
  obtain ⟨pool, pooled, moved⟩ := drawn.candidates
  exact pooled.origin (moved.mem_iff.mp (Array.mem_toList_iff.mpr mem))

theorem Drawn.parse_text [Regex.Host] (wanted : ∃ kind, 0 < sizes.get kind) (withHint useHint : Bool) :
    ∃ builder, RuleText.parse (.text (workload.text withHint)) useHint options = .ok builder ∧
      builder.Holds options (if useHint then (if withHint then some workload.hint else none).getD .unknown else .unknown)
        (Rule.listing workload.rules.get) :=
  (drawn.reading_text options wanted withHint useHint ▸ RuleText.parse_agree _ useHint options).exists_ok

theorem Drawn.covers_eq_false [Regex.Host] {set : RuleSet} (represents : set.Represents options (Rule.listing workload.rules.get))
    {name : String} (stranger : IsStranger name) {matcher : Matcher} (mem : matcher ∈ set.matchers)
    (other : matcher.kind ≠ .regexp) : matcher.covers name = false := by
  obtain ⟨kind, -, answers⟩ := Matcher.Row.exists_represents represents mem
  rw [Bool.eq_false_iff, Ne, answers.covers_iff, payloads_listing]
  rintro ⟨payload, held, covers⟩
  exact drawn.not_covers_of_stranger held (answers.kind_eq ▸ other) stranger covers

end

/-- Whatever numbers are drawn, there are as many rules of each kind as are wanted, and queries only ask for candidates. The
text is read back rule by rule under all options, and a hint in it is exact. What is built from it covers each drawn domain
and each name with a host in front of a suffix or of a keyword; a stranger can be covered by patterns alone. -/
theorem generate_faithful [Regex.Host] (sizes : ByKind Int) (wanted : ∃ kind, 0 < sizes.get kind) (source : Twister)
    (options : Options) :
    let workload := ((generate sizes).run source).1
    Drawn sizes workload ∧
    (∀ name ∈ workload.candidates, IsHit workload.rules name ∨ IsNearMiss workload.rules name ∨ IsStranger name) ∧
    (∀ count, Random.Yields (∀ name ∈ ·, name ∈ workload.candidates) (workload.queries count)) ∧
    ∀ withHint useHint, ∃ builder set,
      RuleText.parse (.text (workload.text withHint)) useHint options = .ok builder ∧ builder.freeze.1 = .ok set ∧
      (∀ kind, builder.countOf kind = (sizes.get kind).toNat) ∧
      (withHint = true → useHint = true → ∀ kind, builder.hint.get kind = builder.countOf kind) ∧
      (∀ name, IsHit workload.rules name → set.covers name = true) ∧
      ∀ name, IsStranger name → ∀ matcher ∈ set.matchers, matcher.kind ≠ .regexp → matcher.covers name = false := by
  intro workload
  have drawn : Drawn sizes workload := yields_generate sizes source
  refine ⟨drawn, fun name mem => drawn.origin mem, yields_queries workload, fun withHint useHint => ?_⟩
  obtain ⟨builder, parsed, holds⟩ := drawn.parse_text options wanted withHint useHint
  obtain ⟨set, frozen, represents⟩ := holds.freeze
  have count (kind : Kind) : builder.countOf kind = (workload.rules.get kind).length := by
    rw [holds.countOf_eq, payloads_listing]
  refine ⟨builder, set, parsed, frozen, fun kind => (count kind).trans (drawn.length_get kind), fun headed used kind => ?_,
    fun name hit => (represents.covers_iff name).mpr hit.covered,
    fun name stranger matcher mem other => drawn.covers_eq_false options represents stranger mem other⟩
  rw [count, holds.hint_eq, if_pos used, if_pos headed, Option.getD_some, hint, ByKind.get_ofFn]

/-- No domains, as their number is negative, and suffixes in a trie that is filled by recursion. -/
theorem generate_faithful_negative_size :
    ∃ workload builder set, ((generate ⟨-4, 3, 2, 1⟩).run (.ofSeed 7)).1 = workload ∧
      (∃ kind, 0 < (⟨-4, 3, 2, 1⟩ : ByKind Int).get kind) ∧ Drawn ⟨-4, 3, 2, 1⟩ workload ∧
      RuleText.parse (.text (workload.text true)) true { suffix := .trieRecursive } = .ok builder ∧
      builder.freeze.1 = .ok set ∧ builder.counts = [0, 3, 2, 1] ∧
      (∀ kind, builder.hint.get kind = builder.countOf kind) ∧
      IsHit workload.rules "www.kw1track.example.org" ∧ set.covers "www.kw1track.example.org" = true ∧
      IsStranger "dl.miss99.invalid" ∧
      ∀ matcher ∈ set.matchers, matcher.kind ≠ .regexp → matcher.covers "dl.miss99.invalid" = false := by
  have wanted : ∃ kind, 0 < (⟨-4, 3, 2, 1⟩ : ByKind Int).get kind := ⟨.suffix, by decide⟩
  have faithful := generate_faithful ⟨-4, 3, 2, 1⟩ wanted (.ofSeed 7) { suffix := .trieRecursive }
  -- What is drawn is not computed, only named.
  generalize generated : ((generate ⟨-4, 3, 2, 1⟩).run (.ofSeed 7)).1 = workload at faithful ⊢
  obtain ⟨drawn, -, -, answers⟩ := faithful
  obtain ⟨builder, set, parsed, frozen, count, hinted, hits, strangers⟩ := answers true true
  have listed : "kw1track" ∈ workload.rules.keyword := by
    rw [drawn.keywords]
    exact List.mem_map.mpr ⟨1, by decide, by decide⟩
  have hit : IsHit workload.rules "www.kw1track.example.org" :=
    .keyword listed ⟨"www", Array.mem_toList_iff.mp (by decide), by decide⟩
  have stranger : IsStranger "dl.miss99.invalid" := ⟨99, "dl", Array.mem_toList_iff.mp (by decide), by decide⟩
  have counts : builder.counts = [0, 3, 2, 1] := by
    simp only [Builder.counts, Kind.all, List.map_cons, List.map_nil, count]
    decide
  exact ⟨workload, builder, set, rfl, wanted, drawn, parsed, frozen, counts, hinted rfl rfl, hit, hits _ hit, stranger,
    strangers _ stranger⟩

end DomainRules.Workload
