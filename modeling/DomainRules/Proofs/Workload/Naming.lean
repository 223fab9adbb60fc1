import DomainRules.Proofs.CapacityHint
import DomainRules.Proofs.RuleText.Writing
import DomainRules.Proofs.Workload.Drawing

/-! The names of a workload. They consist of plain labels, end in one of the top labels and stay shallow, so that no line
is broken by them and no trie refuses them. Candidates lie below rules, next to them, or among strangers, which have
another top label and no keyword in them. -/

namespace DomainRules.Workload

/-- Letters and digits, as in every label. -/
def IsPlain (part : String) : Prop :=
  ∀ c ∈ part.toList, (Text.isAsciiLetter c.toNat || Text.isAsciiDigit c.toNat) = true

instance (part : String) : Decidable (IsPlain part) := List.decidableBAll _ part.toList

theorem IsPlain.append {front part : String} (h : IsPlain front) (h' : IsPlain part) : IsPlain (front ++ part) := by
  rw [IsPlain, String.toList_append, List.forall_mem_append]
  exact ⟨h, h'⟩

theorem isAsciiDigit_of_mem_toString {i : Nat} {c : Char} (mem : c ∈ (toString i).toList) :
    Text.isAsciiDigit c.toNat = true := by
  have digits : (toString i).toList = Nat.toDigits 10 i := Nat.toList_repr
  exact CapacityHint.isAsciiDigit_of_mem_toDigits (digits ▸ mem)

theorem isPlain_toString (i : Nat) : IsPlain (toString i) := fun c mem => by
  rw [isAsciiDigit_of_mem_toString mem, Bool.or_true]

theorem isPlain_of_mem {parts : Array String} (all : ∀ part ∈ parts.toList, IsPlain part) {part : String} (mem : part ∈ parts) :
    IsPlain part :=
  all part (Array.mem_toList_iff.mpr mem)

theorem isPlain_host {host : String} (mem : host ∈ hosts) : IsPlain host := isPlain_of_mem (by decide) mem

theorem isPlain_word {word : String} (mem : word ∈ words) : IsPlain word := isPlain_of_mem (by decide) mem

theorem isPlain_topLabel {top : String} (mem : top ∈ topLabels) : IsPlain top := isPlain_of_mem (by decide) mem

theorem IsPlain.dot_not_mem {part : String} (h : IsPlain part) : '.' ∉ part.toList := fun mem =>
  absurd (h '.' mem) (by decide)

theorem IsPlain.append_toString {part : String} (h : IsPlain part) (i : Nat) : IsPlain (part ++ toString i) :=
  h.append (isPlain_toString i)

/-- A name of that many plain labels. -/
inductive IsName : Nat → String → Prop
  | one {part} : IsPlain part → IsName 1 part
  | more {part n name} : IsPlain part → IsName n name → IsName (n + 1) (part ++ "." ++ name)

theorem IsName.depth_eq {n : Nat} {name : String} (h : IsName n name) : Name.depth name = n := by
  have one {part : String} (plain : IsPlain part) : Name.depth part = 1 := by
    rw [Name.depth_eq, Name.labels_of_not_mem plain.dot_not_mem, List.length_singleton]
  induction h with
  | one plain => exact one plain
  | more plain _ ih => rw [Name.depth_append, one plain, ih, Nat.add_comm]

/-- Without blanks and control characters. -/
def IsVisible (text : String) : Prop := ∀ c ∈ text.toList, ' ' < c

instance (text : String) : Decidable (IsVisible text) := List.decidableBAll _ text.toList

theorem isVisible_append {front behind : String} : IsVisible (front ++ behind) ↔ IsVisible front ∧ IsVisible behind := by
  simp only [IsVisible, String.toList_append, List.forall_mem_append]

theorem IsVisible.not_breaksLine {text : String} (h : IsVisible text) : ¬RuleText.BreaksLine text := by
  rintro (feed | last)
  · exact absurd (h '\n' feed) (by decide)
  · exact absurd (h '\r' (List.mem_of_getLast? last)) (by decide)

theorem IsPlain.isVisible {part : String} (h : IsPlain part) : IsVisible part := fun c mem => by
  have codes : (65 ≤ c.toNat ∧ c.toNat ≤ 90 ∨ 97 ≤ c.toNat ∧ c.toNat ≤ 122) ∨ 48 ≤ c.toNat ∧ c.toNat ≤ 57 := by
    simpa [Text.isAsciiLetter, Text.isAsciiDigit] using h c mem
  have blank : 32 < c.toNat := by omega
  exact blank

theorem IsName.isVisible {n : Nat} {name : String} (h : IsName n name) : IsVisible name := by
  induction h with
  | one plain => exact plain.isVisible
  | more plain _ ih => exact isVisible_append.mpr ⟨isVisible_append.mpr ⟨plain.isVisible, by decide⟩, ih⟩

theorem Hosted.isName {n : Nat} {name hosted : String} (h : Hosted name hosted) (named : IsName n name) :
    IsName (n + 1) hosted := by
  obtain ⟨host, mem, rfl⟩ := h
  exact .more (isPlain_host mem) named

theorem Hosted.top_eq {name hosted : String} (h : Hosted name hosted) : Name.top hosted = Name.top name := by
  obtain ⟨host, -, rfl⟩ := h
  exact Name.top_append host name

theorem IsPlain.top_eq {part : String} (h : IsPlain part) : Name.top part = part := by
  simp [Name.top, Name.labels_of_not_mem h.dot_not_mem]

theorem IsSuffix.isName {i : Nat} {suffix : String} (h : IsSuffix i suffix) : ∃ n ≤ 3, IsName n suffix := by
  cases h with
  | numbered word top => exact ⟨2, by decide, .more ((isPlain_word word).append_toString i) (.one (isPlain_topLabel top))⟩
  | nested word top hosted =>
    exact ⟨3, by decide, hosted.isName (.more ((isPlain_word word).append_toString _) (.one (isPlain_topLabel top)))⟩
  | bare word top => exact ⟨2, by decide, .more (isPlain_word word) (.one (isPlain_topLabel top))⟩

theorem IsSuffix.top_mem {i : Nat} {suffix : String} (h : IsSuffix i suffix) : Name.top suffix ∈ topLabels := by
  have own {word top : String} (listed : top ∈ topLabels) : Name.top (word ++ "." ++ top) ∈ topLabels := by
    rwa [Name.top_append, (isPlain_topLabel listed).top_eq]
  cases h with
  | numbered _ listed => exact own listed
  | nested _ listed hosted => exact hosted.top_eq ▸ own listed
  | bare _ listed => exact own listed

theorem IsSuffix.isVisible {i : Nat} {suffix : String} (h : IsSuffix i suffix) : IsVisible suffix := by
  obtain ⟨_, -, named⟩ := h.isName
  exact named.isVisible

theorem isPlain_keyword (i : Nat) : IsPlain (keyword i) :=
  (IsPlain.append_toString (by decide) i).append (by decide)

theorem isVisible_regexp (i : Nat) : IsVisible (regexp i) :=
  isVisible_append.mpr ⟨isVisible_append.mpr ⟨by decide, (isPlain_toString i).isVisible⟩, by decide⟩

theorem exists_of_mem_numbered {form : Nat → String} {size : Nat} {texts : List String}
    (numbered : texts = (List.range size).map form) {text : String} (mem : text ∈ texts) : ∃ i, text = form i := by
  rw [numbered, List.mem_map] at mem
  obtain ⟨i, -, rfl⟩ := mem
  exact ⟨i, rfl⟩

section
variable {sizes : ByKind Int} {workload : Workload} (drawn : Drawn sizes workload)
include drawn

theorem Drawn.isSuffix {suffix : String} (mem : suffix ∈ workload.rules.suffix) : ∃ i, IsSuffix i suffix := by
  obtain ⟨i, -, formed⟩ := exists_of_mem_right drawn.suffixes mem
  exact ⟨i, formed⟩

theorem Drawn.domain_isName {domain : String} (mem : domain ∈ workload.rules.domain) :
    (∃ n, IsName n domain) ∧ Name.top domain ∈ topLabels := by
  obtain ⟨i, -, formed⟩ := exists_of_mem_right drawn.domains mem
  cases formed with
  | below listed hosted =>
    obtain ⟨_, formed⟩ := drawn.isSuffix listed
    obtain ⟨n, -, named⟩ := formed.isName
    exact ⟨⟨n + 1, hosted.isName named⟩, hosted.top_eq ▸ formed.top_mem⟩
  | elsewhere =>
    have cut : ".example.net" = "." ++ ("example" ++ "." ++ "net") := by decide
    have net : "net" ∈ topLabels := Array.mem_toList_iff.mp (by decide)
    rw [cut, ← String.append_assoc]
    refine ⟨⟨3, .more (IsPlain.append_toString (by decide) i) (.more (by decide) (.one (by decide)))⟩, ?_⟩
    rwa [Name.top_append, Name.top_append, (isPlain_topLabel net).top_eq]

theorem Drawn.isVisible {kind : Kind} {payload : String} (mem : payload ∈ workload.rules.get kind) : IsVisible payload := by
  cases kind with
  | domain =>
    obtain ⟨⟨_, named⟩, -⟩ := drawn.domain_isName mem
    exact named.isVisible
  | suffix =>
    obtain ⟨_, formed⟩ := drawn.isSuffix mem
    exact formed.isVisible
  | keyword =>
    obtain ⟨i, rfl⟩ := exists_of_mem_numbered drawn.keywords mem
    exact (isPlain_keyword i).isVisible
  | regexp =>
    obtain ⟨i, rfl⟩ := exists_of_mem_numbered drawn.regexps mem
    exact isVisible_regexp i

end

/-- Names that the rules are meant to cover. -/
inductive IsHit (rules : ByKind (List String)) : String → Prop
  | suffix {suffix hosted} : suffix ∈ rules.suffix → Hosted suffix hosted → IsHit rules hosted
  | domain {name} : name ∈ rules.domain → IsHit rules name
  | keyword {keyword hosted} : keyword ∈ rules.keyword → Hosted (keyword ++ ".example.org") hosted → IsHit rules hosted

def IsNearMiss (rules : ByKind (List String)) (name : String) : Prop := ∃ suffix ∈ rules.suffix, name = "not" ++ suffix

def IsStranger (name : String) : Prop := ∃ i : Nat, Hosted ("miss" ++ toString i ++ ".invalid") name

theorem IsPool.origin {rules : ByKind (List String)} {pool : List String} (h : IsPool rules.suffix rules.domain rules.keyword pool)
    {name : String} (mem : name ∈ pool) : IsHit rules name ∨ IsNearMiss rules name ∨ IsStranger name := by
  cases h with
  | mk pairs carried strange =>
    simp only [List.mem_append, List.mem_flatten] at mem
    rcases mem with ((⟨pair, listed, mem⟩ | mem) | mem) | mem
    · obtain ⟨suffix, among, ⟨hosted⟩⟩ := exists_of_mem_right pairs listed
      have held := List.mem_of_mem_take among
      rcases List.mem_pair.mp mem with rfl | rfl
      · exact .inl (.suffix held hosted)
      · exact .inr (.inl ⟨suffix, held, rfl⟩)
    · exact .inl (.domain (List.mem_of_mem_take mem))
    · obtain ⟨keyword, held, hosted⟩ := exists_of_mem_right carried mem
      exact .inl (.keyword held hosted)
    · obtain ⟨i, -, hosted⟩ := exists_of_mem_right strange mem
      exact .inr (.inr ⟨i, hosted⟩)

theorem IsStranger.top_eq {name : String} (h : IsStranger name) : Name.top name = "invalid" := by
  obtain ⟨i, hosted⟩ := h
  have cut : ".invalid" = "." ++ "invalid" := by decide
  rw [hosted.top_eq, cut, ← String.append_assoc, Name.top_append, IsPlain.top_eq (by decide)]

theorem IsStranger.k_not_mem {name : String} (h : IsStranger name) : 'k' ∉ name.toList := by
  obtain ⟨i, host, listed, rfl⟩ := h
  have hostless : ∀ host ∈ hosts.toList, 'k' ∉ host.toList := by decide
  have numeral : 'k' ∉ (toString i).toList := fun mem => absurd (isAsciiDigit_of_mem_toString mem) (by decide)
  simp only [String.toList_append, List.mem_append, not_or]
  exact ⟨⟨hostless host (Array.mem_toList_iff.mpr listed), by decide⟩, ⟨by decide, numeral⟩, by decide⟩

theorem Drawn.not_covers_of_stranger [Regex.Host] {sizes : ByKind Int} {workload : Workload} (drawn : Drawn sizes workload)
    {kind : Kind} {payload name : String} (mem : payload ∈ workload.rules.get kind) (other : kind ≠ .regexp) (stranger : IsStranger name) :
    ¬kind.Covers payload name := by
  intro covers
  have foreign : "invalid" ∉ topLabels := fun listed => absurd (Array.mem_toList_iff.mpr listed) (by decide)
  cases kind with
  | domain =>
    obtain rfl := covers
    obtain ⟨-, listed⟩ := drawn.domain_isName mem
    exact foreign (stranger.top_eq ▸ listed)
  | suffix =>
    obtain ⟨i, formed⟩ := drawn.isSuffix mem
    exact foreign ((Name.Covers.top_eq covers).symm.trans stranger.top_eq ▸ formed.top_mem)
  | keyword =>
    obtain ⟨i, rfl⟩ := exists_of_mem_numbered drawn.keywords mem
    obtain ⟨before, behind, rfl⟩ := covers
    exact stranger.k_not_mem (by simp [keyword])
  | regexp => contradiction

end DomainRules.Workload
