import DomainRules.Proofs.Snapshot.Encoding

/-! Restoring accepts just the bytes that have the format of snapshots, and no rules have two forms. -/

namespace DomainRules.Snapshot

section
variable {check : Rule → Except Fault Unit} {cursor rest : Cursor}

theorem number_eq_ok {n : Nat} (h : cursor.number = .ok (n, rest)) :
    ∃ bytes, IsNumber n bytes ∧ cursor.bytes = bytes ++ rest.bytes := by
  unfold Cursor.number at h
  split at h
  · rename_i a b c d others split
    obtain ⟨rfl, rfl⟩ := Prod.mk.inj (Except.ok.inj h)
    have value : ((a.toNat * 256 + b.toNat) * 256 + c.toNat) * 256 + d.toNat =
        a.toNat * 2 ^ 24 + b.toNat * 2 ^ 16 + c.toNat * 2 ^ 8 + d.toNat := by omega
    exact ⟨[a, b, c, d], by rw [value]; exact .mk a b c d, split⟩
  · contradiction

theorem rule_eq_ok {kind : Kind} {rule : String} (h : cursor.rule kind = .ok (rule, rest)) :
    ∃ bytes, IsRule rule bytes ∧ cursor.bytes = bytes ++ rest.bytes := by
  obtain ⟨⟨length, behind⟩, counted, h⟩ := bind_eq_ok.mp h
  obtain ⟨number, told, split⟩ := number_eq_ok counted
  dsimp only at h
  split at h
  · contradiction
  · rename_i full
    split at h
    · contradiction
    · rename_i found decoded
      cases h
      rw [Text.Utf8.decode_eq_ok] at decoded
      have size : (behind.bytes.take length).length = length := by
        rw [List.length_take] at full ⊢
        omega
      rw [← decoded] at size
      refine ⟨number ++ Text.Utf8.encode rule, .mk (size.symm ▸ told), ?_⟩
      simp [split, decoded]

theorem rulesAt_eq_ok {kind : Kind} {count : Nat} {rules : List Rule}
    (h : rulesAt check kind count cursor = .ok (rules, rest)) :
    ∃ texts parts, texts.length = count ∧ rules = texts.map (fun text => (kind, text)) ∧
      List.Forall₂ IsRule texts parts ∧ cursor.bytes = parts.flatten ++ rest.bytes ∧
      ∀ rule ∈ rules, check rule = .ok () := by
  induction count generalizing cursor rules with
  | zero =>
    cases h
    exact ⟨[], [], rfl, rfl, .nil, rfl, by simp⟩
  | succ count ih =>
    obtain ⟨⟨text, behind⟩, read, h⟩ := bind_eq_ok.mp h
    obtain ⟨_, passed, h⟩ := bind_eq_ok.mp h
    obtain ⟨⟨others, last⟩, later, h⟩ := bind_eq_ok.mp h
    obtain ⟨rfl, rfl⟩ := Prod.mk.inj (pure_eq_ok.mp h)
    obtain ⟨part, told, split⟩ := rule_eq_ok (mapError_eq_ok.mp read)
    obtain ⟨texts, parts, size, rfl, all, rest, checked⟩ := ih later
    refine ⟨text :: texts, part :: parts, by simp [size], rfl, .cons told all, by simp [split, rest], ?_⟩
    exact List.forall_mem_cons.mpr ⟨passed, checked⟩

/-- Sections hold the rules of their kinds; the kinds differ, so that no section adds to another. -/
theorem sections_eq_ok {kinds : List Kind} (nodup : kinds.Nodup) {rules : List Rule}
    (h : sections check kinds cursor = .ok (rules, rest)) :
    (∀ rule ∈ rules, rule.1 ∈ kinds ∧ check rule = .ok ()) ∧ ∃ parts, cursor.bytes = parts.flatten ++ rest.bytes ∧
      List.Forall₂ (fun kind part => IsSection (payloads kind rules) part) kinds parts := by
  induction kinds generalizing cursor rules with
  | nil =>
    cases h
    exact ⟨by simp, [], rfl, .nil⟩
  | cons kind kinds ih =>
    obtain ⟨fresh, nodup⟩ := List.nodup_cons.mp nodup
    obtain ⟨⟨count, behind⟩, counted, h⟩ := bind_eq_ok.mp h
    obtain ⟨⟨own, middle⟩, read, h⟩ := bind_eq_ok.mp h
    obtain ⟨⟨others, last⟩, later, h⟩ := bind_eq_ok.mp h
    obtain ⟨rfl, rfl⟩ := Prod.mk.inj (pure_eq_ok.mp h)
    obtain ⟨number, told, split⟩ := number_eq_ok (mapError_eq_ok.mp counted)
    obtain ⟨texts, bodies, rfl, rfl, all, body, checked⟩ := rulesAt_eq_ok read
    obtain ⟨kept, parts, rest, sections⟩ := ih nodup later
    have same : ∀ other ∈ kinds, payloads other (texts.map (fun text => (kind, text)) ++ others) = payloads other others := by
      intro other mem
      have differ : kind ≠ other := by rintro rfl; exact fresh mem
      simp [payloads_map, differ]
    have none : payloads kind others = [] := List.eq_nil_iff_forall_not_mem.mpr fun text mem =>
      fresh (kept (kind, text) (mem_payloads.mp mem)).1
    refine ⟨?_, (number ++ bodies.flatten) :: parts, by simp [split, body, rest], .cons ?_ ?_⟩
    · intro rule mem
      rcases List.mem_append.mp mem with mem | mem
      · obtain ⟨text, -, rfl⟩ := List.mem_map.mp mem
        exact ⟨by simp, checked _ mem⟩
      · exact ⟨by simp [kept rule mem], (kept rule mem).2⟩
    · simpa [payloads_map, none] using IsSection.mk told all
    · exact ((List.forall₂_and_left _ _).mpr ⟨same, sections⟩).imp fun _ _ ⟨same, held⟩ => same ▸ held

theorem body_eq_ok {bytes : List UInt8} (h : body bytes = .ok cursor) : bytes = header ++ cursor.bytes := by
  unfold body at h
  split at h
  · contradiction
  · split at h
    · contradiction
    · rename_i named
      split at h
      · contradiction
      · rename_i found rest split
        split at h
        · rename_i same
          cases h
          rw [← List.take_append_drop magic.length bytes, not_not.mp named, split, same, header, List.append_assoc]
          rfl
        · contradiction

theorem reading_eq_ok {bytes : List UInt8} {rules : List Rule} (h : reading check bytes = .ok rules) :
    IsSnapshot (payloads · rules) bytes ∧ ∀ rule ∈ rules, check rule = .ok () := by
  obtain ⟨cursor, opened, h⟩ := bind_eq_ok.mp h
  obtain ⟨⟨found, rest⟩, read, h⟩ := bind_eq_ok.mp h
  dsimp only at h
  split at h
  · contradiction
  · rename_i ended
    obtain rfl := pure_eq_ok.mp h
    obtain ⟨checked, parts, split, sections⟩ := sections_eq_ok (by decide) read
    rw [not_not.mp ended, List.append_nil] at split
    rw [body_eq_ok (mapError_eq_ok.mp opened), split]
    exact ⟨.mk sections, fun rule mem => (checked rule mem).2⟩

end

theorem reading_of_isSnapshot {check : Rule → Except Fault Unit} {rules : Kind → List String} {bytes : List UInt8}
    (h : IsSnapshot rules bytes) (checked : ∀ kind, ∀ rule ∈ rules kind, check (kind, rule) = .ok ()) :
    ∃ found, reading check bytes = .ok found := by
  have passed : forM (Kind.all.flatMap fun kind => (rules kind).map fun payload => (kind, payload)) check = .ok () := by
    refine forM_eq_ok.mpr fun rule mem => ?_
    obtain ⟨kind, -, mem⟩ := List.mem_flatMap.mp mem
    obtain ⟨payload, held, rfl⟩ := List.mem_map.mp mem
    exact checked kind payload held
  rw [h.reading, passed]
  exact ⟨_, rfl⟩

/-- Bytes restore to a set just if they have the format, their patterns compile and recursion reaches their suffixes.
Linear indexes keep what they are given, so that such a set has the bytes it was restored from. -/
theorem decode_accepts_format [Regex.Host] (bytes : List UInt8) (options : Options) :
    ((∃ set, decode bytes options = .ok set) ↔ ∃ rules, IsSnapshot rules bytes ∧
      (∀ rule ∈ rules .regexp, ∃ pattern, Regex.Pattern.compile rule = .ok pattern) ∧
      (options.suffix = .trieRecursive → ∀ rule ∈ rules .suffix, Name.depth rule ≤ Suffix.Trie.recursionLimit)) ∧
    (options.domain = .linear → options.suffix = .linear →
      ∀ set, decode bytes options = .ok set → encode set = .ok bytes) := by
  have agree := decode_agree bytes options
  refine ⟨agree.ok_iff.trans ⟨?_, ?_⟩, ?_⟩
  · rintro ⟨found, read⟩
    obtain ⟨format, checked⟩ := reading_eq_ok read
    refine ⟨_, format, fun rule mem => ?_, fun recursive rule mem => ?_⟩
    · exact Kind.check_regexp_eq_ok.mp (checked _ (mem_payloads.mp mem))
    · exact Kind.check_suffix_eq_ok.mp (checked _ (mem_payloads.mp mem)) recursive
  · rintro ⟨rules, format, compile, shallow⟩
    refine reading_of_isSnapshot format fun kind rule mem => ?_
    cases kind with
    | domain => rfl
    | suffix => exact Kind.check_suffix_eq_ok.mpr fun recursive => shallow recursive rule mem
    | keyword => rfl
    | regexp => exact Kind.check_regexp_eq_ok.mpr (compile rule mem)
  · intro domain suffix set decoded
    obtain ⟨found, read, represents⟩ := (decoded ▸ agree).of_ok
    have kept : set.rules = (payloads · found) := funext fun kind => by
      rw [represents.rules_eq]
      cases kind <;> simp [Kind.listed, domain, suffix]
    rw [encode_eq_ok, kept]
    exact (reading_eq_ok read).1

/-- A name of one character in two bytes, and a pattern. -/
theorem decode_accepts_format_two_bytes :
    let bytes : List UInt8 := [0x44, 0x53, 0x45, 0x54, 1, 0, 0, 0, 1, 0, 0, 0, 2, 0xC3, 0xA9, 0, 0, 0, 0, 0, 0, 0, 0,
      0, 0, 0, 1, 0, 0, 0, 2, 0x61, 0x2B]
    Options.linear.domain = .linear ∧ Options.linear.suffix = .linear ∧ (∃ rules, IsSnapshot rules bytes) ∧
      ∃ set, decode bytes .linear = .ok set ∧ encode set = .ok bytes := by
  intro bytes
  obtain ⟨set, decoded⟩ := exists_of_isOk (x := decode bytes .linear) (by decide +kernel)
  obtain ⟨accepts, inverts⟩ := decode_accepts_format bytes .linear
  obtain ⟨rules, format, -, -⟩ := accepts.mp ⟨set, decoded⟩
  exact ⟨rfl, rfl, ⟨rules, format⟩, set, decoded, inverts rfl rfl set decoded⟩

end DomainRules.Snapshot
