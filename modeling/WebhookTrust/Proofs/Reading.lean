import Mathlib.Data.List.TakeWhile
import WebhookTrust.Proofs.Issuance

/-!
# The size of what is read

What is read is not much longer than what it is read from. This matters since a serving certificate
takes over the name of an authority that was read, and has to be short enough to be read back
itself.

* `Certificate.size_subject_le`: **the subject of a certificate is no longer than the certificate.**
  Every reader takes from its bytes what it gives (`Der.ReadsWithin`), and the readers of a
  certificate are made of one another.
* `Pem.length_contents_le`: **a block is not much longer than the text that it is read from**: every
  byte takes a symbol, and no character takes more than four bytes.

What is bounded is a size of its own (`Name.size`), which counts bytes of attributes; how long a
name gets when it is written again is in `WebhookTrust.Proofs.IssuerName`.
-/

namespace WebhookTrust

open Der (ReadsWithin)

/-! ### Names -/

/-- How many bytes an attribute takes at least. -/
def Attribute.size (item : Attribute) : Nat := item.kind.contents.length + item.value.length + 6

/-- How many bytes the attributes of a name take at least. -/
def Name.size (name : Name) : Nat := (name.parts.map fun part ↦ (part.map Attribute.size).sum).sum

namespace Name

/-- An attribute takes its bytes. -/
theorem readsWithin_attribute? : ReadsWithin Attribute.size attribute? := by
  intro bytes item rest h
  simp only [attribute?, Option.bind_eq_bind, Option.bind_eq_some_iff, Option.pure_def,
    Option.some.injEq, Prod.mk.injEq] at h
  obtain ⟨⟨pair, _⟩, hpair, ⟨kind, behind⟩, hkind, ⟨value, _⟩, hvalue, rfl, rfl⟩ := h
  have hpair := Der.readsWithin_contents? _ _ _ _ hpair
  have hkind := Der.readsWithin_oid? _ _ _ hkind
  have hvalue := Der.readsWithin_element? _ _ _ hvalue
  simp only [Attribute.size] at hpair hkind hvalue ⊢
  omega

/-- So does a relative name. -/
theorem readsWithin_part? : ReadsWithin (fun part ↦ (part.map Attribute.size).sum) part? := by
  intro bytes part rest h
  simp only [part?, Option.bind_eq_bind, Option.bind_eq_some_iff] at h
  obtain ⟨⟨members, _⟩, hmembers, h⟩ := h
  have hmembers := Der.readsWithin_contents? _ _ _ _ hmembers
  have hsum := Der.sum_map_many_le readsWithin_attribute? members
  simp only at h hmembers
  split at h
  · cases h
  · obtain ⟨rfl, rfl⟩ := Prod.mk.inj (Option.some.inj h)
    show ((Der.many attribute? members).1.map Attribute.size).sum + _ ≤ _
    omega

/-- **A name takes no more attributes than it has bytes for.** -/
theorem readsWithin_read? : ReadsWithin size read? := by
  intro bytes name rest h
  simp only [read?, Option.bind_eq_bind, Option.bind_eq_some_iff, Option.pure_def,
    Option.some.injEq, Prod.mk.injEq] at h
  obtain ⟨⟨parts, _⟩, hparts, rfl, rfl⟩ := h
  have hparts := Der.readsWithin_contents? _ _ _ _ hparts
  have hsum := Der.sum_map_many_le readsWithin_part? parts
  simp only [size] at hparts ⊢
  omega

end Name

/-! ### Certificates -/

theorem AlgorithmId.readsWithin_read? : ReadsWithin (fun _ ↦ 0) AlgorithmId.read? := by
  intro bytes algorithm rest h
  simp only [AlgorithmId.read?, Option.bind_eq_bind, Option.bind_eq_some_iff] at h
  obtain ⟨⟨contents, behind⟩, hcontents, ⟨kind, parameters⟩, -, h⟩ := h
  have hrest : behind = rest := by
    simp only at h
    split_ifs at h
    · simp_all
    · simp only [Option.bind_eq_some_iff, Option.pure_def, Option.some.injEq, Prod.mk.injEq] at h
      obtain ⟨-, -, -, hrest⟩ := h
      exact hrest
  subst hrest
  simpa using (Der.readsWithin_contents? _).length_le hcontents

theorem Validity.readsWithin_read? : ReadsWithin (fun _ ↦ 0) Validity.read? := by
  intro bytes validity rest h
  simp only [Validity.read?, Option.bind_eq_bind, Option.bind_eq_some_iff, Option.pure_def,
    Option.some.injEq, Prod.mk.injEq] at h
  obtain ⟨⟨times, behind⟩, htimes, -, -, -, -, -, rfl⟩ := h
  simpa using (Der.readsWithin_contents? _).length_le htimes

namespace Certificate

theorem readsWithin_optionalField? {α : Type} (tag : Nat) (read : Bytes → Option α) :
    ReadsWithin (fun _ ↦ 0) (optionalField? tag read) := by
  intro bytes field rest h
  rw [optionalField?] at h
  split_ifs at h
  · obtain ⟨-, rfl⟩ := Prod.mk.inj (Option.some.inj h)
    exact Nat.zero_le _
  · simp only [Option.bind_eq_bind, Option.bind_eq_some_iff] at h
    obtain ⟨⟨element, behind⟩, helement, h⟩ := h
    simp only at h
    split_ifs at h
    · obtain ⟨-, rfl⟩ := Prod.mk.inj (Option.some.inj h)
      simp
    · simp only [Option.map_eq_some_iff, Prod.mk.injEq] at h
      obtain ⟨-, -, -, rfl⟩ := h
      simpa using Der.readsWithin_element?.length_le helement

/-- **The subject of a certificate is no longer than the certificate.** -/
theorem size_subject_le {bytes : Bytes} {cert : Certificate} (h : read? bytes = some cert) :
    cert.subject.size ≤ bytes.length := by
  obtain ⟨⟨outer, _⟩, houter, h⟩ := Option.bind_eq_some_iff.1 h
  obtain ⟨⟨contents, _⟩, hcontents, h⟩ := Option.bind_eq_some_iff.1 h
  obtain ⟨⟨_, c₁⟩, h₁, h⟩ := Option.bind_eq_some_iff.1 h
  obtain ⟨⟨_, c₂⟩, h₂, h⟩ := Option.bind_eq_some_iff.1 h
  obtain ⟨⟨_, c₃⟩, h₃, h⟩ := Option.bind_eq_some_iff.1 h
  obtain ⟨⟨_, c₄⟩, h₄, h⟩ := Option.bind_eq_some_iff.1 h
  obtain ⟨⟨_, c₅⟩, h₅, h⟩ := Option.bind_eq_some_iff.1 h
  obtain ⟨⟨subject, _⟩, hsubject, h⟩ := Option.bind_eq_some_iff.1 h
  -- the remaining fields come behind the subject
  obtain ⟨_, -, h⟩ := Option.bind_eq_some_iff.1 h
  obtain ⟨_, -, h⟩ := Option.bind_eq_some_iff.1 h
  obtain ⟨_, -, h⟩ := Option.bind_eq_some_iff.1 h
  obtain ⟨_, -, h⟩ := Option.bind_eq_some_iff.1 h
  obtain ⟨_, -, h⟩ := Option.bind_eq_some_iff.1 h
  obtain ⟨_, -, h⟩ := Option.bind_eq_some_iff.1 h
  obtain rfl := Option.some.inj h
  calc subject.size
      ≤ c₅.length := (Nat.le_add_right ..).trans (Name.readsWithin_read? _ _ _ hsubject)
    _ ≤ c₄.length := Validity.readsWithin_read?.length_le h₅
    _ ≤ c₃.length := Name.readsWithin_read?.length_le h₄
    _ ≤ c₂.length := AlgorithmId.readsWithin_read?.length_le h₃
    _ ≤ c₁.length := (Der.readsWithin_contents? _).length_le h₂
    _ ≤ contents.length := (readsWithin_optionalField? _ _).length_le h₁
    _ ≤ outer.length := Der.length_contents?_le hcontents
    _ ≤ bytes.length := Der.length_contents?_le houter

end Certificate

/-! ### Texts -/

namespace Utf8

/-- Every character takes a byte. -/
theorem length_decodeFrom_le {index : Nat} {started : Option Started} {bytes : Bytes}
    {chars : List Char} (h : decodeFrom index started bytes = .ok chars) :
    chars.length ≤ bytes.length := by
  induction bytes generalizing index started chars with
  | nil =>
    cases started with
    | none =>
      obtain rfl := Except.ok.inj h
      exact le_rfl
    | some s => cases h
  | cons b rest ih =>
    -- a character ends with this byte, whether it began with it or before
    have hmap : ∀ {c : Char} {more : Except Error (List Char)}, more.map (c :: ·) = .ok chars →
        (∀ others, more = .ok others → others.length ≤ rest.length) →
        chars.length ≤ (b :: rest).length := by
      intro c more hchars hmore
      cases more with
      | error e => cases hchars
      | ok others =>
        obtain rfl := Except.ok.inj hchars
        exact Nat.succ_le_succ (hmore others rfl)
    cases started with
    | none =>
      rw [decodeFrom] at h
      split at h
      · cases h
      · exact hmap h fun others hothers ↦ ih hothers
      · exact (ih h).trans (Nat.le_succ _)
    | some s =>
      rw [decodeFrom] at h
      split_ifs at h
      · exact hmap h fun others hothers ↦ ih hothers
      · exact (ih h).trans (Nat.le_succ _)

/-- No character takes more than four bytes. -/
theorem length_encode_le (chars : List Char) : (encode chars).length ≤ 4 * chars.length := by
  induction chars with
  | nil => simp [encode]
  | cons c rest ih =>
    have hc : (encodeChar c).length ≤ 4 := by
      simp only [encodeChar]
      split_ifs <;> simp
    rw [encode, List.flatMap_cons, List.length_append, List.length_cons]
    rw [encode] at ih
    omega

end Utf8

/-! ### Base64 -/

namespace Base64

variable {bytes contents : Bytes}

/-- A last group has as many symbols as were read. -/
theorem length_readLast_le {offset : Nat} {group last : LastGroup}
    (h : readLast offset group bytes = .ok last) :
    last.symbols.length ≤ group.symbols.length + bytes.length := by
  induction bytes generalizing group with
  | nil =>
    obtain rfl := Except.ok.inj h
    exact le_rfl
  | cons b rest ih =>
    rw [readLast] at h
    split_ifs at h
    · have hrest := ih h
      rw [List.length_cons]
      dsimp only at hrest
      omega
    · split at h
      · have hrest := ih h
        rw [List.length_append, List.length_singleton] at hrest
        rw [List.length_cons]
        omega
      · cases h

/-- It spells fewer bytes than it has symbols. -/
theorem length_bytes_le {offset : Nat} {group : LastGroup}
    (h : group.bytes offset = .ok contents) : contents.length ≤ group.symbols.length := by
  rw [LastGroup.bytes] at h
  split at h
  all_goals try split_ifs at h
  all_goals cases h
  all_goals simp_all [groupBytes]

/-- Every byte takes a symbol. -/
theorem length_decodeFrom_le {offset : Nat} (h : decodeFrom offset bytes = .ok contents) :
    contents.length ≤ bytes.length := by
  induction offset, bytes using decodeFrom.induct generalizing contents with
  | case1 offset a b c d e rest ih =>
    rw [decodeFrom] at h
    obtain ⟨v, -, h⟩ := Except.bind_eq_ok.1 h
    obtain ⟨w, -, h⟩ := Except.bind_eq_ok.1 h
    obtain ⟨x, -, h⟩ := Except.bind_eq_ok.1 h
    obtain ⟨y, -, h⟩ := Except.bind_eq_ok.1 h
    obtain ⟨more, hmore, h⟩ := Except.bind_eq_ok.1 h
    obtain rfl := Except.ok.inj h
    have hrest := ih hmore
    simp only [groupBytes, List.length_append, List.length_cons, List.length_nil] at hrest ⊢
    omega
  | case2 offset last hlast =>
    rw [decodeFrom] at h
    · obtain ⟨group, hgroup, h⟩ := Except.bind_eq_ok.1 h
      simpa using (length_bytes_le h).trans (length_readLast_le hgroup)
    · exact hlast

theorem length_decode_le (h : decode bytes = .ok contents) : contents.length ≤ bytes.length := by
  rw [decode] at h
  split at h
  · cases h
  · exact length_decodeFrom_le h

end Base64

/-! ### PEM blocks -/

namespace Pem

variable {bytes before behind : Bytes}

/-- What stands before a marker and behind it is part of the text. -/
theorem length_splitFrom_le {marker todo seen : Bytes}
    (h : splitFrom marker todo seen bytes = some (before, behind)) :
    before.length + behind.length ≤ seen.length + bytes.length := by
  induction bytes generalizing todo seen with
  | nil => simp [splitFrom] at h
  | cons b rest ih =>
    cases todo with
    | nil => simp [splitFrom] at h
    | cons m todo =>
      rw [splitFrom] at h
      split_ifs at h
      · obtain ⟨rfl, rfl⟩ := Prod.mk.inj (Option.some.inj h)
        simp only [List.length_reverse, List.length_drop, List.length_cons]
        omega
      all_goals
        have hrest := ih h
        simp only [List.length_cons] at hrest ⊢
        omega

theorem length_splitAtMarker_le {marker : Bytes}
    (h : splitAtMarker marker bytes = some (before, behind)) :
    before.length + behind.length ≤ bytes.length :=
  (length_splitFrom_le h).trans_eq (Nat.zero_add _)

/-- The data are part of the body. -/
theorem length_splitBody_le (body : Bytes) : (splitBody body).2.length ≤ body.length := by
  rw [splitBody]
  split
  · next hparts => exact (Nat.le_add_left ..).trans (length_splitAtMarker_le hparts)
  · split
    · next hparts => exact (Nat.le_add_left ..).trans (length_splitAtMarker_le hparts)
    · exact le_rfl

/-- The data of a block are part of the text. -/
theorem length_data_le {parts : Parts} (h : parts? bytes = some parts) :
    parts.data.length ≤ bytes.length := by
  obtain ⟨⟨_, b₁⟩, h₁, h⟩ := Option.bind_eq_some_iff.1 h
  obtain ⟨⟨_, b₂⟩, h₂, h⟩ := Option.bind_eq_some_iff.1 h
  obtain ⟨⟨body, _⟩, hbody, h⟩ := Option.bind_eq_some_iff.1 h
  obtain ⟨_, -, h⟩ := Option.bind_eq_some_iff.1 h
  obtain rfl := Option.some.inj h
  calc (splitBody body).2.length
      ≤ body.length := length_splitBody_le body
    _ ≤ (b₂.dropWhile isSpace).length :=
      (Nat.le_add_right ..).trans (length_splitAtMarker_le hbody)
    _ ≤ b₂.length := List.length_dropWhile_le ..
    _ ≤ b₁.length := (Nat.le_add_left ..).trans (length_splitAtMarker_le h₂)
    _ ≤ bytes.length := (Nat.le_add_left ..).trans (length_splitAtMarker_le h₁)

/-- **A block is not much longer than the text that it is read from.** -/
theorem length_contents_le {block : Block} (h : read bytes = .ok block) :
    block.contents.length ≤ 4 * bytes.length := by
  rw [read] at h
  split at h
  · next parts hparts =>
    obtain ⟨tag, -, h⟩ := Except.bind_eq_ok.1 h
    obtain ⟨endTag, -, h⟩ := Except.bind_eq_ok.1 h
    split_ifs at h
    · cases h
    obtain ⟨data, hdata, h⟩ := Except.bind_eq_ok.1 h
    obtain ⟨contents, hcontents, h⟩ := Except.bind_eq_ok.1 h
    obtain ⟨headers, -, h⟩ := Except.bind_eq_ok.1 h
    split at h
    · cases h
    · obtain rfl := Except.ok.inj h
      have hchars := Utf8.length_decodeFrom_le (Except.mapError_eq_ok.1 hdata)
      calc contents.length
          ≤ (Utf8.encode (data.filter (!isBlank ·))).length :=
        Base64.length_decode_le (Except.mapError_eq_ok.1 hcontents)
        _ ≤ 4 * (data.filter (!isBlank ·)).length := Utf8.length_encode_le _
        _ ≤ 4 * data.length := Nat.mul_le_mul_left 4 (List.length_filter_le ..)
        _ ≤ 4 * bytes.length := Nat.mul_le_mul_left 4 (hchars.trans (length_data_le hparts))
  · cases h

end Pem

end WebhookTrust
