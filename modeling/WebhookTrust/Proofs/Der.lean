import WebhookTrust.Asn1.Der
import WebhookTrust.Proofs.Bytes

/-!
# The laws of distinguished encoding

An element that is written is read back, whatever stands behind it, as long as its contents are
shorter than 2⁶⁴ octets, which is as far as lengths are read. Whatever is encoded in elements has
its laws from here.

* `Der.element?_encode`: **an element that is written is read back**, by the length in front of its
  contents.
* `Der.all?_flatMap`: **items that are written one after another are read back one after another**,
  for any items of which each is read back and takes at least an octet.
* `Der.exists_of_element?`, `Der.sum_map_many_le`: what is read is no longer than what it is read
  from; weights of items are added up on the way (`Der.ReadsWithin`).
* `Der.Strict.natural?_natural`: natural numbers are read back canonically; their octets are the
  shortest without a sign (`Der.naturalOctets_spec`).
* `Der.element?_of_strict`: **what the canonical reader finds, the lenient one finds.** So two
  readers of the same key see the same numbers.

The lenient reader takes longer forms of lengths and tags than are ever written, and of these only
the size is bounded.
-/

namespace WebhookTrust.Der

variable {identifier : UInt8} {contents bytes rest : Bytes} {n : Nat}

/-! ### Lengths -/

theorem byteLength_pos (h : n ≠ 0) : 0 < Bytes.byteLength n := by
  rw [Bytes.byteLength, if_neg h]
  omega

/-- The first octet of a long length tells how many octets follow. -/
theorem toNat_widthOctet (h : Bytes.byteLength n ≤ 8) :
    (UInt8.ofNat (128 + Bytes.byteLength n)).toNat = 128 + Bytes.byteLength n := by
  rw [UInt8.toNat_ofNat']
  omega

theorem toNat_shortOctet (h : n < 128) : (UInt8.ofNat n).toNat = n := by
  rw [UInt8.toNat_ofNat']
  omega

/-- A length that fits 64 bits takes at most eight octets. -/
theorem byteLength_le_eight (h : n < Nat.pow 2 64) : Bytes.byteLength n ≤ 8 := by
  rw [Bytes.byteLength_le_iff]
  exact lt_of_lt_of_eq h (by norm_num)

/-- A length that is written is read back. -/
theorem length?_lengthOctets (h : n < Nat.pow 2 64) (rest : Bytes) :
    length? (lengthOctets n ++ rest) = some (n, rest) := by
  by_cases hshort : n < 128
  · have hoctet := toNat_shortOctet hshort
    have hlt : UInt8.ofNat n < 128 := UInt8.lt_iff_toNat_lt.2 (by rw [hoctet]; exact hshort)
    rw [lengthOctets, if_pos hshort, List.singleton_append, length?, if_pos hlt, hoctet]
  · have hle := byteLength_le_eight h
    have hpos : 0 < Bytes.byteLength n := byteLength_pos (by omega)
    have hoctet := toNat_widthOctet hle
    have hlt : ¬ UInt8.ofNat (128 + Bytes.byteLength n) < 128 := by
      simp only [UInt8.lt_iff_toNat_lt, hoctet, UInt8.reduceToNat]
      omega
    have hplain : ¬ (UInt8.ofNat (128 + Bytes.byteLength n) = 128 ∨
        UInt8.ofNat (128 + Bytes.byteLength n) = 255) := by
      simp only [← UInt8.toNat_inj, hoctet, UInt8.reduceToNat]
      omega
    have hwidth : (UInt8.ofNat (128 + Bytes.byteLength n)).toNat - 128 =
        (Bytes.ofNat n).length := by
      rw [hoctet, Bytes.length_ofNat]
      omega
    have hroom : ¬ (Bytes.ofNat n ++ rest).length < (Bytes.ofNat n).length := by
      rw [List.length_append]
      omega
    -- the first octet says how many follow, and those spell the length
    rw [lengthOctets, if_neg hshort, List.cons_append, length?, if_neg hlt, if_neg hplain]
    simp only [hwidth, List.take_left', List.drop_left', Bytes.toNat_ofNat]
    rw [if_neg (not_or.2 ⟨hroom, not_le.2 h⟩)]

/-- A length takes nine octets at most. -/
theorem length_lengthOctets_le (h : n < Nat.pow 2 64) : (lengthOctets n).length ≤ 9 := by
  rw [lengthOctets]
  split_ifs
  · simp
  · have := byteLength_le_eight h
    rw [List.length_cons, Bytes.length_ofNat]
    omega

/-- An element is little longer than its contents. -/
theorem length_encode_le (identifier : UInt8) (h : contents.length < Nat.pow 2 64) :
    (encode identifier contents).length ≤ contents.length + 10 := by
  have := length_lengthOctets_le h
  rw [encode, List.cons_append, List.length_cons, List.length_append]
  omega

theorem encode_ne_nil (identifier : UInt8) (contents : Bytes) : encode identifier contents ≠ [] :=
  List.cons_ne_nil _ _

/-! ### Elements -/

/-- Is it the identifier octet of an element: with a tag number of its own, and not the mark that
ends contents of indefinite length? -/
def IsPlain (identifier : UInt8) : Prop :=
  identifier.toNat % 32 ≠ 31 ∧
    (identifier.toNat % 32 ≠ 0 ∨ TagClass.ofOctet identifier ≠ .universal)

instance (identifier : UInt8) : Decidable (IsPlain identifier) :=
  inferInstanceAs (Decidable (_ ∧ _))

/-- The element with an identifier octet and contents. -/
def elementOf (identifier : UInt8) (contents : Bytes) : Element where
  tagClass := TagClass.ofOctet identifier
  constructed := identifier.toNat / 32 % 2 = 1
  tag := identifier.toNat % 32
  contents := contents

/-- A length in front of its contents is all that it takes to read an element. -/
theorem element?_of_length? {octets : Bytes} (hplain : IsPlain identifier)
    (hlength : length? octets = some (n, bytes)) (hn : n ≤ bytes.length) :
    element? (identifier :: octets) =
      some (elementOf identifier (bytes.take n), bytes.drop n) := by
  have hmark : ¬ (identifier.toNat % 32 = 0 ∧ TagClass.ofOctet identifier = .universal ∧ n = 0) :=
    fun h ↦ hplain.2.elim (· h.1) (· h.2.1)
  simp only [element?, header?, if_neg hplain.1, Option.bind_eq_bind, Option.bind_some, hlength,
    Option.pure_def, if_neg (not_lt.2 hn), if_neg hmark, elementOf]

/-- What is in front of the contents is read back. -/
theorem header?_encode (hplain : IsPlain identifier) (h : contents.length < Nat.pow 2 64) :
    header? (encode identifier contents ++ rest) =
      some ((elementOf identifier [], contents.length), contents ++ rest) := by
  have hlength := length?_lengthOctets h (contents ++ rest)
  rw [encode, List.cons_append, List.cons_append, List.append_assoc, header?]
  simp only [if_neg hplain.1, Option.bind_eq_bind, Option.bind_some, hlength, Option.pure_def,
    elementOf]

/-- **An element that is written is read back.** -/
theorem element?_encode (hplain : IsPlain identifier) (h : contents.length < Nat.pow 2 64)
    (rest : Bytes) :
    element? (encode identifier contents ++ rest) = some (elementOf identifier contents, rest) := by
  have hlength := length?_lengthOctets h (contents ++ rest)
  rw [encode, List.cons_append, List.cons_append, List.append_assoc,
    element?_of_length? hplain hlength (by simp), List.take_left', List.drop_left'] <;> rfl

/-- Contents are no longer than their element. -/
theorem length_le_encode (identifier : UInt8) (contents : Bytes) :
    contents.length ≤ (encode identifier contents).length := by
  rw [encode, List.length_append]
  omega

theorem contents?_encode {tag : Nat} (hplain : IsPlain identifier)
    (htag : identifier.toNat % 32 = tag) (h : contents.length < Nat.pow 2 64) (rest : Bytes) :
    contents? tag (encode identifier contents ++ rest) = some (contents, rest) := by
  rw [contents?, element?_encode hplain h]
  simp [elementOf, htag]

theorem contents?_sequence {parts : List Bytes} (h : (sequence parts).length < Nat.pow 2 64)
    (rest : Bytes) : contents? sequenceTag (sequence parts ++ rest) = some (parts.flatten, rest) :=
  contents?_encode (by decide) (by decide) (lt_of_le_of_lt (length_le_encode ..) h) rest

theorem contents?_set {parts : List Bytes} (h : (set parts).length < Nat.pow 2 64)
    (rest : Bytes) : contents? setTag (set parts ++ rest) = some (parts.flatten, rest) :=
  contents?_encode (by decide) (by decide) (lt_of_le_of_lt (length_le_encode ..) h) rest

theorem oid?_oid {name : Oid} (h : (oid name).length < Nat.pow 2 64) (rest : Bytes) :
    oid? (oid name ++ rest) = some (name, rest) := by
  rw [oid?, oid, element?_encode (by decide) (lt_of_le_of_lt (length_le_encode ..) h)]
  simp [elementOf]

/-- A part of a sequence is no longer than the sequence. -/
theorem length_le_sequence {part : Bytes} {parts : List Bytes} (h : part ∈ parts) :
    part.length ≤ (sequence parts).length := by
  have hsub : part.length ≤ parts.flatten.length := (List.sublist_flatten_of_mem h).length_le
  exact hsub.trans (length_le_encode ..)

/-- A part of a set is no longer than the set. -/
theorem length_le_set {part : Bytes} {parts : List Bytes} (h : part ∈ parts) :
    part.length ≤ (set parts).length := by
  have hsub : part.length ≤ parts.flatten.length := (List.sublist_flatten_of_mem h).length_le
  exact hsub.trans (length_le_encode ..)

/-! ### Elements one after another -/

section Many

variable {α β : Type} {read : Bytes → Option (β × Bytes)} {write : α → Bytes} {view : α → β}
  {items : List α}

/-- Items are read until there are no more bytes. -/
theorem manyFrom_flatMap (hread : ∀ item ∈ items, ∀ rest,
    read (write item ++ rest) = some (view item, rest)) (hnil : read [] = none) {fuel : Nat}
    (hfuel : items.length ≤ fuel) :
    manyFrom read fuel (items.flatMap write) = (items.map view, []) := by
  induction items generalizing fuel with
  | nil => cases fuel <;> simp [manyFrom, hnil]
  | cons item items ih =>
    obtain ⟨fuel, rfl⟩ : ∃ k, fuel = k + 1 := Nat.exists_eq_succ_of_ne_zero (by
      rw [List.length_cons] at hfuel
      omega)
    rw [List.forall_mem_cons] at hread
    rw [List.flatMap_cons, manyFrom, hread.1]
    simp only [ih hread.2 (Nat.le_of_succ_le_succ hfuel), List.map_cons]

/-- Items that are written one after another are as many octets as items at least. -/
theorem length_le_length_flatMap (hne : ∀ item ∈ items, write item ≠ []) :
    items.length ≤ (items.flatMap write).length := by
  induction items with
  | nil => simp
  | cons item items ih =>
    rw [List.forall_mem_cons] at hne
    have hpos := List.length_pos_iff.2 hne.1
    have hrest := ih hne.2
    rw [List.flatMap_cons, List.length_append, List.length_cons]
    omega

theorem many_flatMap (view : α → β) (hread : ∀ item ∈ items, ∀ rest,
    read (write item ++ rest) = some (view item, rest)) (hnil : read [] = none)
    (hne : ∀ item ∈ items, write item ≠ []) :
    many read (items.flatMap write) = (items.map view, []) :=
  manyFrom_flatMap hread hnil (length_le_length_flatMap hne)

/-- **Items that are written one after another are read back one after another.** -/
theorem all?_flatMap (view : α → β) (hread : ∀ item ∈ items, ∀ rest,
    read (write item ++ rest) = some (view item, rest)) (hnil : read [] = none)
    (hne : ∀ item ∈ items, write item ≠ []) :
    all? read (items.flatMap write) = some (items.map view) := by
  rw [all?, many_flatMap view hread hnil hne]

end Many

/-! ### The size of what is read -/

/-- Do the items that are read weigh no more than the bytes that they take? -/
def ReadsWithin {α : Type} (weight : α → Nat) (read : Bytes → Option (α × Bytes)) : Prop :=
  ∀ bytes item rest, read bytes = some (item, rest) → weight item + rest.length ≤ bytes.length

theorem ReadsWithin.length_le {α : Type} {weight : α → Nat} {read : Bytes → Option (α × Bytes)}
    {item : α} (h : ReadsWithin weight read) (hread : read bytes = some (item, rest)) :
    rest.length ≤ bytes.length :=
  (Nat.le_add_left ..).trans (h bytes item rest hread)

theorem length_longTag?_le {room acc tag : Nat} (h : longTag? room acc bytes = some (tag, rest)) :
    rest.length ≤ bytes.length := by
  induction room generalizing acc bytes with
  | zero => simp [longTag?] at h
  | succ room ih =>
    rcases bytes with _ | ⟨b, tail⟩
    · simp [longTag?] at h
    · rw [longTag?] at h
      split_ifs at h
      · obtain ⟨-, rfl⟩ := Prod.mk.inj (Option.some.inj h)
        exact Nat.le_succ _
      · exact (ih h).trans (Nat.le_succ _)

theorem length_length?_lt (h : length? bytes = some (n, rest)) : rest.length < bytes.length := by
  rcases bytes with _ | ⟨b, tail⟩
  · simp [length?] at h
  · rw [length?] at h
    split_ifs at h
    · obtain ⟨-, rfl⟩ := Prod.mk.inj (Option.some.inj h)
      exact Nat.lt_succ_self _
    · simp only [Option.ite_none_left_eq_some, Option.some.injEq, Prod.mk.injEq] at h
      obtain ⟨-, -, rfl⟩ := h
      rw [List.length_drop, List.length_cons]
      omega

/-- What is in front of the contents of an element: an identifier octet, which shows the tag unless
that is a long one, and a length. -/
theorem exists_of_header? {element : Element} (h : header? bytes = some ((element, n), rest)) :
    ∃ b tail, bytes = b :: tail ∧ (element.tag = b.toNat % 32 ∨ b.toNat % 32 = 31) ∧
      rest.length < tail.length := by
  rcases bytes with _ | ⟨b, tail⟩
  · simp [header?] at h
  refine ⟨b, tail, rfl, ?_⟩
  rw [header?] at h
  split_ifs at h with hlong
  all_goals
    simp only [Option.bind_eq_bind, Option.bind_eq_some_iff, Option.bind_some, Option.pure_def,
      Option.some.injEq, Prod.mk.injEq] at h
  · obtain ⟨⟨tag, behind⟩, htag, ⟨length, rest'⟩, hlength, -, rfl⟩ := h
    exact ⟨Or.inr hlong, (length_length?_lt hlength).trans_le (length_longTag?_le htag)⟩
  · obtain ⟨⟨length, rest'⟩, hlength, ⟨rfl, -⟩, rfl⟩ := h
    exact ⟨Or.inl rfl, length_length?_lt hlength⟩

/-- **An element takes an identifier octet and a length besides its contents.** -/
theorem exists_of_element? {element : Element} (h : element? bytes = some (element, rest)) :
    ∃ b tail, bytes = b :: tail ∧ (element.tag = b.toNat % 32 ∨ b.toNat % 32 = 31) ∧
      element.contents.length + rest.length < tail.length := by
  obtain ⟨⟨⟨header, length⟩, behind⟩, hheader, hbody⟩ := Option.bind_eq_some_iff.1 h
  obtain ⟨b, tail, rfl, htag, hbehind⟩ := exists_of_header? hheader
  simp only at hbody
  split_ifs at hbody
  obtain ⟨rfl, rfl⟩ := Prod.mk.inj (Option.some.inj hbody)
  refine ⟨b, tail, rfl, htag, ?_⟩
  rw [List.length_take, List.length_drop]
  omega

theorem readsWithin_element? : ReadsWithin (·.contents.length + 2) element? := by
  intro bytes element rest h
  obtain ⟨b, tail, rfl, -, hlength⟩ := exists_of_element? h
  show element.contents.length + 2 + rest.length ≤ tail.length + 1
  omega

/-- Contents with a tag take two octets more. -/
theorem readsWithin_contents? (tag : Nat) : ReadsWithin (·.length + 2) (contents? tag) := by
  intro bytes contents rest h
  obtain ⟨⟨element, behind⟩, helement, h⟩ := Option.bind_eq_some_iff.1 h
  simp only [Option.ite_none_right_eq_some, Option.some.injEq, Prod.mk.injEq] at h
  obtain ⟨-, rfl, rfl⟩ := h
  exact readsWithin_element? bytes _ _ helement

theorem length_contents?_le {tag : Nat} (h : contents? tag bytes = some (contents, rest)) :
    contents.length ≤ bytes.length := by
  have hbytes : contents.length + 2 + rest.length ≤ bytes.length :=
    readsWithin_contents? tag bytes contents rest h
  omega

/-- An object identifier takes two octets beside its contents. -/
theorem readsWithin_oid? : ReadsWithin (·.contents.length + 2) oid? := by
  intro bytes kind rest h
  obtain ⟨⟨element, behind⟩, helement, h⟩ := Option.bind_eq_some_iff.1 h
  simp only [Option.ite_none_left_eq_some, Option.some.injEq, Prod.mk.injEq] at h
  obtain ⟨-, rfl, rfl⟩ := h
  exact readsWithin_element? bytes _ _ helement

/-- **The items in bytes weigh no more than the bytes together.** -/
theorem sum_map_many_le {α : Type} {weight : α → Nat} {read : Bytes → Option (α × Bytes)}
    (hread : ReadsWithin weight read) (bytes : Bytes) :
    ((many read bytes).1.map weight).sum ≤ bytes.length := by
  -- whether the fuel runs out does not matter for the bound
  have hfrom : ∀ fuel bytes, ((manyFrom read fuel bytes).1.map weight).sum ≤ bytes.length := by
    intro fuel
    induction fuel with
    | zero => simp [manyFrom]
    | succ fuel ih =>
      intro bytes
      rw [manyFrom]
      rcases hitem : read bytes with _ | ⟨item, rest⟩
      · simp
      · have hbytes := hread bytes item rest hitem
        have hrest := ih rest
        simp only [List.map_cons, List.sum_cons]
        omega
  exact hfrom bytes.length bytes

/-- What holds of all that is read holds of the items in bytes. -/
theorem forall_mem_many {α : Type} {P : α → Prop} {read : Bytes → Option (α × Bytes)}
    (hread : ∀ bytes item rest, read bytes = some (item, rest) → P item) (bytes : Bytes) :
    ∀ item ∈ (many read bytes).1, P item := by
  have hfrom : ∀ fuel bytes, ∀ item ∈ (manyFrom read fuel bytes).1, P item := by
    intro fuel
    induction fuel with
    | zero => simp [manyFrom]
    | succ fuel ih =>
      intro bytes
      rw [manyFrom]
      rcases hitem : read bytes with _ | ⟨item, rest⟩
      · simp
      · exact List.forall_mem_cons.2 ⟨hread bytes item rest hitem, ih rest⟩
  exact hfrom bytes.length bytes

/-! ### Bit strings -/

/-- A bit string is read back. -/
theorem bitString?_bitString {octets : Bytes} (h : octets.length + 1 < Nat.pow 2 64)
    (rest : Bytes) : bitString? (bitString octets ++ rest) = some (octets, rest) := by
  have hcontents : (0 :: octets).length < Nat.pow 2 64 := h
  have helement := element?_encode (show IsPlain 0x03 by decide) hcontents rest
  have hform : ¬ ((elementOf 0x03 (0 :: octets)).constructed = true ∨
      (elementOf 0x03 (0 :: octets)).tag ≠ bitStringTag) := by
    simp [elementOf, bitStringTag]
  rw [bitString?, bitString, helement]
  simp only [Option.bind_eq_bind, Option.bind_some, if_neg hform]
  simp only [elementOf]
  cases hlast : octets.getLast? with
  | none =>
    rw [List.getLast?_eq_none_iff.1 hlast]
    rfl
  | some last => simp

/-! ### Natural numbers -/

/-- The octets of a natural number are the shortest without a sign. -/
theorem naturalOctets_spec (n : Nat) :
    isShortest (naturalOctets n) = true ∧ (naturalOctets n).headD 255 < 128 ∧
      Bytes.toNat (naturalOctets n) = n := by
  rw [naturalOctets]
  rcases hoctets : Bytes.ofNat n with _ | ⟨b, tail⟩
  · have hzero := Bytes.toNat_ofNat n
    rw [hoctets] at hzero
    subst hzero
    decide
  · have hvalue := Bytes.toNat_ofNat n
    have hb := Bytes.head_ne_zero_of_ofNat hoctets
    rw [hoctets] at hvalue
    dsimp only
    split_ifs with hlow
    · refine ⟨?_, hlow, hvalue⟩
      have hmark : b ≠ 255 := by
        rintro rfl
        exact absurd hlow (by decide)
      cases tail <;> simp [isShortest, hb, hmark]
    · refine ⟨by simp [isShortest, hlow], by simp, ?_⟩
      rw [Bytes.toNat_cons, hvalue]
      simp

/-- A natural number takes an octet more than it has bytes. -/
theorem length_naturalOctets_le (n : Nat) : (naturalOctets n).length ≤ Bytes.byteLength n + 1 := by
  have hlength := Bytes.length_ofNat n
  rw [naturalOctets]
  rcases hoctets : Bytes.ofNat n with _ | ⟨b, tail⟩
  · simp
  · rw [hoctets, List.length_cons] at hlength
    dsimp only
    split_ifs <;> simp only [List.length_cons] <;> omega

/-! ### The canonical form -/

/-- A length is written canonically. -/
theorem Strict.length?_lengthOctets (h : n < Nat.pow 2 32) (rest : Bytes) :
    Strict.length? (lengthOctets n ++ rest) = some (n, rest) := by
  by_cases hshort : n < 128
  · have hoctet := toNat_shortOctet hshort
    have hlt : UInt8.ofNat n < 128 := UInt8.lt_iff_toNat_lt.2 (by rw [hoctet]; exact hshort)
    rw [lengthOctets, if_pos hshort, List.singleton_append, Strict.length?, if_pos hlt, hoctet]
  · have hle : Bytes.byteLength n ≤ 4 := by
      rw [Bytes.byteLength_le_iff]
      exact lt_of_lt_of_eq h (by norm_num)
    have hpos : 0 < Bytes.byteLength n := byteLength_pos (by omega)
    have hoctet := toNat_widthOctet (n := n) (by omega)
    have hlt : ¬ UInt8.ofNat (128 + Bytes.byteLength n) < 128 := by
      simp only [UInt8.lt_iff_toNat_lt, hoctet, UInt8.reduceToNat]
      omega
    have hwidth : (UInt8.ofNat (128 + Bytes.byteLength n)).toNat - 128 =
        (Bytes.ofNat n).length := by
      rw [hoctet, Bytes.length_ofNat]
      omega
    have hrange : ¬ ((Bytes.ofNat n).length = 0 ∨ 4 < (Bytes.ofNat n).length ∨
        (Bytes.ofNat n ++ rest).length < (Bytes.ofNat n).length) := by
      rw [List.length_append, Bytes.length_ofNat]
      omega
    have hhead : (Bytes.ofNat n).head? ≠ some 0 := by
      rcases hoctets : Bytes.ofNat n with _ | ⟨b, tail⟩
      · simp
      · have hb := Bytes.head_ne_zero_of_ofNat hoctets
        simpa using hb
    rw [lengthOctets, if_neg hshort, List.cons_append, Strict.length?, if_neg hlt]
    simp only [hwidth, List.take_left', List.drop_left', Bytes.toNat_ofNat, if_neg hrange]
    rw [if_neg (not_or.2 ⟨hhead, hshort⟩)]

/-- So are contents. -/
theorem Strict.contents?_encode (identifier : UInt8) (h : contents.length < Nat.pow 2 32)
    (rest : Bytes) :
    Strict.contents? identifier (encode identifier contents ++ rest) = some (contents, rest) := by
  have hlength := Strict.length?_lengthOctets h (contents ++ rest)
  rw [encode, List.cons_append, List.cons_append, List.append_assoc, Strict.contents?]
  simp [hlength]

/-- **A natural number is read back canonically.** -/
theorem Strict.natural?_natural (h : Bytes.byteLength n + 1 < Nat.pow 2 32) (rest : Bytes) :
    Strict.natural? (natural n ++ rest) = some (n, rest) := by
  obtain ⟨hshortest, hhead, hvalue⟩ := naturalOctets_spec n
  have hread := Strict.contents?_encode 0x02
    (lt_of_le_of_lt (length_naturalOctets_le n) h) rest
  rw [Strict.natural?, natural, hread]
  simp only [Option.bind_eq_bind, Option.bind_some, if_pos (And.intro hshortest hhead), hvalue]

/-! ### Two readers of the same octets -/

/-- A canonical length is read leniently, too. -/
theorem length?_of_strict {octets : Bytes} (h : Strict.length? octets = some (n, rest)) :
    length? octets = some (n, rest) := by
  rcases octets with _ | ⟨b, tail⟩
  · simp [Strict.length?] at h
  simp only [Strict.length?] at h
  simp only [length?]
  split_ifs at h with hshort hrange hform
  · rwa [if_pos hshort]
  · have hplain : ¬ (b = 128 ∨ b = 255) := by
      simp only [← UInt8.toNat_inj, UInt8.reduceToNat]
      omega
    have hvalue := Bytes.toNat_lt (tail.take (b.toNat - 128))
    have hwide : (256 : Nat) ^ (tail.take (b.toNat - 128)).length ≤ 256 ^ 4 :=
      Nat.pow_le_pow_right (by norm_num) (by rw [List.length_take]; omega)
    have hpow : (256 : Nat) ^ 4 < Nat.pow 2 64 := by decide
    rw [if_neg hshort, if_neg hplain, if_neg (by omega)]
    exact h

/-- **What the canonical reader finds, the lenient one finds.** -/
theorem element?_of_strict (hplain : IsPlain identifier)
    (h : Strict.contents? identifier bytes = some (contents, rest)) :
    element? bytes = some (elementOf identifier contents, rest) := by
  rcases bytes with _ | ⟨b, octets⟩
  · simp [Strict.contents?] at h
  rw [Strict.contents?] at h
  split_ifs at h with hb
  obtain rfl : b = identifier := not_not.1 hb
  obtain ⟨⟨length, tail⟩, hlength, hrest⟩ := Option.bind_eq_some_iff.1 h
  simp only [Option.ite_none_left_eq_some, Option.some.injEq, Prod.mk.injEq, not_lt] at hrest
  obtain ⟨hle, rfl, rfl⟩ := hrest
  exact element?_of_length? hplain (length?_of_strict hlength) hle

end WebhookTrust.Der
