import Mathlib.Tactic.Linarith
import WebhookTrust.Text.Utf8

/-!
# The laws of UTF-8

Decoding undoes encoding (`decode_encode`), whatever the characters. Bytes of ASCII are characters
as they stand (`decode_ofAscii`), which is what the frames of PEM blocks and the names in
certificates are made of.

The decoder works byte by byte, so the round trip is a run through the bytes of one character at a
time: what its first byte announces, and then the bytes that continue it.
-/

namespace WebhookTrust

/-- Different numbers have different texts. -/
theorem repr_injective : Function.Injective Nat.repr := by
  intro m n h
  rw [Nat.repr_eq_ofList_toDigits, Nat.repr_eq_ofList_toDigits, String.ofList_inj] at h
  have hdigits (k : Nat) : Nat.ofDigitChars 10 (Nat.toDigits 10 k) 0 = k :=
    Nat.ofDigitChars_toDigits (by decide) (by decide)
  rw [← hdigits m, h, hdigits n]

namespace Utf8

variable {b : UInt8} {index : Nat} {rest : Bytes}

/-! ### Bytes as numbers -/

theorem toNat_ofNat_of_lt {n : Nat} (h : n < 256) : (UInt8.ofNat n).toNat = n := by
  rw [UInt8.toNat_ofNat']
  omega

/-! ### First bytes -/

/-- A byte of ASCII is a character by itself. -/
theorem announce_one {n : Nat} (h : n < 0x80) :
    announce index (UInt8.ofNat n) = some (.inl (Char.ofNat n)) := by
  have hb : (UInt8.ofNat n).toNat = n := toNat_ofNat_of_lt (by omega)
  simp only [announce, UInt8.lt_iff_toNat_lt, UInt8.reduceToNat, hb]
  rw [if_pos h]

theorem announce_two {n : Nat} (hlow : 2 ≤ n) (hhigh : n < 32) :
    announce index (UInt8.ofNat (0xC0 + n)) = some (.inr ⟨index, n, 1, 1, 0x80, 0xBF⟩) := by
  have hb : (UInt8.ofNat (0xC0 + n)).toNat = 0xC0 + n := toNat_ofNat_of_lt (by omega)
  simp only [announce, UInt8.lt_iff_toNat_lt, UInt8.reduceToNat, hb]
  rw [if_neg (by omega), if_neg (by omega), if_pos (by omega), Nat.add_sub_cancel_left]

/-- The range of the second byte of three leaves out overlong forms and surrogates. -/
theorem announce_three {n : Nat} (h : n < 16) :
    announce index (UInt8.ofNat (0xE0 + n)) = some (.inr ⟨index, n, 1, 2,
      if 0xE0 + n = 0xE0 then 0xA0 else 0x80, if 0xE0 + n = 0xED then 0x9F else 0xBF⟩) := by
  have hb : (UInt8.ofNat (0xE0 + n)).toNat = 0xE0 + n := toNat_ofNat_of_lt (by omega)
  simp only [announce, UInt8.lt_iff_toNat_lt, ← UInt8.toNat_inj, UInt8.reduceToNat, hb]
  rw [if_neg (by omega), if_neg (by omega), if_neg (by omega), if_pos (by omega),
    Nat.add_sub_cancel_left]

/-- The range of the second byte of four leaves out overlong forms and what is no code point. -/
theorem announce_four {n : Nat} (h : n < 5) :
    announce index (UInt8.ofNat (0xF0 + n)) = some (.inr ⟨index, n, 1, 3,
      if 0xF0 + n = 0xF0 then 0x90 else 0x80, if 0xF0 + n = 0xF4 then 0x8F else 0xBF⟩) := by
  have hb : (UInt8.ofNat (0xF0 + n)).toNat = 0xF0 + n := toNat_ofNat_of_lt (by omega)
  simp only [announce, UInt8.lt_iff_toNat_lt, ← UInt8.toNat_inj, UInt8.reduceToNat, hb]
  rw [if_neg (by omega), if_neg (by omega), if_neg (by omega), if_neg (by omega),
    if_pos (by omega), Nat.add_sub_cancel_left]

/-! ### Bytes that continue a character -/

/-- The byte that continues a character with the lowest six bits of a number. -/
def continuing (n : Nat) : UInt8 := UInt8.ofNat (0x80 + n % 64)

theorem toNat_continuing (n : Nat) : (continuing n).toNat = 0x80 + n % 64 :=
  toNat_ofNat_of_lt (by omega)

/-- How many bytes a character takes. -/
theorem encodeChar_eq (c : Char) : encodeChar c =
    if c.toNat < 0x80 then [UInt8.ofNat c.toNat]
    else if c.toNat < 0x800 then [UInt8.ofNat (0xC0 + c.toNat / 64), continuing c.toNat]
    else if c.toNat < 0x10000 then
      [UInt8.ofNat (0xE0 + c.toNat / 4096), continuing (c.toNat / 64), continuing c.toNat]
    else [UInt8.ofNat (0xF0 + c.toNat / 262144), continuing (c.toNat / 4096),
      continuing (c.toNat / 64), continuing c.toNat] :=
  rfl

theorem continuing_mem (n : Nat) : 0x80 ≤ continuing n ∧ continuing n ≤ 0xBF := by
  simp only [UInt8.le_iff_toNat_le, toNat_continuing, UInt8.reduceToNat]
  omega

/-- The last byte that is missing ends the character. -/
theorem decodeFrom_last {start value taken n : Nat} {low high : UInt8}
    (h : low ≤ continuing n ∧ continuing n ≤ high) :
    decodeFrom index (some ⟨start, value, taken, 1, low, high⟩) (continuing n :: rest) =
      (decodeFrom (index + 1) none rest).map (Char.ofNat (value * 64 + n % 64) :: ·) := by
  rw [decodeFrom, if_pos h, toNat_continuing, Nat.add_sub_cancel_left]
  rfl

/-- Before it, each byte adds six bits. -/
theorem decodeFrom_more {start value taken missing n : Nat} {low high : UInt8}
    (h : low ≤ continuing n ∧ continuing n ≤ high) :
    decodeFrom index (some ⟨start, value, taken, missing + 2, low, high⟩) (continuing n :: rest) =
      decodeFrom (index + 1)
        (some ⟨start, value * 64 + n % 64, taken + 1, missing + 1, 0x80, 0xBF⟩) rest := by
  rw [decodeFrom, if_pos h, toNat_continuing, Nat.add_sub_cancel_left]
  rfl

/-! ### The round trip -/

/-- A code point is below the surrogates or above them. -/
theorem toNat_valid (c : Char) : c.toNat < 0xD800 ∨ 0xDFFF < c.toNat ∧ c.toNat < 0x110000 :=
  c.valid

/-- The second byte of three is one that the first one announces. -/
theorem continuing_mem_three {n : Nat} (hlow : 0x800 ≤ n)
    (hvalid : n < 0xD800 ∨ 0xDFFF < n) :
    (if 0xE0 + n / 4096 = 0xE0 then 0xA0 else 0x80) ≤ continuing (n / 64) ∧
      continuing (n / 64) ≤ if 0xE0 + n / 4096 = 0xED then 0x9F else 0xBF := by
  simp only [UInt8.le_iff_toNat_le, toNat_continuing]
  split_ifs <;> simp only [UInt8.reduceToNat] <;> omega

/-- The second byte of four is one that the first one announces. -/
theorem continuing_mem_four {n : Nat} (hlow : 0x10000 ≤ n) (hhigh : n < 0x110000) :
    (if 0xF0 + n / 262144 = 0xF0 then 0x90 else 0x80) ≤ continuing (n / 4096) ∧
      continuing (n / 4096) ≤ if 0xF0 + n / 262144 = 0xF4 then 0x8F else 0xBF := by
  simp only [UInt8.le_iff_toNat_le, toNat_continuing]
  split_ifs <;> simp only [UInt8.reduceToNat] <;> omega

/-- The bytes of one character decode to it. -/
theorem decodeFrom_encodeChar (c : Char) (index : Nat) (rest : Bytes) :
    ∃ next, decodeFrom index none (encodeChar c ++ rest) =
      (decodeFrom next none rest).map (c :: ·) := by
  have hvalid := toNat_valid c
  rw [encodeChar_eq]
  -- one case for each length; the bits that its bytes carry make up the code point again
  split_ifs with hone htwo hthree
  · refine ⟨index + 1, ?_⟩
    rw [List.singleton_append, decodeFrom, announce_one hone, Char.ofNat_toNat]
  · refine ⟨index + 1 + 1, ?_⟩
    have hvalue : c.toNat / 64 * 64 + c.toNat % 64 = c.toNat := by omega
    rw [List.cons_append, decodeFrom, announce_two (by omega) (by omega)]
    simp only [List.singleton_append]
    rw [decodeFrom_last (continuing_mem _), hvalue, Char.ofNat_toNat]
  · refine ⟨index + 1 + 1 + 1, ?_⟩
    have hvalue : (c.toNat / 4096 * 64 + c.toNat / 64 % 64) * 64 + c.toNat % 64 = c.toNat := by
      omega
    rw [List.cons_append, decodeFrom, announce_three (by omega)]
    simp only [List.cons_append, List.nil_append]
    rw [decodeFrom_more (continuing_mem_three (by omega) (by omega)),
      decodeFrom_last (continuing_mem _), hvalue, Char.ofNat_toNat]
  · refine ⟨index + 1 + 1 + 1 + 1, ?_⟩
    have hvalue : ((c.toNat / 262144 * 64 + c.toNat / 4096 % 64) * 64 + c.toNat / 64 % 64) * 64 +
        c.toNat % 64 = c.toNat := by omega
    rw [List.cons_append, decodeFrom, announce_four (by omega)]
    simp only [List.cons_append, List.nil_append]
    rw [decodeFrom_more (continuing_mem_four (by omega) (by omega)),
      decodeFrom_more (continuing_mem _), decodeFrom_last (continuing_mem _), hvalue,
      Char.ofNat_toNat]

/-- Characters decode one after another. -/
theorem decodeFrom_encode (chars : List Char) (index : Nat) :
    decodeFrom index none (encode chars) = .ok chars := by
  induction chars generalizing index with
  | nil => rfl
  | cons c rest ih =>
    obtain ⟨next, hnext⟩ := decodeFrom_encodeChar c index (encode rest)
    rw [encode, List.flatMap_cons, ← encode, hnext, ih, Except.map]

/-- **Decoding undoes encoding.** -/
@[simp] theorem decode_encode (chars : List Char) : decode (encode chars) = .ok chars :=
  decodeFrom_encode chars 0

@[simp] theorem toString?_ofString (text : String) : toString? (ofString text) = some text := by
  simp [toString?, toString, ofString, Except.map, Except.toOption]

/-- Texts of the same bytes are the same. -/
theorem ofString_inj {text text' : String} : ofString text = ofString text' ↔ text = text' := by
  refine ⟨fun h ↦ ?_, congrArg ofString⟩
  have hsome := congrArg toString? h
  rwa [toString?_ofString, toString?_ofString, Option.some.injEq] at hsome

/-! ### ASCII -/

/-- Bytes that a test finds to be ASCII are. -/
theorem lt_of_all {bytes : Bytes} (h : bytes.all (· < 0x80) = true) : ∀ b ∈ bytes, b < 0x80 := by
  simpa using h

theorem encodeChar_of_lt {c : Char} (h : c.toNat < 0x80) :
    encodeChar c = [UInt8.ofNat c.toNat] := by
  rw [encodeChar, if_pos h]

theorem encode_of_lt {chars : List Char} (h : ∀ c ∈ chars, c.toNat < 0x80) :
    encode chars = chars.map fun c ↦ UInt8.ofNat c.toNat := by
  induction chars with
  | nil => rfl
  | cons c rest ih =>
    rw [encode, List.flatMap_cons, ← encode, ih fun d hd ↦ h d (List.mem_cons_of_mem c hd),
      encodeChar_of_lt (h c List.mem_cons_self), List.singleton_append, List.map_cons]

/-- **A byte of ASCII stands for its own character only**: all other characters are encoded in
higher bytes. -/
theorem toNat_eq_of_mem_encodeChar {c : Char} (h : b ∈ encodeChar c) (hb : b < 0x80) :
    b.toNat = c.toNat := by
  have hvalid := toNat_valid c
  have hlow : b.toNat < 0x80 := UInt8.lt_iff_toNat_lt.1 hb
  have hhigh : ∀ n, 0x80 ≤ n → n < 256 → b ≠ UInt8.ofNat n := by
    rintro n hle hlt rfl
    rw [toNat_ofNat_of_lt hlt] at hlow
    omega
  rw [encodeChar] at h
  split_ifs at h with hone htwo hthree
  · rw [List.mem_singleton] at h
    rw [h, toNat_ofNat_of_lt (by omega)]
  · simp only [List.mem_cons, List.not_mem_nil, or_false] at h
    rcases h with h | h <;> exact (hhigh _ (by omega) (by omega) h).elim
  · simp only [List.mem_cons, List.not_mem_nil, or_false] at h
    rcases h with h | h | h <;> exact (hhigh _ (by omega) (by omega) h).elim
  · simp only [List.mem_cons, List.not_mem_nil, or_false] at h
    rcases h with h | h | h | h <;> exact (hhigh _ (by omega) (by omega) h).elim

/-- The bytes of ASCII in a text are the characters of ASCII in it. -/
theorem mem_toList_of_mem_ofString {text : String} (h : b ∈ ofString text) (hb : b < 0x80) :
    Char.ofNat b.toNat ∈ text.toList := by
  obtain ⟨c, hc, hmem⟩ := List.mem_flatMap.1 h
  rwa [toNat_eq_of_mem_encodeChar hmem hb, Char.ofNat_toNat]

/-- The characters of ASCII bytes, one a byte. -/
def asciiChars (bytes : Bytes) : List Char := bytes.map fun b ↦ Char.ofNat b.toNat

theorem toNat_ofNat_char {n : Nat} (h : n < 0x80) : (Char.ofNat n).toNat = n := by
  have hvalid : n.isValidChar := Or.inl (by omega)
  rw [Char.ofNat, dif_pos hvalid]
  rfl

/-- Characters of ASCII bytes are encoded as the bytes. -/
theorem encode_asciiChars {bytes : Bytes} (h : ∀ b ∈ bytes, b < 0x80) :
    encode (asciiChars bytes) = bytes := by
  have hlow : ∀ b ∈ bytes, (Char.ofNat b.toNat).toNat = b.toNat := fun b hb ↦
    toNat_ofNat_char (UInt8.lt_iff_toNat_lt.1 (h b hb))
  rw [encode_of_lt, asciiChars, List.map_map]
  · refine (List.map_congr_left fun b hb ↦ ?_).trans (List.map_id bytes)
    rw [Function.comp_apply, hlow b hb, UInt8.ofNat_toNat, id]
  · intro c hc
    obtain ⟨b, hb, rfl⟩ := List.mem_map.1 hc
    rw [hlow b hb]
    exact UInt8.lt_iff_toNat_lt.1 (h b hb)

/-- **ASCII bytes are their own characters.** -/
theorem decode_ascii {bytes : Bytes} (h : ∀ b ∈ bytes, b < 0x80) :
    decode bytes = .ok (asciiChars bytes) := by
  conv_lhs => rw [← encode_asciiChars h]
  exact decode_encode _

end Utf8

end WebhookTrust
