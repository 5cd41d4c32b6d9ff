import WebhookTrust.Bytes

/-!
# UTF-8

Encoding a text is total; decoding refuses ill-formed bytes and says where. The position is that of
the first byte of the ill-formed sequence, and its length that of the longest prefix of it that
could still have become a character, as the Unicode standard recommends for replacement.

The decoder reads one byte at a time and carries what a started character still needs, so it is a
structural recursion over the input.
-/

namespace WebhookTrust.Utf8

/-! ### Encoding -/

/-- The bytes of one character: one to four, by the size of its code point. -/
def encodeChar (c : Char) : Bytes :=
  let n := c.toNat
  if n < 0x80 then [UInt8.ofNat n]
  else if n < 0x800 then [UInt8.ofNat (0xC0 + n / 64), UInt8.ofNat (0x80 + n % 64)]
  else if n < 0x10000 then
    [UInt8.ofNat (0xE0 + n / 4096), UInt8.ofNat (0x80 + n / 64 % 64), UInt8.ofNat (0x80 + n % 64)]
  else
    [UInt8.ofNat (0xF0 + n / 262144), UInt8.ofNat (0x80 + n / 4096 % 64),
      UInt8.ofNat (0x80 + n / 64 % 64), UInt8.ofNat (0x80 + n % 64)]

/-- The bytes of a list of characters. -/
def encode (chars : List Char) : Bytes := chars.flatMap encodeChar

/-- The bytes of a text. -/
def ofString (text : String) : Bytes := encode text.toList

/-! ### Decoding -/

/-- Why bytes are no UTF-8 text. -/
inductive Error where
  /-- The bytes from `index` on start a character and end before it does. -/
  | incomplete (index : Nat)
  /-- The `length` bytes from `index` on can start no character. -/
  | invalid (index length : Nat)
deriving DecidableEq, Repr

/-- The error in words. -/
def Error.message : Error → String
  | .incomplete index => s!"incomplete utf-8 byte sequence from index {index}"
  | .invalid index length => s!"invalid utf-8 sequence of {length} bytes from index {index}"

/-- A character that has been started: its first byte's position, the value and count of the bytes
read so far, how many are missing, and the range that the next of them must fall into. -/
structure Started where
  start : Nat
  value : Nat
  taken : Nat
  missing : Nat
  low : UInt8
  high : UInt8

/-- What a first byte announces: a finished character, a longer one, or nothing. The ranges leave
out overlong forms, surrogates and numbers past the last code point. -/
def announce (index : Nat) (b : UInt8) : Option (Char ⊕ Started) :=
  if b < 0x80 then some (.inl (Char.ofNat b.toNat))
  else if b < 0xC2 then none
  else if b < 0xE0 then some (.inr ⟨index, b.toNat - 0xC0, 1, 1, 0x80, 0xBF⟩)
  else if b < 0xF0 then
    some (.inr ⟨index, b.toNat - 0xE0, 1, 2,
      if b = 0xE0 then 0xA0 else 0x80, if b = 0xED then 0x9F else 0xBF⟩)
  else if b < 0xF5 then
    some (.inr ⟨index, b.toNat - 0xF0, 1, 3,
      if b = 0xF0 then 0x90 else 0x80, if b = 0xF4 then 0x8F else 0xBF⟩)
  else none

/-- Decodes from position `index`, in the middle of the character `started` if there is one. -/
def decodeFrom (index : Nat) : Option Started → Bytes → Except Error (List Char)
  | none, [] => .ok []
  | some s, [] => .error (.incomplete s.start)
  | none, b :: rest =>
    match announce index b with
    | none => .error (.invalid index 1)
    | some (.inl c) => (decodeFrom (index + 1) none rest).map (c :: ·)
    | some (.inr s) => decodeFrom (index + 1) (some s) rest
  | some s, b :: rest =>
    if s.low ≤ b ∧ b ≤ s.high then
      let value := s.value * 64 + (b.toNat - 0x80)
      if s.missing ≤ 1 then (decodeFrom (index + 1) none rest).map (Char.ofNat value :: ·)
      else decodeFrom (index + 1)
        (some ⟨s.start, value, s.taken + 1, s.missing - 1, 0x80, 0xBF⟩) rest
    else .error (.invalid s.start s.taken)

/-- The characters that the bytes spell. -/
def decode (bytes : Bytes) : Except Error (List Char) := decodeFrom 0 none bytes

/-- The text that the bytes spell. -/
def toString (bytes : Bytes) : Except Error String := (decode bytes).map String.ofList

/-- The text that the bytes spell, if they spell one. -/
def toString? (bytes : Bytes) : Option String := (toString bytes).toOption

end WebhookTrust.Utf8
