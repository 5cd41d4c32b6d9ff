import WebhookTrust.Bytes

/-!
# Base64

The standard alphabet with canonical padding. Encoding is total. Decoding refuses everything that
encoding does not produce, and names the fault: a byte outside the alphabet, a lone last symbol,
bits set that belong to no byte, or padding that is missing or too short.

Both directions work on groups: three bytes against four symbols. The last group alone may be short
and padded.
-/

namespace WebhookTrust.Base64

/-! ### The alphabet -/

/-- The symbol of a six-bit value. -/
def symbol (v : Nat) : UInt8 :=
  if v < 26 then UInt8.ofNat (65 + v)
  else if v < 52 then UInt8.ofNat (97 + (v - 26))
  else if v < 62 then UInt8.ofNat (48 + (v - 52))
  else if v = 62 then 43
  else 47

/-- The six-bit value of a symbol; other bytes, the padding among them, have none. -/
def value? (b : UInt8) : Option Nat :=
  if 65 ≤ b ∧ b ≤ 90 then some (b.toNat - 65)
  else if 97 ≤ b ∧ b ≤ 122 then some (b.toNat - 97 + 26)
  else if 48 ≤ b ∧ b ≤ 57 then some (b.toNat - 48 + 52)
  else if b = 43 then some 62
  else if b = 47 then some 63
  else none

/-- The padding byte, an equals sign. -/
def pad : UInt8 := 61

/-! ### Encoding -/

/-- The symbols of the bytes, padded to whole groups of four. -/
def encode : Bytes → Bytes
  | [] => []
  | [a] => [symbol (a.toNat / 4), symbol (a.toNat % 4 * 16), pad, pad]
  | [a, b] =>
    [symbol (a.toNat / 4), symbol (a.toNat % 4 * 16 + b.toNat / 16),
      symbol (b.toNat % 16 * 4), pad]
  | a :: b :: c :: rest =>
    symbol (a.toNat / 4) :: symbol (a.toNat % 4 * 16 + b.toNat / 16) ::
      symbol (b.toNat % 16 * 4 + c.toNat / 64) :: symbol (c.toNat % 64) :: encode rest

/-- The encoded bytes as a text. -/
def encodeString (bytes : Bytes) : String :=
  String.ofList ((encode bytes).map fun b ↦ Char.ofNat b.toNat)

/-! ### Decoding -/

/-- Why bytes are no encoding. -/
inductive Error where
  /-- The byte at `offset` is no symbol, or padding where a symbol has to stand. -/
  | symbol (offset : Nat) (byte : UInt8)
  /-- The last group has a single symbol. -/
  | length (length : Nat)
  /-- The last symbol sets bits that belong to no byte. -/
  | lastSymbol (offset : Nat) (byte : UInt8)
  /-- The last group is not padded to four. -/
  | padding
deriving DecidableEq, Repr

/-- The error in words. -/
def Error.message : Error → String
  | .symbol offset byte => s!"Invalid symbol {byte.toNat}, offset {offset}."
  | .length n => s!"Invalid input length: {n}"
  | .lastSymbol offset byte => s!"Invalid last symbol {byte.toNat}, offset {offset}."
  | .padding => "Invalid padding"

/-- The value of the symbol at `offset`. -/
def valueAt (offset : Nat) (b : UInt8) : Except Error Nat :=
  match value? b with
  | some v => .ok v
  | none => .error (.symbol offset b)

/-- The three bytes of a full group. -/
def groupBytes (v w x y : Nat) : Bytes :=
  [UInt8.ofNat (v * 4 + w / 16), UInt8.ofNat (w % 16 * 16 + x / 4), UInt8.ofNat (x % 4 * 64 + y)]

/-- What the last group holds: its symbols with their values, and how many padding bytes follow. -/
structure LastGroup where
  symbols : List (UInt8 × Nat)
  pads : Nat

/-- Reads the last group from `offset` on. Padding may start at its third byte only, and no symbol
may follow it. -/
def readLast (offset : Nat) (group : LastGroup) : Bytes → Except Error LastGroup
  | [] => .ok group
  | b :: rest =>
    let position := offset + group.symbols.length + group.pads
    if b = pad then
      if group.symbols.length + group.pads < 2 then .error (.symbol position b)
      else readLast offset { group with pads := group.pads + 1 } rest
    else if group.pads > 0 then .error (.symbol (offset + group.symbols.length) pad)
    else
      match valueAt position b with
      | .ok v => readLast offset { group with symbols := group.symbols ++ [(b, v)] } rest
      | .error e => .error e

/-- The bytes of the last group, which starts at `offset`. Only an empty input leaves it empty. -/
def LastGroup.bytes (offset : Nat) (group : LastGroup) : Except Error Bytes :=
  match group.symbols, group.pads with
  | [], _ => .ok []
  | [_], _ => .error (.length (offset + 1))
  | [(_, v), (b, w)], 2 =>
    if w % 16 = 0 then .ok [UInt8.ofNat (v * 4 + w / 16)] else .error (.lastSymbol (offset + 1) b)
  | [(_, v), (_, w), (b, x)], 1 =>
    if x % 4 = 0 then .ok [UInt8.ofNat (v * 4 + w / 16), UInt8.ofNat (w % 16 * 16 + x / 4)]
    else .error (.lastSymbol (offset + 2) b)
  | (_, v) :: (_, w) :: (_, x) :: (_, y) :: _, 0 => .ok (groupBytes v w x y)
  | _, _ => .error .padding

/-- Decodes from `offset` on, where a group starts. -/
def decodeFrom (offset : Nat) : Bytes → Except Error Bytes
  | a :: b :: c :: d :: e :: rest => do
    let v ← valueAt offset a
    let w ← valueAt (offset + 1) b
    let x ← valueAt (offset + 2) c
    let y ← valueAt (offset + 3) d
    return groupBytes v w x y ++ (← decodeFrom (offset + 4) (e :: rest))
  | last => do
    let group ← readLast offset ⟨[], 0⟩ last
    group.bytes offset

/-- A last byte that stands alone in its group and is neither symbol nor padding; such a byte, for
instance a stray newline, is reported before all others. -/
def strayLast? (bytes : Bytes) : Option UInt8 :=
  if bytes.length % 4 = 1 then
    bytes.getLast?.filter fun b ↦ b ≠ pad && (value? b).isNone
  else none

/-- The bytes that the symbols spell. -/
def decode (bytes : Bytes) : Except Error Bytes :=
  match strayLast? bytes with
  | some b => .error (.symbol (bytes.length - 1) b)
  | none => decodeFrom 0 bytes

end WebhookTrust.Base64
