/-!
# Byte strings

A byte string is a list of bytes, so every reader and writer of the library is a structural
recursion that the kernel can run. This module holds the views that the rest needs: unsigned
big-endian numbers, hexadecimal text, and the characters of ASCII.
-/

namespace WebhookTrust

/-- A byte string. -/
abbrev Bytes : Type := List UInt8

namespace Bytes

/-! ### Unsigned big-endian numbers -/

/-- The number that `acc` and then the bytes spell, most significant byte first. -/
def natFrom (acc : Nat) : Bytes → Nat
  | [] => acc
  | b :: rest => natFrom (acc * 256 + b.toNat) rest

/-- The unsigned big-endian number that the bytes spell; the empty string spells zero. -/
def toNat (bytes : Bytes) : Nat := natFrom 0 bytes

/-- The low `width` bytes of a number, most significant first. -/
def ofNatPadded : Nat → Nat → Bytes
  | 0, _ => []
  | width + 1, n => ofNatPadded width (n / 256) ++ [UInt8.ofNat (n % 256)]

/-- How many bytes a number needs; zero needs none. -/
def byteLength (n : Nat) : Nat := if n = 0 then 0 else Nat.log2 n / 8 + 1

/-- The fewest big-endian bytes that spell `n`. -/
def ofNat (n : Nat) : Bytes := ofNatPadded (byteLength n) n

/-- The fewest big-endian bytes, but at least one, that spell `n`: zero takes a zero byte. -/
def ofNatNonempty (n : Nat) : Bytes := if n = 0 then [0] else ofNat n

/-- The bytes without their leading zeros. -/
def stripLeadingZeros : Bytes → Bytes
  | [] => []
  | b :: rest => if b = 0 then stripLeadingZeros rest else b :: rest

@[simp] theorem length_ofNatPadded (width n : Nat) : (ofNatPadded width n).length = width := by
  induction width generalizing n with
  | zero => rfl
  | succ width ih => simp [ofNatPadded, ih]

/-! ### Hexadecimal text -/

/-- The digit of a number below sixteen, with letters starting at `ten`. -/
def hexDigit (ten : Char) (n : Nat) : Char :=
  if n < 10 then Char.ofNat ('0'.toNat + n) else Char.ofNat (ten.toNat + (n - 10))

/-- Two hexadecimal digits a byte, with letters starting at `ten`. -/
def hexWith (ten : Char) : Bytes → List Char
  | [] => []
  | b :: rest => hexDigit ten (b.toNat / 16) :: hexDigit ten (b.toNat % 16) :: hexWith ten rest

/-- Lower-case hexadecimal text. -/
def hex (bytes : Bytes) : String := String.ofList (hexWith 'a' bytes)

/-- Upper-case hexadecimal text. -/
def hexUpper (bytes : Bytes) : String := String.ofList (hexWith 'A' bytes)

/-! ### ASCII -/

/-- The bytes of a text, a byte a character; meant for texts of ASCII characters. -/
def ofAscii (text : String) : Bytes := text.toList.map fun c ↦ UInt8.ofNat c.toNat

end Bytes

end WebhookTrust
