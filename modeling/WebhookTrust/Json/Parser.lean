import WebhookTrust.Json.Basic

/-!
# Reading JSON texts

The reader works on characters and hands back what follows a value. Blank space is that of JSON:
space, tab, line feed and carriage return. Of a key that occurs twice in an object the last value
counts.
-/

namespace WebhookTrust.Json

/-! ### Leaves -/

/-- Is the character blank space between tokens? -/
def isSpace (c : Char) : Bool := c = ' ' || c = '\t' || c = '\n' || c = '\r'

/-- The characters behind blank space. -/
def skipSpace (chars : List Char) : List Char := chars.dropWhile isSpace

/-- The value of a hexadecimal digit. -/
def hexValue? (c : Char) : Option Nat :=
  if '0' ≤ c ∧ c ≤ '9' then some (c.toNat - '0'.toNat)
  else if 'a' ≤ c ∧ c ≤ 'f' then some (c.toNat - 'a'.toNat + 10)
  else if 'A' ≤ c ∧ c ≤ 'F' then some (c.toNat - 'A'.toNat + 10)
  else none

/-- The two-byte unit that four hexadecimal digits spell. -/
def unit? : List Char → Option (Nat × List Char)
  | a :: b :: c :: d :: rest => do
    let a ← hexValue? a
    let b ← hexValue? b
    let c ← hexValue? c
    let d ← hexValue? d
    return (((a * 16 + b) * 16 + c) * 16 + d, rest)
  | _ => none

/-- The character behind a backslash and the letter u: one unit, or two for a character past the
first 65536. -/
def unicode? (chars : List Char) : Option (Char × List Char) := do
  let (high, rest) ← unit? chars
  if 0xDC00 ≤ high ∧ high < 0xE000 then none
  else if 0xD800 ≤ high ∧ high < 0xDC00 then
    match rest with
    | '\\' :: 'u' :: rest =>
      let (low, rest) ← unit? rest
      if 0xDC00 ≤ low ∧ low < 0xE000 then
        some (Char.ofNat (0x10000 + (high - 0xD800) * 0x400 + (low - 0xDC00)), rest)
      else none
    | _ => none
  else some (Char.ofNat high, rest)

/-- The character that a letter behind a backslash stands for. -/
def escaped? (c : Char) : Option Char :=
  match c with
  | '"' => some '"'
  | '\\' => some '\\'
  | '/' => some '/'
  | 'b' => some '\x08'
  | 'f' => some '\x0c'
  | 'n' => some '\n'
  | 'r' => some '\r'
  | 't' => some '\t'
  | _ => none

/-- The rest of a string behind its opening quote; `seen` are its characters so far, last first, and
`fuel` bounds how many follow. -/
def stringFrom? (seen : List Char) : Nat → List Char → Option (String × List Char)
  | 0, _ => none
  | fuel + 1, chars =>
    match chars with
    | [] => none
    | '"' :: rest => some (String.ofList seen.reverse, rest)
    | '\\' :: 'u' :: rest =>
      match unicode? rest with
      | some (c, rest) => stringFrom? (c :: seen) fuel rest
      | none => none
    | '\\' :: c :: rest =>
      match escaped? c with
      | some c => stringFrom? (c :: seen) fuel rest
      | none => none
    | c :: rest => if c.toNat < 0x20 then none else stringFrom? (c :: seen) fuel rest

/-- The rest of a string behind its opening quote. -/
def quoted? (chars : List Char) : Option (String × List Char) :=
  stringFrom? [] (chars.length + 1) chars

/-- Digits, of which there has to be one. -/
def digits? (chars : List Char) : Option (List Char × List Char) :=
  match chars.takeWhile Char.isDigit with
  | [] => none
  | digits => some (digits, chars.dropWhile Char.isDigit)

/-- The whole part of a number, which starts with a zero only if it is zero. -/
def whole? : List Char → Option (List Char × List Char)
  | '0' :: rest => some (['0'], rest)
  | chars => digits? chars

/-- The fraction of a number, if there is one. -/
def fraction? : List Char → Option (List Char × List Char)
  | '.' :: rest => (digits? rest).map fun (digits, rest) ↦ ('.' :: digits, rest)
  | chars => some ([], chars)

/-- The digits of an exponent behind its letter. -/
def exponentDigits? : List Char → Option (List Char × List Char)
  | '+' :: rest => (digits? rest).map fun (digits, rest) ↦ ('+' :: digits, rest)
  | '-' :: rest => (digits? rest).map fun (digits, rest) ↦ ('-' :: digits, rest)
  | chars => digits? chars

/-- The exponent of a number, if there is one. -/
def exponent? : List Char → Option (List Char × List Char)
  | 'e' :: rest => (exponentDigits? rest).map fun (digits, rest) ↦ ('e' :: digits, rest)
  | 'E' :: rest => (exponentDigits? rest).map fun (digits, rest) ↦ ('e' :: digits, rest)
  | chars => some ([], chars)

/-- A number. -/
def number? (chars : List Char) : Option (Json × List Char) := do
  let (sign, chars) := match chars with
    | '-' :: rest => (['-'], rest)
    | _ => ([], chars)
  let (whole, chars) ← whole? chars
  let (fraction, chars) ← fraction? chars
  let (exponent, chars) ← exponent? chars
  return (number (String.ofList (sign ++ whole ++ fraction ++ exponent)), chars)

/-! ### Values -/

mutual

/-- The value that the characters start with. -/
def value? : Nat → List Char → Option (Json × List Char)
  | 0, _ => none
  | fuel + 1, chars =>
    match skipSpace chars with
    | 'n' :: 'u' :: 'l' :: 'l' :: rest => some (null, rest)
    | 't' :: 'r' :: 'u' :: 'e' :: rest => some (bool true, rest)
    | 'f' :: 'a' :: 'l' :: 's' :: 'e' :: rest => some (bool false, rest)
    | '"' :: rest => (quoted? rest).map fun (text, rest) ↦ (string text, rest)
    | '[' :: rest =>
      match skipSpace rest with
      | ']' :: rest => some (array [], rest)
      | rest => (items? fuel rest).map fun (items, rest) ↦ (array items, rest)
    | '\x7b' :: rest =>
      match skipSpace rest with
      | '\x7d' :: rest => some (object [], rest)
      | rest => (membersFrom? fuel [] rest).map fun (members, rest) ↦ (object members, rest)
    | chars => number? chars

/-- The items of an array up to its closing bracket. -/
def items? : Nat → List Char → Option (List Json × List Char)
  | 0, _ => none
  | fuel + 1, chars =>
    match value? fuel chars with
    | none => none
    | some (item, rest) =>
      match skipSpace rest with
      | ',' :: rest => (items? fuel rest).map fun (items, rest) ↦ (item :: items, rest)
      | ']' :: rest => some ([item], rest)
      | _ => none

/-- The members of an object up to its closing brace, behind those in `seen`. -/
def membersFrom? : Nat → List (String × Json) → List Char →
    Option (List (String × Json) × List Char)
  | 0, _, _ => none
  | fuel + 1, seen, chars =>
    match skipSpace chars with
    | '"' :: rest =>
      match quoted? rest with
      | none => none
      | some (key, rest) =>
        match skipSpace rest with
        | ':' :: rest =>
          match value? fuel rest with
          | none => none
          | some (value, rest) =>
            match skipSpace rest with
            | ',' :: rest => membersFrom? fuel (Assoc.put key value seen) rest
            | '\x7d' :: rest => some (Assoc.put key value seen, rest)
            | _ => none
        | _ => none
    | _ => none

end

/-- The value that a text spells. -/
def parse? (text : String) : Option Json :=
  let chars := text.toList
  match value? (chars.length + 1) chars with
  | some (value, rest) => if (skipSpace rest).isEmpty then some value else none
  | none => none

end WebhookTrust.Json
