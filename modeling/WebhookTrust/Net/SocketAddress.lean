/-!
# Socket addresses

Where to listen: a network address of four octets or of eight groups of sixteen bits, and the number
of a service. Octets are written in decimal without leading zeros and separated by dots. Groups are
written in hexadecimal, separated by colons, in brackets; two colons stand for one or more groups of
zero, the last two groups may be written as four octets, and a scope may follow behind a percent
sign.
-/

namespace WebhookTrust.Net

/-- A network address. -/
inductive Address where
  | octets (a b c d : UInt8)
  | groups (all : List UInt16) (scope : UInt32)
deriving DecidableEq, Repr

/-- A network address, and the number of a service there. -/
structure SocketAddress where
  address : Address
  service : UInt16
deriving DecidableEq, Repr

namespace SocketAddress

/-! ### Numbers -/

/-- The value of a digit of a base, which is sixteen at most. -/
def digit? (base : Nat) (c : Char) : Option Nat :=
  let value? : Option Nat :=
    if '0' ≤ c ∧ c ≤ '9' then some (c.toNat - '0'.toNat)
    else if 'a' ≤ c ∧ c ≤ 'f' then some (c.toNat - 'a'.toNat + 10)
    else if 'A' ≤ c ∧ c ≤ 'F' then some (c.toNat - 'A'.toNat + 10)
    else none
  value?.filter (· < base)

/-- The digits at the front. -/
def digits (base : Nat) : List Char → List Nat × List Char
  | [] => ([], [])
  | c :: rest =>
    match digit? base c with
    | none => ([], c :: rest)
    | some d =>
      let (more, rest) := digits base rest
      (d :: more, rest)

/-- A number below a bound, whose digits are as `admits` says. -/
def number? (base bound : Nat) (admits : List Nat → Bool) (text : List Char) :
    Option (Nat × List Char) :=
  let (ds, rest) := digits base text
  let value := ds.foldl (fun value d ↦ value * base + d) 0
  if !ds.isEmpty && admits ds && value < bound then some (value, rest) else none

/-- Are there no leading zeros? -/
def isPlain (ds : List Nat) : Bool := ds.length = 1 || ds.head? ≠ some 0

/-- An octet. -/
def octet? (text : List Char) : Option (UInt8 × List Char) :=
  (number? 10 256 isPlain text).map fun (value, rest) ↦ (.ofNat value, rest)

/-- A group has four digits at most. -/
def group? (text : List Char) : Option (UInt16 × List Char) :=
  (number? 16 65536 (·.length ≤ 4) text).map fun (value, rest) ↦ (.ofNat value, rest)

/-- The text behind a mark at its front. -/
def behind? (mark : Char) : List Char → Option (List Char)
  | [] => none
  | c :: rest => if c = mark then some rest else none

/-! ### Addresses -/

/-- Four octets. -/
def quad? (text : List Char) : Option ((UInt8 × UInt8 × UInt8 × UInt8) × List Char) := do
  let (a, rest) ← octet? text
  let (b, rest) ← octet? (← behind? '.' rest)
  let (c, rest) ← octet? (← behind? '.' rest)
  let (d, rest) ← octet? (← behind? '.' rest)
  return ((a, b, c, d), rest)

/-- A group of two octets. -/
def join (high low : UInt8) : UInt16 := high.toUInt16 <<< 8 ||| low.toUInt16

/-- Two groups that are written as four octets. -/
def quadGroups? (text : List Char) : Option (List UInt16 × List Char) :=
  (quad? text).map fun ((a, b, c, d), rest) ↦ ([join a b, join c d], rest)

/-- What stands behind the colon that separates a group from the one before it. -/
def separated? (isFirst : Bool) (text : List Char) : Option (List Char) :=
  if isFirst then some text else behind? ':' text

/-- As many groups as there are, up to a number; the flag says whether they end in four octets. -/
def groups : Nat → Bool → List Char → List UInt16 × Bool × List Char
  | 0, _, text => ([], false, text)
  | room + 1, isFirst, text =>
    let next := separated? isFirst text
    match if room = 0 then none else next.bind quadGroups? with
    | some (two, rest) => (two, true, rest)
    | none =>
      match next.bind group? with
      | none => ([], false, text)
      | some (group, rest) =>
        let (more, isQuad, rest) := groups room false rest
        (group :: more, isQuad, rest)

/-- Eight groups. Four octets stand at the end only. -/
def eightGroups? (text : List Char) : Option (List UInt16 × List Char) :=
  match groups 8 true text with
  | (head, isQuad, rest) =>
    if head.length = 8 then some (head, rest)
    else if isQuad then none
    else do
      let rest ← behind? ':' (← behind? ':' rest)
      let (tail, _, rest) := groups (7 - head.length) true rest
      return (head ++ List.replicate (8 - head.length - tail.length) 0 ++ tail, rest)

/-! ### With a service -/

/-- A scope behind a percent sign; zero if there is none. -/
def scope (text : List Char) : UInt32 × List Char :=
  match (behind? '%' text).bind (number? 10 (Nat.pow 2 32) fun _ ↦ true) with
  | some (value, rest) => (.ofNat value, rest)
  | none => (0, text)

/-- The number of a service, which ends the text. -/
def service? (text : List Char) : Option UInt16 := do
  let (value, rest) ← number? 10 65536 (fun _ ↦ true) (← behind? ':' text)
  if rest.isEmpty then return .ofNat value else none

/-- The socket address with four octets that a text spells. -/
def ofOctets? (text : List Char) : Option SocketAddress := do
  let ((a, b, c, d), rest) ← quad? text
  return ⟨.octets a b c d, ← service? rest⟩

/-- The socket address with eight groups that a text spells. -/
def ofGroups? (text : List Char) : Option SocketAddress := do
  let (all, rest) ← eightGroups? (← behind? '[' text)
  let (scope, rest) := scope rest
  return ⟨.groups all scope, ← service? (← behind? ']' rest)⟩

/-- The socket address that a text spells. -/
def parse? (text : String) : Option SocketAddress :=
  (ofOctets? text.toList).or (ofGroups? text.toList)

end SocketAddress

end WebhookTrust.Net
