import WebhookTrust.Assoc

/-!
# JSON values

A number is kept as the text it was written with, so that values carried through come out as they
went in. The members of an object are a map in the order of insertion.
-/

namespace WebhookTrust

/-- A JSON value. -/
inductive Json where
  | null
  | bool (value : Bool)
  | number (literal : String)
  | string (text : String)
  | array (items : List Json)
  | object (members : List (String × Json))
deriving Repr, Inhabited

namespace Json

/-! ### Equality -/

mutual

/-- Are the values the same? -/
def same : Json → Json → Bool
  | null, null => true
  | bool a, bool b => a = b
  | number a, number b => a = b
  | string a, string b => a = b
  | array xs, array ys => sameItems xs ys
  | object xs, object ys => sameMembers xs ys
  | _, _ => false

/-- Are the lists of values the same? -/
def sameItems : List Json → List Json → Bool
  | [], [] => true
  | x :: xs, y :: ys => same x y && sameItems xs ys
  | _, _ => false

/-- Are the lists of members the same? -/
def sameMembers : List (String × Json) → List (String × Json) → Bool
  | [], [] => true
  | (k, x) :: xs, (l, y) :: ys => k = l && same x y && sameMembers xs ys
  | _, _ => false

end

mutual

theorem same_iff : ∀ a b : Json, same a b = true ↔ a = b
  | null, b => by cases b <;> simp [same]
  | bool _, b => by cases b <;> simp [same]
  | number _, b => by cases b <;> simp [same]
  | string _, b => by cases b <;> simp [same]
  | array xs, b => by cases b <;> simp [same, sameItems_iff xs]
  | object xs, b => by cases b <;> simp [same, sameMembers_iff xs]

theorem sameItems_iff : ∀ xs ys : List Json, sameItems xs ys = true ↔ xs = ys
  | [], ys => by cases ys <;> simp [sameItems]
  | x :: xs, ys => by cases ys <;> simp [sameItems, same_iff x, sameItems_iff xs]

theorem sameMembers_iff : ∀ xs ys : List (String × Json), sameMembers xs ys = true ↔ xs = ys
  | [], ys => by cases ys <;> simp [sameMembers]
  | (k, x) :: xs, ys => by
    cases ys <;> simp [sameMembers, same_iff x, sameMembers_iff xs, Prod.ext_iff]

end

instance : DecidableEq Json := fun a b ↦ decidable_of_iff _ (same_iff a b)

/-! ### Members of objects -/

/-- The value of a key, if the value is an object and has it. -/
def get? (json : Json) (key : String) : Option Json :=
  match json with
  | object members => Assoc.get? key members
  | _ => none

/-- The object with the value of a key set; any other value is left alone. -/
def put (json : Json) (key : String) (value : Json) : Json :=
  match json with
  | object members => object (Assoc.put key value members)
  | other => other

/-- The object with those of the members that have a value. -/
def ofOptions (members : List (String × Option Json)) : Json :=
  object (members.filterMap fun (key, value) ↦ value.map (key, ·))

/-! ### Views -/

/-- The text of a string. -/
def string? : Json → Option String
  | string text => some text
  | _ => none

/-- The items of an array. -/
def array? : Json → Option (List Json)
  | array items => some items
  | _ => none

/-- The members of an object. -/
def members? : Json → Option (List (String × Json))
  | object members => some members
  | _ => none

/-- The truth value of a boolean. -/
def bool? : Json → Option Bool
  | bool value => some value
  | _ => none

/-- The natural number that decimal digits spell. -/
def natOfDigits? (digits : List Char) : Option Nat :=
  if digits.isEmpty then none
  else digits.foldlM (fun acc c ↦
    if c.isDigit then some (acc * 10 + (c.toNat - '0'.toNat)) else none) 0

/-- The integer that a number without fraction and exponent spells. -/
def int? : Json → Option Int
  | number literal =>
    match literal.toList with
    | '-' :: digits => (natOfDigits? digits).map fun n ↦ -(n : Int)
    | digits => (natOfDigits? digits).map fun n ↦ (n : Int)
  | _ => none

/-- The natural number that a number without sign, fraction and exponent spells. -/
def nat? (json : Json) : Option Nat := json.int?.bind fun n ↦ if 0 ≤ n then some n.toNat else none

/-- The exponent that the end of a number spells; it may be missing. -/
def powerOfTen? : List Char → Option Int
  | [] => some 0
  | mark :: rest =>
    if mark = 'e' ∨ mark = 'E' then
      match rest with
      | '+' :: digits => (natOfDigits? digits).map fun n ↦ (n : Int)
      | '-' :: digits => (natOfDigits? digits).map fun n ↦ -(n : Int)
      | digits => (natOfDigits? digits).map fun n ↦ (n : Int)
    else none

/-- The value of a number without sign. -/
def magnitude? (chars : List Char) : Option Rat := do
  let whole := chars.takeWhile Char.isDigit
  let (fraction, rest) :=
    match chars.dropWhile Char.isDigit with
    | '.' :: rest => (rest.takeWhile Char.isDigit, rest.dropWhile Char.isDigit)
    | rest => ([], rest)
  let digits ← natOfDigits? (whole ++ fraction)
  let exponent := (← powerOfTen? rest) - fraction.length
  if 0 ≤ exponent then return (digits : Rat) * (10 : Rat) ^ exponent.toNat
  else return (digits : Rat) / (10 : Rat) ^ exponent.natAbs

/-- The exact value of a number. -/
def rat? : Json → Option Rat
  | number literal =>
    match literal.toList with
    | '-' :: rest => (magnitude? rest).map fun q ↦ -q
    | chars => magnitude? chars
  | _ => none

/-- The number of an integer. -/
def ofInt (n : Int) : Json :=
  number (if n < 0 then "-" ++ Nat.repr n.natAbs else Nat.repr n.natAbs)

/-- The number of a natural number. -/
def ofNat (n : Nat) : Json := number (Nat.repr n)

/-- The value with every null member and missing value as `none`. -/
def nonNull : Option Json → Option Json
  | some null => none
  | value => value

/-- The value of a key that is there and not null. -/
def field? (json : Json) (key : String) : Option Json := nonNull (json.get? key)

end Json

end WebhookTrust
