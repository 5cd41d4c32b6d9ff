import WebhookTrust.Bytes

/-!
# Object identifiers

An object identifier is kept as the contents octets of its encoding, and two are the same when those
octets are. The arcs are a view: the first octet holds the first two, every other arc is a number in
base 128.
-/

namespace WebhookTrust

/-- An object identifier, by the contents octets of its encoding. -/
structure Oid where
  contents : Bytes
deriving DecidableEq, Repr, Inhabited

namespace Oid

/-! ### Writing -/

/-- The base-128 digits of `n` with the continuation bit set, put in front of `tail`; `fuel` bounds
how many there are. -/
def continued : Nat → Nat → Bytes → Bytes
  | 0, _, tail => tail
  | fuel + 1, n, tail =>
    if n = 0 then tail else continued fuel (n / 128) (UInt8.ofNat (128 + n % 128) :: tail)

/-- An arc in base 128, with the continuation bit set on every octet but the last. -/
def arcOctets (n : Nat) : Bytes := continued n (n / 128) [UInt8.ofNat (n % 128)]

/-- The identifier with these arcs, of which there are at least two. -/
def ofArcs : List Nat → Oid
  | first :: second :: rest => ⟨arcOctets (first * 40 + second) ++ rest.flatMap arcOctets⟩
  | _ => ⟨[]⟩

/-! ### Reading -/

/-- The arcs in base 128. `acc` is the value of the arc that has been started, if one has; the last
arc counts even if no octet ends it. -/
def arcsFrom : Option Nat → Bytes → List Nat
  | none, [] => []
  | some acc, [] => [acc]
  | acc, b :: rest =>
    let value := acc.getD 0 * 128 + b.toNat % 128
    if b < 128 then value :: arcsFrom none rest else arcsFrom (some value) rest

/-- The arcs. The first octet holds two of them; alone and zero it holds one. -/
def arcs (oid : Oid) : List Nat :=
  match oid.contents with
  | [] => []
  | first :: rest =>
    if first = 0 ∧ rest = [] then [0]
    else first.toNat / 40 :: first.toNat % 40 :: arcsFrom none rest

/-- The arcs in decimal, separated by points. -/
def dotted (oid : Oid) : String := ".".intercalate (oid.arcs.map Nat.repr)

end Oid

end WebhookTrust
