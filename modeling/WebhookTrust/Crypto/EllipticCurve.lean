import WebhookTrust.Asn1.Der
import WebhookTrust.Crypto.Hash
import WebhookTrust.Crypto.Modular

/-!
# Signatures on elliptic curves

Two families. On a curve in short Weierstrass form, a signature is a pair of numbers and a digest is
cut to the length of the group order. On the twisted Edwards curve over the field of 2²⁵⁵ − 19, a
signature is a point and a number, and the message is hashed together with point and key.

Points are affine. The point at infinity of a Weierstrass curve is `none`; the Edwards curve has
none.
-/

namespace WebhookTrust

/-! ### Weierstrass curves -/

/-- A curve `y² = x³ - 3x + b` over a prime field, with a base point and its order; coordinates take
`size` bytes. -/
structure Curve where
  prime : Nat
  b : Nat
  base : Nat × Nat
  order : Nat
  size : Nat

namespace Curve

/-- The curve of 256 bits. -/
def p256 : Curve where
  prime := 0xFFFFFFFF00000001000000000000000000000000FFFFFFFFFFFFFFFFFFFFFFFF
  b := 0x5AC635D8AA3A93E7B3EBBD55769886BC651D06B0CC53B0F63BCE3C3E27D2604B
  base :=
    (0x6B17D1F2E12C4247F8BCE6E563A440F277037D812DEB33A0F4A13945D898C296,
      0x4FE342E2FE1A7F9B8EE7EB4A7C0F9E162BCE33576B315ECECBB6406837BF51F5)
  order := 0xFFFFFFFF00000000FFFFFFFFFFFFFFFFBCE6FAADA7179E84F3B9CAC2FC632551
  size := 32

/-- The curve of 384 bits. -/
def p384 : Curve where
  prime :=
    0xFFFFFFFFFFFFFFFFFFFFFFFFFFFFFFFFFFFFFFFFFFFFFFFFFFFFFFFFFFFFFFFEFFFFFFFF0000000000000000FFFFFFFF
  b :=
    0xB3312FA7E23EE7E4988E056BE3F82D19181D9C6EFE8141120314088F5013875AC656398D8A2ED19D2A85C8EDD3EC2AEF
  base :=
    (0xAA87CA22BE8B05378EB1C71EF320AD746E1D3B628BA79B9859F741E082542A385502F25DBF55296C3A545E3872760AB7,
      0x3617DE4A96262C6F5D9E98BF9292DC29F8F41DBD289A147CE9DA3113B5F0B8C00A60B1CE1D7E819D7A431D7C90EA0E5F)
  order :=
    0xFFFFFFFFFFFFFFFFFFFFFFFFFFFFFFFFFFFFFFFFFFFFFFFFC7634D81F4372DDF581A0DB248B0A77AECEC196ACCC52973
  size := 48

/-- A point; `none` is the one at infinity. -/
abbrev Point : Type := Option (Nat × Nat)

/-- The difference of two field elements. -/
def sub (m x y : Nat) : Nat := (x + (m - y % m)) % m

/-- The point on the line of slope `slope` through a point, reflected. -/
def third (curve : Curve) (slope : Nat) (p q : Nat × Nat) : Nat × Nat :=
  let x := sub curve.prime (sub curve.prime (slope * slope) p.1) q.1
  (x, sub curve.prime (slope * sub curve.prime p.1 x) p.2)

/-- The sum of two points. -/
def add (curve : Curve) : Point → Point → Point
  | none, q => q
  | p, none => p
  | some p, some q =>
    let m := curve.prime
    if p.1 = q.1 then
      if (p.2 + q.2) % m = 0 then none
      else
        (Modular.inverse? m (2 * p.2)).map fun inverse ↦
          curve.third (sub m (3 * p.1 * p.1) 3 * inverse % m) p q
    else
      (Modular.inverse? m (sub m q.1 p.1)).map fun inverse ↦
        curve.third (sub m q.2 p.2 * inverse % m) p q

/-- A multiple of a point, by doubling; `fuel` is at least the number of binary digits. -/
def multipleFrom (curve : Curve) : Nat → Nat → Point → Point
  | 0, _, _ => none
  | fuel + 1, k, p =>
    if k = 0 then none
    else
      let rest := multipleFrom curve fuel (k / 2) (curve.add p p)
      if k % 2 = 1 then curve.add p rest else rest

/-- The sum of `k` copies of a point. -/
def multiple (curve : Curve) (k : Nat) (p : Point) : Point :=
  curve.multipleFrom (Modular.bitLength k) k p

/-- Does the point satisfy the equation? -/
def contains (curve : Curve) (p : Nat × Nat) : Bool :=
  p.1 < curve.prime && p.2 < curve.prime &&
    p.2 * p.2 % curve.prime = sub curve.prime (p.1 * p.1 * p.1 + curve.b) (3 * p.1)

/-- A point in uncompressed form. -/
def point? (curve : Curve) : Bytes → Option (Nat × Nat)
  | [] => none
  | form :: coordinates =>
    let p := (Bytes.toNat (coordinates.take curve.size), Bytes.toNat (coordinates.drop curve.size))
    if form = 4 ∧ coordinates.length = 2 * curve.size ∧ curve.contains p then some p else none

/-- The two numbers of a signature, in canonical encoding and both in the range from one to below
the order. -/
def signature? (curve : Curve) (signature : Bytes) : Option (Nat × Nat) := do
  let (pair, rest) ← Der.Strict.contents? 0x30 signature
  let (r, pair) ← Der.Strict.natural? pair
  let (s, pair) ← Der.Strict.natural? pair
  if rest = [] ∧ pair = [] ∧ 0 < r ∧ r < curve.order ∧ 0 < s ∧ s < curve.order then some (r, s)
  else none

/-- Is it a signature, under the point `key`, of the message with this digest? A digest longer than
the order is cut. -/
def verify (curve : Curve) (key digest signature : Bytes) : Bool :=
  match curve.point? key, curve.signature? signature with
  | some q, some (r, s) =>
    let e := Bytes.toNat (digest.take curve.size)
    match Modular.inverse? curve.order s with
    | none => false
    | some w =>
      let n := curve.order
      let sum := curve.add (curve.multiple (e * w % n) (some curve.base))
        (curve.multiple (r * w % n) (some q))
      sum.any fun p ↦ p.1 % n = r
  | _, _ => false

end Curve

/-! ### The Edwards curve -/

namespace Edwards

/-- The size of the field. -/
def prime : Nat := Nat.pow 2 255 - 19

/-- The order of the base point. -/
def order : Nat := Nat.pow 2 252 + 27742317777372353535851937790883648493

/-- The coefficient `d` of the curve `-x² + y² = 1 + d x² y²`. -/
def coefficient : Nat :=
  37095705934669439343138083508754565189542113879843219016388785533085940283555

/-- The base point. -/
def base : Nat × Nat :=
  (15112221349535400772501151409588531511454012693041857206046113283949847762202,
    46316835694926478169428394003475163141307993866256225615783033603165251855960)

/-- The quotient of two field elements; the divisor is not zero. -/
def divide (x y : Nat) : Nat := x * (Modular.inverse? prime y).getD 0 % prime

/-- The sum of two points. -/
def add (p q : Nat × Nat) : Nat × Nat :=
  let t := coefficient * (p.1 * q.1 % prime) % prime * (p.2 * q.2 % prime) % prime
  (divide ((p.1 * q.2 + p.2 * q.1) % prime) (1 + t),
    divide ((p.2 * q.2 + p.1 * q.1) % prime) (1 + (prime - t)))

/-- A multiple of a point, by doubling; `fuel` is at least the number of binary digits. -/
def multipleFrom : Nat → Nat → Nat × Nat → Nat × Nat
  | 0, _, _ => (0, 1)
  | fuel + 1, k, p =>
    if k = 0 then (0, 1)
    else
      let rest := multipleFrom fuel (k / 2) (add p p)
      if k % 2 = 1 then add p rest else rest

/-- The sum of `k` copies of a point. -/
def multiple (k : Nat) (p : Nat × Nat) : Nat × Nat := multipleFrom (Modular.bitLength k) k p

/-- A square root in the field, if there is one. -/
def root? (square : Nat) : Option Nat :=
  let candidate := Modular.pow prime square ((prime + 3) / 8)
  let other := candidate * Modular.pow prime 2 ((prime - 1) / 4) % prime
  [candidate, other].find? fun x ↦ x * x % prime = square % prime

/-- The point that 32 bytes name: its second coordinate, least significant byte first, and the
parity of the first in the highest bit. -/
def point? (bytes : Bytes) : Option (Nat × Nat) := do
  if bytes.length ≠ 32 then none
  else
    let n := Bytes.toNat bytes.reverse
    let y := n % Nat.pow 2 255 % prime
    let x ← root? (divide ((y * y + (prime - 1)) % prime) (coefficient * (y * y % prime) + 1))
    return (if x % 2 = n / Nat.pow 2 255 then x else (prime - x) % prime, y)

/-- The 32 bytes that name a point. -/
def pointBytes (p : Nat × Nat) : Bytes :=
  (Bytes.ofNatPadded 32 (p.2 + p.1 % 2 * Nat.pow 2 255)).reverse

/-- Is it a signature of the message under the key? -/
def verify (key message signature : Bytes) : Bool :=
  let commitment := signature.take 32
  let s := Bytes.toNat (signature.drop 32).reverse
  match point? key with
  | none => false
  | some a =>
    let k := Bytes.toNat (Hash.sha512 (commitment ++ key ++ message)).reverse % order
    let minus := ((prime - a.1) % prime, a.2)
    signature.length = 64 && s < order &&
      pointBytes (add (multiple s base) (multiple k minus)) = commitment

end Edwards

end WebhookTrust
