/-!
# Modular arithmetic

Powers and inverses modulo a number. Both recursions are bounded by the number of binary digits of
an argument.
-/

namespace WebhookTrust.Modular

/-- How many binary digits a number has; zero has none. -/
def bitLength (n : Nat) : Nat := if n = 0 then 0 else Nat.log2 n + 1

/-- The power `base ^ exponent` modulo `modulus` by repeated squaring; `fuel` is at least the number
of binary digits of the exponent. -/
def powFrom (modulus : Nat) : Nat → Nat → Nat → Nat
  | 0, _, _ => 1 % modulus
  | fuel + 1, base, exponent =>
    if exponent = 0 then 1 % modulus
    else
      let rest := powFrom modulus fuel (base * base % modulus) (exponent / 2)
      if exponent % 2 = 1 then base * rest % modulus else rest

/-- The power `base ^ exponent` modulo `modulus`. -/
def pow (modulus base exponent : Nat) : Nat :=
  powFrom modulus (bitLength exponent) (base % modulus) exponent

/-- Euclid's algorithm on the remainders `r` and `s`, which are the products of the number in
question with `u` and `v` modulo `modulus`. -/
def inverseFrom (modulus : Nat) : Nat → Nat → Nat → Nat → Nat → Option Nat
  | 0, _, _, _, _ => none
  | fuel + 1, r, u, s, v =>
    if s = 0 then (if r = 1 then some (u % modulus) else none)
    else
      let q := r / s
      inverseFrom modulus fuel s v (r - q * s) ((u + (modulus - q % modulus) * v) % modulus)

/-- The number whose product with `n` is one modulo `modulus`, if there is one. -/
def inverse? (modulus n : Nat) : Option Nat :=
  inverseFrom modulus (2 * bitLength modulus + 4) modulus 0 (n % modulus) 1

/-- Does Miller and Rabin's test to the base `base` leave the odd number `n` a possible prime? The
exponent is `n - 1 = odd * 2 ^ twos`. -/
def passesBase (n twos odd base : Nat) : Bool :=
  let start := pow n base odd
  start = 1 || start = n - 1 ||
    ((List.range (twos - 1)).foldl
      (fun (state : Nat × Bool) _ ↦
        let next := state.1 * state.1 % n
        (next, state.2 || next = n - 1))
      (start, false)).2

/-- Takes the twos out of a number; `fuel` bounds how many there are. -/
def withoutTwos : Nat → Nat → Nat × Nat
  | 0, n => (0, n)
  | fuel + 1, n =>
    if n % 2 = 1 then (0, n)
    else let (twos, odd) := withoutTwos fuel (n / 2); (twos + 1, odd)

/-- The product of the odd primes below a thousand, which rules out most composite numbers at the
price of one greatest common divisor. -/
def smallPrimes : Nat :=
  ((List.range 1000).filter fun n ↦ 2 < n && (List.range n).all fun d ↦ d < 2 || n % d ≠ 0).foldl
    (· * ·) 1

/-- Is the odd number, which is greater than a thousand, prime as far as twelve bases can tell? -/
def isProbablePrime (n : Nat) : Bool :=
  if Nat.gcd n smallPrimes ≠ 1 then false
  else
    let (twos, odd) := withoutTwos (bitLength n) (n - 1)
    [2, 3, 5, 7, 11, 13, 17, 19, 23, 29, 31, 37].all (passesBase n twos odd)

/-- The first probable prime among `fuel` numbers from the odd number `n` on in steps of two. -/
def primeFrom? : Nat → Nat → Option Nat
  | 0, _ => none
  | fuel + 1, n => if isProbablePrime n then some n else primeFrom? fuel (n + 2)

end WebhookTrust.Modular
