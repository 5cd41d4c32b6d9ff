import Mathlib.FieldTheory.Finite.Basic
import Mathlib.NumberTheory.LucasPrimality
import WebhookTrust.Pki.PrivateKey
import WebhookTrust.Proofs.Der

/-!
# RSA signatures verify

A signature that is made with a key of two different primes verifies under the key's public half,
whatever the message (`Rsa.verify_sign`). The modular power that both directions compute is the
power that it is named for (`Modular.pow_eq`), raising to both exponents gives the number back by
Fermat's theorem for either prime, and the frame is a number below the modulus since it starts with
a zero.

The theorem is then applied to a key of 2048 bits (`Rsa.verify_sign_pierpont`), whose primes are one
more than products of small primes and are certified by Lucas's test.
-/

namespace WebhookTrust

/-! ### Modular powers -/

namespace Modular

theorem lt_pow_bitLength (n : Nat) : n < 2 ^ bitLength n := by
  rw [bitLength]
  split_ifs with hzero
  · simp [hzero]
  · exact Nat.lt_log2_self

/-- Squaring so many times is enough for exponents of so many digits. -/
theorem powFrom_eq (modulus fuel base exponent : Nat) (h : exponent < 2 ^ fuel) :
    powFrom modulus fuel base exponent = base ^ exponent % modulus := by
  induction fuel generalizing base exponent with
  | zero =>
    obtain rfl : exponent = 0 := by simpa using h
    rfl
  | succ fuel ih =>
    have hhalf : exponent / 2 < 2 ^ fuel := by
      rw [pow_succ] at h
      omega
    have hsquare : (base * base % modulus) ^ (exponent / 2) % modulus =
        base ^ (2 * (exponent / 2)) % modulus := by
      rw [← Nat.pow_mod, pow_mul, sq]
    have hparity := Nat.div_add_mod exponent 2
    simp only [powFrom, ih _ _ hhalf, hsquare]
    split_ifs with hzero hodd
    · rw [hzero, pow_zero]
    · rw [hodd] at hparity
      rw [Nat.mul_mod_mod, ← pow_succ', hparity]
    · rw [show exponent % 2 = 0 by omega] at hparity
      rw [← hparity, Nat.add_zero]
      congr 3
      omega

/-- **Repeated squaring computes the power.** -/
theorem pow_eq (modulus base exponent : Nat) :
    pow modulus base exponent = base ^ exponent % modulus := by
  rw [pow, powFrom_eq _ _ _ _ (lt_pow_bitLength exponent), ← Nat.pow_mod]

end Modular

/-! ### Digests -/

namespace Hash

/-- The state of a digest has eight words. -/
theorem length_sha256Round {state : List UInt32} (h : state.length = 8) (entry : UInt32) :
    (sha256Round state entry).length = 8 := by
  obtain ⟨a, b, c, d, e, f, g, i, rfl⟩ : ∃ a b c d e f g i, state = [a, b, c, d, e, f, g, i] := by
    match state, h with
    | [a, b, c, d, e, f, g, i], _ => exact ⟨a, b, c, d, e, f, g, i, rfl⟩
  rfl

theorem length_foldl {α : Type} {f : List UInt32 → α → List UInt32}
    (hf : ∀ state item, state.length = 8 → (f state item).length = 8) (items : List α)
    {state : List UInt32} (h : state.length = 8) : (items.foldl f state).length = 8 := by
  induction items generalizing state with
  | nil => exact h
  | cons item items ih => exact ih (hf state item h)

theorem length_bytes32 (words : List UInt32) : (bytes32 words).length = 4 * words.length := by
  induction words with
  | nil => rfl
  | cons w words ih =>
    rw [bytes32, List.flatMap_cons, List.length_append, ← bytes32, ih, Bytes.length_ofNatPadded,
      List.length_cons]
    omega

/-- A SHA-256 digest has 32 bytes. -/
theorem length_sha256 (message : Bytes) : (sha256 message).length = 32 := by
  rw [sha256, length_bytes32, length_foldl]
  · intro state block hstate
    have hmixed := length_foldl (fun state entry h ↦ length_sha256Round h entry)
      (add32 (extend sha256Next 48 (words32 block)) constants256) hstate
    rw [add32, List.length_zipWith, hstate, hmixed]
    rfl
  · rfl

end Hash

/-! ### Keys -/

namespace Rsa

namespace PrivateKey

variable {key : PrivateKey}

/-- What the numbers of a consistent key have to do with each other. -/
theorem isConsistent_iff : key.isConsistent = true ↔
    Modular.bitLength key.modulus ≤ maxBits ∧ key.modulus % 2 = 1 ∧
      key.publicExponent < key.modulus ∧ key.publicExponent % 2 = 1 ∧ 2 ≤ key.publicExponent ∧
      key.publicExponent < Nat.pow 2 33 ∧ 1 < key.prime1 ∧ 1 < key.prime2 ∧
      key.prime1 * key.prime2 = key.modulus ∧
      key.privateExponent * key.publicExponent % (key.prime1 - 1) = 1 % (key.prime1 - 1) ∧
      key.privateExponent * key.publicExponent % (key.prime2 - 1) = 1 % (key.prime2 - 1) := by
  simp only [isConsistent, Bool.and_eq_true, decide_eq_true_eq, and_assoc]

end PrivateKey

/-- Raising to an exponent that is one modulo `p - 1` changes nothing modulo the prime `p`. -/
theorem pow_modEq_self {p exponent : Nat} (hp : p.Prime) (htwo : p ≠ 2)
    (hexponent : exponent % (p - 1) = 1 % (p - 1)) (x : Nat) : x ^ exponent ≡ x [MOD p] := by
  have hlarge : 2 < p := lt_of_le_of_ne hp.two_le (Ne.symm htwo)
  have hone : exponent % (p - 1) = 1 := by
    rw [hexponent]
    exact Nat.mod_eq_of_lt (by omega)
  have hsplit : exponent = (p - 1) * (exponent / (p - 1)) + 1 := by
    have hdivision := Nat.div_add_mod exponent (p - 1)
    rw [hone] at hdivision
    exact hdivision.symm
  have : Fact p.Prime := ⟨hp⟩
  rw [← ZMod.natCast_eq_natCast_iff, Nat.cast_pow, hsplit, pow_succ, pow_mul]
  by_cases hx : (x : ZMod p) = 0
  · rw [hx, mul_zero]
  · rw [ZMod.pow_card_sub_one_eq_one hx, one_pow, one_mul]

/-- **Raising to both exponents changes nothing modulo the modulus.** -/
theorem pow_pow_mod {key : PrivateKey} (hkey : key.isConsistent = true) (hp : key.prime1.Prime)
    (hq : key.prime2.Prime) (hne : key.prime1 ≠ key.prime2) {x : Nat} (hx : x < key.modulus) :
    (x ^ key.privateExponent) ^ key.publicExponent % key.modulus = x := by
  obtain ⟨-, hodd, -, -, -, -, -, -, hproduct, hfirst, hsecond⟩ :=
    PrivateKey.isConsistent_iff.1 hkey
  have hoddp : key.prime1 ≠ 2 := by
    intro htwo
    rw [← hproduct, htwo] at hodd
    omega
  have hoddq : key.prime2 ≠ 2 := by
    intro htwo
    rw [← hproduct, htwo] at hodd
    omega
  have hcoprime : Nat.Coprime key.prime1 key.prime2 := (Nat.coprime_primes hp hq).2 hne
  have hboth : x ^ (key.privateExponent * key.publicExponent) ≡ x
      [MOD key.prime1 * key.prime2] :=
    (Nat.modEq_and_modEq_iff_modEq_mul hcoprime).1
      ⟨pow_modEq_self hp hoddp hfirst x, pow_modEq_self hq hoddq hsecond x⟩
  rw [hproduct] at hboth
  rw [← pow_mul, hboth, Nat.mod_eq_of_lt hx]

/-! ### Frames -/

/-- The digest in a frame, with the name of its hash function. -/
theorem length_info (message : Bytes) :
    (Der.sequence [Der.sequence [Der.oid (Digest.oid .sha256), Der.null],
      Der.octetString (Digest.of .sha256 message)]).length = 51 := by
  have hdigest : (Digest.of .sha256 message).length = 32 := Hash.length_sha256 message
  have hname : (Der.sequence [Der.oid (Digest.oid .sha256), Der.null]).length = 15 := by
    decide +kernel
  have hoctets : (Der.octetString (Digest.of .sha256 message)).length = 34 := by
    rw [Der.octetString, Der.encode, hdigest, List.length_append, hdigest]
    rfl
  have hcontents : [Der.sequence [Der.oid (Digest.oid .sha256), Der.null],
      Der.octetString (Digest.of .sha256 message)].flatten.length = 49 := by
    simp only [List.flatten_cons, List.flatten_nil, List.length_append, hname, hoctets,
      List.length_nil]
  rw [Der.sequence, Der.encode, hcontents, List.length_append, hcontents]
  rfl

theorem length_frame {size : Nat} (h : 54 ≤ size) (message : Bytes) :
    (frame .sha256 size message).length = size := by
  have hinfo := length_info message
  simp only [frame, List.length_append, List.length_cons, List.length_replicate, hinfo]
  omega

/-- A frame is a number of fewer digits than the modulus. -/
theorem toNat_frame_lt {size : Nat} (h : 54 ≤ size) (message : Bytes) :
    Bytes.toNat (frame .sha256 size message) < 256 ^ (size - 1) := by
  have hlength := length_frame h message
  obtain ⟨tail, htail⟩ : ∃ tail, frame .sha256 size message = 0 :: tail := ⟨_, rfl⟩
  rw [htail, List.length_cons] at hlength
  have hlt := Bytes.toNat_lt tail
  rw [htail, Bytes.toNat_cons]
  rw [show tail.length = size - 1 by omega] at hlt ⊢
  simpa using hlt

/-- The modulus has as many bytes as it is said to have. -/
theorem pow_size_le (key : PublicKey) (h : 0 < key.size) : 256 ^ (key.size - 1) ≤ key.modulus := by
  by_contra hlt
  have hle : Bytes.byteLength key.modulus ≤ key.size - 1 :=
    Bytes.byteLength_le_iff.2 (not_le.1 hlt)
  have heq : Bytes.byteLength key.modulus = key.size := rfl
  omega

/-! ### Signatures -/

/-- **A signature verifies under the public half of the key that made it.** -/
theorem verify_sign {key : PrivateKey} (hkey : key.isConsistent = true) (hp : key.prime1.Prime)
    (hq : key.prime2.Prime) (hne : key.prime1 ≠ key.prime2) (hsize : 54 ≤ key.publicKey.size)
    (message : Bytes) :
    verify .sha256 key.publicKey message (sign .sha256 key message) = true := by
  have hframe : Bytes.toNat (frame .sha256 key.publicKey.size message) < key.modulus :=
    lt_of_lt_of_le (toNat_frame_lt hsize message)
      (pow_size_le key.publicKey (by omega))
  have hpos : 0 < key.modulus := lt_of_le_of_lt (Nat.zero_le _) hframe
  have hwidth : key.modulus < 256 ^ key.publicKey.size := Bytes.lt_pow_byteLength key.modulus
  have hsignature : Bytes.toNat (sign .sha256 key message) =
      Bytes.toNat (frame .sha256 key.publicKey.size message) ^ key.privateExponent %
        key.modulus := by
    rw [sign, Modular.pow_eq, Bytes.toNat_ofNatPadded_of_lt]
    exact (Nat.mod_lt _ hpos).trans hwidth
  have hrange : (sign .sha256 key message).length = key.publicKey.size ∧
      Bytes.toNat (sign .sha256 key message) < key.publicKey.modulus := by
    refine ⟨Bytes.length_ofNatPadded .., ?_⟩
    rw [hsignature]
    exact Nat.mod_lt _ hpos
  -- raising to both exponents is the identity below the modulus
  have hback : Modular.pow key.publicKey.modulus (Bytes.toNat (sign .sha256 key message))
      key.publicKey.exponent = Bytes.toNat (frame .sha256 key.publicKey.size message) := by
    rw [Modular.pow_eq, hsignature]
    exact (Nat.pow_mod _ _ _).symm.trans (pow_pow_mod hkey hp hq hne hframe)
  have hbytes := Bytes.ofNatPadded_toNat (frame .sha256 key.publicKey.size message)
  rw [length_frame hsize] at hbytes
  rw [verify, recover?, if_pos hrange, hback, hbytes, decide_eq_true_eq]

/-! ### A key of 2048 bits -/

/-- A number whose predecessor has no prime factors but two, three and five. -/
def pierpont (twos threes fives : Nat) : Nat := 2 ^ twos * 3 ^ threes * 5 ^ fives + 1

/-- **Lucas's test for such a number**, with the witness seven. -/
theorem prime_pierpont {twos threes fives : Nat} (hlarge : 1 < pierpont twos threes fives)
    (hone : Modular.pow (pierpont twos threes fives) 7 (pierpont twos threes fives - 1) = 1)
    (hne : ∀ q ∈ [2, 3, 5], Modular.pow (pierpont twos threes fives) 7
      ((pierpont twos threes fives - 1) / q) ≠ 1) : (pierpont twos threes fives).Prime := by
  have hpower : ∀ exponent, ((7 : Nat) : ZMod (pierpont twos threes fives)) ^ exponent = 1 ↔
      Modular.pow (pierpont twos threes fives) 7 exponent = 1 := by
    intro exponent
    rw [Modular.pow_eq, ← Nat.cast_pow, ← Nat.cast_one, ZMod.natCast_eq_natCast_iff',
      Nat.mod_eq_of_lt hlarge]
  refine lucas_primality _ ((7 : Nat) : ZMod (pierpont twos threes fives)) ((hpower _).2 hone) ?_
  intro q hq hdvd
  have hfactor : q ∣ 2 ^ twos * 3 ^ threes * 5 ^ fives := hdvd
  have hmem : q ∈ [2, 3, 5] := by
    have hbase : ∀ {r exponent : Nat}, r.Prime → q ∣ r ^ exponent → q = r :=
      fun hr hpow ↦ (Nat.prime_dvd_prime_iff_eq hq hr).1 (hq.dvd_of_dvd_pow hpow)
    rcases (hq.dvd_mul).1 hfactor with hleft | hfive
    · rcases (hq.dvd_mul).1 hleft with htwo | hthree
      · simp [hbase Nat.prime_two htwo]
      · simp [hbase Nat.prime_three hthree]
    · simp [hbase Nat.prime_five hfive]
  exact fun heq ↦ hne q hmem ((hpower _).1 heq)

/-- A key of two such primes. The private exponent is the inverse of the public one modulo the least
common multiple of their predecessors. -/
def pierpontKey : PrivateKey where
  modulus := pierpont 832 118 2 * pierpont 653 231 2
  publicExponent := standardExponent
  privateExponent := (57060 * (2 ^ 832 * 3 ^ 231 * 5 ^ 2) + 1) / standardExponent
  prime1 := pierpont 832 118 2
  prime2 := pierpont 653 231 2

theorem isConsistent_pierpontKey : pierpontKey.isConsistent = true := by decide +kernel

theorem canSign_pierpontKey : pierpontKey.canSign = true := by decide +kernel

/-- What the key signs verifies. -/
theorem verify_sign_pierpont (message : Bytes) :
    verify .sha256 pierpontKey.publicKey message (sign .sha256 pierpontKey message) = true :=
  verify_sign isConsistent_pierpontKey
    (prime_pierpont (by decide +kernel) (by decide +kernel) (by decide +kernel))
    (prime_pierpont (by decide +kernel) (by decide +kernel) (by decide +kernel))
    (by decide +kernel) (by decide +kernel) message

end Rsa

end WebhookTrust
