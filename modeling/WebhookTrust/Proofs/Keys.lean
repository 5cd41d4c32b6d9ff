import WebhookTrust.Pki.Validation
import WebhookTrust.Proofs.Certificate
import WebhookTrust.Proofs.Rsa

/-!
# Keys read back as written

A private key that may sign is written as nine numbers and read back as the same key. Its public
half is read back from a certificate, by the lenient reader that compares it with the private key
and by the canonical one that verification uses.

## The theorems, and what each rests on

* `Rsa.PrivateKey.ofPkcs1?_toPkcs1`: **a private key that may sign is read back as written.** None
  of the nine numbers is greater than the modulus (`Rsa.PrivateKey.numbers_le`), so the octets are
  few enough to be read canonically.
* `Validation.ensureKeyMatches_iff_toNat`: **key matching is equality of numbers.** The comparison
  is of octets, without the zeros that they begin with, but what it decides is whether the numbers
  are equal (`Bytes.stripLeadingZeros_eq_ofNatNonempty_iff`).
* `Signature.rsaKey?_eq`: **both readers of a public key see the same numbers**, wherever the
  canonical one succeeds. This is what ties the key that a stored certificate is verified with to
  the private key that is stored beside it.
* `Signature.rsaKey?_of_verify`: **a public key that verified anything is read canonically as the
  public half of the private key that it matches**, if that key may sign: no other kind of key has
  bits that long which start so.

Keys are numbers here. How they are drawn is left to a generator, and what that promises is
`Rsa.PrivateKey.IsFit`.
-/

namespace WebhookTrust

/-! ### Bounds -/

namespace Rsa.PrivateKey

variable {key : PrivateKey}

/-- What is asked of a key that may sign. -/
theorem canSign_iff : key.canSign = true ↔
    2048 ≤ 8 * Bytes.byteLength key.modulus ∧ Modular.bitLength key.modulus ≤ maxBits ∧
      standardExponent ≤ key.publicExponent ∧
      Modular.bitLength key.prime1 = (Modular.bitLength key.modulus + 1) / 2 ∧
      Modular.bitLength key.prime2 = (Modular.bitLength key.modulus + 1) / 2 ∧
      (Modular.bitLength key.modulus + 1) / 2 % 512 = 0 ∧
      (Modular.bitLength key.modulus + 1) / 2 < Modular.bitLength key.privateExponent ∧
      key.privateExponent < key.modulus := by
  simp only [canSign, Bool.and_eq_true, decide_eq_true_eq, and_assoc]

/-- The bytes of a number are eight times fewer than its binary digits. -/
theorem byteLength_le_of_bitLength {n width : Nat} (h : Modular.bitLength n ≤ 8 * width) :
    Bytes.byteLength n ≤ width := by
  rw [Modular.bitLength] at h
  rw [Bytes.byteLength]
  split_ifs at h ⊢ <;> omega

theorem byteLength_mono {m n : Nat} (h : m ≤ n) : Bytes.byteLength m ≤ Bytes.byteLength n :=
  Bytes.byteLength_le_iff.2 (lt_of_le_of_lt h (Bytes.lt_pow_byteLength n))

theorem byteLength_modulus_le (hkey : key.isConsistent = true) :
    Bytes.byteLength key.modulus ≤ 512 :=
  byteLength_le_of_bitLength (isConsistent_iff.1 hkey).1

/-- An inverse is below the modulus. -/
theorem inverseFrom_lt {modulus fuel r u s v n : Nat} (hmodulus : 0 < modulus)
    (h : Modular.inverseFrom modulus fuel r u s v = some n) : n < modulus := by
  induction fuel generalizing r u s v with
  | zero => simp [Modular.inverseFrom] at h
  | succ fuel ih =>
    rw [Modular.inverseFrom] at h
    split_ifs at h
    · obtain rfl := Option.some.inj h
      exact Nat.mod_lt _ hmodulus
    · exact ih h

/-- The numbers that a key is written as. -/
def numbers (key : PrivateKey) : List Nat :=
  [0, key.modulus, key.publicExponent, key.privateExponent, key.prime1, key.prime2,
    key.privateExponent % (key.prime1 - 1), key.privateExponent % (key.prime2 - 1),
    (Modular.inverse? key.prime1 key.prime2).getD 0]

/-- None of the numbers is greater than the modulus. -/
theorem numbers_le (hkey : key.isConsistent = true) (hsign : key.canSign = true) :
    ∀ n ∈ key.numbers, n ≤ key.modulus := by
  obtain ⟨-, -, hexponent, -, -, -, hp, hq, hproduct, -, -⟩ := isConsistent_iff.1 hkey
  obtain ⟨-, -, -, -, -, -, -, hprivate⟩ := canSign_iff.1 hsign
  have hfirst : key.prime1 ≤ key.modulus := by
    rw [← hproduct]
    exact Nat.le_mul_of_pos_right _ (by omega)
  have hsecond : key.prime2 ≤ key.modulus := by
    rw [← hproduct]
    exact Nat.le_mul_of_pos_left _ (by omega)
  have hinverse : (Modular.inverse? key.prime1 key.prime2).getD 0 ≤ key.modulus := by
    cases hcase : Modular.inverse? key.prime1 key.prime2 with
    | none => exact Nat.zero_le _
    | some n =>
      have hlt := inverseFrom_lt (by omega : 0 < key.prime1) hcase
      exact hlt.le.trans hfirst
  have hmod : ∀ n, key.privateExponent % n ≤ key.modulus := fun n ↦
    (Nat.mod_le _ _).trans hprivate.le
  simp only [numbers, List.forall_mem_cons]
  exact ⟨Nat.zero_le _, le_rfl, hexponent.le, hprivate.le, hfirst, hsecond, hmod _, hmod _,
    hinverse, by simp⟩

/-! ### Private keys -/

/-- Numbers that are written one after another are read canonically. -/
theorem naturals?_flatMap {ns : List Nat} (h : ∀ n ∈ ns, Bytes.byteLength n + 1 < Nat.pow 2 32)
    (rest : Bytes) :
    naturals? ns.length (ns.flatMap Der.natural ++ rest) = some (ns, rest) := by
  induction ns with
  | nil => rfl
  | cons n ns ih =>
    rw [List.forall_mem_cons] at h
    rw [List.length_cons, List.flatMap_cons, List.append_assoc]
    refine Option.bind_eq_some_iff.2 ⟨_, Der.Strict.natural?_natural h.1 _, ?_⟩
    exact Option.bind_eq_some_iff.2 ⟨_, ih h.2, rfl⟩

/-- Numbers of at most `width` bytes each take a bounded number of octets. -/
theorem length_flatMap_natural_le {ns : List Nat} {width : Nat} (hwidth : width + 1 < Nat.pow 2 64)
    (h : ∀ n ∈ ns, Bytes.byteLength n ≤ width) :
    (ns.flatMap Der.natural).length ≤ ns.length * (width + 11) := by
  induction ns with
  | nil => simp
  | cons n ns ih =>
    rw [List.forall_mem_cons] at h
    have hoctets := Der.length_naturalOctets_le n
    have hhead : (Der.natural n).length ≤ (Der.naturalOctets n).length + 10 :=
      Der.length_encode_le 0x02 (by omega)
    have htail := ih h.2
    rw [List.flatMap_cons, List.length_append, List.length_cons, Nat.add_mul]
    omega

/-- **A private key that may sign is read back as written.** -/
theorem ofPkcs1?_toPkcs1 (hkey : key.isConsistent = true) (hsign : key.canSign = true) :
    ofPkcs1? key.toPkcs1 = some key := by
  have hbytes : ∀ n ∈ key.numbers, Bytes.byteLength n ≤ 512 := fun n hn ↦
    (byteLength_mono (numbers_le hkey hsign n hn)).trans (byteLength_modulus_le hkey)
  have hlength : (key.numbers.flatMap Der.natural).length ≤ 9 * 523 :=
    length_flatMap_natural_le (by decide) hbytes
  have hwrite : key.toPkcs1 = Der.encode 0x30 (key.numbers.flatMap Der.natural) := by
    rw [List.flatMap_def]
    rfl
  have hsequence : sequence? key.toPkcs1 = some (key.numbers.flatMap Der.natural) := by
    have hread := Der.Strict.contents?_encode 0x30
      (lt_of_le_of_lt hlength (by decide)) []
    rw [List.append_nil, ← hwrite] at hread
    rw [sequence?, hread]
  have hnumbers : naturals? 9 (key.numbers.flatMap Der.natural) = some (key.numbers, []) := by
    have hread := naturals?_flatMap
      (fun n hn ↦ lt_of_le_of_lt (Nat.succ_le_succ (hbytes n hn)) (by decide)) []
    rw [List.append_nil] at hread
    exact hread
  refine Option.bind_eq_some_iff.2 ⟨_, hsequence, ?_⟩
  rw [hnumbers]
  exact if_pos hkey

/-- Only numbers that fit together are read. -/
theorem isConsistent_of_ofPkcs1? {bytes : Bytes} (h : ofPkcs1? bytes = some key) :
    key.isConsistent = true := by
  obtain ⟨contents, -, h⟩ := Option.bind_eq_some_iff.1 h
  split at h
  · simp only [Option.ite_none_right_eq_some, Option.some.injEq] at h
    obtain ⟨hkey, rfl⟩ := h
    exact hkey
  · simp at h

/-- So they are behind the name of the algorithm. -/
theorem isConsistent_of_ofPkcs8? {bytes : Bytes} (h : ofPkcs8? bytes = some key) :
    key.isConsistent = true := by
  obtain ⟨contents, -, h⟩ := Option.bind_eq_some_iff.1 h
  obtain ⟨⟨version, contents⟩, -, h⟩ := Option.bind_eq_some_iff.1 h
  obtain ⟨⟨algorithm, contents⟩, -, h⟩ := Option.bind_eq_some_iff.1 h
  obtain ⟨⟨inner, contents⟩, -, h⟩ := Option.bind_eq_some_iff.1 h
  obtain ⟨tags, -, h⟩ := Option.bind_eq_some_iff.1 h
  simp only [Option.ite_none_right_eq_some] at h
  exact isConsistent_of_ofPkcs1? h.2

end Rsa.PrivateKey

/-- So are those of a key out of PEM. -/
theorem Material.isConsistent_of_readKey {pem : Bytes} {key : Rsa.PrivateKey}
    (h : Material.readKey pem = .ok key) : key.isConsistent = true := by
  rw [Material.readKey] at h
  cases hread : Pem.read pem with
  | error e => simp [hread, Except.mapError, Bind.bind, Except.bind] at h
  | ok block =>
    simp only [hread, Except.mapError, Bind.bind, Except.bind] at h
    split_ifs at h
    · split at h
      · next hkey => exact Except.ok.inj h ▸ Rsa.PrivateKey.isConsistent_of_ofPkcs1? hkey
      · simp [throw, throwThe, MonadExceptOf.throw] at h
    · split at h
      · next hkey => exact Except.ok.inj h ▸ Rsa.PrivateKey.isConsistent_of_ofPkcs8? hkey
      · simp [throw, throwThe, MonadExceptOf.throw] at h

/-! ### Public keys -/

namespace Validation

variable {cert : Certificate} {numbers : PublicKeyInfo.RsaNumbers} {key : Rsa.PrivateKey}

/-- Octets match a key if they spell its numbers and neither of these is zero. -/
theorem keyMatches_iff : keyMatches numbers key = true ↔
    (0 < key.modulus ∧ Bytes.toNat numbers.modulus = key.modulus) ∧
      (0 < key.publicExponent ∧ Bytes.toNat numbers.exponent = key.publicExponent) := by
  simp only [keyMatches, Bool.and_eq_true, decide_eq_true_eq,
    Bytes.stripLeadingZeros_eq_ofNatNonempty_iff]

/-- A modulus of zero is written with a zero byte, which no stripped octets are. -/
example : keyMatches ⟨[0], [3]⟩ ⟨0, 3, 0, 0, 0⟩ = false := by decide

/-- Octets that match a key spell its numbers. -/
theorem toNat_of_keyMatches (h : keyMatches numbers key = true) :
    Bytes.toNat numbers.modulus = key.modulus ∧
      Bytes.toNat numbers.exponent = key.publicExponent :=
  (keyMatches_iff.1 h).imp And.right And.right

/-- **The key of a written certificate matches the private key.** -/
theorem keyMatches_numbers (hkey : key.isConsistent = true) :
    keyMatches key.publicKey.numbers key = true := by
  obtain ⟨-, -, hbelow, -, htwo, -⟩ := Rsa.PrivateKey.isConsistent_iff.1 hkey
  exact keyMatches_iff.2 ⟨⟨by omega, (Der.naturalOctets_spec _).2.2⟩,
    by omega, (Der.naturalOctets_spec _).2.2⟩

/-- The certificates that match a key are those of RSA keys whose octets do. -/
theorem ensureKeyMatches_eq_ok {u : Unit} : ensureKeyMatches cert key = .ok u ↔
    ∃ numbers, cert.publicKey.parsed? = some (.rsa numbers) ∧ keyMatches numbers key = true := by
  rw [ensureKeyMatches]
  cases hparsed : cert.publicKey.parsed? with
  | none => simp
  | some parsed => cases parsed <;> simp

/-- **Key matching is equality of numbers**: octets, whatever zeros they begin with, match a private
key if they spell its modulus and its exponent, and so does a certificate that carries them. -/
theorem ensureKeyMatches_iff_toNat (numbers : PublicKeyInfo.RsaNumbers)
    (hmodulus : 0 < key.modulus) (hexponent : 0 < key.publicExponent) :
    (keyMatches numbers key = true ↔ Bytes.toNat numbers.modulus = key.modulus ∧
        Bytes.toNat numbers.exponent = key.publicExponent) ∧
      ∀ cert : Certificate, cert.publicKey.parsed? = some (.rsa numbers) →
        (ensureKeyMatches cert key = .ok () ↔ Bytes.toNat numbers.modulus = key.modulus ∧
          Bytes.toNat numbers.exponent = key.publicExponent) := by
  have hoctets : keyMatches numbers key = true ↔ Bytes.toNat numbers.modulus = key.modulus ∧
      Bytes.toNat numbers.exponent = key.publicExponent := by
    rw [keyMatches_iff, and_iff_right hmodulus, and_iff_right hexponent]
  refine ⟨hoctets, fun cert hparsed ↦ ?_⟩
  rw [ensureKeyMatches_eq_ok, ← hoctets]
  -- a key is parsed in one way only
  constructor
  · rintro ⟨other, hother, hmatch⟩
    obtain rfl : numbers = other := by simpa [hparsed] using hother
    exact hmatch
  · exact fun hmatch ↦ ⟨numbers, hparsed, hmatch⟩

/-- The modulus 143 sets the sign bit, so a certificate carries it behind a zero. Octets behind more
zeros match as well; the same modulus with another exponent does not. -/
theorem ensureKeyMatches_iff_toNat_signed :
    let key : Rsa.PrivateKey := ⟨143, 7, 103, 11, 13⟩
    let other : Rsa.PrivateKey := ⟨143, 11, 11, 11, 13⟩
    let cert := Template.certificate ⟨⟨[]⟩, ⟨[]⟩, default, key.publicKey, []⟩ []
    keyMatches ⟨[0, 0, 0, 143], [0, 7]⟩ key = true ∧
      cert.publicKey.parsed? = some (.rsa ⟨[0, 143], [7]⟩) ∧
      ensureKeyMatches cert key = .ok () ∧ ensureKeyMatches cert other ≠ .ok () := by
  intro key other cert
  have hparsed : cert.publicKey.parsed? = some (.rsa ⟨[0, 143], [7]⟩) := by decide +kernel
  refine ⟨?_, hparsed, ?_, ?_⟩
  · exact (ensureKeyMatches_iff_toNat _ (by decide) (by decide)).1.2 (by decide)
  · exact ((ensureKeyMatches_iff_toNat _ (by decide) (by decide)).2 cert hparsed).2 (by decide)
  · exact mt ((ensureKeyMatches_iff_toNat _ (by decide) (by decide)).2 cert hparsed).1 (by decide)

end Validation

namespace Signature

/-- **The canonical reader reads the public half of a key that may sign.** -/
theorem rsaKey?_encode {key : Rsa.PrivateKey} (hkey : key.isConsistent = true)
    (hsign : key.canSign = true) : rsaKey? 2048 key.publicKey.encode = some key.publicKey := by
  obtain ⟨hbits, hodd, hexponent, hoddExponent, -, hbound, -⟩ :=
    Rsa.PrivateKey.isConsistent_iff.1 hkey
  obtain ⟨hsize, -, hstandard, -⟩ := Rsa.PrivateKey.canSign_iff.1 hsign
  have hwidth := Rsa.PrivateKey.byteLength_modulus_le hkey
  -- lengths are read as far as four octets say, so the numbers have to be short
  have hbytes : ∀ n ∈ [key.modulus, key.publicExponent], Bytes.byteLength n ≤ 512 := by
    simp only [List.forall_mem_cons]
    exact ⟨hwidth, (Rsa.PrivateKey.byteLength_mono hexponent.le).trans hwidth, by simp⟩
  have hlength : ([key.modulus, key.publicExponent].flatMap Der.natural).length ≤ 2 * 523 :=
    Rsa.PrivateKey.length_flatMap_natural_le (by decide) hbytes
  have hsequence := Der.Strict.contents?_encode 0x30
    (lt_of_le_of_lt hlength (by decide)) []
  have hnumbers := Rsa.PrivateKey.naturals?_flatMap (fun n hn ↦ lt_of_le_of_lt
    (Nat.succ_le_succ (hbytes n hn)) (by decide)) []
  rw [List.append_nil] at hsequence hnumbers
  obtain ⟨⟨m, afterModulus⟩, hmodulus, hrest⟩ := Option.bind_eq_some_iff.1 hnumbers
  obtain ⟨⟨tail, afterExponent⟩, htail, hall⟩ := Option.bind_eq_some_iff.1 hrest
  obtain ⟨⟨e, behind⟩, hexponentRead, hlast⟩ := Option.bind_eq_some_iff.1 htail
  simp only [Rsa.PrivateKey.naturals?, Option.bind_eq_bind, Option.bind_some, Option.pure_def,
    Option.some.injEq, Prod.mk.injEq] at hlast hall
  obtain ⟨rfl, rfl⟩ := hlast
  simp only [List.cons.injEq, and_true] at hall
  obtain ⟨⟨rfl, rfl⟩, rfl⟩ := hall
  have hgood : ([] : Bytes) = [] ∧ ([] : Bytes) = [] ∧ key.modulus % 2 = 1 ∧
      key.publicExponent % 2 = 1 ∧ 2048 ≤ 8 * Bytes.byteLength key.modulus ∧
      Modular.bitLength key.modulus ≤ 8192 ∧ 3 ≤ key.publicExponent ∧
      key.publicExponent < Nat.pow 2 33 := by
    refine ⟨rfl, rfl, hodd, hoddExponent, hsize, hbits.trans (by decide), ?_, hbound⟩
    exact le_trans (by decide) hstandard
  have hwrite : key.publicKey.encode =
      Der.encode 0x30 ([key.modulus, key.publicExponent].flatMap Der.natural) := by
    rw [List.flatMap_def]
    rfl
  rw [hwrite]
  refine Option.bind_eq_some_iff.2 ⟨_, hsequence, ?_⟩
  refine Option.bind_eq_some_iff.2 ⟨_, hmodulus, ?_⟩
  refine Option.bind_eq_some_iff.2 ⟨_, hexponentRead, ?_⟩
  exact if_pos hgood

/-- A natural number in canonical form is the same number to the lenient reader. -/
theorem integer?_of_natural? {bytes rest : Bytes} {n : Nat}
    (h : Der.Strict.natural? bytes = some (n, rest)) :
    ∃ octets, PublicKeyInfo.integer? bytes = some (octets, rest) ∧ Bytes.toNat octets = n := by
  obtain ⟨⟨octets, tail⟩, hcontents, hvalue⟩ := Option.bind_eq_some_iff.1 h
  simp only [Option.ite_none_right_eq_some, Option.some.injEq, Prod.mk.injEq] at hvalue
  obtain ⟨⟨hshortest, -⟩, hn, rfl⟩ := hvalue
  refine ⟨octets, ?_, hn⟩
  rw [PublicKeyInfo.integer?, Der.element?_of_strict (by decide) hcontents]
  simp [Der.elementOf, Der.integerTag, hshortest]

/-- **Both readers of a public key see the same numbers.** -/
theorem rsaKey?_eq {minimum : Nat} {bits : Bytes} {read : Rsa.PublicKey}
    {numbers : PublicKeyInfo.RsaNumbers} {key : Rsa.PrivateKey}
    (hread : rsaKey? minimum bits = some read)
    (hnumbers : PublicKeyInfo.rsaNumbers? bits = some numbers)
    (hmatch : Validation.keyMatches numbers key = true) : read = key.publicKey := by
  obtain ⟨hmodulus, hexponent⟩ := Validation.toNat_of_keyMatches hmatch
  obtain ⟨⟨contents, rest⟩, hcontents, hread⟩ := Option.bind_eq_some_iff.1 hread
  obtain ⟨⟨m, afterModulus⟩, hm, hread⟩ := Option.bind_eq_some_iff.1 hread
  obtain ⟨⟨e, behind⟩, he, hread⟩ := Option.bind_eq_some_iff.1 hread
  simp only [Option.ite_none_right_eq_some, Option.some.injEq] at hread
  obtain ⟨-, rfl⟩ := hread
  have helement := Der.element?_of_strict (show Der.IsPlain 0x30 by decide) hcontents
  obtain ⟨modulus, hmodulusRead, rfl⟩ := integer?_of_natural? hm
  obtain ⟨exponent, hexponentRead, rfl⟩ := integer?_of_natural? he
  have hsame : PublicKeyInfo.rsaNumbers? bits = some ⟨modulus, exponent⟩ := by
    have hsequence : Der.contents? Der.sequenceTag bits = some (contents, rest) := by
      rw [Der.contents?, helement]
      rfl
    refine Option.bind_eq_some_iff.2 ⟨_, hsequence, ?_⟩
    refine Option.bind_eq_some_iff.2 ⟨_, hmodulusRead, ?_⟩
    exact Option.bind_eq_some_iff.2 ⟨_, hexponentRead, rfl⟩
  obtain rfl := Option.some.inj (hsame.symm.trans hnumbers)
  rw [hmodulus, hexponent]
  rfl

/-! ### Keys that verified -/

/-- The bits of an RSA key start like a sequence and are no shorter than its modulus. -/
theorem rsaNumbers?_bounds {bits : Bytes} {numbers : PublicKeyInfo.RsaNumbers}
    (h : PublicKeyInfo.rsaNumbers? bits = some numbers) :
    (∃ b tail, bits = b :: tail ∧ (b.toNat % 32 = 16 ∨ b.toNat % 32 = 31)) ∧
      numbers.modulus.length ≤ bits.length := by
  obtain ⟨⟨contents, rest⟩, hcontents, hread⟩ := Option.bind_eq_some_iff.1 h
  obtain ⟨⟨modulus, afterModulus⟩, hmodulus, hread⟩ := Option.bind_eq_some_iff.1 hread
  obtain ⟨⟨exponent, behind⟩, -, hlast⟩ := Option.bind_eq_some_iff.1 hread
  obtain rfl := Option.some.inj hlast
  obtain ⟨⟨outer, behindOuter⟩, houter, htag⟩ := Option.bind_eq_some_iff.1 hcontents
  simp only [Option.ite_none_right_eq_some, Option.some.injEq, Prod.mk.injEq] at htag
  obtain ⟨hsequence, rfl, rfl⟩ := htag
  obtain ⟨⟨inner, behindInner⟩, hinner, hform⟩ := Option.bind_eq_some_iff.1 hmodulus
  simp only [Option.ite_none_right_eq_some, Option.some.injEq, Prod.mk.injEq] at hform
  obtain ⟨-, rfl, rfl⟩ := hform
  obtain ⟨b, tail, rfl, hb, -⟩ := Der.exists_of_element? houter
  have houterLength := Der.readsWithin_element? _ _ _ houter
  have hinnerLength := Der.readsWithin_element? _ _ _ hinner
  rw [hsequence] at hb
  refine ⟨⟨b, tail, rfl, hb.imp_left Eq.symm⟩, ?_⟩
  dsimp only at houterLength hinnerLength ⊢
  omega

/-- What the canonical reader asks of the size of a key, it can ask of any size below the key's. -/
theorem rsaKey?_of_size {minimum other : Nat} {bits : Bytes} {key : Rsa.PublicKey}
    (h : rsaKey? minimum bits = some key) (hsize : other ≤ 8 * Bytes.byteLength key.modulus) :
    rsaKey? other bits = some key := by
  obtain ⟨⟨contents, rest⟩, hcontents, h⟩ := Option.bind_eq_some_iff.1 h
  obtain ⟨⟨m, afterModulus⟩, hm, h⟩ := Option.bind_eq_some_iff.1 h
  obtain ⟨⟨e, behind⟩, he, h⟩ := Option.bind_eq_some_iff.1 h
  simp only [Option.ite_none_right_eq_some, Option.some.injEq] at h
  obtain ⟨⟨hrest, hbehind, hodd, hoddExponent, -, hbound⟩, rfl⟩ := h
  refine Option.bind_eq_some_iff.2 ⟨_, hcontents, ?_⟩
  refine Option.bind_eq_some_iff.2 ⟨_, hm, ?_⟩
  refine Option.bind_eq_some_iff.2 ⟨_, he, ?_⟩
  exact if_pos ⟨hrest, hbehind, hodd, hoddExponent, hsize, hbound⟩

/-- **What the canonical reader reads, it reads at the size that keys to sign with have**, as the
public half of the private key that matches. -/
theorem rsaKey?_of_any {minimum : Nat} {bits : Bytes} {numbers : PublicKeyInfo.RsaNumbers}
    {key : Rsa.PrivateKey} {p : Rsa.PublicKey → Bool} (hany : (rsaKey? minimum bits).any p = true)
    (hnumbers : PublicKeyInfo.rsaNumbers? bits = some numbers)
    (hmatch : Validation.keyMatches numbers key = true)
    (hsize : 2048 ≤ 8 * Bytes.byteLength key.modulus) :
    rsaKey? 2048 bits = some key.publicKey := by
  obtain ⟨read, hread, -⟩ := (Option.any_eq_true _ _).1 hany
  obtain rfl := rsaKey?_eq hread hnumbers hmatch
  exact rsaKey?_of_size hread hsize

/-- A curve accepts nothing by bits that start like a sequence, since points start with the octet
four. -/
theorem not_accepts_onCurve {b : UInt8} {tail message signature : Bytes} (group : Curve)
    (digest : Rsa.Digest) (hfirst : b.toNat % 32 = 16 ∨ b.toNat % 32 = 31) :
    ¬ Method.accepts (b :: tail) message signature (.onCurve group digest) := by
  have hform : b ≠ 4 := by
    rintro rfl
    revert hfirst
    decide
  have hpoint : group.point? (b :: tail) = none := by
    simp [Curve.point?, hform]
  simp [Method.accepts, Curve.verify, hpoint]

/-- Bits of another length than 32 octets name no point of the twisted curve. -/
theorem not_accepts_edwards {bits message signature : Bytes} (hlength : bits.length ≠ 32) :
    ¬ Method.accepts bits message signature .edwards := by
  have hpoint : Edwards.point? bits = none := by
    simp [Edwards.point?, hlength]
  simp [Method.accepts, Edwards.verify, hpoint]

/-- **What accepts anything by the bits of an RSA key that are longer than a point reads them
canonically.** -/
theorem exists_any_of_accepts {method : Method} {bits message signature : Bytes}
    {numbers : PublicKeyInfo.RsaNumbers} (haccepts : method.accepts bits message signature = true)
    (hnumbers : PublicKeyInfo.rsaNumbers? bits = some numbers) (hlong : 32 < bits.length) :
    ∃ minimum p, (rsaKey? minimum bits).any p = true := by
  obtain ⟨⟨b, tail, rfl, hfirst⟩, -⟩ := rsaNumbers?_bounds hnumbers
  cases method with
  | rsa digest minimum => exact ⟨minimum, _, haccepts⟩
  | rsaMasked digest => exact ⟨2048, _, haccepts⟩
  | onCurve group digest => exact (not_accepts_onCurve group digest hfirst haccepts).elim
  | edwards => exact (not_accepts_edwards hlong.ne' haccepts).elim

/-- A signature verifies if there is a method for it which accepts it. -/
theorem verify_eq_ok {info : PublicKeyInfo} {algorithm : AlgorithmId} {message signature : Bytes} :
    verify info algorithm message signature = .ok () ↔
      ∃ method, Method.of? info algorithm = some method ∧
        method.accepts info.bits message signature = true := by
  rw [verify]
  cases Method.of? info algorithm with
  | none => simp
  | some method => simp

/-- **A public key that verified anything is read canonically as the public half of the private key
that it matches**, if that key may sign: no other kind of key has bits that long which start so. -/
theorem rsaKey?_of_verify {info : PublicKeyInfo} {algorithm : AlgorithmId}
    {message signature : Bytes} {numbers : PublicKeyInfo.RsaNumbers} {key : Rsa.PrivateKey}
    (hverify : verify info algorithm message signature = .ok ())
    (hparsed : info.parsed? = some (.rsa numbers))
    (hmatch : Validation.keyMatches numbers key = true) (hsign : key.canSign = true) :
    rsaKey? 2048 info.bits = some key.publicKey := by
  have hnumbers : PublicKeyInfo.rsaNumbers? info.bits = some numbers := by
    rw [PublicKeyInfo.parsed?] at hparsed
    split_ifs at hparsed <;> simp at hparsed
    exact hparsed
  have hsize : 2048 ≤ 8 * Bytes.byteLength key.modulus := (Rsa.PrivateKey.canSign_iff.1 hsign).1
  -- the bits hold the modulus, which is that of the private key
  have hlong : 32 < info.bits.length := by
    have hbytes := Bytes.byteLength_le_iff.2 (Bytes.toNat_lt numbers.modulus)
    rw [(Validation.toNat_of_keyMatches hmatch).1] at hbytes
    have hmodulus := (rsaNumbers?_bounds hnumbers).2
    omega
  obtain ⟨method, -, haccepts⟩ := verify_eq_ok.1 hverify
  obtain ⟨minimum, p, hany⟩ := exists_any_of_accepts haccepts hnumbers hlong
  exact rsaKey?_of_any hany hnumbers hmatch hsize

end Signature

end WebhookTrust
