import WebhookTrust.Proofs.Name
import WebhookTrust.Proofs.Validity

/-!
# Certificates read back as written

Reading a certificate that was made from a template gives every field of the template, and the
signed octets and the signature as they are (`Certificate.read?_sign`). Nothing is asked of the
signature, so this is true of certificates that anyone signs.

The proof goes along the fields in the order in which they are written, with what stands behind each
of them left open; each field has a lemma of its own, and the lengths of all of them are bounded by
that of the certificate (`Template.length_part_lt`). Fields that may be missing are passed over by
their tags (`Template.optionalField?_skip`).

The hypotheses are that the names and times can be written, and that the certificate is shorter than
2⁶⁴ octets; the second is about no machine that there is, and is shown to hold of what is made in
`WebhookTrust.Proofs.CertificateSize`.
-/

namespace WebhookTrust

/-! ### Algorithms and public keys -/

/-- The null value as an element. -/
def nullElement : Der.Element := Der.elementOf 0x05 []

namespace AlgorithmId

/-- An algorithm with null parameters. -/
def plain (name : Oid) : AlgorithmId := ⟨name, some nullElement⟩

/-- An algorithm with null parameters is read back. -/
theorem read?_plain {name : Oid} (h : (Der.sequence [Der.oid name, Der.null]).length < Nat.pow 2 64)
    (rest : Bytes) :
    read? (Der.sequence [Der.oid name, Der.null] ++ rest) = some (plain name, rest) := by
  have hname : (Der.oid name).length < Nat.pow 2 64 :=
    lt_of_le_of_lt (Der.length_le_sequence (by simp)) h
  have hnull : Der.element? (Der.null ++ []) = some (nullElement, []) :=
    Der.element?_encode (show Der.IsPlain 0x05 by decide)
      (show ([] : Bytes).length < Nat.pow 2 64 by decide) []
  have hmore : Der.null ++ [] ≠ [] := by decide
  rw [read?, Der.contents?_sequence h]
  simp only [List.flatten_cons, List.flatten_nil, Option.bind_eq_bind, Option.bind_some,
    Der.oid?_oid hname, if_neg hmore, hnull, Option.pure_def, plain]

end AlgorithmId

namespace PublicKeyInfo

/-- A natural number is read as the octets that spell it. -/
theorem integer?_natural {n : Nat} (h : (Der.natural n).length < Nat.pow 2 64) (rest : Bytes) :
    integer? (Der.natural n ++ rest) = some (Der.naturalOctets n, rest) := by
  have hshortest := (Der.naturalOctets_spec n).1
  rw [integer?, Der.natural,
    Der.element?_encode (by decide) (lt_of_le_of_lt (Der.length_le_encode ..) h)]
  simp [Der.elementOf, Der.integerTag, hshortest]

end PublicKeyInfo

namespace Rsa.PublicKey

variable {key : PublicKey}

/-- The public key as a certificate carries it. -/
def info (key : PublicKey) : PublicKeyInfo := ⟨.plain AlgorithmId.rsa, key.encode⟩

/-- A public key is read back, -/
theorem read?_encodeInfo (h : key.encodeInfo.length < Nat.pow 2 64) (rest : Bytes) :
    PublicKeyInfo.read? (key.encodeInfo ++ rest) = some (key.info, rest) := by
  have halgorithm : (Der.sequence [Der.oid AlgorithmId.rsa, Der.null]).length < Nat.pow 2 64 :=
    lt_of_le_of_lt (Der.length_le_sequence (by simp)) h
  have hbits : key.encode.length + 1 < Nat.pow 2 64 :=
    lt_of_le_of_lt ((Der.length_le_encode 0x03 (0 :: key.encode)).trans
      (Der.length_le_sequence (by simp [Der.bitString]))) h
  rw [PublicKeyInfo.read?, encodeInfo, Der.contents?_sequence h]
  simp only [List.flatten_cons, List.flatten_nil, Option.bind_eq_bind, Option.bind_some,
    AlgorithmId.read?_plain halgorithm, Der.bitString?_bitString hbits, Option.pure_def, info]

/-- The numbers of a written key, as octets. -/
def numbers (key : PublicKey) : PublicKeyInfo.RsaNumbers :=
  ⟨Der.naturalOctets key.modulus, Der.naturalOctets key.exponent⟩

/-- whose numbers are those of the key. -/
theorem parsed?_info (h : key.encode.length < Nat.pow 2 64) :
    key.info.parsed? = some (.rsa key.numbers) := by
  have hmodulus : (Der.natural key.modulus).length < Nat.pow 2 64 :=
    lt_of_le_of_lt (Der.length_le_sequence (by simp)) h
  have hexponent : (Der.natural key.exponent).length < Nat.pow 2 64 :=
    lt_of_le_of_lt (Der.length_le_sequence (by simp)) h
  have hread := Der.contents?_sequence h []
  rw [List.append_nil] at hread
  have hbits : PublicKeyInfo.rsaNumbers? key.encode = some key.numbers := by
    rw [PublicKeyInfo.rsaNumbers?, encode, hread]
    simp only [List.flatten_cons, List.flatten_nil, Option.bind_eq_bind, Option.bind_some,
      PublicKeyInfo.integer?_natural hmodulus, PublicKeyInfo.integer?_natural hexponent,
      Option.pure_def, numbers]
  rw [PublicKeyInfo.parsed?, if_pos (by rfl), info, hbits]
  rfl

end Rsa.PublicKey

/-! ### Extensions -/

namespace Extension

/-- An extension is read back. -/
theorem read?_encode {extension : Extension} (h : extension.encode.length < Nat.pow 2 64)
    (rest : Bytes) : read? (extension.encode ++ rest) = some (extension, rest) := by
  have hname : (Der.oid extension.name).length < Nat.pow 2 64 :=
    lt_of_le_of_lt (Der.length_le_sequence (by simp)) h
  have hvalue : extension.value.length < Nat.pow 2 64 :=
    lt_of_le_of_lt ((Der.length_le_encode 0x04 _).trans
      (Der.length_le_sequence (by simp [Der.octetString]))) h
  have hoctets : Der.element? (Der.octetString extension.value ++ []) =
      some (Der.elementOf 0x04 extension.value, []) :=
    Der.element?_encode (by decide) hvalue []
  have hform : (Der.elementOf 0x04 extension.value).tag = Der.octetStringTag ∧
      (!(Der.elementOf 0x04 extension.value).constructed) = true := by
    simp [Der.elementOf, Der.octetStringTag]
  rw [read?, encode, Der.contents?_sequence h]
  simp only [List.flatten_cons, List.flatten_nil, Option.bind_eq_bind, Option.bind_some,
    Der.oid?_oid hname]
  -- the mark is read as a boolean if it is there; if not, the octet string is no boolean
  have hmark : (boolean? ((if extension.critical then Der.boolean true else []) ++
      (Der.octetString extension.value ++ []))).getD
        (false, (if extension.critical then Der.boolean true else []) ++
          (Der.octetString extension.value ++ [])) =
      (extension.critical, Der.octetString extension.value ++ []) := by
    cases extension.critical with
    | true =>
      have hboolean := Der.element?_encode (show Der.IsPlain 0x01 by decide)
        (show ([0xFF] : Bytes).length < Nat.pow 2 64 by decide)
        (Der.octetString extension.value ++ [])
      simp only [if_true, Der.boolean, boolean?, hboolean, Option.bind_eq_bind, Option.bind_some]
      simp [Der.elementOf, Der.booleanTag]
    | false =>
      simp only [Bool.false_eq_true, if_false, List.nil_append, boolean?, hoctets,
        Option.bind_eq_bind, Option.bind_some]
      rcases extension.value with _ | ⟨b, _ | ⟨c, more⟩⟩ <;>
        simp [Der.elementOf, Der.booleanTag]
  simp only [hmark, hoctets, Option.bind_some, if_pos hform]
  simp [Der.elementOf]

end Extension

/-! ### Certificates -/

namespace Template

variable {template : Template}

/-- Can the names and times be written? -/
structure IsWritable (template : Template) : Prop where
  issuer : template.issuer.IsWritable
  subject : template.subject.IsWritable
  notBefore : template.validity.notBefore.IsWritable
  notAfter : template.validity.notAfter.IsWritable

/-- The certificate that a template and a signature make up, as it is read. -/
def certificate (template : Template) (signature : Bytes) : Certificate where
  body := template.body
  version := 2
  serial := Der.naturalOctets template.serial
  issuer := template.issuer
  validity := template.validity
  subject := template.subject
  subjectBytes := template.subject.encode
  publicKey := template.publicKey.info
  extensions := template.extensions
  signatureAlgorithm := .plain Signature.sha256WithRsa
  signature := signature

/-- The extensions are read from the field that holds them. -/
theorem extensions?_encode {extensions : List Extension}
    (h : (Der.encode 0xA3 (Der.sequence (extensions.map Extension.encode))).length <
      Nat.pow 2 64) :
    Certificate.extensions?
        (Der.encode 0xA3 (Der.sequence (extensions.map Extension.encode)) ++ []) =
      some extensions := by
  have hsequence := lt_of_le_of_lt (Der.length_le_encode 0xA3 _) h
  have hread : ∀ extension ∈ extensions, ∀ rest,
      Extension.read? (extension.encode ++ rest) = some (extension, rest) :=
    fun extension hmem ↦ Extension.read?_encode
      (lt_of_le_of_lt (Der.length_le_sequence (List.mem_map_of_mem hmem)) hsequence)
  have hall := Der.all?_flatMap id hread rfl fun extension _ ↦ Der.encode_ne_nil _ _
  have hmore : Der.encode 0xA3 (Der.sequence (extensions.map Extension.encode)) ++ [] ≠ [] := by
    rw [List.append_nil]
    exact Der.encode_ne_nil _ _
  have htag : ¬ (Der.elementOf 0xA3 []).tag ≠ 3 := by decide
  rw [List.map_id, List.flatMap_def] at hall
  rw [Certificate.extensions?, if_neg hmore, Der.header?_encode (by decide) hsequence]
  simp only [Option.bind_eq_bind, Option.bind_some, if_neg htag, Der.contents?_sequence hsequence,
    hall]

/-- A field of another tag is passed over. -/
theorem optionalField?_skip {α : Type} {tag : Nat} {identifier : UInt8} {contents rest : Bytes}
    (read : Bytes → Option α) (hplain : Der.IsPlain identifier) (htag : identifier.toNat % 32 ≠ tag)
    (h : contents.length < Nat.pow 2 64) :
    Certificate.optionalField? tag read (Der.encode identifier contents ++ rest) =
      some (none, Der.encode identifier contents ++ rest) := by
  have hmore : Der.encode identifier contents ++ rest ≠ [] := by
    simp [Der.encode]
  have hother : (Der.elementOf identifier contents).tag ≠ tag := htag
  rw [Certificate.optionalField?, if_neg hmore, Der.element?_encode hplain h]
  simp only [Option.bind_eq_bind, Option.bind_some, if_pos hother]

/-- The version is read from the field that holds it. -/
theorem version?_encode (rest : Bytes) :
    Certificate.optionalField? 0 Certificate.version? (Der.encode 0xA0 (Der.natural 2) ++ rest) =
      some (some 2, rest) := by
  have hmore : Der.encode 0xA0 (Der.natural 2) ++ rest ≠ [] := by
    simp [Der.encode]
  have htag : ¬ (Der.elementOf 0xA0 (Der.natural 2)).tag ≠ 0 := by decide
  have hclass : ¬ (Der.elementOf 0xA0 (Der.natural 2)).tagClass ≠ .contextSpecific := by decide
  have hversion : Certificate.version? (Der.elementOf 0xA0 (Der.natural 2)).contents = some 2 := by
    decide
  rw [Certificate.optionalField?, if_neg hmore, Der.element?_encode (by decide) (by decide)]
  simp only [Option.bind_eq_bind, Option.bind_some, if_neg htag, if_neg hclass, hversion,
    Option.map_some]

theorem between_append (a rest : Bytes) : Certificate.between (a ++ rest) rest = a := by
  rw [Certificate.between, List.length_append, Nat.add_sub_cancel, List.take_left']
  rfl

end Template

section ReadBack

variable {scheme : SignatureScheme} {key : Rsa.PrivateKey} {template : Template}

namespace Template

/-- The fields of a body behind its version. -/
def fields (template : Template) : Bytes :=
  Der.natural template.serial ++ (algorithmBytes ++ (template.issuer.encode ++
    (template.validity.encode ++ (template.subject.encode ++ (template.publicKey.encodeInfo ++
      (Der.encode 0xA3 (Der.sequence (template.extensions.map Extension.encode)) ++ []))))))

/-- What stands behind a body. -/
def ending (signature : Bytes) : Bytes := algorithmBytes ++ (Der.bitString signature ++ [])

theorem contents?_sign (hsize : (template.sign scheme key).length < Nat.pow 2 64) :
    Der.contents? Der.sequenceTag (template.sign scheme key) =
      some (template.body ++ ending (scheme.sign key template.body), []) := by
  have houter := Der.contents?_sequence hsize []
  rwa [List.append_nil] at houter

theorem contents?_body (hbody : template.body.length < Nat.pow 2 64) (rest : Bytes) :
    Der.contents? Der.sequenceTag (template.body ++ rest) =
      some (Der.encode 0xA0 (Der.natural 2) ++ template.fields, rest) :=
  Der.contents?_sequence hbody rest

/-- The body and the signature are shorter than the certificate. -/
theorem length_body_lt (hsize : (template.sign scheme key).length < Nat.pow 2 64) :
    template.body.length < Nat.pow 2 64 ∧
      (scheme.sign key template.body).length + 1 < Nat.pow 2 64 := by
  -- one octet is added for the number of unused bits
  refine ⟨lt_of_le_of_lt (Der.length_le_sequence (by simp)) hsize, ?_⟩
  exact lt_of_le_of_lt ((Der.length_le_encode 0x03 (0 :: scheme.sign key template.body)).trans
    (Der.length_le_sequence (by simp [Der.bitString]))) hsize

/-- Every part of a body is no longer than the body. -/
theorem length_part_lt (hbody : template.body.length < Nat.pow 2 64) :
    (Der.natural template.serial).length < Nat.pow 2 64 ∧
      template.issuer.encode.length < Nat.pow 2 64 ∧
      template.subject.encode.length < Nat.pow 2 64 ∧
      template.publicKey.encodeInfo.length < Nat.pow 2 64 ∧
      (Der.encode 0xA3 (Der.sequence (template.extensions.map Extension.encode))).length <
        Nat.pow 2 64 := by
  refine ⟨?_, ?_, ?_, ?_, ?_⟩ <;>
    exact lt_of_le_of_lt (Der.length_le_sequence (by simp)) hbody

end Template

/-- **A certificate that was made from a template reads back as the template says.** -/
theorem Certificate.read?_sign (h : template.IsWritable)
    (hsize : (template.sign scheme key).length < Nat.pow 2 64) :
    Certificate.read? (template.sign scheme key) =
      some (template.certificate (scheme.sign key template.body)) := by
  obtain ⟨hbody, hsignature⟩ := Template.length_body_lt hsize
  obtain ⟨hserial, hissuer, hsubject, hkey, hextensions⟩ := Template.length_part_lt hbody
  have hcontents := lt_of_le_of_lt (Der.length_le_encode 0xA3 _) hextensions
  have halgorithm : ∀ rest, AlgorithmId.read? (Template.algorithmBytes ++ rest) =
      some (.plain Signature.sha256WithRsa, rest) := AlgorithmId.read?_plain (by decide)
  have hresult : Certificate.between
      (template.body ++ Template.ending (scheme.sign key template.body))
      (Template.ending (scheme.sign key template.body)) = template.body :=
    Template.between_append _ _
  rw [Certificate.read?]
  -- the reader's steps, one after the other
  refine Option.bind_eq_some_iff.2 ⟨_, Template.contents?_sign hsize, ?_⟩
  refine Option.bind_eq_some_iff.2 ⟨_, Template.contents?_body hbody _, ?_⟩
  refine Option.bind_eq_some_iff.2 ⟨_, Template.version?_encode _, ?_⟩
  refine Option.bind_eq_some_iff.2 ⟨_, Der.contents?_encode (by decide) (by decide)
    (lt_of_le_of_lt (Der.length_le_encode ..) hserial) _, ?_⟩
  refine Option.bind_eq_some_iff.2 ⟨_, halgorithm _, ?_⟩
  refine Option.bind_eq_some_iff.2 ⟨_, Name.read?_encode h.issuer hissuer _, ?_⟩
  refine Option.bind_eq_some_iff.2 ⟨_, Validity.read?_encode h.notBefore h.notAfter _, ?_⟩
  refine Option.bind_eq_some_iff.2 ⟨_, Name.read?_encode h.subject hsubject _, ?_⟩
  refine Option.bind_eq_some_iff.2 ⟨_, Rsa.PublicKey.read?_encodeInfo hkey _, ?_⟩
  refine Option.bind_eq_some_iff.2 ⟨_, Template.optionalField?_skip _ (by decide) (by decide)
    hcontents, ?_⟩
  refine Option.bind_eq_some_iff.2 ⟨_, Template.optionalField?_skip _ (by decide) (by decide)
    hcontents, ?_⟩
  refine Option.bind_eq_some_iff.2 ⟨_, Template.extensions?_encode hextensions, ?_⟩
  refine Option.bind_eq_some_iff.2 ⟨_, halgorithm _, ?_⟩
  refine Option.bind_eq_some_iff.2 ⟨_, Der.bitString?_bitString hsignature _, ?_⟩
  dsimp only
  rw [hresult, Template.between_append]
  rfl

end ReadBack

end WebhookTrust
