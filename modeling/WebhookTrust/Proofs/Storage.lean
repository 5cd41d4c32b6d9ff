import WebhookTrust.Proofs.JsonText
import WebhookTrust.Proofs.StoredAuthority

/-!
# What is stored is loaded again

A key pair holds its certificate and its key twice, as they are used and in the PEM bytes that are
stored. Nothing in its type says that the two agree, but where a key pair comes from does
(`KeyPair.Arises`): a pair that was made has bytes that were written from it, and one that was
loaded has kept the bytes that it was read from.

* `KeyPair.Arises.load`: **a key pair is what its PEM bytes load as**, by the two ways in which it
  arises; the first rests on reading undoing writing (`KeyPair.load_authorityPair`).
* `Secret.mem_names_withCertificates`, `Secret.lookup?_withCertificates_of_notMem`: the entries are
  those that were there and the four, and the others are left alone.
* `Secret.authority_of_stored`: so a key pair can be put into any Secret and comes out as it was,
  next to all that was there before.

A pair that is put together in any other way may be lost on the way, and the program makes none.
-/

namespace WebhookTrust

/-! ### Where key pairs come from -/

/-- A key pair that was made, of numbers that fit together as those of a generated key do, or that
was loaded. -/
inductive KeyPair.Arises : KeyPair → Prop
  | made {commonName organization : String} {window : Window} {key : Rsa.PrivateKey} {ca : KeyPair}
      (hkey : key.isConsistent = true) (hname : FitsMemory commonName)
      (horganization : FitsMemory organization)
      (h : Issuance.authority Signature.standard commonName organization window (.ok key) =
        .ok ca) : Arises ca
  | loaded {certPem keyPem : Bytes} {ca : KeyPair} (h : KeyPair.load certPem keyPem = .ok ca) :
      Arises ca

/-- **A key pair is what its PEM bytes load as.** -/
theorem KeyPair.Arises.load {ca : KeyPair} (h : ca.Arises) :
    KeyPair.load ca.certPem ca.keyPem = .ok ca := by
  cases h with
  | made hkey hname horganization h =>
    obtain ⟨-, key, hsame, hsign, hwindow, rfl⟩ := (Issuance.authority_eq_ok _).1 h
    obtain rfl := Except.ok.inj hsame
    exact load_authorityPair hkey hsign hname horganization hwindow
  | loaded h =>
    obtain ⟨rfl, rfl, -⟩ := load_eq_ok.1 h
    exact h

namespace Secret

variable {secret : Secret} {ca : KeyPair} {leaf : PemPair} {name : String}

/-! ### Entries -/

/-- The names of the entries. -/
def names (secret : Secret) : List String := (secret.entries.getD []).map Prod.fst

theorem mem_names_iff : name ∈ secret.names ↔ (secret.lookup? name).isSome = true := by
  rw [← not_iff_not, names, ← Assoc.get?_eq_none_iff, Bool.not_eq_true, Option.isSome_eq_false_iff,
    Option.isNone_iff_eq_none, lookup?]
  cases secret.entries <;> simp

/-- Entries other than the four are left alone. -/
theorem lookup?_withCertificates_of_notMem (h : name ∉ certificateEntries) :
    (secret.withCertificates ca leaf).lookup? name = secret.lookup? name := by
  simp only [certificateEntries, List.mem_cons, List.not_mem_nil, or_false, not_or] at h
  obtain ⟨hcaCert, hcaKey, hserverCert, hserverKey⟩ := h
  rw [withCertificates, lookup?_setEntry_of_ne hserverKey, lookup?_setEntry_of_ne hserverCert,
    lookup?_setEntry_of_ne hcaKey, lookup?_setEntry_of_ne hcaCert]

/-- The entries are those that were there and the four. -/
theorem mem_names_withCertificates :
    name ∈ (secret.withCertificates ca leaf).names ↔
      name ∈ secret.names ∨ name ∈ certificateEntries := by
  by_cases hname : name ∈ certificateEntries
  · obtain ⟨hcaCert, hcaKey, hserverCert, hserverKey⟩ := lookup?_withCertificates secret ca leaf
    simp only [hname, or_true, iff_true, mem_names_iff]
    simp only [certificateEntries, List.mem_cons, List.not_mem_nil, or_false] at hname
    obtain rfl | rfl | rfl | rfl := hname
    · rw [hcaCert]; rfl
    · rw [hcaKey]; rfl
    · rw [hserverCert]; rfl
    · rw [hserverKey]; rfl
  · simp only [hname, or_false, mem_names_iff, lookup?_withCertificates_of_notMem hname]

/-! ### Round trips -/

/-- **A key pair comes back from its PEM bytes, and from every Secret that it is put into, as it
was.** What is put next to it is found too, what else there was is kept, and no entries but the four
are added. -/
theorem authority_of_stored (h : ca.Arises) (leaf : PemPair) (secret : Secret) :
    KeyPair.load ca.certPem ca.keyPem = .ok ca ∧
      (secret.withCertificates ca leaf).authority = .ok ca ∧
      (secret.withCertificates ca leaf).lookup? serverCert = some leaf.certPem ∧
      (secret.withCertificates ca leaf).lookup? serverKey = some leaf.keyPem ∧
      (∀ name ∉ certificateEntries,
        (secret.withCertificates ca leaf).lookup? name = secret.lookup? name) ∧
      secret.withCertificates ca leaf =
        { secret with entries := (secret.withCertificates ca leaf).entries } ∧
      ∀ name, name ∈ (secret.withCertificates ca leaf).names ↔
        name ∈ secret.names ∨ name ∈ certificateEntries := by
  obtain ⟨-, -, hserverCert, hserverKey⟩ := lookup?_withCertificates secret ca leaf
  exact ⟨h.load, authority_withCertificates h.load, hserverCert, hserverKey,
    fun _ ↦ lookup?_withCertificates_of_notMem, rfl, fun _ ↦ mem_names_withCertificates⟩

/-- A Secret that holds another serving certificate and an entry of its own. -/
theorem authority_of_stored_extra :
    let secret : Secret := { Secret.new ⟨"webhook-system", "webhook-certs"⟩ with
      entries := some [("extra", [1]), (serverCert, [2])] }
    ∃ ca, Issuance.authority Signature.standard "webhook-ca" "certwarden" ⟨⟨0, 0⟩, ⟨10, 0⟩⟩
        (.ok Rsa.pierpontKey) = .ok ca ∧
      (secret.withCertificates ca ⟨[3], [4]⟩).authority = .ok ca ∧
      (secret.withCertificates ca ⟨[3], [4]⟩).lookup? serverCert = some [3] ∧
      (secret.withCertificates ca ⟨[3], [4]⟩).lookup? "extra" = some [1] := by
  intro secret
  have hmade : Issuance.authority Signature.standard "webhook-ca" "certwarden" ⟨⟨0, 0⟩, ⟨10, 0⟩⟩
      (.ok Rsa.pierpontKey) = .ok (Issuance.authorityPair "webhook-ca" "certwarden"
        (Issuance.periodOf ⟨⟨0, 0⟩, ⟨10, 0⟩⟩) Rsa.pierpontKey) :=
    (Issuance.authority_eq_ok "certwarden").2 ⟨by decide, Rsa.pierpontKey, rfl,
      Rsa.canSign_pierpontKey, by unfold Issuance.IsWritableWindow; decide, rfl⟩
  obtain ⟨-, hload, hserverCert, -, hkept, -⟩ := authority_of_stored
    (.made Rsa.isConsistent_pierpontKey (by unfold FitsMemory; decide)
      (by unfold FitsMemory; decide) hmade) ⟨[3], [4]⟩ secret
  exact ⟨_, hmade, hload, hserverCert, hkept "extra" (by decide)⟩

end Secret

end WebhookTrust
