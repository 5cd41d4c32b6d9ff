import WebhookTrust.Cluster.Metadata
import WebhookTrust.Pki.Issuance

/-!
# The certificate Secret

A Secret holds the authority and the serving certificate, each with its key, under four entries. The
authority is loaded from two of them (`Secret.authority`); all four are written together
(`Secret.withCertificates`), and entries of other names are kept.

Entries are a map in the order of insertion, or missing altogether, which is not the same as being
empty when a Secret is written. Whatever else a Secret has is carried through (`Secret.others`).
-/

namespace WebhookTrust

/-- Where a Secret lives. -/
structure SecretKey where
  nameSpace : String
  name : String
deriving DecidableEq, Repr, Inhabited

/-- Namespace and name, separated by a slash. -/
def SecretKey.text (key : SecretKey) : String := key.nameSpace ++ "/" ++ key.name

/-- A Secret. -/
structure Secret where
  metadata : Metadata
  type : Option String
  entries : Option (List (String × Bytes))
  /-- What else there is. -/
  others : List (String × Json)
deriving DecidableEq, Repr, Inhabited

namespace Secret

/-! ### Entries -/

/-- The entry of the authority's certificate. -/
def caCert : String := "ca.crt"
/-- The entry of the authority's key. -/
def caKey : String := "ca.key"
/-- The entry of the serving certificate. -/
def serverCert : String := "tls.crt"
/-- The entry of the serving certificate's key. -/
def serverKey : String := "tls.key"

/-- The names of the four entries. -/
def certificateEntries : List String := [caCert, caKey, serverCert, serverKey]

/-- The bytes of an entry. -/
def lookup? (secret : Secret) (name : String) : Option Bytes :=
  secret.entries.bind (Assoc.get? name)

/-- The bytes of an entry, or none at all. -/
def lookup (secret : Secret) (name : String) : Bytes := (secret.lookup? name).getD []

/-- The Secret with the bytes of an entry set. -/
def setEntry (secret : Secret) (name : String) (value : Bytes) : Secret :=
  { secret with entries := some (Assoc.put name value (secret.entries.getD [])) }

/-- The Secret without an entry. -/
def eraseEntry (secret : Secret) (name : String) : Secret :=
  { secret with entries := secret.entries.map (Assoc.erase name) }

@[simp] theorem lookup?_setEntry_self (secret : Secret) (name : String) (value : Bytes) :
    (secret.setEntry name value).lookup? name = some value := by
  simp [lookup?, setEntry]

theorem lookup?_setEntry_of_ne {name other : String} (h : other ≠ name) (secret : Secret)
    (value : Bytes) : (secret.setEntry name value).lookup? other = secret.lookup? other := by
  cases hs : secret.entries <;> simp [lookup?, setEntry, hs, Assoc.get?_put_of_ne h]

/-! ### Certificates -/

/-- The key pair of the authority. -/
def authority (secret : Secret) : Except PkiError KeyPair :=
  match secret.lookup? caCert, secret.lookup? caKey with
  | none, _ => .error (.missingEntry caCert)
  | some _, none => .error (.missingEntry caKey)
  | some cert, some key => (KeyPair.load cert key).mapError fun fault ↦ .unloadable (.parse fault)

/-- The Secret with all four entries set. -/
def withCertificates (secret : Secret) (ca : KeyPair) (leaf : PemPair) : Secret :=
  (((secret.setEntry caCert ca.certPem).setEntry caKey ca.keyPem).setEntry serverCert
    leaf.certPem).setEntry serverKey leaf.keyPem

/-- The type of a Secret of arbitrary entries. -/
def opaqueType : String := "Opaque"

/-- A Secret without entries. -/
def new (key : SecretKey) : Secret where
  metadata := { Metadata.empty with name := some key.name, nameSpace := some key.nameSpace }
  type := some opaqueType
  entries := none
  others := []

/-- Where the Secret lives, if it says so. -/
def key? (secret : Secret) : Option SecretKey :=
  match secret.metadata.nameSpace, secret.metadata.name with
  | some nameSpace, some name => some ⟨nameSpace, name⟩
  | _, _ => none

end Secret

end WebhookTrust
