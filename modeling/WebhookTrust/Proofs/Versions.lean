import WebhookTrust.Proofs.Scene

/-!
# Versions of objects

A store gives every object that it accepts a version of its own and keeps the rest as it was
written. So what is read is a version of what was written: it differs in the resource version only
(`Secret.IsVersionOf`, `ConsumerObject.IsVersionOf`).

Being versions of each other is an equivalence, and whatever does not look at the version is the
same of all versions (`Secret.IsVersionOf.apply_eq`). Theorems about what a store keeps are stated
up to versions, since which version it gives is the store's own affair; of two places at which there
may be nothing, `IsSameObject` says the same.

How versions are numbered is in `WebhookTrust.Proofs.Numbering`, and what they are good for in
`WebhookTrust.Proofs.Racing` and `WebhookTrust.Proofs.Traffic`.
-/

namespace WebhookTrust

/-! ### Secrets -/

namespace Secret

/-- The Secret with another version, or with none. -/
def withVersion (secret : Secret) (version : Option String) : Secret :=
  { secret with metadata := { secret.metadata with resourceVersion := version } }

/-- Are the Secrets the same, apart from their versions? -/
def IsVersionOf (stored written : Secret) : Prop :=
  stored.withVersion none = written.withVersion none

variable {stored written other : Secret}

@[simp] theorem IsVersionOf.refl (secret : Secret) : secret.IsVersionOf secret := rfl

theorem IsVersionOf.symm (h : stored.IsVersionOf written) : written.IsVersionOf stored := Eq.symm h

theorem IsVersionOf.trans (h : stored.IsVersionOf written) (h' : written.IsVersionOf other) :
    stored.IsVersionOf other := Eq.trans h h'

theorem isVersionOf_withVersion (secret : Secret) (version : Option String) :
    (secret.withVersion version).IsVersionOf secret := rfl

/-- What does not look at the version is the same of all versions. -/
theorem IsVersionOf.apply_eq {α : Type} {f : Secret → α}
    (hf : ∀ secret, f (secret.withVersion none) = f secret) (h : stored.IsVersionOf written) :
    f stored = f written := by
  rw [← hf stored, ← hf written]
  exact congrArg f h

end Secret

/-! ### Objects of consumers -/

namespace ConsumerObject

/-- The object with another version, or with none. -/
def withVersion (object : ConsumerObject) (version : Option String) : ConsumerObject :=
  { object with metadata := { object.metadata with resourceVersion := version } }

/-- Are the objects the same, apart from their versions? -/
def IsVersionOf (stored written : ConsumerObject) : Prop :=
  stored.withVersion none = written.withVersion none

variable {stored written other : ConsumerObject}

@[simp] theorem IsVersionOf.refl (object : ConsumerObject) : object.IsVersionOf object := rfl

theorem IsVersionOf.symm (h : stored.IsVersionOf written) : written.IsVersionOf stored := Eq.symm h

theorem IsVersionOf.trans (h : stored.IsVersionOf written) (h' : written.IsVersionOf other) :
    stored.IsVersionOf other := Eq.trans h h'

theorem isVersionOf_withVersion (object : ConsumerObject) (version : Option String) :
    (object.withVersion version).IsVersionOf object := rfl

theorem IsVersionOf.data_eq (h : stored.IsVersionOf written) : stored.data = written.data := by
  simpa [withVersion] using congrArg ConsumerObject.data h

theorem IsVersionOf.isDeleting_eq (h : stored.IsVersionOf written) :
    stored.metadata.isDeleting = written.metadata.isDeleting := by
  simpa [withVersion, Metadata.isDeleting] using congrArg (·.metadata.isDeleting) h

end ConsumerObject

/-! ### What may not be there -/

/-- Is nothing in both places, or are versions of one object there? -/
def IsSameObject (object object' : Option ConsumerObject) : Prop :=
  object.map (·.withVersion none) = object'.map (·.withVersion none)

theorem isSameObject_some_iff {object : Option ConsumerObject} {stored : ConsumerObject} :
    IsSameObject object (some stored) ↔
      ∃ other, object = some other ∧ other.IsVersionOf stored := by
  cases object <;> simp [IsSameObject, ConsumerObject.IsVersionOf]

end WebhookTrust
