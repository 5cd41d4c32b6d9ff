import WebhookTrust.Proofs.Base64
import WebhookTrust.Proofs.Injection
import WebhookTrust.Proofs.Scene

/-!
# What a pass does

A pass over consumers that can take the bundle succeeds, whatever their order and however often one
of them is declared: taking the bundle of one consumer takes nothing from another. In the end every
consumer that is there and is not being deleted trusts the authority of the Secret
(`Scene.Trusts`). The store has one writer, as in `WebhookTrust.Proofs.Scene`.

* `Scene.follows_withObject`: writing an object that took the bundle makes its consumer trust,
  and no other distrust. What a pass leaves alone is gathered in `Scene.Follows`.
* `Reconciler.ensures_ensureFrom`: **bringing consumers up to date, one after the other, makes all
  of them trust**, by induction over them.
* `Reconciler.ensures_reconcile`: **a pass over a Secret with an authority makes all consumers trust
  it**, says so by the flag, and logs no Secret as malformed.

Passes that find no authority are in `WebhookTrust.Proofs.Gate`, consumers that fail in
`WebhookTrust.Proofs.Isolation`, and other writers in `WebhookTrust.Proofs.Faithful`.
-/

namespace WebhookTrust

namespace Scene

/-! ### Consumers -/

/-- The object of the consumer can take a bundle, unless it is missing or being deleted. -/
def CanTake (scene : Scene) (consumer : Consumer) : Prop :=
  ∀ object, scene.object consumer = some object → object.metadata.isDeleting = false →
    Injection.Accepts consumer.kind object.data

/-- Every trust field of the consumer's object spells the bundle, unless the object is missing or
being deleted. -/
def Trusts (caPem : Bytes) (scene : Scene) (consumer : Consumer) : Prop :=
  ∀ object, scene.object consumer = some object → object.metadata.isDeleting = false →
    ∀ field ∈ Injection.fields consumer.kind object.data, ∃ text, field = some (.string text) ∧
      Base64.decode (Utf8.ofString text) = .ok caPem

/-- Is it an object of the consumer that has as many trust fields as the other, and is being deleted
if the other is? -/
structure IsLike (consumer : Consumer) (object object' : ConsumerObject) : Prop where
  isDeleting : object'.metadata.isDeleting = object.metadata.isDeleting
  fields : (Injection.fields consumer.kind object'.data).length =
    (Injection.fields consumer.kind object.data).length

/-- What a pass leaves alone: the Secret and the flag, which objects there are, what can take a
bundle, and who trusts this one. -/
structure Follows (caPem : Bytes) (scene scene' : Scene) : Prop where
  secret : scene'.secret = scene.secret
  writes : scene'.writes = scene.writes
  isInjected : scene'.isInjected = scene.isInjected
  isThere : ∀ consumer object, scene.object consumer = some object →
    ∃ object', scene'.object consumer = some object' ∧ IsLike consumer object object'
  canTake : ∀ consumer, scene.CanTake consumer → scene'.CanTake consumer
  trusts : ∀ consumer, scene.Trusts caPem consumer → scene'.Trusts caPem consumer

variable {caPem : Bytes} {scene scene' scene'' : Scene}

theorem Follows.refl (scene : Scene) : scene.Follows caPem scene :=
  ⟨rfl, rfl, rfl, fun _ object h ↦ ⟨object, h, rfl, rfl⟩, fun _ h ↦ h, fun _ h ↦ h⟩

/-- What is left alone twice is left alone. -/
theorem Follows.trans (h : scene.Follows caPem scene') (h' : scene'.Follows caPem scene'') :
    scene.Follows caPem scene'' where
  secret := h'.secret.trans h.secret
  writes := h'.writes.trans h.writes
  isInjected := h'.isInjected.trans h.isInjected
  isThere consumer object hobject := by
    obtain ⟨between, hbetween, hlike⟩ := h.isThere consumer object hobject
    obtain ⟨object', hobject', hlike'⟩ := h'.isThere consumer between hbetween
    exact ⟨object', hobject', hlike'.isDeleting.trans hlike.isDeleting,
      hlike'.fields.trans hlike.fields⟩
  canTake consumer hcan := h'.canTake consumer (h.canTake consumer hcan)
  trusts consumer htrusts := h'.trusts consumer (h.trusts consumer htrusts)

/-- Writing an object that took the bundle makes its consumer trust, and no other distrust. -/
theorem follows_withObject {consumer : Consumer} {object stored : ConsumerObject}
    (hobject : scene.object consumer = some object)
    (hlike : IsLike consumer object stored)
    (haccepts : Injection.Accepts consumer.kind stored.data)
    (hfields : ∀ field ∈ Injection.fields consumer.kind stored.data,
      field = some (Injection.bundleOf caPem)) :
    scene.Follows caPem (scene.withObject consumer stored) ∧
      (scene.withObject consumer stored).Trusts caPem consumer := by
  have htrusts : (scene.withObject consumer stored).Trusts caPem consumer := by
    intro object hobject _ field hfield
    obtain rfl : stored = object := by simpa [withObject] using hobject
    exact ⟨_, hfields field hfield, Base64.decode_encodeString caPem⟩
  refine ⟨⟨rfl, rfl, rfl, fun other found hfound ↦ ?_, fun other hcan ↦ ?_, fun other hother ↦ ?_⟩,
    htrusts⟩
  · by_cases heq : other = consumer
    · subst heq
      obtain rfl := Option.some.inj (hobject.symm.trans hfound)
      exact ⟨stored, if_pos rfl, hlike⟩
    · exact ⟨found, (if_neg heq).trans hfound, rfl, rfl⟩
  · intro object hobject hlive
    by_cases heq : other = consumer
    · subst heq
      obtain rfl : stored = object := by simpa [withObject] using hobject
      exact haccepts
    · exact hcan object (by simpa [withObject, heq] using hobject) hlive
  · by_cases heq : other = consumer
    · exact heq ▸ htrusts
    · intro object hobject
      exact hother object (by simpa [withObject, heq] using hobject)

end Scene

namespace Reconciler

open Procedure

variable {key : SecretKey} {isTime : Instant → Prop}
  {isKey : Except KeyFault Rsa.PrivateKey → Prop} {mayLog : LogEvent → Prop} {scene : Scene}
  {caPem : Bytes} {consumer : Consumer}

/-- The event of a Secret from which no authority can be loaded. -/
def ReportsMalformed (event : LogEvent) : Prop :=
  event.message = "secret is not well-formed, cannot update webhook configurations"

/-- Logging an event that does not report a malformed Secret. -/
theorem ensures_log_bind_sole {α : Type} {post : Except Halt α → Scene → Prop} {level : LogLevel}
    {message : String} {fields : List (String × LogValue)} {next : Unit → Procedure α}
    (hmessage : ¬ ReportsMalformed ⟨level, message, fields⟩)
    (h : Ensures (.sole key isTime isKey fun event ↦ ¬ ReportsMalformed event) post (next ())
      scene) :
    Ensures (.sole key isTime isKey fun event ↦ ¬ ReportsMalformed event) post
      ((log level message fields).bind next) scene := by
  refine ⟨hmessage, ?_⟩
  rintro reply scene rfl
  exact h

/-- Reading a consumer gives its object. -/
theorem ensures_getConsumer {α : Type} {post : Except Halt (Except Error α) → Scene → Prop}
    {next : Option ConsumerObject → Procedure (Except Error α)}
    (h : Ensures (.sole key isTime isKey mayLog) post (next (scene.object consumer)) scene) :
    Ensures (.sole key isTime isKey mayLog) post ((call (.getConsumer consumer)).andThen next)
      scene := by
  refine ⟨trivial, ?_⟩
  rintro reply scene ⟨rfl, rfl⟩
  exact h

/-- Reading the Secret gives the Secret. -/
theorem ensures_getSecret {α : Type} {post : Except Halt (Except Error α) → Scene → Prop}
    {next : Option Secret → Procedure (Except Error α)}
    (h : Ensures (.sole key isTime isKey mayLog) post (next scene.secret) scene) :
    Ensures (.sole key isTime isKey mayLog) post ((call (.getSecret key)).andThen next) scene := by
  refine ⟨rfl, ?_⟩
  rintro reply scene ⟨rfl, rfl⟩
  exact h

/-- **A consumer that can take the bundle trusts it afterwards.** -/
theorem ensures_ensure (hcan : scene.CanTake consumer) :
    Ensures (.sole key isTime isKey fun event ↦ ¬ ReportsMalformed event)
      (fun result scene' ↦ result = .ok (.ok ()) ∧ scene.Follows caPem scene' ∧
        scene'.Trusts caPem consumer) (ensure caPem consumer) scene := by
  refine ensures_getConsumer ?_
  cases hobject : scene.object consumer with
  | none =>
    refine ensures_log_bind_sole (by simp [ReportsMalformed]) ⟨rfl, .refl _, ?_⟩
    intro object hother
    simp [hobject] at hother
  | some object =>
    cases hdeleting : object.metadata.isDeleting with
    | true =>
      simp only [hdeleting, if_true]
      refine ensures_log_bind_sole (by simp [ReportsMalformed]) ⟨rfl, .refl _, ?_⟩
      intro other hother hlive
      rw [hobject, Option.some.injEq] at hother
      simp [← hother, hdeleting] at hlive
    | false =>
      simp only [hdeleting, Bool.false_eq_true, if_false, update]
      refine ensures_log_bind_sole (by simp [ReportsMalformed]) ?_
      -- the shape is accepted, so injecting cannot fail and the object is written
      have hok := (Injection.injectData_eq_ok (Injection.bundleOf caPem)).2
        (hcan object hobject hdeleting)
      obtain ⟨haccepts, hfields⟩ := Injection.spec_injectData hok
      have hlength := Injection.length_fields_injectData hok
      simp only [Injection.inject, hok]
      refine ⟨by simp [Contract.sole, Scene.permits, Scene.permitsCall, hobject], ?_⟩
      rintro reply scene' ⟨rfl, stored, hkept, rfl⟩
      have hdata := hkept.data
      simp only at hdata
      rw [← hdata] at haccepts hfields hlength
      exact ⟨rfl, Scene.follows_withObject hobject ⟨hkept.isDeleting, hlength⟩ haccepts hfields⟩

/-- **Bringing consumers up to date, one after the other, makes all of them trust.** -/
theorem ensures_ensureFrom {consumers : List Consumer}
    (hcan : ∀ consumer ∈ consumers, scene.CanTake consumer) :
    Ensures (.sole key isTime isKey fun event ↦ ¬ ReportsMalformed event)
      (fun result scene' ↦ result = .ok (.ok ()) ∧ scene.Follows caPem scene' ∧
        ∀ consumer ∈ consumers, scene'.Trusts caPem consumer)
      (ensureFrom caPem consumers none) scene := by
  induction consumers generalizing scene with
  | nil => exact ⟨rfl, .refl _, by simp⟩
  | cons consumer rest ih =>
    rw [List.forall_mem_cons] at hcan
    rw [ensureFrom, bind_eq, ensures_bind]
    refine (ensures_ensure hcan.1).mono ?_
    rintro _ scene₁ ⟨rfl, hfollows, htrusts⟩
    -- a consumer that was brought up to date keeps its shape and its bundle
    refine (ih fun other hother ↦ hfollows.canTake other (hcan.2 other hother)).mono ?_
    rintro _ scene₂ ⟨rfl, hfollows', hrest⟩
    exact ⟨rfl, hfollows.trans hfollows',
      List.forall_mem_cons.2 ⟨hfollows'.trusts consumer htrusts, hrest⟩⟩

variable {secret : Secret} {ca : KeyPair}

/-- **A pass over a Secret with an authority makes all consumers trust it, and says so.** -/
theorem ensures_reconcile (reconciler : Reconciler) (isTime : Instant → Prop)
    (isKey : Except KeyFault Rsa.PrivateKey → Prop) (hsecret : scene.secret = some secret)
    (hdeleting : secret.metadata.isDeleting = false) (hload : secret.authority = .ok ca)
    (hcan : ∀ consumer ∈ reconciler.consumers, scene.CanTake consumer) :
    Ensures (.sole reconciler.secretKey isTime isKey fun event ↦ ¬ ReportsMalformed event)
      (fun result scene' ↦ result = .ok (.ok ()) ∧ scene'.isInjected = true ∧
        scene'.secret = scene.secret ∧ scene'.writes = scene.writes ∧
        (∀ consumer object, scene.object consumer = some object →
          ∃ object', scene'.object consumer = some object' ∧ Scene.IsLike consumer object object') ∧
        ∀ consumer ∈ reconciler.consumers, scene'.Trusts ca.certPem consumer)
      reconciler.reconcile scene := by
  rw [reconcile, bind_eq, ensures_bind, pass]
  refine ensures_getSecret ?_
  simp only [hsecret, reconciler.propagate_of_loaded hdeleting hload, ensureAll]
  rw [ensures_andThen]
  refine (ensures_ensureFrom hcan).mono ?_
  rintro _ scene₁ ⟨rfl, hfollows, htrusts⟩
  refine ⟨trivial, ?_⟩
  rintro reply scene₂ rfl
  refine ⟨trivial, ?_⟩
  rintro reply scene₃ rfl
  exact ⟨rfl, rfl, hfollows.secret.trans hsecret, hfollows.writes, hfollows.isThere, htrusts⟩

end Reconciler

end WebhookTrust
