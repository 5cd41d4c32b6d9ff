import Mathlib.Logic.Function.Basic
import Mathlib.Logic.Relation
import WebhookTrust.Proofs.Versions
import WebhookTrust.Reconciliation

/-!
# Passes in traffic

Any number of passes go on, one effect at a time and in any order, while Secrets are written and
others make, change and delete consumers as they like. The store replaces an object only on the
basis of its current version, and gives every object that it accepts a version that no object of the
consumer had before; a replacement that changes nothing may keep the version. It may refuse any
call, and the reply to a replacement may be lost.

Account is kept of the replacements that were accepted from passes (`Update`): of what was there
directly before, of what is there directly after, and of what the pass had read. No answer depends
on the account.

* `Traffic.Reaches`: what can come about, from a beginning in which all passes are about to begin;
* `Traffic.exists_overtaken`: **of two passes that read the same object, one may replace it, so that
  the other is overtaken and fails.** So the error that `WebhookTrust.Proofs.Faithful` promises to
  an overtaken pass is one that really comes about. It rests on four lemmas about what can happen to
  one pass while the others rest (`Traffic.HasGoneOn`): it sees something, does what does not show,
  replaces what it read, or is refused.

Those who write Secrets and those who change consumers are not modelled further than by what they
may leave there, and the passes are the ones that run.
-/

namespace WebhookTrust

/-- What a pass has seen: the Secret that it read, what it last read of each consumer, and whether
it came to replace an object that was no longer what it had read. -/
structure Sight where
  secret : Option Secret
  object : Consumer → Option ConsumerObject
  isOvertaken : Bool

/-- A pass in traffic: what it still has to do, and what it has seen. -/
structure Passer where
  rest : Procedure (Except Error Unit)
  sight : Sight

/-- A replacement that was accepted from a pass. -/
structure Update (ι : Type) where
  writer : ι
  consumer : Consumer
  /-- What the writer had seen. -/
  sight : Sight
  /-- What was there directly before. -/
  before : ConsumerObject
  /-- What is there directly after. -/
  stored : ConsumerObject

/-- Traffic: the Secrets, the objects of the consumers, all versions that objects of each consumer
had, the accepted replacements, the last one first, and the passes. -/
structure Traffic (ι : Type) where
  secret : SecretKey → Option Secret
  object : Consumer → Option ConsumerObject
  versions : Consumer → List (Option String)
  updates : List (Update ι)
  passer : ι → Passer

namespace Sight

/-- Nothing was seen. -/
def nothing : Sight := ⟨none, fun _ ↦ none, false⟩

/-- After the Secret was read. -/
def afterSecret (sight : Sight) (secret : Option Secret) : Sight := { sight with secret }

/-- After a consumer was read. -/
def afterObject (sight : Sight) (consumer : Consumer) (object : Option ConsumerObject) : Sight :=
  { sight with object := Function.update sight.object consumer object }

/-- After the object of a consumer was to be replaced, and another one may have been there. -/
def afterReplace (sight : Sight) (consumer : Consumer) (object : Option ConsumerObject) : Sight :=
  { sight with isOvertaken := sight.isOvertaken || object ≠ sight.object consumer }

end Sight

namespace Traffic

variable {ι : Type} [DecidableEq ι]

/-! ### Steps -/

/-- The traffic with another object of a consumer, and its version. -/
def putObject (traffic : Traffic ι) (consumer : Consumer) (object : ConsumerObject) : Traffic ι :=
  { traffic with
    object := Function.update traffic.object consumer (some object)
    versions := Function.update traffic.versions consumer
      (object.metadata.resourceVersion :: traffic.versions consumer) }

/-- The traffic without an object of a consumer. -/
def deleteObject (traffic : Traffic ι) (consumer : Consumer) : Traffic ι :=
  { traffic with object := Function.update traffic.object consumer none }

/-- The traffic with another Secret under a key, or with none. -/
def putSecret (traffic : Traffic ι) (key : SecretKey) (secret : Option Secret) : Traffic ι :=
  { traffic with secret := Function.update traffic.secret key secret }

/-- The traffic with one of the passes changed. -/
def setPasser (traffic : Traffic ι) (i : ι) (passer : Passer) : Traffic ι :=
  { traffic with passer := Function.update traffic.passer i passer }

/-- The traffic in which a pass has seen something else. -/
def setSight (traffic : Traffic ι) (i : ι) (sight : Sight) : Traffic ι :=
  traffic.setPasser i { traffic.passer i with sight }

/-- The traffic in which a pass has something else to do. -/
def goOn (traffic : Traffic ι) (i : ι) (rest : Procedure (Except Error Unit)) : Traffic ι :=
  traffic.setPasser i { traffic.passer i with rest }

@[simp] theorem passer_setSight_self (traffic : Traffic ι) (i : ι) (sight : Sight) :
    (traffic.setSight i sight).passer i = ⟨(traffic.passer i).rest, sight⟩ := by
  simp [setSight, setPasser]

@[simp] theorem passer_setSight_of_ne {i j : ι} (h : j ≠ i) (traffic : Traffic ι) (sight : Sight) :
    (traffic.setSight i sight).passer j = traffic.passer j := Function.update_of_ne h _ _

@[simp] theorem passer_goOn_self (traffic : Traffic ι) (i : ι)
    (rest : Procedure (Except Error Unit)) :
    (traffic.goOn i rest).passer i = ⟨rest, (traffic.passer i).sight⟩ := by
  simp [goOn, setPasser]

@[simp] theorem passer_goOn_of_ne {i j : ι} (h : j ≠ i) (traffic : Traffic ι)
    (rest : Procedure (Except Error Unit)) :
    (traffic.goOn i rest).passer j = traffic.passer j := Function.update_of_ne h _ _

/-- What the pass has seen after it came to replace the object of a consumer. -/
def sightAfter (traffic : Traffic ι) (i : ι) (consumer : Consumer) : Sight :=
  (traffic.passer i).sight.afterReplace consumer (traffic.object consumer)

/-- The traffic after a replacement was accepted. -/
def afterUpdate (traffic : Traffic ι) (i : ι) (consumer : Consumer)
    (before stored : ConsumerObject) : Traffic ι :=
  let update : Update ι := ⟨i, consumer, (traffic.passer i).sight, before, stored⟩
  { (traffic.putObject consumer stored).setSight i (traffic.sightAfter i consumer) with
    updates := update :: traffic.updates }

/-- May the store give an object this version? -/
def MayStore (traffic : Traffic ι) (consumer : Consumer) (stored : ConsumerObject) : Prop :=
  stored.metadata.resourceVersion ∉ traffic.versions consumer ∨
    traffic.object consumer = some stored

/-- How the store answers a call of a pass. -/
def answersCall (traffic : Traffic ι) (i : ι) : (call : StoreCall) → call.Reply → Traffic ι → Prop
  | .getSecret key, reply, traffic' =>
    (reply = .ok (traffic.secret key) ∧ traffic' =
      traffic.setSight i ((traffic.passer i).sight.afterSecret (traffic.secret key))) ∨
    (∃ e, reply = .error e) ∧ traffic' = traffic
  | .getConsumer consumer, reply, traffic' =>
    (reply = .ok (traffic.object consumer) ∧ traffic' =
      traffic.setSight i ((traffic.passer i).sight.afterObject consumer
        (traffic.object consumer))) ∨
    (∃ e, reply = .error e) ∧ traffic' = traffic
  | .replaceConsumer consumer object, reply, traffic' =>
    (∃ before stored, traffic.object consumer = some before ∧
      object.metadata.resourceVersion = before.metadata.resourceVersion ∧
      stored.IsVersionOf object ∧ traffic.MayStore consumer stored ∧
      traffic' = traffic.afterUpdate i consumer before stored) ∨
    (∃ e, reply = .error e) ∧ traffic' = traffic.setSight i (traffic.sightAfter i consumer)
  | .createSecret _, _, _ | .replaceSecret _, _, _ => False

/-- How an effect of a pass is answered. -/
def answers (traffic : Traffic ι) (i : ι) :
    (effect : Effect) → effect.Reply → Traffic ι → Prop
  | .store call, reply, traffic' => traffic.answersCall i call reply traffic'
  | _, _, traffic' => traffic' = traffic

/-- Something happens: a pass has an effect, a Secret is written, or a consumer is changed by
others. -/
inductive Step (traffic : Traffic ι) : Traffic ι → Prop
  | pass {traffic' : Traffic ι} (i : ι) {effect : Effect}
    {next : effect.Reply → Procedure (Except Error Unit)} {reply : effect.Reply}
    (hrest : (traffic.passer i).rest = .step effect next)
    (hanswers : traffic.answers i effect reply traffic') :
    Step traffic (traffic'.goOn i (next reply))
  | secret (key : SecretKey) (secret : Option Secret) : Step traffic (traffic.putSecret key secret)
  | edit (consumer : Consumer) (object : ConsumerObject)
    (hfresh : object.metadata.resourceVersion ∉ traffic.versions consumer) :
    Step traffic (traffic.putObject consumer object)
  | delete (consumer : Consumer) : Step traffic (traffic.deleteObject consumer)

/-- Every pass is about to begin. -/
def start (reconciler : ι → Reconciler) (secret : SecretKey → Option Secret)
    (object : Consumer → Option ConsumerObject) : Traffic ι where
  secret := secret
  object := object
  versions consumer := (object consumer).toList.map (·.metadata.resourceVersion)
  updates := []
  passer i := ⟨(reconciler i).reconcile, .nothing⟩

/-- Traffic that can come about. -/
def Reaches : Traffic ι → Traffic ι → Prop := Relation.ReflTransGen Step

theorem Reaches.pass {first traffic traffic' : Traffic ι} {i : ι} {effect : Effect}
    {next : effect.Reply → Procedure (Except Error Unit)} {reply : effect.Reply}
    (h : first.Reaches traffic) (hrest : (traffic.passer i).rest = .step effect next)
    (hanswers : traffic.answers i effect reply traffic') :
    first.Reaches (traffic'.goOn i (next reply)) := h.tail (.pass i hrest hanswers)

/-! ### What can happen to one pass -/

variable {first traffic : Traffic ι} {i : ι}

/-- Only one pass has gone on, and the store is as it was. -/
structure HasGoneOn (traffic : Traffic ι) (i : ι) (passer : Passer) (traffic' : Traffic ι) :
    Prop where
  passer : traffic'.passer i = passer
  others : ∀ j, j ≠ i → traffic'.passer j = traffic.passer j
  secret : traffic'.secret = traffic.secret
  object : traffic'.object = traffic.object
  versions : traffic'.versions = traffic.versions
  updates : traffic'.updates = traffic.updates

omit [DecidableEq ι] in
/-- A pass goes on from where it came to. -/
theorem HasGoneOn.trans {traffic' traffic'' : Traffic ι} {passer passer' : Passer}
    (h : traffic.HasGoneOn i passer traffic') (h' : traffic'.HasGoneOn i passer' traffic'') :
    traffic.HasGoneOn i passer' traffic'' where
  passer := h'.passer
  others j hj := (h'.others j hj).trans (h.others j hj)
  secret := h'.secret.trans h.secret
  object := h'.object.trans h.object
  versions := h'.versions.trans h.versions
  updates := h'.updates.trans h.updates

/-- A pass sees something. -/
theorem Reaches.exists_sees (h : first.Reaches traffic) {effect : Effect}
    {next : effect.Reply → Procedure (Except Error Unit)} {reply : effect.Reply} {sight : Sight}
    (hrest : (traffic.passer i).rest = .step effect next)
    (hanswers : traffic.answers i effect reply (traffic.setSight i sight)) :
    ∃ traffic', first.Reaches traffic' ∧ traffic.HasGoneOn i ⟨next reply, sight⟩ traffic' :=
  ⟨_, h.pass hrest hanswers, by simp, fun j hj ↦ by simp [hj], rfl, rfl, rfl, rfl⟩

/-- A pass does something that does not show. -/
theorem Reaches.exists_idles (h : first.Reaches traffic) {effect : Effect}
    {next : effect.Reply → Procedure (Except Error Unit)} {reply : effect.Reply}
    (hrest : (traffic.passer i).rest = .step effect next)
    (hanswers : traffic.answers i effect reply traffic) :
    ∃ traffic', first.Reaches traffic' ∧
      traffic.HasGoneOn i ⟨next reply, (traffic.passer i).sight⟩ traffic' :=
  ⟨_, h.pass hrest hanswers, by simp, fun j hj ↦ by simp [hj], rfl, rfl, rfl, rfl⟩

variable {key : SecretKey} {consumer : Consumer} {secret : Secret} {ca : KeyPair}
  {object injected : ConsumerObject} {next : Except Error Unit → Procedure (Except Error Unit)}
  {sight : Sight} {version : Option String}

/-- What a pass read is replaced. -/
theorem Reaches.exists_replaces (h : first.Reaches traffic)
    (hpasser : traffic.passer i = ⟨.step (.store (.replaceConsumer consumer injected)) next, sight⟩)
    (hobject : traffic.object consumer = some object)
    (hmetadata : injected.metadata = object.metadata)
    (hversion : version ∉ traffic.versions consumer) :
    ∃ traffic' update, first.Reaches traffic' ∧ traffic'.updates = update :: traffic.updates ∧
      traffic'.object consumer = some (injected.withVersion version) ∧
      ∀ j, j ≠ i → traffic'.passer j = traffic.passer j := by
  have hanswer : traffic.answers i (.store (.replaceConsumer consumer injected)) (.ok ())
      (traffic.afterUpdate i consumer object (injected.withVersion version)) :=
    .inl ⟨object, _, hobject, by rw [hmetadata], injected.isVersionOf_withVersion _,
      .inl hversion, rfl⟩
  refine ⟨_, ⟨i, consumer, (traffic.passer i).sight, object, injected.withVersion version⟩,
    h.pass (congrArg Passer.rest hpasser) hanswer, rfl, Function.update_self _ _ _, fun j hj ↦ ?_⟩
  rw [passer_goOn_of_ne hj]
  exact passer_setSight_of_ne hj _ _

/-- A replacement of what is no longer there is refused. -/
theorem Reaches.exists_refused (h : first.Reaches traffic) (e : Error)
    (hpasser : traffic.passer i = ⟨.step (.store (.replaceConsumer consumer injected)) next, sight⟩)
    (hother : traffic.object consumer ≠ sight.object consumer) :
    ∃ traffic', first.Reaches traffic' ∧
      traffic.HasGoneOn i ⟨next (.error e), { sight with isOvertaken := true }⟩ traffic' := by
  have hsight : traffic.sightAfter i consumer = { sight with isOvertaken := true } := by
    simp [sightAfter, Sight.afterReplace, hpasser, hother]
  have hanswer : traffic.answers i (.store (.replaceConsumer consumer injected)) (.error e)
      (traffic.setSight i (traffic.sightAfter i consumer)) := .inr ⟨⟨e, rfl⟩, rfl⟩
  rw [hsight] at hanswer
  exact h.exists_sees (congrArg Passer.rest hpasser) hanswer

end Traffic

/-! ### A pass that is overtaken -/

/-- What a pass does for a single consumer that can take the bundle, if the replacement fails. -/
theorem Reconciler.exists_reconcile_eq (key : SecretKey) {consumer : Consumer} {secret : Secret}
    {ca : KeyPair} {object injected : ConsumerObject}
    (hdeleting : secret.metadata.isDeleting = false) (hload : secret.authority = .ok ca)
    (hlive : object.metadata.isDeleting = false)
    (hinject : Injection.inject consumer.kind ca.certPem object = (injected, .ok ())) :
    ∃ afterSecret afterObject event afterReplace,
      Reconciler.reconcile ⟨key, [consumer]⟩ = .step (.store (.getSecret key)) afterSecret ∧
      afterSecret (.ok (some secret)) = .step (.store (.getConsumer consumer)) afterObject ∧
      afterObject (.ok (some object)) = .step (.log event) (fun _ ↦
        .step (.store (.replaceConsumer consumer injected)) afterReplace) ∧
      ∀ e, ∃ event measurement, afterReplace (.error e) =
        .step (.log event) fun _ ↦ .step (.record measurement) fun _ ↦ .pure (.error e) := by
  refine ⟨_, ?_, ?_, ?_, rfl, ?secret, ?object, ?replace⟩
  case secret =>
    show ((Reconciler.mk key [consumer]).propagate secret).bind _ = _
    rw [propagate_of_loaded _ hdeleting hload]
    rfl
  case object =>
    show (((if object.metadata.isDeleting = true then _ else
      update consumer ca.certPem object : Procedure _).bind _).bind _).bind _ = _
    simp only [hlive, Bool.false_eq_true, if_false, update, hinject]
    rfl
  case replace => exact fun e ↦ ⟨_, _, rfl⟩

namespace Traffic

variable {ι : Type} [DecidableEq ι] {first traffic : Traffic ι} {i : ι} {key : SecretKey}
  {consumer : Consumer} {secret : Secret} {ca : KeyPair} {object injected : ConsumerObject}

/-- A pass over a single consumer comes to where it is about to replace the object that it read. -/
theorem Reaches.exists_isAbout (h : first.Reaches traffic)
    (hdeleting : secret.metadata.isDeleting = false) (hload : secret.authority = .ok ca)
    (hlive : object.metadata.isDeleting = false)
    (hinject : Injection.inject consumer.kind ca.certPem object = (injected, .ok ()))
    (hpasser : traffic.passer i = ⟨Reconciler.reconcile ⟨key, [consumer]⟩, .nothing⟩)
    (hsecret : traffic.secret key = some secret) (hobject : traffic.object consumer = some object) :
    ∃ traffic' next sight, first.Reaches traffic' ∧
      traffic.HasGoneOn i ⟨.step (.store (.replaceConsumer consumer injected)) next, sight⟩
        traffic' ∧
      sight.object consumer = some object ∧
      ∀ e, ∃ event measurement, next (.error e) =
        .step (.log event) fun _ ↦ .step (.record measurement) fun _ ↦ .pure (.error e) := by
  obtain ⟨next₁, next₂, event, next₃, hstart, hnext₁, hnext₂, hnext₃⟩ :=
    Reconciler.exists_reconcile_eq key hdeleting hload hlive hinject
  have hrest : (traffic.passer i).rest = .step (.store (.getSecret key)) next₁ := by
    rw [hpasser, hstart]
  obtain ⟨traffic₁, hreach₁, hgone₁⟩ := h.exists_sees hrest (.inl ⟨rfl, rfl⟩)
  rw [hsecret, hnext₁] at hgone₁
  obtain ⟨traffic₂, hreach₂, hgone₂⟩ :=
    hreach₁.exists_sees (congrArg Passer.rest hgone₁.passer) (.inl ⟨rfl, rfl⟩)
  rw [hgone₁.object, hobject, hnext₂] at hgone₂
  have hlogs : traffic₂.answers i (.log event) () traffic₂ := rfl
  obtain ⟨traffic₃, hreach₃, hgone₃⟩ :=
    hreach₂.exists_idles (congrArg Passer.rest hgone₂.passer) hlogs
  refine ⟨traffic₃, next₃, _, hreach₃, (hgone₁.trans hgone₂).trans hgone₃, ?_, hnext₃⟩
  rw [hgone₂.passer]
  exact Function.update_self _ _ _

/-- A pass that is refused its replacement, since what it read is no longer there, ends with that
error. -/
theorem Reaches.exists_fails {next : Except Error Unit → Procedure (Except Error Unit)}
    {sight : Sight} (h : first.Reaches traffic) (e : Error)
    (hpasser : traffic.passer i = ⟨.step (.store (.replaceConsumer consumer injected)) next, sight⟩)
    (hother : traffic.object consumer ≠ sight.object consumer)
    (hfails : ∀ e, ∃ event measurement, next (.error e) =
      .step (.log event) fun _ ↦ .step (.record measurement) fun _ ↦ .pure (.error e)) :
    ∃ traffic', first.Reaches traffic' ∧
      traffic.HasGoneOn i ⟨.pure (.error e), { sight with isOvertaken := true }⟩ traffic' := by
  obtain ⟨traffic₁, hreach₁, hgone₁⟩ := h.exists_refused e hpasser hother
  obtain ⟨event, measurement, hnext⟩ := hfails e
  have hlogs : traffic₁.answers i (.log event) () traffic₁ := rfl
  obtain ⟨traffic₂, hreach₂, hgone₂⟩ :=
    hreach₁.exists_idles ((congrArg Passer.rest hgone₁.passer).trans hnext) hlogs
  have hrecords : traffic₂.answers i (.record measurement) () traffic₂ := rfl
  obtain ⟨traffic₃, hreach₃, hgone₃⟩ :=
    hreach₂.exists_idles (congrArg Passer.rest hgone₂.passer) hrecords
  rw [hgone₁.passer] at hgone₂
  rw [hgone₂.passer] at hgone₃
  exact ⟨traffic₃, hreach₃, (hgone₁.trans hgone₂).trans hgone₃⟩

/-- **Of two passes that read the same object, one may replace it, so that the other is overtaken
and fails.** -/
theorem exists_overtaken (hdeleting : secret.metadata.isDeleting = false)
    (hload : secret.authority = .ok ca) (hlive : object.metadata.isDeleting = false)
    (hinject : Injection.inject consumer.kind ca.certPem object = (injected, .ok ()))
    {version : Option String} (hversion : version ≠ object.metadata.resourceVersion) (e : Error) :
    ∃ traffic : Traffic Bool,
      (start (fun _ ↦ ⟨key, [consumer]⟩) (fun _ ↦ some secret) fun _ ↦ some object).Reaches
        traffic ∧
      (∃ update, traffic.updates = [update]) ∧ (traffic.passer true).sight.isOvertaken = true ∧
      (traffic.passer true).rest = .pure (.error e) := by
  let first : Traffic Bool :=
    start (fun _ ↦ ⟨key, [consumer]⟩) (fun _ ↦ some secret) fun _ ↦ some object
  have hne : true ≠ false := by decide
  -- both of them read the object
  have hstart : first.Reaches first := .refl
  have htrue : first.passer true = ⟨Reconciler.reconcile ⟨key, [consumer]⟩, .nothing⟩ := rfl
  obtain ⟨traffic₁, next₁, sight₁, hreach₁, hgone₁, hseen₁, hfails⟩ :=
    hstart.exists_isAbout hdeleting hload hlive hinject htrue rfl rfl
  have hfalse : traffic₁.passer false = ⟨Reconciler.reconcile ⟨key, [consumer]⟩, .nothing⟩ :=
    hgone₁.others false hne.symm
  obtain ⟨traffic₂, next₂, sight₂, hreach₂, hgone₂, -, -⟩ :=
    hreach₁.exists_isAbout hdeleting hload hlive hinject hfalse (by rw [hgone₁.secret]; rfl)
      (by rw [hgone₁.object]; rfl)
  -- one of them replaces it
  have hthere : traffic₂.object consumer = some object := by
    rw [hgone₂.object, hgone₁.object]
    rfl
  have hfresh : version ∉ traffic₂.versions consumer := by
    rw [hgone₂.versions, hgone₁.versions]
    exact fun h ↦ hversion (List.mem_singleton.1 h)
  obtain ⟨traffic₃, update, hreach₃, hupdates, hobject, hothers⟩ :=
    hreach₂.exists_replaces hgone₂.passer hthere
      (congrArg (fun result ↦ result.1.metadata) hinject.symm) hfresh
  -- the other one is refused
  have hpasser : traffic₃.passer true =
      ⟨.step (.store (.replaceConsumer consumer injected)) next₁, sight₁⟩ := by
    rw [hothers true hne, hgone₂.others true hne, hgone₁.passer]
  have hother : traffic₃.object consumer ≠ sight₁.object consumer := by
    rw [hobject, hseen₁]
    intro heq
    exact hversion (congrArg (·.metadata.resourceVersion) (Option.some.inj heq))
  obtain ⟨traffic₄, hreach₄, hgone₄⟩ := hreach₃.exists_fails e hpasser hother hfails
  refine ⟨traffic₄, hreach₄, ⟨update, ?_⟩, ?_, congrArg Passer.rest hgone₄.passer⟩
  · rw [hgone₄.updates, hupdates, hgone₂.updates, hgone₁.updates]
    rfl
  · rw [hgone₄.passer]

end Traffic

end WebhookTrust
