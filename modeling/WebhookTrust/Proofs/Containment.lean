import WebhookTrust.Proofs.Exchanges
import WebhookTrust.Proofs.Isolation

/-!
# What a failed injection leaves

An injection that fails is over at the first malformed part that it meets. Of webhooks it is the
first malformed one: those before it hold the bundle by then, while it and all behind it are as they
were. In a resource definition, and in an admission configuration without webhooks, nothing is
changed at all.

* `Injection.stopsAt_of_fails`: **injection that fails stops at the first malformed webhook.** What
  is in front of it is changed each for itself, and then it goes on behind
  (`Injection.injectWebhooks_append`).
* `Injection.isContained_of_fails`: **an injection that fails is contained**, for every kind of
  consumer.
* `Reconciler.failed_injection_contained`: **what was changed in part is never written.** A visit to
  an object that cannot take the bundle is over when the object is read
  (`Reconciler.Visit.of_refused`), and an error of this sort comes from nowhere else, unless the
  store replies with one. So what is stored stays what it was, in any surroundings in which it
  changes by being written only (`Reconciler.IsStored`).

The changed object is given up: no store ever gets it. That it is changed in part is stated because
a caller of the injection alone can see it.
-/

namespace WebhookTrust

namespace Injection

variable {bundle : Json} {kind : ConsumerKind} {caPem : Bytes} {object : ConsumerObject}
  {fault : Fault}

/-! ### Webhooks -/

/-- A webhook with the bundle, if it takes one. -/
def webhookWith? (bundle : Json) : Json → Option Json
  | .object members => (setClientBundle? bundle members).map .object
  | _ => none

/-- Injection stopped at a webhook, the first malformed one. Each of those in front of it took the
bundle, and the others are as they were. -/
structure StopsAt (bundle : Json) (webhooks : List Json) (index : Nat) (fault : Fault)
    (left : List Json) : Prop where
  malformed : ∃ webhook, webhooks[index]? = some webhook ∧ ¬ HasClient webhook ∧
    fault = faultAt index webhook
  first : ∀ earlier < index, ∀ webhook, webhooks[earlier]? = some webhook → HasClient webhook
  injected : (webhooks.take index).mapM (webhookWith? bundle) = some (left.take index)
  kept : left.drop index = webhooks.drop index

/-- What has a client configuration takes a bundle. -/
theorem exists_webhookWith? {webhook : Json} (h : HasClient webhook) (bundle : Json) :
    ∃ members changed, webhook = .object members ∧ setClientBundle? bundle members = some changed ∧
      webhookWith? bundle webhook = some (.object changed) := by
  obtain ⟨members, rfl, hinner⟩ := h
  obtain ⟨changed, hset⟩ := Option.isSome_iff_exists.1
    ((setClientBundle?_isSome bundle).2 ⟨members, rfl, hinner⟩)
  exact ⟨members, changed, rfl, hset, by simp [webhookWith?, hset]⟩

/-- Webhooks that are got through are changed each for itself. -/
theorem mapM_webhookWith? (index : Nat) {webhooks : List Json}
    (h : ∀ webhook ∈ webhooks, HasClient webhook) :
    webhooks.mapM (webhookWith? bundle) = some (injectWebhooks bundle index webhooks).1 := by
  induction webhooks generalizing index with
  | nil => rfl
  | cons webhook rest ih =>
    obtain ⟨hwebhook, hrest⟩ := List.forall_mem_cons.1 h
    obtain ⟨members, changed, rfl, hset, hwith⟩ := exists_webhookWith? hwebhook bundle
    simp [List.mapM_cons, hwith, ih (index + 1) hrest, injectWebhooks_cons_of_some hset]

/-- Webhooks in front that are got through are changed, and then it goes on behind them. -/
theorem injectWebhooks_append {before : List Json} (h : ∀ webhook ∈ before, HasClient webhook)
    (index : Nat) (rest : List Json) : injectWebhooks bundle index (before ++ rest) =
      ((injectWebhooks bundle index before).1 ++
        (injectWebhooks bundle (index + before.length) rest).1,
      (injectWebhooks bundle (index + before.length) rest).2) := by
  induction before generalizing index with
  | nil => rfl
  | cons webhook before ih =>
    obtain ⟨hwebhook, hbefore⟩ := List.forall_mem_cons.1 h
    obtain ⟨members, changed, rfl, hset, -⟩ := exists_webhookWith? hwebhook bundle
    have hlength : index + (before.length + 1) = index + 1 + before.length := by omega
    simp only [List.cons_append, injectWebhooks_cons_of_some hset, ih hbefore, List.length_cons,
      hlength]

/-- **Injection that fails stops at the first malformed webhook.** -/
theorem stopsAt_of_fails {webhooks : List Json}
    (h : (injectWebhooks bundle 0 webhooks).2 = .error fault) :
    ∃ index, StopsAt bundle webhooks index fault (injectWebhooks bundle 0 webhooks).1 := by
  classical
  have hsome : (webhooks.find? fun webhook ↦ ¬ HasClient webhook).isSome = true := by
    have hfails : ¬ ∀ webhook ∈ webhooks, HasClient webhook :=
      mt (injectWebhooks_eq_ok bundle 0).2 (by simp [h])
    simpa using hfails
  obtain ⟨webhook, hfind⟩ := Option.isSome_iff_exists.1 hsome
  obtain ⟨hwebhook, before, rest, rfl, hbefore⟩ := List.find?_eq_some_iff_append.1 hfind
  have hclients : ∀ earlier ∈ before, HasClient earlier := by simpa using hbefore
  have hstop : ¬ HasClient webhook := by simpa using hwebhook
  rw [injectWebhooks_append hclients, injectWebhooks_cons_of_not hstop, Nat.zero_add] at h ⊢
  have hlength := length_injectWebhooks bundle 0 before
  refine ⟨before.length, ⟨webhook, by simp, hstop, (Except.error.inj h).symm⟩, ?_, ?_, ?_⟩
  · intro earlier hlt other hother
    rw [List.getElem?_append_left hlt] at hother
    exact hclients other (List.mem_of_getElem? hother)
  · rw [List.take_left, ← hlength, List.take_left]
    exact mapM_webhookWith? 0 hclients
  · rw [List.drop_left, ← hlength, List.drop_left]

/-! ### Objects -/

/-- What a failed injection leaves of an object: nothing is changed, or the webhooks in front of the
first malformed one. -/
structure IsContained (kind : ConsumerKind) (caPem : Bytes) (object : ConsumerObject)
    (fault : Fault) : Prop where
  unchanged (h : kind = .crdConversion ∨
      ∀ webhooks, object.data.get? "webhooks" ≠ some (.array webhooks)) :
    (inject kind caPem object).1 = object
  stops (hkind : kind ≠ .crdConversion) (webhooks : List Json)
      (h : object.data.get? "webhooks" = some (.array webhooks)) :
    ∃ index left, StopsAt (bundleOf caPem) webhooks index fault left ∧
      (inject kind caPem object).1 =
        { object with data := object.data.put "webhooks" (.array left) }

/-- A resource definition that cannot take the bundle is left as it was. -/
theorem injectDefinition_of_fails {data : Json}
    (h : (injectDefinition bundle data).2 = .error fault) :
    (injectDefinition bundle data).1 = data := by
  rcases injectDefinition_cases bundle data with
    ⟨fault, hfails⟩ | ⟨spec, conversion, changed, hspec, hconversion, hchanged⟩
  · rw [hfails]
  · simp [injectDefinition_of_ok hspec hconversion hchanged] at h

/-- **An injection that fails is contained.** -/
theorem isContained_of_fails (h : (inject kind caPem object).2 = .error fault) :
    IsContained kind caPem object fault := by
  have hadmission (hnone : ∀ webhooks, object.data.get? "webhooks" ≠ some (.array webhooks)) :
      (injectAdmission (bundleOf caPem) object.data).1 = object.data := by
    rcases injectAdmission_cases object.data with ⟨webhooks, hwebhooks⟩ | ⟨-, hnothing⟩
    · exact (hnone webhooks hwebhooks).elim
    · rw [hnothing]
  have hstops (hfails : (injectAdmission (bundleOf caPem) object.data).2 = .error fault)
      (webhooks : List Json) (hwebhooks : object.data.get? "webhooks" = some (.array webhooks)) :
      ∃ index left, StopsAt (bundleOf caPem) webhooks index fault left ∧
        (injectAdmission (bundleOf caPem) object.data).1 =
          object.data.put "webhooks" (.array left) := by
    rw [injectAdmission_of_array hwebhooks] at hfails ⊢
    obtain ⟨index, hstop⟩ := stopsAt_of_fails hfails
    exact ⟨index, _, hstop, rfl⟩
  cases kind with
  | crdConversion =>
    refine ⟨fun _ ↦ ?_, fun hkind ↦ (hkind rfl).elim⟩
    simp only [inject, injectData, injectDefinition_of_fails h]
  | validating | mutating =>
    refine ⟨fun hnone ↦ ?_, fun _ webhooks hwebhooks ↦ ?_⟩
    · simp only [inject, injectData, hadmission (hnone.resolve_left (by simp))]
    · obtain ⟨index, left, hstop, hleft⟩ := hstops h webhooks hwebhooks
      exact ⟨index, left, hstop, by simp only [inject, injectData, hleft]⟩

end Injection

/-! ### Nothing is written -/

namespace Reconciler

open Procedure

variable {σ : Type}

/-- The object that was read is not being deleted, but it cannot take the bundle. -/
def Refuses (caPem : Bytes) (consumer : Consumer) (history : List Exchange)
    (object : ConsumerObject) (fault : Injection.Fault) : Prop :=
  ⟨.getConsumer consumer, .ok (some object)⟩ ∈ history ∧ object.metadata.isDeleting = false ∧
    (Injection.inject consumer.kind caPem object).2 = .error fault

/-- What is stored for the consumer changes by no effect but its replacement. -/
def IsStored (answer : (effect : Effect) → σ → effect.Reply × σ) (consumer : Consumer)
    (stored : σ → Option ConsumerObject) : Prop :=
  ∀ effect real, (∀ object, effect ≠ .store (.replaceConsumer consumer object)) →
    stored (answer effect real).2 = stored real

/-- **A failed injection is contained.** The error names the kind and the object, which is changed
as `Injection.IsContained` says. What is changed is not written: the consumer is read first, and if
it cannot take the bundle there is no other call to the store. Errors of this sort come from nowhere
else, unless the store itself replies with one. -/
theorem failed_injection_contained :
    (∀ kind caPem object fault, (Injection.inject kind caPem object).2 = .error fault →
      injectionError kind object fault =
        .injection kind.kindName object.metadata.displayName fault ∧
      Injection.IsContained kind caPem object fault) ∧
    ∀ (σ : Type) (answer : (effect : Effect) → σ → effect.Reply × σ) (real : σ) (caPem : Bytes)
      (consumer : Consumer),
      let history := (ensure caPem consumer).exchanges answer real
      let run := (ensure caPem consumer).run answer real
      (∃ reply rest, history = ⟨.getConsumer consumer, reply⟩ :: rest) ∧
      (∀ object fault, Refuses caPem consumer history object fault →
        run.1 = .ok (.error
          (.injection consumer.kind.kindName object.metadata.displayName fault)) ∧
        history = [⟨.getConsumer consumer, .ok (some object)⟩] ∧
        ∀ stored, IsStored answer consumer stored → stored run.2 = stored real) ∧
      ∀ kindName name fault, run.1 = .ok (.error (.injection kindName name fault)) →
        (∃ exchange ∈ history, exchange.error? = some (.injection kindName name fault)) ∨
        ∃ object, Refuses caPem consumer history object fault ∧
          kindName = consumer.kind.kindName ∧ name = object.metadata.displayName := by
  refine ⟨fun _ _ _ _ h ↦ ⟨rfl, Injection.isContained_of_fails h⟩,
    fun σ answer real caPem consumer ↦ ?_⟩
  intro history run
  obtain ⟨reply, hrun, hvisit⟩ := exists_visit answer real caPem consumer
  refine ⟨hvisit.reads, fun object fault ⟨hmem, hlive, hfault⟩ ↦ ?_,
    fun kindName name fault hresult ↦ ?_⟩
  · obtain ⟨hreply, hhistory⟩ := hvisit.of_refused hmem hlive hfault
    refine ⟨hreply ▸ hrun, hhistory, fun stored hstored ↦ ?_⟩
    refine run_keeps (fun call ↦ ∃ object, call = .replaceConsumer consumer object)
      (fun effect real hother ↦ hstored effect real ?_) ?_
    · rintro object rfl
      exact hother _ rfl ⟨object, rfl⟩
    · rw [hhistory, List.forall_mem_singleton]
      simp
  · obtain rfl : reply = .error (.injection kindName name fault) :=
      Except.ok.inj (hrun.symm.trans hresult)
    obtain hreplied | ⟨object, fault', hmem, hlive, hfault, herror⟩ := hvisit.error_cases
    · exact .inl hreplied
    · obtain ⟨rfl, rfl, rfl⟩ := Error.injection.inj herror
      exact .inr ⟨object, ⟨hmem, hlive, hfault⟩, rfl, rfl⟩

/-- In the store in memory. -/
theorem isStored_serve (faults : Faults) (consumer : Consumer) :
    IsStored (MemoryStore.serve faults) consumer (·.consumer? consumer) := by
  intro effect store hother
  cases effect with
  | store call =>
    cases call with
    | getConsumer read =>
      simp only [MemoryStore.serve]
      split
      · rfl
      · rcases store.answer_getConsumer_cases read with ⟨e, h⟩ | h <;> rw [h]
    | replaceConsumer replaced object =>
      have hne : consumer ≠ replaced := fun h ↦ hother object (h ▸ rfl)
      simp only [MemoryStore.serve]
      split
      · rfl
      · rcases store.answer_replaceConsumer_cases replaced object with ⟨e, h⟩ | ⟨-, h⟩
        · rw [h]
        · rw [h, MemoryStore.consumer?_writeConsumer, if_neg hne]
    | getSecret key => rfl
    | createSecret secret =>
      show (store.answer (.createSecret secret)).2.consumer? consumer = store.consumer? consumer
      rcases store.answer_createSecret_cases secret with ⟨e, h⟩ | ⟨key, -, -, h⟩
      · rw [h]
      · rw [h]
        rfl
    | replaceSecret secret =>
      show (store.answer (.replaceSecret secret)).2.consumer? consumer = store.consumer? consumer
      rcases store.answer_replaceSecret_cases secret with ⟨e, h⟩ | ⟨key, -, -, h⟩
      · rw [h]
      · rw [h]
        rfl
  | now | newKey | jitter | sleep | log | record | notify | fileExists | isInjected | setInjected
  | fire | await | spawnPollers | startTicker | wait => rfl

/-- A consumer with a webhook that is malformed, between two that are not. -/
def refusing : Consumer := ⟨.mutating, "refusing"⟩

/-- Its object. -/
def refusingObject : ConsumerObject :=
  ⟨none, .empty, .object [("webhooks", .array [.object [], .null, .object []])]⟩

/-- The first of the webhooks takes the bundle, and the store is left as it is. -/
theorem failed_injection_contained_refusing :
    let store := MemoryStore.empty.putConsumer refusing refusingObject
    let run := (ensure [0x41] refusing).run (MemoryStore.serve .none) store
    run.1 = .ok (.error (.injection "MutatingWebhookConfiguration" "" (.malformedWebhook 1))) ∧
      run.2.consumer? refusing = some refusingObject ∧
      ∃ index left, Injection.StopsAt (Injection.bundleOf [0x41])
          [.object [], .null, .object []] index (.malformedWebhook 1) left ∧
        (Injection.inject .mutating [0x41] refusingObject).1.data =
          .object [("webhooks", .array left)] := by
  intro store run
  have hfault : (Injection.inject .mutating [0x41] refusingObject).2 =
      .error (.malformedWebhook 1) := rfl
  obtain ⟨hobject, hensure⟩ := failed_injection_contained
  obtain ⟨-, hrun, -⟩ := hensure _ (MemoryStore.serve .none) store [0x41] refusing
  obtain ⟨hresult, -, hstored⟩ := hrun refusingObject _ ⟨List.mem_cons_self, rfl, hfault⟩
  obtain ⟨index, left, hstops, hleft⟩ :=
    (hobject _ _ _ _ hfault).2.stops (by decide) [.object [], .null, .object []] rfl
  exact ⟨hresult, hstored (·.consumer? refusing) (isStored_serve .none refusing), index, left,
    hstops, congrArg ConsumerObject.data hleft⟩

end Reconciler

end WebhookTrust
