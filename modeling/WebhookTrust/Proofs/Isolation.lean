import Mathlib.Logic.Function.Basic
import WebhookTrust.Proofs.Passes
import WebhookTrust.Proofs.Reinjection
import WebhookTrust.Proofs.Versions

/-!
# One failing consumer among others

Reads and writes of some consumers fail, and nobody else writes. A pass over consumers without
repeats tries all of them, in their order. What one of them comes to is told from its own object and
its own faults (`Reconciler.Settles`), whatever becomes of the others; the pass fails with the error
of the last consumer that failed (`Reconciler.Isolates`). So neither the order matters nor what
failed in a pass before: a pass without faults leaves the same in either case.

## The theorems, and what each rests on

* `Reconciler.ensures_ensure_faulty`: bringing a consumer up to date concerns no other, and goes by
  its own object and faults. The cases are those of `Reconciler.ensures_ensure_of`; each ends as
  `Reconciler.EndsAt` says.
* `Reconciler.ensures_ensureAll_faulty`: **consumers without repeats are settled one after the
  other.** The step before is the step of the induction in `Reconciler.ensures_ensureFrom_of`. That
  there are no repeats is used here: what comes later does not touch what was settled.
* `Reconciler.Settles.again`: **a pass without faults leaves the same, whatever failed in a pass
  before it.** It rests on injection being idempotent and on its taking any bundle where it takes
  one (`WebhookTrust.Proofs.Reinjection`). Versions differ, so sameness is up to the version of the
  object (`IsSameObject`).
* `Reconciler.ensureAll_isolates`: **a pass isolates the consumers that fail.** It is stated for
  runs against any store that answers as the contract says (`Contract.faulty`); the store in memory
  is one (`MemoryStore.keptBy_faulty`).
-/

namespace WebhookTrust

/-! ### Faults -/

/-- The consumers whose reads and whose writes fail, each with its error. -/
structure Faults where
  read : Consumer → Option Error
  write : Consumer → Option Error

/-- Nothing fails. -/
def Faults.none : Faults := ⟨fun _ ↦ Option.none, fun _ ↦ Option.none⟩

namespace Contract

/-- The effects that concern the consumers, or nobody. -/
def permitsInjecting (objects : Consumer → Option ConsumerObject) : Effect → Prop
  | .store (.getConsumer _) | .jitter | .sleep _ | .log _ => True
  | .store (.replaceConsumer consumer _) => (objects consumer).isSome
  | .store (.getSecret _) | .store (.createSecret _) | .store (.replaceSecret _) | .now | .newKey
  | .record _ | .notify _ | .fileExists _ | .isInjected | .setInjected | .fire _ | .await _
  | .spawnPollers | .startTicker _ | .wait => False

/-- Nobody else writes to the consumers, whose reads and writes fail or not. A write that succeeds
stores a version of what is written, and one that fails stores nothing. -/
def faulty (faults : Faults) : Contract (Consumer → Option ConsumerObject) where
  permits := permitsInjecting
  answers objects
    | .store (.getConsumer consumer), reply, objects' => objects' = objects ∧
      reply = (faults.read consumer).elim (.ok (objects consumer)) .error
    | .store (.replaceConsumer consumer object), reply, objects' =>
      match faults.write consumer with
      | some e => reply = .error e ∧ objects' = objects
      | none => reply = .ok () ∧ ∃ stored : ConsumerObject, stored.IsVersionOf object ∧
        objects' = Function.update objects consumer (some stored)
    | _, _, objects' => objects' = objects

theorem isIdle_faulty (faults : Faults) : (faulty faults).IsIdle := by
  intro objects effect hidle
  cases effect <;> first | exact hidle.elim | exact ⟨trivial, fun _ _ h ↦ h⟩

end Contract

namespace Reconciler

open Procedure

/-- The consumer that an effect reads. -/
def readConsumer? : Effect → Option Consumer
  | .store (.getConsumer consumer) => some consumer
  | _ => none

/-! ### The fate of one consumer -/

/-- Nothing keeps the object of the consumer from taking the bundle. -/
structure IsServed (faults : Faults) (consumer : Consumer) (found : Option ConsumerObject)
    (object : ConsumerObject) : Prop where
  readable : faults.read consumer = none
  isThere : found = some object
  isLive : object.metadata.isDeleting = false
  accepts : Injection.Accepts consumer.kind object.data
  writable : faults.write consumer = none

/-- The consumer fails with an error: it cannot be read, or cannot take the bundle, or cannot be
written. -/
inductive FailsWith (faults : Faults) (caPem : Bytes) (consumer : Consumer)
    (found : Option ConsumerObject) : Error → Prop
  | unreadable {e : Error} (hread : faults.read consumer = some e) :
    FailsWith faults caPem consumer found e
  | malformed {object : ConsumerObject} {fault : Injection.Fault}
    (hread : faults.read consumer = none) (hfound : found = some object)
    (hlive : object.metadata.isDeleting = false)
    (hshape : ¬ Injection.Accepts consumer.kind object.data)
    (hfault : (Injection.inject consumer.kind caPem object).2 = .error fault) :
    FailsWith faults caPem consumer found (injectionError consumer.kind object fault)
  | unwritable {object : ConsumerObject} {e : Error} (hread : faults.read consumer = none)
    (hfound : found = some object) (hlive : object.metadata.isDeleting = false)
    (hshape : Injection.Accepts consumer.kind object.data)
    (hwrite : faults.write consumer = some e) : FailsWith faults caPem consumer found e

/-- What becomes of a consumer: it holds the object that took the bundle if it is served, and what
it held before if not. -/
structure Settles (faults : Faults) (caPem : Bytes) (consumer : Consumer)
    (found held : Option ConsumerObject) : Prop where
  served : ∀ object, IsServed faults consumer found object →
    ∃ stored, held = some stored ∧
      stored.IsVersionOf (Injection.inject consumer.kind caPem object).1
  others : (∀ object, ¬ IsServed faults consumer found object) → held = found

variable {faults : Faults} {caPem : Bytes} {consumer : Consumer}
  {found : Option ConsumerObject} {objects : Consumer → Option ConsumerObject}

/-- A consumer that cannot be read fails with the error of the read. -/
theorem failsWith_of_unreadable {e e' : Error} (hread : faults.read consumer = some e) :
    FailsWith faults caPem consumer found e' ↔ e' = e := by
  refine ⟨fun h ↦ ?_, fun h ↦ h ▸ .unreadable hread⟩
  cases h with
  | unreadable hread' => exact Option.some.inj (hread'.symm.trans hread)
  | malformed hread' | unwritable hread' => simp [hread] at hread'

/-- A consumer that can be read fails if its object is there, is not being deleted, and cannot take
the bundle or be written. -/
theorem failsWith_iff {e : Error} (hread : faults.read consumer = none) :
    FailsWith faults caPem consumer found e ↔
      ∃ object, found = some object ∧ object.metadata.isDeleting = false ∧
        ((∃ fault, (Injection.inject consumer.kind caPem object).2 = .error fault ∧
          e = injectionError consumer.kind object fault) ∨
        (Injection.inject consumer.kind caPem object).2 = .ok () ∧
          faults.write consumer = some e) := by
  constructor
  · rintro (hread' | ⟨-, hfound, hlive, -, hfault⟩ | ⟨-, hfound, hlive, hshape, hwrite⟩)
    · simp [hread] at hread'
    · exact ⟨_, hfound, hlive, .inl ⟨_, hfault, rfl⟩⟩
    · exact ⟨_, hfound, hlive, .inr ⟨Injection.inject_eq_ok.2 hshape, hwrite⟩⟩
  · rintro ⟨object, hfound, hlive, ⟨fault, hfault, rfl⟩ | ⟨hok, hwrite⟩⟩
    · refine .malformed hread hfound hlive (fun hshape ↦ ?_) hfault
      simp [Injection.inject_eq_ok.2 hshape] at hfault
    · exact .unwritable hread hfound hlive (Injection.inject_eq_ok.1 hok) hwrite

/-- A consumer that is served does not fail. -/
theorem IsServed.not_failsWith {object : ConsumerObject} {e : Error}
    (h : IsServed faults consumer found object) : ¬ FailsWith faults caPem consumer found e := by
  have hok : (Injection.inject consumer.kind caPem object).2 = .ok () :=
    Injection.inject_eq_ok.2 h.accepts
  simp [failsWith_iff h.readable, h.isThere, hok, h.writable]

/-- A consumer that is not served is settled as it is. -/
theorem settles_of_not_served (h : ∀ object, ¬ IsServed faults consumer found object) :
    Settles faults caPem consumer found found :=
  ⟨fun object hserved ↦ (h object hserved).elim, fun _ ↦ rfl⟩

/-- A consumer that is served is settled when it holds the object that took the bundle. -/
theorem settles_of_served {object stored : ConsumerObject}
    (h : IsServed faults consumer found object)
    (hstored : stored.IsVersionOf (Injection.inject consumer.kind caPem object).1) :
    Settles faults caPem consumer found (some stored) := by
  refine ⟨fun object' h' ↦ ?_, fun hnone ↦ (hnone object h).elim⟩
  obtain rfl : object = object' := Option.some.inj (h.isThere.symm.trans h'.isThere)
  exact ⟨stored, rfl, hstored⟩

/-- How a consumer ends: with its error if it fails, settled, and noted as tried. -/
def EndsAt (faults : Faults) (caPem : Bytes) (consumer : Consumer) (past : List Consumer)
    (objects : Consumer → Option ConsumerObject) (result : Except Halt (Except Error Unit))
    (state : List Consumer × (Consumer → Option ConsumerObject)) : Prop :=
  ∃ reply, result = .ok reply ∧ state.1 = past ++ [consumer] ∧
    (∀ e, reply = .error e ↔ FailsWith faults caPem consumer (objects consumer) e) ∧
    Settles faults caPem consumer (objects consumer) (state.2 consumer) ∧
    ∀ other, other ≠ consumer → state.2 other = objects other

/-- A consumer that is left alone is settled with what was there. -/
theorem endsAt_of_not_served {past : List Consumer} {reply : Except Error Unit}
    (hreply : ∀ e, reply = .error e ↔ FailsWith faults caPem consumer (objects consumer) e)
    (hserved : ∀ object, ¬ IsServed faults consumer (objects consumer) object) :
    EndsAt faults caPem consumer past objects (.ok reply) (past ++ [consumer], objects) :=
  ⟨reply, rfl, rfl, hreply, settles_of_not_served hserved, fun _ _ ↦ rfl⟩

/-- An object that took the bundle is written back, or the write fails. -/
theorem endsAt_of_write {past : List Consumer} {object : ConsumerObject} {reply : Except Error Unit}
    {state : List Consumer × (Consumer → Option ConsumerObject)}
    (hread : faults.read consumer = none) (hfound : objects consumer = some object)
    (hlive : object.metadata.isDeleting = false)
    (hok : (Injection.inject consumer.kind caPem object).2 = .ok ())
    (h : ((Contract.faulty faults).noting readConsumer?).answers (past ++ [consumer], objects)
      (.store (.replaceConsumer consumer (Injection.inject consumer.kind caPem object).1)) reply
      state) :
    EndsAt faults caPem consumer past objects (.ok reply) state := by
  obtain ⟨tried, objects'⟩ := state
  obtain ⟨htried, hanswer⟩ := h
  obtain rfl : tried = past ++ [consumer] := htried.trans (List.append_nil _)
  simp only [Contract.faulty] at hanswer
  cases hwrite : faults.write consumer with
  | some e =>
    rw [hwrite] at hanswer
    obtain ⟨rfl, rfl⟩ := hanswer
    refine endsAt_of_not_served (fun e' ↦ ?_) fun other h ↦ ?_
    · simp only [failsWith_iff hread, hfound, hlive, hok, hwrite, Option.some.injEq,
        exists_eq_left', true_and, reduceCtorEq, false_and, exists_false, false_or]
      exact ⟨Except.error.inj, congrArg _⟩
    · simpa [hwrite] using h.writable
  | none =>
    rw [hwrite] at hanswer
    obtain ⟨rfl, stored, hstored, rfl⟩ := hanswer
    refine ⟨_, rfl, rfl, fun e ↦ ?_, ?_, fun other hother ↦ Function.update_of_ne hother _ _⟩
    · simp [failsWith_iff hread, hfound, hlive, hok, hwrite]
    · show Settles _ _ _ _ (Function.update objects consumer (some stored) consumer)
      rw [Function.update_self]
      exact settles_of_served ⟨hread, hfound, hlive, Injection.inject_eq_ok.1 hok, hwrite⟩ hstored

/-- What is done about an object that was read settles its consumer. -/
theorem handles_faulty {past : List Consumer} {object : ConsumerObject}
    (hread : faults.read consumer = none) (hfound : objects consumer = some object) :
    Handles ((Contract.faulty faults).noting readConsumer?)
      (EndsAt faults caPem consumer past objects) caPem consumer object
      (past ++ [consumer], objects) where
  deleting hdeleting := by
    refine endsAt_of_not_served (fun e ↦ ?_) fun other h ↦ ?_
    · simp [failsWith_iff hread, hfound, hdeleting]
    · obtain rfl : object = other := Option.some.inj (hfound.symm.trans h.isThere)
      simpa [hdeleting] using h.isLive
  malformed fault hlive hmalformed := by
    refine endsAt_of_not_served (fun e ↦ ?_) fun other h ↦ ?_
    · simp only [failsWith_iff hread, hfound, hlive, hmalformed, Except.error.injEq,
        Option.some.injEq, exists_eq_left', true_and, reduceCtorEq, false_and, or_false]
      exact eq_comm
    · obtain rfl : object = other := Option.some.inj (hfound.symm.trans h.isThere)
      simp [Injection.inject_eq_ok.2 h.accepts] at hmalformed
  writes hlive hok := by
    refine ⟨?_, fun reply state' ↦ endsAt_of_write hread hfound hlive hok⟩
    simp [Contract.noting, Contract.faulty, Contract.permitsInjecting, hfound]

/-- **Bringing a consumer up to date concerns no other, and goes by its own object and faults.** -/
theorem ensures_ensure_faulty (past : List Consumer) :
    Ensures ((Contract.faulty faults).noting readConsumer?)
      (EndsAt faults caPem consumer past objects) (ensure caPem consumer) (past, objects) := by
  have hidle : ((Contract.faulty faults).noting readConsumer?).IsIdle :=
    (Contract.isIdle_faulty faults).noting fun effect h ↦ by cases effect <;> first | rfl | cases h
  have hread : ∀ reply state', ((Contract.faulty faults).noting readConsumer?).answers
      (past, objects) (.store (.getConsumer consumer)) reply state' →
      state' = (past ++ [consumer], objects) ∧
        reply = (faults.read consumer).elim (.ok (objects consumer)) .error :=
    fun _ _ h ↦ ⟨Prod.ext h.1 h.2.1, h.2.2⟩
  cases hfault : faults.read consumer with
  | some e =>
    rw [hfault] at hread
    refine ensures_ensure_of hidle trivial (fun e' state' hanswer ↦ ?_)
      (fun state' hanswer ↦ ?_) fun object state' hanswer ↦ ?_
    · obtain ⟨rfl, hreply⟩ := hread _ _ hanswer
      obtain rfl := Except.error.inj hreply
      refine endsAt_of_not_served (fun e ↦ ?_) fun object h ↦ ?_
      · rw [failsWith_of_unreadable hfault, Except.error.injEq, eq_comm]
      · simpa [hfault] using h.readable
    · cases (hread _ _ hanswer).2
    · cases (hread _ _ hanswer).2
  | none =>
    rw [hfault] at hread
    refine ensures_ensure_of hidle trivial (fun e state' hanswer ↦ ?_)
      (fun state' hanswer ↦ ?_) fun object state' hanswer ↦ ?_
    · cases (hread _ _ hanswer).2
    · obtain ⟨rfl, hreply⟩ := hread _ _ hanswer
      have hmissing : objects consumer = none := (Except.ok.inj hreply).symm
      refine endsAt_of_not_served (fun e ↦ ?_) fun object h ↦ ?_
      · simp [failsWith_iff hfault, hmissing]
      · simpa [hmissing] using h.isThere
    · obtain ⟨rfl, hreply⟩ := hread _ _ hanswer
      exact handles_faulty hfault (Except.ok.inj hreply).symm

/-! ### The fate of all -/

/-- The last of some consumers that fails, and its error, if any of them fails. -/
def IsLastError (faults : Faults) (caPem : Bytes) (objects : Consumer → Option ConsumerObject)
    (consumers : List Consumer) : Option Error → Prop
  | none => ∀ consumer ∈ consumers, ∀ e, ¬ FailsWith faults caPem consumer (objects consumer) e
  | some e => ∃ before consumer behind, consumers = before ++ consumer :: behind ∧
    FailsWith faults caPem consumer (objects consumer) e ∧
    ∀ other ∈ behind, ∀ e, ¬ FailsWith faults caPem other (objects other) e

/-- One consumer more, which fails or not. -/
theorem IsLastError.snoc {done : List Consumer} {lastError : Option Error}
    {reply : Except Error Unit} (h : IsLastError faults caPem objects done lastError)
    (hreply : ∀ e, reply = .error e ↔ FailsWith faults caPem consumer (objects consumer) e) :
    IsLastError faults caPem objects (done ++ [consumer]) (lastErrorAfter lastError reply) := by
  rcases reply with e | u
  · exact ⟨done, consumer, [], rfl, (hreply e).1 rfl, by simp⟩
  · have hfine (e : Error) : ¬ FailsWith faults caPem consumer (objects consumer) e :=
      fun hfails ↦ by simpa using (hreply e).2 hfails
    cases lastError with
    | none =>
      intro other hother
      rcases List.mem_append.1 hother with hdone | hlast
      · exact h other hdone
      · exact List.mem_singleton.1 hlast ▸ hfine
    | some e =>
      obtain ⟨before, last, behind, rfl, hlast, hbehind⟩ := h
      refine ⟨before, last, behind ++ [consumer], by simp, hlast, fun other hother ↦ ?_⟩
      rcases List.mem_append.1 hother with hother | hother
      · exact hbehind other hother
      · exact List.mem_singleton.1 hother ▸ hfine

/-- What a pass comes to: every consumer is tried, each is settled for itself, and the result is the
error of the last one that fails, if any does. -/
structure Isolates (faults : Faults) (caPem : Bytes) (consumers : List Consumer)
    (objects : Consumer → Option ConsumerObject) (tried : List Consumer)
    (result : Except Error Unit) (objects' : Consumer → Option ConsumerObject) : Prop where
  tried : tried = consumers
  settles : ∀ consumer ∈ consumers,
    Settles faults caPem consumer (objects consumer) (objects' consumer)
  others : ∀ consumer, consumer ∉ consumers → objects' consumer = objects consumer
  ok_iff : result = .ok () ↔
    ∀ consumer ∈ consumers, ∀ e, ¬ FailsWith faults caPem consumer (objects consumer) e
  error : ∀ e, result = .error e → ∃ before consumer behind,
    consumers = before ++ consumer :: behind ∧
    FailsWith faults caPem consumer (objects consumer) e ∧
    ∀ other ∈ behind, ∀ e, ¬ FailsWith faults caPem other (objects other) e

/-- The result that goes by the last error tells which consumers fail. -/
theorem IsLastError.result_iff {consumers : List Consumer} {lastError : Option Error}
    (h : IsLastError faults caPem objects consumers lastError) :
    (resultOf lastError = .ok () ↔
      ∀ consumer ∈ consumers, ∀ e, ¬ FailsWith faults caPem consumer (objects consumer) e) ∧
    ∀ e, resultOf lastError = .error e → IsLastError faults caPem objects consumers (some e) := by
  cases lastError with
  | none => exact ⟨⟨fun _ ↦ h, fun _ ↦ rfl⟩, fun e he ↦ by cases he⟩
  | some e =>
    refine ⟨⟨fun hok ↦ (by cases hok), fun hnone ↦ ?_⟩, fun e' he ↦ Except.error.inj he ▸ h⟩
    obtain ⟨before, consumer, behind, rfl, hfails, -⟩ := h
    exact (hnone consumer (by simp) e hfails).elim

/-- **Consumers without repeats are settled one after the other.** -/
theorem ensures_ensureAll_faulty (reconciler : Reconciler) (hnodup : reconciler.consumers.Nodup) :
    Ensures ((Contract.faulty faults).noting readConsumer?) (fun result state ↦ ∃ reply,
        result = .ok reply ∧
        Isolates faults caPem reconciler.consumers objects state.1 reply state.2)
      (reconciler.ensureAll caPem) ([], objects) := by
  -- some are done and settled, and the others are as they were
  let inv (rest : List Consumer) (lastError : Option Error)
      (state : List Consumer × (Consumer → Option ConsumerObject)) : Prop :=
    reconciler.consumers = state.1 ++ rest ∧
      (∀ consumer ∈ state.1,
        Settles faults caPem consumer (objects consumer) (state.2 consumer)) ∧
      (∀ consumer, consumer ∉ state.1 → state.2 consumer = objects consumer) ∧
      IsLastError faults caPem objects state.1 lastError
  have hidle : ((Contract.faulty faults).noting readConsumer?).IsIdle :=
    (Contract.isIdle_faulty faults).noting fun effect h ↦ by cases effect <;> first | rfl | cases h
  have hstart : inv reconciler.consumers none ([], objects) := by simp [inv, IsLastError]
  refine (ensures_ensureFrom_of inv hidle ?_ hstart).mono ?_
  · rintro consumer rest lastError ⟨done, now⟩ ⟨hall, hsettles, hothers, hlast⟩
    -- it is not among those that are done, so its object is what it was
    have hdone : consumer ∉ done := fun hmem ↦
      (List.nodup_append.1 (hall ▸ hnodup)).2.2 consumer hmem consumer List.mem_cons_self rfl
    have hnow : now consumer = objects consumer := hothers consumer hdone
    refine (ensures_ensure_faulty done).mono ?_
    rintro _ ⟨_, objects'⟩ ⟨reply, rfl, rfl, hreply, hsettled, hkept⟩
    rw [hnow] at hreply hsettled
    refine ⟨reply, rfl, hall.trans (by simp), fun other hother ↦ ?_, fun other hother ↦ ?_,
      hlast.snoc hreply⟩
    · rcases List.mem_append.1 hother with hother | hother
      · have hne : other ≠ consumer := fun heq ↦ hdone (heq ▸ hother)
        rw [hkept other hne]
        exact hsettles other hother
      · exact List.mem_singleton.1 hother ▸ hsettled
    · rw [List.mem_append, List.mem_singleton, not_or] at hother
      exact (hkept other hother.2).trans (hothers other hother.1)
  · rintro _ ⟨tried, objects'⟩ ⟨lastError, rfl, hall, hsettles, hothers, hlast⟩
    obtain rfl : reconciler.consumers = tried := hall.trans (List.append_nil _)
    exact ⟨_, rfl, rfl, hsettles, hothers, hlast.result_iff.1, hlast.result_iff.2⟩

/-! ### Nothing else matters -/

theorem IsServed.withoutFaults {object : ConsumerObject}
    (h : IsServed faults consumer found object) : IsServed .none consumer found object :=
  ⟨rfl, h.isThere, h.isLive, h.accepts, rfl⟩

/-- What becomes of a consumer is determined by what it was and by what fails. -/
theorem Settles.isSameObject {faults' : Faults} {held held' : Option ConsumerObject}
    (h : Settles faults caPem consumer found held) (h' : Settles faults' caPem consumer found held')
    (hread : faults'.read consumer = faults.read consumer)
    (hwrite : faults'.write consumer = faults.write consumer) : IsSameObject held' held := by
  have hserved (object : ConsumerObject) :
      IsServed faults' consumer found object ↔ IsServed faults consumer found object :=
    ⟨fun h ↦ ⟨hread ▸ h.readable, h.isThere, h.isLive, h.accepts, hwrite ▸ h.writable⟩,
      fun h ↦ ⟨hread.trans h.readable, h.isThere, h.isLive, h.accepts, hwrite.trans h.writable⟩⟩
  by_cases hany : ∃ object, IsServed faults consumer found object
  · obtain ⟨object, hobject⟩ := hany
    obtain ⟨stored, rfl, hstored⟩ := h.served object hobject
    obtain ⟨stored', rfl, hstored'⟩ := h'.served object ((hserved object).2 hobject)
    exact isSameObject_some_iff.2 ⟨stored', rfl, hstored'.trans hstored.symm⟩
  · rw [not_exists] at hany
    rw [h.others hany, h'.others fun object hobject ↦ hany object ((hserved object).1 hobject)]
    rfl

/-- Injecting into a version of an object gives a version of what injecting into the object
gives. -/
theorem isVersionOf_inject {stored object : ConsumerObject} (h : stored.IsVersionOf object) :
    (Injection.inject consumer.kind caPem stored).1.IsVersionOf
      (Injection.inject consumer.kind caPem object).1 := by
  have hmembers := h
  simp only [ConsumerObject.IsVersionOf, ConsumerObject.withVersion, ConsumerObject.mk.injEq]
    at hmembers ⊢
  simp only [Injection.inject, h.data_eq, and_true]
  exact ⟨hmembers.1, hmembers.2.1⟩

/-- A consumer that was served can be served again, and it makes no difference. -/
theorem IsServed.again {object stored : ConsumerObject}
    (h : IsServed faults consumer found object)
    (hstored : stored.IsVersionOf (Injection.inject consumer.kind caPem object).1) :
    IsServed .none consumer (some stored) stored ∧
      (Injection.inject consumer.kind caPem stored).1.IsVersionOf
        (Injection.inject consumer.kind caPem object).1 := by
  have hok : (Injection.inject consumer.kind caPem object).2 = .ok () :=
    Injection.inject_eq_ok.2 h.accepts
  have hinjected : (Injection.inject consumer.kind caPem
      (Injection.inject consumer.kind caPem object).1).1 =
        (Injection.inject consumer.kind caPem object).1 := by
    simp only [Injection.inject, Injection.injectData_injectData]
  refine ⟨⟨rfl, rfl, ?_, ?_, rfl⟩, ?_⟩
  · rw [hstored.isDeleting_eq]
    exact h.isLive
  · rw [hstored.data_eq]
    exact (Injection.spec_injectData hok).1
  · rw [← hinjected]
    exact isVersionOf_inject hstored

/-- **A pass without faults leaves the same, whatever failed in a pass before it.** -/
theorem Settles.again {held last clean : Option ConsumerObject}
    (h : Settles faults caPem consumer found held) (hlast : Settles .none caPem consumer held last)
    (hclean : Settles .none caPem consumer found clean) : IsSameObject last clean := by
  by_cases hany : ∃ object, IsServed faults consumer found object
  · obtain ⟨object, hobject⟩ := hany
    obtain ⟨stored, rfl, hstored⟩ := h.served object hobject
    obtain ⟨hagain, hsame⟩ := hobject.again hstored
    obtain ⟨repeated, rfl, hrepeated⟩ := hlast.served stored hagain
    obtain ⟨written, rfl, hwritten⟩ := hclean.served object hobject.withoutFaults
    exact isSameObject_some_iff.2 ⟨repeated, rfl, (hrepeated.trans hsame).trans hwritten.symm⟩
  · rw [h.others (not_exists.1 hany)] at hlast
    exact hclean.isSameObject hlast rfl rfl

/-! ### The main result -/

section Runs

variable {σ : Type} {answer : Faults → (effect : Effect) → σ → effect.Reply × σ}
  {shows : σ → (Consumer → Option ConsumerObject) → Prop} {real : σ}

/-- A run of the pass comes to what is ensured of it. -/
theorem run_ensureAll_isolates
    (hkept : ∀ faults, (Contract.faulty faults).KeptBy (answer faults) shows)
    (reconciler : Reconciler) (hnodup : reconciler.consumers.Nodup) (caPem : Bytes)
    (faults : Faults) (hshows : shows real objects) :
    ∃ reply after objects',
      (reconciler.ensureAll caPem).run (answer faults) real = (.ok reply, after) ∧
      shows after objects' ∧ Isolates faults caPem reconciler.consumers objects
        (((reconciler.ensureAll caPem).trace (answer faults) real).filterMap readConsumer?) reply
        objects' := by
  obtain ⟨objects', hshows', reply, hreply, hisolates⟩ :=
    (reconciler.ensures_ensureAll_faulty hnodup).run_noting (hkept faults) hshows
  exact ⟨reply, _, objects', Prod.ext hreply rfl, hshows', hisolates⟩

/-- **A pass over consumers without repeats isolates those that fail.** All are tried in their
order; each is settled by its own object and its own faults, so in any other pass, with other
consumers in any order, it comes to the same; and a pass without faults comes to the same before and
after it. -/
theorem ensureAll_isolates
    (hkept : ∀ faults, (Contract.faulty faults).KeptBy (answer faults) shows)
    (reconciler : Reconciler) (hnodup : reconciler.consumers.Nodup) (caPem : Bytes)
    (faults : Faults) (hshows : shows real objects) :
    ∃ reply after objects',
      (reconciler.ensureAll caPem).run (answer faults) real = (.ok reply, after) ∧
      shows after objects' ∧ Isolates faults caPem reconciler.consumers objects
        (((reconciler.ensureAll caPem).trace (answer faults) real).filterMap readConsumer?) reply
        objects' ∧
      (∀ (other : Reconciler) (faults' : Faults) (real' : σ)
        (found : Consumer → Option ConsumerObject),
        other.consumers.Nodup → shows real' found → ∃ held,
          shows ((other.ensureAll caPem).run (answer faults') real').2 held ∧
          ∀ consumer, (consumer ∈ other.consumers ↔ consumer ∈ reconciler.consumers) →
            found consumer = objects consumer →
            faults'.read consumer = faults.read consumer →
            faults'.write consumer = faults.write consumer →
            IsSameObject (held consumer) (objects' consumer)) ∧
      ∃ repeated clean,
        shows ((reconciler.ensureAll caPem).run (answer .none) after).2 repeated ∧
        shows ((reconciler.ensureAll caPem).run (answer .none) real).2 clean ∧
        ∀ consumer, IsSameObject (repeated consumer) (clean consumer) := by
  obtain ⟨reply, after, objects', hrun, hshows', hpass⟩ :=
    run_ensureAll_isolates hkept reconciler hnodup caPem faults hshows
  refine ⟨reply, after, objects', hrun, hshows', hpass, ?_, ?_⟩
  · intro other faults' real' found hother hfound
    obtain ⟨_, _, held, hrun', hheld, hpass'⟩ :=
      run_ensureAll_isolates hkept other hother caPem faults' hfound
    refine ⟨held, by rwa [hrun'], fun consumer hmem heq hread hwrite ↦ ?_⟩
    by_cases hconsumer : consumer ∈ reconciler.consumers
    · have hsettles := hpass'.settles consumer (hmem.2 hconsumer)
      rw [heq] at hsettles
      exact (hpass.settles consumer hconsumer).isSameObject hsettles hread hwrite
    · rw [hpass.others consumer hconsumer, hpass'.others consumer fun h ↦ hconsumer (hmem.1 h), heq]
      rfl
  · obtain ⟨_, _, repeated, hrun₁, hrepeated, hagain⟩ :=
      run_ensureAll_isolates hkept reconciler hnodup caPem .none hshows'
    obtain ⟨_, _, clean, hrun₂, hclean, hfirst⟩ :=
      run_ensureAll_isolates hkept reconciler hnodup caPem .none hshows
    refine ⟨repeated, clean, by rwa [hrun₁], by rwa [hrun₂], fun consumer ↦ ?_⟩
    by_cases hconsumer : consumer ∈ reconciler.consumers
    · exact (hpass.settles consumer hconsumer).again (hagain.settles consumer hconsumer)
        (hfirst.settles consumer hconsumer)
    · rw [hagain.others consumer hconsumer, hpass.others consumer hconsumer,
        hfirst.others consumer hconsumer]
      rfl

end Runs

end Reconciler

/-! ### The store in memory -/

namespace MemoryStore

/-- The store in memory, in front of which some reads and writes fail. -/
def serve (faults : Faults) (effect : Effect) (store : MemoryStore) : effect.Reply × MemoryStore :=
  match effect with
  | .store (.getConsumer consumer) =>
    match faults.read consumer with
    | some e => (.error e, store)
    | none => store.answer (.getConsumer consumer)
  | .store (.replaceConsumer consumer object) =>
    match faults.write consumer with
    | some e => (.error e, store)
    | none => store.answer (.replaceConsumer consumer object)
  | .store call => store.answer call
  | .now => (⟨0, 0⟩, store)
  | .newKey => (.ok Rsa.pierpontKey, store)
  | .jitter => ((1 : Rat), store)
  | .fileExists _ | .isInjected => (false, store)
  | .wait => (.stop, store)
  | .sleep _ | .log _ | .record _ | .notify _ | .setInjected | .fire _ | .await _ | .spawnPollers
  | .startTicker _ => ((), store)

/-- The store has these objects, and no failures of its own. -/
structure ShowsObjects (store : MemoryStore) (objects : Consumer → Option ConsumerObject) :
    Prop where
  consumer? : store.consumer? = objects
  failing : store.failing = []

/-- The store in memory is such a store. -/
theorem keptBy_faulty (faults : Faults) :
    (Contract.faulty faults).KeptBy (serve faults) ShowsObjects := by
  rintro store objects effect ⟨rfl, hfailing⟩ hpermits
  have hsame : store.ShowsObjects store.consumer? := ⟨rfl, hfailing⟩
  cases effect with
  | store call =>
    cases call with
    | getConsumer consumer =>
      have hreads : consumer ∉ store.failing := hfailing ▸ List.not_mem_nil
      simp only [serve, Contract.faulty]
      cases faults.read consumer with
      | some e => exact ⟨_, ⟨rfl, rfl⟩, hsame⟩
      | none =>
        rw [answer_getConsumer_of_notMem hreads]
        exact ⟨_, ⟨rfl, rfl⟩, hsame⟩
    | replaceConsumer consumer object =>
      simp only [serve, Contract.faulty]
      cases faults.write consumer with
      | some e => exact ⟨_, ⟨rfl, rfl⟩, hsame⟩
      | none =>
        have hthere : (store.consumer? consumer).isSome = true := hpermits
        rw [answer_replaceConsumer_of_present object hthere]
        refine ⟨_, ⟨rfl, _, object.isVersionOf_withVersion store.nextVersion, rfl⟩, ?_, hfailing⟩
        funext other
        rw [Function.update_apply]
        exact store.consumer?_writeConsumer consumer other object
    | getSecret | createSecret | replaceSecret => exact hpermits.elim
  | jitter | sleep | log => exact ⟨_, rfl, hsame⟩
  | now | newKey | record | notify | fileExists | isInjected | setInjected | fire | await
  | spawnPollers | startTicker | wait => exact hpermits.elim

end MemoryStore

/-- A consumer that cannot be read does not keep the one behind it from its bundle. -/
theorem Reconciler.ensureAll_isolates_unreadable :
    let unreadable : Consumer := ⟨.mutating, "other"⟩
    let served : Consumer := ⟨.validating, "webhook"⟩
    let faults : Faults := ⟨fun consumer ↦ if consumer = unreadable then some .unreadableReply else
      none, fun _ ↦ none⟩
    let reconciler : Reconciler :=
      ⟨Simulation.sampleRotator.config.secretKey, [unreadable, served]⟩
    ∃ after objects', (reconciler.ensureAll [0x41]).run (MemoryStore.serve faults)
        (Simulation.sampleWorld none).store = (.ok (.error .unreadableReply), after) ∧
      after.ShowsObjects objects' ∧ ∃ stored, objects' served = some stored ∧
        ∀ field ∈ Injection.fields .validating stored.data,
          field = some (Injection.bundleOf [0x41]) := by
  intro unreadable served faults reconciler
  have hstart : (Simulation.sampleWorld none).store.ShowsObjects
      (Simulation.sampleWorld none).store.consumer? := ⟨rfl, rfl⟩
  obtain ⟨reply, after, objects', hrun, hshows, hpass, -⟩ :=
    reconciler.ensureAll_isolates MemoryStore.keptBy_faulty (by decide) [0x41] faults hstart
  have hserved : IsServed faults served ((Simulation.sampleWorld none).store.consumer? served)
      ⟨none, .empty, .object [("webhooks", .array [.object []])]⟩ :=
    ⟨rfl, rfl, rfl, ⟨[.object []], rfl, by simp [Injection.HasClient, Assoc.get?]⟩, rfl⟩
  obtain ⟨stored, hstored, hversion⟩ := (hpass.settles served (by decide)).served _ hserved
  have hfails : FailsWith faults [0x41] unreadable
      ((Simulation.sampleWorld none).store.consumer? unreadable) .unreadableReply := .unreadable rfl
  rcases reply with e | u
  · obtain ⟨before, consumer, behind, hlist, hlast, -⟩ := hpass.error e rfl
    have hmem : consumer ∈ reconciler.consumers := by simp [hlist]
    have he : e = .unreadableReply := by
      rcases List.mem_pair.1 hmem with rfl | rfl
      · exact (failsWith_of_unreadable rfl).1 hlast
      · exact (hserved.not_failsWith hlast).elim
    refine ⟨after, objects', he ▸ hrun, hshows, stored, hstored, ?_⟩
    rw [hversion.data_eq]
    exact (Injection.spec_injectData (Injection.inject_eq_ok.2 hserved.accepts)).2
  · exact (hpass.ok_iff.1 rfl unreadable (by decide) _ hfails).elim

end WebhookTrust
