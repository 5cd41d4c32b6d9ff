import WebhookTrust.Proofs.Passes

/-!
# Calls and their replies

The store may reply to a call with anything, and be another store at the next call. What a run comes
to is then told from its calls and the replies to them (`Procedure.exchanges`).

* `Procedure.Ensures.run_recording`: **what a procedure ensures of the record is true of the
  exchanges of a run.** The contract is made to keep a record on the way (`Contract.recording`), so
  that an `Ensures` about what was recorded becomes a statement about the run, with no store named
  in it.
* `Reconciler.ensures_ensure_visit`: **bringing a consumer up to date is a visit**, of which there
  are five sorts (`Reconciler.Visit`): the consumer cannot be read, or is missing, or is being
  deleted, or cannot take the bundle, or is written with any reply.
* `Reconciler.ensures_ensureFrom_round`: **bringing all of them up to date is a round**, which is
  visits in a row (`Reconciler.Round`), each consumer having its turn (`Reconciler.Round.visited`).
* `Reconciler.Round.lastError_eq`: the last error of a round is the last one that its exchanges
  show. So the result of a pass can be checked by who sees the calls alone;
  `WebhookTrust.Proofs.Gate` and `WebhookTrust.Proofs.Containment` are built on it.

Nothing is said here of what a store does with a call, and replies need not fit together.
-/

namespace WebhookTrust

/-- A call to the store with the reply to it. -/
structure Exchange where
  call : StoreCall
  reply : call.Reply

/-- The exchange that an effect and its reply are, if the effect is a call. -/
def Effect.exchange? : (effect : Effect) → effect.Reply → Option Exchange
  | .store call, reply => some ⟨call, reply⟩
  | _, _ => none

variable {α γ σ : Type}

/-- The calls that a procedure makes in a run, in their order, with the replies. -/
def Procedure.exchanges (answer : (effect : Effect) → σ → effect.Reply × σ) :
    Procedure α → σ → List Exchange
  | .pure _, _ => []
  | .stop _, _ => []
  | .step effect next, real =>
    (effect.exchange? (answer effect real).1).toList ++
      (next (answer effect real).1).exchanges answer (answer effect real).2

/-- The error that the store replied with, if it did. -/
def Exchange.error? (exchange : Exchange) : Option Error :=
  match exchange.reply with
  | .error e => some e
  | .ok _ => none

/-- What changes by calls of one sort only, a run without such calls leaves as it is. -/
theorem Procedure.run_keeps {β : Type} {answer : (effect : Effect) → σ → effect.Reply × σ}
    {view : σ → β} {real : σ} {procedure : Procedure α} (isWrite : StoreCall → Prop)
    (hkeeps : ∀ effect real, (∀ call, effect = .store call → ¬ isWrite call) →
      view (answer effect real).2 = view real)
    (h : ∀ exchange ∈ procedure.exchanges answer real, ¬ isWrite exchange.call) :
    view (procedure.run answer real).2 = view real := by
  induction procedure generalizing real with
  | pure result => rfl
  | stop halt => rfl
  | step effect next ih =>
    rw [exchanges, List.forall_mem_append] at h
    refine (ih _ h.2).trans (hkeeps effect real ?_)
    rintro call rfl
    exact h.1 ⟨call, (answer (.store call) real).1⟩ (by simp [Effect.exchange?])

/-! ### Recording -/

/-- The contract, with a record of the exchanges so far. -/
def Contract.recording (contract : Contract γ) : Contract (List Exchange × γ) where
  permits state effect := contract.permits state.2 effect
  answers state effect reply state' :=
    state'.1 = state.1 ++ (effect.exchange? reply).toList ∧
      contract.answers state.2 effect reply state'.2

/-- What was quiet is quiet with a record. -/
theorem Contract.IsQuiet.recording {contract : Contract γ} (h : contract.IsQuiet) :
    contract.recording.IsQuiet := by
  intro state effect hquiet
  obtain ⟨hpermits, hignores⟩ := h state.2 effect hquiet
  refine ⟨hpermits, fun reply state' hanswer ↦ Prod.ext ?_ (hignores reply state'.2 hanswer.2)⟩
  have hnone : effect.exchange? reply = none := by
    cases effect <;> first | rfl | exact hquiet.elim
  simpa [hnone] using hanswer.1

namespace Procedure

variable {contract : Contract γ} {answer : (effect : Effect) → σ → effect.Reply × σ}
  {shows : σ → γ → Prop} {state : γ} {real : σ} {procedure : Procedure α}
  {post : Except Halt α → List Exchange × γ → Prop}

/-- The record goes on from what was recorded before. -/
theorem Ensures.run_recordingFrom {past : List Exchange}
    (h : Ensures contract.recording post procedure (past, state))
    (hkept : contract.KeptBy answer shows) (hshows : shows real state) :
    ∃ state', shows (procedure.run answer real).2 state' ∧ post (procedure.run answer real).1
      (past ++ procedure.exchanges answer real, state') := by
  induction procedure generalizing past state real with
  | pure result => exact ⟨state, hshows, by simpa [exchanges, Procedure.run] using h⟩
  | stop halt => exact ⟨state, hshows, by simpa [exchanges, Procedure.run] using h⟩
  | step effect next ih =>
    obtain ⟨state', hanswer, hshows'⟩ := hkept real state effect hshows h.1
    obtain ⟨last, hlast, hpost⟩ := ih _ (h.2 _ (_, state') ⟨rfl, hanswer⟩) hshows'
    exact ⟨last, hlast, by rwa [exchanges, ← List.append_assoc]⟩

/-- **What a procedure ensures of the record is true of the exchanges of a run.** -/
theorem Ensures.run_recording (h : Ensures contract.recording post procedure ([], state))
    (hkept : contract.KeptBy answer shows) (hshows : shows real state) :
    ∃ state', shows (procedure.run answer real).2 state' ∧ post (procedure.run answer real).1
      (procedure.exchanges answer real, state') :=
  h.run_recordingFrom hkept hshows

end Procedure

/-! ### The flag -/

/-- Anything may be done and answered, and a flag tells whether the authority was injected. -/
def Contract.flagging : Contract Bool where
  permits _ _ := True
  answers
    | _, .setInjected, _, flag' => flag' = true
    | flag, _, _, flag' => flag' = flag

theorem Contract.isQuiet_flagging : Contract.flagging.IsQuiet := by
  intro flag effect hquiet
  cases effect <;> first | exact hquiet.elim | exact ⟨trivial, fun _ _ h ↦ h⟩

theorem Contract.isIdle_recording : Contract.flagging.recording.IsIdle :=
  Contract.isQuiet_flagging.recording.isIdle

/-- Nothing need be known of the surroundings. -/
theorem Contract.keptBy_flagging (answer : (effect : Effect) → σ → effect.Reply × σ) :
    Contract.flagging.KeptBy answer fun _ _ ↦ True := by
  intro real flag effect _ _
  cases effect <;> exact ⟨_, rfl, trivial⟩

/-! ### Visits -/

namespace Reconciler

open Procedure

/-- The exchanges of bringing one consumer up to date, and the result. -/
inductive Visit (caPem : Bytes) (consumer : Consumer) : List Exchange → Except Error Unit → Prop
  | unreadable (e : Error) :
    Visit caPem consumer [⟨.getConsumer consumer, .error e⟩] (.error e)
  | missing : Visit caPem consumer [⟨.getConsumer consumer, .ok none⟩] (.ok ())
  | deleting (object : ConsumerObject) (hdeleting : object.metadata.isDeleting = true) :
    Visit caPem consumer [⟨.getConsumer consumer, .ok (some object)⟩] (.ok ())
  | malformed (object : ConsumerObject) (fault : Injection.Fault)
    (hlive : object.metadata.isDeleting = false)
    (hfault : (Injection.inject consumer.kind caPem object).2 = .error fault) :
    Visit caPem consumer [⟨.getConsumer consumer, .ok (some object)⟩]
      (.error (injectionError consumer.kind object fault))
  | written (object : ConsumerObject) (reply : Except Error Unit)
    (hlive : object.metadata.isDeleting = false)
    (hok : (Injection.inject consumer.kind caPem object).2 = .ok ()) :
    Visit caPem consumer [⟨.getConsumer consumer, .ok (some object)⟩,
      ⟨.replaceConsumer consumer (Injection.inject consumer.kind caPem object).1, reply⟩] reply

variable {caPem : Bytes} {consumer : Consumer} {visit history : List Exchange}
  {result : Except Error Unit}

/-- **Bringing a consumer up to date is a visit.** -/
theorem ensures_ensure_visit (past : List Exchange) (flag : Bool) :
    Ensures Contract.flagging.recording (fun result state ↦ ∃ visit reply, result = .ok reply ∧
      state = (past ++ visit, flag) ∧ Visit caPem consumer visit reply)
      (ensure caPem consumer) (past, flag) := by
  have hread : ∀ reply state', Contract.flagging.recording.answers (past, flag)
      (.store (.getConsumer consumer)) reply state' →
      state' = (past ++ [⟨.getConsumer consumer, reply⟩], flag) :=
    fun _ _ h ↦ Prod.ext h.1 h.2
  refine ensures_ensure_of Contract.isIdle_recording trivial (fun e state' hanswer ↦ ?_)
    (fun state' hanswer ↦ ?_) fun object state' hanswer ↦ ?_
  · exact ⟨_, _, rfl, hread _ _ hanswer, .unreadable e⟩
  · exact ⟨_, _, rfl, hread _ _ hanswer, .missing⟩
  · obtain rfl := hread _ _ hanswer
    refine ⟨fun hdeleting ↦ ⟨_, _, rfl, rfl, .deleting object hdeleting⟩,
      fun fault hlive hfault ↦ ⟨_, _, rfl, rfl, .malformed object fault hlive hfault⟩,
      fun hlive hok ↦ ⟨trivial, fun reply state' hwrite ↦ ?_⟩⟩
    have hpast := hwrite.1.trans (List.append_assoc past _ _)
    exact ⟨_, reply, rfl, Prod.ext hpast hwrite.2, .written object reply hlive hok⟩

/-- **In whatever surroundings.** -/
theorem exists_visit (answer : (effect : Effect) → σ → effect.Reply × σ) (real : σ) (caPem : Bytes)
    (consumer : Consumer) : ∃ reply, ((ensure caPem consumer).run answer real).1 = .ok reply ∧
      Visit caPem consumer ((ensure caPem consumer).exchanges answer real) reply := by
  obtain ⟨_, -, visit, reply, hresult, hstate, hvisit⟩ :=
    (ensures_ensure_visit [] false).run_recording (Contract.keptBy_flagging answer) trivial
  obtain rfl : (ensure caPem consumer).exchanges answer real = visit := (Prod.ext_iff.1 hstate).1
  exact ⟨reply, hresult, hvisit⟩

/-- The consumer that an exchange reads. -/
def visited? : Exchange → Option Consumer
  | ⟨.getConsumer consumer, _⟩ => some consumer
  | _ => none

/-- The error with which a consumer fails, if it fails in an exchange: it cannot be read, or its
object cannot take the bundle, or cannot be written. -/
def failure? (caPem : Bytes) : Exchange → Option Error
  | ⟨.getConsumer _, .error e⟩ => some e
  | ⟨.getConsumer consumer, .ok (some object)⟩ =>
    if object.metadata.isDeleting then none
    else
      match (Injection.inject consumer.kind caPem object).2 with
      | .error fault => some (injectionError consumer.kind object fault)
      | .ok () => none
  | ⟨.replaceConsumer .., .error e⟩ => some e
  | _ => none

/-- The errors with which consumers fail. -/
def failures (caPem : Bytes) (history : List Exchange) : List Error :=
  history.filterMap (failure? caPem)

/-- A visit to an object that cannot take the bundle is over when the object is read. -/
theorem Visit.of_refused {object : ConsumerObject} {fault : Injection.Fault}
    (h : Visit caPem consumer visit result)
    (hmem : ⟨.getConsumer consumer, .ok (some object)⟩ ∈ visit)
    (hlive : object.metadata.isDeleting = false)
    (hfault : (Injection.inject consumer.kind caPem object).2 = .error fault) :
    result = .error (injectionError consumer.kind object fault) ∧
      visit = [⟨.getConsumer consumer, .ok (some object)⟩] := by
  cases h with
  | unreadable | missing => cases List.mem_singleton.1 hmem
  | deleting other hdeleting =>
    cases List.mem_singleton.1 hmem
    simp [hlive] at hdeleting
  | malformed other fault' _ hfault' =>
    cases List.mem_singleton.1 hmem
    obtain rfl : fault = fault' := Except.error.inj (hfault.symm.trans hfault')
    exact ⟨rfl, rfl⟩
  | written other reply _ hok =>
    rcases List.mem_cons.1 hmem with hread | hwrite
    · cases hread
      simp [hfault] at hok
    · cases List.mem_singleton.1 hwrite

/-- **A visit fails as the store does, or because the object cannot take the bundle.** -/
theorem Visit.error_cases {e : Error} (h : Visit caPem consumer visit (.error e)) :
    (∃ exchange ∈ visit, exchange.error? = some e) ∨
      ∃ object fault, ⟨.getConsumer consumer, .ok (some object)⟩ ∈ visit ∧
        object.metadata.isDeleting = false ∧
        (Injection.inject consumer.kind caPem object).2 = .error fault ∧
        e = injectionError consumer.kind object fault := by
  cases h with
  | unreadable => exact .inl ⟨_, List.mem_singleton_self _, rfl⟩
  | malformed object fault hlive hfault =>
    exact .inr ⟨object, fault, List.mem_singleton_self _, hlive, hfault, rfl⟩
  | written => exact .inl ⟨_, List.mem_cons_of_mem _ (List.mem_singleton_self _), rfl⟩

/-- Every visit begins with reading the consumer. -/
theorem Visit.reads (h : Visit caPem consumer visit result) :
    ∃ reply rest, visit = ⟨.getConsumer consumer, reply⟩ :: rest := by
  cases h <;> exact ⟨_, _, rfl⟩

/-- No visit reads a Secret. -/
theorem Visit.not_getSecret (h : Visit caPem consumer visit result) :
    ∀ exchange ∈ visit, ∀ key, exchange.call ≠ .getSecret key := by
  cases h <;> simp

theorem Visit.visited (h : Visit caPem consumer visit result) :
    visit.filterMap visited? = [consumer] := by
  cases h <;> rfl

/-- A visit shows one error if it fails, and none if it succeeds. -/
theorem Visit.failures_eq (h : Visit caPem consumer visit result) :
    failures caPem visit = (lastErrorAfter none result).toList := by
  cases h with
  | unreadable | missing => rfl
  | deleting object hdeleting => simp [failures, failure?, hdeleting, lastErrorAfter]
  | malformed object fault hlive hfault =>
    simp [failures, failure?, hlive, hfault, lastErrorAfter]
  | written object reply hlive hok =>
    cases result <;> simp [failures, failure?, hlive, hok, lastErrorAfter]

/-! ### Rounds -/

/-- The exchanges of bringing consumers up to date one after the other, with the last error. -/
inductive Round (caPem : Bytes) : List Consumer → List Exchange → Option Error → Prop
  | nil : Round caPem [] [] none
  | snoc {done : List Consumer} {history visit : List Exchange} {lastError : Option Error}
    {consumer : Consumer} {reply : Except Error Unit} (h : Round caPem done history lastError)
    (hvisit : Visit caPem consumer visit reply) :
    Round caPem (done ++ [consumer]) (history ++ visit) (lastErrorAfter lastError reply)

variable {consumers : List Consumer} {lastError : Option Error}

theorem Round.not_getSecret (h : Round caPem consumers history lastError) :
    ∀ exchange ∈ history, ∀ key, exchange.call ≠ .getSecret key := by
  induction h with
  | nil => simp
  | snoc _ hvisit ih => exact List.forall_mem_append.2 ⟨ih, hvisit.not_getSecret⟩

/-- Every consumer has its turn. -/
theorem Round.visited (h : Round caPem consumers history lastError) :
    history.filterMap visited? = consumers := by
  induction h with
  | nil => rfl
  | snoc _ hvisit ih => rw [List.filterMap_append, ih, hvisit.visited]

/-- **The last error is the last one that the exchanges show.** -/
theorem Round.lastError_eq (h : Round caPem consumers history lastError) :
    lastError = (failures caPem history).getLast? := by
  induction h with
  | nil => rfl
  | @snoc _ _ _ _ _ reply _ hvisit ih =>
    rw [failures, List.filterMap_append, ← failures, ← failures, hvisit.failures_eq, ih]
    cases reply <;> simp [lastErrorAfter]

/-- **Bringing all consumers up to date is a round.** -/
theorem ensures_ensureFrom_round (consumers : List Consumer) (past : List Exchange) (flag : Bool) :
    Ensures Contract.flagging.recording (fun result state ↦ ∃ history lastError,
      result = .ok (resultOf lastError) ∧ state = (past ++ history, flag) ∧
      Round caPem consumers history lastError)
      (ensureFrom caPem consumers none) (past, flag) := by
  -- those that had their turn make a round, with the last error in hand
  let inv (rest : List Consumer) (lastError : Option Error) (state : List Exchange × Bool) : Prop :=
    ∃ done history, consumers = done ++ rest ∧ state = (past ++ history, flag) ∧
      Round caPem done history lastError
  have hstart : inv consumers none (past, flag) := ⟨[], [], rfl, by simp, .nil⟩
  refine (ensures_ensureFrom_of inv Contract.isIdle_recording ?_ hstart).mono ?_
  · rintro consumer rest lastError _ ⟨done, history, hdone, rfl, hround⟩
    refine (ensures_ensure_visit _ _).mono ?_
    rintro _ state ⟨visit, reply, rfl, rfl, hvisit⟩
    exact ⟨reply, rfl, done ++ [consumer], history ++ visit, by simp [hdone],
      by rw [List.append_assoc], hround.snoc hvisit⟩
  · rintro _ state ⟨lastError, rfl, done, history, hdone, rfl, hround⟩
    rw [List.append_nil] at hdone
    exact ⟨history, lastError, rfl, rfl, hdone ▸ hround⟩

end Reconciler

end WebhookTrust
