import WebhookTrust.Proofs.Contract
import WebhookTrust.Reconciliation
import WebhookTrust.Rotation.ControlLoop

/-!
# What procedures may do

Which effects a procedure may have can be read off it, whatever it is answered. A check makes calls
to the store, looks at the clock, asks for keys and counts rotations (`Rotator.only_refresh`); it
has no business with signals, flags or other counters. A pass reads the Secret, and reads and
replaces the declared consumers (`Reconciler.only_reconcile`).

No contract is needed for that: `Procedure.Only` is by recursion on the procedure, over all replies.
What is said here is used wherever a state is left alone because the effects that would change it do
not occur.

## Sorts of effects

* `Effect.IsIssuing`: looking at certificates and making them;
* `Effect.IsAttempting`: the attempts of a check, which also read and write, pause and count
  rotations;
* `Effect.IsChecking`: a check, which also tells those who listen;
* `Effect.IsInjecting`: bringing consumers up to date;
* `Effect.IsControlling`: the control loop, apart from starting the pollers;
* `Effect.IsApart`: whatever leaves the store and those who listen alone.

## Parts of the control loop

The control loop is taken apart into what it does before the first check has succeeded and after
that (`Rotator.start_eq`), and starts no pollers in either part. The parts are equal to the program
by definition, so that what is proved of them is proved of it.
-/

namespace WebhookTrust

open Procedure

/-- Is the effect one that a check may have? -/
def Effect.IsChecking : Effect → Prop
  | .store _ | .now | .newKey | .jitter | .sleep _ | .log _ | .notify _
  | .record (.rotation _) => True
  | .record _ | .fileExists _ | .isInjected | .setInjected | .fire _ | .await _ | .spawnPollers
  | .startTicker _ | .wait => False

/-- Is the effect one that an attempt of a check may have? -/
def Effect.IsAttempting : Effect → Prop
  | .store _ | .now | .newKey | .jitter | .sleep _ | .log _ | .record (.rotation _) => True
  | .notify _ | .record _ | .fileExists _ | .isInjected | .setInjected | .fire _ | .await _
  | .spawnPollers | .startTicker _ | .wait => False

/-- Is the effect one that looking at certificates and making them may have? -/
def Effect.IsIssuing : Effect → Prop
  | .now | .newKey | .log _ => True
  | .store _ | .jitter | .sleep _ | .record _ | .notify _ | .fileExists _ | .isInjected
  | .setInjected | .fire _ | .await _ | .spawnPollers | .startTicker _ | .wait => False

/-- Is the effect one that bringing consumers up to date may have? -/
def Effect.IsInjecting : Effect → Prop
  | .store (.getConsumer _) | .store (.replaceConsumer ..) | .log _ => True
  | .store (.getSecret _) | .store (.createSecret _) | .store (.replaceSecret _) | .now | .newKey
  | .jitter | .sleep _ | .record _ | .notify _ | .fileExists _ | .isInjected | .setInjected
  | .fire _ | .await _ | .spawnPollers | .startTicker _ | .wait => False

/-- Is the effect one that the control loop may have, apart from starting the pollers? -/
def Effect.IsControlling : Effect → Prop
  | .record (.rotationError _) | .startTicker _ | .wait => True
  | effect => effect.IsChecking

/-- Does the effect leave the store and those who listen alone? -/
def Effect.IsApart : Effect → Prop
  | .store _ | .notify _ | .spawnPollers => False
  | _ => True

/-- The control loop may do what a check may do. -/
theorem Effect.IsChecking.isControlling {effect : Effect} (h : effect.IsChecking) :
    effect.IsControlling := by
  cases effect with
  | record measurement => cases measurement <;> first | exact h.elim | trivial
  | fileExists | isInjected | setInjected | fire | await | spawnPollers => exact h.elim
  | _ => trivial

/-- A check may do what an attempt may do. -/
theorem Effect.isChecking_of_isAttempting (effect : Effect) (h : effect.IsAttempting) :
    effect.IsChecking := by
  cases effect with
  | record measurement => cases measurement <;> first | exact h.elim | trivial
  | notify | fileExists | isInjected | setInjected | fire | await | spawnPollers => exact h.elim
  | _ => trivial

theorem Effect.isAttempting_of_isIssuing (effect : Effect) (h : effect.IsIssuing) :
    effect.IsAttempting := by
  cases effect <;> first | exact h.elim | trivial

theorem Effect.isAttempting_of_isIdle (effect : Effect) (h : effect.IsIdle) :
    effect.IsAttempting := by
  cases effect <;> first | exact h.elim | trivial

/-! ### Hooks -/

namespace RotationHook

theorem only_silent (outcome : RotationOutcome) : (silent outcome).Only Effect.IsChecking := trivial

/-- Every hook that a configuration asks for does what a check may do. -/
theorem only_ofConfig (config : Config) (outcome : RotationOutcome) :
    (ofConfig config outcome).Only Effect.IsChecking := by
  rw [ofConfig]
  split
  · exact ⟨trivial, fun _ ↦ trivial⟩
  · exact only_silent outcome

end RotationHook

/-! ### Checks -/

namespace Rotator

variable {rotator : Rotator}

/-- Validation only logs. -/
theorem only_passes {scheme : SignatureScheme} {caPem certPem keyPem : Bytes} {dnsName : String}
    {instant : Instant} :
    (passes scheme caPem certPem keyPem dnsName instant).Only Effect.IsIssuing := by
  rw [passes]
  split
  · trivial
  · exact ⟨trivial, fun _ ↦ trivial⟩

/-- Coming to a verdict only logs. -/
theorem only_assess {secret : Secret} {instant : Instant} :
    (rotator.assess secret instant).Only Effect.IsIssuing := by
  refine only_passes.bind fun isValid ↦ ?_
  cases isValid with
  | false => trivial
  | true =>
    refine only_passes.bind fun isValid ↦ ?_
    cases isValid <;> trivial

theorem only_makeAuthority : rotator.makeAuthority.Only Effect.IsIssuing := by
  refine ⟨trivial, fun now ↦ ?_⟩
  cases Issuance.ensureDnsName rotator.config.caName with
  | error cause => trivial
  | ok u => exact ⟨trivial, fun _ ↦ trivial⟩

theorem only_makeLeaf {ca : KeyPair} : (rotator.makeLeaf ca).Only Effect.IsIssuing := by
  refine ⟨trivial, fun now ↦ ?_⟩
  cases Issuance.ensureDnsName rotator.config.dnsName with
  | error cause => trivial
  | ok u => exact ⟨trivial, fun _ ↦ trivial⟩

/-- An authority is made, or loaded from the Secret. -/
theorem only_obtainAuthority {outcome : RotationOutcome} {secret : Secret} :
    (rotator.obtainAuthority outcome secret).Only Effect.IsIssuing := by
  rw [obtainAuthority]
  split
  · exact ⟨trivial, fun _ ↦ only_makeAuthority⟩
  · exact ⟨trivial, fun _ ↦ trivial⟩

theorem only_write {existed : Bool} {secret : Secret} :
    (write existed secret).Only Effect.IsAttempting := by
  cases existed <;> exact ⟨trivial, fun _ ↦ trivial⟩

/-- A rotation makes certificates and writes. -/
theorem only_rotate {outcome : RotationOutcome} {existed : Bool} {secret : Secret} :
    (rotator.rotate outcome existed secret).Only Effect.IsAttempting := by
  refine (only_obtainAuthority.mono Effect.isAttempting_of_isIssuing).andThen fun ca ↦
    (only_makeLeaf.mono Effect.isAttempting_of_isIssuing).andThen fun leaf ↦
    only_write.andThen fun _ ↦ ?_
  exact ⟨trivial, fun _ ↦ ⟨trivial, fun _ ↦ trivial⟩⟩

/-- An attempt tells nobody of anything. -/
theorem only_refreshOnce : rotator.refreshOnce.Only Effect.IsAttempting := by
  have hread : (call (.getSecret rotator.config.secretKey)).Only Effect.IsAttempting :=
    ⟨trivial, fun _ ↦ trivial⟩
  refine hread.andThen fun found ↦ ?_
  have hfound : (rotator.foundOrNew found).Only Effect.IsAttempting := by
    cases found with
    | none => exact ⟨trivial, fun _ ↦ trivial⟩
    | some secret => trivial
  refine hfound.bind fun secret ↦ ⟨trivial, fun now ↦ ?_⟩
  simp only [pure_bind]
  cases rotator.horizon? now with
  | none => trivial
  | some instant =>
    refine (only_assess.mono Effect.isAttempting_of_isIssuing).bind fun outcome ↦ ?_
    cases outcome with
    | unchanged => exact ⟨trivial, fun _ ↦ trivial⟩
    | rotatedLeaf | rotatedCa => exact only_rotate

/-- However often it is tried again, nobody is told of anything. -/
theorem only_attempts :
    (rotator.config.refreshBackoff.retry "refresh_certs" Error.message rotator.refreshOnce).Only
      Effect.IsAttempting :=
  Backoff.only_retry Effect.isAttempting_of_isIdle only_refreshOnce

/-- After the attempts nothing is done but what the hook does. -/
theorem only_conclude {isAllowed : Effect → Prop} {outcome : RotationOutcome}
    (hhook : (rotator.hook outcome).Only isAllowed) :
    Only isAllowed (do
      if outcome.wroteSecret then rotator.hook outcome
      return .ok outcome : Procedure (Except Error RotationOutcome)) := by
  split
  · exact hhook.bind fun _ ↦ trivial
  · trivial

/-- **A check does what a check may do**, if its hook does. -/
theorem only_refresh (hhook : ∀ outcome, (rotator.hook outcome).Only Effect.IsChecking) :
    rotator.refresh.Only Effect.IsChecking :=
  (only_attempts.mono Effect.isChecking_of_isAttempting).andThen fun outcome ↦
    only_conclude (hhook outcome)

/-! ### Parts of the control loop -/

/-- What is done about the result of a later check. -/
def report : Except Error RotationOutcome → Procedure Unit
  | .ok _ => .pure ()
  | .error e => (log .error "error rotating certs" [("error", .text e.message)]).bind fun _ ↦
    .step (.record (.rotationError .periodic)) fun _ ↦ .pure ()

theorem periodicCheck_eq (rotator : Rotator) :
    rotator.periodicCheck = rotator.refresh.bind report := by
  refine congrArg rotator.refresh.bind (funext fun result ↦ ?_)
  cases result <;> rfl

/-- What is done when the loop ends. -/
def stopping (result : Except Error Unit) : Procedure (Except Error Unit) :=
  (log .info "stopping cert rotator" []).bind fun _ ↦ .pure result

theorem serve_succ (rotator : Rotator) (rounds : Nat) :
    rotator.serve (rounds + 1) = .step .wait fun wake ↦
      match resultOf? wake with
      | none => rotator.periodicCheck.bind fun _ ↦ rotator.serve rounds
      | some result => stopping result := rfl

/-- The control loop, after the pollers were started. -/
def loop (rotator : Rotator) : Procedure (Except Error Unit) :=
  if rotator.config.checkPeriod = 0 ∨ !isRepresentable rotator.config.checkPeriod then
    .stop .crashed
  else .step (.startTicker rotator.config.checkPeriod) fun _ ↦ rotator.serve roundBound

/-- With a period that can be told there is a ticker, and then rounds. -/
theorem loop_eq (hperiod : rotator.config.checkPeriod ≠ 0)
    (hrepresentable : isRepresentable rotator.config.checkPeriod = true) :
    rotator.loop = .step (.startTicker rotator.config.checkPeriod) fun _ ↦
      rotator.serve roundBound := by
  rw [loop, if_neg]
  simp [hperiod, hrepresentable]

/-- What is done after the first check has a result. -/
def afterFirst (rotator : Rotator) :
    Except Error RotationOutcome → Procedure (Except Error Unit)
  | .ok _ => .step .spawnPollers fun _ ↦ rotator.loop
  | .error e =>
    (log .error "could not refresh cert on startup" [("error", .text e.message)]).bind fun _ ↦
      .step (.record (.rotationError .bootstrap)) fun _ ↦ .pure (.error e)

/-- **A rotator starts with a check**, whose result says how it goes on. -/
theorem start_eq (rotator : Rotator) : rotator.start =
    (log .info "starting cert rotator" [("secret", .text rotator.config.secretKey.text)]).bind
      fun _ ↦ rotator.refresh.bind rotator.afterFirst := by
  refine congrArg (Procedure.step _) (funext fun _ ↦ ?_)
  refine (Procedure.bind_assoc rotator.refresh _ _).trans ?_
  refine congrArg rotator.refresh.bind (funext fun result ↦ ?_)
  cases result <;> rfl

/-! ### The control loop -/

/-- After a first check that has failed, nothing is started. -/
theorem only_afterFirst_error (rotator : Rotator) (e : Error) :
    (rotator.afterFirst (.error e)).Only Effect.IsControlling :=
  ⟨trivial, fun _ ↦ ⟨trivial, fun _ ↦ trivial⟩⟩

/-- A later check and its report are of the control loop. -/
theorem only_periodicCheck (hhook : ∀ outcome, (rotator.hook outcome).Only Effect.IsChecking) :
    rotator.periodicCheck.Only Effect.IsControlling := by
  have hrefresh := (only_refresh hhook).mono fun _ ↦ Effect.IsChecking.isControlling
  refine hrefresh.bind fun result ↦ ?_
  rcases result with e | outcome
  · exact ⟨trivial, fun _ ↦ ⟨trivial, fun _ ↦ trivial⟩⟩
  · trivial

/-- **The loop starts no pollers.** -/
theorem only_serve (hhook : ∀ outcome, (rotator.hook outcome).Only Effect.IsChecking)
    (rounds : Nat) : (rotator.serve rounds).Only Effect.IsControlling := by
  induction rounds with
  | zero => trivial
  | succ rounds ih =>
    refine ⟨trivial, fun wake ↦ ?_⟩
    cases wake with
    | tick => exact (only_periodicCheck hhook).bind fun _ ↦ ih
    | stop | unmountable | injectionFailed => exact ⟨trivial, fun _ ↦ trivial⟩

/-- So is the whole loop. -/
theorem only_loop (hhook : ∀ outcome, (rotator.hook outcome).Only Effect.IsChecking) :
    rotator.loop.Only Effect.IsControlling := by
  rw [loop]
  split
  · trivial
  · exact ⟨trivial, fun _ ↦ only_serve hhook _⟩

end Rotator

/-! ### Consumers -/

namespace Reconciler

variable {isAllowed : Effect → Prop} {caPem : Bytes} {reconciler : Reconciler}

/-- A consumer is read and replaced, and nothing else. -/
theorem only_ensure {consumer : Consumer} (hlog : ∀ event, isAllowed (.log event))
    (hget : isAllowed (.store (.getConsumer consumer)))
    (hreplace : ∀ object, isAllowed (.store (.replaceConsumer consumer object))) :
    (ensure caPem consumer).Only isAllowed := by
  have hread : (call (.getConsumer consumer)).Only isAllowed := ⟨hget, fun _ ↦ trivial⟩
  refine hread.andThen fun found ↦ ?_
  cases found with
  | none => exact ⟨hlog _, fun _ ↦ trivial⟩
  | some object =>
    show Only _ (if object.metadata.isDeleting = true then _ else update consumer caPem object)
    split
    · exact ⟨hlog _, fun _ ↦ trivial⟩
    · refine ⟨hlog _, fun _ ↦ ?_⟩
      dsimp only
      split
      · trivial
      · exact ⟨hreplace _, fun _ ↦ trivial⟩

/-- So are several consumers. -/
theorem only_ensureFrom {consumers : List Consumer} (hlog : ∀ event, isAllowed (.log event))
    (hcalls : ∀ consumer ∈ consumers, isAllowed (.store (.getConsumer consumer)) ∧
      ∀ object, isAllowed (.store (.replaceConsumer consumer object)))
    (lastError : Option Error) : (ensureFrom caPem consumers lastError).Only isAllowed := by
  induction consumers generalizing lastError with
  | nil => cases lastError <;> trivial
  | cons consumer consumers ih =>
    obtain ⟨⟨hget, hreplace⟩, hrest⟩ := List.forall_mem_cons.1 hcalls
    refine (only_ensure hlog hget hreplace).bind fun result ↦ ?_
    rcases result with e | u
    · exact ⟨hlog _, fun _ ↦ ih hrest (some e)⟩
    · exact ih hrest lastError

/-- **All that is done for the consumers is to read and to replace them.** -/
theorem only_ensureAll (reconciler : Reconciler) (caPem : Bytes) :
    (reconciler.ensureAll caPem).Only Effect.IsInjecting :=
  only_ensureFrom (fun _ ↦ trivial) (fun _ _ ↦ ⟨trivial, fun _ ↦ trivial⟩) none

/-- Is the call one that a pass may make? It reads the Secret, and reads and replaces the declared
consumers. -/
def MayCall (reconciler : Reconciler) : StoreCall → Prop
  | .getSecret key => key = reconciler.secretKey
  | .getConsumer consumer | .replaceConsumer consumer _ => consumer ∈ reconciler.consumers
  | .createSecret _ | .replaceSecret _ => False

/-- Is the effect one that a pass may have? -/
def MayHave (reconciler : Reconciler) : Effect → Prop
  | .store call => reconciler.MayCall call
  | .log _ | .record (.reconciliation _) | .setInjected => True
  | .now | .newKey | .jitter | .sleep _ | .record _ | .notify _ | .fileExists _ | .isInjected
  | .fire _ | .await _ | .spawnPollers | .startTicker _ | .wait => False

/-- A pass reads the Secret and brings the consumers up to date. -/
theorem only_pass (hlog : ∀ event, isAllowed (.log event)) (hset : isAllowed .setInjected)
    (hcalls : ∀ call, reconciler.MayCall call → isAllowed (.store call)) :
    reconciler.pass.Only isAllowed := by
  have hread : (call (.getSecret reconciler.secretKey)).Only isAllowed :=
    ⟨hcalls _ rfl, fun _ ↦ trivial⟩
  have hensure (caPem : Bytes) : (reconciler.ensureAll caPem).Only isAllowed :=
    only_ensureFrom hlog (fun _ hmem ↦ ⟨hcalls _ hmem, fun _ ↦ hcalls _ hmem⟩) none
  refine hread.andThen fun found ↦ ?_
  cases found with
  | none => exact ⟨hlog _, fun _ ↦ trivial⟩
  | some secret =>
    show Only _ (reconciler.propagate secret)
    rcases reconciler.propagate_cases secret with ⟨-, _, _, _, heq⟩ | ⟨ca, -, -, heq⟩ <;> rw [heq]
    · exact ⟨hlog _, fun _ ↦ trivial⟩
    · exact (hensure _).andThen fun _ ↦ ⟨hset, fun _ ↦ trivial⟩

/-- **A pass does what a pass may do.** -/
theorem only_reconcile (reconciler : Reconciler) :
    reconciler.reconcile.Only reconciler.MayHave :=
  (only_pass (fun _ ↦ trivial) trivial fun _ hmay ↦ hmay).bind fun _ ↦ ⟨trivial, fun _ ↦ trivial⟩

end Reconciler

end WebhookTrust
