import WebhookTrust.Proofs.Conduct
import WebhookTrust.Proofs.Rotation

/-!
# Attempts in any surroundings

An attempt reads the Secret, looks at the clock and comes to a verdict; on some verdicts it makes
certificates and writes. What it does besides its two calls concerns neither the store nor those who
listen. So the rules here hold for all contracts that ignore such effects (`Contract.IgnoresApart`):
whatever time it is and whatever keys are given, and however the store answers.

The rules of `WebhookTrust.Proofs.Rotation` say more of what is made, and ask for surroundings with
a clock and a source of keys that can be told of. Where only the calls matter, as for what becomes
of a Secret that others write as well, these here are enough.

## The theorems, and what each rests on

* `Rotator.ensures_rotate`: a rotation fails before it writes, or ends as its write does. It rests
  on making certificates having no effects on the store.
* `Rotator.ensures_checkFrom`: a check of a Secret that was read crashes, finds everything in place
  or rotates by its verdict.
* `Rotator.ensures_refreshOnce_of_read`: an attempt is its read and such a check, of a new Secret if
  there is none.
* `Rotator.run_refreshOnce_of_found`: the same for a run, with what the clock shows in it.
-/

namespace WebhookTrust

open Procedure

variable {γ α : Type} {contract : Contract γ} {state : γ}

/-- Are effects that leave the store and those who listen alone ignored in all states? -/
def Contract.IgnoresApart (contract : Contract γ) : Prop :=
  ∀ state effect, effect.IsApart → contract.Ignores state effect

theorem Contract.IgnoresApart.isIdle (h : contract.IgnoresApart) : contract.IsIdle := by
  intro state effect hidle
  cases effect <;> first | exact hidle.elim | exact h state _ trivial

/-- Notes of effects on the store and on those who listen say nothing of the others. -/
theorem Contract.IgnoresApart.noting {κ : Type} {note : Effect → Option κ}
    (h : contract.IgnoresApart) (hnote : ∀ effect, effect.IsApart → note effect = none) :
    (contract.noting note).IgnoresApart := by
  intro state effect hapart
  obtain ⟨hpermits, hignores⟩ := h state.2 effect hapart
  refine ⟨hpermits, fun reply state' hanswer ↦ Prod.ext ?_ (hignores reply state'.2 hanswer.2)⟩
  simpa [hnote effect hapart] using hanswer.1

namespace Rotator

variable {rotator : Rotator} {secret : Secret} {outcome : RotationOutcome} {existed : Bool}
  {post : Except Halt (Except Error RotationOutcome) → γ → Prop}

/-! ### Rotations -/

/-- A certificate is made, or cannot be made. -/
theorem ensures_made {post : Except Halt (Except Error α) → γ → Prop} (name task : String)
    (make : Instant → Except KeyFault Rsa.PrivateKey → Except PkiError α)
    (hcontract : contract.IgnoresApart) (hfails : ∀ e, post (.ok (.error e)) state)
    (hmakes : ∀ made, post (.ok (.ok made)) state) :
    Ensures contract post
      (do
        let now ← perform .now
        match Issuance.ensureDnsName name with
        | .error cause => return .error (.pki cause)
        | .ok () => return (make now (← perform .newKey)).mapError (issueError task)) state := by
  refine ensures_of_ignores (hcontract _ _ trivial) fun now ↦ ?_
  cases Issuance.ensureDnsName name with
  | error cause => exact hfails _
  | ok u =>
    refine ensures_of_ignores (hcontract _ _ trivial) fun newKey ↦ ?_
    show post (.ok ((make now newKey).mapError (issueError task))) state
    rcases make now newKey with cause | made
    · exact hfails _
    · exact hmakes made

/-- The authority to go on with is a new one, or the one that the Secret holds. -/
theorem ensures_obtainAuthority {post : Except Halt (Except Error KeyPair) → γ → Prop}
    (hcontract : contract.IgnoresApart) (hfails : ∀ e, post (.ok (.error e)) state)
    (hobtains : ∀ ca, (outcome ≠ .rotatedCa → secret.authority = .ok ca) →
      post (.ok (.ok ca)) state) :
    Ensures contract post (rotator.obtainAuthority outcome secret) state := by
  rw [obtainAuthority]
  split_ifs with houtcome
  · refine ensures_log_bind hcontract.isIdle ?_
    refine ensures_made rotator.config.caName "CA generation" _ hcontract hfails fun ca ↦ ?_
    exact hobtains ca fun hother ↦ (hother houtcome).elim
  · refine ensures_log_bind hcontract.isIdle ?_
    show post (.ok (secret.authority.mapError .pki)) state
    rcases hload : secret.authority with cause | ca
    · exact hfails _
    · exact hobtains ca fun _ ↦ hload

/-- **A rotation fails before it writes, or ends as its write does.** -/
theorem ensures_rotate (hcontract : contract.IgnoresApart)
    (hfails : ∀ e, post (.ok (.error e)) state)
    (hwrites : ∀ ca leaf, (outcome ≠ .rotatedCa → secret.authority = .ok ca) →
      Ensures contract (fun result ↦ post (result.map (Except.map fun _ ↦ outcome)))
        (write existed (secret.withCertificates ca leaf)) state) :
    Ensures contract post (rotator.rotate outcome existed secret) state := by
  rw [rotate, ensures_andThen]
  refine ensures_obtainAuthority hcontract hfails fun ca hca ↦ (ensures_andThen _ _).2 ?_
  refine ensures_made rotator.config.dnsName "leaf generation" _ hcontract hfails fun leaf ↦ ?_
  refine (ensures_andThen _ _).2 ((hwrites ca leaf hca).mono ?_)
  rintro (halt | (e | u)) state hpost
  · exact hpost
  · exact hpost
  · -- what is left is to count the rotation and to log it
    refine ensures_of_ignores (hcontract _ _ trivial) fun _ ↦ ?_
    exact ensures_log_bind hcontract.isIdle hpost

/-! ### Checks -/

/-- A check of a Secret that was found, or of a new one. -/
def checkFrom (rotator : Rotator) (existed : Bool) (secret : Secret) :
    Procedure (Except Error RotationOutcome) := do
  match rotator.horizon? (← perform .now) with
  | none => .stop .crashed
  | some instant =>
    match ← rotator.assess secret instant with
    | .unchanged =>
      log .debug "no cert refresh needed" [("secret", .text rotator.config.secretKey.text)]
      return .ok .unchanged
    | outcome => rotator.rotate outcome existed secret

theorem refreshOnce_eq (rotator : Rotator) : rotator.refreshOnce =
    (call (.getSecret rotator.config.secretKey)).andThen fun found ↦
      (rotator.foundOrNew found).bind (rotator.checkFrom found.isSome) := rfl

/-- What is done on a verdict. -/
def act (rotator : Rotator) (existed : Bool) (secret : Secret) :
    RotationOutcome → Procedure (Except Error RotationOutcome)
  | .unchanged => do
    log .debug "no cert refresh needed" [("secret", .text rotator.config.secretKey.text)]
    return .ok .unchanged
  | outcome => rotator.rotate outcome existed secret

theorem checkFrom_eq (rotator : Rotator) (existed : Bool) (secret : Secret) :
    rotator.checkFrom existed secret = .step .now fun now ↦
      match rotator.horizon? now with
      | none => .stop .crashed
      | some instant => (rotator.assess secret instant).bind (rotator.act existed secret) := rfl

/-- **A check of a Secret that was read goes by its verdict.** -/
theorem ensures_checkFrom (hcontract : contract.IgnoresApart)
    (hcrashes : post (.error .crashed) state)
    (hunchanged : ∀ instant, rotator.verdict secret instant = .unchanged →
      post (.ok (.ok .unchanged)) state)
    (hrotates : ∀ instant, rotator.verdict secret instant ≠ .unchanged → Ensures contract post
      (rotator.rotate (rotator.verdict secret instant) existed secret) state) :
    Ensures contract post (rotator.checkFrom existed secret) state := by
  rw [checkFrom_eq]
  refine ensures_of_ignores (hcontract _ _ trivial) fun now ↦ ?_
  rcases rotator.horizon? now with _ | instant
  · exact hcrashes
  refine ensures_assess_bind hcontract.isIdle ?_
  have hunchanged := hunchanged instant
  have hrotates := hrotates instant
  match houtcome : rotator.verdict secret instant with
  | .unchanged => exact ensures_log_bind hcontract.isIdle (hunchanged houtcome)
  | .rotatedLeaf => simpa [houtcome, act] using hrotates (by simp [houtcome])
  | .rotatedCa => simpa [houtcome, act] using hrotates (by simp [houtcome])

/-- **An attempt reads the Secret and checks it**, or a new one if there is none. -/
theorem ensures_refreshOnce_of_read (hcontract : contract.IgnoresApart)
    (hpermits : contract.permits state (.store (.getSecret rotator.config.secretKey)))
    (hfails : ∀ e state',
      contract.answers state (.store (.getSecret rotator.config.secretKey)) (.error e) state' →
        post (.ok (.error e)) state')
    (hreads : ∀ (found : Option Secret) state',
      contract.answers state (.store (.getSecret rotator.config.secretKey)) (.ok found) state' →
        Ensures contract post (rotator.checkFrom found.isSome (rotator.basis found)) state') :
    Ensures contract post rotator.refreshOnce state := by
  rw [refreshOnce_eq, ensures_andThen]
  refine ⟨hpermits, ?_⟩
  rintro (e | found) state' hanswer
  · exact hfails e state' hanswer
  · exact ensures_foundOrNew_bind hcontract.isIdle (hreads found state' hanswer)

/-! ### Runs -/

section Run

variable {σ β : Type} {answer : (effect : Effect) → σ → effect.Reply × σ} {real after : σ}

/-- A run goes on from a call that succeeds with what it gives. -/
theorem run_call_andThen {storeCall : StoreCall} {result : storeCall.Result}
    {next : storeCall.Result → Procedure (Except Error β)}
    (h : answer (.store storeCall) real = (.ok result, after)) :
    ((call storeCall).andThen next).run answer real = (next result).run answer after := by
  show ((Procedure.pure (answer (.store storeCall) real).1).andThen next).run answer
    (answer (.store storeCall) real).2 = _
  rw [h]
  rfl

/-- So does its trace. -/
theorem trace_call_andThen {storeCall : StoreCall} {result : storeCall.Result}
    {next : storeCall.Result → Procedure (Except Error β)}
    (h : answer (.store storeCall) real = (.ok result, after)) :
    ((call storeCall).andThen next).trace answer real =
      .store storeCall :: (next result).trace answer after := by
  show .store storeCall :: ((Procedure.pure (answer (.store storeCall) real).1).andThen next).trace
    answer (answer (.store storeCall) real).2 = _
  rw [h]
  rfl

/-- **An attempt that finds a Secret acts on its verdict at the instant ahead.** -/
theorem run_refreshOnce_of_found {afterTime : σ} {now instant : Instant}
    (hread : answer (.store (.getSecret rotator.config.secretKey)) real =
      (.ok (some secret), after))
    (hnow : answer .now after = (now, afterTime)) (hinstant : rotator.horizon? now = some instant) :
    let rest := (rotator.assess secret instant).bind (rotator.act true secret)
    rotator.refreshOnce.run answer real = rest.run answer afterTime ∧
      rotator.refreshOnce.trace answer real =
        .store (.getSecret rotator.config.secretKey) :: .now :: rest.trace answer afterTime := by
  intro rest
  have hrun : (rotator.checkFrom true secret).run answer after = rest.run answer afterTime := by
    simp [checkFrom_eq, Procedure.run, hnow, hinstant, rest]
  have htrace : (rotator.checkFrom true secret).trace answer after =
      .now :: rest.trace answer afterTime := by
    simp [checkFrom_eq, Procedure.trace, hnow, hinstant, rest]
  rw [refreshOnce_eq, run_call_andThen hread, trace_call_andThen hread, ← hrun, ← htrace]
  exact ⟨rfl, rfl⟩

end Run

end Rotator

end WebhookTrust
