import WebhookTrust.Proofs.Exchanges
import WebhookTrust.Proofs.Isolation
import WebhookTrust.Proofs.StoredAuthority

/-!
# When the authority counts as injected

The flag that lets a rotator become ready is set by passes and by nothing else. A pass may end in
many ways, and it ends well also if there is nothing to do (`Reconciler.Conclusion`); it sets the
flag only if it has loaded an authority and no consumer failed.

## The theorems, and what each rests on

* `Secret.kind_of_authority_error`, `Secret.authority_isError`: whatever is wrong with the entries,
  the authority is said to be malformed, and it is not loaded if one of the two is missing or they
  are no key pair.
* `Reconciler.ensures_pass_conclusion`: **a pass comes to a conclusion.** It is told from the
  exchanges of the run alone, so it holds whatever the store replies
  (`WebhookTrust.Proofs.Exchanges`).
* `Reconciler.Conclusion.gated`: **every conclusion is as observed.** What an observer of the calls
  and replies would say of the pass (`Reconciler.Gated`) is what the pass does: it has loaded an
  authority, all errors that the replies show are of consumers, and the result is the last of them.
* `Reconciler.passes_gated`: **the gate**, for any number of passes in a row, between which anything
  may happen that leaves the flag alone. It is an induction over the passes; the flag is set in the
  end exactly if it was set before or a pass has succeeded (`Reconciler.flag_passes`), and once set
  it stays set (`Reconciler.readings_passes`).

The surroundings are any that set the flag when they are told to and at no other time
(`Reconciler.IsFlag`); the store in memory with a flag beside it is such
(`Reconciler.isFlag_serveFlagged`).
-/

namespace WebhookTrust

/-! ### Loading -/

/-- **Whatever is wrong with the entries, the authority is said to be malformed.** -/
theorem Secret.kind_of_authority_error {secret : Secret} {cause : PkiError}
    (h : secret.authority = .error cause) : cause.kind = .malformedSecret := by
  rw [Secret.authority] at h
  split at h
  · exact Except.error.inj h ▸ rfl
  · exact Except.error.inj h ▸ rfl
  · next cert key _ _ =>
    cases hload : KeyPair.load cert key with
    | ok ca => simp [hload, Except.mapError] at h
    | error fault =>
      simp only [hload, Except.mapError, Except.error.injEq] at h
      exact h ▸ rfl

/-- The authority cannot be loaded if one of its two entries is missing, or they are no key pair. -/
theorem Secret.authority_isError {secret : Secret} : (∃ cause, secret.authority = .error cause) ↔
    ∀ certPem keyPem, secret.lookup? Secret.caCert = some certPem →
      secret.lookup? Secret.caKey = some keyPem →
      ∃ fault, KeyPair.load certPem keyPem = .error fault := by
  rw [Secret.authority]
  cases hcert : secret.lookup? Secret.caCert with
  | none => simp
  | some certPem =>
    cases hkey : secret.lookup? Secret.caKey with
    | none => simp
    | some keyPem =>
      cases hload : KeyPair.load certPem keyPem <;>
        simp [Except.mapError, hload]

namespace Reconciler

open Procedure

variable {σ : Type} {reconciler : Reconciler} {history : List Exchange}
  {result : Except Error Unit} {isInjected : Bool}

/-! ### One pass -/

/-- There is no Secret, or it is being deleted, or no authority can be loaded from it. -/
def IsUnusable : Option Secret → Prop
  | none => True
  | some secret => secret.metadata.isDeleting = true ∨ ∃ cause, secret.authority = .error cause

/-- The calls of a pass with their replies, the result, and whether the flag is set. -/
inductive Conclusion (reconciler : Reconciler) :
    List Exchange → Except Error Unit → Bool → Prop
  | unreadable (e : Error) :
    Conclusion reconciler [⟨.getSecret reconciler.secretKey, .error e⟩] (.error e) false
  | unusable (found : Option Secret) (h : IsUnusable found) :
    Conclusion reconciler [⟨.getSecret reconciler.secretKey, .ok found⟩] (.ok ()) false
  | finished (secret : Secret) (ca : KeyPair) (history : List Exchange) (lastError : Option Error)
    (hlive : secret.metadata.isDeleting = false) (hload : secret.authority = .ok ca)
    (hround : Round ca.certPem reconciler.consumers history lastError) :
    Conclusion reconciler (⟨.getSecret reconciler.secretKey, .ok (some secret)⟩ :: history)
      (resultOf lastError) lastError.isNone

/-- **A pass comes to a conclusion.** -/
theorem ensures_pass_conclusion (reconciler : Reconciler) (flag : Bool) :
    Ensures Contract.flagging.recording (fun result state ↦ ∃ reply isInjected,
      result = .ok reply ∧ state.2 = (flag || isInjected) ∧
      reconciler.Conclusion state.1 reply isInjected) reconciler.pass ([], flag) := by
  have hidle := Contract.isIdle_recording
  refine ⟨trivial, ?_⟩
  rintro (e | found) ⟨past, flag'⟩ ⟨hpast, hflag⟩
  · obtain rfl : past = [⟨.getSecret reconciler.secretKey, .error e⟩] := hpast
    obtain rfl : flag' = flag := hflag
    exact ⟨_, false, rfl, (Bool.or_false _).symm, .unreadable e⟩
  · obtain rfl : past = [⟨.getSecret reconciler.secretKey, .ok found⟩] := hpast
    obtain rfl : flag' = flag := hflag
    -- a Secret that is of no use is noted in the log, and that is all
    have hunusable (h : IsUnusable found) : ∃ reply isInjected,
        (.ok (.ok ()) : Except Halt (Except Error Unit)) = .ok reply ∧
          flag' = (flag' || isInjected) ∧ reconciler.Conclusion
            [⟨.getSecret reconciler.secretKey, .ok found⟩] reply isInjected :=
      ⟨_, false, rfl, (Bool.or_false _).symm, .unusable found h⟩
    cases found with
    | none => exact ensures_log_bind hidle (hunusable trivial)
    | some secret =>
      show Ensures _ _ (reconciler.propagate secret) _
      rcases reconciler.propagate_cases secret with
        ⟨hnone, _, _, _, heq⟩ | ⟨ca, hlive, hload, heq⟩ <;> rw [heq]
      · exact ensures_log_bind hidle (hunusable hnone)
      · refine (ensures_andThen _ _).2 ((ensures_ensureFrom_round _ _ _).mono ?_)
        rintro _ _ ⟨history, lastError, rfl, rfl, hround⟩
        have hconclusion := Conclusion.finished secret ca history lastError hlive hload hround
        cases lastError with
        | some e => exact ⟨_, false, rfl, (Bool.or_false _).symm, hconclusion⟩
        | none =>
          refine ⟨trivial, ?_⟩
          rintro _ ⟨past, flag''⟩ ⟨hpast, hflag⟩
          obtain rfl := hpast.trans (List.append_nil _)
          exact ⟨_, true, rfl, hflag.trans (Bool.or_true _).symm, hconclusion⟩

/-- With the Secret to be read first. -/
theorem ensures_reconcile_conclusion (reconciler : Reconciler) (flag : Bool) :
    Ensures Contract.flagging.recording (fun result state ↦ ∃ reply isInjected,
      result = .ok reply ∧ state.2 = (flag || isInjected) ∧
      reconciler.Conclusion state.1 reply isInjected) reconciler.reconcile ([], flag) := by
  refine (ensures_bind _ _).2 ((reconciler.ensures_pass_conclusion flag).mono ?_)
  rintro _ state ⟨reply, isInjected, rfl, hflag, hconclusion⟩
  exact ensures_record_bind Contract.isQuiet_flagging.recording
    ⟨reply, isInjected, rfl, hflag, hconclusion⟩

/-! ### What is observed of a pass -/

/-- The authority that a pass has loaded: from a Secret that is there and is not being deleted. -/
def Loads (reconciler : Reconciler) (history : List Exchange) (ca : KeyPair) : Prop :=
  ∃ secret, ⟨.getSecret reconciler.secretKey, .ok (some secret)⟩ ∈ history ∧
    secret.metadata.isDeleting = false ∧ secret.authority = .ok ca

/-- A pass has loaded an authority, and no consumer failed. -/
def Succeeds (reconciler : Reconciler) (history : List Exchange) : Prop :=
  ∃ ca, reconciler.Loads history ca ∧ failures ca.certPem history = []

/-- What a pass comes to, by its calls and the replies to them. -/
structure Gated (reconciler : Reconciler) (history : List Exchange) (result : Except Error Unit)
    (before after : Bool) : Prop where
  reads : ∃ reply rest, history = ⟨.getSecret reconciler.secretKey, reply⟩ :: rest
  flag : after = true ↔ before = true ∨ reconciler.Succeeds history
  /-- A Secret that is of no use is all that is read, and no failure. -/
  unusable (found : Option Secret)
      (hread : ⟨.getSecret reconciler.secretKey, .ok found⟩ ∈ history) (h : IsUnusable found) :
    result = .ok () ∧ history = [⟨.getSecret reconciler.secretKey, .ok found⟩] ∧ after = before
  error (e : Error) : result = .error e ↔
    ⟨.getSecret reconciler.secretKey, .error e⟩ ∈ history ∨
      ∃ ca, reconciler.Loads history ca ∧ (failures ca.certPem history).getLast? = some e
  /-- Of an authority that is loaded, every consumer has its turn. -/
  visited (ca : KeyPair) (h : reconciler.Loads history ca) :
    history.filterMap visited? = reconciler.consumers

/-- A pass that makes a single call, for a Secret of which nothing is loaded. -/
theorem Gated.of_single {reply : (StoreCall.getSecret reconciler.secretKey).Reply} {before : Bool}
    (hload : ¬ ∃ ca, reconciler.Loads [⟨.getSecret reconciler.secretKey, reply⟩] ca)
    (hresult : ∀ e, result = .error e ↔ reply = .error e) :
    reconciler.Gated [⟨.getSecret reconciler.secretKey, reply⟩] result before before where
  reads := ⟨reply, [], rfl⟩
  flag := by
    refine (or_iff_left ?_).symm
    rintro ⟨ca, hca, -⟩
    exact hload ⟨ca, hca⟩
  unusable found hread _ := by
    cases List.mem_singleton.1 hread
    refine ⟨?_, rfl, rfl⟩
    rcases result with e | u
    · cases (hresult e).1 rfl
    · rfl
  error e := by
    refine (hresult e).trans ⟨?_, ?_⟩
    · rintro rfl
      exact .inl (List.mem_singleton_self _)
    · rintro (hread | ⟨ca, hca, -⟩)
      · cases List.mem_singleton.1 hread
        rfl
      · exact (hload ⟨ca, hca⟩).elim
  visited ca h := (hload ⟨ca, h⟩).elim

/-- What an authority was loaded from is of use. -/
theorem not_isUnusable {secret : Secret} {ca : KeyPair} (hlive : secret.metadata.isDeleting = false)
    (hload : secret.authority = .ok ca) : ¬ IsUnusable (some secret) := by
  rintro (hdeleting | ⟨cause, herror⟩)
  · simp [hlive] at hdeleting
  · simp [hload] at herror

section Finished

variable {secret : Secret} {ca : KeyPair} {consumers : List Consumer} {lastError : Option Error}

/-- A round reads no Secret, so all that was read is what the pass began with. -/
theorem Round.eq_of_read {key : SecretKey} {first reply : (StoreCall.getSecret key).Reply}
    (hround : Round ca.certPem consumers history lastError)
    (hread : ⟨.getSecret key, reply⟩ ∈ (⟨.getSecret key, first⟩ :: history : List Exchange)) :
    reply = first := by
  rcases List.mem_cons.1 hread with heq | hmem
  · cases heq
    rfl
  · exact (hround.not_getSecret _ hmem _ rfl).elim

/-- What was loaded before a round over the consumers is all that the pass has loaded. -/
theorem Round.loads_iff (hlive : secret.metadata.isDeleting = false)
    (hload : secret.authority = .ok ca) (hround : Round ca.certPem consumers history lastError)
    {other : KeyPair} : reconciler.Loads
      (⟨.getSecret reconciler.secretKey, .ok (some secret)⟩ :: history) other ↔ other = ca := by
  refine ⟨?_, fun h ↦ ⟨secret, List.mem_cons_self, hlive, h ▸ hload⟩⟩
  rintro ⟨read, hread, -, hother⟩
  cases hround.eq_of_read hread
  exact Except.ok.inj (hother.symm.trans hload)

/-- A pass that has loaded an authority and gone round the consumers. -/
theorem Gated.of_round (hlive : secret.metadata.isDeleting = false)
    (hload : secret.authority = .ok ca)
    (hround : Round ca.certPem reconciler.consumers history lastError) (before : Bool) :
    reconciler.Gated (⟨.getSecret reconciler.secretKey, .ok (some secret)⟩ :: history)
      (resultOf lastError) before (before || lastError.isNone) := by
  have hfailures : failures ca.certPem
      (⟨.getSecret reconciler.secretKey, .ok (some secret)⟩ :: history) =
        failures ca.certPem history := rfl
  refine ⟨⟨_, history, rfl⟩, ?_, ?_, fun e ↦ ?_, fun _ _ ↦ hround.visited⟩
  · simp only [Succeeds, hround.loads_iff hlive hload, exists_eq_left, hfailures]
    rw [← List.getLast?_eq_none_iff, ← hround.lastError_eq]
    cases before <;> simp
  · rintro found hread hunusable
    cases hround.eq_of_read hread
    exact (not_isUnusable hlive hload hunusable).elim
  · have hread : ¬ ⟨.getSecret reconciler.secretKey, .error e⟩ ∈
        (⟨.getSecret reconciler.secretKey, .ok (some secret)⟩ :: history : List Exchange) :=
      fun hmem ↦ by cases hround.eq_of_read hmem
    rw [or_iff_right hread]
    simp only [hround.loads_iff hlive hload, exists_eq_left, hfailures]
    rw [← hround.lastError_eq]
    cases lastError <;> simp [resultOf]

end Finished

/-- **Every conclusion is as observed.** -/
theorem Conclusion.gated (h : reconciler.Conclusion history result isInjected) (before : Bool) :
    reconciler.Gated history result before (before || isInjected) := by
  cases h with
  | unreadable e =>
    rw [Bool.or_false]
    refine .of_single ?_ fun e' ↦ ⟨fun h ↦ Except.error.inj h ▸ rfl, fun h ↦ by cases h; rfl⟩
    rintro ⟨ca, secret, hread, -⟩
    cases List.mem_singleton.1 hread
  | unusable found hunusable =>
    rw [Bool.or_false]
    refine .of_single ?_ fun e ↦ ⟨nofun, nofun⟩
    rintro ⟨ca, secret, hread, hlive, hload⟩
    cases List.mem_singleton.1 hread
    exact not_isUnusable hlive hload hunusable
  | finished secret ca history lastError hlive hload hround =>
    exact .of_round hlive hload hround before

/-! ### Passes in a row -/

variable {answer : (effect : Effect) → σ → effect.Reply × σ} {flag : σ → Bool}

/-- The flag is set by the effect that is to set it, and nothing else changes it. -/
structure IsFlag (answer : (effect : Effect) → σ → effect.Reply × σ) (flag : σ → Bool) : Prop where
  sets (real : σ) : flag (answer .setInjected real).2 = true
  keeps (effect : Effect) (hother : effect ≠ .setInjected) (real : σ) :
    flag (answer effect real).2 = flag real

/-- Such surroundings keep the contract of the flag. -/
theorem IsFlag.keptBy (h : IsFlag answer flag) :
    Contract.flagging.KeptBy answer fun real state ↦ flag real = state := by
  rintro real _ effect rfl -
  by_cases hset : effect = .setInjected
  · subst hset
    exact ⟨true, rfl, h.sets real⟩
  · refine ⟨_, ?_, h.keeps effect hset real⟩
    cases effect <;> first | rfl | exact absurd rfl hset

/-- **A pass is gated**, in whatever surroundings. -/
theorem gated_reconcile (h : IsFlag answer flag) (reconciler : Reconciler) (real : σ) :
    ∃ result, (reconciler.reconcile.run answer real).1 = .ok result ∧
      reconciler.Gated (reconciler.reconcile.exchanges answer real) result (flag real)
        (flag (reconciler.reconcile.run answer real).2) := by
  obtain ⟨_, hflag, result, isInjected, hresult, rfl, hconclusion⟩ :=
    (reconciler.ensures_reconcile_conclusion (flag real)).run_recording h.keptBy rfl
  exact ⟨result, hresult, hflag ▸ hconclusion.gated (flag real)⟩

/-- What was observed of a pass. -/
structure PassRecord where
  history : List Exchange
  result : Except Halt (Except Error Unit)
  before : Bool
  after : Bool

/-- Passes in a row, before each of which something else happens: the records, and the state in the
end. -/
def passes (reconciler : Reconciler) (answer : (effect : Effect) → σ → effect.Reply × σ)
    (flag : σ → Bool) : List (σ → σ) → σ → List PassRecord × σ
  | [], real => ([], real)
  | interlude :: rest, real =>
    let start := interlude real
    let run := reconciler.reconcile.run answer start
    let later := passes reconciler answer flag rest run.2
    (⟨reconciler.reconcile.exchanges answer start, run.1, flag start, flag run.2⟩ :: later.1,
      later.2)

/-- The values of the flag that were observed, the first one first. -/
def readings (records : List PassRecord) : List Bool :=
  records.flatMap fun record ↦ [record.before, record.after]

variable {interludes : List (σ → σ)}

/-- Each of several passes is gated. -/
theorem gated_passes (h : IsFlag answer flag) (reconciler : Reconciler) (real : σ) :
    ∀ record ∈ (reconciler.passes answer flag interludes real).1,
      ∃ result, record.result = .ok result ∧
        reconciler.Gated record.history result record.before record.after := by
  induction interludes generalizing real with
  | nil => simp [passes]
  | cons interlude rest ih =>
    exact List.forall_mem_cons.2 ⟨gated_reconcile h reconciler (interlude real), ih _⟩

/-- **The flag is set in the end if it was set before, or a pass has succeeded.** -/
theorem flag_passes (h : IsFlag answer flag) (reconciler : Reconciler)
    (hinterludes : ∀ interlude ∈ interludes, ∀ real, flag (interlude real) = flag real) (real : σ) :
    flag (reconciler.passes answer flag interludes real).2 = true ↔ flag real = true ∨
      ∃ record ∈ (reconciler.passes answer flag interludes real).1,
        reconciler.Succeeds record.history := by
  induction interludes generalizing real with
  | nil => simp [passes]
  | cons interlude rest ih =>
    obtain ⟨hinterlude, hrest⟩ := List.forall_mem_cons.1 hinterludes
    obtain ⟨_, -, hgated⟩ := gated_reconcile h reconciler (interlude real)
    rw [passes, ih hrest, hgated.flag, hinterlude, or_assoc]
    simp only [List.exists_mem_cons_iff]

/-- **Once it is set it stays set.** -/
theorem readings_passes (h : IsFlag answer flag) (reconciler : Reconciler)
    (hinterludes : ∀ interlude ∈ interludes, ∀ real, flag (interlude real) = flag real) (real : σ) :
    (flag real :: readings (reconciler.passes answer flag interludes real).1).Pairwise
      fun earlier later ↦ earlier = true → later = true := by
  induction interludes generalizing real with
  | nil => simp [passes, readings]
  | cons interlude rest ih =>
    obtain ⟨hinterlude, hrest⟩ := List.forall_mem_cons.1 hinterludes
    obtain ⟨_, -, hgated⟩ := gated_reconcile h reconciler (interlude real)
    have hlater := ih hrest (reconciler.reconcile.run answer (interlude real)).2
    -- what is set before the pass is set after it, and so in all later readings
    have hstart : ∀ reading ∈ flag (reconciler.reconcile.run answer (interlude real)).2 ::
        readings (reconciler.passes answer flag rest
          (reconciler.reconcile.run answer (interlude real)).2).1,
        flag (interlude real) = true → reading = true := by
      intro reading hmem hset
      have hafter := hgated.flag.2 (.inl hset)
      rcases List.mem_cons.1 hmem with rfl | hmem
      · exact hafter
      · exact (List.pairwise_cons.1 hlater).1 reading hmem hafter
    refine List.pairwise_cons.2 ⟨?_, List.pairwise_cons.2 ⟨hstart, hlater⟩⟩
    rw [← hinterlude real]
    exact List.forall_mem_cons.2 ⟨id, hstart⟩

/-- **The gate.** Whatever the store replies, and whatever happens between passes, every pass ends
with a result and is gated; the flag is set by those that succeed and is not reset. If an entry is
missing, or the two are no key pair, no authority is loaded and the Secret is said to be
malformed. -/
theorem passes_gated (h : IsFlag answer flag) (reconciler : Reconciler)
    (interludes : List (σ → σ))
    (hinterludes : ∀ interlude ∈ interludes, ∀ real, flag (interlude real) = flag real) (real : σ) :
    let run := reconciler.passes answer flag interludes real
    (∀ record ∈ run.1, ∃ result, record.result = .ok result ∧
      reconciler.Gated record.history result record.before record.after) ∧
    (flag run.2 = true ↔ flag real = true ∨
      ∃ record ∈ run.1, reconciler.Succeeds record.history) ∧
    ((flag real :: readings run.1).Pairwise fun earlier later ↦ earlier = true → later = true) ∧
    ∀ secret : Secret, (∀ cause, secret.authority = .error cause → cause.kind = .malformedSecret) ∧
      ((∃ cause, secret.authority = .error cause) ↔
        ∀ certPem keyPem, secret.lookup? Secret.caCert = some certPem →
          secret.lookup? Secret.caKey = some keyPem →
          ∃ fault, KeyPair.load certPem keyPem = .error fault) :=
  ⟨gated_passes h reconciler real, flag_passes h reconciler hinterludes real,
    readings_passes h reconciler hinterludes real,
    fun _ ↦ ⟨fun _ ↦ Secret.kind_of_authority_error, Secret.authority_isError⟩⟩

/-- The store in memory, with a flag. -/
def serveFlagged (effect : Effect) (real : MemoryStore × Bool) :
    effect.Reply × MemoryStore × Bool :=
  let (reply, store) := real.1.serve .none effect
  (reply, store, real.2 || decide (effect = .setInjected))

theorem isFlag_serveFlagged : IsFlag serveFlagged Prod.snd where
  sets _ := Bool.or_true _
  keeps _ hother real := by simp [serveFlagged, hother]

/-- Its passes over the sample consumer. -/
theorem succeeds_sample {secret : Secret} {ca : KeyPair}
    (hlive : secret.metadata.isDeleting = false) (hload : secret.authority = .ok ca) :
    let reconciler := ofConfig Simulation.sampleRotator.config
    reconciler.Succeeds (reconciler.reconcile.exchanges serveFlagged
      ((Simulation.sampleWorld none).store.putSecret reconciler.secretKey secret, false)) := by
  intro reconciler
  have hhistory : reconciler.reconcile.exchanges serveFlagged
      ((Simulation.sampleWorld none).store.putSecret reconciler.secretKey secret, false) =
      ⟨.getSecret reconciler.secretKey, .ok (some secret)⟩ ::
        ((reconciler.propagate secret).bind fun result ↦
          .step (.record (.reconciliation result.isOk)) fun _ ↦ .pure result).exchanges serveFlagged
            ((Simulation.sampleWorld none).store.putSecret reconciler.secretKey secret, false) :=
    rfl
  rw [hhistory, reconciler.propagate_of_loaded hlive hload]
  exact ⟨ca, ⟨secret, List.mem_cons_self, hlive, hload⟩, rfl⟩

/-- A pass that finds no Secret, and one after a Secret was put there: the second sets the flag. -/
theorem passes_gated_second :
    let rotator := Simulation.sampleRotator
    let reconciler := ofConfig rotator.config
    let secret := rotator.withNewAuthority (.new reconciler.secretKey) ⟨0, 0⟩ ⟨0, 0⟩
      Rsa.pierpontKey Rsa.pierpontKey
    let run := reconciler.passes serveFlagged Prod.snd
      [id, fun real ↦ (real.1.putSecret reconciler.secretKey secret, real.2)]
      ((Simulation.sampleWorld none).store, false)
    run.1.map (·.before) = [false, false] ∧ run.2.2 = true := by
  intro rotator reconciler secret run
  have hwindow : Issuance.IsWritableWindow (.standard ⟨0, 0⟩) := by constructor <;> decide
  have hload : secret.authority = .ok (rotator.newAuthority ⟨0, 0⟩ Rsa.pierpontKey) :=
    Secret.authority_withCertificates (Rotator.load_newAuthority
      Simulation.isRegular_sample.toIsPlain Rsa.isFit_pierpontKey hwindow).1
  have hlive : secret.metadata.isDeleting = false := rfl
  clear_value secret
  obtain ⟨-, hflag, -⟩ := passes_gated isFlag_serveFlagged reconciler
    [id, fun real ↦ (real.1.putSecret reconciler.secretKey secret, real.2)] (by simp)
    ((Simulation.sampleWorld none).store, false)
  exact ⟨rfl, hflag.2 (.inr ⟨_, List.mem_cons_of_mem _ List.mem_cons_self,
    succeeds_sample hlive hload⟩)⟩

end Reconciler

end WebhookTrust
