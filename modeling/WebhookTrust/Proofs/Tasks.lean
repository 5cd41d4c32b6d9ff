import WebhookTrust.Proofs.Contract
import WebhookTrust.Proofs.Service

/-!
# Pollers and passes under contract

What the tasks beside the control loop do, each taken by itself, whatever they are answered.

A poller and what it looks at agree on a `PollerView`: the answers so far, and which of its signals
were fired. `Contract.polling` lets a poller fire its success only once it was answered that it is
so, and its failure only when the answers were in the negative and as many as there are attempts;
after a signal nothing more is asked.

A pass and the store agree on a `PassView`. `Contract.passing` lets a pass set the flag only if it
has found a Secret with an authority.

## The theorems, and what each rests on

* `Poller.ensures_task`: both pollers keep to their contract, for every profile of pauses. It rests
  on `Backoff.ensures_pollFrom`, which counts the questions. A profile without a limit is not
  excluded: such a poller never fires its failure.
* `Reconciler.ensures_reconcile_passing`: passes keep to theirs and do not fail from the flag on.
  The flag is the last thing that a pass sets, after all consumers were brought up to date.
* `PollerView.eq_fire_of_isAnnounced`, `Reconciler.eq_of_isDone`: what is left for a task to do once
  it has come so far. The contracts say what a task may have done; these say that there is nothing
  else left, which no contract can.
-/

namespace WebhookTrust

open Procedure

variable {config : Config} {k : Poller}

/-! ### What a poller knows -/

/-- What a poller was answered, and what it has done. -/
@[ext]
structure PollerView where
  polls : List Bool
  hasSucceeded : Bool
  hasFailed : Bool
  /-- Has the poller seen that the certificate is mounted, if it waits for that? -/
  hasAwaited : Bool
  /-- Was the gauge set? -/
  isAnnounced : Bool

namespace PollerView

/-- The poller has not been started. -/
def fresh : PollerView := ⟨[], false, false, false, false⟩

/-- Nothing is decided yet. -/
structure IsOpen (view : PollerView) : Prop where
  hasSucceeded : view.hasSucceeded = false
  hasFailed : view.hasFailed = false
  isAnnounced : view.isAnnounced = false

/-- The poller was answered that it is so; if there is a gauge, it is set. -/
structure MaySucceed (k : Poller) (view : PollerView) : Prop where
  seen : true ∈ view.polls
  hasFailed : view.hasFailed = false
  hasAwaited : k = .injection → view.hasAwaited = true
  isAnnounced : k = .injection → view.isAnnounced = true

/-- The poller has asked in vain, as often as it may. -/
structure MayFail (config : Config) (k : Poller) (view : PollerView) : Prop where
  isLimited : config.readinessBackoff.maxAttempts ≠ 0
  polls : view.polls = List.replicate config.readinessBackoff.maxAttempts false
  hasSucceeded : view.hasSucceeded = false
  hasAwaited : k = .injection → view.hasAwaited = true
  isAnnounced : view.isAnnounced = false

/-- One more question was answered. -/
def afterPoll (view : PollerView) (answer : Bool) : PollerView :=
  { view with polls := view.polls ++ [answer] }

/-- What a poller may do. Once the gauge is set, the signal is fired and nothing else is done. -/
def permits (config : Config) (k : Poller) (view : PollerView) : Effect → Prop
  | .jitter | .sleep _ | .log _ => view.isAnnounced = false
  | .fileExists path => k = .mount ∧ path = config.certFile ∧ view.IsOpen
  | .isInjected => k = .injection ∧ view.hasAwaited = true ∧ view.IsOpen
  | .await signal => k = .injection ∧ signal = .mounted ∧ view.isAnnounced = false
  | .record measurement => k = .injection ∧ measurement = .ready true ∧ true ∈ view.polls ∧
    view.hasAwaited = true ∧ view.IsOpen
  | .fire signal =>
    signal = k.success ∧ view.MaySucceed k ∨ signal = k.failure ∧ view.MayFail config k
  | .store _ | .now | .newKey | .notify _ | .setInjected | .spawnPollers | .startTicker _
  | .wait => False

/-- What it knows after the reply. -/
def answers (k : Poller) (view : PollerView) : (effect : Effect) → effect.Reply → PollerView → Prop
  | .fileExists _, answer, view' => view' = view.afterPoll answer
  | .isInjected, answer, view' => view' = view.afterPoll answer
  | .await _, _, view' => view' = { view with hasAwaited := true }
  | .record _, _, view' => view' = { view with isAnnounced := true }
  | .fire signal, _, view' =>
    signal = k.success ∧ view' = { view with hasSucceeded := true } ∨
      signal = k.failure ∧ view' = { view with hasFailed := true }
  | _, _, view' => view' = view

/-- The poller is not left between the gauge and the signal. -/
def IsSettled (view : PollerView) : Prop := view.isAnnounced = true → view.hasSucceeded = true

/-- What was done is what might be done. -/
structure IsSound (config : Config) (k : Poller) (view : PollerView) : Prop where
  succeeded (h : view.hasSucceeded = true) : view.MaySucceed k
  failed (h : view.hasFailed = true) : view.MayFail config k
  announced (h : view.isAnnounced = true) : true ∈ view.polls ∧ view.hasAwaited = true

variable {view view' : PollerView}

theorem isOpen_fresh : fresh.IsOpen := ⟨rfl, rfl, rfl⟩

theorem IsOpen.isSettled (h : view.IsOpen) : view.IsSettled := by
  intro hannounced
  rw [h.isAnnounced] at hannounced
  cases hannounced

theorem IsOpen.afterPoll (h : view.IsOpen) (answer : Bool) : (view.afterPoll answer).IsOpen :=
  ⟨h.hasSucceeded, h.hasFailed, h.isAnnounced⟩

/-- As long as nothing is decided, nothing was done. -/
theorem IsOpen.isSound (h : view.IsOpen) : view.IsSound config k := by
  refine ⟨fun hdone ↦ ?_, fun hdone ↦ ?_, fun hdone ↦ ?_⟩
  · simp [h.hasSucceeded] at hdone
  · simp [h.hasFailed] at hdone
  · simp [h.isAnnounced] at hdone

/-- **What a poller may do keeps what it has done in line with what it might do.** -/
theorem IsSound.of_answers (h : view.IsSound config k) {effect : Effect} {reply : effect.Reply}
    (hpermits : view.permits config k effect) (hanswers : view.answers k effect reply view') :
    view'.IsSound config k := by
  cases effect with
  | fileExists path =>
    obtain rfl := hanswers
    exact (hpermits.2.2.afterPoll reply).isSound
  | isInjected =>
    obtain rfl := hanswers
    exact (hpermits.2.2.afterPoll reply).isSound
  | await signal =>
    obtain rfl := hanswers
    refine ⟨fun hdone ↦ ?_, fun hdone ↦ ?_, fun hdone ↦ ⟨(h.announced hdone).1, rfl⟩⟩
    · have hmay := h.succeeded hdone
      exact ⟨hmay.seen, hmay.hasFailed, fun _ ↦ rfl, hmay.isAnnounced⟩
    · have hmay := h.failed hdone
      exact ⟨hmay.isLimited, hmay.polls, hmay.hasSucceeded, fun _ ↦ rfl, hmay.isAnnounced⟩
  | record measurement =>
    obtain rfl := hanswers
    obtain ⟨-, -, hseen, hawaited, hopen⟩ := hpermits
    refine ⟨fun hdone ↦ ?_, fun hdone ↦ ?_, fun _ ↦ ⟨hseen, hawaited⟩⟩
    · simp [hopen.hasSucceeded] at hdone
    · simp [hopen.hasFailed] at hdone
  | fire signal =>
    rcases hpermits with ⟨rfl, hmay⟩ | ⟨rfl, hmay⟩ <;>
      rcases hanswers with ⟨hsignal, rfl⟩ | ⟨hsignal, rfl⟩
    · refine ⟨fun _ ↦ ⟨hmay.seen, hmay.hasFailed, hmay.hasAwaited, hmay.isAnnounced⟩, ?_,
        h.announced⟩
      intro hdone
      simp [hmay.hasFailed] at hdone
    · exact absurd hsignal k.success_ne_failure
    · exact absurd hsignal.symm k.success_ne_failure
    · refine ⟨?_, fun _ ↦ ⟨hmay.isLimited, hmay.polls, hmay.hasSucceeded, hmay.hasAwaited,
        hmay.isAnnounced⟩, h.announced⟩
      intro hdone
      simp [hmay.hasSucceeded] at hdone
  | jitter | sleep _ | log _ =>
    obtain rfl := hanswers
    exact h
  | store _ | now | newKey | notify _ | setInjected | spawnPollers | startTicker _ | wait =>
    exact hpermits.elim

/-- Once the gauge is set, a poller fires its success and does nothing else. -/
theorem eq_fire_of_isAnnounced {effect : Effect} (hannounced : view.isAnnounced = true)
    (h : view.permits config k effect) : effect = .fire k.success := by
  have hclosed : ¬ view.IsOpen := by
    intro hopen
    rw [hopen.isAnnounced] at hannounced
    cases hannounced
  cases effect with
  | fire signal =>
    rcases h with ⟨rfl, -⟩ | ⟨-, hmay⟩
    · rfl
    · rw [hmay.isAnnounced] at hannounced
      cases hannounced
  | fileExists _ | isInjected => exact absurd h.2.2 hclosed
  | record _ => exact absurd h.2.2.2.2 hclosed
  | await _ => cases hannounced.symm.trans h.2.2
  | jitter | sleep _ | log _ => cases hannounced.symm.trans h
  | store _ | now | newKey | notify _ | setInjected | spawnPollers | startTicker _ | wait =>
    exact h.elim

end PollerView

/-- What a poller may do, and what it is to know after the reply. -/
def Contract.polling (config : Config) (k : Poller) : Contract PollerView where
  permits view := view.permits config k
  answers view := view.answers k

/-! ### Pollers -/

namespace Poller

open PollerView

variable {view : PollerView}

/-- What a poller asks. -/
def ask (config : Config) : Poller → Procedure Bool
  | .mount => perform (.fileExists config.certFile)
  | .injection => perform .isInjected

/-- Some questions were answered in the negative, and nothing is decided. -/
structure IsAsking (k : Poller) (attempt : Nat) (view : PollerView) : Prop where
  polls : view.polls = List.replicate attempt false
  isOpen : view.IsOpen
  hasAwaited : k = .injection → view.hasAwaited = true

/-- How asking ends. -/
structure HasAsked (config : Config) (k : Poller) (result : Except Halt Bool) (view : PollerView) :
    Prop where
  isOpen : view.IsOpen
  hasAwaited : k = .injection → view.hasAwaited = true
  seen : result = .ok true → true ∈ view.polls
  mayFail : result = .ok false → view.MayFail config k

/-- A question leaves one more answer. -/
theorem ensures_ask {attempt : Nat} (h : k.IsAsking attempt view) :
    Ensures (.polling config k) (fun result view ↦
      (result = .ok false → k.IsAsking (attempt + 1) view) ∧
        (result ≠ .ok false → k.HasAsked config result view)) (k.ask config) view := by
  have hanswered : ∀ answer : Bool,
      (Except.ok (ε := Halt) answer = .ok false →
          k.IsAsking (attempt + 1) (view.afterPoll answer)) ∧
        (Except.ok (ε := Halt) answer ≠ .ok false →
          k.HasAsked config (.ok answer) (view.afterPoll answer)) := by
    intro answer
    have hopen := h.isOpen.afterPoll answer
    cases answer with
    | false =>
      refine ⟨fun _ ↦ ⟨?_, hopen, h.hasAwaited⟩, fun hne ↦ absurd rfl hne⟩
      show view.polls ++ [false] = _
      rw [h.polls, List.replicate_succ']
    | true =>
      refine ⟨nofun, fun _ ↦ ⟨hopen, h.hasAwaited, fun _ ↦ ?_, nofun⟩⟩
      exact List.mem_append_right _ (List.mem_singleton_self _)
  cases k with
  | mount =>
    refine ⟨⟨rfl, rfl, h.isOpen⟩, ?_⟩
    rintro answer _ rfl
    exact hanswered answer
  | injection =>
    refine ⟨⟨rfl, h.hasAwaited rfl, h.isOpen⟩, ?_⟩
    rintro answer _ rfl
    exact hanswered answer

/-- **Asking ends with an answer in the affirmative, or with as many in the negative as there are
attempts.** -/
theorem ensures_poll {name : String} (h : k.IsAsking 0 view) :
    Ensures (.polling config k) (k.HasAsked config)
      (config.readinessBackoff.poll name (k.ask config)) view := by
  have hattempts : ∀ attempt, config.readinessBackoff.isExhausted attempt = true ↔
      config.readinessBackoff.maxAttempts ≠ 0 ∧ config.readinessBackoff.maxAttempts ≤ attempt := by
    simp [Backoff.isExhausted]
  have hmore : config.readinessBackoff.isExhausted 0 = false := by
    rw [← Bool.not_eq_true, hattempts]
    omega
  refine Backoff.ensures_pollFrom k.IsAsking ?_ (fun _ _ ↦ ensures_ask) ?_ ?_ _ _ hmore h
  · -- idle effects are ignored as long as nothing is decided
    intro attempt view hasking effect hidle
    cases effect <;> first
      | exact hidle.elim
      | exact ⟨hasking.isOpen.isAnnounced, fun _ _ hanswer ↦ hanswer⟩
  · intro attempt view hbefore hlast hasking
    rw [← Bool.not_eq_true, hattempts] at hbefore
    obtain ⟨hlimited, hle⟩ := (hattempts _).1 hlast
    have hattempt : attempt + 1 = config.readinessBackoff.maxAttempts := by omega
    refine ⟨hasking.isOpen, hasking.hasAwaited, nofun, fun _ ↦ ?_⟩
    exact ⟨hlimited, hattempt ▸ hasking.polls, hasking.isOpen.hasSucceeded, hasking.hasAwaited,
      hasking.isOpen.isAnnounced⟩
  · intro attempt view hasking
    exact ⟨hasking.isOpen, hasking.hasAwaited, nofun, nofun⟩

/-! ### What is done with the answer -/

/-- What a poller does with the answer. -/
def report (config : Config) : Poller → Bool → Procedure Unit
  | .mount, true => do
    log .info "certs are mounted" [("path", .text config.certFile)]
    perform (.fire .mounted)
  | .mount, false => do
    log .error "max retries for checking certs existence" [("path", .text config.certFile)]
    perform (.fire .unmountable)
  | .injection, true => do
    log .info "CA certs are injected to webhooks" []
    perform (.record (.ready true))
    perform (.fire .ready)
  | .injection, false => do
    log .error "max retries for checking CA injection" []
    perform (.fire .injectionFailed)

/-- One poller asks for the file, and reports. -/
theorem task_mount (config : Config) : task config .mount =
    (config.readinessBackoff.poll "certs_mounted" (ask config .mount)).bind
      (report config .mount) := by
  rw [task, Readiness.ensureMounted, bind_eq]
  refine congrArg _ (funext fun answer ↦ ?_)
  cases answer <;> rfl

/-- The other waits for the first, and then asks for the flag, and reports. -/
theorem task_injection (config : Config) : task config .injection =
    (perform (.await .mounted)).bind fun _ ↦
      (config.readinessBackoff.poll "ca_injected" (ask config .injection)).bind
        (report config .injection) := by
  rw [task, Readiness.ensureInjected]
  refine congrArg (Procedure.bind (perform (.await .mounted))) (funext fun _ ↦ ?_)
  rw [bind_eq]
  refine congrArg _ (funext fun answer ↦ ?_)
  cases answer <;> rfl

/-- Firing a signal that may be fired is the last that a poller does. -/
theorem ensures_fire {signal : ReadinessSignal} (hpermits : view.permits config k (.fire signal)) :
    Ensures (.polling config k) (fun _ view ↦ view.IsSettled) (perform (.fire signal)) view := by
  refine ⟨hpermits, ?_⟩
  rintro ⟨⟩ _ (⟨rfl, rfl⟩ | ⟨rfl, rfl⟩)
  · exact fun _ ↦ rfl
  · rcases hpermits with ⟨hsignal, -⟩ | ⟨-, hfail⟩
    · exact absurd hsignal.symm k.success_ne_failure
    · intro hannounced
      exact absurd hannounced (by rw [hfail.isAnnounced]; decide)

/-- A report fires what was found. -/
theorem ensures_report {answer : Bool} (hasked : k.HasAsked config (.ok answer) view) :
    Ensures (.polling config k) (fun _ view ↦ view.IsSettled) (k.report config answer) view := by
  have hopen := hasked.isOpen
  cases answer with
  | false =>
    have hpermits : view.permits config k (.fire k.failure) := .inr ⟨rfl, hasked.mayFail rfl⟩
    cases k <;> exact ⟨hopen.isAnnounced, fun _ _ hview ↦ hview ▸ ensures_fire hpermits⟩
  | true =>
    have hseen := hasked.seen rfl
    cases k with
    | mount =>
      refine ⟨hopen.isAnnounced, fun _ _ hview ↦ hview ▸ ensures_fire (.inl ⟨rfl, ?_⟩)⟩
      exact ⟨hseen, hopen.hasFailed, nofun, nofun⟩
    | injection =>
      refine ⟨hopen.isAnnounced, ?_⟩
      rintro ⟨⟩ _ rfl
      -- the gauge, and then the signal
      refine ⟨⟨rfl, rfl, hseen, hasked.hasAwaited rfl, hopen⟩, ?_⟩
      rintro ⟨⟩ _ rfl
      exact ensures_fire (.inl ⟨rfl, hseen, hopen.hasFailed, hasked.hasAwaited, fun _ ↦ rfl⟩)

/-- Asking and reporting ends with a signal, or with the process. -/
theorem ensures_poll_report {name : String} (hasking : k.IsAsking 0 view) :
    Ensures (.polling config k) (fun _ view ↦ view.IsSettled)
      ((config.readinessBackoff.poll name (k.ask config)).bind (k.report config)) view := by
  rw [ensures_bind]
  refine (ensures_poll hasking).mono ?_
  rintro (halt | answer) view hasked
  · exact hasked.isOpen.isSettled
  · exact ensures_report hasked

/-- **A poller fires what it has found, and only after it has found it.** -/
theorem ensures_task (config : Config) (k : Poller) :
    Ensures (.polling config k) (fun _ view ↦ view.IsSettled) (k.task config) .fresh := by
  cases k with
  | mount =>
    rw [task_mount]
    exact ensures_poll_report ⟨rfl, isOpen_fresh, nofun⟩
  | injection =>
    rw [task_injection, ensures_bind]
    refine ⟨⟨rfl, rfl, rfl⟩, ?_⟩
    rintro ⟨⟩ _ rfl
    exact ensures_poll_report ⟨rfl, ⟨rfl, rfl, rfl⟩, fun _ ↦ rfl⟩

end Poller

/-! ### What a pass knows -/

/-- What a pass has found, and what it has done. -/
structure PassView where
  found : Option Secret
  /-- Was the flag set? -/
  isDone : Bool
  isCounted : Bool

/-- Was an authority found? -/
def PassView.HasLoaded (view : PassView) : Prop :=
  ∃ secret ca, view.found = some secret ∧ secret.authority = .ok ca

namespace PassView

/-- The pass has not begun. -/
def fresh : PassView := ⟨none, false, false⟩

/-- What a pass may do. Once the flag is set, the pass is counted as a success and nothing else is
done. -/
def permits (view : PassView) : Effect → Prop
  | .store (.getSecret _) | .store (.getConsumer _) | .store (.replaceConsumer ..) | .log _ =>
    view.isDone = false
  | .setInjected => view.HasLoaded ∧ view.isDone = false
  | .record (.reconciliation isSuccess) =>
    view.isCounted = false ∧ (view.isDone = true → isSuccess = true)
  | _ => False

/-- What it knows after the reply. -/
def answers (view : PassView) : (effect : Effect) → effect.Reply → PassView → Prop
  | .store (.getSecret _), .ok found, view' => view' = { view with found }
  | .setInjected, _, view' => view' = { view with isDone := true }
  | .record _, _, view' => view' = { view with isCounted := true }
  | _, _, view' => view' = view

/-- If the flag was set, the pass has not failed. -/
def HasEnded (result : Except Halt (Except Error Unit)) (view : PassView) : Prop :=
  view.isDone = true → result = .ok (.ok ())

end PassView

/-- What a pass may do, and what it is to know after the reply. -/
def Contract.passing : Contract PassView where
  permits := PassView.permits
  answers := PassView.answers

/-! ### Passes -/

namespace Reconciler

variable {reconciler : Reconciler} {view : PassView}

/-- What is done for the consumers is done before the flag is set. -/
theorem ensures_ensureAll {caPem : Bytes} (hdone : view.isDone = false) :
    Ensures .passing (fun _ view' ↦ view' = view) (reconciler.ensureAll caPem) view := by
  refine (ensures_of_only (· = view) (only_ensureAll reconciler caPem) ?_ rfl).mono
    fun _ _ h ↦ h.2
  rintro effect hinjecting _ rfl
  cases effect with
  | store call => cases call <;> first | exact hinjecting.elim | exact ⟨hdone, fun _ _ h ↦ h⟩
  | log event => exact ⟨hdone, fun _ _ h ↦ h⟩
  | _ => exact hinjecting.elim

/-- A pass sets the flag last, with an authority at hand. -/
theorem ensures_propagate {secret : Secret} (hfound : view.found = some secret)
    (hdone : view.isDone = false) (hcounted : view.isCounted = false) :
    Ensures .passing (fun result view ↦ view.isCounted = false ∧ view.HasEnded result)
      (reconciler.propagate secret) view := by
  have hopen : ∀ result, view.isCounted = false ∧ view.HasEnded result :=
    fun _ ↦ ⟨hcounted, fun h ↦ absurd h (by rw [hdone]; decide)⟩
  rcases reconciler.propagate_cases secret with ⟨-, _, _, _, heq⟩ | ⟨ca, -, hauthority, heq⟩ <;>
    rw [heq]
  · refine ⟨hdone, ?_⟩
    rintro ⟨⟩ _ rfl
    exact hopen _
  · refine (ensures_andThen _ _).2 ((ensures_ensureAll hdone).mono ?_)
    rintro (halt | e | ⟨⟩) _ rfl
    · exact hopen _
    · exact hopen _
    · refine ⟨⟨⟨secret, ca, hfound, hauthority⟩, hdone⟩, ?_⟩
      rintro ⟨⟩ _ rfl
      exact ⟨hcounted, fun _ ↦ rfl⟩

/-- A pass has an authority at hand when it ends with success. -/
theorem ensures_pass :
    Ensures .passing (fun result view ↦ view.isCounted = false ∧ view.HasEnded result)
      reconciler.pass .fresh := by
  refine (ensures_andThen _ _).2 ⟨rfl, ?_⟩
  rintro (e | found) _ rfl
  · exact ⟨rfl, nofun⟩
  · cases found with
    | none =>
      refine ⟨rfl, ?_⟩
      rintro ⟨⟩ _ rfl
      exact ⟨rfl, nofun⟩
    | some secret => exact ensures_propagate rfl rfl rfl

/-- **A pass sets the flag only with an authority at hand, and does not fail from then on.** -/
theorem ensures_reconcile_passing :
    Ensures .passing PassView.HasEnded reconciler.reconcile .fresh := by
  refine (ensures_bind _ _).2 (ensures_pass.mono ?_)
  rintro (halt | result) view ⟨hcounted, hended⟩
  · exact hended
  · refine ⟨⟨hcounted, fun hdone ↦ ?_⟩, ?_⟩
    · cases hended hdone
      rfl
    · rintro ⟨⟩ _ rfl
      exact hended

/-- A pass that is counted has only to return. -/
theorem eq_of_isCounted {rest : Procedure (Except Error Unit)}
    (h : Ensures .passing PassView.HasEnded rest view) (hdone : view.isDone = true)
    (hcounted : view.isCounted = true) : rest = .pure (.ok ()) := by
  cases rest with
  | pure result => rw [Except.ok.inj (h hdone)]
  | stop halt => cases h hdone
  | step effect next =>
    -- nothing is permitted any more
    have hpermits : view.permits effect := h.1
    unfold PassView.permits at hpermits
    split at hpermits <;> simp [hdone, hcounted] at hpermits

/-- A pass that has set the flag has only to be counted as a success. -/
theorem eq_of_isDone {rest : Procedure (Except Error Unit)}
    (h : Ensures .passing PassView.HasEnded rest view) (hdone : view.isDone = true) :
    rest = .pure (.ok ()) ∨
      rest = .step (.record (.reconciliation true)) fun _ ↦ .pure (.ok ()) := by
  cases rest with
  | pure result => exact .inl (by rw [Except.ok.inj (h hdone)])
  | stop halt => cases h hdone
  | step effect next =>
    have hpermits : view.permits effect := h.1
    unfold PassView.permits at hpermits
    split at hpermits
    case h_6 isSuccess =>
      obtain ⟨-, hsuccess⟩ := hpermits
      cases hsuccess hdone
      exact .inr (congrArg _ (funext fun reply ↦ eq_of_isCounted (h.2 reply _ rfl) hdone rfl))
    all_goals simp [hdone] at hpermits

end Reconciler

end WebhookTrust
