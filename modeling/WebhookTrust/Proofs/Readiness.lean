import WebhookTrust.Health
import WebhookTrust.Proofs.Progress

/-!
# What signals mean

Pollers, passes, the control loop and the file system know nothing of each other but four signals
and a flag. What these mean is a statement about all of them together, in every state that one start
of a rotator may come to: any interleaving of their effects, any replies of the store, and anybody
who creates or deletes the certificate file.

## The theorem, and what it rests on

`Rotator.isTruthful_of_comes` says what each signal tells (`Service.IsTruthful`): that the file was
seen and is taken to be there, that a pass has succeeded, that the gauge is set and the endpoint
says so, and that a failure was fired only after as many answers in the negative as there are
attempts. A signal that was fired stays fired.

The invariant is `Service.Inv`: every task keeps to its contract in the state that the service is
in, and the flag is set only once a pass has succeeded. It is carried over a turn as follows.

* A poller knows of nothing that does not concern it, so the turns of others leave its contract kept
  (`Service.view_next`, `Service.KeepsPoller.mono`). Nothing but the poller itself fires its
  signals.
* Its own turn is answered as its contract says (`Service.exists_answers_view`), and so is that of a
  pass (`Pass.exists_answers`).
* The control loop starts the pollers once, after its first check has succeeded
  (`Rotator.firstCheck_of_comes`); before that no signal has fired (`Service.Inv.fired_eq_nil`).

Of time nothing is said. Pauses are effects like others, and how long they are is in
`WebhookTrust.Proofs.Schedule`.
-/

namespace WebhookTrust

open Procedure

variable {config : Config} {service : Service} {effect : Effect} {reply : effect.Reply} {k : Poller}

/-! ### What effects leave alone -/

/-- Does the effect bear on what a poller knows? -/
def Effect.Concerns (k : Poller) : Effect → Prop
  | .fileExists _ => k = .mount
  | .isInjected => k = .injection
  | .fire signal => signal = k.success ∨ signal = k.failure
  | .record (.ready _) => k = .injection
  | .spawnPollers => True
  | _ => False

/-- A poller's effects bear on nothing that the other one knows. -/
theorem PollerView.not_concerns {view : PollerView} {k' : Poller} (hne : k' ≠ k)
    (h : view.permits config k effect) : ¬ effect.Concerns k' := by
  cases effect with
  | fileExists path => exact fun hk ↦ hne (hk.trans h.1.symm)
  | isInjected => exact fun hk ↦ hne (hk.trans h.1.symm)
  | record measurement =>
    obtain ⟨rfl, rfl, -⟩ := h
    exact hne
  | fire signal =>
    rcases h with ⟨rfl, -⟩ | ⟨rfl, -⟩ <;> cases k <;> cases k' <;>
      first | exact absurd rfl hne | rintro (h | h) <;> cases h
  | spawnPollers => exact h.elim
  | _ => exact id

/-- Nor do those of passes. -/
theorem PassView.not_concerns {view : PassView} (h : view.permits effect) :
    ¬ effect.Concerns k := by
  unfold permits at h
  split at h <;> first | exact id | exact h.elim

theorem Effect.IsControlling.not_concerns (h : effect.IsControlling) : ¬ effect.Concerns k := by
  cases effect with
  | record measurement => cases measurement <;> first | exact id | exact h.elim
  | fileExists | isInjected | fire | spawnPollers => exact h.elim
  | _ => exact id

/-- The gauge is set by nothing but what sets it. -/
theorem Metrics.ready_record (metrics : Metrics) {measurement : Measurement}
    (h : ∀ value, measurement ≠ .ready value) :
    (metrics.record measurement).ready = metrics.ready := by
  cases measurement with
  | rotation scope => cases scope <;> rfl
  | rotationError phase => cases phase <;> rfl
  | reconciliation isSuccess => cases isSuccess <;> rfl
  | ready value => exact absurd rfl (h value)

namespace Service

/-- What a poller of a service knows. -/
def view (service : Service) (k : Poller) (hasAwaited : Bool) : PollerView where
  polls := service.polls k
  hasSucceeded := decide (k.success ∈ service.fired)
  hasFailed := decide (k.failure ∈ service.fired)
  hasAwaited
  isAnnounced := decide (k = .injection ∧ service.metrics.ready = some true)

variable {hasAwaited : Bool}

/-- What a poller knows depends on its answers, its signals and the gauge. -/
theorem view_congr {after : Service} (hpolls : after.polls k = service.polls k)
    (hsuccess : k.success ∈ after.fired ↔ k.success ∈ service.fired)
    (hfailure : k.failure ∈ after.fired ↔ k.failure ∈ service.fired)
    (hready : k = .injection → after.metrics.ready = service.metrics.ready) :
    after.view k hasAwaited = service.view k hasAwaited := by
  have hannounced : k = .injection ∧ after.metrics.ready = some true ↔
      k = .injection ∧ service.metrics.ready = some true :=
    and_congr_right fun hk ↦ by rw [hready hk]
  simp only [view, hpolls, hsuccess, hfailure, hannounced]

theorem view_afterPoll (answer : Bool) :
    (service.afterPoll k answer).view k hasAwaited =
      (service.view k hasAwaited).afterPoll answer :=
  PollerView.ext (service.polls_afterPoll k answer) rfl rfl rfl rfl

/-- **A poller knows of nothing that does not concern it.** -/
theorem view_next (h : ¬ effect.Concerns k) :
    (service.next config effect reply).view k hasAwaited = service.view k hasAwaited := by
  cases effect with
  | fileExists _ | isInjected =>
    exact view_congr (Function.update_of_ne h _ _) Iff.rfl Iff.rfl fun _ ↦ rfl
  | fire signal =>
    obtain ⟨hsuccess, hfailure⟩ := not_or.1 h
    refine view_congr rfl ?_ ?_ fun _ ↦ rfl
    · exact List.mem_insert_iff.trans (or_iff_right (Ne.symm hsuccess))
    · exact List.mem_insert_iff.trans (or_iff_right (Ne.symm hfailure))
  | record measurement =>
    refine view_congr rfl Iff.rfl Iff.rfl ?_
    rintro rfl
    refine service.metrics.ready_record ?_
    rintro value rfl
    exact h rfl
  | spawnPollers => exact absurd trivial h
  | wait => cases reply <;> rfl
  | _ => rfl

/-- **What a poller knows changes as its contract says.** -/
theorem exists_answers_view (hpermits : (service.view k hasAwaited).permits config k effect)
    (hreply : service.mayReply config effect reply)
    (hawaited : hasAwaited = true → .mounted ∈ service.fired) :
    ∃ hasAwaited', (hasAwaited' = true → .mounted ∈ (service.next config effect reply).fired) ∧
      (service.view k hasAwaited).answers k effect reply
        ((service.next config effect reply).view k hasAwaited') := by
  cases effect with
  | fileExists _ | isInjected =>
    obtain ⟨rfl, -⟩ := hpermits
    exact ⟨hasAwaited, hawaited, view_afterPoll reply⟩
  | await signal =>
    obtain ⟨-, rfl, -⟩ := hpermits
    exact ⟨true, fun _ ↦ hreply, rfl⟩
  | record measurement =>
    obtain ⟨rfl, rfl, -⟩ := hpermits
    refine ⟨hasAwaited, hawaited, PollerView.ext rfl rfl rfl rfl ?_⟩
    show decide (Poller.injection = .injection ∧
      (service.metrics.record (.ready true)).ready = some true) = true
    exact decide_eq_true ⟨rfl, rfl⟩
  | fire signal =>
    refine ⟨hasAwaited, fun h ↦ fired_subset_next (hawaited h), ?_⟩
    rcases hpermits with ⟨rfl, -⟩ | ⟨rfl, -⟩
    · have hfailure : k.failure ∈ service.fired.insert k.success ↔ k.failure ∈ service.fired :=
        List.mem_insert_iff.trans (or_iff_right k.success_ne_failure.symm)
      exact .inl ⟨rfl, PollerView.ext rfl (decide_eq_true List.mem_insert_self)
        (decide_eq_decide.2 hfailure) rfl rfl⟩
    · have hsuccess : k.success ∈ service.fired.insert k.failure ↔ k.success ∈ service.fired :=
        List.mem_insert_iff.trans (or_iff_right k.success_ne_failure)
      exact .inr ⟨rfl, PollerView.ext rfl (decide_eq_decide.2 hsuccess)
        (decide_eq_true List.mem_insert_self) rfl rfl⟩
  | jitter | sleep _ | log _ => exact ⟨hasAwaited, hawaited, rfl⟩
  | store _ | now | newKey | notify _ | setInjected | spawnPollers | startTicker _ | wait =>
    exact hpermits.elim

/-! ### The invariant -/

/-- A poller keeps to its contract in the state that the service is in. -/
structure KeepsPoller (config : Config) (service : Service) (k : Poller) (hasAwaited : Bool) :
    Prop where
  awaited (h : hasAwaited = true) : .mounted ∈ service.fired
  isSound : (service.view k hasAwaited).IsSound config k
  unstarted (h : service.poller k = none) : service.view k hasAwaited = .fresh
  ensures {rest : Procedure Unit} (h : service.poller k = some rest) :
    Ensures (.polling config k) (fun _ view ↦ view.IsSettled) rest (service.view k hasAwaited)

/-- A pass keeps to its contract. -/
def KeepsPass (service : Service) (i : Nat) : Prop :=
  ∃ isDone isCounted, Ensures .passing PassView.HasEnded (service.pass i).rest
    ⟨(service.pass i).found, isDone, isCounted⟩

end Service

/-- **The pass has loaded an authority and has brought all consumers up to date**: if it was not
counted yet, it has only to be counted as a success. -/
structure Pass.HasSucceeded (pass : Pass) : Prop where
  loaded : ∃ secret ca, pass.found = some secret ∧ secret.authority = .ok ca
  rest : pass.rest = .pure (.ok ()) ∨
    pass.rest = .step (.record (.reconciliation true)) fun _ ↦ .pure (.ok ())

namespace Pass

variable {pass : Pass} {rest : effect.Reply → Procedure (Except Error Unit)}

/-- A pass goes on with what is left of it. -/
theorem rest_goOn (pass : Pass) (rest : Procedure (Except Error Unit)) (effect : Effect)
    (reply : effect.Reply) : (pass.goOn rest effect reply).rest = rest := by
  cases effect with
  | store call =>
    cases call with
    | getSecret key => cases reply <;> rfl
    | _ => rfl
  | _ => rfl

/-- **What a pass knows changes as its contract says.** -/
theorem exists_answers (pass : Pass) (reply : effect.Reply)
    (rest : Procedure (Except Error Unit)) (isDone isCounted : Bool) : ∃ isDone' isCounted',
      (PassView.mk pass.found isDone isCounted).answers effect reply
        ⟨(pass.goOn rest effect reply).found, isDone', isCounted'⟩ := by
  cases effect with
  | store call =>
    cases call with
    | getSecret key => cases reply <;> exact ⟨isDone, isCounted, rfl⟩
    | _ => exact ⟨isDone, isCounted, rfl⟩
  | setInjected => exact ⟨true, isCounted, rfl⟩
  | record measurement => exact ⟨isDone, true, rfl⟩
  | _ => exact ⟨isDone, isCounted, rfl⟩

/-- A pass that has succeeded does not fail when it is counted. -/
theorem HasSucceeded.goOn (h : pass.HasSucceeded) (hrest : pass.rest = .step effect rest) :
    (pass.goOn (rest reply) effect reply).HasSucceeded := by
  rcases h.rest with hpure | hcount
  · cases hpure.symm.trans hrest
  · cases hcount.symm.trans hrest
    exact ⟨h.loaded, .inl rfl⟩

end Pass

namespace Service

/-- What holds of a service whoever takes a turn. -/
structure Inv (config : Config) (service : Service) : Prop where
  poller (k : Poller) : ∃ hasAwaited, service.KeepsPoller config k hasAwaited
  pass (i : Nat) : service.KeepsPass i
  /-- The flag is not reset. -/
  seen (h : true ∈ service.polls .injection) : service.isInjected = true
  passed (h : service.isInjected = true) : ∃ i, (service.pass i).HasSucceeded

variable {hasAwaited : Bool}

/-- Nobody knows anything yet. -/
theorem IsFresh.view (h : service.IsFresh config) : service.view k false = .fresh := by
  have hannounced : ¬ (k = .injection ∧ service.metrics.ready = some true) :=
    fun hready ↦ h.ready hready.2
  refine PollerView.ext ?_ ?_ ?_ rfl (decide_eq_false hannounced)
  · rw [Service.view, h.polls]
    rfl
  · simp [Service.view, h.fired, PollerView.fresh]
  · simp [Service.view, h.fired, PollerView.fresh]

/-- The invariant holds before anything has happened. -/
theorem IsFresh.inv (h : service.IsFresh config) : service.Inv config where
  poller k := by
    refine ⟨false, nofun, ?_, fun _ ↦ h.view, fun hrest ↦ ?_⟩
    · rw [h.view]
      exact PollerView.isOpen_fresh.isSound
    · rw [h.poller] at hrest
      cases hrest
  pass i := by
    rw [KeepsPass, h.pass]
    exact ⟨false, false, Reconciler.ensures_reconcile_passing⟩
  seen hseen := by
    rw [h.polls] at hseen
    cases hseen
  passed hpassed := by
    rw [h.isInjected] at hpassed
    cases hpassed

/-! ### Turns -/

/-- A poller is not disturbed by what it does not know of. -/
theorem KeepsPoller.mono {after : Service} (h : service.KeepsPoller config k hasAwaited)
    (hfired : service.fired ⊆ after.fired)
    (hview : after.view k hasAwaited = service.view k hasAwaited)
    (hpoller : after.poller k = service.poller k) : after.KeepsPoller config k hasAwaited where
  awaited ha := hfired (h.awaited ha)
  isSound := hview ▸ h.isSound
  unstarted hnone := hview ▸ h.unstarted (hpoller ▸ hnone)
  ensures hrest := hview ▸ h.ensures (hpoller ▸ hrest)

/-- A poller is not disturbed by effects that do not concern it. -/
theorem KeepsPoller.next (h : service.KeepsPoller config k hasAwaited)
    (hconcerns : ¬ effect.Concerns k) :
    (service.next config effect reply).KeepsPoller config k hasAwaited := by
  have hspawn : effect ≠ .spawnPollers := by
    rintro rfl
    exact hconcerns trivial
  exact h.mono fired_subset_next (view_next hconcerns) (congrFun (poller_next hspawn) k)

/-- **A poller's turn.** -/
theorem KeepsPoller.turn (h : service.KeepsPoller config k hasAwaited)
    {rest : effect.Reply → Procedure Unit} (hrest : service.poller k = some (.step effect rest))
    (hreply : service.mayReply config effect reply) :
    ∃ hasAwaited', ((service.next config effect reply).setPoller k (rest reply)).KeepsPoller
      config k hasAwaited' := by
  have hensures := h.ensures hrest
  obtain ⟨hasAwaited', hawaited, hanswers⟩ := exists_answers_view hensures.1 hreply h.awaited
  refine ⟨hasAwaited', hawaited, h.isSound.of_answers hensures.1 hanswers, ?_, ?_⟩
  · intro hnone
    rw [poller_setPoller_self] at hnone
    cases hnone
  · intro rest' hrest'
    rw [poller_setPoller_self] at hrest'
    cases hrest'
    exact hensures.2 reply _ hanswers

/-- **A pass's turn.** -/
theorem KeepsPass.turn {i : Nat} (h : service.KeepsPass i)
    {rest : effect.Reply → Procedure (Except Error Unit)}
    (hrest : (service.pass i).rest = .step effect rest) :
    ((service.next config effect reply).setPass i
      ((service.pass i).goOn (rest reply) effect reply)).KeepsPass i := by
  obtain ⟨isDone, isCounted, hensures⟩ := h
  rw [hrest] at hensures
  obtain ⟨isDone', isCounted', hanswers⟩ :=
    (service.pass i).exists_answers reply (rest reply) isDone isCounted
  refine ⟨isDone', isCounted', ?_⟩
  rw [pass_setPass_self, Pass.rest_goOn]
  exact hensures.2 reply _ hanswers

/-- A pass that sets the flag has succeeded. -/
theorem KeepsPass.hasSucceeded {i : Nat} (h : service.KeepsPass i)
    {rest : Effect.Reply .setInjected → Procedure (Except Error Unit)} {reply : Unit}
    (hrest : (service.pass i).rest = .step .setInjected rest) :
    ((service.pass i).goOn (rest reply) .setInjected reply).HasSucceeded := by
  obtain ⟨isDone, isCounted, hensures⟩ := h
  rw [hrest] at hensures
  exact ⟨hensures.1.1, Reconciler.eq_of_isDone (hensures.2 reply _ rfl) rfl⟩

/-- The answer of a poller that asks for the flag is the flag. -/
theorem seen_next (hreply : service.mayReply config effect reply)
    (hseen : true ∈ service.polls .injection → service.isInjected = true)
    (h : true ∈ (service.next config effect reply).polls .injection) :
    (service.next config effect reply).isInjected = true := by
  cases effect with
  | setInjected => rfl
  | isInjected =>
    rcases mem_or_eq_of_mem_afterPoll h with hbefore | hanswer
    · exact hseen hbefore
    · exact (hanswer.trans hreply).symm
  | wait => cases reply <;> exact hseen h
  | _ => exact hseen h

/-- The control loop's turn, unless it starts the pollers. -/
theorem Inv.next (h : service.Inv config) (hreply : service.mayReply config effect reply)
    (heffect : effect.IsControlling) : (service.next config effect reply).Inv config where
  poller k := by
    obtain ⟨hasAwaited, hpoller⟩ := h.poller k
    exact ⟨hasAwaited, hpoller.next heffect.not_concerns⟩
  pass i := by
    rw [KeepsPass, pass_next]
    exact h.pass i
  seen := seen_next hreply h.seen
  passed := by
    have hflag : effect ≠ .setInjected := by
      rintro rfl
      exact heffect
    rw [isInjected_next hflag, pass_next]
    exact h.passed

/-- The control loop starts the pollers. -/
theorem Inv.spawn (h : service.Inv config) (hunstarted : ∀ k, service.poller k = none) :
    (service.next config .spawnPollers ()).Inv config where
  poller k := by
    obtain ⟨hasAwaited, hpoller⟩ := h.poller k
    have hfresh := hpoller.unstarted (hunstarted k)
    refine ⟨hasAwaited, hpoller.awaited, hpoller.isSound, nofun, ?_⟩
    rintro rest ⟨⟩
    show Ensures _ _ _ (service.view k hasAwaited)
    rw [hfresh]
    exact Poller.ensures_task config k
  pass := h.pass
  seen := h.seen
  passed := h.passed

/-- A poller's turn keeps the invariant. -/
theorem Inv.poller_turn (h : service.Inv config) {rest : effect.Reply → Procedure Unit}
    (hrest : service.poller k = some (.step effect rest))
    (hreply : service.mayReply config effect reply) :
    ((service.next config effect reply).setPoller k (rest reply)).Inv config := by
  obtain ⟨hasAwaited, hpoller⟩ := h.poller k
  have hpermits := (hpoller.ensures hrest).1
  refine ⟨fun k' ↦ ?_, fun i ↦ ?_, seen_next hreply h.seen, ?_⟩
  · by_cases hk : k' = k
    · exact hk ▸ hpoller.turn hrest hreply
    · obtain ⟨hasAwaited', hpoller'⟩ := h.poller k'
      have hconcerns := PollerView.not_concerns hk hpermits
      exact ⟨hasAwaited', (hpoller'.next hconcerns).mono (List.Subset.refl _) rfl
        (poller_setPoller_of_ne _ hk _)⟩
  · show (service.next config effect reply).KeepsPass i
    rw [KeepsPass, pass_next]
    exact h.pass i
  · have hflag : effect ≠ .setInjected := by
      rintro rfl
      exact hpermits
    show (service.next config effect reply).isInjected = true →
      ∃ i, ((service.next config effect reply).pass i).HasSucceeded
    rw [isInjected_next hflag, pass_next]
    exact h.passed

/-- If the flag is set after a pass's turn, then a pass has succeeded: this one, if it has just set
the flag, or one that had succeeded before. -/
theorem Inv.exists_hasSucceeded {i : Nat} (h : service.Inv config)
    {rest : effect.Reply → Procedure (Except Error Unit)}
    (hrest : (service.pass i).rest = .step effect rest)
    (hinjected : (service.next config effect reply).isInjected = true) :
    ∃ j, (((service.next config effect reply).setPass i
      ((service.pass i).goOn (rest reply) effect reply)).pass j).HasSucceeded := by
  by_cases hflag : effect = .setInjected
  · subst hflag
    refine ⟨i, ?_⟩
    rw [pass_setPass_self]
    exact (h.pass i).hasSucceeded hrest
  · rw [isInjected_next hflag] at hinjected
    obtain ⟨j, hsucceeded⟩ := h.passed hinjected
    refine ⟨j, ?_⟩
    by_cases hj : j = i
    · subst hj
      rw [pass_setPass_self]
      exact hsucceeded.goOn hrest
    · rw [pass_setPass_of_ne _ hj, pass_next]
      exact hsucceeded

/-- A pass's turn keeps the invariant. -/
theorem Inv.pass_turn {i : Nat} (h : service.Inv config)
    {rest : effect.Reply → Procedure (Except Error Unit)}
    (hrest : (service.pass i).rest = .step effect rest)
    (hreply : service.mayReply config effect reply) :
    ((service.next config effect reply).setPass i
      ((service.pass i).goOn (rest reply) effect reply)).Inv config := by
  refine ⟨fun k ↦ ?_, fun j ↦ ?_, seen_next hreply h.seen, h.exists_hasSucceeded hrest⟩
  · obtain ⟨hasAwaited, hpoller⟩ := h.poller k
    obtain ⟨isDone, isCounted, hensures⟩ := h.pass i
    rw [hrest] at hensures
    have hconcerns : ¬ effect.Concerns k := PassView.not_concerns hensures.1
    exact ⟨hasAwaited, (hpoller.next hconcerns).mono (List.Subset.refl _) rfl rfl⟩
  · by_cases hj : j = i
    · subst hj
      exact (h.pass j).turn hrest
    · rw [KeepsPass, pass_setPass_of_ne _ hj, pass_next]
      exact h.pass j

/-- **The invariant is kept by what happens between two effects of the control loop.** -/
theorem Inv.moves {after : Service} (h : service.Inv config)
    (hmove : service.Moves config after) : after.Inv config := by
  cases hmove with
  | poller hrest hreply => exact h.poller_turn hrest hreply
  | pass hrest hreply => exact h.pass_turn hrest hreply
  | file | stop =>
    refine ⟨fun k ↦ ?_, h.pass, h.seen, h.passed⟩
    obtain ⟨hasAwaited, hpoller⟩ := h.poller k
    exact ⟨hasAwaited, hpoller.mono (List.Subset.refl _) rfl rfl⟩

/-! ### What follows for the signals -/

/-- The injection poller has set the gauge and fires its signal next. -/
def IsAnnouncing (service : Service) : Prop :=
  ∃ next, service.poller .injection = some (.step (.fire .ready) next)

/-- No poller is in the middle of an attempt: what it does next is to ask, to wait or nothing. -/
def IsBetweenAttempts (service : Service) : Prop :=
  ∀ k effect next, service.poller k = some (.step effect next) →
    match effect with
    | .fileExists _ | .isInjected | .await _ | .sleep _ => True
    | _ => False

/-- **Signals, the gauge and the endpoint tell the truth.** -/
structure IsTruthful (config : Config) (service : Service) : Prop where
  /-- A poller does not fire both of its signals. -/
  not_both (k : Poller) (h : k.success ∈ service.fired) : k.failure ∉ service.fired
  /-- The injection poller fires none before the certificate is mounted. -/
  mounted (h : .ready ∈ service.fired ∨ .injectionFailed ∈ service.fired) :
    .mounted ∈ service.fired
  /-- The certificate is mounted only if a poll saw it. -/
  seen (h : .mounted ∈ service.fired) : true ∈ service.polls .mount
  /-- The authority is injected only if a pass succeeded. -/
  passed (h : .ready ∈ service.fired) : ∃ i, (service.pass i).HasSucceeded
  /-- A poller fails only if attempts are limited, after as many polls in vain. -/
  failed (k : Poller) (h : k.failure ∈ service.fired) :
    config.readinessBackoff.maxAttempts ≠ 0 ∧
      service.polls k = List.replicate config.readinessBackoff.maxAttempts false
  /-- The gauge is one effect ahead of the signal at most. -/
  gauge_iff : service.metrics.ready = some true ↔ .ready ∈ service.fired ∨ service.IsAnnouncing
  gauge_iff_ready (h : service.IsBetweenAttempts) :
    service.metrics.ready = some true ↔ .ready ∈ service.fired
  readyz : (Health.respond (decide (.ready ∈ service.fired)) "GET" "/readyz").status =
    if .ready ∈ service.fired then 200 else 503

variable {hasAwaited : Bool}

theorem KeepsPoller.maySucceed (h : service.KeepsPoller config k hasAwaited)
    (hfired : k.success ∈ service.fired) : (service.view k hasAwaited).MaySucceed k :=
  h.isSound.succeeded (decide_eq_true hfired)

theorem KeepsPoller.mayFail (h : service.KeepsPoller config k hasAwaited)
    (hfired : k.failure ∈ service.fired) : (service.view k hasAwaited).MayFail config k :=
  h.isSound.failed (decide_eq_true hfired)

/-- The gauge is set exactly if the rotator is ready, or is about to say so. -/
theorem KeepsPoller.gauge_iff (h : service.KeepsPoller config .injection hasAwaited) :
    service.metrics.ready = some true ↔ .ready ∈ service.fired ∨ service.IsAnnouncing := by
  constructor
  · intro hgauge
    have hannounced : (service.view .injection hasAwaited).isAnnounced = true :=
      decide_eq_true ⟨rfl, hgauge⟩
    by_contra hneither
    obtain ⟨hfired, hannouncing⟩ := not_or.1 hneither
    have hunsettled : ¬ (service.view .injection hasAwaited).IsSettled :=
      fun hsettled ↦ hfired (of_decide_eq_true (hsettled hannounced))
    cases hrest : service.poller .injection with
    | none =>
      rw [h.unstarted hrest] at hannounced
      cases hannounced
    | some rest =>
      have hensures := h.ensures hrest
      cases rest with
      | pure result => exact hunsettled hensures
      | stop halt => exact hunsettled hensures
      | step effect next =>
        obtain rfl := PollerView.eq_fire_of_isAnnounced hannounced hensures.1
        exact hannouncing ⟨next, hrest⟩
  · rintro (hfired | ⟨next, hrest⟩)
    · exact (of_decide_eq_true ((h.maySucceed hfired).isAnnounced rfl)).2
    · rcases (h.ensures hrest).1 with ⟨-, hmay⟩ | ⟨hsignal, -⟩
      · exact (of_decide_eq_true (hmay.isAnnounced rfl)).2
      · cases hsignal

/-- **What holds whoever takes a turn makes signals tell the truth.** -/
theorem Inv.isTruthful (h : service.Inv config) : service.IsTruthful config := by
  obtain ⟨hmountAwaited, hmount⟩ := h.poller .mount
  obtain ⟨hasAwaited, hinjection⟩ := h.poller .injection
  have hgauge := hinjection.gauge_iff
  refine ⟨fun k hsuccess ↦ ?_, ?_, fun hfired ↦ (hmount.maySucceed hfired).seen, ?_,
    fun k hfailure ↦ ?_, hgauge, fun hbetween ↦ ?_, ?_⟩
  · obtain ⟨_, hpoller⟩ := h.poller k
    exact of_decide_eq_false (hpoller.maySucceed hsuccess).hasFailed
  · rintro (hfired | hfired)
    · exact hinjection.awaited ((hinjection.maySucceed hfired).hasAwaited rfl)
    · exact hinjection.awaited ((hinjection.mayFail hfired).hasAwaited rfl)
  · exact fun hfired ↦ h.passed (h.seen (hinjection.maySucceed hfired).seen)
  · obtain ⟨_, hpoller⟩ := h.poller k
    exact ⟨(hpoller.mayFail hfailure).isLimited, (hpoller.mayFail hfailure).polls⟩
  · have hquiet : ¬ service.IsAnnouncing := fun ⟨next, hrest⟩ ↦ hbetween _ _ _ hrest
    rw [hgauge, or_iff_left hquiet]
  · by_cases hready : .ready ∈ service.fired <;> simp [hready, Health.respond, Health.endpoint?,
      Health.text]

end Service

/-! ### One start of a rotator -/

namespace Service

/-- The pollers have not been started. -/
def IsDormant (service : Service) : Prop := ∀ k, service.poller k = none

theorem IsFresh.isDormant (h : service.IsFresh config) : service.IsDormant :=
  fun k ↦ congrFun h.poller k

/-- As long as the pollers have not been started, no signal has fired. -/
theorem Inv.fired_eq_nil (h : service.Inv config) (hdormant : service.IsDormant) :
    service.fired = [] := by
  have hunfired : ∀ k : Poller, k.success ∉ service.fired ∧ k.failure ∉ service.fired := by
    intro k
    obtain ⟨hasAwaited, hpoller⟩ := h.poller k
    have hfresh := hpoller.unstarted (hdormant k)
    exact ⟨of_decide_eq_false (congrArg PollerView.hasSucceeded hfresh),
      of_decide_eq_false (congrArg PollerView.hasFailed hfresh)⟩
  refine List.eq_nil_iff_forall_not_mem.2 fun signal ↦ ?_
  cases signal with
  | mounted => exact (hunfired .mount).1
  | unmountable => exact (hunfired .mount).2
  | ready => exact (hunfired .injection).1
  | injectionFailed => exact (hunfired .injection).2

theorem IsDormant.next (h : service.IsDormant) (hspawn : effect ≠ .spawnPollers) :
    (service.next config effect reply).IsDormant :=
  fun k ↦ (congrFun (poller_next hspawn) k).trans (h k)

/-- Nobody but the control loop starts the pollers. -/
theorem IsDormant.moves {after : Service} (h : service.IsDormant) (hinv : service.Inv config)
    (hmove : service.Moves config after) : after.IsDormant := by
  cases hmove with
  | @poller k effect rest reply hrest hreply => cases (h k).symm.trans hrest
  | @pass i effect rest reply hrest hreply =>
    obtain ⟨isDone, isCounted, hensures⟩ := hinv.pass i
    rw [hrest] at hensures
    refine h.next ?_
    rintro rfl
    exact hensures.1
  | file | stop => exact h

theorem Inv.isDormant_drifts {after : Service} (h : service.Inv config)
    (hdormant : service.IsDormant) (hdrifts : (surroundings config).Drifts service after) :
    after.Inv config ∧ after.IsDormant :=
  hdrifts.keeps (fun after ↦ after.Inv config ∧ after.IsDormant)
    (fun h hmove ↦ ⟨h.1.moves hmove, h.2.moves h.1 hmove⟩) ⟨h, hdormant⟩

end Service

namespace Rotator

open Service

variable {rotator : Rotator} {before after : Service} {α : Type} {procedure rest : Procedure α}

/-- The control loop disturbs nobody, apart from starting the pollers. -/
theorem inv_of_comes (h : procedure.Comes (surroundings config) before rest service)
    (honly : procedure.Only Effect.IsControlling) (hinv : before.Inv config) :
    service.Inv config := by
  refine (h.keeps_of_only (·.Inv config) honly Inv.moves (fun heffect hinv hanswer ↦ ?_) hinv).2
  obtain ⟨hreply, rfl⟩ := hanswer
  exact hinv.next hreply heffect

/-- A part of the control loop that starts no pollers leaves it so. -/
theorem isDormant_of_comes (h : procedure.Comes (surroundings config) before rest service)
    (honly : procedure.Only Effect.IsControlling) (hinv : before.Inv config)
    (hdormant : before.IsDormant) : service.Inv config ∧ service.IsDormant := by
  refine (h.keeps_of_only (fun service ↦ service.Inv config ∧ service.IsDormant) honly
    (fun h hmove ↦ ⟨h.1.moves hmove, h.2.moves h.1 hmove⟩) (fun heffect h hanswer ↦ ?_)
    ⟨hinv, hdormant⟩).2
  obtain ⟨hreply, rfl⟩ := hanswer
  refine ⟨h.1.next hreply heffect, h.2.next ?_⟩
  rintro rfl
  exact heffect

/-- An event is logged, and then others may have acted. -/
theorem comes_of_log {level : LogLevel} {message : String} {fields : List (String × LogValue)}
    {next : Unit → Procedure α}
    (h : ((log level message fields).bind next).Comes (surroundings config) before rest after) :
    rest = (log level message fields).bind next ∧ (surroundings config).Drifts before after ∨
      ∃ now, (surroundings config).Drifts before now ∧
        (next ()).Comes (surroundings config) now rest after := by
  rcases Comes.of_step h with hlog | ⟨now, ⟨⟩, logged, hdrifts, ⟨-, hlogged⟩, hcomes⟩
  · exact .inl hlog
  · obtain rfl : logged = now := hlogged
    exact .inr ⟨logged, hdrifts, hcomes⟩

/-- The first check has come to a rest of itself. -/
def FirstCheck (rotator : Rotator) (before : Service)
    (part : Procedure (Except Error RotationOutcome)) (service : Service) : Prop :=
  ∃ begun, (surroundings rotator.config).Drifts before begun ∧
    rotator.refresh.Comes (surroundings rotator.config) begun part service

/-- **The first check has not begun, has not ended, or has a result**, from which the rotator goes
on. -/
theorem firstCheck_of_comes {rest : Procedure (Except Error Unit)}
    (h : rotator.start.Comes (surroundings rotator.config) before rest service) :
    rest = rotator.start ∧ (surroundings rotator.config).Drifts before service ∨
      (∃ part, rotator.FirstCheck before part service ∧ rest = part.bind rotator.afterFirst) ∨
      ∃ result checked, rotator.FirstCheck before (.pure result) checked ∧
        (rotator.afterFirst result).Comes (surroundings rotator.config) checked rest service := by
  rw [start_eq] at h ⊢
  rcases comes_of_log h with hlog | ⟨begun, hdrifts, hcomes⟩
  · exact .inl hlog
  · rcases hcomes.of_bind with ⟨part, hpart, rfl⟩ | ⟨result, checked, hcheck, hrest⟩
    · exact .inr (.inl ⟨part, ⟨begun, hdrifts, hpart⟩, rfl⟩)
    · exact .inr (.inr ⟨result, checked, ⟨begun, hdrifts, hcheck⟩, hrest⟩)

/-- Others have no part in the first check. -/
theorem FirstCheck.drift {part : Procedure (Except Error RotationOutcome)}
    (h : rotator.FirstCheck before part service)
    (hdrifts : (surroundings rotator.config).Drifts service after) :
    rotator.FirstCheck before part after := by
  obtain ⟨begun, hbegun, hcheck⟩ := h
  exact ⟨begun, hbegun, hcheck.drift hdrifts⟩

/-- As long as the first check has not succeeded, the pollers have not been started. -/
theorem FirstCheck.isDormant (hhook : ∀ outcome, (rotator.hook outcome).Only Effect.IsChecking)
    {part : Procedure (Except Error RotationOutcome)} (hinv : before.Inv rotator.config)
    (hdormant : before.IsDormant) (h : rotator.FirstCheck before part service) :
    service.Inv rotator.config ∧ service.IsDormant := by
  obtain ⟨begun, hdrifts, hcheck⟩ := h
  obtain ⟨hinv, hdormant⟩ := hinv.isDormant_drifts hdormant hdrifts
  exact isDormant_of_comes hcheck
    ((only_refresh hhook).mono fun _ ↦ Effect.IsChecking.isControlling) hinv hdormant

/-- **The invariant holds wherever the control loop comes to.** -/
theorem inv_of_comes_start (hhook : ∀ outcome, (rotator.hook outcome).Only Effect.IsChecking)
    (hfresh : before.IsFresh rotator.config) {rest : Procedure (Except Error Unit)}
    (h : rotator.start.Comes (surroundings rotator.config) before rest service) :
    service.Inv rotator.config := by
  rcases firstCheck_of_comes h with ⟨-, hdrifts⟩ | ⟨part, hcheck, -⟩ |
    ⟨e | outcome, checked, hcheck, hrest⟩
  · exact (hfresh.inv.isDormant_drifts hfresh.isDormant hdrifts).1
  · exact (hcheck.isDormant hhook hfresh.inv hfresh.isDormant).1
  · obtain ⟨hinv, -⟩ := hcheck.isDormant hhook hfresh.inv hfresh.isDormant
    exact inv_of_comes hrest (rotator.only_afterFirst_error e) hinv
  · obtain ⟨hinv, hdormant⟩ := hcheck.isDormant hhook hfresh.inv hfresh.isDormant
    rcases hrest.of_step with ⟨-, hdrifts⟩ | ⟨now, ⟨⟩, spawned, hdrifts, ⟨-, rfl⟩, hloop⟩
    · exact (hinv.isDormant_drifts hdormant hdrifts).1
    · -- others may have taken turns before the pollers are started
      obtain ⟨hinv, hdormant⟩ := hinv.isDormant_drifts hdormant hdrifts
      exact inv_of_comes hloop (only_loop hhook) (hinv.spawn hdormant)

/-- What was fired stays fired, whoever takes a turn. -/
theorem fired_subset_of_comes (h : procedure.Comes (surroundings config) before rest service) :
    before.fired ⊆ service.fired := by
  induction h with
  | start => exact List.Subset.refl _
  | move _ hmove ih =>
    cases hmove with
    | poller | pass => exact List.Subset.trans ih fired_subset_next
    | file | stop => exact ih
  | step _ hanswer ih =>
    obtain ⟨-, rfl⟩ := hanswer
    exact List.Subset.trans ih fired_subset_next

/-- **In every state that one start of a rotator comes to, signals tell the truth**, and a signal
that was fired stays fired. -/
theorem isTruthful_of_comes (hhook : ∀ outcome, (rotator.hook outcome).Only Effect.IsChecking)
    (hfresh : before.IsFresh rotator.config) {rest : Procedure (Except Error Unit)}
    (h : rotator.start.Comes (surroundings rotator.config) before rest service) :
    service.IsTruthful rotator.config ∧
      ∀ {rest' service'}, rest.Comes (surroundings rotator.config) service rest' service' →
        service.fired ⊆ service'.fired :=
  ⟨(inv_of_comes_start hhook hfresh h).isTruthful, fired_subset_of_comes⟩

/-- The sample may come to be ready, and then a poll saw the file, a pass succeeded and nothing
failed. -/
theorem isTruthful_of_comes_ready :
    ∃ service, Simulation.sampleRotator.start.Comes
        (surroundings Simulation.sampleRotator.config)
        (.fresh Simulation.sampleRotator.config) Simulation.sampleRotator.loop service ∧
      .ready ∈ service.fired ∧ true ∈ service.polls .mount ∧
      (∃ i, (service.pass i).HasSucceeded) ∧
      .unmountable ∉ service.fired ∧ .injectionFailed ∉ service.fired := by
  obtain ⟨service, hcomes, hready⟩ := Simulation.exists_comes_ready_sample
  have hhook : ∀ outcome, (Simulation.sampleRotator.hook outcome).Only Effect.IsChecking :=
    RotationHook.only_silent
  obtain ⟨htruthful, -⟩ := isTruthful_of_comes hhook (isFresh_fresh _) hcomes
  have hmounted := htruthful.mounted (.inl hready)
  exact ⟨service, hcomes, hready, htruthful.seen hmounted, htruthful.passed hready,
    htruthful.not_both .mount hmounted, htruthful.not_both .injection hready⟩

end Rotator

end WebhookTrust
