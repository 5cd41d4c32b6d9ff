import WebhookTrust.Proofs.Conduct

/-!
# Two runs side by side

Two procedures are twins if, run from two states, they end with the same result and leave states
that are related (`Procedure.Twins`). Twins are composed as procedures are (`Procedure.Twins.bind`,
`Procedure.Twins.andThen`); the relation between the states is what the next two procedures start
from. It is a relation between runs, not between procedures, so each side may answer in its own way.

* `Host.answer_of_isCommon`: **what does not depend on the store is answered the same** by two hosts
  that differ in their stores: the clock, the keys that are made, the flag of the injection and
  those who listen do not depend on it, nor on the random factors of pauses.
* `Host.twins_of_only`: **so whatever leaves the store alone is its own twin**, by induction on the
  procedure.
* `Backoff.twins_retry`: **what is tried again is its own twin if an attempt is**, by induction on
  the attempts that remain. The pauses may differ, since they show in nothing but the factors drawn
  (`Host.Alike`).

The two stores are those of `WebhookTrust.Proofs.Stores`; nothing here knows of them.
-/

namespace WebhookTrust

/-! ### Twins -/

namespace Procedure

variable {σ τ α β ε : Type} {answer : (effect : Effect) → σ → effect.Reply × σ}
  {answer' : (effect : Effect) → τ → effect.Reply × τ} {inv inv' : σ → τ → Prop}

/-- Do the procedures end with the same result, and leave states that are related? -/
def Twins (answer : (effect : Effect) → σ → effect.Reply × σ)
    (answer' : (effect : Effect) → τ → effect.Reply × τ) (inv : σ → τ → Prop)
    (left right : Procedure α) (state : σ) (state' : τ) : Prop :=
  (left.run answer state).1 = (right.run answer' state').1 ∧
    inv (left.run answer state).2 (right.run answer' state').2

variable {left right : Procedure α} {state : σ} {state' : τ}

theorem twins_pure (result : α) (h : inv state state') :
    Twins answer answer' inv (.pure result) (.pure result) state state' := ⟨rfl, h⟩

theorem twins_stop (halt : Halt) (h : inv state state') :
    Twins answer answer' inv (.stop halt : Procedure α) (.stop halt) state state' := ⟨rfl, h⟩

theorem Twins.mono (h : Twins answer answer' inv left right state state')
    (hinv : ∀ state state', inv state state' → inv' state state') :
    Twins answer answer' inv' left right state state' := ⟨h.1, hinv _ _ h.2⟩

/-- **Twins go on as twins.** -/
theorem Twins.bind {next next' : α → Procedure β}
    (h : Twins answer answer' inv left right state state')
    (hnext : ∀ result state state', inv state state' →
      Twins answer answer' inv' (next result) (next' result) state state')
    (hinv : ∀ state state', inv state state' → inv' state state') :
    Twins answer answer' inv' (left.bind next) (right.bind next') state state' := by
  obtain ⟨hresult, hafter⟩ := h
  rw [Twins, run_bind, run_bind]
  rcases hleft : left.run answer state with ⟨halt | result, after⟩ <;>
    rcases hright : right.run answer' state' with ⟨halt' | result', after'⟩ <;>
    rw [hleft, hright] at hresult hafter <;> cases hresult
  · exact ⟨rfl, hinv _ _ hafter⟩
  · exact hnext result _ _ hafter

/-- Twins go on as twins, unless they fail. -/
theorem Twins.andThen {left right : Procedure (Except ε α)}
    {next next' : α → Procedure (Except ε β)}
    (h : Twins answer answer' inv left right state state')
    (hnext : ∀ value state state', inv state state' →
      Twins answer answer' inv' (next value) (next' value) state state')
    (hinv : ∀ state state', inv state state' → inv' state state') :
    Twins answer answer' inv' (left.andThen next) (right.andThen next') state state' := by
  refine h.bind (fun result state state' hafter ↦ ?_) hinv
  rcases result with e | value
  · exact twins_pure _ (hinv _ _ hafter)
  · exact hnext value state state' hafter

theorem twins_step {effect effect' : Effect} {next : effect.Reply → Procedure α}
    {next' : effect'.Reply → Procedure α}
    (h : Twins answer answer' inv (next (answer effect state).1) (next' (answer' effect' state').1)
      (answer effect state).2 (answer' effect' state').2) :
    Twins answer answer' inv (.step effect next) (.step effect' next') state state' := h

/-- Two calls that succeed go on with what they give. -/
theorem twins_call_andThen {call call' : StoreCall}
    {next : call.Result → Procedure (Except Error α)}
    {next' : call'.Result → Procedure (Except Error α)} {result : call.Result}
    {result' : call'.Result} (h : (answer (.store call) state).1 = .ok result)
    (h' : (answer' (.store call') state').1 = .ok result')
    (hnext : Twins answer answer' inv (next result) (next' result')
      (answer (.store call) state).2 (answer' (.store call') state').2) :
    Twins answer answer' inv ((Procedure.call call).andThen next)
      ((Procedure.call call').andThen next') state state' := by
  refine twins_step ?_
  rw [h, h']
  exact hnext

/-- What both sides answer in the same way is its own twin. -/
theorem twins_of_only {isAllowed : Effect → Prop} {procedure : Procedure α}
    (honly : procedure.Only isAllowed)
    (hanswer : ∀ effect, isAllowed effect → ∀ state state', inv state state' →
      (answer effect state).1 = (answer' effect state').1 ∧
        inv (answer effect state).2 (answer' effect state').2)
    (hinv : inv state state') :
    Twins answer answer' inv procedure procedure state state' := by
  induction procedure generalizing state state' with
  | pure result => exact twins_pure result hinv
  | stop halt => exact twins_stop halt hinv
  | step effect next ih =>
    obtain ⟨hreply, hafter⟩ := hanswer effect honly.1 state state' hinv
    refine twins_step ?_
    rw [← hreply]
    exact ih _ (honly.2 _) hafter

end Procedure

/-! ### Trying again -/

namespace Backoff

open Procedure

variable {σ τ α ε : Type} {answer : (effect : Effect) → σ → effect.Reply × σ}
  {answer' : (effect : Effect) → τ → effect.Reply × τ} {inv : σ → τ → Prop} {config : Backoff}
  {name : String} {describe : ε → String} {operation : Procedure (Except ε α)} {state : σ}
  {state' : τ}

/-- Can idle effects be had on both sides, also different ones? -/
def IgnoresIdle (answer : (effect : Effect) → σ → effect.Reply × σ)
    (answer' : (effect : Effect) → τ → effect.Reply × τ) (inv : σ → τ → Prop) : Prop :=
  ∀ effect effect' state state', effect.IsIdle → effect'.IsIdle → inv state state' →
    inv (answer effect state).2 (answer' effect' state').2

/-- A pause on each side, of whatever length. -/
theorem IgnoresIdle.twins_step {effect effect' : Effect} {next : effect.Reply → Procedure α}
    {next' : effect'.Reply → Procedure α} (hignores : IgnoresIdle answer answer' inv)
    (heffect : effect.IsIdle) (heffect' : effect'.IsIdle) (hinv : inv state state')
    (hnext : ∀ reply reply' state state', inv state state' →
      Twins answer answer' inv (next reply) (next' reply') state state') :
    Twins answer answer' inv (.step effect next) (.step effect' next') state state' :=
  hnext _ _ _ _ (hignores effect effect' state state' heffect heffect' hinv)

/-- So many attempts remain on both sides. -/
theorem twins_retryFrom (hignores : IgnoresIdle answer answer' inv)
    (hattempt : ∀ state state', inv state state' →
      Twins answer answer' inv operation operation state state')
    (remaining attempt : Nat) (delay : Rat) (hinv : inv state state') :
    Twins answer answer' inv (config.retryFrom name describe operation remaining attempt delay)
      (config.retryFrom name describe operation remaining attempt delay) state state' := by
  induction remaining generalizing attempt delay state state' with
  | zero => exact twins_stop .crashed hinv
  | succ remaining ih =>
    refine (hattempt state state' hinv).bind ?_ fun _ _ h ↦ h
    rintro (e | value) state state' hinv
    · by_cases hexhausted : config.isExhausted (attempt + 1) = true
      · simp only [if_pos hexhausted]
        exact hignores.twins_step trivial trivial hinv fun _ _ _ _ hinv ↦ twins_pure _ hinv
      · simp only [if_neg hexhausted]
        -- the factors of the pause, its announcements and the pauses themselves
        refine hignores.twins_step trivial trivial hinv fun _ _ _ _ hinv ↦ ?_
        refine hignores.twins_step trivial trivial hinv fun _ _ _ _ hinv ↦ ?_
        refine hignores.twins_step trivial trivial hinv fun _ _ state state' hinv ↦ ?_
        cases config.nextDelay? delay with
        | none => exact twins_stop .crashed hinv
        | some next => exact ih (attempt + 1) next hinv
    · exact twins_pure _ hinv

/-- **What is tried again is its own twin if an attempt is**: the pauses between the attempts may
differ, since they do not show. -/
theorem twins_retry (hignores : IgnoresIdle answer answer' inv)
    (hattempt : ∀ state state', inv state state' →
      Twins answer answer' inv operation operation state state')
    (hinv : inv state state') :
    Twins answer answer' inv (config.retry name describe operation)
      (config.retry name describe operation) state state' :=
  twins_retryFrom hignores hattempt _ _ _ hinv

end Backoff

/-! ### Hosts -/

/-- What a procedure runs on: a store, how often the clock was read, a key was made and a factor
drawn, the flag of the injection, and what was told and counted, the last thing first. -/
structure Host (σ : Type) where
  store : σ
  readings : Nat
  newKeys : Nat
  draws : Nat
  isInjected : Bool
  told : List RotationOutcome
  counted : List Measurement

/-- Does the reply to the effect depend neither on the store nor on the factors of pauses? -/
def Effect.IsCommon : Effect → Prop
  | .store _ | .jitter => False
  | .now | .newKey | .sleep _ | .log _ | .record _ | .notify _ | .fileExists _ | .isInjected
  | .setInjected | .fire _ | .await _ | .spawnPollers | .startTicker _ | .wait => True

theorem Effect.isCommon_of_isIssuing (effect : Effect) (h : effect.IsIssuing) :
    effect.IsCommon := by
  cases effect <;> first | exact h.elim | trivial

namespace Host

variable {σ τ α ε : Type} {clock : Nat → Instant} {keys : Nat → Except KeyFault Rsa.PrivateKey}
  {factors factors' : Nat → Rat} {answerCall : (call : StoreCall) → σ → call.Reply × σ}
  {answerCall' : (call : StoreCall) → τ → call.Reply × τ}

/-- A host on which nothing happened yet. -/
def fresh (store : σ) : Host σ := ⟨store, 0, 0, 0, false, [], []⟩

/-- Answers an effect, with the times that the clock shows, the keys that are made and the factors
that are drawn one after the other. -/
def answer (clock : Nat → Instant) (keys : Nat → Except KeyFault Rsa.PrivateKey)
    (factors : Nat → Rat) (answerCall : (call : StoreCall) → σ → call.Reply × σ) :
    (effect : Effect) → Host σ → effect.Reply × Host σ
  | .store call, s =>
    let (reply, store) := answerCall call s.store
    (reply, { s with store })
  | .now, s => (clock s.readings, { s with readings := s.readings + 1 })
  | .newKey, s => (keys s.newKeys, { s with newKeys := s.newKeys + 1 })
  | .jitter, s => (factors s.draws, { s with draws := s.draws + 1 })
  | .record measurement, s => ((), { s with counted := measurement :: s.counted })
  | .notify outcome, s => ((), { s with told := outcome :: s.told })
  | .isInjected, s => (s.isInjected, s)
  | .setInjected, s => ((), { s with isInjected := true })
  | .fileExists _, s => (false, s)
  | .wait, s => (.stop, s)
  | .sleep _, s | .log _, s | .fire _, s | .await _, s | .spawnPollers, s | .startTicker _, s =>
    ((), s)

/-- Are the hosts the same, apart from the stores and the factors that were drawn? -/
structure Alike (here : Host σ) (there : Host τ) : Prop where
  readings : here.readings = there.readings
  newKeys : here.newKeys = there.newKeys
  isInjected : here.isInjected = there.isInjected
  told : here.told = there.told
  counted : here.counted = there.counted

/-- The hosts are alike, and their stores are these. -/
structure Rest (store : σ) (store' : τ) (here : Host σ) (there : Host τ) : Prop
    extends Alike here there where
  store : here.store = store
  store' : there.store = store'

variable {here : Host σ} {there : Host τ} {store : σ} {store' : τ}

/-- **What does not depend on the store is answered the same.** -/
theorem answer_of_isCommon (effect : Effect) (heffect : effect.IsCommon) (here : Host σ)
    (there : Host τ) (h : Rest store store' here there) :
    (answer clock keys factors answerCall effect here).1 =
        (answer clock keys factors' answerCall' effect there).1 ∧
      Rest store store' (answer clock keys factors answerCall effect here).2
        (answer clock keys factors' answerCall' effect there).2 := by
  obtain ⟨halike, hstore, hstore'⟩ := h
  cases effect with
  | store | jitter => exact heffect.elim
  | now =>
    exact ⟨congrArg clock halike.readings,
      { halike with readings := congrArg (· + 1) halike.readings }, hstore, hstore'⟩
  | newKey =>
    exact ⟨congrArg keys halike.newKeys,
      { halike with newKeys := congrArg (· + 1) halike.newKeys }, hstore, hstore'⟩
  | record measurement =>
    exact ⟨rfl, { halike with counted := congrArg (measurement :: ·) halike.counted }, hstore,
      hstore'⟩
  | notify outcome =>
    exact ⟨rfl, { halike with told := congrArg (outcome :: ·) halike.told }, hstore, hstore'⟩
  | isInjected => exact ⟨halike.isInjected, halike, hstore, hstore'⟩
  | setInjected => exact ⟨rfl, { halike with isInjected := rfl }, hstore, hstore'⟩
  | sleep | log | fileExists | fire | await | spawnPollers | startTicker | wait =>
    exact ⟨rfl, halike, hstore, hstore'⟩

/-- Pauses and the log show neither in the stores nor in anything else. -/
theorem ignoresIdle (same : σ → τ → Prop) :
    Backoff.IgnoresIdle (answer clock keys factors answerCall)
      (answer clock keys factors' answerCall') fun here there ↦
        here.Alike there ∧ same here.store there.store := by
  rintro effect effect' here there heffect heffect' ⟨halike, hsame⟩
  have hleft : ((answer clock keys factors answerCall effect here).2).Alike there ∧
      same (answer clock keys factors answerCall effect here).2.store there.store := by
    cases effect <;> first | exact heffect.elim | exact ⟨{ halike with }, hsame⟩
  cases effect' <;> first | exact heffect'.elim | exact ⟨{ hleft.1 with }, hleft.2⟩

/-- **What does not depend on the store is its own twin**, and leaves the stores as they are. -/
theorem twins_of_only {procedure : Procedure α} (honly : procedure.Only Effect.IsCommon)
    (h : Rest store store' here there) :
    Procedure.Twins (answer clock keys factors answerCall)
      (answer clock keys factors' answerCall') (Rest store store') procedure procedure here there :=
  Procedure.twins_of_only honly answer_of_isCommon h

end Host

end WebhookTrust
