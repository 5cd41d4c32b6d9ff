import Mathlib.Tactic.SplitIfs
import WebhookTrust.Signal

/-!
# Families of handles

What signals answer after any history of actions is read off the history alone. A handle belongs to
the family that came up with the new handle from which it was cloned, directly or through other
clones (`Signals.familyOf?`), a task waits for the family of the handle it was spawned on
(`Signals.awaited?`), and the signal of a family has fired once a member was fired
(`Signals.HasFired`). Names can be taken away and given again while tasks still wait, so nothing is
kept for each handle but its family.

## The theorems, and what each rests on

* `Signal.isFired_fire`, `Signal.fire_fst`: what a signal makes of its token. A token can be
  cancelled again, and shows no difference; that the first fire is told from later ones is the work
  of the signal.
* `Signals.reflects_after`: **the signals after a history are as the history says**
  (`Signals.Reflects`). It is an induction over the history with one case for each action; the
  families of the history are the numbers of the tokens.
* `Signals.answer_congr`: what is answered about a family depends only on whether it has fired.
* `Signals.followsFamilies`: **what the signals answer follows from the families**: one fire of a
  family succeeds, for ever, and no other family notices.

Of the tokens it is taken that they are as `WebhookTrust.Signal` has them: shared by clones, and
cancelled for good. When a waiting task is woken is not a question here, since a task that is run
looks for itself whether its token was cancelled.
-/

namespace WebhookTrust

namespace Assoc

variable {κ α : Type} [DecidableEq κ]

/-- A key that is taken away has no value any more. -/
theorem get?_erase (key other : κ) (pairs : List (κ × α)) :
    get? other (erase key pairs) = if other = key then none else get? other pairs := by
  induction pairs with
  | nil => simp [erase]
  | cons pair rest ih =>
    simp only [erase, List.filter_cons] at ih ⊢
    grind [get?]

/-- Values are changed where they are. -/
theorem get?_map (key : κ) (f : α → α) (pairs : List (κ × α)) :
    get? key (pairs.map fun (k, value) ↦ (k, f value)) = (get? key pairs).map f := by
  induction pairs with
  | nil => rfl
  | cons pair rest ih =>
    simp only [List.map_cons, get?, ih]
    split <;> rfl

end Assoc

/-! ### What a signal makes of its token -/

namespace Tokens

@[simp] theorem isCancelled_empty (token : Token) : empty.isCancelled token = false := rfl

/-- A token stays cancelled, and to cancel it cancels no other. -/
theorem isCancelled_cancel (tokens : Tokens) (token other : Token) :
    (tokens.cancel token).isCancelled other = true ↔
      other = token ∨ tokens.isCancelled other = true := by
  simp [isCancelled, cancel]

end Tokens

namespace Signal

variable {tokens : Tokens}

/-- The signal of a family: its token has the number of the family. -/
def ofFamily (family : Nat) : Signal := ⟨⟨family⟩⟩

theorem ofFamily_inj {family family' : Nat} : ofFamily family = ofFamily family' ↔
    family = family' := by
  simp [ofFamily]

theorem isOver_fired (tokens : Tokens) (signal : Signal) :
    tokens.isOver signal.fired = signal.isFired tokens := rfl

/-- A fire is the one that fires the signal if it had not fired. -/
theorem fire_fst (signal : Signal) (tokens : Tokens) :
    (signal.fire tokens).1 = !signal.isFired tokens := by
  rw [fire, isFired]
  split <;> simp_all

theorem made_fire (signal : Signal) (tokens : Tokens) :
    (signal.fire tokens).2.made = tokens.made := by
  rw [fire]
  split <;> rfl

/-- **After a fire the signal has fired**, and so has every other that had before. -/
theorem isFired_fire (signal other : Signal) (tokens : Tokens) :
    other.isFired (signal.fire tokens).2 = true ↔
      other = signal ∨ other.isFired tokens = true := by
  rw [fire, isFired, isFired]
  split
  · next hcancelled =>
    refine (or_iff_right_of_imp ?_).symm
    rintro rfl
    exact hcancelled
  · rw [Tokens.isCancelled_cancel, Signal.mk.injEq]

end Signal

namespace Signals

/-! ### Actions and histories -/

/-- What can be done with signals. -/
inductive Action where
  | new (handle : String)
  | clone (handle copy : String)
  | drop (handle : String)
  | fire (handle : String)
  | isFired (handle : String)
  /-- Waits, and says whether there is nothing to wait for. -/
  | wait (handle : String)
  | spawnWaiter (handle task : String)
  /-- Lets all tasks run, and says whether this one has ended. -/
  | runTasks (task : String)
deriving DecidableEq

/-- Performs an action: its answer, if it has one, and the signals after it. -/
def perform (signals : Signals) : Action → Option Bool × Signals
  | .new handle => (none, signals.new handle)
  | .clone handle copy => (none, signals.clone handle copy)
  | .drop handle => (signals.drop handle).map some id
  | .fire handle => (signals.fire handle).map some id
  | .isFired handle => (signals.isFired handle, signals)
  | .wait handle => (signals.isOver handle, signals)
  | .spawnWaiter handle task => (none, signals.spawnWaiter handle task)
  | .runTasks task => (signals.runTasks.hasEnded task, signals.runTasks)

/-- The signals after a history, whose latest action comes first. -/
def after : List Action → Signals
  | [] => .empty
  | action :: earlier => ((after earlier).perform action).2

/-- The answer to an action after a history. -/
def answer (history : List Action) (action : Action) : Option Bool :=
  ((after history).perform action).1

/-! ### Families, from the history alone -/

/-- The number of families that came up in a history. -/
def founded : List Action → Nat
  | [] => 0
  | .new _ :: earlier => founded earlier + 1
  | _ :: earlier => founded earlier

/-- The family of a handle after a history: a new one, or that of the handle it was cloned from. -/
def familyOf? : List Action → String → Option Nat
  | [], _ => none
  | .new made :: earlier, handle =>
    if handle = made then some (founded earlier) else familyOf? earlier handle
  | .clone source copy :: earlier, handle =>
    if handle = copy then (familyOf? earlier source).or (familyOf? earlier handle)
    else familyOf? earlier handle
  | .drop dropped :: earlier, handle =>
    if handle = dropped then none else familyOf? earlier handle
  | _ :: earlier, handle => familyOf? earlier handle

/-- The family that a task waits for: that of the handle which it was spawned on, at that time. -/
def awaited? : List Action → String → Option Nat
  | [], _ => none
  | .spawnWaiter handle spawned :: earlier, task =>
    if task = spawned then (familyOf? earlier handle).or (awaited? earlier task)
    else awaited? earlier task
  | _ :: earlier, task => awaited? earlier task

/-- Has a handle that belonged to the family at that time been fired? -/
def HasFired (history : List Action) (family : Nat) : Prop :=
  ∃ earlier handle, .fire handle :: earlier <:+ history ∧ familyOf? earlier handle = some family

variable {history later : List Action} {action question : Action} {handle task : String}
  {family : Nat}

@[simp] theorem not_hasFired_nil : ¬HasFired [] family := by
  simp [HasFired]

theorem hasFired_cons : HasFired (action :: history) family ↔
    (∃ handle, action = .fire handle ∧ familyOf? history handle = some family) ∨
      HasFired history family := by
  simp only [HasFired, List.suffix_cons_iff, List.cons.injEq]
  grind

theorem hasFired_cons_of_ne (h : ∀ handle, action ≠ .fire handle) :
    HasFired (action :: history) family ↔ HasFired history family := by
  rw [hasFired_cons, or_iff_right]
  rintro ⟨handle, haction, -⟩
  exact h handle haction

instance decidableHasFired : (history : List Action) → (family : Nat) →
    Decidable (HasFired history family)
  | [], _ => .isFalse not_hasFired_nil
  | action :: earlier, family =>
    have := decidableHasFired earlier family
    match action with
    | .fire handle =>
      decidable_of_iff (familyOf? earlier handle = some family ∨ HasFired earlier family)
        (by simp [hasFired_cons])
    | .new _ | .clone .. | .drop _ | .isFired _ | .wait _ | .spawnWaiter .. | .runTasks _ =>
      decidable_of_iff (HasFired earlier family) (by simp [hasFired_cons])

/-- A signal stays fired. -/
theorem HasFired.append (h : HasFired history family) (later : List Action) :
    HasFired (later ++ history) family := by
  obtain ⟨earlier, handle, hsuffix, hfamily⟩ := h
  exact ⟨earlier, handle, hsuffix.trans (List.suffix_append later history), hfamily⟩

theorem founded_le_cons : founded history ≤ founded (action :: history) := by
  cases action <;> simp [founded]

/-- A handle keeps its family, gets a new one, or gets that of another handle. -/
theorem familyOf?_cons (h : familyOf? (action :: history) handle = some family) :
    (∃ other, familyOf? history other = some family) ∨
      action = .new handle ∧ family = founded history := by
  cases action with
  | new made => simp only [familyOf?] at h; grind
  | clone source copy => simp only [familyOf?] at h; grind [Option.or_eq_some_iff]
  | drop dropped => simp only [familyOf?] at h; grind
  | _ => exact .inl ⟨handle, h⟩

/-- The families of handles are among those that came up. -/
theorem lt_founded (h : familyOf? history handle = some family) : family < founded history := by
  induction history generalizing handle with
  | nil => cases h
  | cons action earlier ih =>
    obtain ⟨other, hother⟩ | ⟨rfl, rfl⟩ := familyOf?_cons h
    · exact Nat.lt_of_lt_of_le (ih hother) founded_le_cons
    · exact Nat.lt_succ_self _

/-- A task waits for a family that came up. -/
theorem lt_founded_of_awaited? (h : awaited? history task = some family) :
    family < founded history := by
  induction history with
  | nil => cases h
  | cons action earlier ih =>
    refine Nat.lt_of_lt_of_le ?_ founded_le_cons
    cases action with
    | spawnWaiter handle spawned =>
      simp only [awaited?] at h
      grind [Option.or_eq_some_iff, lt_founded]
    | _ => exact ih h

/-- A family that has fired came up before. -/
theorem HasFired.lt_founded (h : HasFired history family) : family < founded history := by
  induction history with
  | nil => cases not_hasFired_nil h
  | cons action earlier ih =>
    refine Nat.lt_of_lt_of_le ?_ founded_le_cons
    obtain ⟨handle, -, hfamily⟩ | hearlier := hasFired_cons.1 h
    · exact Signals.lt_founded hfamily
    · exact ih hearlier

/-! ### The signals after a history -/

/-- The signals are as the history says: the families of handles and tasks, and which have fired.
A task may have ended only if its family has fired. -/
structure Reflects (history : List Action) (signals : Signals) : Prop where
  made : signals.tokens.made = founded history
  signal? : ∀ handle, signals.signal? handle = (familyOf? history handle).map .ofFamily
  isFired : ∀ family, (Signal.ofFamily family).isFired signals.tokens = true ↔
    HasFired history family
  awaits? : ∀ task, (Assoc.get? task signals.waiters).map (·.awaits) =
    (awaited? history task).map fun family ↦ (Signal.ofFamily family).fired
  isOver_of_hasEnded : ∀ task waiter, Assoc.get? task signals.waiters = some waiter →
    waiter.hasEnded → signals.tokens.isOver waiter.awaits = true

/-- In the beginning there is nothing to say. -/
theorem reflects_empty : Reflects [] .empty where
  made := rfl
  signal? _ := rfl
  isFired _ := by simp [empty, Signal.isFired]
  awaits? _ := rfl
  isOver_of_hasEnded _ _ h := by cases h

namespace Reflects

variable {signals : Signals} (reflects : Reflects history signals)
include reflects

theorem isFired_cons (h : ∀ handle, action ≠ .fire handle) (family : Nat) :
    (Signal.ofFamily family).isFired signals.tokens = true ↔ HasFired (action :: history) family :=
  (reflects.isFired family).trans (hasFired_cons_of_ne h).symm

/-- An action that the history makes nothing of may leave the signals as they are. -/
theorem keep (hfounded : founded (action :: history) = founded history)
    (hfamily : ∀ handle, familyOf? (action :: history) handle = familyOf? history handle)
    (hfired : ∀ family, HasFired (action :: history) family ↔ HasFired history family)
    (hawaited : ∀ task, awaited? (action :: history) task = awaited? history task) :
    Reflects (action :: history) signals where
  made := reflects.made.trans hfounded.symm
  signal? handle := by rw [hfamily, reflects.signal?]
  isFired family := (reflects.isFired family).trans (hfired family).symm
  awaits? task := by rw [hawaited, reflects.awaits?]
  isOver_of_hasEnded := reflects.isOver_of_hasEnded

/-- A new handle has a token of its own. -/
theorem new (handle : String) : Reflects (.new handle :: history) (signals.new handle) where
  made := congrArg (· + 1) reflects.made
  signal? other := by
    have hput := Assoc.get?_put handle other (Signal.ofFamily signals.tokens.made) signals.handles
    simp only [familyOf?, ← reflects.made]
    split_ifs at hput ⊢ with heq
    · exact hput
    · exact hput.trans (reflects.signal? other)
  isFired := reflects.isFired_cons fun _ ↦ nofun
  awaits? := reflects.awaits?
  isOver_of_hasEnded := reflects.isOver_of_hasEnded

/-- A clone has the token of its handle. -/
theorem clone (handle copy : String) :
    Reflects (.clone handle copy :: history) (signals.clone handle copy) := by
  have hsignal := reflects.signal? handle
  cases hfamily : familyOf? history handle with
  | none =>
    rw [hfamily, Option.map_none] at hsignal
    simp only [Signals.clone, hsignal]
    exact reflects.keep rfl (fun other ↦ by simp [familyOf?, hfamily])
      (fun _ ↦ hasFired_cons_of_ne fun _ ↦ nofun) fun _ ↦ rfl
  | some family =>
    rw [hfamily, Option.map_some] at hsignal
    simp only [Signals.clone, hsignal]
    refine ⟨reflects.made, fun other ↦ ?_, reflects.isFired_cons fun _ ↦ nofun, reflects.awaits?,
      reflects.isOver_of_hasEnded⟩
    have hput := Assoc.get?_put copy other (Signal.ofFamily family) signals.handles
    simp only [familyOf?, hfamily, Option.some_or]
    split_ifs at hput ⊢ with heq
    · exact hput
    · exact hput.trans (reflects.signal? other)

/-- A handle that is dropped has no family; its token may still be waited for. -/
theorem drop (handle : String) : Reflects (.drop handle :: history) (signals.drop handle).2 where
  made := reflects.made
  signal? other := by
    have herase := Assoc.get?_erase handle other signals.handles
    simp only [familyOf?]
    split_ifs at herase ⊢ with heq
    · exact herase
    · exact herase.trans (reflects.signal? other)
  isFired := reflects.isFired_cons fun _ ↦ nofun
  awaits? := reflects.awaits?
  isOver_of_hasEnded := reflects.isOver_of_hasEnded

/-- A fire cancels the token of the family. -/
theorem fire (handle : String) : Reflects (.fire handle :: history) (signals.fire handle).2 := by
  have hsignal := reflects.signal? handle
  cases hfamily : familyOf? history handle with
  | none =>
    rw [hfamily, Option.map_none] at hsignal
    simp only [Signals.fire, hsignal]
    exact reflects.keep rfl (fun _ ↦ rfl) (fun family ↦ by simp [hasFired_cons, hfamily])
      fun _ ↦ rfl
  | some family =>
    rw [hfamily, Option.map_some] at hsignal
    simp only [Signals.fire, hsignal]
    refine ⟨(Signal.made_fire _ _).trans reflects.made, reflects.signal?, fun other ↦ ?_,
      reflects.awaits?, fun task waiter hget hended ↦ ?_⟩
    · rw [Signal.isFired_fire, Signal.ofFamily_inj, reflects.isFired, hasFired_cons]
      simp [hfamily, eq_comm]
    · -- who had nothing to wait for before has nothing to wait for now
      exact (Signal.isFired_fire _ ⟨waiter.awaits.token⟩ _).2
        (.inr (reflects.isOver_of_hasEnded task waiter hget hended))

/-- A task waits for the token of the handle. -/
theorem spawnWaiter (handle task : String) :
    Reflects (.spawnWaiter handle task :: history) (signals.spawnWaiter handle task) := by
  have hsignal := reflects.signal? handle
  cases hfamily : familyOf? history handle with
  | none =>
    rw [hfamily, Option.map_none] at hsignal
    simp only [Signals.spawnWaiter, hsignal]
    exact reflects.keep rfl (fun _ ↦ rfl) (fun _ ↦ hasFired_cons_of_ne fun _ ↦ nofun)
      fun other ↦ by simp [awaited?, hfamily]
  | some family =>
    rw [hfamily, Option.map_some] at hsignal
    simp only [Signals.spawnWaiter, hsignal]
    refine ⟨reflects.made, reflects.signal?, reflects.isFired_cons fun _ ↦ nofun, fun other ↦ ?_,
      fun other waiter hget hended ↦ ?_⟩
    · rw [Assoc.get?_put]
      simp only [awaited?, hfamily, Option.some_or]
      split_ifs with heq
      · rfl
      · exact reflects.awaits? other
    · rw [Assoc.get?_put] at hget
      split_ifs at hget with heq
      · cases hget
        cases hended
      · exact reflects.isOver_of_hasEnded other waiter hget hended

omit reflects in
/-- A task that is run has ended if it had before, or if its token was cancelled. -/
theorem get?_runTasks (signals : Signals) (task : String) :
    Assoc.get? task signals.runTasks.waiters =
      (Assoc.get? task signals.waiters).map fun waiter ↦
        { waiter with hasEnded := waiter.hasEnded || signals.tokens.isOver waiter.awaits } :=
  Assoc.get?_map task (fun waiter : Waiter ↦
    { waiter with hasEnded := waiter.hasEnded || signals.tokens.isOver waiter.awaits })
    signals.waiters

/-- Tasks that are run change nothing about families. -/
theorem runTasks (task : String) : Reflects (.runTasks task :: history) signals.runTasks where
  made := reflects.made
  signal? := reflects.signal?
  isFired := reflects.isFired_cons fun _ ↦ nofun
  awaits? other := by
    rw [get?_runTasks, Option.map_map]
    exact reflects.awaits? other
  isOver_of_hasEnded other waiter hget hended := by
    rw [get?_runTasks] at hget
    obtain ⟨before, hbefore, rfl⟩ := Option.map_eq_some_iff.1 hget
    obtain hended | hover := Bool.or_eq_true .. ▸ hended
    · exact reflects.isOver_of_hasEnded other before hbefore hended
    · exact hover

/-- One action more, here and there. -/
theorem perform (action : Action) :
    Reflects (action :: history) (signals.perform action).2 := by
  cases action with
  | new handle => exact reflects.new handle
  | clone handle copy => exact reflects.clone handle copy
  | drop handle => exact reflects.drop handle
  | fire handle => exact reflects.fire handle
  | isFired _ | wait _ =>
    exact reflects.keep rfl (fun _ ↦ rfl) (fun _ ↦ hasFired_cons_of_ne fun _ ↦ nofun) fun _ ↦ rfl
  | spawnWaiter handle task => exact reflects.spawnWaiter handle task
  | runTasks task => exact reflects.runTasks task

end Reflects

/-- **The signals after a history are as the history says.** -/
theorem reflects_after (history : List Action) : Reflects history (after history) := by
  induction history with
  | nil => exact reflects_empty
  | cons action earlier ih => exact ih.perform action

/-! ### Answers -/

theorem answer_drop (history : List Action) (handle : String) :
    answer history (.drop handle) = some (familyOf? history handle).isSome := by
  have hsignal := (reflects_after history).signal? handle
  exact congrArg some ((congrArg Option.isSome hsignal).trans Option.isSome_map)

/-- A fire succeeds on a family that has not fired. -/
theorem answer_fire (history : List Action) (handle : String) :
    answer history (.fire handle) =
      some (decide (∃ family ∈ familyOf? history handle, ¬HasFired history family)) := by
  have reflects := reflects_after history
  simp only [answer, perform, fire, reflects.signal?, ← reflects.isFired]
  cases familyOf? history handle with
  | none => simp
  | some family => simp [Signal.fire_fst]

/-- A handle says whether its family has fired. -/
theorem answer_isFired (history : List Action) (handle : String) :
    answer history (.isFired handle) =
      some (decide (∃ family ∈ familyOf? history handle, HasFired history family)) := by
  have reflects := reflects_after history
  simp only [answer, perform, isFired, reflects.signal?, ← reflects.isFired]
  cases familyOf? history handle <;> simp

theorem answer_wait (history : List Action) (handle : String) :
    answer history (.wait handle) =
      some (decide (∃ family ∈ familyOf? history handle, HasFired history family)) :=
  answer_isFired history handle

/-- A task ends if the family that it waits for has fired. -/
theorem answer_runTasks (history : List Action) (task : String) :
    answer history (.runTasks task) =
      some (decide (∃ family ∈ awaited? history task, HasFired history family)) := by
  have reflects := reflects_after history
  have hawaits := reflects.awaits? task
  simp only [answer, perform, hasEnded, Reflects.get?_runTasks, ← reflects.isFired]
  cases hget : Assoc.get? task (after history).waiters with
  | none =>
    rw [hget, Option.map_none] at hawaits
    simp [Option.map_eq_none_iff.1 hawaits.symm]
  | some waiter =>
    rw [hget, Option.map_some] at hawaits
    obtain ⟨family, hfamily, hfired⟩ := Option.map_eq_some_iff.1 hawaits.symm
    -- a task that has ended already did so because its family had fired
    have hended := reflects.isOver_of_hasEnded task waiter hget
    rw [← hfired, Signal.isOver_fired] at hended
    simp only [Option.map_some, Option.any_some, ← hfired, Signal.isOver_fired, hfamily]
    cases hbefore : waiter.hasEnded with
    | false => simp
    | true => simp [hended hbefore]

/-- The family of the handle or the task that an action is about. A new handle is about none. -/
def Action.family? (history : List Action) : Action → Option Nat
  | .new _ => none
  | .clone handle _ | .drop handle | .fire handle | .isFired handle | .wait handle
  | .spawnWaiter handle _ => familyOf? history handle
  | .runTasks task => awaited? history task

/-- The name that an action gives to another handle, or takes away. -/
def Action.handle? : Action → Option String
  | .new handle | .clone _ handle | .drop handle => handle
  | _ => none

/-- The name that an action gives to another task. -/
def Action.task? : Action → Option String
  | .spawnWaiter _ task => task
  | _ => none

theorem familyOf?_cons_of_ne (h : action.handle? ≠ handle) :
    familyOf? (action :: history) handle = familyOf? history handle := by
  cases action <;> simp_all [familyOf?, Action.handle?, eq_comm]

theorem awaited?_cons_of_ne (h : action.task? ≠ task) :
    awaited? (action :: history) task = awaited? history task := by
  cases action <;> simp_all [awaited?, Action.task?, eq_comm]

/-- What is answered about a family depends on nothing but whether its signal has fired. -/
theorem answer_congr {history' : List Action} (h : question.family? history = some family)
    (h' : question.family? history' = some family)
    (hfired : HasFired history' family ↔ HasFired history family) :
    answer history' question = answer history question := by
  cases question with
  | new _ => cases h
  | clone _ _ | spawnWaiter _ _ => rfl
  | drop _ | fire _ | isFired _ | wait _ | runTasks _ =>
    simp only [Action.family?] at h h'
    simp only [answer_drop, answer_fire, answer_isFired, answer_wait, answer_runTasks, h, h',
      Option.mem_def, Option.some.injEq, exists_eq_left', hfired]

/-! ### What a history promises -/

/-- What is promised after a history, whatever comes next. -/
structure FollowsFamilies (history : List Action) : Prop where
  /-- A new handle is the only one of its family, whose signal has not fired. -/
  new : ∀ handle, ∃ family, familyOf? (.new handle :: history) handle = some family ∧
    ¬HasFired (.new handle :: history) family ∧
    (∀ other, familyOf? (.new handle :: history) other = some family ↔ other = handle) ∧
    ∀ task, awaited? (.new handle :: history) task ≠ some family
  /-- A fire succeeds just if the handle has a family and no member of it was fired before. -/
  fire : ∀ handle, answer history (.fire handle) =
    some (decide (∃ family ∈ familyOf? history handle, ¬HasFired history family))
  isFired : ∀ handle, answer history (.isFired handle) =
    some (decide (∃ family ∈ familyOf? history handle, HasFired history family))
  wait : ∀ handle, answer history (.wait handle) =
    some (decide (∃ family ∈ familyOf? history handle, HasFired history family))
  /-- A task ends just if the family of the handle it was spawned on has fired. -/
  runTasks : ∀ task, answer history (.runTasks task) =
    some (decide (∃ family ∈ awaited? history task, HasFired history family))
  /-- Once a member was fired, no fire of the family succeeds and no one waits for it any more. -/
  stays : ∀ {handle family later}, familyOf? history handle = some family →
    (∀ other, familyOf? (later ++ .fire handle :: history) other = some family →
      answer (later ++ .fire handle :: history) (.fire other) = some false ∧
      answer (later ++ .fire handle :: history) (.isFired other) = some true ∧
      answer (later ++ .fire handle :: history) (.wait other) = some true) ∧
    ∀ task, awaited? (later ++ .fire handle :: history) task = some family →
      answer (later ++ .fire handle :: history) (.runTasks task) = some true
  /-- No action but a fire of the family changes what is answered about it. -/
  apart : ∀ {action question family},
    (∀ handle, action = .fire handle → familyOf? history handle ≠ some family) →
    question.family? history = some family → question.family? (action :: history) = some family →
    answer (action :: history) question = answer history question
  /-- No action changes the family of a name that it does not set. -/
  handle : ∀ {action handle}, action.handle? ≠ some handle →
    familyOf? (action :: history) handle = familyOf? history handle
  task : ∀ {action task}, action.task? ≠ some task →
    awaited? (action :: history) task = awaited? history task

theorem hasFired_fire (h : familyOf? history handle = some family) (later : List Action) :
    HasFired (later ++ .fire handle :: history) family :=
  (hasFired_cons.2 (.inl ⟨handle, rfl, h⟩)).append later

/-- **What the signals answer follows from the families**, after any history of actions. -/
theorem followsFamilies (history : List Action) : FollowsFamilies history where
  new handle := by
    refine ⟨founded history, by simp [familyOf?], fun h ↦ ?_, fun other ↦ ?_, fun task h ↦ ?_⟩
    · exact Nat.lt_irrefl _ ((hasFired_cons_of_ne (by simp)).1 h).lt_founded
    · by_cases hother : other = handle
      · simp [familyOf?, hother]
      · simpa [familyOf?, hother] using fun h ↦ Nat.lt_irrefl _ (lt_founded h)
    · rw [awaited?_cons_of_ne (by simp [Action.task?])] at h
      exact Nat.lt_irrefl _ (lt_founded_of_awaited? h)
  fire := answer_fire history
  isFired := answer_isFired history
  wait := answer_wait history
  runTasks := answer_runTasks history
  stays {handle family later} h := by
    have hfired := hasFired_fire h later
    refine ⟨fun other hother ↦ ?_, fun task htask ↦ ?_⟩
    · simp [answer_fire, answer_isFired, answer_wait, hother, hfired]
    · simp [answer_runTasks, htask, hfired]
  apart {action question family} hfire h h' := by
    refine answer_congr h h' ?_
    rw [hasFired_cons, or_iff_right]
    rintro ⟨handle, haction, hfamily⟩
    exact hfire handle haction hfamily
  handle := familyOf?_cons_of_ne
  task := awaited?_cons_of_ne

/-- A clone of a clone shares the signal of a handle that fired it and was dropped. -/
example : answer [.clone "b" "c", .drop "a", .fire "a", .clone "a" "b", .new "a"] (.isFired "c") =
    some true := by
  decide

end Signals

end WebhookTrust
