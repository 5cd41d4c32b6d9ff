import WebhookTrust.Backoff
import WebhookTrust.Procedure.Effect

/-!
# Procedures

A procedure is a description of what is done: it has a result, or ends everything, or has an effect
and goes on with the reply. Procedures are data, so the same procedure can be run against any
surroundings, and several can be run side by side, effect by effect.

* `Procedure.bind`, `Procedure.andThen`: one procedure after the other; the second of them goes on
  only after a success. `bind_eq` and `pure_eq` turn `do` blocks into these, which is the form in
  which theorems are stated;
* `Procedure.run`: a run against surroundings that answer every effect at once. What is said of a
  procedure in surroundings of which less is known, or in which others take turns, is said through
  contracts (`WebhookTrust.Proofs.Contract`);
* `Halt`: why everything ends without a result. A crash ends the task, an exit the process.

Procedures are finite in depth, so what runs without an end is bounded by something that is never
reached, and each such bound has its theorem.
-/

namespace WebhookTrust

/-- Why everything ends without a result. -/
inductive Halt where
  /-- Something happened that must not. -/
  | crashed
  /-- The process ended itself, in good order. -/
  | exited
deriving DecidableEq, Repr, Inhabited

/-- A procedure with results of a type. -/
inductive Procedure (α : Type) where
  | pure (result : α)
  | stop (halt : Halt)
  | step (effect : Effect) (next : effect.Reply → Procedure α)

namespace Procedure

variable {α β γ : Type}

/-! ### Composition -/

/-- One procedure after the other. -/
def bind : Procedure α → (α → Procedure β) → Procedure β
  | .pure result, next => next result
  | .stop halt, _ => .stop halt
  | .step effect rest, next => .step effect fun reply ↦ (rest reply).bind next

instance : Monad Procedure where
  pure := .pure
  bind := .bind

@[simp] theorem pure_bind (result : α) (next : α → Procedure β) :
    (Procedure.pure result).bind next = next result := rfl

@[simp] theorem stop_bind (halt : Halt) (next : α → Procedure β) :
    (Procedure.stop halt).bind next = .stop halt := rfl

@[simp] theorem step_bind (effect : Effect) (rest : effect.Reply → Procedure α)
    (next : α → Procedure β) :
    (Procedure.step effect rest).bind next = .step effect fun reply ↦ (rest reply).bind next :=
  rfl

theorem bind_pure (procedure : Procedure α) : procedure.bind .pure = procedure := by
  induction procedure with
  | pure result => rfl
  | stop halt => rfl
  | step effect next ih => simp [ih]

theorem bind_assoc (procedure : Procedure α) (f : α → Procedure β) (g : β → Procedure γ) :
    (procedure.bind f).bind g = procedure.bind fun result ↦ (f result).bind g := by
  induction procedure with
  | pure result => rfl
  | stop halt => rfl
  | step effect next ih => simp [ih]

@[simp] theorem bind_eq (procedure : Procedure α) (next : α → Procedure β) :
    procedure >>= next = procedure.bind next := rfl

@[simp] theorem pure_eq (result : α) : (Pure.pure result : Procedure α) = .pure result := rfl

/-! ### Single effects -/

/-- Has an effect and gives its reply. -/
def perform (effect : Effect) : Procedure effect.Reply := .step effect .pure

/-- Calls the store. -/
def call (call : StoreCall) : Procedure call.Reply := perform (.store call)

/-- Logs an event. -/
def log (level : LogLevel) (message : String) (fields : List (String × LogValue)) :
    Procedure Unit :=
  perform (.log ⟨level, message, fields⟩)

/-- Goes on only after a success. -/
def andThen {ε : Type} (procedure : Procedure (Except ε α))
    (next : α → Procedure (Except ε β)) : Procedure (Except ε β) :=
  procedure.bind fun
    | .ok result => next result
    | .error e => .pure (.error e)

@[simp] theorem pure_ok_andThen {ε : Type} (result : α) (next : α → Procedure (Except ε β)) :
    (Procedure.pure (.ok result)).andThen next = next result := rfl

@[simp] theorem pure_error_andThen {ε : Type} (e : ε) (next : α → Procedure (Except ε β)) :
    (Procedure.pure (.error e)).andThen next = .pure (.error e) := rfl

instance : MonadBackoff Procedure where
  jitter := perform .jitter
  pause ns := perform (.sleep ns)
  log event := perform (.log event)
  crash := .stop .crashed

/-! ### Running -/

/-- Runs a procedure to its end against surroundings that answer every effect at once. -/
def run {σ : Type} (answer : (effect : Effect) → σ → effect.Reply × σ) :
    Procedure α → σ → Except Halt α × σ
  | .pure result, state => (.ok result, state)
  | .stop halt, state => (.error halt, state)
  | .step effect next, state =>
    let (reply, state) := answer effect state
    (next reply).run answer state

theorem run_bind {σ : Type} (answer : (effect : Effect) → σ → effect.Reply × σ)
    (procedure : Procedure α) (next : α → Procedure β) (state : σ) :
    (procedure.bind next).run answer state =
      match procedure.run answer state with
      | (.ok result, state) => (next result).run answer state
      | (.error halt, state) => (.error halt, state) := by
  induction procedure generalizing state with
  | pure result => rfl
  | stop halt => rfl
  | step effect rest ih => simp [run, ih]

end Procedure

end WebhookTrust
