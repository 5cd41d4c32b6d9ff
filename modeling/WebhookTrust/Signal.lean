import WebhookTrust.Assoc

/-!
# Signals

A signal starts unfired, is fired once, and stays fired. It wraps a cancellation token: to fire it
is to cancel the token, and to wait for it is to wait for the token. What the signal adds is that it
tells which call was the one that fired it.

Signals are reached through handles, and handles can be cloned and dropped while tasks wait. A new
handle has a token of its own, and a cloned one shares that of the handle it was cloned from, so
handles fall into families, one for each token. A token outlives the handles, because the tasks that
wait for it hold it too.
-/

namespace WebhookTrust

/-! ### Tokens -/

/-- A cancellation token. A token and its clones have the same number. -/
structure Token where
  number : Nat
deriving DecidableEq, Repr, Inhabited

/-- All tokens: how many were made, and those that were cancelled. Tokens are numbered in the order
in which they were made. -/
structure Tokens where
  made : Nat
  cancelled : List Token
deriving DecidableEq, Repr, Inhabited

/-- What a task waits for: that a token is cancelled. -/
structure Cancellation where
  token : Token
deriving DecidableEq, Repr, Inhabited

namespace Tokens

/-- No tokens at all. -/
def empty : Tokens := ⟨0, []⟩

/-- Makes a token that nobody shares yet. -/
def new (tokens : Tokens) : Token × Tokens :=
  (⟨tokens.made⟩, { tokens with made := tokens.made + 1 })

/-- Was the token cancelled? -/
def isCancelled (tokens : Tokens) (token : Token) : Bool := token ∈ tokens.cancelled

/-- Cancels a token. -/
def cancel (tokens : Tokens) (token : Token) : Tokens :=
  { tokens with cancelled := token :: tokens.cancelled }

/-- Is there nothing more to wait for? -/
def isOver (tokens : Tokens) (cancellation : Cancellation) : Bool :=
  tokens.isCancelled cancellation.token

end Tokens

/-- What a wait for the token waits for. -/
def Token.cancellation (token : Token) : Cancellation := ⟨token⟩

/-! ### Single signals -/

/-- A signal is a token that it wraps. A clone of a signal wraps a clone of the token. -/
structure Signal where
  token : Token
deriving DecidableEq, Repr, Inhabited

namespace Signal

/-- Makes an unfired signal. -/
def new (tokens : Tokens) : Signal × Tokens := (⟨tokens.new.1⟩, tokens.new.2)

/-- Fires the signal, and says whether it was this call that did. -/
def fire (signal : Signal) (tokens : Tokens) : Bool × Tokens :=
  if tokens.isCancelled signal.token then (false, tokens)
  else (true, tokens.cancel signal.token)

/-- Has the signal fired? -/
def isFired (signal : Signal) (tokens : Tokens) : Bool := tokens.isCancelled signal.token

/-- What a wait for the signal waits for. -/
def fired (signal : Signal) : Cancellation := signal.token.cancellation

end Signal

/-! ### Handles and tasks -/

/-- A task that waits, and whether it has ended. -/
structure Waiter where
  awaits : Cancellation
  hasEnded : Bool
deriving DecidableEq, Repr, Inhabited

/-- The tokens, and the signals and the waiting tasks by their names. -/
structure Signals where
  tokens : Tokens
  handles : List (String × Signal)
  waiters : List (String × Waiter)
deriving DecidableEq, Repr, Inhabited

namespace Signals

/-- No handles at all. -/
def empty : Signals := ⟨.empty, [], []⟩

/-- The signal of a handle. -/
def signal? (signals : Signals) (handle : String) : Option Signal :=
  Assoc.get? handle signals.handles

/-- Has the signal of a handle fired? -/
def isFired (signals : Signals) (handle : String) : Bool :=
  (signals.signal? handle).any (·.isFired signals.tokens)

/-- Is a wait for the signal of a handle over at once? -/
def isOver (signals : Signals) (handle : String) : Bool :=
  (signals.signal? handle).any fun signal ↦ signals.tokens.isOver signal.fired

/-- Makes a handle with a signal of its own. -/
def new (signals : Signals) (handle : String) : Signals :=
  let (signal, tokens) := Signal.new signals.tokens
  { signals with tokens, handles := Assoc.put handle signal signals.handles }

/-- Makes a handle that shares the signal of another. -/
def clone (signals : Signals) (handle copy : String) : Signals :=
  match signals.signal? handle with
  | some signal => { signals with handles := Assoc.put copy signal signals.handles }
  | none => signals

/-- Drops a handle, and says whether there was one. -/
def drop (signals : Signals) (handle : String) : Bool × Signals :=
  ((signals.signal? handle).isSome,
    { signals with handles := Assoc.erase handle signals.handles })

/-- Fires the signal of a handle, and says whether it was this call that did. -/
def fire (signals : Signals) (handle : String) : Bool × Signals :=
  match signals.signal? handle with
  | none => (false, signals)
  | some signal =>
    let (first, tokens) := signal.fire signals.tokens
    (first, { signals with tokens })

/-- Starts a task that waits for the signal of a handle. -/
def spawnWaiter (signals : Signals) (handle task : String) : Signals :=
  match signals.signal? handle with
  | some signal =>
    { signals with waiters := Assoc.put task ⟨signal.fired, false⟩ signals.waiters }
  | none => signals

/-- Lets all tasks run: those with nothing more to wait for end. -/
def runTasks (signals : Signals) : Signals :=
  let run := fun waiter : Waiter ↦
    { waiter with hasEnded := waiter.hasEnded || signals.tokens.isOver waiter.awaits }
  { signals with waiters := signals.waiters.map fun (task, waiter) ↦ (task, run waiter) }

/-- Has the task ended? -/
def hasEnded (signals : Signals) (task : String) : Bool :=
  (Assoc.get? task signals.waiters).any (·.hasEnded)

end Signals

end WebhookTrust
