import WebhookTrust.Proofs.Contract
import WebhookTrust.Reconciliation

/-!
# Passes in any surroundings

What a pass does is said here once for all contracts. Whatever the store is taken to be, in memory,
in traffic or one that replies as it likes, a theorem about passes is made from these, with a proof
of what one consumer comes to.

* `Reconciler.ensures_ensure_of`: **a consumer is read, and what follows goes by the reply.** The
  read may fail, or there may be no object; what has to be ensured if there is one is gathered in
  `Reconciler.Handles`.
* `Reconciler.ensures_ensureFrom_of`: **consumers are brought up to date one after the other**, with
  the last error in hand. It is the induction over the consumers; what is handed on is a predicate
  on those that are done, the last error and the state.
* `Reconciler.within_reconcile`: **a pass has at most four effects for each consumer, and three
  more**, whatever it is answered (`Procedure.Within`). So a pass gets to its end as long as it is
  answered.

That a pass reads the Secret and loads the authority before it reads a consumer is seen from its
definition; what comes of it is for the modules that use these theorems.
-/

namespace WebhookTrust

namespace Procedure

variable {α β ε : Type}

/-- Has the procedure at most so many effects, whatever it is answered? -/
def Within : Nat → Procedure α → Prop
  | _, .pure _ | _, .stop _ => True
  | 0, .step .. => False
  | bound + 1, .step _ next => ∀ reply, (next reply).Within bound

/-- More effects may be allowed. -/
theorem Within.mono {procedure : Procedure α} {bound bound' : Nat} (h : procedure.Within bound)
    (hle : bound ≤ bound') : procedure.Within bound' := by
  induction procedure generalizing bound bound' with
  | pure | stop => cases bound' <;> trivial
  | step effect next ih =>
    cases bound with
    | zero => exact h.elim
    | succ bound =>
      obtain ⟨bound', rfl⟩ := Nat.exists_eq_succ_of_ne_zero (Nat.ne_zero_of_lt hle)
      exact fun reply ↦ ih reply (h reply) (Nat.le_of_succ_le_succ hle)

/-- One of them is used up. -/
theorem Within.next {effect : Effect} {next : effect.Reply → Procedure α} {bound : Nat}
    (h : (Procedure.step effect next).Within bound) (reply : effect.Reply) :
    (next reply).Within bound := by
  cases bound with
  | zero => exact h.elim
  | succ bound => exact (h reply).mono (Nat.le_succ bound)

theorem within_pure (bound : Nat) (result : α) : (Procedure.pure result).Within bound := by
  cases bound <;> trivial

/-- One part after the other: the bounds add up. -/
theorem Within.bind {procedure : Procedure α} {next : α → Procedure β} {bound bound' : Nat}
    (h : procedure.Within bound) (hnext : ∀ result, (next result).Within bound') :
    (procedure.bind next).Within (bound + bound') := by
  induction procedure generalizing bound with
  | pure result => exact (hnext result).mono (Nat.le_add_left _ _)
  | stop halt => cases bound + bound' <;> trivial
  | step effect rest ih =>
    cases bound with
    | zero => exact h.elim
    | succ bound =>
      rw [Nat.succ_add]
      exact fun reply ↦ ih reply (h reply)

/-- Also if the second part is left out after an error. -/
theorem Within.andThen {procedure : Procedure (Except ε α)} {next : α → Procedure (Except ε β)}
    {bound bound' : Nat} (h : procedure.Within bound)
    (hnext : ∀ value, (next value).Within bound') :
    (procedure.andThen next).Within (bound + bound') := by
  refine h.bind fun result ↦ ?_
  rcases result with e | value
  · exact within_pure _ _
  · exact hnext value

end Procedure

namespace Reconciler

open Procedure

variable {γ : Type} {contract : Contract γ} {state : γ} {caPem : Bytes}

/-! ### One consumer -/

/-- What has to be ensured when an object that is there is brought up to date: nothing is done if it
is being deleted, nothing but to fail if it cannot take the bundle, and else it is written back. -/
structure Handles (contract : Contract γ) (post : Except Halt (Except Error Unit) → γ → Prop)
    (caPem : Bytes) (consumer : Consumer) (object : ConsumerObject) (state : γ) : Prop where
  deleting : object.metadata.isDeleting = true → post (.ok (.ok ())) state
  malformed : ∀ fault, object.metadata.isDeleting = false →
    (Injection.inject consumer.kind caPem object).2 = .error fault →
    post (.ok (.error (injectionError consumer.kind object fault))) state
  writes : object.metadata.isDeleting = false →
    (Injection.inject consumer.kind caPem object).2 = .ok () →
    contract.permits state
        (.store (.replaceConsumer consumer (Injection.inject consumer.kind caPem object).1)) ∧
      ∀ reply state', contract.answers state
        (.store (.replaceConsumer consumer (Injection.inject consumer.kind caPem object).1))
        reply state' → post (.ok reply) state'

/-- **A consumer is read, and what follows goes by the reply.** -/
theorem ensures_ensure_of {post : Except Halt (Except Error Unit) → γ → Prop} {consumer : Consumer}
    (hidle : contract.IsIdle)
    (hpermits : contract.permits state (.store (.getConsumer consumer)))
    (hfails : ∀ e state',
      contract.answers state (.store (.getConsumer consumer)) (.error e) state' →
      post (.ok (.error e)) state')
    (hmissing : ∀ state',
      contract.answers state (.store (.getConsumer consumer)) (.ok none) state' →
      post (.ok (.ok ())) state')
    (hfound : ∀ object state',
      contract.answers state (.store (.getConsumer consumer)) (.ok (some object)) state' →
      Handles contract post caPem consumer object state') :
    Ensures contract post (ensure caPem consumer) state := by
  refine ⟨hpermits, ?_⟩
  rintro (e | _ | object) state' hreply
  · exact hfails e state' hreply
  · exact ensures_log_bind hidle (hmissing state' hreply)
  · have hhandles := hfound object state' hreply
    show Ensures contract post (if object.metadata.isDeleting = true then _ else
      update consumer caPem object) state'
    cases hdeleting : object.metadata.isDeleting with
    | true =>
      rw [if_pos rfl]
      exact ensures_log_bind hidle (hhandles.deleting hdeleting)
    | false =>
      rw [if_neg Bool.false_ne_true]
      refine ensures_log_bind hidle ?_
      rcases hinject : Injection.inject consumer.kind caPem object with ⟨injected, fault | u⟩
      · exact hhandles.malformed fault hdeleting (by rw [hinject])
      · have hwrites := hhandles.writes hdeleting (by rw [hinject])
        rwa [hinject] at hwrites

/-! ### All consumers -/

/-- The last error, after a consumer more. -/
def lastErrorAfter (lastError : Option Error) : Except Error Unit → Option Error
  | .ok () => lastError
  | .error e => some e

/-- The result of bringing consumers up to date, by the last error. -/
def resultOf (lastError : Option Error) : Except Error Unit := lastError.elim (.ok ()) .error

/-- **Consumers are brought up to date one after the other**: what holds before the first of the
remaining ones and is handed on from each of them to the next, with its error if it failed, holds
after the last of them. -/
theorem ensures_ensureFrom_of (inv : List Consumer → Option Error → γ → Prop)
    (hidle : contract.IsIdle)
    (hstep : ∀ consumer rest lastError state, inv (consumer :: rest) lastError state →
      Ensures contract (fun result state ↦ ∃ reply, result = .ok reply ∧
        inv rest (lastErrorAfter lastError reply) state) (ensure caPem consumer) state)
    {consumers : List Consumer} {lastError : Option Error} (hinv : inv consumers lastError state) :
    Ensures contract (fun result state ↦ ∃ lastError, result = .ok (resultOf lastError) ∧
      inv [] lastError state) (ensureFrom caPem consumers lastError) state := by
  induction consumers generalizing lastError state with
  | nil => cases lastError <;> exact ⟨_, rfl, hinv⟩
  | cons consumer rest ih =>
    rw [ensureFrom, bind_eq, ensures_bind]
    refine (hstep consumer rest lastError state hinv).mono ?_
    rintro _ state' ⟨e | u, rfl, hinv⟩
    · exact ensures_log_bind hidle (ih hinv)
    · exact ih hinv

/-! ### How long it takes -/

/-- A consumer is read, perhaps logged about, and perhaps written. -/
theorem within_ensure (caPem : Bytes) (consumer : Consumer) : (ensure caPem consumer).Within 3 := by
  have hread : (call (.getConsumer consumer)).Within 1 := fun _ ↦ trivial
  show (ensure caPem consumer).Within (1 + 2)
  refine hread.andThen fun found ↦ ?_
  cases found with
  | none => exact fun _ ↦ trivial
  | some object =>
    show Within 2 (if object.metadata.isDeleting = true then _ else update consumer caPem object)
    split
    · exact fun _ ↦ trivial
    · refine fun _ ↦ ?_
      dsimp only
      split
      · trivial
      · exact fun _ ↦ trivial

/-- There is one more effect if a consumer fails, since that is logged. -/
theorem within_ensureFrom (caPem : Bytes) (consumers : List Consumer) (lastError : Option Error) :
    (ensureFrom caPem consumers lastError).Within (4 * consumers.length) := by
  induction consumers generalizing lastError with
  | nil => cases lastError <;> trivial
  | cons consumer rest ih =>
    have hrest : (ensureFrom caPem (consumer :: rest) lastError).Within
        (3 + (4 * rest.length + 1)) := by
      refine (within_ensure caPem consumer).bind fun result ↦ ?_
      rcases result with e | u
      · exact fun _ ↦ ih (some e)
      · exact (ih lastError).mono (Nat.le_succ _)
    exact hrest.mono (by rw [List.length_cons]; omega)

/-- The most effects that a pass has. -/
def effectBound (reconciler : Reconciler) : Nat := 4 * reconciler.consumers.length + 3

/-- **A pass has at most four effects for each consumer, and three more.** -/
theorem within_reconcile (reconciler : Reconciler) :
    reconciler.reconcile.Within reconciler.effectBound := by
  have hread : (call (.getSecret reconciler.secretKey)).Within 1 := fun _ ↦ trivial
  have hpass : reconciler.pass.Within (1 + (4 * reconciler.consumers.length + 1)) := by
    refine hread.andThen fun found ↦ ?_
    cases found with
    | none => exact fun _ ↦ within_pure _ _
    | some secret =>
      show Within _ (reconciler.propagate secret)
      rcases reconciler.propagate_cases secret with ⟨-, _, _, _, heq⟩ | ⟨ca, -, -, heq⟩ <;>
        rw [heq]
      · exact fun _ ↦ within_pure _ _
      · exact (within_ensureFrom _ _ _).andThen fun _ ↦ fun _ ↦ trivial
  have hreconcile : reconciler.reconcile.Within
      (1 + (4 * reconciler.consumers.length + 1) + 1) := hpass.bind fun _ ↦ fun _ ↦ trivial
  exact hreconcile.mono (by rw [effectBound]; omega)

end Reconciler

end WebhookTrust
