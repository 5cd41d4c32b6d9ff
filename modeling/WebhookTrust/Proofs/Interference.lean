import Mathlib.Logic.Relation
import WebhookTrust.Proofs.Contract

/-!
# Procedures among others

A procedure is seldom alone: between two of its effects, others may act. Surroundings say what they
may do and how effects are answered, and `Procedure.Comes` says what a procedure may come to in
them: to a rest of itself, in a state of the surroundings. Both are relations, so nothing is said
about who is next; the statements about what may be come to are statements about all ways in which
turns can be taken.

A contract of `WebhookTrust.Proofs.Contract` and surroundings here differ in what a state is. There
it is what the procedure and those around it both know of; here it is everything, most of which the
procedure never learns.

## The theorems, and what each rests on

* `Procedure.Comes.of_bind`: whoever interferes, a composition is either in its first part or went
  on to the second with a result of the first. It is by induction on the steps, and lets a procedure
  be taken apart where others act in between.
* `Procedure.Comes.keeps_of_only`: what holds whoever takes a turn holds wherever a procedure comes
  to. The procedure's own effects are given by their sort, so nothing need be known of it but what
  sort of effects it has.
-/

namespace WebhookTrust

/-- What a procedure is among. -/
structure Surroundings (σ : Type) where
  /-- What may others do between two effects of the procedure? -/
  moves : σ → σ → Prop
  /-- May an effect of the procedure be answered so, and leave that state? -/
  answers : σ → (effect : Effect) → effect.Reply → σ → Prop

variable {σ α β : Type} {around : Surroundings σ} {real now after : σ}

/-- Others act any number of times, and the procedure does not. -/
def Surroundings.Drifts (around : Surroundings σ) : σ → σ → Prop :=
  Relation.ReflTransGen around.moves

namespace Procedure

/-- The procedure, if it is started in a state, may come to that rest of itself in another. -/
inductive Comes (around : Surroundings σ) (procedure : Procedure α) (real : σ) :
    Procedure α → σ → Prop
  | start : Comes around procedure real procedure real
  /-- Others act. -/
  | move {rest : Procedure α} {now after : σ} (h : Comes around procedure real rest now)
    (hmove : around.moves now after) : Comes around procedure real rest after
  /-- An effect is had and answered. -/
  | step {effect : Effect} {next : effect.Reply → Procedure α} {now after : σ}
    {reply : effect.Reply} (h : Comes around procedure real (.step effect next) now)
    (hanswer : around.answers now effect reply after) :
    Comes around procedure real (next reply) after

variable {procedure rest last : Procedure α}

/-! ### Going on -/

/-- What a rest comes to, the procedure comes to. -/
theorem Comes.trans (h : procedure.Comes around real rest now)
    (hrest : rest.Comes around now last after) : procedure.Comes around real last after := by
  induction hrest with
  | start => exact h
  | move _ hmove ih => exact ih.move hmove
  | step _ hanswer ih => exact ih.step hanswer

/-- Others may act at any time. -/
theorem Comes.drift (h : procedure.Comes around real rest now) (hdrift : around.Drifts now after) :
    procedure.Comes around real rest after := by
  induction hdrift with
  | refl => exact h
  | tail _ hmove ih => exact ih.move hmove

theorem comes_of_drifts (h : around.Drifts real after) :
    procedure.Comes around real procedure after :=
  Comes.start.drift h

/-- Where the first part of a composition comes to, the composition comes to, too. -/
theorem Comes.bind {first part : Procedure α} (h : first.Comes around real part after)
    (next : α → Procedure β) : (first.bind next).Comes around real (part.bind next) after := by
  induction h with
  | start => exact .start
  | move _ hmove ih => exact ih.move hmove
  | step _ hanswer ih => exact Comes.step ih hanswer

/-! ### Coming from somewhere -/

/-- A procedure that has ended stays as it is. -/
theorem Comes.of_pure {result : α} (h : (Procedure.pure result).Comes around real rest after) :
    rest = .pure result ∧ around.Drifts real after := by
  induction h with
  | start => exact ⟨rfl, .refl⟩
  | move _ hmove ih => exact ⟨ih.1, ih.2.tail hmove⟩
  | step _ _ ih => cases ih.1

/-- So does one that has ended everything. -/
theorem Comes.of_stop {halt : Halt} (h : (Procedure.stop halt).Comes around real rest after) :
    rest = .stop halt ∧ around.Drifts real after := by
  induction h with
  | start => exact ⟨rfl, .refl⟩
  | move _ hmove ih => exact ⟨ih.1, ih.2.tail hmove⟩
  | step _ _ ih => cases ih.1

/-- A procedure has not had its first effect, or goes on from the reply. -/
theorem Comes.of_step {effect : Effect} {next : effect.Reply → Procedure α}
    (h : (Procedure.step effect next).Comes around real rest after) :
    rest = .step effect next ∧ around.Drifts real after ∨
      ∃ now reply later, around.Drifts real now ∧ around.answers now effect reply later ∧
        (next reply).Comes around later rest after := by
  induction h with
  | start => exact .inl ⟨rfl, .refl⟩
  | move _ hmove ih =>
    rcases ih with ⟨rfl, hdrift⟩ | ⟨now, reply, later, hdrift, hfirst, hcomes⟩
    · exact .inl ⟨rfl, hdrift.tail hmove⟩
    · exact .inr ⟨now, reply, later, hdrift, hfirst, hcomes.move hmove⟩
  | @step _ _ now after reply _ hanswer ih =>
    rcases ih with ⟨hrest, hdrift⟩ | ⟨now, reply, later, hdrift, hfirst, hcomes⟩
    · cases hrest
      exact .inr ⟨now, reply, after, hdrift, hanswer, .start⟩
    · exact .inr ⟨now, reply, later, hdrift, hfirst, hcomes.step hanswer⟩

/-- **A composition is in its first part, or the first part has come to a result from which the
second goes on.** -/
theorem Comes.of_bind {first : Procedure α} {next : α → Procedure β} {rest : Procedure β}
    (h : (first.bind next).Comes around real rest after) :
    (∃ part, first.Comes around real part after ∧ rest = part.bind next) ∨
      ∃ result now, first.Comes around real (.pure result) now ∧
        (next result).Comes around now rest after := by
  induction h with
  | start => exact .inl ⟨first, .start, rfl⟩
  | move _ hmove ih =>
    rcases ih with ⟨part, hpart, rfl⟩ | ⟨result, now, hfirst, hcomes⟩
    · exact .inl ⟨part, hpart.move hmove, rfl⟩
    · exact .inr ⟨result, now, hfirst, hcomes.move hmove⟩
  | @step effect _ now after reply _ hanswer ih =>
    rcases ih with ⟨part, hpart, hrest⟩ | ⟨result, now, hfirst, hcomes⟩
    · -- the effect belongs to the first part, unless that has ended
      cases part with
      | pure result =>
        have hsecond : (next result).Comes around now (next result) now := .start
        rw [pure_bind] at hrest
        rw [← hrest] at hsecond
        exact .inr ⟨result, now, hpart, hrest ▸ hsecond.step hanswer⟩
      | stop halt => cases hrest
      | step effect' part =>
        cases hrest
        exact .inl ⟨part reply, hpart.step hanswer, rfl⟩
    · exact .inr ⟨result, now, hfirst, hcomes.step hanswer⟩

end Procedure

/-- **What others keep, and effects of one sort, a procedure with such effects only keeps among
others.** -/
theorem Procedure.Comes.keeps_of_only {isAllowed : Effect → Prop} (inv : σ → Prop)
    {procedure rest : Procedure α} (h : procedure.Comes around real rest after)
    (honly : procedure.Only isAllowed)
    (hmoves : ∀ {now after}, inv now → around.moves now after → inv after)
    (hanswers : ∀ {now effect reply after}, isAllowed effect → inv now →
      around.answers now effect reply after → inv after)
    (hinv : inv real) : rest.Only isAllowed ∧ inv after := by
  induction h with
  | start => exact ⟨honly, hinv⟩
  | move _ hmove ih => exact ⟨ih.1, hmoves ih.2 hmove⟩
  | step _ hanswer ih => exact ⟨ih.1.2 _, hanswers ih.1.1 ih.2 hanswer⟩

/-- What others keep, they keep in any number of turns. -/
theorem Surroundings.Drifts.keeps (inv : σ → Prop) (h : around.Drifts real after)
    (hmoves : ∀ {now after}, inv now → around.moves now after → inv after) (hinv : inv real) :
    inv after := by
  induction h with
  | refl => exact hinv
  | tail _ hmove ih => exact hmoves ih hmove

end WebhookTrust
