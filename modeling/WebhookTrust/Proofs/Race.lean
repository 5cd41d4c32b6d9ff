import Mathlib.Logic.Function.Basic
import Mathlib.Logic.Relation
import WebhookTrust.Proofs.Scene

/-!
# Racing rotators

Any number of rotators of one configuration check the same Secret, one effect at a time and in any
order. The store creates a Secret only if there is none, replaces one only on the basis of its
current version, and gives every Secret that it accepts a version of its own. It may refuse any
call, and the reply to a write may be lost.

The model is a step relation: in a step one rotator has its next effect, and the store gives one of
the answers that it may give (`Race.answers`). Reads are answered with what is there; the outcome of
a write is a choice (`Race.answersWrite`): it is accepted if the store can accept it, or refused,
and of one that was accepted the reply may be lost. The clock, the keys and everything else are
answered from outside, so they are choices as well.

A race keeps account of the writes that were accepted: who made them, and with which keys, drawn
since the writer last read the Secret. The account is for the theorems alone, since no answer
depends on it.

Here are the definitions. That each rotator goes on as in a contract, whatever the others do, is
shown in `WebhookTrust.Proofs.Interference`, and who wins in `WebhookTrust.Proofs.Racing`. A pass
does not take part in a race; for passes see `WebhookTrust.Proofs.Traffic`.
-/

namespace WebhookTrust

/-- A rotator in a race: what it still has to do, and the keys that it was given since it last read
the Secret. -/
structure Racer where
  rest : Procedure (Except Error RotationOutcome)
  drawn : List (Except KeyFault Rsa.PrivateKey)

/-- A write that was accepted. -/
structure AcceptedWrite (ι : Type) where
  writer : ι
  drawn : List (Except KeyFault Rsa.PrivateKey)
  secret : Secret

/-- A race: the Secret, the versions that any Secret had, the accepted writes, the last one first,
and the rotators. -/
structure Race (ι : Type) where
  stored : Option Secret
  versions : List (Option String)
  accepted : List (AcceptedWrite ι)
  racer : ι → Racer

namespace Race

variable {ι : Type} [DecidableEq ι]

/-! ### Steps -/

/-- The race with one of the rotators changed. -/
def setRacer (race : Race ι) (i : ι) (racer : Racer) : Race ι :=
  { race with racer := Function.update race.racer i racer }

/-- The race after a rotator has read the Secret. -/
def afterRead (race : Race ι) (i : ι) : Race ι :=
  race.setRacer i { race.racer i with drawn := [] }

/-- The race after a rotator was given a key, or was not. -/
def afterKey (race : Race ι) (i : ι) (newKey : Except KeyFault Rsa.PrivateKey) : Race ι :=
  race.setRacer i { race.racer i with drawn := (race.racer i).drawn ++ [newKey] }

/-- The race after a write was accepted. -/
def afterWrite (race : Race ι) (i : ι) (secret stored : Secret) : Race ι :=
  { race with
    stored := some stored
    versions := stored.metadata.resourceVersion :: race.versions
    accepted := ⟨i, (race.racer i).drawn, secret⟩ :: race.accepted }

/-- The race in which a rotator has something else to do. -/
def goOn (race : Race ι) (i : ι) (rest : Procedure (Except Error RotationOutcome)) : Race ι :=
  race.setRacer i { race.racer i with rest }

/-- A write is accepted, or refused; if it is accepted, the reply may be lost. -/
def answersWrite (race : Race ι) (i : ι) (secret : Secret) (isCurrent : Prop)
    (reply : Except Error Unit) (race' : Race ι) : Prop :=
  (isCurrent ∧ ∃ stored, secret.IsKeptAs stored ∧
    stored.metadata.resourceVersion ∉ race.versions ∧ race' = race.afterWrite i secret stored) ∨
  (∃ e, reply = .error e) ∧ race' = race

/-- How the store answers a rotator's call. -/
def answersCall (key : SecretKey) (race : Race ι) (i : ι) :
    (call : StoreCall) → call.Reply → Race ι → Prop
  | .getSecret wanted, reply, race' => wanted = key ∧
    ((reply = .ok race.stored ∧ race' = race.afterRead i) ∨ (∃ e, reply = .error e) ∧ race' = race)
  | .createSecret secret, reply, race' => secret.key? = some key ∧
    race.answersWrite i secret (race.stored = none) reply race'
  | .replaceSecret secret, reply, race' => secret.key? = some key ∧
    race.answersWrite i secret (∃ current, race.stored = some current ∧
      secret.metadata.resourceVersion = current.metadata.resourceVersion) reply race'
  | .getConsumer _, _, _ | .replaceConsumer .., _, _ => False

/-- How a rotator's effect is answered. -/
def answers (key : SecretKey) (isTime : Instant → Prop)
    (isKey : Except KeyFault Rsa.PrivateKey → Prop) (race : Race ι) (i : ι) :
    (effect : Effect) → effect.Reply → Race ι → Prop
  | .store call, reply, race' => race.answersCall key i call reply race'
  | .now, now, race' => isTime now ∧ race' = race
  | .newKey, newKey, race' => isKey newKey ∧ race' = race.afterKey i newKey
  | effect, _, race' => effect.IsQuiet ∧ race' = race

/-- One rotator has one effect. -/
inductive Step (key : SecretKey) (isTime : Instant → Prop)
    (isKey : Except KeyFault Rsa.PrivateKey → Prop) (race : Race ι) : Race ι → Prop
  | step {race' : Race ι} (i : ι) {effect : Effect}
    {next : effect.Reply → Procedure (Except Error RotationOutcome)} {reply : effect.Reply}
    (hrest : (race.racer i).rest = .step effect next)
    (hanswers : race.answers key isTime isKey i effect reply race') :
    Step key isTime isKey race (race'.goOn i (next reply))

/-- Every rotator is about to make its check. -/
def start (rotator : Rotator) (found : Option Secret) : Race ι where
  stored := found
  versions := found.toList.map (·.metadata.resourceVersion)
  accepted := []
  racer _ := ⟨rotator.refresh, []⟩

/-- A race that can come about. -/
def Reaches (key : SecretKey) (isTime : Instant → Prop)
    (isKey : Except KeyFault Rsa.PrivateKey → Prop) : Race ι → Race ι → Prop :=
  Relation.ReflTransGen (Step key isTime isKey)

end Race

end WebhookTrust
