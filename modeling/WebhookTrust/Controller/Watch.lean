import WebhookTrust.Reconciliation
import WebhookTrust.Store.ApiClient

/-!
# Watches

A pass over the consumers is due whenever the Secret or a declared consumer changes. One watch
follows the Secret, and one each kind of consumer that is declared; a watch is narrowed to a name if
there is only one to follow, and else every event is compared with the declarations.

* `Reconciler.watches`: the watches of a reconciler;
* `Reconciler.trigger?`: the mapper, which turns an event on a consumer into the Secret for which a
  pass is due, if the consumer is declared;
* `Reconciler.dispatch`: what is done for a Secret that is due. A pass is made for the Secret of the
  reconciler only.

How events are delivered, and that several of them become one pass, is not the program's own work;
`WebhookTrust.Simulation.Controller` does it for runs.
-/

namespace WebhookTrust

/-- What a watch follows. -/
inductive WatchSubject where
  | secret
  | consumers (kind : ConsumerKind)
deriving DecidableEq, Repr

/-- A watch of a collection. -/
structure Watch where
  subject : WatchSubject
  collection : String
  /-- The only name to follow, if there is just one. -/
  name : Option String
deriving DecidableEq, Repr

namespace Watch

/-- How long a watch stays open, in seconds: less than the server would keep it. -/
def timeout : Nat := 25

/-- Does the watch deliver the events of objects of the name? -/
def admits (watch : Watch) (name : String) : Bool := watch.name.all (· = name)

end Watch

namespace Reconciler

/-! ### The plan -/

/-- The names that are declared for a kind. -/
def namesOf (reconciler : Reconciler) (kind : ConsumerKind) : List String :=
  (reconciler.consumers.filter (·.kind = kind)).map (·.name)

/-- The name that a watch is narrowed to. -/
def onlyName? : List String → Option String
  | [name] => some name
  | _ => none

/-- The watch of the Secret. -/
def secretWatch (reconciler : Reconciler) : Watch :=
  ⟨.secret, ApiClient.secretsPath reconciler.secretKey.nameSpace, some reconciler.secretKey.name⟩

/-- The watch of the consumers of a kind. -/
def consumerWatch (reconciler : Reconciler) (kind : ConsumerKind) : Watch :=
  ⟨.consumers kind, ApiClient.consumersPath kind, onlyName? (reconciler.namesOf kind)⟩

/-- The kinds that are declared, in ascending order. -/
def declaredKinds (reconciler : Reconciler) : List ConsumerKind :=
  ConsumerKind.all.filter fun kind ↦ !(reconciler.namesOf kind).isEmpty

/-- All watches. -/
def watches (reconciler : Reconciler) : List Watch :=
  reconciler.secretWatch :: reconciler.declaredKinds.map reconciler.consumerWatch

/-! ### Events -/

/-- Is an object of a kind declared? -/
def declares (reconciler : Reconciler) (kind : ConsumerKind) (name : String) : Bool :=
  reconciler.consumers.any fun consumer ↦ consumer.kind = kind ∧ consumer.name = name

/-- The Secret for which a pass is due after an event on an object of a kind. -/
def trigger? (reconciler : Reconciler) (kind : ConsumerKind) (metadata : Metadata) :
    Option SecretKey :=
  if reconciler.declares kind metadata.displayName then some reconciler.secretKey else none

/-- The Secret that metadata are about. -/
def subjectOf (metadata : Metadata) : SecretKey :=
  ⟨metadata.nameSpace.getD "", metadata.displayName⟩

/-- Makes a pass if it is due for the Secret of the reconciler, and does nothing for any other. -/
def dispatch (reconciler : Reconciler) (metadata : Metadata) : Procedure (Except Error Unit) :=
  if subjectOf metadata = reconciler.secretKey then reconciler.reconcile else return .ok ()

/-- How long after a failed pass the next one is due, in milliseconds. -/
def retryDelay : Nat := 10 * 1000

end Reconciler

end WebhookTrust
