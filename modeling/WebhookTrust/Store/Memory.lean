import WebhookTrust.Store.Call

/-!
# The store in memory

One list of Secrets and one of consumers. Every write gives the written object a version of its own,
the next natural number. Objects can be seeded without being counted as written, and reads of single
consumers can be made to fail. A call that fails leaves the store as it is
(`MemoryStore.answer_of_error`).

Versions are not compared: a replacement succeeds whenever there is something to replace, also if it
is based on a version that is no longer there. An API server refuses those
(`WebhookTrust.Store.ApiServer`), so the two differ as soon as there are several writers; that they
do not while there is one is shown in `WebhookTrust.Proofs.Stores`.
-/

namespace WebhookTrust

/-- A store in memory. -/
structure MemoryStore where
  secrets : List (SecretKey × Secret)
  consumers : List (Consumer × ConsumerObject)
  /-- The consumers whose reads fail. -/
  failing : List Consumer
  secretWrites : Nat
  consumerWrites : Nat
  resourceVersion : Nat
deriving DecidableEq, Repr, Inhabited

namespace MemoryStore

/-- The store without objects. -/
def empty : MemoryStore := ⟨[], [], [], 0, 0, 0⟩

/-! ### Seeding -/

/-- Puts a Secret under a key, whatever its metadata say. -/
def putSecret (store : MemoryStore) (key : SecretKey) (secret : Secret) : MemoryStore :=
  { store with secrets := Assoc.put key secret store.secrets }

/-- The Secret under a key. -/
def secret? (store : MemoryStore) (key : SecretKey) : Option Secret :=
  Assoc.get? key store.secrets

/-- Puts an object under a consumer. -/
def putConsumer (store : MemoryStore) (consumer : Consumer) (object : ConsumerObject) :
    MemoryStore :=
  { store with consumers := Assoc.put consumer object store.consumers }

/-- The object of a consumer. -/
def consumer? (store : MemoryStore) (consumer : Consumer) : Option ConsumerObject :=
  Assoc.get? consumer store.consumers

/-- Makes the reads of a consumer fail. -/
def failReads (store : MemoryStore) (consumer : Consumer) : MemoryStore :=
  { store with failing := consumer :: store.failing }

/-- Makes no reads fail any more. -/
def clearFailures (store : MemoryStore) : MemoryStore := { store with failing := [] }

/-! ### Writing -/

/-- The text of the version of the next write. -/
def nextVersion (store : MemoryStore) : String := Nat.repr (store.resourceVersion + 1)

/-- Writes a Secret under a key, as a new version. -/
def writeSecret (store : MemoryStore) (key : SecretKey) (secret : Secret) : MemoryStore :=
  let metadata := { secret.metadata with resourceVersion := some store.nextVersion }
  { store.putSecret key { secret with metadata } with
    secretWrites := store.secretWrites + 1
    resourceVersion := store.resourceVersion + 1 }

/-- Writes an object under a consumer, as a new version. -/
def writeConsumer (store : MemoryStore) (consumer : Consumer) (object : ConsumerObject) :
    MemoryStore :=
  let metadata := { object.metadata with resourceVersion := some store.nextVersion }
  { store.putConsumer consumer { object with metadata } with
    consumerWrites := store.consumerWrites + 1
    resourceVersion := store.resourceVersion + 1 }

/-! ### Calls -/

/-- The error of a cause. -/
def fault {α : Type} (cause : InternalCause) : Except Error α := .error (.internal cause)

/-- Answers a call. A Secret is written under the place that it says it lives in; it has to be there
to be replaced, and must not be there to be created. -/
def answer (store : MemoryStore) : (call : StoreCall) → call.Reply × MemoryStore
  | .getSecret key => (.ok (store.secret? key), store)
  | .createSecret secret =>
    match secret.key? with
    | none => (fault .unplacedSecret, store)
    | some key =>
      if (store.secret? key).isSome then (fault (.secretExists key), store)
      else (.ok (), store.writeSecret key secret)
  | .replaceSecret secret =>
    match secret.key? with
    | none => (fault .unplacedSecret, store)
    | some key =>
      if (store.secret? key).isSome then (.ok (), store.writeSecret key secret)
      else (fault (.secretNotFound key), store)
  | .getConsumer consumer =>
    if consumer ∈ store.failing then (fault (.readFailure consumer), store)
    else (.ok (store.consumer? consumer), store)
  | .replaceConsumer consumer object =>
    if (store.consumer? consumer).isSome then (.ok (), store.writeConsumer consumer object)
    else (fault (.consumerNotFound consumer), store)

/-! ### What it holds and answers -/

theorem secret?_writeSecret (store : MemoryStore) (key other : SecretKey) (secret : Secret) :
    (store.writeSecret key secret).secret? other =
      if other = key then some { secret with
        metadata := { secret.metadata with resourceVersion := some store.nextVersion } }
      else store.secret? other := Assoc.get?_put key other _ _

theorem consumer?_writeConsumer (store : MemoryStore) (consumer other : Consumer)
    (object : ConsumerObject) : (store.writeConsumer consumer object).consumer? other =
      if other = consumer then some { object with
        metadata := { object.metadata with resourceVersion := some store.nextVersion } }
      else store.consumer? other := Assoc.get?_put consumer other _ _

section Answers

variable {store : MemoryStore} {key : SecretKey} {secret : Secret} {consumer : Consumer}

theorem answer_createSecret_of_absent (hkey : secret.key? = some key)
    (habsent : store.secret? key = none) :
    store.answer (.createSecret secret) = (.ok (), store.writeSecret key secret) := by
  simp [answer, hkey, habsent]

theorem answer_replaceSecret_of_present (hkey : secret.key? = some key)
    (hpresent : (store.secret? key).isSome) :
    store.answer (.replaceSecret secret) = (.ok (), store.writeSecret key secret) := by
  simp [answer, hkey, hpresent]

theorem answer_getConsumer_of_notMem (hreads : consumer ∉ store.failing) :
    store.answer (.getConsumer consumer) = (.ok (store.consumer? consumer), store) := by
  rw [answer, if_neg hreads]

theorem answer_replaceConsumer_of_present (object : ConsumerObject)
    (hpresent : (store.consumer? consumer).isSome) :
    store.answer (.replaceConsumer consumer object) =
      (.ok (), store.writeConsumer consumer object) := by
  rw [answer, if_pos hpresent]

/-- A Secret is created only where there is none; or else nothing is changed. -/
theorem answer_createSecret_cases (store : MemoryStore) (secret : Secret) :
    (∃ e, store.answer (.createSecret secret) = (.error e, store)) ∨
      ∃ key, secret.key? = some key ∧ store.secret? key = none ∧
        store.answer (.createSecret secret) = (.ok (), store.writeSecret key secret) := by
  cases hkey : secret.key? with
  | none => exact .inl ⟨.internal .unplacedSecret, by simp [answer, hkey, fault]⟩
  | some key =>
    cases hfound : store.secret? key with
    | none => exact .inr ⟨key, rfl, hfound, answer_createSecret_of_absent hkey hfound⟩
    | some found =>
      exact .inl ⟨.internal (.secretExists key), by simp [answer, hkey, hfound, fault]⟩

/-- A Secret is replaced only where there is one; or else nothing is changed. -/
theorem answer_replaceSecret_cases (store : MemoryStore) (secret : Secret) :
    (∃ e, store.answer (.replaceSecret secret) = (.error e, store)) ∨
      ∃ key, secret.key? = some key ∧ (store.secret? key).isSome ∧
        store.answer (.replaceSecret secret) = (.ok (), store.writeSecret key secret) := by
  cases hkey : secret.key? with
  | none => exact .inl ⟨.internal .unplacedSecret, by simp [answer, hkey, fault]⟩
  | some key =>
    cases hpresent : (store.secret? key).isSome with
    | true => exact .inr ⟨key, rfl, hpresent, answer_replaceSecret_of_present hkey hpresent⟩
    | false =>
      exact .inl ⟨.internal (.secretNotFound key), by simp [answer, hkey, hpresent, fault]⟩

/-- A read changes nothing, whether it fails or not. -/
theorem answer_getConsumer_cases (store : MemoryStore) (consumer : Consumer) :
    (∃ e, store.answer (.getConsumer consumer) = (.error e, store)) ∨
      store.answer (.getConsumer consumer) = (.ok (store.consumer? consumer), store) := by
  by_cases hfails : consumer ∈ store.failing
  · exact .inl ⟨.internal (.readFailure consumer), by rw [answer, if_pos hfails, fault]⟩
  · exact .inr (answer_getConsumer_of_notMem hfails)

/-- A consumer is replaced only where there is one; or else nothing is changed. -/
theorem answer_replaceConsumer_cases (store : MemoryStore) (consumer : Consumer)
    (object : ConsumerObject) :
    (∃ e, store.answer (.replaceConsumer consumer object) = (.error e, store)) ∨
      (store.consumer? consumer).isSome ∧ store.answer (.replaceConsumer consumer object) =
        (.ok (), store.writeConsumer consumer object) := by
  by_cases hpresent : (store.consumer? consumer).isSome
  · exact .inr ⟨hpresent, answer_replaceConsumer_of_present object hpresent⟩
  · exact .inl ⟨.internal (.consumerNotFound consumer), by rw [answer, if_neg hpresent, fault]⟩

/-- **The store is changed by writing a Secret where it lives or a consumer by its name**, and by
nothing else. -/
theorem answer_cases (store : MemoryStore) (call : StoreCall) :
    (store.answer call).2 = store ∨
    (∃ key secret, (call = .createSecret secret ∨ call = .replaceSecret secret) ∧
      secret.key? = some key ∧ (store.answer call).2 = store.writeSecret key secret) ∨
    ∃ consumer object, call = .replaceConsumer consumer object ∧
      (store.answer call).2 = store.writeConsumer consumer object := by
  cases call with
  | getSecret key => exact .inl rfl
  | createSecret secret =>
    rcases store.answer_createSecret_cases secret with ⟨e, h⟩ | ⟨key, hkey, -, h⟩
    · exact .inl (congrArg Prod.snd h)
    · exact .inr (.inl ⟨key, secret, .inl rfl, hkey, congrArg Prod.snd h⟩)
  | replaceSecret secret =>
    rcases store.answer_replaceSecret_cases secret with ⟨e, h⟩ | ⟨key, hkey, -, h⟩
    · exact .inl (congrArg Prod.snd h)
    · exact .inr (.inl ⟨key, secret, .inr rfl, hkey, congrArg Prod.snd h⟩)
  | getConsumer consumer =>
    rcases store.answer_getConsumer_cases consumer with ⟨e, h⟩ | h <;>
      exact .inl (congrArg Prod.snd h)
  | replaceConsumer consumer object =>
    rcases store.answer_replaceConsumer_cases consumer object with ⟨e, h⟩ | ⟨-, h⟩
    · exact .inl (congrArg Prod.snd h)
    · exact .inr (.inr ⟨consumer, object, rfl, congrArg Prod.snd h⟩)

/-- A call that fails leaves the store as it is. -/
theorem answer_of_error (store : MemoryStore) {call : StoreCall} {e : Error}
    (h : (store.answer call).1 = .error e) : (store.answer call).2 = store := by
  cases call with
  | getSecret key => rfl
  | createSecret secret =>
    rcases store.answer_createSecret_cases secret with ⟨e, heq⟩ | ⟨key, -, -, heq⟩
    · rw [heq]
    · simp [heq] at h
  | replaceSecret secret =>
    rcases store.answer_replaceSecret_cases secret with ⟨e, heq⟩ | ⟨key, -, -, heq⟩
    · rw [heq]
    · simp [heq] at h
  | getConsumer consumer =>
    rcases store.answer_getConsumer_cases consumer with ⟨e, heq⟩ | heq <;> rw [heq]
  | replaceConsumer consumer object =>
    rcases store.answer_replaceConsumer_cases consumer object with ⟨e, heq⟩ | ⟨-, heq⟩
    · rw [heq]
    · simp [heq] at h

end Answers

end MemoryStore

end WebhookTrust
