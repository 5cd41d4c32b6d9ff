import WebhookTrust.Proofs.Footprint
import WebhookTrust.Proofs.Places
import WebhookTrust.Proofs.Versions

/-!
# Versions are numbers of writes

The store in memory has one number for all versions, which goes up in the same step as one of two
counts of writes. So after any history of operations (`MemoryStore.after`) it is their sum, and the
versions that were ever assigned (`MemoryStore.Assigned`) are no larger. Operations are the calls of
procedures, and what a test may do beside them: put objects there, look at them, and let reads fail.

## The theorems, and what each rests on

* `MemoryStore.Operation.succeeds_iff`: **an operation succeeds exactly if things are as it needs
  them** (`MemoryStore.Operation.IsApplicable`), so what is said of those that succeed is said of
  many.
* `MemoryStore.Operation.exists_records`: **a write that succeeds puts its object in its place as
  the next version**, and everything else stays. It goes by the calls that write, which come down to
  two (`MemoryStore.records_writeSecret`, `MemoryStore.records_writeConsumer`).
* `MemoryStore.Operation.counts_perform`: **nothing else counts.**
* `MemoryStore.Assigned.le`: **no number beyond that of versions was ever assigned**, since no
  operation takes a version back (`MemoryStore.resourceVersion_after_le`). So the next one is new.
* `MemoryStore.isOrderly_perform`: all of it, for every operation after every history; the invariant
  of histories is `MemoryStore.IsCounted`.

An object that is put there for a test carries whatever version it was given, so versions are unique
among those that were assigned, not among all that can be read.
-/

namespace WebhookTrust

/-! ### Objects -/

/-- An object of a store. -/
inductive StoredObject where
  | secret (secret : Secret)
  | consumer (object : ConsumerObject)

namespace StoredObject

/-- The object with another version, or with none. -/
def withVersion : StoredObject → Option String → StoredObject
  | secret stored, version => .secret (stored.withVersion version)
  | consumer stored, version => .consumer (stored.withVersion version)

/-- The version of the object. -/
def version? : StoredObject → Option String
  | secret stored => stored.metadata.resourceVersion
  | consumer stored => stored.metadata.resourceVersion

theorem version?_withVersion (object : StoredObject) (version : Option String) :
    (object.withVersion version).version? = version := by
  cases object <;> rfl

end StoredObject

namespace MemoryStore

variable {store store' : MemoryStore} {place : Place} {object : StoredObject}

/-- The object in a place. -/
def object? (store : MemoryStore) : Place → Option StoredObject
  | .secret key => (store.secret? key).map .secret
  | .consumer consumer => (store.consumer? consumer).map .consumer

/-- What a call to read the object in a place gives. -/
def read (store : MemoryStore) : Place → Except Error (Option StoredObject)
  | .secret key => (store.answer (.getSecret key)).1.map (Option.map .secret)
  | .consumer consumer => (store.answer (.getConsumer consumer)).1.map (Option.map .consumer)

/-- What is in a place is read, unless reads of it fail. -/
theorem read_eq_ok (h : ∀ consumer ∈ store.failing, place ≠ .consumer consumer) :
    store.read place = .ok (store.object? place) := by
  cases place with
  | secret key => rfl
  | consumer consumer =>
    have hnot : consumer ∉ store.failing := fun hmem ↦ h consumer hmem rfl
    rw [read, answer_getConsumer_of_notMem hnot]
    rfl

/-! ### Operations -/

/-- What can be done with a store in memory. -/
inductive Operation where
  | putSecret (key : SecretKey) (secret : Secret)
  | putConsumer (consumer : Consumer) (object : ConsumerObject)
  | failReads (consumer : Consumer)
  | clearFailures
  /-- Looks at the object in a place, also if reads of it fail. -/
  | look (place : Place)
  | call (storeCall : StoreCall)

namespace Operation

/-- The store after the operation. -/
def perform (store : MemoryStore) : Operation → MemoryStore
  | putSecret key secret => store.putSecret key secret
  | putConsumer consumer object => store.putConsumer consumer object
  | failReads consumer => store.failReads consumer
  | clearFailures => store.clearFailures
  | look _ => store
  | call storeCall => (store.answer storeCall).2

/-- Does the operation give no error? -/
def succeeds (store : MemoryStore) : Operation → Bool
  | call storeCall => (store.answer storeCall).1.isOk
  | _ => true

/-- Is it a call to create or to replace? -/
def IsWrite : Operation → Prop
  | call (.createSecret _) | call (.replaceSecret _) | call (.replaceConsumer ..) => True
  | _ => False

/-- Are things as the operation needs them? A Secret is created where there is none and replaced
where there is one, a consumer is replaced where there is one, and is read unless its reads fail. -/
def IsApplicable (store : MemoryStore) : Operation → Prop
  | call (.createSecret secret) => ∃ key, secret.key? = some key ∧ store.secret? key = none
  | call (.replaceSecret secret) => ∃ key, secret.key? = some key ∧ (store.secret? key).isSome
  | call (.replaceConsumer consumer _) => (store.consumer? consumer).isSome
  | call (.getConsumer consumer) => consumer ∉ store.failing
  | _ => True

/-- A call that is answered with an error does not succeed. -/
theorem not_succeeds_of_error {storeCall : StoreCall} {e : Error}
    (h : store.answer storeCall = (.error e, store')) :
    ¬ succeeds store (call storeCall) = true := by
  rw [succeeds, h]
  exact Bool.false_ne_true

/-- **An operation succeeds exactly if things are as it needs them.** -/
theorem succeeds_iff (store : MemoryStore) (operation : Operation) :
    operation.succeeds store = true ↔ operation.IsApplicable store := by
  cases operation with
  | call storeCall =>
    cases storeCall with
    | createSecret secret =>
      refine ⟨fun hok ↦ ?_, fun ⟨key, hkey, habsent⟩ ↦
        congrArg (·.1.isOk) (answer_createSecret_of_absent hkey habsent)⟩
      rcases store.answer_createSecret_cases secret with ⟨e, hanswer⟩ | ⟨key, hkey, habsent, -⟩
      · exact absurd hok (not_succeeds_of_error hanswer)
      · exact ⟨key, hkey, habsent⟩
    | replaceSecret secret =>
      refine ⟨fun hok ↦ ?_, fun ⟨key, hkey, hpresent⟩ ↦
        congrArg (·.1.isOk) (answer_replaceSecret_of_present hkey hpresent)⟩
      rcases store.answer_replaceSecret_cases secret with ⟨e, hanswer⟩ | ⟨key, hkey, hpresent, -⟩
      · exact absurd hok (not_succeeds_of_error hanswer)
      · exact ⟨key, hkey, hpresent⟩
    | replaceConsumer consumer object =>
      refine ⟨fun hok ↦ ?_, fun hpresent ↦
        congrArg (·.1.isOk) (answer_replaceConsumer_of_present object hpresent)⟩
      rcases store.answer_replaceConsumer_cases consumer object with
        ⟨e, hanswer⟩ | ⟨hpresent, -⟩
      · exact absurd hok (not_succeeds_of_error hanswer)
      · exact hpresent
    | getConsumer consumer =>
      refine ⟨fun hok hfails ↦ ?_, fun hreads ↦
        congrArg (·.1.isOk) (answer_getConsumer_of_notMem hreads)⟩
      have hanswer : store.answer (.getConsumer consumer) =
        (.error (.internal (.readFailure consumer)), store) := if_pos hfails
      exact not_succeeds_of_error hanswer hok
    | getSecret key => exact iff_of_true rfl trivial
  | _ => exact iff_of_true rfl trivial

/-- Is it a call to write the object, which belongs into the place? -/
inductive Writes : Operation → Place → StoredObject → Prop
  | create {secret : Secret} {key : SecretKey} (hkey : secret.key? = some key) :
    Writes (call (.createSecret secret)) (.secret key) (.secret secret)
  | replace {secret : Secret} {key : SecretKey} (hkey : secret.key? = some key) :
    Writes (call (.replaceSecret secret)) (.secret key) (.secret secret)
  | consumer (consumer : Consumer) (object : ConsumerObject) :
    Writes (call (.replaceConsumer consumer object)) (.consumer consumer) (.consumer object)

end Operation

/-- What is counted: writes of Secrets, writes of consumers, and versions. -/
def counts (store : MemoryStore) : Nat × Nat × Nat :=
  (store.secretWrites, store.consumerWrites, store.resourceVersion)

/-- The counts after a write in a place. -/
def countsAfter (store : MemoryStore) : Place → Nat × Nat × Nat
  | .secret _ => (store.secretWrites + 1, store.consumerWrites, store.resourceVersion + 1)
  | .consumer _ => (store.secretWrites, store.consumerWrites + 1, store.resourceVersion + 1)

/-- Between the two states, the object was put into the place as the version of a number, and
nothing else has changed but the counts. -/
structure Records (store : MemoryStore) (place : Place) (object : StoredObject) (number : Nat)
    (store' : MemoryStore) : Prop where
  object? : store'.object? =
    Function.update store.object? place (some (object.withVersion (some number.repr)))
  failing : store'.failing = store.failing
  counts : store'.counts = store.countsAfter place

/-- A Secret is written under the next number. -/
theorem records_writeSecret (store : MemoryStore) (key : SecretKey) (secret : Secret) :
    store.Records (.secret key) (.secret secret) (store.resourceVersion + 1)
      (store.writeSecret key secret) where
  object? := by
    funext other
    rw [Function.update_apply]
    cases other with
    | secret other =>
      simp only [MemoryStore.object?, secret?_writeSecret, Place.secret.injEq]
      split_ifs <;> rfl
    | consumer other => rfl
  failing := rfl
  counts := rfl

/-- So is the object of a consumer. -/
theorem records_writeConsumer (store : MemoryStore) (consumer : Consumer)
    (object : ConsumerObject) :
    store.Records (.consumer consumer) (.consumer object) (store.resourceVersion + 1)
      (store.writeConsumer consumer object) where
  object? := by
    funext other
    rw [Function.update_apply]
    cases other with
    | secret other => rfl
    | consumer other =>
      simp only [MemoryStore.object?, consumer?_writeConsumer, Place.consumer.injEq]
      split_ifs <;> rfl
  failing := rfl
  counts := rfl

namespace Operation

variable {operation : Operation}

theorem Writes.isWrite (h : operation.Writes place object) : operation.IsWrite := by
  cases h <;> trivial

/-- A call to write either fails without a trace, or records its object. -/
theorem records_or_refused (h : operation.IsWrite) (store : MemoryStore) :
    (operation.succeeds store = true ∧ ∃ place object, operation.Writes place object ∧
      store.Records place object (store.resourceVersion + 1) (operation.perform store)) ∨
    operation.succeeds store = false ∧ operation.perform store = store := by
  have hrefused {storeCall : StoreCall} {e : Error}
      (hanswer : store.answer storeCall = (.error e, store)) :
      succeeds store (.call storeCall) = false ∧ perform store (.call storeCall) = store :=
    ⟨congrArg (·.1.isOk) hanswer, congrArg Prod.snd hanswer⟩
  have hwritten (storeCall : StoreCall) (result : storeCall.Result) {after : MemoryStore}
      (hanswer : store.answer storeCall = (.ok result, after)) :
      succeeds store (.call storeCall) = true ∧ perform store (.call storeCall) = after :=
    ⟨congrArg (·.1.isOk) hanswer, congrArg Prod.snd hanswer⟩
  cases operation with
  | call storeCall =>
    cases storeCall with
    | createSecret secret =>
      rcases store.answer_createSecret_cases secret with ⟨e, hanswer⟩ | ⟨key, hkey, -, hanswer⟩
      · exact .inr (hrefused hanswer)
      · obtain ⟨hok, hafter⟩ := hwritten (.createSecret secret) () hanswer
        exact .inl ⟨hok, _, _, .create hkey, hafter ▸ records_writeSecret store key secret⟩
    | replaceSecret secret =>
      rcases store.answer_replaceSecret_cases secret with ⟨e, hanswer⟩ | ⟨key, hkey, -, hanswer⟩
      · exact .inr (hrefused hanswer)
      · obtain ⟨hok, hafter⟩ := hwritten (.replaceSecret secret) () hanswer
        exact .inl ⟨hok, _, _, .replace hkey, hafter ▸ records_writeSecret store key secret⟩
    | replaceConsumer consumer object =>
      rcases store.answer_replaceConsumer_cases consumer object with ⟨e, hanswer⟩ | ⟨-, hanswer⟩
      · exact .inr (hrefused hanswer)
      · obtain ⟨hok, hafter⟩ := hwritten (.replaceConsumer consumer object) () hanswer
        refine .inl ⟨hok, _, _, .consumer consumer object, ?_⟩
        exact hafter ▸ records_writeConsumer store consumer object
    | getSecret key | getConsumer consumer => exact h.elim
  | _ => exact h.elim

/-- **A write that succeeds puts its object in its place as the next version**, and everything else
stays. -/
theorem exists_records (h : operation.IsWrite) (hok : operation.succeeds store = true) :
    ∃ place object, operation.Writes place object ∧
      store.Records place object (store.resourceVersion + 1) (operation.perform store) := by
  rcases records_or_refused h store with ⟨-, hrecords⟩ | ⟨hfails, -⟩
  · exact hrecords
  · exact absurd hok (by rw [hfails]; decide)

/-- **A write that fails leaves everything as it is.** -/
theorem perform_of_refused (h : operation.IsWrite) (hfails : operation.succeeds store = false) :
    operation.perform store = store := by
  rcases records_or_refused h store with ⟨hok, -⟩ | ⟨-, hsame⟩
  · exact absurd hfails (by rw [hok]; decide)
  · exact hsame

/-- What is no call to write does not count. -/
theorem counts_perform_of_not_isWrite (h : ¬ operation.IsWrite) (store : MemoryStore) :
    (operation.perform store).counts = store.counts := by
  cases operation with
  | call storeCall =>
    rcases store.answer_cases storeCall with hsame | ⟨_, _, rfl | rfl, -⟩ | ⟨_, _, rfl, -⟩
    · exact congrArg MemoryStore.counts hsame
    · exact absurd trivial h
    · exact absurd trivial h
    · exact absurd trivial h
  | _ => rfl

/-- **Nothing but a write that succeeds counts.** -/
theorem counts_perform (h : ¬ operation.IsWrite ∨ operation.succeeds store = false) :
    (operation.perform store).counts = store.counts := by
  by_cases hwrite : operation.IsWrite
  · rw [perform_of_refused hwrite (h.resolve_left (not_not_intro hwrite))]
  · exact counts_perform_of_not_isWrite hwrite store

/-- An operation adds one version and one to a count of writes, or nothing at all. -/
theorem counts_perform_cases (store : MemoryStore) (operation : Operation) :
    (operation.perform store).counts = store.counts ∨
      ∃ place, (operation.perform store).counts = store.countsAfter place := by
  by_cases hwrite : operation.IsWrite
  · rcases records_or_refused hwrite store with ⟨-, place, _, -, hrecords⟩ | ⟨-, hsame⟩
    · exact .inr ⟨place, hrecords.counts⟩
    · exact .inl (congrArg MemoryStore.counts hsame)
  · exact .inl (counts_perform_of_not_isWrite hwrite store)

end Operation

/-- Is the number of versions that of writes? -/
def IsCounted (store : MemoryStore) : Prop :=
  store.resourceVersion = store.secretWrites + store.consumerWrites

/-- **An operation keeps the number of versions that of writes**, and takes no version back. -/
theorem IsCounted.perform (h : store.IsCounted) (operation : Operation) :
    (operation.perform store).IsCounted ∧
      store.resourceVersion ≤ (operation.perform store).resourceVersion := by
  rw [IsCounted] at h ⊢
  rcases operation.counts_perform_cases store with hcounts | ⟨place | place, hcounts⟩ <;>
    simp only [counts, countsAfter, Prod.mk.injEq] at hcounts <;> omega

/-! ### Histories -/

/-- The store after operations, one after the other, on one without objects. -/
def after (history : List Operation) : MemoryStore :=
  history.foldl (fun store operation ↦ operation.perform store) .empty

theorem after_concat (history : List Operation) (operation : Operation) :
    after (history ++ [operation]) = operation.perform (after history) := by
  rw [after, List.foldl_append]
  rfl

/-- **After any history the number of versions is that of writes.** -/
theorem isCounted_after (history : List Operation) : (after history).IsCounted := by
  induction history using List.reverseRecOn with
  | nil => rfl
  | append_singleton history operation ih =>
    rw [after_concat]
    exact (ih.perform operation).1

/-- No operation takes a version back. -/
theorem resourceVersion_after_le (history later : List Operation) :
    (after history).resourceVersion ≤ (after (history ++ later)).resourceVersion := by
  induction later using List.reverseRecOn with
  | nil => rw [List.append_nil]
  | append_singleton later operation ih =>
    rw [← List.append_assoc, after_concat]
    exact ih.trans ((isCounted_after (history ++ later)).perform operation).2

/-- Was the number assigned as the version of an object that was written? -/
def Assigned (history : List Operation) (number : Nat) : Prop :=
  ∃ earlier operation later place object, history = earlier ++ operation :: later ∧
    operation.Writes place object ∧ operation.succeeds (after earlier) = true ∧
    ((operation.perform (after earlier)).object? place).bind StoredObject.version? =
      some number.repr

/-- The version that a write assigns is the number that it is recorded under. -/
theorem Records.version? {number : Nat} (h : store.Records place object number store') :
    (store'.object? place).bind StoredObject.version? = some number.repr := by
  rw [h.object?, Function.update_self]
  exact object.version?_withVersion (some number.repr)

/-- No operation is a call to write to two places. -/
theorem Operation.Writes.unique {operation : Operation} {place' : Place} {object' : StoredObject}
    (h : operation.Writes place object) (h' : operation.Writes place' object') :
    place = place' ∧ object = object' := by
  cases h <;> cases h'
  case create.create hkey _ hkey' | replace.replace hkey _ hkey' =>
    obtain rfl := Option.some.inj (hkey.symm.trans hkey')
    exact ⟨rfl, rfl⟩
  case consumer.consumer => exact ⟨rfl, rfl⟩

/-- **No number beyond that of versions was ever assigned.** -/
theorem Assigned.le {history : List Operation} {number : Nat} (h : Assigned history number) :
    number ≤ (after history).resourceVersion := by
  obtain ⟨earlier, operation, later, place, object, rfl, hwrites, hok, hversion⟩ := h
  obtain ⟨place', object', hwrites', hrecords⟩ :=
    Operation.exists_records hwrites.isWrite hok
  obtain ⟨rfl, rfl⟩ := hwrites.unique hwrites'
  -- the number can be told from its text, so it is the one that the write counted up to
  have hnumber : number = (after earlier).resourceVersion + 1 :=
    repr_injective (Option.some.inj (hversion.symm.trans hrecords.version?))
  have hassigned : (after (earlier ++ [operation])).resourceVersion = number := by
    have hcounts := hrecords.counts
    rw [after_concat, hnumber]
    cases place <;> exact congrArg (·.2.2) hcounts
  have hle := resourceVersion_after_le (earlier ++ [operation]) later
  rw [List.append_assoc, hassigned] at hle
  exact hle

/-- What an operation after a history does to the store. -/
structure Operation.IsOrderly (history : List Operation) (operation : Operation) : Prop where
  /-- There are as many versions as writes. -/
  counted : (after history).resourceVersion =
    (after history).secretWrites + (after history).consumerWrites
  /-- It succeeds exactly if things are as it needs them. -/
  succeeds_iff : operation.succeeds (after history) = true ↔ operation.IsApplicable (after history)
  /-- A write that succeeds assigns a number beyond all that were assigned before, puts its object
  in its place and leaves the other places alone; what is read then is that object, unless reads of
  it fail. -/
  written (hwrite : operation.IsWrite) (hok : operation.succeeds (after history) = true) :
    ∃ place object number, operation.Writes place object ∧
      (∀ earlier, Assigned history earlier → earlier < number) ∧
      (operation.perform (after history)).object? = Function.update (after history).object? place
        (some (object.withVersion (some number.repr))) ∧
      ((∀ consumer ∈ (after history).failing, place ≠ .consumer consumer) →
        (operation.perform (after history)).read place =
          .ok (some (object.withVersion (some number.repr))))
  /-- Whatever gives an error or is no write leaves the counts and the number of versions. -/
  uncounted (h : ¬ operation.IsWrite ∨ operation.succeeds (after history) = false) :
    (operation.perform (after history)).counts = (after history).counts
  /-- A write that fails leaves everything. -/
  refused (hwrite : operation.IsWrite) (hfails : operation.succeeds (after history) = false) :
    operation.perform (after history) = after history

/-- **Versions are numbered by the writes that succeed**, and nothing else is counted or changed on
the way. -/
theorem isOrderly_perform (history : List Operation) (operation : Operation) :
    operation.IsOrderly history where
  counted := isCounted_after history
  succeeds_iff := Operation.succeeds_iff (after history) operation
  written hwrite hok := by
    obtain ⟨place, object, hwrites, hrecords⟩ := Operation.exists_records hwrite hok
    refine ⟨place, object, _, hwrites, fun earlier h ↦ Nat.lt_succ_of_le h.le, hrecords.object?, ?_⟩
    intro hreads
    rw [read_eq_ok (hrecords.failing ▸ hreads), hrecords.object?, Function.update_self]
  uncounted := Operation.counts_perform
  refused := Operation.perform_of_refused

/-- Of three calls to write one Secret, the second one fails, since the Secret is there already. -/
example : let secret := Secret.new ⟨"webhook-system", "webhook-server-cert"⟩
    (after [.call (.createSecret secret), .call (.createSecret secret),
      .call (.replaceSecret secret)]).counts = (2, 0, 2) := by decide

end MemoryStore

end WebhookTrust
