import Mathlib.Logic.Function.Basic
import Mathlib.Logic.Relation
import WebhookTrust.Controller.Watch
import WebhookTrust.Proofs.Atomicity

/-!
# The footprint in the store

Any number of workers check certificates and bring consumers up to date, one effect at a time and in
any order, on a store in memory that may fail at any call, before or after it has carried it out.
What they write goes to the place that the written object says it lives in, not to the place that
was read; the two are the same as long as every Secret lives where it is stored, and every write
keeps it so.

## The theorems, and what each rests on

* `Duty.ensures_procedure`: **on every duty there are no calls but those of the duty**
  (`Duty.MayCall`), if what is read lives where it was looked for. For a check it rests on
  `Rotator.ensures_refresh_placed`: the object that is written back is the one that was read, with
  other entries.
* `MemoryStore.KeepsBut.answer`: such a call leaves everything else in the store as it is, and
  nothing that was there is gone. This goes by cases on the call.
* `Crew.Inv.afterEffect`, `Crew.inv_of_reaches`: an effect of a worker keeps both, and by induction
  whatever any number of workers do. A reply that was lost is no case of its own, since the call was
  carried out like others (`MemoryStore.MayAnswer`).
* `Crew.keeps_footprint`: **nothing but the Secret and the consumers of the configuration is ever
  touched.** That every Secret lives where it is stored is assumed of the store in the beginning,
  and shown of all later ones.

A worker may be given something else to do at any time, in the middle of what it does, so nothing is
assumed of how work is handed out. That these are things that can come about is shown by
`Crew.Reaches.exists_run`.
-/

namespace WebhookTrust

open Procedure

/-! ### Stores -/

namespace MemoryStore

/-- Is every Secret stored where it says that it lives? -/
def IsPlaced (store : MemoryStore) : Prop :=
  ∀ key secret, store.secret? key = some secret → secret.key? = some key

/-- A call is answered as it should be, or fails before it is carried out, or after that. -/
inductive MayAnswer (store : MemoryStore) (call : StoreCall) : call.Reply → MemoryStore → Prop
  | answered : MayAnswer store call (store.answer call).1 (store.answer call).2
  | refused (e : Error) : MayAnswer store call (.error e) store
  | lost (e : Error) : MayAnswer store call (.error e) (store.answer call).2

/-- What is kept between two states of a store: everything but the Secret and the consumers of a
configuration, and of these that they are there. -/
structure KeepsBut (config : Config) (store store' : MemoryStore) : Prop where
  secret : ∀ key, key ≠ config.secretKey → store'.secret? key = store.secret? key
  consumer : ∀ consumer, consumer ∉ config.consumers →
    store'.consumer? consumer = store.consumer? consumer
  secretStays : ∀ key, (store.secret? key).isSome → (store'.secret? key).isSome
  consumerStays : ∀ consumer, (store.consumer? consumer).isSome →
    (store'.consumer? consumer).isSome

variable {store store' store'' : MemoryStore} {config : Config}

theorem KeepsBut.refl (config : Config) (store : MemoryStore) : store.KeepsBut config store :=
  ⟨fun _ _ ↦ rfl, fun _ _ ↦ rfl, fun _ h ↦ h, fun _ h ↦ h⟩

/-- What is kept twice is kept. -/
theorem KeepsBut.trans (h : store.KeepsBut config store') (h' : store'.KeepsBut config store'') :
    store.KeepsBut config store'' where
  secret key hkey := (h'.secret key hkey).trans (h.secret key hkey)
  consumer consumer hnot := (h'.consumer consumer hnot).trans (h.consumer consumer hnot)
  secretStays key hsome := h'.secretStays key (h.secretStays key hsome)
  consumerStays consumer hsome := h'.consumerStays consumer (h.consumerStays consumer hsome)

/-! ### Calls -/

/-- **Every Secret stays where it lives**, whatever the call. -/
theorem IsPlaced.answer (h : store.IsPlaced) (call : StoreCall) :
    (store.answer call).2.IsPlaced := by
  rcases store.answer_cases call with hsame | ⟨key, secret, -, hkey, hwrite⟩ | ⟨_, _, -, hwrite⟩
  · rwa [hsame]
  · intro other found hfound
    rw [hwrite, secret?_writeSecret] at hfound
    split_ifs at hfound with hother
    · obtain rfl := Option.some.inj hfound
      rw [hother]
      exact hkey
    · exact h other found hfound
  · rw [hwrite]
    exact h

/-- **A call for the Secret and the consumers of a configuration leaves everything else as it is.**
-/
theorem KeepsBut.answer (store : MemoryStore) {call : StoreCall}
    (hsecret : ∀ secret, call = .createSecret secret ∨ call = .replaceSecret secret →
      secret.key? = some config.secretKey)
    (hconsumer : ∀ consumer object, call = .replaceConsumer consumer object →
      consumer ∈ config.consumers) : store.KeepsBut config (store.answer call).2 := by
  rcases store.answer_cases call with hsame | ⟨key, secret, hcall, hkey, hwrite⟩ |
    ⟨consumer, object, hcall, hwrite⟩
  · rw [hsame]
    exact .refl config store
  · obtain rfl : config.secretKey = key := Option.some.inj ((hsecret secret hcall).symm.trans hkey)
    rw [hwrite]
    refine ⟨fun other hne ↦ ?_, fun _ _ ↦ rfl, fun other hsome ↦ ?_, fun _ hsome ↦ hsome⟩
    · rw [secret?_writeSecret, if_neg hne]
    · rw [secret?_writeSecret]
      split_ifs
      · rfl
      · exact hsome
  · have hmem := hconsumer consumer object hcall
    rw [hwrite]
    refine ⟨fun _ _ ↦ rfl, fun other hnot ↦ ?_, fun _ hsome ↦ hsome, fun other hsome ↦ ?_⟩
    · rw [consumer?_writeConsumer, if_neg (by rintro rfl; exact hnot hmem)]
    · rw [consumer?_writeConsumer]
      split_ifs
      · rfl
      · exact hsome

/-- A call that fails may have been carried out. -/
theorem MayAnswer.store_eq {call : StoreCall} {reply : call.Reply}
    (h : store.MayAnswer call reply store') : store' = store ∨ store' = (store.answer call).2 := by
  cases h with
  | answered => exact .inr rfl
  | refused e => exact .inl rfl
  | lost e => exact .inr rfl

end MemoryStore

/-! ### Duties -/

/-- What a worker may be called upon to do. -/
inductive Duty where
  | refresh
  | reconcile
  /-- To do what is due after an event on an object. -/
  | dispatch (metadata : Metadata)

/-- Is the call one that a check may make? It reads the Secret, and writes Secrets that live in the
same place. -/
def Rotator.MayCall (rotator : Rotator) : StoreCall → Prop
  | .getSecret key => key = rotator.config.secretKey
  | .createSecret secret | .replaceSecret secret => secret.key? = some rotator.config.secretKey
  | .getConsumer _ | .replaceConsumer .. => False

/-- Do the metadata name another place than that of a key? -/
def Metadata.IsElsewhere (metadata : Metadata) (key : SecretKey) : Prop :=
  (∃ name, metadata.name = some name ∧ name ≠ key.name) ∨
    ∃ nameSpace, metadata.nameSpace = some nameSpace ∧ nameSpace ≠ key.nameSpace

/-- What lives elsewhere is another subject. -/
theorem Metadata.IsElsewhere.subjectOf_ne {metadata : Metadata} {key : SecretKey}
    (h : metadata.IsElsewhere key) : Reconciler.subjectOf metadata ≠ key := by
  rintro rfl
  rcases h with ⟨name, hname, hne⟩ | ⟨nameSpace, hspace, hne⟩
  · exact hne (by simp [Reconciler.subjectOf, displayName, hname])
  · exact hne (by simp [Reconciler.subjectOf, hspace])

namespace Duty

/-- What is done on the duty. -/
def procedure (rotator : Rotator) : Duty → Procedure Unit
  | refresh => rotator.refresh.bind fun _ ↦ .pure ()
  | reconcile => (Reconciler.ofConfig rotator.config).reconcile.bind fun _ ↦ .pure ()
  | dispatch metadata =>
    ((Reconciler.ofConfig rotator.config).dispatch metadata).bind fun _ ↦ .pure ()

/-- The calls of the duty. Those of a dispatch are for the Secret of the configuration. -/
def MayCall (rotator : Rotator) : Duty → StoreCall → Prop
  | refresh, call => rotator.MayCall call
  | reconcile, call => (Reconciler.ofConfig rotator.config).MayCall call
  | dispatch metadata, call => Reconciler.subjectOf metadata = rotator.config.secretKey ∧
    (Reconciler.ofConfig rotator.config).MayCall call

variable {rotator : Rotator} {duty : Duty} {call : StoreCall} {store : MemoryStore}

/-- **The calls of all duties leave everything else in the store as it is.** -/
theorem MayCall.keepsBut (h : duty.MayCall rotator call) (store : MemoryStore) :
    store.KeepsBut rotator.config (store.answer call).2 := by
  have hpass (h : (Reconciler.ofConfig rotator.config).MayCall call) :
      store.KeepsBut rotator.config (store.answer call).2 := by
    refine .answer store ?_ ?_
    · rintro secret (rfl | rfl) <;> exact h.elim
    · rintro consumer object rfl
      exact h
  cases duty with
  | refresh =>
    refine .answer store ?_ ?_
    · rintro secret (rfl | rfl) <;> exact h
    · rintro consumer object rfl
      exact h.elim
  | reconcile => exact hpass h
  | dispatch metadata => exact hpass h.2

end Duty

/-! ### What is done on duty -/

/-- Does a Secret that is read live where it was looked for? -/
def Effect.IsPlaced : (effect : Effect) → effect.Reply → Prop
  | .store (.getSecret key), reply => ∀ secret, reply = .ok (some secret) → secret.key? = some key
  | _, _ => True

/-- **A store in which every Secret is where it lives gives only such Secrets**, and stays so. -/
theorem MemoryStore.IsPlaced.mayAnswer {store store' : MemoryStore} {call : StoreCall}
    {reply : call.Reply} (h : store.IsPlaced) (hanswer : store.MayAnswer call reply store') :
    (Effect.store call).IsPlaced reply ∧ store'.IsPlaced := by
  refine ⟨?_, ?_⟩
  · cases call with
    | getSecret key =>
      rintro secret rfl
      generalize hreply : (.ok (some secret) : StoreCall.Reply (.getSecret key)) = reply at hanswer
      cases hanswer with
      | answered => exact h key secret (Except.ok.inj hreply).symm
      | refused e => cases hreply
      | lost e => cases hreply
    | createSecret | replaceSecret | getConsumer | replaceConsumer => trivial
  · rcases hanswer.store_eq with rfl | rfl
    · exact h
    · exact h.answer call

/-- Does the effect leave the store alone? -/
def Effect.SparesStore (effect : Effect) : Prop := ∀ call, effect ≠ .store call

/-- Nothing but certain calls is made to the store, in which every Secret is where it lives. -/
def Contract.placed (mayCall : StoreCall → Prop) : Contract Unit where
  permits _ effect := ∀ call, effect = .store call → mayCall call
  answers _ effect reply _ := effect.IsPlaced reply

section Placed

variable {α : Type} {mayCall : StoreCall → Prop} {procedure : Procedure α} {rotator : Rotator}

theorem Contract.ignoresApart_placed : (placed mayCall).IgnoresApart := by
  intro state effect hapart
  refine ⟨?_, fun _ _ _ ↦ rfl⟩
  rintro call rfl
  exact hapart.elim

/-- Procedures with such calls only keep the contract. -/
theorem Contract.ensures_placed (h : procedure.Only fun effect ↦ ∀ call, effect = .store call →
    mayCall call) : Ensures (placed mayCall) (fun _ _ ↦ True) procedure () :=
  (ensures_of_only (fun _ ↦ True) h (fun _ hallowed _ _ ↦ ⟨hallowed, fun _ _ _ ↦ trivial⟩)
    trivial).mono fun _ _ _ ↦ trivial

/-- **A check keeps to its calls**: what it writes lives where it was read. -/
theorem Rotator.ensures_refresh_placed
    (hhook : ∀ outcome, (rotator.hook outcome).Only Effect.SparesStore) :
    Ensures (.placed rotator.MayCall) (fun _ _ ↦ True) rotator.refresh () := by
  have hcontract : (Contract.placed rotator.MayCall).IgnoresApart := Contract.ignoresApart_placed
  have hattempt : Ensures (.placed rotator.MayCall) (fun _ _ ↦ True) rotator.refreshOnce () := by
    refine ensures_refreshOnce_of_read hcontract ?_ (fun _ _ _ ↦ trivial) fun found _ hplaced ↦ ?_
    · rintro _ ⟨⟩
      rfl
    have hbasis : (rotator.basis found).key? = some rotator.config.secretKey := by
      rcases found with _ | secret
      · rfl
      · exact hplaced secret rfl
    refine ensures_checkFrom hcontract trivial (fun _ _ ↦ trivial) fun instant _ ↦ ?_
    refine ensures_rotate hcontract (fun _ ↦ trivial) fun ca leaf _ ↦ ?_
    rcases found with _ | secret
    · refine ⟨?_, fun _ _ _ ↦ trivial⟩
      rintro _ ⟨⟩
      exact hbasis
    · refine ⟨?_, fun _ _ _ ↦ trivial⟩
      rintro _ ⟨⟩
      exact hbasis
  rw [refresh, ensures_andThen]
  refine Backoff.ensures_retry (fun _ ↦ True) hcontract.isIdle ?_ ?_ ?_ trivial
  · intro _ _
    refine hattempt.mono fun result _ _ ↦ ⟨fun _ _ ↦ trivial, fun _ ↦ ?_⟩
    rcases result with halt | (e | outcome)
    · trivial
    · trivial
    · refine Contract.ensures_placed (only_conclude ((hhook outcome).mono ?_))
      exact fun effect hspares call hcall ↦ (hspares call hcall).elim
  · exact fun _ _ _ ↦ trivial
  · exact fun _ _ ↦ trivial

/-- **On every duty there are no calls but those of the duty.** -/
theorem Duty.ensures_procedure (hhook : ∀ outcome, (rotator.hook outcome).Only Effect.SparesStore)
    (duty : Duty) :
    Ensures (.placed (duty.MayCall rotator)) (fun _ _ ↦ True) (duty.procedure rotator) () := by
  have hpass {mayCall : StoreCall → Prop}
      (h : ∀ call, (Reconciler.ofConfig rotator.config).MayCall call → mayCall call) :
      (Reconciler.ofConfig rotator.config).reconcile.Only fun effect ↦ ∀ call,
        effect = .store call → mayCall call := by
    refine (Reconciler.ofConfig rotator.config).only_reconcile.mono fun effect hmay ↦ ?_
    rintro call rfl
    exact h call hmay
  cases duty with
  | refresh =>
    refine (ensures_bind _ _).2 ((Rotator.ensures_refresh_placed hhook).mono ?_)
    rintro (halt | result) _ _ <;> trivial
  | reconcile => exact Contract.ensures_placed ((hpass fun _ h ↦ h).bind fun _ ↦ trivial)
  | dispatch metadata =>
    refine Contract.ensures_placed (Only.bind ?_ fun _ ↦ trivial)
    rw [Reconciler.dispatch]
    split_ifs with hsubject
    · exact hpass fun _ h ↦ ⟨hsubject, h⟩
    · trivial

end Placed

/-! ### Crews -/

/-- A store that may fail at any call. Nothing else touches it. -/
def Contract.faltering : Contract MemoryStore where
  permits _ effect := effect.IsChecking
  answers store effect reply store' :=
    match effect, reply with
    | .store call, reply => store.MayAnswer call reply store'
    | _, _ => store' = store

/-- A crew: the store, what each worker still has to do and on which duty, and the calls that were
made on each duty, the last one first. -/
structure Crew (ι : Type) where
  store : MemoryStore
  worker : ι → Option (Duty × Procedure Unit)
  calls : List (Duty × StoreCall)

namespace Crew

variable {ι : Type} [DecidableEq ι]

/-- The call that an effect is, if it is one. -/
def call? : Effect → Option StoreCall
  | .store call => some call
  | _ => none

/-- The crew in which a worker has something to do. -/
def assign (crew : Crew ι) (i : ι) (duty : Duty) (rest : Procedure Unit) : Crew ι :=
  { crew with worker := Function.update crew.worker i (some (duty, rest)) }

@[simp] theorem worker_assign_self (crew : Crew ι) (i : ι) (duty : Duty) (rest : Procedure Unit) :
    (crew.assign i duty rest).worker i = some (duty, rest) := Function.update_self i _ _

theorem worker_assign_of_ne {i j : ι} (h : j ≠ i) (crew : Crew ι) (duty : Duty)
    (rest : Procedure Unit) : (crew.assign i duty rest).worker j = crew.worker j :=
  Function.update_of_ne h _ _

/-- The crew after an effect of a duty. -/
def afterEffect (crew : Crew ι) (duty : Duty) (effect : Effect) (store : MemoryStore) : Crew ι :=
  { crew with store, calls := ((call? effect).map (duty, ·)).toList ++ crew.calls }

/-- Something happens: a worker begins with a duty, whatever it did before, or has an effect. -/
inductive Step (rotator : Rotator) (crew : Crew ι) : Crew ι → Prop
  | begin (i : ι) (duty : Duty) : Step rotator crew (crew.assign i duty (duty.procedure rotator))
  | act (i : ι) {duty : Duty} {effect : Effect} {next : effect.Reply → Procedure Unit}
    {reply : effect.Reply} {store : MemoryStore}
    (hworker : crew.worker i = some (duty, .step effect next))
    (hanswers : Contract.faltering.answers crew.store effect reply store) :
    Step rotator crew ((crew.afterEffect duty effect store).assign i duty (next reply))

/-- Crews that can come about. -/
def Reaches (rotator : Rotator) : Crew ι → Crew ι → Prop := Relation.ReflTransGen (Step rotator)

/-- The crew of a store, before anybody does anything. -/
def idle (store : MemoryStore) : Crew ι := ⟨store, fun _ ↦ none, []⟩

/-- What holds of a crew from its beginning on. -/
structure Inv (rotator : Rotator) (store : MemoryStore) (crew : Crew ι) : Prop where
  placed : crew.store.IsPlaced
  kept : store.KeepsBut rotator.config crew.store
  calls : ∀ duty call, (duty, call) ∈ crew.calls → duty.MayCall rotator call
  /-- Whatever a worker still does, it keeps to the calls of its duty. -/
  worker : ∀ i duty rest, crew.worker i = some (duty, rest) →
    Ensures (.placed (duty.MayCall rotator)) (fun _ _ ↦ True) rest ()

variable {rotator : Rotator} {store : MemoryStore} {crew crew' : Crew ι}

omit [DecidableEq ι] in
theorem inv_idle (hplaced : store.IsPlaced) : Inv rotator store (idle (ι := ι) store) where
  placed := hplaced
  kept := .refl _ _
  calls := by simp [idle]
  worker := by simp [idle]

/-- A worker may be given anything to do that keeps to its duty. -/
theorem Inv.assign (h : Inv rotator store crew) (i : ι) {duty : Duty} {rest : Procedure Unit}
    (hrest : Ensures (.placed (duty.MayCall rotator)) (fun _ _ ↦ True) rest ()) :
    Inv rotator store (crew.assign i duty rest) where
  placed := h.placed
  kept := h.kept
  calls := h.calls
  worker j duty' rest' hworker := by
    by_cases hj : j = i
    · rw [hj, worker_assign_self] at hworker
      cases hworker
      exact hrest
    · rw [worker_assign_of_ne hj] at hworker
      exact h.worker j duty' rest' hworker

omit [DecidableEq ι] in
/-- **An answer gives only what is placed, and leaves everything else in the store as it is.** -/
theorem Inv.afterEffect (h : Inv rotator store crew) {duty : Duty} {effect : Effect}
    {reply : effect.Reply} {store' : MemoryStore}
    (hmay : ∀ call, effect = .store call → duty.MayCall rotator call)
    (hanswers : Contract.faltering.answers crew.store effect reply store') :
    effect.IsPlaced reply ∧ Inv rotator store (crew.afterEffect duty effect store') := by
  have hspares (hcall : call? effect = none) (hsame : store' = crew.store) :
      Inv rotator store (crew.afterEffect duty effect store') := by
    obtain rfl := hsame
    exact ⟨h.placed, h.kept, by simpa [Crew.afterEffect, hcall] using h.calls, h.worker⟩
  cases effect with
  | store call =>
    have hmay := hmay call rfl
    obtain ⟨hreply, hplaced⟩ := h.placed.mayAnswer hanswers
    refine ⟨hreply, hplaced, h.kept.trans ?_, ?_, h.worker⟩
    · rcases MemoryStore.MayAnswer.store_eq hanswers with rfl | rfl
      · exact .refl _ _
      · exact hmay.keepsBut crew.store
    · intro duty' call' hmem
      rcases List.mem_cons.1 hmem with hnew | hold
      · cases hnew
        exact hmay
      · exact h.calls duty' call' hold
  | _ => exact ⟨trivial, hspares rfl hanswers⟩

/-- Whatever happens keeps it. -/
theorem Inv.step (hhook : ∀ outcome, (rotator.hook outcome).Only Effect.SparesStore)
    (h : Inv rotator store crew) (hstep : Step rotator crew crew') : Inv rotator store crew' := by
  cases hstep with
  | begin i duty => exact h.assign i (duty.ensures_procedure hhook)
  | act i hworker hanswers =>
    obtain ⟨hmay, hnext⟩ := h.worker i _ _ hworker
    obtain ⟨hplaced, hafter⟩ := h.afterEffect hmay hanswers
    exact hafter.assign i (hnext _ () hplaced)

/-! ### What can come about -/

/-- It holds of all that can come about. -/
theorem inv_of_reaches (hhook : ∀ outcome, (rotator.hook outcome).Only Effect.SparesStore)
    (hplaced : store.IsPlaced) (hreaches : Reaches rotator (idle (ι := ι) store) crew) :
    Inv rotator store crew := by
  induction hreaches with
  | refl => exact inv_idle hplaced
  | tail _ hstep ih => exact ih.step hhook hstep

/-- **What a worker does while the others rest can come about**, in all surroundings that answer as
a store that may fail. -/
theorem Reaches.exists_run {σ : Type} {answer : (effect : Effect) → σ → effect.Reply × σ}
    {shows : σ → MemoryStore → Prop} {real : σ} {first : Crew ι} {i : ι} {duty : Duty}
    {rest : Procedure Unit} (h : first.Reaches rotator crew)
    (hkept : Contract.faltering.KeptBy answer shows) (honly : rest.Only Effect.IsChecking)
    (hshows : shows real crew.store) (hworker : crew.worker i = some (duty, rest)) :
    ∃ crew', first.Reaches rotator crew' ∧ shows (rest.run answer real).2 crew'.store := by
  induction rest generalizing real crew with
  | pure u => exact ⟨crew, h, hshows⟩
  | stop halt => exact ⟨crew, h, hshows⟩
  | step effect next ih =>
    obtain ⟨store, hanswers, hshows'⟩ := hkept real crew.store effect hshows honly.1
    exact ih _ (h.tail (.act i hworker hanswers)) (honly.2 _) hshows' (worker_assign_self ..)

end Crew

/-- The world in memory is a store that may fail, if nothing goes on by itself. -/
theorem Simulation.keptBy_faltering (setting : Setting) (site : Site) :
    Contract.faltering.KeptBy (answerMain setting site)
      fun world store ↦ world.store = store ∧ world.tasks = [] := by
  rintro world _ effect ⟨rfl, htasks⟩ hchecking
  have hsame (hapart : effect.IsApart) :
      (answerMain setting site effect world).2.store = world.store ∧
        (answerMain setting site effect world).2.tasks = [] := by
    have hsame := sameStore_answerMain setting site htasks hapart
    exact ⟨hsame.store, hsame.tasks⟩
  cases effect with
  | store call =>
    rcases answerCall_cases world call with ⟨e, faults, hfault, -⟩ | hanswer
    · refine ⟨world.store, ?_, ?_, ?_⟩ <;> simp only [answerMain, World.answer, hfault]
      · exact .refused e
      · exact htasks
    · refine ⟨(world.store.answer call).2, ?_, ?_, ?_⟩ <;>
        simp only [answerMain, World.answer, hanswer]
      · exact .answered
      · exact htasks
  | notify => exact ⟨world.store, rfl, rfl, htasks⟩
  | spawnPollers => exact hchecking.elim
  | _ => exact ⟨world.store, rfl, hsame trivial⟩

namespace Crew

variable {ι : Type} [DecidableEq ι] {rotator : Rotator} {store : MemoryStore} {crew : Crew ι}

/-- **Nothing but the Secret and the consumers of the configuration is ever touched.** Whatever
workers do on duty, in whatever order and however often the store fails, a check calls for the
Secret alone and a pass writes no Secret; every other Secret and consumer is what it was, and
nothing that was there is gone; every Secret is still where it lives; and after an event on an
object that lives elsewhere no call is made. -/
theorem keeps_footprint (hhook : ∀ outcome, (rotator.hook outcome).Only Effect.SparesStore)
    (hplaced : store.IsPlaced) (hreaches : Reaches rotator (idle (ι := ι) store) crew) :
    (∀ duty call, (duty, call) ∈ crew.calls → duty.MayCall rotator call) ∧
    store.KeepsBut rotator.config crew.store ∧ crew.store.IsPlaced ∧
    ∀ metadata call, metadata.IsElsewhere rotator.config.secretKey →
      (.dispatch metadata, call) ∉ crew.calls := by
  have hinv := inv_of_reaches hhook hplaced hreaches
  refine ⟨hinv.calls, hinv.kept, hinv.placed, fun metadata call helsewhere hmem ↦ ?_⟩
  exact helsewhere.subjectOf_ne (hinv.calls _ _ hmem).1

/-- A check after a read that failed, beside a Secret of the same name. -/
theorem keeps_footprint_faulty :
    let elsewhere : SecretKey := ⟨"default", Simulation.sampleRotator.config.secretKey.name⟩
    let world := { Simulation.sampleWorld none with
      store := (Simulation.sampleWorld none).store.putSecret elsewhere (.new elsewhere)
      faults := [⟨"get_secret", 1, .internal (.other "store" "refused")⟩] }
    ∃ after, ((Duty.refresh.procedure Simulation.sampleRotator).run
      (Simulation.answerMain (Simulation.sampleSetting ⟨0, 0⟩) (.rotator 0)) world).2 = after ∧
      after.store.secret? elsewhere = some (.new elsewhere) ∧ after.store.IsPlaced := by
  intro elsewhere world
  have hsilent (outcome : RotationOutcome) :
      (Simulation.sampleRotator.hook outcome).Only Effect.SparesStore := trivial
  have hsecret (key : SecretKey) :
      world.store.secret? key = if elsewhere = key then some (.new elsewhere) else none := rfl
  have hplaced : world.store.IsPlaced := by
    intro key secret hfound
    rw [hsecret] at hfound
    split_ifs at hfound with hkey
    obtain rfl := Option.some.inj hfound
    exact congrArg some hkey
  have honly : (Duty.refresh.procedure Simulation.sampleRotator).Only Effect.IsChecking :=
    (Rotator.only_refresh RotationHook.only_silent).bind fun _ ↦ trivial
  let begun := (idle (ι := Unit) world.store).assign () .refresh
    (Duty.refresh.procedure Simulation.sampleRotator)
  have hbegun : Reaches Simulation.sampleRotator (idle world.store) begun :=
    .single (.begin () .refresh)
  have hworker : begun.worker () =
      some (.refresh, Duty.refresh.procedure Simulation.sampleRotator) := worker_assign_self ..
  have hshows : world.store = begun.store ∧ world.tasks = [] := ⟨rfl, rfl⟩
  obtain ⟨crew, hreaches, hstore, -⟩ := hbegun.exists_run
    (Simulation.keptBy_faltering (Simulation.sampleSetting ⟨0, 0⟩) (.rotator 0)) honly hshows
    hworker
  obtain ⟨-, hkept, hplaced', -⟩ := keeps_footprint hsilent hplaced hreaches
  refine ⟨_, rfl, ?_⟩
  rw [hstore, hkept.secret elsewhere (by decide), hsecret, if_pos rfl]
  exact ⟨rfl, hplaced'⟩

end Crew

end WebhookTrust
