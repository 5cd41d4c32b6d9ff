import WebhookTrust.Proofs.Passes
import WebhookTrust.Proofs.Paths
import WebhookTrust.Proofs.StoredAuthority
import WebhookTrust.Proofs.Traffic

/-!
# Passes lose no edits

A pass in traffic writes to a consumer only what it read of it, with the bundle of the Secret that
it read. Since the object that it read is the only one with its version, what is replaced is that
object, so that nothing is lost that others have changed (`Update.IsFaithful`); and a pass that came
too late fails.

## The theorems, and what each rests on

* `Reconciler.ensures_reconcile_travelling`: **a pass writes only what it may, and fails if it was
  overtaken.** This is of one pass, whatever it is answered within its contract
  (`Contract.travelling`), by `Reconciler.ensures_ensureFrom_of`.
* `Update.isFaithful_of_mayWrite`: **what a pass may write is faithful**, if it replaces what the
  pass had read. Here it comes in that injecting changes the trust fields of an object and nothing
  else of it (`Injection.agreeExcept_injectData`).
* `Traffic.Inv.step`: **whatever happens keeps the invariant**, which is that every pass keeps its
  contract, and that what it has seen under the current version is current (`Traffic.StoreInv`). An
  object that differs from the one before has a version that nobody has seen; that is all that the
  store has to be trusted with.
* `Traffic.updates_are_faithful`: **no edits are lost, and no bundle comes from nowhere**, by
  induction on how the traffic came about. Every pass gets to its end, since it has only so many
  effects and each can be answered (`Traffic.exists_answers`).

A pass does not try again when it was overtaken: it gives an error, and the next event or check
begins another one. So nothing is said of when a bundle gets to a consumer that others keep writing
to.
-/

namespace WebhookTrust

open Procedure

/-! ### One pass -/

namespace Sight

/-- The object is what the pass last read of the consumer, with the bundle of the Secret that it
read. -/
def MayWrite (sight : Sight) (consumer : Consumer) (object : ConsumerObject) : Prop :=
  ∃ secret caPem seen, sight.secret = some secret ∧ secret.lookup? Secret.caCert = some caPem ∧
    sight.object consumer = some seen ∧
    (Injection.inject consumer.kind caPem seen).2 = .ok () ∧
    object = (Injection.inject consumer.kind caPem seen).1

/-- A pass writes only what it may. -/
def permits (sight : Sight) : Effect → Prop
  | .store (.getSecret _) | .store (.getConsumer _) | .setInjected => True
  | .store (.replaceConsumer consumer object) => sight.MayWrite consumer object
  | .store (.createSecret _) | .store (.replaceSecret _) => False
  | effect => effect.IsQuiet

/-- What a pass may be answered. If it was overtaken, the answer is no success. -/
def answers (sight : Sight) : (effect : Effect) → effect.Reply → Sight → Prop
  | .store (.getSecret _), reply, sight' =>
    (∃ found, reply = .ok found ∧ sight' = sight.afterSecret found) ∨
      (∃ e, reply = .error e) ∧ sight' = sight
  | .store (.getConsumer consumer), reply, sight' =>
    (∃ found, reply = .ok found ∧ sight' = sight.afterObject consumer found) ∨
      (∃ e, reply = .error e) ∧ sight' = sight
  | .store (.replaceConsumer ..), reply, sight' =>
    sight' = sight ∨
      (∃ e, reply = .error e) ∧ ∃ isOvertaken, sight' = { sight with isOvertaken }
  | _, _, sight' => sight' = sight

end Sight

/-- The contract of a pass in traffic. -/
def Contract.travelling : Contract Sight where
  permits := Sight.permits
  answers := Sight.answers

theorem Contract.isQuiet_travelling : travelling.IsQuiet := by
  intro sight effect hquiet
  cases effect <;> first | exact hquiet.elim | exact ⟨trivial, fun _ _ h ↦ h⟩

namespace Reconciler

variable {sight : Sight} {secret : Secret} {caPem : Bytes}

/-- A pass that was overtaken fails. -/
def EndsInTraffic (result : Except Halt (Except Error Unit)) (sight : Sight) : Prop :=
  sight.isOvertaken = true → ∃ e, result = .ok (.error e)

/-- Bringing a consumer up to date, with the Secret in sight: if it makes the pass overtaken, it
fails. -/
theorem ensures_ensure_travelling (consumer : Consumer) (hsecret : sight.secret = some secret)
    (hcert : secret.lookup? Secret.caCert = some caPem) :
    Ensures .travelling (fun result sight' ↦ ∃ reply, result = .ok reply ∧
        sight'.secret = some secret ∧
        (sight'.isOvertaken = true → sight.isOvertaken = true ∨ ∃ e, reply = .error e))
      (ensure caPem consumer) sight := by
  refine ensures_ensure_of Contract.isQuiet_travelling.isIdle trivial ?_ ?_ ?_
  · rintro e sight' (⟨found, hreply, -⟩ | ⟨-, rfl⟩)
    · cases hreply
    · exact ⟨_, rfl, hsecret, .inl⟩
  · rintro sight' (⟨found, -, rfl⟩ | ⟨⟨e, hreply⟩, -⟩)
    · exact ⟨_, rfl, hsecret, .inl⟩
    · cases hreply
  · rintro object sight' (⟨found, hreply, rfl⟩ | ⟨⟨e, hreply⟩, -⟩)
    · obtain rfl := Except.ok.inj hreply
      refine ⟨fun _ ↦ ⟨_, rfl, hsecret, .inl⟩, fun _ _ _ ↦ ⟨_, rfl, hsecret, .inl⟩, fun _ hok ↦ ?_⟩
      refine ⟨⟨secret, caPem, object, hsecret, hcert, Function.update_self _ _ _, hok, rfl⟩, ?_⟩
      rintro reply sight' (rfl | ⟨⟨e, rfl⟩, isOvertaken, rfl⟩)
      · exact ⟨_, rfl, hsecret, .inl⟩
      · exact ⟨_, rfl, hsecret, fun _ ↦ .inr ⟨e, rfl⟩⟩
    · cases hreply

/-- **A pass in traffic writes only what it may, and fails if it was overtaken.** -/
theorem ensures_reconcile_travelling (reconciler : Reconciler) :
    Ensures .travelling EndsInTraffic reconciler.reconcile .nothing := by
  have hidle := Contract.isQuiet_travelling.isIdle
  rw [reconcile, bind_eq, ensures_bind]
  -- the count at the end is quiet
  suffices h : Ensures .travelling EndsInTraffic reconciler.pass .nothing by
    refine h.mono ?_
    rintro (halt | reply) sight hends
    · exact hends
    · exact ensures_record_bind Contract.isQuiet_travelling hends
  refine ⟨trivial, ?_⟩
  rintro _ sight (⟨_ | secret, rfl, rfl⟩ | ⟨⟨e, rfl⟩, rfl⟩)
  · exact ensures_log_bind hidle fun h ↦ by cases h
  · show Ensures .travelling EndsInTraffic (reconciler.propagate secret) _
    rcases reconciler.propagate_cases secret with ⟨-, _, _, _, heq⟩ | ⟨ca, -, hload, heq⟩ <;>
      rw [heq]
    · exact ensures_log_bind hidle fun h ↦ by cases h
    · rw [ensures_andThen]
      -- the Secret stays in sight, and who was overtaken has an error
      let inv (_ : List Consumer) (lastError : Option Error) (sight : Sight) : Prop :=
        sight.secret = some secret ∧ (sight.isOvertaken = true → lastError.isSome)
      refine (ensures_ensureFrom_of inv hidle ?_ ⟨rfl, fun h ↦ by cases h⟩).mono ?_
      · rintro consumer rest lastError sight ⟨hsecret, hlast⟩
        refine (ensures_ensure_travelling consumer hsecret
          (Secret.authority_eq_ok.1 hload).1).mono ?_
        rintro _ sight' ⟨reply, rfl, hsecret', hovertaken⟩
        refine ⟨reply, rfl, hsecret', fun h ↦ ?_⟩
        rcases reply with e | u
        · rfl
        · exact hlast ((hovertaken h).resolve_right (by simp))
      · rintro _ sight ⟨_ | e, rfl, -, hlast⟩
        · refine ⟨trivial, ?_⟩
          rintro _ sight' rfl h
          cases hlast h
        · exact fun _ ↦ ⟨e, rfl⟩
  · exact fun h ↦ by cases h

end Reconciler

/-! ### Replacements -/

variable {ι : Type}

/-- What a replacement has to be: the writer had read what it replaced, and changed nothing in it
but the trust fields and client configurations that it made to hold them; the store changed the
version; and the trust fields hold the bundle of the Secret that the writer had read. -/
structure Update.IsFaithful (update : Update ι) : Prop where
  current : update.sight.object update.consumer = some update.before
  types : update.stored.types = update.before.types
  metadata : update.stored.metadata = { update.before.metadata with
    resourceVersion := update.stored.metadata.resourceVersion }
  data : Json.AgreeExcept
    (Injection.MayChange (Injection.trustPaths update.consumer.kind update.before.data)
      (some update.before.data)) (some update.before.data) (some update.stored.data)
  bundle : ∃ secret caPem, update.sight.secret = some secret ∧
    secret.lookup? Secret.caCert = some caPem ∧
    ∀ path ∈ Injection.trustPaths update.consumer.kind update.before.data,
      update.stored.data.at? path = some (Injection.bundleOf caPem)

/-- **What a pass may write is faithful**, if it replaces what the pass had read. -/
theorem Update.isFaithful_of_mayWrite {i : ι} {consumer : Consumer} {sight : Sight}
    {object before stored : ConsumerObject} (hmay : sight.MayWrite consumer object)
    (hcurrent : sight.object consumer = some before) (hstored : stored.IsVersionOf object) :
    Update.IsFaithful ⟨i, consumer, sight, before, stored⟩ := by
  obtain ⟨secret, caPem, seen, hsecret, hcert, hseen, hok, rfl⟩ := hmay
  obtain rfl : seen = before := Option.some.inj (hseen.symm.trans hcurrent)
  have hmembers := hstored
  simp only [ConsumerObject.IsVersionOf, ConsumerObject.withVersion, ConsumerObject.mk.injEq,
    Injection.inject] at hmembers
  have hdata : stored.data =
      (Injection.injectData consumer.kind (Injection.bundleOf caPem) seen.data).1 :=
    hstored.data_eq
  refine ⟨hcurrent, hmembers.1, ?_, ?_, secret, caPem, hsecret, hcert, fun path hpath ↦ ?_⟩
  · calc stored.metadata
        = { { stored.metadata with resourceVersion := none } with
            resourceVersion := stored.metadata.resourceVersion } := rfl
      _ = { seen.metadata with resourceVersion := stored.metadata.resourceVersion } := by
          rw [hmembers.2.1]
  · show Json.AgreeExcept _ _ (some stored.data)
    rw [hdata]
    exact Injection.agreeExcept_injectData consumer.kind _ seen.data
  · have hfields := (Injection.spec_injectData hok).2
    rw [Injection.fields_eq, Injection.trustPaths_injectData] at hfields
    show stored.data.at? path = _
    rw [hdata]
    exact hfields _ (List.mem_map_of_mem hpath)

/-! ### All passes -/

namespace Traffic

variable {traffic traffic' : Traffic ι} {i : ι} {consumer : Consumer}

/-- What holds of the store at all times: the versions of what is there and of what was seen are
among those that there were, and what was seen under the current version is there. -/
structure StoreInv (traffic : Traffic ι) : Prop where
  object : ∀ consumer object, traffic.object consumer = some object →
    object.metadata.resourceVersion ∈ traffic.versions consumer
  seen : ∀ i consumer seen, (traffic.passer i).sight.object consumer = some seen →
    seen.metadata.resourceVersion ∈ traffic.versions consumer
  current : ∀ i consumer seen object, (traffic.passer i).sight.object consumer = some seen →
    traffic.object consumer = some object →
    object.metadata.resourceVersion = seen.metadata.resourceVersion → object = seen

/-- Before anything has happened, nothing was seen. -/
theorem storeInv_start (reconciler : ι → Reconciler) (secret : SecretKey → Option Secret)
    (object : Consumer → Option ConsumerObject) : (start reconciler secret object).StoreInv where
  object consumer object hobject := by
    have hobject : (start reconciler secret _).object consumer = some object := hobject
    simp only [start] at hobject ⊢
    simp [hobject]
  seen i consumer seen hseen := by cases hseen
  current i consumer seen object hseen := by cases hseen

/-- A new version of an object is not what anybody has seen. -/
theorem StoreInv.putObject (h : traffic.StoreInv) {stored : ConsumerObject}
    (hmay : traffic.MayStore consumer stored) : (traffic.putObject consumer stored).StoreInv := by
  have hversions (other : Consumer) {version : Option String}
      (hmem : version ∈ traffic.versions other) :
      version ∈ (traffic.putObject consumer stored).versions other := by
    by_cases hother : other = consumer
    · subst hother
      simp [Traffic.putObject, hmem]
    · simpa [Traffic.putObject, hother] using hmem
  refine ⟨fun other object hobject ↦ ?_,
    fun j other seen hseen ↦ hversions other (h.seen j other seen hseen),
    fun j other seen object hseen hobject hversion ↦ ?_⟩
  · by_cases hother : other = consumer
    · subst hother
      obtain rfl : stored = object := by simpa [Traffic.putObject] using hobject
      simp [Traffic.putObject]
    · have hkept : traffic.object other = some object := by
        simpa [Traffic.putObject, hother] using hobject
      exact hversions other (h.object other object hkept)
  · by_cases hother : other = consumer
    · subst hother
      obtain rfl : stored = object := by simpa [Traffic.putObject] using hobject
      rcases hmay with hfresh | hsame
      · exact (hfresh (hversion ▸ h.seen j other seen hseen)).elim
      · exact h.current j other seen stored hseen hsame hversion
    · exact h.current j other seen object hseen
        (by simpa [Traffic.putObject, hother] using hobject) hversion

/-- Nothing is there of what was deleted. -/
theorem StoreInv.deleteObject (h : traffic.StoreInv) :
    (traffic.deleteObject consumer).StoreInv := by
  have hobject {other : Consumer} {object : ConsumerObject}
      (hobject : (traffic.deleteObject consumer).object other = some object) :
      traffic.object other = some object := by
    by_cases hother : other = consumer
    · simp [Traffic.deleteObject, hother] at hobject
    · simpa [Traffic.deleteObject, hother] using hobject
  exact ⟨fun other object h' ↦ h.object other object (hobject h'), h.seen,
    fun j other seen object hseen h' ↦ h.current j other seen object hseen (hobject h')⟩

/-- What an effect of a pass leaves: the pass was answered as its contract says, the store is in
order, replacements are faithful, and the other passes are where they were. -/
structure Allows (traffic traffic' : Traffic ι) (i : ι) (effect : Effect) (reply : effect.Reply) :
    Prop where
  sight : (traffic.passer i).sight.answers effect reply (traffic'.passer i).sight
  store : traffic'.StoreInv
  updates : ∀ update ∈ traffic'.updates, update ∈ traffic.updates ∨ update.IsFaithful
  others : ∀ j, j ≠ i → traffic'.passer j = traffic.passer j

/-- Nothing happens. -/
theorem allows_self {effect : Effect} {reply : effect.Reply} (hinv : traffic.StoreInv)
    (hanswer : (traffic.passer i).sight.answers effect reply (traffic.passer i).sight) :
    traffic.Allows traffic i effect reply :=
  ⟨hanswer, hinv, fun _ h ↦ .inl h, fun _ _ ↦ rfl⟩

variable [DecidableEq ι]

/-- A pass has seen what it had seen, or what is there. -/
theorem StoreInv.setSight (h : traffic.StoreInv) {sight : Sight}
    (hsight : ∀ consumer seen, sight.object consumer = some seen →
      (traffic.passer i).sight.object consumer = some seen ∨
        traffic.object consumer = some seen) : (traffic.setSight i sight).StoreInv := by
  have hcases {j : ι} {other : Consumer} {seen : ConsumerObject}
      (hseen : ((traffic.setSight i sight).passer j).sight.object other = some seen) :
      (traffic.passer j).sight.object other = some seen ∨ traffic.object other = some seen := by
    by_cases hj : j = i
    · subst hj
      exact hsight other seen (by simpa [Traffic.setSight, setPasser] using hseen)
    · exact .inl (by simpa [Traffic.setSight, setPasser, hj] using hseen)
  refine ⟨h.object, fun j other seen hseen ↦ ?_,
    fun j other seen object hseen hobject hversion ↦ ?_⟩
  · rcases hcases hseen with hseen | hthere
    · exact h.seen j other seen hseen
    · exact h.object other seen hthere
  · rcases hcases hseen with hseen | hthere
    · exact h.current j other seen object hseen hobject hversion
    · exact Option.some.inj (hobject.symm.trans hthere)

/-- A pass sees something, and nothing else happens. -/
theorem allows_setSight {effect : Effect} {reply : effect.Reply} {sight : Sight}
    (hanswer : (traffic.passer i).sight.answers effect reply sight)
    (hstore : (traffic.setSight i sight).StoreInv) :
    traffic.Allows (traffic.setSight i sight) i effect reply where
  sight := by simpa using hanswer
  store := hstore
  updates _ h := .inl h
  others j hj := Function.update_of_ne hj _ _

/-- **A replacement is accepted only of what the writer had read.** -/
theorem allows_replace {object : ConsumerObject} {reply : Except Error Unit}
    (hinv : traffic.StoreInv) (hmay : (traffic.passer i).sight.MayWrite consumer object)
    (hanswer : traffic.answersCall i (.replaceConsumer consumer object) reply traffic') :
    traffic.Allows traffic' i (.store (.replaceConsumer consumer object)) reply := by
  rcases hanswer with ⟨before, stored, hbefore, hversion, hstored, hmayStore, rfl⟩ | ⟨he, rfl⟩
  · have hcurrent : (traffic.passer i).sight.object consumer = some before := by
      obtain ⟨_, _, seen, -, -, hseen, -, rfl⟩ := hmay
      rw [hseen, hinv.current i consumer seen before hseen hbefore hversion.symm]
    have hsight : traffic.sightAfter i consumer = (traffic.passer i).sight := by
      simp [sightAfter, Sight.afterReplace, hbefore, hcurrent]
    have hstore : ((traffic.putObject consumer stored).setSight i
        (traffic.sightAfter i consumer)).StoreInv :=
      (hinv.putObject hmayStore).setSight fun other seen hseen ↦ .inl (hsight ▸ hseen)
    refine ⟨.inl ?_, ⟨hstore.object, hstore.seen, hstore.current⟩, fun update hupdate ↦ ?_,
      fun j hj ↦ Function.update_of_ne hj _ _⟩
    · simp [afterUpdate, hsight]
    · rcases List.mem_cons.1 hupdate with rfl | hupdate
      · exact .inr (Update.isFaithful_of_mayWrite hmay hcurrent hstored)
      · exact .inl hupdate
  · exact allows_setSight (.inr ⟨he, _, rfl⟩) (hinv.setSight fun _ _ ↦ .inl)

/-- **What happens when a pass has an effect.** -/
theorem allows_of_answers {effect : Effect} {reply : effect.Reply} (hinv : traffic.StoreInv)
    (hpermits : (traffic.passer i).sight.permits effect)
    (hanswer : traffic.answers i effect reply traffic') :
    traffic.Allows traffic' i effect reply := by
  cases effect with
  | store call =>
    cases call with
    | getSecret key =>
      rcases hanswer with ⟨rfl, rfl⟩ | ⟨he, rfl⟩
      · exact allows_setSight (.inl ⟨_, rfl, rfl⟩) (hinv.setSight fun _ _ ↦ .inl)
      · exact allows_self hinv (.inr ⟨he, rfl⟩)
    | getConsumer consumer =>
      rcases hanswer with ⟨rfl, rfl⟩ | ⟨he, rfl⟩
      · refine allows_setSight (.inl ⟨_, rfl, rfl⟩) (hinv.setSight fun other seen hseen ↦ ?_)
        by_cases hother : other = consumer
        · exact .inr (by simpa [Sight.afterObject, hother] using hseen)
        · exact .inl (by simpa [Sight.afterObject, hother] using hseen)
      · exact allows_self hinv (.inr ⟨he, rfl⟩)
    | replaceConsumer consumer object => exact allows_replace hinv hpermits hanswer
    | createSecret secret | replaceSecret secret => exact hpermits.elim
  | now | newKey | jitter | sleep | log | record | notify | fileExists | isInjected | setInjected
  | fire | await | spawnPollers | startTicker | wait =>
    obtain rfl := hanswer
    exact allows_self hinv rfl

/-- The store can always answer, if only by refusing. -/
theorem exists_answers {effect : Effect} (hpermits : (traffic.passer i).sight.permits effect) :
    ∃ reply traffic', traffic.answers i effect reply traffic' := by
  cases effect with
  | store call =>
    cases call with
    | getSecret | getConsumer | replaceConsumer =>
      exact ⟨.error .unreadableReply, _, .inr ⟨⟨_, rfl⟩, rfl⟩⟩
    | createSecret | replaceSecret => exact hpermits.elim
  | jitter => exact ⟨(0 : Rat), traffic, rfl⟩
  | sleep | log | record | notify | setInjected => exact ⟨(), traffic, rfl⟩
  | now | newKey | fileExists | isInjected | fire | await | spawnPollers | startTicker | wait =>
    exact hpermits.elim

/-- What holds at all times, where a pass has at most so many effects. -/
structure Inv (bound : ι → Nat) (traffic : Traffic ι) : Prop where
  store : traffic.StoreInv
  passers : ∀ i, Ensures .travelling Reconciler.EndsInTraffic (traffic.passer i).rest
    (traffic.passer i).sight
  within : ∀ i, (traffic.passer i).rest.Within (bound i)
  updates : ∀ update ∈ traffic.updates, update.IsFaithful

omit [DecidableEq ι] in
/-- The invariant holds before anything has happened. -/
theorem inv_start (reconciler : ι → Reconciler) (secret : SecretKey → Option Secret)
    (object : Consumer → Option ConsumerObject) :
    (start reconciler secret object).Inv fun i ↦ (reconciler i).effectBound where
  store := storeInv_start reconciler secret object
  passers i := (reconciler i).ensures_reconcile_travelling
  within i := (reconciler i).within_reconcile
  updates update hupdate := by cases hupdate

/-- **Whatever happens keeps the invariant.** -/
theorem Inv.step {bound : ι → Nat} (h : traffic.Inv bound) (hstep : Step traffic traffic') :
    traffic'.Inv bound := by
  cases hstep with
  | secret key secret =>
    exact ⟨⟨h.store.object, h.store.seen, h.store.current⟩, h.passers, h.within, h.updates⟩
  | edit consumer object hfresh =>
    exact ⟨h.store.putObject (.inl hfresh), h.passers, h.within, h.updates⟩
  | delete consumer => exact ⟨h.store.deleteObject, h.passers, h.within, h.updates⟩
  | @pass traffic' i effect next reply hrest hanswer =>
    have hensures := h.passers i
    rw [hrest] at hensures
    have hallows := allows_of_answers h.store hensures.1 hanswer
    -- the pass itself goes on, and the others stay where they are
    have hself : (traffic'.goOn i (next reply)).passer i =
        ⟨next reply, (traffic'.passer i).sight⟩ := passer_goOn_self _ _ _
    have hothers (j : ι) (hj : j ≠ i) :
        (traffic'.goOn i (next reply)).passer j = traffic.passer j := by
      rw [passer_goOn_of_ne hj, hallows.others j hj]
    have hsight (j : ι) :
        ((traffic'.goOn i (next reply)).passer j).sight = (traffic'.passer j).sight := by
      by_cases hj : j = i
      · rw [hj, hself]
      · rw [hothers j hj, hallows.others j hj]
    refine ⟨⟨hallows.store.object, fun j ↦ ?_, fun j ↦ ?_⟩, fun j ↦ ?_, fun j ↦ ?_,
      fun update hupdate ↦ (hallows.updates update hupdate).elim (h.updates update) id⟩
    · rw [hsight]
      exact hallows.store.seen j
    · rw [hsight]
      exact hallows.store.current j
    · by_cases hj : j = i
      · rw [hj, hself]
        exact hensures.2 reply _ hallows.sight
      · rw [hothers j hj]
        exact h.passers j
    · by_cases hj : j = i
      · rw [hj, hself]
        exact (hrest ▸ h.within i).next reply
      · rw [hothers j hj]
        exact h.within j

/-- A pass gets to its end: it has only so many effects to go, and as long as it has not ended, the
next one can be answered. -/
structure GetsThrough (traffic : Traffic ι) (i : ι) (bound : Nat) : Prop where
  within : (traffic.passer i).rest.Within bound
  goesOn : ∀ effect next, (traffic.passer i).rest = .step effect next →
    ∃ reply traffic', traffic.answers i effect reply traffic'

/-- **No edits are lost, and no bundle comes from nowhere.** Whatever the passes, those who write
Secrets and those who change consumers do, and in whatever order: every replacement that is accepted
from a pass is faithful; every pass gets to its end; and one that came to replace an object that was
no longer what it had read gives an error. -/
theorem updates_are_faithful {reconciler : ι → Reconciler} {secret : SecretKey → Option Secret}
    {object : Consumer → Option ConsumerObject}
    (h : Reaches (start reconciler secret object) traffic) :
    (∀ update ∈ traffic.updates, update.IsFaithful) ∧
    ∀ i, traffic.GetsThrough i (reconciler i).effectBound ∧
      ((traffic.passer i).sight.isOvertaken = true →
        (∃ effect next, (traffic.passer i).rest = .step effect next) ∨
          ∃ e, (traffic.passer i).rest = .pure (.error e)) := by
  have hinv : traffic.Inv fun i ↦ (reconciler i).effectBound := by
    induction h with
    | refl => exact inv_start reconciler secret object
    | tail _ hstep ih => exact ih.step hstep
  refine ⟨hinv.updates, fun i ↦ ⟨⟨hinv.within i, fun effect next hrest ↦ ?_⟩, fun hovertaken ↦ ?_⟩⟩
  · have hensures := hinv.passers i
    rw [hrest] at hensures
    exact exists_answers hensures.1
  · have hends := hinv.passers i
    cases hrest : (traffic.passer i).rest with
    | pure result =>
      rw [hrest] at hends
      obtain ⟨e, he⟩ := hends hovertaken
      exact .inr ⟨e, congrArg Procedure.pure (Except.ok.inj he)⟩
    | stop halt =>
      rw [hrest] at hends
      obtain ⟨e, he⟩ := hends hovertaken
      cases he
    | step effect next => exact .inl ⟨effect, next, rfl⟩

/-- Of two passes over the consumer of the sample one replaces its object, faithfully, and the other
is overtaken and gives an error. -/
theorem updates_are_faithful_overtaken :
    let ca := Simulation.sampleRotator.newAuthority ⟨0, 0⟩ Rsa.pierpontKey
    let key := Simulation.sampleRotator.config.secretKey
    let secret := (Secret.new key).withCertificates ca ⟨[], []⟩
    let reconciler : Reconciler := ⟨key, [⟨.validating, "webhook"⟩]⟩
    let object : ConsumerObject := ⟨none, .empty, .object [("webhooks", .array [.object []])]⟩
    ∃ traffic : Traffic Bool,
      (start (fun _ ↦ reconciler) (fun _ ↦ some secret) fun _ ↦ some object).Reaches traffic ∧
      (∃ update, traffic.updates = [update] ∧ update.IsFaithful) ∧
      (traffic.passer true).sight.isOvertaken = true ∧
      ∃ e, (traffic.passer true).rest = .pure (.error e) := by
  intro ca key secret reconciler object
  have hload : secret.authority = .ok ca := Secret.authority_withCertificates
    (Rotator.load_newAuthority Simulation.isRegular_sample.toIsPlain Rsa.isFit_pierpontKey
      (by constructor <;> decide)).1
  have haccepts : Injection.Accepts .validating object.data :=
    ⟨[.object []], rfl, by simp [Injection.HasClient, Assoc.get?]⟩
  have hok : (Injection.inject .validating ca.certPem object).2 = .ok () :=
    Injection.inject_eq_ok.2 haccepts
  have hversion : some "1" ≠ object.metadata.resourceVersion := by decide
  obtain ⟨traffic, hreach, ⟨update, hupdate⟩, hovertaken, hrest⟩ :
      ∃ traffic : Traffic Bool,
        (start (fun _ ↦ reconciler) (fun _ ↦ some secret) fun _ ↦ some object).Reaches traffic ∧
        (∃ update, traffic.updates = [update]) ∧ (traffic.passer true).sight.isOvertaken = true ∧
        (traffic.passer true).rest = .pure (.error .unreadableReply) :=
    exists_overtaken rfl hload rfl (Prod.ext rfl hok) hversion .unreadableReply
  obtain ⟨hfaithful, hends⟩ := updates_are_faithful hreach
  refine ⟨traffic, hreach, ⟨update, hupdate, hfaithful update (by simp [hupdate])⟩, hovertaken, ?_⟩
  exact ((hends true).2 hovertaken).resolve_left (by simp [hrest])

end Traffic

end WebhookTrust
