import WebhookTrust.Proofs.Rotation
import WebhookTrust.Simulation.Scheduler

/-!
# A store with one writer

A scene is what can be told of the surroundings from what they were asked: the Secret of a
configuration, the objects of the consumers, the flag of the injection, and how often the Secret was
written. `Contract.sole` is the contract of surroundings in which no call fails and nobody else
writes: what is read is what was written, up to metadata that a store sets by itself
(`Secret.IsKeptAs`).

The contract does not fix a time. The clock may show any time of some sort, each time that it is
looked at, also one before the last. Statements about a single run want less than that, and have it:
what is ensured for the times that the clock of the run did show is true of the run
(`Procedure.Ensures.run_shown`).

## The theorems, and what each rests on

* `MemoryStore.Shows.answer`: the store in memory answers calls that succeed as a store with one
  writer. It rests on what the store does on each call, and on nothing else that runs beside it.
* `Simulation.keptBy_sole`: so the world in memory keeps the contract, as long as no faults are put
  in its way and no tasks go on by themselves.
* `Simulation.keptBy_refusing`: with faults it keeps the contract in which so many calls are
  refused. A fault is used up by the call that it makes fail (`Simulation.answerCall_cases`), so
  there are no more refusals than faults.

The sample at the end is a rotator with one consumer, a setting with one key and a world. It is
there for the theorems to be applied to.
-/

namespace WebhookTrust

/-- What a store keeps of a Secret that it is given. -/
structure Secret.IsKeptAs (written stored : Secret) : Prop where
  entries : stored.entries = written.entries
  key? : stored.key? = written.key?
  isDeleting : stored.metadata.isDeleting = written.metadata.isDeleting

/-- What a store keeps of the object of a consumer. -/
structure ConsumerObject.IsKeptAs (written stored : ConsumerObject) : Prop where
  data : stored.data = written.data
  isDeleting : stored.metadata.isDeleting = written.metadata.isDeleting

/-- What can be told of the surroundings. -/
structure Scene where
  /-- The Secret at the place that the configuration says. -/
  secret : Option Secret
  /-- The objects of the consumers. -/
  object : Consumer → Option ConsumerObject
  isInjected : Bool
  /-- How often the Secret was written. -/
  writes : Nat

namespace Scene

/-! ### The contract -/

/-- The scene after the Secret was written. -/
def withSecret (scene : Scene) (stored : Secret) : Scene :=
  { scene with secret := some stored, writes := scene.writes + 1 }

/-- The scene after the object of a consumer was written. -/
def withObject (scene : Scene) (consumer : Consumer) (stored : ConsumerObject) : Scene :=
  { scene with object := fun other ↦ if other = consumer then some stored else scene.object other }

/-- The calls that succeed. -/
def permitsCall (key : SecretKey) (scene : Scene) : StoreCall → Prop
  | .getSecret wanted => wanted = key
  | .createSecret secret => secret.key? = some key ∧ scene.secret = none
  | .replaceSecret secret => secret.key? = some key ∧ scene.secret.isSome
  | .getConsumer _ => True
  | .replaceConsumer consumer _ => (scene.object consumer).isSome

/-- How they succeed. -/
def answersCall (scene : Scene) : (call : StoreCall) → call.Reply → Scene → Prop
  | .getSecret _, reply, scene' => reply = .ok scene.secret ∧ scene' = scene
  | .createSecret secret, reply, scene' | .replaceSecret secret, reply, scene' =>
    reply = .ok () ∧ ∃ stored, secret.IsKeptAs stored ∧ scene' = scene.withSecret stored
  | .getConsumer consumer, reply, scene' => reply = .ok (scene.object consumer) ∧ scene' = scene
  | .replaceConsumer consumer object, reply, scene' =>
    reply = .ok () ∧ ∃ stored, object.IsKeptAs stored ∧ scene' = scene.withObject consumer stored

/-- The effects that a check or a pass may have. -/
def permits (key : SecretKey) (mayLog : LogEvent → Prop) (scene : Scene) : Effect → Prop
  | .store call => scene.permitsCall key call
  | .log event => mayLog event
  | .now | .newKey | .jitter | .sleep _ | .record _ | .notify _ | .setInjected => True
  | .fileExists _ | .isInjected | .fire _ | .await _ | .spawnPollers | .startTicker _
  | .wait => False

/-- How they are answered at some times, with keys of one sort. -/
def answers (isTime : Instant → Prop) (isKey : Except KeyFault Rsa.PrivateKey → Prop)
    (scene : Scene) : (effect : Effect) → effect.Reply → Scene → Prop
  | .store call, reply, scene' => scene.answersCall call reply scene'
  | .now, now, scene' => isTime now ∧ scene' = scene
  | .newKey, newKey, scene' => isKey newKey ∧ scene' = scene
  | .setInjected, _, scene' => scene' = { scene with isInjected := true }
  | _, _, scene' => scene' = scene

end Scene

namespace Contract

/-- Nobody else writes to the place of the Secret or to the consumers, and no call fails. The clock
may show any of the times, in any order. -/
def sole (key : SecretKey) (isTime : Instant → Prop)
    (isKey : Except KeyFault Rsa.PrivateKey → Prop) (mayLog : LogEvent → Prop) :
    Contract Scene where
  permits scene := scene.permits key mayLog
  answers scene := scene.answers isTime isKey

variable {key : SecretKey} {isTime : Instant → Prop}
  {isKey : Except KeyFault Rsa.PrivateKey → Prop} {mayLog : LogEvent → Prop}

theorem isQuiet_sole : (sole key isTime isKey fun _ ↦ True).IsQuiet := by
  intro scene effect hquiet
  cases effect <;> first | exact hquiet.elim | exact ⟨trivial, fun _ _ h ↦ h⟩

theorem equips_sole :
    (sole key isTime isKey fun _ ↦ True).Equips isTime isKey fun scene _ ↦ scene where
  quiet := isQuiet_sole
  now _ := ⟨trivial, fun _ _ h ↦ h⟩
  newKey _ := ⟨trivial, fun _ _ h ↦ h⟩

/-- Neither the clock nor the source of keys is ever refused. -/
theorem equips_refusing :
    (sole key isTime isKey fun _ ↦ True).refusing.Equips isTime isKey fun state _ ↦ state where
  quiet := isQuiet_sole.refusing
  now state := by
    refine ⟨trivial, ?_⟩
    rintro now state' (⟨hbudget, htime, hscene⟩ | ⟨hrefused, -⟩)
    · exact ⟨htime, Prod.ext hbudget hscene⟩
    · exact hrefused.elim
  newKey state := by
    refine ⟨trivial, ?_⟩
    rintro newKey state' (⟨hbudget, hkey, hscene⟩ | ⟨hrefused, -⟩)
    · exact ⟨hkey, Prod.ext hbudget hscene⟩
    · exact hrefused.elim

/-- Surroundings that allow every event to be logged allow some. -/
theorem keptBy_sole_of_all {σ : Type} {answer : (effect : Effect) → σ → effect.Reply × σ}
    {shows : σ → Scene → Prop}
    (h : (sole key isTime isKey fun _ ↦ True).KeptBy answer shows) :
    (sole key isTime isKey mayLog).KeptBy answer shows := by
  intro real scene effect hshows hpermits
  refine h real scene effect hshows ?_
  cases effect <;> first | exact hpermits | exact trivial

end Contract

/-! ### Readings of the clock -/

/-- What the clock shows, if the effect is to look at it. -/
def Effect.reading? : (effect : Effect) → effect.Reply → Option Instant
  | .now, instant => some instant
  | _, _ => none

/-- What the clock shows in a run, from one look to the next. -/
def Procedure.readings {α σ : Type} (answer : (effect : Effect) → σ → effect.Reply × σ) :
    Procedure α → σ → List Instant
  | .pure _, _ => []
  | .stop _, _ => []
  | .step effect next, real =>
    (effect.reading? (answer effect real).1).toList ++
      (next (answer effect real).1).readings answer (answer effect real).2

section Readings

variable {α σ : Type} {answer : (effect : Effect) → σ → effect.Reply × σ} {shows : σ → Scene → Prop}
  {real : σ} {scene : Scene} {key : SecretKey} {isTime : Instant → Prop}
  {isKey : Except KeyFault Rsa.PrivateKey → Prop} {mayLog : LogEvent → Prop}
  {post : Except Halt α → Scene → Prop} {procedure : Procedure α}

/-- A clock need only show what a contract allows when it is looked at. -/
theorem Procedure.Ensures.run_of_readings {isShown : Instant → Prop}
    (h : Ensures (.sole key isShown isKey mayLog) post procedure scene)
    (hkept : (Contract.sole key isTime isKey mayLog).KeptBy answer shows)
    (hshows : shows real scene)
    (htimes : ∀ now ∈ procedure.readings answer real, isTime now → isShown now) :
    ∃ scene', shows (procedure.run answer real).2 scene' ∧
      post (procedure.run answer real).1 scene' := by
  induction procedure generalizing scene real with
  | pure result => exact ⟨scene, hshows, h⟩
  | stop halt => exact ⟨scene, hshows, h⟩
  | step effect next ih =>
    rw [readings, List.forall_mem_append] at htimes
    obtain ⟨scene', hanswer, hshows'⟩ := hkept real scene effect hshows h.1
    refine ih _ (h.2 _ scene' ?_) hshows' htimes.2
    cases effect with
    | now => exact ⟨htimes.1 _ (List.mem_singleton_self _) hanswer.1, hanswer.2⟩
    | _ => exact hanswer

/-- **A run comes to what is ensured for the times that its clock showed.** The contract may allow
many more; a statement about the times of a run rests on those alone. -/
theorem Procedure.Ensures.run_shown
    (h : Ensures (.sole key (fun now ↦ isTime now ∧ now ∈ procedure.readings answer real) isKey
      mayLog) post procedure scene)
    (hkept : (Contract.sole key isTime isKey mayLog).KeptBy answer shows)
    (hshows : shows real scene) :
    ∃ scene', shows (procedure.run answer real).2 scene' ∧
      post (procedure.run answer real).1 scene' :=
  h.run_of_readings hkept hshows fun _ hshown htime ↦ ⟨htime, hshown⟩

end Readings

/-! ### The store in memory -/

namespace MemoryStore

variable {store : MemoryStore} {key : SecretKey} {scene : Scene}

/-- The store passes for a scene, whether or not the authority was injected, and no reads fail. -/
structure Shows (key : SecretKey) (store : MemoryStore) (scene : Scene) : Prop where
  secret : scene.secret = store.secret? key
  object : scene.object = store.consumer?
  writes : scene.writes = store.secretWrites
  failing : store.failing = []

/-- What is written under a key is kept there. -/
theorem exists_kept_writeSecret (store : MemoryStore) (key : SecretKey) (secret : Secret) :
    ∃ kept, secret.IsKeptAs kept ∧ (store.writeSecret key secret).secret? key = some kept := by
  refine ⟨_, ?_, Assoc.get?_put_self _ _ _⟩
  exact ⟨rfl, rfl, rfl⟩

/-- The Secret that is under a key after it was written there. -/
theorem Shows.writeSecret (h : store.Shows key scene) (secret : Secret) :
    ∃ stored, secret.IsKeptAs stored ∧
      (store.writeSecret key secret).Shows key (scene.withSecret stored) := by
  obtain ⟨stored, hkept, hstored⟩ := exists_kept_writeSecret store key secret
  exact ⟨stored, hkept, hstored.symm, h.object, congrArg (· + 1) h.writes, h.failing⟩

/-- The objects that are under the consumers after one was written. -/
theorem Shows.writeConsumer (h : store.Shows key scene) (consumer : Consumer)
    (object : ConsumerObject) :
    ∃ stored, object.IsKeptAs stored ∧
      (store.writeConsumer consumer object).Shows key (scene.withObject consumer stored) := by
  refine ⟨{ object with
    metadata := { object.metadata with resourceVersion := some store.nextVersion } },
    ⟨rfl, rfl⟩, h.secret, ?_, h.writes, h.failing⟩
  funext other
  rw [Scene.withObject, h.object, consumer?_writeConsumer]

/-- **The store answers calls that succeed as a store with one writer.** -/
theorem Shows.answer (h : store.Shows key scene) {call : StoreCall}
    (hpermits : scene.permitsCall key call) :
    ∃ scene', scene.answersCall call (store.answer call).1 scene' ∧
      (store.answer call).2.Shows key scene' ∧ scene'.isInjected = scene.isInjected := by
  cases call with
  | getSecret wanted =>
    obtain rfl := hpermits
    exact ⟨scene, ⟨congrArg Except.ok h.secret.symm, rfl⟩, h, rfl⟩
  | createSecret secret =>
    obtain ⟨hkey, habsent⟩ := hpermits
    obtain ⟨stored, hstored, hshows⟩ := h.writeSecret secret
    rw [h.secret] at habsent
    rw [answer_createSecret_of_absent hkey habsent]
    exact ⟨_, ⟨rfl, stored, hstored, rfl⟩, hshows, rfl⟩
  | replaceSecret secret =>
    obtain ⟨hkey, hpresent⟩ := hpermits
    obtain ⟨stored, hstored, hshows⟩ := h.writeSecret secret
    rw [h.secret] at hpresent
    rw [answer_replaceSecret_of_present hkey hpresent]
    exact ⟨_, ⟨rfl, stored, hstored, rfl⟩, hshows, rfl⟩
  | getConsumer consumer =>
    have hreads : consumer ∉ store.failing := h.failing ▸ List.not_mem_nil
    rw [answer_getConsumer_of_notMem hreads]
    exact ⟨scene, ⟨congrArg Except.ok (congrFun h.object consumer).symm, rfl⟩, h, rfl⟩
  | replaceConsumer consumer object =>
    obtain ⟨stored, hstored, hshows⟩ := h.writeConsumer consumer object
    have hpresent : (store.consumer? consumer).isSome = true := by
      rw [← h.object]
      exact hpermits
    rw [answer_replaceConsumer_of_present object hpresent]
    exact ⟨_, ⟨rfl, stored, hstored, rfl⟩, hshows, rfl⟩

end MemoryStore

/-! ### The world in memory -/

namespace Simulation

variable {setting : Setting} {site : Site} {world : World} {scene : Scene}

/-- The world passes for a scene, and nothing in it makes calls fail or goes on by itself. -/
structure World.Shows (key : SecretKey) (site : Site) (world : World) (scene : Scene) : Prop
    extends world.store.Shows key scene where
  isInjected : scene.isInjected = (world.rotatorAt site).isInjected
  faults : world.faults = []
  tasks : world.tasks = []
  hasRotator : ∀ index, site = .rotator index → index < world.rotators.length

/-- What else there is in a world does not show. -/
theorem World.Shows.of_eq {key : SecretKey} {other : World} (h : world.Shows key site scene)
    (hstore : other.store = world.store) (hfaults : other.faults = world.faults)
    (htasks : other.tasks = world.tasks) (hrotators : other.rotators = world.rotators)
    (hseparate : other.separateInjected = world.separateInjected) : other.Shows key site scene where
  secret := by rw [hstore, h.secret]
  object := by rw [hstore, h.object]
  isInjected := by
    rw [h.isInjected]
    cases site <;> simp [World.rotatorAt, hrotators, hseparate]
  writes := by rw [hstore, h.writes]
  faults := by rw [hfaults, h.faults]
  failing := by rw [hstore, h.failing]
  tasks := by rw [htasks, h.tasks]
  hasRotator := by rw [hrotators]; exact h.hasRotator

/-- Time passes for nobody if there are no tasks. -/
theorem sleep_of_tasks_nil (setting : Setting) (h : world.tasks = []) (ms : Nat) :
    ∃ time, sleep setting ms world = { world with time } := by
  have hbound : turnBound = Nat.pow 2 40 - 1 + 1 := by decide
  rw [sleep, hbound, runUntil]
  split_ifs
  · exact ⟨world.time, rfl⟩
  · exact ⟨max world.time (world.time + ms), by simp [h, nextDue?]⟩

/-- A call is passed on to the store. -/
theorem answerCall_of_faults_nil (h : world.faults = []) (call : StoreCall) :
    world.answerCall call = ((world.store.answer call).1,
      { world with calls := call :: world.calls, store := (world.store.answer call).2 }) := by
  simp [World.answerCall, h, World.takeFault]

/-- The store of the world answers calls that succeed as a store with one writer. -/
theorem shows_answerCall {key : SecretKey} (h : world.Shows key site scene) {call : StoreCall}
    (hpermits : scene.permitsCall key call) :
    ∃ scene', scene.answersCall call (world.answerCall call).1 scene' ∧
      World.Shows key site (world.answerCall call).2 scene' := by
  rw [answerCall_of_faults_nil h.faults]
  obtain ⟨scene', hanswer, hshows, hflag⟩ := h.toShows.answer hpermits
  exact ⟨scene', hanswer, hshows, hflag.trans h.isInjected, h.faults, h.tasks, h.hasRotator⟩

/-- Marking the authority as injected shows. -/
theorem shows_setInjected {key : SecretKey} (h : world.Shows key site scene) :
    World.Shows key site
      (world.setRotator { world.rotatorAt site with isInjected := true } site)
      { scene with isInjected := true } := by
  cases site with
  | separate =>
    exact ⟨⟨h.secret, h.object, h.writes, h.failing⟩, rfl, h.faults, h.tasks, h.hasRotator⟩
  | rotator index =>
    refine ⟨⟨h.secret, h.object, h.writes, h.failing⟩, ?_, h.faults, h.tasks, ?_⟩
    · have hindex := h.hasRotator index rfl
      simp [World.setRotator, World.rotatorAt, hindex]
    · intro other hother
      simpa [World.setRotator] using h.hasRotator other hother

/-- **The world in memory is a store with one writer.** -/
theorem keptBy_sole (setting : Setting) {isTime : Instant → Prop}
    {isKey : Except KeyFault Rsa.PrivateKey → Prop} (hclock : isTime setting.clock)
    (hkeys : ∀ number, isKey (setting.keys number)) :
    (Contract.sole setting.config.secretKey isTime isKey fun _ ↦ True).KeptBy
      (answerMain setting site) (World.Shows setting.config.secretKey site) := by
  intro world scene effect hshows hpermits
  cases effect with
  | store call => exact shows_answerCall hshows hpermits
  | now => exact ⟨scene, ⟨hclock, rfl⟩, hshows⟩
  | newKey => exact ⟨scene, ⟨hkeys _, rfl⟩, hshows.of_eq rfl rfl rfl rfl rfl⟩
  | jitter => exact ⟨scene, rfl, hshows⟩
  | sleep ns =>
    obtain ⟨time, htime⟩ := sleep_of_tasks_nil setting hshows.tasks
      (wakeTime world.time ns - world.time)
    refine ⟨scene, rfl, ?_⟩
    rw [answerMain, htime]
    exact hshows.of_eq rfl rfl rfl rfl rfl
  | log event => exact ⟨scene, rfl, hshows.of_eq rfl rfl rfl rfl rfl⟩
  | record measurement => exact ⟨scene, rfl, hshows.of_eq rfl rfl rfl rfl rfl⟩
  | notify outcome => exact ⟨scene, rfl, hshows.of_eq rfl rfl rfl rfl rfl⟩
  | setInjected => exact ⟨_, rfl, shows_setInjected hshows⟩
  | fileExists | isInjected | fire | await | spawnPollers | startTicker | wait =>
    exact hpermits.elim

/-! ### Faults -/

/-- How many calls are still to fail. -/
def faultCount (faults : List Fault) : Nat := (faults.map Fault.times).sum

/-- A fault that is taken is one less. -/
theorem faultCount_of_takeFault {call : String} {faults rest : List Fault} {e : Error}
    (h : World.takeFault call faults = some (e, rest)) :
    faultCount faults = faultCount rest + 1 := by
  induction faults generalizing rest with
  | nil => cases h
  | cons fault faults ih =>
    rw [World.takeFault] at h
    split_ifs at h with htaken
    · cases h
      simp only [faultCount, List.map_cons, List.sum_cons]
      have hpositive := htaken.2
      omega
    · obtain ⟨⟨e', rest'⟩, hrest, hcons⟩ := Option.map_eq_some_iff.1 h
      cases hcons
      have hless := ih hrest
      simp only [faultCount, List.map_cons, List.sum_cons] at hless ⊢
      omega

/-- The world passes for a scene, but for calls that are still to fail, and these are no more than
a number. -/
structure World.Refuses (key : SecretKey) (site : Site) (world : World) (state : Nat × Scene) :
    Prop where
  shows : World.Shows key site { world with faults := [] } state.2
  faultCount_le : faultCount world.faults ≤ state.1

/-- What else there is in a world does not matter. -/
theorem World.Refuses.of_eq {key : SecretKey} {other : World} {state : Nat × Scene}
    (h : world.Refuses key site state) (hstore : other.store = world.store)
    (hfaults : other.faults = world.faults) (htasks : other.tasks = world.tasks)
    (hrotators : other.rotators = world.rotators)
    (hseparate : other.separateInjected = world.separateInjected) :
    other.Refuses key site state where
  shows := h.shows.of_eq hstore rfl htasks hrotators hseparate
  faultCount_le := hfaults ▸ h.faultCount_le

/-- A call fails and uses up a fault, or is passed on to the store. -/
theorem answerCall_cases (world : World) (call : StoreCall) :
    (∃ e faults, world.answerCall call =
        (.error e, { world with calls := call :: world.calls, faults }) ∧
      faultCount world.faults = faultCount faults + 1) ∨
    world.answerCall call = ((world.store.answer call).1,
      { world with calls := call :: world.calls, store := (world.store.answer call).2 }) := by
  simp only [World.answerCall]
  split
  · rename_i e faults htaken
    refine .inl ⟨e, faults, rfl, ?_⟩
    rcases Option.or_eq_some_iff.1 htaken with htext | ⟨-, hverb⟩
    · exact faultCount_of_takeFault htext
    · exact faultCount_of_takeFault hverb
  · exact .inr rfl

/-- A call is refused, or answered as without faults. -/
theorem refuses_answerCall {key : SecretKey} {state : Nat × Scene}
    (h : world.Refuses key site state) {call : StoreCall}
    (hpermits : state.2.permitsCall key call) :
    ∃ state', (Contract.sole key isTime isKey fun _ ↦ True).refusing.answers state (.store call)
        (world.answerCall call).1 state' ∧
      World.Refuses key site (world.answerCall call).2 state' := by
  rcases answerCall_cases world call with ⟨e, faults, hfault, hcount⟩ | hanswer
  · rw [hfault]
    have hle := h.faultCount_le
    refine ⟨(state.1 - 1, state.2), .inr ⟨⟨e, rfl⟩, ?_, rfl⟩, ?_, ?_⟩
    · exact (Nat.sub_add_cancel (by omega)).symm
    · exact h.shows.of_eq rfl rfl rfl rfl rfl
    · show faultCount faults ≤ state.1 - 1
      omega
  · obtain ⟨scene', hanswers, hshows⟩ := shows_answerCall h.shows hpermits
    rw [answerCall_of_faults_nil rfl] at hanswers hshows
    rw [hanswer]
    exact ⟨(state.1, scene'), .inl ⟨rfl, hanswers⟩, hshows, h.faultCount_le⟩

/-- **With faults, the world in memory refuses no more calls than there are faults.** -/
theorem keptBy_refusing (setting : Setting) {isTime : Instant → Prop}
    {isKey : Except KeyFault Rsa.PrivateKey → Prop} (hclock : isTime setting.clock)
    (hkeys : ∀ number, isKey (setting.keys number)) :
    (Contract.sole setting.config.secretKey isTime isKey fun _ ↦ True).refusing.KeptBy
      (answerMain setting site) (World.Refuses setting.config.secretKey site) := by
  intro world state effect h hpermits
  cases effect with
  | store call => exact refuses_answerCall h hpermits
  | now => exact ⟨state, .inl ⟨rfl, hclock, rfl⟩, h⟩
  | newKey => exact ⟨state, .inl ⟨rfl, hkeys _, rfl⟩, h.of_eq rfl rfl rfl rfl rfl⟩
  | jitter => exact ⟨state, .inl ⟨rfl, rfl⟩, h⟩
  | sleep ns =>
    have htasks : world.tasks = [] := h.shows.tasks
    obtain ⟨time, htime⟩ := sleep_of_tasks_nil setting htasks (wakeTime world.time ns - world.time)
    refine ⟨state, .inl ⟨rfl, rfl⟩, ?_⟩
    rw [answerMain, htime]
    exact h.of_eq rfl rfl rfl rfl rfl
  | log | record | notify => exact ⟨state, .inl ⟨rfl, rfl⟩, h.of_eq rfl rfl rfl rfl rfl⟩
  | setInjected =>
    refine ⟨(state.1, { state.2 with isInjected := true }), .inl ⟨rfl, rfl⟩, ?_⟩
    cases site <;> exact ⟨shows_setInjected h.shows, h.faultCount_le⟩
  | fileExists | isInjected | fire | await | spawnPollers | startTicker | wait =>
    exact hpermits.elim

/-! ### A sample -/

/-- A consumer with a single webhook. -/
def sampleObjects : List (Consumer × ConsumerObject) :=
  [(⟨.validating, "webhook"⟩, ⟨none, .empty, .object [("webhooks", .array [.object []])]⟩)]

/-- A rotator that serves it, to see what the theorems say. -/
def sampleRotator : Rotator where
  config := (Config.new ⟨"webhook-system", "webhook-server-cert"⟩ "/certs" "webhook-ca" "certwarden"
    "webhook-service.webhook-system.svc").withConsumers (sampleObjects.map (·.1))
  scheme := Signature.standard
  hook := .silent

/-- Its setting at some time, with a single key. -/
def sampleSetting (clock : Instant) : Setting where
  config := sampleRotator.config
  scheme := sampleRotator.scheme
  hook := sampleRotator.hook
  clock := clock
  keys _ := .ok Rsa.pierpontKey
  hasDirectory := true

/-- The sample is regular. -/
theorem isRegular_sample : sampleRotator.IsRegular where
  scheme := rfl
  hook := RotationHook.isQuiet_silent
  caNameFits := by unfold FitsMemory; decide
  caOrganizationFits := by unfold FitsMemory; decide
  dnsNameFits := by unfold FitsMemory; decide
  names := by unfold Rotator.HasAsciiNames; decide
  lookahead_nonneg := by decide
  lookahead_le := by decide

/-- Its checks give the outcomes that they come to. -/
theorem eq_of_endsWith_sample {outcome : RotationOutcome}
    {result : Except Halt (Except Error RotationOutcome)}
    (h : sampleRotator.EndsWith outcome result) : result = .ok (.ok outcome) :=
  h.eq fun _ ↦ by rintro ⟨⟩

/-- So do several of them. -/
theorem eq_map_of_endsWith_sample {outcomes : List RotationOutcome}
    {results : List (Except Halt (Except Error RotationOutcome))}
    (h : List.Forall₂ sampleRotator.EndsWith outcomes results) :
    results = outcomes.map fun outcome ↦ .ok (.ok outcome) := by
  induction h with
  | nil => rfl
  | cons hends _ ih => rw [eq_of_endsWith_sample hends, ih, List.map_cons]

/-- The replies to requests for keys in that setting. -/
def isSampleKey (newKey : Except KeyFault Rsa.PrivateKey) : Prop := newKey = .ok Rsa.pierpontKey

theorem isReliableSource_sample : IsReliableSource isSampleKey :=
  fun _ h ↦ ⟨_, h, Rsa.isFit_pierpontKey⟩

theorem keptBy_sample (site : Site) (clock : Instant) :
    (Contract.sole sampleRotator.config.secretKey (· = clock) isSampleKey fun _ ↦ True).KeptBy
      (answerMain (sampleSetting clock) site)
      (World.Shows sampleRotator.config.secretKey site) :=
  keptBy_sole (sampleSetting clock) rfl fun _ ↦ rfl

/-- A fresh world with that consumer, and a Secret or none. -/
def sampleWorld (secret : Option Secret) : World :=
  { World.fresh with
    store := { MemoryStore.empty with
      secrets := (secret.map (sampleRotator.config.secretKey, ·)).toList
      consumers := sampleObjects } }

/-- The scene that such a world shows. -/
def sampleScene (secret : Option Secret) : Scene :=
  ⟨secret, fun consumer ↦ Assoc.get? consumer sampleObjects, false, 0⟩

/-- The world of the sample shows the scene. -/
theorem shows_sample (secret : Option Secret) :
    (sampleWorld secret).Shows sampleRotator.config.secretKey (.rotator 0)
      (sampleScene secret) where
  secret := by cases secret <;> simp [sampleWorld, sampleScene, MemoryStore.secret?, Assoc.get?]
  object := rfl
  isInjected := rfl
  writes := rfl
  faults := rfl
  failing := rfl
  tasks := rfl
  hasRotator index h := by
    obtain rfl := Site.rotator.inj h
    exact Nat.zero_lt_one

end Simulation

end WebhookTrust
