import Mathlib.Data.Finset.Insert
import Mathlib.Data.String.Basic
import WebhookTrust.Proofs.Race
import WebhookTrust.Proofs.Racing

/-!
# A rotator that is left alone

That racing rotators agree would be worth little if no race ever came to an end. So here is what a
race can come to. A rotator that has something to do can always be answered
(`Contract.exists_answer_alone`), so what a procedure ensures when nobody interferes is something
that a race can come to.

## The theorems, and what each rests on

* `Contract.exists_answer_alone`: what is permitted can be answered. The store has a version left
  that no Secret had, since versions are texts and only so many were given.
* `Race.exists_reaches`: a race can come to what a rotator ensures when it is left alone. The
  induction is on the procedure, one answer at a time.
* `Race.exists_winner`: in particular a rotator that is left alone before anything was accepted can
  win. It rests on its check replacing everything in one attempt, as nothing fails that need not
  (`Race.ensures_refresh_alone`).
-/

namespace WebhookTrust

variable {ι : Type} [DecidableEq ι] {rotator : Rotator} {found : Option Secret} {key : SecretKey}
  {isTime : Instant → Prop} {isKey : Except KeyFault Rsa.PrivateKey → Prop} {i : ι}

namespace Race

/-! ### The contract -/

/-- The effects of a rotator to which nothing stands in the way. -/
def permitsAlone (key : SecretKey) (race : Race ι) : Effect → Prop
  | .store (.getSecret wanted) => wanted = key
  | .store (.createSecret secret) => secret.key? = some key ∧ race.stored = none
  | .store (.replaceSecret secret) => secret.key? = some key ∧ ∃ current,
    race.stored = some current ∧ secret.metadata.resourceVersion = current.metadata.resourceVersion
  | .store (.getConsumer _) | .store (.replaceConsumer ..) => False
  | .now | .newKey => True
  | effect => effect.IsQuiet

/-- How such effects are answered if no call fails and no reply is lost. -/
def answersAlone (isTime : Instant → Prop) (isKey : Except KeyFault Rsa.PrivateKey → Prop) (i : ι)
    (race : Race ι) : (effect : Effect) → effect.Reply → Race ι → Prop
  | .store (.getSecret _), reply, race' => reply = .ok race.stored ∧ race' = race.afterRead i
  | .store (.createSecret secret), reply, race' | .store (.replaceSecret secret), reply, race' =>
    reply = .ok () ∧ ∃ stored, secret.IsKeptAs stored ∧
      stored.metadata.resourceVersion ∉ race.versions ∧ race' = race.afterWrite i secret stored
  | .now, now, race' => isTime now ∧ race' = race
  | .newKey, newKey, race' => isKey newKey ∧ race' = race.afterKey i newKey
  | _, _, race' => race' = race

end Race

namespace Contract

/-- The contract of a rotator that is left alone in a race. -/
def alone (key : SecretKey) (isTime : Instant → Prop)
    (isKey : Except KeyFault Rsa.PrivateKey → Prop) (i : ι) : Contract (Race ι) where
  permits race := race.permitsAlone key
  answers race := race.answersAlone isTime isKey i

theorem isQuiet_alone : (alone key isTime isKey i).IsQuiet := by
  intro race effect hquiet
  cases effect <;> first | exact hquiet.elim | exact ⟨trivial, fun _ _ h ↦ h⟩

theorem equips_alone :
    (alone key isTime isKey i).Equips isTime isKey fun race newKey ↦ race.afterKey i newKey where
  quiet := isQuiet_alone
  now _ := ⟨trivial, fun _ _ h ↦ h⟩
  newKey _ := ⟨trivial, fun _ _ h ↦ h⟩

/-- There is always a version that no Secret had. -/
theorem exists_isKeptAs (secret : Secret) (versions : List (Option String)) :
    ∃ stored, secret.IsKeptAs stored ∧ stored.metadata.resourceVersion ∉ versions := by
  obtain ⟨version, hfresh⟩ := Infinite.exists_notMem_finset versions.toFinset
  refine ⟨{ secret with metadata.resourceVersion := version }, ⟨rfl, rfl, rfl⟩, ?_⟩
  simpa using hfresh

/-- **What is permitted can be answered.** -/
theorem exists_answer_alone (htimes : ∃ now, isTime now) (hkeys : ∃ newKey, isKey newKey)
    {race : Race ι} {effect : Effect} (hpermits : (alone key isTime isKey i).permits race effect) :
    ∃ reply race', (alone key isTime isKey i).answers race effect reply race' := by
  cases effect with
  | store call =>
    cases call with
    | getSecret => exact ⟨_, _, rfl, rfl⟩
    | createSecret secret | replaceSecret secret =>
      obtain ⟨stored, hkept, hfresh⟩ := exists_isKeptAs secret race.versions
      exact ⟨_, _, rfl, stored, hkept, hfresh, rfl⟩
    | getConsumer | replaceConsumer => exact hpermits.elim
  | now =>
    obtain ⟨now, hnow⟩ := htimes
    exact ⟨now, race, hnow, rfl⟩
  | newKey =>
    obtain ⟨newKey, hnew⟩ := hkeys
    exact ⟨newKey, _, hnew, rfl⟩
  | jitter => exact ⟨(0 : Rat), race, rfl⟩
  | sleep | log | record | notify => exact ⟨(), race, rfl⟩
  | fileExists | isInjected | setInjected | fire | await | spawnPollers | startTicker | wait =>
    exact hpermits.elim

end Contract

/-! ### Steps of one rotator -/

/-- The procedure that has ended so. -/
def Procedure.ended {α : Type} : Except Halt α → Procedure α
  | .ok value => .pure value
  | .error halt => .stop halt

namespace Race

open Procedure

variable {race race' : Race ι} {rest : Procedure (Except Error RotationOutcome)}

@[simp] theorem rest_goOn : ((race.goOn i rest).racer i).rest = rest := by simp [goOn, setRacer]

@[simp] theorem goOn_goOn (other : Procedure (Except Error RotationOutcome)) :
    (race.goOn i other).goOn i rest = race.goOn i rest := by simp [goOn, setRacer]

theorem goOn_self (h : (race.racer i).rest = rest) : race.goOn i rest = race := by
  subst h
  simp [goOn, setRacer]

/-- Left alone a rotator is answered as it is in a race, whatever it goes on with. -/
theorem answers_goOn {effect : Effect} {reply : effect.Reply}
    (hpermits : race.permitsAlone key effect)
    (hanswers : race.answersAlone isTime isKey i effect reply race') :
    (race.goOn i rest).answers key isTime isKey i effect reply (race'.goOn i rest) := by
  cases effect with
  | store call =>
    cases call with
    | getSecret =>
      obtain ⟨rfl, rfl⟩ := hanswers
      exact ⟨hpermits, .inl ⟨rfl, by simp [afterRead, goOn, setRacer]⟩⟩
    | createSecret secret | replaceSecret secret =>
      obtain ⟨-, stored, hkept, hfresh, rfl⟩ := hanswers
      refine ⟨hpermits.1, .inl ⟨hpermits.2, stored, hkept, hfresh, ?_⟩⟩
      simp [afterWrite, goOn, setRacer]
    | getConsumer | replaceConsumer => exact hpermits.elim
  | now =>
    obtain ⟨hnow, rfl⟩ := hanswers
    exact ⟨hnow, rfl⟩
  | newKey =>
    obtain ⟨hnew, rfl⟩ := hanswers
    exact ⟨hnew, by simp [afterKey, goOn, setRacer]⟩
  | jitter | sleep | log | record | notify => exact ⟨trivial, congrArg (goOn · i rest) hanswers⟩
  | fileExists | isInjected | setInjected | fire | await | spawnPollers | startTicker | wait =>
    exact hpermits.elim

/-- **A race can come to what a rotator ensures when it is left alone.** -/
theorem exists_reaches (htimes : ∃ now, isTime now) (hkeys : ∃ newKey, isKey newKey)
    {post : Except Halt (Except Error RotationOutcome) → Race ι → Prop}
    (h : Ensures (.alone key isTime isKey i) post rest race) :
    ∃ result race', (race.goOn i rest).Reaches key isTime isKey (race'.goOn i (ended result)) ∧
      post result race' := by
  induction rest generalizing race with
  | pure value => exact ⟨.ok value, race, .refl, h⟩
  | stop halt => exact ⟨.error halt, race, .refl, h⟩
  | step effect next ih =>
    obtain ⟨hpermits, hnext⟩ := h
    obtain ⟨reply, race₁, hanswers⟩ := Contract.exists_answer_alone htimes hkeys hpermits
    obtain ⟨result, race', hreaches, hpost⟩ := ih reply (hnext reply race₁ hanswers)
    refine ⟨result, race', .head ?_ hreaches, hpost⟩
    have hstep : (race.goOn i (.step effect next)).Step key isTime isKey _ :=
      .step i rest_goOn (answers_goOn hpermits hanswers)
    rwa [goOn_goOn] at hstep

/-! ### A check -/

/-- Nothing was accepted, and the Secret is that of the beginning. -/
def IsOpen (found : Option Secret) (race : Race ι) : Prop :=
  race.accepted = [] ∧ race.stored = found

/-- Left alone in an open race, a rotator gets its write accepted. -/
theorem ensures_write_alone (secret : Secret) (hopen : race.IsOpen found)
    (hplace : secret.key? = some key)
    (hversion : ∀ old, found = some old →
      secret.metadata.resourceVersion = old.metadata.resourceVersion) :
    Ensures (.alone key isTime isKey i) (fun result race' ↦
      result = .ok (.ok ()) ∧ ∃ write, race'.accepted = [write] ∧ write.writer = i)
      (Rotator.write found.isSome secret) race := by
  obtain ⟨haccepted, rfl⟩ := hopen
  have hanswer : ∀ (reply : Except Error Unit) race',
      (reply = .ok () ∧ ∃ stored, secret.IsKeptAs stored ∧
        stored.metadata.resourceVersion ∉ race.versions ∧ race' = race.afterWrite i secret stored) →
      Except.ok (ε := Halt) reply = .ok (.ok ()) ∧
        ∃ write, race'.accepted = [write] ∧ write.writer = i := by
    rintro reply race' ⟨rfl, stored, -, -, rfl⟩
    exact ⟨rfl, ⟨i, (race.racer i).drawn, secret⟩, by simp [afterWrite, haccepted], rfl⟩
  cases hstored : race.stored with
  | none => exact ⟨⟨hplace, hstored⟩, hanswer⟩
  | some old => exact ⟨⟨hplace, old, hstored, hversion old hstored⟩, hanswer⟩

/-- **A check that is left alone in an open race replaces everything in one attempt.** -/
theorem ensures_refresh_alone (hplain : rotator.IsPlain) (hnames : rotator.HasAsciiNames)
    (hkeys : ∀ key, isKey (.ok key) → key.IsFit) (hcan : CanAlwaysMake isTime isKey)
    (hahead : ∀ now, isTime now → rotator.horizon? now ≠ none)
    (hfails : rotator.FailsThroughout found isTime)
    (hplace : (rotator.basis found).key? = some rotator.config.secretKey)
    (hopen : race.IsOpen found) :
    Ensures (.alone rotator.config.secretKey isTime isKey i) (fun result race' ↦
      rotator.EndsWith .rotatedCa result ∧ ∃ write, race'.accepted = [write] ∧ write.writer = i)
      rotator.refresh race := by
  have hequips : (Contract.alone rotator.config.secretKey isTime isKey i).Equips isTime isKey
    fun race newKey ↦ race.afterKey i newKey := Contract.equips_alone
  refine Rotator.ensures_refresh hequips hplain (Backoff.ensures_retry_of_ok ?_)
  refine Rotator.ensures_refreshOnce hequips rfl ?_ ?_
  · rintro e race' ⟨hanswer, -⟩
    simp at hanswer
  rintro read race' now ⟨hread, rfl⟩ hnow
  obtain rfl := (Except.ok.inj hread).trans hopen.2
  refine ⟨fun hnone ↦ absurd hnone (hahead now hnow), ?_⟩
  intro instant hinstant
  obtain rfl := Rotator.horizon?_eq_some hinstant
  have hverdict := Rotator.verdict_basis hfails hnow
  simp only [Rotator.basis] at hverdict
  -- nobody has written, so the verdict is that on the Secret of the beginning
  refine ⟨fun hunchanged ↦ by simp [hverdict] at hunchanged, fun _ ↦ ?_⟩
  simp only [hverdict]
  refine Rotator.ensures_rotate_ca hequips hplain hkeys ?_ ?_
  · intro e replies caNow leafNow hcaTime hleafTime hcannot
    exact (hcannot ⟨hcan.mono (by simp [hcaTime, hleafTime]), hnames⟩).elim
  intro caNow leafNow caKey leafKey _ _ _ _ _ _ _
  have hdrawn :
      (((race.afterRead i).afterKey i (.ok caKey)).afterKey i (.ok leafKey)).IsOpen read := hopen
  refine (ensures_write_alone (rotator.withNewAuthority (rotator.basis read) caNow leafNow caKey
    leafKey) hdrawn hplace ?_).mono ?_
  · rintro old rfl
    rfl
  · rintro _ race' ⟨rfl, hwon⟩
    exact ⟨by simp [Except.map], fun result hconcludes ↦ ⟨hconcludes, hwon⟩⟩

/-- **A rotator that is left alone in an open race can win.** -/
theorem exists_winner (hplain : rotator.IsPlain) (hnames : rotator.HasAsciiNames)
    (hkeys : IsReliableSource isKey) (hsource : ∃ newKey, isKey newKey)
    (htimes : ∃ now, isTime now)
    (hwindows : ∀ now, isTime now → Issuance.IsWritableWindow (.standard now))
    (hahead : ∀ now, isTime now → rotator.horizon? now ≠ none)
    (hfails : rotator.FailsThroughout found isTime)
    (hplace : (rotator.basis found).key? = some rotator.config.secretKey)
    (hopen : race.IsOpen found) (hrest : (race.racer i).rest = rotator.refresh) :
    ∃ result race', race.Reaches rotator.config.secretKey isTime isKey race' ∧
      (race'.racer i).rest = ended result ∧ rotator.EndsWith .rotatedCa result ∧
      ∃ write, race'.accepted = [write] ∧ write.writer = i := by
  have hcan : CanAlwaysMake isTime isKey := by
    refine ⟨hwindows, ?_⟩
    intro newKey hnew
    obtain ⟨key, hkey, -⟩ := hkeys newKey hnew
    exact ⟨key, hkey⟩
  obtain ⟨result, race', hreaches, hends, hwon⟩ := exists_reaches htimes hsource
    (ensures_refresh_alone (i := i) hplain hnames hkeys.isFit hcan hahead hfails hplace hopen)
  rw [goOn_self hrest] at hreaches
  exact ⟨result, _, hreaches, rest_goOn, hends, hwon⟩

end Race

end WebhookTrust
