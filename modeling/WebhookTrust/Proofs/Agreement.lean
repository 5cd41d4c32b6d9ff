import WebhookTrust.Proofs.Lone

/-!
# Racing rotators agree

In a race that begins without a Secret, or with one whose authority does not pass, at most one write
is ever accepted, and a rotator that gives an outcome has either made it or found it.

## The theorem, and what it rests on

`Race.rotators_agree` is about every state that a race can reach: any number of rotators, any order
of their calls, calls that are refused, replies that are lost, and any clocks of theirs that stay
near enough to each other. No rotator is assumed to be given a turn, so a state in which nobody has
an outcome is one of them.

The invariant (`Race.Inv`) is that every rotator keeps the contract of one among others, in a
standing that the race backs: a rotator that takes itself to know the current version knows the one
of the beginning, unless it has seen what was made. Four facts carry it over a step.

* A write is accepted only while the race is open, since it has to name the current version
  (`Race.isOpen_of_isCurrent`).
* A write that is accepted settles the race, for it changes the version and makes what everybody
  leaves alone (`Race.storeInv_afterWrite`, `Rotator.verdict_of_makes`).
* What a reader learns and what a writer learns is backed (`Race.exists_standing_of_read`,
  `Race.exists_standing_of_write`).
* The standing of a rotator that has no turn stays backed (`Race.Backs.of_spares`).
-/

namespace WebhookTrust

variable {ι : Type} {rotator : Rotator} {found : Option Secret} {isTime : Instant → Prop}
  {isKey : Except KeyFault Rsa.PrivateKey → Prop}

namespace Race


open Procedure

variable {race race' : Race ι} {i j : ι} {standing : Standing}

/-- One write was accepted. What it wrote was made by its writer from the Secret of the beginning
and is there, in another version. -/
def IsSettled (rotator : Rotator) (found : Option Secret) (isTime : Instant → Prop)
    (race : Race ι) : Prop :=
  ∃ write stored, race.accepted = [write] ∧ race.stored = some stored ∧
    rotator.Makes isTime (rotator.basis found) write.drawn write.secret ∧
    write.secret.IsKeptAs stored ∧
    ∀ old, found = some old → stored.metadata.resourceVersion ≠ old.metadata.resourceVersion

/-- A rotator stands in the race as it says. -/
structure Backs (race : Race ι) (i : ι) (standing : Standing) : Prop where
  drawn : standing.drawn = (race.racer i).drawn
  won : standing.hasWon = true → ∃ write, race.accepted = [write] ∧ write.writer = i
  seen : standing.hasSeen = true → race.accepted ≠ []

/-- What holds of the store at all times of a race. -/
structure StoreInv (rotator : Rotator) (found : Option Secret) (isTime : Instant → Prop)
    (race : Race ι) : Prop where
  phase : race.IsOpen found ∨ race.IsSettled rotator found isTime
  versions : ∀ old, found = some old → old.metadata.resourceVersion ∈ race.versions

/-- What holds at all times of a race: every rotator keeps its contract, in a standing that the race
backs. -/
structure Inv (rotator : Rotator) (found : Option Secret) (isTime : Instant → Prop)
    (isKey : Except KeyFault Rsa.PrivateKey → Prop) (race : Race ι) : Prop where
  store : race.StoreInv rotator found isTime
  racers : ∀ i, ∃ standing, Ensures (.racing rotator found isTime isKey) Rotator.EndsRace
    (race.racer i).rest standing ∧ race.Backs i standing

/-- What an effect of one rotator leaves to the others: they go on as they were, and a write that
was accepted stays so. -/
structure Spares (race race' : Race ι) (i : ι) : Prop where
  racer : ∀ j, j ≠ i → race'.racer j = race.racer j
  accepted : race.accepted ≠ [] → race'.accepted = race.accepted

theorem Spares.refl (race : Race ι) (i : ι) : race.Spares race i := ⟨fun _ _ ↦ rfl, fun _ ↦ rfl⟩

/-- Whom a step spares has the standing that it had. -/
theorem Backs.of_spares (h : race.Backs j standing) (hspares : race.Spares race' i) (hne : j ≠ i) :
    race'.Backs j standing where
  drawn := by rw [hspares.racer j hne, h.drawn]
  won hwon := by
    obtain ⟨write, haccepted, hwriter⟩ := h.won hwon
    exact ⟨write, by rw [hspares.accepted (by simp [haccepted]), haccepted], hwriter⟩
  seen hseen := by
    rw [hspares.accepted (h.seen hseen)]
    exact h.seen hseen

/-- **A write is accepted only while the race is open.** -/
theorem isOpen_of_isCurrent (hinv : race.StoreInv rotator found isTime) {secret : Secret}
    (hmakes : rotator.Makes isTime (rotator.basis found) standing.drawn secret)
    (hcurrent : (found = none ∧ race.stored = none) ∨ (found.isSome ∧ ∃ current,
      race.stored = some current ∧
        secret.metadata.resourceVersion = current.metadata.resourceVersion)) :
    race.IsOpen found := by
  refine hinv.phase.resolve_right ?_
  rintro ⟨write, stored, -, hstored, -, -, hother⟩
  rcases hcurrent with ⟨-, hnone⟩ | ⟨hsome, current, hcurrent, hversion⟩
  · simp [hnone] at hstored
  · obtain ⟨old, rfl⟩ := Option.isSome_iff_exists.1 hsome
    obtain rfl : current = stored := Option.some.inj (hcurrent.symm.trans hstored)
    obtain ⟨_, _, _, _, -, -, -, -, -, -, -, rfl⟩ := hmakes
    exact hother old rfl hversion.symm

/-- A write that is accepted settles the race. -/
theorem storeInv_afterWrite (hinv : race.StoreInv rotator found isTime) (hopen : race.IsOpen found)
    {secret stored : Secret}
    (hmakes : rotator.Makes isTime (rotator.basis found) (race.racer i).drawn secret)
    (hkept : secret.IsKeptAs stored) (hfresh : stored.metadata.resourceVersion ∉ race.versions) :
    (race.afterWrite i secret stored).StoreInv rotator found isTime where
  phase := by
    refine .inr ⟨⟨i, (race.racer i).drawn, secret⟩, stored, ?_, rfl, hmakes, hkept, ?_⟩
    · simp [afterWrite, hopen.1]
    · rintro old hold heq
      exact hfresh (heq ▸ hinv.versions old hold)
  versions old hold := List.mem_cons_of_mem _ (hinv.versions old hold)

/-- After a write the writer knows at most what is the case. -/
theorem exists_standing_of_write (hinv : race.StoreInv rotator found isTime)
    (hbacks : race.Backs i standing) {secret : Secret} {isCurrent : Prop}
    {reply : Except Error Unit}
    (hmakes : rotator.Makes isTime (rotator.basis found) standing.drawn secret)
    (hopen : isCurrent → race.IsOpen found)
    (hwrite : race.answersWrite i secret isCurrent reply race') :
    ∃ standing', standing.answersWrite reply standing' ∧ race'.Backs i standing' ∧
      race'.StoreInv rotator found isTime ∧ race.Spares race' i := by
  rcases hwrite with ⟨hcurrent, stored, hkept, hfresh, rfl⟩ | ⟨⟨e, rfl⟩, rfl⟩
  · have hisOpen := hopen hcurrent
    have haccepted : (race.afterWrite i secret stored).accepted =
        [⟨i, (race.racer i).drawn, secret⟩] := by simp [afterWrite, hisOpen.1]
    have hwon : ∃ write, (race.afterWrite i secret stored).accepted = [write] ∧ write.writer = i :=
      ⟨_, haccepted, rfl⟩
    have hstore := storeInv_afterWrite hinv hisOpen (hbacks.drawn ▸ hmakes) hkept hfresh
    have hspares : race.Spares (race.afterWrite i secret stored) i :=
      ⟨fun _ _ ↦ rfl, fun hne ↦ absurd hisOpen.1 hne⟩
    -- a lost reply leaves the writer without knowledge of its own write
    cases reply with
    | ok u =>
      exact ⟨{ standing with hasWon := true }, .inl ⟨rfl, rfl⟩,
        ⟨hbacks.drawn, fun _ ↦ hwon, fun _ ↦ by simp [haccepted]⟩, hstore, hspares⟩
    | error e =>
      exact ⟨standing, .inr ⟨⟨e, rfl⟩, rfl⟩,
        ⟨hbacks.drawn, fun _ ↦ hwon, fun _ ↦ by simp [haccepted]⟩, hstore, hspares⟩
  · exact ⟨standing, .inr ⟨⟨e, rfl⟩, rfl⟩, hbacks, hinv, .refl _ i⟩

/-- The invariant holds in the beginning. -/
theorem inv_start (hplain : rotator.IsPlain) (hkeys : ∀ key, isKey (.ok key) → key.IsFit)
    (htimely : rotator.IsTimely isTime) (hfails : rotator.FailsThroughout found isTime) :
    (start (ι := ι) rotator found).Inv rotator found isTime isKey where
  store := {
    phase := .inl ⟨rfl, rfl⟩
    versions := fun old hold ↦ by simp [start, hold] }
  racers i := ⟨⟨[], false, false⟩, Rotator.ensures_refresh_racing hplain hkeys htimely hfails,
    ⟨rfl, by simp, by simp⟩⟩

variable [DecidableEq ι]

/-- After a read the reader has seen what is there. -/
theorem exists_standing_of_read (hinv : race.StoreInv rotator found isTime)
    (hbacks : race.Backs i standing) :
    ∃ standing', standing.answers rotator found isTime isKey
        (.store (.getSecret rotator.config.secretKey)) (.ok race.stored) standing' ∧
      (race.afterRead i).Backs i standing' := by
  have hdrawn : ((race.afterRead i).racer i).drawn = [] := by simp [afterRead, setRacer]
  rcases hinv.phase with ⟨-, hstored⟩ | ⟨write, stored, haccepted, hstored, hmakes, hkept, -⟩
  · exact ⟨{ standing with drawn := [] }, .inr (.inl ⟨by rw [hstored], rfl⟩),
      ⟨hdrawn.symm, hbacks.won, hbacks.seen⟩⟩
  · refine ⟨{ standing with drawn := [], hasSeen := true },
      .inr (.inr ⟨write.drawn, write.secret, stored, hmakes, hkept, by rw [hstored], rfl⟩),
      ⟨hdrawn.symm, hbacks.won, fun _ ↦ ?_⟩⟩
    have hne : race.accepted ≠ [] := by simp [haccepted]
    exact hne

/-- **Whatever a permitted effect is answered, the rotator's contract foresees it.** -/
theorem exists_standing (hinv : race.StoreInv rotator found isTime) (hbacks : race.Backs i standing)
    {effect : Effect} {reply : effect.Reply}
    (hpermits : standing.permits rotator found isTime effect)
    (hanswers : race.answers rotator.config.secretKey isTime isKey i effect reply race') :
    ∃ standing', standing.answers rotator found isTime isKey effect reply standing' ∧
      race'.Backs i standing' ∧ race'.StoreInv rotator found isTime ∧ race.Spares race' i := by
  cases effect with
  | store call =>
    cases call with
    | getSecret wanted =>
      rcases hanswers with ⟨rfl, ⟨rfl, rfl⟩ | ⟨⟨e, rfl⟩, rfl⟩⟩
      · obtain ⟨standing', hanswer, hbacks'⟩ := exists_standing_of_read hinv hbacks
        refine ⟨standing', hanswer, hbacks', ⟨hinv.phase, hinv.versions⟩, ?_, fun _ ↦ rfl⟩
        exact fun j hne ↦ Function.update_of_ne hne _ _
      · exact ⟨standing, .inl ⟨e, rfl, rfl⟩, hbacks, hinv, .refl _ i⟩
    | createSecret secret =>
      obtain ⟨hnone, hmakes⟩ := hpermits
      exact exists_standing_of_write hinv hbacks hmakes
        (fun habsent ↦ isOpen_of_isCurrent hinv hmakes (.inl ⟨hnone, habsent⟩)) hanswers.2
    | replaceSecret secret =>
      obtain ⟨hsome, hmakes⟩ := hpermits
      exact exists_standing_of_write hinv hbacks hmakes
        (fun hcurrent ↦ isOpen_of_isCurrent hinv hmakes (.inr ⟨hsome, hcurrent⟩)) hanswers.2
    | getConsumer | replaceConsumer => exact hpermits.elim
  | now =>
    obtain ⟨htime, rfl⟩ := hanswers
    exact ⟨standing, ⟨htime, rfl⟩, hbacks, hinv, .refl _ i⟩
  | newKey =>
    obtain ⟨hkey, rfl⟩ := hanswers
    refine ⟨standing.draw reply, ⟨hkey, rfl⟩, ⟨?_, hbacks.won, hbacks.seen⟩,
      ⟨hinv.phase, hinv.versions⟩, ?_, fun _ ↦ rfl⟩
    · simp [Standing.draw, afterKey, setRacer, hbacks.drawn]
    · exact fun j hne ↦ Function.update_of_ne hne _ _
  | jitter | sleep | log | record | notify =>
    obtain ⟨-, rfl⟩ := hanswers
    exact ⟨standing, rfl, hbacks, hinv, .refl _ i⟩
  | fileExists | isInjected | setInjected | fire | await | spawnPollers | startTicker | wait =>
    exact hpermits.elim

/-- What a rotator is told to do next changes nothing else. -/
theorem Backs.goOn (h : race.Backs j standing)
    (rest : Procedure (Except Error RotationOutcome)) : (race.goOn i rest).Backs j standing where
  drawn := by
    by_cases heq : j = i
    · subst heq
      simpa [Race.goOn, setRacer] using h.drawn
    · simpa [Race.goOn, setRacer, heq] using h.drawn
  won := h.won
  seen := h.seen

/-- **A step keeps the invariant.** -/
theorem inv_of_step (hinv : race.Inv rotator found isTime isKey)
    (hstep : race.Step rotator.config.secretKey isTime isKey race') :
    race'.Inv rotator found isTime isKey := by
  obtain @⟨race', i, effect, next, reply, hrest, hanswers⟩ := hstep
  obtain ⟨standing, hensures, hbacks⟩ := hinv.racers i
  rw [hrest] at hensures
  obtain ⟨hpermits, hnext⟩ := hensures
  obtain ⟨standing', hanswer, hbacks', hstore, hspares⟩ :=
    exists_standing hinv.store hbacks hpermits hanswers
  refine ⟨⟨hstore.phase, hstore.versions⟩, ?_⟩
  intro j
  by_cases heq : j = i
  · -- the rotator that moved stands as its contract foresees
    subst heq
    exact ⟨standing', by simpa [goOn, setRacer] using hnext reply standing' hanswer, hbacks'.goOn _⟩
  · -- the others stand as they stood
    obtain ⟨other, hother, hbacksOther⟩ := hinv.racers j
    refine ⟨other, ?_, (hbacksOther.of_spares hspares heq).goOn _⟩
    simpa [goOn, setRacer, heq, hspares.racer j heq] using hother

/-- **The invariant holds at all times.** -/
theorem inv_of_reaches (hinv : race.Inv rotator found isTime isKey)
    (hreaches : race.Reaches rotator.config.secretKey isTime isKey race') :
    race'.Inv rotator found isTime isKey := by
  induction hreaches with
  | refl => exact hinv
  | tail _ hstep ih => exact inv_of_step ih hstep

/-! ### Agreement -/

/-- **Racing rotators agree on one authority.** As long as no rotator has given an outcome, the race
may be open. From then on exactly one write was accepted. All that is stored was made in one attempt
of one rotator; that one may say so, and the others say that there was nothing to do. -/
theorem rotators_agree (hplain : rotator.IsPlain) (hkeys : ∀ key, isKey (.ok key) → key.IsFit)
    (htimely : rotator.IsTimely isTime) (hfails : rotator.FailsThroughout found isTime)
    (hreaches : (start rotator found).Reaches rotator.config.secretKey isTime isKey race) :
    (race.IsOpen found ∧ ∀ i outcome, (race.racer i).rest ≠ .pure (.ok outcome)) ∨
    ∃ write stored caNow leafNow caKey leafKey, race.accepted = [write] ∧
      isTime caNow ∧ isTime leafNow ∧ write.drawn = [.ok caKey, .ok leafKey] ∧
      write.secret = rotator.withNewAuthority (rotator.basis found) caNow leafNow caKey leafKey ∧
      race.stored = some stored ∧ write.secret.IsKeptAs stored ∧
      ∀ i outcome, (race.racer i).rest = .pure (.ok outcome) →
        outcome = .unchanged ∨ outcome = .rotatedCa ∧ i = write.writer := by
  have hinv := inv_of_reaches (inv_start hplain hkeys htimely hfails) hreaches
  -- what a rotator that has ended says about itself, by its contract
  have hends : ∀ i outcome, (race.racer i).rest = .pure (.ok outcome) → ∃ standing,
      race.Backs i standing ∧ ((outcome = .rotatedCa ∧ standing.hasWon = true) ∨
        (outcome = .unchanged ∧ standing.hasSeen = true)) := by
    intro i outcome hrest
    obtain ⟨standing, hensures, hbacks⟩ := hinv.racers i
    rw [hrest] at hensures
    exact ⟨standing, hbacks, hensures outcome rfl⟩
  rcases hinv.store.phase with hopen | ⟨write, stored, haccepted, hstored, hmakes, hkept, -⟩
  · refine .inl ⟨hopen, ?_⟩
    intro i outcome hrest
    rcases hends i outcome hrest with ⟨standing, hbacks, ⟨-, hwon⟩ | ⟨-, hseen⟩⟩
    · obtain ⟨write, haccepted, -⟩ := hbacks.won hwon
      simp [hopen.1] at haccepted
    · exact hbacks.seen hseen hopen.1
  · obtain ⟨caNow, leafNow, caKey, leafKey, hcaNow, hleafNow, -, -, -, -, hdrawn, hmade⟩ := hmakes
    refine .inr ⟨write, stored, caNow, leafNow, caKey, leafKey, haccepted, hcaNow, hleafNow, hdrawn,
      hmade, hstored, hkept, fun i outcome hrest ↦ ?_⟩
    rcases hends i outcome hrest with ⟨standing, hbacks, ⟨houtcome, hwon⟩ | ⟨houtcome, -⟩⟩
    · obtain ⟨other, hother, rfl⟩ := hbacks.won hwon
      obtain rfl : write = other := by simpa [haccepted] using hother
      exact .inr ⟨houtcome, rfl⟩
    · exact .inl houtcome

/-- Any number of rotators race for a Secret that is not there, and one of them wins. -/
theorem rotators_agree_absent :
    ∃ (race : Race Nat) (write : AcceptedWrite Nat) (stored : Secret),
      (start Simulation.sampleRotator none).Reaches Simulation.sampleRotator.config.secretKey
        (· = ⟨0, 0⟩) Simulation.isSampleKey race ∧
      (race.racer 0).rest = .pure (.ok .rotatedCa) ∧ race.accepted = [write] ∧ write.writer = 0 ∧
      race.stored = some stored ∧ write.secret.IsKeptAs stored ∧
      ∀ i outcome, (race.racer i).rest = .pure (.ok outcome) →
        outcome = .unchanged ∨ outcome = .rotatedCa ∧ i = write.writer := by
  have hplain := Simulation.isRegular_sample.toIsPlain
  have hkeys := Simulation.isReliableSource_sample
  have hfails : Simulation.sampleRotator.FailsThroughout none (· = ⟨0, 0⟩) := by rintro _ ⟨⟩
  have htimely : Simulation.sampleRotator.IsTimely (· = ⟨0, 0⟩) :=
    Simulation.isRegular_sample.isTimely_eq _
  have htimes : ∃ now : Instant, now = ⟨0, 0⟩ := ⟨_, rfl⟩
  have hopen : (start (ι := Nat) Simulation.sampleRotator none).IsOpen none := ⟨rfl, rfl⟩
  obtain ⟨result, race, hreaches, hrest, hends, write, haccepted, hwriter⟩ :=
    exists_winner (i := 0) hplain Simulation.isRegular_sample.names hkeys ⟨_, rfl⟩ htimes
      (by rintro _ rfl; unfold Issuance.IsWritableWindow; decide) (by rintro _ rfl; decide) hfails
      rfl hopen rfl
  obtain rfl := Simulation.eq_of_endsWith_sample hends
  obtain ⟨-, hnone⟩ | ⟨other, stored, -, -, -, -, hother, -, -, -, -, hstored, hkept, houtcomes⟩ :=
    rotators_agree hplain hkeys.isFit htimely hfails hreaches
  · exact absurd hrest (hnone 0 .rotatedCa)
  · obtain rfl : write = other := by simpa [haccepted] using hother
    exact ⟨race, write, stored, hreaches, hrest, haccepted, hwriter, hstored, hkept, houtcomes⟩

end Race

end WebhookTrust
