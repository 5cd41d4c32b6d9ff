import WebhookTrust.Proofs.Scene

/-!
# Checks by the only writer

With nobody else writing, an attempt ends in one of six ways (`Rotator.Checks`), and a failed
attempt leaves everything as it was, so that the next one starts from the same Secret.

An attempt looks at the clock up to three times: before it comes to a verdict, when it makes an
authority, and when it makes a serving certificate (`Readings`). Nothing is assumed of what the
clock shows then; it may go back in between. So the ways to end are told for three readings, and
what is said of checks holds for some readings of their clock.

## The theorems, and what each rests on

* `Rotator.ensures_refreshOnce_refusing`: an attempt ends in one of the six ways, or with a call
  that the store refuses (`Contract.refusing`). It rests on what replacing certificates ensures of
  surroundings with a clock and a source of keys (`Rotator.ensures_rotate_ca`,
  `Rotator.ensures_rotate_leaf`), and on a store that keeps what it is given.
* `Rotator.ensures_refresh_of_ok`: a check in which no attempt can fail ends as its first attempt.
* `Rotator.ensures_refresh_refusing`: a check in which attempts fail only with calls that are
  refused ends as an attempt, if the configuration allows more attempts than calls are refused. So
  what has to be replaced is replaced in the end (`Rotator.ensures_refresh_replaces_refusing`).
* `Rotator.ensures_refresh_sole`: a check with a result ends as an attempt with an outcome, since
  what failed before has changed nothing (`Rotator.Checks.comesToNothing`).
-/

namespace WebhookTrust

/-! ### What the clock shows in an attempt -/

/-- When an authority and a serving certificate were made. -/
structure Dates where
  ca : Instant
  leaf : Instant

namespace Dates

/-- Can certificates tell the dates, and the ends of their periods? -/
def AreWritable (dates : Dates) : Prop :=
  Issuance.IsWritableWindow (.standard dates.ca) ∧ Issuance.IsWritableWindow (.standard dates.leaf)

/-- Does the instant lie in the periods of what is made at the dates? -/
def Cover (dates : Dates) (instant : Instant) : Prop :=
  (Issuance.periodOf (.standard dates.ca)).Covers instant ∧
    (Issuance.periodOf (.standard dates.leaf)).Covers instant

end Dates

/-- What the clock shows in an attempt: when it looks at the Secret, and when it makes what it
makes. Where nothing is made the date is any other reading. -/
structure Readings extends Dates where
  now : Instant

/-- Are the readings such as the clock may show? -/
structure Readings.AreWithin (readings : Readings) (isTime : Instant → Prop) : Prop where
  ca : isTime readings.ca
  leaf : isTime readings.leaf
  now : isTime readings.now

theorem Readings.AreWithin.mono {readings : Readings} {isTime isTime' : Instant → Prop}
    (h : readings.AreWithin isTime) (htimes : ∀ now, isTime now → isTime' now) :
    readings.AreWithin isTime' := ⟨htimes _ h.ca, htimes _ h.leaf, htimes _ h.now⟩

/-- The readings of a clock that shows one time only. -/
def Readings.still (clock : Instant) : Readings := ⟨⟨clock, clock⟩, clock⟩

theorem Readings.AreWithin.still {isTime : Instant → Prop} {clock : Instant} (h : isTime clock) :
    (Readings.still clock).AreWithin isTime := ⟨h, h, h⟩

/-- A clock that shows one time only has no other readings. -/
theorem Readings.areWithin_eq {readings : Readings} {clock : Instant} :
    readings.AreWithin (· = clock) ↔ readings = still clock := by
  refine ⟨fun ⟨hca, hleaf, hnow⟩ ↦ ?_, fun h ↦ h ▸ .still rfl⟩
  obtain ⟨⟨ca, leaf⟩, now⟩ := readings
  simp_all [still]

/-- Clocks that show one time each have no other readings. -/
theorem Readings.eq_map_still {clocks : List Instant} {seen : List Readings}
    (h : List.Forall₂ (fun clock readings ↦ Readings.AreWithin readings (· = clock)) clocks seen) :
    seen = clocks.map still := by
  induction h with
  | nil => rfl
  | cons hwithin _ ih => rw [areWithin_eq.1 hwithin, ih, List.map_cons]

/-- The dates of what is there after an attempt with an outcome. -/
def Dates.after (dates : Dates) (readings : Readings) : RotationOutcome → Dates
  | .unchanged => dates
  | .rotatedLeaf => ⟨dates.ca, readings.leaf⟩
  | .rotatedCa => readings.toDates

namespace Rotator

open Procedure

variable {rotator : Rotator} {isTime : Instant → Prop} {readings : Readings}
  {isKey : Except KeyFault Rsa.PrivateKey → Prop} {scene : Scene}

/-- The Secret that a check looks at: the one that is there, or a new one. -/
def subject (rotator : Rotator) (scene : Scene) : Secret :=
  scene.secret.getD (.new rotator.config.secretKey)

/-- The Secret that a check looks at is where the configuration says. -/
theorem key?_subject
    (h : ∀ secret, scene.secret = some secret → secret.key? = some rotator.config.secretKey) :
    (rotator.subject scene).key? = some rotator.config.secretKey := by
  rw [subject]
  cases hsecret : scene.secret with
  | none => rfl
  | some secret => exact h secret hsecret

/-- Is the Secret, if there is one, where the configuration says? -/
def IsPlaced (rotator : Rotator) (scene : Scene) : Prop :=
  (rotator.subject scene).key? = some rotator.config.secretKey

/-- The ways in which an attempt ends, and the scene that it leaves. -/
inductive Checks (rotator : Rotator) (readings : Readings)
    (isKey : Except KeyFault Rsa.PrivateKey → Prop) (scene : Scene) :
    Except Halt (Except Error RotationOutcome) → Scene → Prop
  /-- The instant to check is not in the calendar. -/
  | crashed (hinstant : rotator.horizon? readings.now = none) :
    Checks rotator readings isKey scene (.error .crashed) scene
  /-- Both certificates pass. -/
  | unchanged {instant : Instant} (hsecret : scene.secret = some (rotator.subject scene))
    (hinstant : rotator.horizon? readings.now = some instant)
    (hverdict : rotator.verdict (rotator.subject scene) instant = .unchanged) :
    Checks rotator readings isKey scene (.ok (.ok .unchanged)) scene
  /-- Only the authority passes, and no serving certificate can be made under it. -/
  | failedLeaf {instant : Instant} {e : Error}
    (hinstant : rotator.horizon? readings.now = some instant)
    (hverdict : rotator.verdict (rotator.subject scene) instant = .rotatedLeaf)
    (hcannot : ¬ (CanAlwaysMake (· = readings.leaf) isKey ∧ rotator.HasAsciiNames ∧
      ∃ ca issuer, (rotator.subject scene).authority = .ok ca ∧ Issuance.CanIssue ca issuer)) :
    Checks rotator readings isKey scene (.ok (.error e)) scene
  /-- The authority does not pass, and none can be made, or no serving certificate under it. -/
  | failedCa {instant : Instant} {e : Error}
    (hinstant : rotator.horizon? readings.now = some instant)
    (hverdict : rotator.verdict (rotator.subject scene) instant = .rotatedCa)
    (hcannot : ¬ (CanAlwaysMake (· ∈ [readings.ca, readings.leaf]) isKey ∧
      rotator.HasAsciiNames)) :
    Checks rotator readings isKey scene (.ok (.error e)) scene
  /-- Only the authority passes, and a serving certificate was made under it. -/
  | rotatedLeaf {stored : Secret} {instant : Instant} {ca : KeyPair} {issuer : Name}
    {key : Rsa.PrivateKey}
    (hinstant : rotator.horizon? readings.now = some instant)
    (hverdict : rotator.verdict (rotator.subject scene) instant = .rotatedLeaf)
    (hload : (rotator.subject scene).authority = .ok ca) (hissuer : Issuance.CanIssue ca issuer)
    (hwindow : Issuance.IsWritableWindow (.standard readings.leaf)) (hkey : isKey (.ok key))
    (hkept : (rotator.withNewLeaf (rotator.subject scene) ca issuer readings.leaf
      key).IsKeptAs stored) :
    Checks rotator readings isKey scene (.ok (.ok .rotatedLeaf)) (scene.withSecret stored)
  /-- The authority does not pass, and both certificates were made. -/
  | rotatedCa {stored : Secret} {instant : Instant} {caKey leafKey : Rsa.PrivateKey}
    (hinstant : rotator.horizon? readings.now = some instant)
    (hverdict : rotator.verdict (rotator.subject scene) instant = .rotatedCa)
    (hnames : rotator.HasAsciiNames) (hwindows : readings.AreWritable) (hcaKey : isKey (.ok caKey))
    (hleafKey : isKey (.ok leafKey))
    (hkept : (rotator.withNewAuthority (rotator.subject scene) readings.ca readings.leaf caKey
      leafKey).IsKeptAs stored) :
    Checks rotator readings isKey scene (.ok (.ok .rotatedCa)) (scene.withSecret stored)

/-- How an attempt ends if so many calls may be refused: a call is refused, which changes nothing,
or none is, and it ends in one of the six ways. -/
def EndsAttempt (rotator : Rotator) (isTime : Instant → Prop)
    (isKey : Except KeyFault Rsa.PrivateKey → Prop) (state : Nat × Scene)
    (result : Except Halt (Except Error RotationOutcome)) (state' : Nat × Scene) : Prop :=
  (∃ e, result = .ok (.error e)) ∧ state.1 = state'.1 + 1 ∧ state'.2 = state.2 ∨
    state'.1 = state.1 ∧ ∃ readings : Readings, readings.AreWithin isTime ∧
      rotator.Checks readings isKey state.2 result state'.2

variable {budget : Nat}

/-- A write where the Secret is, or where it is not yet, is refused or takes effect. -/
theorem ensures_write {secret : Secret} (hkey : secret.key? = some rotator.config.secretKey) :
    Ensures (Contract.sole rotator.config.secretKey isTime isKey fun _ ↦ True).refusing
      (fun result state ↦
        (∃ e, result = .ok (.error e)) ∧ budget = state.1 + 1 ∧ state.2 = scene ∨
          state.1 = budget ∧ result = .ok (.ok ()) ∧
            ∃ stored, secret.IsKeptAs stored ∧ state.2 = scene.withSecret stored)
      (write scene.secret.isSome secret) (budget, scene) := by
  cases hsecret : scene.secret with
  | none =>
    refine ⟨⟨hkey, hsecret⟩, ?_⟩
    rintro reply state' (⟨hbudget, hreply, hkept⟩ | ⟨⟨e, rfl⟩, hbudget, hscene⟩)
    · exact .inr ⟨hbudget, congrArg _ hreply, hkept⟩
    · exact .inl ⟨⟨e, rfl⟩, hbudget, hscene⟩
  | some found =>
    refine ⟨⟨hkey, by simp [hsecret]⟩, ?_⟩
    rintro reply state' (⟨hbudget, hreply, hkept⟩ | ⟨⟨e, rfl⟩, hbudget, hscene⟩)
    · exact .inr ⟨hbudget, congrArg _ hreply, hkept⟩
    · exact .inl ⟨⟨e, rfl⟩, hbudget, hscene⟩

/-- A write of what was made ends the attempt, with the outcome or with the call that is refused. -/
theorem ensures_write_ends (readings : Readings) {secret : Secret} {outcome : RotationOutcome}
    (hkey : secret.key? = some rotator.config.secretKey) (hwithin : readings.AreWithin isTime)
    (hchecks : ∀ stored, secret.IsKeptAs stored →
      rotator.Checks readings isKey scene (.ok (.ok outcome)) (scene.withSecret stored)) :
    Ensures (Contract.sole rotator.config.secretKey isTime isKey fun _ ↦ True).refusing
      (fun result ↦ rotator.EndsAttempt isTime isKey (budget, scene)
        (result.map (Except.map fun _ ↦ outcome)))
      (write scene.secret.isSome secret) (budget, scene) := by
  refine (ensures_write hkey).mono ?_
  rintro _ ⟨left, _⟩ (⟨⟨e, rfl⟩, hbudget, hscene⟩ | ⟨hbudget, rfl, stored, hkept, rfl⟩)
  · exact .inl ⟨⟨e, rfl⟩, hbudget, hscene⟩
  · exact .inr ⟨hbudget, readings, hwithin, hchecks stored hkept⟩

/-- **An attempt by the only writer ends in one of the six ways, or with a call that is
refused.** -/
theorem ensures_refreshOnce_refusing (hplain : rotator.IsPlain)
    (hkeys : ∀ key, isKey (.ok key) → key.IsFit) (hplace : rotator.IsPlaced scene) :
    Ensures (Contract.sole rotator.config.secretKey isTime isKey fun _ ↦ True).refusing
      (rotator.EndsAttempt isTime isKey (budget, scene)) rotator.refreshOnce (budget, scene) := by
  have hequips : (Contract.sole rotator.config.secretKey isTime isKey fun _ ↦ True).refusing.Equips
    isTime isKey fun state _ ↦ state := Contract.equips_refusing
  refine ensures_refreshOnce hequips rfl ?_ ?_
  · rintro e state' (⟨-, hreply, -⟩ | ⟨-, hrefused⟩)
    · cases hreply
    · exact .inl ⟨⟨e, rfl⟩, hrefused⟩
  rintro found ⟨left, scene'⟩ now hanswer hnow
  obtain ⟨rfl, rfl, rfl⟩ : left = budget ∧ found = scene.secret ∧ scene' = scene := by
    rcases hanswer with ⟨hbudget, hreply, hscene⟩ | ⟨⟨e, hreply⟩, -⟩
    · exact ⟨hbudget, Except.ok.inj hreply, hscene⟩
    · cases hreply
  refine ⟨fun hinstant ↦ .inr ⟨rfl, .still now, .still hnow, .crashed hinstant⟩, ?_⟩
  intro instant hinstant
  refine ⟨fun hverdict ↦ .inr ⟨rfl, .still now, .still hnow, .unchanged ?_ hinstant hverdict⟩,
    fun hne ↦ ?_⟩
  · cases hsecret : scene'.secret with
    | none => simp [hsecret, verdict_new] at hverdict
    | some secret => simp [subject, hsecret]
  -- a Secret that was not found is assessed as a new one, which is what `subject` says
  change Ensures _ _ (rotator.rotate (rotator.verdict (rotator.subject scene') instant) _
    (rotator.subject scene')) _
  cases hverdict : rotator.verdict (rotator.subject scene') instant with
  | unchanged => exact absurd hverdict hne
  | rotatedLeaf =>
    refine ensures_rotate_leaf hequips hplain hkeys hnow ?_ ?_
    · intro e replies leafNow hleafTime hcannot
      rw [List.foldl_fixed]
      exact .inr ⟨rfl, ⟨⟨now, leafNow⟩, now⟩, ⟨hnow, hleafTime, hnow⟩,
        .failedLeaf hinstant hverdict hcannot⟩
    · intro ca leafNow key issuer hload hleafTime hkey hwindow hissuer
      have hwritten : (rotator.withNewLeaf (rotator.subject scene') ca issuer leafNow key).key? =
        some rotator.config.secretKey := hplace
      exact ensures_write_ends ⟨⟨now, leafNow⟩, now⟩ hwritten
        ⟨hnow, hleafTime, hnow⟩ fun stored hkept ↦
          .rotatedLeaf hinstant hverdict hload hissuer hwindow hkey hkept
  | rotatedCa =>
    refine ensures_rotate_ca hequips hplain hkeys ?_ ?_
    · intro e replies caNow leafNow hcaTime hleafTime hcannot
      rw [List.foldl_fixed]
      exact .inr ⟨rfl, ⟨⟨caNow, leafNow⟩, now⟩, ⟨hcaTime, hleafTime, hnow⟩,
        .failedCa hinstant hverdict hcannot⟩
    · intro caNow leafNow caKey leafKey hnames hcaTime hleafTime hcaKey hleafKey hcaWindow
        hleafWindow
      have hwritten : (rotator.withNewAuthority (rotator.subject scene') caNow leafNow caKey
        leafKey).key? = some rotator.config.secretKey := hplace
      exact ensures_write_ends ⟨⟨caNow, leafNow⟩, now⟩ hwritten
        ⟨hcaTime, hleafTime, hnow⟩ fun stored hkept ↦
          .rotatedCa hinstant hverdict hnames ⟨hcaWindow, hleafWindow⟩ hcaKey hleafKey hkept

/-- **An attempt by the only writer ends in one of the six ways** if no call is refused. -/
theorem ensures_refreshOnce_sole (hplain : rotator.IsPlain)
    (hkeys : ∀ key, isKey (.ok key) → key.IsFit) (hplace : rotator.IsPlaced scene) :
    Ensures (.sole rotator.config.secretKey isTime isKey fun _ ↦ True)
      (fun result scene' ↦ ∃ readings : Readings, readings.AreWithin isTime ∧
        rotator.Checks readings isKey scene result scene') rotator.refreshOnce scene := by
  have hattempt : Ensures _ (rotator.EndsAttempt isTime isKey (0, scene)) _ (0, scene) :=
    ensures_refreshOnce_refusing hplain hkeys hplace
  refine Ensures.of_refusing (hattempt.mono ?_)
  rintro result state (⟨-, hbudget, -⟩ | ⟨-, hchecks⟩)
  · exact (Nat.succ_ne_zero _ hbudget.symm).elim
  · exact hchecks

/-! ### Attempts on a verdict -/

variable {instant : Instant} {result : Except Halt (Except Error RotationOutcome)} {scene' : Scene}

/-- The serving certificate alone is replaced if it has to be and can be. -/
theorem Checks.of_rotatedLeaf {ca : KeyPair} {issuer : Name}
    (h : rotator.Checks readings isKey scene result scene') (hnames : rotator.HasAsciiNames)
    (hcan : CanAlwaysMake (· = readings.leaf) isKey)
    (hinstant : rotator.horizon? readings.now = some instant)
    (hverdict : rotator.verdict (rotator.subject scene) instant = .rotatedLeaf)
    (hload : (rotator.subject scene).authority = .ok ca) (hissuer : Issuance.CanIssue ca issuer) :
    result = .ok (.ok .rotatedLeaf) ∧ ∃ key stored, isKey (.ok key) ∧
      (rotator.withNewLeaf (rotator.subject scene) ca issuer readings.leaf key).IsKeptAs stored ∧
      scene' = scene.withSecret stored := by
  cases h with
  | rotatedLeaf _ _ hload' hissuer' _ hkey hkept =>
    obtain rfl := Except.ok.inj (hload.symm.trans hload')
    obtain rfl := Option.some.inj (hissuer.2.2.symm.trans hissuer'.2.2)
    exact ⟨rfl, _, _, hkey, hkept, rfl⟩
  | failedLeaf _ _ hcannot => exact (hcannot ⟨hcan, hnames, ca, issuer, hload, hissuer⟩).elim
  | crashed | unchanged | failedCa | rotatedCa => simp_all

/-- Both certificates are replaced if they have to be and can be. -/
theorem Checks.of_rotatedCa (h : rotator.Checks readings isKey scene result scene')
    (hnames : rotator.HasAsciiNames) (hcan : CanAlwaysMake (· ∈ [readings.ca, readings.leaf]) isKey)
    (hinstant : rotator.horizon? readings.now = some instant)
    (hverdict : rotator.verdict (rotator.subject scene) instant = .rotatedCa) :
    result = .ok (.ok .rotatedCa) ∧ ∃ caKey leafKey stored, isKey (.ok caKey) ∧
      isKey (.ok leafKey) ∧ (rotator.withNewAuthority (rotator.subject scene) readings.ca
        readings.leaf caKey leafKey).IsKeptAs stored ∧ scene' = scene.withSecret stored := by
  cases h with
  | rotatedCa _ _ _ _ hcaKey hleafKey hkept => exact ⟨rfl, _, _, _, hcaKey, hleafKey, hkept, rfl⟩
  | failedCa _ _ hcannot => exact (hcannot ⟨hcan, hnames⟩).elim
  | crashed | unchanged | failedLeaf | rotatedLeaf => simp_all

/-- Nothing is done about what passes. -/
theorem Checks.of_unchanged (h : rotator.Checks readings isKey scene result scene')
    (hinstant : rotator.horizon? readings.now = some instant)
    (hverdict : rotator.verdict (rotator.subject scene) instant = .unchanged) :
    result = .ok (.ok .unchanged) ∧ scene' = scene := by
  cases h with
  | unchanged => exact ⟨rfl, rfl⟩
  | crashed | failedLeaf | failedCa | rotatedLeaf | rotatedCa => simp_all

/-! ### Checks with all their attempts -/

/-- **If no attempt can fail, a check ends as its first attempt.** -/
theorem ensures_refresh_of_ok (hplain : rotator.IsPlain)
    (hkeys : ∀ key, isKey (.ok key) → key.IsFit) (hplace : rotator.IsPlaced scene)
    (hok : ∀ (readings : Readings) e scene', readings.AreWithin isTime →
      ¬ rotator.Checks readings isKey scene (.ok (.error e)) scene') :
    Ensures (.sole rotator.config.secretKey isTime isKey fun _ ↦ True)
      (fun result scene' ↦ ∃ (readings : Readings) (attempt : _), readings.AreWithin isTime ∧
        rotator.Checks readings isKey scene attempt scene' ∧ rotator.Concludes attempt result)
      rotator.refresh scene := by
  refine ensures_refresh Contract.equips_sole hplain (Backoff.ensures_retry_of_ok ?_)
  refine (ensures_refreshOnce_sole hplain hkeys hplace).mono ?_
  rintro attempt scene' ⟨readings, hwithin, hchecks⟩
  refine ⟨?_, fun result hconcludes ↦ ⟨readings, attempt, hwithin, hchecks, hconcludes⟩⟩
  rintro e rfl
  exact hok readings e scene' hwithin hchecks

/-- **If only calls that are refused make an attempt fail, and there are more attempts than these, a
check ends as an attempt.** -/
theorem ensures_refresh_refusing (hplain : rotator.IsPlain)
    (hkeys : ∀ key, isKey (.ok key) → key.IsFit) (hplace : rotator.IsPlaced scene)
    (hok : ∀ (readings : Readings) e scene', readings.AreWithin isTime →
      ¬ rotator.Checks readings isKey scene (.ok (.error e)) scene')
    (hmultiplier : 0 ≤ rotator.config.refreshBackoff.multiplier)
    (hbound : budget < Backoff.attemptBound)
    (hmore : ∀ k ≤ budget, 0 < k → rotator.config.refreshBackoff.isExhausted k = false) :
    Ensures (Contract.sole rotator.config.secretKey isTime isKey fun _ ↦ True).refusing
      (fun result state ↦ ∃ (readings : Readings) (attempt : _), readings.AreWithin isTime ∧
        rotator.Checks readings isKey scene attempt state.2 ∧ rotator.Concludes attempt result)
      rotator.refresh (budget, scene) := by
  refine ensures_refresh Contract.equips_refusing hplain ?_
  refine Backoff.ensures_retry_of_budget Contract.isQuiet_sole.refusing.isIdle hmultiplier
    (fun before state (hstate : state = (before, scene)) ↦ ?_) hbound hmore rfl
  subst hstate
  refine (ensures_refreshOnce_refusing hplain hkeys hplace).mono ?_
  rintro attempt ⟨left, scene'⟩ (⟨⟨e, rfl⟩, hbudget, rfl⟩ | ⟨-, readings, hwithin, hchecks⟩)
  · exact ⟨fun _ _ ↦ ⟨left, Nat.lt_of_lt_of_eq (Nat.lt_succ_self left) hbudget.symm, rfl⟩,
      fun hne ↦ absurd rfl (hne e)⟩
  · refine ⟨?_, fun _ result hconcludes ↦ ⟨readings, attempt, hwithin, hchecks, hconcludes⟩⟩
    rintro e rfl
    exact (hok readings e scene' hwithin hchecks).elim

/-- **Refused calls do not keep an authority that does not pass from being replaced.** -/
theorem ensures_refresh_replaces_refusing (hplain : rotator.IsPlain)
    (hkeys : ∀ key, isKey (.ok key) → key.IsFit) (hplace : rotator.IsPlaced scene)
    (hnames : rotator.HasAsciiNames) (hcan : CanAlwaysMake isTime isKey)
    (hverdict : ∀ now, isTime now → ∃ instant, rotator.horizon? now = some instant ∧
      rotator.verdict (rotator.subject scene) instant = .rotatedCa)
    (hmultiplier : 0 ≤ rotator.config.refreshBackoff.multiplier)
    (hbound : budget < Backoff.attemptBound)
    (hmore : ∀ k ≤ budget, 0 < k → rotator.config.refreshBackoff.isExhausted k = false) :
    Ensures (Contract.sole rotator.config.secretKey isTime isKey fun _ ↦ True).refusing
      (fun result _ ↦ rotator.EndsWith .rotatedCa result) rotator.refresh (budget, scene) := by
  have hrotated (readings : Readings) attempt scene' (hwithin : readings.AreWithin isTime)
      (hchecks : rotator.Checks readings isKey scene attempt scene') :
      attempt = .ok (.ok .rotatedCa) := by
    obtain ⟨instant, hinstant, hverdict⟩ := hverdict _ hwithin.now
    refine (hchecks.of_rotatedCa hnames (hcan.mono fun now hnow ↦ ?_) hinstant hverdict).1
    rcases List.mem_pair.1 hnow with rfl | rfl
    · exact hwithin.ca
    · exact hwithin.leaf
  refine (ensures_refresh_refusing hplain hkeys hplace ?_ hmultiplier hbound hmore).mono ?_
  · intro readings e scene' hwithin hchecks
    cases hrotated readings _ scene' hwithin hchecks
  · rintro result state ⟨readings, attempt, hwithin, hchecks, hconcludes⟩
    obtain rfl := hrotated readings attempt _ hwithin hchecks
    exact hconcludes

/-- There is no outcome, and everything is as it was. -/
structure ComesToNothing (scene scene' : Scene)
    (result : Except Halt (Except Error RotationOutcome)) : Prop where
  fails : result = .error .crashed ∨ ∃ e, result = .ok (.error e)
  same : scene' = scene

theorem ComesToNothing.ne_ok (h : ComesToNothing scene scene' result) (outcome : RotationOutcome) :
    result ≠ .ok (.ok outcome) := by
  rcases h.fails with rfl | ⟨e, rfl⟩ <;> simp

/-- An attempt without an outcome comes to nothing. -/
theorem Checks.comesToNothing (h : rotator.Checks readings isKey scene result scene')
    (hnone : ∀ outcome, result ≠ .ok (.ok outcome)) : ComesToNothing scene scene' result := by
  cases h with
  | crashed => exact ⟨.inl rfl, rfl⟩
  | failedLeaf | failedCa => exact ⟨.inr ⟨_, rfl⟩, rfl⟩
  | unchanged | rotatedLeaf | rotatedCa => exact (hnone _ rfl).elim

/-- **A check ends as an attempt with an outcome, or comes to nothing**, however many attempts
failed before. -/
theorem ensures_refresh_sole (hplain : rotator.IsPlain)
    (hkeys : ∀ key, isKey (.ok key) → key.IsFit) (hplace : rotator.IsPlaced scene) :
    Ensures (.sole rotator.config.secretKey isTime isKey fun _ ↦ True)
      (fun result scene' ↦
        (∃ (readings : Readings) (outcome : _), readings.AreWithin isTime ∧
          rotator.Checks readings isKey scene (.ok (.ok outcome)) scene' ∧
          rotator.EndsWith outcome result) ∨
        ComesToNothing scene scene' result) rotator.refresh scene := by
  refine ensures_refresh Contract.equips_sole hplain ?_
  refine Backoff.ensures_retry (· = scene) Contract.isQuiet_sole.isIdle ?_ ?_ ?_ rfl
  · rintro _ rfl
    refine (ensures_refreshOnce_sole hplain hkeys hplace).mono ?_
    rintro attempt scene' ⟨readings, hwithin, hchecks⟩
    refine ⟨?_, fun hne result hconcludes ↦ ?_⟩
    · rintro e rfl
      exact (hchecks.comesToNothing (by simp)).same
    · rcases attempt with halt | (e | outcome)
      · obtain rfl : result = .error halt := hconcludes
        exact .inr (hchecks.comesToNothing (by simp))
      · exact absurd rfl (hne e)
      · exact .inl ⟨readings, outcome, hwithin, hchecks, hconcludes⟩
  · rintro _ e rfl result hconcludes
    obtain rfl : result = .ok (.error e) := hconcludes
    exact .inr ⟨.inr ⟨e, rfl⟩, rfl⟩
  · rintro _ rfl result hconcludes
    obtain rfl : result = .error .crashed := hconcludes
    exact .inr ⟨.inl rfl, rfl⟩

end Rotator

end WebhookTrust
