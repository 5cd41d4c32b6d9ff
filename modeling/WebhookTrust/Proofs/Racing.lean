import WebhookTrust.Proofs.Scene

/-!
# One rotator among others

A rotator in a race knows of the others only what it reads: the Secret of the beginning, or one that
a rotator made. It writes only on the basis of the former, and its contract (`Contract.racing`) says
so. The race itself is in `WebhookTrust.Proofs.Race`, and that rotators in it keep to the contract
is the matter of `WebhookTrust.Proofs.Agreement`.

The clock may show a rotator one thing and the next rotator another, and each of them may see it go
back. All that is asked is that what one of them makes passes at the instants that the others look
at (`Rotator.IsTimely`), as it does if they are all within an hour of each other.

## The theorems, and what each rests on

* `Rotator.verdict_of_makes`: what a rotator made is left alone by all. It rests on certificates
  that were made passing while their periods last, and on the times being near enough.
* `Rotator.ensures_refreshOnce_racing`: an attempt wins, sees what a rotator made, or fails. A write
  that is refused, or whose reply is lost, is a failure: it is not known then who has won.
* `Rotator.ensures_refresh_racing`: so a check that gives an outcome has won, or has seen what
  another one made. A failed attempt may have won without knowing, and then the next one sees what
  it made itself.
-/

namespace WebhookTrust

variable {rotator : Rotator} {found : Option Secret} {isTime : Instant → Prop}
  {isKey : Except KeyFault Rsa.PrivateKey → Prop}

/-! ### What rotators make -/

/-- The Secret was made from another with the keys that were drawn, at times of the race. -/
def Rotator.Makes (rotator : Rotator) (isTime : Instant → Prop) (old : Secret)
    (drawn : List (Except KeyFault Rsa.PrivateKey)) (made : Secret) : Prop :=
  ∃ caNow leafNow caKey leafKey, isTime caNow ∧ isTime leafNow ∧
    Issuance.IsWritableWindow (.standard caNow) ∧ Issuance.IsWritableWindow (.standard leafNow) ∧
    Rsa.PrivateKey.IsFit caKey ∧ Rsa.PrivateKey.IsFit leafKey ∧ drawn = [.ok caKey, .ok leafKey] ∧
    made = rotator.withNewAuthority old caNow leafNow caKey leafKey

/-- Nothing has to be done about what a rotator made. -/
theorem Rotator.verdict_of_makes (hplain : rotator.IsPlain) (htimely : rotator.IsTimely isTime)
    {old made stored : Secret} {drawn : List (Except KeyFault Rsa.PrivateKey)}
    (hmakes : rotator.Makes isTime old drawn made) (hkept : made.IsKeptAs stored) {now : Instant}
    (hnow : isTime now) :
    rotator.verdict stored (rotator.horizon now) = .unchanged := by
  obtain ⟨caNow, leafNow, caKey, leafKey, hcaNow, hleafNow, hcaWindow, hleafWindow, hcaKey,
    hleafKey, -, rfl⟩ := hmakes
  obtain ⟨hca, hleaf⟩ := isValid_withNewAuthority old (rotator.horizon now) hplain hcaKey hleafKey
    hcaWindow hleafWindow
  have hcaCovers := htimely now caNow hnow hcaNow
  have hleafCovers := htimely now leafNow hnow hleafNow
  rw [verdict_congr hkept.entries]
  exact verdict_eq_unchanged.2 ⟨hca.2 hcaCovers, hleaf.2 ⟨hcaCovers, hleafCovers⟩⟩

/-! ### One rotator among others -/

/-- How a rotator stands in a race: the keys that it drew since it last read the Secret, whether a
write of its was acknowledged, and whether it has seen what a rotator made. -/
structure Standing where
  drawn : List (Except KeyFault Rsa.PrivateKey)
  hasWon : Bool
  hasSeen : Bool

namespace Standing

/-- After a key was given, or was not. -/
def draw (standing : Standing) (newKey : Except KeyFault Rsa.PrivateKey) : Standing :=
  { standing with drawn := standing.drawn ++ [newKey] }

/-- A rotator writes only what it makes of the Secret of the beginning. -/
def permits (rotator : Rotator) (found : Option Secret) (isTime : Instant → Prop)
    (standing : Standing) : Effect → Prop
  | .store (.getSecret wanted) => wanted = rotator.config.secretKey
  | .store (.createSecret secret) =>
    found = none ∧ rotator.Makes isTime (rotator.basis found) standing.drawn secret
  | .store (.replaceSecret secret) =>
    found.isSome ∧ rotator.Makes isTime (rotator.basis found) standing.drawn secret
  | .store (.getConsumer _) | .store (.replaceConsumer ..) => False
  | .now | .newKey => True
  | effect => effect.IsQuiet

/-- What a write tells the rotator. -/
def answersWrite (standing : Standing) (reply : Except Error Unit) (standing' : Standing) : Prop :=
  (reply = .ok () ∧ standing' = { standing with hasWon := true }) ∨
    (∃ e, reply = .error e) ∧ standing' = standing

/-- What a rotator may be answered. -/
def answers (rotator : Rotator) (found : Option Secret) (isTime : Instant → Prop)
    (isKey : Except KeyFault Rsa.PrivateKey → Prop) (standing : Standing) :
    (effect : Effect) → effect.Reply → Standing → Prop
  | .store (.getSecret _), reply, standing' =>
    (∃ e, reply = .error e ∧ standing' = standing) ∨
      (reply = .ok found ∧ standing' = { standing with drawn := [] }) ∨
      ∃ drawn made stored, rotator.Makes isTime (rotator.basis found) drawn made ∧
        made.IsKeptAs stored ∧ reply = .ok (some stored) ∧
        standing' = { standing with drawn := [], hasSeen := true }
  | .store (.createSecret _), reply, standing' | .store (.replaceSecret _), reply, standing' =>
    standing.answersWrite reply standing'
  | .now, now, standing' => isTime now ∧ standing' = standing
  | .newKey, newKey, standing' => isKey newKey ∧ standing' = standing.draw newKey
  | _, _, standing' => standing' = standing

end Standing

/-- The contract of a rotator in a race. -/
def Contract.racing (rotator : Rotator) (found : Option Secret) (isTime : Instant → Prop)
    (isKey : Except KeyFault Rsa.PrivateKey → Prop) : Contract Standing where
  permits standing := standing.permits rotator found isTime
  answers standing := standing.answers rotator found isTime isKey

theorem Contract.isQuiet_racing : (racing rotator found isTime isKey).IsQuiet := by
  intro standing effect hquiet
  cases effect <;> first | exact hquiet.elim | exact ⟨trivial, fun _ _ h ↦ h⟩

theorem Contract.equips_racing :
    (racing rotator found isTime isKey).Equips isTime isKey Standing.draw where
  quiet := isQuiet_racing
  now _ := ⟨trivial, fun _ _ h ↦ h⟩
  newKey _ := ⟨trivial, fun _ _ h ↦ h⟩

namespace Rotator

open Procedure

/-- How a rotator ends: it has won, or has seen what a rotator made and did nothing. -/
def EndsRace (result : Except Halt (Except Error RotationOutcome)) (standing : Standing) : Prop :=
  ∀ outcome, result = .ok (.ok outcome) →
    (outcome = .rotatedCa ∧ standing.hasWon = true) ∨
      (outcome = .unchanged ∧ standing.hasSeen = true)

/-- The hook has no say in it. -/
theorem EndsRace.of_concludes {attempt result : Except Halt (Except Error RotationOutcome)}
    {standing : Standing} (h : EndsRace attempt standing)
    (hconcludes : rotator.Concludes attempt result) :
    EndsRace result standing := by
  rintro outcome rfl
  rcases attempt with halt | (e | given)
  · cases hconcludes
  · cases hconcludes
  · obtain rfl := EndsWith.eq_of_ok hconcludes
    exact h outcome rfl

/-- The authority of the beginning, if there is one, passes at no time of the race. -/
def FailsThroughout (rotator : Rotator) (found : Option Secret) (isTime : Instant → Prop) : Prop :=
  ∀ secret, found = some secret → ∀ now, isTime now →
    rotator.authorityIsValid secret (rotator.horizon now) = false

/-- The Secret of the beginning does not pass at any of the times. -/
theorem verdict_basis (hfails : rotator.FailsThroughout found isTime) {now : Instant}
    (hnow : isTime now) :
    rotator.verdict (rotator.basis found) (rotator.horizon now) = .rotatedCa := by
  rw [basis]
  cases hfound : found with
  | none => exact verdict_new _
  | some secret => exact verdict_eq_rotatedCa.2 (hfails secret hfound now hnow)

variable {standing : Standing}

/-- A write of what was made of the Secret of the beginning. -/
theorem ensures_write_racing {secret : Secret}
    (hmakes : rotator.Makes isTime (rotator.basis found) standing.drawn secret) :
    Ensures (.racing rotator found isTime isKey)
      (fun result standing' ↦ (result = .ok (.ok ()) ∧ standing'.hasWon = true) ∨
        ∃ e, result = .ok (.error e) ∧ standing' = standing)
      (write found.isSome secret) standing := by
  have hanswer : ∀ reply standing', standing.answersWrite reply standing' →
      (Except.ok (ε := Halt) reply = .ok (.ok ()) ∧ standing'.hasWon = true) ∨
        ∃ e, Except.ok (ε := Halt) reply = .ok (.error e) ∧ standing' = standing := by
    rintro reply standing' (⟨rfl, rfl⟩ | ⟨⟨e, rfl⟩, rfl⟩)
    · exact .inl ⟨rfl, rfl⟩
    · exact .inr ⟨e, rfl, rfl⟩
  cases hfound : found with
  | none =>
    rw [hfound] at hmakes
    exact ⟨⟨rfl, hmakes⟩, hanswer⟩
  | some old =>
    rw [hfound] at hmakes
    exact ⟨⟨rfl, hmakes⟩, hanswer⟩

/-- **An attempt in a race wins, sees what a rotator made, or fails.** -/
theorem ensures_refreshOnce_racing (hplain : rotator.IsPlain)
    (hkeys : ∀ key, isKey (.ok key) → key.IsFit) (htimely : rotator.IsTimely isTime)
    (hfails : rotator.FailsThroughout found isTime) :
    Ensures (.racing rotator found isTime isKey) EndsRace rotator.refreshOnce standing := by
  have hequips : (Contract.racing rotator found isTime isKey).Equips isTime isKey Standing.draw :=
    Contract.equips_racing
  refine ensures_refreshOnce hequips rfl ?_ ?_
  · simp [EndsRace]
  · intro read standing' now hanswer hnow
    refine ⟨by simp [EndsRace], ?_⟩
    intro instant hinstant
    obtain rfl := Rotator.horizon?_eq_some hinstant
    rcases hanswer with
      ⟨e, hread, -⟩ | ⟨hread, rfl⟩ | ⟨drawn, made, stored, hmakes, hkept, hread, rfl⟩
    · simp at hread
    · -- what is there is what was there in the beginning
      obtain rfl := Except.ok.inj hread
      have hverdict := verdict_basis hfails hnow
      simp only [basis] at hverdict
      refine ⟨fun hunchanged ↦ by simp [hverdict] at hunchanged, fun _ ↦ ?_⟩
      simp only [hverdict]
      refine ensures_rotate_ca hequips hplain hkeys (by simp [EndsRace]) ?_
      intro caNow leafNow caKey leafKey _ hcaNow hleafNow hcaKey hleafKey hcaWindow hleafWindow
      refine (ensures_write_racing ⟨caNow, leafNow, caKey, leafKey, hcaNow, hleafNow, hcaWindow,
        hleafWindow, hkeys _ hcaKey, hkeys _ hleafKey, rfl, rfl⟩).mono ?_
      rintro _ standing'' (⟨rfl, hwon⟩ | ⟨e, rfl, rfl⟩) outcome houtcome
      · obtain rfl : RotationOutcome.rotatedCa = outcome := by simpa [Except.map] using houtcome
        exact .inl ⟨rfl, hwon⟩
      · simp [Except.map] at houtcome
    · -- a rotator has been there
      obtain rfl := Except.ok.inj hread
      have hverdict := verdict_of_makes hplain htimely hmakes hkept hnow
      refine ⟨fun _ outcome houtcome ↦ ?_, fun hne ↦ absurd hverdict hne⟩
      obtain rfl : RotationOutcome.unchanged = outcome := by simpa using houtcome
      exact .inr ⟨rfl, rfl⟩

/-- **A check in a race wins, sees what a rotator made, or fails.** -/
theorem ensures_refresh_racing (hplain : rotator.IsPlain)
    (hkeys : ∀ key, isKey (.ok key) → key.IsFit) (htimely : rotator.IsTimely isTime)
    (hfails : rotator.FailsThroughout found isTime) :
    Ensures (.racing rotator found isTime isKey) EndsRace rotator.refresh standing := by
  refine ensures_refresh Contract.equips_racing hplain ?_
  refine Backoff.ensures_retry (fun _ ↦ True) Contract.isQuiet_racing.isIdle ?_ ?_ ?_ trivial
  · intro standing _
    refine (ensures_refreshOnce_racing hplain hkeys htimely hfails).mono fun _ _ hends ↦ ?_
    exact ⟨fun _ _ ↦ trivial, fun _ _ hconcludes ↦ hends.of_concludes hconcludes⟩
  · rintro standing e - _ rfl outcome ⟨⟩
  · rintro standing - _ rfl outcome ⟨⟩

end Rotator

end WebhookTrust
