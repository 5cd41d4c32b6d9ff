import WebhookTrust.Proofs.Refresh
import WebhookTrust.Proofs.StoredAuthority

/-!
# When certificates are replaced

Certificates that were made by a check are left alone by later checks, up to the second in which the
instant that is looked at passes the end of their period, and are then replaced by a pair for which
the same holds. So the outcomes of a run of checks are a function of what the clock shows in them
(`Rotator.schedule`).

The clock may move on within a check, and then the authority and the serving certificate have dates
of their own. While the authority is the older one the pair is replaced as a whole
(`Rotator.schedule_of_inOrder`). A clock that goes back within a check makes the serving certificate
the older one, and that is then replaced alone for once.

## The two theorems, and what each rests on

* `Rotator.ensures_refresh_replaces`: a check that has to replace everything has done so, or has no
  outcome and there were readings at which it could not. It rests on the six ways in which an
  attempt ends, and on keys that are fit to sign.
* `Rotator.refreshes_follow_schedule`: a run of checks follows the schedule. The induction is on the
  calls; what it hands on is the dates of the stored certificates (`Rotator.HoldsMade`), which
  decide what the next check does (`Rotator.ensures_refresh_of_holdsMade`). It asks for a rotator
  that looks at most nine years ahead, for a clock that does not go back from one call to the next,
  and for times that a certificate can tell; within a call the clock may do as it likes.
-/

namespace WebhookTrust

namespace Rotator

open Procedure

variable {rotator : Rotator} {isTime : Instant → Prop} {dates : Dates} {readings : Readings}
  {isKey : Except KeyFault Rsa.PrivateKey → Prop} {scene scene' : Scene}
  {result : Except Halt (Except Error RotationOutcome)}

/-! ### Certificates of a known age -/

/-- The Secret holds what checks made at the dates, beside whatever else it holds. -/
def HoldsMade (rotator : Rotator) (dates : Dates) (scene : Scene) : Prop :=
  dates.AreWritable ∧ ∃ old stored caKey leafKey,
    scene.secret = some stored ∧ Rsa.PrivateKey.IsFit caKey ∧ Rsa.PrivateKey.IsFit leafKey ∧
      (rotator.withNewAuthority old dates.ca dates.leaf caKey leafKey).IsKeptAs stored

/-- What was made is there. -/
theorem HoldsMade.secret_eq (h : rotator.HoldsMade dates scene) :
    scene.secret = some (rotator.subject scene) := by
  obtain ⟨-, -, stored, -, -, hsecret, -⟩ := h
  rw [subject, hsecret]
  rfl

/-- **What was made passes while the periods last.** -/
theorem HoldsMade.isValid_iff (hplain : rotator.IsPlain) (h : rotator.HoldsMade dates scene)
    (instant : Instant) :
    (rotator.authorityIsValid (rotator.subject scene) instant = true ↔
      (Issuance.periodOf (.standard dates.ca)).Covers instant) ∧
    (rotator.leafIsValid (rotator.subject scene) instant = true ↔ dates.Cover instant) := by
  obtain ⟨⟨hcaWindow, hleafWindow⟩, old, stored, caKey, leafKey, hsecret, hcaKey, hleafKey,
    hkept⟩ := h
  rw [subject, hsecret, Option.getD_some, authorityIsValid_congr hkept.entries,
    leafIsValid_congr hkept.entries]
  exact isValid_withNewAuthority old instant hplain hcaKey hleafKey hcaWindow hleafWindow

/-- Nothing has to be done about it for as long. -/
theorem HoldsMade.verdict_eq_unchanged_iff (hplain : rotator.IsPlain)
    (h : rotator.HoldsMade dates scene) (instant : Instant) :
    rotator.verdict (rotator.subject scene) instant = .unchanged ↔ dates.Cover instant := by
  obtain ⟨hca, hleaf⟩ := h.isValid_iff hplain instant
  rw [verdict_eq_unchanged, hca, hleaf]
  exact and_iff_right_of_imp And.left

/-- An authority that was made can be loaded and can issue, and ends a lifetime later. -/
theorem HoldsMade.exists_authority (hplain : rotator.IsPlain)
    (h : rotator.HoldsMade dates scene) :
    ∃ key cert, Rsa.PrivateKey.IsFit key ∧
      (rotator.subject scene).authority = .ok (rotator.newAuthority dates.ca key) ∧
      Issuance.CanIssue (rotator.newAuthority dates.ca key) rotator.authorityName ∧
      (rotator.newAuthority dates.ca key).certificate = .ok cert ∧
      cert.validity.notAfter.seconds = dates.ca.seconds + Issuance.lifetime := by
  obtain ⟨⟨hwindow, -⟩, old, stored, caKey, leafKey, hsecret, hcaKey, hleafKey, hkept⟩ := h
  obtain ⟨hload, cert, hcert, hvalidity⟩ := load_newAuthority hplain hcaKey hwindow
  refine ⟨caKey, cert, hcaKey, ?_, canIssue_newAuthority hplain hcaKey hwindow, hcert,
    by rw [hvalidity]; rfl⟩
  rw [subject, hsecret, Option.getD_some, Secret.authority_congr hkept.entries]
  exact Secret.authority_withCertificates hload

/-! ### Checks with nothing to do -/

/-- **A check that finds nothing to do does nothing.** -/
theorem ensures_refresh_of_unchanged (hplain : rotator.IsPlain)
    (hkeys : ∀ key, isKey (.ok key) → key.IsFit) (hplace : rotator.IsPlaced scene)
    (hleaves : ∀ now, isTime now → rotator.horizon? now = some (rotator.horizon now) ∧
      rotator.verdict (rotator.subject scene) (rotator.horizon now) = .unchanged) :
    Ensures (.sole rotator.config.secretKey isTime isKey fun _ ↦ True)
      (fun result scene' ↦ (∃ readings : Readings, readings.AreWithin isTime) ∧
        result = .ok (.ok .unchanged) ∧ scene' = scene) rotator.refresh scene := by
  have hof (readings : Readings) attempt scene' (hwithin : readings.AreWithin isTime)
      (h : rotator.Checks readings isKey scene attempt scene') :
      attempt = .ok (.ok .unchanged) ∧ scene' = scene :=
    h.of_unchanged (hleaves _ hwithin.now).1 (hleaves _ hwithin.now).2
  refine (ensures_refresh_of_ok hplain hkeys hplace fun readings e scene' hwithin h ↦ ?_).mono ?_
  · simpa using (hof readings _ scene' hwithin h).1
  · rintro result scene' ⟨readings, attempt, hwithin, h, hconcludes⟩
    obtain ⟨rfl, rfl⟩ := hof readings attempt scene' hwithin h
    exact ⟨⟨readings, hwithin⟩, hconcludes, rfl⟩

/-! ### Checks that replace everything -/

/-- Can a check make an authority and a serving certificate, and look at an instant? -/
def CanReplace (rotator : Rotator) (readings : Readings) : Prop :=
  rotator.HasAsciiNames ∧ readings.AreWritable ∧
    rotator.horizon? readings.now = some (rotator.horizon readings.now)

/-- A regular rotator can, at times that certificates can tell. -/
theorem IsRegular.canReplace (hregular : rotator.IsRegular)
    (hwindows : ∀ now, isTime now → Issuance.IsWritableWindow (.standard now))
    (hwithin : readings.AreWithin isTime) : rotator.CanReplace readings :=
  ⟨hregular.names, ⟨hwindows _ hwithin.ca, hwindows _ hwithin.leaf⟩,
    hregular.horizon?_eq (hwindows _ hwithin.now)⟩

/-- A check that has to replace everything, and can, has done so. -/
structure HasReplaced (rotator : Rotator) (dates : Dates) (scene scene' : Scene)
    (result : Except Halt (Except Error RotationOutcome)) : Prop where
  ends : rotator.EndsWith .rotatedCa result
  made : rotator.HoldsMade dates scene'
  placed : rotator.IsPlaced scene'
  writes : scene'.writes = scene.writes + 1
  isDeleting : (rotator.subject scene').metadata.isDeleting =
    (rotator.subject scene).metadata.isDeleting
  object : scene'.object = scene.object

/-- **An attempt that has to replace everything has an outcome exactly if it can.** -/
theorem Checks.eq_of_canReplace (hkeys : IsReliableSource isKey)
    {attempt : Except Halt (Except Error RotationOutcome)}
    (h : rotator.Checks readings isKey scene attempt scene')
    (hverdict : rotator.verdict (rotator.subject scene) (rotator.horizon readings.now) =
      .rotatedCa) (hcan : rotator.CanReplace readings) : attempt = .ok (.ok .rotatedCa) := by
  obtain ⟨hnames, ⟨hcaWindow, hleafWindow⟩, hinstant⟩ := hcan
  refine (h.of_rotatedCa hnames (hkeys.canAlwaysMake_iff.2 ?_) hinstant hverdict).1
  simp [hcaWindow, hleafWindow]

/-- An attempt with an outcome that had to replace everything has done so. -/
theorem Checks.hasReplaced (hkeys : IsReliableSource isKey) (hplace : rotator.IsPlaced scene)
    {outcome : RotationOutcome}
    (h : rotator.Checks readings isKey scene (.ok (.ok outcome)) scene')
    (hverdict : rotator.verdict (rotator.subject scene) (rotator.horizon readings.now) =
      .rotatedCa) (hends : rotator.EndsWith outcome result) :
    rotator.CanReplace readings ∧ rotator.HasReplaced readings.toDates scene scene' result := by
  cases h with
  | @rotatedCa stored instant caKey leafKey hinstant _ hnames hwindows hcaKey hleafKey hkept =>
    obtain rfl := horizon?_eq_some hinstant
    refine ⟨⟨hnames, hwindows, hinstant⟩, hends, ⟨hwindows, _, _, _, _, rfl, ?_, ?_, hkept⟩,
      hkept.key?.trans hplace, rfl, hkept.isDeleting, rfl⟩
    · exact hkeys.isFit _ hcaKey
    · exact hkeys.isFit _ hleafKey
  | unchanged _ hinstant hother | rotatedLeaf hinstant hother =>
    obtain rfl := horizon?_eq_some hinstant
    cases hverdict.symm.trans hother

/-- **However often it is tried**, a check that has to replace everything has done so at some of its
readings, or comes to nothing, and then there were readings at which it could not. -/
theorem ensures_refresh_replaces (hplain : rotator.IsPlain) (hkeys : IsReliableSource isKey)
    (hplace : rotator.IsPlaced scene) (hverdict : ∀ now, isTime now →
      rotator.verdict (rotator.subject scene) (rotator.horizon now) = .rotatedCa) :
    Ensures (.sole rotator.config.secretKey isTime isKey fun _ ↦ True)
      (fun result scene' ↦
        (∃ readings : Readings, readings.AreWithin isTime ∧ rotator.CanReplace readings ∧
          rotator.HasReplaced readings.toDates scene scene' result) ∨
        ComesToNothing scene scene' result ∧
          ∃ readings : Readings, readings.AreWithin isTime ∧ ¬ rotator.CanReplace readings)
      rotator.refresh scene := by
  by_cases hcan : ∀ readings : Readings, readings.AreWithin isTime → rotator.CanReplace readings
  · have hof (readings : Readings) attempt scene' (hwithin : readings.AreWithin isTime)
        (h : rotator.Checks readings isKey scene attempt scene') :=
      h.eq_of_canReplace hkeys (hverdict _ hwithin.now) (hcan readings hwithin)
    refine (ensures_refresh_of_ok hplain hkeys.isFit hplace fun readings e scene' hwithin h ↦
      ?_).mono ?_
    · simpa using hof readings _ scene' hwithin h
    · rintro result scene' ⟨readings, attempt, hwithin, h, hconcludes⟩
      obtain rfl := hof readings attempt scene' hwithin h
      exact .inl ⟨readings, hwithin, h.hasReplaced hkeys hplace (hverdict _ hwithin.now)
        hconcludes⟩
  · simp only [not_forall] at hcan
    obtain ⟨bad, hbad, hcannot⟩ := hcan
    refine (ensures_refresh_sole hplain hkeys.isFit hplace).mono ?_
    rintro result scene' (⟨readings, outcome, hwithin, h, hends⟩ | hnothing)
    · exact .inl ⟨readings, hwithin, h.hasReplaced hkeys hplace (hverdict _ hwithin.now) hends⟩
    · exact .inr ⟨hnothing, bad, hbad, hcannot⟩

/-- A check that can replace everything at all times does so. -/
theorem ensures_refresh_of_canReplace (hplain : rotator.IsPlain) (hkeys : IsReliableSource isKey)
    (hplace : rotator.IsPlaced scene)
    (hcan : ∀ readings : Readings, readings.AreWithin isTime → rotator.CanReplace readings)
    (hverdict : ∀ now, isTime now →
      rotator.verdict (rotator.subject scene) (rotator.horizon now) = .rotatedCa) :
    Ensures (.sole rotator.config.secretKey isTime isKey fun _ ↦ True)
      (fun result scene' ↦ ∃ readings : Readings, readings.AreWithin isTime ∧
        rotator.HasReplaced readings.toDates scene scene' result) rotator.refresh scene := by
  refine (ensures_refresh_replaces hplain hkeys hplace hverdict).mono ?_
  rintro result scene' (⟨readings, hwithin, -, hreplaced⟩ | ⟨-, readings, hwithin, hcannot⟩)
  · exact ⟨readings, hwithin, hreplaced⟩
  · exact (hcannot (hcan readings hwithin)).elim

/-- A check that can do so at no time comes to nothing. -/
theorem ensures_refresh_of_not_canReplace (hplain : rotator.IsPlain)
    (hkeys : IsReliableSource isKey) (hplace : rotator.IsPlaced scene)
    (hcannot : ∀ readings : Readings, readings.AreWithin isTime → ¬ rotator.CanReplace readings)
    (hverdict : ∀ now, isTime now →
      rotator.verdict (rotator.subject scene) (rotator.horizon now) = .rotatedCa) :
    Ensures (.sole rotator.config.secretKey isTime isKey fun _ ↦ True)
      (fun result scene' ↦ ComesToNothing scene scene' result) rotator.refresh scene := by
  refine (ensures_refresh_replaces hplain hkeys hplace hverdict).mono ?_
  rintro result scene' (⟨readings, hwithin, hcan, -⟩ | ⟨hnothing, -⟩)
  · exact (hcannot readings hwithin hcan).elim
  · exact hnothing

/-- A check by a regular rotator can, at times that certificates can tell. -/
theorem ensures_refresh_of_rotatedCa (hregular : rotator.IsRegular) (hkeys : IsReliableSource isKey)
    (hplace : rotator.IsPlaced scene)
    (hwindows : ∀ now, isTime now → Issuance.IsWritableWindow (.standard now))
    (hverdict : ∀ now, isTime now →
      rotator.verdict (rotator.subject scene) (rotator.horizon now) = .rotatedCa) :
    Ensures (.sole rotator.config.secretKey isTime isKey fun _ ↦ True)
      (fun result scene' ↦ ∃ readings : Readings, readings.AreWithin isTime ∧
        rotator.HasReplaced readings.toDates scene scene' result) rotator.refresh scene :=
  ensures_refresh_of_canReplace hregular.toIsPlain hkeys hplace
    (fun _ hwithin ↦ hregular.canReplace hwindows hwithin) hverdict

/-! ### Checks of certificates of a known age -/

/-- Does a check find that a certificate of some age is to be replaced? -/
def isDue (rotator : Rotator) (made clock : Instant) : Bool :=
  made.seconds + Issuance.lifetime < (rotator.horizon clock).seconds

/-- What a check does about certificates that were made at the dates. -/
def due (rotator : Rotator) (dates : Dates) (clock : Instant) : RotationOutcome :=
  if rotator.isDue dates.ca clock then .rotatedCa
  else if rotator.isDue dates.leaf clock then .rotatedLeaf
  else .unchanged

/-- The dates of the certificates that are there after such a check. -/
def datesAfter (rotator : Rotator) (dates : Dates) (readings : Readings) : Dates :=
  dates.after readings (rotator.due dates readings.now)

/-- A serving certificate is due together with an older authority. -/
theorem isDue_of_le {made other clock : Instant} (hle : made.seconds ≤ other.seconds)
    (h : rotator.isDue other clock = true) : rotator.isDue made clock = true := by
  rw [isDue, decide_eq_true_eq] at h ⊢
  omega

/-- Certificates end in the second up to which they are not due. -/
theorem covers_horizon_iff (hregular : rotator.IsRegular) {made clock : Instant}
    (hle : made.seconds ≤ clock.seconds) :
    (Issuance.periodOf (.standard made)).Covers (rotator.horizon clock) ↔
      rotator.isDue made clock = false := by
  have hbefore := (hregular.seconds_horizon clock).1
  simp only [covers_periodOf_standard, isDue, decide_eq_false_iff_not, Issuance.clockSkew]
  omega

/-- **The age of certificates decides what is to be done about them.** -/
theorem HoldsMade.verdict_eq_due (hregular : rotator.IsRegular)
    (h : rotator.HoldsMade dates scene) {clock : Instant}
    (hca : dates.ca.seconds ≤ clock.seconds) (hleaf : dates.leaf.seconds ≤ clock.seconds) :
    rotator.verdict (rotator.subject scene) (rotator.horizon clock) = rotator.due dates clock := by
  obtain ⟨hcaValid, hleafValid⟩ := h.isValid_iff hregular.toIsPlain (rotator.horizon clock)
  rw [covers_horizon_iff hregular hca] at hcaValid
  rw [Dates.Cover, covers_horizon_iff hregular hca, covers_horizon_iff hregular hleaf] at hleafValid
  rw [due]
  split_ifs with hcaDue hleafDue
  · rw [verdict_eq_rotatedCa, ← Bool.not_eq_true, hcaValid]
    simp [hcaDue]
  · rw [verdict_eq_rotatedLeaf, hcaValid, ← Bool.not_eq_true (rotator.leafIsValid _ _), hleafValid]
    simp_all
  · rw [verdict_eq_unchanged, hcaValid, hleafValid]
    simp_all

/-- A check that went by the age of what it found. -/
structure KeepsTo (rotator : Rotator) (dates : Dates) (readings : Readings) (scene scene' : Scene)
    (result : Except Halt (Except Error RotationOutcome)) : Prop where
  ends : rotator.EndsWith (rotator.due dates readings.now) result
  made : rotator.HoldsMade (rotator.datesAfter dates readings) scene'
  placed : rotator.IsPlaced scene'
  writes : scene'.writes = scene.writes + if (rotator.due dates readings.now).wroteSecret then 1
    else 0

/-- **An attempt with what it takes goes by the age of what it finds.** -/
theorem Checks.keepsTo (hregular : rotator.IsRegular) (hkeys : IsReliableSource isKey)
    (hplace : rotator.IsPlaced scene) (hmade : rotator.HoldsMade dates scene)
    {attempt : Except Halt (Except Error RotationOutcome)}
    (h : rotator.Checks readings isKey scene attempt scene')
    (hcan : rotator.CanReplace readings)
    (hca : dates.ca.seconds ≤ readings.now.seconds)
    (hleaf : dates.leaf.seconds ≤ readings.now.seconds) :
    (∀ e, attempt ≠ .ok (.error e)) ∧ ∀ result, rotator.Concludes attempt result →
      rotator.KeepsTo dates readings scene scene' result := by
  obtain ⟨hnames, hwindows, hinstant⟩ := hcan
  have hverdict := hmade.verdict_eq_due hregular hca hleaf
  cases hdue : rotator.due dates readings.now with
  | unchanged =>
    obtain ⟨rfl, rfl⟩ := h.of_unchanged hinstant (hverdict.trans hdue)
    refine ⟨by simp, fun result hconcludes ↦ ⟨hdue ▸ hconcludes, ?_, hplace, by rw [hdue]; rfl⟩⟩
    rwa [datesAfter, hdue]
  | rotatedLeaf =>
    obtain ⟨key, cert, hkey, hload, hissue, -⟩ := hmade.exists_authority hregular.toIsPlain
    obtain ⟨rfl, leafKey, stored, hleafKey, hkept, rfl⟩ := h.of_rotatedLeaf hnames
      (hkeys.canAlwaysMake_iff.2 (by simpa using hwindows.2)) hinstant (hverdict.trans hdue) hload
      hissue
    refine ⟨by simp, fun result hconcludes ↦ ⟨hdue ▸ hconcludes, ?_, hkept.key?.trans hplace,
      by rw [hdue]; rfl⟩⟩
    rw [datesAfter, hdue]
    exact ⟨⟨hmade.1.1, hwindows.2⟩, _, stored, key, leafKey, rfl, hkey, hkeys.isFit _ hleafKey,
      hkept⟩
  | rotatedCa =>
    obtain rfl := h.eq_of_canReplace hkeys (hverdict.trans hdue) ⟨hnames, hwindows, hinstant⟩
    refine ⟨by simp, fun result hconcludes ↦ ?_⟩
    obtain ⟨-, hends, hnew, hplaced, hwrites⟩ := h.hasReplaced hkeys hplace (hverdict.trans hdue)
      hconcludes
    refine ⟨hdue ▸ hends, ?_, hplaced, by rw [hwrites, hdue]; rfl⟩
    rwa [datesAfter, hdue]

/-- **So does a check, at times that are later than both dates.** -/
theorem ensures_refresh_of_holdsMade (hregular : rotator.IsRegular) (hkeys : IsReliableSource isKey)
    (hplace : rotator.IsPlaced scene)
    (hwindows : ∀ now, isTime now → Issuance.IsWritableWindow (.standard now))
    (hmade : rotator.HoldsMade dates scene) (hlater : ∀ now, isTime now →
      dates.ca.seconds ≤ now.seconds ∧ dates.leaf.seconds ≤ now.seconds) :
    Ensures (.sole rotator.config.secretKey isTime isKey fun _ ↦ True)
      (fun result scene' ↦ ∃ readings : Readings, readings.AreWithin isTime ∧
        rotator.KeepsTo dates readings scene scene' result) rotator.refresh scene := by
  have hof (readings : Readings) attempt scene' (hwithin : readings.AreWithin isTime)
      (h : rotator.Checks readings isKey scene attempt scene') :=
    h.keepsTo hregular hkeys hplace hmade (hregular.canReplace hwindows hwithin)
      (hlater _ hwithin.now).1 (hlater _ hwithin.now).2
  refine (ensures_refresh_of_ok hregular.toIsPlain hkeys.isFit hplace
    fun readings e scene' hwithin h ↦ ?_).mono ?_
  · exact (hof readings _ scene' hwithin h).1 e rfl
  · rintro result scene' ⟨readings, attempt, hwithin, h, hconcludes⟩
    exact ⟨readings, hwithin, (hof readings attempt scene' hwithin h).2 result hconcludes⟩

/-! ### Runs of checks -/

/-- Makes one check after the other, against surroundings that know which one it is. -/
def refreshAt {ι σ : Type} (rotator : Rotator)
    (answer : ι → (effect : Effect) → σ → effect.Reply × σ) :
    List ι → σ → List (Except Halt (Except Error RotationOutcome)) × σ
  | [], real => ([], real)
  | call :: calls, real =>
    let after := rotator.refresh.run (answer call) real
    let rest := rotator.refreshAt answer calls after.2
    (after.1 :: rest.1, rest.2)

/-- The outcomes of checks of certificates that were made at the dates. -/
def schedule (rotator : Rotator) (dates : Dates) : List Readings → List RotationOutcome
  | [] => []
  | readings :: rest =>
    rotator.due dates readings.now :: rotator.schedule (rotator.datesAfter dates readings) rest

/-- **While authorities are made no later than what they sign, the pair is replaced as a whole.** -/
theorem schedule_of_inOrder {seen : List Readings} (hdates : dates.ca.seconds ≤ dates.leaf.seconds)
    (hseen : ∀ readings ∈ seen, readings.ca.seconds ≤ readings.leaf.seconds) :
    .rotatedLeaf ∉ rotator.schedule dates seen := by
  induction seen generalizing dates with
  | nil => simp [schedule]
  | cons readings seen ih =>
    obtain ⟨hreadings, hseen⟩ := List.forall_mem_cons.1 hseen
    have hdue : rotator.due dates readings.now ≠ .rotatedLeaf := by
      rw [due]
      split_ifs with hca hleaf
      · simp
      · exact (hca (isDue_of_le hdates hleaf)).elim
      · simp
    rw [schedule, List.mem_cons, not_or]
    refine ⟨hdue.symm, ih ?_ hseen⟩
    rw [datesAfter]
    cases houtcome : rotator.due dates readings.now with
    | unchanged => exact hdates
    | rotatedLeaf => exact (hdue houtcome).elim
    | rotatedCa => exact hreadings

variable {ι σ : Type} {answer : ι → (effect : Effect) → σ → effect.Reply × σ}
  {isTimeOf : ι → Instant → Prop} {shows : σ → Scene → Prop} {real : σ}

/-- **Checks of certificates of a known age follow the schedule.** -/
theorem refreshAt_of_holdsMade (hregular : rotator.IsRegular) (hkeys : IsReliableSource isKey)
    (hkept : ∀ call, (Contract.sole rotator.config.secretKey (isTimeOf call) isKey
      fun _ ↦ True).KeptBy (answer call) shows)
    {calls : List ι} (hordered : calls.Pairwise fun call next ↦ ∀ before after,
      isTimeOf call before → isTimeOf next after → before.seconds ≤ after.seconds)
    (hwindows : ∀ call ∈ calls, ∀ now, isTimeOf call now →
      Issuance.IsWritableWindow (.standard now))
    (hshows : shows real scene) (hplace : rotator.IsPlaced scene)
    (hmade : rotator.HoldsMade dates scene) (hlater : ∀ call ∈ calls, ∀ now, isTimeOf call now →
      dates.ca.seconds ≤ now.seconds ∧ dates.leaf.seconds ≤ now.seconds) :
    ∃ scene' seen, shows (rotator.refreshAt answer calls real).2 scene' ∧
      List.Forall₂ (fun call readings ↦ Readings.AreWithin readings (isTimeOf call)) calls seen ∧
      List.Forall₂ rotator.EndsWith (rotator.schedule dates seen)
        (rotator.refreshAt answer calls real).1 ∧
      scene'.writes = scene.writes + (rotator.schedule dates seen).countP (·.wroteSecret) ∧
      rotator.HoldsMade (seen.foldl rotator.datesAfter dates) scene' := by
  -- the age of what is stored changes with every replacement, so it is general in the induction
  induction calls generalizing dates real scene with
  | nil => exact ⟨scene, [], hshows, .nil, .nil, rfl, hmade⟩
  | cons call calls ih =>
    obtain ⟨hnext, hordered⟩ := List.pairwise_cons.1 hordered
    obtain ⟨hwindow, hwindows⟩ := List.forall_mem_cons.1 hwindows
    obtain ⟨hle, hlater⟩ := List.forall_mem_cons.1 hlater
    obtain ⟨scene₁, hshows₁, readings, hwithin, hends, hmade₁, hplace₁, hwrites₁⟩ :=
      (ensures_refresh_of_holdsMade hregular hkeys hplace hwindow hmade hle).run (hkept call) hshows
    have hlater₁ : ∀ next ∈ calls, ∀ now, isTimeOf next now →
        (rotator.datesAfter dates readings).ca.seconds ≤ now.seconds ∧
          (rotator.datesAfter dates readings).leaf.seconds ≤ now.seconds := by
      intro next hmem now hnow
      have hca := hnext next hmem _ now hwithin.ca hnow
      have hleaf := hnext next hmem _ now hwithin.leaf hnow
      rw [datesAfter]
      cases rotator.due dates readings.now with
      | unchanged => exact hlater next hmem now hnow
      | rotatedLeaf => exact ⟨(hlater next hmem now hnow).1, hleaf⟩
      | rotatedCa => exact ⟨hca, hleaf⟩
    obtain ⟨scene', seen, hshows', hseen, hresults, hwrites', hmade'⟩ :=
      ih hordered hwindows hshows₁ hplace₁ hmade₁ hlater₁
    refine ⟨scene', readings :: seen, hshows', .cons hwithin hseen, .cons hends hresults, ?_,
      hmade'⟩
    rw [hwrites', hwrites₁, schedule, List.countP_cons]
    omega

/-- **Certificates are replaced exactly at the boundary.** Checks that begin with no authority, or
with one that does not pass, replace everything first, and then whenever the instant that is looked
at has passed the end of the last authority; nothing else is ever written, unless a clock went back
within a check. The times are such as a certificate can tell, which has four digits for a year. -/
theorem refreshes_follow_schedule (hregular : rotator.IsRegular) (hkeys : IsReliableSource isKey)
    (hkept : ∀ call, (Contract.sole rotator.config.secretKey (isTimeOf call) isKey
      fun _ ↦ True).KeptBy (answer call) shows)
    {first : ι} {later : List ι}
    (hordered : (first :: later).Pairwise fun call next ↦ ∀ before after,
      isTimeOf call before → isTimeOf next after → before.seconds ≤ after.seconds)
    (hwindows : ∀ call ∈ first :: later, ∀ now, isTimeOf call now →
      Issuance.IsWritableWindow (.standard now))
    (hshows : shows real scene)
    (hplace : ∀ secret, scene.secret = some secret → secret.key? = some rotator.config.secretKey)
    (hfails : ∀ secret, scene.secret = some secret → ∀ now, isTimeOf first now →
      rotator.authorityIsValid secret (rotator.horizon now) = false) :
    ∃ scene' made seen, shows (rotator.refreshAt answer (first :: later) real).2 scene' ∧
      List.Forall₂ (fun call readings ↦ Readings.AreWithin readings (isTimeOf call))
        (first :: later) (made :: seen) ∧
      List.Forall₂ rotator.EndsWith (.rotatedCa :: rotator.schedule made.toDates seen)
        (rotator.refreshAt answer (first :: later) real).1 ∧
      ((∀ readings ∈ made :: seen, readings.ca.seconds ≤ readings.leaf.seconds) →
        .rotatedLeaf ∉ rotator.schedule made.toDates seen) ∧
      scene'.writes =
        scene.writes + 1 + (rotator.schedule made.toDates seen).countP (·.wroteSecret) ∧
      ∃ secret ca cert, scene'.secret = some secret ∧ secret.authority = .ok ca ∧
        ca.certificate = .ok cert ∧ cert.validity.notAfter.seconds =
          (seen.foldl rotator.datesAfter made.toDates).ca.seconds + Issuance.lifetime := by
  obtain ⟨hnext, hordered⟩ := List.pairwise_cons.1 hordered
  obtain ⟨hwindow, hwindows⟩ := List.forall_mem_cons.1 hwindows
  have hverdict : ∀ now, isTimeOf first now →
      rotator.verdict (rotator.subject scene) (rotator.horizon now) = .rotatedCa := by
    intro now hnow
    rw [subject]
    cases hsecret : scene.secret with
    | none => exact verdict_new _
    | some secret => exact verdict_eq_rotatedCa.2 (hfails secret hsecret now hnow)
  obtain ⟨scene₁, hshows₁, made, hwithin, hresult, hmade, hplace₁, hwrites⟩ :=
    (ensures_refresh_of_rotatedCa hregular hkeys (key?_subject hplace) hwindow hverdict).run
      (hkept first) hshows
  have hlater : ∀ next ∈ later, ∀ now, isTimeOf next now →
      made.ca.seconds ≤ now.seconds ∧ made.leaf.seconds ≤ now.seconds := fun next hmem now hnow ↦
    ⟨hnext next hmem _ now hwithin.ca hnow, hnext next hmem _ now hwithin.leaf hnow⟩
  obtain ⟨scene', seen, hshows', hseen, hresults, hwrites', hmade'⟩ :=
    refreshAt_of_holdsMade hregular hkeys hkept hordered hwindows hshows₁ hplace₁ hmade hlater
  obtain ⟨key, cert, -, hload, -, hcert, hend⟩ := hmade'.exists_authority hregular.toIsPlain
  refine ⟨scene', made, seen, hshows', .cons hwithin hseen, .cons hresult hresults, fun hinOrder ↦
    ?_, by rw [hwrites', hwrites], _, _, cert, hmade'.secret_eq, hload, hcert, hend⟩
  obtain ⟨hfirst, hrest⟩ := List.forall_mem_cons.1 hinOrder
  exact schedule_of_inOrder hfirst hrest

/-- Three checks in the world in memory that begin without a Secret: the last is due. -/
theorem refreshes_follow_schedule_absent :
    let answer := fun clock ↦ Simulation.answerMain (Simulation.sampleSetting clock) (.rotator 0)
    let key := Simulation.sampleRotator.config.secretKey
    let after := Simulation.sampleRotator.refreshAt answer [⟨0, 0⟩, ⟨1000, 0⟩, ⟨320000000, 0⟩]
      (Simulation.sampleWorld none)
    ∃ scene', after.2.Shows key (.rotator 0) scene' ∧
      after.1 = [.ok (.ok .rotatedCa), .ok (.ok .unchanged), .ok (.ok .rotatedCa)] ∧
      scene'.writes = 2 ∧ ∃ secret ca cert, scene'.secret = some secret ∧
        secret.authority = .ok ca ∧ ca.certificate = .ok cert ∧
        cert.validity.notAfter.seconds = 320000000 + Issuance.lifetime := by
  intro answer key after
  have hordered : ([⟨0, 0⟩, ⟨1000, 0⟩, ⟨320000000, 0⟩] : List Instant).Pairwise
      (·.seconds ≤ ·.seconds) := by decide
  have hwindows : ∀ clock ∈ ([⟨0, 0⟩, ⟨1000, 0⟩, ⟨320000000, 0⟩] : List Instant),
      Issuance.IsWritableWindow (.standard clock) := by
    unfold Issuance.IsWritableWindow
    decide
  obtain ⟨scene', made, seen, hshows, hseen, hends, -, hrest⟩ := refreshes_follow_schedule
    Simulation.isRegular_sample Simulation.isReliableSource_sample (Simulation.keptBy_sample _)
    (hordered.imp fun hle _ _ hbefore hafter ↦ by rwa [hbefore, hafter])
    (fun clock hmem _ hnow ↦ hnow ▸ hwindows clock hmem) (Simulation.shows_sample none)
    (by rintro _ ⟨⟩) (by rintro _ ⟨⟩)
  -- each clock shows one time, so the readings are those times
  obtain ⟨rfl, rfl⟩ := List.cons.inj (Readings.eq_map_still hseen)
  exact ⟨scene', hshows, Simulation.eq_map_of_endsWith_sample hends, hrest⟩

end Rotator

end WebhookTrust
