import WebhookTrust.Proofs.Attempts
import WebhookTrust.Proofs.Refresh

/-!
# Rotations are all or nothing

Here every call to the store may fail, in any order and any number of times; a write that fails is
not applied, and nobody else writes. `Contract.fallible` says so, and keeps books on the way
(`Ledger`): what is stored, what the running attempt has read and was given, which writes took
effect and what the hook was told. The books are part of no program; they are there to say what a
write has to do with the attempt that it belongs to.

A failure after a write cannot tell it from one before. Where the reply of a write may be lost, less
is true (`WebhookTrust.Proofs.LostReplies`).

## The theorems, and what each rests on

* `Rotator.ensures_refreshOnce_fallible`: an attempt that does not write leaves the books as they
  were, and one that writes does so once, with what it prepared from what it found
  (`Rotator.Prepares`). The writing is the last thing that can fail in it.
* `Rotator.ensures_refresh_fallible`: so a check writes once or not at all, however many attempts it
  takes. What a failed attempt hands to the next one are the books as they were; an attempt that
  wrote is the last one. The hook is told of the write and of nothing else.
* `Rotator.refresh_all_or_nothing`: the same for runs, with what the outcome says about the
  authority that was found.
* `Simulation.keptBy_fallible`: the world in memory is such a store, whatever faults are put in its
  way.

That a check gets anywhere at all is not said by any of these: if every call fails, it ends with an
error. How many failures it gets over is the matter of `Rotator.ensures_refresh_replaces_refusing`,
which the run with three failures at the end makes use of.
-/

namespace WebhookTrust

/-! ### Books -/

/-- What an attempt has read and was given so far: the Secret, the times and the keys. -/
structure Attempt where
  found : Option Secret
  times : List Instant
  keys : List (Except KeyFault Rsa.PrivateKey)

/-- A write that took effect, and the attempt that it was part of. -/
structure EffectiveWrite where
  attempt : Attempt
  /-- Was the Secret created, rather than replaced? -/
  isCreation : Bool
  secret : Secret

/-- The books of a store with one writer. -/
structure Ledger where
  stored : Option Secret
  attempt : Attempt
  writes : List EffectiveWrite
  /-- What the hook was told. -/
  notified : List RotationOutcome

namespace Ledger

/-- The books before a check. -/
def opening (stored : Option Secret) : Ledger := ⟨stored, ⟨none, [], []⟩, [], []⟩

/-- A new attempt has read the Secret. -/
def afterRead (ledger : Ledger) : Ledger := { ledger with attempt := ⟨ledger.stored, [], []⟩ }

/-- The time was read. -/
def afterTime (ledger : Ledger) (now : Instant) : Ledger :=
  { ledger with attempt := { ledger.attempt with times := ledger.attempt.times ++ [now] } }

/-- A key was given, or was not. -/
def afterKey (ledger : Ledger) (newKey : Except KeyFault Rsa.PrivateKey) : Ledger :=
  { ledger with attempt := { ledger.attempt with keys := ledger.attempt.keys ++ [newKey] } }

/-- A write took effect. -/
def afterWrite (ledger : Ledger) (isCreation : Bool) (secret stored : Secret) : Ledger :=
  { ledger with
    stored := some stored
    writes := ledger.writes ++ [⟨ledger.attempt, isCreation, secret⟩] }

/-- The hook was told. -/
def afterNotice (ledger : Ledger) (outcome : RotationOutcome) : Ledger :=
  { ledger with notified := ledger.notified ++ [outcome] }

/-- How a call to write is answered: with an error, or it takes effect. -/
def answersWrite (ledger : Ledger) (isCreation : Bool) (secret : Secret)
    (reply : Except Error Unit) (ledger' : Ledger) : Prop :=
  (∃ e, reply = .error e) ∧ ledger' = ledger ∨
    reply = .ok () ∧ ∃ stored, secret.IsKeptAs stored ∧
      ledger' = ledger.afterWrite isCreation secret stored

/-- What a check and its hook may do. -/
def permits (key : SecretKey) : Effect → Prop
  | .store (.getSecret wanted) => wanted = key
  | .store (.createSecret secret) | .store (.replaceSecret secret) => secret.key? = some key
  | .store (.getConsumer _) | .store (.replaceConsumer ..) | .spawnPollers => False
  | _ => True

/-- How it is answered. -/
def answers (isTime : Instant → Prop) (isKey : Except KeyFault Rsa.PrivateKey → Prop)
    (ledger : Ledger) : (effect : Effect) → effect.Reply → Ledger → Prop
  | .store (.getSecret _), reply, ledger' =>
    (∃ e, reply = .error e) ∧ ledger' = ledger ∨
      reply = .ok ledger.stored ∧ ledger' = ledger.afterRead
  | .store (.createSecret secret), reply, ledger' => ledger.answersWrite true secret reply ledger'
  | .store (.replaceSecret secret), reply, ledger' => ledger.answersWrite false secret reply ledger'
  | .now, now, ledger' => isTime now ∧ ledger' = ledger.afterTime now
  | .newKey, newKey, ledger' => isKey newKey ∧ ledger' = ledger.afterKey newKey
  | .notify outcome, _, ledger' => ledger' = ledger.afterNotice outcome
  | _, _, ledger' => ledger' = ledger

end Ledger

/-- Nobody else writes to the place of the Secret, but every call may fail. -/
def Contract.fallible (key : SecretKey) (isTime : Instant → Prop)
    (isKey : Except KeyFault Rsa.PrivateKey → Prop) : Contract Ledger where
  permits _ := Ledger.permits key
  answers ledger := ledger.answers isTime isKey

variable {key : SecretKey} {isTime : Instant → Prop}
  {isKey : Except KeyFault Rsa.PrivateKey → Prop} {ledger : Ledger} {stored : Option Secret}

theorem Contract.isIdle_fallible : (fallible key isTime isKey).IsIdle := by
  intro ledger effect hidle
  cases effect <;> first | exact hidle.elim | exact ⟨trivial, fun _ _ h ↦ h⟩

namespace Ledger

/-- Nothing was written and nobody was told of anything. -/
structure IsUntouched (stored : Option Secret) (ledger : Ledger) : Prop where
  stored : ledger.stored = stored
  writes : ledger.writes = []
  notified : ledger.notified = []

theorem isUntouched_opening : (opening stored).IsUntouched stored := ⟨rfl, rfl, rfl⟩

theorem IsUntouched.afterRead (h : ledger.IsUntouched stored) :
    ledger.afterRead.IsUntouched stored := ⟨h.stored, h.writes, h.notified⟩

theorem IsUntouched.afterTime (h : ledger.IsUntouched stored) (now : Instant) :
    (ledger.afterTime now).IsUntouched stored := ⟨h.stored, h.writes, h.notified⟩

theorem IsUntouched.afterKey (h : ledger.IsUntouched stored)
    (newKey : Except KeyFault Rsa.PrivateKey) :
    (ledger.afterKey newKey).IsUntouched stored := ⟨h.stored, h.writes, h.notified⟩

/-- The first write is the only one so far. -/
theorem IsUntouched.writes_afterWrite (h : ledger.IsUntouched stored) {isCreation : Bool}
    {secret kept : Secret} : (ledger.afterWrite isCreation secret kept).writes =
      [⟨ledger.attempt, isCreation, secret⟩] := by
  rw [afterWrite, h.writes, List.nil_append]

end Ledger

/-! ### Hooks that tell of what was done -/

/-- Tells whoever listens, and then does what another hook does. -/
def RotationHook.announcing (hook : RotationHook) : RotationHook := fun outcome ↦ do
  Procedure.perform (.notify outcome)
  hook outcome

/-- Telling whoever listens is quiet. -/
theorem RotationHook.isQuiet_announcing {hook : RotationHook} (h : hook.IsQuiet) :
    hook.announcing.IsQuiet := fun outcome ↦ ⟨trivial, fun _ ↦ h outcome⟩

namespace Rotator

open Procedure

variable {rotator : Rotator}

/-! ### What is written -/

/-- The Secret was made in an attempt that came to an outcome: of an authority and a serving
certificate under it, each made at a time and with a key of the attempt, or of the authority that
was found and a serving certificate under that. -/
inductive Prepares (rotator : Rotator) (attempt : Attempt) : RotationOutcome → Secret → Prop
  | authority {now instant caNow leafNow : Instant}
    {caKey leafKey : Except KeyFault Rsa.PrivateKey} {ca : KeyPair} {leaf : PemPair}
    (htimes : attempt.times = [now, caNow, leafNow]) (hkeys : attempt.keys = [caKey, leafKey])
    (hinstant : rotator.horizon? now = some instant)
    (hinvalid : rotator.authorityIsValid (rotator.basis attempt.found) instant = false)
    (hca : Issuance.authority rotator.scheme rotator.config.caName rotator.config.caOrganization
      (.standard caNow) caKey = .ok ca)
    (hleaf : Issuance.leaf rotator.scheme rotator.config.dnsName ca (.standard leafNow) leafKey =
      .ok leaf) :
    Prepares rotator attempt .rotatedCa ((rotator.basis attempt.found).withCertificates ca leaf)
  | leaf {now instant leafNow : Instant} {leafKey : Except KeyFault Rsa.PrivateKey} {ca : KeyPair}
    {leaf : PemPair}
    (htimes : attempt.times = [now, leafNow]) (hkeys : attempt.keys = [leafKey])
    (hinstant : rotator.horizon? now = some instant)
    (hvalid : rotator.authorityIsValid (rotator.basis attempt.found) instant = true)
    (hinvalid : rotator.leafIsValid (rotator.basis attempt.found) instant = false)
    (hca : (rotator.basis attempt.found).authority = .ok ca)
    (hleaf : Issuance.leaf rotator.scheme rotator.config.dnsName ca (.standard leafNow) leafKey =
      .ok leaf) :
    Prepares rotator attempt .rotatedLeaf ((rotator.basis attempt.found).withCertificates ca leaf)

variable {attempt : Attempt} {outcome : RotationOutcome} {secret : Secret}

/-- What is prepared is not nothing. -/
theorem Prepares.wroteSecret (h : rotator.Prepares attempt outcome secret) :
    outcome.wroteSecret = true := by
  cases h <;> rfl

/-- What is prepared goes where the Secret was found. -/
theorem Prepares.key? (h : rotator.Prepares attempt outcome secret) :
    secret.key? = (rotator.basis attempt.found).key? := by
  cases h <;> rfl

/-- **Everything is replaced exactly if the authority that was found does not pass**, at the instant
that the attempt looked at. -/
theorem Prepares.exists_instant (h : rotator.Prepares attempt outcome secret) :
    ∃ now instant, attempt.times.head? = some now ∧ rotator.horizon? now = some instant ∧
      (outcome = .rotatedCa ↔
        rotator.authorityIsValid (rotator.basis attempt.found) instant = false) := by
  cases h with
  | authority htimes hkeys hinstant hinvalid =>
    exact ⟨_, _, by rw [htimes]; rfl, hinstant, iff_of_true rfl hinvalid⟩
  | leaf htimes hkeys hinstant hvalid =>
    exact ⟨_, _, by rw [htimes]; rfl, hinstant, by simp [hvalid]⟩

/-- A write that took effect was prepared by the attempt that it was part of, which had found what
was stored before the check, and its Secret is the one that is stored now. -/
structure Commits (rotator : Rotator) (stored : Option Secret) (outcome : RotationOutcome)
    (write : EffectiveWrite) (ledger : Ledger) : Prop where
  writes : ledger.writes = [write]
  found : write.attempt.found = stored
  isCreation : write.isCreation = stored.isNone
  prepares : rotator.Prepares write.attempt outcome write.secret
  kept : ∃ kept, write.secret.IsKeptAs kept ∧ ledger.stored = some kept

/-- What else there is in the books does not matter. -/
theorem Commits.of_eq {write : EffectiveWrite} {ledger' : Ledger}
    (h : rotator.Commits stored outcome write ledger) (hwrites : ledger'.writes = ledger.writes)
    (hstored : ledger'.stored = ledger.stored) : rotator.Commits stored outcome write ledger' where
  writes := hwrites.trans h.writes
  found := h.found
  isCreation := h.isCreation
  prepares := h.prepares
  kept := hstored ▸ h.kept

/-- The ways in which an attempt settles. -/
inductive Settles (rotator : Rotator) (stored : Option Secret) :
    Except Halt (Except Error RotationOutcome) → Ledger → Prop
  /-- The instant to check is not in the calendar. -/
  | crashed {ledger : Ledger} (huntouched : ledger.IsUntouched stored) :
    Settles rotator stored (.error .crashed) ledger
  /-- Something failed. -/
  | failed {ledger : Ledger} {e : Error} (huntouched : ledger.IsUntouched stored) :
    Settles rotator stored (.ok (.error e)) ledger
  /-- Both certificates pass. -/
  | unchanged {ledger : Ledger} {secret : Secret} {now instant : Instant}
    (huntouched : ledger.IsUntouched stored) (hsecret : stored = some secret)
    (hattempt : ledger.attempt = ⟨stored, [now], []⟩)
    (hinstant : rotator.horizon? now = some instant)
    (hverdict : rotator.verdict secret instant = .unchanged) :
    Settles rotator stored (.ok (.ok .unchanged)) ledger
  /-- The Secret was written. -/
  | rotated {ledger : Ledger} {outcome : RotationOutcome} {write : EffectiveWrite}
    (hcommits : rotator.Commits stored outcome write ledger)
    (hattempt : write.attempt = ledger.attempt) (hnotified : ledger.notified = []) :
    Settles rotator stored (.ok (.ok outcome)) ledger

/-! ### Making and writing -/

/-- The books while an attempt makes a certificate: a time is read, and then a key is drawn if the
name can stand in a certificate. -/
theorem ensures_made_fallible {α : Type} (name task : String)
    (make : Instant → Except KeyFault Rsa.PrivateKey → Except PkiError α)
    (huntouched : ledger.IsUntouched stored) :
    Ensures (.fallible key isTime isKey)
      (fun result ledger' ↦ (∃ e, result = .ok (.error e)) ∧ ledger'.IsUntouched stored ∨
        ∃ now newKey made, make now newKey = .ok made ∧ result = .ok (.ok made) ∧
          ledger' = (ledger.afterTime now).afterKey newKey)
      (do
        let now ← perform .now
        match Issuance.ensureDnsName name with
        | .error cause => return .error (.pki cause)
        | .ok () => return (make now (← perform .newKey)).mapError (issueError task)) ledger := by
  refine ⟨trivial, ?_⟩
  rintro now _ ⟨-, rfl⟩
  cases hname : Issuance.ensureDnsName name with
  | error cause => exact .inl ⟨⟨_, rfl⟩, huntouched.afterTime now⟩
  | ok u =>
    refine ⟨trivial, ?_⟩
    rintro newKey _ ⟨-, rfl⟩
    show _ ∨ ∃ _ _ _, _
    cases hmade : make now newKey with
    | error cause => exact .inl ⟨⟨_, rfl⟩, (huntouched.afterTime now).afterKey newKey⟩
    | ok made => exact .inr ⟨now, newKey, made, hmade, rfl, rfl⟩

/-- A write is refused and leaves the books as they are, or takes effect. -/
theorem ensures_write_fallible {existed : Bool} (hkey : secret.key? = some key) :
    Ensures (.fallible key isTime isKey)
      (fun result ledger' ↦ (∃ e, result = .ok (.error e)) ∧ ledger' = ledger ∨
        result = .ok (.ok ()) ∧ ∃ kept, secret.IsKeptAs kept ∧
          ledger' = ledger.afterWrite (!existed) secret kept)
      (write existed secret) ledger := by
  have hanswer : ∀ reply ledger', ledger.answersWrite (!existed) secret reply ledger' →
      (∃ e, Except.ok (ε := Halt) reply = .ok (.error e)) ∧ ledger' = ledger ∨
        Except.ok (ε := Halt) reply = .ok (.ok ()) ∧ ∃ kept, secret.IsKeptAs kept ∧
          ledger' = ledger.afterWrite (!existed) secret kept := by
    rintro reply ledger' (⟨⟨e, rfl⟩, rfl⟩ | ⟨rfl, hkept⟩)
    · exact .inl ⟨⟨e, rfl⟩, rfl⟩
    · exact .inr ⟨rfl, hkept⟩
  cases existed with
  | false => exact ⟨hkey, hanswer⟩
  | true => exact ⟨hkey, hanswer⟩

/-- **Once there is an authority, an attempt fails without a trace or writes what it prepared.** -/
theorem ensures_makeLeaf_fallible (huntouched : ledger.IsUntouched stored)
    (hfound : ledger.attempt.found = stored) (hplace : secret.key? = some key) (ca : KeyPair)
    (hprepares : ∀ now newKey leaf, Issuance.leaf rotator.scheme rotator.config.dnsName ca
        (.standard now) newKey = .ok leaf →
      rotator.Prepares ((ledger.afterTime now).afterKey newKey).attempt outcome
        (secret.withCertificates ca leaf)) :
    Ensures (.fallible key isTime isKey) (rotator.Settles stored)
      ((rotator.makeLeaf ca).andThen fun leaf ↦
        (write stored.isSome (secret.withCertificates ca leaf)).andThen fun () ↦ do
          perform (.record (.rotation (scopeOf outcome)))
          log .info "server certs refreshed"
            [("secret", .text rotator.config.secretKey.text), ("outcome", .text outcome.text)]
          return .ok outcome) ledger := by
  rw [ensures_andThen]
  refine (ensures_made_fallible rotator.config.dnsName "leaf generation" (fun now newKey ↦
    Issuance.leaf rotator.scheme rotator.config.dnsName ca (.standard now) newKey)
    huntouched).mono ?_
  rintro _ ledger' (⟨⟨e, rfl⟩, huntouched'⟩ | ⟨now, newKey, leaf, hleaf, rfl, rfl⟩)
  · exact .failed huntouched'
  have hdrawn := (huntouched.afterTime now).afterKey newKey
  have hwritten : (secret.withCertificates ca leaf).key? = some key := hplace
  refine (ensures_andThen _ _).2 ((ensures_write_fallible hwritten).mono ?_)
  rintro _ ledger' (⟨⟨e, rfl⟩, rfl⟩ | ⟨rfl, kept, hkept, rfl⟩)
  · exact .failed hdrawn
  -- what is left is to count the rotation and to log it
  refine ⟨trivial, ?_⟩
  rintro _ _ rfl
  refine ensures_log_bind Contract.isIdle_fallible ?_
  have hnegated : (!stored.isSome) = stored.isNone := by cases stored <;> rfl
  exact .rotated ⟨hdrawn.writes_afterWrite, hfound, hnegated, hprepares now newKey leaf hleaf, kept,
    hkept, rfl⟩ rfl huntouched.notified

/-- **Replacing what has to be replaced settles an attempt.** -/
theorem ensures_rotate_fallible {now instant : Instant} (huntouched : ledger.IsUntouched stored)
    (hattempt : ledger.attempt = ⟨stored, [now], []⟩)
    (hplace : (rotator.basis stored).key? = some key)
    (hinstant : rotator.horizon? now = some instant)
    (hverdict : rotator.verdict (rotator.basis stored) instant = outcome)
    (hwrites : outcome.wroteSecret = true) :
    Ensures (.fallible key isTime isKey) (rotator.Settles stored)
      (rotator.rotate outcome stored.isSome (rotator.basis stored)) ledger := by
  have hfound : ledger.attempt.found = stored := by rw [hattempt]
  rw [rotate, ensures_andThen, obtainAuthority]
  cases outcome with
  | unchanged => simp [RotationOutcome.wroteSecret] at hwrites
  | rotatedCa =>
    rw [if_pos rfl]
    refine ensures_log_bind Contract.isIdle_fallible ?_
    refine (ensures_made_fallible rotator.config.caName "CA generation" (fun now newKey ↦
      Issuance.authority rotator.scheme rotator.config.caName rotator.config.caOrganization
        (.standard now) newKey) huntouched).mono ?_
    rintro _ ledger' (⟨⟨e, rfl⟩, huntouched'⟩ | ⟨caNow, caKey, ca, hca, rfl, rfl⟩)
    · exact .failed huntouched'
    refine ensures_makeLeaf_fallible ((huntouched.afterTime caNow).afterKey caKey) hfound hplace ca
      fun leafNow leafKey leaf hleaf ↦ ?_
    obtain rfl := hfound
    refine .authority ?_ ?_ hinstant (verdict_eq_rotatedCa.1 hverdict) hca hleaf
    · show (ledger.attempt.times ++ [caNow]) ++ [leafNow] = _
      rw [hattempt]
      rfl
    · show (ledger.attempt.keys ++ [caKey]) ++ [leafKey] = _
      rw [hattempt]
      rfl
  | rotatedLeaf =>
    rw [if_neg (by simp)]
    refine ensures_log_bind Contract.isIdle_fallible ?_
    cases hload : (rotator.basis stored).authority with
    | error cause => exact .failed huntouched
    | ok ca =>
      refine ensures_makeLeaf_fallible huntouched hfound hplace ca
        fun leafNow leafKey leaf hleaf ↦ ?_
      obtain ⟨hvalid, hinvalid⟩ := verdict_eq_rotatedLeaf.1 hverdict
      obtain rfl := hfound
      refine .leaf ?_ ?_ hinstant hvalid hinvalid hload hleaf
      · show ledger.attempt.times ++ [leafNow] = _
        rw [hattempt]
        rfl
      · show ledger.attempt.keys ++ [leafKey] = _
        rw [hattempt]
        rfl

/-! ### Checks -/

/-- **An attempt that does not write leaves the books as they were, and one that writes does so
once**, with what it prepared from what it found. -/
theorem ensures_refreshOnce_fallible (huntouched : ledger.IsUntouched stored)
    (hplace : (rotator.basis stored).key? = some rotator.config.secretKey) :
    Ensures (.fallible rotator.config.secretKey isTime isKey) (rotator.Settles stored)
      rotator.refreshOnce ledger := by
  rw [refreshOnce, ensures_andThen]
  refine ⟨rfl, ?_⟩
  rintro _ _ (⟨⟨e, rfl⟩, rfl⟩ | ⟨rfl, rfl⟩)
  · exact .failed huntouched
  obtain rfl := huntouched.stored
  refine ensures_foundOrNew_bind Contract.isIdle_fallible ⟨trivial, ?_⟩
  rintro now _ ⟨-, rfl⟩
  have hread := huntouched.afterRead.afterTime now
  simp only [pure_bind]
  cases hinstant : rotator.horizon? now with
  | none => exact .crashed hread
  | some instant =>
    refine ensures_assess_bind Contract.isIdle_fallible ?_
    have hbasis : ledger.stored.getD (.new rotator.config.secretKey) =
        rotator.basis ledger.stored := rfl
    rw [hbasis]
    cases hverdict : rotator.verdict (rotator.basis ledger.stored) instant with
    | unchanged =>
      refine ensures_log_bind Contract.isIdle_fallible ?_
      -- a new Secret is never left as it is, so there was one
      cases hstored : ledger.stored with
      | none => simp [hstored, basis, verdict_new] at hverdict
      | some secret =>
        rw [hstored] at hverdict hread
        exact .unchanged hread rfl (by rw [← hstored]; rfl) hinstant hverdict
    | rotatedLeaf => exact ensures_rotate_fallible hread rfl hplace hinstant hverdict rfl
    | rotatedCa => exact ensures_rotate_fallible hread rfl hplace hinstant hverdict rfl

/-- An attempt that fails leaves the books as they were. -/
theorem Settles.isUntouched {e : Error} (h : rotator.Settles stored (.ok (.error e)) ledger) :
    ledger.IsUntouched stored := by
  cases h with
  | failed huntouched => exact huntouched

/-- **However often it is tried again, an attempt settles in one of the ways in the end.** -/
theorem ensures_retry_fallible
    (hplace : (rotator.basis stored).key? = some rotator.config.secretKey) :
    Ensures (.fallible rotator.config.secretKey isTime isKey) (rotator.Settles stored)
      (rotator.config.refreshBackoff.retry "refresh_certs" Error.message rotator.refreshOnce)
      (.opening stored) := by
  -- what a failed attempt hands to the next one are the books as they were
  refine Backoff.ensures_retry (Ledger.IsUntouched stored) Contract.isIdle_fallible ?_ ?_ ?_
    Ledger.isUntouched_opening
  · intro ledger huntouched
    refine (ensures_refreshOnce_fallible huntouched hplace).mono ?_
    intro result ledger' hsettles
    refine ⟨?_, fun _ ↦ hsettles⟩
    rintro e rfl
    exact hsettles.isUntouched
  · exact fun ledger e huntouched ↦ .failed huntouched
  · exact fun ledger huntouched ↦ .crashed huntouched

/-- The hook is told of the write, and what it does then is not noted. -/
theorem ensures_hook_fallible {inner : RotationHook} {write : EffectiveWrite}
    (hinner : ∀ outcome, (inner outcome).Only Effect.IsApart)
    (hcommits : rotator.Commits stored outcome write ledger) (hnotified : ledger.notified = []) :
    Ensures (.fallible key isTime isKey)
      (fun ending ledger' ↦ (RotationHook.announcing inner outcome).Yields ending ∧
        rotator.Commits stored outcome write ledger' ∧ ledger'.notified = [outcome])
      (RotationHook.announcing inner outcome) ledger := by
  refine ⟨trivial, ?_⟩
  rintro reply _ rfl
  have htold : rotator.Commits stored outcome write (ledger.afterNotice outcome) ∧
      (ledger.afterNotice outcome).notified = [outcome] := by
    refine ⟨hcommits.of_eq rfl rfl, ?_⟩
    show ledger.notified ++ [outcome] = _
    rw [hnotified, List.nil_append]
  refine (ensures_of_only (fun ledger' ↦ rotator.Commits stored outcome write ledger' ∧
    ledger'.notified = [outcome]) (hinner outcome) ?_ htold).mono ?_
  · rintro effect hapart ledger' ⟨hcommits', hnotified'⟩
    cases effect with
    | store | notify | spawnPollers => exact hapart.elim
    | now | newKey =>
      refine ⟨trivial, ?_⟩
      rintro _ _ ⟨-, rfl⟩
      exact ⟨hcommits'.of_eq rfl rfl, hnotified'⟩
    | _ =>
      refine ⟨trivial, ?_⟩
      rintro _ _ rfl
      exact ⟨hcommits', hnotified'⟩
  · rintro ending ledger' ⟨hyields, hcommits', hnotified'⟩
    exact ⟨⟨reply, hyields⟩, hcommits', hnotified'⟩

/-- **A check writes once and tells the hook, or does neither.** -/
theorem ensures_refresh_fallible {inner : RotationHook} (hhook : rotator.hook = .announcing inner)
    (hinner : ∀ outcome, (inner outcome).Only Effect.IsApart)
    (hplace : (rotator.basis stored).key? = some rotator.config.secretKey) :
    Ensures (.fallible rotator.config.secretKey isTime isKey)
      (fun result ledger ↦
        (∃ outcome write, rotator.Commits stored outcome write ledger ∧
          ledger.notified = [outcome] ∧ rotator.EndsWith outcome result) ∨
        rotator.Settles stored result ledger ∧ ledger.IsUntouched stored)
      rotator.refresh (.opening stored) := by
  rw [refresh, ensures_andThen]
  refine (ensures_retry_fallible hplace).mono ?_
  intro attempt ledger hsettles
  cases hsettles with
  | crashed huntouched => exact .inr ⟨.crashed huntouched, huntouched⟩
  | failed huntouched => exact .inr ⟨.failed huntouched, huntouched⟩
  | unchanged huntouched hsecret hattempt hinstant hverdict =>
    exact .inr ⟨.unchanged huntouched hsecret hattempt hinstant hverdict, huntouched⟩
  | @rotated ledger outcome write hcommits hattempt hnotified =>
    have hwrote := hcommits.prepares.wroteSecret
    refine ensures_conclude hwrote ?_
    rw [hhook]
    refine (ensures_hook_fallible hinner hcommits hnotified).mono ?_
    rintro ending ledger' ⟨hyields, hcommits', hnotified'⟩
    rw [← hhook] at hyields
    exact .inl ⟨outcome, write, hcommits', hnotified', endsWith_of_yields hwrote hyields⟩

/-- The Secret that an attempt goes on from is where the configuration says. -/
theorem key?_basis (h : ∀ secret, stored = some secret →
    secret.key? = some rotator.config.secretKey) :
    (rotator.basis stored).key? = some rotator.config.secretKey := by
  rw [basis]
  cases stored with
  | none => rfl
  | some secret => exact h secret rfl

end Rotator

/-! ### The world in memory -/

namespace Simulation

variable {setting : Setting} {site : Site} {world : World}

/-- The world passes for books, and nothing in it goes on by itself. Its calls may fail. -/
structure World.ShowsLedger (key : SecretKey) (world : World) (ledger : Ledger) : Prop where
  stored : ledger.stored = world.store.secret? key
  writes : ledger.writes.length = world.store.secretWrites
  notified : ledger.notified = world.notified.reverse
  tasks : world.tasks = []

/-- What else there is in a world does not show. -/
theorem World.ShowsLedger.of_eq {other : World} (h : world.ShowsLedger key ledger)
    (hstore : other.store = world.store) (hnotified : other.notified = world.notified)
    (htasks : other.tasks = world.tasks) : other.ShowsLedger key ledger where
  stored := by rw [hstore, h.stored]
  writes := by rw [hstore, h.writes]
  notified := by rw [hnotified, h.notified]
  tasks := by rw [htasks, h.tasks]

/-- Nothing differs that concerns the store and those who listen, and nothing goes on by itself. -/
structure World.SameStore (world after : World) : Prop where
  store : after.store = world.store
  faults : after.faults = world.faults
  calls : after.calls = world.calls
  notified : after.notified = world.notified
  tasks : after.tasks = []

theorem World.sameStore_setRotator (htasks : world.tasks = []) (state : RotatorState)
    (site : Site) : world.SameStore (world.setRotator state site) := by
  cases site <;> exact ⟨rfl, rfl, rfl, rfl, htasks⟩

/-- **Effects that leave the store and those who listen alone do so in the world in memory.** -/
theorem sameStore_answerMain (setting : Setting) (site : Site) (htasks : world.tasks = [])
    {effect : Effect} (hapart : effect.IsApart) :
    world.SameStore (answerMain setting site effect world).2 := by
  cases effect with
  | store | notify | spawnPollers => exact hapart.elim
  | sleep ns =>
    obtain ⟨time, hslept⟩ := sleep_of_tasks_nil setting htasks (wakeTime world.time ns - world.time)
    rw [answerMain, hslept]
    exact ⟨rfl, rfl, rfl, rfl, htasks⟩
  | setInjected | startTicker => exact World.sameStore_setRotator htasks _ site
  | fire signal =>
    simp only [answerMain, World.answer]
    split_ifs
    · exact ⟨rfl, rfl, rfl, rfl, htasks⟩
    · exact World.sameStore_setRotator htasks _ site
  | wait =>
    show world.SameStore (world.afterWake site ((world.wake? site).getD .stop))
    rcases (world.wake? site).getD .stop with _ | _ | _ | _
    · exact World.sameStore_setRotator htasks _ site
    all_goals exact ⟨rfl, rfl, rfl, rfl, htasks⟩
  | now | newKey | jitter | log | record | fileExists | isInjected | await =>
    exact ⟨rfl, rfl, rfl, rfl, htasks⟩

/-- A write under the key shows in the books. -/
theorem World.ShowsLedger.writeSecret (h : world.ShowsLedger key ledger) (isCreation : Bool)
    (secret : Secret) : ∃ kept, secret.IsKeptAs kept ∧
      World.ShowsLedger key { world with store := world.store.writeSecret key secret }
        (ledger.afterWrite isCreation secret kept) := by
  obtain ⟨kept, hkept, hstored⟩ := world.store.exists_kept_writeSecret key secret
  refine ⟨kept, hkept, hstored.symm, ?_, h.notified, h.tasks⟩
  rw [Ledger.afterWrite, List.length_append, h.writes]
  rfl

/-- The store in memory answers every permitted call, with a fault or as a store with one writer. -/
theorem showsLedger_answerCall (h : world.ShowsLedger key ledger) {call : StoreCall}
    (hpermits : Ledger.permits key (.store call)) :
    ∃ ledger', ledger.answers isTime isKey (.store call) (world.answerCall call).1 ledger' ∧
      World.ShowsLedger key (world.answerCall call).2 ledger' := by
  rcases answerCall_cases world call with ⟨e, faults, hfault, -⟩ | hanswer
  · rw [hfault]
    have hsame : World.ShowsLedger key { world with calls := call :: world.calls, faults } ledger :=
      h.of_eq rfl rfl rfl
    cases call with
    | getSecret | createSecret | replaceSecret => exact ⟨ledger, .inl ⟨⟨e, rfl⟩, rfl⟩, hsame⟩
    | getConsumer | replaceConsumer => exact hpermits.elim
  rw [hanswer]
  have hnoted : World.ShowsLedger key { world with calls := call :: world.calls } ledger :=
    h.of_eq rfl rfl rfl
  cases call with
  | getSecret wanted =>
    obtain rfl := hpermits
    refine ⟨ledger.afterRead, .inr ⟨?_, rfl⟩, ⟨h.stored, h.writes, h.notified, h.tasks⟩⟩
    show Except.ok _ = _
    rw [h.stored]
  | createSecret secret =>
    rcases world.store.answer_createSecret_cases secret with
      ⟨e, hrefused⟩ | ⟨other, hkey, -, hwrite⟩
    · rw [hrefused]
      exact ⟨ledger, .inl ⟨⟨e, rfl⟩, rfl⟩, hnoted⟩
    · obtain rfl : other = key := Option.some.inj (hkey.symm.trans hpermits)
      obtain ⟨kept, hkept, hshows⟩ := hnoted.writeSecret true secret
      rw [hwrite]
      exact ⟨_, .inr ⟨rfl, kept, hkept, rfl⟩, hshows⟩
  | replaceSecret secret =>
    rcases world.store.answer_replaceSecret_cases secret with
      ⟨e, hrefused⟩ | ⟨other, hkey, -, hwrite⟩
    · rw [hrefused]
      exact ⟨ledger, .inl ⟨⟨e, rfl⟩, rfl⟩, hnoted⟩
    · obtain rfl : other = key := Option.some.inj (hkey.symm.trans hpermits)
      obtain ⟨kept, hkept, hshows⟩ := hnoted.writeSecret false secret
      rw [hwrite]
      exact ⟨_, .inr ⟨rfl, kept, hkept, rfl⟩, hshows⟩
  | getConsumer | replaceConsumer => exact hpermits.elim

/-- **The world in memory is a store with one writer, whatever faults are put in its way.** -/
theorem keptBy_fallible (setting : Setting) (site : Site) (htime : isTime setting.clock)
    (hkeys : ∀ number, isKey (setting.keys number)) :
    (Contract.fallible key isTime isKey).KeptBy (answerMain setting site)
      (World.ShowsLedger key) := by
  intro world ledger effect h hpermits
  have hsame (hapart : effect.IsApart) {ledger' : Ledger} (hstored : ledger'.stored = ledger.stored)
      (hwrites : ledger'.writes = ledger.writes) (hnotified : ledger'.notified = ledger.notified) :
      World.ShowsLedger key (answerMain setting site effect world).2 ledger' := by
    have hsame := sameStore_answerMain setting site h.tasks hapart
    refine ⟨?_, ?_, ?_, hsame.tasks⟩
    · rw [hsame.store, hstored, h.stored]
    · rw [hsame.store, hwrites, h.writes]
    · rw [hsame.notified, hnotified, h.notified]
  cases effect with
  | store call => exact showsLedger_answerCall h hpermits
  | notify outcome =>
    refine ⟨_, rfl, h.stored, h.writes, ?_, h.tasks⟩
    show ledger.notified ++ [outcome] = (outcome :: world.notified).reverse
    rw [List.reverse_cons, h.notified]
  | spawnPollers => exact hpermits.elim
  | now => exact ⟨_, ⟨htime, rfl⟩, hsame trivial rfl rfl rfl⟩
  | newKey => exact ⟨_, ⟨hkeys _, rfl⟩, hsame trivial rfl rfl rfl⟩
  | _ => exact ⟨ledger, rfl, hsame trivial rfl rfl rfl⟩

end Simulation

namespace Rotator

variable {rotator : Rotator}

/-- **A check is all or nothing.** Either exactly one write takes effect, which creates the Secret
if the attempt found none and replaces it otherwise, with all four entries made in that attempt;
then the hook is told exactly once and the check ends with that outcome, if the hook returns. Or
nothing is written, the hook is told nothing, and the check finds everything in place, fails or
crashes. -/
theorem refresh_all_or_nothing {σ : Type} {answer : (effect : Effect) → σ → effect.Reply × σ}
    {shows : σ → Ledger → Prop} {real : σ} {inner : RotationHook}
    (hhook : rotator.hook = .announcing inner)
    (hinner : ∀ outcome, (inner outcome).Only Effect.IsApart)
    (hplace : ∀ secret, stored = some secret → secret.key? = some rotator.config.secretKey)
    (hkept : (Contract.fallible rotator.config.secretKey isTime isKey).KeptBy answer shows)
    (hshows : shows real (.opening stored)) :
    ∃ ledger, shows (rotator.refresh.run answer real).2 ledger ∧
      ((∃ outcome write now instant, rotator.Commits stored outcome write ledger ∧
          write.attempt.times.head? = some now ∧ rotator.horizon? now = some instant ∧
          (outcome = .rotatedCa ↔
            rotator.authorityIsValid (rotator.basis stored) instant = false) ∧
          ledger.notified = [outcome] ∧
          rotator.EndsWith outcome (rotator.refresh.run answer real).1) ∨
        (ledger.stored = stored ∧ ledger.writes = [] ∧ ledger.notified = []) ∧
          ((rotator.refresh.run answer real).1 = .ok (.ok .unchanged) ∨
            (∃ e, (rotator.refresh.run answer real).1 = .ok (.error e)) ∨
            (rotator.refresh.run answer real).1 = .error .crashed)) := by
  obtain ⟨ledger, hshows', hends⟩ :=
    (ensures_refresh_fallible hhook hinner (key?_basis hplace)).run hkept hshows
  refine ⟨ledger, hshows', ?_⟩
  rcases hends with ⟨outcome, write, hcommits, hnotified, hends⟩ | ⟨hsettles, huntouched⟩
  · obtain ⟨now, instant, hnow, hinstant, hscope⟩ := hcommits.prepares.exists_instant
    rw [hcommits.found] at hscope
    exact .inl ⟨outcome, write, now, instant, hcommits, hnow, hinstant, hscope, hnotified, hends⟩
  · refine .inr ⟨⟨huntouched.stored, huntouched.writes, huntouched.notified⟩, ?_⟩
    generalize (rotator.refresh.run answer real).1 = result at hsettles
    cases hsettles with
    | crashed => exact .inr (.inr rfl)
    | failed => exact .inr (.inl ⟨_, rfl⟩)
    | unchanged => exact .inl rfl
    | rotated hcommits =>
      -- a write took effect, which the books would tell of
      have hwrites := hcommits.writes.symm.trans huntouched.writes
      simp at hwrites

/-- In the world in memory, with a read and two writes that fail: the fourth attempt creates the
Secret. -/
theorem refresh_all_or_nothing_faulty :
    let rotator := { Simulation.sampleRotator with hook := .announcing .silent }
    let refused := Error.internal (.other "store" "refused")
    let world := { Simulation.sampleWorld none with
      faults := [⟨"get_secret", 1, refused⟩, ⟨"create_secret", 2, refused⟩] }
    let run := rotator.refresh.run
      (Simulation.answerMain (Simulation.sampleSetting ⟨0, 0⟩) (.rotator 0)) world
    run.1 = .ok (.ok .rotatedCa) ∧
      ∃ ledger write, Simulation.World.ShowsLedger rotator.config.secretKey run.2 ledger ∧
        ledger.writes = [write] ∧ write.isCreation = true ∧ ledger.notified = [.rotatedCa] ∧
        ledger.stored.isSome := by
  intro rotator refused world run
  -- from here on the run is a name, lest it be carried out wherever it is mentioned
  have hrun : rotator.refresh.run
    (Simulation.answerMain (Simulation.sampleSetting ⟨0, 0⟩) (.rotator 0)) world = run := rfl
  clear_value run
  have hplain : rotator.IsPlain :=
    { Simulation.isRegular_sample with
      hook := RotationHook.isQuiet_announcing RotationHook.isQuiet_silent }
  have hreturns (halt : Halt) : ¬ (rotator.hook .rotatedCa).Yields (.error halt) := by
    rintro ⟨-, ⟨⟩⟩
  have hkeys : ∀ number, Simulation.isSampleKey ((Simulation.sampleSetting ⟨0, 0⟩).keys number) :=
    fun _ ↦ rfl
  have hresult : run.1 = .ok (.ok .rotatedCa) := by
    have hcan : CanAlwaysMake (· = ⟨0, 0⟩) Simulation.isSampleKey :=
      Simulation.isReliableSource_sample.canAlwaysMake_iff.2 <| by
        rintro _ rfl
        constructor <;> decide
    have hverdict : ∀ now, now = ⟨0, 0⟩ → ∃ instant, rotator.horizon? now = some instant ∧
        rotator.verdict (rotator.subject (Simulation.sampleScene none)) instant = .rotatedCa := by
      rintro _ rfl
      exact ⟨rotator.horizon ⟨0, 0⟩, by decide, verdict_new _⟩
    have hrefuses : Simulation.World.Refuses rotator.config.secretKey (.rotator 0) world
        (3, Simulation.sampleScene none) := ⟨Simulation.shows_sample none, Nat.le_refl 3⟩
    have hplace : rotator.IsPlaced (Simulation.sampleScene none) := rfl
    obtain ⟨-, -, hends⟩ := (ensures_refresh_replaces_refusing hplain
      Simulation.isReliableSource_sample.isFit hplace Simulation.isRegular_sample.names hcan
      hverdict (by decide) (by decide) (by decide)).run
        (Simulation.keptBy_refusing (Simulation.sampleSetting ⟨0, 0⟩) rfl hkeys) hrefuses
    rw [hrun] at hends
    exact hends.eq hreturns
  have hshows : world.ShowsLedger rotator.config.secretKey (.opening none) := ⟨rfl, rfl, rfl, rfl⟩
  have hsilent : ∀ outcome, (RotationHook.silent outcome).Only Effect.IsApart := fun _ ↦ trivial
  have hkept : (Contract.fallible rotator.config.secretKey (· = ⟨0, 0⟩)
      Simulation.isSampleKey).KeptBy (Simulation.answerMain (Simulation.sampleSetting ⟨0, 0⟩)
        (.rotator 0)) (Simulation.World.ShowsLedger rotator.config.secretKey) :=
    Simulation.keptBy_fallible _ _ rfl hkeys
  obtain ⟨ledger, hshows', hends⟩ :=
    refresh_all_or_nothing rfl hsilent (by rintro _ ⟨⟩) hkept hshows
  rw [hrun] at hshows' hends
  refine ⟨hresult, ledger, ?_⟩
  rcases hends with ⟨outcome, write, -, -, hcommits, -, -, -, hnotified, hends⟩ | ⟨-, hnothing⟩
  · obtain rfl : RotationOutcome.rotatedCa = outcome := (hresult ▸ hends).eq_of_ok
    obtain ⟨kept, -, hstored⟩ := hcommits.kept
    exact ⟨write, hshows', hcommits.writes, hcommits.isCreation, hnotified, by rw [hstored]; rfl⟩
  · -- the check came to an outcome that is not one of a check without a write
    rw [hresult] at hnothing
    rcases hnothing with hunchanged | ⟨e, hfailed⟩ | hcrashed
    · cases hunchanged
    · cases hfailed
    · cases hcrashed

end Rotator

end WebhookTrust
