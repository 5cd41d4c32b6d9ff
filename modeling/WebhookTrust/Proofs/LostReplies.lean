import WebhookTrust.Proofs.Atomicity
import WebhookTrust.Proofs.Racing

/-!
# Replies that are lost

Every call to the store has a fate of its own here: it is answered, or refused before anything is
done, or carried out with its reply lost. A write of the last sort is reported as failed and is in
the store nevertheless. Nobody else writes. `Contract.scheduled` says so for a schedule of fates by
the number of the call, and keeps a journal of what was sent and carried out.

A check tells its hook by the outcome of its last attempt, which finds in place what an attempt
before it wrote without learning of it. So the hook can miss a change of the Secret, and it is told
of no change that was not made.

## The theorems, and what each rests on

* `Rotator.ensures_refresh_scheduled`: the hook is told of a write exactly if its reply arrived, and
  that is then the last one. What the attempts hand on is that no write so far was acknowledged
  (`Journal.IsUnaware`): an attempt that fails keeps it, and one that learns of its write is the
  last one.
* `Rotator.refresh_tells_of_acknowledged`: the same for runs, as a condition on the journal. It
  holds for every schedule, so also for all those on which the hook misses something.
* `Rotator.ensures_refresh_of_lost`: if the reply to a first write is lost, the second attempt finds
  nothing to do, and the check has an outcome as if nothing had been written. This takes a second
  attempt, and a clock on which what was just made passes.
* `Rotator.not_told_of_lost_write`: it happens, in the world in memory, with a hook that would have
  ended the process.
-/

namespace WebhookTrust

open Procedure

/-! ### Journals -/

/-- What becomes of a call: it is answered, fails before it is carried out, or is carried out and
fails after that. -/
inductive Fate where
  | answered
  | refused (e : Error)
  | lost (e : Error)

/-- The reply that arrives in place of one that was sent. -/
def Fate.reply {α : Type} : Fate → Except Error α → Except Error α
  | answered, sent => sent
  | refused e, _ | lost e, _ => .error e

/-- A reply that arrives is the one that was sent. -/
theorem Fate.reply_eq_ok {α : Type} {fate : Fate} {value sent : α}
    (h : .ok value = fate.reply (.ok sent)) : sent = value := by
  rcases fate with _ | e | e
  · exact (Except.ok.inj h).symm
  · cases h
  · cases h

/-- The schedule on which the reply to one call is lost, and all others are answered. -/
def Fate.losing (number n : Nat) : Fate :=
  if n = number then .lost (.internal (.other "store" "timed out")) else .answered

/-- A write that was carried out. -/
structure SentWrite where
  secret : Secret
  /-- Did its reply arrive? -/
  isAcknowledged : Bool

/-- The journal of a store with one writer. -/
structure Journal where
  stored : Option Secret
  /-- How many calls were made. -/
  calls : Nat
  writes : List SentWrite

namespace Journal

/-- The journal before a check. -/
def opening (stored : Option Secret) : Journal := ⟨stored, 0, []⟩

/-- A call was made that changed nothing. -/
def afterCall (journal : Journal) : Journal := { journal with calls := journal.calls + 1 }

/-- A write was carried out. -/
def afterWrite (journal : Journal) (secret kept : Secret) (isAcknowledged : Bool) : Journal :=
  ⟨some kept, journal.calls + 1, journal.writes ++ [⟨secret, isAcknowledged⟩]⟩

/-- How a write is answered by its fate. -/
inductive AnswersWrite (journal : Journal) (secret : Secret) :
    Fate → Except Error Unit → Journal → Prop
  | answered {kept : Secret} (hkept : secret.IsKeptAs kept) :
    AnswersWrite journal secret .answered (.ok ()) (journal.afterWrite secret kept true)
  | refused (e : Error) : AnswersWrite journal secret (.refused e) (.error e) journal.afterCall
  | lost (e : Error) {kept : Secret} (hkept : secret.IsKeptAs kept) :
    AnswersWrite journal secret (.lost e) (.error e) (journal.afterWrite secret kept false)

/-- What a check and its hook may do. A Secret is created where there is none, and replaced where
there is one. -/
def permits (key : SecretKey) (journal : Journal) : Effect → Prop
  | .store (.getSecret wanted) => wanted = key
  | .store (.createSecret secret) => secret.key? = some key ∧ journal.stored = none
  | .store (.replaceSecret secret) => secret.key? = some key ∧ journal.stored.isSome
  | .store (.getConsumer _) | .store (.replaceConsumer ..) | .spawnPollers => False
  | _ => True

/-- How it is answered. -/
def answers (fate : Nat → Fate) (isTime : Instant → Prop)
    (isKey : Except KeyFault Rsa.PrivateKey → Prop) (journal : Journal) :
    (effect : Effect) → effect.Reply → Journal → Prop
  | .store (.getSecret _), reply, journal' =>
    reply = (fate journal.calls).reply (.ok journal.stored) ∧ journal' = journal.afterCall
  | .store (.createSecret secret), reply, journal'
  | .store (.replaceSecret secret), reply, journal' =>
    journal.AnswersWrite secret (fate journal.calls) reply journal'
  | .now, now, journal' => isTime now ∧ journal' = journal
  | .newKey, newKey, journal' => isKey newKey ∧ journal' = journal
  | _, _, journal' => journal' = journal

end Journal

/-- Nobody else writes to the place of the Secret, and each call has the fate of its number. -/
def Contract.scheduled (key : SecretKey) (fate : Nat → Fate) (isTime : Instant → Prop)
    (isKey : Except KeyFault Rsa.PrivateKey → Prop) : Contract Journal where
  permits := Journal.permits key
  answers journal := journal.answers fate isTime isKey

/-- What the hook is told by an effect. -/
def Effect.told? : Effect → Option RotationOutcome
  | .notify outcome => some outcome
  | _ => none

theorem Effect.IsApart.told?_eq_none {effect : Effect} (h : effect.IsApart) :
    effect.told? = none := by
  cases effect <;> first | rfl | exact h.elim

theorem Effect.told?_eq_none_of_isAttempting (effect : Effect) (h : effect.IsAttempting) :
    effect.told? = none := by
  cases effect <;> first | rfl | exact h.elim

variable {key : SecretKey} {fate : Nat → Fate} {isTime : Instant → Prop}
  {isKey : Except KeyFault Rsa.PrivateKey → Prop} {journal : Journal} {stored : Option Secret}

namespace Contract

/-- The journal is of calls alone. -/
theorem ignoresApart_scheduled : (scheduled key fate isTime isKey).IgnoresApart := by
  intro journal effect hapart
  cases effect with
  | store | notify | spawnPollers => exact hapart.elim
  | now | newKey => exact ⟨trivial, fun _ _ h ↦ h.2⟩
  | _ => exact ⟨trivial, fun _ _ h ↦ h⟩

theorem isQuiet_scheduled : (scheduled key fate isTime isKey).IsQuiet := by
  intro journal effect hquiet
  cases effect <;> first | exact hquiet.elim | exact ⟨trivial, fun _ _ h ↦ h⟩

theorem equips_scheduled :
    (scheduled key fate isTime isKey).Equips isTime isKey fun journal _ ↦ journal where
  quiet := isQuiet_scheduled
  now _ := ⟨trivial, fun _ _ h ↦ h⟩
  newKey _ := ⟨trivial, fun _ _ h ↦ h⟩

end Contract

namespace Journal

/-- What is stored is what was written last, or what was there in the beginning. -/
def Stores (stored : Option Secret) (journal : Journal) : Prop :=
  journal.writes = [] ∧ journal.stored = stored ∨
    ∃ earlier last kept, journal.writes = earlier ++ [last] ∧ last.secret.IsKeptAs kept ∧
      journal.stored = some kept

/-- No reply to a write arrived. -/
structure IsUnaware (key : SecretKey) (stored : Option Secret) (journal : Journal) : Prop where
  stores : journal.Stores stored
  placed : ∀ secret, journal.stored = some secret → secret.key? = some key
  writes : ∀ write ∈ journal.writes, write.isAcknowledged = false

/-- The reply to the last write arrived, and to no other one. -/
structure IsAware (stored : Option Secret) (journal : Journal) : Prop where
  stores : journal.Stores stored
  writes : ∃ earlier last, journal.writes = earlier ++ [last] ∧ last.isAcknowledged = true ∧
    ∀ write ∈ earlier, write.isAcknowledged = false

theorem isUnaware_opening (hplaced : ∀ secret, stored = some secret → secret.key? = some key) :
    (opening stored).IsUnaware key stored where
  stores := .inl ⟨rfl, rfl⟩
  placed := hplaced
  writes := by simp [opening]

theorem IsUnaware.afterCall (h : journal.IsUnaware key stored) :
    journal.afterCall.IsUnaware key stored := ⟨h.stores, h.placed, h.writes⟩

theorem stores_afterWrite {secret kept : Secret} (hkept : secret.IsKeptAs kept)
    (isAcknowledged : Bool) : (journal.afterWrite secret kept isAcknowledged).Stores stored :=
  .inr ⟨_, _, kept, rfl, hkept, rfl⟩

/-- **A write whose reply is lost goes unnoticed.** -/
theorem IsUnaware.afterWrite (h : journal.IsUnaware key stored) {secret kept : Secret}
    (hkept : secret.IsKeptAs kept) (hkey : secret.key? = some key) :
    (journal.afterWrite secret kept false).IsUnaware key stored where
  stores := stores_afterWrite hkept false
  placed := by
    rintro _ ⟨⟩
    rw [hkept.key?, hkey]
  writes := by
    simp only [Journal.afterWrite, List.forall_mem_append, List.forall_mem_singleton, and_true]
    exact h.writes

theorem IsUnaware.isAware_afterWrite (h : journal.IsUnaware key stored) {secret kept : Secret}
    (hkept : secret.IsKeptAs kept) : (journal.afterWrite secret kept true).IsAware stored where
  stores := stores_afterWrite hkept true
  writes := ⟨journal.writes, _, rfl, rfl, h.writes⟩

end Journal

/-- An outcome other than to leave things as they are is to write. -/
theorem RotationOutcome.wroteSecret_of_ne {outcome : RotationOutcome} (h : outcome ≠ .unchanged) :
    outcome.wroteSecret = true := by
  rcases outcome with _ | _ | _
  · exact (h rfl).elim
  · rfl
  · rfl

namespace Rotator

variable {rotator : Rotator} {secret : Secret} {outcome : RotationOutcome}

/-! ### Checks on any schedule -/

/-- The ways in which an attempt ends. It is aware of its own write alone. -/
inductive Attempts (rotator : Rotator) (stored : Option Secret) :
    Except Halt (Except Error RotationOutcome) → Journal → Prop
  | crashed {journal : Journal} (hunaware : journal.IsUnaware rotator.config.secretKey stored) :
    Attempts rotator stored (.error .crashed) journal
  | failed {journal : Journal} {e : Error}
    (hunaware : journal.IsUnaware rotator.config.secretKey stored) :
    Attempts rotator stored (.ok (.error e)) journal
  | unchanged {journal : Journal} (hunaware : journal.IsUnaware rotator.config.secretKey stored) :
    Attempts rotator stored (.ok (.ok .unchanged)) journal
  | rotated {journal : Journal} {outcome : RotationOutcome} (haware : journal.IsAware stored)
    (hwrote : outcome.wroteSecret = true) : Attempts rotator stored (.ok (.ok outcome)) journal

/-- An attempt that fails leaves the journal unaware. -/
theorem Attempts.isUnaware {e : Error}
    (h : rotator.Attempts stored (.ok (.error e)) journal) :
    journal.IsUnaware rotator.config.secretKey stored := by
  cases h with
  | failed hunaware => exact hunaware

/-- A write ends by its fate. -/
theorem ensures_write_scheduled (hkey : secret.key? = some key)
    {post : Except Halt (Except Error Unit) → Journal → Prop}
    (hwrites : ∀ reply journal', journal.AnswersWrite secret (fate journal.calls) reply journal' →
      post (.ok reply) journal') :
    Ensures (.scheduled key fate isTime isKey) post (write journal.stored.isSome secret)
      journal := by
  rcases hstored : journal.stored with _ | found
  · exact ⟨⟨hkey, hstored⟩, hwrites⟩
  · exact ⟨⟨hkey, by rw [hstored]; rfl⟩, hwrites⟩

/-- **An attempt is aware of its own write alone.** -/
theorem ensures_refreshOnce_scheduled
    (hunaware : journal.IsUnaware rotator.config.secretKey stored) :
    Ensures (.scheduled rotator.config.secretKey fate isTime isKey) (rotator.Attempts stored)
      rotator.refreshOnce journal := by
  have hcontract : (Contract.scheduled rotator.config.secretKey fate isTime isKey).IgnoresApart :=
    Contract.ignoresApart_scheduled
  refine ensures_refreshOnce_of_read hcontract rfl ?_ ?_
  · rintro e _ ⟨-, rfl⟩
    exact .failed hunaware.afterCall
  rintro found _ ⟨hfound, rfl⟩
  obtain rfl : journal.afterCall.stored = found := Fate.reply_eq_ok hfound
  have hread := hunaware.afterCall
  refine ensures_checkFrom hcontract (.crashed hread) (fun _ _ ↦ .unchanged hread)
    fun instant hverdict ↦ ?_
  refine ensures_rotate hcontract (fun e ↦ .failed hread) fun ca leaf _ ↦ ?_
  have hwritten : ((rotator.basis journal.afterCall.stored).withCertificates ca leaf).key? =
      some rotator.config.secretKey := key?_basis hread.placed
  refine ensures_write_scheduled hwritten fun reply journal' hanswers ↦ ?_
  generalize fate journal.afterCall.calls = done at hanswers
  rcases hanswers with hkept | e | ⟨e, hkept⟩
  · exact .rotated (hread.isAware_afterWrite hkept) (RotationOutcome.wroteSecret_of_ne hverdict)
  · exact .failed hread.afterCall
  · exact .failed (hread.afterWrite hkept hwritten)

/-- **However often it is tried again, at most the last write is known of.** -/
theorem ensures_retry_scheduled
    (hplaced : ∀ secret, stored = some secret → secret.key? = some rotator.config.secretKey) :
    Ensures (.scheduled rotator.config.secretKey fate isTime isKey) (rotator.Attempts stored)
      (rotator.config.refreshBackoff.retry "refresh_certs" Error.message rotator.refreshOnce)
      (.opening stored) := by
  -- an attempt that fails hands on a journal in which no write is acknowledged
  refine Backoff.ensures_retry (Journal.IsUnaware rotator.config.secretKey stored)
    Contract.isQuiet_scheduled.isIdle ?_ ?_ ?_ (Journal.isUnaware_opening hplaced)
  · intro journal hunaware
    refine (ensures_refreshOnce_scheduled hunaware).mono fun result journal' hends ↦ ?_
    refine ⟨?_, fun _ ↦ hends⟩
    rintro e rfl
    exact hends.isUnaware
  · exact fun journal e hunaware ↦ .failed hunaware
  · exact fun journal hunaware ↦ .crashed hunaware

/-- The hook tells of the outcome, and nobody else is told of anything. -/
theorem ensures_announcing {inner : RotationHook}
    (hinner : ∀ outcome, (inner outcome).Only Effect.IsApart) :
    Ensures ((Contract.scheduled key fate isTime isKey).noting Effect.told?)
      (fun ending state ↦ (RotationHook.announcing inner outcome).Yields ending ∧
        state = ([outcome], journal)) (RotationHook.announcing inner outcome) ([], journal) := by
  have hcontract : ((Contract.scheduled key fate isTime isKey).noting Effect.told?).IgnoresApart :=
    Contract.ignoresApart_scheduled.noting fun _ ↦ Effect.IsApart.told?_eq_none
  refine ⟨trivial, ?_⟩
  rintro reply ⟨notes, _⟩ ⟨hnotes, rfl⟩
  obtain rfl : notes = [outcome] := hnotes
  refine ensures_of_only_ignored (hinner outcome) (hcontract _) fun ending hyields ↦ ?_
  exact ⟨⟨reply, hyields⟩, rfl⟩

/-- The ways in which a check ends, by what its hook was told. -/
inductive Tells (rotator : Rotator) (stored : Option Secret) (told : List RotationOutcome)
    (result : Except Halt (Except Error RotationOutcome)) (journal : Journal) : Prop
  /-- The hook was told of the last write, and the check ends as the hook does. -/
  | aware {outcome : RotationOutcome} (haware : journal.IsAware stored)
    (hwrote : outcome.wroteSecret = true) (htold : told = [outcome])
    (hends : rotator.EndsWith outcome result)
  /-- The hook was told nothing. -/
  | unaware (hunaware : journal.IsUnaware rotator.config.secretKey stored) (htold : told = [])
    (hresult : result = .ok (.ok .unchanged) ∨ (∃ e, result = .ok (.error e)) ∨
      result = .error .crashed)

/-- A check with the outcome that nothing was written has told nothing. -/
theorem Tells.eq_nil {told : List RotationOutcome}
    (h : rotator.Tells stored told (.ok (.ok .unchanged)) journal) : told = [] := by
  rcases h with ⟨-, hwrote, -, hends⟩ | ⟨-, htold, -⟩
  · obtain rfl := hends.eq_of_ok
    cases hwrote
  · exact htold

/-- **A check tells its hook of the write whose reply arrived**, and of nothing else. -/
theorem ensures_refresh_scheduled {inner : RotationHook} (hhook : rotator.hook = .announcing inner)
    (hinner : ∀ outcome, (inner outcome).Only Effect.IsApart)
    (hplaced : ∀ secret, stored = some secret → secret.key? = some rotator.config.secretKey) :
    Ensures ((Contract.scheduled rotator.config.secretKey fate isTime isKey).noting Effect.told?)
      (fun result state ↦ rotator.Tells stored state.1 result state.2) rotator.refresh
      ([], .opening stored) := by
  rw [refresh, ensures_andThen]
  refine ((ensures_retry_scheduled hplaced).noting
    (only_attempts.mono Effect.told?_eq_none_of_isAttempting) []).mono ?_
  rintro result ⟨_, journal⟩ ⟨rfl, hattempts⟩
  rcases hattempts with hunaware | hunaware | hunaware | ⟨haware, hwrote⟩
  · exact .unaware hunaware rfl (.inr (.inr rfl))
  · exact .unaware hunaware rfl (.inr (.inl ⟨_, rfl⟩))
  · exact .unaware hunaware rfl (.inl rfl)
  · refine ensures_conclude hwrote ?_
    rw [hhook]
    refine (ensures_announcing hinner).mono ?_
    rintro ending _ ⟨hyields, rfl⟩
    rw [← hhook] at hyields
    exact .aware haware hwrote rfl (endsWith_of_yields hwrote hyields)

/-! ### A reply that is lost -/

section Lost

variable {e : Error}

/-- An attempt whose read is answered goes by the verdict on what is stored. -/
theorem ensures_refreshOnce_answered {post : Except Halt (Except Error RotationOutcome) →
      Journal → Prop}
    (hahead : ∀ now, isTime now → rotator.horizon? now = some (rotator.horizon now))
    (hread : fate journal.calls = .answered)
    (hunchanged : ∀ now, isTime now →
      rotator.verdict (rotator.basis journal.stored) (rotator.horizon now) = .unchanged →
        post (.ok (.ok .unchanged)) journal.afterCall)
    (hrotates : ∀ now, isTime now →
      rotator.verdict (rotator.basis journal.stored) (rotator.horizon now) ≠ .unchanged →
        Ensures (.scheduled rotator.config.secretKey fate isTime isKey) post
          (rotator.rotate (rotator.verdict (rotator.basis journal.stored) (rotator.horizon now))
            journal.afterCall.stored.isSome (rotator.basis journal.stored)) journal.afterCall) :
    Ensures (.scheduled rotator.config.secretKey fate isTime isKey) post rotator.refreshOnce
      journal := by
  refine ensures_refreshOnce Contract.equips_scheduled rfl ?_ ?_
  · rintro e _ ⟨hfails, -⟩
    rw [hread] at hfails
    cases hfails
  rintro found _ now ⟨hfound, rfl⟩ htime
  obtain rfl : journal.stored = found := Fate.reply_eq_ok hfound
  rw [hahead now htime]
  refine ⟨fun hnone ↦ ?_, ?_⟩
  · cases hnone
  · rintro _ ⟨⟩
    exact ⟨hunchanged now htime, hrotates now htime⟩

/-- An attempt that reads an authority that does not pass replaces everything, and fails if the
reply to its write is lost. -/
theorem ensures_refreshOnce_of_lost (hregular : rotator.IsRegular) (hkeys : IsReliableSource isKey)
    (hcan : CanAlwaysMake isTime isKey) (htimely : rotator.IsTimely isTime)
    (hplaced : ∀ secret, journal.stored = some secret →
      secret.key? = some rotator.config.secretKey)
    (hfails : rotator.FailsThroughout journal.stored isTime)
    (hread : fate journal.calls = .answered) (hlost : fate (journal.calls + 1) = .lost e) :
    Ensures (.scheduled rotator.config.secretKey fate isTime isKey)
      (fun result journal' ↦ result = .ok (.error e) ∧ journal'.calls = journal.calls + 2 ∧
        ∃ kept, journal'.stored = some kept ∧
          ∀ now, isTime now → rotator.verdict kept (rotator.horizon now) = .unchanged)
      rotator.refreshOnce journal := by
  refine ensures_refreshOnce_answered (fun now htime ↦ hregular.horizon?_eq (hcan.1 now htime))
    hread (fun now htime hunchanged ↦ ?_) fun now htime _ ↦ ?_
  · cases (verdict_basis hfails htime).symm.trans hunchanged
  rw [verdict_basis hfails htime]
  refine ensures_rotate_ca Contract.equips_scheduled hregular.toIsPlain hkeys.isFit ?_ ?_
  · intro e replies caNow leafNow hcaTime hleafTime hcannot
    exact (hcannot ⟨hcan.mono (by simp [hcaTime, hleafTime]), hregular.names⟩).elim
  intro caNow leafNow caKey leafKey _ hcaTime hleafTime hcaKey hleafKey hcaWindow hleafWindow
  have hmakes : rotator.Makes isTime (rotator.basis journal.stored) [.ok caKey, .ok leafKey]
      (rotator.withNewAuthority (rotator.basis journal.stored) caNow leafNow caKey leafKey) :=
    ⟨caNow, leafNow, caKey, leafKey, hcaTime, hleafTime, hcaWindow, hleafWindow,
      hkeys.isFit caKey hcaKey, hkeys.isFit leafKey hleafKey, rfl, rfl⟩
  have hwritten : (rotator.withNewAuthority (rotator.basis journal.stored) caNow leafNow caKey
      leafKey).key? = some rotator.config.secretKey := key?_basis hplaced
  refine ensures_write_scheduled hwritten fun reply journal' hanswers ↦ ?_
  rw [show fate journal.afterCall.calls = .lost e from hlost] at hanswers
  rcases hanswers with _ | _ | ⟨e, hkept⟩
  refine ⟨rfl, rfl, _, rfl, fun now hnow ↦ ?_⟩
  exact verdict_of_makes hregular.toIsPlain htimely hmakes hkept hnow

/-- **A second attempt finds in place what the first one wrote unawares.** An authority that does
not pass is replaced, and with the reply to that lost, the check has the outcome that nothing was.
-/
theorem ensures_refresh_of_lost (hregular : rotator.IsRegular) (hkeys : IsReliableSource isKey)
    (hcan : CanAlwaysMake isTime isKey) (htimely : rotator.IsTimely isTime)
    (hplaced : ∀ secret, stored = some secret → secret.key? = some rotator.config.secretKey)
    (hfails : rotator.FailsThroughout stored isTime)
    (hread : fate 0 = .answered) (hlost : fate 1 = .lost e) (hreread : fate 2 = .answered)
    (hmore : rotator.config.refreshBackoff.isExhausted 1 = false)
    (hmultiplier : 0 ≤ rotator.config.refreshBackoff.multiplier) :
    Ensures (.scheduled rotator.config.secretKey fate isTime isKey)
      (fun result journal ↦ result = .ok (.ok .unchanged) ∧ ∃ kept, journal.stored = some kept ∧
        ∀ now, isTime now → rotator.verdict kept (rotator.horizon now) = .unchanged)
      rotator.refresh (.opening stored) := by
  refine ensures_refresh Contract.equips_scheduled hregular.toIsPlain ?_
  refine Backoff.ensures_retry_of_error Contract.isQuiet_scheduled.isIdle hmore hmultiplier ?_
  refine (ensures_refreshOnce_of_lost hregular hkeys hcan htimely hplaced hfails hread
    hlost).mono ?_
  rintro _ journal ⟨rfl, hcalls, kept, hkept, hpasses⟩
  refine ⟨⟨e, rfl⟩, ?_⟩
  have hreread : fate journal.calls = .answered := by rw [hcalls, ← hreread]; rfl
  have hbasis : rotator.basis journal.stored = kept := by rw [hkept]; rfl
  refine ensures_refreshOnce_answered (fun now htime ↦ hregular.horizon?_eq (hcan.1 now htime))
    hreread (fun now htime _ ↦ ⟨by simp, fun result hconcludes ↦ ?_⟩) fun now htime hne ↦ ?_
  · exact ⟨endsWith_unchanged.1 hconcludes, kept, hkept, hpasses⟩
  · rw [hbasis] at hne
    exact (hne (hpasses now htime)).elim

end Lost

end Rotator

/-! ### The world in memory -/

namespace Simulation

/-- What comes of an answer by a fate, and of the world that was to give it. -/
def settle {α : Type} (before : World) (answered : Except Error α × World) :
    Fate → Except Error α × World
  | .answered => answered
  | .refused e => (.error e, before)
  | .lost e => (.error e, answered.2)

/-- Answers as the world in memory does, but calls by the fate of their number. -/
def answerScheduled (setting : Setting) (site : Site) (fate : Nat → Fate) :
    (effect : Effect) → World → effect.Reply × World
  | .store call, world =>
    settle { world with calls := call :: world.calls } (world.answerCall call)
      (fate world.calls.length)
  | effect, world => answerMain setting site effect world

variable {setting : Setting} {site : Site} {world : World}

/-- The world passes for a journal, has no faults of its own, and nothing in it goes on by itself.
-/
structure World.ShowsJournal (key : SecretKey) (world : World) (journal : Journal) : Prop where
  stored : journal.stored = world.store.secret? key
  calls : journal.calls = world.calls.length
  writes : journal.writes.length = world.store.secretWrites
  faults : world.faults = []
  tasks : world.tasks = []

/-- A call that changes nothing shows. -/
theorem World.ShowsJournal.afterCall (h : world.ShowsJournal key journal) (call : StoreCall) :
    World.ShowsJournal key { world with calls := call :: world.calls } journal.afterCall where
  stored := h.stored
  calls := congrArg (· + 1) h.calls
  writes := h.writes
  faults := h.faults
  tasks := h.tasks

/-- A write under the key shows, whether its reply arrives or not. -/
theorem World.ShowsJournal.afterWrite (h : world.ShowsJournal key journal) (call : StoreCall)
    (secret : Secret) : ∃ kept, secret.IsKeptAs kept ∧ ∀ isAcknowledged,
      World.ShowsJournal key { world with
        calls := call :: world.calls, store := world.store.writeSecret key secret }
        (journal.afterWrite secret kept isAcknowledged) := by
  obtain ⟨kept, hkept, hstored⟩ := world.store.exists_kept_writeSecret key secret
  refine ⟨kept, hkept, fun isAcknowledged ↦ ?_⟩
  refine ⟨hstored.symm, congrArg (· + 1) h.calls, ?_, h.faults, h.tasks⟩
  rw [Journal.afterWrite, List.length_append, h.writes]
  rfl

/-- A write is answered by its fate. -/
theorem World.ShowsJournal.settle (h : world.ShowsJournal key journal) (call : StoreCall)
    (secret : Secret) (fate : Fate) :
    let before := { world with calls := call :: world.calls }
    let answer := settle before
      (.ok (), { before with store := world.store.writeSecret key secret }) fate
    ∃ journal', journal.AnswersWrite secret fate answer.1 journal' ∧
      answer.2.ShowsJournal key journal' := by
  obtain ⟨kept, hkept, hwritten⟩ := h.afterWrite call secret
  rcases fate with _ | e | e
  · exact ⟨_, .answered hkept, hwritten true⟩
  · exact ⟨_, .refused e, h.afterCall call⟩
  · exact ⟨_, .lost e hkept, hwritten false⟩

theorem answerScheduled_store (call : StoreCall) :
    answerScheduled setting site fate (.store call) world =
      settle { world with calls := call :: world.calls } (world.answerCall call)
        (fate world.calls.length) := rfl

/-- Permitted calls are answered by their fate. -/
theorem showsJournal_answerScheduled (h : world.ShowsJournal key journal) {call : StoreCall}
    (hpermits : journal.permits key (.store call)) : ∃ journal',
      journal.answers fate isTime isKey (.store call)
        (answerScheduled setting site fate (.store call) world).1 journal' ∧
      (answerScheduled setting site fate (.store call) world).2.ShowsJournal key journal' := by
  rw [answerScheduled_store, answerCall_of_faults_nil h.faults, ← h.calls]
  cases call with
  | getSecret wanted =>
    obtain rfl := hpermits
    refine ⟨journal.afterCall, ⟨?_, rfl⟩, ?_⟩
    · rw [h.stored]
      rcases fate journal.calls with _ | e | e <;> rfl
    · rcases fate journal.calls with _ | e | e <;> exact h.afterCall _
  | createSecret secret =>
    obtain ⟨hkey, habsent⟩ := hpermits
    rw [h.stored] at habsent
    rw [MemoryStore.answer_createSecret_of_absent hkey habsent]
    exact h.settle _ secret _
  | replaceSecret secret =>
    obtain ⟨hkey, hpresent⟩ := hpermits
    rw [h.stored] at hpresent
    rw [MemoryStore.answer_replaceSecret_of_present hkey hpresent]
    exact h.settle _ secret _
  | getConsumer | replaceConsumer => exact hpermits.elim

/-- **The world in memory is such a store.** -/
theorem keptBy_scheduled (setting : Setting) (site : Site) (htime : isTime setting.clock)
    (hkeys : ∀ number, isKey (setting.keys number)) :
    (Contract.scheduled key fate isTime isKey).KeptBy (answerScheduled setting site fate)
      (World.ShowsJournal key) := by
  intro world journal effect h hpermits
  have hsame (hapart : effect.IsApart) :
      World.ShowsJournal key (answerMain setting site effect world).2 journal := by
    have hsame := sameStore_answerMain setting site h.tasks hapart
    exact ⟨by rw [hsame.store, h.stored], by rw [hsame.calls, h.calls],
      by rw [hsame.store, h.writes], by rw [hsame.faults, h.faults], hsame.tasks⟩
  cases effect with
  | store call => exact showsJournal_answerScheduled h hpermits
  | notify outcome => exact ⟨journal, rfl, h.stored, h.calls, h.writes, h.faults, h.tasks⟩
  | spawnPollers => exact hpermits.elim
  | now => exact ⟨journal, ⟨htime, rfl⟩, hsame trivial⟩
  | newKey => exact ⟨journal, ⟨hkeys _, rfl⟩, hsame trivial⟩
  | _ => exact ⟨journal, rfl, hsame trivial⟩

end Simulation

namespace Rotator

variable {rotator : Rotator}

/-- **A check tells its hook of a write exactly if its reply arrived.** Whatever becomes of its
calls, it is told of the last write, and once, or of nothing, if no reply to a write arrived; then
the check finds everything in place, fails or crashes. So of a change of the Secret during a check
that has an outcome the hook is told exactly if one of the writes was acknowledged. -/
theorem refresh_tells_of_acknowledged {σ : Type}
    {answer : (effect : Effect) → σ → effect.Reply × σ} {shows : σ → Journal → Prop} {real : σ}
    {inner : RotationHook} (hhook : rotator.hook = .announcing inner)
    (hinner : ∀ outcome, (inner outcome).Only Effect.IsApart)
    (hplaced : ∀ secret, stored = some secret → secret.key? = some rotator.config.secretKey)
    (hkept : (Contract.scheduled rotator.config.secretKey fate isTime isKey).KeptBy answer shows)
    (hshows : shows real (.opening stored)) :
    ∃ journal, shows (rotator.refresh.run answer real).2 journal ∧
      let result := (rotator.refresh.run answer real).1
      let told := (rotator.refresh.trace answer real).filterMap Effect.told?
      rotator.Tells stored told result journal ∧
      ∀ outcome, result = .ok (.ok outcome) → journal.stored ≠ stored → journal.writes ≠ [] ∧
        (outcome ≠ .unchanged ∧ told = [outcome] ↔
          ∃ write ∈ journal.writes, write.isAcknowledged = true) := by
  obtain ⟨journal, hshows', htells⟩ :=
    (ensures_refresh_scheduled hhook hinner hplaced).run_noting hkept hshows
  dsimp only at htells
  refine ⟨journal, hshows', htells, fun outcome hresult hchanged ↦ ?_⟩
  rcases htells with ⟨haware, hwrote, htold, hends⟩ | ⟨hunaware, htold, -⟩
  · obtain ⟨earlier, last, hwrites, hlast, -⟩ := haware.writes
    obtain rfl := (hresult ▸ hends).eq_of_ok
    have hmem : last ∈ journal.writes := by simp [hwrites]
    refine ⟨List.ne_nil_of_mem hmem, iff_of_true ⟨?_, htold⟩ ⟨last, hmem, hlast⟩⟩
    rintro rfl
    cases hwrote
  · refine ⟨fun hnone ↦ ?_, iff_of_false ?_ ?_⟩
    · rcases hunaware.stores with ⟨-, hsame⟩ | ⟨earlier, last, kept, hwrites, -⟩
      · exact hchanged hsame
      · simp [hnone] at hwrites
    · rintro ⟨-, hsaid⟩
      cases htold.symm.trans hsaid
    · rintro ⟨write, hmem, hacknowledged⟩
      cases (hunaware.writes write hmem).symm.trans hacknowledged

/-- In the world in memory, on such a schedule. -/
theorem refresh_tells_of_acknowledged_losing :
    let rotator := { Simulation.sampleRotator with hook := .announcing .silent }
    let answer := Simulation.answerScheduled (Simulation.sampleSetting ⟨0, 0⟩) (.rotator 0)
      (Fate.losing 1)
    let told := (rotator.refresh.trace answer (Simulation.sampleWorld none)).filterMap Effect.told?
    ∃ journal, Simulation.World.ShowsJournal rotator.config.secretKey
        (rotator.refresh.run answer (Simulation.sampleWorld none)).2 journal ∧
      told.length ≤ 1 ∧
      (told = [] ↔ ∀ write ∈ journal.writes, write.isAcknowledged = false) := by
  intro rotator answer told
  have hkept : (Contract.scheduled rotator.config.secretKey (Fate.losing 1) (· = ⟨0, 0⟩)
      Simulation.isSampleKey).KeptBy answer
        (Simulation.World.ShowsJournal rotator.config.secretKey) :=
    Simulation.keptBy_scheduled _ _ rfl fun _ ↦ rfl
  have hshows : (Simulation.sampleWorld none).ShowsJournal rotator.config.secretKey
      (.opening none) := ⟨rfl, rfl, rfl, rfl, rfl⟩
  have hplaced (secret : Secret) (h : none = some secret) :
      secret.key? = some rotator.config.secretKey := by cases h
  have hsilent (outcome : RotationOutcome) :
      (RotationHook.silent outcome).Only Effect.IsApart := trivial
  obtain ⟨journal, hafter, htells, -⟩ :=
    refresh_tells_of_acknowledged rfl hsilent hplaced hkept hshows
  refine ⟨journal, hafter, ?_⟩
  rcases htells with ⟨haware, -, htold, -⟩ | ⟨hunaware, htold, -⟩
  · obtain ⟨earlier, last, hwrites, hlast, -⟩ := haware.writes
    refine ⟨by simp [told, htold], iff_of_false (by simp [told, htold]) fun hall ↦ ?_⟩
    cases (hall last (by simp [hwrites])).symm.trans hlast
  · exact ⟨by simp [told, htold], iff_of_true htold hunaware.writes⟩

/-- **A change can go untold.** The reply to the write of a first attempt is lost, the second
attempt finds the Secret in place, and the process goes on although its hook would end it. -/
theorem not_told_of_lost_write :
    let rotator := { Simulation.sampleRotator with hook := .announcing .exiting }
    let answer := Simulation.answerScheduled (Simulation.sampleSetting ⟨0, 0⟩) (.rotator 0)
      (Fate.losing 1)
    let world := Simulation.sampleWorld none
    world.store.secret? rotator.config.secretKey = none ∧
      ((rotator.refresh.run answer world).2.store.secret? rotator.config.secretKey).isSome ∧
      (rotator.refresh.run answer world).1 = .ok (.ok .unchanged) ∧
      (rotator.refresh.trace answer world).filterMap Effect.told? = [] := by
  intro rotator answer world
  have hregular : rotator.IsRegular :=
    { Simulation.isRegular_sample with
      hook := RotationHook.isQuiet_announcing RotationHook.isQuiet_exiting }
  have hwindow : Issuance.IsWritableWindow (.standard ⟨0, 0⟩) := by constructor <;> decide
  have hcan : CanAlwaysMake (· = ⟨0, 0⟩) Simulation.isSampleKey :=
    Simulation.isReliableSource_sample.canAlwaysMake_iff.2 (by rintro _ rfl; exact hwindow)
  have htimely : rotator.IsTimely (· = ⟨0, 0⟩) :=
    hregular.isTimely_eq _
  have hkept : (Contract.scheduled rotator.config.secretKey (Fate.losing 1) (· = ⟨0, 0⟩)
      Simulation.isSampleKey).KeptBy answer
        (Simulation.World.ShowsJournal rotator.config.secretKey) :=
    Simulation.keptBy_scheduled _ _ rfl fun _ ↦ rfl
  have hshows : world.ShowsJournal rotator.config.secretKey (.opening none) :=
    ⟨rfl, rfl, rfl, rfl, rfl⟩
  have hplaced (secret : Secret) (h : none = some secret) :
      secret.key? = some rotator.config.secretKey := by cases h
  have hfails : rotator.FailsThroughout none (· = ⟨0, 0⟩) := by rintro _ ⟨⟩
  have hexiting (outcome : RotationOutcome) :
      (RotationHook.exiting outcome).Only Effect.IsApart := ⟨trivial, fun _ ↦ trivial⟩
  obtain ⟨journal, hafter, hresult, kept, hstored, -⟩ := (ensures_refresh_of_lost hregular
    Simulation.isReliableSource_sample hcan htimely hplaced hfails rfl rfl rfl (by decide)
    (by decide)).run hkept hshows
  obtain ⟨_, -, htells⟩ :=
    (ensures_refresh_scheduled rfl hexiting hplaced).run_noting hkept hshows
  dsimp only at htells
  rw [hresult] at htells
  refine ⟨rfl, ?_, hresult, htells.eq_nil⟩
  rw [← hafter.stored, hstored]
  rfl

end Rotator

end WebhookTrust
