import WebhookTrust.Proofs.Attempts
import WebhookTrust.Proofs.Boundary
import WebhookTrust.Proofs.ObjectServer
import WebhookTrust.Proofs.Reconciliation
import WebhookTrust.Proofs.Twins
import WebhookTrust.Store.Memory

/-!
# The store in memory and the store behind the API server

The store in memory does not look at versions, the API server refuses to replace an object on the
ground of an outdated one. The difference does not show as long as nobody else writes: checks and
passes write only what they have just read, so what they write has the version that is there.

## The theorems, and what each rests on

* `SameContents.writeSecret`, `SameContents.writeConsumer`: the contents are the same
  (`SameContents`) if what is in memory and what the server keeps are versions of the same objects,
  and writing one object to both keeps that.
* `Rotator.twins_refreshOnce`, `Rotator.twins_refresh`: **a check ends in the same way with either
  store.** An attempt reads, decides and writes; only the first and the last concern the store
  (`Comparison.twins_getSecret`, `Rotator.twins_create`, `Rotator.twins_replace`), and what lies
  between does not look at the version.
* `Reconciler.twins_reconcile`: **so does a pass**, by the consumers one after the other.
* `Job.runAll_agree`: **so do any number of them**, one after the other, with the same flag, the
  same calls of the hook and the same contents after each.

Of the server it is assumed what `IsApiServer` says, and `ObjectServer` is such a server. That both
hosts show the same times and make the same keys is part of what is compared (`Comparison`); the
factors of pauses may differ, and no call fails for other reasons. What other writers make of the
difference is seen in `WebhookTrust.Proofs.Racing` and `WebhookTrust.Proofs.Traffic`.

## A run of the sample

Two hosts that do nothing at all would agree as well, so a run is taken as a sample:
`Job.runAll_agree_sample` says of a check and a pass that the check creates the Secret, that it is
the only write of one, and that the pass injects the bundle. The host with the store in memory
passes for a scene with one writer (`Comparison.keptBy_inMemory`), so this follows from what is
ensured of any check and any pass.
-/

namespace WebhookTrust

/-! ### The same contents -/

/-- Is there nothing at both places, or an object in memory, and JSON that spells the object with
some version? -/
inductive Mirrors {α : Type} (read : Json → Option α) (withVersion : α → Option String → α)
    (isFit : α → Prop) : Option α → Option Json → Prop
  | missing : Mirrors read withVersion isFit none none
  | found {object : α} {json : Json} {version : String} (hfit : isFit object)
    (hproper : json.IsProper) (hread : read json = some (withVersion object (some version))) :
    Mirrors read withVersion isFit (some object) (some json)

/-- Is the Secret one that can be kept under the key? -/
structure Secret.Fits (key : SecretKey) (secret : Secret) : Prop where
  key? : secret.key? = some key
  expressible : secret.IsExpressible

theorem Secret.Fits.withCertificates {key : SecretKey} {secret : Secret} (h : secret.Fits key)
    (ca : KeyPair) (leaf : PemPair) : (secret.withCertificates ca leaf).Fits key :=
  ⟨h.key?, h.expressible.withCertificates ca leaf⟩

theorem Secret.Fits.withVersion {key : SecretKey} {secret : Secret} (h : secret.Fits key)
    (version : Option String) : (secret.withVersion version).Fits key :=
  ⟨h.key?, h.expressible.withVersion version⟩

theorem Secret.fits_new (key : SecretKey) : (Secret.new key).Fits key :=
  ⟨rfl, isExpressible_new key⟩

/-- Is the object one that can be kept for the consumer? -/
structure ConsumerObject.Fits (consumer : Consumer) (object : ConsumerObject) : Prop where
  name : object.metadata.name = some consumer.name
  expressible : object.IsExpressible

theorem ConsumerObject.Fits.withVersion {consumer : Consumer} {object : ConsumerObject}
    (h : object.Fits consumer) (version : Option String) :
    (object.withVersion version).Fits consumer :=
  ⟨h.name, h.expressible.withVersion version⟩

theorem ConsumerObject.Fits.inject {consumer : Consumer} {object : ConsumerObject}
    (h : object.Fits consumer) (kind : ConsumerKind) (caPem : Bytes) :
    (Injection.inject kind caPem object).1.Fits consumer :=
  ⟨h.name, h.expressible.inject kind caPem⟩

/-- Are there the same objects in memory and at the places of a server, up to their versions? -/
structure SameContents (memory : MemoryStore) (objects : Place → Option Json) : Prop where
  failing : memory.failing = []
  secret : ∀ key, (Place.secret key).IsNamed →
    Mirrors Secret.ofJson? Secret.withVersion (Secret.Fits key) (memory.secret? key)
      (objects (.secret key))
  consumer : ∀ consumer, (Place.consumer consumer).IsNamed →
    Mirrors ConsumerObject.ofJson? ConsumerObject.withVersion (ConsumerObject.Fits consumer)
      (memory.consumer? consumer) (objects (.consumer consumer))

namespace SameContents

variable {τ : Type} {object? : τ → Place → Option Json} {memory : MemoryStore} {server server' : τ}
  {key : SecretKey} {secret : Secret} {consumer : Consumer} {object : ConsumerObject}

/-- A Secret that is written to both stores is in both. -/
theorem writeSecret (h : SameContents memory (object? server)) (hfits : secret.Fits key)
    (hleaves : ApiClient.Leaves object? Secret.ofJson? server server' (.secret key)
      secret.withVersion) :
    SameContents (memory.writeSecret key secret) (object? server') := by
  obtain ⟨stored, version, hstored, hproper, hread⟩ := hleaves
  rw [hstored]
  refine ⟨h.failing, fun other hother ↦ ?_, fun consumer hconsumer ↦ ?_⟩
  · show Mirrors _ _ _ (Assoc.get? other (Assoc.put key _ memory.secrets)) _
    rw [Assoc.get?_put]
    by_cases heq : other = key
    · subst heq
      rw [if_pos rfl, Function.update_self]
      exact .found (hfits.withVersion _) hproper hread
    · rw [if_neg heq, Function.update_of_ne (by simpa using heq)]
      exact h.secret other hother
  · rw [Function.update_of_ne (by simp)]
    exact h.consumer consumer hconsumer

/-- An object that is written to both stores is in both. -/
theorem writeConsumer (h : SameContents memory (object? server)) (hfits : object.Fits consumer)
    (hleaves : ApiClient.Leaves object? ConsumerObject.ofJson? server server' (.consumer consumer)
      object.withVersion) :
    SameContents (memory.writeConsumer consumer object) (object? server') := by
  obtain ⟨stored, version, hstored, hproper, hread⟩ := hleaves
  rw [hstored]
  refine ⟨h.failing, fun key hkey ↦ ?_, fun other hother ↦ ?_⟩
  · rw [Function.update_of_ne (by simp)]
    exact h.secret key hkey
  · show Mirrors _ _ _ (Assoc.get? other (Assoc.put consumer _ memory.consumers)) _
    rw [Assoc.get?_put]
    by_cases heq : other = consumer
    · subst heq
      rw [if_pos rfl, Function.update_self]
      exact .found (hfits.withVersion _) hproper hread
    · rw [if_neg heq, Function.update_of_ne (by simpa using heq)]
      exact h.consumer other hother

end SameContents

/-! ### Hosts of both stores -/

/-- Two sorts of hosts, on which the clock shows the same times and the same keys are made: one with
the store in memory, and one with the store behind an API server. -/
structure Comparison (τ : Type) where
  respond : ApiRequest → τ → ApiResponse × τ
  object? : τ → Place → Option Json
  clock : Nat → Instant
  keys : Nat → Except KeyFault Rsa.PrivateKey
  /-- The random factors of pauses, which need not be the same. -/
  factors : Nat → Rat
  factors' : Nat → Rat

namespace Comparison

variable {τ : Type} {setup : Comparison τ} {here : Host MemoryStore} {there : Host τ}
  {memory : MemoryStore} {server : τ}

/-- Answers with the store in memory. -/
def inMemory (setup : Comparison τ) : (effect : Effect) → Host MemoryStore →
    effect.Reply × Host MemoryStore :=
  Host.answer setup.clock setup.keys setup.factors fun call store ↦ store.answer call

/-- Answers with the store behind the API server. -/
def behindApi (setup : Comparison τ) : (effect : Effect) → Host τ → effect.Reply × Host τ :=
  Host.answer setup.clock setup.keys setup.factors' (ApiClient.answer setup.respond)

/-- The host with the store in memory passes for a scene. -/
structure Shows (key : SecretKey) (here : Host MemoryStore) (scene : Scene) : Prop
    extends here.store.Shows key scene where
  isInjected : scene.isInjected = here.isInjected

/-- **The host with the store in memory is a store with one writer.** -/
theorem keptBy_inMemory {key : SecretKey} {isTime : Instant → Prop}
    {isKey : Except KeyFault Rsa.PrivateKey → Prop} (setup : Comparison τ)
    (htimes : ∀ number, isTime (setup.clock number)) (hkeys : ∀ number, isKey (setup.keys number)) :
    (Contract.sole key isTime isKey fun _ ↦ True).KeptBy setup.inMemory (Shows key) := by
  intro here scene effect h hpermits
  cases effect with
  | store call =>
    obtain ⟨scene', hanswer, hshows, hflag⟩ := h.toShows.answer hpermits
    exact ⟨scene', hanswer, hshows, hflag.trans h.isInjected⟩
  | now => exact ⟨scene, ⟨htimes _, rfl⟩, h.toShows, h.isInjected⟩
  | newKey => exact ⟨scene, ⟨hkeys _, rfl⟩, h.toShows, h.isInjected⟩
  | jitter | record | notify => exact ⟨scene, rfl, h.toShows, h.isInjected⟩
  | sleep | log => exact ⟨scene, rfl, h⟩
  | setInjected =>
    exact ⟨{ scene with isInjected := true }, rfl,
      ⟨h.secret, h.object, h.writes, h.failing⟩, rfl⟩
  | fileExists | isInjected | fire | await | spawnPollers | startTicker | wait =>
    exact hpermits.elim

/-- The hosts are alike, and the contents of the stores are the same. -/
def Agree (setup : Comparison τ) (here : Host MemoryStore) (there : Host τ) : Prop :=
  here.Alike there ∧ SameContents here.store (setup.object? there.store)

/-- Do the procedures end in the same way with either store, and leave the same contents? -/
def Twins {α : Type} (setup : Comparison τ) (left right : Procedure α)
    (here : Host MemoryStore) (there : Host τ) : Prop :=
  Procedure.Twins setup.inMemory setup.behindApi setup.Agree left right here there

theorem Agree.of_rest (hrest : Host.Rest memory server here there)
    (h : SameContents memory (setup.object? server)) : setup.Agree here there :=
  ⟨hrest.toAlike, by rwa [hrest.store, hrest.store']⟩

/-- A call is answered by the store in memory. -/
theorem run_call_inMemory {call : StoreCall} {reply : call.Reply} {memory' : MemoryStore}
    (h : here.store.answer call = (reply, memory')) :
    (Procedure.call call).run setup.inMemory here =
      (.ok reply, { here with store := memory' }) := by
  show (Except.ok (here.store.answer call).1, { here with store := (here.store.answer call).2 }) = _
  rw [h]

/-- A call is answered by the server, as the client understands it. -/
theorem run_call_behindApi {call : StoreCall} {reply : call.Reply}
    (h : (ApiClient.answer setup.respond call there.store).1 = reply) :
    (Procedure.call call).run setup.behindApi there = (.ok reply,
      { there with store := (ApiClient.answer setup.respond call there.store).2 }) := by
  rw [← h]
  rfl

/-- Writes to both stores that succeed. -/
theorem twins_of_run {α : Type} {left right : Procedure α} {result : α} {memory' : MemoryStore}
    {server' : τ}
    (hleft : left.run setup.inMemory here = (.ok result, { here with store := memory' }))
    (hright : right.run setup.behindApi there = (.ok result, { there with store := server' }))
    (halike : here.Alike there) (hsame : SameContents memory' (setup.object? server')) :
    setup.Twins left right here there := by
  rw [Comparison.Twins, Procedure.Twins, hleft, hright]
  exact ⟨rfl, { halike with }, hsame⟩

/-- What does not depend on the store is followed by twins as before. -/
theorem twins_andThen_of_only {α β : Type} {procedure : Procedure (Except Error α)}
    {next next' : α → Procedure (Except Error β)} (honly : procedure.Only Effect.IsCommon)
    (hrest : Host.Rest memory server here there)
    (hsame : SameContents memory (setup.object? server))
    (hnext : ∀ value here there, Host.Rest memory server here there →
      setup.Twins (next value) (next' value) here there) :
    setup.Twins (procedure.andThen next) (procedure.andThen next') here there :=
  (Host.twins_of_only honly hrest).andThen hnext fun _ _ hrest ↦ .of_rest hrest hsame

/-- What does not depend on the store is followed by twins, also if it cannot fail. -/
theorem twins_bind_of_only {α β : Type} {procedure : Procedure α}
    {next next' : α → Procedure β} (honly : procedure.Only Effect.IsCommon)
    (hrest : Host.Rest memory server here there)
    (hsame : SameContents memory (setup.object? server))
    (hnext : ∀ value here there, Host.Rest memory server here there →
      setup.Twins (next value) (next' value) here there) :
    setup.Twins (procedure.bind next) (procedure.bind next') here there :=
  (Host.twins_of_only honly hrest).bind hnext fun _ _ hrest ↦ .of_rest hrest hsame

/-- What does not depend on the store ends in the same way with either store. -/
theorem twins_of_only {α : Type} {procedure : Procedure α}
    (honly : procedure.Only Effect.IsCommon) (h : setup.Agree here there) :
    setup.Twins procedure procedure here there :=
  (Host.twins_of_only honly ⟨h.1, rfl, rfl⟩).mono fun _ _ hrest ↦ .of_rest hrest h.2

/-- **A Secret is read from both stores**: as missing, or with the version that it has on the
server. -/
theorem twins_getSecret {α : Type} {key : SecretKey}
    {next : Option Secret → Procedure (Except Error α)}
    (hserver : IsApiServer setup.respond setup.object?) (hnamed : (Place.secret key).IsNamed)
    (h : setup.Agree here there)
    (hmissing : ∀ there, here.store.secret? key = none →
      setup.object? there.store (.secret key) = none → setup.Agree here there →
      setup.Twins (next none) (next none) here there)
    (hfound : ∀ there secret version, here.store.secret? key = some secret → secret.Fits key →
      (setup.object? there.store (.secret key)).bind Json.version? = some (.string version) →
      setup.Agree here there →
      setup.Twins (next (some secret)) (next (some (secret.withVersion (some version)))) here
        there) :
    setup.Twins ((Procedure.call (.getSecret key)).andThen next)
      ((Procedure.call (.getSecret key)).andThen next) here there := by
  obtain ⟨halike, hsame⟩ := h
  have hmirrors := hsame.secret key hnamed
  generalize hmemory : here.store.secret? key = found at hmirrors
  generalize hkept : setup.object? there.store (.secret key) = kept at hmirrors
  have hread : (setup.inMemory (.store (.getSecret key)) here).1 = .ok found :=
    congrArg Except.ok hmemory
  cases hmirrors with
  | missing =>
    obtain ⟨hread', hkeeps⟩ := ApiClient.answer_getSecret_missing hserver hnamed hkept
    rw [← hkeeps] at hkept hsame
    exact Procedure.twins_call_andThen hread hread'
      (hmissing _ hmemory hkept ⟨{ halike with }, hsame⟩)
  | @found secret json version hfits hproper hspells =>
    obtain ⟨hread', hkeeps⟩ := ApiClient.answer_getSecret hserver hnamed hkept hproper hspells
    rw [← hkeeps] at hkept hsame
    have hversion := congrArg (Option.bind · Json.version?) hkept
    exact Procedure.twins_call_andThen hread hread' (hfound _ secret version hmemory hfits
      (hversion.trans (Secret.version?_of_ofJson? hspells rfl)) ⟨{ halike with }, hsame⟩)

end Comparison

/-! ### Checks -/

namespace Rotator

open Procedure Comparison

variable {τ : Type} {setup : Comparison τ} {here : Host MemoryStore} {there : Host τ}
  {memory : MemoryStore} {server : τ} {rotator : Rotator}

/-! ### Writing a Secret -/

/-- A Secret that is in neither store is created in both. -/
theorem twins_create {key : SecretKey} {secret : Secret}
    (hserver : IsApiServer setup.respond setup.object?) (hnamed : (Place.secret key).IsNamed)
    (hfits : secret.Fits key) (hmissing : memory.secret? key = none)
    (hmissing' : setup.object? server (.secret key) = none)
    (hsame : SameContents memory (setup.object? server))
    (hrest : Host.Rest memory server here there) :
    setup.Twins (write false secret) (write false secret) here there := by
  obtain ⟨halike, rfl, rfl⟩ := hrest
  have hanswer := MemoryStore.answer_createSecret_of_absent hfits.key? hmissing
  obtain ⟨hreply, hleaves⟩ := ApiClient.answer_createSecret hserver hnamed hfits.key?
    hfits.expressible hmissing'
  exact twins_of_run (run_call_inMemory hanswer) (run_call_behindApi hreply) halike
    (hsame.writeSecret hfits hleaves)

/-- A Secret that is in both stores is replaced in both, on the ground of the version there. -/
theorem twins_replace {key : SecretKey} {secret : Secret} {version : String}
    (hserver : IsApiServer setup.respond setup.object?) (hnamed : (Place.secret key).IsNamed)
    (hfits : secret.Fits key) (hfound : (memory.secret? key).isSome)
    (hversion : (setup.object? server (.secret key)).bind Json.version? = some (.string version))
    (hsame : SameContents memory (setup.object? server))
    (hrest : Host.Rest memory server here there) :
    setup.Twins (write true secret) (write true (secret.withVersion (some version))) here
      there := by
  obtain ⟨halike, rfl, rfl⟩ := hrest
  obtain ⟨json, hobject, hversion⟩ := Option.bind_eq_some_iff.1 hversion
  have hanswer := MemoryStore.answer_replaceSecret_of_present hfits.key? hfound
  have hfits' : (secret.withVersion (some version)).Fits key := hfits.withVersion _
  obtain ⟨hreply, hleaves⟩ := ApiClient.answer_replaceSecret hserver hnamed hfits'.key?
    hfits'.expressible hobject rfl hversion
  exact twins_of_run (run_call_inMemory hanswer) (run_call_behindApi hreply) halike
    (hsame.writeSecret hfits hleaves)

/-! ### Attempts -/

/-- A rotation ends in the same way if its write does. -/
theorem twins_rotate {existed : Bool} {secret secret' : Secret} {outcome : RotationOutcome}
    (hsecret : secret'.IsVersionOf secret)
    (hsame : SameContents memory (setup.object? server))
    (hwrite : ∀ ca leaf here there, Host.Rest memory server here there →
      setup.Twins (write existed (secret.withCertificates ca leaf))
        (write existed (secret'.withCertificates ca leaf)) here there)
    (hrest : Host.Rest memory server here there) :
    setup.Twins (rotator.rotate outcome existed secret) (rotator.rotate outcome existed secret')
      here there := by
  -- what is made of a Secret does not depend on its version
  have hobtain : rotator.obtainAuthority outcome secret' =
      rotator.obtainAuthority outcome secret := hsecret.apply_eq fun _ ↦ rfl
  rw [rotate, rotate, hobtain]
  refine twins_andThen_of_only (only_obtainAuthority.mono Effect.isCommon_of_isIssuing) hrest hsame
    fun ca here there hrest ↦ ?_
  refine twins_andThen_of_only (only_makeLeaf.mono Effect.isCommon_of_isIssuing) hrest hsame
    fun leaf here there hrest ↦ ?_
  refine (hwrite ca leaf here there hrest).andThen (fun _ here there hagree ↦ ?_) fun _ _ h ↦ h
  exact twins_of_only ⟨trivial, fun _ ↦ ⟨trivial, fun _ ↦ trivial⟩⟩ hagree

/-- What is done about a Secret that was read ends in the same way if its write does. -/
theorem twins_checkFrom {existed : Bool} {secret secret' : Secret}
    (hsecret : secret'.IsVersionOf secret) (hsame : SameContents memory (setup.object? server))
    (hwrite : ∀ ca leaf here there, Host.Rest memory server here there →
      setup.Twins (write existed (secret.withCertificates ca leaf))
        (write existed (secret'.withCertificates ca leaf)) here there)
    (hrest : Host.Rest memory server here there) :
    setup.Twins (rotator.checkFrom existed secret) (rotator.checkFrom existed secret') here
      there := by
  have hnow : (perform .now).Only Effect.IsCommon := ⟨trivial, fun _ ↦ trivial⟩
  have hassess (instant : Instant) :
      rotator.assess secret' instant = rotator.assess secret instant :=
    hsecret.apply_eq (f := (rotator.assess · instant)) fun _ ↦ rfl
  refine twins_bind_of_only hnow hrest hsame fun now here there hrest ↦ ?_
  cases rotator.horizon? now with
  | none => exact twins_stop _ (.of_rest hrest hsame)
  | some instant =>
    simp only [hassess]
    refine twins_bind_of_only (only_assess.mono Effect.isCommon_of_isIssuing) hrest hsame
      fun outcome here there hrest ↦ ?_
    cases outcome with
    | unchanged => exact twins_of_only ⟨trivial, fun _ ↦ trivial⟩ (.of_rest hrest hsame)
    | rotatedLeaf => exact twins_rotate hsecret hsame hwrite hrest
    | rotatedCa => exact twins_rotate hsecret hsame hwrite hrest

/-- **An attempt ends in the same way with either store.** -/
theorem twins_refreshOnce (hserver : IsApiServer setup.respond setup.object?)
    (hnamed : (Place.secret rotator.config.secretKey).IsNamed) (h : setup.Agree here there) :
    setup.Twins rotator.refreshOnce rotator.refreshOnce here there := by
  rw [refreshOnce_eq]
  refine twins_getSecret hserver hnamed h (fun there hmissing hmissing' hagree ↦ ?_)
    fun there secret version hfound hfits hversion hagree ↦ ?_
  · let announce := log .info "secret not found, creating"
      [("secret", .text rotator.config.secretKey.text)]
    have hlog : announce.Only Effect.IsCommon := ⟨trivial, fun _ ↦ trivial⟩
    have hnew : (rotator.foundOrNew none).bind (rotator.checkFrom false) =
      announce.bind fun _ ↦ rotator.checkFrom false (.new rotator.config.secretKey) := rfl
    rw [Option.isSome_none, hnew]
    refine twins_bind_of_only hlog ⟨hagree.1, rfl, rfl⟩ hagree.2 fun _ here there hrest ↦ ?_
    refine twins_checkFrom (.refl _) hagree.2 (fun ca leaf here there hrest ↦ ?_) hrest
    exact twins_create hserver hnamed ((Secret.fits_new _).withCertificates ca leaf) hmissing
      hmissing' hagree.2 hrest
  · refine twins_checkFrom (secret.isVersionOf_withVersion _) hagree.2
      (fun ca leaf here there hrest ↦ ?_) ⟨hagree.1, rfl, rfl⟩
    exact twins_replace hserver hnamed (hfits.withCertificates ca leaf) (by rw [hfound]; rfl)
      hversion hagree.2 hrest

/-- **A check ends in the same way with either store**, with all its attempts and the hook. -/
theorem twins_refresh (hserver : IsApiServer setup.respond setup.object?)
    (hnamed : (Place.secret rotator.config.secretKey).IsNamed)
    (hhook : ∀ outcome, (rotator.hook outcome).Only Effect.IsCommon) (h : setup.Agree here there) :
    setup.Twins rotator.refresh rotator.refresh here there := by
  have hignores : Backoff.IgnoresIdle setup.inMemory setup.behindApi setup.Agree :=
    Host.ignoresIdle fun memory server ↦ SameContents memory (setup.object? server)
  have hretry : setup.Twins
      (rotator.config.refreshBackoff.retry "refresh_certs" Error.message rotator.refreshOnce)
      (rotator.config.refreshBackoff.retry "refresh_certs" Error.message rotator.refreshOnce) here
        there :=
    Backoff.twins_retry hignores (fun _ _ hagree ↦ twins_refreshOnce hserver hnamed hagree) h
  refine hretry.andThen (fun outcome here there hagree ↦ ?_) fun _ _ h ↦ h
  refine twins_of_only ?_ hagree
  cases outcome.wroteSecret with
  | false =>
    simp only [Bool.false_eq_true, if_false]
    trivial
  | true => exact (hhook outcome).bind fun _ ↦ trivial

end Rotator

/-! ### Passes -/

namespace Reconciler

open Procedure Comparison

variable {τ : Type} {setup : Comparison τ} {here : Host MemoryStore} {there : Host τ}
  {memory : MemoryStore} {server : τ} {caPem : Bytes} {consumer : Consumer}

/-- An object that is in both stores is replaced in both, on the ground of the version there. -/
theorem twins_replaceConsumer {object : ConsumerObject} {version : String}
    (hserver : IsApiServer setup.respond setup.object?) (hnamed : (Place.consumer consumer).IsNamed)
    (hfits : object.Fits consumer) (hfound : (memory.consumer? consumer).isSome)
    (hversion : (setup.object? server (.consumer consumer)).bind Json.version? =
      some (.string version))
    (hsame : SameContents memory (setup.object? server))
    (hrest : Host.Rest memory server here there) :
    setup.Twins (call (.replaceConsumer consumer object) : Procedure (Except Error Unit))
      (call (.replaceConsumer consumer (object.withVersion (some version)))) here there := by
  obtain ⟨halike, rfl, rfl⟩ := hrest
  obtain ⟨json, hobject, hversion⟩ := Option.bind_eq_some_iff.1 hversion
  have hanswer := MemoryStore.answer_replaceConsumer_of_present object hfound
  have hfits' : (object.withVersion (some version)).Fits consumer := hfits.withVersion _
  obtain ⟨hreply, hleaves⟩ := ApiClient.answer_replaceConsumer hserver hnamed hfits'.name
    hfits'.expressible hobject rfl hversion
  exact twins_of_run (run_call_inMemory hanswer) (run_call_behindApi hreply) halike
    (hsame.writeConsumer hfits hleaves)

/-- The bundle is injected in the same way into both versions of an object. -/
theorem twins_update {object : ConsumerObject} {version : String}
    (hserver : IsApiServer setup.respond setup.object?) (hnamed : (Place.consumer consumer).IsNamed)
    (hfits : object.Fits consumer) (hfound : (memory.consumer? consumer).isSome)
    (hversion : (setup.object? server (.consumer consumer)).bind Json.version? =
      some (.string version))
    (hsame : SameContents memory (setup.object? server))
    (hrest : Host.Rest memory server here there) :
    setup.Twins (update consumer caPem object)
      (update consumer caPem (object.withVersion (some version))) here there := by
  have hlog : (log .debug "ensuring CA cert" (fieldsOf consumer)).Only Effect.IsCommon :=
    ⟨trivial, fun _ ↦ trivial⟩
  have hinject : Injection.inject consumer.kind caPem (object.withVersion (some version)) =
      ((Injection.inject consumer.kind caPem object).1.withVersion (some version),
        (Injection.inject consumer.kind caPem object).2) := rfl
  have hinjected := hfits.inject consumer.kind caPem
  rw [update, update, hinject]
  refine twins_bind_of_only hlog hrest hsame fun _ here there hrest ↦ ?_
  rcases hresult : Injection.inject consumer.kind caPem object with ⟨injected, fault | u⟩
  · exact twins_pure _ (.of_rest hrest hsame)
  · rw [hresult] at hinjected
    exact twins_replaceConsumer hserver hnamed hinjected hfound hversion hsame hrest

/-- **A consumer is brought up to date in the same way with either store.** -/
theorem twins_ensure (hserver : IsApiServer setup.respond setup.object?)
    (hnamed : (Place.consumer consumer).IsNamed) (h : setup.Agree here there) :
    setup.Twins (ensure caPem consumer) (ensure caPem consumer) here there := by
  obtain ⟨halike, hsame⟩ := h
  have hmirrors := hsame.consumer consumer hnamed
  generalize hfound : here.store.consumer? consumer = found at hmirrors
  generalize hkept : setup.object? there.store (.consumer consumer) = kept at hmirrors
  have hreads : consumer ∉ here.store.failing := hsame.failing ▸ List.not_mem_nil
  have hanswer := MemoryStore.answer_getConsumer_of_notMem hreads
  rw [hfound] at hanswer
  have hread : (setup.inMemory (.store (.getConsumer consumer)) here).1 = .ok found :=
    congrArg Prod.fst hanswer
  have hkeep : (setup.inMemory (.store (.getConsumer consumer)) here).2 = here := by
    show { here with store := (here.store.answer (.getConsumer consumer)).2 } = here
    rw [hanswer]
  cases hmirrors with
  | missing =>
    obtain ⟨hread', hkeeps⟩ := ApiClient.answer_getConsumer_missing hserver hnamed hkept
    refine twins_call_andThen hread hread' ?_
    rw [hkeep]
    refine twins_of_only ⟨trivial, fun _ ↦ trivial⟩ ⟨{ halike with }, ?_⟩
    rw [← hkeeps] at hsame
    exact hsame
  | @found object json version hfits hproper hspells =>
    obtain ⟨hread', hkeeps⟩ := ApiClient.answer_getConsumer hserver hnamed hkept hproper hspells
    refine twins_call_andThen hread hread' ?_
    rw [hkeep]
    rw [← hkeeps] at hkept hsame
    have hrest : Host.Rest here.store
        (ApiClient.answer setup.respond (.getConsumer consumer) there.store).2 here
        (setup.behindApi (.store (.getConsumer consumer)) there).2 := ⟨{ halike with }, rfl, rfl⟩
    show setup.Twins
      (if object.metadata.isDeleting = true then _ else update consumer caPem object)
      (if object.metadata.isDeleting = true then _ else
        update consumer caPem (object.withVersion (some version))) here _
    split
    · exact twins_of_only ⟨trivial, fun _ ↦ trivial⟩ (.of_rest hrest hsame)
    · have hversion := congrArg (Option.bind · Json.version?) hkept
      exact twins_update hserver hnamed hfits (by rw [hfound]; rfl)
        (hversion.trans (ConsumerObject.version?_of_ofJson? hspells rfl)) hsame hrest

/-- Consumers are brought up to date in the same way, one after the other. -/
theorem twins_ensureFrom (hserver : IsApiServer setup.respond setup.object?)
    {consumers : List Consumer}
    (hnamed : ∀ consumer ∈ consumers, (Place.consumer consumer).IsNamed) (lastError : Option Error)
    (h : setup.Agree here there) :
    setup.Twins (ensureFrom caPem consumers lastError) (ensureFrom caPem consumers lastError) here
      there := by
  induction consumers generalizing lastError here there with
  | nil => cases lastError <;> exact twins_pure _ h
  | cons consumer consumers ih =>
    rw [List.forall_mem_cons] at hnamed
    refine (twins_ensure hserver hnamed.1 h).bind ?_ fun _ _ h ↦ h
    rintro (e | u) here there hagree
    · have hlog : (log .error "unable to update CA bundle"
          (fieldsOf consumer ++ [("error", .text e.message)])).Only Effect.IsCommon :=
        ⟨trivial, fun _ ↦ trivial⟩
      exact (twins_of_only hlog hagree).bind
        (fun _ here there hagree ↦ ih hnamed.2 (some e) hagree) fun _ _ h ↦ h
    · exact ih hnamed.2 lastError hagree

variable {reconciler : Reconciler}

/-- What is done about a Secret does not depend on its version. -/
theorem twins_propagate (hserver : IsApiServer setup.respond setup.object?)
    (hnamed : ∀ consumer ∈ reconciler.consumers, (Place.consumer consumer).IsNamed)
    (secret : Secret) (h : setup.Agree here there) :
    setup.Twins (reconciler.propagate secret) (reconciler.propagate secret) here there := by
  rcases reconciler.propagate_cases secret with ⟨-, _, _, _, heq⟩ | ⟨ca, -, -, heq⟩ <;> rw [heq]
  · exact twins_of_only ⟨trivial, fun _ ↦ trivial⟩ h
  · refine (twins_ensureFrom hserver hnamed none h).andThen (fun _ here there hagree ↦ ?_)
      fun _ _ h ↦ h
    exact twins_of_only ⟨trivial, fun _ ↦ trivial⟩ hagree

/-- **A pass ends in the same way with either store.** -/
theorem twins_reconcile (hserver : IsApiServer setup.respond setup.object?)
    (hnamed : (Place.secret reconciler.secretKey).IsNamed)
    (hconsumers : ∀ consumer ∈ reconciler.consumers, (Place.consumer consumer).IsNamed)
    (h : setup.Agree here there) :
    setup.Twins reconciler.reconcile reconciler.reconcile here there := by
  have hpass : setup.Twins reconciler.pass reconciler.pass here there := by
    refine twins_getSecret hserver hnamed h (fun there hmissing hmissing' hagree ↦ ?_)
      fun there secret version hfound hfits hversion hagree ↦ ?_
    · exact twins_of_only ⟨trivial, fun _ ↦ trivial⟩ hagree
    · exact twins_propagate hserver hconsumers secret hagree
  refine hpass.bind (fun result here there hagree ↦ ?_) fun _ _ h ↦ h
  exact twins_of_only ⟨trivial, fun _ ↦ trivial⟩ hagree

end Reconciler

/-! ### A sample -/

/-- Stores without objects have the same contents. -/
theorem SameContents.empty : SameContents .empty ObjectServer.empty.object? where
  failing := rfl
  secret key _ := by
    rw [ObjectServer.object?_empty]
    exact .missing
  consumer consumer _ := by
    rw [ObjectServer.object?_empty]
    exact .missing

/-- A consumer that the sample rotator serves. -/
def sampleConsumer : Consumer := ⟨.validating, "webhook"⟩

/-- Its object: a configuration of one webhook. -/
def sampleObject : ConsumerObject :=
  ⟨none, { Metadata.empty with name := some "webhook" },
    .object [("webhooks", .array [.object []])]⟩

/-- The object of the sample can be kept. -/
theorem fits_sample : sampleObject.Fits sampleConsumer := by
  have hwebhooks : (Json.array [.object []]).IsProper :=
    .array (List.forall_mem_singleton.2 (.object .nil nofun))
  have hdata : ConsumerObject.AreData [("webhooks", .array [.object []])] :=
    ⟨.object (List.nodup_singleton _) (List.forall_mem_singleton.2 hwebhooks), by decide⟩
  exact ⟨rfl, ⟨nofun, rfl, .object .nil nofun⟩, _, rfl, hdata⟩

/-- Its object as the server takes it. -/
def sampleJson : Json := sampleObject.toJson?.getD .null

/-- A server that keeps objects, with a single key, and with pauses of different lengths. -/
def sampleComparison : Comparison ObjectServer where
  respond := ObjectServer.respond
  object? := ObjectServer.object?
  clock _ := ⟨1750000000, 0⟩
  keys _ := .ok Rsa.pierpontKey
  factors _ := 1
  factors' _ := 3 / 4

/-- The object is in both stores. -/
theorem agree_sample : sampleComparison.Agree
    (.fresh (MemoryStore.empty.writeConsumer sampleConsumer sampleObject))
    (.fresh (ObjectServer.empty.store (Place.consumer sampleConsumer).path sampleJson)) := by
  obtain ⟨json, hjson, hread, hproper, hmetadata⟩ := fits_sample.expressible.exists_toJson?
  have heq : sampleJson = json := by rw [sampleJson, hjson, Option.getD_some]
  have hleaves : ApiClient.Leaves ObjectServer.object? ConsumerObject.ofJson? .empty
      (.store .empty (Place.consumer sampleConsumer).path sampleJson) (.consumer sampleConsumer)
      sampleObject.withVersion := by
    rw [heq]
    exact ⟨_, _, ObjectServer.object?_store (by decide) json, hproper.setVersion hmetadata,
      ConsumerObject.ofJson?_setVersion hread hmetadata _⟩
  exact ⟨⟨rfl, rfl, rfl, rfl, rfl⟩, SameContents.empty.writeConsumer fits_sample hleaves⟩

/-! ### Runs -/

/-- A check or a pass. -/
inductive Job where
  | refresh (rotator : Rotator)
  | reconcile (reconciler : Reconciler)

namespace Job

open Simulation (sampleRotator)

variable {σ τ : Type} {setup : Comparison τ} {here : Host MemoryStore} {there : Host τ}
  {job : Job} {jobs : List Job}

/-- What is done, with the outcome of a check. -/
def procedure : Job → Procedure (Except Error (Option RotationOutcome))
  | .refresh rotator => rotator.refresh.andThen fun outcome ↦ return .ok (some outcome)
  | .reconcile reconciler => reconciler.reconcile.andThen fun () ↦ return .ok none

/-- Are the names valid, and does the hook leave the store alone? -/
def IsFit : Job → Prop
  | .refresh rotator => (Place.secret rotator.config.secretKey).IsNamed ∧
    ∀ outcome, (rotator.hook outcome).Only Effect.IsCommon
  | .reconcile reconciler => (Place.secret reconciler.secretKey).IsNamed ∧
    ∀ consumer ∈ reconciler.consumers, (Place.consumer consumer).IsNamed

/-- Does the jobs one after the other: how each of them ends, and what it leaves. -/
def runAll (answer : (effect : Effect) → σ → effect.Reply × σ) :
    List Job → σ → List (Except Halt (Except Error (Option RotationOutcome)) × σ)
  | [], _ => []
  | job :: jobs, state =>
    let ending := job.procedure.run answer state
    ending :: runAll answer jobs ending.2

/-- A job ends in the same way with either store. -/
theorem twins_procedure (hserver : IsApiServer setup.respond setup.object?) (hfit : job.IsFit)
    (h : setup.Agree here there) : setup.Twins job.procedure job.procedure here there := by
  cases job with
  | refresh rotator =>
    exact (Rotator.twins_refresh hserver hfit.1 hfit.2 h).andThen
      (fun _ _ _ hagree ↦ Procedure.twins_pure _ hagree) fun _ _ h ↦ h
  | reconcile reconciler =>
    exact (Reconciler.twins_reconcile hserver hfit.1 hfit.2 h).andThen
      (fun _ _ _ hagree ↦ Procedure.twins_pure _ hagree) fun _ _ h ↦ h

/-- **Checks and passes without another writer do not tell the stores apart**: with the same clock
and the same keys they end in the same way, set the same flag, call the hook for the same outcomes,
and leave the same contents after each of them. -/
theorem runAll_agree (hserver : IsApiServer setup.respond setup.object?)
    (hfit : ∀ job ∈ jobs, job.IsFit) (h : setup.Agree here there) :
    List.Forall₂ (fun left right ↦ left.1 = right.1 ∧ setup.Agree left.2 right.2)
      (runAll setup.inMemory jobs here) (runAll setup.behindApi jobs there) := by
  induction jobs generalizing here there with
  | nil => exact .nil
  | cons job jobs ih =>
    rw [List.forall_mem_cons] at hfit
    have hending : setup.Twins job.procedure job.procedure here there :=
      twins_procedure hserver hfit.1 h
    exact .cons hending (ih hfit.2 hending.2)

/-! ### A run of the sample -/

/-- A check as a job ends as the check, with its outcome. -/
theorem run_refresh {answer : (effect : Effect) → σ → effect.Reply × σ} {real after : σ}
    {rotator : Rotator} {outcome : RotationOutcome}
    (h : rotator.refresh.run answer real = (.ok (.ok outcome), after)) :
    (procedure (.refresh rotator)).run answer real = (.ok (.ok (some outcome)), after) := by
  rw [procedure, Procedure.andThen, Procedure.run_bind, h]
  rfl

/-- A pass as a job ends as the pass, without an outcome. -/
theorem run_reconcile {answer : (effect : Effect) → σ → effect.Reply × σ} {real after : σ}
    {reconciler : Reconciler}
    (h : reconciler.reconcile.run answer real = (.ok (.ok ()), after)) :
    (procedure (.reconcile reconciler)).run answer real = (.ok (.ok none), after) := by
  rw [procedure, Procedure.andThen, Procedure.run_bind, h]
  rfl

/-- **A check without a Secret creates one**, whose authority can be loaded. -/
theorem ensures_refresh_absent {rotator : Rotator} {isTime : Instant → Prop}
    {isKey : Except KeyFault Rsa.PrivateKey → Prop} {scene : Scene} (hregular : rotator.IsRegular)
    (hreturns : ∀ halt, ¬ (rotator.hook .rotatedCa).Yields (.error halt))
    (hkeys : IsReliableSource isKey)
    (hwindows : ∀ now, isTime now → Issuance.IsWritableWindow (.standard now))
    (habsent : scene.secret = none) :
    Procedure.Ensures (.sole rotator.config.secretKey isTime isKey fun _ ↦ True)
      (fun result scene' ↦ result = .ok (.ok .rotatedCa) ∧ ∃ secret ca,
        scene'.secret = some secret ∧ secret.metadata.isDeleting = false ∧
        secret.authority = .ok ca ∧ scene'.object = scene.object ∧
        scene'.writes = scene.writes + 1) rotator.refresh scene := by
  have hsubject : rotator.subject scene = .new rotator.config.secretKey := by
    rw [Rotator.subject, habsent, Option.getD_none]
  have hplace : rotator.IsPlaced scene := by rw [Rotator.IsPlaced, hsubject]; rfl
  refine (rotator.ensures_refresh_of_rotatedCa hregular hkeys hplace hwindows
    fun _ _ ↦ hsubject ▸ Rotator.verdict_new _).mono ?_
  rintro result scene' ⟨readings, hwithin, hends, hmade, hplaced, hwrites, hdeleting, hobject⟩
  obtain ⟨key, cert, hfit, hload, -⟩ := hmade.exists_authority hregular.toIsPlain
  rw [hends.eq hreturns]
  exact ⟨rfl, _, _, hmade.secret_eq, by rw [hdeleting, hsubject]; rfl, hload, hobject, hwrites⟩

/-- The sample rotator, with a hook that is listened to. -/
def reportingRotator : Rotator := { sampleRotator with hook := .reporting }

theorem isRegular_reporting : reportingRotator.IsRegular :=
  { Simulation.isRegular_sample with hook := RotationHook.isQuiet_reporting }

/-- A check and a pass. -/
def sampleJobs : List Job :=
  [.refresh reportingRotator, .reconcile (.ofConfig reportingRotator.config)]

/-- Both stores come to the same: the check creates the Secret, and the pass injects the bundle into
the only trust field that there is. -/
theorem runAll_agree_sample :
    let here := Host.fresh (MemoryStore.empty.writeConsumer sampleConsumer sampleObject)
    let there := Host.fresh
      (ObjectServer.empty.store (Place.consumer sampleConsumer).path sampleJson)
    ∃ first second secret caPem object text,
      runAll sampleComparison.inMemory sampleJobs here =
        [(.ok (.ok (some .rotatedCa)), first), (.ok (.ok none), second)] ∧
      (runAll sampleComparison.behindApi sampleJobs there).map Prod.fst =
        [.ok (.ok (some .rotatedCa)), .ok (.ok none)] ∧
      first.store.secretWrites = 1 ∧
      second.store.secret? reportingRotator.config.secretKey = some secret ∧
      secret.lookup? Secret.caCert = some caPem ∧ second.isInjected = true ∧
      second.store.consumer? sampleConsumer = some object ∧
      Injection.fields .validating object.data = [some (.string text)] ∧
      Base64.decode (Utf8.ofString text) = .ok caPem ∧
      List.Forall₂ (fun left right ↦ left.1 = right.1 ∧ sampleComparison.Agree left.2 right.2)
        (runAll sampleComparison.inMemory sampleJobs here)
        (runAll sampleComparison.behindApi sampleJobs there) := by
  intro here there
  have hsecret : (Place.secret sampleRotator.config.secretKey).IsNamed := by decide
  have hconsumers : ∀ consumer ∈ sampleRotator.config.consumers,
      (Place.consumer consumer).IsNamed := by decide
  have hfit : ∀ job ∈ sampleJobs, job.IsFit := by
    simp only [sampleJobs, List.forall_mem_cons]
    exact ⟨⟨hsecret, fun _ ↦ ⟨trivial, fun _ ↦ trivial⟩⟩, ⟨hsecret, hconsumers⟩, nofun⟩
  have hagree := runAll_agree ObjectServer.isApiServer hfit agree_sample
  -- what the check comes to with the store in memory
  have hkept : (Contract.sole reportingRotator.config.secretKey (· = ⟨1750000000, 0⟩)
      Simulation.isSampleKey fun _ ↦ True).KeptBy sampleComparison.inMemory
        (Comparison.Shows reportingRotator.config.secretKey) :=
    sampleComparison.keptBy_inMemory (fun _ ↦ rfl) fun _ ↦ rfl
  have hshows : Comparison.Shows reportingRotator.config.secretKey here
      ⟨none, here.store.consumer?, false, 0⟩ := ⟨⟨rfl, rfl, rfl, rfl⟩, rfl⟩
  have hreturns (halt : Halt) : ¬ (reportingRotator.hook .rotatedCa).Yields (.error halt) := by
    rintro ⟨-, ⟨⟩⟩
  have hwindow : Issuance.IsWritableWindow (.standard ⟨1750000000, 0⟩) := by
    constructor <;> decide
  obtain ⟨scene₁, hshows₁, hresult₁, secret, ca, hstored, hlive, hload, hobject, hwrites⟩ :=
    (ensures_refresh_absent isRegular_reporting hreturns Simulation.isReliableSource_sample
      (by rintro _ rfl; exact hwindow) rfl).run hkept hshows
  -- what the pass comes to after it
  have hfound : scene₁.object sampleConsumer = some (sampleObject.withVersion (some "1")) := by
    rw [hobject]
    rfl
  have hcan : ∀ consumer ∈ (Reconciler.ofConfig reportingRotator.config).consumers,
      scene₁.CanTake consumer := by
    intro consumer hmem object hother _
    obtain rfl := List.mem_singleton.1 hmem
    obtain rfl := Option.some.inj (hfound.symm.trans hother)
    exact ⟨[.object []], rfl, by simp [Injection.HasClient, Assoc.get?]⟩
  obtain ⟨scene₂, hshows₂, hresult₂, hinjected, hsecret₂, -, hthere, htrusts⟩ :=
    ((Reconciler.ofConfig reportingRotator.config).ensures_reconcile (· = ⟨1750000000, 0⟩)
      Simulation.isSampleKey hstored hlive hload hcan).run
        (Contract.keptBy_sole_of_all hkept) hshows₁
  obtain ⟨object, hobject₂, hlike⟩ := hthere sampleConsumer _ hfound
  obtain ⟨field, hfields⟩ := List.length_eq_one_iff.1 hlike.fields
  obtain ⟨text, rfl, htext⟩ := htrusts sampleConsumer (List.mem_singleton_self _) object hobject₂
    hlike.isDeleting field (hfields ▸ List.mem_singleton_self _)
  -- the two jobs one after the other
  obtain ⟨first, hfirst⟩ := Procedure.exists_run_eq hresult₁
  rw [hfirst] at hshows₁ hshows₂ hresult₂
  obtain ⟨second, hsecond⟩ := Procedure.exists_run_eq hresult₂
  rw [hsecond] at hshows₂
  have hrun : runAll sampleComparison.inMemory sampleJobs here =
      [(.ok (.ok (some .rotatedCa)), first), (.ok (.ok none), second)] := by
    simp only [sampleJobs, runAll, run_refresh hfirst, run_reconcile hsecond]
  have hends : List.Forall₂ (· = ·)
      ((runAll sampleComparison.inMemory sampleJobs here).map Prod.fst)
      ((runAll sampleComparison.behindApi sampleJobs there).map Prod.fst) :=
    List.forall₂_map_left_iff.2 (List.forall₂_map_right_iff.2 (hagree.imp fun _ _ ↦ And.left))
  rw [List.forall₂_eq_eq_eq, hrun] at hends
  exact ⟨first, second, secret, ca.certPem, object, text, hrun, hends.symm,
    hshows₁.writes.symm.trans hwrites, hshows₂.secret.symm.trans (hsecret₂.trans hstored),
    (Secret.authority_eq_ok.1 hload).1, hshows₂.isInjected.symm.trans hinjected,
    (congrFun hshows₂.object _).symm.trans hobject₂, hfields, htext, hagree⟩

end Job

end WebhookTrust
