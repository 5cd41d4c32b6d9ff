import Mathlib.Data.List.Nodup
import WebhookTrust.Proofs.ObjectServer
import WebhookTrust.Simulation.Controller

/-!
# What the watches cover

A watch of a kind is narrowed to a name only if no other name of the kind is declared, so that no
watch hides an event on a declared consumer; and what a watch delivers beyond them, its mapper
drops.

* `Reconciler.admits_consumerWatch`: **the watch of a kind hides no declared consumer**, since a
  watch that is narrowed to the only one of some names hides none of them.
* `Reconciler.filter_watches`: **one watch follows the objects of a kind that is declared, and none
  those of another**, however often the kind occurs in the declarations.
* `Reconciler.isTriggeredBy_iff`: **an event on a named object makes a pass due exactly if the
  object is declared.** It passes a watch that admits it, and then the mapper looks for it among the
  declarations.
* `ControllerRun.isDue_follow`: **a pass is due after a controller has followed a change of a
  declared consumer**, and stays due while it follows others (`ControllerRun.Keeps`).

That an event is delivered to the watches that admit it is taken of the server; here a change is
seen by all watches of its collection (`ControllerRun.notice`). What a pass does when it is due is
in `WebhookTrust.Proofs.Reconciliation`.
-/

namespace WebhookTrust

namespace Reconciler

variable {reconciler : Reconciler} {kind : ConsumerKind} {name : String} {metadata : Metadata}

/-! ### Declarations -/

/-- Is a consumer of the kind declared? -/
def Occurs (reconciler : Reconciler) (kind : ConsumerKind) : Prop :=
  ∃ name, ⟨kind, name⟩ ∈ reconciler.consumers

/-- The names of a kind are those declared with it. -/
theorem mem_namesOf : name ∈ reconciler.namesOf kind ↔ ⟨kind, name⟩ ∈ reconciler.consumers := by
  constructor
  · intro h
    obtain ⟨⟨kind', name'⟩, hconsumer, rfl⟩ := List.mem_map.1 h
    obtain ⟨hmem, hkind⟩ := List.mem_filter.1 hconsumer
    obtain rfl : kind' = kind := of_decide_eq_true hkind
    exact hmem
  · intro h
    exact List.mem_map.2 ⟨⟨kind, name⟩, List.mem_filter.2 ⟨h, decide_eq_true rfl⟩, rfl⟩

theorem mem_declaredKinds : kind ∈ reconciler.declaredKinds ↔ reconciler.Occurs kind := by
  rw [declaredKinds, List.mem_filter, Bool.not_eq_true', List.isEmpty_eq_false_iff_exists_mem]
  simp only [mem_namesOf, kind.mem_all, true_and]
  rfl

instance : Decidable (reconciler.Occurs kind) := decidable_of_iff _ mem_declaredKinds

theorem nodup_declaredKinds : reconciler.declaredKinds.Nodup := by
  have hall : ConsumerKind.all.Nodup := by decide
  exact hall.filter _

/-- To declare is to list. -/
theorem declares_iff :
    reconciler.declares kind name = true ↔ ⟨kind, name⟩ ∈ reconciler.consumers := by
  rw [declares, List.any_eq_true]
  constructor
  · rintro ⟨⟨kind', name'⟩, hmem, hsame⟩
    obtain ⟨rfl, rfl⟩ := of_decide_eq_true hsame
    exact hmem
  · exact fun h ↦ ⟨_, h, decide_eq_true ⟨rfl, rfl⟩⟩

/-! ### Watches -/

/-- A watch that is narrowed to the only one of some names hides none of them. -/
theorem all_onlyName? {names : List String} (h : name ∈ names) :
    (onlyName? names).all (· = name) = true := by
  match names with
  | [other] => exact decide_eq_true (List.mem_singleton.1 h).symm
  | _ :: _ :: _ => rfl

/-- **The watch of a kind hides no declared consumer.** -/
theorem admits_consumerWatch (h : ⟨kind, name⟩ ∈ reconciler.consumers) :
    (reconciler.consumerWatch kind).admits name = true :=
  all_onlyName? (mem_namesOf.2 h)

theorem mem_watches {watch : Watch} : watch ∈ reconciler.watches ↔
    watch = reconciler.secretWatch ∨
      ∃ kind, reconciler.Occurs kind ∧ watch = reconciler.consumerWatch kind := by
  rw [watches, List.mem_cons, List.mem_map]
  simp only [mem_declaredKinds, eq_comm]

/-- **One watch follows the objects of a kind that is declared, and none those of another.** -/
theorem filter_watches (reconciler : Reconciler) (kind : ConsumerKind) :
    reconciler.watches.filter (·.collection = ApiClient.consumersPath kind) =
      if reconciler.Occurs kind then [reconciler.consumerWatch kind] else [] := by
  have hsecret : reconciler.secretWatch.collection ≠ ApiClient.consumersPath kind :=
    Place.collection_secret_ne reconciler.secretKey ⟨kind, ""⟩
  have hsame : (fun watch : Watch ↦ decide (watch.collection = ApiClient.consumersPath kind)) ∘
      reconciler.consumerWatch = fun kind' ↦ decide (kind' = kind) :=
    funext fun _ ↦ decide_eq_decide.2 ApiClient.consumersPath_injective.eq_iff
  rw [watches, List.filter_cons_of_neg (by simpa using hsecret), List.filter_map, hsame,
    List.filter_eq, nodup_declaredKinds.count]
  simp only [mem_declaredKinds]
  split <;> rfl

/-! ### Triggers -/

/-- The Secret for which a pass is due after an event that a watch delivers. -/
def mapped? (reconciler : Reconciler) (watch : Watch) (metadata : Metadata) : Option SecretKey :=
  match watch.subject with
  | .secret => some (subjectOf metadata)
  | .consumers kind => reconciler.trigger? kind metadata

/-- Does an event on an object of a collection make a pass due for the Secret of the reconciler? -/
def IsTriggeredBy (reconciler : Reconciler) (collection : String) (metadata : Metadata) : Prop :=
  ∃ watch ∈ reconciler.watches, watch.collection = collection ∧
    watch.admits metadata.displayName = true ∧
    reconciler.mapped? watch metadata = some reconciler.secretKey

theorem displayName_eq (h : metadata.name = some name) : metadata.displayName = name := by
  rw [Metadata.displayName, h, Option.some_or, Option.getD_some]

theorem trigger?_eq (h : metadata.name = some name) : reconciler.trigger? kind metadata =
    if ⟨kind, name⟩ ∈ reconciler.consumers then some reconciler.secretKey else none := by
  rw [trigger?, displayName_eq h]
  simp only [declares_iff]

theorem mapped?_consumerWatch : reconciler.mapped? (reconciler.consumerWatch kind) metadata =
    reconciler.trigger? kind metadata := rfl

/-- **The object passes a watch and its mapper exactly if it is declared.** -/
theorem isTriggeredBy_iff (h : metadata.name = some name) :
    reconciler.IsTriggeredBy (ApiClient.consumersPath kind) metadata ↔
      ⟨kind, name⟩ ∈ reconciler.consumers := by
  constructor
  · rintro ⟨watch, hmem, hcollection, -, hmapped⟩
    obtain rfl | ⟨kind', -, rfl⟩ := mem_watches.1 hmem
    · exact (Place.collection_secret_ne reconciler.secretKey ⟨kind, ""⟩ hcollection).elim
    · obtain rfl : kind' = kind := ApiClient.consumersPath_injective hcollection
      rw [mapped?_consumerWatch, trigger?_eq h] at hmapped
      by_contra hnot
      rw [if_neg hnot] at hmapped
      cases hmapped
  · intro hdeclared
    refine ⟨reconciler.consumerWatch kind, mem_watches.2 (.inr ⟨kind, ⟨name, hdeclared⟩, rfl⟩),
      rfl, ?_, ?_⟩
    · rw [displayName_eq h]
      exact admits_consumerWatch hdeclared
    · rw [mapped?_consumerWatch, trigger?_eq h, if_pos hdeclared]

end Reconciler

namespace Simulation.ControllerRun

variable {run run' : ControllerRun} {change : ApiChange} {kind : ConsumerKind} {name : String}
  {metadata : Metadata}

/-! ### One change -/

/-- A watch sees nothing of other collections. -/
theorem observe_of_ne {watch : Watch} (h : watch.collection ≠ collectionOf change.path) :
    observe change run watch = run := by
  rw [observe]
  split
  · rfl
  · rw [if_neg fun hsees ↦ h hsees.1.symm]

/-- Watches of other collections can be left out. -/
theorem foldl_observe_filter (change : ApiChange) (run : ControllerRun) (watches : List Watch) :
    (watches.filter (·.collection = collectionOf change.path)).foldl (observe change) run =
      watches.foldl (observe change) run := by
  rw [List.foldl_filter]
  congr 1
  funext run watch
  split
  · rfl
  · rename_i hne
    exact (observe_of_ne (by simpa using hne)).symm

/-- The metadata that a change shows. -/
def metadataOf? (change : ApiChange) : Option Metadata :=
  (change.object.get? "metadata").bind Metadata.ofJson?

/-- A watch that sees a change of a declared consumer makes a pass due. -/
theorem observe_consumerWatch (hpath : collectionOf change.path = ApiClient.consumersPath kind)
    (hmetadata : metadataOf? change = some metadata) (hname : metadata.name = some name) :
    observe change run (run.reconciler.consumerWatch kind) =
      if ⟨kind, name⟩ ∈ run.reconciler.consumers then
        run.schedule run.reconciler.secretKey run.time
      else run := by
  rw [metadataOf?] at hmetadata
  by_cases hdeclared : ⟨kind, name⟩ ∈ run.reconciler.consumers
  · have hadmits := Reconciler.admits_consumerWatch hdeclared
    rw [← Reconciler.displayName_eq hname] at hadmits
    simp only [observe, hmetadata, hpath, hadmits]
    simp only [Reconciler.consumerWatch, and_self, if_true, Reconciler.trigger?_eq hname,
      if_pos hdeclared]
  · simp only [observe, hmetadata, Reconciler.consumerWatch, Reconciler.trigger?_eq hname,
      if_neg hdeclared, ite_self]

/-- **A change of a declared consumer makes a pass due, once, and that of another object none.** -/
theorem foldl_observe_watches (hpath : collectionOf change.path = ApiClient.consumersPath kind)
    (hmetadata : metadataOf? change = some metadata) (hname : metadata.name = some name) :
    run.reconciler.watches.foldl (observe change) run =
      if ⟨kind, name⟩ ∈ run.reconciler.consumers then
        run.schedule run.reconciler.secretKey run.time
      else run := by
  rw [← foldl_observe_filter, hpath, Reconciler.filter_watches]
  by_cases hoccurs : run.reconciler.Occurs kind
  · rw [if_pos hoccurs, List.foldl_cons, List.foldl_nil,
      observe_consumerWatch hpath hmetadata hname]
  · rw [if_neg hoccurs, List.foldl_nil, if_neg fun hdeclared ↦ hoccurs ⟨name, hdeclared⟩]

/-! ### All changes -/

/-- Is a pass due for a Secret by now? -/
def IsDue (run : ControllerRun) (key : SecretKey) : Prop :=
  ∃ time ≤ run.time, Assoc.get? key run.due = some time

/-- What following changes keeps: the reconciler, the time, and the passes that are due. -/
structure Keeps (run run' : ControllerRun) : Prop where
  reconciler : run'.reconciler = run.reconciler
  time : run'.time = run.time
  isDue : ∀ key, run.IsDue key → run'.IsDue key

theorem Keeps.refl (run : ControllerRun) : Keeps run run := ⟨rfl, rfl, fun _ ↦ id⟩

theorem Keeps.trans {run'' : ControllerRun} (h : Keeps run run') (h' : Keeps run' run'') :
    Keeps run run'' :=
  ⟨h'.reconciler.trans h.reconciler, h'.time.trans h.time, fun key ↦ h'.isDue key ∘ h.isDue key⟩

/-- A pass that is scheduled is due. -/
theorem isDue_schedule (run : ControllerRun) (key : SecretKey) :
    (run.schedule key run.time).IsDue key := by
  refine ⟨_, ?_, Assoc.get?_put_self _ _ _⟩
  cases Assoc.get? key run.due with
  | none => exact le_rfl
  | some earlier => exact min_le_left _ _

/-- To schedule a pass keeps the others. -/
theorem keeps_schedule (run : ControllerRun) (key : SecretKey) :
    Keeps run (run.schedule key run.time) := by
  refine ⟨rfl, rfl, fun other ⟨time, hle, hget⟩ ↦ ?_⟩
  by_cases hkey : other = key
  · exact hkey ▸ isDue_schedule run key
  · exact ⟨time, hle, (Assoc.get?_put_of_ne hkey _ _).trans hget⟩

/-- So does noting the Secret, -/
theorem keeps_noteSecret (run : ControllerRun) (isDeletion : Bool) (metadata : Metadata) :
    Keeps run (run.noteSecret isDeletion metadata) := by
  cases isDeletion with
  | true => exact ⟨rfl, rfl, fun _ ↦ id⟩
  | false =>
    let noted : ControllerRun :=
      { run with known := Assoc.put (Reconciler.subjectOf metadata) metadata run.known }
    have hnoted : Keeps run noted := ⟨rfl, rfl, fun _ ↦ id⟩
    exact hnoted.trans (keeps_schedule noted (Reconciler.subjectOf metadata))

/-- and what a watch does about a change. -/
theorem keeps_observe (change : ApiChange) (run : ControllerRun) (watch : Watch) :
    Keeps run (observe change run watch) := by
  rw [observe]
  split
  · exact .refl run
  · split
    · split
      · exact keeps_noteSecret run _ _
      · split
        · exact keeps_schedule run _
        · exact .refl run
    · exact .refl run

theorem keeps_foldl_observe (change : ApiChange) (run : ControllerRun) (watches : List Watch) :
    Keeps run (watches.foldl (observe change) run) := by
  induction watches generalizing run with
  | nil => exact .refl run
  | cons watch watches ih => exact (keeps_observe change run watch).trans (ih _)

/-- All watches see a change. -/
def notice (run : ControllerRun) (change : ApiChange) : ControllerRun :=
  run.reconciler.watches.foldl (observe change) run

/-- To follow changes keeps what is due. -/
theorem keeps_foldl_notice (changes : List ApiChange) (run : ControllerRun) :
    Keeps run (changes.foldl notice run) := by
  induction changes generalizing run with
  | nil => exact .refl run
  | cons change changes ih =>
    exact (keeps_foldl_observe change run run.reconciler.watches).trans (ih _)

/-- **A pass is due after a controller has followed a change of a declared consumer.** -/
theorem isDue_follow (hchange : change ∈ run.server.changes)
    (hpath : collectionOf change.path = ApiClient.consumersPath kind)
    (hmetadata : metadataOf? change = some metadata) (hname : metadata.name = some name)
    (hdeclared : ⟨kind, name⟩ ∈ run.reconciler.consumers) :
    run.follow.IsDue run.reconciler.secretKey := by
  obtain ⟨before, behind, hchanges⟩ := List.append_of_mem (List.mem_reverse.2 hchange)
  let start : ControllerRun := { run with server := { run.server with changes := [] } }
  have hfollow : run.follow =
      behind.foldl notice (notice (before.foldl notice start) change) := by
    show run.server.changes.reverse.foldl notice start = _
    rw [hchanges, List.foldl_append, List.foldl_cons]
  have hkept : (before.foldl notice start).reconciler = run.reconciler :=
    (keeps_foldl_notice before start).reconciler
  have hnotice : (notice (before.foldl notice start) change).IsDue run.reconciler.secretKey := by
    rw [notice, foldl_observe_watches hpath hmetadata hname, hkept, if_pos hdeclared]
    exact isDue_schedule _ _
  rw [hfollow]
  exact (keeps_foldl_notice behind _).isDue _ hnotice

end Simulation.ControllerRun

namespace Reconciler

open Simulation

variable {reconciler : Reconciler} {kind : ConsumerKind} {name : String} {metadata : Metadata}

/-- **The watches cover exactly the declared consumers.** An event on a named object passes a watch
and its mapper exactly if the object is declared. One watch follows the objects of a kind that is
declared, none those of another, and the only watch beside these is that of the Secret. For a
controller, a change of a declared object makes one pass due, one of another object makes none, and
no change of a declared object that it has followed is left without a pass. -/
theorem watches_cover_declared (reconciler : Reconciler) (kind : ConsumerKind)
    (hname : metadata.name = some name) :
    (reconciler.IsTriggeredBy (ApiClient.consumersPath kind) metadata ↔
      ⟨kind, name⟩ ∈ reconciler.consumers) ∧
    (reconciler.watches.filter (·.collection = ApiClient.consumersPath kind) =
      if reconciler.Occurs kind then [reconciler.consumerWatch kind] else []) ∧
    (∀ watch ∈ reconciler.watches, watch = reconciler.secretWatch ∨
      ∃ kind, reconciler.Occurs kind ∧ watch = reconciler.consumerWatch kind) ∧
    ∀ (run : ControllerRun) (change : ApiChange), run.reconciler = reconciler →
      ControllerRun.collectionOf change.path = ApiClient.consumersPath kind →
      ControllerRun.metadataOf? change = some metadata →
      run.reconciler.watches.foldl (ControllerRun.observe change) run =
          (if ⟨kind, name⟩ ∈ reconciler.consumers then
            run.schedule reconciler.secretKey run.time
          else run) ∧
        (change ∈ run.server.changes → ⟨kind, name⟩ ∈ reconciler.consumers →
          run.follow.IsDue reconciler.secretKey) := by
  refine ⟨isTriggeredBy_iff hname, filter_watches reconciler kind, fun _ ↦ mem_watches.1, ?_⟩
  rintro run change rfl hpath hmetadata
  exact ⟨ControllerRun.foldl_observe_watches hpath hmetadata hname, fun hchange hdeclared ↦
    ControllerRun.isDue_follow hchange hpath hmetadata hname hdeclared⟩

/-- A declaration that is repeated leaves the watch of its kind open to all names; an event on the
object that it names makes a pass due. -/
theorem watches_cover_declared_repeated :
    let reconciler : Reconciler :=
      ⟨⟨"system", "cert"⟩, [⟨.validating, "hook"⟩, ⟨.validating, "hook"⟩, ⟨.mutating, "hook"⟩]⟩
    let metadata : Metadata := { Metadata.empty with name := some "hook" }
    let change : ApiChange :=
      ⟨"/apis/admissionregistration.k8s.io/v1/validatingwebhookconfigurations/hook",
        .object [("metadata", .object [("name", .string "hook")])], false⟩
    let run := ControllerRun.fresh reconciler ⟨[], 0, [], [change]⟩
    metadata.name = some "hook" ∧ (reconciler.consumerWatch .validating).name = none ∧
      reconciler.IsTriggeredBy (ApiClient.consumersPath .validating) metadata ∧
      run.follow.IsDue reconciler.secretKey := by
  intro reconciler metadata change run
  have hdeclared : ⟨.validating, "hook"⟩ ∈ reconciler.consumers := List.mem_cons_self
  obtain ⟨htrigger, -, -, hruns⟩ := watches_cover_declared reconciler .validating
    (show metadata.name = some "hook" from rfl)
  obtain ⟨-, hdue⟩ := hruns run change rfl (by decide) (by decide)
  exact ⟨rfl, rfl, htrigger.2 hdeclared, hdue List.mem_cons_self hdeclared⟩

end Reconciler

end WebhookTrust
