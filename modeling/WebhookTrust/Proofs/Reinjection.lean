import WebhookTrust.Proofs.Paths
import WebhookTrust.Reconciliation

/-!
# Injecting again and again

An object is injected into whenever anything about it changes, and mostly it holds a bundle already.
What it holds does not count.

* `Injection.injectData_injectData`: **of two bundles the second counts**, whatever became of the
  first, even if both fail. It goes by the parts of an object; of two values that are set for a key
  the second counts (`Json.put_put`), and webhooks are done one by one.
* `Injection.injectData_result`: **whether injection succeeds, and at which fault it fails, does not
  depend on the bundle.**
* `Injection.inject_last_counts`: so of any number of injections the last one alone tells what the
  object is in the end, by induction on those before it (`Injection.inject_injectAll`). It succeeds
  if any other does, and then every trust field holds its bundle.

With one bundle this is idempotence. It is what allows a pass that failed to be made again
(`WebhookTrust.Proofs.Isolation`).
-/

namespace WebhookTrust.Injection

open Json

variable {bundle other : Json} {members changed : List (String × Json)}

/-! ### The second bundle counts -/

/-- A client configuration takes a bundle as it did before it took one. -/
theorem setClientBundle?_of_eq_some (h : setClientBundle? bundle members = some changed) :
    setClientBundle? other changed = setClientBundle? other members := by
  obtain ⟨config, hconfig | ⟨hnone, rfl⟩, rfl⟩ := setClientBundle?_eq_some.1 h
  · simp [setClientBundle?, setBundle, Assoc.put_put, hconfig]
  · simp [setClientBundle?, setBundle, Assoc.put, Assoc.put_put, hnone]

/-- What takes one bundle takes any other. -/
theorem exists_setClientBundle? (h : setClientBundle? bundle members = some changed)
    (other : Json) : ∃ changed', setClientBundle? other members = some changed' :=
  Option.isSome_iff_exists.1 ((setClientBundle?_isSome other).2 (hasClient_of_eq_some h))

/-- Webhooks take a bundle as they did before some of them took one. -/
theorem injectWebhooks_injectWebhooks (index : Nat) (webhooks : List Json) :
    injectWebhooks other index (injectWebhooks bundle index webhooks).1 =
      injectWebhooks other index webhooks := by
  induction webhooks generalizing index with
  | nil => rfl
  | cons webhook rest ih =>
    rcases hasClient_cases bundle webhook with ⟨members, changed, rfl, hset⟩ | hnot
    · obtain ⟨changed', hset'⟩ := exists_setClientBundle? hset other
      have hagain : setClientBundle? other changed = some changed' :=
        (setClientBundle?_of_eq_some hset).trans hset'
      rw [injectWebhooks_cons_of_some hset, injectWebhooks_cons_of_some hagain,
        injectWebhooks_cons_of_some hset', ih]
    · rw [injectWebhooks_cons_of_not hnot]

/-- A conversion takes a bundle as it did before it took one. -/
theorem injectConversion_of_eq_ok {conversion : List (String × Json)}
    (h : injectConversion bundle conversion = .ok changed) :
    injectConversion other changed = injectConversion other conversion := by
  rcases injectConversion_eq_ok.1 h with
    ⟨webhook, members, hwebhook, hset, rfl⟩ | ⟨hnone, config, hconfig, rfl⟩
  · simp [injectConversion, setClientBundle?_of_eq_some hset, Assoc.put_put, hwebhook]
  · have hne : "webhook" ≠ "webhookClientConfig" := by decide
    simp [injectConversion, Assoc.get?_put_of_ne hne, hnone, hconfig, setBundle, Assoc.put_put]

/-- **Of two bundles the second counts**, whatever became of the first. -/
theorem injectData_injectData (kind : ConsumerKind) (bundle other data : Json) :
    injectData kind other (injectData kind bundle data).1 = injectData kind other data := by
  have hadmission : injectAdmission other (injectAdmission bundle data).1 =
      injectAdmission other data := by
    rcases injectAdmission_cases data with ⟨webhooks, hwebhooks⟩ | ⟨-, hnothing⟩
    · rw [injectAdmission_of_array hwebhooks, injectAdmission_of_array hwebhooks,
        injectAdmission_of_array (get?_put_self hwebhooks), injectWebhooks_injectWebhooks, put_put]
    · rw [hnothing]
  cases kind with
  | validating | mutating => exact hadmission
  | crdConversion =>
    show injectDefinition other (injectDefinition bundle data).1 = injectDefinition other data
    rcases injectDefinition_cases bundle data with
      ⟨fault, hfails⟩ | ⟨spec, conversion, changed, hspec, hconversion, hchanged⟩
    · rw [hfails]
    · obtain ⟨changed', hchanged'⟩ :
          ∃ changed', injectConversion other conversion = .ok changed' :=
        injectConversion_isOk.2 (injectConversion_isOk.1 ⟨changed, hchanged⟩)
      have hagain : injectConversion other changed = .ok changed' :=
        (injectConversion_of_eq_ok hchanged).trans hchanged'
      rw [injectDefinition_of_ok hspec hconversion hchanged,
        injectDefinition_of_ok (get?_put_self hspec) (get?_put_self hconversion) hagain,
        injectDefinition_of_ok hspec hconversion hchanged', put_put, put_put]

/-! ### All bundles fare the same -/

theorem setClientBundle?_isSome_eq (bundle other : Json) (members : List (String × Json)) :
    (setClientBundle? bundle members).isSome = (setClientBundle? other members).isSome := by
  rw [Bool.eq_iff_iff, setClientBundle?_isSome, setClientBundle?_isSome]

/-- Webhooks take all bundles, or stop at the same fault. -/
theorem injectWebhooks_result (bundle other : Json) (index : Nat) (webhooks : List Json) :
    (injectWebhooks bundle index webhooks).2 = (injectWebhooks other index webhooks).2 := by
  induction webhooks generalizing index with
  | nil => rfl
  | cons webhook rest ih =>
    rcases hasClient_cases bundle webhook with ⟨members, changed, rfl, hset⟩ | hnot
    · obtain ⟨changed', hset'⟩ := exists_setClientBundle? hset other
      rw [injectWebhooks_cons_of_some hset, injectWebhooks_cons_of_some hset']
      exact ih (index + 1)
    · rw [injectWebhooks_cons_of_not hnot, injectWebhooks_cons_of_not hnot]

/-- A conversion takes all bundles, or none. -/
theorem injectConversion_result (bundle other : Json) (conversion : List (String × Json)) :
    (injectConversion bundle conversion).map (fun _ ↦ ()) =
      (injectConversion other conversion).map (fun _ ↦ ()) := by
  rw [injectConversion, injectConversion]
  split
  · next webhook _ =>
    have hclient := setClientBundle?_isSome_eq bundle other webhook
    cases hset : setClientBundle? bundle webhook <;>
      cases hset' : setClientBundle? other webhook <;> simp_all [Except.map]
  · rfl
  · split <;> rfl

/-- **Whether injection succeeds, and at which fault it fails, does not depend on the bundle.** -/
theorem injectData_result (kind : ConsumerKind) (bundle other data : Json) :
    (injectData kind bundle data).2 = (injectData kind other data).2 := by
  have hadmission : (injectAdmission bundle data).2 = (injectAdmission other data).2 := by
    rcases injectAdmission_cases data with ⟨webhooks, hwebhooks⟩ | ⟨-, hnothing⟩
    · rw [injectAdmission_of_array hwebhooks, injectAdmission_of_array hwebhooks]
      exact injectWebhooks_result bundle other 0 webhooks
    · rw [hnothing, hnothing]
  cases kind with
  | validating | mutating => exact hadmission
  | crdConversion =>
    simp only [injectData, injectDefinition]
    split
    · split
      · next conversion _ =>
        have hconversion := injectConversion_result bundle other conversion
        cases hinject : injectConversion bundle conversion <;>
          cases hinject' : injectConversion other conversion <;> simp_all [Except.map]
      · rfl
    · rfl

/-! ### Any number of injections -/

/-- The object after injections, one after the other and going on after those that fail. -/
def injectAll (kind : ConsumerKind) (caPems : List Bytes) (object : ConsumerObject) :
    ConsumerObject :=
  caPems.foldl (fun object caPem ↦ (inject kind caPem object).1) object

theorem inject_inject (kind : ConsumerKind) (first last : Bytes) (object : ConsumerObject) :
    inject kind last (inject kind first object).1 = inject kind last object := by
  simp [inject, injectData_injectData]

theorem metadata_injectAll (kind : ConsumerKind) (caPems : List Bytes) (object : ConsumerObject) :
    (injectAll kind caPems object).metadata = object.metadata := by
  induction caPems generalizing object with
  | nil => rfl
  | cons caPem rest ih => exact ih _

/-- Of any number of injections the last one counts. -/
theorem inject_injectAll (kind : ConsumerKind) (caPems : List Bytes) (last : Bytes)
    (object : ConsumerObject) :
    inject kind last (injectAll kind caPems object) = inject kind last object := by
  induction caPems generalizing object with
  | nil => rfl
  | cons caPem rest ih => exact (ih _).trans (inject_inject kind caPem last object)

/-- **The last injection counts.** After others it comes to what it comes to on the object as it
was, with the same error if it fails. It succeeds if any other does, and then every trust field
holds its bundle. -/
theorem inject_last_counts (kind : ConsumerKind) (object : ConsumerObject) :
    (∀ first last, inject kind last (inject kind first object).1 = inject kind last object ∧
      (inject kind first object).2 = (inject kind last object).2) ∧
    ∀ earlier last,
      inject kind last (injectAll kind earlier object) = inject kind last object ∧
      injectAll kind (earlier ++ [last]) object = (inject kind last object).1 ∧
      Reconciler.injectionError kind (injectAll kind earlier object) =
        Reconciler.injectionError kind object ∧
      ((inject kind last object).2 = .ok () →
        ∀ field ∈ fields kind (injectAll kind (earlier ++ [last]) object).data,
          field = some (bundleOf last)) := by
  refine ⟨fun first last ↦ ⟨inject_inject kind first last object,
    injectData_result kind (bundleOf first) (bundleOf last) object.data⟩, fun earlier last ↦ ?_⟩
  have hlast : injectAll kind (earlier ++ [last]) object = (inject kind last object).1 := by
    rw [injectAll, List.foldl_append, List.foldl_cons, List.foldl_nil, ← injectAll,
      inject_injectAll]
  refine ⟨inject_injectAll kind earlier last object, hlast, ?_, fun hok ↦ ?_⟩
  · funext fault
    rw [Reconciler.injectionError, metadata_injectAll, Reconciler.injectionError]
  · rw [hlast]
    exact (spec_injectData hok).2

/-- An object with a webhook that has no client configuration yet, and one that holds a bundle. -/
def mixedObject : ConsumerObject where
  types := none
  metadata := .empty
  data := .object [("webhooks", .array [.object [("name", .string "new")],
    .object [("clientConfig", .object [("caBundle", .string "old"), ("url", .string "/")])]])]

/-- Two authorities are injected, one after the other. -/
theorem inject_twice_mixedObject :
    (inject .mutating [2] mixedObject).2 = .ok () ∧
      injectAll .mutating [[1], [2]] mixedObject = (inject .mutating [2] mixedObject).1 ∧
      ∀ field ∈ fields .mutating (injectAll .mutating [[1], [2]] mixedObject).data,
        field = some (bundleOf [2]) := by
  obtain ⟨-, hlast, -, hfields⟩ := (inject_last_counts .mutating mixedObject).2 [[1]] [2]
  exact ⟨rfl, hlast, hfields rfl⟩

end WebhookTrust.Injection
