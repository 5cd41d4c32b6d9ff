import Mathlib.Tactic.SplitIfs
import WebhookTrust.Cluster.Injection

/-!
# What injection leaves

Injection succeeds for objects of a certain shape, and then every trust field of the object holds
the bundle and the object has that shape still. Trust fields are named by their paths
(`Injection.fields`), not by how injection gets there, so that the statements do not depend on it.

For each part of an object it is said once what injection can do to it, with or without success
(`Injection.hasClient_cases`, `Injection.injectAdmission_cases`, `Injection.injectConversion_eq_ok`,
`Injection.injectDefinition_cases`). All that is said of injection elsewhere goes by these cases.

* `Injection.injectData_eq_ok`: **injection succeeds exactly for data of the shape**
  (`Injection.Accepts`). For webhooks this is an induction over the list
  (`Injection.injectWebhooks_eq_ok`).
* `Injection.spec_injectData`: **after injection all trust fields hold the bundle**, and the shape
  is the same.
* `Injection.length_fields_injectData`: there are as many trust fields as before, so a pass neither
  makes nor loses any.

What is left elsewhere in the object is in `WebhookTrust.Proofs.Paths`, what an injection that fails
leaves in `WebhookTrust.Proofs.Containment`, and what several come to in
`WebhookTrust.Proofs.Reinjection`.
-/

namespace WebhookTrust.Injection

/-! ### Shapes -/

/-- The trust field of a client configuration under its parent. -/
def fieldOf (parent : Json) (config : String) : Option Json :=
  (parent.get? config).bind (·.get? "caBundle")

/-- The trust fields of the data of an object of the kind. -/
def fields (kind : ConsumerKind) (data : Json) : List (Option Json) :=
  match kind with
  | .validating | .mutating =>
    match data.get? "webhooks" with
    | some (.array webhooks) => webhooks.map (fieldOf · "clientConfig")
    | _ => []
  | .crdConversion =>
    match (data.get? "spec").bind (·.get? "conversion") with
    | none => []
    | some conversion =>
      match conversion.get? "webhook" with
      | some webhook => [fieldOf webhook "clientConfig"]
      | none => [fieldOf conversion "webhookClientConfig"]

/-- An object whose client configuration is an object, if there is one. -/
def HasClient (parent : Json) : Prop :=
  ∃ members, parent = .object members ∧
    ∀ config, Assoc.get? "clientConfig" members = some config → ∃ inner, config = .object inner

/-- The data of an object that can take a bundle. -/
def Accepts (kind : ConsumerKind) (data : Json) : Prop :=
  match kind with
  | .validating | .mutating =>
    ∃ webhooks, data.get? "webhooks" = some (.array webhooks) ∧
      ∀ webhook ∈ webhooks, HasClient webhook
  | .crdConversion =>
    ∃ spec conversion, data.get? "spec" = some spec ∧
      spec.get? "conversion" = some (.object conversion) ∧
      ((∃ webhook, Assoc.get? "webhook" conversion = some webhook ∧ HasClient webhook) ∨
        Assoc.get? "webhook" conversion = none ∧
          ∃ config, Assoc.get? "webhookClientConfig" conversion = some (.object config))

/-! ### Members -/

/-- The value of a key that was there and was set. -/
theorem get?_put_self {json : Json} {key : String} {old value : Json}
    (h : json.get? key = some old) :
    (json.put key value).get? key = some value := by
  cases json with
  | object members => exact Assoc.get?_put_self key value members
  | null | bool | number | string | array => simp [Json.get?] at h

variable {bundle : Json} {members changed : List (String × Json)}

/-! ### Client configurations -/

/-- The bundle is set in the client configuration, which is an object or is made. -/
theorem setClientBundle?_eq_some : setClientBundle? bundle members = some changed ↔
    ∃ config, (Assoc.get? "clientConfig" members = some (.object config) ∨
        Assoc.get? "clientConfig" members = none ∧ config = []) ∧
      changed = Assoc.put "clientConfig" (.object (setBundle bundle config)) members := by
  rw [setClientBundle?]
  cases Assoc.get? "clientConfig" members with
  | none => simp [eq_comm]
  | some config => cases config <;> simp [eq_comm]

/-- A client configuration can be set if it is an object, or is missing. -/
theorem setClientBundle?_isSome (bundle : Json) :
    (setClientBundle? bundle members).isSome = true ↔ HasClient (.object members) := by
  have hclient : HasClient (.object members) ↔ ∀ config,
      Assoc.get? "clientConfig" members = some config → ∃ inner, config = .object inner := by
    constructor
    · rintro ⟨_, hmembers, h⟩
      obtain rfl := Json.object.inj hmembers
      exact h
    · exact fun h ↦ ⟨members, rfl, h⟩
  rw [hclient, setClientBundle?]
  cases Assoc.get? "clientConfig" members with
  | none => simp
  | some config => cases config <;> simp

/-- A client configuration that was set holds the bundle. -/
theorem spec_setClientBundle? (h : setClientBundle? bundle members = some changed) :
    HasClient (.object changed) ∧ fieldOf (.object changed) "clientConfig" = some bundle := by
  obtain ⟨config, -, rfl⟩ := setClientBundle?_eq_some.1 h
  refine ⟨⟨_, rfl, fun inner hinner ↦ ?_⟩, ?_⟩
  · rw [Assoc.get?_put_self, Option.some.injEq] at hinner
    exact ⟨_, hinner.symm⟩
  · rw [fieldOf, Json.get?, Assoc.get?_put_self]
    exact Assoc.get?_put_self _ _ _

/-! ### Admission configurations -/

/-- The fault of a malformed webhook at an index. -/
def faultAt (index : Nat) : Json → Fault
  | .object _ => .malformedClientConfig index
  | _ => .malformedWebhook index

/-- A webhook that has the shape takes the bundle, and it goes on behind it. -/
theorem injectWebhooks_cons_of_some (h : setClientBundle? bundle members = some changed)
    (index : Nat) (rest : List Json) : injectWebhooks bundle index (.object members :: rest) =
      (.object changed :: (injectWebhooks bundle (index + 1) rest).1,
        (injectWebhooks bundle (index + 1) rest).2) := by
  simp only [injectWebhooks, h]

/-- A webhook that is malformed is not changed, and nothing behind it. -/
theorem injectWebhooks_cons_of_not {webhook : Json} (h : ¬ HasClient webhook) (index : Nat)
    (rest : List Json) : injectWebhooks bundle index (webhook :: rest) =
      (webhook :: rest, .error (faultAt index webhook)) := by
  cases webhook with
  | object members =>
    rw [← setClientBundle?_isSome bundle, Option.not_isSome_iff_eq_none] at h
    simp only [injectWebhooks, h, faultAt]
  | null | bool | number | string | array => rfl

/-- Either the first webhook takes the bundle, or it is malformed. -/
theorem hasClient_cases (bundle webhook : Json) :
    (∃ members changed, webhook = .object members ∧
      setClientBundle? bundle members = some changed) ∨ ¬ HasClient webhook := by
  by_cases h : HasClient webhook
  · obtain ⟨members, rfl, hconfig⟩ := h
    obtain ⟨changed, hset⟩ := Option.isSome_iff_exists.1
      ((setClientBundle?_isSome bundle).2 ⟨members, rfl, hconfig⟩)
    exact .inl ⟨members, changed, rfl, hset⟩
  · exact .inr h

theorem hasClient_of_eq_some (h : setClientBundle? bundle members = some changed) :
    HasClient (.object members) :=
  (setClientBundle?_isSome bundle).1 (Option.isSome_of_eq_some h)

/-- Injection gets through all webhooks that have the shape, and through no others. -/
theorem injectWebhooks_eq_ok (bundle : Json) (index : Nat) {webhooks : List Json} :
    (injectWebhooks bundle index webhooks).2 = .ok () ↔
      ∀ webhook ∈ webhooks, HasClient webhook := by
  induction webhooks generalizing index with
  | nil => simp [injectWebhooks]
  | cons webhook rest ih =>
    rw [List.forall_mem_cons]
    rcases hasClient_cases bundle webhook with ⟨members, changed, rfl, hset⟩ | hnot
    · rw [injectWebhooks_cons_of_some hset, ih, and_iff_right (hasClient_of_eq_some hset)]
    · simp [injectWebhooks_cons_of_not hnot, hnot]

/-- **Webhooks that were got through hold the bundle.** -/
theorem spec_injectWebhooks {webhooks : List Json} {index : Nat}
    (h : (injectWebhooks bundle index webhooks).2 = .ok ()) :
    ∀ webhook ∈ (injectWebhooks bundle index webhooks).1,
      HasClient webhook ∧ fieldOf webhook "clientConfig" = some bundle := by
  induction webhooks generalizing index with
  | nil => simp [injectWebhooks]
  | cons webhook rest ih =>
    rcases hasClient_cases bundle webhook with ⟨members, changed, rfl, hset⟩ | hnot
    · rw [injectWebhooks_cons_of_some hset] at h ⊢
      exact List.forall_mem_cons.2 ⟨spec_setClientBundle? hset, ih h⟩
    · simp [injectWebhooks_cons_of_not hnot] at h

/-- There are as many webhooks as before. -/
theorem length_injectWebhooks (bundle : Json) (index : Nat) (webhooks : List Json) :
    (injectWebhooks bundle index webhooks).1.length = webhooks.length := by
  induction webhooks generalizing index with
  | nil => rfl
  | cons webhook rest ih =>
    rcases hasClient_cases bundle webhook with ⟨members, changed, rfl, hset⟩ | hnot
    · rw [injectWebhooks_cons_of_some hset, List.length_cons, ih, List.length_cons]
    · rw [injectWebhooks_cons_of_not hnot]

theorem injectAdmission_of_array {data : Json} {webhooks : List Json}
    (h : data.get? "webhooks" = some (.array webhooks)) : injectAdmission bundle data =
      (data.put "webhooks" (.array (injectWebhooks bundle 0 webhooks).1),
        (injectWebhooks bundle 0 webhooks).2) := by
  simp only [injectAdmission, h]

/-- Either the webhooks are gone through, or there are none and nothing is changed. -/
theorem injectAdmission_cases (data : Json) :
    (∃ webhooks, data.get? "webhooks" = some (.array webhooks)) ∨
      (∀ webhooks, data.get? "webhooks" ≠ some (.array webhooks)) ∧
        ∀ bundle, injectAdmission bundle data = (data, .error .noWebhooks) := by
  by_cases h : ∃ webhooks, data.get? "webhooks" = some (.array webhooks)
  · exact .inl h
  · refine .inr ⟨not_exists.1 h, fun bundle ↦ ?_⟩
    rw [injectAdmission]
    split
    · next webhooks hwebhooks => exact (h ⟨webhooks, hwebhooks⟩).elim
    · rfl

/-- It succeeds if there are webhooks and all of them have the shape. -/
theorem injectAdmission_eq_ok {data : Json} : (injectAdmission bundle data).2 = .ok () ↔
    ∃ webhooks, data.get? "webhooks" = some (.array webhooks) ∧
      ∀ webhook ∈ webhooks, HasClient webhook := by
  rcases injectAdmission_cases data with ⟨webhooks, hwebhooks⟩ | ⟨hnone, hnothing⟩
  · simp [injectAdmission_of_array hwebhooks, hwebhooks, injectWebhooks_eq_ok]
  · simp [hnothing, hnone]

/-! ### Resource definitions -/

/-- A conversion is changed in the client configuration under its webhook, or in the one beside it
if there is no webhook. -/
theorem injectConversion_eq_ok {conversion : List (String × Json)} :
    injectConversion bundle conversion = .ok changed ↔
      (∃ webhook members, Assoc.get? "webhook" conversion = some (.object webhook) ∧
        setClientBundle? bundle webhook = some members ∧
        changed = Assoc.put "webhook" (.object members) conversion) ∨
      Assoc.get? "webhook" conversion = none ∧ ∃ config,
        Assoc.get? "webhookClientConfig" conversion = some (.object config) ∧
        changed =
          Assoc.put "webhookClientConfig" (.object (setBundle bundle config)) conversion := by
  rw [injectConversion]
  cases hwebhook : Assoc.get? "webhook" conversion with
  | none =>
    cases hconfig : Assoc.get? "webhookClientConfig" conversion with
    | none => simp
    | some config => cases config <;> simp [eq_comm]
  | some webhook =>
    cases webhook with
    | object members => cases hset : setClientBundle? bundle members <;> simp [hset, eq_comm]
    | null | bool | number | string | array => simp

/-- A conversion takes the bundle under its webhook, or in the configuration beside it if there is
none. -/
theorem injectConversion_isOk {conversion : List (String × Json)} :
    (∃ changed, injectConversion bundle conversion = .ok changed) ↔
      (∃ webhook, Assoc.get? "webhook" conversion = some webhook ∧ HasClient webhook) ∨
        Assoc.get? "webhook" conversion = none ∧
          ∃ config, Assoc.get? "webhookClientConfig" conversion = some (.object config) := by
  constructor
  · rintro ⟨changed, h⟩
    rcases injectConversion_eq_ok.1 h with
      ⟨webhook, members, hwebhook, hset, -⟩ | ⟨hnone, config, hconfig, -⟩
    · exact .inl ⟨_, hwebhook, hasClient_of_eq_some hset⟩
    · exact .inr ⟨hnone, config, hconfig⟩
  · rintro (⟨webhook, hwebhook, hclient⟩ | ⟨hnone, config, hconfig⟩)
    · obtain ⟨members, changed, rfl, hset⟩ :=
        (hasClient_cases bundle webhook).resolve_right (not_not_intro hclient)
      exact ⟨_, injectConversion_eq_ok.2 (.inl ⟨members, changed, hwebhook, hset, rfl⟩)⟩
    · exact ⟨_, injectConversion_eq_ok.2 (.inr ⟨hnone, config, hconfig, rfl⟩)⟩

/-- **A conversion that was changed holds the bundle**, under the webhook or beside it. -/
theorem spec_injectConversion {conversion : List (String × Json)}
    (h : injectConversion bundle conversion = .ok changed) :
    (∃ webhook, Assoc.get? "webhook" changed = some webhook ∧ HasClient webhook ∧
      fieldOf webhook "clientConfig" = some bundle) ∨
    Assoc.get? "webhook" changed = none ∧
      (∃ config, Assoc.get? "webhookClientConfig" changed = some (.object config)) ∧
      fieldOf (.object changed) "webhookClientConfig" = some bundle := by
  rcases injectConversion_eq_ok.1 h with
    ⟨webhook, members, -, hset, rfl⟩ | ⟨hnone, config, -, rfl⟩
  · exact .inl ⟨_, Assoc.get?_put_self _ _ _, spec_setClientBundle? hset⟩
  · refine .inr ⟨?_, ⟨_, Assoc.get?_put_self _ _ _⟩, ?_⟩
    · rw [Assoc.get?_put_of_ne (by decide), hnone]
    · rw [fieldOf, Json.get?, Assoc.get?_put_self]
      exact Assoc.get?_put_self _ _ _

section Definitions

variable {data spec : Json} {conversion : List (String × Json)}

/-- A definition with a conversion that takes the bundle is changed in the conversion. -/
theorem injectDefinition_of_ok (hspec : data.get? "spec" = some spec)
    (hconversion : spec.get? "conversion" = some (.object conversion))
    (hchanged : injectConversion bundle conversion = .ok changed) :
    injectDefinition bundle data =
      (data.put "spec" (spec.put "conversion" (.object changed)), .ok ()) := by
  simp only [injectDefinition, hspec, hconversion, hchanged]

/-- Either the conversion of a definition takes the bundle, or nothing is changed. -/
theorem injectDefinition_cases (bundle data : Json) :
    (∃ fault, injectDefinition bundle data = (data, .error fault)) ∨
      ∃ spec conversion changed, data.get? "spec" = some spec ∧
        spec.get? "conversion" = some (.object conversion) ∧
        injectConversion bundle conversion = .ok changed := by
  rw [injectDefinition]
  split
  · next spec hspec =>
    split
    · next conversion hconversion =>
      cases hchanged : injectConversion bundle conversion with
      | error fault => exact .inl ⟨fault, rfl⟩
      | ok changed => exact .inr ⟨spec, conversion, changed, hspec, hconversion, hchanged⟩
    · exact .inl ⟨_, rfl⟩
  · exact .inl ⟨_, rfl⟩

/-- A definition takes the bundle if it has a conversion that does. -/
theorem injectDefinition_eq_ok : (injectDefinition bundle data).2 = .ok () ↔
    ∃ spec conversion, data.get? "spec" = some spec ∧
      spec.get? "conversion" = some (.object conversion) ∧
        ∃ changed, injectConversion bundle conversion = .ok changed := by
  constructor
  · intro h
    rcases injectDefinition_cases bundle data with
      ⟨fault, hfails⟩ | ⟨spec, conversion, changed, hspec, hconversion, hchanged⟩
    · simp [hfails] at h
    · exact ⟨spec, conversion, hspec, hconversion, changed, hchanged⟩
  · rintro ⟨spec, conversion, hspec, hconversion, changed, hchanged⟩
    rw [injectDefinition_of_ok hspec hconversion hchanged]

end Definitions

/-! ### Objects of all kinds -/

/-- **Injection succeeds exactly for data of the shape.** -/
theorem injectData_eq_ok (bundle : Json) {kind : ConsumerKind} {data : Json} :
    (injectData kind bundle data).2 = .ok () ↔ Accepts kind data := by
  cases kind with
  | validating | mutating => exact injectAdmission_eq_ok
  | crdConversion =>
    rw [injectData, injectDefinition_eq_ok, Accepts]
    simp only [injectConversion_isOk]

/-- **After injection all trust fields hold the bundle, and the shape is the same.** -/
theorem spec_injectData {kind : ConsumerKind} {data : Json}
    (h : (injectData kind bundle data).2 = .ok ()) :
    Accepts kind (injectData kind bundle data).1 ∧
      ∀ field ∈ fields kind (injectData kind bundle data).1, field = some bundle := by
  -- both kinds of admission configurations have the same shape
  have hadmission : (injectAdmission bundle data).2 = .ok () →
      Accepts .validating (injectAdmission bundle data).1 ∧
        ∀ field ∈ fields .validating (injectAdmission bundle data).1, field = some bundle := by
    intro h
    obtain ⟨webhooks, hwebhooks, hclients⟩ := injectAdmission_eq_ok.1 h
    have hspec := spec_injectWebhooks ((injectWebhooks_eq_ok bundle 0).2 hclients)
    simp only [injectAdmission_of_array hwebhooks, Accepts, fields, get?_put_self hwebhooks]
    refine ⟨⟨_, rfl, fun webhook hmem ↦ (hspec webhook hmem).1⟩, ?_⟩
    intro field hfield
    obtain ⟨webhook, hmem, rfl⟩ := List.mem_map.1 hfield
    exact (hspec webhook hmem).2
  cases kind with
  | validating | mutating => exact hadmission h
  | crdConversion =>
    obtain ⟨spec, conversion, hspec, hconversion, changed, hchanged⟩ := injectDefinition_eq_ok.1 h
    simp only [injectData, injectDefinition_of_ok hspec hconversion hchanged, Accepts, fields,
      get?_put_self hspec, get?_put_self hconversion, Option.bind_some]
    rcases spec_injectConversion hchanged with
      ⟨webhook, hwebhook, hclient, hfield⟩ | ⟨hwebhook, ⟨config, hconfig⟩, hfield⟩
    · refine ⟨⟨_, changed, rfl, get?_put_self hconversion, .inl ⟨webhook, hwebhook, hclient⟩⟩, ?_⟩
      rw [Json.get?, hwebhook]
      simpa using hfield
    · refine ⟨⟨_, changed, rfl, get?_put_self hconversion, .inr ⟨hwebhook, config, hconfig⟩⟩, ?_⟩
      rw [Json.get?, hwebhook]
      simpa using hfield

/-- A definition with a conversion has one trust field. -/
theorem length_fields_of_conversion {data spec : Json} {conversion : List (String × Json)}
    (hspec : data.get? "spec" = some spec)
    (hconversion : spec.get? "conversion" = some (.object conversion)) :
    (fields .crdConversion data).length = 1 := by
  simp only [fields, hspec, Option.bind_some, hconversion]
  split <;> rfl

/-- **After injection there are as many trust fields as before.** -/
theorem length_fields_injectData {kind : ConsumerKind} {data : Json}
    (h : (injectData kind bundle data).2 = .ok ()) :
    (fields kind (injectData kind bundle data).1).length = (fields kind data).length := by
  have hadmission (h : (injectAdmission bundle data).2 = .ok ()) :
      (fields .validating (injectAdmission bundle data).1).length =
        (fields .validating data).length := by
    obtain ⟨webhooks, hwebhooks, -⟩ := injectAdmission_eq_ok.1 h
    simp only [injectAdmission_of_array hwebhooks, fields, get?_put_self hwebhooks, hwebhooks,
      List.length_map, length_injectWebhooks]
  cases kind with
  | validating | mutating => exact hadmission h
  | crdConversion =>
    obtain ⟨spec, conversion, hspec, hconversion, changed, hchanged⟩ := injectDefinition_eq_ok.1 h
    rw [injectData, injectDefinition_of_ok hspec hconversion hchanged,
      length_fields_of_conversion hspec hconversion]
    exact length_fields_of_conversion (get?_put_self hspec) (get?_put_self hconversion)

/-- **Injection into an object succeeds exactly for data of the shape.** -/
theorem inject_eq_ok {kind : ConsumerKind} {caPem : Bytes} {object : ConsumerObject} :
    (inject kind caPem object).2 = .ok () ↔ Accepts kind object.data := injectData_eq_ok _

end WebhookTrust.Injection
