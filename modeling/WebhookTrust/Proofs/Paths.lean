import Mathlib.Data.List.Basic
import WebhookTrust.Proofs.Injection

/-!
# Where injection changes an object

A path leads from a JSON value to one that stands in it, and values agree at a path if both have
nothing there or the same apart from what stands further in. Values that agree at all paths differ
in the order of members at most, so a change is told by the paths at which values may differ
(`Json.AgreeExcept`).

* `Json.agreeExcept_of_children`: **values agree if they look the same and agree at every step
  further in.** With it a change of a member or an item is one in the whole (`Json.agreeExcept_put`,
  `Json.agreeExcept_array`), and the paths grow by a step (`Json.Beyond`).
* `Injection.agreeExcept_injectData`: **injection leaves everything as it is** but what the paths of
  the trust fields lead to, and client configurations that were not there (`Injection.MayChange`).
  This holds of injections that fail as well.
* `Injection.fields_eq`, `Injection.trustPaths_injectData`: the trust fields are what the trust
  paths lead to, and are where they were afterwards.

What the trust fields hold is said in `WebhookTrust.Proofs.Injection`; both together determine the
object up to the order of members (`WebhookTrust.Proofs.Edits`).
-/

namespace WebhookTrust

namespace Json

/-! ### Paths -/

/-- One step into a value: to the member of a key, or to the item at an index. -/
inductive Step where
  | key (name : String)
  | index (position : Nat)
deriving DecidableEq, Repr

/-- A path into a value. -/
abbrev Path : Type := List Step

/-- What is one step further in. -/
def child? (json : Json) : Step → Option Json
  | .key name => json.get? name
  | .index position => json.array?.bind (·[position]?)

/-- What a path leads to. -/
def at? (json : Json) : Path → Option Json
  | [] => some json
  | step :: path => (json.child? step).bind (·.at? path)

/-- The value without what stands in it: of an array, the number of items is left. -/
def outline : Json → Json
  | array items => array (items.map fun _ ↦ null)
  | object _ => object []
  | value => value

/-! ### Agreement -/

/-- Do the values agree at all paths except some? Either may be missing. -/
def AgreeExcept (except : Path → Prop) (old new : Option Json) : Prop :=
  ∀ path, ¬ except path →
    (old.bind (·.at? path)).map outline = (new.bind (·.at? path)).map outline

/-- The paths that go on after a step. -/
def Beyond (step : Step) (paths : Path → Prop) (path : Path) : Prop :=
  ∃ rest, path = step :: rest ∧ paths rest

variable {except except' : Path → Prop} {old new : Option Json} {json : Json} {key : String}

@[simp] theorem AgreeExcept.refl (except : Path → Prop) (value : Option Json) :
    AgreeExcept except value value := fun _ _ ↦ rfl

theorem AgreeExcept.mono (h : AgreeExcept except old new)
    (hexcept : ∀ path, except path → except' path) : AgreeExcept except' old new :=
  fun path hpath ↦ h path fun hother ↦ hpath (hexcept path hother)

/-- **Values agree if they look the same and agree at every step further in.** -/
theorem agreeExcept_of_children {old new : Json} (houtline : old.outline = new.outline)
    (hchildren : ∀ step,
      AgreeExcept (fun path ↦ except (step :: path)) (old.child? step) (new.child? step)) :
    AgreeExcept except (some old) (some new) := by
  intro path hpath
  cases path with
  | nil => exact congrArg some houtline
  | cons step path => exact hchildren step path hpath

/-- Setting a member of an object changes what stands there. -/
theorem agreeExcept_put {members : List (String × Json)} {value : Json}
    (h : AgreeExcept except (Assoc.get? key members) (some value)) :
    AgreeExcept (Beyond (.key key) except) (some (.object members))
      (some (.object (Assoc.put key value members))) := by
  refine agreeExcept_of_children rfl fun step ↦ ?_
  cases step with
  | index position => exact .refl _ _
  | key other =>
    simp only [child?, get?]
    by_cases hkey : other = key
    · rw [hkey, Assoc.get?_put_self]
      exact h.mono fun path hpath ↦ ⟨path, rfl, hpath⟩
    · rw [Assoc.get?_put_of_ne hkey]
      exact .refl _ _

/-- Setting a member that is there changes what stands in it. -/
theorem agreeExcept_jsonPut {value value' : Json} (hget : json.get? key = some value)
    (h : AgreeExcept except (some value) (some value')) :
    AgreeExcept (Beyond (.key key) except) (some json) (some (json.put key value')) := by
  cases json with
  | object members =>
    rw [get?] at hget
    exact agreeExcept_put (hget ▸ h)
  | null | bool | number | string | array => simp [get?] at hget

/-- Arrays of one length agree where their items do. -/
theorem agreeExcept_array {items items' : List Json} (hlength : items.length = items'.length)
    (h : ∀ position, AgreeExcept (fun path ↦ except (.index position :: path)) items[position]?
      items'[position]?) :
    AgreeExcept except (some (.array items)) (some (.array items')) := by
  refine agreeExcept_of_children ?_ fun step ↦ ?_
  · simp [outline, List.map_const', hlength]
  · cases step with
    | key name => exact .refl _ _
    | index position => exact h position

end Json

/-! ### Maps -/

/-- Of two values that are set for a key, the second counts. -/
theorem Assoc.put_put {κ α : Type} [DecidableEq κ] (key : κ) (value value' : α)
    (pairs : List (κ × α)) :
    Assoc.put key value' (Assoc.put key value pairs) = Assoc.put key value' pairs := by
  induction pairs with
  | nil => simp [put]
  | cons pair rest ih => by_cases h : pair.1 = key <;> simp [put, h, ih]

theorem Json.put_put (json : Json) (key : String) (value value' : Json) :
    (json.put key value).put key value' = json.put key value' := by
  cases json with
  | object members => exact congrArg Json.object (Assoc.put_put key value value' members)
  | null | bool | number | string | array => rfl

namespace Injection

open Json

/-! ### Trust paths -/

/-- The path of the trust field of what has a client configuration. -/
def clientPath : Path := [.key "clientConfig", .key "caBundle"]

/-- The path of the trust field of a conversion. -/
def conversionPath (conversion : Json) : Path :=
  if (conversion.get? "webhook").isSome then .key "webhook" :: clientPath
  else [.key "webhookClientConfig", .key "caBundle"]

/-- The paths of the trust fields of the data of an object of the kind. -/
def trustPaths (kind : ConsumerKind) (data : Json) : List Path :=
  match kind with
  | .validating | .mutating =>
    let webhooks : List Json := ((data.get? "webhooks").bind Json.array?).getD []
    (List.range webhooks.length).map fun position ↦
      .key "webhooks" :: .index position :: clientPath
  | .crdConversion =>
    ((data.get? "spec").bind (·.get? "conversion")).toList.map fun conversion ↦
      .key "spec" :: .key "conversion" :: conversionPath conversion

/-- The paths at which injection may change what it is given: what trust paths lead to, and what
would have to be there for them to lead further. -/
def MayChange (trust : List Path) (old : Option Json) (path : Path) : Prop :=
  ∃ field ∈ trust, field <+: path ∨ path = field.dropLast ∧ old.bind (·.at? path) = none

variable {bundle : Json} {members changed : List (String × Json)}

/-- What may change further in may change in the whole. -/
theorem MayChange.beyond {trust outer : List Path} {json value : Json} {step : Step} {path : Path}
    (h : MayChange trust (some value) path) (hstep : json.child? step = some value)
    (houter : ∀ field ∈ trust, field ≠ [] ∧ step :: field ∈ outer) :
    MayChange outer (some json) (step :: path) := by
  obtain ⟨field, hfield, hpath⟩ := h
  obtain ⟨hnil, hmem⟩ := houter field hfield
  refine ⟨step :: field, hmem, ?_⟩
  rcases hpath with hprefix | ⟨rfl, hnone⟩
  · exact .inl (List.cons_prefix_cons.2 ⟨rfl, hprefix⟩)
  · refine .inr ⟨(List.dropLast_cons_of_ne_nil hnil).symm, ?_⟩
    simpa [at?, hstep] using hnone

/-! ### What is changed -/

theorem agreeExcept_setBundle (config : List (String × Json)) :
    AgreeExcept (Beyond (.key "caBundle") fun _ ↦ True) (some (.object config))
      (some (.object (setBundle bundle config))) :=
  agreeExcept_put fun _ hpath ↦ (hpath trivial).elim

/-- A client configuration is changed in its trust field, or made. -/
theorem agreeExcept_setClientBundle? (h : setClientBundle? bundle members = some changed) :
    AgreeExcept (MayChange [clientPath] (some (.object members))) (some (.object members))
      (some (.object changed)) := by
  obtain ⟨config, hconfig | ⟨hnone, rfl⟩, rfl⟩ := setClientBundle?_eq_some.1 h
  · refine (agreeExcept_put (hconfig ▸ agreeExcept_setBundle config)).mono ?_
    rintro _ ⟨_, rfl, rest, rfl, -⟩
    exact ⟨clientPath, by simp, .inl ⟨rest, rfl⟩⟩
  · -- everything under the client configuration is new, and there was nothing at all
    have hmade : AgreeExcept (fun path ↦ path = [] ∨ [.key "caBundle"] <+: path)
        (Assoc.get? "clientConfig" members) (some (.object (setBundle bundle []))) := by
      intro path hpath
      rw [not_or] at hpath
      rw [hnone]
      cases path with
      | nil => exact (hpath.1 rfl).elim
      | cons step path =>
        cases step with
        | index position => rfl
        | key name =>
          have hname : name ≠ "caBundle" := fun hname ↦ hpath.2 (hname ▸ ⟨path, rfl⟩)
          simp [at?, child?, get?, setBundle, Assoc.put, Assoc.get?, hname.symm]
    refine (agreeExcept_put hmade).mono ?_
    rintro _ ⟨rest, rfl, rfl | hprefix⟩
    · exact ⟨clientPath, by simp, .inr ⟨rfl, by simp [at?, child?, get?, hnone]⟩⟩
    · exact ⟨clientPath, by simp, .inl (List.cons_prefix_cons.2 ⟨rfl, hprefix⟩)⟩

/-- **In every webhook only the client configuration is changed.** -/
theorem agreeExcept_injectWebhooks (bundle : Json) (index : Nat) {webhooks : List Json}
    {position : Nat} {webhook : Json} (hwebhook : webhooks[position]? = some webhook) :
    AgreeExcept (MayChange [clientPath] (some webhook)) (some webhook)
      (injectWebhooks bundle index webhooks).1[position]? := by
  induction webhooks generalizing index position with
  | nil => simp at hwebhook
  | cons first rest ih =>
    -- the first webhook is changed, or nothing is
    rcases hasClient_cases bundle first with ⟨members, changed, rfl, hset⟩ | hnot
    · rw [injectWebhooks_cons_of_some hset]
      cases position with
      | zero =>
        obtain rfl := Option.some.inj hwebhook
        exact agreeExcept_setClientBundle? hset
      | succ position => exact ih (index + 1) hwebhook
    · rw [injectWebhooks_cons_of_not hnot, hwebhook]
      exact .refl _ _

/-- **In an admission configuration only the client configurations of webhooks are changed.** -/
theorem agreeExcept_injectAdmission (bundle data : Json) :
    AgreeExcept (MayChange (trustPaths .validating data) (some data)) (some data)
      (some (injectAdmission bundle data).1) := by
  rcases injectAdmission_cases data with ⟨webhooks, hwebhooks⟩ | ⟨-, hnothing⟩
  · have hitems : AgreeExcept (MayChange ((List.range webhooks.length).map fun position ↦
        .index position :: clientPath) (some (.array webhooks))) (some (.array webhooks))
        (some (.array (injectWebhooks bundle 0 webhooks).1)) := by
      refine agreeExcept_array (length_injectWebhooks bundle 0 webhooks).symm fun position ↦ ?_
      cases hwebhook : webhooks[position]? with
      | none =>
        have hnone : (injectWebhooks bundle 0 webhooks).1[position]? = none := by
          rw [List.getElem?_eq_none_iff] at hwebhook ⊢
          rwa [length_injectWebhooks]
        exact hnone ▸ .refl _ _
      | some webhook =>
        have hposition := (List.getElem?_eq_some_iff.1 hwebhook).1
        refine (agreeExcept_injectWebhooks bundle 0 hwebhook).mono fun path hpath ↦ ?_
        exact hpath.beyond hwebhook (by simpa [clientPath] using hposition)
    rw [injectAdmission_of_array hwebhooks]
    refine (agreeExcept_jsonPut hwebhooks hitems).mono ?_
    rintro _ ⟨path, rfl, hpath⟩
    exact hpath.beyond hwebhooks (by simp [trustPaths, hwebhooks, array?])
  · rw [hnothing]
    exact .refl _ _

/-- **In a conversion only the client configuration is changed**, under the webhook or beside it. -/
theorem agreeExcept_injectConversion {conversion : List (String × Json)}
    (h : injectConversion bundle conversion = .ok changed) :
    AgreeExcept (MayChange [conversionPath (.object conversion)] (some (.object conversion)))
      (some (.object conversion)) (some (.object changed)) := by
  rcases injectConversion_eq_ok.1 h with
    ⟨webhook, members, hwebhook, hset, rfl⟩ | ⟨hnone, config, hconfig, rfl⟩
  · have hpath : conversionPath (.object conversion) = .key "webhook" :: clientPath := by
      simp [conversionPath, Json.get?, hwebhook]
    have hclient := agreeExcept_setClientBundle? hset
    rw [← hwebhook] at hclient
    refine (agreeExcept_put hclient).mono ?_
    rw [hwebhook]
    rintro _ ⟨path, rfl, hchange⟩
    exact hchange.beyond hwebhook (by simp [hpath, clientPath])
  · have hpath : conversionPath (.object conversion) =
        [.key "webhookClientConfig", .key "caBundle"] := by
      simp [conversionPath, Json.get?, hnone]
    refine (agreeExcept_put (hconfig ▸ agreeExcept_setBundle config)).mono ?_
    rintro _ ⟨_, rfl, path, rfl, -⟩
    exact ⟨_, List.mem_singleton.2 rfl, .inl (hpath ▸ ⟨path, rfl⟩)⟩

/-- **In a resource definition only the conversion is changed.** -/
theorem agreeExcept_injectDefinition (bundle data : Json) :
    AgreeExcept (MayChange (trustPaths .crdConversion data) (some data)) (some data)
      (some (injectDefinition bundle data).1) := by
  rcases injectDefinition_cases bundle data with
    ⟨fault, hfails⟩ | ⟨spec, conversion, changed, hspec, hconversion, hchanged⟩
  · rw [hfails]
    exact .refl _ _
  · rw [injectDefinition_of_ok hspec hconversion hchanged]
    refine (agreeExcept_jsonPut hspec (agreeExcept_jsonPut hconversion
      (agreeExcept_injectConversion hchanged))).mono ?_
    rintro _ ⟨_, rfl, path, rfl, hchange⟩
    have hnil : conversionPath (.object conversion) ≠ [] := by
      rw [conversionPath]
      split <;> simp
    have hinner : MayChange [.key "conversion" :: conversionPath (.object conversion)]
        (some spec) (.key "conversion" :: path) :=
      hchange.beyond hconversion (by simp [hnil])
    exact hinner.beyond hspec (by simp [trustPaths, hspec, hconversion])

/-- **Injection changes nothing but the trust fields and client configurations that it makes.** -/
theorem agreeExcept_injectData (kind : ConsumerKind) (bundle data : Json) :
    AgreeExcept (MayChange (trustPaths kind data) (some data)) (some data)
      (some (injectData kind bundle data).1) := by
  cases kind with
  | validating | mutating => exact agreeExcept_injectAdmission bundle data
  | crdConversion => exact agreeExcept_injectDefinition bundle data

/-! ### What is where -/

/-- The trust fields are what the trust paths lead to. -/
theorem fields_eq (kind : ConsumerKind) (data : Json) :
    fields kind data = (trustPaths kind data).map data.at? := by
  have hadmission : fields .validating data = (trustPaths .validating data).map data.at? := by
    simp only [fields, trustPaths]
    split
    · next webhooks hwebhooks =>
      refine List.ext_getElem (by simp [hwebhooks, array?]) fun position h _ ↦ ?_
      rw [List.length_map] at h
      simp [at?, child?, hwebhooks, clientPath, fieldOf, array?, h]
    · next hother =>
      cases hwebhooks : data.get? "webhooks" with
      | none => rfl
      | some value =>
        cases value with
        | array webhooks => exact (hother webhooks hwebhooks).elim
        | null | bool | number | string | object => rfl
  cases kind with
  | validating | mutating => exact hadmission
  | crdConversion =>
    simp only [fields, trustPaths]
    cases hspec : data.get? "spec" with
    | none => rfl
    | some spec =>
      cases hconversion : spec.get? "conversion" with
      | none => simp [hconversion]
      | some conversion =>
        cases hwebhook : conversion.get? "webhook" <;>
          simp [at?, child?, hspec, hconversion, hwebhook, conversionPath, clientPath, fieldOf]

/-- The trust field of a conversion is where it was. -/
theorem conversionPath_injectConversion {conversion : List (String × Json)}
    (h : injectConversion bundle conversion = .ok changed) :
    conversionPath (.object changed) = conversionPath (.object conversion) := by
  rcases injectConversion_eq_ok.1 h with
    ⟨webhook, members, hwebhook, -, rfl⟩ | ⟨hnone, config, -, rfl⟩
  · simp [conversionPath, Json.get?, hwebhook]
  · have hne : "webhook" ≠ "webhookClientConfig" := by decide
    simp [conversionPath, Json.get?, Assoc.get?_put_of_ne hne, hnone]

/-- After injection the trust fields are where they were. -/
theorem trustPaths_injectData (kind : ConsumerKind) (bundle data : Json) :
    trustPaths kind (injectData kind bundle data).1 = trustPaths kind data := by
  have hadmission : trustPaths .validating (injectAdmission bundle data).1 =
      trustPaths .validating data := by
    rcases injectAdmission_cases data with ⟨webhooks, hwebhooks⟩ | ⟨-, hnothing⟩
    · rw [injectAdmission_of_array hwebhooks]
      simp [trustPaths, hwebhooks, get?_put_self hwebhooks, array?, length_injectWebhooks]
    · rw [hnothing]
  cases kind with
  | validating | mutating => exact hadmission
  | crdConversion =>
    rw [injectData]
    rcases injectDefinition_cases bundle data with
      ⟨fault, hfails⟩ | ⟨spec, conversion, changed, hspec, hconversion, hchanged⟩
    · rw [hfails]
    · rw [injectDefinition_of_ok hspec hconversion hchanged]
      simp [trustPaths, hspec, hconversion, get?_put_self hspec, get?_put_self hconversion,
        conversionPath_injectConversion hchanged]

end Injection

end WebhookTrust
