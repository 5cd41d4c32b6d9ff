import WebhookTrust.Proofs.Base64
import WebhookTrust.Proofs.Paths

/-!
# Injection as an edit

An edit sets a text at some paths, each of which leads to a member of an object; an object that is
missing is made. What stands anywhere after that is determined by what stood there before
(`Json.outlineAfter`). Injection is such an edit: of the trust fields, with the one text that
decodes to the authority's PEM certificate.

* `Injection.at?_injectData`: **after injection every trust path leads to the bundle**, from
  `Injection.spec_injectData`.
* `Injection.outline_injectData`: **injection sets the bundle at the trust paths, and that is all.**
  At a path beyond them nothing is changed (`Injection.agreeExcept_injectData`); on the way to them
  there is an object, which was there or was made.
* `Injection.at?_legacy_injectData`: of the two places for the client configuration of a conversion,
  injection never touches the older one where there is a webhook.
* `Injection.inject_is_edit`: all of it, for objects of every kind, with the shapes for which it
  succeeds.

Outlines say of an object that it is one, and of an array how long it is. The order of the members
of an object is not seen by them.
-/

namespace WebhookTrust

namespace Json

variable {json value : Json} {path : Path} {name : String}

/-- A path in two parts. -/
theorem at?_append (json : Json) (front path : Path) :
    json.at? (front ++ path) = (json.at? front).bind (·.at? path) := by
  induction front generalizing json with
  | nil => rfl
  | cons step front ih =>
    simp only [List.cons_append, at?, Option.bind_assoc]
    exact congrArg _ (funext ih)

/-- Nothing stands in a text. -/
theorem at?_string {text : String} (h : path ≠ []) : (string text).at? path = none := by
  obtain ⟨step, path, rfl⟩ := List.exists_cons_of_ne_nil h
  cases step <;> rfl

/-- A member stands in an object. -/
theorem outline_of_at?_key (h : json.at? (path ++ [.key name]) = some value) :
    (json.at? path).map outline = some (.object []) := by
  rw [at?_append, Option.bind_eq_some_iff] at h
  obtain ⟨parent, hparent, hvalue⟩ := h
  cases parent with
  | object members => rw [hparent, Option.map_some, outline]
  | null | bool | number | string | array => simp [at?, child?, get?] at hvalue

/-- The outline of what stands at a path, after a text was set at some paths. -/
def outlineAfter (targets : List Path) (text : String) (json : Json) (path : Path) : Option Json :=
  if path ∈ targets then some (.string text)
  else if ∃ target ∈ targets, target <+: path then none
  else if ∃ target ∈ targets, path = target.dropLast then some (.object [])
  else (json.at? path).map outline

end Json

namespace Injection

open Json

variable {kind : ConsumerKind} {data : Json} {path target : Path} {text : String}

/-- Every trust path leads to a member by the name of the bundle. -/
theorem exists_of_mem_trustPaths (h : target ∈ trustPaths kind data) :
    ∃ front, target = front ++ [.key "caBundle"] := by
  cases kind with
  | validating | mutating =>
    obtain ⟨position, -, rfl⟩ := List.mem_map.1 h
    exact ⟨[.key "webhooks", .index position, .key "clientConfig"], rfl⟩
  | crdConversion =>
    obtain ⟨conversion, -, rfl⟩ := List.mem_map.1 h
    rw [conversionPath]
    split
    · exact ⟨[.key "spec", .key "conversion", .key "webhook", .key "clientConfig"], rfl⟩
    · exact ⟨[.key "spec", .key "conversion", .key "webhookClientConfig"], rfl⟩

/-- **After injection every trust path leads to the bundle.** -/
theorem at?_injectData {bundle : Json} (h : (injectData kind bundle data).2 = .ok ())
    (htarget : target ∈ trustPaths kind data) :
    (injectData kind bundle data).1.at? target = some bundle := by
  refine (spec_injectData h).2 _ ?_
  rw [fields_eq, trustPaths_injectData]
  exact List.mem_map_of_mem htarget

/-- **Injection sets the bundle at the trust paths**, and that is all. -/
theorem outline_injectData (h : (injectData kind (.string text) data).2 = .ok ()) (path : Path) :
    ((injectData kind (.string text) data).1.at? path).map outline =
      data.outlineAfter (trustPaths kind data) text path := by
  rw [outlineAfter]
  split_ifs with htarget hbeyond hparent
  · rw [at?_injectData h htarget]
    rfl
  · -- beyond a trust path there is nothing any more
    obtain ⟨target, hmem, rest, rfl⟩ := hbeyond
    have hrest : rest ≠ [] := by
      rintro rfl
      exact htarget (by rwa [List.append_nil])
    rw [at?_append, at?_injectData h hmem, Option.bind_some, at?_string hrest, Option.map_none]
  · -- the client configuration, which was there or was made
    obtain ⟨target, hmem, rfl⟩ := hparent
    obtain ⟨front, rfl⟩ := exists_of_mem_trustPaths hmem
    rw [List.dropLast_concat]
    exact outline_of_at?_key (at?_injectData h hmem)
  · refine (agreeExcept_injectData kind (.string text) data path ?_).symm
    rintro ⟨target, hmem, hprefix | ⟨hpath, -⟩⟩
    · exact hbeyond ⟨target, hmem, hprefix⟩
    · exact hparent ⟨target, hmem, hpath⟩

/-! ### Both forms of a conversion -/

/-- The path of a member of the conversion of a resource definition. -/
def conversionMember (name : String) : Path := [.key "spec", .key "conversion", .key name]

/-- A member of the conversion is found by its name. -/
theorem at?_conversionMember {spec : Json} {conversion : List (String × Json)}
    (hspec : data.get? "spec" = some spec)
    (hconversion : spec.get? "conversion" = some (.object conversion)) (name : String) :
    data.at? (conversionMember name) = Assoc.get? name conversion := by
  simp only [conversionMember, at?, child?, hspec, hconversion, Option.bind_some,
    Option.bind_fun_some]
  rfl

/-- A conversion with a webhook keeps the client configuration beside it. -/
theorem get?_legacy_injectConversion {bundle : Json} {conversion changed : List (String × Json)}
    (h : injectConversion bundle conversion = .ok changed)
    (hwebhook : (Assoc.get? "webhook" conversion).isSome) :
    Assoc.get? "webhookClientConfig" changed = Assoc.get? "webhookClientConfig" conversion := by
  rcases injectConversion_eq_ok.1 h with ⟨webhook, members, -, -, rfl⟩ | ⟨hnone, -⟩
  · exact Assoc.get?_put_of_ne (by decide) _ _
  · simp [hnone] at hwebhook

/-- **Where a conversion has a webhook, the client configuration beside it is left alone.** -/
theorem at?_legacy_injectData {bundle : Json}
    (hwebhook : (data.at? (conversionMember "webhook")).isSome) :
    (injectData .crdConversion bundle data).1.at? (conversionMember "webhookClientConfig") =
      data.at? (conversionMember "webhookClientConfig") := by
  rw [injectData]
  rcases injectDefinition_cases bundle data with
    ⟨fault, hfails⟩ | ⟨spec, conversion, changed, hspec, hconversion, hchanged⟩
  · rw [hfails]
  · rw [at?_conversionMember hspec hconversion] at hwebhook ⊢
    rw [injectDefinition_of_ok hspec hconversion hchanged,
      at?_conversionMember (get?_put_self hspec) (get?_put_self hconversion)]
    exact get?_legacy_injectConversion hchanged hwebhook

/-! ### Objects -/

/-- **Injection is exactly an edit of the trust fields.** It succeeds if and only if the object has
the shape for it. Then types and metadata are what they were, and what stands at any path of the
data is what setting the trust fields to one text leaves there; that text alone decodes to the PEM
certificate. A client configuration beside a webhook is left alone. -/
theorem inject_is_edit (kind : ConsumerKind) (caPem : Bytes) (object : ConsumerObject) :
    ((inject kind caPem object).2 = .ok () ↔ Accepts kind object.data) ∧
    ((inject kind caPem object).2 = .ok () →
      (inject kind caPem object).1.types = object.types ∧
      (inject kind caPem object).1.metadata = object.metadata ∧
      ∃ text, (∀ other, Base64.decode (Utf8.ofString other) = .ok caPem ↔ other = text) ∧
        ∀ path, ((inject kind caPem object).1.data.at? path).map outline =
          object.data.outlineAfter (trustPaths kind object.data) text path) ∧
    (kind = .crdConversion → (object.data.at? (conversionMember "webhook")).isSome →
      (inject kind caPem object).1.data.at? (conversionMember "webhookClientConfig") =
        object.data.at? (conversionMember "webhookClientConfig")) := by
  refine ⟨inject_eq_ok, fun h ↦ ⟨rfl, rfl, Base64.encodeString caPem, ?_, ?_⟩, ?_⟩
  · exact fun other ↦ Base64.decode_ofString_eq_ok
  · exact outline_injectData h
  · rintro rfl hwebhook
    exact at?_legacy_injectData hwebhook

/-- A resource definition with both forms, and no client configuration under the webhook. -/
theorem inject_is_edit_both :
    let conversion := Json.object [("webhook", .object [("version", .string "v1")]),
      ("webhookClientConfig", .object [("caBundle", .string "old")])]
    let object : ConsumerObject :=
      ⟨none, .empty, .object [("spec", .object [("conversion", conversion)])]⟩
    let result := inject .crdConversion [0x61] object
    result.2 = .ok () ∧
      (result.1.data.at? (conversionMember "webhook" ++ clientPath)).map outline =
        some (.string "YQ==") ∧
      (result.1.data.at? (conversionMember "webhook" ++ [.key "version"])).map outline =
        some (.string "v1") ∧
      result.1.data.at? (conversionMember "webhookClientConfig") =
        some (.object [("caBundle", .string "old")]) := by
  intro conversion object result
  have hok : result.2 = .ok () := by decide
  obtain ⟨-, hedit, hlegacy⟩ := inject_is_edit .crdConversion [0x61] object
  obtain ⟨-, -, text, htext, houtline⟩ := hedit hok
  obtain rfl : "YQ==" = text := (htext "YQ==").1 (by decide)
  refine ⟨hok, ?_, ?_, ?_⟩
  · exact (houtline _).trans (by decide)
  · exact (houtline _).trans (by decide)
  · exact (hlegacy rfl (by decide)).trans (by decide)

end Injection

end WebhookTrust
