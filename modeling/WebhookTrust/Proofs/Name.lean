import WebhookTrust.Proofs.Der
import WebhookTrust.Proofs.Utf8
import WebhookTrust.X509.Template

/-!
# The laws of distinguished names

A name that is written is read back (`Name.read?_encode`), if every relative name has an attribute
and every value a tag of the universal class. All names that are ever written are of this form,
since those of certificates that are made have one string a relative name
(`Name.isWritable_singletons`).

Relative names are read in the order in which they are written. That the attributes of one are a
set, in a canonical order, is not asked: no name that is written has two of them.
-/

namespace WebhookTrust

/-- Does the attribute's value have a tag number that fits an identifier octet? -/
def Attribute.IsWritable (item : Attribute) : Prop := 0 < item.tag ∧ item.tag < 31

/-- Has every relative name an attribute, and can all of them be written? -/
def Name.IsWritable (name : Name) : Prop :=
  ∀ part ∈ name.parts, part ≠ [] ∧ ∀ item ∈ part, item.IsWritable

namespace Name

/-- The identifier octet of a value. -/
theorem toNat_tagOctet {item : Attribute} (h : item.IsWritable) :
    (UInt8.ofNat item.tag).toNat = item.tag := by
  have := h.2
  rw [UInt8.toNat_ofNat']
  omega

/-- An attribute that is written is read back. -/
theorem attribute?_encode {item : Attribute} (h : item.IsWritable)
    (hsize : item.encode.length < Nat.pow 2 64) (rest : Bytes) :
    attribute? (item.encode ++ rest) = some (item, rest) := by
  have htag := toNat_tagOctet h
  have hplain : Der.IsPlain (UInt8.ofNat item.tag) := by
    have := h.1
    have := h.2
    refine ⟨?_, Or.inl ?_⟩ <;> rw [htag] <;> omega
  have hkind : (Der.oid item.kind).length < Nat.pow 2 64 :=
    lt_of_le_of_lt (Der.length_le_sequence (by simp)) hsize
  have hvalue : item.value.length < Nat.pow 2 64 :=
    lt_of_le_of_lt ((Der.length_le_encode (UInt8.ofNat item.tag) _).trans
      (Der.length_le_sequence (by simp))) hsize
  have hoctet : item.tag % 32 = item.tag := Nat.mod_eq_of_lt (by have := h.2; omega)
  rw [attribute?, Attribute.encode, Der.contents?_sequence hsize]
  simp only [List.flatten_cons, List.flatten_nil, Option.bind_eq_bind, Option.bind_some,
    Der.oid?_oid hkind, Der.element?_encode hplain hvalue, Option.pure_def, Der.elementOf, htag,
    hoctet]

/-- So is a relative name. -/
theorem part?_encode {items : List Attribute} (hne : items ≠ [])
    (h : ∀ item ∈ items, item.IsWritable)
    (hsize : (Der.set (items.map Attribute.encode)).length < Nat.pow 2 64) (rest : Bytes) :
    part? (Der.set (items.map Attribute.encode) ++ rest) = some (items, rest) := by
  have hread : ∀ item ∈ items, ∀ rest, attribute? (item.encode ++ rest) = some (item, rest) :=
    fun item hitem ↦ attribute?_encode (h item hitem)
      (lt_of_le_of_lt (Der.length_le_set (List.mem_map_of_mem hitem)) hsize)
  have hmany := Der.many_flatMap id hread rfl fun item _ ↦ Der.encode_ne_nil _ _
  rw [List.map_id] at hmany
  rw [part?, Der.contents?_set hsize, ← List.flatMap_def]
  obtain ⟨item, others, rfl⟩ := List.exists_cons_of_ne_nil hne
  simp only [Option.bind_eq_bind, Option.bind_some, hmany]

/-- **A name that is written is read back.** -/
theorem read?_encode {name : Name} (h : name.IsWritable)
    (hsize : name.encode.length < Nat.pow 2 64) (rest : Bytes) :
    read? (name.encode ++ rest) = some (name, rest) := by
  have hread : ∀ part ∈ name.parts, ∀ rest,
      part? (Der.set (part.map Attribute.encode) ++ rest) = some (part, rest) := by
    intro part hpart
    have hmem : Der.set (part.map Attribute.encode) ∈
        name.parts.map fun attributes ↦ Der.set (attributes.map Attribute.encode) :=
      List.mem_map.2 ⟨part, hpart, rfl⟩
    exact part?_encode (h part hpart).1 (h part hpart).2
      (lt_of_le_of_lt (Der.length_le_sequence hmem) hsize)
  have hmany := Der.many_flatMap id hread rfl fun part _ ↦ Der.encode_ne_nil _ _
  rw [List.map_id] at hmany
  rw [read?, encode, Der.contents?_sequence hsize, ← List.flatMap_def]
  simp only [Option.bind_eq_bind, Option.bind_some, hmany, Option.pure_def]

/-! ### Names of single attributes -/

/-- A name of one attribute a relative name can be written if its attributes can. -/
theorem isWritable_singletons {items : List Attribute} (h : ∀ item ∈ items, item.IsWritable) :
    (⟨items.map fun item ↦ [item]⟩ : Name).IsWritable := by
  intro part hpart
  obtain ⟨item, hitem, rfl⟩ := List.mem_map.1 hpart
  exact ⟨List.cons_ne_nil _ _, by simpa using h item hitem⟩

end Name

end WebhookTrust
