import WebhookTrust.Pki.Material
import WebhookTrust.Proofs.Pem

/-!
# Material in armour

All certificates and keys are read out of PEM blocks. However the data of a block are cut into
lines, whatever text without a dash stands in front and whatever stands behind, the block with the
wanted tag gives its contents, and a block with another tag gives an error that names both tags
(`Material.decodePem_armour`).

It rests on `Pem.read_armour`, which is about the block, and adds what the reader of material does
beside reading it, which is to compare the tag (`Material.decodePem_of_read`). Of several blocks in
a text the first one counts.
-/

namespace WebhookTrust.Material

variable {tag : String} {before : Bytes} {armour : Pem.Armour} {contents : Bytes}

/-- A block is decoded as far as its tag is the wanted one. -/
theorem decodePem_of_read {pem : Bytes} (h : Pem.read pem = .ok ⟨tag, contents⟩) (wanted : String) :
    decodePem pem wanted = if tag = wanted then .ok contents else .error (.tag wanted tag) := by
  simp only [decodePem, h, Except.mapError, Bind.bind, Except.bind]
  rfl

/-- **Decoding undoes all armour.** The data may be cut into lines anywhere, each of which ends in a
line feed or in a carriage return and a line feed; the tag may be any text without a dash, the bytes
in front any without a dash, and the bytes behind any at all. Under the tag of the block its
contents are found, and under every other tag the failure names both. -/
theorem decodePem_armour (behind : Bytes) (hdata : armour.data = Base64.encode contents)
    (hne : tag ≠ "") (htag : '-' ∉ tag.toList) (hbefore : (45 : UInt8) ∉ before) :
    decodePem (before ++ armour.bytes tag ++ behind) tag = .ok contents ∧
      ∀ wanted, wanted ≠ tag →
        decodePem (before ++ armour.bytes tag ++ behind) wanted = .error (.tag wanted tag) ∧
          (PkiError.parse (.tag wanted tag)).kind = .parse ∧
          (PkiError.parse (.tag wanted tag)).message =
            "parse error: " ++ ("expected PEM block '" ++ wanted ++ "', found '" ++ tag ++ "'") := by
  have hdash : (45 : UInt8) ∉ Utf8.ofString tag := fun hmem ↦
    htag (Utf8.mem_toList_of_mem_ofString hmem (by decide))
  have hread : Pem.read (before ++ armour.bytes tag ++ behind) = .ok ⟨tag, contents⟩ :=
    Pem.read_armour hbefore hdash hne hdata
  refine ⟨?_, fun wanted hwanted ↦ ⟨?_, rfl, rfl⟩⟩
  · rw [decodePem_of_read hread, if_pos rfl]
  · rw [decodePem_of_read hread, if_neg hwanted.symm]

/-- A block between other texts, with its data in lines of two, four and two bytes, of which the
second ends as the begin line does. -/
theorem decodePem_armour_uneven :
    let armour : Pem.Armour := ⟨.returnFeed, [⟨Bytes.ofAscii "AQ", .feed, by decide⟩,
      ⟨Bytes.ofAscii "IDBA", .returnFeed, by decide⟩, ⟨Bytes.ofAscii "==", .feed, by decide⟩]⟩
    let pem := Bytes.ofAscii "subject: webhook\n" ++ armour.bytes certificateTag ++
      Bytes.ofAscii "\n-----BEGIN"
    armour.data = Base64.encode [1, 2, 3, 4] ∧ decodePem pem certificateTag = .ok [1, 2, 3, 4] ∧
      decodePem pem rsaKeyTag = .error (.tag rsaKeyTag certificateTag) := by
  intro armour pem
  have hdata : armour.data = Base64.encode [1, 2, 3, 4] := by decide
  obtain ⟨hdecode, hother⟩ := decodePem_armour (Bytes.ofAscii "\n-----BEGIN") hdata
    (show certificateTag ≠ "" by decide) (by decide)
    (show (45 : UInt8) ∉ Bytes.ofAscii "subject: webhook\n" by decide)
  exact ⟨hdata, hdecode, (hother rsaKeyTag (by decide)).1⟩

end WebhookTrust.Material
