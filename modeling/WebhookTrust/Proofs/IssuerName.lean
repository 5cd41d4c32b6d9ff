import Mathlib.Algebra.Order.BigOperators.Group.List
import WebhookTrust.Proofs.Issuance
import WebhookTrust.Proofs.Reading

/-!
# Names of issuers

The name under which an authority issues is made of the attributes of its subject: of each relative
name the one attribute is taken over as it is, with its kind in shortest form, and of two of one
kind the later one counts.

* `Issuance.isWritable_issuerName`: it can be written.
* `Issuance.length_issuerName_le`: **it is little longer than the subject it is made of.** Each
  attribute is taken over in little more than its own size, and putting one of a kind that is there
  makes the other give way (`Issuance.sum_putAttribute_le`).
* `Issuance.CanIssue.length_encode_le`: **an authority whose text fits memory issues under a name
  that fits a certificate**, so a serving certificate that is made under it reads back.

A subject with a relative name of two attributes, or with a value that cannot be taken over, has no
such name, and its authority cannot issue. That the name prints like the subject is not always so,
and is a hypothesis where it matters.
-/

namespace WebhookTrust

/-! ### Object identifiers -/

namespace Oid

/-- Every arc takes an octet. -/
theorem length_arcsFrom_le (acc : Option Nat) (bytes : Bytes) :
    (arcsFrom acc bytes).length ≤ bytes.length + 1 := by
  induction bytes generalizing acc with
  | nil => cases acc <;> simp [arcsFrom]
  | cons b rest ih =>
    rw [arcsFrom]
    split_ifs
    · exact Nat.succ_le_succ (ih none)
    · exact (ih _).trans (Nat.le_succ _)

/-- So an identifier has few more arcs than octets. -/
theorem length_arcs_le (oid : Oid) : oid.arcs.length ≤ oid.contents.length + 2 := by
  rw [arcs]
  rcases oid.contents with _ | ⟨first, rest⟩
  · simp
  · have hrest := length_arcsFrom_le none rest
    dsimp only
    split_ifs
    · simp
    · simp only [List.length_cons]
      omega

theorem length_continued_le {fuel n digits : Nat} (tail : Bytes) (h : n < 128 ^ digits) :
    (continued fuel n tail).length ≤ tail.length + digits := by
  induction fuel generalizing n digits tail with
  | zero => exact Nat.le_add_right ..
  | succ fuel ih =>
    rw [continued]
    split_ifs with hzero
    · exact Nat.le_add_right ..
    · cases digits with
      | zero => omega
      | succ digits =>
        have hrest := ih (UInt8.ofNat (128 + n % 128) :: tail)
          (Nat.div_lt_of_lt_mul (by rwa [Nat.pow_succ'] at h))
        rw [List.length_cons] at hrest
        omega

theorem length_arcOctets_le {n : Nat} (h : n < 2 ^ 70) : (arcOctets n).length ≤ 10 :=
  length_continued_le [_] (show n / 128 < 128 ^ 9 by omega)

/-- An identifier with small arcs is short. -/
theorem length_contents_ofArcs_le {arcs : List Nat} (h : ∀ arc ∈ arcs, arc < 2 ^ 63) :
    (ofArcs arcs).contents.length ≤ 10 * arcs.length := by
  rcases arcs with _ | ⟨first, _ | ⟨second, rest⟩⟩
  · simp [ofArcs]
  · simp [ofArcs]
  · simp only [List.forall_mem_cons] at h
    obtain ⟨hfirst, hsecond, hrest⟩ := h
    have hhead := length_arcOctets_le (n := first * 40 + second) (by omega)
    have htail : (rest.map fun arc ↦ (arcOctets arc).length).sum ≤ rest.length * 10 := by
      have hbound := List.sum_le_card_nsmul (rest.map fun arc ↦ (arcOctets arc).length) 10
        (by simpa using fun arc harc ↦ length_arcOctets_le ((hrest arc harc).trans (by omega)))
      simpa using hbound
    simp only [ofArcs, List.length_append, List.length_flatMap, List.length_cons]
    omega

end Oid

/-! ### Names of issuers -/

namespace Issuance

variable {subject issuer : Name} {ca : KeyPair}

/-- Which attribute is taken over, and when. -/
theorem soleAttribute?_eq_some {part : List Attribute} {item : Attribute} :
    soleAttribute? part = some item ↔ ∃ source, part = [source] ∧ isNameValue source = true ∧
      (∀ arc ∈ source.kind.arcs, arc < 2 ^ 63) ∧
      item = { source with kind := .ofArcs source.kind.arcs } := by
  rcases part with _ | ⟨first, _ | ⟨second, more⟩⟩
  · simp [soleAttribute?]
  · simp only [soleAttribute?, Option.ite_none_right_eq_some, Option.some.injEq, List.all_eq_true,
      decide_eq_true_eq, List.cons.injEq, and_true, exists_eq_left', and_assoc]
    exact and_congr_right fun _ ↦ and_congr_right fun _ ↦ eq_comm
  · simp [soleAttribute?]

/-- What is taken over can be written, and is little longer than what it is taken from. -/
theorem isWritable_of_soleAttribute? {part : List Attribute} {item : Attribute}
    (h : soleAttribute? part = some item) : item.IsWritable := by
  obtain ⟨source, -, hvalue, -, rfl⟩ := soleAttribute?_eq_some.1 h
  rw [isNameValue] at hvalue
  unfold Attribute.IsWritable
  split_ifs at hvalue <;> simp_all

/-- A relative name that is taken over is little longer than it was. -/
theorem length_set_of_soleAttribute? {part : List Attribute} {item : Attribute}
    (h : soleAttribute? part = some item) (hfits : (part.map Attribute.size).sum ≤ 2 ^ 58) :
    (Der.set [item.encode]).length ≤ 10 * (part.map Attribute.size).sum := by
  obtain ⟨source, rfl, -, harcs, rfl⟩ := soleAttribute?_eq_some.1 h
  have hcontents := Oid.length_contents_ofArcs_le harcs
  have hcount := Oid.length_arcs_le source.kind
  simp only [List.map_cons, List.map_nil, List.sum_cons, List.sum_nil, Attribute.size] at hfits ⊢
  have hkind := Der.length_encode_le_of_le 0x06 (n := 10 * (source.kind.contents.length + 2))
    (hcontents.trans (by omega)) (by omega)
  have hvalue := Der.length_encode_le_of_le (UInt8.ofNat source.tag) (le_refl source.value.length)
    (by omega)
  refine (Der.length_set_le (n := 10 * (source.kind.contents.length + 2) + source.value.length + 30)
    ?_ (by omega)).trans (by omega)
  simp only [List.map_cons, List.map_nil, List.sum_cons, List.sum_nil]
  refine Nat.add_le_add_right (Der.length_sequence_le
    (n := 10 * (source.kind.contents.length + 2) + source.value.length + 20) ?_ (by omega)) 0
  simp only [List.map_cons, List.map_nil, List.sum_cons, List.sum_nil, Der.oid]
  omega

/-! ### Attributes of different kinds -/

variable {items others : List Attribute} {item : Attribute}

/-- Are the attributes of different kinds? -/
def HaveDifferentKinds (items : List Attribute) : Prop := (items.map Attribute.kind).Nodup

/-- Putting an attribute leaves one of each kind. -/
theorem HaveDifferentKinds.putAttribute (item : Attribute) (h : HaveDifferentKinds items) :
    HaveDifferentKinds (putAttribute items item) := by
  rw [Issuance.putAttribute]
  split_ifs with hany
  · have hkinds : (items.map fun other ↦ if other.kind = item.kind then item else other).map
        Attribute.kind = items.map Attribute.kind := by
      rw [List.map_map]
      refine List.map_congr_left fun other _ ↦ ?_
      rw [Function.comp_apply]
      split_ifs with hkind
      · exact hkind.symm
      · rfl
    rwa [HaveDifferentKinds, hkinds]
  · rw [HaveDifferentKinds, List.map_append, List.map_singleton, List.nodup_append]
    refine ⟨h, List.nodup_singleton _, ?_⟩
    simpa using hany

/-- At most one attribute gives way to the one that is put. -/
theorem sum_putAttribute_le (weight : Attribute → Nat) (item : Attribute)
    (h : HaveDifferentKinds items) :
    ((putAttribute items item).map weight).sum ≤ (items.map weight).sum + weight item := by
  rw [putAttribute]
  split_ifs with hany
  · induction items with
    | nil => simp
    | cons other items ih =>
      obtain ⟨hother, hitems⟩ := List.nodup_cons.1 h
      rw [List.map_cons]
      split_ifs with hkind
      -- kinds are different, so no other attribute gives way
      · have hrest : (items.map fun other ↦ if other.kind = item.kind then item else other) =
            items := by
          refine (List.map_congr_left fun rest hrest ↦ if_neg fun heq ↦ hother ?_).trans
            (List.map_id' items)
          exact List.mem_map.2 ⟨rest, hrest, heq.trans hkind.symm⟩
        rw [hrest]
        simp only [List.map_cons, List.sum_cons]
        omega
      · have hrest := ih hitems (by simpa [hkind] using hany)
        simp only [List.map_cons, List.sum_cons]
        omega
  · simp

/-- Putting several attributes adds no more than they weigh. -/
theorem sum_foldl_putAttribute_le (weight : Attribute → Nat) (items : List Attribute)
    (h : HaveDifferentKinds others) :
    ((items.foldl putAttribute others).map weight).sum ≤
      (others.map weight).sum + (items.map weight).sum := by
  induction items generalizing others with
  | nil => simp
  | cons item items ih =>
    have hrest := ih (h.putAttribute item)
    have hput := sum_putAttribute_le weight item h
    rw [List.foldl_cons, List.map_cons, List.sum_cons]
    omega

/-- What is true of all attributes is true after putting them. -/
theorem forall_mem_foldl_putAttribute {P : Attribute → Prop} (hitems : ∀ item ∈ items, P item)
    (hothers : ∀ item ∈ others, P item) : ∀ item ∈ items.foldl putAttribute others, P item := by
  induction items generalizing others with
  | nil => exact hothers
  | cons item items ih =>
    rw [List.forall_mem_cons] at hitems
    refine ih hitems.2 fun other hother ↦ ?_
    rw [putAttribute] at hother
    split_ifs at hother
    · obtain ⟨old, hold, rfl⟩ := List.mem_map.1 hother
      split_ifs
      · exact hitems.1
      · exact hothers old hold
    · rcases List.mem_append.1 hother with hold | hnew
      · exact hothers other hold
      · rw [List.mem_singleton.1 hnew]
        exact hitems.1

/-! ### The name as a whole -/

/-- What a map over all items gives, item by item. -/
theorem forall₂_of_mapM {α β : Type} {f : α → Option β} {sources : List α} {results : List β}
    (h : sources.mapM f = some results) :
    List.Forall₂ (fun source result ↦ f source = some result) sources results := by
  induction sources generalizing results with
  | nil =>
    obtain rfl : [] = results := by simpa using h
    exact .nil
  | cons source sources ih =>
    rw [List.mapM_cons] at h
    obtain ⟨first, hfirst, hrest⟩ := Option.bind_eq_some_iff.1 h
    obtain ⟨others, hothers, hlast⟩ := Option.bind_eq_some_iff.1 hrest
    obtain rfl := Option.some.inj hlast
    exact .cons hfirst (ih hothers)

/-- A name that certificates are issued under can be written. -/
theorem isWritable_issuerName (h : issuerName? subject = some issuer) : issuer.IsWritable := by
  obtain ⟨items, hitems, rfl⟩ := Option.map_eq_some_iff.1 h
  refine Name.isWritable_singletons (forall_mem_foldl_putAttribute ?_ (by simp))
  have hsole := forall₂_of_mapM hitems
  generalize subject.parts = parts at hsole
  clear h hitems
  induction hsole with
  | nil => simp
  | cons hitem _ ih => exact List.forall_mem_cons.2 ⟨isWritable_of_soleAttribute? hitem, ih⟩

/-- **A name that certificates are issued under is little longer than the subject it is made of.**
-/
theorem length_issuerName_le (h : issuerName? subject = some issuer)
    (hfits : subject.size ≤ 2 ^ 58) : issuer.encode.length ≤ 10 * subject.size + 10 := by
  obtain ⟨items, hitems, rfl⟩ := Option.map_eq_some_iff.1 h
  -- attributes that give way only make the name shorter
  have hput := sum_foldl_putAttribute_le (fun item ↦ (Der.set [item.encode]).length) items
    (show HaveDifferentKinds [] from List.nodup_nil)
  have hsole : (items.map fun item ↦ (Der.set [item.encode]).length).sum ≤ 10 * subject.size := by
    rw [Name.size] at hfits ⊢
    have hsole := forall₂_of_mapM hitems
    generalize subject.parts = parts at hfits hsole
    clear h hitems hput
    induction hsole with
    | nil => simp
    | @cons part item parts items hitem _ ih =>
      simp only [List.map_cons, List.sum_cons] at hfits ih ⊢
      have hfirst := length_set_of_soleAttribute? hitem (by omega)
      have hrest := ih (by omega)
      omega
  refine Der.length_sequence_le ?_ (by omega)
  simpa [Function.comp_def] using hput.trans (by simpa using hsole)

/-- Whose subject an authority issues under. -/
theorem CanIssue.exists_certificate (h : CanIssue ca issuer) :
    ∃ block cert, Pem.read ca.certPem = .ok block ∧ Certificate.read? block.contents = some cert ∧
      issuerName? cert.subject = some issuer := by
  obtain ⟨block, hblock, hrest⟩ := Option.bind_eq_some_iff.1 h.2.2
  obtain ⟨cert, hcert, hrest⟩ := Option.bind_eq_some_iff.1 hrest
  obtain ⟨usages, -, hname⟩ := Option.bind_eq_some_iff.1 hrest
  cases hread : Pem.read ca.certPem with
  | error e => simp [hread, Except.toOption] at hblock
  | ok other =>
    obtain rfl : other = block := by simpa [hread, Except.toOption] using hblock
    exact ⟨other, cert, rfl, hcert, hname⟩

theorem CanIssue.isWritable (h : CanIssue ca issuer) : issuer.IsWritable := by
  obtain ⟨block, cert, -, -, hname⟩ := h.exists_certificate
  exact isWritable_issuerName hname

/-- **An authority whose text fits memory issues under a name that fits a certificate.** -/
theorem CanIssue.length_encode_le (h : CanIssue ca issuer) (hfits : ca.certPem.length ≤ 2 ^ 56) :
    issuer.encode.length ≤ 2 ^ 62 := by
  obtain ⟨block, cert, hblock, hcert, hname⟩ := h.exists_certificate
  have hcontents := Pem.length_contents_le hblock
  have hsubject := Certificate.size_subject_le hcert
  have hlength := length_issuerName_le hname (by omega)
  omega

end Issuance

end WebhookTrust
