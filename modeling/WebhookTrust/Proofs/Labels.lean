import Mathlib.Data.List.Forall2
import Mathlib.Tactic.SplitIfs
import WebhookTrust.Pki.Validation

/-!
# DNS names label by label

A name is matched as a text: the asterisk and the dot are taken off the front of a pattern, the name
is cut at its first dot, and what remains is compared. Seen as labels (`DnsName.labels`) the two
have to be equally many and agree one by one, where the asterisk stands for any one label that is
not empty (`DnsName.LabelsAgree`).

## The theorems, and what each rests on

* `intercalate_splitAtMarks`, `splitAtMarks_injective`: splitting loses nothing, so a comparison of
  texts is one of labels.
* `DnsName.sameLetters_iff_forall₂`: **texts are the same up to case exactly if their labels are.**
  It rests on the dot being no letter, so that splitting goes before or after lowering.
* `DnsName.matchesTrimmed_iff`: **texts without dots at the end match exactly if their labels
  agree**, by whether the pattern begins with an asterisk and a dot.
* `DnsName.LabelsAgree.congr`: labels agree as others do that are the same up to case, so neither
  the case of letters nor the dots at the end matter to either view.
* `DnsName.isMatch_iff_labelsAgree`: all of it, for any two texts.

Names are texts of any characters here, and only ASCII letters have a case. Labels may be empty
within a name, and an asterisk stands for no such label.
-/

namespace WebhookTrust

/-! ### Letters -/

/-- Lowering moves the capital letters of ASCII. -/
theorem toNat_toLower (c : Char) : c.toLower.toNat =
    if 65 ≤ c.toNat ∧ c.toNat ≤ 90 then c.toNat + 32 else c.toNat := by
  have hcase : (c.val ≥ 'A'.val ∧ c.val ≤ 'Z'.val) ↔ 65 ≤ c.toNat ∧ c.toNat ≤ 90 :=
    and_congr UInt32.le_iff_toNat_le UInt32.le_iff_toNat_le
  by_cases h : c.val ≥ 'A'.val ∧ c.val ≤ 'Z'.val
  · have hlower : c.toLower.toNat = (c.val + ('a'.val - 'A'.val)).toNat :=
      congrArg Char.toNat (dif_pos h)
    have hsum : (c.val + ('a'.val - 'A'.val)).toNat = (c.toNat + 32) % 2 ^ 32 :=
      UInt32.toNat_add _ _
    have hupper := hcase.1 h
    rw [hlower, hsum, if_pos hupper]
    exact Nat.mod_eq_of_lt (by omega)
  · have hlower : c.toLower = c := dif_neg h
    rw [hlower, if_neg fun hupper ↦ h (hcase.2 hupper)]

/-- What comes before all letters is the lower case of nothing else. -/
theorem toLower_eq_iff {c d : Char} (hd : d.toNat < 65) : c.toLower = d ↔ c = d := by
  rw [← Char.toNat_inj, ← Char.toNat_inj, toNat_toLower]
  split_ifs <;> omega

/-! ### Splitting -/

/-- Splitting at a mark is that of the library. -/
theorem splitAtMarks_eq_splitOn (mark : Char) (text : List Char) :
    splitAtMarks mark text = text.splitOn mark := by
  induction text with
  | nil => simp [splitAtMarks]
  | cons c rest ih =>
    have hne := List.splitOn_ne_nil mark rest
    rw [splitAtMarks, List.splitOn_eq_splitOnP, List.splitOnP_cons_eq_if_modifyHead,
      ← List.splitOn_eq_splitOnP, ih]
    simp only [beq_iff_eq]
    split_ifs with hc
    · rfl
    · cases hsplit : rest.splitOn mark with
      | nil => exact absurd hsplit hne
      | cons part parts => rfl

theorem splitAtMarks_ne_nil (mark : Char) (text : List Char) : splitAtMarks mark text ≠ [] :=
  splitAtMarks_eq_splitOn mark text ▸ List.splitOn_ne_nil mark text

/-- Joining the parts undoes the split. -/
theorem intercalate_splitAtMarks (mark : Char) (text : List Char) :
    [mark].intercalate (splitAtMarks mark text) = text := by
  rw [splitAtMarks_eq_splitOn, List.intercalate_splitOn]

theorem splitAtMarks_injective (mark : Char) : Function.Injective (splitAtMarks mark) :=
  Function.LeftInverse.injective (intercalate_splitAtMarks mark)

/-- Text that cannot be cut is one part. -/
theorem splitAtMarks_of_cutAt?_none {mark : Char} {text : List Char}
    (h : cutAt? mark text = none) : splitAtMarks mark text = [text] := by
  induction text with
  | nil => rfl
  | cons c rest ih =>
    rw [cutAt?] at h
    split_ifs at h with hc
    rw [splitAtMarks, if_neg hc, ih (Option.map_eq_none_iff.1 h)]

/-- What stands before the first mark is the first part, what stands behind it is split again. -/
theorem splitAtMarks_of_cutAt?_some {mark : Char} {text before behind : List Char}
    (h : cutAt? mark text = some (before, behind)) :
    splitAtMarks mark text = before :: splitAtMarks mark behind := by
  induction text generalizing before with
  | nil => cases h
  | cons c rest ih =>
    rw [cutAt?] at h
    split_ifs at h with hc
    · cases h
      rw [splitAtMarks, if_pos hc]
    · obtain ⟨⟨part, _⟩, hrest, hpart⟩ := Option.map_eq_some_iff.1 h
      cases hpart
      rw [splitAtMarks, if_neg hc, ih hrest]

/-- A mark that is no letter splits a text in the same places before and after lowering. -/
theorem splitAtMarks_map_toLower {mark : Char} (hmark : mark.toNat < 65) (text : List Char) :
    splitAtMarks mark (text.map Char.toLower) =
      (splitAtMarks mark text).map (List.map Char.toLower) := by
  induction text with
  | nil => rfl
  | cons c rest ih =>
    rw [List.map_cons, splitAtMarks, splitAtMarks, ih]
    simp only [toLower_eq_iff hmark]
    split_ifs with hc
    · rfl
    · cases splitAtMarks mark rest <;> rfl

namespace DnsName

/-! ### The same letters -/

theorem sameLetters_iff {a b : List Char} :
    sameLetters a b = true ↔ a.map Char.toLower = b.map Char.toLower := by
  rw [sameLetters, decide_eq_true_iff]

theorem sameLetters_comm (a b : List Char) : sameLetters a b = sameLetters b a := by
  rw [Bool.eq_iff_iff, sameLetters_iff, sameLetters_iff, eq_comm]

/-- **Texts are the same up to case exactly if their labels are.** -/
theorem sameLetters_iff_forall₂ (a b : List Char) : sameLetters a b = true ↔
    List.Forall₂ (fun x y ↦ sameLetters x y = true) (splitAtMarks '.' a) (splitAtMarks '.' b) := by
  simp only [sameLetters_iff]
  rw [← (splitAtMarks_injective '.').eq_iff, splitAtMarks_map_toLower (by decide),
    splitAtMarks_map_toLower (by decide), ← List.forall₂_eq_eq_eq, List.forall₂_map_left_iff,
    List.forall₂_map_right_iff]

/-- What is no letter stands in the same places. -/
theorem getElem?_eq_some_iff_of_sameLetters {a b : List Char} (h : sameLetters a b = true)
    {mark : Char} (hmark : mark.toNat < 65) (j : Nat) : a[j]? = some mark ↔ b[j]? = some mark := by
  have hlower : ∀ text : List Char,
      text[j]? = some mark ↔ (text.map Char.toLower)[j]? = some mark := by
    intro text
    rw [List.getElem?_map, Option.map_eq_some_iff]
    simp only [toLower_eq_iff hmark, exists_eq_right]
  rw [hlower a, hlower b, sameLetters_iff.1 h]

/-! ### Labels -/

/-- The parts of a name between its dots. Dots at the end count for nothing. -/
def labels (name : List Char) : List (List Char) := splitAtMarks '.' (trimDots name)

/-- Is the first of several labels an asterisk? -/
def HasWildcard (pattern : List (List Char)) : Prop :=
  2 ≤ pattern.length ∧ pattern.head? = some ['*']

/-- The labels of a pattern and of a name are equally many, and each two are the same up to case,
but for an asterisk as the first of several, which goes with any label that is not empty. -/
structure LabelsAgree (pattern name : List (List Char)) : Prop where
  length_eq : pattern.length = name.length
  agree : ∀ i (hp : i < pattern.length) (hn : i < name.length),
    sameLetters pattern[i] name[i] = true ∨ i = 0 ∧ HasWildcard pattern ∧ name[i] ≠ []

/-- Without an asterisk as the first of several all labels are the same up to case. -/
theorem labelsAgree_iff_forall₂ {pattern name : List (List Char)} (h : ¬ HasWildcard pattern) :
    LabelsAgree pattern name ↔
      List.Forall₂ (fun x y ↦ sameLetters x y = true) pattern name := by
  rw [List.forall₂_iff_get]
  constructor
  · rintro ⟨hlength, hagree⟩
    exact ⟨hlength, fun i hp hn ↦ (hagree i hp hn).resolve_right fun hwild ↦ h hwild.2.1⟩
  · rintro ⟨hlength, hagree⟩
    exact ⟨hlength, fun i hp hn ↦ Or.inl (hagree i hp hn)⟩

/-- **An asterisk stands for one label that is not empty.** -/
theorem labelsAgree_wildcard_iff {suffix name : List (List Char)} (h : suffix ≠ []) :
    LabelsAgree (['*'] :: suffix) name ↔ ∃ label rest, name = label :: rest ∧ label ≠ [] ∧
      List.Forall₂ (fun x y ↦ sameLetters x y = true) suffix rest := by
  have hwild : HasWildcard (['*'] :: suffix) :=
    ⟨Nat.succ_le_succ (List.length_pos_of_ne_nil h), rfl⟩
  constructor
  · rintro ⟨hlength, hagree⟩
    cases name with
    | nil => simp at hlength
    | cons label rest =>
      refine ⟨label, rest, rfl, ?_, List.forall₂_iff_get.2 ⟨by simpa using hlength, ?_⟩⟩
      · rcases hagree 0 (by simp) (by simp) with hsame | ⟨-, -, hne⟩
        · rintro rfl
          have hempty : sameLetters ['*'] [] = true := hsame
          exact absurd hempty (by decide)
        · exact hne
      · intro i hp hn
        exact (hagree (i + 1) (by simpa using hp) (by simpa using hn)).resolve_right (by simp)
  · rintro ⟨label, rest, rfl, hne, hrest⟩
    obtain ⟨hlength, hagree⟩ := List.forall₂_iff_get.1 hrest
    refine ⟨by simpa using hlength, fun i hp hn ↦ ?_⟩
    cases i with
    | zero => exact Or.inr ⟨rfl, hwild, hne⟩
    | succ i => exact Or.inl (hagree i (by simpa using hp) (by simpa using hn))

/-! ### Matching -/

theorem splitAtMarks_wildcard (suffix : List Char) :
    splitAtMarks '.' ('*' :: '.' :: suffix) = ['*'] :: splitAtMarks '.' suffix :=
  splitAtMarks_of_cutAt?_some rfl

/-- A pattern has a wildcard if it begins with an asterisk and a dot. -/
theorem hasWildcard_splitAtMarks_iff (pattern : List Char) :
    HasWildcard (splitAtMarks '.' pattern) ↔ ∃ suffix, pattern = '*' :: '.' :: suffix := by
  constructor
  · rintro ⟨hlength, hhead⟩
    have hjoined := intercalate_splitAtMarks '.' pattern
    match hsplit : splitAtMarks '.' pattern with
    | [] => simp [hsplit] at hhead
    | [label] => simp [hsplit] at hlength
    | first :: second :: more =>
      obtain rfl : first = ['*'] := by simpa [hsplit] using hhead
      rw [hsplit, List.intercalate_cons_cons] at hjoined
      exact ⟨_, hjoined.symm⟩
  · rintro ⟨suffix, rfl⟩
    rw [splitAtMarks_wildcard]
    exact ⟨Nat.succ_le_succ (List.length_pos_of_ne_nil (splitAtMarks_ne_nil _ _)), rfl⟩

/-- Other patterns match what is the same up to case. -/
theorem matchesTrimmed_of_not_wildcard {pattern : List Char}
    (h : ¬ ∃ suffix, pattern = '*' :: '.' :: suffix) (name : List Char) :
    matchesTrimmed pattern name = sameLetters pattern name := by
  unfold matchesTrimmed
  split
  · exact absurd ⟨_, rfl⟩ h
  · rfl

/-- **Texts without dots at the end match exactly if their labels agree.** -/
theorem matchesTrimmed_iff (pattern name : List Char) : matchesTrimmed pattern name = true ↔
    LabelsAgree (splitAtMarks '.' pattern) (splitAtMarks '.' name) := by
  by_cases hwild : ∃ suffix, pattern = '*' :: '.' :: suffix
  · obtain ⟨suffix, rfl⟩ := hwild
    rw [splitAtMarks_wildcard, labelsAgree_wildcard_iff (splitAtMarks_ne_nil _ _), matchesTrimmed]
    cases hcut : cutAt? '.' name with
    | none =>
      -- a single label is not as many as the pattern has
      rw [splitAtMarks_of_cutAt?_none hcut]
      refine iff_of_false (by simp) ?_
      rintro ⟨label, rest, heq, -, hsuffix⟩
      obtain ⟨-, rfl⟩ := List.cons.inj heq
      exact splitAtMarks_ne_nil '.' suffix (List.forall₂_nil_right_iff.1 hsuffix)
    | some cut =>
      obtain ⟨label, rest⟩ := cut
      rw [splitAtMarks_of_cutAt?_some hcut]
      rw [Bool.and_eq_true, Bool.not_eq_true', List.isEmpty_eq_false_iff, sameLetters_comm,
        sameLetters_iff_forall₂]
      constructor
      · rintro ⟨hne, hrest⟩
        exact ⟨label, _, rfl, hne, hrest⟩
      · rintro ⟨_, _, heq, hne, hrest⟩
        obtain ⟨rfl, rfl⟩ := List.cons.inj heq
        exact ⟨hne, hrest⟩
  · rw [matchesTrimmed_of_not_wildcard hwild, sameLetters_iff_forall₂, labelsAgree_iff_forall₂]
    rwa [hasWildcard_splitAtMarks_iff]

/-! ### What does not matter -/

/-- Dots are trimmed before or after lowering. -/
theorem trimDots_map_toLower (name : List Char) :
    trimDots (name.map Char.toLower) = (trimDots name).map Char.toLower := by
  have hdot : (fun c ↦ decide (c = '.')) ∘ Char.toLower = fun c ↦ decide (c = '.') := by
    funext c
    simp only [Function.comp_apply, toLower_eq_iff (d := '.') (by decide)]
  rw [trimDots, ← List.map_reverse, List.dropWhile_map, hdot, ← List.map_reverse, trimDots]

theorem sameLetters_trimDots {a b : List Char} (h : sameLetters a b = true) :
    sameLetters (trimDots a) (trimDots b) = true := by
  rw [sameLetters_iff, ← trimDots_map_toLower, ← trimDots_map_toLower, sameLetters_iff.1 h]

theorem trimDots_append_replicate (name : List Char) (n : Nat) :
    trimDots (name ++ List.replicate n '.') = trimDots name := by
  simp [trimDots]

/-- An asterisk has no case. -/
theorem eq_asterisk_iff_of_sameLetters {a b : List Char} (h : sameLetters a b = true) :
    a = ['*'] ↔ b = ['*'] := by
  have hlower : ∀ label : List Char, label = ['*'] ↔ label.map Char.toLower = ['*'] := by
    intro label
    match label with
    | [] => simp
    | [c] => simpa using (toLower_eq_iff (show '*'.toNat < 65 by decide)).symm
    | _ :: _ :: _ => simp
  rw [hlower a, hlower b, sameLetters_iff.1 h]

/-- Nor has a wildcard. -/
theorem hasWildcard_iff_of_forall₂ {pattern pattern' : List (List Char)}
    (h : List.Forall₂ (fun x y ↦ sameLetters x y = true) pattern pattern') :
    HasWildcard pattern ↔ HasWildcard pattern' := by
  cases h with
  | nil => rfl
  | cons hhead htail =>
    simp [HasWildcard, htail.length_eq, eq_asterisk_iff_of_sameLetters hhead]

/-- Labels agree as others do that are the same up to case. -/
theorem LabelsAgree.congr {pattern pattern' name name' : List (List Char)}
    (h : LabelsAgree pattern name)
    (hpattern : List.Forall₂ (fun x y ↦ sameLetters x y = true) pattern pattern')
    (hname : List.Forall₂ (fun x y ↦ sameLetters x y = true) name name') :
    LabelsAgree pattern' name' := by
  obtain ⟨hplength, hpget⟩ := List.forall₂_iff_get.1 hpattern
  obtain ⟨hnlength, hnget⟩ := List.forall₂_iff_get.1 hname
  refine ⟨by rw [← hplength, h.length_eq, hnlength], fun i hp hn ↦ ?_⟩
  have hp' : i < pattern.length := hplength ▸ hp
  have hn' : i < name.length := hnlength ▸ hn
  have hsamep := sameLetters_iff.1 (hpget i hp' hp)
  have hsamen := sameLetters_iff.1 (hnget i hn' hn)
  rcases h.agree i hp' hn' with hsame | ⟨hzero, hwild, hne⟩
  · exact Or.inl (sameLetters_iff.2 (hsamep.symm.trans ((sameLetters_iff.1 hsame).trans hsamen)))
  · refine Or.inr ⟨hzero, (hasWildcard_iff_of_forall₂ hpattern).1 hwild, fun hempty ↦ hne ?_⟩
    exact List.map_eq_nil_iff.1 (hsamen.trans (List.map_eq_nil_iff.2 hempty))

/-- **A name matches a pattern exactly if their labels agree.** -/
theorem isMatch_iff (pattern name : List Char) :
    isMatch pattern name = true ↔ LabelsAgree (labels pattern) (labels name) :=
  matchesTrimmed_iff _ _

theorem forall₂_labels {a b : List Char} (h : sameLetters a b = true) :
    List.Forall₂ (fun x y ↦ sameLetters x y = true) (labels a) (labels b) :=
  (sameLetters_iff_forall₂ _ _).1 (sameLetters_trimDots h)

theorem isMatch_of_sameLetters {pattern pattern' name name' : List Char}
    (hpattern : sameLetters pattern pattern' = true) (hname : sameLetters name name' = true)
    (h : isMatch pattern name = true) : isMatch pattern' name' = true :=
  (isMatch_iff _ _).2 <|
    ((isMatch_iff _ _).1 h).congr (forall₂_labels hpattern) (forall₂_labels hname)

/-- Every name matches itself, also one with an asterisk. -/
theorem isMatch_self (name : List Char) : isMatch name name = true :=
  (isMatch_iff name name).2 ⟨rfl, fun _ _ _ ↦ Or.inl (sameLetters_iff.2 rfl)⟩

/-- An asterisk that is not the first of several labels stands for itself. -/
theorem LabelsAgree.getElem?_bind {pattern name : List (List Char)} (h : LabelsAgree pattern name)
    {i : Nat} (hi : ¬ (i = 0 ∧ HasWildcard pattern)) (j : Nat) :
    pattern[i]?.bind (·[j]?) = some '*' ↔ name[i]?.bind (·[j]?) = some '*' := by
  by_cases hlt : i < pattern.length
  · have hsame := (h.agree i hlt (h.length_eq ▸ hlt)).resolve_right fun hwild ↦
      hi ⟨hwild.1, hwild.2.1⟩
    rw [List.getElem?_eq_getElem hlt, List.getElem?_eq_getElem (h.length_eq ▸ hlt)]
    exact getElem?_eq_some_iff_of_sameLetters hsame (by decide) j
  · have hle : pattern.length ≤ i := Nat.le_of_not_lt hlt
    rw [List.getElem?_eq_none hle, List.getElem?_eq_none (h.length_eq ▸ hle)]

/-- **A name matches a pattern exactly if their labels agree.** So every name matches itself, the
case of letters and dots at the end do not matter, an asterisk as the first of several labels stands
for just one label that is not empty, and any other asterisk for itself alone. -/
theorem isMatch_iff_labelsAgree (pattern name : List Char) :
    (isMatch pattern name = true ↔ LabelsAgree (labels pattern) (labels name)) ∧
    isMatch pattern pattern = true ∧
    (∀ pattern' name', sameLetters pattern pattern' = true → sameLetters name name' = true →
      isMatch pattern' name' = isMatch pattern name) ∧
    (∀ m n, isMatch (pattern ++ List.replicate m '.') (name ++ List.replicate n '.') =
      isMatch pattern name) ∧
    (∀ suffix, suffix ≠ [] → labels pattern = ['*'] :: suffix →
      (isMatch pattern name = true ↔ ∃ label rest, labels name = label :: rest ∧ label ≠ [] ∧
        List.Forall₂ (fun x y ↦ sameLetters x y = true) suffix rest)) ∧
    ∀ i j : Nat, ¬ (i = 0 ∧ HasWildcard (labels pattern)) → isMatch pattern name = true →
      ((labels pattern)[i]?.bind (·[j]?) = some '*' ↔
        (labels name)[i]?.bind (·[j]?) = some '*') := by
  refine ⟨isMatch_iff pattern name, isMatch_self pattern, ?_, ?_, ?_, ?_⟩
  · intro pattern' name' hpattern hname
    rw [Bool.eq_iff_iff]
    refine ⟨isMatch_of_sameLetters ?_ ?_, isMatch_of_sameLetters hpattern hname⟩
    · rwa [sameLetters_comm]
    · rwa [sameLetters_comm]
  · intro m n
    rw [isMatch, trimDots_append_replicate, trimDots_append_replicate, isMatch]
  · intro suffix hne hlabels
    rw [isMatch_iff, hlabels, labelsAgree_wildcard_iff hne]
  · intro i j hi hmatch
    exact ((isMatch_iff pattern name).1 hmatch).getElem?_bind hi j

/-- An asterisk goes with one label in any case, but not with two. -/
theorem isMatch_iff_labelsAgree_wildcard :
    labels ['*', '.', 'b', '.'] = [['*'], ['b']] ∧
      isMatch ['*', '.', 'b', '.'] ['X', '.', 'B'] = true ∧
      isMatch ['*', '.', 'b', '.'] ['x', '.', 'y', '.', 'b'] = false := by
  have hlabels : labels ['*', '.', 'b', '.'] = ['*'] :: [['b']] := by decide
  have hone := (isMatch_iff_labelsAgree ['*', '.', 'b', '.'] ['X', '.', 'B']).2.2.2.2.1
    [['b']] (by decide) hlabels
  have htwo := (isMatch_iff_labelsAgree ['*', '.', 'b', '.'] ['x', '.', 'y', '.', 'b']).2.2.2.2.1
    [['b']] (by decide) hlabels
  refine ⟨hlabels, hone.2 ⟨['X'], [['B']], by decide, by decide, ?_⟩, ?_⟩
  · exact .cons (by decide) .nil
  · rw [← Bool.not_eq_true, htwo]
    rintro ⟨label, rest, hname, -, hrest⟩
    have hlength := congrArg List.length hname
    have hcount := hrest.length_eq
    simp [labels, trimDots, splitAtMarks] at hlength hcount
    omega

end DnsName

end WebhookTrust
