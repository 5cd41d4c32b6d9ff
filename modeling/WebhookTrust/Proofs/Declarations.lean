import Mathlib.Data.List.DropRight
import WebhookTrust.Cluster.Consumer
import WebhookTrust.Proofs.Labels

/-!
# Declarations of consumers

A declaration is read by cutting it at its first colon and trimming what stands on either side. The
grammar says the same the other way round (`Consumer.Declares`): a name of the kind, in any case of
its letters, and the name of the consumer, each with blanks around it, and a colon between them.

## The theorems, and what each rests on

* `trimBlanks_eq_iff`: what is left by trimming is the one part that has no blanks at its ends and
  is all but blanks. So trimming can be told without doing it.
* `ConsumerKind.ofName?_eq_some_iff`: **a kind is found exactly by its own names**, of which no two
  kinds share one in any case (`ConsumerKind.IsCalled.unique`).
* `Consumer.parse_eq_ok_iff`, `Consumer.parse_eq_malformed_iff`,
  `Consumer.parse_eq_unknownKind_iff`: **exactly the declarations are read**, and which error is
  given for any other text. A text that names nobody is malformed whatever stands for the kind.
* `Consumer.Declares.of_isVariant`: **a declaration stays one of the same consumer** in another case
  of the letters of the kind, and with more blanks. The cut stays where it is, since neither has a
  colon.
* `Consumer.parse_by_grammar`: all of it.

Blanks are all that Unicode calls so, and case is that of ASCII letters alone. The name of a
consumer is kept as it is, colons included; whether an object of that name can exist is not asked.
-/

namespace WebhookTrust

/-! ### Trimming -/

/-- Are all of the characters blank? -/
def AreBlank (chars : List Char) : Prop := ∀ c ∈ chars, isBlank c = true

/-- Is the text the core with blanks around it? -/
def IsPadded (core text : List Char) : Prop :=
  ∃ left right, AreBlank left ∧ AreBlank right ∧ text = left ++ core ++ right

/-- Does the text neither begin nor end with a blank? -/
def IsTrimmed (text : List Char) : Prop :=
  ∀ c, text.head? = some c ∨ text.getLast? = some c → isBlank c = false

section Trim

variable {text core left right : List Char}

theorem trimBlanks_eq_rdropWhile (text : List Char) :
    trimBlanks text = (text.dropWhile isBlank).rdropWhile isBlank := rfl

/-- Nothing is left if all is blank. -/
theorem trimBlanks_eq_nil_iff : trimBlanks text = [] ↔ AreBlank text := by
  rw [trimBlanks_eq_rdropWhile, List.rdropWhile_eq_nil_iff]
  refine ⟨fun h ↦ ?_, fun h c hc ↦ h c (List.dropWhile_sublist isBlank |>.subset hc)⟩
  have hnil : text.dropWhile isBlank = [] := by
    rw [← List.dropWhile_idempotent, List.dropWhile_eq_nil_iff]
    exact h
  exact List.dropWhile_eq_nil_iff.1 hnil

/-- Blanks in front do not count. -/
theorem trimBlanks_append_left (h : AreBlank left) (text : List Char) :
    trimBlanks (left ++ text) = trimBlanks text := by
  rw [trimBlanks, trimBlanks, List.dropWhile_append_of_pos h]

/-- Blanks behind do not count. -/
theorem trimBlanks_append_right (h : AreBlank right) (text : List Char) :
    trimBlanks (text ++ right) = trimBlanks text := by
  by_cases hblank : AreBlank text
  · have hall : AreBlank (text ++ right) := List.forall_mem_append.2 ⟨hblank, h⟩
    rw [trimBlanks_eq_nil_iff.2 hall, trimBlanks_eq_nil_iff.2 hblank]
  · -- trimming in front stops within the text, and trimming behind begins after it
    have hne : ¬ (text.dropWhile isBlank).isEmpty = true := by
      rw [List.isEmpty_iff, List.dropWhile_eq_nil_iff]
      exact hblank
    have hreverse : ∀ c ∈ right.reverse, isBlank c = true := fun c hc ↦ h c (List.mem_reverse.1 hc)
    rw [trimBlanks, trimBlanks, List.dropWhile_append, if_neg hne, List.reverse_append,
      List.dropWhile_append_of_pos hreverse]

theorem trimBlanks_of_isPadded (h : IsPadded core text) : trimBlanks text = trimBlanks core := by
  obtain ⟨left, right, hleft, hright, rfl⟩ := h
  rw [trimBlanks_append_right hright, trimBlanks_append_left hleft]

/-- Nothing but blanks is trimmed. -/
theorem isPadded_trimBlanks (text : List Char) : IsPadded (trimBlanks text) text := by
  refine ⟨text.takeWhile isBlank, (text.dropWhile isBlank).rtakeWhile isBlank,
    fun c hc ↦ List.mem_takeWhile_imp hc, fun c hc ↦ List.mem_rtakeWhile_imp hc, ?_⟩
  rw [trimBlanks_eq_rdropWhile, List.append_assoc, List.rdropWhile_append_rtakeWhile,
    List.takeWhile_append_dropWhile]

/-- What has no blanks at its ends is left as it is. -/
theorem trimBlanks_of_isTrimmed (h : IsTrimmed core) : trimBlanks core = core := by
  have hfront : core.dropWhile isBlank = core := by
    rw [List.dropWhile_eq_self_iff]
    intro hlength
    rw [h core[0] (.inl (List.head?_eq_getElem? ▸ List.getElem?_eq_getElem hlength))]
    exact Bool.false_ne_true
  rw [trimBlanks_eq_rdropWhile, hfront, List.rdropWhile_eq_self_iff]
  intro hne
  rw [h (core.getLast hne) (.inr (List.getLast?_eq_some_getLast hne))]
  exact Bool.false_ne_true

/-- No blanks are left at the ends. -/
theorem isTrimmed_trimBlanks (text : List Char) : IsTrimmed (trimBlanks text) := by
  rintro c (hhead | hlast)
  · obtain ⟨behind, hbehind⟩ := List.rdropWhile_prefix isBlank (text.dropWhile isBlank)
    have hfront := List.head?_dropWhile_not isBlank text
    rw [← hbehind, ← trimBlanks_eq_rdropWhile, List.head?_append, hhead] at hfront
    exact hfront
  · have hne : trimBlanks text ≠ [] := by
      rintro hnil
      rw [hnil] at hlast
      cases hlast
    have hkept := List.rdropWhile_last_not isBlank (text.dropWhile isBlank) hne
    rw [List.getLast?_eq_some_getLast hne] at hlast
    rw [← Option.some.inj hlast, ← Bool.not_eq_true]
    exact hkept

/-- **What is left by trimming is the one part that has no blanks at its ends and is all but
blanks.** -/
theorem trimBlanks_eq_iff : trimBlanks text = core ↔ IsTrimmed core ∧ IsPadded core text := by
  constructor
  · rintro rfl
    exact ⟨isTrimmed_trimBlanks text, isPadded_trimBlanks text⟩
  · rintro ⟨htrimmed, hpadded⟩
    rw [trimBlanks_of_isPadded hpadded, trimBlanks_of_isTrimmed htrimmed]

/-- Only letters have a case, and no letter is blank. -/
theorem isBlank_toLower (c : Char) : isBlank c.toLower = isBlank c := by
  rw [Bool.eq_iff_iff]
  simp only [isBlank, toNat_toLower, Bool.or_eq_true, Bool.and_eq_true, decide_eq_true_eq]
  split_ifs <;> omega

theorem trimBlanks_map_toLower (text : List Char) :
    trimBlanks (text.map Char.toLower) = (trimBlanks text).map Char.toLower := by
  have hsame : isBlank ∘ Char.toLower = isBlank := funext isBlank_toLower
  rw [trimBlanks, trimBlanks, List.dropWhile_map, hsame, ← List.map_reverse, List.dropWhile_map,
    hsame, List.map_reverse]

end Trim

/-! ### Cutting -/

section Cut

variable {mark : Char} {text before behind : List Char}

/-- A text is cut at the first mark in it. -/
theorem cutAt?_eq_some_iff :
    cutAt? mark text = some (before, behind) ↔ text = before ++ mark :: behind ∧ mark ∉ before := by
  refine ⟨fun h ↦ ?_, fun ⟨htext, hnot⟩ ↦ htext ▸ cutAt?_append hnot⟩
  induction text generalizing before with
  | nil => cases h
  | cons c rest ih =>
    rw [cutAt?] at h
    split_ifs at h with hc
    · cases h
      exact ⟨by rw [hc, List.nil_append], List.not_mem_nil⟩
    · obtain ⟨⟨part, _⟩, hrest, hpart⟩ := Option.map_eq_some_iff.1 h
      cases hpart
      obtain ⟨rfl, hnot⟩ := ih hrest
      refine ⟨rfl, fun hmem ↦ ?_⟩
      exact (List.mem_cons.1 hmem).elim (Ne.symm hc) hnot

end Cut

/-! ### Kinds -/

namespace ConsumerKind

variable {kind kind' : ConsumerKind} {accepted : String} {word word' : List Char}

/-- Is the word one of the names of the kind, in any case of its letters? -/
def IsCalled (kind : ConsumerKind) (word : List Char) : Prop :=
  ∃ accepted ∈ kind.acceptedNames, DnsName.sameLetters word accepted.toList = true

/-- The names of kinds are in lower case. -/
theorem map_toLower_of_mem_acceptedNames (h : accepted ∈ kind.acceptedNames) :
    accepted.toList.map Char.toLower = accepted.toList := by
  have hall : ∀ accepted ∈ kind.acceptedNames,
      accepted.toList.map Char.toLower = accepted.toList := by
    cases kind <;> decide
  exact hall accepted h

/-- No name is one of two kinds. -/
theorem eq_of_mem_acceptedNames (h : accepted ∈ kind.acceptedNames)
    (h' : accepted ∈ kind'.acceptedNames) : kind = kind' := by
  have hall : ∀ accepted ∈ kind.acceptedNames, accepted ∈ kind'.acceptedNames → kind = kind' := by
    cases kind <;> cases kind' <;> decide
  exact hall accepted h h'

/-- There are seven names. -/
example : (all.flatMap acceptedNames).Nodup ∧ (all.flatMap acceptedNames).length = 7 := by decide

/-- A kind is looked for among its names. -/
theorem any_acceptedNames_iff :
    (kind.acceptedNames.any fun accepted ↦ accepted.toList = word.map Char.toLower) = true ↔
      kind.IsCalled word := by
  rw [List.any_eq_true, IsCalled]
  refine exists_congr fun accepted ↦ and_congr_right fun hmem ↦ ?_
  rw [decide_eq_true_iff, DnsName.sameLetters_iff, map_toLower_of_mem_acceptedNames hmem, eq_comm]

/-- No word is a name of two kinds. -/
theorem IsCalled.unique (h : kind.IsCalled word) (h' : kind'.IsCalled word) : kind = kind' := by
  obtain ⟨accepted, hmem, hsame⟩ := h
  obtain ⟨accepted', hmem', hsame'⟩ := h'
  rw [DnsName.sameLetters_iff, map_toLower_of_mem_acceptedNames hmem] at hsame
  rw [DnsName.sameLetters_iff, map_toLower_of_mem_acceptedNames hmem'] at hsame'
  obtain rfl : accepted = accepted' := String.toList_inj.1 (hsame.symm.trans hsame')
  exact eq_of_mem_acceptedNames hmem hmem'

/-- **A kind is found exactly by its own names.** -/
theorem ofName?_eq_some_iff : ofName? word = some kind ↔ kind.IsCalled word := by
  have hsound : ∀ {found : ConsumerKind}, ofName? word = some found → found.IsCalled word := by
    intro found hfound
    rw [ofName?] at hfound
    have hany := List.find?_some hfound
    exact any_acceptedNames_iff.1 hany
  refine ⟨hsound, fun h ↦ ?_⟩
  obtain ⟨found, hfound⟩ : ∃ found, ofName? word = some found := by
    rw [← Option.isSome_iff_exists, ofName?, List.find?_isSome]
    exact ⟨kind, by cases kind <;> decide, any_acceptedNames_iff.2 h⟩
  rw [hfound, IsCalled.unique (hsound hfound) h]

theorem ofName?_eq_none_iff :
    ofName? word = none ↔ ∀ kind : ConsumerKind, ¬ kind.IsCalled word := by
  simp only [Option.eq_none_iff_forall_ne_some, ne_eq, ofName?_eq_some_iff]

theorem IsCalled.of_sameLetters (h : kind.IsCalled word)
    (hsame : DnsName.sameLetters word' word = true) : kind.IsCalled word' := by
  obtain ⟨accepted, hmem, haccepted⟩ := h
  rw [DnsName.sameLetters_iff] at hsame haccepted
  exact ⟨accepted, hmem, DnsName.sameLetters_iff.2 (hsame.trans haccepted)⟩

/-- No name has a blank in it. -/
theorem IsCalled.isTrimmed (h : kind.IsCalled word) : IsTrimmed word := by
  obtain ⟨accepted, hmem, hsame⟩ := h
  have hall : (kind.acceptedNames.all fun accepted ↦ accepted.toList.all (!isBlank ·)) = true := by
    cases kind <;> decide
  have haccepted := List.all_eq_true.1 (List.all_eq_true.1 hall accepted hmem)
  rw [DnsName.sameLetters_iff, map_toLower_of_mem_acceptedNames hmem] at hsame
  have hword : ∀ c ∈ word, isBlank c = false := fun c hc ↦ by
    have hlower := haccepted _ (hsame ▸ List.mem_map_of_mem hc)
    rw [isBlank_toLower] at hlower
    exact by simpa using hlower
  exact fun c hc ↦ hc.elim (fun h ↦ hword c (List.mem_of_head? h))
    fun h ↦ hword c (List.mem_of_getLast? h)

theorem isCalled_shortName (kind : ConsumerKind) : kind.IsCalled kind.shortName.toList :=
  ⟨kind.shortName, by cases kind <;> decide, DnsName.sameLetters_iff.2 rfl⟩

end ConsumerKind

namespace Consumer

open DnsName (sameLetters sameLetters_iff)

variable {text variant : String} {consumer : Consumer} {before behind before' : List Char}

/-! ### The grammar -/

/-- Do these parts stand before and behind the first colon of the text? -/
def IsCut (text : String) (before behind : List Char) : Prop :=
  text.toList = before ++ ':' :: behind ∧ ':' ∉ before

/-- Does the text declare the consumer? -/
structure Declares (text : String) (consumer : Consumer) : Prop where
  parts : ∃ before behind word, IsCut text before behind ∧
    IsPadded word before ∧ consumer.kind.IsCalled word ∧ IsPadded consumer.name.toList behind
  isTrimmed : IsTrimmed consumer.name.toList
  ne_empty : consumer.name ≠ ""

/-- Is there no name, for want of a colon or of anything but blanks behind it? -/
def NamesNobody (text : String) : Prop :=
  ∀ before behind, IsCut text before behind → AreBlank behind

/-- The shortest text that declares the consumer. -/
def declaration (consumer : Consumer) : String := consumer.kind.shortName ++ ":" ++ consumer.name

/-- Is the variant the text in another case of the letters before the first colon, and with more
blanks around either part? -/
def IsVariant (text variant : String) : Prop :=
  ∃ before behind before' padded padded', IsCut text before behind ∧
    sameLetters before' before = true ∧ IsPadded before' padded ∧ IsPadded behind padded' ∧
    variant.toList = padded ++ ':' :: padded'

/-! ### Reading -/

theorem isCut_iff : IsCut text before behind ↔ cutAt? ':' text.toList = some (before, behind) :=
  cutAt?_eq_some_iff.symm

/-- A text that names nobody is malformed, whatever the kind. -/
theorem parse_of_namesNobody (h : NamesNobody text) : parse text = .error (.malformed text) := by
  rw [parse]
  match hcut : cutAt? ':' text.toList with
  | none => rfl
  | some (before, behind) =>
    have hblank := trimBlanks_eq_nil_iff.2 (h before behind (isCut_iff.2 hcut))
    simp only [hblank, List.isEmpty_nil, if_true]

/-- A text that names somebody is read by its kind. -/
theorem parse_of_isCut (hcut : IsCut text before behind) (hname : ¬ AreBlank behind) :
    parse text = (parseKind (trimBlanks before)).map fun kind ↦
      ⟨kind, String.ofList (trimBlanks behind)⟩ := by
  have hne : ¬ (trimBlanks behind).isEmpty = true := by
    rw [List.isEmpty_iff, trimBlanks_eq_nil_iff]
    exact hname
  simp only [parse, isCut_iff.1 hcut, if_neg hne]

theorem exists_isCut_of_not_namesNobody (h : ¬ NamesNobody text) :
    ∃ before behind, IsCut text before behind ∧ ¬ AreBlank behind := by
  simpa only [NamesNobody, not_forall, exists_prop] using h

theorem IsCut.unique {left right : List Char} (h : IsCut text before behind)
    (h' : IsCut text left right) : left = before ∧ right = behind := by
  have hparts := (isCut_iff.1 h').symm.trans (isCut_iff.1 h)
  exact ⟨congrArg Prod.fst (Option.some.inj hparts), congrArg Prod.snd (Option.some.inj hparts)⟩

/-- Whether a text is a declaration can be told from its trimmed parts. -/
theorem declares_iff (hcut : IsCut text before behind) : Declares text consumer ↔
    consumer.kind.IsCalled (trimBlanks before) ∧ trimBlanks behind = consumer.name.toList ∧
      ¬ AreBlank behind := by
  constructor
  · rintro ⟨⟨left, right, word, hcut', hword, hcalled, hname⟩, htrimmed, hne⟩
    obtain ⟨rfl, rfl⟩ := hcut.unique hcut'
    have hbehind := trimBlanks_eq_iff.2 ⟨htrimmed, hname⟩
    rw [trimBlanks_eq_iff.2 ⟨hcalled.isTrimmed, hword⟩, hbehind, ← trimBlanks_eq_nil_iff, hbehind]
    exact ⟨hcalled, rfl, fun hnil ↦ hne (String.toList_eq_nil_iff.1 hnil)⟩
  · rintro ⟨hcalled, hname, hsome⟩
    obtain ⟨htrimmed, hpadded⟩ := trimBlanks_eq_iff.1 hname
    refine ⟨⟨before, behind, _, hcut, isPadded_trimBlanks before, hcalled, hpadded⟩, htrimmed, ?_⟩
    rintro hempty
    rw [hempty] at hname
    exact hsome (trimBlanks_eq_nil_iff.1 hname)

/-- A text that is cut is read if it is a declaration. -/
theorem parse_eq_ok_of_isCut (hcut : IsCut text before behind) (hname : ¬ AreBlank behind) :
    parse text = .ok consumer ↔ Declares text consumer := by
  rw [parse_of_isCut hcut hname, declares_iff hcut, parseKind, ← ConsumerKind.ofName?_eq_some_iff]
  cases ConsumerKind.ofName? (trimBlanks before) with
  | none => simp [Except.map]
  | some kind =>
    simp only [Except.map, Except.ok.injEq, Option.some.injEq, hname, not_false_eq_true, and_true]
    constructor
    · rintro rfl
      exact ⟨rfl, String.toList_ofList.symm⟩
    · rintro ⟨rfl, hname⟩
      rw [hname, String.ofList_toList]

/-- **Exactly the declarations are read.** -/
theorem parse_eq_ok_iff : parse text = .ok consumer ↔ Declares text consumer := by
  by_cases h : NamesNobody text
  · rw [parse_of_namesNobody h]
    refine iff_of_false nofun ?_
    rintro ⟨⟨before, behind, word, hcut, -, -, hname⟩, htrimmed, hne⟩
    have hblank := trimBlanks_eq_nil_iff.2 (h before behind hcut)
    rw [trimBlanks_eq_iff.2 ⟨htrimmed, hname⟩] at hblank
    exact hne (String.toList_eq_nil_iff.1 hblank)
  · obtain ⟨before, behind, hcut, hname⟩ := exists_isCut_of_not_namesNobody h
    exact parse_eq_ok_of_isCut hcut hname

/-- A text that names nobody is malformed as a whole, and no other one is. -/
theorem parse_eq_malformed_iff {whole : String} :
    parse text = .error (.malformed whole) ↔ whole = text ∧ NamesNobody text := by
  by_cases h : NamesNobody text
  · rw [parse_of_namesNobody h, Except.error.injEq, ParseError.malformed.injEq, eq_comm]
    exact ⟨fun hwhole ↦ ⟨hwhole, h⟩, And.left⟩
  · obtain ⟨before, behind, hcut, hname⟩ := exists_isCut_of_not_namesNobody h
    rw [parse_of_isCut hcut hname, parseKind]
    refine iff_of_false ?_ fun hwhole ↦ h hwhole.2
    cases ConsumerKind.ofName? (trimBlanks before) <;> simp [Except.map]

/-- Of a text that names somebody, what stands for the kind may be unknown. -/
theorem parse_eq_unknownKind_iff {word : String} :
    parse text = .error (.unknownKind word) ↔ ∃ before behind, IsCut text before behind ∧
      ¬ AreBlank behind ∧ IsTrimmed word.toList ∧ IsPadded word.toList before ∧
      ∀ kind : ConsumerKind, ¬ kind.IsCalled word.toList := by
  by_cases h : NamesNobody text
  · rw [parse_of_namesNobody h]
    refine iff_of_false nofun ?_
    rintro ⟨before, behind, hcut, hname, -⟩
    exact hname (h before behind hcut)
  obtain ⟨before, behind, hcut, hname⟩ := exists_isCut_of_not_namesNobody h
  rw [parse_of_isCut hcut hname, parseKind]
  constructor
  · intro hparse
    match hkind : ConsumerKind.ofName? (trimBlanks before) with
    | some kind =>
      rw [hkind] at hparse
      cases hparse
    | none =>
      rw [hkind] at hparse
      obtain rfl : String.ofList (trimBlanks before) = word := by
        simpa [Except.map] using hparse
      rw [String.toList_ofList]
      exact ⟨before, behind, hcut, hname, isTrimmed_trimBlanks before, isPadded_trimBlanks before,
        ConsumerKind.ofName?_eq_none_iff.1 hkind⟩
  · rintro ⟨left, right, hcut', -, htrimmed, hpadded, hunknown⟩
    obtain ⟨rfl, rfl⟩ := hcut.unique hcut'
    rw [trimBlanks_eq_iff.2 ⟨htrimmed, hpadded⟩, ConsumerKind.ofName?_eq_none_iff.2 hunknown,
      String.ofList_toList]
    rfl

/-! ### Other spellings -/

theorem AreBlank.colon_notMem {chars : List Char} (h : AreBlank chars) : ':' ∉ chars :=
  fun hmem ↦ absurd (h ':' hmem) (by decide)

/-- The variant is cut where the text is. -/
theorem colon_notMem_of_isPadded {padded : List Char} (hcut : ':' ∉ before)
    (hcase : sameLetters before' before = true) (hpadded : IsPadded before' padded) :
    ':' ∉ padded := by
  obtain ⟨left, right, hleft, hright, rfl⟩ := hpadded
  have hbefore : ':' ∉ before' := by
    intro hmem
    have hlower := List.mem_map_of_mem (f := Char.toLower) hmem
    rw [sameLetters_iff.1 hcase] at hlower
    obtain ⟨c, hc, hcolon⟩ := List.mem_map.1 hlower
    have hc' : c = ':' := (toLower_eq_iff (by decide)).1 (hcolon.trans (by decide))
    exact hcut (hc' ▸ hc)
  simp only [List.mem_append, not_or]
  exact ⟨⟨AreBlank.colon_notMem hleft, hbefore⟩, AreBlank.colon_notMem hright⟩

/-- **A declaration stays one of the same consumer** in another case of the letters of the kind, and
with more blanks around either part. -/
theorem Declares.of_isVariant (h : Declares text consumer) (hvariant : IsVariant text variant) :
    Declares variant consumer := by
  obtain ⟨before, behind, before', padded, padded', hcut, hcase, hbefore, hbehind, heq⟩ := hvariant
  have hcut' : IsCut variant padded padded' :=
    ⟨heq, colon_notMem_of_isPadded hcut.2 hcase hbefore⟩
  have htrim : sameLetters (trimBlanks before') (trimBlanks before) = true := by
    rw [sameLetters_iff, ← trimBlanks_map_toLower, ← trimBlanks_map_toLower,
      sameLetters_iff.1 hcase]
  obtain ⟨hcalled, hname, hsome⟩ := (declares_iff hcut).1 h
  rw [declares_iff hcut', trimBlanks_of_isPadded hbefore, ← trimBlanks_eq_nil_iff,
    trimBlanks_of_isPadded hbehind, trimBlanks_eq_nil_iff]
  exact ⟨hcalled.of_sameLetters htrim, hname, hsome⟩

/-- What is declared can be declared in short. -/
theorem Declares.declaration (h : Declares text consumer) :
    Declares consumer.declaration consumer := by
  have hcut : IsCut consumer.declaration consumer.kind.shortName.toList consumer.name.toList := by
    refine ⟨?_, by cases consumer.kind <;> decide⟩
    rw [Consumer.declaration, String.toList_append, String.toList_append, List.append_assoc]
    rfl
  have hself (chars : List Char) : IsPadded chars chars := ⟨[], [], nofun, nofun, by simp⟩
  exact ⟨⟨_, _, _, hcut, hself _, consumer.kind.isCalled_shortName, hself _⟩, h.isTrimmed,
    h.ne_empty⟩

/-- **Exactly the declarations are read**, each as the consumer that it declares. A text without a
colon, or with nothing but blanks behind its first one, is malformed as a whole, whatever stands for
the kind; of any other text that is no declaration, what stands for the kind is unknown. And a text
that is read is read as the same consumer in short, in another case of the letters of the kind and
with more blanks around either part. -/
theorem parse_by_grammar (text : String) :
    (∀ consumer, parse text = .ok consumer ↔ Declares text consumer) ∧
    (∀ whole, parse text = .error (.malformed whole) ↔ whole = text ∧ NamesNobody text) ∧
    (∀ word, parse text = .error (.unknownKind word) ↔ ∃ before behind,
      IsCut text before behind ∧ ¬ AreBlank behind ∧ IsTrimmed word.toList ∧
        IsPadded word.toList before ∧ ∀ kind : ConsumerKind, ¬ kind.IsCalled word.toList) ∧
    ∀ consumer, parse text = .ok consumer → parse consumer.declaration = .ok consumer ∧
      ∀ variant, IsVariant text variant ∨ IsVariant consumer.declaration variant →
        parse variant = .ok consumer := by
  refine ⟨fun _ ↦ parse_eq_ok_iff, fun _ ↦ parse_eq_malformed_iff,
    fun _ ↦ parse_eq_unknownKind_iff, ?_⟩
  simp only [parse_eq_ok_iff]
  refine fun consumer h ↦ ⟨h.declaration, ?_⟩
  rintro variant (hvariant | hvariant)
  · exact h.of_isVariant hvariant
  · exact h.declaration.of_isVariant hvariant

/-- A long name of a kind in mixed case, a name with a colon, and blanks beyond ASCII. -/
theorem parse_by_grammar_spaced :
    let text := " CrdConversion\t:\u3000widgets:v1\n"
    let consumer : Consumer := ⟨.crdConversion, "widgets:v1"⟩
    parse text = .ok consumer ∧ parse "crd:widgets:v1" = .ok consumer ∧
      parse "  CRD :widgets:v1\u00A0" = .ok consumer := by
  intro text consumer
  have hparse : parse text = .ok consumer := by decide
  obtain ⟨-, -, -, hstable⟩ := parse_by_grammar text
  obtain ⟨hshort, hvariants⟩ := hstable consumer hparse
  refine ⟨hparse, hshort, hvariants _ (.inr ?_)⟩
  have hblank : AreBlank [] := nofun
  refine ⟨"crd".toList, "widgets:v1".toList, "CRD".toList, "  CRD ".toList,
    "widgets:v1\u00A0".toList, ⟨by decide, by decide⟩, by decide,
    ⟨"  ".toList, [' '], ?_, ?_, by decide⟩, ⟨[], ['\u00A0'], hblank, ?_, by decide⟩,
    by decide⟩ <;> simp [AreBlank] <;> decide

end Consumer

end WebhookTrust
