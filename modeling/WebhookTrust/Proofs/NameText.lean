import Mathlib.Data.List.Nodup
import WebhookTrust.Proofs.Name

/-!
# What the printed form of a name tells

The printed form quotes nothing: a value may read as if another attribute began in it, values of
other types than strings print as strings of digits, and all names with an undecodable string print
alike. So printing loses names. It tells apart the names all of whose values are strings in which no
other attribute seems to begin (`Name.IsPlain`).

## The theorems, and what each rests on

* `Name.arcs_eq_of_kindText_eq`: **types that print alike are the same**, and none prints with a
  separator in it.
* `Piece.not_isPrefix_of_heading_eq`: **no separator begins within a heading.** The printed form is
  taken apart into pieces, each headed by a separator and a type; a heading that begins inside a
  value lies in it as a whole.
* `Piece.eq_of_flatMap_chars_eq`: **a text is made of plain pieces in one way**, by induction on the
  pieces: two readings of one text agree piece by piece.
* `Name.meaning_eq_of_text_eq`: **plain names that print alike are the same**: they have the same
  relative names, with the same types and the same characters.
* `Name.exists_double`: **every name of several attributes has a double of one**, whose value goes
  on where the first ended. So plainness cannot be left out.

Two strings of different types that spell the same characters are the same value here
(`Name.meaning`), as they are when names are compared.
-/

namespace WebhookTrust

/-! ### Texts that are joined -/

/-- A first text, and the others each behind a separator. -/
theorem intercalate_cons {α : Type} (separator first : List α) (others : List (List α)) :
    separator.intercalate (first :: others) = first ++ others.flatMap (separator ++ ·) := by
  induction others generalizing first with
  | nil => simp
  | cons second others ih =>
    rw [List.intercalate_cons_cons, ih, List.flatMap_cons, List.append_assoc, List.append_assoc]

theorem append_intercalate {α : Type} (separator : List α) {texts : List (List α)}
    (h : texts ≠ []) :
    separator ++ separator.intercalate texts = texts.flatMap (separator ++ ·) := by
  obtain ⟨first, others, rfl⟩ := List.exists_cons_of_ne_nil h
  rw [intercalate_cons, List.flatMap_cons, List.append_assoc]

/-- What is true of the characters of all texts and of the separator is true of the whole. -/
theorem forall_mem_intercalate {α : Type} {P : α → Prop} {separator : List α}
    {texts : List (List α)} (hseparator : ∀ c ∈ separator, P c)
    (h : ∀ text ∈ texts, ∀ c ∈ text, P c) : ∀ c ∈ separator.intercalate texts, P c := by
  cases texts with
  | nil => simp
  | cons first others =>
    rw [intercalate_cons]
    simp only [List.forall_mem_cons] at h
    intro c hc
    rcases List.mem_append.1 hc with hc | hc
    · exact h.1 c hc
    · obtain ⟨text, htext, hc⟩ := List.mem_flatMap.1 hc
      exact (List.mem_append.1 hc).elim (hseparator c) (h.2 text htext c)

/-- What stands in front of the first occurrence of an item is determined, and so is what follows
it. -/
theorem eq_of_append_cons {α : Type} {item : α} {xs ys more others : List α} (hxs : item ∉ xs)
    (hys : item ∉ ys) (h : xs ++ item :: more = ys ++ item :: others) :
    xs = ys ∧ more = others := by
  induction xs generalizing ys with
  | nil =>
    cases ys with
    | nil => exact ⟨rfl, (List.cons.inj h).2⟩
    | cons y ys => exact absurd (.head _) ((List.cons.inj h).1 ▸ hys)
  | cons x xs ih =>
    cases ys with
    | nil => exact absurd (.head _) ((List.cons.inj h).1 ▸ hxs)
    | cons y ys =>
      obtain ⟨rfl, htail⟩ := List.cons.inj h
      obtain ⟨rfl, hmore⟩ :=
        ih (fun hmem ↦ hxs (.tail _ hmem)) (fun hmem ↦ hys (.tail _ hmem)) htail
      exact ⟨rfl, hmore⟩

/-! ### Attribute types -/

/-- **Identifiers with the same decimal text have the same arcs.** -/
theorem Oid.arcs_eq_of_dotted_eq {kind other : Oid} (h : kind.dotted = other.dotted) :
    kind.arcs = other.arcs := by
  have hdigits : ∀ arcs : List Nat, ∀ text ∈ (arcs.map Nat.repr).map String.toList, '.' ∉ text := by
    intro arcs text htext hdot
    simp only [List.map_map, List.mem_map, Function.comp_apply] at htext
    obtain ⟨arc, -, rfl⟩ := htext
    rw [Nat.repr_eq_ofList_toDigits, String.toList_ofList] at hdot
    exact absurd (Nat.isDigit_of_mem_toDigits (by decide) (by decide) hdot) (by decide)
  have hne : ∀ arcs : List Nat, arcs ≠ [] → (".".intercalate (arcs.map Nat.repr)).toList ≠ [] := by
    intro arcs harcs
    obtain ⟨arc, arcs, rfl⟩ := List.exists_cons_of_ne_nil harcs
    simp [String.toList_intercalate, intercalate_cons, Nat.repr_eq_ofList_toDigits,
      Nat.toDigits_ne_nil]
  have hchars := congrArg String.toList h
  rw [dotted, dotted] at hchars
  by_cases hkind : kind.arcs = []
  · by_contra hother
    rw [hkind] at hchars hother
    exact hne _ (Ne.symm hother) hchars.symm
  by_cases hother : other.arcs = []
  · rw [hother] at hchars
    exact absurd hchars (hne _ hkind)
  have hsplit := congrArg (List.splitOn '.') hchars
  rw [String.toList_intercalate, String.toList_intercalate] at hsplit
  have hdot : ".".toList = ['.'] := rfl
  rw [hdot, List.splitOn_intercalate _ (hdigits _) (by simpa using hkind),
    List.splitOn_intercalate _ (hdigits _) (by simpa using hother)] at hsplit
  have hrepr : Function.Injective fun arc ↦ (Nat.repr arc).toList := fun arc arc' harc ↦
    repr_injective (String.toList_inj.1 harc)
  rw [List.map_map, List.map_map] at hsplit
  exact List.map_injective_iff.2 hrepr hsplit

namespace Name

/-- May the character stand in the printed form of a type? -/
def isKindChar (c : Char) : Bool := c ∉ [',', ' ', '+', '=']

theorem mem_kindNames_of_lookup {kind : Oid} {name : String}
    (h : kindNames.lookup kind = some name) : (kind, name) ∈ kindNames := by
  obtain ⟨before, behind, hlist, -⟩ := List.lookup_eq_some_iff.1 h
  rw [hlist]
  simp

/-- The printed form of a type holds no separator. -/
theorem isKindChar_of_mem_kindText {kind : Oid} :
    ∀ c ∈ (kindText kind).toList, isKindChar c = true := by
  rw [← List.all_eq_true, kindText]
  split
  · next name hname =>
    have hall : (kindNames.all fun pair ↦ pair.2.toList.all isKindChar) = true := by decide
    exact List.all_eq_true.1 hall _ (mem_kindNames_of_lookup hname)
  · have hdigit : ∀ c : Char, c.isDigit = true → isKindChar c = true := by
      intro c hc
      simp only [isKindChar, List.mem_cons, List.not_mem_nil, or_false, decide_eq_true_eq]
      rintro (rfl | rfl | rfl | rfl) <;> exact absurd hc (by decide)
    have hdotted : kind.dotted.toList.all isKindChar = true := by
      rw [List.all_eq_true, Oid.dotted, String.toList_intercalate]
      refine forall_mem_intercalate (by simp [isKindChar]) fun text htext c hc ↦ hdigit c ?_
      simp only [List.map_map, List.mem_map, Function.comp_apply] at htext
      obtain ⟨arc, -, rfl⟩ := htext
      rw [Nat.repr_eq_ofList_toDigits, String.toList_ofList] at hc
      exact Nat.isDigit_of_mem_toDigits (by decide) (by decide) hc
    have hframe : "OID(".toList.all isKindChar = true ∧ ")".toList.all isKindChar = true := by
      decide
    rw [String.toList_append, String.toList_append, List.all_append, List.all_append, hframe.1,
      hdotted, hframe.2]
    rfl

/-- **Types that print alike are the same.** -/
theorem arcs_eq_of_kindText_eq {kind other : Oid} (h : kindText kind = kindText other) :
    kind.arcs = other.arcs := by
  have hdifferent : (kindNames.map Prod.snd).Nodup := by decide
  have hbracket : ∀ {kind name}, kindNames.lookup kind = some name → '(' ∉ name.toList := by
    intro kind name hname
    have hall : (kindNames.all fun pair ↦ '(' ∉ pair.2.toList) = true := by decide
    simpa using List.all_eq_true.1 hall _ (mem_kindNames_of_lookup hname)
  have hdotted : ∀ kind : Oid, '(' ∈ ("OID(" ++ kind.dotted ++ ")").toList := by simp
  rw [kindText, kindText] at h
  split at h
  · next name hname =>
    split at h
    · next name' hname' =>
      subst h
      have hpair := List.inj_on_of_nodup_map hdifferent (mem_kindNames_of_lookup hname)
        (mem_kindNames_of_lookup hname') rfl
      exact congrArg (Oid.arcs ∘ Prod.fst) hpair
    · exact absurd (h ▸ hdotted other) (hbracket hname)
  · split at h
    · next name' hname' =>
      exact absurd (h ▸ hdotted kind) (hbracket hname')
    · refine Oid.arcs_eq_of_dotted_eq (String.toList_inj.1 ?_)
      simpa using congrArg String.toList h

end Name

/-! ### Pieces of printed names -/

/-- What an attribute is set off with: a comma if it starts a relative name, a plus sign if it goes
on with one. -/
inductive Separator where
  | comma
  | plus
deriving DecidableEq, Repr

/-- The characters of a separator. -/
def Separator.chars : Separator → List Char
  | .comma => [',', ' ']
  | .plus => [' ', '+', ' ']

/-- A separator is a character, others that are neither commas nor spaces, and a space. -/
theorem Separator.exists_chars_eq (separator : Separator) :
    ∃ first inner, separator.chars = first :: (inner ++ [' ']) ∧ ',' ∉ inner ∧ ' ' ∉ inner := by
  cases separator with
  | comma => exact ⟨',', [], rfl, by simp, by simp⟩
  | plus => exact ⟨' ', ['+'], rfl, by decide, by decide⟩

/-- A text begins with one separator at most. -/
theorem Separator.eq_of_append_eq {separator other : Separator} {xs ys : List Char}
    (h : separator.chars ++ xs = other.chars ++ ys) : separator = other ∧ xs = ys := by
  have hfirst := congrArg List.head? h
  cases separator <;> cases other
  · exact ⟨rfl, List.append_cancel_left h⟩
  · exact absurd hfirst (by simp [chars])
  · exact absurd hfirst (by simp [chars])
  · exact ⟨rfl, List.append_cancel_left h⟩

/-- An attribute as it prints, with what sets it off. -/
structure Piece where
  separator : Separator
  kind : String
  value : String
deriving DecidableEq, Repr

namespace Piece

/-- What stands in front of the value. -/
def heading (piece : Piece) : List Char :=
  piece.separator.chars ++ piece.kind.toList ++ ['=']

/-- The characters of the piece. -/
def chars (piece : Piece) : List Char := piece.heading ++ piece.value.toList

end Piece

/-- Does another attribute seem to begin in the text? -/
def Name.HoldsHeading (text : String) : Prop :=
  ∃ separator kind, (⟨separator, Name.kindText kind, ""⟩ : Piece).heading <:+: text.toList

/-- A text without an equals sign holds no heading. -/
theorem Name.not_holdsHeading {text : String} (h : '=' ∉ text.toList) : ¬ HoldsHeading text := by
  rintro ⟨separator, kind, hinside⟩
  exact h (hinside.subset (by simp [Piece.heading]))

namespace Piece

/-- Is the piece that of a known kind, with a value in which no other seems to begin? -/
structure IsPlain (piece : Piece) : Prop where
  kind : ∃ kind, piece.kind = Name.kindText kind
  value : ¬ Name.HoldsHeading piece.value

variable {piece : Piece} {pieces others : List Piece} {seen rest more : List Char}

theorem IsPlain.isKindChar (h : piece.IsPlain) :
    ∀ c ∈ piece.kind.toList, Name.isKindChar c = true := by
  obtain ⟨kind, hkind⟩ := h.kind
  rw [hkind]
  exact Name.isKindChar_of_mem_kindText

/-- **No separator begins within a heading**, also if it ends behind it. -/
theorem not_isPrefix_of_heading_eq (h : piece.IsPlain) {first c : Char} {cut : List Char}
    (hheading : piece.heading = first :: seen ++ c :: cut) (separator : Separator) :
    ¬ separator.chars <+: c :: cut ++ more := by
  rintro ⟨behind, hbehind⟩
  -- behind its first character the heading has no comma and one space
  obtain ⟨start, inner, hchars, hcomma, hspace⟩ := piece.separator.exists_chars_eq
  have hkind : ∀ c ∈ piece.kind.toList, c ∉ [',', ' ', '+', '='] := by
    simpa [Name.isKindChar] using h.isKindChar
  have htail : inner ++ ' ' :: (piece.kind.toList ++ ['=']) = seen ++ c :: cut := by
    rw [heading, hchars] at hheading
    simpa using (List.cons.inj hheading).2
  cases separator with
  | comma =>
    obtain rfl : ',' = c := (List.cons.inj hbehind).1
    have hmem : ',' ∈ inner ++ ' ' :: (piece.kind.toList ++ ['=']) := htail ▸ by simp
    simp only [List.mem_append, List.mem_cons, List.not_mem_nil, or_false] at hmem
    rcases hmem with hmem | hmem | hmem | hmem
    · exact hcomma hmem
    · exact absurd hmem (by decide)
    · exact hkind _ hmem (by simp)
    · exact absurd hmem (by decide)
  | plus =>
    obtain rfl : ' ' = c := (List.cons.inj hbehind).1
    have hplus : '+' :: ' ' :: behind = cut ++ more := (List.cons.inj hbehind).2
    have hnone : ' ' ∉ piece.kind.toList ++ ['='] := by
      simpa using fun hmem ↦ hkind _ hmem (by simp)
    obtain ⟨-, -, rfl⟩ := (List.append_cons_inj_of_notMem hspace hnone).1 htail
    cases hkindChars : piece.kind.toList with
    | nil =>
      rw [hkindChars] at hplus
      exact absurd (List.cons.inj hplus).1 (by decide)
    | cons k kind =>
      rw [hkindChars] at hplus
      obtain rfl : '+' = k := (List.cons.inj hplus).1
      exact hkind '+' (by simp [hkindChars]) (by simp)

/-- If a text begins with a heading and is cut where nothing or a separator follows, the heading
stands in front of the cut. -/
theorem heading_isPrefix (h : piece.IsPlain) (hseen : seen ≠ [])
    (hrest : rest = [] ∨ ∃ separator : Separator, separator.chars <+: rest)
    (heq : seen ++ rest = piece.heading ++ more) : piece.heading <+: seen := by
  rcases List.append_eq_append_iff.1 heq with ⟨cut, hheading, rfl⟩ | ⟨cut, hcut, -⟩
  · cases cut with
    | nil =>
      rw [List.append_nil] at hheading
      exact hheading ▸ List.prefix_rfl
    | cons c cut =>
      obtain ⟨first, seen, rfl⟩ := List.exists_cons_of_ne_nil hseen
      obtain ⟨separator, hseparator⟩ := hrest.resolve_left (by simp)
      exact absurd hseparator (not_isPrefix_of_heading_eq h hheading separator)
  · exact ⟨cut, hcut.symm⟩

/-- Nothing follows the pieces, or a separator does. -/
theorem flatMap_chars_eq_nil_or (pieces : List Piece) :
    pieces.flatMap chars = [] ∨
      ∃ separator : Separator, separator.chars <+: pieces.flatMap chars := by
  cases pieces with
  | nil => exact .inl rfl
  | cons piece pieces =>
    exact .inr ⟨piece.separator, by simp [chars, heading, List.append_assoc]⟩

/-- A value that goes on where another ends, and on to where pieces follow, does not. -/
theorem eq_nil_of_append_flatMap (hpieces : ∀ piece ∈ pieces, piece.IsPlain) {text : String}
    {value : List Char} (htext : ¬ Name.HoldsHeading text) (hvalue : value ++ seen = text.toList)
    (h : pieces.flatMap chars = seen ++ others.flatMap chars) : seen = [] := by
  by_contra hseen
  cases pieces with
  | nil => simp_all
  | cons piece pieces =>
    rw [List.flatMap_cons, chars, List.append_assoc] at h
    obtain ⟨kind, hkind⟩ := (hpieces piece (.head _)).kind
    obtain ⟨behind, rfl⟩ := heading_isPrefix (hpieces piece (.head _)) hseen
      (flatMap_chars_eq_nil_or others) h.symm
    exact htext ⟨piece.separator, kind, value, behind, by rw [← hvalue, ← hkind]; simp [heading]⟩

/-- **A text is made of plain pieces in one way.** -/
theorem eq_of_flatMap_chars_eq (hpieces : ∀ piece ∈ pieces, piece.IsPlain)
    (hothers : ∀ piece ∈ others, piece.IsPlain)
    (h : pieces.flatMap chars = others.flatMap chars) : pieces = others := by
  induction pieces generalizing others with
  | nil =>
    cases others with
    | nil => rfl
    | cons other others => simp [chars, heading] at h
  | cons piece pieces ih =>
    cases others with
    | nil => simp [chars, heading] at h
    | cons other others =>
      rw [List.forall_mem_cons] at hpieces hothers
      obtain ⟨hpiece, hpieces⟩ := hpieces
      obtain ⟨hother, hothers⟩ := hothers
      simp only [List.flatMap_cons, chars, heading, List.append_assoc, List.singleton_append] at h
      obtain ⟨hseparator, h⟩ := Separator.eq_of_append_eq h
      have hequals : ∀ {piece : Piece}, piece.IsPlain → '=' ∉ piece.kind.toList := fun hplain hmem ↦
        absurd (hplain.isKindChar _ hmem) (by decide)
      obtain ⟨hkind, h⟩ := eq_of_append_cons (hequals hpiece) (hequals hother) h
      -- neither value can go on where the other ends
      obtain ⟨hvalue, hrest⟩ : piece.value.toList = other.value.toList ∧
          pieces.flatMap chars = others.flatMap chars := by
        rcases List.append_eq_append_iff.1 h with ⟨seen, hvalue, hmore⟩ | ⟨seen, hvalue, hmore⟩
        · obtain rfl := eq_nil_of_append_flatMap hpieces hother.value hvalue.symm hmore
          exact ⟨by simpa using hvalue.symm, hmore⟩
        · obtain rfl := eq_nil_of_append_flatMap hothers hpiece.value hvalue.symm hmore
          exact ⟨by simpa using hvalue, hmore.symm⟩
      obtain ⟨separator, kind, value⟩ := piece
      obtain ⟨separator', kind', value'⟩ := other
      obtain rfl : separator = separator' := hseparator
      obtain rfl : kind = kind' := String.toList_inj.1 hkind
      obtain rfl : value = value' := String.toList_inj.1 hvalue
      rw [ih hpieces hothers hrest]

end Piece

/-! ### What names mean -/

/-- What the value of an attribute is: the characters of a string, of whatever type, if its octets
spell some, and else the octets with their tag. -/
inductive Attribute.Content where
  | text (text : String)
  | octets (tag : Nat) (octets : Bytes)
deriving DecidableEq, Repr

/-- The text of a value that is a string and spells characters. -/
def Attribute.string? (item : Attribute) : Option String :=
  if item.tag ∈ Name.utf8Tags ∨ item.tag = Name.bmpStringTag then Name.valueText? item else none

/-- What the value of an attribute is. -/
def Attribute.content (item : Attribute) : Content :=
  match item.string? with
  | some text => .text text
  | none => .octets item.tag item.value

namespace Name

/-- The distinguished name as such: its relative names, with the types of their attributes and what
the values are. -/
def meaning (name : Name) : List (List (List Nat × Attribute.Content)) :=
  name.parts.map fun part ↦ part.map fun item ↦ (item.kind.arcs, item.content)

/-- Has every relative name an attribute, as in names that were read? -/
def IsProper (name : Name) : Prop := ∀ part ∈ name.parts, part ≠ []

/-- Are all values strings in which no other attribute seems to begin? -/
def IsPlain (name : Name) : Prop :=
  ∀ part ∈ name.parts, ∀ item ∈ part, ∃ text, item.string? = some text ∧ ¬ HoldsHeading text

/-- The printed form of a value, if it has one. -/
def valueText (item : Attribute) : String := (valueText? item).getD ""

/-- An attribute as a piece. -/
def pieceOf (separator : Separator) (item : Attribute) : Piece :=
  ⟨separator, kindText item.kind, valueText item⟩

/-- The pieces of a relative name. -/
def partPieces : List Attribute → List Piece
  | [] => []
  | first :: others => pieceOf .comma first :: others.map (pieceOf .plus)

/-- The pieces of a name. -/
def pieces (name : Name) : List Piece := name.parts.flatMap partPieces

variable {name other : Name} {item : Attribute}

/-! ### Names in pieces -/

theorem valueText?_of_string? {text : String} (h : item.string? = some text) :
    valueText? item = some text := by
  rw [Attribute.string?] at h
  split_ifs at h
  exact h

/-- A map that succeeds at each item succeeds. -/
theorem mapM_eq_some_map {α β : Type} {f : α → Option β} {g : α → β} {xs : List α}
    (h : ∀ x ∈ xs, f x = some (g x)) : xs.mapM f = some (xs.map g) := by
  induction xs with
  | nil => rfl
  | cons x xs ih =>
    rw [List.forall_mem_cons] at h
    rw [List.mapM_cons, h.1, ih h.2]
    rfl

/-- The printed form of an attribute whose value has one. -/
def attributeText (item : Attribute) : String := kindText item.kind ++ "=" ++ valueText item

/-- A plain name prints. -/
theorem text_of_isPlain (h : name.IsPlain) :
    name.text = ", ".intercalate
      (name.parts.map fun part ↦ " + ".intercalate (part.map attributeText)) := by
  have hitem : ∀ part ∈ name.parts, ∀ item ∈ part,
      attributeText? item = some (attributeText item) := by
    intro part hpart item hitem
    obtain ⟨text, htext, -⟩ := h part hpart item hitem
    simp only [attributeText?, attributeText, valueText, valueText?_of_string? htext,
      Option.map_some, Option.getD_some]
  have hpart : ∀ part ∈ name.parts,
      partText? part = some (" + ".intercalate (part.map attributeText)) := fun part hpart ↦ by
    rw [partText?, mapM_eq_some_map (hitem part hpart), Option.map_some]
  rw [text, text?, mapM_eq_some_map hpart, Option.map_some, Option.getD_some]

/-- The text of a relative name is that of its pieces. -/
theorem toList_partText {part : List Attribute} (hne : part ≠ []) :
    Separator.comma.chars ++ (" + ".intercalate (part.map attributeText)).toList =
      (partPieces part).flatMap Piece.chars := by
  obtain ⟨first, others, rfl⟩ := List.exists_cons_of_ne_nil hne
  have hchars : ∀ separator item,
      (pieceOf separator item).chars = separator.chars ++ (attributeText item).toList :=
    fun separator item ↦ by simp [pieceOf, Piece.chars, Piece.heading, attributeText]
  rw [String.toList_intercalate, List.map_cons, List.map_cons, intercalate_cons, partPieces,
    List.flatMap_cons, hchars, List.flatMap_map, List.flatMap_map, List.flatMap_map,
    List.append_assoc]
  simp only [hchars]
  rfl

/-- **The text of a plain name, behind a comma and a space, is that of its pieces.** -/
theorem toList_text (h : name.IsPlain) (hproper : name.IsProper)
    (hparts : name.parts ≠ []) :
    Separator.comma.chars ++ name.text.toList = name.pieces.flatMap Piece.chars := by
  rw [text_of_isPlain h, pieces, String.toList_intercalate, List.map_map, List.flatMap_assoc]
  calc Separator.comma.chars ++ ", ".toList.intercalate (name.parts.map _)
      = (name.parts.map _).flatMap (Separator.comma.chars ++ ·) :=
        append_intercalate _ (by simpa using hparts)
    _ = name.parts.flatMap fun part ↦ (partPieces part).flatMap Piece.chars := by
      rw [List.flatMap_map]
      exact List.flatMap_congr fun part hpart ↦ toList_partText (hproper part hpart)

/-- The pieces of a plain name are plain. -/
theorem isPlain_of_mem_pieces (h : name.IsPlain) : ∀ piece ∈ name.pieces, piece.IsPlain := by
  intro piece hpiece
  obtain ⟨part, hpart, hpiece⟩ := List.mem_flatMap.1 hpiece
  have hitem : ∀ item ∈ part, ∀ separator, (pieceOf separator item).IsPlain := by
    intro item hitem separator
    obtain ⟨text, htext, hheading⟩ := h part hpart item hitem
    refine ⟨⟨item.kind, rfl⟩, ?_⟩
    simpa [pieceOf, valueText, valueText?_of_string? htext] using hheading
  cases part with
  | nil => cases hpiece
  | cons first others =>
    rcases List.mem_cons.1 hpiece with rfl | hpiece
    · exact hitem first (.head _) _
    · obtain ⟨item, hmem, rfl⟩ := List.mem_map.1 hpiece
      exact hitem item (.tail _ hmem) _

/-- Only the name without relative names prints without an equals sign. -/
theorem mem_text_iff (h : name.IsPlain) (hproper : name.IsProper) :
    '=' ∈ name.text.toList ↔ name.parts ≠ [] := by
  constructor
  · intro hmem hparts
    simp [text, text?, hparts] at hmem
  · intro hparts
    have hchars := toList_text h hproper hparts
    obtain ⟨part, parts, hpart⟩ := List.exists_cons_of_ne_nil hparts
    obtain ⟨first, others, rfl⟩ := List.exists_cons_of_ne_nil (hproper part (by simp [hpart]))
    have hmem : '=' ∈ Separator.comma.chars ++ name.text.toList := by
      rw [hchars, pieces, hpart]
      simp [partPieces, pieceOf, Piece.chars, Piece.heading]
    simpa [Separator.chars] using hmem

/-- **Plain names that print alike have the same pieces.** -/
theorem pieces_eq_of_text_eq (hname : name.IsPlain) (hother : other.IsPlain)
    (hname' : name.IsProper) (hother' : other.IsProper) (h : name.text = other.text) :
    name.pieces = other.pieces := by
  have hparts : name.parts ≠ [] ↔ other.parts ≠ [] := by
    rw [← mem_text_iff hname hname', h, mem_text_iff hother hother']
  by_cases hempty : name.parts = []
  · rw [pieces, pieces, hempty, not_not.1 fun hne ↦ hparts.2 hne hempty]
  · refine Piece.eq_of_flatMap_chars_eq (isPlain_of_mem_pieces hname)
      (isPlain_of_mem_pieces hother) ?_
    rw [← toList_text hname hname' hempty, ← toList_text hother hother' (hparts.1 hempty), h]

end Name

/-! ### Names from pieces -/

/-- Puts a piece in front of a relative name that has been started from its end, and of the relative
names behind it. -/
def Piece.gather (piece : Piece) :
    List (String × String) × List (List (String × String)) →
      List (String × String) × List (List (String × String))
  | (started, done) =>
    match piece.separator with
    | .comma => ([], ((piece.kind, piece.value) :: started) :: done)
    | .plus => ((piece.kind, piece.value) :: started, done)

namespace Name

variable {name other : Name} {item : Attribute}

/-- Pieces tell the types and values as they print, and which of them belong together. -/
theorem foldr_gather_pieces (hproper : name.IsProper) :
    name.pieces.foldr Piece.gather ([], []) =
      ([], name.parts.map fun part ↦ part.map fun item ↦ (kindText item.kind, valueText item)) := by
  rw [pieces]
  rw [IsProper] at hproper
  generalize name.parts = parts at hproper
  induction parts with
  | nil => rfl
  | cons part parts ih =>
    rw [List.forall_mem_cons] at hproper
    obtain ⟨first, others, rfl⟩ := List.exists_cons_of_ne_nil hproper.1
    have hothers : ∀ (items : List Attribute) done,
        (items.map (pieceOf .plus)).foldr Piece.gather ([], done) =
          (items.map fun item ↦ (kindText item.kind, valueText item), done) := by
      intro items done
      induction items with
      | nil => rfl
      | cons item items ih => rw [List.map_cons, List.foldr_cons, ih]; rfl
    rw [List.flatMap_cons, List.foldr_append, ih hproper.2, partPieces, List.foldr_cons, hothers]
    rfl

/-- Lists that one map does not tell apart are not told apart by a coarser one. -/
theorem map_eq_of_map_eq {α β γ : Type} {f : α → β} {g : α → γ} {xs ys : List α}
    (h : xs.map g = ys.map g) (hfg : ∀ x ∈ xs, ∀ y ∈ ys, g x = g y → f x = f y) :
    xs.map f = ys.map f := by
  induction xs generalizing ys with
  | nil =>
    obtain rfl : ys = [] := by simpa using h.symm
    rfl
  | cons x xs ih =>
    cases ys with
    | nil => cases h
    | cons y ys =>
      obtain ⟨hxy, hrest⟩ := List.cons.inj h
      rw [List.map_cons, List.map_cons, hfg x (.head _) y (.head _) hxy,
        ih hrest fun x hx y hy ↦ hfg x (.tail _ hx) y (.tail _ hy)]

/-- **Plain names that print alike are the same**: they have the same relative names, with the same
types and the same characters. -/
theorem meaning_eq_of_text_eq (hname : name.IsPlain) (hother : other.IsPlain)
    (hname' : name.IsProper) (hother' : other.IsProper) (h : name.text = other.text) :
    name.meaning = other.meaning := by
  have htexts := congrArg (fun pieces ↦ (pieces.foldr Piece.gather ([], [])).2)
    (pieces_eq_of_text_eq hname hother hname' hother' h)
  simp only [foldr_gather_pieces hname', foldr_gather_pieces hother'] at htexts
  have hcontent : ∀ {name : Name}, name.IsPlain → ∀ part ∈ name.parts, ∀ item ∈ part,
      item.content = .text (valueText item) := by
    intro name hplain part hpart item hitem
    obtain ⟨text, htext, -⟩ := hplain part hpart item hitem
    rw [Attribute.content, htext, valueText, valueText?_of_string? htext]
    rfl
  refine map_eq_of_map_eq htexts fun part hpart part' hpart' hparts ↦
    map_eq_of_map_eq hparts fun item hitem item' hitem' hitems ↦ ?_
  obtain ⟨hkind, hvalue⟩ := Prod.mk.inj hitems
  rw [hcontent hname part hpart item hitem, hcontent hother part' hpart' item' hitem', hvalue,
    arcs_eq_of_kindText_eq hkind]

/-- An integer prints like a string of its hexadecimal digits. -/
example : (⟨[[⟨commonName, 2, [0xCA]⟩]]⟩ : Name).text =
    (⟨[utf8Part commonName "CA"]⟩ : Name).text := by
  decide

/-- All names with an undecodable string print alike. -/
example : (⟨[[⟨commonName, 12, [0xFF]⟩]]⟩ : Name).text =
    (⟨[[⟨organization, 12, [0xFF]⟩]]⟩ : Name).text := by
  decide

/-! ### Names of strings -/

theorem valueText?_ofString {tag : Nat} (h : tag ∈ utf8Tags) (kind : Oid) (text : String) :
    valueText? ⟨kind, tag, Utf8.ofString text⟩ = some text := by
  rw [valueText?, if_pos h]
  exact Utf8.toString?_ofString text

theorem string?_ofString {tag : Nat} (h : tag ∈ utf8Tags) (kind : Oid) (text : String) :
    Attribute.string? ⟨kind, tag, Utf8.ofString text⟩ = some text := by
  rw [Attribute.string?, if_pos (.inl h), valueText?_ofString h]

theorem utf8StringTag_mem : Der.utf8StringTag ∈ utf8Tags := by decide

/-- A name of strings without equals signs is plain. -/
theorem isPlain_of_strings (fields : List (Oid × Nat × String))
    (h : ∀ field ∈ fields, field.2.1 ∈ utf8Tags ∧ '=' ∉ field.2.2.toList) :
    (⟨fields.map fun (kind, tag, text) ↦ [⟨kind, tag, Utf8.ofString text⟩]⟩ : Name).IsPlain := by
  intro part hpart item hitem
  obtain ⟨⟨kind, tag, text⟩, hfield, rfl⟩ := List.mem_map.1 hpart
  obtain rfl := List.mem_singleton.1 hitem
  obtain ⟨htag, hequals⟩ := h _ hfield
  exact ⟨text, string?_ofString htag kind text, not_holdsHeading hequals⟩

/-- What a name of UTF-8 strings prints as. -/
theorem text_utf8Parts (fields : List (Oid × String)) :
    (⟨fields.map fun (kind, text) ↦ utf8Part kind text⟩ : Name).text =
      ", ".intercalate (fields.map fun (kind, text) ↦ kindText kind ++ "=" ++ text) := by
  have hpart : ∀ field ∈ fields,
      (partText? ∘ fun (kind, text) ↦ utf8Part kind text) field =
        some ((fun (kind, text) ↦ kindText kind ++ "=" ++ text) field) := fun field _ ↦ by
    simp [partText?, utf8Part, attributeText?, valueText?_ofString utf8StringTag_mem]
  rw [text, text?, List.mapM_map, mapM_eq_some_map hpart, Option.map_some, Option.getD_some]

/-! ### Doubles -/

theorem exists_intercalate_cons_eq (separator first : String) (others : List String) :
    ∃ rest, separator.intercalate (first :: others) = first ++ rest := by
  cases others with
  | nil => exact ⟨"", by simp⟩
  | cons second others => exact ⟨_, by rw [String.intercalate_cons_cons, String.append_assoc]⟩

/-- A printed form starts with the type of the first attribute. -/
theorem exists_text?_eq {first : Attribute} {others : List Attribute}
    {parts : List (List Attribute)} {text : String}
    (h : text? ⟨(first :: others) :: parts⟩ = some text) :
    ∃ value, text = kindText first.kind ++ "=" ++ value := by
  obtain ⟨texts, htexts, rfl⟩ := Option.map_eq_some_iff.1 h
  rw [List.mapM_cons] at htexts
  obtain ⟨partText, hpart, htexts⟩ := Option.bind_eq_some_iff.1 htexts
  obtain ⟨more, -, htexts⟩ := Option.bind_eq_some_iff.1 htexts
  obtain rfl := Option.some.inj htexts
  obtain ⟨items, hitems, rfl⟩ := Option.map_eq_some_iff.1 hpart
  rw [List.mapM_cons] at hitems
  obtain ⟨itemText, hitem, hitems⟩ := Option.bind_eq_some_iff.1 hitems
  obtain ⟨moreItems, -, hitems⟩ := Option.bind_eq_some_iff.1 hitems
  obtain rfl := Option.some.inj hitems
  obtain ⟨value, -, rfl⟩ := Option.map_eq_some_iff.1 hitem
  obtain ⟨rest, hrest⟩ := exists_intercalate_cons_eq " + " (kindText first.kind ++ "=" ++ value)
    moreItems
  obtain ⟨rest', hrest'⟩ := exists_intercalate_cons_eq ", " (" + ".intercalate
    ((kindText first.kind ++ "=" ++ value) :: moreItems)) more
  exact ⟨value ++ rest ++ rest', by rw [hrest', hrest]; simp only [String.append_assoc]⟩

/-- **Every name of several attributes has a double**: a name of one attribute that prints alike. -/
theorem exists_double (hproper : name.IsProper) (hne : name.parts ≠ [])
    (hseveral : ∀ item, name.parts ≠ [[item]]) :
    ∃ double : Attribute, text ⟨[[double]]⟩ = name.text ∧ meaning ⟨[[double]]⟩ ≠ name.meaning := by
  have hmeaning : ∀ double : Attribute, meaning ⟨[[double]]⟩ ≠ name.meaning := by
    intro double h
    rw [meaning, meaning, List.map_singleton, eq_comm, List.map_eq_singleton_iff] at h
    obtain ⟨part, hpart, hitem⟩ := h
    rw [List.map_singleton, List.map_eq_singleton_iff] at hitem
    obtain ⟨item, rfl, -⟩ := hitem
    exact hseveral item hpart
  obtain ⟨parts⟩ := name
  cases htext : text? ⟨parts⟩ with
  | none => exact ⟨⟨commonName, 12, [0xFF]⟩, by rw [text, text, htext]; rfl, hmeaning _⟩
  | some text =>
    obtain ⟨part, parts, rfl⟩ := List.exists_cons_of_ne_nil hne
    obtain ⟨first, others, rfl⟩ := List.exists_cons_of_ne_nil (hproper part (.head _))
    obtain ⟨value, rfl⟩ := exists_text?_eq htext
    refine ⟨⟨first.kind, Der.utf8StringTag, Utf8.ofString value⟩, ?_, hmeaning _⟩
    refine (text_utf8Parts [(first.kind, value)]).trans ?_
    rw [Name.text, htext]
    simp

end Name

end WebhookTrust
