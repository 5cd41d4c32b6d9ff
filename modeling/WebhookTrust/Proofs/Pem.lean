import WebhookTrust.Encoding.Pem
import WebhookTrust.Proofs.Base64

/-!
# The laws of PEM blocks

A block may be armoured in many ways: its data may be cut into lines anywhere, and any line may end
in a line feed alone or in a carriage return and a line feed (`Armour`). Reading undoes all of them
(`read_armour`), also behind bytes that hold no dash and in front of any bytes. What is written is
one of them (`exists_armour_write`), so reading undoes writing (`read_append_write`).

The markers are found where they were written since the search can only start at a dash, and
neither a tag nor the armoured data hold one. There is no blank line in the data, so all of it is
data: after the end of a line the search for a blank line is half done, and the first byte of the
next line undoes it (`splitFrom_lines`).

What is written is ASCII (`write_ascii`), while what is read need not be: only the parts of the
block have to be text.
-/

namespace WebhookTrust.Pem

/-! ### Finding markers -/

section Markers

variable {marker before behind bytes : Bytes}

/-- Bytes without a marker's first byte are passed over. -/
theorem splitFrom_append {first : UInt8} {more : Bytes} (h : first ∉ before) (seen : Bytes) :
    splitFrom (first :: more) (first :: more) seen (before ++ bytes) =
      splitFrom (first :: more) (first :: more) (before.reverse ++ seen) bytes := by
  induction before generalizing seen with
  | nil => rfl
  | cons b rest ih =>
    rw [List.mem_cons, not_or] at h
    rw [List.cons_append, splitFrom, if_neg (Ne.symm h.1), ih h.2, List.reverse_cons,
      List.append_assoc, List.singleton_append]

/-- A marker, or the rest of one, that stands where it is looked for. -/
theorem splitFrom_marker {b : UInt8} {todo : Bytes} (seen : Bytes) :
    splitFrom marker (b :: todo) seen (b :: todo ++ bytes) =
      some ((((b :: todo).reverse ++ seen).drop marker.length).reverse, bytes) := by
  induction todo generalizing b seen with
  | nil => simp [splitFrom]
  | cons c todo ih =>
    rw [List.cons_append, splitFrom, if_pos rfl, List.isEmpty_cons, if_neg Bool.false_ne_true, ih]
    simp

/-- **A marker is found behind bytes that do not hold its first byte.** -/
theorem splitAtMarker_append (first : UInt8) (more : Bytes) (h : first ∉ before) :
    splitAtMarker (first :: more) (before ++ (first :: more) ++ behind) =
      some (before, behind) := by
  have hdrop : ((first :: more).reverse ++ (before.reverse ++ [])).drop (first :: more).length =
      before.reverse := by
    rw [List.append_nil]
    exact List.drop_left' (List.length_reverse ..)
  rw [splitAtMarker, List.append_assoc, splitFrom_append h, splitFrom_marker, hdrop,
    List.reverse_reverse]

/-- In the middle of a search, bytes that are not in the marker send it back to the start. -/
theorem splitFrom_skip {first m : UInt8} {more todo text : Bytes} (hne : text ≠ [])
    (htext : ∀ b ∈ text, b ∉ first :: more) (hm : m ∈ first :: more) (seen : Bytes) :
    splitFrom (first :: more) (m :: todo) seen (text ++ bytes) =
      splitFrom (first :: more) (first :: more) (text.reverse ++ seen) bytes := by
  obtain ⟨b, rest, rfl⟩ := List.exists_cons_of_ne_nil hne
  have hb : b ≠ m := fun heq ↦ htext b List.mem_cons_self (heq ▸ hm)
  have hrest : first ∉ rest := fun hmem ↦
    htext first (List.mem_cons_of_mem b hmem) List.mem_cons_self
  rw [List.cons_append, splitFrom, if_neg hb, splitFrom_append hrest, List.reverse_cons,
    List.append_assoc, List.singleton_append]

end Markers

/-! ### Lines -/

/-- How a line ends: in a line feed, which may have a carriage return in front. -/
inductive LineEnd where
  | feed
  | returnFeed
deriving DecidableEq, Repr

/-- The bytes that end a line. -/
def LineEnd.bytes : LineEnd → Bytes
  | .feed => [10]
  | .returnFeed => [13, 10]

/-- A line of data, which is not blank. -/
structure Line where
  text : Bytes
  lineEnd : LineEnd
  ne_nil : text ≠ []

/-- The line as it stands in a file. -/
def Line.bytes (line : Line) : Bytes := line.text ++ line.lineEnd.bytes

/-- Is the byte one that a line of armoured data consists of? -/
def IsSymbol (b : UInt8) : Prop :=
  b ≠ 45 ∧ b < 0x80 ∧ isSpace b = false ∧ isBlank (Char.ofNat b.toNat) = false

instance (b : UInt8) : Decidable (IsSymbol b) := inferInstanceAs (Decidable (_ ∧ _ ∧ _ ∧ _))

theorem isSymbol_encode (bytes : Bytes) : ∀ b ∈ Base64.encode bytes, IsSymbol b :=
  Base64.forall_mem_encode (by decide) (by decide) bytes

theorem isSpace_of_mem_lineEnd {lineEnd : LineEnd} : ∀ b ∈ lineEnd.bytes, isSpace b = true := by
  have hall : lineEnd.bytes.all isSpace = true := by cases lineEnd <;> rfl
  exact List.all_eq_true.1 hall

/-- A symbol ends no line. -/
theorem IsSymbol.notMem_lineEnd {b : UInt8} (h : IsSymbol b) (lineEnd : LineEnd) :
    b ∉ lineEnd.bytes := by
  obtain ⟨-, -, hspace, -⟩ := h
  intro hmem
  rw [isSpace_of_mem_lineEnd b hmem] at hspace
  exact Bool.noConfusion hspace

section Lines

variable {lines : List Line} (h : ∀ b ∈ lines.flatMap Line.text, IsSymbol b)

/-- What is true of the ends of lines and of the data in them is true of the lines. -/
theorem forall_mem_lines {P : UInt8 → Prop} (hreturn : P 13) (hfeed : P 10)
    (hdata : ∀ b ∈ lines.flatMap Line.text, P b) : ∀ b ∈ lines.flatMap Line.bytes, P b := by
  intro b hb
  obtain ⟨line, hline, hb⟩ := List.mem_flatMap.1 hb
  have hends : ∀ b ∈ line.lineEnd.bytes, P b := by
    cases line.lineEnd with
    | feed => simpa [LineEnd.bytes] using hfeed
    | returnFeed => simpa [LineEnd.bytes] using ⟨hreturn, hfeed⟩
  rcases List.mem_append.1 hb with htext | hend
  · exact hdata b (List.mem_flatMap.2 ⟨line, hline, htext⟩)
  · exact hends b hend

include h in
/-- **There is no blank line among lines of data.** A search for one has nothing yet or the end of
one line at the start of the next. -/
theorem splitFrom_lines (lineEnd : LineEnd) {todo : Bytes}
    (htodo : todo = lineEnd.bytes ++ lineEnd.bytes ∨ todo = lineEnd.bytes) (seen : Bytes) :
    splitFrom (lineEnd.bytes ++ lineEnd.bytes) todo seen (lines.flatMap Line.bytes) = none := by
  induction lines generalizing todo seen with
  | nil => rw [List.flatMap_nil, splitFrom]
  | cons line lines ih =>
    rw [List.flatMap_cons, List.forall_mem_append] at h
    have hskip : splitFrom (lineEnd.bytes ++ lineEnd.bytes) todo seen
        (line.text ++ (line.lineEnd.bytes ++ lines.flatMap Line.bytes)) =
          splitFrom (lineEnd.bytes ++ lineEnd.bytes) (lineEnd.bytes ++ lineEnd.bytes)
            (line.text.reverse ++ seen) (line.lineEnd.bytes ++ lines.flatMap Line.bytes) := by
      have hnot : ∀ b ∈ line.text, b ∉ lineEnd.bytes ++ lineEnd.bytes := fun b hb hmem ↦
        (h.1 b hb).notMem_lineEnd lineEnd (by simpa using hmem)
      cases lineEnd <;> rcases htodo with rfl | rfl <;>
        exact splitFrom_skip line.ne_nil hnot List.mem_cons_self _
    rw [List.flatMap_cons, Line.bytes, List.append_assoc, hskip]
    -- an end of the other kind takes the search back to the start
    cases lineEnd with
    | feed =>
      cases line.lineEnd <;> simpa [LineEnd.bytes, splitFrom] using ih h.2 (.inr rfl) _
    | returnFeed =>
      cases line.lineEnd with
      | feed => simpa [LineEnd.bytes, splitFrom] using ih h.2 (.inl rfl) _
      | returnFeed => simpa [LineEnd.bytes, splitFrom] using ih h.2 (.inr rfl) _

include h in
/-- All of the lines is data. -/
theorem splitBody_lines :
    splitBody (lines.flatMap Line.bytes) = ([], lines.flatMap Line.bytes) := by
  have hfeeds : splitAtMarker [10, 10] (lines.flatMap Line.bytes) = none :=
    splitFrom_lines h .feed (.inl rfl) []
  have hreturns : splitAtMarker [13, 10, 13, 10] (lines.flatMap Line.bytes) = none :=
    splitFrom_lines h .returnFeed (.inl rfl) []
  rw [splitBody, hfeeds, hreturns]

include h in
theorem ne_dash_lines : (45 : UInt8) ∉ lines.flatMap Line.bytes := fun hmem ↦
  forall_mem_lines (P := (· ≠ 45)) (by decide) (by decide) (fun b hb ↦ (h b hb).1) 45 hmem rfl

include h in
theorem textOf_lines : textOf (lines.flatMap Line.bytes) =
    .ok (Utf8.asciiChars (lines.flatMap Line.bytes)) := by
  rw [textOf, Utf8.decode_ascii]
  · rfl
  · exact forall_mem_lines (by decide) (by decide) fun b hb ↦ (h b hb).2.1

include h in
/-- Without its blanks, the text of lines is that of the data in them. -/
theorem filter_lines : (Utf8.asciiChars (lines.flatMap Line.bytes)).filter (!isBlank ·) =
    Utf8.asciiChars (lines.flatMap Line.text) := by
  induction lines with
  | nil => rfl
  | cons line lines ih =>
    rw [List.flatMap_cons, List.forall_mem_append] at h
    have htext : (Utf8.asciiChars line.text).filter (!isBlank ·) = Utf8.asciiChars line.text := by
      rw [List.filter_eq_self]
      intro c hc
      obtain ⟨b, hb, rfl⟩ := List.mem_map.1 hc
      simp [(h.1 b hb).2.2.2]
    have hend : (Utf8.asciiChars line.lineEnd.bytes).filter (!isBlank ·) = [] := by
      cases line.lineEnd <;> decide
    have hrest := ih h.2
    unfold Utf8.asciiChars at htext hend hrest ⊢
    rw [List.flatMap_cons, List.flatMap_cons, Line.bytes, List.map_append, List.map_append,
      List.map_append, List.filter_append, List.filter_append, htext, hend, hrest, List.append_nil]

include h in
/-- The end of the begin line is skipped, and nothing else. -/
theorem dropWhile_lines (opening : LineEnd) (tail : Bytes) :
    (opening.bytes ++ (lines.flatMap Line.bytes ++ endMarker ++ tail)).dropWhile isSpace =
      lines.flatMap Line.bytes ++ endMarker ++ tail := by
  rw [List.dropWhile_append_of_pos isSpace_of_mem_lineEnd]
  cases lines with
  | nil => rfl
  | cons line lines =>
    obtain ⟨b, text, htext⟩ := List.exists_cons_of_ne_nil line.ne_nil
    have hb : isSpace b = false := by
      have hsymbol : IsSymbol b := h b (by simp [htext])
      exact hsymbol.2.2.1
    rw [List.flatMap_cons, Line.bytes, htext, List.cons_append, List.cons_append, List.cons_append,
      List.cons_append, List.dropWhile_cons, hb, if_neg Bool.false_ne_true]

end Lines

/-! ### Armour -/

/-- How a block is armoured: how its begin line ends, and the lines of its data. -/
structure Armour where
  opening : LineEnd
  lines : List Line

namespace Armour

/-- The armoured data without the ends of lines. -/
def data (armour : Armour) : Bytes := armour.lines.flatMap Line.text

/-- The block with a tag, as far as it is looked at. -/
def bytes (armour : Armour) (tag : String) : Bytes :=
  beginMarker ++ Utf8.ofString tag ++ dashes ++ armour.opening.bytes ++
    armour.lines.flatMap Line.bytes ++ endMarker ++ Utf8.ofString tag ++ dashes

end Armour

variable {armour : Armour} {tag : String} {before behind contents : Bytes} {block : Block}

/-- A block is taken apart where it was put together. -/
theorem parts?_armour (hbefore : (45 : UInt8) ∉ before) (htag : (45 : UInt8) ∉ Utf8.ofString tag)
    (h : ∀ b ∈ armour.data, IsSymbol b) :
    parts? (before ++ armour.bytes tag ++ behind) = some
      { beginTag := Utf8.ofString tag, headers := [], data := armour.lines.flatMap Line.bytes,
        endTag := Utf8.ofString tag } := by
  have hbegin : splitAtMarker beginMarker (before ++ armour.bytes tag ++ behind) =
      some (before, Utf8.ofString tag ++ dashes ++ (armour.opening.bytes ++
        (armour.lines.flatMap Line.bytes ++ endMarker ++
          (Utf8.ofString tag ++ dashes ++ behind)))) := by
    rw [← splitAtMarker_append 45 (Bytes.ofAscii "----BEGIN ") hbefore]
    simp [Armour.bytes, beginMarker, Bytes.ofAscii]
  have hopen : ∀ tail, splitAtMarker dashes (Utf8.ofString tag ++ dashes ++ tail) =
      some (Utf8.ofString tag, tail) := fun tail ↦
    splitAtMarker_append 45 (Bytes.ofAscii "----") htag
  have hbody : ∀ tail, splitAtMarker endMarker
      (armour.lines.flatMap Line.bytes ++ endMarker ++ tail) =
        some (armour.lines.flatMap Line.bytes, tail) := fun tail ↦
    splitAtMarker_append 45 (Bytes.ofAscii "----END ") (ne_dash_lines h)
  rw [parts?, hbegin]
  simp only [Option.bind_eq_bind, Option.bind_some, hopen, dropWhile_lines h, hbody,
    splitBody_lines h, Option.pure_def]

/-- Its tag is the one that was written. -/
theorem tagOf_ofString {tag : String} (h : tag ≠ "") (missing : Error) :
    tagOf missing (Utf8.ofString tag) = .ok tag := by
  have hne : tag.toList.isEmpty = false := by
    rw [List.isEmpty_eq_false_iff]
    exact fun hnil ↦ h (String.toList_eq_nil_iff.1 hnil)
  simp [tagOf, textOf, Utf8.ofString, Except.mapError, Bind.bind, Except.bind, hne, Pure.pure,
    Except.pure]

/-- **Reading undoes all armour**, behind any bytes without a dash and in front of any bytes. -/
theorem read_armour (hbefore : (45 : UInt8) ∉ before) (htag : (45 : UInt8) ∉ Utf8.ofString tag)
    (hne : tag ≠ "") (hdata : armour.data = Base64.encode contents) :
    read (before ++ armour.bytes tag ++ behind) = .ok ⟨tag, contents⟩ := by
  have hsymbols : ∀ b ∈ armour.data, IsSymbol b := hdata ▸ isSymbol_encode contents
  have hblanks : Utf8.encode
      ((Utf8.asciiChars (armour.lines.flatMap Line.bytes)).filter (!isBlank ·)) =
        Base64.encode contents := by
    rw [filter_lines hsymbols, ← Armour.data, hdata]
    exact Utf8.encode_asciiChars (Base64.encode_ascii contents)
  have hheaders : textOf [] = .ok [] := rfl
  have hgood : badHeader? [] = none := rfl
  rw [read, parts?_armour hbefore htag hsymbols]
  simp only [Parts.block, tagOf_ofString hne, textOf_lines hsymbols, hblanks, Base64.decode_encode,
    hheaders, hgood, Bind.bind, Except.bind, Except.mapError, ne_eq, not_true_eq_false, if_false,
    Pure.pure, Except.pure]

/-! ### Writing -/

/-- What is left to write of a line that has been started, and the lines behind it. -/
theorem exists_lines_wrapFrom {width room : Nat} (hroom : room < width) (bytes : Bytes) :
    ∃ (rest : Bytes) (lines : List Line), rest ++ lines.flatMap Line.text = bytes ∧
      rest ++ 10 :: lines.flatMap Line.bytes = wrapFrom width room bytes := by
  induction bytes generalizing room with
  | nil => exact ⟨[], [], rfl, by rw [wrapFrom, if_neg (by omega)]; rfl⟩
  | cons b bytes ih =>
    cases room with
    | zero =>
      obtain ⟨rest, lines, rfl, hlines⟩ := ih (show width - 1 < width by omega)
      refine ⟨[], ⟨b :: rest, .feed, List.cons_ne_nil _ _⟩ :: lines, by simp, ?_⟩
      rw [wrapFrom, ← hlines]
      simp [Line.bytes, LineEnd.bytes]
    | succ room =>
      obtain ⟨rest, lines, rfl, hlines⟩ := ih (show room < width by omega)
      exact ⟨b :: rest, lines, rfl, by rw [wrapFrom, ← hlines]; rfl⟩

/-- The bytes in lines of a width are lines that end in line feeds. -/
theorem exists_lines_wrap {width : Nat} (hwidth : 0 < width) (bytes : Bytes) :
    ∃ lines : List Line, lines.flatMap Line.text = bytes ∧
      lines.flatMap Line.bytes = wrap width bytes := by
  cases bytes with
  | nil => exact ⟨[], rfl, by simp [wrap, wrapFrom]⟩
  | cons b bytes =>
    obtain ⟨rest, lines, rfl, hlines⟩ :=
      exists_lines_wrapFrom (show width - 1 < width by omega) bytes
    obtain ⟨room, rfl⟩ := Nat.exists_eq_succ_of_ne_zero hwidth.ne'
    refine ⟨⟨b :: rest, .feed, List.cons_ne_nil _ _⟩ :: lines, by simp, ?_⟩
    rw [wrap, wrapFrom]
    rw [Nat.succ_sub_one] at hlines
    rw [← hlines]
    simp [Line.bytes, LineEnd.bytes]

/-- **What is written is armoured.** -/
theorem exists_armour_write (block : Block) :
    ∃ armour : Armour, armour.data = Base64.encode block.contents ∧
      write block = armour.bytes block.tag ++ [10] := by
  obtain ⟨lines, htext, hlines⟩ :=
    exists_lines_wrap (show 0 < lineWidth by decide) (Base64.encode block.contents)
  refine ⟨⟨.feed, lines⟩, htext, ?_⟩
  rw [write, Armour.bytes, hlines]
  rfl

/-- **Reading undoes writing**, behind any bytes without a dash. -/
theorem read_append_write (before : Bytes) (hbefore : (45 : UInt8) ∉ before)
    (htag : (45 : UInt8) ∉ Utf8.ofString block.tag) (hne : block.tag ≠ "") :
    read (before ++ write block) = .ok block := by
  obtain ⟨armour, hdata, hwrite⟩ := exists_armour_write block
  rw [hwrite, ← List.append_assoc]
  exact read_armour hbefore htag hne hdata

/-- **A block whose tag is ASCII is written in ASCII.** -/
theorem write_ascii (block : Block) (h : ∀ b ∈ Utf8.ofString block.tag, b < 0x80) :
    ∀ b ∈ write block, b < 0x80 := by
  obtain ⟨armour, hdata, hwrite⟩ := exists_armour_write block
  have hlines : ∀ b ∈ armour.lines.flatMap Line.bytes, b < 0x80 :=
    forall_mem_lines (by decide) (by decide) fun b hb ↦
      Base64.encode_ascii block.contents b (hdata ▸ hb)
  have hopening : ∀ b ∈ armour.opening.bytes, b < 0x80 :=
    Utf8.lt_of_all (by cases armour.opening <;> rfl)
  have hmarkers : (∀ b ∈ beginMarker, b < 0x80) ∧ (∀ b ∈ endMarker, b < 0x80) ∧
      ∀ b ∈ dashes, b < 0x80 :=
    ⟨Utf8.lt_of_all (by decide), Utf8.lt_of_all (by decide), Utf8.lt_of_all (by decide)⟩
  obtain ⟨hbegin, hend, hdashes⟩ := hmarkers
  rw [hwrite]
  simp only [Armour.bytes, List.forall_mem_append]
  exact ⟨⟨⟨⟨⟨⟨⟨⟨hbegin, h⟩, hdashes⟩, hopening⟩, hlines⟩, hend⟩, h⟩, hdashes⟩, by simp⟩

end WebhookTrust.Pem
