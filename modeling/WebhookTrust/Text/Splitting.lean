/-!
# Taking texts apart

Blanks are trimmed off the ends of a text, and a text is cut at a mark, which is a character that
separates its parts: at the first mark, or at every one.

Blank is what has the Unicode property `White_Space`. Core's `Char.isWhitespace` knows four
characters only, all of which are blank here.
-/

namespace WebhookTrust

/-! ### Blanks -/

/-- Does the character have the Unicode property `White_Space`? -/
def isBlank (c : Char) : Bool :=
  let n := c.toNat
  (0x09 ≤ n && n ≤ 0x0D) || n = 0x20 || n = 0x85 || n = 0xA0 || n = 0x1680 ||
    (0x2000 ≤ n && n ≤ 0x200A) || n = 0x2028 || n = 0x2029 || n = 0x202F || n = 0x205F ||
    n = 0x3000

/-- The characters without the blanks at either end. -/
def trimBlanks (chars : List Char) : List Char :=
  ((chars.dropWhile isBlank).reverse.dropWhile isBlank).reverse

/-! ### Marks -/

/-- What stands before and behind the first mark, if there is one. -/
def cutAt? (mark : Char) : List Char → Option (List Char × List Char)
  | [] => none
  | c :: rest =>
    if c = mark then some ([], rest) else (cutAt? mark rest).map fun (a, b) ↦ (c :: a, b)

/-- The parts between the marks: one more than there are marks. -/
def splitAtMarks (mark : Char) : List Char → List (List Char)
  | [] => [[]]
  | c :: rest =>
    if c = mark then [] :: splitAtMarks mark rest
    else
      match splitAtMarks mark rest with
      | [] => [[c]]
      | part :: parts => (c :: part) :: parts

/-- Text without the mark is one part. -/
theorem cutAt?_eq_none {mark : Char} {text : List Char} (h : mark ∉ text) :
    cutAt? mark text = none := by
  induction text with
  | nil => rfl
  | cons c rest ih =>
    rw [List.mem_cons, not_or] at h
    rw [cutAt?, if_neg (Ne.symm h.1), ih h.2, Option.map_none]

/-- The cut undoes the joining by a mark, if the first part has none. -/
theorem cutAt?_append {mark : Char} {before behind : List Char} (h : mark ∉ before) :
    cutAt? mark (before ++ mark :: behind) = some (before, behind) := by
  induction before with
  | nil => simp [cutAt?]
  | cons c rest ih =>
    rw [List.mem_cons, not_or] at h
    rw [List.cons_append, cutAt?, if_neg (Ne.symm h.1), ih h.2, Option.map_some]

end WebhookTrust
