import Mathlib.Data.List.Nodup
import WebhookTrust.Json.Parser
import WebhookTrust.Json.Printer

/-!
# Reading back what was written

A value is proper if its objects have no key twice and its numbers are spelled as they are read
(`Json.IsProper`). Proper values come back from their texts (`Json.parse?_text`).

A number ends where something follows that cannot belong to it, so what stands behind a value
matters: it is the end of the text or one of three marks (`Json.Follows`). So everything is said of
a value with a rest behind it, as it is written.

* `Json.quoted?_quote`: **a string comes back from its text**, character by character; the
  characters that stand for others are read as these.
* `Json.number?_append`: **a number goes on to the first character that cannot belong to it**, part
  by part.
* `Json.value?_write`, `Json.items?_write`, `Json.membersFrom?_write`: values, items and members
  come back, by a recursion over the value that follows the writer. The fuel that the reader needs
  is bounded by the length of the text, which every value makes longer (`Json.lt_length_write`).

An object keeps the order of its members. One with a key twice is read with the later value, so it
does not come back as it was.
-/

namespace WebhookTrust

/-! ### Maps -/

namespace Assoc

variable {κ α : Type} [DecidableEq κ] {key : κ} {pairs : List (κ × α)}

/-- A key that is new is put at the end. -/
theorem put_of_notMem (h : key ∉ pairs.map Prod.fst) (value : α) :
    put key value pairs = pairs ++ [(key, value)] := by
  induction pairs with
  | nil => rfl
  | cons pair pairs ih =>
    rw [List.map_cons, List.mem_cons, not_or] at h
    rw [put, if_neg (Ne.symm h.1), ih h.2, List.cons_append]

/-- A key that is there stays where it is. -/
theorem map_fst_put_of_mem (h : key ∈ pairs.map Prod.fst) (value : α) :
    (put key value pairs).map Prod.fst = pairs.map Prod.fst := by
  induction pairs with
  | nil => cases h
  | cons pair pairs ih =>
    by_cases hkey : pair.1 = key
    · rw [put, if_pos hkey, List.map_cons, List.map_cons, hkey]
    · rw [List.map_cons, List.mem_cons] at h
      rw [put, if_neg hkey, List.map_cons, List.map_cons, ih (h.resolve_left (Ne.symm hkey))]

/-- Keys that are distinct stay distinct. -/
theorem nodup_put (h : (pairs.map Prod.fst).Nodup) (key : κ) (value : α) :
    ((put key value pairs).map Prod.fst).Nodup := by
  by_cases hkey : key ∈ pairs.map Prod.fst
  · rwa [map_fst_put_of_mem hkey]
  · rw [put_of_notMem hkey]
    simpa using h.concat hkey

/-- In a map, what stands in front of a key is the map to which the key was added. -/
theorem put_of_nodup {value : α} {more : List (κ × α)}
    (h : ((pairs ++ (key, value) :: more).map Prod.fst).Nodup) :
    put key value pairs = pairs ++ [(key, value)] := by
  rw [List.map_append] at h
  exact put_of_notMem (fun hkey ↦ (List.nodup_append'.1 h).2.2 hkey (.head _)) value

/-- A member is the one that was set or was there before. -/
theorem mem_put {pair : κ × α} {value : α} (h : pair ∈ put key value pairs) :
    pair = (key, value) ∨ pair ∈ pairs := by
  induction pairs with
  | nil => exact .inl (List.mem_singleton.1 h)
  | cons first pairs ih =>
    rw [put] at h
    split_ifs at h
    · exact (List.mem_cons.1 h).imp id (List.mem_cons_of_mem _)
    · rcases List.mem_cons.1 h with rfl | h
      · exact .inr (.head _)
      · exact (ih h).imp id (List.mem_cons_of_mem _)

/-- A key without a value is not there. -/
theorem get?_eq_none_iff : get? key pairs = none ↔ key ∉ pairs.map Prod.fst := by
  induction pairs with
  | nil => simp
  | cons pair pairs ih =>
    rw [get?, List.map_cons, List.mem_cons, not_or, ← ih]
    by_cases hkey : pair.1 = key
    · simp [hkey]
    · simp [hkey, Ne.symm hkey]

/-- A key with a value is a member. -/
theorem mem_of_get? {value : α} (h : get? key pairs = some value) : (key, value) ∈ pairs := by
  induction pairs with
  | nil => cases h
  | cons pair pairs ih =>
    rw [get?] at h
    split_ifs at h with hkey
    · cases h
      exact hkey ▸ .head _
    · exact .tail _ (ih h)

theorem erase_of_notMem (h : key ∉ pairs.map Prod.fst) : erase key pairs = pairs :=
  List.filter_eq_self.2 fun _ hpair ↦
    decide_eq_true fun heq ↦ h (heq ▸ List.mem_map_of_mem hpair)

/-- What was put is taken away with what was there. -/
theorem erase_put (key : κ) (value : α) (pairs : List (κ × α)) :
    erase key (put key value pairs) = erase key pairs := by
  induction pairs with
  | nil => simp [put, erase]
  | cons pair pairs ih =>
    simp only [erase, ne_eq, decide_not] at ih
    by_cases hkey : pair.1 = key <;> simp [put, erase, hkey, ih]

end Assoc

namespace Json

/-! ### Proper values -/

/-- Is the value one that can be written and read back? -/
inductive IsProper : Json → Prop
  | null : IsProper .null
  | bool (value : Bool) : IsProper (.bool value)
  | number {literal : String} (h : number? literal.toList = some (.number literal, [])) :
    IsProper (.number literal)
  | string (text : String) : IsProper (.string text)
  | array {items : List Json} (h : ∀ item ∈ items, IsProper item) : IsProper (.array items)
  | object {members : List (String × Json)} (hkeys : (members.map Prod.fst).Nodup)
    (h : ∀ member ∈ members, IsProper member.2) : IsProper (.object members)

/-- What a proper object is made of is proper. -/
theorem IsProper.get? {json value : Json} {key : String} (h : json.IsProper)
    (hget : json.get? key = some value) : value.IsProper := by
  cases h with
  | object _ h => exact h _ (Assoc.mem_of_get? hget)
  | null | bool | number | string | array => cases hget

/-- Setting the value of a key keeps an object proper. -/
theorem IsProper.put {json value : Json} (h : json.IsProper) (key : String)
    (hvalue : value.IsProper) : (json.put key value).IsProper := by
  cases h with
  | object hkeys h =>
    refine .object (Assoc.nodup_put hkeys key value) fun member hmember ↦ ?_
    rcases Assoc.mem_put hmember with rfl | hmember
    · exact hvalue
    · exact h member hmember
  | null => exact .null
  | bool value => exact .bool value
  | number h => exact .number h
  | string text => exact .string text
  | array h => exact .array h

/-! ### Strings -/

theorem hexValue?_hexDigit {n : Nat} (h : n < 16) :
    hexValue? (Bytes.hexDigit 'a' n) = some n := by
  have hall : ∀ n : Fin 16, hexValue? (Bytes.hexDigit 'a' n) = some n.val := by decide
  exact hall ⟨n, h⟩

/-- The characters that stand for a character are read as that character. -/
theorem stringFrom?_escape (c : Char) (seen : List Char) (fuel : Nat) (rest : List Char) :
    stringFrom? seen (fuel + 1) (escape c ++ rest) = stringFrom? (c :: seen) fuel rest := by
  rw [escape]
  split_ifs with hquote hbackslash hfeed hreturn htab hcontrol
  · subst hquote; rfl
  · subst hbackslash; rfl
  · subst hfeed; rfl
  · subst hreturn; rfl
  · subst htab; rfl
  · have hzero : hexValue? '0' = some 0 := by decide
    have hdiv : hexValue? (Bytes.hexDigit 'a' (c.toNat / 16)) = some (c.toNat / 16) :=
      hexValue?_hexDigit (by omega)
    have hmod : hexValue? (Bytes.hexDigit 'a' (c.toNat % 16)) = some (c.toNat % 16) :=
      hexValue?_hexDigit (by omega)
    have hunit : ((0 * 16 + 0) * 16 + c.toNat / 16) * 16 + c.toNat % 16 = c.toNat := by omega
    have hunicode : unicode? ('0' :: '0' :: Bytes.hexDigit 'a' (c.toNat / 16) ::
        Bytes.hexDigit 'a' (c.toNat % 16) :: rest) = some (c, rest) := by
      simp only [unicode?, unit?, hzero, hdiv, hmod, Option.bind_eq_bind, Option.bind_some,
        Option.pure_def, hunit]
      rw [if_neg (by omega), if_neg (by omega), Char.ofNat_toNat]
    simp only [List.cons_append, List.nil_append, stringFrom?, hunicode]
  · simp [stringFrom?, hbackslash, hcontrol]

theorem one_le_length_escape (c : Char) : 1 ≤ (escape c).length := by
  rw [escape]
  split_ifs <;> simp

/-- Characters that are written one after another are read one after another. -/
theorem stringFrom?_foldr_escape (chars seen rest : List Char) (fuel : Nat)
    (h : chars.length < fuel) :
    stringFrom? seen fuel (chars.foldr (fun c rest ↦ escape c ++ rest) ('"' :: rest)) =
      some (String.ofList (seen.reverse ++ chars), rest) := by
  obtain ⟨fuel, rfl⟩ := Nat.exists_eq_succ_of_ne_zero (Nat.ne_zero_of_lt h)
  induction chars generalizing seen fuel with
  | nil => simp [stringFrom?]
  | cons c chars ih =>
    rw [List.length_cons, Nat.succ_lt_succ_iff] at h
    obtain ⟨fuel, rfl⟩ := Nat.exists_eq_succ_of_ne_zero (Nat.ne_zero_of_lt h)
    rw [List.foldr_cons, stringFrom?_escape, ih _ _ h, List.reverse_cons, List.append_assoc,
      List.singleton_append]

/-- Every character takes one at least. -/
theorem length_le_foldr_escape (chars rest : List Char) :
    chars.length + rest.length ≤ (chars.foldr (fun c rest ↦ escape c ++ rest) rest).length := by
  induction chars with
  | nil => simp
  | cons c chars ih =>
    have hone := one_le_length_escape c
    rw [List.foldr_cons, List.length_append, List.length_cons]
    omega

/-- A string takes its two marks. -/
theorem lt_length_quote (text : String) (rest : List Char) :
    rest.length + 1 < (quote text rest).length := by
  have hlength := length_le_foldr_escape text.toList ('"' :: rest)
  rw [List.length_cons] at hlength
  rw [quote, List.length_cons]
  omega

/-- **A string comes back from its text.** -/
theorem quoted?_quote (text : String) (rest : List Char) :
    ∃ chars, quote text rest = '"' :: chars ∧ quoted? chars = some (text, rest) := by
  refine ⟨_, rfl, ?_⟩
  have hlength := length_le_foldr_escape text.toList ('"' :: rest)
  rw [List.length_cons] at hlength
  rw [quoted?, stringFrom?_foldr_escape _ _ _ _ (by omega)]
  simp

/-! ### What follows a value -/

/-- What may stand behind a value: nothing, or what ends an item or a member. -/
def Follows (rest : List Char) : Prop :=
  ∀ c behind, rest = c :: behind → c = ',' ∨ c = ']' ∨ c = '\x7d'

variable {chars part behind rest : List Char}

theorem Follows.isDigit_eq_false (h : Follows rest) (c : Char) (behind : List Char)
    (heq : rest = c :: behind) : c.isDigit = false := by
  rcases h c behind heq with rfl | rfl | rfl <;> rfl

theorem Follows.fraction? (h : Follows rest) : fraction? rest = some ([], rest) := by
  cases rest with
  | nil => rfl
  | cons c behind => rcases h c behind rfl with rfl | rfl | rfl <;> rfl

theorem Follows.exponent? (h : Follows rest) : exponent? rest = some ([], rest) := by
  cases rest with
  | nil => rfl
  | cons c behind => rcases h c behind rfl with rfl | rfl | rfl <;> rfl

theorem follows_writeItems (items : List Json) (rest : List Char) :
    Follows (writeItems items rest) := by
  intro c behind h
  cases items <;> (rw [writeItems, List.cons.injEq] at h; simp [← h.1])

theorem follows_writeMembers (members : List (String × Json)) (rest : List Char) :
    Follows (writeMembers members rest) := by
  intro c behind h
  cases members <;> (rw [writeMembers, List.cons.injEq] at h; simp [← h.1])

/-! ### Numbers -/

/-- What is taken while a test holds ends where the test fails. -/
theorem span_append_of_stop {test : Char → Bool}
    (hrest : ∀ c behind, rest = c :: behind → test c = false) (chars : List Char) :
    (chars ++ rest).takeWhile test = chars.takeWhile test ∧
      (chars ++ rest).dropWhile test = chars.dropWhile test ++ rest := by
  induction chars with
  | nil =>
    cases rest with
    | nil => exact ⟨rfl, rfl⟩
    | cons c behind => simp [hrest c behind rfl]
  | cons c chars ih => cases hc : test c <;> simp [hc, ih]

/-- Digits end where none follows. -/
theorem digits?_append (hrest : Follows rest) (h : digits? chars = some (part, behind)) :
    digits? (chars ++ rest) = some (part, behind ++ rest) := by
  obtain ⟨htake, hdrop⟩ := span_append_of_stop hrest.isDigit_eq_false chars
  rw [digits?] at h ⊢
  rw [htake, hdrop]
  cases hdigits : chars.takeWhile Char.isDigit with
  | nil => simp [hdigits] at h
  | cons c digits =>
    simp only [hdigits, Option.some.injEq, Prod.mk.injEq] at h ⊢
    exact ⟨h.1, by rw [h.2]⟩

theorem whole?_append (hrest : Follows rest) (h : whole? chars = some (part, behind)) :
    whole? (chars ++ rest) = some (part, behind ++ rest) := by
  cases chars with
  | nil => simp [whole?, digits?] at h
  | cons c chars =>
    by_cases hzero : c = '0'
    · subst hzero
      cases h
      rfl
    · have hwhole (tail : List Char) : whole? (c :: tail) = digits? (c :: tail) := by
        simp [whole?, hzero]
      rw [hwhole] at h
      rw [List.cons_append, hwhole]
      exact digits?_append hrest h

theorem fraction?_append (hrest : Follows rest) (h : fraction? chars = some (part, behind)) :
    fraction? (chars ++ rest) = some (part, behind ++ rest) := by
  cases chars with
  | nil =>
    cases h
    exact hrest.fraction?
  | cons c chars =>
    by_cases hpoint : c = '.'
    · subst hpoint
      simp only [fraction?, Option.map_eq_some_iff, Prod.exists, Prod.mk.injEq] at h
      obtain ⟨digits, behind, hdigits, rfl, rfl⟩ := h
      simp [fraction?, digits?_append hrest hdigits]
    · have hnone (tail : List Char) : fraction? (c :: tail) = some ([], c :: tail) := by
        simp [fraction?, hpoint]
      rw [hnone] at h
      cases h
      exact hnone _

theorem exponentDigits?_append (hrest : Follows rest)
    (h : exponentDigits? chars = some (part, behind)) :
    exponentDigits? (chars ++ rest) = some (part, behind ++ rest) := by
  cases chars with
  | nil => simp [exponentDigits?, digits?] at h
  | cons c chars =>
    by_cases hsign : c = '+' ∨ c = '-'
    · rcases hsign with rfl | rfl <;>
      · simp only [exponentDigits?, Option.map_eq_some_iff, Prod.exists, Prod.mk.injEq] at h
        obtain ⟨digits, behind, hdigits, rfl, rfl⟩ := h
        simp [exponentDigits?, digits?_append hrest hdigits]
    · obtain ⟨hplus, hminus⟩ := not_or.1 hsign
      have hdigits (tail : List Char) : exponentDigits? (c :: tail) = digits? (c :: tail) := by
        simp [exponentDigits?, hplus, hminus]
      rw [hdigits] at h
      rw [List.cons_append, hdigits]
      exact digits?_append hrest h

theorem exponent?_append (hrest : Follows rest) (h : exponent? chars = some (part, behind)) :
    exponent? (chars ++ rest) = some (part, behind ++ rest) := by
  cases chars with
  | nil =>
    cases h
    exact hrest.exponent?
  | cons c chars =>
    by_cases hmark : c = 'e' ∨ c = 'E'
    · rcases hmark with rfl | rfl <;>
      · simp only [exponent?, Option.map_eq_some_iff, Prod.exists, Prod.mk.injEq] at h
        obtain ⟨digits, behind, hdigits, rfl, rfl⟩ := h
        simp [exponent?, exponentDigits?_append hrest hdigits]
    · obtain ⟨hsmall, hcapital⟩ := not_or.1 hmark
      have hnone (tail : List Char) : exponent? (c :: tail) = some ([], c :: tail) := by
        simp [exponent?, hsmall, hcapital]
      rw [hnone] at h
      cases h
      exact hnone _

/-- A number behind its sign. -/
def unsigned? (sign chars : List Char) : Option (Json × List Char) := do
  let (whole, chars) ← whole? chars
  let (fraction, chars) ← fraction? chars
  let (exponent, chars) ← exponent? chars
  return (number (String.ofList (sign ++ whole ++ fraction ++ exponent)), chars)

theorem number?_of_ne {c : Char} (h : c ≠ '-') (chars : List Char) :
    number? (c :: chars) = unsigned? [] (c :: chars) := by
  simp [number?, unsigned?, h]

/-- A number behind its sign goes on as far as its parts do. -/
theorem unsigned?_append {json : Json} {sign : List Char} (hrest : Follows rest)
    (h : unsigned? sign chars = some (json, behind)) :
    unsigned? sign (chars ++ rest) = some (json, behind ++ rest) := by
  simp only [unsigned?, Option.bind_eq_bind, Option.bind_eq_some_iff, Prod.exists] at h
  obtain ⟨whole, chars₁, hwhole, fraction, chars₂, hfraction, exponent, chars₃, hexponent, h⟩ := h
  cases h
  simp [unsigned?, whole?_append hrest hwhole, fraction?_append hrest hfraction,
    exponent?_append hrest hexponent]

/-- **A number goes on to the first character that cannot belong to it.** -/
theorem number?_append {json : Json} (hrest : Follows rest)
    (h : number? chars = some (json, behind)) :
    number? (chars ++ rest) = some (json, behind ++ rest) := by
  cases chars with
  | nil => cases h
  | cons c chars =>
    by_cases hsign : c = '-'
    · subst hsign
      exact unsigned?_append hrest h
    · rw [number?_of_ne hsign] at h
      rw [List.cons_append, number?_of_ne hsign]
      exact unsigned?_append hrest h

theorem isDigit_of_whole? {c : Char} (h : whole? (c :: chars) = some (part, behind)) :
    c.isDigit = true := by
  by_cases hzero : c = '0'
  · subst hzero; rfl
  · cases hc : c.isDigit with
    | true => rfl
    | false => simp [whole?, hzero, digits?, hc] at h

theorem skipSpace_cons {c : Char} (h : isSpace c = false) (chars : List Char) :
    skipSpace (c :: chars) = c :: chars := List.dropWhile_cons_of_neg (by simp [h])

/-- Does a number start so? -/
def StartsNumber (c : Char) : Prop := c = '-' ∨ c.isDigit = true

theorem StartsNumber.ne {c d : Char} (h : StartsNumber c) (hminus : d ≠ '-')
    (hdigit : d.isDigit = false) : c ≠ d := by
  rintro rfl
  rcases h with rfl | h
  · exact hminus rfl
  · exact Bool.false_ne_true (hdigit.symm.trans h)

theorem StartsNumber.isSpace_eq_false {c : Char} (h : StartsNumber c) : isSpace c = false := by
  simp [isSpace, h.ne (d := ' ') (by decide) (by decide), h.ne (d := '\t') (by decide) (by decide),
    h.ne (d := '\n') (by decide) (by decide), h.ne (d := '\r') (by decide) (by decide)]

/-- A number starts with a digit or a sign. -/
theorem startsNumber_of_number? {json : Json} (h : number? chars = some (json, behind)) :
    ∃ c tail, chars = c :: tail ∧ StartsNumber c := by
  cases chars with
  | nil => cases h
  | cons c tail =>
    refine ⟨c, tail, rfl, or_iff_not_imp_left.2 fun hsign ↦ ?_⟩
    rw [number?_of_ne hsign] at h
    simp only [unsigned?, Option.bind_eq_bind, Option.bind_eq_some_iff, Prod.exists] at h
    obtain ⟨whole, behind', hwhole, -⟩ := h
    exact isDigit_of_whole? hwhole

/-- What starts like a number is read as one. -/
theorem value?_of_startsNumber {c : Char} (hc : StartsNumber c) (fuel : Nat) (tail : List Char) :
    value? (fuel + 1) (c :: tail) = number? (c :: tail) := by
  rw [value?, skipSpace_cons hc.isSpace_eq_false]
  -- no other value starts with such a character
  split
  case h_7 => rfl
  all_goals
    rename_i heq
    cases heq
    exact absurd rfl (hc.ne (by decide) (by decide))

/-! ### Lengths -/

mutual

/-- Every value makes the text longer. -/
theorem lt_length_write : ∀ (json : Json), json.IsProper → ∀ rest : List Char,
    rest.length < (json.write rest).length
  | null, _, rest | bool true, _, rest | bool false, _, rest | array [], _, rest
  | object [], _, rest => by
    simp only [write, List.length_cons]
    omega
  | number literal, h, rest => by
    cases h with
    | number h =>
      obtain ⟨c, tail, hchars, -⟩ := startsNumber_of_number? h
      rw [write, hchars, List.length_append, List.length_cons]
      omega
  | string text, _, rest => by
    have hquote := lt_length_quote text rest
    rw [write]
    omega
  | array (item :: items), h, rest => by
    cases h with
    | array h =>
      have hitems := lt_length_writeItems items (fun item hitem ↦ h item (.tail _ hitem)) rest
      have hitem := lt_length_write item (h item (.head _)) (writeItems items rest)
      rw [write, List.length_cons]
      omega
  | object ((key, value) :: members), h, rest => by
    cases h with
    | object _ h =>
      have hmembers :=
        lt_length_writeMembers members (fun member hmember ↦ h member (.tail _ hmember)) rest
      have hvalue := lt_length_write value (h (key, value) (.head _)) (writeMembers members rest)
      have hquote := lt_length_quote key (':' :: value.write (writeMembers members rest))
      rw [List.length_cons] at hquote
      rw [write, List.length_cons]
      omega

theorem lt_length_writeItems : ∀ items : List Json, (∀ item ∈ items, item.IsProper) →
    ∀ rest : List Char, rest.length < (writeItems items rest).length
  | [], _, rest => by rw [writeItems, List.length_cons]; omega
  | item :: items, h, rest => by
    have hitems := lt_length_writeItems items (fun item hitem ↦ h item (.tail _ hitem)) rest
    have hitem := lt_length_write item (h item (.head _)) (writeItems items rest)
    rw [writeItems, List.length_cons]
    omega

theorem lt_length_writeMembers : ∀ members : List (String × Json),
    (∀ member ∈ members, member.2.IsProper) →
    ∀ rest : List Char, rest.length < (writeMembers members rest).length
  | [], _, rest => by rw [writeMembers, List.length_cons]; omega
  | (key, value) :: members, h, rest => by
    have hmembers :=
      lt_length_writeMembers members (fun member hmember ↦ h member (.tail _ hmember)) rest
    have hvalue := lt_length_write value (h (key, value) (.head _)) (writeMembers members rest)
    have hquote := lt_length_quote key (':' :: value.write (writeMembers members rest))
    rw [List.length_cons] at hquote
    rw [writeMembers, List.length_cons]
    omega

end

/-! ### Values -/

/-- The text of a proper value starts with something that is neither blank nor the end of an
array. -/
theorem IsProper.exists_write_eq {json : Json} (h : json.IsProper) (rest : List Char) :
    ∃ c tail, json.write rest = c :: tail ∧ isSpace c = false ∧ c ≠ ']' := by
  cases h with
  | null => exact ⟨_, _, by rw [write], by decide, by decide⟩
  | bool value => cases value <;> exact ⟨_, _, by rw [write], by decide, by decide⟩
  | number h =>
    obtain ⟨c, tail, hchars, hc⟩ := startsNumber_of_number? h
    exact ⟨c, tail ++ rest, by rw [write, hchars, List.cons_append], hc.isSpace_eq_false,
      hc.ne (by decide) (by decide)⟩
  | string text => exact ⟨_, _, by rw [write, quote], by decide, by decide⟩
  | @array items _ => cases items <;> exact ⟨_, _, by rw [write], by decide, by decide⟩
  | @object members _ _ => cases members <;> exact ⟨_, _, by rw [write], by decide, by decide⟩

variable {fuel : Nat} {item value : Json} {key : String} {seen : List (String × Json)}

theorem items?_of_comma (h : value? fuel chars = some (item, ',' :: rest)) :
    items? (fuel + 1) chars =
      (items? fuel rest).map fun (items, rest) ↦ (item :: items, rest) := by
  rw [items?, h]
  rfl

theorem items?_of_bracket (h : value? fuel chars = some (item, ']' :: rest)) :
    items? (fuel + 1) chars = some ([item], rest) := by
  rw [items?, h]
  rfl

/-- A comma goes on with the members. -/
theorem membersFrom?_of_comma (hkey : quoted? chars = some (key, ':' :: behind))
    (hvalue : value? fuel behind = some (value, ',' :: rest)) :
    membersFrom? (fuel + 1) seen ('"' :: chars) =
      membersFrom? fuel (Assoc.put key value seen) rest := by
  have hquote : isSpace '"' = false := by decide
  have hcolon : isSpace ':' = false := by decide
  have hcomma : isSpace ',' = false := by decide
  simp only [membersFrom?, skipSpace_cons hquote, hkey, skipSpace_cons hcolon, hvalue,
    skipSpace_cons hcomma]

/-- A brace ends them. -/
theorem membersFrom?_of_brace (hkey : quoted? chars = some (key, ':' :: behind))
    (hvalue : value? fuel behind = some (value, '\x7d' :: rest)) :
    membersFrom? (fuel + 1) seen ('"' :: chars) = some (Assoc.put key value seen, rest) := by
  have hquote : isSpace '"' = false := by decide
  have hcolon : isSpace ':' = false := by decide
  have hbrace : isSpace '\x7d' = false := by decide
  simp only [membersFrom?, skipSpace_cons hquote, hkey, skipSpace_cons hcolon, hvalue,
    skipSpace_cons hbrace]

/-- Behind the bracket that opens it, an array that is not empty goes on with its items. -/
theorem value?_bracket {c : Char} (hspace : isSpace c = false) (hbracket : c ≠ ']') :
    value? (fuel + 1) ('[' :: c :: rest) =
      (items? fuel (c :: rest)).map fun (items, rest) ↦ (array items, rest) := by
  have hopen : isSpace '[' = false := by decide
  simp only [value?, skipSpace_cons hopen, skipSpace_cons hspace]
  split
  · rename_i heq
    exact absurd (List.cons.inj heq).1 hbracket
  · rfl

mutual

/-- **A proper value comes back**, whatever may stand behind it. -/
theorem value?_write : ∀ json : Json, json.IsProper → ∀ (fuel : Nat) (rest : List Char),
    (json.write rest).length ≤ fuel + rest.length → Follows rest →
    value? fuel (json.write rest) = some (json, rest)
  | json, h, 0, rest, hfuel, _ => by
    have hlength := lt_length_write json h rest
    omega
  | null, _, fuel + 1, rest, _, _ | bool true, _, fuel + 1, rest, _, _
  | bool false, _, fuel + 1, rest, _, _ | array [], _, fuel + 1, rest, _, _
  | object [], _, fuel + 1, rest, _, _ => rfl
  | number literal, h, fuel + 1, rest, _, hrest => by
    cases h with
    | number h =>
      obtain ⟨c, tail, hchars, hc⟩ := startsNumber_of_number? h
      have happend := number?_append hrest h
      rw [hchars] at happend
      rw [write, hchars]
      exact (value?_of_startsNumber hc fuel _).trans happend
  | string text, _, fuel + 1, rest, _, _ => by
    obtain ⟨chars, hquote, hchars⟩ := quoted?_quote text rest
    rw [write, hquote, value?]
    show (quoted? chars).map _ = _
    rw [hchars]
    rfl
  | array (item :: items), h, fuel + 1, rest, hfuel, _ => by
    cases h with
    | array h =>
      rw [write, List.length_cons] at hfuel
      obtain ⟨c, tail, hitem, hspace, hbracket⟩ :=
        (h item (.head _)).exists_write_eq (writeItems items rest)
      have hitems := items?_write item items h fuel rest (by omega)
      rw [write, hitem, value?_bracket hspace hbracket, ← hitem, hitems]
      rfl
  | object ((key, value) :: members), h, fuel + 1, rest, hfuel, _ => by
    cases h with
    | object hkeys h =>
      rw [write, List.length_cons] at hfuel
      have hmembers := membersFrom?_write key value members h [] hkeys fuel rest (by omega)
      rw [write, value?]
      show (membersFrom? fuel [] (quote key _)).map _ = _
      rw [hmembers]
      rfl

/-- So do items, with the bracket that ends them, -/
theorem items?_write : ∀ (item : Json) (items : List Json),
    (∀ i ∈ item :: items, i.IsProper) → ∀ (fuel : Nat) (rest : List Char),
    (item.write (writeItems items rest)).length ≤ fuel + rest.length →
    items? fuel (item.write (writeItems items rest)) = some (item :: items, rest)
  | item, items, h, 0, rest, hfuel => by
    have hitem := lt_length_write item (h item (.head _)) (writeItems items rest)
    have hitems := lt_length_writeItems items (fun item hitem ↦ h item (.tail _ hitem)) rest
    omega
  | item, [], h, fuel + 1, rest, hfuel => by
    rw [writeItems] at hfuel ⊢
    exact items?_of_bracket (value?_write item (h item (.head _)) fuel (']' :: rest)
      (by rw [List.length_cons]; omega) (follows_writeItems [] rest))
  | item, next :: items, h, fuel + 1, rest, hfuel => by
    have hitem := lt_length_write item (h item (.head _)) (writeItems (next :: items) rest)
    have hitems :=
      lt_length_writeItems (next :: items) (fun item hitem ↦ h item (.tail _ hitem)) rest
    have hvalue := value?_write item (h item (.head _)) fuel (writeItems (next :: items) rest)
      (by omega) (follows_writeItems _ _)
    rw [writeItems] at hvalue hfuel hitem ⊢
    rw [List.length_cons] at hitem
    rw [items?_of_comma hvalue, items?_write next items (fun item hitem ↦ h item (.tail _ hitem))
      fuel rest (by omega)]
    rfl

/-- and members with their brace. -/
theorem membersFrom?_write : ∀ (key : String) (value : Json) (members : List (String × Json)),
    (∀ m ∈ (key, value) :: members, m.2.IsProper) →
    ∀ seen : List (String × Json), ((seen ++ (key, value) :: members).map Prod.fst).Nodup →
    ∀ (fuel : Nat) (rest : List Char),
    (quote key (':' :: value.write (writeMembers members rest))).length ≤ fuel + rest.length →
    membersFrom? fuel seen (quote key (':' :: value.write (writeMembers members rest))) =
      some (seen ++ (key, value) :: members, rest)
  | key, value, members, h, seen, _, 0, rest, hfuel => by
    have hvalue := lt_length_write value (h (key, value) (.head _)) (writeMembers members rest)
    have hmembers :=
      lt_length_writeMembers members (fun member hmember ↦ h member (.tail _ hmember)) rest
    have hquote := lt_length_quote key (':' :: value.write (writeMembers members rest))
    rw [List.length_cons] at hquote
    omega
  | key, value, [], h, seen, hkeys, fuel + 1, rest, hfuel => by
    have hlength := lt_length_quote key (':' :: value.write (writeMembers [] rest))
    rw [List.length_cons] at hlength
    have hvalue := value?_write value (h (key, value) (.head _)) fuel (writeMembers [] rest)
      (by rw [writeMembers] at hfuel hlength ⊢; rw [List.length_cons]; omega)
      (follows_writeMembers _ _)
    obtain ⟨chars, hquote, hkey⟩ := quoted?_quote key (':' :: value.write (writeMembers [] rest))
    rw [hquote, membersFrom?_of_brace hkey hvalue, Assoc.put_of_nodup hkeys]
  | key, value, (next, value') :: members, h, seen, hkeys, fuel + 1, rest, hfuel => by
    have hlength :=
      lt_length_quote key (':' :: value.write (writeMembers ((next, value') :: members) rest))
    have hmembers := lt_length_writeMembers ((next, value') :: members)
      (fun member hmember ↦ h member (.tail _ hmember)) rest
    have hlt := lt_length_write value (h (key, value) (.head _))
      (writeMembers ((next, value') :: members) rest)
    rw [List.length_cons] at hlength
    have hvalue := value?_write value (h (key, value) (.head _)) fuel
      (writeMembers ((next, value') :: members) rest) (by omega) (follows_writeMembers _ _)
    rw [writeMembers] at hvalue hfuel hlength hlt ⊢
    rw [List.length_cons] at hlt
    obtain ⟨chars, hquote, hkey⟩ := quoted?_quote key
      (':' :: value.write (',' :: quote next (':' :: value'.write (writeMembers members rest))))
    rw [hquote, membersFrom?_of_comma hkey hvalue, Assoc.put_of_nodup hkeys,
      membersFrom?_write next value' members (fun member hmember ↦ h member (.tail _ hmember))
        (seen ++ [(key, value)]) (by simpa using hkeys) fuel rest (by omega),
      List.append_assoc, List.singleton_append]

end

/-- **A proper value comes back from its text.** -/
theorem parse?_text {json : Json} (h : json.IsProper) : parse? json.text = some json := by
  have hvalue := value?_write json h ((json.write []).length + 1) [] (by simp) nofun
  rw [text, parse?, String.toList_ofList, hvalue]
  rfl

end Json

end WebhookTrust
