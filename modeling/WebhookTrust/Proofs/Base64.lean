import Mathlib.Tactic.SplitIfs
import WebhookTrust.Encoding.Base64
import WebhookTrust.Proofs.Utf8

/-!
# The laws of Base64

Decoding undoes encoding, also through a text, and refuses everything else: of all texts one alone
decodes to given bytes. So the trust field of a consumer says which authority it trusts, and two of
them can be compared as texts.

* `Base64.decode_encode`: **decoding undoes encoding**, by groups of three bytes and four symbols;
  the last group has its own cases, by how many bytes are left.
* `Base64.decode_eq_ok`: **nothing decodes to bytes but their encoding.** Bits that no byte uses
  have to be zero, and padding may stand at the end alone.
* `Base64.forall_mem_encode`: what is true of all symbols and of the padding is true of everything
  that is written.
-/

namespace WebhookTrust

/-- A result that goes through a step comes from a result of that step. -/
theorem Except.bind_eq_ok {ε α β : Type} {x : Except ε α} {f : α → Except ε β} {b : β} :
    (x >>= f) = .ok b ↔ ∃ a, x = .ok a ∧ f a = .ok b := by
  cases x <;> simp [Bind.bind, Except.bind]

namespace Base64

variable {v w x y : Nat}

/-! ### Symbols -/

@[simp] theorem value?_symbol (h : v < 64) : value? (symbol v) = some v := by
  revert v
  decide

theorem symbol_ne_pad (h : v < 64) : symbol v ≠ pad := by
  revert v
  decide

theorem valueAt_symbol (h : v < 64) (offset : Nat) : valueAt offset (symbol v) = .ok v := by
  rw [valueAt, value?_symbol h]

/-- **What is true of all symbols and of the padding is true of everything that is written.** -/
theorem forall_mem_encode {P : UInt8 → Prop} (hsymbol : ∀ v < 64, P (symbol v)) (hpad : P pad)
    (bytes : Bytes) : ∀ b ∈ encode bytes, P b := by
  induction bytes using encode.induct with
  | case1 => simp [encode]
  | case2 a =>
    have ha : a.toNat < 256 := a.toNat_lt
    simp only [encode, List.forall_mem_cons]
    exact ⟨hsymbol _ (by omega), hsymbol _ (by omega), hpad, hpad, by simp⟩
  | case3 a b =>
    have ha : a.toNat < 256 := a.toNat_lt
    have hb : b.toNat < 256 := b.toNat_lt
    simp only [encode, List.forall_mem_cons]
    exact ⟨hsymbol _ (by omega), hsymbol _ (by omega), hsymbol _ (by omega), hpad, by simp⟩
  | case4 a b c rest ih =>
    have ha : a.toNat < 256 := a.toNat_lt
    have hb : b.toNat < 256 := b.toNat_lt
    have hc : c.toNat < 256 := c.toNat_lt
    simp only [encode, List.forall_mem_cons]
    exact ⟨hsymbol _ (by omega), hsymbol _ (by omega), hsymbol _ (by omega),
      hsymbol _ (by omega), ih⟩

theorem encode_ascii (bytes : Bytes) : ∀ b ∈ encode bytes, b < 0x80 :=
  forall_mem_encode (by decide) (by decide) bytes

/-! ### Groups -/

/-- Four symbols of three bytes spell those bytes. -/
theorem groupBytes_symbols (a b c : UInt8) :
    groupBytes (a.toNat / 4) (a.toNat % 4 * 16 + b.toNat / 16) (b.toNat % 16 * 4 + c.toNat / 64)
      (c.toNat % 64) = [a, b, c] := by
  have hb : b.toNat < 256 := b.toNat_lt
  have hc : c.toNat < 256 := c.toNat_lt
  have hfirst : a.toNat / 4 * 4 + (a.toNat % 4 * 16 + b.toNat / 16) / 16 = a.toNat := by omega
  have hsecond : (a.toNat % 4 * 16 + b.toNat / 16) % 16 * 16 +
      (b.toNat % 16 * 4 + c.toNat / 64) / 4 = b.toNat := by omega
  have hthird : (b.toNat % 16 * 4 + c.toNat / 64) % 4 * 64 + c.toNat % 64 = c.toNat := by omega
  rw [groupBytes, hfirst, hsecond, hthird]
  simp only [UInt8.ofNat_toNat]

/-- A full group at the end. -/
theorem readLast_four (offset : Nat) (hv : v < 64) (hw : w < 64) (hx : x < 64) (hy : y < 64) :
    readLast offset ⟨[], 0⟩ [symbol v, symbol w, symbol x, symbol y] =
      .ok ⟨[(symbol v, v), (symbol w, w), (symbol x, x), (symbol y, y)], 0⟩ := by
  simp [readLast, symbol_ne_pad, valueAt_symbol, *]

/-- A group at the end that holds two bytes. -/
theorem readLast_three (offset : Nat) (hv : v < 64) (hw : w < 64) (hx : x < 64) :
    readLast offset ⟨[], 0⟩ [symbol v, symbol w, symbol x, pad] =
      .ok ⟨[(symbol v, v), (symbol w, w), (symbol x, x)], 1⟩ := by
  simp [readLast, symbol_ne_pad, valueAt_symbol, *]

/-- A group at the end that holds one byte. -/
theorem readLast_two (offset : Nat) (hv : v < 64) (hw : w < 64) :
    readLast offset ⟨[], 0⟩ [symbol v, symbol w, pad, pad] =
      .ok ⟨[(symbol v, v), (symbol w, w)], 2⟩ := by
  simp [readLast, symbol_ne_pad, valueAt_symbol, *]

/-! ### The round trip -/

theorem encode_ne_nil (a : UInt8) (rest : Bytes) : ∃ b more, encode (a :: rest) = b :: more := by
  match rest with
  | [] => exact ⟨_, _, rfl⟩
  | [_] => exact ⟨_, _, rfl⟩
  | _ :: _ :: _ => exact ⟨_, _, rfl⟩

/-- What is written comes in groups of four. -/
theorem length_encode_mod_four (bytes : Bytes) : (encode bytes).length % 4 = 0 := by
  induction bytes using encode.induct with
  | case1 => rfl
  | case2 a => simp [encode]
  | case3 a b => simp [encode]
  | case4 a b c rest ih =>
    simp only [encode, List.length_cons]
    omega

/-- Decoding undoes encoding, wherever it starts. -/
theorem decodeFrom_encode (bytes : Bytes) (offset : Nat) :
    decodeFrom offset (encode bytes) = .ok bytes := by
  induction bytes using encode.induct generalizing offset with
  | case1 => rfl
  | case2 a =>
    have ha : a.toNat < 256 := a.toNat_lt
    have hbyte : a.toNat / 4 * 4 + a.toNat % 4 * 16 / 16 = a.toNat := by omega
    rw [encode, decodeFrom, readLast_two offset (by omega) (by omega)]
    · simp only [Bind.bind, Except.bind, LastGroup.bytes]
      rw [if_pos (by omega), hbyte, UInt8.ofNat_toNat]
    · simp
  | case3 a b =>
    have ha : a.toNat < 256 := a.toNat_lt
    have hb : b.toNat < 256 := b.toNat_lt
    have hfirst : a.toNat / 4 * 4 + (a.toNat % 4 * 16 + b.toNat / 16) / 16 = a.toNat := by omega
    have hsecond : (a.toNat % 4 * 16 + b.toNat / 16) % 16 * 16 + b.toNat % 16 * 4 / 4 =
        b.toNat := by omega
    rw [encode, decodeFrom, readLast_three offset (by omega) (by omega) (by omega)]
    · simp only [Bind.bind, Except.bind, LastGroup.bytes]
      rw [if_pos (by omega), hfirst, hsecond, UInt8.ofNat_toNat, UInt8.ofNat_toNat]
    · simp
  | case4 a b c rest ih =>
    have ha : a.toNat < 256 := a.toNat_lt
    have hb : b.toNat < 256 := b.toNat_lt
    have hc : c.toNat < 256 := c.toNat_lt
    rcases rest with _ | ⟨d, more⟩
    · -- the group is the last one, so it is read by `readLast`
      rw [encode, encode, decodeFrom, readLast_four offset (by omega) (by omega) (by omega)
        (by omega)]
      · simp only [Bind.bind, Except.bind, LastGroup.bytes, groupBytes_symbols]
      · simp
    · obtain ⟨e, tail, htail⟩ := encode_ne_nil d more
      have hrest := ih (offset + 4)
      rw [encode, htail, decodeFrom, valueAt_symbol (by omega), valueAt_symbol (by omega),
        valueAt_symbol (by omega), valueAt_symbol (by omega), ← htail, hrest]
      simp only [Bind.bind, Except.bind, Pure.pure, Except.pure, groupBytes_symbols]
      rfl

/-- **Decoding undoes encoding.** -/
@[simp] theorem decode_encode (bytes : Bytes) : decode (encode bytes) = .ok bytes := by
  have hlength := length_encode_mod_four bytes
  rw [decode, strayLast?, if_neg (by omega)]
  exact decodeFrom_encode bytes 0

/-! ### Only encodings decode -/

/-- A byte with a value is the symbol of that value. -/
theorem symbol_of_value? {b : UInt8} (h : value? b = some v) : v < 64 ∧ symbol v = b := by
  simp only [value?, UInt8.le_iff_toNat_le, UInt8.reduceToNat] at h
  simp only [symbol, ← UInt8.toNat_inj]
  split_ifs at h with hupper hlower hdigit hplus hslash
  · obtain rfl := Option.some.inj h
    rw [if_pos (by omega), Utf8.toNat_ofNat_of_lt (by omega)]
    omega
  · obtain rfl := Option.some.inj h
    rw [if_neg (by omega), if_pos (by omega), Utf8.toNat_ofNat_of_lt (by omega)]
    omega
  · obtain rfl := Option.some.inj h
    rw [if_neg (by omega), if_neg (by omega), if_pos (by omega),
      Utf8.toNat_ofNat_of_lt (by omega)]
    omega
  · obtain rfl := Option.some.inj h
    simp [hplus]
  · obtain rfl := Option.some.inj h
    simp [hslash]

theorem symbol_of_valueAt {offset : Nat} {b : UInt8} (h : valueAt offset b = .ok v) :
    v < 64 ∧ symbol v = b := by
  rw [valueAt] at h
  split at h
  · next hvalue =>
    obtain rfl := Except.ok.inj h
    exact symbol_of_value? hvalue
  · simp at h

/-- Does the group tell of bytes that were read: of symbols with their values, and of padding after
at least two symbols? -/
structure LastGroup.Spells (group : LastGroup) (last : Bytes) : Prop where
  read : last = group.symbols.map Prod.fst ++ List.replicate group.pads pad
  values : ∀ read ∈ group.symbols, read.2 < 64 ∧ symbol read.2 = read.1
  padded : group.pads = 0 ∨ 2 ≤ group.symbols.length

theorem LastGroup.spells_of_readLast {offset : Nat} {group group' : LastGroup}
    {read bytes : Bytes} (h : readLast offset group bytes = .ok group')
    (hspells : group.Spells read) : group'.Spells (read ++ bytes) := by
  induction bytes generalizing group read with
  | nil =>
    obtain rfl := Except.ok.inj h
    simpa using hspells
  | cons b rest ih =>
    rw [List.append_cons]
    simp only [readLast] at h
    split_ifs at h with hpad hfew hpads
    · -- one more byte of padding
      refine ih h ⟨?_, hspells.values, ?_⟩
      · rw [hspells.read, hpad, List.append_assoc, List.replicate_succ']
      · have hpadded := hspells.padded
        simp only at hpadded ⊢
        omega
    · -- one more symbol, and there is no padding yet
      split at h
      · next v hv =>
        have hnone : group.pads = 0 := by omega
        refine ih h ⟨?_, ?_, .inl hnone⟩
        · simp [hspells.read, hnone]
        · rw [List.forall_mem_append]
          exact ⟨hspells.values, by simpa using symbol_of_valueAt hv⟩
      · simp at h

/-- Six bits come back from the byte that they begin. -/
theorem sextet_first (hw : w < 64) : (v * 4 + w / 16) / 4 = v := by
  omega

/-- Six bits come back from the two bytes that they are split over, two and four of them. -/
theorem sextet_second (hw : w < 64) (hx : x < 64) :
    (v * 4 + w / 16) % 4 * 16 + (w % 16 * 16 + x / 4) / 16 = w := by
  omega

/-- Three bytes that four values make are written with the symbols of these values. -/
theorem encode_groupBytes (hv : v < 64) (hw : w < 64) (hx : x < 64) (hy : y < 64) (rest : Bytes) :
    encode (groupBytes v w x y ++ rest) =
      symbol v :: symbol w :: symbol x :: symbol y :: encode rest := by
  rw [groupBytes, List.cons_append, List.cons_append, List.cons_append, List.nil_append, encode,
    Utf8.toNat_ofNat_of_lt (by omega), Utf8.toNat_ofNat_of_lt (by omega),
    Utf8.toNat_ofNat_of_lt (by omega)]
  have hthird : (w % 16 * 16 + x / 4) % 16 * 4 + (x % 4 * 64 + y) / 64 = x := by omega
  have hfourth : (x % 4 * 64 + y) % 64 = y := by omega
  rw [sextet_first hw, sextet_second hw hx, hthird, hfourth]

/-- **The bytes of a last group are written with the symbols and the padding that it has.** -/
theorem LastGroup.encode_of_bytes {offset : Nat} {group : LastGroup} {last bytes : Bytes}
    (hspells : group.Spells last) (hlength : last.length ≤ 4)
    (h : group.bytes offset = .ok bytes) : encode bytes = last := by
  obtain ⟨symbols, pads⟩ := group
  obtain ⟨hread, hvalues, hpadded⟩ := hspells
  simp only at hread hvalues hpadded
  subst hread
  simp only [LastGroup.bytes] at h
  split at h
  · -- nothing was read
    obtain rfl := Except.ok.inj h
    obtain rfl : pads = 0 := by simpa using hpadded
    rfl
  · simp at h
  · next a v b w =>
    simp only [List.forall_mem_cons] at hvalues
    obtain ⟨⟨hv, rfl⟩, ⟨hw, rfl⟩, -⟩ := hvalues
    split_ifs at h with hrest
    obtain rfl := Except.ok.inj h
    have hsecond : (v * 4 + w / 16) % 4 * 16 = w := by omega
    rw [encode, Utf8.toNat_ofNat_of_lt (by omega), sextet_first hw, hsecond]
    rfl
  · next a v b w c x =>
    simp only [List.forall_mem_cons] at hvalues
    obtain ⟨⟨hv, rfl⟩, ⟨hw, rfl⟩, ⟨hx, rfl⟩, -⟩ := hvalues
    split_ifs at h with hrest
    obtain rfl := Except.ok.inj h
    have hthird : (w % 16 * 16 + x / 4) % 16 * 4 = x := by omega
    rw [encode, Utf8.toNat_ofNat_of_lt (by omega), Utf8.toNat_ofNat_of_lt (by omega),
      sextet_first hw, sextet_second hw hx, hthird]
    rfl
  · next a v b w c x d y more =>
    -- a group has no more than four symbols
    simp only [List.length_append, List.length_map, List.length_cons] at hlength
    obtain rfl : more = [] := List.length_eq_zero_iff.1 (by omega)
    simp only [List.forall_mem_cons] at hvalues
    obtain ⟨⟨hv, rfl⟩, ⟨hw, rfl⟩, ⟨hx, rfl⟩, ⟨hy, rfl⟩, -⟩ := hvalues
    obtain rfl := Except.ok.inj h
    exact encode_groupBytes hv hw hx hy []
  · simp at h

/-- What was decoded is written as it was. -/
theorem encode_of_decodeFrom {offset : Nat} {text bytes : Bytes}
    (h : decodeFrom offset text = .ok bytes) : encode bytes = text := by
  induction offset, text using decodeFrom.induct generalizing bytes with
  | case1 offset a b c d e rest ih =>
    rw [decodeFrom] at h
    simp only [Except.bind_eq_ok, Pure.pure, Except.pure, Except.ok.injEq] at h
    obtain ⟨v, ha, w, hb, x, hc, y, hd, more, hmore, rfl⟩ := h
    obtain ⟨hv, rfl⟩ := symbol_of_valueAt ha
    obtain ⟨hw, rfl⟩ := symbol_of_valueAt hb
    obtain ⟨hx, rfl⟩ := symbol_of_valueAt hc
    obtain ⟨hy, rfl⟩ := symbol_of_valueAt hd
    rw [encode_groupBytes hv hw hx hy, ih hmore]
  | case2 offset last hlast =>
    rw [decodeFrom, Except.bind_eq_ok] at h
    · obtain ⟨group, hgroup, hbytes⟩ := h
      have hspells : (⟨[], 0⟩ : LastGroup).Spells [] := ⟨rfl, by simp, .inl rfl⟩
      refine LastGroup.encode_of_bytes (LastGroup.spells_of_readLast hgroup hspells) ?_ hbytes
      rcases last with _ | ⟨a, _ | ⟨b, _ | ⟨c, _ | ⟨d, _ | ⟨e, rest⟩⟩⟩⟩⟩
      · simp
      · simp
      · simp
      · simp
      · simp
      · exact (hlast a b c d e rest rfl).elim
    · exact hlast

/-- **Nothing decodes to bytes but their encoding.** -/
theorem decode_eq_ok {text bytes : Bytes} : decode text = .ok bytes ↔ text = encode bytes := by
  constructor
  · intro h
    rw [decode] at h
    split at h
    · simp at h
    · exact (encode_of_decodeFrom h).symm
  · rintro rfl
    exact decode_encode bytes

/-! ### Through a text -/

theorem ofString_encodeString (bytes : Bytes) :
    Utf8.ofString (encodeString bytes) = encode bytes := by
  rw [Utf8.ofString, encodeString, String.toList_ofList]
  exact Utf8.encode_asciiChars (encode_ascii bytes)

/-- **The bytes of an encoded text decode to what was encoded.** -/
theorem decode_encodeString (bytes : Bytes) :
    decode (Utf8.ofString (encodeString bytes)) = .ok bytes := by
  rw [ofString_encodeString, decode_encode]

/-- **No other text decodes to it.** -/
theorem decode_ofString_eq_ok {text : String} {bytes : Bytes} :
    decode (Utf8.ofString text) = .ok bytes ↔ text = encodeString bytes := by
  rw [decode_eq_ok, ← ofString_encodeString, Utf8.ofString_inj]

end Base64

end WebhookTrust
