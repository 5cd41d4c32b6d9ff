import Mathlib.Data.List.Induction
import Mathlib.Data.Nat.Log
import Mathlib.Tactic.Ring
import WebhookTrust.Bytes

/-!
# The laws of big-endian numbers

Bytes spell a number and a number is spelled by bytes, and the two undo each other. With a fixed
width every byte string of that width is hit (`ofNatPadded_toNat`); with the fewest bytes, every
byte string without a leading zero (`stripLeadingZeros_eq_ofNat`). The two forms meet in `ofNat`,
whose width is the number of bytes that the number needs (`byteLength_le_iff`).

Hence stripping the zeros of any byte string and writing a positive number are two ways to the same
bytes exactly if the byte string spells the number (`stripLeadingZeros_eq_ofNatNonempty_iff`).
-/

namespace WebhookTrust.Bytes

variable {n width : Nat} {bytes : Bytes}

/-! ### From bytes to numbers -/

/-- The digits that were read before count more. -/
theorem natFrom_eq (acc : Nat) (bytes : Bytes) :
    natFrom acc bytes = acc * 256 ^ bytes.length + toNat bytes := by
  induction bytes generalizing acc with
  | nil => simp [natFrom, toNat]
  | cons b rest ih =>
    rw [toNat, natFrom, natFrom, ih, ih (0 * 256 + b.toNat), List.length_cons, pow_succ]
    ring

@[simp] theorem toNat_nil : toNat [] = 0 := rfl

theorem toNat_cons (b : UInt8) (rest : Bytes) :
    toNat (b :: rest) = b.toNat * 256 ^ rest.length + toNat rest := by
  rw [toNat, natFrom, natFrom_eq]
  ring

/-- What stands in front counts more. -/
theorem toNat_append (a b : Bytes) : toNat (a ++ b) = toNat a * 256 ^ b.length + toNat b := by
  induction a with
  | nil => simp
  | cons x rest ih =>
    rw [List.cons_append, toNat_cons, toNat_cons, ih, List.length_append, pow_add]
    ring

/-- A number takes no more digits than it has bytes. -/
theorem toNat_lt (bytes : Bytes) : toNat bytes < 256 ^ bytes.length := by
  induction bytes with
  | nil => simp
  | cons b rest ih =>
    have hb : b.toNat + 1 ≤ 256 := b.toNat_lt
    have hmul := Nat.mul_le_mul_right (256 ^ rest.length) hb
    rw [toNat_cons, List.length_cons, pow_succ]
    rw [Nat.add_mul, Nat.one_mul] at hmul
    omega

/-! ### From numbers to bytes of a width -/

/-- A number that is too great for its width loses its first digits. -/
theorem toNat_ofNatPadded (width n : Nat) : toNat (ofNatPadded width n) = n % 256 ^ width := by
  induction width generalizing n with
  | zero => simp [ofNatPadded, Nat.mod_one]
  | succ width ih =>
    have hlow : (UInt8.ofNat (n % 256)).toNat = n % 256 := by
      rw [UInt8.toNat_ofNat']
      omega
    have hsplit : n % 256 ^ (width + 1) = n % 256 + 256 * (n / 256 % 256 ^ width) := by
      rw [pow_succ', Nat.mod_mul]
    rw [ofNatPadded, toNat_append, ih, toNat_cons, hlow, hsplit]
    simp
    ring

theorem toNat_ofNatPadded_of_lt (h : n < 256 ^ width) : toNat (ofNatPadded width n) = n := by
  rw [toNat_ofNatPadded, Nat.mod_eq_of_lt h]

/-- Every byte string spells out the number that it stands for, in its own width. -/
theorem ofNatPadded_toNat (bytes : Bytes) : ofNatPadded bytes.length (toNat bytes) = bytes := by
  induction bytes using List.reverseRecOn with
  | nil => rfl
  | append_singleton front b ih =>
    have hb : b.toNat < 256 := b.toNat_lt
    have hvalue : toNat (front ++ [b]) = toNat front * 256 + b.toNat := by
      rw [toNat_append, toNat_cons]
      simp
    have hhigh : (toNat front * 256 + b.toNat) / 256 = toNat front := by omega
    have hlow : (toNat front * 256 + b.toNat) % 256 = b.toNat := by omega
    rw [List.length_append, List.length_singleton, ofNatPadded, hvalue, hhigh, hlow, ih,
      UInt8.ofNat_toNat]

/-! ### The fewest bytes -/

/-- A number takes at most so many bytes when it is below that power of 256. -/
theorem byteLength_le_iff : byteLength n ≤ width ↔ n < 256 ^ width := by
  have hpow : (256 : Nat) ^ width = 2 ^ (8 * width) := by
    rw [pow_mul]
    norm_num
  rcases Nat.eq_zero_or_pos n with rfl | hpos
  · simp [byteLength]
  · have hlog : Nat.log2 n < 8 * width ↔ n < 2 ^ (8 * width) := Nat.log2_lt (by omega)
    rw [byteLength, if_neg (by omega), hpow, ← hlog]
    omega

theorem lt_pow_byteLength (n : Nat) : n < 256 ^ byteLength n := byteLength_le_iff.1 le_rfl

@[simp] theorem length_ofNat (n : Nat) : (ofNat n).length = byteLength n := length_ofNatPadded ..

@[simp] theorem toNat_ofNat (n : Nat) : toNat (ofNat n) = n :=
  toNat_ofNatPadded_of_lt (lt_pow_byteLength n)

/-- A byte string that does not start with a zero is the shortest that spells its number. -/
theorem ofNat_toNat_of_head (b : UInt8) (rest : Bytes) (h : b ≠ 0) :
    ofNat (toNat (b :: rest)) = b :: rest := by
  have hb : 1 ≤ b.toNat := by
    have hne : b.toNat ≠ 0 := fun hzero ↦ h (UInt8.toNat_inj.1 hzero)
    omega
  have hge : 256 ^ rest.length ≤ toNat (b :: rest) := by
    rw [toNat_cons]
    exact le_trans (Nat.le_mul_of_pos_left _ hb) (Nat.le_add_right ..)
  have hwidth : byteLength (toNat (b :: rest)) = (b :: rest).length := by
    have hle := byteLength_le_iff.2 (toNat_lt (b :: rest))
    have hlt : ¬ byteLength (toNat (b :: rest)) ≤ rest.length := by
      rw [byteLength_le_iff]
      omega
    rw [List.length_cons] at hle ⊢
    omega
  rw [ofNat, hwidth, ofNatPadded_toNat]

/-- Without its leading zeros, a byte string is the shortest that spells its number. -/
theorem stripLeadingZeros_eq_ofNat (bytes : Bytes) :
    stripLeadingZeros bytes = ofNat (toNat bytes) := by
  induction bytes with
  | nil => rfl
  | cons b rest ih =>
    by_cases hb : b = 0
    · rw [stripLeadingZeros, if_pos hb, ih, toNat_cons, hb]
      simp
    · rw [stripLeadingZeros, if_neg hb, ofNat_toNat_of_head b rest hb]

/-- The shortest spelling of a number has no leading zero. -/
theorem stripLeadingZeros_ofNat (n : Nat) : stripLeadingZeros (ofNat n) = ofNat n := by
  rw [stripLeadingZeros_eq_ofNat, toNat_ofNat]

/-- So its first byte is no zero. -/
theorem head_ne_zero_of_ofNat {b : UInt8} {rest : Bytes} (h : ofNat n = b :: rest) : b ≠ 0 := by
  rintro rfl
  have hstrip := stripLeadingZeros_ofNat n
  rw [h, stripLeadingZeros, if_pos rfl] at hstrip
  have hshort := congrArg List.length hstrip
  have hle : ∀ bytes : Bytes, (stripLeadingZeros bytes).length ≤ bytes.length := by
    intro bytes
    rw [stripLeadingZeros_eq_ofNat, length_ofNat, byteLength_le_iff]
    exact toNat_lt bytes
  have := hle rest
  rw [List.length_cons] at hshort
  omega

/-- A number has one shortest spelling. -/
theorem ofNat_inj {m n : Nat} : ofNat m = ofNat n ↔ m = n := by
  refine ⟨fun h ↦ ?_, congrArg ofNat⟩
  have hvalue := congrArg toNat h
  rwa [toNat_ofNat, toNat_ofNat] at hvalue

/-- **A byte string without its leading zeros is what a number is written as, exactly if it spells
the number and the number is positive**: the byte that zero takes is one that stripping removes. -/
theorem stripLeadingZeros_eq_ofNatNonempty_iff :
    stripLeadingZeros bytes = ofNatNonempty n ↔ 0 < n ∧ toNat bytes = n := by
  rw [stripLeadingZeros_eq_ofNat, ofNatNonempty]
  split_ifs with hzero
  · constructor
    · intro h
      exact absurd rfl (head_ne_zero_of_ofNat h)
    · rintro ⟨hpos, -⟩
      omega
  · rw [ofNat_inj]
    exact (and_iff_right (Nat.pos_of_ne_zero hzero)).symm

end WebhookTrust.Bytes
