import WebhookTrust.Proofs.Calendar
import WebhookTrust.Proofs.Der
import WebhookTrust.X509.Validity

/-!
# The laws of validity periods

A time that is written is read back with the same second and in the same form
(`CertificateTime.read?_encode`), and so is a period (`Validity.read?_encode`). A time can be
written if its year has as many digits as its form has room for; the time of an instant can be if
the instant's year has at most four digits (`CertificateTime.isWritable_ofInstant`).

A time is a row of decimal numbers of fixed widths, so most of it is that digits that are written
are read back (`digits?_digitBytes`). That a time is a date of the calendar is asked when it is
read, and is the business of `WebhookTrust.Proofs.Calendar`.
-/

namespace WebhookTrust

/-! ### Decimal digits -/

namespace Calendar

/-- The ASCII bytes of the last decimal digits of a number. -/
def digitBytes : Nat → Nat → Bytes
  | 0, _ => []
  | width + 1, n => digitBytes width (n / 10) ++ [UInt8.ofNat (48 + n % 10)]

@[simp] theorem length_digitBytes (width n : Nat) : (digitBytes width n).length = width := by
  induction width generalizing n with
  | zero => rfl
  | succ width ih => rw [digitBytes, List.length_append, ih, List.length_singleton]

theorem ofNat_digitChar : ∀ d < 10, UInt8.ofNat (Nat.digitChar d).toNat = UInt8.ofNat (48 + d) := by
  decide

theorem toList_padded (width n : Nat) :
    (padded width n).toList =
      List.replicate (width - (Nat.toDigits 10 n).length) '0' ++ Nat.toDigits 10 n := by
  rw [padded, String.toList_append, String.toList_ofList, Nat.toList_repr, ← String.length_toList,
    Nat.toList_repr]

theorem toDigits_length_pos (n : Nat) : 0 < (Nat.toDigits 10 n).length :=
  List.length_pos_iff.2 Nat.toDigits_ne_nil

/-- The last digit of a padded number, and the number in front of it. -/
theorem toList_padded_succ {width : Nat} (hwidth : 0 < width) (n : Nat) :
    (padded (width + 1) n).toList = (padded width (n / 10)).toList ++ [Nat.digitChar (n % 10)] := by
  rw [toList_padded, toList_padded]
  by_cases hsmall : n < 10
  · have hzero : n / 10 = 0 := Nat.div_eq_of_lt hsmall
    obtain ⟨room, rfl⟩ : ∃ room, width = room + 1 := Nat.exists_eq_succ_of_ne_zero hwidth.ne'
    rw [Nat.toDigits_of_lt_base hsmall, hzero, Nat.toDigits_zero, Nat.mod_eq_of_lt hsmall]
    simp [List.replicate_succ']
  · have hpos := toDigits_length_pos (n / 10)
    rw [Nat.toDigits_of_base_le (by omega) (by omega : 10 ≤ n)]
    simp only [List.length_append, List.length_singleton, Nat.add_sub_add_right, List.append_assoc]

/-- A padded number is the bytes of its digits. -/
theorem ofAscii_padded {width n : Nat} (hwidth : 0 < width) (h : n < 10 ^ width) :
    Bytes.ofAscii (padded width n) = digitBytes width n := by
  induction width, hwidth using Nat.le_induction generalizing n with
  | base =>
    have hsmall : n < 10 := by simpa using h
    rw [Bytes.ofAscii, toList_padded, Nat.toDigits_of_lt_base hsmall]
    simp [digitBytes, ofNat_digitChar n hsmall, Nat.mod_eq_of_lt hsmall]
  | succ width hpos ih =>
    have hdiv : n / 10 < 10 ^ width := by
      rw [pow_succ] at h
      exact Nat.div_lt_of_lt_mul (by omega)
    have hrest := ih hdiv
    rw [Bytes.ofAscii] at hrest
    rw [Bytes.ofAscii, toList_padded_succ hpos, List.map_append, hrest, List.map_singleton,
      ofNat_digitChar _ (Nat.mod_lt n (by omega)), digitBytes]

end Calendar

namespace CertificateTime

open Calendar

/-! ### Reading digits -/

/-- One digit more is read behind the others. -/
theorem digits?_succ (count acc : Nat) (bytes : Bytes) :
    digits? (count + 1) acc bytes = (digits? count acc bytes).bind fun (n, rest) ↦
      digits? 1 n rest := by
  induction count generalizing acc bytes with
  | zero => cases bytes <;> rfl
  | succ count ih =>
    rcases bytes with _ | ⟨b, rest⟩
    · rfl
    · rw [digits?, digits?]
      split_ifs
      · rw [ih]
      · rfl

/-- **Digits that are written are read back.** -/
theorem digits?_digitBytes (width acc n : Nat) (rest : Bytes) :
    digits? width acc (digitBytes width n ++ rest) =
      some (acc * 10 ^ width + n % 10 ^ width, rest) := by
  induction width generalizing n rest with
  | zero => simp [digits?, digitBytes, Nat.mod_one]
  | succ width ih =>
    have hdigit : (UInt8.ofNat (48 + n % 10)).toNat = 48 + n % 10 := by
      rw [UInt8.toNat_ofNat']
      omega
    have hrange : 48 ≤ UInt8.ofNat (48 + n % 10) ∧ UInt8.ofNat (48 + n % 10) ≤ 57 := by
      simp only [UInt8.le_iff_toNat_le, hdigit, UInt8.reduceToNat]
      omega
    have hsplit : n % 10 ^ (width + 1) = n % 10 + 10 * (n / 10 % 10 ^ width) := by
      rw [pow_succ', Nat.mod_mul]
    rw [digitBytes, List.append_assoc, digits?_succ, ih, Option.bind_some, List.singleton_append]
    simp only [digits?, if_pos hrange, hdigit, hsplit, Option.some.injEq, Prod.mk.injEq, and_true]
    rw [pow_succ, ← Nat.mul_assoc]
    omega

theorem digits?_of_lt {width n : Nat} (h : n < 10 ^ width) (rest : Bytes) :
    digits? width 0 (digitBytes width n ++ rest) = some (n, rest) := by
  rw [digits?_digitBytes, Nat.mod_eq_of_lt h, Nat.zero_mul, Nat.zero_add]

/-! ### Times -/

/-- The bytes from month to second, and the letter for universal time. -/
def fieldBytes (t : DateTime) : Bytes :=
  digitBytes 2 t.month ++ (digitBytes 2 t.day ++ (digitBytes 2 t.hour ++
    (digitBytes 2 t.minute ++ (digitBytes 2 t.second ++ [90]))))

/-- What follows the year of a valid time is read back. -/
theorem fields?_fieldBytes {t : DateTime} (h : t.isValid = true) :
    fields? t.year (fieldBytes t) = some (t, [90]) := by
  have hvalid := h
  simp only [DateTime.isValid, Bool.and_eq_true, decide_eq_true_eq] at hvalid
  have hmonth : daysInMonth t.year t.month ≤ 31 := by
    unfold daysInMonth
    split_ifs <;> omega
  have hsecond : seconds? (digitBytes 2 t.second ++ [90]) =
      digits? 2 0 (digitBytes 2 t.second ++ [90]) := by
    simp [seconds?, digitBytes]
  rw [fields?, fieldBytes]
  simp only [Option.bind_eq_bind, Option.bind_some, hsecond,
    digits?_of_lt (show t.month < 10 ^ 2 by omega), digits?_of_lt (show t.day < 10 ^ 2 by omega),
    digits?_of_lt (show t.hour < 10 ^ 2 by omega), digits?_of_lt (show t.minute < 10 ^ 2 by omega),
    digits?_of_lt (show t.second < 10 ^ 2 by omega), h, if_true]

/-- The bytes from month to second are those that writing puts behind the year. -/
theorem ofAscii_fields {t : DateTime} (h : t.isValid = true) :
    Bytes.ofAscii (padded 2 t.month ++ padded 2 t.day ++ padded 2 t.hour ++ padded 2 t.minute ++
      padded 2 t.second ++ "Z") = fieldBytes t := by
  simp only [DateTime.isValid, Bool.and_eq_true, decide_eq_true_eq] at h
  have hmonth : daysInMonth t.year t.month ≤ 31 := by
    unfold daysInMonth
    split_ifs <;> omega
  have hascii : ∀ a b : String, Bytes.ofAscii (a ++ b) = Bytes.ofAscii a ++ Bytes.ofAscii b := by
    simp [Bytes.ofAscii]
  have htwo : ∀ n < 10 ^ 2, Bytes.ofAscii (padded 2 n) = digitBytes 2 n := fun n hn ↦
    ofAscii_padded (by omega) hn
  have hzone : Bytes.ofAscii "Z" = [90] := by decide
  simp only [hascii, hzone, fieldBytes, htwo _ (show t.month < 10 ^ 2 by omega),
    htwo _ (show t.day < 10 ^ 2 by omega), htwo _ (show t.hour < 10 ^ 2 by omega),
    htwo _ (show t.minute < 10 ^ 2 by omega), htwo _ (show t.second < 10 ^ 2 by omega),
    List.append_assoc]

/-- Does the year of the time have as many digits as its form has room for? -/
def IsWritable (time : CertificateTime) : Prop :=
  let year := (DateTime.ofSeconds time.seconds).year
  if time.isShort then 1950 ≤ year ∧ year < 2050 else 0 ≤ year ∧ year ≤ 9999

/-- The octets of a time without their identifier and length. -/
def contentBytes (time : CertificateTime) : Bytes :=
  let t := DateTime.ofSeconds time.seconds
  if time.isShort then digitBytes 2 (t.year % 100).toNat ++ fieldBytes t
  else digitBytes 4 t.year.toNat ++ fieldBytes t

/-- The identifier octet of a time. -/
def identifier (time : CertificateTime) : UInt8 := if time.isShort then 0x17 else 0x18

/-- A time is an element of its form. -/
theorem encode_eq {time : CertificateTime} (h : time.IsWritable) :
    time.encode = Der.encode time.identifier time.contentBytes := by
  have hascii : ∀ a b : String, Bytes.ofAscii (a ++ b) = Bytes.ofAscii a ++ Bytes.ofAscii b := by
    simp [Bytes.ofAscii]
  have hvalid := isValid_ofSeconds time.seconds
  unfold IsWritable at h
  rw [encode, identifier, contentBytes]
  split_ifs with hform
  · have hyear : ((DateTime.ofSeconds time.seconds).year % 100).toNat < 10 ^ 2 := by omega
    simp only [hascii _ (_ ++ _ ++ _ ++ _ ++ _ ++ _), ofAscii_fields hvalid,
      ofAscii_padded (by omega : 0 < 2) hyear]
  · have hyear : (DateTime.ofSeconds time.seconds).year.toNat < 10 ^ 4 := by
      rw [if_neg hform] at h
      omega
    simp only [hascii _ (_ ++ _ ++ _ ++ _ ++ _ ++ _), ofAscii_fields hvalid,
      ofAscii_padded (by omega : 0 < 4) hyear]

theorem length_contentBytes_le (time : CertificateTime) : time.contentBytes.length ≤ 15 := by
  rw [contentBytes, fieldBytes]
  split_ifs <;> simp

/-- A time with a year of two digits is read back. -/
theorem ofShort?_contentBytes {time : CertificateTime} (h : time.IsWritable)
    (hform : time.isShort = true) : ofShort? time.contentBytes = some time := by
  have hvalid := isValid_ofSeconds time.seconds
  have hseconds := seconds_ofSeconds time.seconds
  unfold IsWritable at h
  rw [if_pos hform] at h
  rw [contentBytes, if_pos hform, ofShort?]
  generalize DateTime.ofSeconds time.seconds = t at *
  have hyear : (if 50 ≤ (t.year % 100).toNat then 1900 + ((t.year % 100).toNat : Int)
      else 2000 + ((t.year % 100).toNat : Int)) = t.year := by
    split_ifs <;> omega
  rw [digits?_of_lt (by omega)]
  simp only [Option.bind_eq_bind, Option.bind_some, hyear, fields?_fieldBytes hvalid, offset?,
    hseconds, Int.sub_zero, Option.pure_def, ← hform]

/-- So is one with a year of four. -/
theorem ofLong?_contentBytes {time : CertificateTime} (h : time.IsWritable)
    (hform : time.isShort = false) : ofLong? time.contentBytes = some time := by
  have hvalid := isValid_ofSeconds time.seconds
  have hseconds := seconds_ofSeconds time.seconds
  have hlong : ¬ time.isShort = true := by simp [hform]
  unfold IsWritable at h
  rw [if_neg hlong] at h
  rw [contentBytes, if_neg hlong, ofLong?]
  generalize DateTime.ofSeconds time.seconds = t at *
  have hyear : (t.year.toNat : Int) = t.year := by omega
  rw [digits?_of_lt (by omega)]
  simp only [Option.bind_eq_bind, Option.bind_some, hyear, fields?_fieldBytes hvalid, isLongEnd,
    if_true, hseconds, ← hform]

/-- **A time that is written is read back.** -/
theorem read?_encode {time : CertificateTime} (h : time.IsWritable) (rest : Bytes) :
    read? (time.encode ++ rest) = some (time, rest) := by
  have hlength : time.contentBytes.length < Nat.pow 2 64 :=
    lt_of_le_of_lt time.length_contentBytes_le (by decide)
  rw [encode_eq h, read?, identifier]
  cases hform : time.isShort with
  | true =>
    rw [if_pos rfl, Der.element?_encode (by decide) hlength]
    simp [Der.elementOf, Der.utcTimeTag, ofShort?_contentBytes h hform]
  | false =>
    rw [if_neg Bool.false_ne_true, Der.element?_encode (by decide) hlength]
    simp [Der.elementOf, Der.utcTimeTag, Der.generalizedTimeTag, ofLong?_contentBytes h hform]

/-- The time of an instant is writable if the instant's year has at most four digits. -/
theorem isWritable_ofInstant {instant : Instant}
    (h : 0 ≤ (DateTime.ofSeconds instant.seconds).year ∧
      (DateTime.ofSeconds instant.seconds).year ≤ 9999) : (ofInstant instant).IsWritable := by
  simp only [IsWritable, ofInstant, Bool.and_eq_true, decide_eq_true_eq]
  split_ifs with hform
  · exact hform
  · exact h

theorem length_encode_le {time : CertificateTime} (h : time.IsWritable) :
    time.encode.length ≤ 25 := by
  have hcontents := time.length_contentBytes_le
  have hencode := Der.length_encode_le time.identifier
    (lt_of_le_of_lt hcontents (by decide))
  rw [encode_eq h]
  omega

end CertificateTime

namespace Validity

variable {validity : Validity}

theorem length_times_lt (hbefore : validity.notBefore.IsWritable)
    (hafter : validity.notAfter.IsWritable) :
    [validity.notBefore.encode, validity.notAfter.encode].flatten.length ≤ 50 := by
  have := CertificateTime.length_encode_le hbefore
  have := CertificateTime.length_encode_le hafter
  simp only [List.flatten_cons, List.flatten_nil, List.append_nil, List.length_append]
  omega

/-- **A period that is written is read back.** -/
theorem read?_encode (hbefore : validity.notBefore.IsWritable)
    (hafter : validity.notAfter.IsWritable) (rest : Bytes) :
    read? (validity.encode ++ rest) = some (validity, rest) := by
  have hlength := length_times_lt hbefore hafter
  rw [read?, encode, Der.sequence, Der.contents?_encode (by decide) (by decide)
    (lt_of_le_of_lt hlength (by decide))]
  simp only [List.flatten_cons, List.flatten_nil, Option.bind_eq_bind, Option.bind_some,
    CertificateTime.read?_encode hbefore, CertificateTime.read?_encode hafter, Option.pure_def]

theorem length_encode_le (hbefore : validity.notBefore.IsWritable)
    (hafter : validity.notAfter.IsWritable) : validity.encode.length ≤ 60 := by
  have hlength := length_times_lt hbefore hafter
  have hencode := Der.length_encode_le 0x30 (lt_of_le_of_lt hlength (by decide))
  rw [encode, Der.sequence]
  omega

end Validity

end WebhookTrust
