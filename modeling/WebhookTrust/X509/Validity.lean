import WebhookTrust.Asn1.Der
import WebhookTrust.Calendar

/-!
# Validity periods

A certificate bounds its validity by two times in whole seconds, both included. A time is written
with a year of two digits from 1950 to 2049 and of four digits otherwise; reading takes both forms
anywhere, both also without seconds, and the short one with an offset from universal time.
-/

namespace WebhookTrust

/-- A time as a certificate gives it: whole seconds since the start of 1970, and whether its year is
written with two digits. -/
structure CertificateTime where
  seconds : Int
  isShort : Bool
deriving DecidableEq, Repr, Inhabited

/-- The first and the last second of a period. -/
structure Validity where
  notBefore : CertificateTime
  notAfter : CertificateTime
deriving DecidableEq, Repr, Inhabited

namespace CertificateTime

/-! ### Reading -/

/-- A number of `count` decimal digits. -/
def digits? : Nat → Nat → Bytes → Option (Nat × Bytes)
  | 0, acc, rest => some (acc, rest)
  | _ + 1, _, [] => none
  | count + 1, acc, b :: rest =>
    if 48 ≤ b ∧ b ≤ 57 then digits? count (acc * 10 + (b.toNat - 48)) rest else none

/-- The seconds of a time, which may be left out if a single letter for the zone follows. -/
def seconds? : Bytes → Option (Nat × Bytes)
  | [zone] => some (0, [zone])
  | bytes => digits? 2 0 bytes

/-- The fields from month to second behind a year, and what follows them. -/
def fields? (year : Int) (bytes : Bytes) : Option (Calendar.DateTime × Bytes) := do
  let (month, rest) ← digits? 2 0 bytes
  let (day, rest) ← digits? 2 0 rest
  let (hour, rest) ← digits? 2 0 rest
  let (minute, rest) ← digits? 2 0 rest
  let (second, rest) ← seconds? rest
  let time : Calendar.DateTime := ⟨year, month, day, hour, minute, second⟩
  if time.isValid then some (time, rest) else none

/-- The seconds that a zone is ahead of universal time. The sign counts if the hours do. -/
def offset? : Bytes → Option Int
  | [90] => some 0
  | sign :: rest => do
    if sign ≠ 43 ∧ sign ≠ 45 then none
    else
      let (hours, rest) ← digits? 2 0 rest
      let (minutes, rest) ← digits? 2 0 rest
      if rest ≠ [] ∨ 25 < hours ∨ 59 < minutes then none
      else
        let seconds : Int := hours * 3600 + minutes * 60
        some (if sign = 45 ∧ hours ≠ 0 then -seconds else seconds)
  | [] => none

/-- The time that the short form spells. -/
def ofShort? (contents : Bytes) : Option CertificateTime := do
  let (year, rest) ← digits? 2 0 contents
  let (time, zone) ← fields? (if 50 ≤ year then 1900 + year else 2000 + year) rest
  let offset ← offset? zone
  return ⟨time.seconds - offset, true⟩

/-- Is it the end of the long form: a fraction of at most three digits, if any, and the letter for
universal time? -/
def isLongEnd : Bytes → Bool
  | [90] => true
  | 46 :: rest =>
    rest.getLast? = some 90 && rest.length ≤ 4 && rest.dropLast.all fun b ↦ 48 ≤ b && b ≤ 57
  | _ => false

/-- The time that the long form spells. -/
def ofLong? (contents : Bytes) : Option CertificateTime := do
  let (year, rest) ← digits? 4 0 contents
  let (time, zone) ← fields? year rest
  if isLongEnd zone then some ⟨time.seconds, false⟩ else none

/-- The time that the bytes start with. -/
def read? (bytes : Bytes) : Option (CertificateTime × Bytes) := do
  let (element, rest) ← Der.element? bytes
  if element.tag = Der.utcTimeTag then (ofShort? element.contents).map (·, rest)
  else if element.tag = Der.generalizedTimeTag then (ofLong? element.contents).map (·, rest)
  else none

/-! ### Writing -/

/-- The time of an instant, without its fraction of a second. -/
def ofInstant (instant : Instant) : CertificateTime :=
  let year := (Calendar.DateTime.ofSeconds instant.seconds).year
  ⟨instant.seconds, 1950 ≤ year && year < 2050⟩

/-- The encoded time. -/
def encode (time : CertificateTime) : Bytes :=
  let t := Calendar.DateTime.ofSeconds time.seconds
  let two := Calendar.padded 2
  let rest := two t.month ++ two t.day ++ two t.hour ++ two t.minute ++ two t.second ++ "Z"
  if time.isShort then Der.encode 0x17 (Bytes.ofAscii (two (t.year % 100).toNat ++ rest))
  else Der.encode 0x18 (Bytes.ofAscii (Calendar.padded 4 t.year.toNat ++ rest))

end CertificateTime

namespace Validity

/-- The period that the bytes start with: a sequence of two times. -/
def read? (bytes : Bytes) : Option (Validity × Bytes) := do
  let (times, rest) ← Der.contents? Der.sequenceTag bytes
  let (notBefore, times) ← CertificateTime.read? times
  let (notAfter, _) ← CertificateTime.read? times
  return (⟨notBefore, notAfter⟩, rest)

/-- The encoded period. -/
def encode (validity : Validity) : Bytes :=
  Der.sequence [validity.notBefore.encode, validity.notAfter.encode]

end Validity

end WebhookTrust
