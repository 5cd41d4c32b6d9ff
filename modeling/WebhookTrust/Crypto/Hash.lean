import WebhookTrust.Bytes

/-!
# Hash functions

SHA-1 and the SHA-2 family. All of them pad the message to whole blocks, spread each block of
sixteen words into a schedule, and mix the schedule into a state of words round by round. The
schedule is grown one word at a time from the sixteen words before it.
-/

namespace WebhookTrust.Hash

/-! ### Blocks -/

/-- The message with a one bit, zeros and its length in bits behind it, so that it fills whole
blocks of `block` bytes; the length takes `width` bytes. -/
def padded (block width : Nat) (message : Bytes) : Bytes :=
  let used := message.length + 1 + width
  message ++ 0x80 :: List.replicate ((block - used % block) % block) 0 ++
    Bytes.ofNatPadded width (message.length * 8)

/-- The bytes in pieces of `size`; `fuel` bounds how many there are. -/
def piecesFrom (size : Nat) : Nat → Bytes → List Bytes
  | 0, _ => []
  | fuel + 1, bytes =>
    if bytes.isEmpty then [] else bytes.take size :: piecesFrom size fuel (bytes.drop size)

/-- The bytes in pieces of `size`, the last of which may be shorter. -/
def pieces (size : Nat) (bytes : Bytes) : List Bytes := piecesFrom size bytes.length bytes

/-- The schedule behind a window of the last sixteen words: `count` more words, each made by
`next`. -/
def extend {W : Type} (next : List W → W) : Nat → List W → List W
  | 0, window => window
  | count + 1, window =>
    match window with
    | [] => []
    | first :: rest => first :: extend next count (rest ++ [next window])

/-! ### Words of 32 bits -/

/-- Rotation to the left. -/
def rotateLeft32 (x : UInt32) (k : UInt32) : UInt32 := (x <<< k) ||| (x >>> (32 - k))

/-- Rotation to the right. -/
def rotateRight32 (x : UInt32) (k : UInt32) : UInt32 := (x >>> k) ||| (x <<< (32 - k))

/-- The words of a block. -/
def words32 (bytes : Bytes) : List UInt32 := (pieces 4 bytes).map fun p ↦ UInt32.ofNat p.toNat

/-- Adds two states word by word. -/
def add32 (a b : List UInt32) : List UInt32 := List.zipWith (· + ·) a b

/-- The bytes of the words. -/
def bytes32 (words : List UInt32) : Bytes := words.flatMap fun w ↦ Bytes.ofNatPadded 4 w.toNat

/-! ### SHA-1 -/

/-- The word that the schedule goes on with. -/
def sha1Next (window : List UInt32) : UInt32 :=
  rotateLeft32 (window.getD 13 0 ^^^ window.getD 8 0 ^^^ window.getD 2 0 ^^^ window.getD 0 0) 1

/-- The choice and constant of round `t`. -/
def sha1Mix (t : Nat) (b c d : UInt32) : UInt32 :=
  if t < 20 then ((b &&& c) ||| (~~~b &&& d)) + 0x5A827999
  else if t < 40 then (b ^^^ c ^^^ d) + 0x6ED9EBA1
  else if t < 60 then ((b &&& c) ||| (b &&& d) ||| (c &&& d)) + 0x8F1BBCDC
  else (b ^^^ c ^^^ d) + 0xCA62C1D6

/-- One round. -/
def sha1Round (state : List UInt32) (entry : UInt32 × Nat) : List UInt32 :=
  match state with
  | [a, b, c, d, e] =>
    [rotateLeft32 a 5 + sha1Mix entry.2 b c d + e + entry.1, a, rotateLeft32 b 30, c, d]
  | _ => state

/-- The SHA-1 digest, of 20 bytes. -/
def sha1 (message : Bytes) : Bytes :=
  let start : List UInt32 := [0x67452301, 0xEFCDAB89, 0x98BADCFE, 0x10325476, 0xC3D2E1F0]
  let absorb state block :=
    add32 state ((extend sha1Next 64 (words32 block)).zipIdx.foldl sha1Round state)
  bytes32 ((pieces 64 (padded 64 8 message)).foldl absorb start)

/-! ### SHA-256 -/

/-- The first 32 bits of the fractional parts of the cube roots of the first 64 primes. -/
def constants256 : List UInt32 := [
  0x428A2F98, 0x71374491, 0xB5C0FBCF, 0xE9B5DBA5, 0x3956C25B, 0x59F111F1,
  0x923F82A4, 0xAB1C5ED5, 0xD807AA98, 0x12835B01, 0x243185BE, 0x550C7DC3,
  0x72BE5D74, 0x80DEB1FE, 0x9BDC06A7, 0xC19BF174, 0xE49B69C1, 0xEFBE4786,
  0x0FC19DC6, 0x240CA1CC, 0x2DE92C6F, 0x4A7484AA, 0x5CB0A9DC, 0x76F988DA,
  0x983E5152, 0xA831C66D, 0xB00327C8, 0xBF597FC7, 0xC6E00BF3, 0xD5A79147,
  0x06CA6351, 0x14292967, 0x27B70A85, 0x2E1B2138, 0x4D2C6DFC, 0x53380D13,
  0x650A7354, 0x766A0ABB, 0x81C2C92E, 0x92722C85, 0xA2BFE8A1, 0xA81A664B,
  0xC24B8B70, 0xC76C51A3, 0xD192E819, 0xD6990624, 0xF40E3585, 0x106AA070,
  0x19A4C116, 0x1E376C08, 0x2748774C, 0x34B0BCB5, 0x391C0CB3, 0x4ED8AA4A,
  0x5B9CCA4F, 0x682E6FF3, 0x748F82EE, 0x78A5636F, 0x84C87814, 0x8CC70208,
  0x90BEFFFA, 0xA4506CEB, 0xBEF9A3F7, 0xC67178F2]

/-- The first 32 bits of the fractional parts of the square roots of the first eight primes. -/
def start256 : List UInt32 := [
  0x6A09E667, 0xBB67AE85, 0x3C6EF372, 0xA54FF53A,
  0x510E527F, 0x9B05688C, 0x1F83D9AB, 0x5BE0CD19]

/-- The word that the schedule goes on with. -/
def sha256Next (window : List UInt32) : UInt32 :=
  let near := window.getD 14 0
  let far := window.getD 1 0
  (rotateRight32 near 17 ^^^ rotateRight32 near 19 ^^^ (near >>> 10)) + window.getD 9 0 +
    (rotateRight32 far 7 ^^^ rotateRight32 far 18 ^^^ (far >>> 3)) + window.getD 0 0

/-- One round, with the sum of its schedule word and constant. -/
def sha256Round (state : List UInt32) (entry : UInt32) : List UInt32 :=
  match state with
  | [a, b, c, d, e, f, g, h] =>
    let t := h + (rotateRight32 e 6 ^^^ rotateRight32 e 11 ^^^ rotateRight32 e 25) +
      ((e &&& f) ^^^ (~~~e &&& g)) + entry
    let u := (rotateRight32 a 2 ^^^ rotateRight32 a 13 ^^^ rotateRight32 a 22) +
      ((a &&& b) ^^^ (a &&& c) ^^^ (b &&& c))
    [t + u, a, b, c, d + t, e, f, g]
  | _ => state

/-- The SHA-256 digest, of 32 bytes. -/
def sha256 (message : Bytes) : Bytes :=
  bytes32 <| (pieces 64 (padded 64 8 message)).foldl
    (fun state block ↦ add32 state
      ((add32 (extend sha256Next 48 (words32 block)) constants256).foldl sha256Round state))
    start256

/-! ### Words of 64 bits -/

/-- Rotation to the right. -/
def rotateRight64 (x : UInt64) (k : UInt64) : UInt64 := (x >>> k) ||| (x <<< (64 - k))

/-- The words of a block. -/
def words64 (bytes : Bytes) : List UInt64 := (pieces 8 bytes).map fun p ↦ UInt64.ofNat p.toNat

/-- Adds two states word by word. -/
def add64 (a b : List UInt64) : List UInt64 := List.zipWith (· + ·) a b

/-- The bytes of the words. -/
def bytes64 (words : List UInt64) : Bytes := words.flatMap fun w ↦ Bytes.ofNatPadded 8 w.toNat

/-! ### SHA-512 and SHA-384 -/

/-- The first 64 bits of the fractional parts of the cube roots of the first 80 primes. -/
def constants512 : List UInt64 := [
  0x428A2F98D728AE22, 0x7137449123EF65CD, 0xB5C0FBCFEC4D3B2F, 0xE9B5DBA58189DBBC,
  0x3956C25BF348B538, 0x59F111F1B605D019, 0x923F82A4AF194F9B, 0xAB1C5ED5DA6D8118,
  0xD807AA98A3030242, 0x12835B0145706FBE, 0x243185BE4EE4B28C, 0x550C7DC3D5FFB4E2,
  0x72BE5D74F27B896F, 0x80DEB1FE3B1696B1, 0x9BDC06A725C71235, 0xC19BF174CF692694,
  0xE49B69C19EF14AD2, 0xEFBE4786384F25E3, 0x0FC19DC68B8CD5B5, 0x240CA1CC77AC9C65,
  0x2DE92C6F592B0275, 0x4A7484AA6EA6E483, 0x5CB0A9DCBD41FBD4, 0x76F988DA831153B5,
  0x983E5152EE66DFAB, 0xA831C66D2DB43210, 0xB00327C898FB213F, 0xBF597FC7BEEF0EE4,
  0xC6E00BF33DA88FC2, 0xD5A79147930AA725, 0x06CA6351E003826F, 0x142929670A0E6E70,
  0x27B70A8546D22FFC, 0x2E1B21385C26C926, 0x4D2C6DFC5AC42AED, 0x53380D139D95B3DF,
  0x650A73548BAF63DE, 0x766A0ABB3C77B2A8, 0x81C2C92E47EDAEE6, 0x92722C851482353B,
  0xA2BFE8A14CF10364, 0xA81A664BBC423001, 0xC24B8B70D0F89791, 0xC76C51A30654BE30,
  0xD192E819D6EF5218, 0xD69906245565A910, 0xF40E35855771202A, 0x106AA07032BBD1B8,
  0x19A4C116B8D2D0C8, 0x1E376C085141AB53, 0x2748774CDF8EEB99, 0x34B0BCB5E19B48A8,
  0x391C0CB3C5C95A63, 0x4ED8AA4AE3418ACB, 0x5B9CCA4F7763E373, 0x682E6FF3D6B2B8A3,
  0x748F82EE5DEFB2FC, 0x78A5636F43172F60, 0x84C87814A1F0AB72, 0x8CC702081A6439EC,
  0x90BEFFFA23631E28, 0xA4506CEBDE82BDE9, 0xBEF9A3F7B2C67915, 0xC67178F2E372532B,
  0xCA273ECEEA26619C, 0xD186B8C721C0C207, 0xEADA7DD6CDE0EB1E, 0xF57D4F7FEE6ED178,
  0x06F067AA72176FBA, 0x0A637DC5A2C898A6, 0x113F9804BEF90DAE, 0x1B710B35131C471B,
  0x28DB77F523047D84, 0x32CAAB7B40C72493, 0x3C9EBE0A15C9BEBC, 0x431D67C49C100D4C,
  0x4CC5D4BECB3E42B6, 0x597F299CFC657E2A, 0x5FCB6FAB3AD6FAEC, 0x6C44198C4A475817]

/-- The first 64 bits of the fractional parts of the square roots of the first eight primes. -/
def start512 : List UInt64 := [
  0x6A09E667F3BCC908, 0xBB67AE8584CAA73B, 0x3C6EF372FE94F82B, 0xA54FF53A5F1D36F1,
  0x510E527FADE682D1, 0x9B05688C2B3E6C1F, 0x1F83D9ABFB41BD6B, 0x5BE0CD19137E2179]

/-- The same of the ninth to sixteenth primes. -/
def start384 : List UInt64 := [
  0xCBBB9D5DC1059ED8, 0x629A292A367CD507, 0x9159015A3070DD17, 0x152FECD8F70E5939,
  0x67332667FFC00B31, 0x8EB44A8768581511, 0xDB0C2E0D64F98FA7, 0x47B5481DBEFA4FA4]

/-- The word that the schedule goes on with. -/
def sha512Next (window : List UInt64) : UInt64 :=
  let near := window.getD 14 0
  let far := window.getD 1 0
  (rotateRight64 near 19 ^^^ rotateRight64 near 61 ^^^ (near >>> 6)) + window.getD 9 0 +
    (rotateRight64 far 1 ^^^ rotateRight64 far 8 ^^^ (far >>> 7)) + window.getD 0 0

/-- One round, with the sum of its schedule word and constant. -/
def sha512Round (state : List UInt64) (entry : UInt64) : List UInt64 :=
  match state with
  | [a, b, c, d, e, f, g, h] =>
    let t := h + (rotateRight64 e 14 ^^^ rotateRight64 e 18 ^^^ rotateRight64 e 41) +
      ((e &&& f) ^^^ (~~~e &&& g)) + entry
    let u := (rotateRight64 a 28 ^^^ rotateRight64 a 34 ^^^ rotateRight64 a 39) +
      ((a &&& b) ^^^ (a &&& c) ^^^ (b &&& c))
    [t + u, a, b, c, d + t, e, f, g]
  | _ => state

/-- The final state of SHA-512 from a given start. -/
def run512 (start : List UInt64) (message : Bytes) : Bytes :=
  bytes64 <| (pieces 128 (padded 128 16 message)).foldl
    (fun state block ↦ add64 state
      ((add64 (extend sha512Next 64 (words64 block)) constants512).foldl sha512Round state))
    start

/-- The SHA-512 digest, of 64 bytes. -/
def sha512 (message : Bytes) : Bytes := run512 start512 message

/-- The SHA-384 digest, of 48 bytes: SHA-512 from another start, cut short. -/
def sha384 (message : Bytes) : Bytes := (run512 start384 message).take 48

end WebhookTrust.Hash
