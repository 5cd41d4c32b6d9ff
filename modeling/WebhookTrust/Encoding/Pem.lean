import WebhookTrust.Encoding.Base64
import WebhookTrust.Text.Splitting
import WebhookTrust.Text.Utf8

/-!
# PEM blocks

A PEM block is a Base64 text between a line `-----BEGIN tag-----` and a line `-----END tag-----`.
Reading takes the first block and looks at nothing outside it. Inside, a blank line separates
headers from the data, and white space in the data does not count.

The search for a marker is a single pass that never looks back: after a partial match fails it goes
on behind the failing byte. Six dashes in front of `BEGIN` therefore hide the marker.
-/

namespace WebhookTrust.Pem

/-- A block: its tag and the bytes that it armours. -/
structure Block where
  tag : String
  contents : Bytes
deriving DecidableEq, Repr

/-! ### Markers -/

/-- What opens a begin line. -/
def beginMarker : Bytes := Bytes.ofAscii "-----BEGIN "

/-- What opens an end line. -/
def endMarker : Bytes := Bytes.ofAscii "-----END "

/-- What closes either line. -/
def dashes : Bytes := Bytes.ofAscii "-----"

/-- The search behind `splitAtMarker`: `todo` is what is still to match, `seen` the bytes passed so
far, last first. -/
def splitFrom (marker todo seen : Bytes) : Bytes → Option (Bytes × Bytes)
  | [] => none
  | b :: rest =>
    match todo with
    | [] => none
    | m :: todo =>
      if b = m then
        if todo.isEmpty then some (((b :: seen).drop marker.length).reverse, rest)
        else splitFrom marker todo (b :: seen) rest
      else splitFrom marker marker (b :: seen) rest

/-- The bytes before and behind the first occurrence of the marker that a single pass finds. -/
def splitAtMarker (marker bytes : Bytes) : Option (Bytes × Bytes) :=
  splitFrom marker marker [] bytes

/-- Is the byte a space, tab, carriage return or line feed? -/
def isSpace (b : UInt8) : Bool := b = 32 || b = 9 || b = 10 || b = 13

/-! ### Framing -/

/-- The raw parts of a block. -/
structure Parts where
  beginTag : Bytes
  headers : Bytes
  data : Bytes
  endTag : Bytes

/-- Cuts a body at its first blank line into headers and data; without one all of it is data. -/
def splitBody (body : Bytes) : Bytes × Bytes :=
  match splitAtMarker [10, 10] body with
  | some parts => parts
  | none =>
    match splitAtMarker [13, 10, 13, 10] body with
    | some parts => parts
    | none => ([], body)

/-- The raw parts of the first block, if the four markers are there. -/
def parts? (bytes : Bytes) : Option Parts := do
  let (_, bytes) ← splitAtMarker beginMarker bytes
  let (beginTag, bytes) ← splitAtMarker dashes bytes
  let (body, bytes) ← splitAtMarker endMarker (bytes.dropWhile isSpace)
  let (endTag, _) ← splitAtMarker dashes bytes
  let (headers, data) := splitBody body
  return { beginTag, headers, data, endTag }

/-! ### Reading -/

/-- Why bytes hold no block. -/
inductive Error where
  | framing
  | noBeginTag
  | noEndTag
  | tagMismatch (beginTag endTag : String)
  | header (line : String)
  | utf8 (cause : Utf8.Error)
  | data (cause : Base64.Error)
deriving DecidableEq, Repr

/-- The error in words. -/
def Error.message : Error → String
  | .framing => "malformedframing"
  | .noBeginTag => "missing BEGIN tag"
  | .noEndTag => "missing END tag"
  | .tagMismatch b e => "mismatching BEGIN (\"" ++ b ++ "\") and END (\"" ++ e ++ "\") tags"
  | .header line => "invalid header: " ++ line
  | .utf8 cause => "invalid utf-8 value: " ++ cause.message
  | .data cause => "invalid data: " ++ cause.message

/-- The lines of a text. A line ends in a line feed, before which one carriage return does not
count; `current` is the started line, last character first. -/
def linesFrom (current : List Char) : List Char → List (List Char)
  | [] => if current.isEmpty then [] else [current.reverse]
  | c :: rest =>
    if c = '\n' then
      let line := match current with
        | '\r' :: shorter => shorter
        | _ => current
      line.reverse :: linesFrom [] rest
    else linesFrom (c :: current) rest

/-- The text that the bytes spell, or the fault as an error of the block. -/
def textOf (bytes : Bytes) : Except Error (List Char) := (Utf8.decode bytes).mapError .utf8

/-- The text of a tag, which has to have one. -/
def tagOf (missing : Error) (bytes : Bytes) : Except Error String := do
  let tag ← textOf bytes
  if tag.isEmpty then throw missing
  return String.ofList tag

/-- The first line without a colon. -/
def badHeader? (headers : List Char) : Option (List Char) :=
  (linesFrom [] headers).find? fun line ↦ !line.contains ':'

/-- The block that raw parts make up. -/
def Parts.block (parts : Parts) : Except Error Block := do
  let tag ← tagOf .noBeginTag parts.beginTag
  let endTag ← tagOf .noEndTag parts.endTag
  if tag ≠ endTag then throw (.tagMismatch tag endTag)
  let data ← textOf parts.data
  let contents ← (Base64.decode (Utf8.encode (data.filter (!isBlank ·)))).mapError .data
  let headers ← textOf parts.headers
  match badHeader? headers with
  | some line => throw (.header (String.ofList line))
  | none => return { tag, contents }

/-- The first block of the bytes. -/
def read (bytes : Bytes) : Except Error Block :=
  match parts? bytes with
  | some parts => parts.block
  | none => .error .framing

/-! ### Writing -/

/-- The bytes in lines of at most `width` bytes, each ended by a line feed; `room` is what is left
of the current line. -/
def wrapFrom (width room : Nat) : Bytes → Bytes
  | [] => if room = width then [] else [10]
  | b :: rest =>
    match room with
    | 0 => 10 :: b :: wrapFrom width (width - 1) rest
    | room + 1 => b :: wrapFrom width room rest

/-- The bytes in lines of at most `width` bytes. -/
def wrap (width : Nat) (bytes : Bytes) : Bytes := wrapFrom width width bytes

/-- How many symbols a written line holds. -/
def lineWidth : Nat := 64

/-- The text of a block, in lines ended by line feeds. -/
def write (block : Block) : Bytes :=
  let tag := Utf8.ofString block.tag
  beginMarker ++ tag ++ dashes ++ [10] ++ wrap lineWidth (Base64.encode block.contents) ++
    endMarker ++ tag ++ dashes ++ [10]

end WebhookTrust.Pem
