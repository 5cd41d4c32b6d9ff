import WebhookTrust.Bytes
import WebhookTrust.Text.Splitting
import WebhookTrust.Text.Utf8

/-!
# Targets of requests

The target of a request is a path and, behind a question mark, a query; what stands behind a number
sign does not count. Some bytes may not stand in a target at all; nothing is decoded.
-/

namespace WebhookTrust.Http

/-- A target: the path, and the names and values of the query in the order of writing. -/
structure Target where
  path : String
  query : List (String × String)
deriving DecidableEq, Repr, Inhabited

namespace Target

/-! ### Bytes -/

/-- May the byte stand in a path? Blanks, controls, angle brackets and grave accents may not. -/
def isPathByte (b : UInt8) : Bool := 0x20 < b && b ∉ Bytes.ofAscii "<>#?\x60"

/-- May the byte stand in a query? Blanks, controls, angle brackets and quotes may not. -/
def isQueryByte (b : UInt8) : Bool := 0x20 < b && b ∉ Bytes.ofAscii "<>#\""

/-! ### Parts -/

/-- What stands before the first mark, or everything, and what stands behind it. -/
def cut (mark : Char) (text : List Char) : List Char × Option (List Char) :=
  match cutAt? mark text with
  | some (before, behind) => (before, some behind)
  | none => (text, none)

/-- The name and the value of a part of a query. -/
def pair (part : List Char) : String × String :=
  let (name, value) := cut '=' part
  (String.ofList name, String.ofList (value.getD []))

/-- The names and values of a query. -/
def pairs (query : List Char) : List (String × String) :=
  ((splitAtMarks '&' query).filter (!·.isEmpty)).map pair

/-- The target that a text spells, if all its bytes may stand in one. -/
def parse? (text : String) : Option Target :=
  let (path, query) := cut '?' (cut '#' text.toList).1
  let query := query.getD []
  let path := String.ofList path
  if (Utf8.ofString path).all isPathByte && (Utf8.ofString (String.ofList query)).all isQueryByte
  then some ⟨path, pairs query⟩
  else none

/-! ### URIs -/

/-- What stands behind the scheme of a URI and its two slashes, if it names one. -/
def behindScheme? (uri : List Char) : Option (List Char) :=
  match cutAt? ':' uri with
  | some (scheme, '/' :: '/' :: rest) =>
    if !scheme.isEmpty && scheme.all fun c ↦ c.isAlphanum || c ∈ ['+', '-', '.'] then some rest
    else none
  | _ => none

/-- The target of a URI, in front of which scheme and host may stand. -/
def ofUri? (uri : String) : Option Target :=
  match behindScheme? uri.toList with
  | none => parse? uri
  | some rest =>
    let behindHost := rest.dropWhile fun c ↦ c ∉ ['/', '?', '#']
    (parse? (String.ofList behindHost)).map fun target ↦
      if target.path = "" then { target with path := "/" } else target

end Target

end WebhookTrust.Http
