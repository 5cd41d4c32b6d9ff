import WebhookTrust.Json.Basic

/-!
# JSON without the order of members

The order in which an object lists its members means nothing. In canonical form they stand in the
order of their keys, so that values that mean the same are equal.
-/

namespace WebhookTrust.Json

/-- Puts a member in front of the first one whose key is not smaller; a member of the same key is
replaced. -/
def insertMember (key : String) (value : Json) : List (String × Json) → List (String × Json)
  | [] => [(key, value)]
  | (k, v) :: rest =>
    if k = key then (key, value) :: rest
    else if key < k then (key, value) :: (k, v) :: rest
    else (k, v) :: insertMember key value rest

mutual

/-- The value with the members of all objects in the order of their keys. -/
def canonical : Json → Json
  | array items => array (canonicalItems items)
  | object members => object (canonicalMembers members [])
  | null => null
  | bool value => bool value
  | number literal => number literal
  | string text => string text

/-- The items in canonical form. -/
def canonicalItems : List Json → List Json
  | [] => []
  | item :: rest => canonical item :: canonicalItems rest

/-- The members in canonical form, put among members that are in order. -/
def canonicalMembers : List (String × Json) → List (String × Json) → List (String × Json)
  | [], ordered => ordered
  | (key, value) :: rest, ordered =>
    canonicalMembers rest (insertMember key (canonical value) ordered)

end

end WebhookTrust.Json
