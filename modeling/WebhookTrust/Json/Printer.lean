import WebhookTrust.Bytes
import WebhookTrust.Json.Basic

/-!
# Writing JSON texts

The text of a value has no blank space. Strings escape quotes, backslashes and control characters
and nothing else.
-/

namespace WebhookTrust.Json

/-- The characters that stand for a character in a string. -/
def escape (c : Char) : List Char :=
  if c = '"' then ['\\', '"']
  else if c = '\\' then ['\\', '\\']
  else if c = '\n' then ['\\', 'n']
  else if c = '\r' then ['\\', 'r']
  else if c = '\t' then ['\\', 't']
  else if c.toNat < 0x20 then
    ['\\', 'u', '0', '0', Bytes.hexDigit 'a' (c.toNat / 16), Bytes.hexDigit 'a' (c.toNat % 16)]
  else [c]

/-- The text of a string in quotes, in front of `rest`. -/
def quote (text : String) (rest : List Char) : List Char :=
  '"' :: text.toList.foldr (fun c rest ↦ escape c ++ rest) ('"' :: rest)

mutual

/-- The characters of a value in front of `rest`. -/
def write : Json → List Char → List Char
  | null, rest => 'n' :: 'u' :: 'l' :: 'l' :: rest
  | bool true, rest => 't' :: 'r' :: 'u' :: 'e' :: rest
  | bool false, rest => 'f' :: 'a' :: 'l' :: 's' :: 'e' :: rest
  | number literal, rest => literal.toList ++ rest
  | string text, rest => quote text rest
  | array [], rest => '[' :: ']' :: rest
  | array (item :: items), rest => '[' :: write item (writeItems items rest)
  | object [], rest => '\x7b' :: '\x7d' :: rest
  | object ((key, value) :: members), rest =>
    '\x7b' :: quote key (':' :: write value (writeMembers members rest))

/-- The characters of the further items of an array and its closing bracket. -/
def writeItems : List Json → List Char → List Char
  | [], rest => ']' :: rest
  | item :: items, rest => ',' :: write item (writeItems items rest)

/-- The characters of the further members of an object and its closing brace. -/
def writeMembers : List (String × Json) → List Char → List Char
  | [], rest => '\x7d' :: rest
  | (key, value) :: members, rest =>
    ',' :: quote key (':' :: write value (writeMembers members rest))

end

/-- The text of a value. -/
def text (json : Json) : String := String.ofList (json.write [])

end WebhookTrust.Json
