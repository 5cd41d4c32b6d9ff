import WebhookTrust.CommandLine.Options

/-!
# Reading a command line

Arguments are read from left to right. A setting that takes a value takes it from behind an equals
sign or from the next argument, if that does not start with a dash; it is checked when the next
setting or the end is reached. Nothing may stand on its own, and behind two dashes alone nothing may
stand at all.
-/

namespace WebhookTrust.CommandLine

/-- An argument by its form. -/
inductive Argument where
  /-- Two dashes alone: no settings follow. -/
  | escape
  /-- A name behind two dashes, and what stands behind its equals sign. -/
  | long (name : String) (value? : Option String)
  /-- A letter behind one dash, whatever follows it. -/
  | short (letter : Char)
  | plain (text : String)
deriving DecidableEq, Repr

/-- The form of an argument. A single dash is like any other text. -/
def Argument.ofString (text : String) : Argument :=
  match text.toList with
  | ['-', '-'] => .escape
  | '-' :: '-' :: rest =>
    match cutAt? '=' rest with
    | some (name, value) => .long (String.ofList name) (some (String.ofList value))
    | none => .long (String.ofList rest) none
  | '-' :: letter :: _ => .short letter
  | _ => .plain text

/-- A request that ends the program at once. -/
inductive Inquiry where
  | help | version
deriving DecidableEq, Repr

namespace Inquiry

/-- The name behind two dashes. -/
def longName : Inquiry → String
  | .help => "help"
  | .version => "version"

/-- The inquiry of a letter. -/
def ofLetter? : Char → Option Inquiry
  | 'h' => some .help
  | 'V' => some .version
  | _ => none

/-- The inquiry of a name. -/
def ofLongName? (name : String) : Option Inquiry := [help, version].find? (·.longName = name)

end Inquiry

/-- Why reading ends before the options are known. -/
inductive Stop where
  | inquiry (inquiry : Inquiry)
  | fault (e : UsageError)
deriving DecidableEq, Repr

/-- How far a command line has been read. -/
structure Reading where
  draft : Draft
  /-- The last setting that takes a value, and the value if it has been met. -/
  pending? : Option (Setting × Option String)
deriving DecidableEq, Repr

namespace Reading

/-- Nothing has been read. -/
def start : Reading := ⟨.empty, none⟩

/-- Ends with an error of usage. -/
def fail {α : Type} (e : UsageError) : Except Stop α := .error (.fault e)

/-- Checks and keeps the last setting. -/
def settle (reading : Reading) : Except Stop Draft :=
  match reading.pending? with
  | none => .ok reading.draft
  | some (setting, value?) => (reading.draft.accept setting value?).mapError .fault

/-- Reads an inquiry. -/
def inquire (reading : Reading) (inquiry : Inquiry) : Except Stop Reading := do
  let _ ← reading.settle
  throw (.inquiry inquiry)

/-- Reads a setting, with the value behind its equals sign if it has one. -/
def readSetting (reading : Reading) (setting : Setting) (value? : Option String) :
    Except Stop Reading :=
  match value?, setting.takesValue with
  | some value, false => fail (.unexpectedValue value setting.label)
  | none, true => do return ⟨← reading.settle, some (setting, none)⟩
  | _, _ => do
    let draft ← reading.settle
    return ⟨← (draft.accept setting value?).mapError .fault, none⟩

/-- Reads a name behind two dashes, with the value behind its equals sign if it has one. -/
def readLong (reading : Reading) (name : String) (value? : Option String) :
    Except Stop Reading :=
  match Setting.ofLongName? name, Inquiry.ofLongName? name, value? with
  | some setting, _, _ => reading.readSetting setting value?
  | none, some inquiry, none => reading.inquire inquiry
  | none, some _, some value => fail (.unexpectedValue value ("--" ++ name))
  | none, none, _ => fail (.unexpectedArgument ("--" ++ name))

/-- Reads a letter behind one dash. -/
def readShort (reading : Reading) (letter : Char) : Except Stop Reading :=
  match Inquiry.ofLetter? letter with
  | some inquiry => reading.inquire inquiry
  | none => fail (.unexpectedArgument (String.ofList ['-', letter]))

/-- Reads a text, which has to be the value of the last setting. -/
def readPlain (reading : Reading) (text : String) : Except Stop Reading :=
  match reading.pending? with
  | some (setting, none) => .ok { reading with pending? := some (setting, some text) }
  | _ => fail (.unexpectedArgument text)

/-- Reads arguments. -/
def read : List String → Reading → Except Stop Draft
  | [], reading => reading.settle
  | argument :: rest, reading =>
    match Argument.ofString argument with
    | .escape =>
      match rest with
      | [] => reading.settle
      | text :: _ => fail (.unexpectedArgument text)
    | .long name value? => (reading.readLong name value?).bind (read rest)
    | .short letter => (reading.readShort letter).bind (read rest)
    | .plain text => (reading.readPlain text).bind (read rest)

end Reading

/-- The options that a command line asks for, where the environment stands in for what it does not
give. -/
def readOptions (arguments : List String) (environment : String → Option String) :
    Except Stop Options := do
  let draft ← Reading.read arguments .start
  (do (← draft.fill fun setting ↦ environment setting.environmentName).complete).mapError .fault

end WebhookTrust.CommandLine
