import WebhookTrust.Json.Printer

/-!
# Log events

What is logged is a message with named fields, at one of four levels. A message is a fixed text, so
that events can be counted by it; all that varies is in the fields. Each event is written on a line
of its own, as a JSON text.
-/

namespace WebhookTrust

/-- How much an event matters. -/
inductive LogLevel where
  | error | warn | info | debug
deriving DecidableEq, Repr, Inhabited

/-- The name of a level. -/
def LogLevel.text : LogLevel → String
  | .error => "ERROR"
  | .warn => "WARN"
  | .info => "INFO"
  | .debug => "DEBUG"

/-- The value of a field. -/
inductive LogValue where
  | text (value : String)
  | number (value : Nat)
deriving DecidableEq, Repr, Inhabited

/-- An event. -/
structure LogEvent where
  level : LogLevel
  message : String
  fields : List (String × LogValue)
deriving DecidableEq, Repr, Inhabited

/-- The value as it is written. -/
def LogValue.json : LogValue → Json
  | .text value => .string value
  | .number value => .ofNat value

/-- The line of an event: its level, and its fields after the message. -/
def LogEvent.line (event : LogEvent) : String :=
  let fields := event.fields.map fun (name, value) ↦ (name, value.json)
  Json.text <| .object [("level", .string event.level.text),
    ("fields", .object (("message", .string event.message) :: fields))]

/-- Which events are written unless configured otherwise: the least level for each source. -/
def LogEvent.standardFilter : String := "info,certwarden=debug,kube=info,tower=warn,hyper=warn"

end WebhookTrust
