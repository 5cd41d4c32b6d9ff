import WebhookTrust.Cluster.Consumer

/-!
# Errors of usage

What can be wrong with a command line. The words name the setting in question, with what stands for
its value.
-/

namespace WebhookTrust.CommandLine

/-- Why a value is not one for its setting. -/
inductive ValueFault where
  | consumer (cause : Consumer.ParseError)
  | socketAddress
deriving DecidableEq, Repr

/-- The fault in words. -/
def ValueFault.message : ValueFault → String
  | .consumer cause => cause.message
  | .socketAddress => "invalid socket address syntax"

/-- An error of usage. Settings appear as their labels. -/
inductive UsageError where
  /-- Nothing is known about the argument. -/
  | unexpectedArgument (argument : String)
  /-- A switch is given a value. -/
  | unexpectedValue (value label : String)
  | missingValue (label : String)
  | repeated (label : String)
  | invalidValue (value label : String) (fault : ValueFault)
  /-- The value is not one of the few that are possible. -/
  | invalidChoice (value label : String) (choices : List String)
  /-- Settings that have to be given are not. -/
  | notProvided (labels : List String)
deriving DecidableEq, Repr

namespace UsageError

/-- No value, or an empty one, is given where one is needed. -/
def valueRequired (label : String) : String :=
  "a value is required for '" ++ label ++ "' but none was supplied"

/-- What is said about the value of a choice. -/
def choiceMessage (value label : String) : String :=
  if value = "" then valueRequired label
  else "invalid value '" ++ value ++ "' for '" ++ label ++ "'"

/-- The error in words. -/
def message : UsageError → String
  | .unexpectedArgument argument => "unexpected argument '" ++ argument ++ "' found"
  | .unexpectedValue value label =>
    "unexpected value '" ++ value ++ "' for '" ++ label ++ "' found; no more were expected"
  | .missingValue label => valueRequired label
  | .repeated label => "the argument '" ++ label ++ "' cannot be used multiple times"
  | .invalidValue value label fault =>
    "invalid value '" ++ value ++ "' for '" ++ label ++ "': " ++ fault.message
  | .invalidChoice value label choices =>
    choiceMessage value label ++ "\n  [possible values: " ++ ", ".intercalate choices ++ "]"
  | .notProvided labels =>
    "\n  ".intercalate ("the following required arguments were not provided:" :: labels)

end UsageError

end WebhookTrust.CommandLine
