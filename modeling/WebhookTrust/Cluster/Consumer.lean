import WebhookTrust.Cluster.Metadata
import WebhookTrust.Text.Splitting

/-!
# Consumers

A consumer is a resource of the cluster that has to trust the serving certificate: an admission
configuration or a resource definition with conversion. It is declared as a kind and a name
(`Consumer.parse`), and fetched as an object of which only the metadata have a fixed form
(`ConsumerObject`).

Kinds have one spelling each in the API and several in declarations (`ConsumerKind.acceptedNames`).
Two declarations of the same consumer are not told apart, and both count: a pass goes over the list
as it is.
-/

namespace WebhookTrust

/-- The kinds of consumers. -/
inductive ConsumerKind where
  | validating | mutating | crdConversion
deriving DecidableEq, Repr, Inhabited

namespace ConsumerKind

/-- All kinds, in ascending order. -/
def all : List ConsumerKind := [.validating, .mutating, .crdConversion]

/-- The position of a kind in the order. -/
def index : ConsumerKind → Nat
  | .validating => 0
  | .mutating => 1
  | .crdConversion => 2

/-- The name of the resource's kind. -/
def kindName : ConsumerKind → String
  | .validating => "ValidatingWebhookConfiguration"
  | .mutating => "MutatingWebhookConfiguration"
  | .crdConversion => "CustomResourceDefinition"

/-- The short name for declarations. -/
def shortName : ConsumerKind → String
  | .validating => "validating"
  | .mutating => "mutating"
  | .crdConversion => "crd"

/-- The API group of the resource. -/
def group : ConsumerKind → String
  | .validating | .mutating => "admissionregistration.k8s.io"
  | .crdConversion => "apiextensions.k8s.io"

/-- The version of the API group. -/
def version (_ : ConsumerKind) : String := "v1"

/-- Group and version. -/
def apiVersion (kind : ConsumerKind) : String := kind.group ++ "/" ++ kind.version

/-- The name of the collection of resources of the kind. -/
def plural : ConsumerKind → String
  | .validating => "validatingwebhookconfigurations"
  | .mutating => "mutatingwebhookconfigurations"
  | .crdConversion => "customresourcedefinitions"

/-- The names that a declaration may give a kind, in lower case. -/
def acceptedNames : ConsumerKind → List String
  | .validating => ["validating", "validatingwebhookconfiguration"]
  | .mutating => ["mutating", "mutatingwebhookconfiguration"]
  | .crdConversion => ["crd", "crdconversion", "customresourcedefinition"]

/-- The kind of an accepted name in any case of its ASCII letters. -/
def ofName? (name : List Char) : Option ConsumerKind :=
  all.find? fun kind ↦ kind.acceptedNames.any fun accepted ↦ accepted.toList = name.map Char.toLower

end ConsumerKind

/-- A declared consumer. -/
structure Consumer where
  kind : ConsumerKind
  name : String
deriving DecidableEq, Repr, Inhabited

namespace Consumer

/-- Kind and name, separated by a slash. -/
def text (consumer : Consumer) : String := consumer.kind.kindName ++ "/" ++ consumer.name

/-! ### Declarations -/

/-- Why a text declares no consumer. -/
inductive ParseError where
  | unknownKind (text : String)
  | malformed (text : String)
deriving DecidableEq, Repr

/-- The error in words. -/
def ParseError.message : ParseError → String
  | .unknownKind text =>
    "unknown webhook kind '" ++ text ++ "', expected validating, mutating or crd"
  | .malformed text => "invalid webhook '" ++ text ++ "', expected <kind>:<name>"

/-- The kind that a text names. -/
def parseKind (text : List Char) : Except ParseError ConsumerKind :=
  match ConsumerKind.ofName? text with
  | some kind => .ok kind
  | none => .error (.unknownKind (String.ofList text))

/-- The consumer that a text declares: a kind, a colon and a name, with blanks around either. -/
def parse (text : String) : Except ParseError Consumer :=
  match cutAt? ':' text.toList with
  | none => .error (.malformed text)
  | some (kind, name) =>
    if (trimBlanks name).isEmpty then .error (.malformed text)
    else (parseKind (trimBlanks kind)).map fun kind ↦ ⟨kind, String.ofList (trimBlanks name)⟩

end Consumer

/-! ### Objects -/

/-- The types that an object says it has. -/
structure ObjectTypes where
  apiVersion : String
  kind : String
deriving DecidableEq, Repr

/-- The object of a consumer: its types, its metadata and everything else. -/
structure ConsumerObject where
  types : Option ObjectTypes
  metadata : Metadata
  data : Json
deriving DecidableEq, Repr, Inhabited

/-- The types of objects of a kind. -/
def ConsumerKind.types (kind : ConsumerKind) : ObjectTypes := ⟨kind.apiVersion, kind.kindName⟩

end WebhookTrust
