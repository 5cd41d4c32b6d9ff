import WebhookTrust.CommandLine.Setting
import WebhookTrust.CommandLine.UsageError
import WebhookTrust.Config
import WebhookTrust.Net.SocketAddress
import WebhookTrust.Text.Splitting

/-!
# Options

A draft collects what has been given, checked value by value, and is complete once nothing that is
required is missing.
-/

namespace WebhookTrust.CommandLine

open Net

/-- What a command line and its environment ask for. -/
structure Options where
  config : Config
  healthAddress : SocketAddress
deriving DecidableEq, Repr

/-- The settings that have been given so far, with their values. -/
structure Draft where
  secretNamespace : Option String
  secretName : Option String
  certDir : Option String
  caName : Option String
  caOrganization : Option String
  dnsName : Option String
  consumers : Option (List Consumer)
  restartOnRefresh : Option Bool
  healthAddress : Option SocketAddress
deriving DecidableEq, Repr

namespace Draft

/-- Nothing has been given. -/
def empty : Draft := ⟨none, none, none, none, none, none, none, none, none⟩

/-- Has the setting been given? -/
def isGiven (draft : Draft) : Setting → Bool
  | .secretNamespace => draft.secretNamespace.isSome
  | .secretName => draft.secretName.isSome
  | .certDir => draft.certDir.isSome
  | .caName => draft.caName.isSome
  | .caOrganization => draft.caOrganization.isSome
  | .dnsName => draft.dnsName.isSome
  | .consumers => draft.consumers.isSome
  | .restartOnRefresh => draft.restartOnRefresh.isSome
  | .healthAddress => draft.healthAddress.isSome

/-! ### Values -/

/-- A path, which is not empty. -/
def readPath (setting : Setting) (value : String) : Except UsageError String :=
  if value = "" then .error (.missingValue setting.label) else .ok value

/-- A declared consumer. -/
def readConsumer (setting : Setting) (value : List Char) : Except UsageError Consumer :=
  let value := String.ofList value
  (Consumer.parse value).mapError fun e ↦ .invalidValue value setting.label (.consumer e)

/-- Whether a switch is on. -/
def readSwitch (setting : Setting) (value : String) : Except UsageError Bool :=
  if value = "true" then .ok true
  else if value = "false" then .ok false
  else .error (.invalidChoice value setting.label ["true", "false"])

/-- An address to listen at. -/
def readAddress (setting : Setting) (value : String) : Except UsageError SocketAddress :=
  match SocketAddress.parse? value with
  | some address => .ok address
  | none => .error (.invalidValue value setting.label .socketAddress)

/-- The draft with a value of a setting. Consumers are separated by commas and added to those that
are there. -/
def put (draft : Draft) (setting : Setting) (value : String) : Except UsageError Draft :=
  match setting with
  | .secretNamespace => .ok { draft with secretNamespace := some value }
  | .secretName => .ok { draft with secretName := some value }
  | .certDir => (readPath setting value).map fun path ↦ { draft with certDir := some path }
  | .caName => .ok { draft with caName := some value }
  | .caOrganization => .ok { draft with caOrganization := some value }
  | .dnsName => .ok { draft with dnsName := some value }
  | .consumers => do
    let more ← (splitAtMarks ',' value.toList).mapM (readConsumer setting)
    return { draft with consumers := some (draft.consumers.getD [] ++ more) }
  | .restartOnRefresh =>
    (readSwitch setting value).map fun isOn ↦ { draft with restartOnRefresh := some isOn }
  | .healthAddress =>
    (readAddress setting value).map fun address ↦ { draft with healthAddress := some address }

/-- The draft with what the command line gives a setting. A switch is on when it is given. -/
def accept (draft : Draft) (setting : Setting) (value? : Option String) :
    Except UsageError Draft :=
  match value?, setting.takesValue with
  | none, true => .error (.missingValue setting.label)
  | value?, _ =>
    if draft.isGiven setting && !setting.isRepeatable then .error (.repeated setting.label)
    else draft.put setting (value?.getD "true")

/-! ### Completion -/

/-- The draft with the values that `source` has for settings that have not been given. -/
def fill (draft : Draft) (source : Setting → Option String) : Except UsageError Draft :=
  Setting.all.foldlM (fun draft setting ↦
    match draft.isGiven setting, source setting with
    | false, some value => draft.put setting value
    | _, _ => .ok draft) draft

/-- The settings that have to be given and have not been. -/
def missing (draft : Draft) : List Setting :=
  Setting.all.filter fun setting ↦ setting.isRequired && !draft.isGiven setting

/-- The options of a draft, if all of them are there. -/
def options? (draft : Draft) : Option Options := do
  let config := Config.new ⟨← draft.secretNamespace, ← draft.secretName⟩ (← draft.certDir)
    (← draft.caName) (← draft.caOrganization) (← draft.dnsName)
  return {
    config := { config.withConsumers (draft.consumers.getD []) with
      restartOnRefresh := draft.restartOnRefresh.getD false }
    healthAddress := ← draft.healthAddress }

/-- The options of a draft, with standard values where it has none. -/
def complete (draft : Draft) : Except UsageError Options := do
  let draft ← draft.fill Setting.standard?
  match draft.options? with
  | some options => return options
  | none => throw (.notProvided (draft.missing.map (·.label)))

end Draft

end WebhookTrust.CommandLine
