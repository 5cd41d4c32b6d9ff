/-!
# Settings of the command line

Every setting has a name with two dashes and an environment variable that stands in for it. Most
take a value, and some of these have to be given.
-/

namespace WebhookTrust.CommandLine

/-- What can be set, in the order in which it is asked for. -/
inductive Setting where
  | secretNamespace | secretName | certDir | caName | caOrganization | dnsName | consumers
  | restartOnRefresh | healthAddress
deriving DecidableEq, Repr

namespace Setting

/-- All settings, in order. -/
def all : List Setting := [.secretNamespace, .secretName, .certDir, .caName, .caOrganization,
  .dnsName, .consumers, .restartOnRefresh, .healthAddress]

/-- The name on the command line, without its dashes. -/
def longName : Setting → String
  | .secretNamespace => "secret-namespace"
  | .secretName => "secret-name"
  | .certDir => "cert-dir"
  | .caName => "ca-name"
  | .caOrganization => "ca-organization"
  | .dnsName => "dns-name"
  | .consumers => "webhook"
  | .restartOnRefresh => "restart-on-refresh"
  | .healthAddress => "health-addr"

/-- What stands for the value in messages. A switch has none. -/
def valueName? : Setting → Option String
  | .secretNamespace => some "SECRET_NAMESPACE"
  | .secretName => some "SECRET_NAME"
  | .certDir => some "CERT_DIR"
  | .caName => some "CA_NAME"
  | .caOrganization => some "CA_ORGANIZATION"
  | .dnsName => some "DNS_NAME"
  | .consumers => some "WEBHOOKS"
  | .restartOnRefresh => none
  | .healthAddress => some "HEALTH_ADDR"

/-- The environment variable. -/
def environmentName : Setting → String
  | .restartOnRefresh => "CERTWARDEN_RESTART_ON_REFRESH"
  | setting => "CERTWARDEN_" ++ setting.valueName?.getD ""

/-- What the setting is for. -/
def purpose : Setting → String
  | .secretNamespace => "Namespace of the certificate Secret"
  | .secretName => "Name of the certificate Secret"
  | .certDir => "Directory the Secret is mounted into"
  | .caName => "CA common name"
  | .caOrganization => "CA organization"
  | .dnsName => "DNS name of the webhook Service (e.g. webhook.ns.svc)"
  | .consumers => "Consumer to inject the CA into, as <kind>:<name> where kind is " ++
    "validating, mutating or crd. Repeatable"
  | .restartOnRefresh =>
    "Exit after every Secret write so the pod restarts with fresh mounts"
  | .healthAddress => "Address for /healthz and /readyz"

/-- The value of a setting that is not given, for those that have one. -/
def standard? : Setting → Option String
  | .certDir => some "/certs"
  | .healthAddress => some "0.0.0.0:8081"
  | _ => none

/-- Does the setting take a value? -/
def takesValue (setting : Setting) : Bool := setting.valueName?.isSome

/-- May the setting be given more than once? -/
def isRepeatable (setting : Setting) : Bool := setting = .consumers

/-- Does the setting have to be given? -/
def isRequired (setting : Setting) : Bool :=
  setting.takesValue && !setting.isRepeatable && setting.standard?.isNone

/-- The setting in messages. -/
def label (setting : Setting) : String :=
  "--" ++ setting.longName ++ match setting.valueName? with
    | some name => " <" ++ name ++ ">"
    | none => ""

/-- The setting of a name. -/
def ofLongName? (name : String) : Option Setting := all.find? (·.longName = name)

end Setting

end WebhookTrust.CommandLine
