import WebhookTrust.CommandLine.Reading
import WebhookTrust.Log

/-!
# Launching

A launch ends before the work begins, with what it says and a code that tells whether this was asked
for, a mistake of usage or anything else; or it starts the work with the options that were read.
-/

namespace WebhookTrust.CommandLine

/-- What becomes of a launch. -/
inductive Launch where
  | started (options : Options)
  | ended (code : UInt8) (output errors : String)
deriving DecidableEq, Repr

/-! ### Inquiries -/

/-- Name and version of the program. -/
def versionText : String := "certwarden 0.1.0"

/-- What the program does. -/
def about : String :=
  "Webhook serving-certificate rotation and CA bundle injection for Kubernetes"

/-- How a setting is described. -/
def Setting.help (setting : Setting) : List String :=
  ["      " ++ setting.label,
    "          " ++ setting.purpose ++ " [env: " ++ setting.environmentName ++ "=]" ++
      match setting.standard? with
      | some value => " [default: " ++ value ++ "]"
      | none => ""]

/-- The program and its settings. -/
def helpText : String :=
  let required := (Setting.all.filter (·.isRequired)).map (·.label)
  "\n".intercalate <|
    [about, "", " ".intercalate ("Usage: certwarden [OPTIONS]" :: required), "", "Options:"] ++
      Setting.all.flatMap Setting.help ++ ["  -h, --help", "          Print help",
        "  -V, --version", "          Print version"]

/-- The answer to an inquiry. -/
def Inquiry.answer : Inquiry → String
  | .help => helpText
  | .version => versionText

/-! ### Launches -/

namespace Launch

/-- An end after reading. -/
def stop : Stop → Launch
  | .inquiry inquiry => .ended 0 (inquiry.answer ++ "\n") ""
  | .fault e =>
    .ended 2 "" ("error: " ++ e.message ++ "\n\nFor more information, try '--help'.\n")

/-- An end with an error. -/
def fail (message : String) : Launch := .ended 1 "" ("Error: " ++ message ++ "\n")

/-- Starts the work under options, if they are usable and the cluster can be spoken to. -/
def start (options : Options) (connection : Except String Unit) : Launch :=
  match options.config.validate, connection with
  | .error e, _ => fail e.message
  | .ok (), .error reason => fail ("Failed to create Kubernetes client: " ++ reason)
  | .ok (), .ok () => .started options

/-- Launches the program. -/
def run (arguments : List String) (environment : String → Option String)
    (connection : Except String Unit) : Launch :=
  match readOptions arguments environment with
  | .error reason => stop reason
  | .ok options => start options connection

end Launch

/-- What is logged at the start. -/
def Options.startEvent (options : Options) : LogEvent :=
  ⟨.info, "Starting certwarden", [("secret", .text options.config.secretKey.text),
    ("dns_name", .text options.config.dnsName),
    ("webhooks", .number options.config.consumers.length)]⟩

end WebhookTrust.CommandLine
