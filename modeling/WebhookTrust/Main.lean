import WebhookTrust.Assoc
import WebhookTrust.CommandLine.Launch

/-!
# The program

Reads the command line and the environment and launches. The cluster is spoken to through calls that
are answered from outside, and there is no client here that would answer them; so a launch that gets
as far as that ends there.
-/

namespace WebhookTrust

open CommandLine

/-- The environment, as far as it matters. -/
def readEnvironment : IO (List (String × String)) := do
  let values ← Setting.all.mapM fun setting ↦ do
    return (← IO.getEnv setting.environmentName).map (setting.environmentName, ·)
  return values.filterMap id

end WebhookTrust

open WebhookTrust CommandLine in
/-- Launches with the arguments, prints what there is to say, and ends with the code. -/
def main (arguments : List String) : IO UInt32 := do
  let environment ← readEnvironment
  match Launch.run arguments (Assoc.get? · environment) (.error "no client") with
  | .started options =>
    IO.println options.startEvent.line
    return 0
  | .ended code output errors =>
    IO.print output
    IO.eprint errors
    return code.toUInt32
