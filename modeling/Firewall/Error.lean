/-
Why the work is given up, and the words for it.
-/
import Firewall.Machine.Basic
import Firewall.Prefix.Text
import Firewall.Resolver.Configuration

namespace Firewall

/-- Why the work is given up. -/
inductive Error where
  /-- The system refused a request. -/
  | system (fault : Fault)
  | settingsMalformed (path : String)
  | snapshotMalformed (path : String)
  | stateMalformed (path : String)
  | resolver (fault : Resolver.Fault)
  | notListening (endpoint : Endpoint) (fault : Fault)
  | prefixInvalid (invalid : Prefix.Invalid)
  | rulesetInvalid (path complaint : String)
  | commandFailed (command complaint : String)
  /-- A policy has rules for host names, and there is no cache to look them up in. -/
  | cacheUnavailable (policy : String)
  deriving DecidableEq

/-- The words for an error. -/
def Error.message : Error → String
  | system fault => "I/O error: " ++ fault.message
  | settingsMalformed path => "failed to parse config " ++ path
  | snapshotMalformed path => "failed to parse snapshot " ++ path
  | stateMalformed path => "failed to parse FQDN state " ++ path
  | resolver .unusable => "failed to initialize DNS resolver"
  | resolver .noNameServer => "no usable nameserver found in system resolver configuration"
  | notListening endpoint fault =>
    "failed to bind DNS proxy on " ++ endpoint.text ++ ": " ++ fault.message
  | prefixInvalid invalid => invalid.message
  | rulesetInvalid path complaint => "ruleset " ++ path ++ " failed validation: " ++ complaint
  | commandFailed command complaint => "command '" ++ command ++ "' failed: " ++ complaint
  | cacheUnavailable policy =>
    "policy " ++ policy ++ " has FQDN egress rules but no DNS cache is available"

/-- Work on a machine that may be given up. -/
abbrev Work (m : Type → Type) := ExceptT Error m

namespace Work

variable {m : Type → Type} [Monad m]

/-- Gives up if the system refuses a request. -/
def request {α : Type} (r : m (Except Fault α)) : Work m α := do
  match ← (r : m (Except Fault α)) with
  | .ok a => return a
  | .error fault => throw (.system fault)

/-- Gives up if there is no result, for a reason that is put into words here. -/
def orFail {ε α : Type} (reason : ε → Error) (result : Except ε α) : Work m α :=
  match result with
  | .ok a => pure a
  | .error e => throw (reason e)

end Work

end Firewall
