/-
Where the DNS proxy listens, and for how long it waits for an answer.
-/
import Firewall.Error
import Firewall.Settings.Basic

namespace Firewall

/-- The settings that the proxy itself needs. -/
structure ProxySettings where
  listen : Endpoint
  /-- How long to wait for an answer, in seconds. -/
  queryTimeout : Nat
  deriving DecidableEq

/-- The proxy's part of the settings. -/
def DnsSettings.proxy (s : DnsSettings) : ProxySettings := ⟨s.listenEndpoint, s.queryTimeout⟩

namespace ProxySettings

instance : Inhabited ProxySettings := ⟨DnsSettings.proxy {}⟩

variable {m : Type → Type} [Monad m] [Machine m]

/-- Starts listening. -/
def start (s : ProxySettings) : Work m Unit := do
  Work.orFail (.notListening s.listen) (← (Machine.listen s.listen : m (Except Fault Unit)))

end ProxySettings

end Firewall
