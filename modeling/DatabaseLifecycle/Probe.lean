import DatabaseLifecycle.Error
import DatabaseLifecycle.Web

/-! Probes: whether a workload answers under a URL. -/

namespace DatabaseLifecycle.Probe

/-- The name of the operation. -/
def operation : String := "probe_workload"

/-- What an answer, or its absence, says about the workload. -/
def verdict (url : String) (answer : Except String Http.Response) : Except Error Unit :=
  match answer with
  | .error wording =>
    .error (.internal operation ("request to " ++ url ++ " failed: " ++ wording))
  | .ok response =>
    if Http.isSuccess response.status then .ok ()
    else .error (.internal operation
      (url ++ " answered HTTP " ++ Http.statusText response.status))

/-- Asks for what lies under a URL. -/
def probe {m : Type → Type} [Monad m] (send : Web.Transport m) (url : String) :
    m (Except Error Unit) := do
  return verdict url (← Web.exchange send (Web.request url [] none none))

end DatabaseLifecycle.Probe
