import GhostbustersServer.Py.Text

/-!
# Server-wide constants (`config.py`)
-/

namespace Ghostbusters

/-- The two UDP listeners: 30560 and 30561. -/
inductive Port where
  | auth
  | secure
  deriving DecidableEq, Repr

def Port.number : Port → Nat
  | .auth => 30560
  | .secure => 30561

def serverPid : Nat := 1

def authPid : Nat := 2

def userPidStart : Nat := 10000

end Ghostbusters
