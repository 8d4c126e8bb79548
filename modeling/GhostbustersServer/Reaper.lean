import GhostbustersServer.Py.Runs
import GhostbustersServer.Server

/-!
# The reaper task (`server.py`)

`_reaper` waits for the interval, visits both servers and waits again.  Time is counted in
ticks, `tick` to a second; the event loop may let a wait that has timed out lie for a while.
-/

namespace Ghostbusters

open Py

def idleTimeoutSeconds : Nat := 90

def reapIntervalSeconds : Nat := 15

/-- The server, and when the wait of the reaper times out. -/
structure Process where
  world : World
  due : Nat

/-- Nobody but the reaper calls `reap_idle`. -/
inductive Activity where
  | packet (port : Port) (remote : Remote) (pkt : PRUDPPacket)
  | timer (id : TimerId)
  | elapse (dt : Nat)
  /-- the event loop looks at the wait of the reaper -/
  | wake

/-- One turn of the loop of `_reaper`. -/
def reaperVisit (tick : Nat) : List Event :=
  [.reap .auth (idleTimeoutSeconds * tick), .reap .secure (idleTimeoutSeconds * tick)]

/-- What the server sees of an activity. -/
def Activity.events (tick : Nat) (p : Process) : Activity → List Event
  | packet port remote pkt => [.packet port remote pkt]
  | timer id => [.timer id]
  | elapse dt => [.elapse dt]
  | wake => if p.due ≤ p.world.now then reaperVisit tick else []

variable (env : Env) (tick : Nat)

def Process.act (a : Activity) (p : Process) : Process where
  world := runs (step env) (a.events tick p) p.world
  due := match a with
    | .wake => if p.due ≤ p.world.now then p.world.now + reapIntervalSeconds * tick else p.due
    | _ => p.due

/-- The listeners are up and the task has been created. -/
def Process.start : Process where
  world := World.initial
  due := reapIntervalSeconds * tick

end Ghostbusters
