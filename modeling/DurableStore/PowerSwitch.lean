/-!
Simulated power: a countdown of write checks after which the power is gone.

Every writer of one database asks the same switch before it writes.  The check that uses up the
countdown fails, and every later one fails too until the switch is reset or armed anew.
-/

namespace DurableStore

/-- What the write checks of a database will answer. -/
inductive PowerSwitch where
  /-- No failure is scheduled. -/
  | disarmed
  /-- The check that brings this count to zero fails. -/
  | armed (remaining : Nat)
  /-- The power is gone. -/
  | tripped
  deriving DecidableEq, Inhabited, Repr

namespace PowerSwitch

/-- A switch whose `countdown`-th check fails; zero schedules nothing. -/
def ofCountdown (countdown : Nat) : PowerSwitch :=
  if countdown = 0 then .disarmed else .armed countdown

/-- Schedules the failure anew, whatever the switch was doing. -/
def arm (_ : PowerSwitch) (countdown : Nat) : PowerSwitch :=
  ofCountdown countdown

/-- Back to normal operation. -/
def reset (_ : PowerSwitch) : PowerSwitch :=
  .disarmed

/-- Whether the next check would find the power on. -/
def isOn : PowerSwitch → Bool
  | .disarmed => true
  | .armed remaining => 1 < remaining
  | .tripped => false

/-- The switch after one more check. -/
def afterCheck : PowerSwitch → PowerSwitch
  | .disarmed => .disarmed
  | .armed remaining => if 1 < remaining then .armed (remaining - 1) else .tripped
  | .tripped => .tripped

/-- Whether the power is on, asked by a write, and the switch afterwards. -/
def check (power : PowerSwitch) : Bool × PowerSwitch :=
  (power.isOn, power.afterCheck)

@[simp] theorem check_disarmed : check .disarmed = (true, .disarmed) := rfl

@[simp] theorem check_tripped : check .tripped = (false, .tripped) := rfl

theorem check_armed (remaining : Nat) :
    check (.armed remaining) =
      if 1 < remaining then (true, .armed (remaining - 1)) else (false, .tripped) := by
  simp only [check, isOn, afterCheck]
  split <;> simp_all

end PowerSwitch

end DurableStore
