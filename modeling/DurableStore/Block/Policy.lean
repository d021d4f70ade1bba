import DurableStore.Checksum
import DurableStore.Fault

/-!
Policies: what a failed verification means to the reader.

A policy sees the mismatches it was asked about before, so it may change its mind over time.
Accepting a mismatch lets the reader go on without the damaged range.  `verifyRange` asks the
policy at most once, and only about a mismatch (`verifyRange_of_match`).
-/

namespace DurableStore

/-- Decides on each mismatch, given the ones it was asked about before, oldest first. -/
structure Policy where
  verdict : List Mismatch → Mismatch → Except Fault Unit

namespace Policy

/-- Every mismatch is fatal. -/
def fail : Policy :=
  ⟨fun _ found => .error (.corruption found)⟩

/-- Every mismatch is accepted. -/
def skip : Policy :=
  ⟨fun _ _ => .ok ()⟩

/-- The first `count` mismatches are accepted and the next are fatal. -/
def tolerate (count : Nat) : Policy :=
  ⟨fun asked found => if asked.length < count then .ok () else .error (.corruption found)⟩

/-- The verdict on a mismatch does not depend on what came before. -/
def Stateless (policy : Policy) : Prop :=
  ∀ asked asked' found, policy.verdict asked found = policy.verdict asked' found

theorem stateless_fail : fail.Stateless := fun _ _ _ => rfl

theorem stateless_skip : skip.Stateless := fun _ _ _ => rfl

end Policy

/-- The CRC-32C of a range given by a caller. -/
def checkedChecksum (data : Bytes) (start stop : Nat) : Except Fault UInt32 :=
  match Checksum.rangeChecksum? data start stop with
  | some checksum => .ok checksum
  | none => .error (.invalidRange start stop data.length)

/-- Whether a range has the `expected` checksum, with the mismatches asked about so far.  `false`
says that it has not and that the policy accepted it.  `base` is where `data` starts in the file. -/
def verifyRange (policy : Policy) (path : Path) (base : Nat) (data : Bytes) (start stop : Nat)
    (expected : UInt32) (asked : List Mismatch) : Except Fault Bool × List Mismatch :=
  match checkedChecksum data start stop with
  | .error fault => (.error fault, asked)
  | .ok actual =>
    if actual = expected then (.ok true, asked)
    else
      let found : Mismatch := ⟨path, base + start, base + stop, expected, actual⟩
      match policy.verdict asked found with
      | .error fault => (.error fault, asked ++ [found])
      | .ok () => (.ok false, asked ++ [found])

theorem verifyRange_of_match {policy : Policy} {path : Path} {base : Nat} {data : Bytes}
    {start stop : Nat} {expected : UInt32} {asked : List Mismatch}
    (h : checkedChecksum data start stop = .ok expected) :
    verifyRange policy path base data start stop expected asked = (.ok true, asked) := by
  simp [verifyRange, h]

end DurableStore
