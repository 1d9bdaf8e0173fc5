import UniversalMachine.Channel

/-!
A channel for the standard streams of a process.

Output is held back until there is a reason to deliver it: before input is read, on a
flush, when as much as the channel can hold is pending, and after each byte if that is asked
for. What is still pending when the process ends is delivered then. Delivering nothing
always succeeds; a device that refuses bytes leaves them pending.

The sources and devices here are the ones that are compared with each other: each does all that
it is asked, or nothing. Streams that fail midway or recover are channels, too. What a process
reports is said of all of them, see `Proofs/Process/ExitStatus`.
-/

namespace UniversalMachine

/-- Where input comes from: the bytes still to be read, or a source of which no byte can
be read, for the reason that the system gives. -/
inductive Source where
  | bytes (rest : List UInt8)
  | broken (reason : String)
  deriving DecidableEq

/-- Where output goes: a device that takes every byte, or one that takes none, for the
reason that the system gives. -/
inductive Device where
  | accepting
  | refusing (reason : String)
  deriving DecidableEq

structure Console where
  source : Source
  device : Device := .accepting
  /-- Output is delivered after every byte. -/
  flushEachOutput : Bool := false
  pending : Array UInt8 := #[]
  delivered : Array UInt8 := #[]
  deriving DecidableEq

namespace Console

def capacity : Nat := 8192

def deliver (c : Console) : Except String Unit × Console :=
  if c.pending.isEmpty then (.ok (), c)
  else
    match c.device with
    | .accepting => (.ok (), { c with pending := #[], delivered := c.delivered ++ c.pending })
    | .refusing reason => (.error reason, c)

def makeRoom (c : Console) : Except String Unit × Console :=
  if c.pending.size < capacity then (.ok (), c) else c.deliver

def write (c : Console) (byte : UInt8) : Except String Unit × Console :=
  match c.makeRoom with
  | (.error reason, c) => (.error reason, c)
  | (.ok (), c) =>
      let c := { c with pending := c.pending.push byte }
      if c.flushEachOutput then c.deliver else (.ok (), c)

def read (c : Console) : Except String (Option UInt8) × Console :=
  match c.deliver with
  | (.error reason, c) => (.error reason, c)
  | (.ok (), c) =>
      match c.source with
      | .broken reason => (.error reason, c)
      | .bytes [] => (.ok none, c)
      | .bytes (byte :: rest) => (.ok (some byte), { c with source := .bytes rest })

instance : Channel Console where
  write := write
  read := read
  flush := deliver

/-- All that has reached the device once the process has ended. -/
def close (c : Console) : Array UInt8 :=
  c.deliver.2.delivered

section
variable {c : Console}

theorem deliver_of_empty (empty : c.pending = #[]) : c.deliver = (.ok (), c) := by
  rw [deliver, empty]
  rfl

theorem deliver_of_accepting (accepting : c.device = .accepting) :
    c.deliver = (.ok (), { c with pending := #[], delivered := c.delivered ++ c.pending }) := by
  by_cases empty : c.pending = #[]
  · rw [deliver_of_empty empty, empty, Array.append_empty, ← empty]
  · simp only [deliver, Array.isEmpty_iff, empty, if_false, accepting]

theorem deliver_of_refusing {reason : String} (refusing : c.device = .refusing reason)
    (nonempty : c.pending ≠ #[]) : c.deliver = (.error reason, c) := by
  simp only [deliver, Array.isEmpty_iff, nonempty, if_false, refusing]

end

end Console

end UniversalMachine
