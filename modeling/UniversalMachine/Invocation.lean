import UniversalMachine.Channel.Console
import UniversalMachine.Process

/-!
Invocations of the command on a console. The files that they read are none of their streams.
-/

namespace UniversalMachine

/-- The standard streams of a process. -/
structure Streams where
  source : Source := .bytes []
  device : Device := .accepting
  /-- What the device has taken. -/
  output : Array UInt8 := #[]
  deriving DecidableEq

namespace Console

def attach (flushEachOutput : Bool) (s : Streams) : Console :=
  { source := s.source, device := s.device, flushEachOutput, delivered := s.output }

def detach (c : Console) : Streams :=
  { source := c.source, device := c.device, output := c.close }

end Console

structure Invocation extends Command where
  contents : SystemText → Except String (Array UInt8)
  source : Source := .bytes []
  device : Device := .accepting

namespace Invocation

def streams (i : Invocation) : Streams :=
  { source := i.source, device := i.device }

def process (i : Invocation) : Process Streams Console :=
  { i.toCommand with
    contents := fun path s => (i.contents path, s)
    attach := Console.attach
    detach := Console.detach }

def run? (fuel : Nat) (i : Invocation) : Option (Outcome Streams) :=
  i.process.run? fuel i.streams

end Invocation

end UniversalMachine
