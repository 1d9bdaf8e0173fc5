import UniversalMachine.Channel

/-!
A channel in memory: a queue of input bytes and everything written so far. It never
refuses a request, and flushing it does nothing.
-/

namespace UniversalMachine

structure Buffer where
  /-- The bytes that are still to be read, the next one first. -/
  input : List UInt8 := []
  /-- The bytes written and not yet taken, the oldest first. -/
  output : Array UInt8 := #[]
  deriving DecidableEq

namespace Buffer

def write (b : Buffer) (byte : UInt8) : Except String Unit × Buffer :=
  (.ok (), { b with output := b.output.push byte })

def read (b : Buffer) : Except String (Option UInt8) × Buffer :=
  match b.input with
  | [] => (.ok none, b)
  | byte :: rest => (.ok (some byte), { b with input := rest })

instance : Channel Buffer where
  write := write
  read := read
  flush b := (.ok (), b)

theorem read_of_empty {b : Buffer} (empty : b.input = []) : Channel.read b = (.ok none, b) := by
  simp only [Channel.read, read, empty]

theorem read_of_queued {b : Buffer} {byte : UInt8} {rest : List UInt8}
    (queued : b.input = byte :: rest) :
    Channel.read b = (.ok (some byte), { b with input := rest }) := by
  simp only [Channel.read, read, queued]

/-- Appends bytes to the input. -/
def push (b : Buffer) (bytes : List UInt8) : Buffer :=
  { b with input := b.input ++ bytes }

/-- Empties the output and returns what it held. -/
def take (b : Buffer) : Array UInt8 × Buffer :=
  (b.output, { b with output := #[] })

end Buffer

end UniversalMachine
