import UniversalMachine.Fault
import UniversalMachine.Heap

/-!
Segmented memory.

Memory is a table of segments, each an array of words that is named by the number of
its slot. Segment 0 holds the running program. Releasing a segment empties its slot,
and the least vacant slot is used again before the table grows; so the id of a new
segment is always the least one that is not in use.

An operation that may be refused returns its answer together with the memory it
leaves.
-/

namespace UniversalMachine

/-- A place for a segment. While no segment is mapped to it, it is vacant. -/
structure Slot where
  words : Array Word := #[]
  mapped : Bool := false
  deriving DecidableEq

/-- Slot `i` holds the words of segment `i` while that is mapped; `vacant` holds the
numbers of the slots of which that is not so. -/
structure Memory where
  slots : Array Slot
  vacant : Heap

namespace Memory

def ofProgram (program : Array Word) : Memory where
  slots := #[{ words := program, mapped := true }]
  vacant := .empty

def contents? (m : Memory) (i : Nat) : Option (Array Word) :=
  (m.slots[i]?.filter Slot.mapped).map Slot.words

def segment? (m : Memory) (id : Word) : Option (Array Word) :=
  m.contents? id.toNat

def isMapped (m : Memory) (id : Word) : Bool :=
  (m.segment? id).isSome

def segmentSize? (m : Memory) (id : Word) : Option Nat :=
  (m.segment? id).map Array.size

def mappedCount (m : Memory) : Nat :=
  m.slots.size - m.vacant.size

def segments (m : Memory) : List (Nat × Array Word) :=
  m.slots.toList.zipIdx.filterMap fun (slot, id) =>
    if slot.mapped then some (id, slot.words) else none

def read (m : Memory) (id offset : Word) : Except Fault Word :=
  match (m.segment? id).bind (·[offset.toNat]?) with
  | some word => .ok word
  | none => .error (.segmentFault id offset)

def write (m : Memory) (id offset word : Word) : Except Fault Unit × Memory :=
  match m.read id offset with
  | .ok _ =>
      (.ok (), { m with
        slots := m.slots.modify id.toNat fun { words, mapped } =>
          { words := words.setIfInBounds offset.toNat word, mapped } })
  | .error fault => (.error fault, m)

def allocate (m : Memory) (size : Word) : Word × Memory :=
  let slot : Slot := { words := Array.replicate size.toNat 0, mapped := true }
  match m.vacant.pop? with
  | some (id, vacant) => (id, { slots := m.slots.setIfInBounds id.toNat slot, vacant })
  | none => (m.slots.size.toUInt32, { m with slots := m.slots.push slot })

def release (m : Memory) (id : Word) : Except Fault Unit × Memory :=
  if id = 0 ∨ ¬ m.isMapped id then (.error (.invalidSegment id), m)
  else
    (.ok (), { slots := m.slots.setIfInBounds id.toNat {}, vacant := m.vacant.push id })

/-- Makes a copy of a segment the program. Later writes to either do not show in the
other; making segment 0 the program changes nothing. -/
def loadProgram (m : Memory) (id : Word) : Except Fault Unit × Memory :=
  if id = 0 then (.ok (), m)
  else
    match m.segment? id with
    | some words =>
        (.ok (), { m with slots := m.slots.modify 0 fun slot => { slot with words } })
    | none => (.error (.segmentFault id 0), m)

end Memory

end UniversalMachine
