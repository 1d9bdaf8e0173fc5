/-!
Machine words and their bit fields.

Everything the machine computes with is a word of thirty-two bits: register
contents, memory cells, segment ids and offsets. A field is named by its highest
and its lowest bit, in the order in which instruction diagrams draw them.
-/

namespace UniversalMachine

abbrev Word := UInt32

namespace Word

def bit (w : Word) (i : Nat) : Word :=
  (w >>> i.toUInt32) &&& 1

/-- The word whose lowest `width` bits are ones. The power of two is formed in
sixty-four bits, so that a mask of full width does not overflow. -/
def mask (width : Nat) : Word :=
  ((1 : UInt64) <<< width.toUInt64 - 1).toUInt32

/-- Bits `hi` down to `lo` of a word, both included, moved to the low end. -/
@[inline] def field (w : Word) (hi lo : Nat) : Word :=
  (w >>> lo.toUInt32) &&& mask (hi + 1 - lo)

end Word

end UniversalMachine
