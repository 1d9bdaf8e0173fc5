/-!
Channels: what a machine writes its output bytes to and reads its input bytes from.

A channel is a state with three operations. Each returns its answer together with the
state it leaves; a refusal is a reason in words. Reading answers with no byte when
the input has ended.
-/

namespace UniversalMachine

class Channel (χ : Type) where
  write : χ → UInt8 → Except String Unit × χ
  read : χ → Except String (Option UInt8) × χ
  flush : χ → Except String Unit × χ

end UniversalMachine
