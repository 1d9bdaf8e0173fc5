import UniversalMachine.Fault

/-!
Program images: the bytes in which a program is stored. Four bytes make a word, the
most significant one first; there is no header and nothing after the last word.
-/

namespace UniversalMachine.Image

def word (b₃ b₂ b₁ b₀ : UInt8) : Word :=
  (b₃.toUInt32 <<< 24) ||| (b₂.toUInt32 <<< 16) ||| (b₁.toUInt32 <<< 8) ||| b₀.toUInt32

def bytes (w : Word) : Array UInt8 :=
  #[(w >>> 24).toUInt8, (w >>> 16).toUInt8, (w >>> 8).toUInt8, w.toUInt8]

def decode (image : Array UInt8) : Except Fault (Array Word) :=
  if whole : image.size % 4 = 0 then
    .ok <| .ofFn fun i : Fin (image.size / 4) =>
      word image[4 * i.val] image[4 * i.val + 1] image[4 * i.val + 2] image[4 * i.val + 3]
  else .error (.invalidProgram image.size)

def encode (program : Array Word) : Array UInt8 :=
  program.flatMap bytes

/-- The program in a file, given what reading the file answered. -/
def load (path : String) (contents : Except String (Array UInt8)) :
    Except Fault (Array Word) :=
  match contents with
  | .ok image => decode image
  | .error reason => .error (.unreadableProgram path reason)

end UniversalMachine.Image
