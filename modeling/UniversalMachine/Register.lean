import UniversalMachine.Fault

/-!
The eight general registers and their names.

An instruction names registers by three-bit fields, so a decoded register is always
one of the eight and reading it cannot fail. Numbers from elsewhere are checked by
`Register.ofNat?` and by the checked accessors of `Registers`.
-/

namespace UniversalMachine

abbrev registerCount : Nat := 8

abbrev Register := Fin registerCount

namespace Register

def ofNat? (index : Nat) : Except Fault Register :=
  if h : index < registerCount then .ok ⟨index, h⟩ else .error (.invalidRegister index)

/-- The register named by the three lowest bits of a field. -/
def ofField (bits : Word) : Register :=
  ⟨bits.toNat % registerCount, Nat.mod_lt _ (by decide)⟩

def toField (r : Register) : Word :=
  r.val.toUInt32

def text (r : Register) : String :=
  s!"r{r.val}"

end Register

abbrev Registers := Vector Word registerCount

namespace Registers

def zero : Registers :=
  Vector.replicate registerCount 0

def read (rs : Registers) (index : Nat) : Except Fault Word :=
  (Register.ofNat? index).map fun r => rs[r]

def write (rs : Registers) (index : Nat) (value : Word) : Except Fault Registers :=
  (Register.ofNat? index).map fun r => rs.set r.val value r.isLt

end Registers

end UniversalMachine
