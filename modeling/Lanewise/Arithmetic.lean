import Lanewise.Binary32
import Lanewise.Slot
import Lanewise.Vec128

namespace Lanewise

-- The float operations that vector code relies on, as functions on bit patterns: those of plain
-- code, lane by lane, and those of a unit that works on a whole 128-bit register. The two may
-- give different patterns to a result that is not a number.
structure Arithmetic where
  plain : FloatOp → UInt32 → UInt32 → UInt32
  packed : FloatOp → UInt32 → UInt32 → UInt32

namespace Arithmetic

def binary32 : FloatOp → UInt32 → UInt32 → UInt32
  | .add => Binary32.add
  | .mul => Binary32.mul
  | .sub => Binary32.sub

def standard : Arithmetic :=
  ⟨binary32, binary32⟩

end Arithmetic

namespace Vec128

def zipLanes (f : UInt32 → UInt32 → UInt32) (a b : Vec128) : Vec128 :=
  ofLaneFn fun i => f (a.lane i) (b.lane i)

-- The two bits of a selector byte that belong to lane `i`.
def selector (imm : UInt8) (i : Quarter) : Quarter :=
  ⟨(imm.toNat >>> (2 * i.val)) % 4, Nat.mod_lt _ (by decide)⟩

def permute (a : Vec128) (imm : UInt8) : Vec128 :=
  ofLaneFn fun i => a.lane (selector imm i)

def canonicalLanes (v : Vec128) : Vec128 :=
  ofLaneFn fun i => Binary32.canonical (v.lane i)

end Vec128

end Lanewise
