import Lanewise.Basic
import Lanewise.Facility
import Lanewise.Register.Mmx
import Lanewise.Register.Vmx
import Lanewise.Register.Xmm

namespace Lanewise

-- A way to pack 16-bit units that fit in a byte into words. All ways agree on such units.
inductive Packer where
  | scalar
  | sse2
  | threeDNow
  | altiVec
  deriving DecidableEq, Repr

namespace Packer

-- The packer of a facility, which is plain code where the facility has none here.
def ofFacility : Facility → Packer
  | .sse2 => .sse2
  | .threeDNow => .threeDNow
  | .altiVec => .altiVec
  | .unresolved | .scalar | .neon => .scalar

def facility : Packer → Facility
  | .scalar => .scalar
  | .sse2 => .sse2
  | .threeDNow => .threeDNow
  | .altiVec => .altiVec

def available : List Packer :=
  .scalar :: (Facility.automaticOrder.filter Facility.hasCode).map ofFacility

def label : Packer → String
  | .scalar => "ScalarReader"
  | .sse2 => "Sse2Reader"
  | .threeDNow => "ThreeDNowReader"
  | .altiVec => "AltiVecReader"

def maskUnits {n : Nat} (units : Vector UInt16 n) : UInt64 :=
  (List.finRange n).foldl
    (fun word i => word ||| ((units.get i &&& 0xFF).toUInt64 <<< (8 * i.val).toUInt64)) 0

-- Eight units in one word. The word of units that do not fit in a byte differs between packers:
-- some keep the low byte, and some saturate a unit that they read with its sign.
def pack8 (packer : Packer) (units : Vector UInt16 8) : UInt64 :=
  match packer with
  | .scalar => maskUnits units
  | .sse2 =>
    ⟨(Xmm.packSaturating (Xmm.ofWords fun i => (units.get i).toBitVec) Xmm.zero).lowQword⟩
  | .threeDNow =>
    (Mmx.packSaturating (Mmx.ofWords units[0] units[1] units[2] units[3])
      (Mmx.ofWords units[4] units[5] units[6] units[7])).bits
  | .altiVec =>
    let register := Vmx.ofHalfwords units.get
    Word.reverseBytes (Vmx.packModular register register).firstDoubleword

-- Four units in the lower half of a word. The upper half is empty.
def pack4 (packer : Packer) (units : Vector UInt16 4) : UInt64 :=
  match packer with
  | .scalar => maskUnits units
  | .sse2 =>
    let lower := Xmm.ofWords fun i => if h : i.val < 4 then (units[i.val]).toBitVec else 0
    ⟨((Xmm.packSaturating lower Xmm.zero).dword .first).setWidth 64⟩
  | .threeDNow =>
    (Mmx.packSaturating (Mmx.ofWords units[0] units[1] units[2] units[3]) Mmx.zero).bits
  | .altiVec =>
    let register := Vmx.ofHalfwords fun i => if h : i.val < 4 then units[i.val] else 0
    Word.reverseBytes ((Vmx.packModular register Vmx.zero).word .first).toUInt64 >>> 32

def unitAt {U : Type} (units : List U) (index : Nat) : Except Fault U :=
  match units[index]? with
  | some unit => .ok unit
  | none => .error (.outOfBounds units.length index)

-- Where a sample of `k` units looks, in this order: the first unit, the middle one and the last
-- one. The last index wraps around when `k` is zero.
def sampleIndices (k : UInt64) : List Nat :=
  [0, (k >>> 1).toNat, (k - 1).toNat]

-- The first unit from bit 56 on, the middle one from bit 32 on and the last one from bit 0 on.
-- Of the first unit only the low byte has room.
def sampleWord (first middle last : UInt64) : UInt64 :=
  (first <<< 56) ||| (middle <<< 32) ||| last

def sample {U : Type} (widen : U → UInt64) (units : List U) (k : UInt64) : Except Fault UInt64 := do
  let first ← unitAt units 0
  let middle ← unitAt units (k >>> 1).toNat
  let last ← unitAt units (k - 1).toNat
  return sampleWord (widen first) (widen middle) (widen last)

-- Up to eight units in one word, unit `i` in byte `i`, provided that each fits in a byte. This
-- is what every packer has to agree with.
def packNarrow (units : List UInt16) : Except Fault UInt64 :=
  if 8 < units.length then .error .tooManyUnits
  else if units.any (0xFF < ·) then .error .notNarrow
  else .ok (units.foldr (fun unit word => (word <<< 8) ||| unit.toUInt64) 0)

def isWide (unit : UInt16) : Bool :=
  0xFF < unit

def guardUnits (build : Build) (units : List UInt16) : Except Fault Unit :=
  if build.checks && units.any isWide then .error (.wideUnits units) else .ok ()

-- What a checked build says to a sample: first to its extent, then to the units it looks at.
def guardSample (build : Build) (units : List UInt16) (k : UInt64) : Except Fault Unit :=
  if !build.checks then .ok ()
  else if !(1 ≤ k && k < 8 && k.toNat ≤ units.length) then
    .error (.sampleRange k units.length)
  else if (sampleIndices k).any fun index => (units[index]?).any isWide then
    .error (.wideSample (units.take k.toNat))
  else .ok ()

def tryPack8 (build : Build) (packer : Packer) (units : Vector UInt16 8) : Except Fault UInt64 := do
  guardUnits build units.toList
  return packer.pack8 units

def tryPack4 (build : Build) (packer : Packer) (units : Vector UInt16 4) : Except Fault UInt64 := do
  guardUnits build units.toList
  return packer.pack4 units

-- No facility samples faster than plain code, so the packer does not matter.
def trySample (build : Build) (units : List UInt16) (k : UInt64) : Except Fault UInt64 := do
  guardSample build units k
  sample UInt16.toUInt64 units k

end Packer

end Lanewise
