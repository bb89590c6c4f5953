import Lanewise.Vec128

namespace Lanewise

-- A 64-bit register whose element 0 stands in the lowest bits.
structure Mmx where
  bits : UInt64
  deriving DecidableEq, Repr

namespace Mmx

def zero : Mmx :=
  ⟨0⟩

def ofDwords (low high : UInt32) : Mmx :=
  ⟨low.toUInt64 ||| (high.toUInt64 <<< 32)⟩

def lowDword (m : Mmx) : UInt32 :=
  m.bits.toUInt32

def highDword (m : Mmx) : UInt32 :=
  (m.bits >>> 32).toUInt32

def ofWords (w0 w1 w2 w3 : UInt16) : Mmx :=
  ⟨w0.toUInt64 ||| (w1.toUInt64 <<< 16) ||| (w2.toUInt64 <<< 32) ||| (w3.toUInt64 <<< 48)⟩

def word (m : Mmx) (i : Quarter) : UInt16 :=
  (m.bits >>> (16 * i.val).toUInt64).toUInt16

-- The nearest number from 0 to 255 to a word that is read with its sign: from `0x8000` on the
-- sign is set.
def saturate (w : UInt16) : UInt8 :=
  if 0x8000 ≤ w then 0 else if 0xFF < w then 0xFF else w.toUInt8

-- Eight words narrowed to bytes with saturation, those of `a` in the lower half.
def packSaturating (a b : Mmx) : Mmx :=
  ⟨(List.finRange 4).foldl
    (fun acc i =>
      acc ||| ((saturate (a.word i)).toUInt64 <<< (8 * i.val).toUInt64) |||
        ((saturate (b.word i)).toUInt64 <<< (8 * (i.val + 4)).toUInt64))
    0⟩

def zipDwords (f : UInt32 → UInt32 → UInt32) (a b : Mmx) : Mmx :=
  ofDwords (f a.lowDword b.lowDword) (f a.highDword b.highDword)

-- A vector takes two registers: lanes 0 and 1, and lanes 2 and 3.
def halves (v : Vec128) : Mmx × Mmx :=
  (ofDwords (v.lane .first) (v.lane .second), ofDwords (v.lane .third) (v.lane .fourth))

def ofHalves (low high : Mmx) : Vec128 :=
  Vec128.ofLanes #v[low.lowDword, low.highDword, high.lowDword, high.highDword]

def zipLanes (f : UInt32 → UInt32 → UInt32) (a b : Vec128) : Vec128 :=
  ofHalves (zipDwords f (halves a).1 (halves b).1) (zipDwords f (halves a).2 (halves b).2)

end Mmx

end Lanewise
