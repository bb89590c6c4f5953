import Lanewise.Basic

namespace Lanewise

abbrev Quarter :=
  Fin 4

namespace Quarter

abbrev first : Quarter :=
  0

abbrev second : Quarter :=
  1

abbrev third : Quarter :=
  2

abbrev fourth : Quarter :=
  3

def byte (i r : Quarter) : Fin 16 :=
  ⟨4 * i.val + r.val, by omega⟩

def ofByte (p : Fin 16) : Quarter :=
  ⟨p.val / 4, by omega⟩

end Quarter

-- A 128-bit vector in memory order. Lane `i` of four 32-bit lanes is the little-endian reading
-- of bytes `4 i` to `4 i + 3`, on every facility.
structure Vec128 where
  bytes : Vector UInt8 16
  deriving DecidableEq, Repr

namespace Vec128

def sizeInBytes : Nat :=
  16

def alignment : Nat :=
  16

def zero : Vec128 :=
  ⟨Vector.replicate 16 0⟩

instance : Inhabited Vec128 :=
  ⟨zero⟩

-- The lane whose bytes are given, the lowest first.
def laneOfBytes (b0 b1 b2 b3 : UInt8) : UInt32 :=
  b0.toUInt32 ||| (b1.toUInt32 <<< 8) ||| (b2.toUInt32 <<< 16) ||| (b3.toUInt32 <<< 24)

-- Byte `p` of a lane, the lowest one at `p = 0`.
def laneByte (lane : UInt32) (p : Nat) : UInt8 :=
  (lane >>> (8 * p).toUInt32).toUInt8

def lane (v : Vec128) (i : Quarter) : UInt32 :=
  laneOfBytes (v.bytes.get (i.byte .first)) (v.bytes.get (i.byte .second))
    (v.bytes.get (i.byte .third)) (v.bytes.get (i.byte .fourth))

def ofLaneFn (f : Quarter → UInt32) : Vec128 :=
  ⟨Vector.ofFn fun p => laneByte (f (.ofByte p)) (p.val % 4)⟩

-- The four lanes as unsigned words.
def lanes (v : Vec128) : Vector UInt32 4 :=
  Vector.ofFn v.lane

def ofLanes (lanes : Vector UInt32 4) : Vec128 :=
  ofLaneFn lanes.get

def signedLanes (v : Vec128) : Vector Int32 4 :=
  v.lanes.map UInt32.toInt32

def ofSignedLanes (lanes : Vector Int32 4) : Vec128 :=
  ofLanes (lanes.map Int32.toUInt32)

-- A float as a lane holds it: nothing but its bit pattern, so that patterns which are no numbers
-- stay apart.
structure FloatLane where
  pattern : UInt32
  deriving DecidableEq, Repr

def floatLanes (v : Vec128) : Vector FloatLane 4 :=
  v.lanes.map FloatLane.mk

def ofFloatLanes (lanes : Vector FloatLane 4) : Vec128 :=
  ofLanes (lanes.map FloatLane.pattern)

def poke (v : Vec128) (index : Fin 16) (byte : UInt8) : Vec128 :=
  ⟨v.bytes.set index byte⟩

def isZero (v : Vec128) : Bool :=
  v == zero

-- The four lanes as words of eight digits, the lowest lane first.
def debugText (v : Vec128) : String :=
  "VectorValue(" ++
    Text.bracketed (v.lanes.toList.map fun lane => "0x" ++ Text.fixedHex 8 lane.toNat) ++ ")"

end Vec128

end Lanewise
