import Lanewise.Basic
import Lanewise.Vec128

namespace Lanewise

-- A 128-bit register in big-endian order: element `i` of elements of `w` bytes takes bytes `w i`
-- to `w i + w - 1`, its highest byte first.
structure Vmx where
  bytes : Vector UInt8 16
  deriving DecidableEq, Repr

namespace Vmx

def zero : Vmx :=
  ⟨Vector.replicate 16 0⟩

def ofHalfwords (f : Fin 8 → UInt16) : Vmx :=
  ⟨Vector.ofFn fun p =>
    let unit := f ⟨p.val / 2, by omega⟩
    if p.val % 2 = 0 then (unit >>> 8).toUInt8 else unit.toUInt8⟩

def ofWords (f : Quarter → UInt32) : Vmx :=
  ⟨Vector.ofFn fun p => Vec128.laneByte (f (.ofByte p)) (3 - p.val % 4)⟩

def word (r : Vmx) (i : Quarter) : UInt32 :=
  Vec128.laneOfBytes (r.bytes.get (i.byte .fourth)) (r.bytes.get (i.byte .third))
    (r.bytes.get (i.byte .second)) (r.bytes.get (i.byte .first))

-- A load turns each lane around, since vectors lie in memory with the low byte first.
def load (v : Vec128) : Vmx :=
  ofWords v.lane

def store (r : Vmx) : Vec128 :=
  Vec128.ofLaneFn r.word

-- The first eight bytes as one number, byte 0 in its highest place.
def firstDoubleword (r : Vmx) : UInt64 :=
  Word.ofBytes (r.bytes.toList.take 8).reverse

-- Sixteen halfwords narrowed to their low bytes, those of `a` first.
def packModular (a b : Vmx) : Vmx :=
  ⟨Vector.ofFn fun p =>
    if p.val < 8 then a.bytes[2 * (p.val % 8) + 1] else b.bytes[2 * (p.val % 8) + 1]⟩

-- Byte `i` is the byte of the 32 bytes of `a` and `b` that the low five bits of control byte `i`
-- name.
def permute (a b control : Vmx) : Vmx :=
  ⟨Vector.ofFn fun p =>
    let index := (control.bytes.get p).toNat % 32
    if h : index < 16 then a.bytes[index] else b.bytes[index - 16]⟩

def zipWords (f : UInt32 → UInt32 → UInt32) (a b : Vmx) : Vmx :=
  ofWords fun i => f (a.word i) (b.word i)

-- The control that brings each word to the places of another: two bits of the selector byte name
-- the source of a word, and its four bytes follow each other.
def wordControl (imm : UInt8) : Vmx :=
  ⟨Vector.ofFn fun p =>
    4 * ((imm >>> (2 * (p.val / 4)).toUInt8) &&& 3) + (p.val % 4).toUInt8⟩

end Vmx

end Lanewise
