import Lanewise.Vec128

namespace Lanewise

-- A 128-bit register whose element 0 stands in the lowest bits, whatever the size of elements.
structure Xmm where
  bits : BitVec 128
  deriving DecidableEq, Repr

namespace Xmm

def zero : Xmm :=
  ⟨0⟩

def ofDwords (f : Quarter → BitVec 32) : Xmm :=
  ⟨f .fourth ++ f .third ++ f .second ++ f .first⟩

def dword (x : Xmm) (i : Quarter) : BitVec 32 :=
  x.bits.extractLsb' (32 * i.val) 32

def ofWords (f : Fin 8 → BitVec 16) : Xmm :=
  ofDwords fun i => f ⟨2 * i.val + 1, by omega⟩ ++ f ⟨2 * i.val, by omega⟩

def word (x : Xmm) (i : Fin 8) : BitVec 16 :=
  (x.dword ⟨i.val / 2, by omega⟩).extractLsb' (16 * (i.val % 2)) 16

def ofBytes (f : Fin 16 → BitVec 8) : Xmm :=
  ofWords fun i => f ⟨2 * i.val + 1, by omega⟩ ++ f ⟨2 * i.val, by omega⟩

def load (v : Vec128) : Xmm :=
  ofDwords fun i => (v.lane i).toBitVec

def store (x : Xmm) : Vec128 :=
  Vec128.ofLaneFn fun i => ⟨x.dword i⟩

def zipDwords (f : BitVec 32 → BitVec 32 → BitVec 32) (a b : Xmm) : Xmm :=
  ofDwords fun i => f (a.dword i) (b.dword i)

def broadcast (d : BitVec 32) : Xmm :=
  ofDwords fun _ => d

-- All bits of a dword are set where the two dwords agree, and none where they differ.
def equalMask (a b : Xmm) : Xmm :=
  zipDwords (fun x y => if x = y then BitVec.allOnes 32 else 0) a b

def and (a b : Xmm) : Xmm :=
  ⟨a.bits &&& b.bits⟩

def or (a b : Xmm) : Xmm :=
  ⟨a.bits ||| b.bits⟩

-- The permutation instruction has its selector fixed when the code is built. For a selector
-- known only later, each source is spread over all dwords and kept where the selector of a dword
-- names that source.
def select (a : Xmm) (selectors : Xmm) : Xmm :=
  (List.finRange 4).foldl
    (fun acc source =>
      acc.or ((equalMask selectors (broadcast (BitVec.ofNat 32 source.val))).and
        (broadcast (a.dword source))))
    zero

def saturate (w : BitVec 16) : BitVec 8 :=
  BitVec.ofInt 8 (max 0 (min 255 w.toInt))

-- Sixteen words narrowed to bytes with saturation, those of `a` first.
def packSaturating (a b : Xmm) : Xmm :=
  ofBytes fun i =>
    if h : i.val < 8 then saturate (a.word ⟨i.val, h⟩)
    else saturate (b.word ⟨i.val - 8, by omega⟩)

def lowQword (x : Xmm) : BitVec 64 :=
  x.bits.extractLsb' 0 64

end Xmm

end Lanewise
