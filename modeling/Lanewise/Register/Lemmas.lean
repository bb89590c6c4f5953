import Lanewise.Register.Mmx
import Lanewise.Register.Vmx
import Lanewise.Register.Xmm
import Lanewise.Vec128.Lemmas
import Mathlib

namespace Lanewise

namespace Xmm

@[simp] theorem dword_ofDwords (f : Quarter → BitVec 32) (i : Quarter) :
    (ofDwords f).dword i = f i := by
  match i with
  | 0 | 1 | 2 | 3 =>
    simp only [ofDwords, dword]
    ext j hj
    simp
    grind

theorem lower_append {n : Nat} (high low : BitVec n) : (high ++ low).extractLsb' 0 n = low := by
  ext j hj
  rw [BitVec.getElem_extractLsb', BitVec.getLsbD_append]
  simp [hj, BitVec.getLsbD_eq_getElem]

theorem upper_append {n : Nat} (high low : BitVec n) : (high ++ low).extractLsb' n n = high := by
  ext j hj
  rw [BitVec.getElem_extractLsb', BitVec.getLsbD_append]
  simp [hj, BitVec.getLsbD_eq_getElem]

@[simp] theorem word_ofWords (f : Fin 8 → BitVec 16) (i : Fin 8) : (ofWords f).word i = f i := by
  simp only [ofWords, word, dword_ofDwords]
  match i with
  | 0 => exact lower_append (f 1) (f 0)
  | 1 => exact upper_append (f 1) (f 0)
  | 2 => exact lower_append (f 3) (f 2)
  | 3 => exact upper_append (f 3) (f 2)
  | 4 => exact lower_append (f 5) (f 4)
  | 5 => exact upper_append (f 5) (f 4)
  | 6 => exact lower_append (f 7) (f 6)
  | 7 => exact upper_append (f 7) (f 6)

@[simp] theorem dword_load (v : Vec128) (i : Quarter) : (load v).dword i = (v.lane i).toBitVec := by
  simp [load]

@[simp] theorem lane_store (x : Xmm) (i : Quarter) : x.store.lane i = ⟨x.dword i⟩ := by
  simp [store]

end Xmm

namespace Mmx

@[simp] theorem lowDword_ofDwords (low high : UInt32) : (ofDwords low high).lowDword = low := by
  apply UInt32.toBitVec_inj.mp
  ext j hj
  simp [ofDwords, lowDword]

@[simp] theorem highDword_ofDwords (low high : UInt32) : (ofDwords low high).highDword = high := by
  apply UInt32.toBitVec_inj.mp
  ext j hj
  simp [ofDwords, highDword]
  grind

end Mmx

namespace Vmx

theorem get_ofWords (f : Quarter → UInt32) (i r : Quarter) :
    (ofWords f).bytes.get (i.byte r) = Vec128.laneByte (f i) (3 - r.val) := by
  simp only [ofWords, Vec128.get_ofFn]
  rw [Vec128.byte_mod]
  exact congrArg (fun q => Vec128.laneByte (f q) (3 - r.val)) (Vec128.ofByte_byte i r)

@[simp] theorem word_ofWords (f : Quarter → UInt32) (i : Quarter) : (ofWords f).word i = f i := by
  simp only [word, get_ofWords]
  exact Vec128.laneOfBytes_laneByte (f i)

@[simp] theorem word_load (v : Vec128) (i : Quarter) : (load v).word i = v.lane i := by
  simp [load]

@[simp] theorem lane_store (r : Vmx) (i : Quarter) : r.store.lane i = r.word i := by
  simp [store]

end Vmx

end Lanewise
