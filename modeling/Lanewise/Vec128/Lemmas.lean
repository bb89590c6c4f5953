import Lanewise.Vec128
import Lanewise.Word.Lemmas
import Mathlib.Algebra.Order.Group.Nat

namespace Lanewise.Vec128

theorem laneByte_laneOfBytes (b0 b1 b2 b3 : UInt8) :
    laneByte (laneOfBytes b0 b1 b2 b3) 0 = b0 ∧ laneByte (laneOfBytes b0 b1 b2 b3) 1 = b1 ∧
      laneByte (laneOfBytes b0 b1 b2 b3) 2 = b2 ∧ laneByte (laneOfBytes b0 b1 b2 b3) 3 = b3 := by
  refine ⟨?_, ?_, ?_, ?_⟩ <;>
    (apply UInt8.toBitVec_inj.mp; ext j hj; simp [laneByte, laneOfBytes])
  all_goals grind

theorem laneOfBytes_laneByte (lane : UInt32) :
    laneOfBytes (laneByte lane 0) (laneByte lane 1) (laneByte lane 2) (laneByte lane 3) = lane := by
  apply UInt32.toBitVec_inj.mp
  ext j hj
  simp [laneByte, laneOfBytes, -UInt32.toUInt32_toUInt8]
  grind

-- A lane and a word are made of bytes alike.
theorem toUInt64_laneOfBytes (b0 b1 b2 b3 : UInt8) :
    (laneOfBytes b0 b1 b2 b3).toUInt64 = Word.ofBytes [b0, b1, b2, b3] := by
  rw [Word.ofBytes_four, laneOfBytes]
  apply UInt64.toBitVec_inj.mp
  ext j hj
  -- the conversion has to be read bit by bit, and not moved into the shifts
  simp [-UInt32.toUInt64_or, -UInt32.toUInt64_shiftLeft]
  grind

theorem ofByte_byte (i r : Quarter) : Quarter.ofByte (i.byte r) = i := by
  ext
  simp only [Quarter.ofByte, Quarter.byte]
  omega

theorem byte_mod (i r : Quarter) : (i.byte r).val % 4 = r.val := by
  simp only [Quarter.byte]
  omega

theorem get_ofFn {α : Type} {n : Nat} (f : Fin n → α) (i : Fin n) :
    (Vector.ofFn f).get i = f i :=
  (Vector.getElem_ofFn i.isLt).trans rfl

theorem eq_of_get_eq {α : Type} {n : Nat} {v w : Vector α n} (h : ∀ i, v.get i = w.get i) :
    v = w :=
  Vector.ext fun i hi => h ⟨i, hi⟩

theorem get_ofLaneFn (f : Quarter → UInt32) (i r : Quarter) :
    (ofLaneFn f).bytes.get (i.byte r) = laneByte (f i) r.val := by
  simp only [ofLaneFn, get_ofFn]
  rw [byte_mod]
  exact congrArg (fun q => laneByte (f q) r.val) (ofByte_byte i r)

@[simp] theorem lane_ofLaneFn (f : Quarter → UInt32) (i : Quarter) : (ofLaneFn f).lane i = f i := by
  simp only [lane, get_ofLaneFn]
  exact laneOfBytes_laneByte (f i)

theorem laneByte_lane (v : Vec128) (i r : Quarter) :
    laneByte (v.lane i) r.val = v.bytes.get (i.byte r) := by
  obtain ⟨h0, h1, h2, h3⟩ := laneByte_laneOfBytes (v.bytes.get (i.byte .first))
    (v.bytes.get (i.byte .second)) (v.bytes.get (i.byte .third)) (v.bytes.get (i.byte .fourth))
  match r with
  | 0 => exact h0
  | 1 => exact h1
  | 2 => exact h2
  | 3 => exact h3

@[simp] theorem ofLaneFn_lane (v : Vec128) : ofLaneFn v.lane = v := by
  suffices h : (ofLaneFn v.lane).bytes = v.bytes by cases v; simp_all [ofLaneFn]
  refine eq_of_get_eq fun p => ?_
  have h := laneByte_lane v (.ofByte p) ⟨p.val % 4, by omega⟩
  simp only [ofLaneFn, get_ofFn]
  refine h.trans (congrArg v.bytes.get (Fin.ext ?_))
  simp only [Quarter.byte, Quarter.ofByte]
  omega

theorem eq_of_lane_eq {v w : Vec128} (h : ∀ i, v.lane i = w.lane i) : v = w := by
  rw [← ofLaneFn_lane v, ← ofLaneFn_lane w, funext h]

end Lanewise.Vec128
