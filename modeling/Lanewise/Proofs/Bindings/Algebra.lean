import Lanewise.Proofs.Bindings.Lanes
import Lanewise.Proofs.Vector.Selectors

namespace Lanewise

namespace Vec128

@[simp] theorem lane_zero (i : Quarter) : zero.lane i = 0 := by
  revert i
  decide

-- The vector whose lanes bring those of another back to zero.
def negateLanes (a : Vec128) : Vec128 :=
  ofLaneFn fun i => -a.lane i

theorem zipLanes_comm (f : UInt32 → UInt32 → UInt32) [Std.Commutative f] (a b : Vec128) :
    zipLanes f a b = zipLanes f b a := by
  apply eq_of_lane_eq
  intro i
  rw [lane_zipLanes, lane_zipLanes]
  exact Std.Commutative.comm (a.lane i) (b.lane i)

theorem zipLanes_assoc (f : UInt32 → UInt32 → UInt32) [Std.Associative f] (a b c : Vec128) :
    zipLanes f (zipLanes f a b) c = zipLanes f a (zipLanes f b c) := by
  apply eq_of_lane_eq
  intro i
  simp only [lane_zipLanes]
  exact Std.Associative.assoc (a.lane i) (b.lane i) (c.lane i)

theorem zipLanes_add_zero (a : Vec128) : zipLanes (· + ·) a zero = a := by
  apply eq_of_lane_eq
  intro i
  rw [lane_zipLanes, lane_zero, UInt32.add_zero]

theorem zipLanes_add_negateLanes (a : Vec128) : zipLanes (· + ·) a a.negateLanes = zero := by
  apply eq_of_lane_eq
  intro i
  rw [lane_zipLanes, negateLanes, lane_ofLaneFn, lane_zero, UInt32.add_right_neg]

end Vec128

namespace Bindings

open Vec128

theorem binary_addWords (bindings : Bindings) (arithmetic : Arithmetic) (a b : Vec128) :
    bindings.binary arithmetic .addWords a b = zipLanes (· + ·) a b := by
  apply eq_of_lane_eq
  intro i
  rw [lane_addWords, lane_zipLanes]

-- Float lanes as a program sees them are those of plain code.
theorem canonicalLanes_binary_float {arithmetic : Arithmetic} (h : arithmetic.AgreesUpToNaN)
    (bindings : Bindings) (op : FloatOp) (a b : Vec128) :
    (bindings.binary arithmetic (.float op) a b).canonicalLanes =
      (zipLanes (arithmetic.plain op) a b).canonicalLanes :=
  observeBinary_eq_scalar h bindings (.float op) a b

theorem shuffle_addWords (arithmetic : Arithmetic) (sum after left right before : Bindings)
    (a b : Vec128) (imm : UInt8) :
    after.shuffle (sum.binary arithmetic .addWords a b) imm =
      before.binary arithmetic .addWords (left.shuffle a imm) (right.shuffle b imm) := by
  simp only [shuffle_eq_permute, binary_addWords, permute_zipLanes]

theorem shuffle_float {arithmetic : Arithmetic} (h : arithmetic.AgreesUpToNaN)
    (float after left right before : Bindings) (op : FloatOp) (a b : Vec128) (imm : UInt8) :
    (after.shuffle (float.binary arithmetic (.float op) a b) imm).canonicalLanes =
      (before.binary arithmetic (.float op) (left.shuffle a imm)
        (right.shuffle b imm)).canonicalLanes := by
  rw [canonicalLanes_binary_float h]
  simp only [shuffle_eq_permute, canonicalLanes_permute, canonicalLanes_binary_float h]
  rw [← canonicalLanes_permute, permute_zipLanes]

-- One byte that takes the lanes back serves all bindings, and a byte that does so for some
-- bindings is there only if no two lanes come from one.
theorem undo_tfae (imm : UInt8) :
    [∃ back, ∀ (first second : Bindings) (a : Vec128),
        second.shuffle (first.shuffle a imm) back = a,
      ∃ (first second : Bindings) (back : UInt8), ∀ a : Vec128,
        second.shuffle (first.shuffle a imm) back = a,
      Function.Injective (selector imm)].TFAE := by
  simp only [shuffle_eq_permute]
  tfae_have 1 → 2 := by
    rintro ⟨back, hback⟩
    exact ⟨scalar, scalar, back, hback scalar scalar⟩
  tfae_have 2 → 3 := by
    rintro ⟨-, -, hback⟩
    exact (exists_permute_back_iff imm).mp hback
  tfae_have 3 → 1 := by
    intro himm
    obtain ⟨back, hback⟩ := (exists_permute_back_iff imm).mpr himm
    exact ⟨back, fun _ _ => hback⟩
  tfae_finish

-- Whatever bindings each operation goes through: two shuffles are the one whose selectors are the
-- earlier ones at the places that the later ones name. A shuffle may come before an operation on
-- lanes as well as after it, float lanes that are not numbers being alike. It can be undone
-- exactly if no two of its selectors agree. Sums of words are those of a commutative group.
theorem algebra_of_slots {arithmetic : Arithmetic} (h : arithmetic.AgreesUpToNaN) (imm : UInt8) :
    let sum (bindings : Bindings) := bindings.binary arithmetic .addWords
    (∀ other, ∃ both,
      (∀ byte, (∀ i, selector byte i = selector imm (selector other i)) ↔ byte = both) ∧
        ∀ (first second direct : Bindings) (a : Vec128),
          second.shuffle (first.shuffle a imm) other = direct.shuffle a both) ∧
      (∀ (operation after left right before : Bindings) (a b : Vec128),
        after.shuffle (sum operation a b) imm =
            sum before (left.shuffle a imm) (right.shuffle b imm) ∧
          ∀ op,
            (after.shuffle (operation.binary arithmetic (.float op) a b) imm).canonicalLanes =
              (before.binary arithmetic (.float op) (left.shuffle a imm)
                (right.shuffle b imm)).canonicalLanes) ∧
      [∃ back, ∀ (first second : Bindings) (a : Vec128),
          second.shuffle (first.shuffle a imm) back = a,
        ∃ (first second : Bindings) (back : UInt8), ∀ a : Vec128,
          second.shuffle (first.shuffle a imm) back = a,
        Function.Injective (selector imm)].TFAE ∧
      (∀ (p q r s : Bindings) (a b c : Vec128),
        sum p a b = sum q b a ∧ sum p (sum q a b) c = sum r a (sum s b c)) ∧
      ∀ a, ∃ opposite, ∀ bindings,
        sum bindings a zero = a ∧ sum bindings zero a = a ∧
          sum bindings a opposite = zero ∧ sum bindings opposite a = zero := by
  intro sum
  have hsum (bindings : Bindings) : sum bindings = zipLanes (· + ·) :=
    funext fun a => funext (binary_addWords bindings arithmetic a)
  refine ⟨fun other => ⟨selectorByte (selector imm ∘ selector other), fun byte => ?_, ?_⟩,
    fun operation after left right before a b => ⟨?_, fun op => ?_⟩, undo_tfae imm,
    fun p q r s a b c => ?_, fun a => ⟨a.negateLanes, fun bindings => ?_⟩⟩
  · exact selector_eq_iff
  · intro first second direct a
    rw [shuffle_eq_permute, shuffle_eq_permute, shuffle_eq_permute, permute_permute]
  · exact shuffle_addWords arithmetic operation after left right before a b imm
  · exact shuffle_float h operation after left right before op a b imm
  · simp only [hsum]
    exact ⟨zipLanes_comm (· + ·) a b, zipLanes_assoc (· + ·) a b c⟩
  · have hcomm := zipLanes_comm (· + ·) a
    have hzero := zipLanes_add_zero a
    have hopposite := zipLanes_add_negateLanes a
    rw [hsum]
    exact ⟨hzero, (hcomm zero).symm.trans hzero, hopposite,
      (hcomm a.negateLanes).symm.trans hopposite⟩

theorem algebra_of_slots_of_negativeNaN :
    let arithmetic := Arithmetic.negativeNaN
    let infinities := ofLaneFn fun _ => Binary32.infinity
    let after := (ofFacility .neon).shuffle
      ((ofFacility .sse2).binary arithmetic (.float .sub) infinities infinities) 0x1B
    let before := (ofFacility .threeDNow).binary arithmetic (.float .sub)
      ((ofFacility .altiVec).shuffle infinities 0x1B) ((ofFacility .sse2).shuffle infinities 0x1B)
    arithmetic.AgreesUpToNaN ∧ after.lane .first ≠ before.lane .first ∧
      after.canonicalLanes = before.canonicalLanes ∧
      ∃ back, ∀ (first second : Bindings) (a : Vec128),
        second.shuffle (first.shuffle a 0x1B) back = a := by
  intro arithmetic infinities after before
  have hagrees : arithmetic.AgreesUpToNaN := Arithmetic.agreesUpToNaN_negativeNaN
  have hselectors : Function.Injective (selector 0x1B) := by decide
  obtain ⟨-, hpass, hundo, -⟩ := algebra_of_slots hagrees 0x1B
  refine ⟨hagrees, by decide, ?_, (hundo.out 0 2).mpr hselectors⟩
  exact (hpass (ofFacility .sse2) (ofFacility .neon) (ofFacility .altiVec) (ofFacility .sse2)
    (ofFacility .threeDNow) infinities infinities).2 .sub

end Bindings

end Lanewise
