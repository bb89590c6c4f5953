import Lanewise.Arithmetic
import Lanewise.Vec128.Lemmas
import Mathlib.Data.Fintype.EquivFin

namespace Lanewise.Vec128

@[simp] theorem lane_zipLanes (f : UInt32 → UInt32 → UInt32) (a b : Vec128) (i : Quarter) :
    (zipLanes f a b).lane i = f (a.lane i) (b.lane i) := by
  rw [zipLanes, lane_ofLaneFn]

@[simp] theorem lane_permute (a : Vec128) (imm : UInt8) (i : Quarter) :
    (permute a imm).lane i = a.lane (selector imm i) := by
  rw [permute, lane_ofLaneFn]

@[simp] theorem lane_canonicalLanes (v : Vec128) (i : Quarter) :
    v.canonicalLanes.lane i = Binary32.canonical (v.lane i) := by
  rw [canonicalLanes, lane_ofLaneFn]

-- The byte whose selectors are given, two bits for each lane, the lowest lane first.
def selectorByte (sources : Quarter → Quarter) : UInt8 :=
  UInt8.ofNat ((sources .first).val + 4 * (sources .second).val + 16 * (sources .third).val +
    64 * (sources .fourth).val)

theorem toNat_selectorByte (sources : Quarter → Quarter) :
    (selectorByte sources).toNat =
      (sources 0).val + 4 * (sources 1).val + 16 * (sources 2).val + 64 * (sources 3).val := by
  have h0 := (sources .first).isLt
  have h1 := (sources .second).isLt
  have h2 := (sources .third).isLt
  have h3 := (sources .fourth).isLt
  rw [selectorByte, UInt8.toNat_ofNat']
  exact Nat.mod_eq_of_lt (by omega)

theorem selector_selectorByte (sources : Quarter → Quarter) :
    selector (selectorByte sources) = sources := by
  funext i
  have h0 := (sources 0).isLt
  have h1 := (sources 1).isLt
  have h2 := (sources 2).isLt
  have h3 := (sources 3).isLt
  apply Fin.ext
  simp only [selector, toNat_selectorByte, Nat.shiftRight_eq_div_pow]
  match i with
  | 0 =>
    change _ / 1 % 4 = _
    omega
  | 1 =>
    change _ / 4 % 4 = _
    omega
  | 2 =>
    change _ / 16 % 4 = _
    omega
  | 3 =>
    change _ / 64 % 4 = _
    omega

theorem selectorByte_selector (imm : UInt8) : selectorByte (selector imm) = imm := by
  have himm : imm.toNat < 256 := imm.toNat_lt
  apply UInt8.toNat_inj.mp
  simp only [toNat_selectorByte, selector, Nat.shiftRight_eq_div_pow]
  change imm.toNat / 1 % 4 + 4 * (imm.toNat / 4 % 4) + 16 * (imm.toNat / 16 % 4) +
    64 * (imm.toNat / 64 % 4) = imm.toNat
  omega

-- A byte is a choice of a source for each lane.
def selectorEquiv : UInt8 ≃ (Quarter → Quarter) where
  toFun := selector
  invFun := selectorByte
  left_inv := selectorByte_selector
  right_inv := selector_selectorByte

theorem selector_eq_iff {byte : UInt8} {sources : Quarter → Quarter} :
    (∀ i, selector byte i = sources i) ↔ byte = selectorByte sources :=
  funext_iff.symm.trans selectorEquiv.eq_symm_apply.symm

-- The later shuffle picks its lanes first, and the earlier one says where these came from.
theorem permute_permute (a : Vec128) (imm other : UInt8) :
    permute (permute a imm) other = permute a (selectorByte (selector imm ∘ selector other)) := by
  apply eq_of_lane_eq
  intro i
  rw [lane_permute, lane_permute, lane_permute, selector_selectorByte, Function.comp_apply]

theorem permute_zipLanes (f : UInt32 → UInt32 → UInt32) (a b : Vec128) (imm : UInt8) :
    permute (zipLanes f a b) imm = zipLanes f (permute a imm) (permute b imm) := by
  apply eq_of_lane_eq
  intro i
  simp only [lane_permute, lane_zipLanes]

theorem canonicalLanes_permute (a : Vec128) (imm : UInt8) :
    (permute a imm).canonicalLanes = permute a.canonicalLanes imm := by
  apply eq_of_lane_eq
  intro i
  simp only [lane_permute, lane_canonicalLanes]

-- A vector whose lanes hold their own positions tells the source of each lane.
theorem source_of_lane_eq {i j : Quarter}
    (h : ∀ a : Vec128, a.lane i = a.lane j) : i = j := by
  have hpositions := h (ofLaneFn fun k => UInt32.ofNat k.val)
  simp only [lane_ofLaneFn] at hpositions
  clear h
  revert i j
  decide

theorem permute_back_iff {imm back : UInt8} :
    (∀ a, permute (permute a imm) back = a) ↔
      Function.RightInverse (selector back) (selector imm) := by
  constructor
  · intro h i
    refine source_of_lane_eq fun a => ?_
    rw [← lane_permute a imm, ← lane_permute (permute a imm) back, h]
  · intro h a
    apply eq_of_lane_eq
    intro i
    rw [lane_permute, lane_permute, h]

-- A shuffle can be undone if it uses every lane, and four lanes are used by four selectors only if
-- no two of these name the same one.
theorem exists_permute_back_iff (imm : UInt8) :
    (∃ back, ∀ a, permute (permute a imm) back = a) ↔ Function.Injective (selector imm) :=
  calc
    (∃ back, ∀ a, permute (permute a imm) back = a) ↔
        ∃ back, Function.RightInverse (selector back) (selector imm) :=
      exists_congr fun _ => permute_back_iff
    _ ↔ Function.HasRightInverse (selector imm) :=
      (selectorEquiv.surjective.exists).symm
    _ ↔ Function.Surjective (selector imm) := Function.surjective_iff_hasRightInverse.symm
    _ ↔ Function.Injective (selector imm) := Finite.injective_iff_surjective.symm

end Lanewise.Vec128
