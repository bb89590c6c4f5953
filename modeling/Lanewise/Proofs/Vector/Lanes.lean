import Lanewise.Bindings
import Lanewise.Register.Lemmas

namespace Lanewise

theorem Vec128.and_three (imm : UInt8) (i : Quarter) :
    imm.toNat >>> (2 * i.val) &&& 3 = (selector imm i).val :=
  Nat.and_two_pow_sub_one_eq_mod (imm.toNat >>> (2 * i.val)) 2

theorem Vec128.toNat_selectorBits (imm : UInt8) (i : Quarter) :
    ((imm >>> (2 * i.val).toUInt8) &&& 3).toNat = (selector imm i).val := by
  have hshift : 2 * i.val % 8 = 2 * i.val := by omega
  simp [hshift, and_three]

namespace Xmm

@[simp] theorem dword_zipDwords (f : BitVec 32 → BitVec 32 → BitVec 32) (a b : Xmm) (i : Quarter) :
    (zipDwords f a b).dword i = f (a.dword i) (b.dword i) := by
  simp [zipDwords]

@[simp] theorem dword_broadcast (d : BitVec 32) (i : Quarter) : (broadcast d).dword i = d := by
  simp [broadcast]

@[simp] theorem dword_and (a b : Xmm) (i : Quarter) :
    (a.and b).dword i = a.dword i &&& b.dword i := by
  simp [Xmm.and, dword, BitVec.extractLsb'_and]

@[simp] theorem dword_or (a b : Xmm) (i : Quarter) :
    (a.or b).dword i = a.dword i ||| b.dword i := by
  simp [Xmm.or, dword, BitVec.extractLsb'_or]

@[simp] theorem dword_zero (i : Quarter) : zero.dword i = 0 := by
  simp [zero, dword]

theorem ofNat_quarter_inj {s t : Quarter} :
    BitVec.ofNat 32 s.val = BitVec.ofNat 32 t.val ↔ s = t := by
  revert s t
  decide

-- A source counts for a dword exactly if the selector of the dword names it.
theorem dword_masked (a selectors : Xmm) {i s : Quarter}
    (hs : selectors.dword i = BitVec.ofNat 32 s.val) (source : Quarter) :
    ((equalMask selectors (broadcast (BitVec.ofNat 32 source.val))).and
        (broadcast (a.dword source))).dword i =
      if source = s then a.dword s else 0 := by
  simp only [dword_and, equalMask, dword_zipDwords, dword_broadcast, hs, ofNat_quarter_inj]
  by_cases h : source = s
  · rw [if_pos h.symm, if_pos h, h, BitVec.allOnes_and]
  · simp [h, Ne.symm h]

theorem dword_foldl_masked (a selectors : Xmm) {i s : Quarter}
    (hs : selectors.dword i = BitVec.ofNat 32 s.val) (sources : List Quarter) (acc : Xmm) :
    (sources.foldl
        (fun acc source =>
          acc.or ((equalMask selectors (broadcast (BitVec.ofNat 32 source.val))).and
            (broadcast (a.dword source))))
        acc).dword i =
      acc.dword i ||| if s ∈ sources then a.dword s else 0 := by
  induction sources generalizing acc with
  | nil => simp
  | cons source sources ih =>
    rw [List.foldl_cons, ih, dword_or, dword_masked a selectors hs, BitVec.or_assoc]
    by_cases h : source = s
    · by_cases hmem : s ∈ sources <;> simp [h, hmem]
    · simp [h, Ne.symm h]

theorem dword_select (a selectors : Xmm) {i s : Quarter}
    (hs : selectors.dword i = BitVec.ofNat 32 s.val) :
    (a.select selectors).dword i = a.dword s := by
  rw [select, dword_foldl_masked a selectors hs]
  simp

end Xmm

namespace Mmx

theorem zipLanes_eq (f : UInt32 → UInt32 → UInt32) (a b : Vec128) :
    zipLanes f a b = Vec128.zipLanes f a b := by
  apply Vec128.eq_of_lane_eq
  intro i
  match i with
  | 0 | 1 | 2 | 3 =>
    simp [zipLanes, ofHalves, zipDwords, halves, Vec128.ofLanes, Vec128.zipLanes, Vector.get]

end Mmx

namespace Vmx

@[simp] theorem word_zipWords (f : UInt32 → UInt32 → UInt32) (a b : Vmx) (i : Quarter) :
    (zipWords f a b).word i = f (a.word i) (b.word i) := by
  simp [zipWords]

theorem get_wordControl (imm : UInt8) (i r : Quarter) :
    ((wordControl imm).bytes.get (i.byte r)).toNat =
      ((Vec128.selector imm i).byte r).val := by
  have hi : (4 * i.val + r.val) / 4 = i.val := by omega
  have hr : (4 * i.val + r.val) % 4 = r.val := by omega
  simp only [wordControl, Vec128.get_ofFn, Quarter.byte, hi, hr]
  rw [UInt8.toNat_add, UInt8.toNat_mul, Vec128.toNat_selectorBits]
  simp
  omega

-- The control names a byte of the first register, whose four bytes stay together.
theorem get_permute_wordControl (v : Vmx) (imm : UInt8) (i r : Quarter) :
    (permute v v (wordControl imm)).bytes.get (i.byte r) =
      v.bytes.get ((Vec128.selector imm i).byte r) := by
  have hbound := ((Vec128.selector imm i).byte r).isLt
  have hindex : ((wordControl imm).bytes.get (i.byte r)).toNat % 32 =
      ((Vec128.selector imm i).byte r).val := by
    rw [get_wordControl]
    exact Nat.mod_eq_of_lt (by omega)
  simp only [permute, Vec128.get_ofFn, hindex, hbound, dite_true]
  rfl

theorem word_permute_wordControl (v : Vmx) (imm : UInt8) (i : Quarter) :
    (permute v v (wordControl imm)).word i = v.word (Vec128.selector imm i) := by
  simp only [word, get_permute_wordControl]

end Vmx

namespace Facility

-- What a facility does with a pair of lanes. Only the facility with float instructions on whole
-- registers does not use the float operations of plain code.
def onLanes (arithmetic : Arithmetic) : Facility → BinarySlot → UInt32 → UInt32 → UInt32
  | .sse2, .float op => arithmetic.packed op
  | _, .float op => arithmetic.plain op
  | _, .addWords => (· + ·)

-- Whatever registers a facility takes the lanes through, it combines them pair by pair.
theorem runBinary_eq (arithmetic : Arithmetic) (facility : Facility) (slot : BinarySlot)
    (a b : Vec128) :
    facility.runBinary arithmetic slot a b =
      Vec128.zipLanes (facility.onLanes arithmetic slot) a b := by
  cases facility with
  | unresolved | scalar | neon => cases slot <;> rfl
  | sse2 =>
    apply Vec128.eq_of_lane_eq
    intro i
    cases slot with
    | float op => simp [runBinary, onLanes, Vec128.zipLanes]
    | addWords => simp [runBinary, onLanes, Vec128.zipLanes]
  | threeDNow =>
    cases slot with
    | float op => exact Mmx.zipLanes_eq (arithmetic.plain op) a b
    | addWords => rfl
  | altiVec =>
    apply Vec128.eq_of_lane_eq
    intro i
    cases slot with
    | float op => simp [runBinary, onLanes, Vec128.zipLanes]
    | addWords => simp [runBinary, onLanes, Vec128.zipLanes]

theorem runShuffle_eq (facility : Facility) (a : Vec128) (imm : UInt8) :
    facility.runShuffle a imm = Vec128.permute a imm := by
  cases facility with
  | unresolved | scalar | threeDNow | neon => rfl
  | sse2 =>
    apply Vec128.eq_of_lane_eq
    intro i
    rw [runShuffle, Xmm.lane_store, Xmm.dword_select (s := Vec128.selector imm i)]
    · simp [Vec128.permute]
    · rw [Xmm.dword_ofDwords, Vec128.and_three]
  | altiVec =>
    apply Vec128.eq_of_lane_eq
    intro i
    simp [runShuffle, Vmx.word_permute_wordControl, Vec128.permute]

end Facility

end Lanewise
