import Lanewise.Proofs.Program.Rebind

namespace Lanewise.Bindings

theorem lane_binary (bindings : Bindings) (arithmetic : Arithmetic) (slot : BinarySlot)
    (a b : Vec128) (i : Quarter) :
    (bindings.binary arithmetic slot a b).lane i =
      (bindings.provider (.binary slot)).onLanes arithmetic slot (a.lane i) (b.lane i) := by
  rw [binary_eq, Facility.runBinary_eq, Vec128.zipLanes, Vec128.lane_ofLaneFn]

-- The sum of words does not depend on the provider at all.
theorem lane_addWords (bindings : Bindings) (arithmetic : Arithmetic) (a b : Vec128)
    (i : Quarter) :
    (bindings.binary arithmetic .addWords a b).lane i = a.lane i + b.lane i := by
  rw [lane_binary]
  cases bindings.provider (.binary .addWords) <;> rfl

theorem lane_shuffle (bindings : Bindings) (a : Vec128) (imm : UInt8) (i : Quarter) :
    (bindings.shuffle a imm).lane i = a.lane (Vec128.selector imm i) := by
  rw [shuffle_eq_permute, Vec128.permute, Vec128.lane_ofLaneFn]

-- A slot is served by the facility of the bindings or by plain code.
theorem provider_ofFacility (facility : Facility) (slot : Slot) :
    (ofFacility facility).provider slot = (ofFacility facility).facility ∨
      (ofFacility facility).provider slot = .scalar := by
  cases facility with
  | unresolved | scalar | neon => exact .inr rfl
  | sse2 | altiVec =>
    left
    rcases slot with (op | _) | _
    · cases op <;> rfl
    · rfl
    · rfl
  | threeDNow =>
    rcases slot with (op | _) | _
    · left
      cases op <;> rfl
    · exact .inr rfl
    · exact .inr rfl

-- Every facility with code has float operations of its own.
theorem provider_ofFacility_float (facility : Facility) (op : FloatOp) :
    (ofFacility facility).provider (.binary (.float op)) = facility.serving := by
  cases facility <;> cases op <;> rfl

theorem lane_float_ofFacility (arithmetic : Arithmetic) (facility : Facility) (op : FloatOp)
    (a b : Vec128) (i : Quarter) :
    ((ofFacility facility).binary arithmetic (.float op) a b).lane i =
      if facility = .sse2 then arithmetic.packed op (a.lane i) (b.lane i)
      else arithmetic.plain op (a.lane i) (b.lane i) := by
  rw [lane_binary, provider_ofFacility_float]
  cases facility <;> rfl

-- Each slot of the bindings of each facility follows the law of its operation lane by lane. Sums
-- wrap around, a shuffle takes the lane that two bits of the selector byte name, and the float
-- operations take their operands in order. Where results that are not numbers are told apart,
-- float lanes are still those of plain code, except for the facility that works on whole registers.
theorem lanes_ofFacility {arithmetic : Arithmetic} (h : arithmetic.AgreesUpToNaN)
    (facility : Facility) (a b : Vec128) (imm : UInt8) (i : Quarter) :
    let bindings := ofFacility facility
    ((bindings.binary arithmetic .addWords a b).lane i).toNat =
        ((a.lane i).toNat + (b.lane i).toNat) % 2 ^ 32 ∧
      (∃ j : Quarter, j.val = ((imm >>> (2 * i.val).toUInt8) &&& 3).toNat ∧
        (bindings.shuffle a imm).lane i = a.lane j) ∧
      ∀ op,
        let result := (bindings.binary arithmetic (.float op) a b).lane i
        let plain := arithmetic.plain op (a.lane i) (b.lane i)
        Binary32.canonical result = Binary32.canonical plain ∧
          (facility ≠ .sse2 → result = plain) := by
  intro bindings
  refine ⟨?_, ⟨Vec128.selector imm i, ?_, ?_⟩, fun op => ?_⟩
  · rw [lane_addWords, UInt32.toNat_add]
  · exact (Vec128.toNat_selectorBits imm i).symm
  · exact lane_shuffle bindings a imm i
  · intro result plain
    have hresult := lane_float_ofFacility arithmetic facility op a b i
    by_cases hpacked : facility = .sse2
    · rw [if_pos hpacked] at hresult
      refine ⟨?_, fun hother => absurd hpacked hother⟩
      exact (congrArg Binary32.canonical hresult).trans (h.canonical_eq op (a.lane i) (b.lane i))
    · rw [if_neg hpacked] at hresult
      exact ⟨congrArg Binary32.canonical hresult, fun _ => hresult⟩

theorem lanes_ofFacility_of_negativeNaN :
    let arithmetic := Arithmetic.negativeNaN
    let infinities := Vec128.ofLaneFn fun _ => Binary32.infinity
    let difference := (ofFacility .sse2).binary arithmetic (.float .sub) infinities infinities
    arithmetic.AgreesUpToNaN ∧ difference.lane .first = 0xFFC00000 ∧
      Binary32.canonical (difference.lane .first) = Binary32.nan := by
  intro arithmetic infinities difference
  have hagrees : arithmetic.AgreesUpToNaN := Arithmetic.agreesUpToNaN_negativeNaN
  have hfloat := (lanes_ofFacility hagrees .sse2 infinities infinities 0 .first).2.2 .sub
  refine ⟨hagrees, ?_, ?_⟩
  · rw [lane_float_ofFacility, Vec128.lane_ofLaneFn]
    decide
  · rw [hfloat.1, Vec128.lane_ofLaneFn]
    decide

end Lanewise.Bindings
