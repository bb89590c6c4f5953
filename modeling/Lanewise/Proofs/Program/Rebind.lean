import Lanewise.Program
import Lanewise.Proofs.Vector.Lanes

namespace Lanewise

namespace Arithmetic

-- Plain code and whole registers give the same pattern to every result, or both give one that is
-- not a number.
def AgreesUpToNaN (arithmetic : Arithmetic) : Prop :=
  ∀ op x y, arithmetic.packed op x y = arithmetic.plain op x y ∨
    (Binary32.isNaN (arithmetic.packed op x y) = true ∧
      Binary32.isNaN (arithmetic.plain op x y) = true)

theorem AgreesUpToNaN.canonical_eq {arithmetic : Arithmetic} (h : arithmetic.AgreesUpToNaN)
    (op : FloatOp) (x y : UInt32) :
    Binary32.canonical (arithmetic.packed op x y) =
      Binary32.canonical (arithmetic.plain op x y) := by
  obtain heq | ⟨hpacked, hplain⟩ := h op x y
  · rw [heq]
  · rw [Binary32.canonical, Binary32.canonical, if_pos hpacked, if_pos hplain]

-- Arithmetic of a unit that sets the sign of what is not a number.
def negativeNaN : Arithmetic where
  plain := binary32
  packed op x y :=
    let result := binary32 op x y
    if Binary32.isNaN result then 0xFFC00000 else result

theorem agreesUpToNaN_negativeNaN : negativeNaN.AgreesUpToNaN := by
  intro op x y
  simp only [negativeNaN]
  split
  case isTrue h => exact .inr ⟨by decide, h⟩
  case isFalse h => exact .inl rfl

end Arithmetic

namespace Bindings

-- Once the lanes that are not numbers are alike, no binding of a slot shows through.
theorem observeBinary_eq_scalar {arithmetic : Arithmetic} (h : arithmetic.AgreesUpToNaN)
    (bindings : Bindings) (slot : BinarySlot) (a b : Vec128) :
    bindings.observeBinary arithmetic slot a b = scalar.observeBinary arithmetic slot a b := by
  simp only [observeBinary, binary_eq, Facility.runBinary_eq]
  generalize bindings.provider (.binary slot) = provider
  cases slot with
  | addWords => cases provider <;> rfl
  | float op =>
    simp only [Vec128.canonicalLanes, Vec128.zipLanes, Vec128.lane_ofLaneFn]
    congr 1
    funext i
    cases provider with
    | sse2 => exact h.canonical_eq op (a.lane i) (b.lane i)
    | unresolved | scalar | threeDNow | altiVec | neon => rfl

theorem shuffle_eq_permute (bindings : Bindings) (a : Vec128) (imm : UInt8) :
    bindings.shuffle a imm = Vec128.permute a imm := by
  rw [shuffle_eq, Facility.runShuffle_eq]

end Bindings

namespace VectorStep

variable {n : Nat}

-- The step with other bindings. A byte that is written goes through none.
def rebind (choose : BindingsSource → BindingsSource) : VectorStep n → VectorStep n
  | .binary slot destination a b source => .binary slot destination a b (choose source)
  | .shuffle destination a imm source => .shuffle destination a imm (choose source)
  | .poke destination index byte => .poke destination index byte

@[simp] theorem destination_rebind (choose : BindingsSource → BindingsSource)
    (step : VectorStep n) : (step.rebind choose).destination = step.destination := by
  cases step <;> rfl

theorem result_rebind {arithmetic : Arithmetic} (h : arithmetic.AgreesUpToNaN)
    (choose : BindingsSource → BindingsSource) (registers : Registers n) (step : VectorStep n) :
    (step.rebind choose).result arithmetic registers = step.result arithmetic registers := by
  cases step with
  | binary slot destination a b source =>
    simp only [rebind, result]
    rw [Bindings.observeBinary_eq_scalar h, Bindings.observeBinary_eq_scalar h source.bindings]
  | shuffle destination a imm source =>
    simp only [rebind, result, Bindings.shuffle_eq_permute]
  | poke destination index byte => rfl

-- A step leaves its result in the destination, and every other register as it was.
theorem get_run (arithmetic : Arithmetic) (registers : Registers n) (step : VectorStep n)
    (i : Fin n) :
    (step.run arithmetic registers).get i =
      if i = step.destination then step.result arithmetic registers else registers.get i := by
  simp only [run, Vector.get_eq_getElem, Vector.getElem_set, Fin.ext_iff, eq_comm]

theorem run_rebind {arithmetic : Arithmetic} (h : arithmetic.AgreesUpToNaN)
    (choose : BindingsSource → BindingsSource) (registers : Registers n) (step : VectorStep n) :
    (step.rebind choose).run arithmetic registers = step.run arithmetic registers := by
  simp only [run, result_rebind h, destination_rebind]

-- A register that is the destination of no step is at the end of a program as it was.
theorem get_runAll_of_ne (arithmetic : Arithmetic) {steps : List (VectorStep n)} {i : Fin n}
    (h : ∀ step ∈ steps, i ≠ step.destination) (registers : Registers n) :
    (runAll arithmetic steps registers).2.get i = registers.get i := by
  induction steps generalizing registers with
  | nil => rfl
  | cons step steps ih =>
    have hfirst : i ≠ step.destination := h step List.mem_cons_self
    have hrest := ih (fun other hother => h other (List.mem_cons_of_mem _ hother))
      (step.run arithmetic registers)
    rw [runAll, hrest, get_run, if_neg hfirst]

-- A program of any length runs alike on all bindings: of each step on its own the bindings may be
-- replaced, by those of a facility, of plain code or of a process, and neither the content of a
-- destination after its step nor a register at the end changes.
theorem runAll_mapIdx_rebind {arithmetic : Arithmetic} (h : arithmetic.AgreesUpToNaN)
    (choose : Nat → BindingsSource → BindingsSource) (steps : List (VectorStep n))
    (registers : Registers n) :
    runAll arithmetic (steps.mapIdx fun index step => step.rebind (choose index)) registers =
      runAll arithmetic steps registers := by
  induction steps generalizing choose registers with
  | nil => rfl
  | cons step steps ih =>
    have hrest := ih (fun index => choose (index + 1)) (step.run arithmetic registers)
    simp only [List.mapIdx_cons, runAll, run_rebind h, destination_rebind, hrest]

theorem runAll_eq_of_negativeNaN :
    let arithmetic := Arithmetic.negativeNaN
    let infinities := Vec128.ofLaneFn fun _ => Binary32.infinity
    let registers : Registers 2 := #v[infinities, infinities]
    arithmetic.packed .sub Binary32.infinity Binary32.infinity ≠
        arithmetic.plain .sub Binary32.infinity Binary32.infinity ∧
      arithmetic.AgreesUpToNaN ∧
      runAll arithmetic
          [.binary (.float .sub) 0 0 1 (.made .sse2), .poke 0 3 0xFF,
            .shuffle 1 0 0x1B (.made .altiVec), .binary .addWords 0 0 1 (.made .threeDNow)]
          registers =
        runAll arithmetic
          [.binary (.float .sub) 0 0 1 .plain, .poke 0 3 0xFF, .shuffle 1 0 0x1B .plain,
            .binary .addWords 0 0 1 .plain]
          registers := by
  intro arithmetic infinities registers
  have hagrees : arithmetic.AgreesUpToNaN := Arithmetic.agreesUpToNaN_negativeNaN
  let choose : Nat → BindingsSource → BindingsSource
    | 0, _ => .made .sse2
    | 2, _ => .made .altiVec
    | _, _ => .made .threeDNow
  refine ⟨by decide, hagrees, ?_⟩
  exact runAll_mapIdx_rebind hagrees choose
    [.binary (.float .sub) 0 0 1 .plain, .poke 0 3 0xFF, .shuffle 1 0 0x1B .plain,
      .binary .addWords 0 0 1 .plain]
    registers

end VectorStep

end Lanewise
