import Lanewise.Arithmetic
import Lanewise.Event
import Lanewise.Register.Mmx
import Lanewise.Register.Vmx
import Lanewise.Register.Xmm

namespace Lanewise

namespace Facility

-- The code of a facility for a binary slot. Where it has none, plain code serves.
def runBinary (arithmetic : Arithmetic) : Facility → BinarySlot → Vec128 → Vec128 → Vec128
  | .sse2, .float op => fun a b =>
    (Xmm.zipDwords (fun x y => (arithmetic.packed op ⟨x⟩ ⟨y⟩).toBitVec) (Xmm.load a)
      (Xmm.load b)).store
  | .sse2, .addWords => fun a b => (Xmm.zipDwords (· + ·) (Xmm.load a) (Xmm.load b)).store
  | .threeDNow, .float op => Mmx.zipLanes (arithmetic.plain op)
  | .altiVec, .float op => fun a b =>
    (Vmx.zipWords (arithmetic.plain op) (Vmx.load a) (Vmx.load b)).store
  | .altiVec, .addWords => fun a b => (Vmx.zipWords (· + ·) (Vmx.load a) (Vmx.load b)).store
  | _, .float op => Vec128.zipLanes (arithmetic.plain op)
  | _, .addWords => Vec128.zipLanes (· + ·)

def runShuffle : Facility → Vec128 → UInt8 → Vec128
  | .sse2 => fun a imm =>
    ((Xmm.load a).select
      (Xmm.ofDwords fun i => BitVec.ofNat 32 ((imm.toNat >>> (2 * i.val)) &&& 3))).store
  | .altiVec => fun a imm => (Vmx.permute (Vmx.load a) (Vmx.load a) (Vmx.wordControl imm)).store
  | _ => Vec128.permute

end Facility

-- A function for each slot, which is called when its operation is asked for, and the facility whose
-- code that function is. The facility of the bindings as a whole is the one they were made for.
structure Bindings where
  facility : Facility
  binary : Arithmetic → BinarySlot → Vec128 → Vec128 → Vec128
  shuffle : Vec128 → UInt8 → Vec128
  provider : Slot → Facility
  binary_eq (arithmetic : Arithmetic) (slot : BinarySlot) :
    binary arithmetic slot = (provider (.binary slot)).runBinary arithmetic slot
  shuffle_eq : shuffle = (provider .shuffle).runShuffle

namespace Bindings

def scalar : Bindings where
  facility := .scalar
  binary arithmetic slot := Facility.scalar.runBinary arithmetic slot
  shuffle := Facility.scalar.runShuffle
  provider _ := .scalar
  binary_eq _ _ := rfl
  shuffle_eq := rfl

-- The bindings with the code of a facility in a slot. The other slots keep their functions.
def bindBinary (facility : Facility) (slot : BinarySlot) (bindings : Bindings) : Bindings where
  facility := bindings.facility
  binary arithmetic other :=
    if other = slot then facility.runBinary arithmetic other
    else bindings.binary arithmetic other
  shuffle := bindings.shuffle
  provider other := if other = .binary slot then facility else bindings.provider other
  binary_eq arithmetic other := by
    by_cases h : other = slot <;> simp [h, bindings.binary_eq]
  shuffle_eq := by simp [bindings.shuffle_eq]

def bindShuffle (facility : Facility) (bindings : Bindings) : Bindings where
  facility := bindings.facility
  binary := bindings.binary
  shuffle := facility.runShuffle
  provider other := if other = .shuffle then facility else bindings.provider other
  binary_eq arithmetic slot := by simp [bindings.binary_eq]
  shuffle_eq := by simp

def bindFloats (facility : Facility) (bindings : Bindings) : Bindings :=
  ((bindings.bindBinary facility (.float .add)).bindBinary facility (.float .mul)).bindBinary
    facility (.float .sub)

def bindAll (facility : Facility) (bindings : Bindings) : Bindings :=
  ((bindings.bindFloats facility).bindBinary facility .addWords).bindShuffle facility

-- The bindings for a facility: those of plain code, with its own code in the slots that it has
-- some for. The 64-bit facility has float operations only. A facility without any code here, or
-- that is no vector facility, gets plain code under that name.
def ofFacility (facility : Facility) : Bindings :=
  match facility with
  | .sse2 | .altiVec => { scalar.bindAll facility with facility := facility }
  | .threeDNow => { scalar.bindFloats facility with facility := facility }
  | .unresolved | .scalar | .neon => scalar

def fallbacks (bindings : Bindings) : List Event :=
  if bindings.facility.isVector then
    (Slot.all.filter fun slot => bindings.provider slot == .scalar).map fun slot =>
      .scalarSlot bindings.facility slot
  else []

def native (bindings : Bindings) : List Slot :=
  Slot.all.filter fun slot => bindings.provider slot == bindings.facility

def quote (text : String) : String :=
  "\"" ++ text ++ "\""

def debugText (bindings : Bindings) : String :=
  "\x7b" ++
    String.intercalate ", " (Slot.all.map fun slot =>
      quote slot.name ++ ": " ++ quote (bindings.provider slot).name) ++
    "\x7d (" ++ bindings.facility.name ++ ")"

end Bindings

end Lanewise
