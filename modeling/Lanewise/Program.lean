import Lanewise.ProcessState

namespace Lanewise

inductive BindingsSource where
  | made (facility : Facility)
  | plain
  | process (state : ProcessState)

def BindingsSource.bindings : BindingsSource → Bindings
  | .made facility => Bindings.ofFacility facility
  | .plain => Bindings.scalar
  | .process state => (ProcessState.bindings.run state).1

-- One step of a program on `n` vector registers. Operands and destination may be the same
-- register.
inductive VectorStep (n : Nat) where
  | binary (slot : BinarySlot) (destination a b : Fin n) (source : BindingsSource)
  | shuffle (destination a : Fin n) (imm : UInt8) (source : BindingsSource)
  | poke (destination : Fin n) (index : Fin 16) (byte : UInt8)

abbrev Registers (n : Nat) :=
  Vector Vec128 n

namespace Bindings

-- A binary operation as a program sees it: after a float operation every lane that is not a
-- number has the same pattern, so that no facility shows through.
def observeBinary (bindings : Bindings) (arithmetic : Arithmetic) (slot : BinarySlot)
    (a b : Vec128) : Vec128 :=
  let result := bindings.binary arithmetic slot a b
  match slot with
  | .float _ => result.canonicalLanes
  | .addWords => result

end Bindings

namespace VectorStep

variable {n : Nat}

def destination : VectorStep n → Fin n
  | .binary _ destination _ _ _ | .shuffle destination _ _ _ | .poke destination _ _ => destination

def result (arithmetic : Arithmetic) (registers : Registers n) : VectorStep n → Vec128
  | .binary slot _ a b source =>
    source.bindings.observeBinary arithmetic slot (registers.get a) (registers.get b)
  | .shuffle _ a imm source => source.bindings.shuffle (registers.get a) imm
  | .poke destination index byte => (registers.get destination).poke index byte

-- The registers after a step. Only the destination changes.
def run (arithmetic : Arithmetic) (registers : Registers n) (step : VectorStep n) : Registers n :=
  registers.set step.destination (step.result arithmetic registers)

-- The content of the destination after each step of a program, and the registers at its end.
def runAll (arithmetic : Arithmetic) :
    List (VectorStep n) → Registers n → List Vec128 × Registers n
  | [], registers => ([], registers)
  | step :: steps, registers =>
    let after := step.run arithmetic registers
    let (trace, final) := runAll arithmetic steps after
    (after.get step.destination :: trace, final)

end VectorStep

end Lanewise
