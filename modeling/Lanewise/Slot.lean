namespace Lanewise

inductive FloatOp where
  | add
  | mul
  | sub
  deriving DecidableEq, Repr

-- An operation on two vectors: a float operation lane by lane, or the sum of 32-bit lanes that
-- wraps around.
inductive BinarySlot where
  | float (op : FloatOp)
  | addWords
  deriving DecidableEq, Repr

-- A vector operation that a facility may have an instruction for. The shuffle takes one vector
-- and a selector byte.
inductive Slot where
  | binary (slot : BinarySlot)
  | shuffle
  deriving DecidableEq, Repr

namespace Slot

def all : List Slot :=
  [.binary (.float .add), .binary (.float .mul), .binary (.float .sub), .binary .addWords, .shuffle]

def name : Slot → String
  | .binary (.float .add) => "add_ps"
  | .binary (.float .mul) => "mul_ps"
  | .binary (.float .sub) => "sub_ps"
  | .binary .addWords => "add_epi32"
  | .shuffle => "shuffle_epi32"

def ofName? (text : String) : Option Slot :=
  all.find? fun slot => slot.name == text

def label : Slot → String
  | .binary (.float .add) => "AddPs"
  | .binary (.float .mul) => "MulPs"
  | .binary (.float .sub) => "SubPs"
  | .binary .addWords => "AddEpi32"
  | .shuffle => "ShuffleEpi32"

end Slot

end Lanewise
