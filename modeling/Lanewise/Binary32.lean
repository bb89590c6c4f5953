namespace Lanewise

-- Arithmetic on the bit patterns of binary floating-point numbers of 32 bits: results are exact
-- and then rounded once to the nearest number, ties to the even one, and small results keep
-- their precision as far as the format allows.
namespace Binary32

def nan : UInt32 :=
  0x7FC00000

def infinity : UInt32 :=
  0x7F800000

def signBit : UInt32 :=
  0x80000000

-- What a pattern stands for. A finite number is the mantissa times two to the exponent, with
-- the sign apart, since zero has one too.
inductive Value where
  | notANumber
  | infinite (negative : Bool)
  | finite (negative : Bool) (mantissa : Nat) (exponent : Int)
  deriving DecidableEq, Repr

def isNegative (bits : UInt32) : Bool :=
  bits &&& signBit != 0

def value (bits : UInt32) : Value :=
  let fraction := (bits &&& 0x7FFFFF).toNat
  let biased := ((bits >>> 23) &&& 0xFF).toNat
  if biased = 255 then
    if fraction = 0 then .infinite (isNegative bits) else .notANumber
  else if biased = 0 then .finite (isNegative bits) fraction (-149)
  else .finite (isNegative bits) (0x800000 + fraction) ((biased : Int) - 150)

-- Every pattern above infinity, apart from the sign, is not a number.
def isNaN (bits : UInt32) : Bool :=
  (bits &&& 0x7FFFFFFF) > infinity

def canonical (bits : UInt32) : UInt32 :=
  if isNaN bits then nan else bits

def withSign (negative : Bool) (magnitude : UInt32) : UInt32 :=
  if negative then signBit ||| magnitude else magnitude

-- A quotient by a power of two, rounded to the nearest integer, ties to the even one.
def roundShift (n shift : Nat) : Nat :=
  let quotient := n >>> shift
  let rest := n - (quotient <<< shift)
  let double := 2 * rest
  if double < 1 <<< shift then quotient
  else if 1 <<< shift < double then quotient + 1
  else if quotient % 2 = 0 then quotient
  else quotient + 1

-- The pattern of the number nearest to the mantissa times two to the exponent. The mantissa is
-- brought to at most 24 bits above the least exponent. Writing it over an exponent field that
-- is one too small makes the leading bit, and a carry out of the rounding, count themselves
-- into that field.
def round (negative : Bool) (mantissa : Nat) (exponent : Int) : UInt32 :=
  if mantissa = 0 then withSign negative 0
  else
    let least : Int := max (exponent + (mantissa.log2 : Int) - 23) (-149)
    let scaled :=
      if exponent ≤ least then roundShift mantissa (least - exponent).toNat
      else mantissa <<< (exponent - least).toNat
    let magnitude := (least + 149).toNat * 0x800000 + scaled
    withSign negative (if 0x7F800000 ≤ magnitude then infinity else magnitude.toUInt32)

def signed (negative : Bool) (mantissa : Nat) : Int :=
  if negative then -(mantissa : Int) else mantissa

-- Infinity absorbs what is finite, and two infinities of different signs have no sum.
def addValues : Value → Value → UInt32
  | .notANumber, _ | _, .notANumber => nan
  | .infinite m, .infinite n => if m = n then withSign m infinity else nan
  | .infinite m, .finite .. => withSign m infinity
  | .finite .., .infinite n => withSign n infinity
  | .finite m x i, .finite n y j =>
    let exponent := min i j
    let sum := signed m (x <<< (i - exponent).toNat) + signed n (y <<< (j - exponent).toNat)
    -- an exact zero is negative only if both operands are
    if sum = 0 then withSign (m && n) 0
    else round (decide (sum < 0)) sum.natAbs exponent

-- The sign of a product comes from the signs of its factors alone. Zero times infinity has no
-- value.
def mulValues : Value → Value → UInt32
  | .notANumber, _ | _, .notANumber => nan
  | .infinite m, .infinite n => withSign (m != n) infinity
  | .infinite m, .finite n y _ | .finite n y _, .infinite m =>
    if y = 0 then nan else withSign (m != n) infinity
  | .finite m x i, .finite n y j => round (m != n) (x * y) (i + j)

def Value.negate : Value → Value
  | .notANumber => .notANumber
  | .infinite negative => .infinite !negative
  | .finite negative mantissa exponent => .finite (!negative) mantissa exponent

def add (a b : UInt32) : UInt32 :=
  addValues (value a) (value b)

def mul (a b : UInt32) : UInt32 :=
  mulValues (value a) (value b)

def sub (a b : UInt32) : UInt32 :=
  addValues (value a) (value b).negate

end Binary32

end Lanewise
