namespace Lanewise

-- How the library was built. A checked build verifies what its callers promise, and a
-- scalar-only build never leaves the scalar facility.
inductive Build where
  | unchecked
  | checked
  | scalarOnly
  deriving DecidableEq, Repr, Inhabited

namespace Build

-- Whether a broken promise of a caller is a fault, and not a matter of the result.
def checks : Build → Bool
  | .checked => true
  | .unchecked | .scalarOnly => false

def forcesScalar : Build → Bool
  | .scalarOnly => true
  | .unchecked | .checked => false

end Build

namespace Word

-- The word made of bytes, the lowest byte first. A word has room for eight of them.
def ofBytes : List UInt8 → UInt64
  | [] => 0
  | b :: rest => b.toUInt64 ||| (ofBytes rest <<< 8)

-- The lowest bytes of a word, as many as asked for, the lowest first.
def toBytes : Nat → UInt64 → List UInt8
  | 0, _ => []
  | count + 1, word => word.toUInt8 :: toBytes count (word >>> 8)

def reverseBytes (word : UInt64) : UInt64 :=
  ofBytes (toBytes 8 word).reverse

end Word

namespace Text

def hexDigit (n : Nat) : Char :=
  if n < 10 then Char.ofNat (48 + n) else Char.ofNat (87 + n)

-- The `width` lowest hexadecimal digits of a number, highest first.
def hexDigits : Nat → Nat → List Char
  | 0, _ => []
  | width + 1, n => hexDigits width (n / 16) ++ [hexDigit (n % 16)]

def fixedHex (width n : Nat) : String :=
  String.ofList (hexDigits width n)

-- The number of hexadecimal digits of a number without leading zeros. Zero has one.
def hexWidth (n : Nat) : Nat :=
  n.log2 / 4 + 1

def shortHex (n : Nat) : String :=
  fixedHex (hexWidth n) n

def wordHex (word : UInt64) : String :=
  "0x" ++ fixedHex 16 word.toNat

def bracketed (items : List String) : String :=
  "[" ++ String.intercalate ", " items ++ "]"

end Text

-- What stops a load of code units. The units of a wide load and of a wide sample are all the
-- units that were handed over, not only the wide ones.
inductive Fault where
  | wideUnits (units : List UInt16)
  | sampleRange (k : UInt64) (length : Nat)
  | wideSample (units : List UInt16)
  | outOfBounds (length : Nat) (index : Nat)
  | tooManyUnits
  | notNarrow
  deriving DecidableEq, Repr

namespace Fault

def listing (units : List UInt16) : String :=
  Text.bracketed (units.map fun unit => Text.fixedHex 4 unit.toNat)

def message : Fault → String
  | .wideUnits units => "narrowing reader given a unit above 0xff: " ++ listing units
  | .sampleRange k length =>
    "read_small needs 1 <= k < 8 and k <= units.len(), got k = " ++ toString k.toNat ++
      ", len = " ++ toString length
  | .wideSample units => "read_small sampled a unit above 0xff: " ++ listing units
  | .outOfBounds length index =>
    "index out of bounds: the len is " ++ toString length ++ " but the index is " ++ toString index
  | .tooManyUnits => "at most eight units fit in a u64"
  | .notNarrow => "narrow unit: TryFromIntError(PosOverflow)"

end Fault

end Lanewise
