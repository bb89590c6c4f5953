namespace Lanewise

inductive ByteOrder where
  | little
  | big
  deriving DecidableEq, Repr

def ByteOrder.label : ByteOrder → String
  | .little => "Little"
  | .big => "Big"

-- A vector facility of a processor. `unresolved` stands for "none chosen yet" and `scalar` for
-- plain code, which runs everywhere.
inductive Facility where
  | unresolved
  | scalar
  | sse2
  | threeDNow
  | altiVec
  | neon
  deriving DecidableEq, Repr, Inhabited

namespace Facility

def all : List Facility :=
  [.unresolved, .scalar, .sse2, .threeDNow, .altiVec, .neon]

-- The order in which an automatic choice tries the vector facilities: 128-bit registers first,
-- then 64-bit ones, then the big-endian ones.
def automaticOrder : List Facility :=
  [.sse2, .neon, .threeDNow, .altiVec]

def name : Facility → String
  | .unresolved => "none"
  | .scalar => "scalar"
  | .sse2 => "sse2"
  | .threeDNow => "3dnow"
  | .altiVec => "altivec"
  | .neon => "neon"

-- The name in a column of a table: blanks follow it up to the width, and a longer name is kept.
def column (width : Nat) (facility : Facility) : String :=
  String.ofList (facility.name.toList.rightpad width ' ')

-- The facility of a given name. Names differ, so there is at most one.
def ofName? (text : String) : Option Facility :=
  all.find? fun facility => facility.name == text

def label : Facility → String
  | .unresolved => "None"
  | .scalar => "Scalar"
  | .sse2 => "Sse2"
  | .threeDNow => "ThreeDNow"
  | .altiVec => "AltiVec"
  | .neon => "Neon"

def ordinal : Facility → Nat
  | .unresolved => 0
  | .scalar => 1
  | .sse2 => 2
  | .threeDNow => 3
  | .altiVec => 4
  | .neon => 5

def registerWidth : Facility → Option Nat
  | .unresolved | .scalar => none
  | .threeDNow => some 64
  | .sse2 | .altiVec | .neon => some 128

def laneOrder : Facility → ByteOrder
  | .altiVec => .big
  | _ => .little

def isVector (facility : Facility) : Bool :=
  facility.registerWidth.isSome

-- Whether code for the facility exists for the x86-64 target. The 64-bit and the big-endian
-- facility are models of registers and exist on every target.
def hasCode : Facility → Bool
  | .unresolved | .neon => false
  | .scalar | .sse2 | .threeDNow | .altiVec => true

-- The facility whose code serves a request for this one: itself, where code for it exists.
def serving (facility : Facility) : Facility :=
  if facility.hasCode then facility else .scalar

end Facility

structure Host where
  sse2 : Bool
  neon : Bool
  threeDNow : Bool
  altiVec : Bool
  deriving DecidableEq, Repr

namespace Host

def bare : Host :=
  ⟨false, false, false, false⟩

def sse2Only : Host :=
  ⟨true, false, false, false⟩

-- The host with one more facility. Plain code needs no report and leaves the host as it is.
def reporting (host : Host) : Facility → Host
  | .sse2 => { host with sse2 := true }
  | .neon => { host with neon := true }
  | .threeDNow => { host with threeDNow := true }
  | .altiVec => { host with altiVec := true }
  | .unresolved | .scalar => host

-- Whether a facility can run: there is code for it, and the host reports it if it is a vector
-- facility.
def canRun (host : Host) (facility : Facility) : Bool :=
  facility.hasCode &&
    match facility with
    | .unresolved => false
    | .scalar => true
    | .sse2 => host.sse2
    | .neon => host.neon
    | .threeDNow => host.threeDNow
    | .altiVec => host.altiVec

def best (host : Host) : Facility :=
  (Facility.automaticOrder.find? host.canRun).getD .scalar

def boolText (value : Bool) : String :=
  if value then "true" else "false"

def debugText (host : Host) : String :=
  "HostCapabilities \x7b sse2: " ++ boolText host.sse2 ++ ", neon: " ++ boolText host.neon ++
    ", three_dnow: " ++ boolText host.threeDNow ++ ", altivec: " ++ boolText host.altiVec ++ " \x7d"

end Host

end Lanewise
