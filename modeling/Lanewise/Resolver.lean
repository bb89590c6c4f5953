import Lanewise.Event

namespace Lanewise

namespace Preference

def variableName : String :=
  "SIMDCAP_BACKEND"

-- The preference in the value of the variable, or why it holds none.
def ofBytes (bytes : List UInt8) : Except IgnoredValue Preference :=
  match Text.Utf8.decode? bytes with
  | none => .error (.notUtf8 bytes)
  | some text =>
    match parse text with
    | .ok preference => .ok preference
    | .error unknown => .error (.unknown unknown)

-- The preference of a build in an environment, where the variable may be unset. A value that
-- cannot be used is reported and counts as unset. A scalar-only build does not read the variable.
def ofEnvironment (build : Build) (value : Option (List UInt8)) : Preference × List Event :=
  if build.forcesScalar then (.disabled, [])
  else
    match value with
    | none => (.auto, [])
    | some bytes =>
      match ofBytes bytes with
      | .ok preference => (preference, [])
      | .error cause => (.auto, [.ignored cause])

end Preference

structure Resolver where
  preference : Preference
  host : Host
  deriving DecidableEq, Repr

namespace Resolver

-- The facility to use. A forced facility that the host cannot run gives way to plain code.
def choice (resolver : Resolver) : Facility :=
  match resolver.preference with
  | .auto => resolver.host.best
  | .disabled => .scalar
  | .force facility => if resolver.host.canRun facility then facility else .scalar

def warnings (resolver : Resolver) : List Event :=
  match resolver.preference with
  | .auto | .disabled => []
  | .force facility => if resolver.host.canRun facility then [] else [.unavailable facility]

def events (resolver : Resolver) : List Event :=
  resolver.warnings ++ [.resolved resolver.preference resolver.choice]

def debugText (resolver : Resolver) : String :=
  "Detector \x7b config: " ++ resolver.preference.configurationText ++ ", host: " ++
    resolver.host.debugText ++ " \x7d"

end Resolver

end Lanewise
