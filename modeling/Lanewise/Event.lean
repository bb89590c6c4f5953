import Lanewise.Facility
import Lanewise.Preference
import Lanewise.Slot
import Lanewise.Text.Utf8

namespace Lanewise

inductive Level where
  | debug
  | warn
  deriving DecidableEq, Repr

def Level.name : Level → String
  | .debug => "DEBUG"
  | .warn => "WARN"

inductive IgnoredValue where
  | notUtf8 (bytes : List UInt8)
  | unknown (preference : UnknownPreference)
  deriving DecidableEq, Repr

namespace IgnoredValue

-- The value as far as it can be shown. An unknown word is shown without the blanks around it.
def shown : IgnoredValue → String
  | .notUtf8 bytes => String.ofList (Text.Utf8.decodeLossy bytes)
  | .unknown preference => preference.value

def reason : IgnoredValue → String
  | .notUtf8 _ => "value is not valid UTF-8"
  | .unknown preference => preference.message

end IgnoredValue

-- What the library reports while it chooses a facility and binds its slots.
inductive Event where
  | probed (host : Host)
  | resolved (preference : Preference) (facility : Facility)
  | unavailable (requested : Facility)
  | ignored (cause : IgnoredValue)
  | scalarSlot (facility : Facility) (slot : Slot)
  deriving DecidableEq, Repr

namespace Event

def detectionTarget : String :=
  "simd_dispatch::detect"

def bindingTarget : String :=
  "simd_dispatch::table"

def target : Event → String
  | .probed _ | .resolved _ _ | .unavailable _ | .ignored _ => detectionTarget
  | .scalarSlot _ _ => bindingTarget

-- A wish of the user that is not met is a warning, all else is for diagnosis.
def level : Event → Level
  | .unavailable _ | .ignored _ => .warn
  | .probed _ | .resolved _ _ | .scalarSlot _ _ => .debug

def message : Event → String
  | .probed _ => "probed host SIMD facilities"
  | .resolved _ _ => "resolved SIMD instruction set"
  | .unavailable _ => "requested SIMD backend is not available on this host, using scalar"
  | .ignored _ => "ignoring SIMD backend selection"
  | .scalarSlot _ _ => "no native implementation, slot bound to scalar"

def fields : Event → List (String × String)
  | .probed host =>
    [("sse2", Host.boolText host.sse2), ("neon", Host.boolText host.neon),
      ("three_dnow", Host.boolText host.threeDNow), ("altivec", Host.boolText host.altiVec)]
  | .resolved preference facility =>
    [("selection", preference.debugText), ("instruction_set", facility.name)]
  | .unavailable requested => [("requested", requested.name)]
  | .ignored cause => [("value", cause.shown), ("reason", cause.reason)]
  | .scalarSlot facility slot => [("instruction_set", facility.name), ("operation", slot.name)]

end Event

end Lanewise
