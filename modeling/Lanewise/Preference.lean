import Lanewise.Facility
import Lanewise.Text.Characters

namespace Lanewise

-- Which facility a user asks for: the best one of the host, none at all, or a given one.
inductive Preference where
  | auto
  | disabled
  | force (facility : Facility)
  deriving DecidableEq, Repr, Inhabited

-- A text that names no preference, without the blanks around it.
structure UnknownPreference where
  value : String
  deriving DecidableEq, Repr

namespace UnknownPreference

def expected : String :=
  "auto, sse2, neon, 3dnow, altivec, none"

-- The text between quotes, with everything escaped that a reader would not see.
def quotedValue (unknown : UnknownPreference) : String :=
  String.ofList (Text.quoted unknown.value.toList)

def message (unknown : UnknownPreference) : String :=
  "unknown SIMD backend selection " ++ unknown.quotedValue ++ " (expected one of: " ++ expected ++
    ")"

def debugText (unknown : UnknownPreference) : String :=
  "SelectionParseError \x7b value: " ++ unknown.quotedValue ++ ", expected: \"" ++ expected ++
    "\" \x7d"

end UnknownPreference

namespace Preference

-- The preference of a word in lower case. Nothing at all asks for the best facility.
def ofKeyword? : String → Option Preference
  | "" | "auto" => some .auto
  | "none" | "scalar" | "off" => some .disabled
  | "sse2" => some (.force .sse2)
  | "neon" => some (.force .neon)
  | "3dnow" | "3dnow!" | "mmx" => some (.force .threeDNow)
  | "altivec" | "vmx" => some (.force .altiVec)
  | _ => none

-- Blanks around the word do not count, nor does the case of its ASCII letters.
def parse (text : List Char) : Except UnknownPreference Preference :=
  let word := Text.trim text
  match ofKeyword? (String.ofList (word.map Char.toLower)) with
  | some preference => .ok preference
  | none => .error ⟨String.ofList word⟩

def debugText : Preference → String
  | .auto => "Auto"
  | .disabled => "Disabled"
  | .force facility => "Force(" ++ facility.label ++ ")"

def configurationText (preference : Preference) : String :=
  "DetectorConfig \x7b selection: " ++ preference.debugText ++ " \x7d"

end Preference

end Lanewise
