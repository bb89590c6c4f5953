namespace Lanewise.Text.Utf8

-- A character that has been begun and not yet ended: the bits read so far, the number of bytes
-- still due and the bounds of the next one. The bounds of a second byte keep out overlong
-- forms, surrogates and numbers above the last code point.
structure Pending where
  bits : Nat
  due : Nat
  low : UInt8
  high : UInt8

-- What a byte says where a character may begin.
inductive Lead where
  | whole (c : Char)
  | pending (p : Pending)
  | illFormed

def lead (b : UInt8) : Lead :=
  let n := b.toNat
  if n < 0x80 then .whole (Char.ofNat n)
  else if n < 0xC2 then .illFormed
  else if n < 0xE0 then .pending ⟨n - 0xC0, 0, 0x80, 0xBF⟩
  else if n = 0xE0 then .pending ⟨0, 1, 0xA0, 0xBF⟩
  else if n = 0xED then .pending ⟨0xD, 1, 0x80, 0x9F⟩
  else if n < 0xF0 then .pending ⟨n - 0xE0, 1, 0x80, 0xBF⟩
  else if n = 0xF0 then .pending ⟨0, 2, 0x90, 0xBF⟩
  else if n < 0xF4 then .pending ⟨n - 0xF0, 2, 0x80, 0xBF⟩
  else if n = 0xF4 then .pending ⟨4, 2, 0x80, 0x8F⟩
  else .illFormed

def Pending.accepts (p : Pending) (b : UInt8) : Bool :=
  p.low ≤ b && b ≤ p.high

def Pending.push (p : Pending) (b : UInt8) : Nat :=
  p.bits * 64 + (b.toNat - 0x80)

mutual

-- The characters of a byte string, with `none` for each maximal ill-formed part: a byte that
-- begins nothing, or a character broken off before its last byte. The byte that breaks a
-- character off is read again as the first byte of what follows.
def segments : List UInt8 → List (Option Char)
  | [] => []
  | b :: rest =>
    match lead b with
    | .whole c => some c :: segments rest
    | .pending p => resume p rest
    | .illFormed => none :: segments rest

-- The same after the bytes of a begun character.
def resume (p : Pending) : List UInt8 → List (Option Char)
  | [] => [none]
  | b :: rest =>
    if p.accepts b then
      match p.due with
      | 0 => some (Char.ofNat (p.push b)) :: segments rest
      | due + 1 => resume ⟨p.push b, due, 0x80, 0xBF⟩ rest
    else
      none ::
        match lead b with
        | .whole c => some c :: segments rest
        | .pending q => resume q rest
        | .illFormed => none :: segments rest

end

def decode? (bytes : List UInt8) : Option (List Char) :=
  (segments bytes).mapM id

-- The text with one replacement character for each maximal ill-formed part.
def decodeLossy (bytes : List UInt8) : List Char :=
  (segments bytes).map fun segment => segment.getD '\uFFFD'

end Lanewise.Text.Utf8
