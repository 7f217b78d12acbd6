/-!
# UTF-8

Texts as bytes. A reader moves through the bytes of one character with the number of continuation
bytes still owed and the range that the next one may lie in; a byte outside that range ends the
character there, and the byte is looked at again as the start of the next.
-/

namespace Emend.Text

/-- The bytes of one character. -/
def encodeChar (c : Char) : List UInt8 :=
  let n := c.toNat
  let tail (unit : Nat) : UInt8 := UInt8.ofNat (0x80 + n / unit % 64)
  if n < 0x80 then [UInt8.ofNat n]
  else if n < 0x800 then [UInt8.ofNat (0xC0 + n / 64), tail 1]
  else if n < 0x10000 then [UInt8.ofNat (0xE0 + n / 4096), tail 64, tail 1]
  else [UInt8.ofNat (0xF0 + n / 262144), tail 4096, tail 64, tail 1]

/-- How many bytes a character takes. -/
def byteWidth (c : Char) : Nat :=
  let n := c.toNat
  if n < 0x80 then 1 else if n < 0x800 then 2 else if n < 0x10000 then 3 else 4

/-- The bytes of a text. -/
def encode (s : List Char) : List UInt8 := s.flatMap encodeChar

/-- What the first byte of a character promises: how many more bytes, the range of the next one, and
the part of the code point that it carries. -/
structure Lead where
  owed : Nat
  low : Nat
  high : Nat
  bits : Nat

/-- The promise of a first byte; none for a byte that starts no character. -/
def lead? (b : UInt8) : Option Lead :=
  let n := b.toNat
  if n < 0x80 then some ⟨0, 0, 0, n⟩
  else if n < 0xC2 then none
  else if n < 0xE0 then some ⟨1, 0x80, 0xBF, n - 0xC0⟩
  else if n == 0xE0 then some ⟨2, 0xA0, 0xBF, 0⟩
  else if n == 0xED then some ⟨2, 0x80, 0x9F, n - 0xE0⟩
  else if n < 0xF0 then some ⟨2, 0x80, 0xBF, n - 0xE0⟩
  else if n == 0xF0 then some ⟨3, 0x90, 0xBF, 0⟩
  else if n < 0xF4 then some ⟨3, 0x80, 0xBF, n - 0xF0⟩
  else if n == 0xF4 then some ⟨3, 0x80, 0x8F, n - 0xF0⟩
  else none

/-- The characters of the bytes, each with a mark that says whether the bytes were well formed; an
ill-formed stretch stands as one replacement character. `owed`, `low`, `high` and `bits` describe the
character that is being read, if `owed` is not zero. -/
def decodeFrom (owed low high bits : Nat) : List UInt8 → List (Char × Bool)
  | [] => if owed = 0 then [] else [('\uFFFD', false)]
  | b :: rest =>
    if owed ≠ 0 && low ≤ b.toNat && b.toNat ≤ high then
      let bits := bits * 64 + (b.toNat - 0x80)
      if owed = 1 then (Char.ofNat bits, true) :: decodeFrom 0 0 0 0 rest
      else decodeFrom (owed - 1) 0x80 0xBF bits rest
    else
      let here := match lead? b with
        | none => ('\uFFFD', false) :: decodeFrom 0 0 0 0 rest
        | some l =>
          if l.owed = 0 then (Char.ofNat l.bits, true) :: decodeFrom 0 0 0 0 rest
          else decodeFrom l.owed l.low l.high l.bits rest
      if owed = 0 then here else ('\uFFFD', false) :: here

/-- The text of the bytes, with a replacement character for every ill-formed stretch. -/
def decodeLossy (bytes : List UInt8) : List Char := (decodeFrom 0 0 0 0 bytes).map (·.1)

/-- The text of the bytes, if they are well formed. -/
def decode? (bytes : List UInt8) : Option (List Char) :=
  let marked := decodeFrom 0 0 0 0 bytes
  if marked.all (·.2) then some (marked.map (·.1)) else none

end Emend.Text
