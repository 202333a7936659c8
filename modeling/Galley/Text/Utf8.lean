/-!
# Bytes as text

Strict reading refuses bytes that are not UTF-8. Lenient reading puts a replacement character for
every longest piece that cannot go on to a character.
-/

namespace Galley.Text

/-- The text that `bytes` spell in UTF-8, when they do. -/
def decode? (bytes : ByteArray) : Option String :=
  String.fromUTF8? bytes

/-- A character begun: how many bytes are still to come, the range that the next one has to lie
    in, and the bits so far. -/
structure Begun where
  missing : Nat
  low : UInt8
  high : UInt8
  bits : Nat

/-- What a byte can begin, when it is no character by itself. -/
def Begun.ofLead (b : UInt8) : Option Begun :=
  let n := b.toNat
  if 0xC2 ≤ n && n ≤ 0xDF then some ⟨1, 0x80, 0xBF, n % 0x20⟩
  else if n = 0xE0 then some ⟨2, 0xA0, 0xBF, 0⟩
  else if n = 0xED then some ⟨2, 0x80, 0x9F, n % 0x10⟩
  else if 0xE1 ≤ n && n ≤ 0xEF then some ⟨2, 0x80, 0xBF, n % 0x10⟩
  else if n = 0xF0 then some ⟨3, 0x90, 0xBF, 0⟩
  else if 0xF1 ≤ n && n ≤ 0xF3 then some ⟨3, 0x80, 0xBF, n % 8⟩
  else if n = 0xF4 then some ⟨3, 0x80, 0x8F, n % 8⟩
  else none

/-- The mark for bytes that are no character. -/
def replacementChar : Char := '\uFFFD'

/-- Reads a byte with no character begun. -/
def firstByte (b : UInt8) : List Char × Option Begun :=
  if b < 0x80 then ([Char.ofNat b.toNat], none)
  else match Begun.ofLead b with
    | some p => ([], some p)
    | none => ([replacementChar], none)

/-- Lenient reading, where `begun` is the character under way. -/
def decodeFrom (begun : Option Begun) : List UInt8 → List Char
  | [] => if begun.isSome then [replacementChar] else []
  | b :: bs =>
    match begun with
    | none => (firstByte b).1 ++ decodeFrom (firstByte b).2 bs
    | some p =>
      if p.low ≤ b && b ≤ p.high then
        let bits := p.bits * 0x40 + b.toNat % 0x40
        if p.missing ≤ 1 then Char.ofNat bits :: decodeFrom none bs
        else decodeFrom (some ⟨p.missing - 1, 0x80, 0xBF, bits⟩) bs
      else replacementChar :: (firstByte b).1 ++ decodeFrom (firstByte b).2 bs

/-- Lenient reading of bytes as UTF-8. -/
def decodeLenient (bytes : ByteArray) : String :=
  String.ofList (decodeFrom none bytes.toList)

end Galley.Text
