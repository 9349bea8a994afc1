/-!
Bytes read as UTF-8. `decode?` refuses ill-formed bytes; `decodeLossy` puts U+FFFD in place of
each longest ill-formed beginning of a character.
-/
namespace FormCheck.Text

def decode? (bytes : ByteArray) : Option String :=
  String.fromUTF8? bytes

def leadByte (b : UInt8) : Option (Nat × UInt8 × UInt8) :=
  if 0xC2 ≤ b ∧ b ≤ 0xDF then some (1, 0x80, 0xBF)
  else if b = 0xE0 then some (2, 0xA0, 0xBF)
  else if b = 0xED then some (2, 0x80, 0x9F)
  else if 0xE1 ≤ b ∧ b ≤ 0xEF then some (2, 0x80, 0xBF)
  else if b = 0xF0 then some (3, 0x90, 0xBF)
  else if 0xF1 ≤ b ∧ b ≤ 0xF3 then some (3, 0x80, 0xBF)
  else if b = 0xF4 then some (3, 0x80, 0x8F)
  else none

/-- A character read part way: its bits so far, how many bytes are missing, the next one's range. -/
structure Pending where
  bits : Nat
  missing : Nat
  low : UInt8
  high : UInt8

def decodeFrom : Option Pending → List UInt8 → List Char
  | none, [] => []
  | some _, [] => ['\uFFFD']
  | pending, b :: bytes =>
    let fresh : List Char × Option Pending :=
      if b < 0x80 then ([Char.ofNat b.toNat], none)
      else match leadByte b with
        | some (1, low, high) => ([], some ⟨b.toNat % 0x20, 1, low, high⟩)
        | some (2, low, high) => ([], some ⟨b.toNat % 0x10, 2, low, high⟩)
        | some (n, low, high) => ([], some ⟨b.toNat % 0x08, n, low, high⟩)
        | none => (['\uFFFD'], none)
    match pending with
    | none => fresh.1 ++ decodeFrom fresh.2 bytes
    | some p =>
      if p.low ≤ b ∧ b ≤ p.high then
        let bits := p.bits * 0x40 + b.toNat % 0x40
        if p.missing ≤ 1 then Char.ofNat bits :: decodeFrom none bytes
        else decodeFrom (some ⟨bits, p.missing - 1, 0x80, 0xBF⟩) bytes
      else '\uFFFD' :: fresh.1 ++ decodeFrom fresh.2 bytes

/-- The text that the bytes encode, with U+FFFD for what is ill formed. -/
def decodeLossy (bytes : List UInt8) : List Char :=
  decodeFrom none bytes

end FormCheck.Text
