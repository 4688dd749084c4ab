namespace Demarcation.Text.Utf8

def leader? (b : Nat) : Option (Nat × Nat × Nat) :=
  if 0xC2 ≤ b ∧ b ≤ 0xDF then some (1, 0x80, 0xBF)
  else if b = 0xE0 then some (2, 0xA0, 0xBF)
  else if b = 0xED then some (2, 0x80, 0x9F)
  else if 0xE1 ≤ b ∧ b ≤ 0xEF then some (2, 0x80, 0xBF)
  else if b = 0xF0 then some (3, 0x90, 0xBF)
  else if 0xF1 ≤ b ∧ b ≤ 0xF3 then some (3, 0x80, 0xBF)
  else if b = 0xF4 then some (3, 0x80, 0x8F)
  else none

def follow : Nat → Nat → Nat → Nat → List UInt8 → Option Nat × List UInt8
  | 0, _, _, value, bytes => (some value, bytes)
  | _ + 1, _, _, _, [] => (none, [])
  | count + 1, low, high, value, b :: bytes =>
    if low ≤ b.toNat ∧ b.toNat ≤ high then follow count 0x80 0xBF (value * 64 + b.toNat % 64) bytes
    else (none, b :: bytes)

def decodeAll : Nat → List UInt8 → List (Option Char)
  | 0, _ => []
  | _, [] => []
  | fuel + 1, b :: bytes =>
    if b < 0x80 then some (Char.ofNat b.toNat) :: decodeAll fuel bytes
    else
      match leader? b.toNat with
      | none => none :: decodeAll fuel bytes
      | some (count, low, high) =>
        let bits := if count = 1 then 32 else if count = 2 then 16 else 8
        let (value, bytes) := follow count low high (b.toNat % bits) bytes
        value.map Char.ofNat :: decodeAll fuel bytes

def decode? (bytes : List UInt8) : Option (List Char) := (decodeAll bytes.length bytes).mapM id

def decodeKnown (bytes : List UInt8) : List Char := (decodeAll bytes.length bytes).filterMap id

def normalizeBreaks : List Char → List Char
  | '\r' :: '\n' :: cs => '\n' :: normalizeBreaks cs
  | '\r' :: cs => '\n' :: normalizeBreaks cs
  | c :: cs => c :: normalizeBreaks cs
  | [] => []

end Demarcation.Text.Utf8
