/-!
Bytes as text in base 64. Characters of no value are skipped; a padding that completes a group of
four ends the text.
-/

namespace EnumTables.Base64

def value? (c : Char) : Option Nat :=
  if 'A' ≤ c ∧ c ≤ 'Z' then some (c.toNat - 65)
  else if 'a' ≤ c ∧ c ≤ 'z' then some (c.toNat - 71)
  else if '0' ≤ c ∧ c ≤ '9' then some (c.toNat + 4)
  else if c = '+' then some 62
  else if c = '/' then some 63
  else none

/-- A group that is read: how many characters it has, the bits that are left of them, and the
paddings since the last character. -/
structure Group where
  length : Nat
  bits : Nat
  paddings : Nat

def decodeFrom? (group : Group) : List Char → Option (List UInt8)
  | [] => if group.length = 0 then some [] else none
  | c :: rest =>
    if c = '=' then
      if 2 ≤ group.length ∧ 4 ≤ group.length + group.paddings + 1 then some []
      else if 2 ≤ group.length then decodeFrom? { group with paddings := group.paddings + 1 } rest
      else decodeFrom? group rest
    else match value? c with
      | none => decodeFrom? group rest
      | some value =>
        let bits := group.bits * 64 + value
        match group.length with
        | 0 => decodeFrom? ⟨1, bits, 0⟩ rest
        | 1 => (decodeFrom? ⟨2, bits % 16, 0⟩ rest).map (UInt8.ofNat (bits / 16) :: ·)
        | 2 => (decodeFrom? ⟨3, bits % 4, 0⟩ rest).map (UInt8.ofNat (bits / 4) :: ·)
        | _ => (decodeFrom? ⟨0, 0, 0⟩ rest).map (UInt8.ofNat bits :: ·)

def decode? (text : List Char) : Option (List UInt8) :=
  if text.all fun c => c.toNat < 128 then decodeFrom? ⟨0, 0, 0⟩ text else none

end EnumTables.Base64
