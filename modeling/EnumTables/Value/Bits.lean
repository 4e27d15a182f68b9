import EnumTables.Spoken
import EnumTables.Value

/-!
Integers as sets of bits. A negative integer has all but finitely many bits; two integers are
combined bit by bit within a width that holds both of them and one more bit for the sign.

A set of bits of a class of flags is the member that has exactly these bits, if there is one. Any
other set is named by the members with one bit that it consists of.
-/

namespace EnumTables

namespace Bits

def length (n : Int) : Nat :=
  if n = 0 then 0 else n.natAbs.log2 + 1

def lowest (width : Nat) (n : Int) : Nat :=
  (n % (2 : Int) ^ width).toNat

/-- The integer with the given lowest bits, the last of which is the sign. -/
def signed (width : Nat) (bits : Nat) : Int :=
  if bits < 2 ^ (width - 1) then bits else (bits : Int) - 2 ^ width

def combine (op : Nat → Nat → Nat) (m n : Int) : Int :=
  let width := max (length m) (length n) + 1
  signed width (op (lowest width m) (lowest width n))

def ones (n : Nat) : List Nat :=
  ((List.range (length n)).filter n.testBit).map (2 ^ ·)

def isSingle (n : Int) : Bool :=
  0 < n && n.toNat &&& (n.toNat - 1) == 0

def union (m n : Int) : Int := combine (· ||| ·) m n

def common (m n : Int) : Int := combine (· &&& ·) m n

def difference (m n : Int) : Int := combine (· ^^^ ·) m n

def without (m n : Int) : Int := difference m (common m n)

example : union 5 (-8) = -3 ∧ common 6 (-2) = 6 ∧ difference (-1) 3 = -4 := by decide

end Bits

/-- The members with one bit, each bit once. -/
def Bits.singles (members : List (String × Int)) : List (String × Nat) :=
  members.foldl (fun kept member =>
    if isSingle member.2 && !(kept.any fun other => (other.2 : Int) == member.2) then
      kept ++ [(member.1, member.2.toNat)]
    else kept) []

namespace MemberClass

def singles (cls : MemberClass) : List (String × Nat) :=
  Bits.singles cls.bits

def mask (cls : MemberClass) : Int :=
  cls.singles.foldl (fun mask flag => Bits.union mask flag.2) 0

/-- The least number of one bits that covers every member. -/
def cover (cls : MemberClass) : Int :=
  2 ^ Bits.length (cls.bits.foldl (fun all member => Bits.union all member.2) 0) - 1

/-- A member with the given bits, of a class of integers or of one of nothing else. -/
def bitMember (cls : MemberClass) (isInteger : Bool) (name : String) (bits : Int) : Value :=
  .member cls (some name) (.int bits) (if isInteger then .int bits else .null)
    (cls.looks.lookup name)

def exactly? (cls : MemberClass) (isInteger : Bool) (bits : Int) : Option Value :=
  (cls.bits.find? fun member => member.2 = bits).map fun member =>
    cls.bitMember isInteger member.1 bits

/-- The bits that a class makes of an integer. A class whose members are shown as integers keeps
unknown bits, others drop them. A negative integer stands for the bits that it leaves out. -/
def admitted (cls : MemberClass) (bits : Int) : Int :=
  let outside := bits < -(cls.cover + 1) || cls.cover < bits ||
    Bits.common bits (Bits.difference cls.cover cls.mask) != 0
  let bits :=
    if !outside then bits
    else if !cls.showsData then Bits.common bits cls.mask
    else if bits < 0 then max (cls.cover + 1) (2 ^ Bits.length bits) + bits
    else bits
  if bits < 0 then cls.cover + 1 + bits else bits

def compositeName (cls : MemberClass) (bits : Int) : Except Raised (Option String) := do
  let unknown := Bits.without bits cls.mask
  let parts := (cls.singles.filter fun flag => Bits.common bits flag.2 = flag.2).map Prod.fst
  if parts.isEmpty then return none
  else if unknown = 0 then return some (String.intercalate "|" parts)
  else return some (String.intercalate "|" (parts ++ [← Spoken.ofInteger unknown]))

def ofBits (cls : MemberClass) (isInteger : Bool) (bits : Int) : Except Raised Value :=
  match cls.exactly? isInteger bits with
  | some found => .ok found
  | none =>
    let bits := cls.admitted bits
    match cls.exactly? isInteger bits with
    | some found => .ok found
    | none => do
      let name ← cls.compositeName bits
      return .member cls name (.int bits) (if isInteger then .int bits else .null) none

/-! ## Iteration -/

/-- What a single bit of a set stands for: a member, the set itself if it has no other bit, or
nothing. -/
def single (cls : MemberClass) (isInteger : Bool) (whole : Value) (bits : Int) (bit : Nat) :
    Value :=
  if bits = bit then whole
  else match cls.singles.find? fun flag => flag.2 = bit with
    | some flag => cls.bitMember isInteger flag.1 flag.2
    | none => .null

def iterate (cls : MemberClass) (isInteger : Bool) (whole : Value) (bits : Int) :
    Except Raised (List Value) :=
  let visited := Bits.common bits cls.visited
  let ones := Bits.ones visited.toNat
  let places := cls.singles.map Prod.snd
  if visited < 0 then do
    .error (.valueError ((← Spoken.ofInteger visited) ++ " is not a positive integer"))
  else if places.Pairwise (· < ·) then .ok (ones.map (cls.single isInteger whole bits))
  else match ones.find? fun bit => !places.contains bit with
    | some bit => .error (.attributeError ("'" ++
        (if bits = bit then cls.name else "NoneType") ++
          "' object has no attribute '_sort_order_'"))
    | none => .ok ((places.filter ones.contains).map (cls.single isInteger whole bits))

end MemberClass

end EnumTables
