import EnumTables.Text.Quoted
import EnumTables.Value

/-!
Timestamps: a date, or a date with a time of day and possibly an offset from universal time.
-/

namespace EnumTables.Yaml

open Decimal

structure Timestamp where
  year : Nat
  month : Nat
  day : Nat
  time : Option (Nat × Nat × Nat × Nat)
  offset : Option Int
  deriving DecidableEq, Repr

namespace Timestamp

def digits? (least most : Nat) (text : List Char) : Option (Nat × List Char) :=
  let digits := (text.take most).takeWhile Char.isDigit
  if digits.length < least then none
  else some (digits.foldl (fun n c => 10 * n + (c.toNat - 48)) 0, text.drop digits.length)

def char? (c : Char) : List Char → Option (List Char)
  | [] => none
  | d :: rest => if c = d then some rest else none

def isGap (c : Char) : Bool :=
  c == ' ' || c == '\t'

def microseconds (digits : List Char) : Nat :=
  let kept := digits.take 6
  kept.foldl (fun n c => 10 * n + (c.toNat - 48)) 0 * 10 ^ (6 - kept.length)

def offset? (text : List Char) : Option (Option Int) :=
  match text, text.dropWhile isGap with
  | [], _ => some none
  | _, ['Z'] => some (some 0)
  | _, sign :: rest =>
    if sign = '+' ∨ sign = '-' then do
      let (hours, behind) ← digits? 1 2 rest
      let minutes ← match behind with
        | [] => some 0
        | _ => do
          let (minutes, behind) ← digits? 2 2 (← char? ':' behind)
          if behind.isEmpty then some minutes else none
      let total : Int := hours * 60 + minutes
      return some (if sign = '-' then -total else total)
    else none
  | _, [] => none

def withoutLineFeed (text : List Char) : List Char :=
  match text.reverse with
  | '\n' :: rest => rest.reverse
  | _ => text

def ofText? (text : List Char) : Option Timestamp := do
  let text := withoutLineFeed text
  let (year, text) ← digits? 4 4 text
  let (month, text) ← digits? 1 2 (← char? '-' text)
  let (day, text) ← digits? 1 2 (← char? '-' text)
  match text with
  | [] => return ⟨year, month, day, none, none⟩
  | c :: rest =>
    let text ←
      if c = 'T' ∨ c = 't' then some rest
      else if isGap c then some (rest.dropWhile isGap) else none
    let (hour, text) ← digits? 1 2 text
    let (minute, text) ← digits? 2 2 (← char? ':' text)
    let (second, text) ← digits? 2 2 (← char? ':' text)
    let (fraction, text) := match text with
      | '.' :: rest => (rest.takeWhile Char.isDigit, rest.dropWhile Char.isDigit)
      | text => ([], text)
    let offset ← offset? text
    return ⟨year, month, day, some (hour, minute, second, microseconds fraction), offset⟩

/-- A plain scalar is a timestamp if it reads as one; a date alone has all its ten characters. -/
def isImplicit (text : List Char) : Bool :=
  match ofText? text with
  | none => false
  | some timestamp => timestamp.time.isSome || text.length == 10

def daysIn (year month : Nat) : Nat :=
  if month = 2 then
    if year % 4 = 0 ∧ (year % 100 ≠ 0 ∨ year % 400 = 0) then 29 else 28
  else if month = 4 ∨ month = 6 ∨ month = 9 ∨ month = 11 then 30
  else 31

def dateFault? (timestamp : Timestamp) : Option String :=
  if timestamp.year = 0 then some "year 0 is out of range"
  else if timestamp.month = 0 ∨ 12 < timestamp.month then some "month must be in 1..12"
  else if timestamp.day = 0 ∨ daysIn timestamp.year timestamp.month < timestamp.day then
    some "day is out of range for month"
  else none

def timeFault? : Option (Nat × Nat × Nat × Nat) → Option String
  | none => none
  | some (hour, minute, second, _) =>
    if 23 < hour then some "hour must be in 0..23"
    else if 59 < minute then some "minute must be in 0..59"
    else if 59 < second then some "second must be in 0..59"
    else none

def displayOffset (minutes : Int) : String :=
  let days := Int.fdiv minutes 1440
  let seconds := Int.fmod minutes 1440 * 60
  let parts := (if days = 0 then [] else ["days=" ++ numeral days]) ++
    (if seconds = 0 then [] else ["seconds=" ++ numeral seconds])
  "datetime.timedelta(" ++ (if parts.isEmpty then "0" else String.intercalate ", " parts) ++ ")"

def offsetFault? : Option Int → Option String
  | none => none
  | some minutes =>
    if minutes ≤ -1440 ∨ 1440 ≤ minutes then
      some ("offset must be a timedelta strictly between -timedelta(hours=24) and " ++
        "timedelta(hours=24), not " ++ displayOffset minutes ++ ".")
    else none

def fault? (timestamp : Timestamp) : Option String :=
  (offsetFault? timestamp.offset).or (timestamp.dateFault?.or (timeFault? timestamp.time))

def displayZone (minutes : Int) : String :=
  if minutes = 0 then "datetime.timezone.utc"
  else "datetime.timezone(" ++ displayOffset minutes ++ ")"

def dayNumber (year month day : Nat) : Nat :=
  let past := year - 1
  let months := (List.range (month - 1)).foldl
    (fun days earlier => days + daysIn year (earlier + 1)) 0
  past * 365 + past / 4 - past / 100 + past / 400 + months + day

def moment (timestamp : Timestamp) (offset : Int) : Int :=
  let (hour, minute, second, micro) := timestamp.time.getD (0, 0, 0, 0)
  let minutes : Int :=
    (dayNumber timestamp.year timestamp.month timestamp.day * 24 + hour) * 60 + minute - offset
  (minutes * 60 + second) * 1000000 + micro

/-- A timestamp as a value. Two times of day with offsets are equal if they are one moment. -/
def toValue (timestamp : Timestamp) : Value :=
  let date := [timestamp.year, timestamp.month, timestamp.day]
  match timestamp.time with
  | none =>
    .plainObject "date"
      ("datetime.date(" ++ String.intercalate ", " (date.map fun n => numeral (n : Nat)) ++ ")")
  | some (hour, minute, second, micro) =>
    let time := [hour, minute] ++
      (if micro ≠ 0 then [second, micro] else if second ≠ 0 then [second] else [])
    let zone := match timestamp.offset with
      | none => []
      | some minutes => ["tzinfo=" ++ displayZone minutes]
    let display := "datetime.datetime(" ++
      String.intercalate ", " ((date ++ time).map (fun n => numeral (n : Nat)) ++ zone) ++ ")"
    let identity := match timestamp.offset with
      | none => display
      | some offset => numeral (timestamp.moment offset)
    .object ⟨"datetime", .ok display, identity, .other, .other, false⟩ []

end Timestamp

end EnumTables.Yaml
