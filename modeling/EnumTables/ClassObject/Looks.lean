import EnumTables.ClassObject.Access
import EnumTables.Value.Text

/-!
The looks of members. A class, or a base of it, can say how its members are shown, what they are
called, and which coordinates they have; `dressed` works that out for all members in a value.
-/

namespace EnumTables.Scope

def lookNames : List String :=
  ["name", "x", "y", textMethod, inlineMethod, displayMethod]

def isUnadorned (scope : Scope) (cls : ClassObject) : Bool :=
  (scope.searched cls).all fun owner =>
    lookNames.all fun name => (owner.attributes.lookup name).isNone

/-- The text that a method of a described class gives for a member; `refusal` says why anything else
is none. -/
def spokenBy (scope : Scope) (member : Value) (method : String) (arguments : List Value)
    (refusal : String → String) : Spoken := do
  let found ← scope.read (.value member) method
  let result ← scope.invoke found (arguments.map .value)
  match result with
  | .value value => match value.asText? with
    | some text => return text
    | none => .error (.typeError (refusal value.typeName))
  | other => .error (.typeError (refusal (other.typeName scope)))

def isDescribed (scope : Scope) (cls : ClassObject) (method : String) : Bool :=
  match scope.styleIn cls.order method with
  | .described => true
  | .label | .data => false

def textOf (scope : Scope) (cls : ClassObject) (member : Value) : Spoken :=
  if scope.isDescribed cls textMethod then
    scope.spokenBy member textMethod [] fun found =>
      "__str__ returned non-string (type " ++ found ++ ")"
  else member.shown

def inlineOf (scope : Scope) (cls : ClassObject) (member : Value) : Spoken :=
  if scope.isDescribed cls inlineMethod then
    scope.spokenBy member inlineMethod [.text ""] fun found =>
      "__format__ must return a str, not " ++ found
  else scope.textOf cls member

def displayOf (scope : Scope) (cls : ClassObject) (member : Value) : Spoken :=
  if scope.isDescribed cls displayMethod then
    scope.spokenBy member displayMethod [] fun found =>
      "__repr__ returned non-string (type " ++ found ++ ")"
  else member.display

/-- How a member is put into text. Nothing is said of what it is called or of its coordinates. -/
def voiceOf (scope : Scope) (cls : ClassObject) (member : Value) : Looks where
  name := .ok ⟨.ok "", none⟩
  text := scope.textOf cls member
  inline := scope.inlineOf cls member
  display := scope.displayOf cls member
  x := .other
  y := .other

/-! ## Members in a value -/

/-- The class of a member, with the looks of the members that a set of bits consists of. -/
def classWithLooks (look : ClassObject → Value → Looks) (cls : MemberClass) (found : ClassObject) :
    MemberClass :=
  let members := found.enumeration.elim [] fun enumeration =>
    enumeration.listed.map fun member =>
      (member.name, look found (found.memberValue enumeration member))
  { cls with looks := if cls.isFlag then members else [] }

mutual

def withLooks (scope : Scope) (look : ClassObject → Value → Looks)
    (expose : Traits → Traits) : Value → Value
  | .member cls name held data looks =>
    let held := withLooks scope look expose held
    let data := withLooks scope look expose data
    let bare : Value := .member cls name held data looks
    match looks, scope.memberClass? cls with
    | none, some found =>
      if scope.isUnadorned found then bare
      else .member (classWithLooks look cls found) name held data (some (look found bare))
    | _, _ => bare
  | .collection kind items => .collection kind (itemsWithLooks scope look expose items)
  | .mapping readOnly entries => .mapping readOnly (entriesWithLooks scope look expose entries)
  | .position x y => .position (withLooks scope look expose x) (withLooks scope look expose y)
  | .record attributes => .record (attributesWithLooks scope look expose attributes)
  | .object traits items => .object (expose traits) (itemsWithLooks scope look expose items)
  | value => value

def itemsWithLooks (scope : Scope) (look : ClassObject → Value → Looks)
    (expose : Traits → Traits) : List Value → List Value
  | [] => []
  | item :: rest => withLooks scope look expose item :: itemsWithLooks scope look expose rest

def entriesWithLooks (scope : Scope) (look : ClassObject → Value → Looks)
    (expose : Traits → Traits) : List (Value × Value) → List (Value × Value)
  | [] => []
  | (key, value) :: rest =>
    (withLooks scope look expose key, withLooks scope look expose value) ::
      entriesWithLooks scope look expose rest

def attributesWithLooks (scope : Scope) (look : ClassObject → Value → Looks)
    (expose : Traits → Traits) : List (String × Value) → List (String × Value)
  | [] => []
  | (name, value) :: rest =>
    (name, withLooks scope look expose value) :: attributesWithLooks scope look expose rest

end

def voiced (scope : Scope) (value : Value) : Value :=
  scope.withLooks scope.voiceOf id value

def labelOf (scope : Scope) (member : Value) : Except Raised Label := do
  let name := scope.voiced ((← scope.read (.value member) "name").toValue scope)
  return ⟨name.inline, if name.asText?.isSome then none else some name.typeName⟩

def coordinateOf (scope : Scope) (owner : Entity) (name : String) : Coordinate :=
  match scope.read owner name with
  | .ok found => (scope.voiced (found.toValue scope)).asCoordinate
  | .error raised => if raised.kind = "AttributeError" then .other else .raised raised

def looksOf (scope : Scope) (cls : ClassObject) (member : Value) : Looks where
  name := scope.labelOf member
  text := scope.textOf cls member
  inline := scope.inlineOf cls member
  display := scope.displayOf cls member
  x := scope.coordinateOf (.value member) "x"
  y := scope.coordinateOf (.value member) "y"

/-- The traits of an object, with its coordinates if it is a described class. -/
def exposed (scope : Scope) (traits : Traits) : Traits :=
  match scope.classes.find? fun cls => identityOf cls.name = traits.identity with
  | some cls => { traits with
      x := scope.coordinateOf (.cls cls.name) "x"
      y := scope.coordinateOf (.cls cls.name) "y" }
  | none => traits

def dressed (scope : Scope) (value : Value) : Value :=
  scope.withLooks scope.looksOf scope.exposed value

end EnumTables.Scope
