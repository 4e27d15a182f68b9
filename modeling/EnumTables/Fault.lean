/-!
Faults of structured data. Reading data gives either a result or all faults at once: each fault
has a location, the steps that lead to it from outside to inside, and a kind. Reading a part and
placing its faults below the step to that part (`within`), and joining independent parts (`both`),
are the only ways in which faults move and combine.
-/

namespace EnumTables

inductive Step where
  | key (name : String)
  | place (index : Int)
  deriving DecidableEq, Repr

inductive FaultKind where
  | missing
  | notText
  | undecodable
  | notTagged
  | notObject
  | tagMissing
  | tagUnknown
  | notChoice
  | notSequence
  | notList
  | notMapping
  | notInteger
  | fractional
  | notFinite
  | notNumeral
  | tooLarge
  | tooDeep
  | unexpected
  | keyNotText
  deriving DecidableEq, Repr

def FaultKind.code : FaultKind → String
  | .missing => "missing"
  | .notText => "string_type"
  | .undecodable => "string_unicode"
  | .notTagged => "model_attributes_type"
  | .notObject => "model_type"
  | .tagMissing => "union_tag_not_found"
  | .tagUnknown => "union_tag_invalid"
  | .notChoice => "enum"
  | .notSequence => "tuple_type"
  | .notList => "list_type"
  | .notMapping => "dict_type"
  | .notInteger => "int_type"
  | .fractional => "int_from_float"
  | .notFinite => "finite_number"
  | .notNumeral => "int_parsing"
  | .tooLarge => "int_parsing_size"
  | .tooDeep => "recursion_loop"
  | .unexpected => "extra_forbidden"
  | .keyNotText => "invalid_key"

structure Fault where
  location : List Step
  kind : FaultKind
  deriving DecidableEq, Repr

namespace Fault

def here (kind : FaultKind) : Fault :=
  ⟨[], kind⟩

def within (step : Step) (fault : Fault) : Fault :=
  { fault with location := step :: fault.location }

end Fault

abbrev Checked (α : Type) := Except (List Fault) α

namespace Checked

variable {α β γ : Type}

def fault (kind : FaultKind) : Checked α :=
  .error [.here kind]

def faults : Checked α → List Fault
  | .ok _ => []
  | .error faults => faults

def within (step : Step) : Checked α → Checked α
  | .ok a => .ok a
  | .error faults => .error (faults.map (Fault.within step))

def both (combine : α → β → γ) : Checked α → Checked β → Checked γ
  | .ok a, .ok b => .ok (combine a b)
  | left, right => .error (left.faults ++ right.faults)

def field (entries : List (String × α)) (name : String) (read : α → Checked β) : Checked β :=
  match entries.lookup name with
  | some entry => (read entry).within (.key name)
  | none => (fault .missing).within (.key name)

def optionalField (entries : List (String × α)) (name : String) (default : β)
    (read : α → Checked β) : Checked β :=
  match entries.lookup name with
  | some entry => (read entry).within (.key name)
  | none => .ok default

def parts (read : α → Checked β) : List α → Int → Checked (List β)
  | [], _ => .ok []
  | part :: rest, index =>
    both List.cons ((read part).within (.place index)) (parts read rest (index + 1))

@[simp] theorem faults_within (step : Step) (checked : Checked α) :
    (checked.within step).faults = checked.faults.map (Fault.within step) := by
  cases checked <;> rfl

@[simp] theorem faults_both (combine : α → β → γ) (left : Checked α) (right : Checked β) :
    (both combine left right).faults = left.faults ++ right.faults := by
  cases left <;> cases right <;> simp [both, faults]

end Checked

end EnumTables
