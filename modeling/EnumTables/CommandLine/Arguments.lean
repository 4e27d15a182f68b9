import EnumTables.Text.Digit
import EnumTables.Text.Quoted

/-!
Reading the words of a command line. A word that starts with a hyphen is an option, any other an
operand, and after a double hyphen all words are operands. An option may be shortened to a beginning
that it shares with no other, several short options may stand in one word, and a value stands in the
word of its option or is the next word. Reading gives the settings in the order of the options, the
operands that are expected, and the words that nobody takes.
-/

namespace EnumTables.CommandLine

inductive OptionEffect (α : Type) where
  /-- Asks for the help text; nothing after it is read. -/
  | help
  | mark (setting : α)
  | value (setting : String → α)

structure OptionForm (α : Type) where
  names : List String
  effect : OptionEffect α

inductive Operands where
  | none
  | required (label : String)
  | optional
  | command (label : String) (choices : List String)

structure Interface (α : Type) where
  program : String
  options : List (OptionForm α)
  operands : Operands
  help : List String

inductive Misuse where
  | ambiguous (word : String) (names : List String)
  | valueUnexpected (option : List String) (value : String)
  | valueMissing (option : List String)
  | unknownCommand (label word : String) (choices : List String)
  | operandMissing (label : String)
  | unrecognized (words : List String)
  deriving DecidableEq, Repr

inductive Halt where
  | help
  | misuse (cause : Misuse)
  deriving DecidableEq, Repr

structure Given (α : Type) where
  settings : List α
  operands : List String
  extras : List String
  deriving DecidableEq, Repr

namespace Misuse

def argument (names : List String) : String :=
  "argument " ++ String.intercalate "/" names ++ ": "

def message : Misuse → String
  | .ambiguous word names =>
    "ambiguous option: " ++ word ++ " could match " ++ String.intercalate ", " names
  | .valueUnexpected names value =>
    argument names ++ "ignored explicit argument " ++ Text.quote value
  | .valueMissing names => argument names ++ "expected one argument"
  | .unknownCommand label word choices =>
    argument [label] ++ "invalid choice: " ++ Text.quote word ++ " (choose from " ++
      String.intercalate ", " (choices.map Text.quote) ++ ")"
  | .operandMissing label => "the following arguments are required: " ++ label
  | .unrecognized words => "unrecognized arguments: " ++ String.intercalate " " words

end Misuse

/-! ## What a word is -/

def marker : String := "--"

inductive Role (α : Type) where
  | operand
  | marker
  | option (form : OptionForm α) (name : String) (value : Option String)
  | unknown

structure Word (α : Type) where
  text : String
  role : Role α

variable {α : Type}

def findOption (options : List (OptionForm α)) (name : String) : Option (OptionForm α) :=
  options.find? fun form => form.names.contains name

def splitValue (word : List Char) : List Char × Option (List Char) :=
  (word.takeWhile (· ≠ '='), match word.dropWhile (· ≠ '=') with
    | [] => none
    | _ :: value => some value)

def isNegativeNumber (word : List Char) : Bool :=
  match word with
  | '-' :: digits =>
    let digits := if digits.getLast? = some '\n' then digits.dropLast else digits
    let fraction := match digits.dropWhile Text.isDigit with
      | '.' :: places => places
      | _ => []
    let places := if digits.all Text.isDigit then digits else fraction
    !places.isEmpty && places.all Text.isDigit
  | _ => false

/-- A name that a word may be short for, with the value that the word then holds. -/
def shortFor? (word : List Char) (name : String) : Option (Option (List Char)) :=
  match word with
  | '-' :: '-' :: _ =>
    let (start, value) := splitValue word
    if start.isPrefixOf name.toList then some value else none
  | '-' :: letter :: value =>
    if name.toList = ['-', letter] then some (some value)
    else if word.isPrefixOf name.toList then some none
    else none
  | _ => none

def candidates (options : List (OptionForm α)) (word : List Char) :
    List (OptionForm α × String × Option (List Char)) :=
  options.flatMap fun form => form.names.filterMap fun name =>
    (shortFor? word name).map fun value => (form, name, value)

/-- What a word with a hyphen in front is if it is no option's name: a name with a value, the
beginning of one name, an operand, or unknown. -/
def classifyOther (options : List (OptionForm α)) (text : String) : Except Misuse (Role α) :=
  let (name, value) := splitValue text.toList
  match value, findOption options (String.ofList name) with
  | some value, some form => .ok (.option form (String.ofList name) (some (String.ofList value)))
  | _, _ => match candidates options text.toList with
    | [] =>
      if isNegativeNumber text.toList || text.toList.contains ' ' then .ok .operand
      else .ok .unknown
    | [(form, name, value)] => .ok (.option form name (value.map String.ofList))
    | several => .error (.ambiguous text (several.map fun candidate => candidate.2.1))

def classify (options : List (OptionForm α)) (text : String) : Except Misuse (Role α) :=
  match text.toList with
  | '-' :: _ :: _ => match findOption options text with
    | some form => .ok (.option form text none)
    | none => classifyOther options text
  | _ => .ok .operand

def classifyAll (options : List (OptionForm α)) : List String → Except Misuse (List (Word α))
  | [] => .ok []
  | text :: rest =>
    if text = marker then .ok (⟨text, .marker⟩ :: rest.map fun text => ⟨text, .operand⟩)
    else do
      let role ← classify options text
      return ⟨text, role⟩ :: (← classifyAll options rest)

/-! ## What an option's word sets -/

structure Cluster (α : Type) where
  effects : List (Option α)
  pending : Option (List String × (String → α))

namespace Cluster

def single (form : OptionForm α) : Cluster α :=
  match form.effect with
  | .help => ⟨[none], none⟩
  | .mark setting => ⟨[some setting], none⟩
  | .value setting => ⟨[], some (form.names, setting)⟩

def append (first second : Cluster α) : Cluster α :=
  ⟨first.effects ++ second.effects, second.pending⟩

def ofLetters (options : List (OptionForm α)) (form : OptionForm α) :
    List Char → Except Misuse (Cluster α)
  | [] => .ok (single form)
  | letter :: rest => match form.effect with
    | .value setting => .ok ⟨[some (setting (String.ofList (letter :: rest)))], none⟩
    | _ => match findOption options (String.ofList ['-', letter]) with
      | some next => do return (single form).append (← ofLetters options next rest)
      | none => .error (.valueUnexpected form.names (String.ofList (letter :: rest)))

def isShort (name : String) : Bool :=
  !"--".toList.isPrefixOf name.toList

def ofOption (options : List (OptionForm α)) (form : OptionForm α) (name : String) :
    Option String → Except Misuse (Cluster α)
  | none => .ok (single form)
  | some value => match form.effect with
    | .value setting => .ok ⟨[some (setting value)], none⟩
    | _ =>
      if isShort name && value ≠ "" then ofLetters options form value.toList
      else .error (.valueUnexpected form.names value)

end Cluster

/-! ## Reading -/

namespace Given

def empty : Given α := ⟨[], [], []⟩

def skip (given : Given α) (text : String) : Given α :=
  { given with extras := given.extras ++ [text] }

def set (given : Given α) (effects : List (Option α)) : Except Halt (Given α) :=
  match effects.mapM id with
  | some settings => .ok { given with settings := given.settings ++ settings }
  | none => .error .help

end Given

inductive Wanted where
  | nothing
  | one
  | all

namespace Interface

def wanted (interface : Interface α) (given : Given α) : Wanted :=
  match interface.operands, given.operands with
  | _, _ :: _ | .none, [] => .nothing
  | .required _, [] | .optional, [] => .one
  | .command _ _, [] => .all

/-- Reads words that were classified. A marker right after the operand belongs to it. -/
def collect (interface : Interface α) (given : Given α) : List (Word α) → Except Halt (Given α)
  | [] => .ok given
  | ⟨text, .unknown⟩ :: rest => collect interface (given.skip text) rest
  | ⟨_, .option form name value⟩ :: rest =>
    match Cluster.ofOption interface.options form name value with
    | .error cause => .error (.misuse cause)
    | .ok ⟨effects, none⟩ => do collect interface (← given.set effects) rest
    | .ok ⟨effects, some (names, setting)⟩ => match rest with
      | ⟨value, .operand⟩ :: rest => do
        collect interface (← given.set (effects ++ [some (setting value)])) rest
      | _ => .error (.misuse (.valueMissing names))
  | ⟨text, .operand⟩ :: rest => match interface.wanted given with
    | .nothing => collect interface (given.skip text) rest
    | .all => .ok { given with operands := text :: rest.map Word.text }
    | .one => match rest with
      | ⟨_, .marker⟩ :: rest => collect interface { given with operands := [text] } rest
      | rest => collect interface { given with operands := [text] } rest
  | ⟨text, .marker⟩ :: rest => match interface.wanted given, rest with
    | .all, _ :: _ => .ok { given with operands := text :: rest.map Word.text }
    | .one, ⟨operand, _⟩ :: rest => collect interface { given with operands := [operand] } rest
    | .one, [] => if interface.operands matches .optional then .ok given else .ok (given.skip text)
    | _, rest => collect interface (given.skip text) rest

def verify (interface : Interface α) (given : Given α) : Except Halt (Given α) :=
  match interface.operands, given.operands with
  | .required label, [] => .error (.misuse (.operandMissing label))
  | .command label choices, word :: _ =>
    if choices.contains word then .ok given
    else .error (.misuse (.unknownCommand label word choices))
  | _, _ => .ok given

def read (interface : Interface α) (words : List String) : Except Halt (Given α) := do
  let words ← (classifyAll interface.options words).mapError Halt.misuse
  interface.verify (← interface.collect .empty words)

end Interface

end EnumTables.CommandLine
