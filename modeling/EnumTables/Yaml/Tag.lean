import EnumTables.Yaml.Timestamp
import EnumTables.Yaml.Number

/-!
Tags: the kinds of YAML data. A plain scalar without a tag has the kind that its text looks like.
-/

namespace EnumTables.Yaml

inductive Tag where
  | null
  | bool
  | int
  | float
  | binary
  | timestamp
  | orderedMap
  | pairs
  | set
  | text
  | sequence
  | mapping
  | merge
  /-- The key whose value stands for its mapping, with the name by which aliases know it. -/
  | default (anchor : Option String)
  | unknown (name : String)
  /-- What an alias stands for inside the scalar that it names. -/
  | looped
  deriving DecidableEq, Repr

namespace Tag

def standardStem : String := "tag:yaml.org,2002:"

def standard : List (String × Tag) :=
  [("null", .null), ("bool", .bool), ("int", .int), ("float", .float), ("binary", .binary),
    ("timestamp", .timestamp), ("omap", .orderedMap), ("pairs", .pairs), ("set", .set),
    ("str", .text), ("seq", .sequence), ("map", .mapping), ("merge", .merge),
    ("value", .default none)]

def ofName (name : String) : Tag :=
  ((standard.map fun entry => (standardStem ++ entry.1, entry.2)).lookup name).getD (.unknown name)

def boolWords : List (String × Bool) :=
  [("yes", true), ("no", false), ("true", true), ("false", false), ("on", true), ("off", false)]

def spellings (word : String) : List String :=
  [word, word.capitalize, String.ofList (word.toList.map Char.toUpper)]

def ofExactText (text : String) : Tag :=
  if (boolWords.flatMap fun word => spellings word.1).contains text then .bool
  else if Number.isFloat text.toList then .float
  else if Number.isInteger text.toList then .int
  else if text = "<<" then .merge
  else if (["", "~"] ++ spellings "null").contains text then .null
  else if Timestamp.isImplicit text.toList then .timestamp
  else if text = "=" then .default none
  else .text

/-- The kind of a plain scalar. A line feed at the end does not count, if anything is before it. -/
def ofPlain (text : String) : Tag :=
  match text.toList.reverse with
  | '\n' :: c :: rest => ofExactText (String.ofList (c :: rest).reverse)
  | _ => ofExactText text

def anchored (anchor : Option String) : Tag → Tag
  | .default _ => .default anchor
  | tag => tag

def isDefault : Tag → Bool
  | .default _ => true
  | _ => false

def isScalar : Tag → Bool
  | .null | .text | .bool | .int | .float | .timestamp | .binary => true
  | _ => false

def isCollection : Tag → Bool
  | .sequence | .mapping | .set | .orderedMap | .pairs => true
  | _ => false

/-- The tag of a collection as an alias inside it has it. -/
def seenInside (tag : Tag) : Tag :=
  if tag.isScalar then .looped else tag

end Tag

end EnumTables.Yaml
