import EnumTables.Text.Case

/-!
Conversion of mixed-case names into lower-case words joined by underscores, and the names that are
made from it: fields and accessors, tables, and files.
-/

namespace EnumTables.Identifier

/-- An underscore belongs between two characters iff the first is lower-case and the second
upper-case. -/
def isSeam (previous : Option Char) (c : Char) : Bool :=
  previous.any Text.isLower && Text.isUpper c

/-- Converts what follows `previous`: a seam is marked, and every character is lowered on its
own. -/
def convertFrom : Option Char → List Char → List Char
  | _, [] => []
  | previous, c :: rest =>
    (if isSeam previous c then ['_'] else []) ++ Text.lowerChar c ++ convertFrom (some c) rest

/-- Lower-case words joined by underscores: `UnitType` becomes `unit_type`, `HTTPCode` becomes
`httpcode`. -/
def convert (name : List Char) : List Char :=
  convertFrom none name

def accessorWord : List Char := ['g', 'e', 't', '_']

def stripAccessorWord (identifier : List Char) : List Char :=
  if accessorWord.isPrefixOf identifier then identifier.drop accessorWord.length else identifier

def fieldName (property : String) : String :=
  String.ofList (stripAccessorWord (convert property.toList))

def ofName (name : String) : String :=
  String.ofList (convert name.toList)

def recordName (className : String) : String :=
  className ++ "Data"

def tableName (className : String) : String :=
  String.ofList (Text.upper (convert (recordName className).toList))

def defaultSuffix : String := ".rs"

def fileName (className : String) (suffix : String) : String :=
  ofName className ++ suffix

end EnumTables.Identifier
