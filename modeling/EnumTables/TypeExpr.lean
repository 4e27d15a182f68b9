import EnumTables.Value.Text

/-!
Type expressions as they are written in the signatures of described functions, before any name in
them is looked up. `source` is the text of an expression, which is what a quoted one consists of.
-/

namespace EnumTables

inductive TypeExpr where
  | name (path : String)
  | subscript (origin : String) (arguments : List TypeExpr)
  | union (alternatives : List TypeExpr)
  | quoted (expr : TypeExpr)
  | raw (text : String)
  | literal (value : Value)
  | sequence (items : List TypeExpr)
  deriving Inhabited

namespace TypeExpr

def sides : TypeExpr → List TypeExpr
  | .union alternatives => alternatives
  | expr => [expr]

/-- The union of expressions. Unions among them are spelled out, as they are in its text. -/
def either (alternatives : List TypeExpr) : TypeExpr :=
  .union (alternatives.flatMap sides)

mutual

def source : TypeExpr → String
  | .name path => path
  | .subscript origin [] => origin ++ "[()]"
  | .subscript origin arguments =>
    origin ++ "[" ++ String.intercalate ", " (sources arguments) ++ "]"
  | .union alternatives => String.intercalate " | " (sources alternatives)
  | .quoted expr => Text.quote (source expr)
  | .raw text => text
  | .literal (.member cls label ..) => cls.path ++ "." ++ label.getD ""
  | .literal value => value.printed
  | .sequence items => "[" ++ String.intercalate ", " (sources items) ++ "]"

def sources : List TypeExpr → List String
  | [] => []
  | expr :: rest => source expr :: sources rest

end

end TypeExpr

end EnumTables
