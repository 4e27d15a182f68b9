import EnumTables.Value

/-!
Expressions as types are spelled by them: names, constants, displays of collections, parts of other
expressions, and operations.
-/

namespace EnumTables

inductive Operator where
  | bitOr
  | bitXor
  | bitAnd
  | shiftLeft
  | shiftRight
  | add
  | subtract
  | multiply
  | divide
  | floorDivide
  | remainder
  | matrixMultiply
  | power
  deriving DecidableEq, Repr

namespace Operator

def symbol : Operator → String
  | .bitOr => "|"
  | .bitXor => "^"
  | .bitAnd => "&"
  | .shiftLeft => "<<"
  | .shiftRight => ">>"
  | .add => "+"
  | .subtract => "-"
  | .multiply => "*"
  | .divide => "/"
  | .floorDivide => "//"
  | .remainder => "%"
  | .matrixMultiply => "@"
  | .power => "**"

def title : Operator → String
  | .power => "** or pow()"
  | operator => operator.symbol

/-- Operators by how tightly they bind, the loosest ones first. All of them group from the left; the
power, which does not, is no part of the table. -/
def levels : List (List Operator) :=
  [[.bitOr], [.bitXor], [.bitAnd], [.shiftLeft, .shiftRight], [.add, .subtract],
    [.multiply, .divide, .floorDivide, .remainder, .matrixMultiply]]

end Operator

inductive Sign where
  | plus
  | minus
  | complement
  deriving DecidableEq, Repr

inductive Comparison where
  | equal
  | different
  | less
  | atMost
  | greater
  | atLeast
  | contained
  | notContained
  | identical
  | notIdentical
  deriving DecidableEq, Repr

inductive Expression where
  | name (name : String)
  | constant (value : Value)
  | ellipsis
  | attribute (subject : Expression) (name : String)
  | index (subject argument : Expression)
  | call (function : Expression) (arguments : List Expression)
  | tuple (items : List Expression)
  | list (items : List Expression)
  | set (items : List Expression)
  | mapping (keys values : List Expression)
  | signed (sign : Sign) (operand : Expression)
  | operation (operator : Operator) (left right : Expression)
  | comparison (first : Expression) (comparisons : List Comparison) (others : List Expression)
  | negation (operand : Expression)
  | both (left right : Expression)
  | either (left right : Expression)
  | conditional (yes test no : Expression)
  | function
  deriving Inhabited

end EnumTables
