import EnumTables.Schema

/-!
Streams in values give their elements once. Writing a value reads the streams that stand where its
representation has a slice; a stream that several owners share has nothing left for the second one.
`drain` puts into a shared stream what is left of it, and notes which ones were read.
-/

namespace EnumTables

abbrev Spent := List String

/-- Reads the streams in a value, and leaves in them what was read. -/
abbrev Drain := Value → StateM Spent Value

namespace Drain

def slice (element : Drain) : Drain
  | .collection (.stream mark) items => do
    if mark.any (← get).contains then return .collection (.stream mark) []
    else
      modify (· ++ mark.toList)
      return .collection (.stream mark) (← items.mapM element)
  | .collection kind items => do return .collection kind (← items.mapM element)
  | .mapping readOnly entries => do
    let pairs ← entries.mapM fun entry => element (Value.entry entry)
    return .mapping readOnly (pairs.filterMap Value.components?)
  | .position x y => do
    let x ← element x
    return .position x (← element y)
  | .member cls name held data looks => do
    return .member cls name held (← slice element data) looks
  | value => return value

def pair (first second : Drain) : Drain
  | .collection .list [left, right] => do
    let left ← first left
    return .list [left, ← second right]
  | .collection .tuple [left, right] => do
    let left ← first left
    return .tuple [left, ← second right]
  | .position left right => do
    let left ← first left
    return .position left (← second right)
  | .member cls name held data looks => do
    return .member cls name held (← pair first second data) looks
  | value => return value

end Drain

def Representation.drain : Representation → Drain
  | .slice element => Drain.slice element.drain
  | .pair first second => Drain.pair first.drain second.drain
  | _ => pure

namespace DomainClass

def drainVariant (fields : List Field) (variant : Variant) : StateM Spent Variant :=
  fields.foldlM (fun variant field => match variant.values.lookup field.sourceName with
    | none => return variant
    | some value => do
      let value ← field.representation.drain value
      let values := variant.values.map fun entry =>
        if entry.1 = field.sourceName then (entry.1, value) else entry
      return { variant with values := values }) variant

/-- Reads the streams of a class in the order of its variants. A class without a schema is not
read. -/
def drained (cls : DomainClass) : StateM Spent DomainClass :=
  match Schema.ofClass cls with
  | .error _ => return cls
  | .ok schema => do
    return { cls with variants := ← cls.variants.mapM (drainVariant schema.fields) }

end DomainClass

end EnumTables
