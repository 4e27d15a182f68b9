/-!
Linearisation of a hierarchy: the order in which a class and its bases are searched. Each step takes
the first head that stands in no other tail, so a class precedes its bases and bases keep the order
in which they were written.
-/

namespace EnumTables.Linearization

variable {α : Type} [DecidableEq α]

def next? (orders : List (List α)) : Option α :=
  (orders.filterMap List.head?).find? fun head =>
    orders.all fun order => !(order.tail.contains head)

def take (element : α) (orders : List (List α)) : List (List α) :=
  (orders.map fun order => if order.head? = some element then order.tail else order).filter
    fun order => !order.isEmpty

/-- Merges orders; what is left over when no element can be taken is the failure. -/
def mergeWithin : Nat → List (List α) → Except (List (List α)) (List α)
  | 0, orders => if orders.isEmpty then .ok [] else .error orders
  | fuel + 1, orders =>
    if orders.isEmpty then .ok []
    else match next? orders with
      | none => .error orders
      | some element => do return element :: (← mergeWithin fuel (take element orders))

def merge (orders : List (List α)) : Except (List (List α)) (List α) :=
  let orders := orders.filter fun order => !order.isEmpty
  mergeWithin orders.flatten.length orders

end EnumTables.Linearization
