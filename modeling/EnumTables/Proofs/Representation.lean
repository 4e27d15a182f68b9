import EnumTables.Proofs.Outcome
import EnumTables.Representation

/-!
# Representations of descriptors

A mapping is resolved like a list of pairs. Descriptors in which every mapping gives way to such a
list have the representations that they had before, and the unsupported descriptor of one that has
none is in the same place (`resolve_unfolded`).
-/

namespace EnumTables.Descriptor

mutual

/-- Every mapping becomes a list of pairs, at any depth. -/
def unfolded : Descriptor → Descriptor
  | .map key value => .list (.pair (unfolded key) (unfolded value))
  | .list element => .list (unfolded element)
  | .pair first second => .pair (unfolded first) (unfolded second)
  | .generic origin arguments => .generic origin (unfoldedAll arguments)
  | .primitive kind => .primitive kind
  | .enumeration name => .enumeration name
  | .position name => .position name
  | .unclassified name => .unclassified name

def unfoldedAll : List Descriptor → List Descriptor
  | [] => []
  | descriptor :: rest => unfolded descriptor :: unfoldedAll rest

end

theorem resolve_unfolded (descriptor : Descriptor) :
    descriptor.unfolded.resolve =
      descriptor.resolve.mapError fun cause => ⟨cause.descriptor.unfolded⟩ := by
  induction descriptor using resolve.induct with
  | case1 element ih =>
    rw [unfolded, resolve, resolve, ih]
    cases element.resolve <;> rfl
  | case2 first second left right =>
    rw [unfolded, resolve, resolve, left, right]
    cases first.resolve with
    | error cause => rfl
    | ok => cases second.resolve <;> rfl
  | case3 key value left right =>
    rw [unfolded, resolve, resolve, resolve, left, right]
    cases key.resolve with
    | error cause => rfl
    | ok => cases value.resolve <;> rfl
  | case4 kind => cases kind <;> rfl
  | case5 name | case6 name => rfl
  | case7 origin arguments => rw [unfolded]; rfl
  | case8 name => rfl

end EnumTables.Descriptor
