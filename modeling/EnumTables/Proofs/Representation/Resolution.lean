import EnumTables.Proofs.Representation

/-!
# What a resolution succeeds on, and what it forgets

A descriptor is resolved iff nothing unsupported is reached from it through lists, pairs and
mappings, and otherwise the first such descriptor is reported (`resolve_reports`). A representation
can be read back as the descriptor without mappings that it came from (`unfolded_of_resolve`), so
that a resolution forgets nothing but the difference between a mapping and a list of pairs
(`resolve_kernel`).
-/

namespace EnumTables

def Representation.described : Representation → Descriptor
  | .scalar .float64 => .primitive .float
  | .scalar .int32 => .primitive .int
  | .scalar .bool => .primitive .bool
  | .text => .primitive .text
  | .enumeration name _ => .enumeration name
  | .position name => .position name
  | .slice element => .list element.described
  | .pair first second => .pair first.described second.described

namespace Descriptor

/-- A descriptor and the ones that are reached from it through lists, pairs and mappings: each in
front of its parts, and parts from left to right. -/
def reached : Descriptor → List Descriptor
  | .list element => .list element :: reached element
  | .pair first second => .pair first second :: (reached first ++ reached second)
  | .map key value => .map key value :: (reached key ++ reached value)
  | descriptor => [descriptor]

def isUnsupported : Descriptor → Bool
  | .generic .. | .unclassified _ => true
  | _ => false

theorem resolve_reports (descriptor : Descriptor) :
    Reports descriptor.resolve
      ((descriptor.reached.filter isUnsupported).map Unsupported.mk) := by
  induction descriptor using reached.induct with
  | case1 element ih =>
    rw [resolve, reached]
    exact ih.map Representation.slice
  | case2 first second left right =>
    rw [resolve, reached, List.filter_cons_of_neg Bool.false_ne_true, List.filter_append,
      List.map_append]
    exact left.bind fun representation _ => right.map (Representation.pair representation)
  | case3 key value left right =>
    rw [resolve, reached, List.filter_cons_of_neg Bool.false_ne_true, List.filter_append,
      List.map_append]
    exact left.bind fun representation _ =>
      right.map fun other => Representation.slice (.pair representation other)
  | case4 descriptor notList notPair notMap =>
    cases descriptor with
    | list element => exact absurd rfl (notList element)
    | pair first second => exact absurd rfl (notPair first second)
    | map key value => exact absurd rfl (notMap key value)
    | primitive | enumeration | position | generic | unclassified => exact rfl

theorem unfolded_of_resolve {descriptor : Descriptor} {representation : Representation}
    (h : descriptor.resolve = .ok representation) :
    descriptor.unfolded = representation.described := by
  induction descriptor using resolve.induct generalizing representation with
  | case1 element ih =>
    obtain ⟨inner, resolved, rest⟩ := bind_eq_ok.mp h
    obtain rfl := Except.ok.inj rest
    rw [unfolded, Representation.described, ih resolved]
  | case2 first second left right =>
    obtain ⟨one, resolved, rest⟩ := bind_eq_ok.mp h
    obtain ⟨other, resolved', rest⟩ := bind_eq_ok.mp rest
    obtain rfl := Except.ok.inj rest
    rw [unfolded, Representation.described, left resolved, right resolved']
  | case3 key value left right =>
    obtain ⟨one, resolved, rest⟩ := bind_eq_ok.mp h
    obtain ⟨other, resolved', rest⟩ := bind_eq_ok.mp rest
    obtain rfl := Except.ok.inj rest
    rw [unfolded, Representation.described, Representation.described, left resolved,
      right resolved']
  | case4 kind =>
    obtain rfl := Except.ok.inj h
    cases kind <;> rfl
  | case5 name | case6 name =>
    obtain rfl := Except.ok.inj h
    rfl
  | case7 origin arguments => cases h
  | case8 name => cases h

theorem eq_iff_unfolded_eq {left right : Descriptor} {one other : Representation}
    (resolvedLeft : left.resolve = .ok one) (resolvedRight : right.resolve = .ok other) :
    one = other ↔ left.unfolded = right.unfolded := by
  constructor
  · rintro rfl
    rw [unfolded_of_resolve resolvedLeft, unfolded_of_resolve resolvedRight]
  · intro same
    have outcomes : left.unfolded.resolve = right.unfolded.resolve := by rw [same]
    rw [resolve_unfolded, resolve_unfolded, resolvedLeft, resolvedRight] at outcomes
    exact Except.ok.inj outcomes

/-- A descriptor has a representation iff nothing unsupported is reached from it; if it has none,
the first unsupported one is reported; and two descriptors have one representation iff they are
one after every mapping has given way to a list of pairs. -/
theorem resolve_kernel :
    (∀ descriptor : Descriptor, (∃ representation, descriptor.resolve = .ok representation) ↔
      ∀ part ∈ descriptor.reached, part.isUnsupported = false) ∧
    (∀ (descriptor : Descriptor) (cause : Unsupported), descriptor.resolve = .error cause ↔
      descriptor.reached.find? isUnsupported = some cause.descriptor) ∧
    ∀ (left right : Descriptor) (one other : Representation),
      left.resolve = .ok one → right.resolve = .ok other →
      (one = other ↔ left.unfolded = right.unfolded) := by
  refine ⟨fun descriptor => ?_, fun descriptor cause => ?_, fun left right one other =>
    eq_iff_unfolded_eq⟩
  · rw [(resolve_reports descriptor).eq_ok_iff, List.map_eq_nil_iff, List.filter_eq_nil_iff]
    simp only [Bool.not_eq_true]
  · rw [(resolve_reports descriptor).eq_error_iff, List.head?_map, List.head?_filter,
      Option.map_eq_some_iff]
    constructor
    · rintro ⟨part, found, rfl⟩
      exact found
    · intro found
      exact ⟨cause.descriptor, found, rfl⟩

theorem resolve_kernel_map :
    let mapping : Descriptor := .list (.map (.primitive .text) (.list (.enumeration "Race")))
    let listing : Descriptor :=
      .list (.list (.pair (.primitive .text) (.list (.enumeration "Race"))))
    let broken : Descriptor :=
      .pair mapping (.map (.generic "set" [.unclassified "a"]) (.unclassified "b"))
    let shared : Representation := .slice (.slice (.pair .text (.slice (.enumeration "Race" true))))
    mapping.resolve = .ok shared ∧ listing.resolve = .ok shared ∧
      mapping.unfolded = listing.unfolded ∧
      broken.resolve = .error ⟨.generic "set" [.unclassified "a"]⟩ := by
  intro mapping listing broken shared
  have first : mapping.resolve = .ok shared := by rfl
  have second : listing.resolve = .ok shared := by rfl
  exact ⟨first, second, (resolve_kernel.2.2 mapping listing shared shared first second).mp rfl,
    (resolve_kernel.2.1 broken ⟨.generic "set" [.unclassified "a"]⟩).mpr (by rfl)⟩

end Descriptor

end EnumTables
