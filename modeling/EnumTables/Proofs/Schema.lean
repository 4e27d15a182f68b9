import EnumTables.Proofs.Literal.Leaves
import EnumTables.Schema

/-!
# Schemas

The fields of a schema stand for the properties of a class one by one, in their order, and no two
of them have one identifier (`Schema.ofClass_eq_ok`). Declared types write variants of enumerations
with the names of the enumerations (`Descriptor.isQualified_of_resolve`).
-/

namespace EnumTables

theorem Descriptor.isQualified_of_resolve {descriptor : Descriptor}
    {representation : Representation} (h : descriptor.resolve = .ok representation) :
    representation.IsQualified := by
  induction descriptor using resolve.induct generalizing representation with
  | case1 element ih =>
    obtain ⟨part, resolved, h⟩ := bind_eq_ok.mp h
    obtain rfl := Except.ok.inj h
    change part.IsQualified
    exact ih resolved
  | case2 first second ihl ihr | case3 first second ihl ihr =>
    obtain ⟨left, resolvedL, h⟩ := bind_eq_ok.mp h
    obtain ⟨right, resolvedR, h⟩ := bind_eq_ok.mp h
    obtain rfl := Except.ok.inj h
    exact ⟨ihl resolvedL, ihr resolvedR⟩
  | case4 kind =>
    obtain rfl := Except.ok.inj h
    cases kind <;> exact trivial
  | case5 name =>
    obtain rfl := Except.ok.inj h
    exact trivial
  | case6 name =>
    obtain rfl := Except.ok.inj h
    rfl
  | case7 | case8 => cases h

namespace Schema

structure IsField (property : Property) (field : Field) : Prop where
  identifier : field.identifier = Identifier.fieldName property.name
  sourceName : field.sourceName = property.name
  representation : property.type.resolve = .ok field.representation

theorem identifiers_eq {properties : List Property} {fields : List Field}
    (each : List.Forall₂ IsField properties fields) :
    fields.map Field.identifier =
      properties.map fun property => Identifier.fieldName property.name := by
  induction each with
  | nil => rfl
  | cons first _ ih => rw [List.map_cons, List.map_cons, first.identifier, ih]

theorem fieldsFrom_eq_ok {seen fields : List Field} {properties : List Property} :
    fieldsFrom seen properties = .ok fields ↔
      List.Forall₂ IsField properties fields ∧ (fields.map Field.identifier).Nodup ∧
        ∀ field ∈ fields, field.identifier ∉ seen.map Field.identifier := by
  induction properties generalizing seen fields with
  | nil =>
    rw [List.forall₂_nil_left_iff]
    constructor
    · intro h
      obtain rfl := Except.ok.inj h
      simp
    · rintro ⟨rfl, -, -⟩
      rfl
  | cons property rest ih =>
    rw [fieldsFrom, List.forall₂_cons_left_iff]
    constructor
    · intro h
      split at h
      · cases h
      · next fresh =>
        split at h
        · cases h
        · next representation resolved =>
          obtain ⟨others, found, h⟩ := bind_eq_ok.mp h
          obtain rfl := Except.ok.inj h
          obtain ⟨each, distinct, unseen⟩ := ih.mp found
          refine ⟨⟨_, _, ⟨rfl, rfl, resolved⟩, each, rfl⟩, ?_, ?_⟩
          · simp_all
          · simp_all
    · rintro ⟨⟨field, others, isField, each, rfl⟩, distinct, unseen⟩
      have sameIdentifier := isField.identifier
      have fresh : seen.find? (fun field => field.identifier = Identifier.fieldName property.name) =
          none := by
        have first := unseen field List.mem_cons_self
        simp_all
      have found : fieldsFrom (seen ++ [field]) rest = .ok others := by
        refine ih.mpr ⟨each, ?_, ?_⟩
        · exact (List.nodup_cons.mp distinct).2
        · intro other inside
          have := unseen other (List.mem_cons_of_mem _ inside)
          have := (List.nodup_cons.mp distinct).1
          simp_all
      obtain ⟨identifier, sourceName, representation⟩ := field
      obtain rfl := isField.identifier
      obtain rfl := isField.sourceName
      simp only [fresh, isField.representation, found]
      rfl

theorem ofClass_eq_ok {cls : DomainClass} {schema : Schema} :
    ofClass cls = .ok schema ↔ schema.className = cls.name ∧
      List.Forall₂ IsField cls.properties schema.fields ∧
      (schema.fields.map Field.identifier).Nodup := by
  obtain ⟨className, fields⟩ := schema
  simp only [ofClass, bind_eq_ok, fieldsFrom_eq_ok, pure, Except.pure, Except.ok.injEq, mk.injEq]
  constructor
  · rintro ⟨found, ⟨each, distinct, -⟩, rfl, rfl⟩
    exact ⟨rfl, each, distinct⟩
  · rintro ⟨rfl, each, distinct⟩
    exact ⟨fields, ⟨each, distinct, by simp⟩, rfl, rfl⟩

end Schema

end EnumTables
