import EnumTables.Proofs.Text.LowerCase
import EnumTables.Schema

/-!
# Names put together

Conversion looks at pairs of neighbours. So a name that is put together is converted part by part,
with an underscore where the parts meet in a seam, and a converted name is left as it is by another
conversion (`convert_append_settled`). The name of a table is made from the name of a class and a
word behind it: the underscore between them is there iff the class ends in a small letter
(`tableName_eq_iff`).
-/

namespace EnumTables

open Text

namespace Identifier

/-! ## Where two parts meet -/

def meetInSeam (front back : List Char) : Bool :=
  front.getLast?.any isLower && back.head?.any isUpper

theorem convertFrom_eq (previous : Option Char) (name : List Char) :
    convertFrom previous name =
      (if name.head?.any (isSeam previous) then ['_'] else []) ++ convert name := by
  cases name with
  | nil => rfl
  | cons c rest => simp [convert, convertFrom, isSeam]

theorem convertFrom_append (previous : Option Char) (front back : List Char) :
    convertFrom previous (front ++ back) =
      convertFrom previous front ++ convertFrom (front.getLast?.or previous) back := by
  induction front generalizing previous with
  | nil => rfl
  | cons c rest ih =>
    -- behind the first character it is the character that was looked at last
    have last : (c :: rest).getLast?.or previous = rest.getLast?.or (some c) := by
      cases rest <;> simp [List.getLast?_cons]
    rw [List.cons_append, convertFrom, convertFrom, ih, last]
    simp only [List.append_assoc]

theorem convert_append (front back : List Char) :
    convert (front ++ back) =
      convert front ++ (if meetInSeam front back then ['_'] else []) ++ convert back := by
  have seam : back.head?.any (isSeam front.getLast?) = meetInSeam front back := by
    cases back <;> simp [meetInSeam, isSeam]
  unfold convert
  rw [convertFrom_append, Option.or_none, convertFrom_eq front.getLast?, seam, List.append_assoc]
  rfl

/-! ## Converted names -/

theorem convertFrom_isSettled {previous : Option Char} {name : List Char}
    (lowers : ∀ c ∈ name, isUpper c = true → ∀ lowered ∈ lowerChar c, isUpper lowered = false) :
    ∀ c ∈ convertFrom previous name, IsSettled c := by
  induction name generalizing previous with
  | nil => simp [convertFrom]
  | cons c rest ih =>
    obtain ⟨first, others⟩ := List.forall_mem_cons.mp lowers
    have underscore : IsSettled '_' := by decide +kernel
    have seam : ∀ c' ∈ (if isSeam previous c then ['_'] else []), IsSettled c' := by
      split <;> simp [underscore]
    have letter : ∀ lowered ∈ lowerChar c, IsSettled lowered := by
      intro lowered inside
      rcases isSettled_or_eq inside with settled | ⟨rfl, same⟩
      · exact settled
      · -- the character has no other form, so that it cannot be upper-case
        refine ⟨?_, same⟩
        cases upper : isUpper lowered with
        | false => rfl
        | true => rw [← upper, first upper lowered inside]
    simp only [convertFrom, List.forall_mem_append]
    exact ⟨⟨seam, letter⟩, ih others⟩

theorem convertFrom_eq_self {previous : Option Char} {name : List Char}
    (settled : ∀ c ∈ name, IsSettled c) : convertFrom previous name = name := by
  induction name generalizing previous with
  | nil => rfl
  | cons c rest ih =>
    obtain ⟨⟨notUpper, same⟩, others⟩ := List.forall_mem_cons.mp settled
    simp [convertFrom, isSeam, notUpper, same, ih others]

/-- A name that is put together is converted part by part, with an underscore between the parts iff
they meet in a seam. Unless some upper-case character in a name is still one in lower case, nothing
in the converted name is upper-case, and it is not changed by another conversion. -/
theorem convert_append_settled :
    (∀ front back : String, ofName (front ++ back) =
      ofName front ++ (if meetInSeam front.toList back.toList then "_" else "") ++ ofName back) ∧
    ∀ name : String,
      (∀ c ∈ name.toList, isUpper c = true → ∀ lowered ∈ lowerChar c, isUpper lowered = false) →
      (∀ c ∈ (ofName name).toList, isUpper c = false) ∧ ofName (ofName name) = ofName name ∧
        ∀ suffix, fileName (ofName name) suffix = fileName name suffix := by
  constructor
  · intro front back
    apply String.toList_injective
    simp only [ofName, String.toList_ofList, String.toList_append, convert_append]
    split <;> rfl
  · intro name lowers
    have settled : ∀ c ∈ convert name.toList, IsSettled c := convertFrom_isSettled lowers
    have again : ofName (ofName name) = ofName name := by
      rw [ofName, ofName, String.toList_ofList]
      exact congrArg String.ofList (convertFrom_eq_self settled)
    refine ⟨?_, again, ?_⟩
    · intro c inside
      rw [ofName, String.toList_ofList] at inside
      exact (settled c inside).1
    · intro suffix
      rw [fileName, fileName, again]

theorem convert_append_settled_dotted :
    ofName ("max" ++ "İdHTTP") = "max_i\u0307d_http" ∧
    (∀ c ∈ "maxİdHTTP".toList, isUpper c = true →
      ∀ lowered ∈ lowerChar c, isUpper lowered = false) ∧
    ofName "max_i\u0307d_http" = "max_i\u0307d_http" := by
  have lowers : ∀ c ∈ "maxİdHTTP".toList, isUpper c = true →
      ∀ lowered ∈ lowerChar c, isUpper lowered = false := by decide +kernel
  have converted : ofName "maxİdHTTP" = "max_i\u0307d_http" := by decide +kernel
  obtain ⟨append, settled⟩ := convert_append_settled
  refine ⟨?_, lowers, ?_⟩
  · rw [append]
    decide +kernel
  · rw [← converted]
    exact (settled "maxİdHTTP" lowers).2.1

/-- A capital letter without a small form becomes the second half of a seam. -/
example : ofName "Aℂ" = "aℂ" ∧ ofName "aℂ" = "a_ℂ" := by decide +kernel

/-! ## Names of tables -/

theorem tableName_eq (className : String) :
    tableName className = String.ofList (upper (convert className.toList)) ++
      (if className.toList.getLast?.any isLower then "_DATA" else "DATA") := by
  have record : (recordName className).toList = className.toList ++ "Data".toList := by
    rw [recordName, String.toList_append]
  have capital : "Data".toList.head?.any isUpper = true := by decide +kernel
  have data : upper (convert "Data".toList) = "DATA".toList := by decide +kernel
  have underscore : upper ['_'] = ['_'] := by decide +kernel
  apply String.toList_injective
  rw [tableName, record, convert_append, upper_append, upper_append, data, meetInSeam, capital,
    Bool.and_true]
  split
  · simp [underscore]
  · simp [upper]

end Identifier

namespace Schema

/-- What stands in front of the suffix of the file of a class is in upper case the beginning of the
name of its table. An underscore stands behind it iff the class ends in a lower-case character. -/
theorem tableName_eq_iff (schema : Schema) {stem suffix : String}
    (file : Identifier.fileName schema.className suffix = stem ++ suffix) :
    (schema.tableName = String.ofList (upper stem.toList) ++ "_DATA" ↔
      schema.className.toList.getLast?.any isLower = true) ∧
    (schema.tableName = String.ofList (upper stem.toList) ++ "DATA" ↔
      schema.className.toList.getLast?.any isLower = false) := by
  obtain rfl : Identifier.ofName schema.className = stem := by
    rw [Identifier.fileName] at file
    exact (String.append_left_inj _).mp file
  have table := Identifier.tableName_eq schema.className
  rw [tableName, table, Identifier.ofName, String.toList_ofList, String.append_right_inj,
    String.append_right_inj]
  cases schema.className.toList.getLast?.any isLower <;> simp

theorem tableName_eq_iff_unitType :
    Identifier.fileName "UnitType" ".rs" = "unit_type" ++ ".rs" ∧
      (⟨"UnitType", []⟩ : Schema).tableName = "UNIT_TYPE_DATA" := by
  have file : Identifier.fileName "UnitType" ".rs" = "unit_type" ++ ".rs" := by decide +kernel
  have lower : "UnitType".toList.getLast?.any isLower = true := by decide +kernel
  have stem : String.ofList (upper "unit_type".toList) ++ "_DATA" = "UNIT_TYPE_DATA" := by
    decide +kernel
  refine ⟨file, ?_⟩
  rw [← stem]
  exact (tableName_eq_iff ⟨"UnitType", []⟩ file).1.mpr lower

theorem tableName_unit2 : Identifier.fileName "Unit2" ".rs" = "unit2" ++ ".rs" ∧
    (⟨"Unit2", []⟩ : Schema).tableName = "UNIT2DATA" ∧
    (⟨"Unit2", []⟩ : Schema).tableName ≠ String.ofList (upper "unit2".toList) ++ "_DATA" := by
  decide +kernel

end Schema

end EnumTables
