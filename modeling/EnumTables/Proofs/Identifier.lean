import EnumTables.Identifier
import EnumTables.Proofs.Text.Marks

/-!
# Identifiers made from names

Converting a name brings no mark into it (`convert_avoids`), so that the name of the table of a
class is as free of marks as the name of the class (`tableName_avoids`).
-/

namespace EnumTables.Identifier

open Text

theorem convertFrom_avoids {mark : Char} (h : mark ∈ marks) {previous : Option Char}
    {name : List Char} (inside : mark ∈ convertFrom previous name) : mark ∈ name := by
  induction name generalizing previous with
  | nil => exact absurd inside List.not_mem_nil
  | cons c rest ih =>
    simp only [convertFrom, List.mem_append] at inside
    rcases inside with (seam | lowered) | later
    · have underscore : mark = '_' := by
        split at seam <;> simp_all
      have no_mark : '_' ∉ marks := by decide
      exact absurd (underscore ▸ h) no_mark
    · rw [lowerChar_avoids mark h lowered]
      exact List.mem_cons_self
    · exact List.mem_cons_of_mem _ (ih later)

theorem convert_avoids {mark : Char} (h : mark ∈ marks) {name : List Char}
    (inside : mark ∈ convert name) : mark ∈ name :=
  convertFrom_avoids h inside

theorem recordName_isWord {className : String} (word : IsWord className) :
    IsWord (recordName className) := by
  have data : IsWord "Data" := by decide
  exact word.append data

theorem tableName_avoids {className : String} (word : IsWord className) {mark : Char}
    (h : mark ∈ marks) : mark ∉ (tableName className).toList := by
  rw [tableName, String.toList_ofList]
  intro inside
  exact (recordName_isWord word).notMem h (convert_avoids h (upper_avoids h inside))

end EnumTables.Identifier
