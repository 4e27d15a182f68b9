import EnumTables.Yaml.Writer

/-!
# Characters of written text

Whatever the texts are, a mapping is written in printable ASCII and line feeds only
(`IsPrintable.mapping`): other characters are written as escapes.
-/

namespace EnumTables.Yaml

namespace ScalarStyle

variable {text : List Char}

theorem of_plain (h : ofText text = .plain) :
    Tag.ofPlain (String.ofList text) = .text ∧ allowsPlain text = true := by
  unfold ofText at h
  split at h
  · assumption
  · split at h <;> cases h

theorem of_single (h : ofText text = .single) : allowsSingle text = true := by
  unfold ofText at h
  split at h
  · cases h
  · split at h
    · assumption
    · cases h

end ScalarStyle

open ScalarStyle (isSpecial)

def IsPrintable (text : List Char) : Prop :=
  ∀ c ∈ text, isSpecial c = false

instance : DecidablePred IsPrintable :=
  fun text => inferInstanceAs (Decidable (∀ c ∈ text, isSpecial c = false))

namespace IsPrintable

variable {front back chars : List Char} {c : Char}

theorem nil : IsPrintable [] := by
  intro c inside
  cases inside

theorem cons (h : isSpecial c = false) (printable : IsPrintable chars) :
    IsPrintable (c :: chars) :=
  List.forall_mem_cons.mpr ⟨h, printable⟩

theorem append (h : IsPrintable front) (h' : IsPrintable back) : IsPrintable (front ++ back) :=
  List.forall_mem_append.mpr ⟨h, h'⟩

theorem replicate (h : isSpecial c = false) (count : Nat) : IsPrintable (List.replicate count c) :=
  fun _ inside => (List.eq_of_mem_replicate inside) ▸ h

theorem plain (printable : IsPrintable chars) (column spaces : Nat) :
    IsPrintable (Writer.plain column spaces chars) := by
  induction chars generalizing column spaces with
  | nil => exact .replicate rfl _
  | cons c rest ih =>
    obtain ⟨here, later⟩ := List.forall_mem_cons.mp printable
    rw [Writer.plain]
    split
    · exact ih later _ _
    · split
      · exact .append (by decide) (.cons here (ih later _ _))
      · exact .append (.replicate rfl _) (.cons here (ih later _ _))

theorem single_gap (column spaces breaks : Nat) (atEnd atStart : Bool) :
    IsPrintable (Writer.single.gap column spaces breaks atEnd atStart) := by
  rw [Writer.single.gap]
  split
  · exact .append (.replicate rfl _) (by decide)
  · split
    · decide
    · exact .replicate rfl _

theorem single (printable : IsPrintable chars) (column spaces breaks : Nat) (atStart : Bool) :
    IsPrintable (Writer.single column spaces breaks atStart chars) := by
  induction chars generalizing column spaces breaks atStart with
  | nil => exact single_gap _ _ _ _ _
  | cons c rest ih =>
    obtain ⟨here, later⟩ := List.forall_mem_cons.mp printable
    rw [Writer.single]
    split
    · exact ih later _ _ _ _
    · split
      · exact ih later _ _ _ _
      · dsimp only
        have gap := single_gap column spaces breaks false atStart
        split
        · exact gap.append (ih later _ _ _ _)
        · split
          · exact gap.append (ih later _ _ _ _)
          · split
            · exact gap.append (.cons rfl (.cons rfl (ih later _ _ _ _)))
            · exact gap.append (.cons here (ih later _ _ _ _))

theorem hexDigits (n width : Nat) : IsPrintable (Writer.hexDigits n width) := by
  have digit (n : Nat) : isSpecial (Text.hexDigit (n % 16)).toUpper = false := by
    have all : ∀ digit < 16, isSpecial (Text.hexDigit digit).toUpper = false := by decide
    exact all _ (Nat.mod_lt n (by decide))
  induction width generalizing n with
  | zero => exact .nil
  | succ width ih =>
    rw [Writer.hexDigits, Text.hexDigits, List.map_append]
    exact .append (ih _) (.cons (digit n) .nil)

theorem lookup {short : List (Char × Char)} {letter : Char}
    (printable : ∀ entry ∈ short, isSpecial entry.2 = false)
    (found : short.lookup c = some letter) : isSpecial letter = false := by
  obtain ⟨before, after, entries, -⟩ := List.lookup_eq_some_iff.mp found
  exact printable (c, letter) (by simp [entries])

theorem escapeCode (c : Char) : IsPrintable (Writer.escapeCode c) := by
  dsimp only [Writer.escapeCode]
  split
  · next letter found => exact .cons (lookup (by decide) found) .nil
  · split
    · exact .cons rfl (hexDigits _ _)
    · split
      · exact .cons rfl (hexDigits _ _)
      · exact .cons rfl (hexDigits _ _)

theorem foldBefore (next : Option Char) : IsPrintable (Writer.foldBefore next).1 := by
  rw [Writer.foldBefore]
  split <;> decide

theorem double (chars : List Char) {pending : List Char} (printable : IsPrintable pending)
    (column : Nat) (atStart : Bool) :
    IsPrintable (Writer.double column pending atStart chars) := by
  induction chars generalizing pending column atStart with
  | nil => exact printable
  | cons c rest ih =>
    rw [Writer.double]
    cases escaped : Writer.isEscaped c with
    | true =>
      have written := printable.append (.cons (c := '\\') rfl (escapeCode c))
      simp only [if_true]
      split
      · exact (written.append (.cons rfl (foldBefore _))).append (ih .nil _ _)
      · exact written.append (ih .nil _ _)
    | false =>
      have here : isSpecial c = false := by
        simp only [Writer.isEscaped, Bool.or_eq_false_iff, Bool.not_eq_false'] at escaped
        simp [isSpecial, escaped.2]
      simp only [Bool.false_eq_true, if_false]
      split
      · exact (printable.append (.cons rfl (foldBefore _))).append (ih (.cons here .nil) _ _)
      · exact ih (printable.append (.cons here .nil)) _ _

theorem text (content : String) (column : Nat) : IsPrintable (Writer.text column content) := by
  unfold Writer.text
  refine .cons rfl ?_
  cases style : ScalarStyle.ofText content.toList with
  | plain =>
    have allows := (ScalarStyle.of_plain style).2
    simp only [ScalarStyle.allowsPlain, Bool.and_eq_true, Bool.not_eq_true',
      List.any_eq_false, Bool.not_eq_true] at allows
    exact plain allows.1.1.1.1 _ _
  | single =>
    have allows := ScalarStyle.of_single style
    simp only [ScalarStyle.allowsSingle, Bool.and_eq_true, Bool.not_eq_true',
      List.any_eq_false, Bool.not_eq_true] at allows
    exact .cons rfl (.append (single allows.1.1 _ _ _ _) (by decide))
  | double => exact .cons rfl (.append (double _ .nil _ _) (by decide))

theorem entry (value : Writer.Entry) (column : Nat) : IsPrintable (Writer.entry column value) := by
  cases value with
  | text content => exact text content column
  | list items =>
    cases items with
    | nil => exact .cons rfl (.cons rfl (.cons rfl .nil))
    | cons item items =>
      intro c inside
      obtain ⟨item, -, inside⟩ := List.mem_flatMap.mp inside
      exact IsPrintable.cons rfl (.cons rfl (text item 1)) c inside

theorem mapping {entries : List (String × Writer.Entry)}
    (keys : ∀ entry ∈ entries, IsPrintable entry.1.toList) :
    IsPrintable (Writer.mapping entries).toList := by
  rw [Writer.mapping, String.toList_ofList]
  intro c inside
  obtain ⟨⟨key, value⟩, listed, inside⟩ := List.mem_flatMap.mp inside
  have whole : IsPrintable (key.toList ++ ':' :: Writer.entry (key.length + 1) value ++ ['\n']) :=
    ((keys _ listed).append (.cons rfl (entry value _))).append (by decide)
  exact whole c inside

theorem allowed (printable : IsPrintable chars) : chars.all isAllowed = true := by
  rw [List.all_eq_true]
  intro c inside
  have here := printable c inside
  simp only [isSpecial, Bool.not_eq_false', Bool.or_eq_true, Bool.and_eq_true, beq_iff_eq,
    decide_eq_true_eq] at here
  rcases here with rfl | ⟨least, most⟩
  · rfl
  · have least' : 0x20 ≤ c.toNat := least
    have most' : c.toNat ≤ 0x7E := most
    simp [isAllowed, least', most']

end IsPrintable

end EnumTables.Yaml
