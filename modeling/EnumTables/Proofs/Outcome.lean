import Mathlib.Tactic

/-!
# Outcomes in sequence

When a sequence of steps succeeds, and which of its failures comes out. The steps over a list
succeed iff each of them does (`mapM_eq_ok_iff`), and otherwise end with the first that fails
(`mapM_eq_error_iff`). An outcome *reports* a list of failures if it is the first of them, or a
success if there are none; of steps in sequence the failures stand behind each other
(`Reports.bind`, `Reports.mapM`).
-/

namespace EnumTables

variable {ε α β : Type}

theorem toOption_eq_some {outcome : Except ε α} {a : α} :
    outcome.toOption = some a ↔ outcome = .ok a := by
  cases outcome <;> simp [Except.toOption]

theorem exists_eq_ok {outcome : Except ε α} (h : outcome.toOption.isSome = true) :
    ∃ a, outcome = .ok a := by
  obtain ⟨a, found⟩ := Option.isSome_iff_exists.mp h
  exact ⟨a, toOption_eq_some.mp found⟩

theorem mapError_eq_ok {ε' : Type} {outcome : Except ε α} {f : ε → ε'} {a : α} :
    outcome.mapError f = .ok a ↔ outcome = .ok a := by
  cases outcome <;> simp [Except.mapError]

theorem map_eq_ok {outcome : Except ε α} {f : α → β} {b : β} :
    outcome.map f = .ok b ↔ ∃ a, outcome = .ok a ∧ f a = b := by
  cases outcome <;> simp [Except.map]

theorem map_eq_error {outcome : Except ε α} {f : α → β} {e : ε} :
    outcome.map f = .error e ↔ outcome = .error e := by
  cases outcome <;> simp [Except.map]

theorem bind_eq_ok {outcome : Except ε α} {next : α → Except ε β} {b : β} :
    outcome >>= next = .ok b ↔ ∃ a, outcome = .ok a ∧ next a = .ok b := by
  cases outcome <;> simp [bind, Except.bind]

theorem bind_eq_error {outcome : Except ε α} {next : α → Except ε β} {e : ε} :
    outcome >>= next = .error e ↔
      outcome = .error e ∨ ∃ a, outcome = .ok a ∧ next a = .error e := by
  cases outcome <;> simp [bind, Except.bind]

theorem mapM_eq_ok_iff {f : α → Except ε β} {xs : List α} {ys : List β} :
    xs.mapM f = .ok ys ↔ List.Forall₂ (fun x y => f x = .ok y) xs ys := by
  induction xs generalizing ys with
  | nil => simp [pure, Except.pure, eq_comm]
  | cons x xs ih =>
    simp only [List.mapM_cons, bind_eq_ok, ih, pure, Except.pure, Except.ok.injEq,
      List.forall₂_cons_left_iff]
    constructor
    · rintro ⟨y, first, rest, others, rfl⟩
      exact ⟨y, rest, first, others, rfl⟩
    · rintro ⟨y, rest, first, others, rfl⟩
      exact ⟨y, first, rest, others, rfl⟩

theorem keeps_of_foldlM (keeps : β → Prop) {step : β → α → Except ε β} {start last : β}
    {xs : List α} (each : ∀ before x after, keeps before → step before x = .ok after → keeps after)
    (first : keeps start) (h : xs.foldlM step start = .ok last) : keeps last := by
  induction xs generalizing start with
  | nil =>
    obtain rfl := Except.ok.inj h
    exact first
  | cons x xs ih =>
    rw [List.foldlM_cons] at h
    obtain ⟨middle, stepped, h⟩ := bind_eq_ok.mp h
    exact ih (each _ _ _ first stepped) h

theorem mapM_eq_error_iff {f : α → Except ε β} {xs : List α} {e : ε} :
    xs.mapM f = .error e ↔ ∃ before x after, xs = before ++ x :: after ∧
      (∀ earlier ∈ before, ∃ y, f earlier = .ok y) ∧ f x = .error e := by
  induction xs with
  | nil => simp [pure, Except.pure]
  | cons x xs ih =>
    rw [List.mapM_cons, bind_eq_error]
    constructor
    · rintro (here | ⟨y, first, later⟩)
      · exact ⟨[], x, xs, rfl, by simp, here⟩
      · rcases bind_eq_error.mp later with later | ⟨ys, -, later⟩
        · obtain ⟨before, x', after, rfl, earlier, there⟩ := ih.mp later
          refine ⟨x :: before, x', after, rfl, ?_, there⟩
          exact List.forall_mem_cons.mpr ⟨⟨y, first⟩, earlier⟩
        · cases later
    · rintro ⟨before, x', after, split, earlier, there⟩
      cases before with
      | nil =>
        obtain ⟨rfl, -⟩ := List.cons.inj split
        exact Or.inl there
      | cons other before =>
        obtain ⟨rfl, rfl⟩ := List.cons.inj split
        obtain ⟨y, first⟩ := earlier _ List.mem_cons_self
        have rest := ih.mpr ⟨before, x', after, rfl,
          fun other inside => earlier other (List.mem_cons_of_mem _ inside), there⟩
        exact Or.inr ⟨y, first, bind_eq_error.mpr (Or.inl rest)⟩

theorem exists_of_mapM_eq_error {f : α → Except ε β} {xs : List α} {e : ε}
    (h : xs.mapM f = .error e) : ∃ x ∈ xs, f x = .error e := by
  obtain ⟨before, x, after, rfl, -, failed⟩ := mapM_eq_error_iff.mp h
  exact ⟨x, List.mem_append_right _ List.mem_cons_self, failed⟩

theorem forall₂_exists_iff {γ : Type} {R : α → γ → Prop} {f : α → γ → β} {xs : List α}
    {ys : List β} :
    List.Forall₂ (fun x y => ∃ z, R x z ∧ y = f x z) xs ys ↔
      ∃ zs, List.Forall₂ R xs zs ∧ ys = List.zipWith f xs zs := by
  induction xs generalizing ys with
  | nil => simp
  | cons x xs ih =>
    simp only [List.forall₂_cons_left_iff, ih]
    constructor
    · rintro ⟨_, _, ⟨z, first, rfl⟩, ⟨zs, others, rfl⟩, rfl⟩
      exact ⟨z :: zs, ⟨z, zs, first, others, rfl⟩, rfl⟩
    · rintro ⟨_, ⟨z, zs, first, others, rfl⟩, rfl⟩
      exact ⟨_, _, ⟨z, first, rfl⟩, ⟨zs, others, rfl⟩, rfl⟩

theorem forall₂_split {R : α → β → Prop} {xs : List α} {before after : List β} {y : β}
    (each : List.Forall₂ R xs (before ++ y :: after)) :
    ∃ before' x after', xs = before' ++ x :: after' ∧ List.Forall₂ R before' before ∧ R x y := by
  induction before generalizing xs with
  | nil =>
    obtain ⟨x, rest, here, -, rfl⟩ := List.forall₂_cons_right_iff.mp each
    exact ⟨[], x, rest, rfl, .nil, here⟩
  | cons first before ih =>
    obtain ⟨x, rest, here, others, rfl⟩ := List.forall₂_cons_right_iff.mp each
    obtain ⟨before', x', after', rfl, each', there⟩ := ih others
    exact ⟨x :: before', x', after', rfl, .cons here each', there⟩

theorem forall₂_getElem? {R : α → β → Prop} {xs : List α} {ys : List β}
    (each : List.Forall₂ R xs ys) {place : Nat} {x : α} (h : xs[place]? = some x) :
    ∃ y, ys[place]? = some y ∧ R x y := by
  induction each generalizing place with
  | nil => simp at h
  | cons first _ ih =>
    cases place with
    | zero =>
      obtain rfl : _ = x := by simpa using h
      exact ⟨_, rfl, first⟩
    | succ place => exact ih (by simpa using h)

theorem exists_of_mem_zipWith {γ : Type} {f : α → β → γ} {xs : List α} {ys : List β} {z : γ}
    (h : z ∈ List.zipWith f xs ys) : ∃ x ∈ xs, ∃ y ∈ ys, z = f x y := by
  rw [← List.map_uncurry_zip_eq_zipWith, List.mem_map] at h
  obtain ⟨⟨x, y⟩, inside, rfl⟩ := h
  obtain ⟨left, right⟩ := List.of_mem_zip inside
  exact ⟨x, left, y, right, rfl⟩

theorem exists_mem_of_forall₂ {R : α → β → Prop} {xs : List α} {ys : List β}
    (each : List.Forall₂ R xs ys) {y : β} (h : y ∈ ys) : ∃ x ∈ xs, R x y := by
  induction each with
  | nil => exact absurd h List.not_mem_nil
  | cons first _ ih =>
    rcases List.mem_cons.mp h with rfl | later
    · exact ⟨_, List.mem_cons_self, first⟩
    · obtain ⟨x, inside, related⟩ := ih later
      exact ⟨x, List.mem_cons_of_mem _ inside, related⟩

theorem exists_mapM_eq_ok_iff {f : α → Except ε β} {xs : List α} :
    (∃ ys, xs.mapM f = .ok ys) ↔ ∀ x ∈ xs, ∃ y, f x = .ok y := by
  constructor
  · rintro ⟨ys, taken⟩ x inside
    have each := List.Forall₂.flip (mapM_eq_ok_iff.mp taken)
    obtain ⟨y, -, found⟩ := exists_mem_of_forall₂ each inside
    exact ⟨y, found⟩
  · intro each
    cases outcome : xs.mapM f with
    | ok ys => exact ⟨ys, rfl⟩
    | error e =>
      obtain ⟨x, inside, failed⟩ := exists_of_mapM_eq_error outcome
      obtain ⟨y, found⟩ := each x inside
      rw [failed] at found
      cases found

/-! ## Reports -/

/-- The outcome is the first of the failures, and a success iff there are none. -/
def Reports (outcome : Except ε α) (failures : List ε) : Prop :=
  match outcome with
  | .ok _ => failures = []
  | .error e => failures.head? = some e

namespace Reports

variable {failures others : List ε}

theorem eq_ok_iff {outcome : Except ε α} (h : Reports outcome failures) :
    (∃ a, outcome = .ok a) ↔ failures = [] := by
  cases outcome with
  | ok a =>
    obtain rfl : failures = [] := h
    simp
  | error e =>
    have failed : failures ≠ [] := by
      rintro rfl
      cases h
    simp [failed]

theorem eq_error_iff {outcome : Except ε α} (h : Reports outcome failures) {e : ε} :
    outcome = .error e ↔ failures.head? = some e := by
  cases outcome with
  | ok a =>
    obtain rfl : failures = [] := h
    simp
  | error e' =>
    have first : failures.head? = some e' := h
    simp [first]

theorem bind {outcome : Except ε α} {next : α → Except ε β} (first : Reports outcome failures)
    (second : ∀ a, outcome = .ok a → Reports (next a) others) :
    Reports (outcome >>= next) (failures ++ others) := by
  cases outcome with
  | ok a =>
    obtain rfl : failures = [] := first
    exact second a rfl
  | error e =>
    have first : failures.head? = some e := first
    change (failures ++ others).head? = some e
    rw [List.head?_append, first, Option.some_or]

theorem map {outcome : Except ε α} (h : Reports outcome failures) (f : α → β) :
    Reports (do return f (← outcome)) failures := by
  cases outcome <;> exact h

theorem mapM {γ : Type} {step : α → Except ε β} {failuresOf : γ → List ε} {xs : List α}
    {ys : List γ} (each : List.Forall₂ (fun y x => Reports (step x) (failuresOf y)) ys xs) :
    Reports (xs.mapM step) (ys.flatMap failuresOf) := by
  induction each with
  | nil => exact rfl
  | cons first _ ih =>
    rw [List.mapM_cons, List.flatMap_cons]
    exact first.bind fun a _ => ih.map (a :: ·)

end Reports

end EnumTables
