import Mathlib.Tactic.Common

/-!
# Computations that may fail

A chain of steps gives a value if every step gives one, and otherwise fails as its first
failing step does.
-/

namespace Gatehouse
namespace Outcome

variable {ε α β : Type}

/-- A chain gives a value if its first step does and its second goes on. -/
theorem bind_eq_ok_iff
    {first : Except ε α}
    {next : α → Except ε β}
    {result : β} :
    (first >>= next) = .ok result ↔ ∃ value,
      first = .ok value ∧ next value = .ok result := by
  cases first <;> simp [bind, Except.bind]

/-- A chain fails as its first step, or else as its second one. -/
theorem bind_eq_error_iff
    {first : Except ε α}
    {next : α → Except ε β}
    {cause : ε} :
    (first >>= next) = .error cause ↔
      first = .error cause ∨ ∃ value, first = .ok value ∧ next value = .error cause := by
  cases first <;> simp [bind, Except.bind]

/-- All items of a list have values if each one has. -/
theorem exists_mapM_iff
    {step : α → Except ε β}
    {items : List α} :
    (∃ values, items.mapM step = .ok values) ↔
      ∀ item ∈ items, ∃ value, step item = .ok value := by
  induction items with
  | nil => exact ⟨fun _ _ present => absurd present List.not_mem_nil, fun _ => ⟨[], rfl⟩⟩
  | cons item others inductionHypothesis =>
      rw [List.forall_mem_cons, ← inductionHypothesis, List.mapM_cons]
      constructor
      · rintro ⟨values, all⟩
        obtain ⟨value, first, rest⟩ := bind_eq_ok_iff.mp all
        obtain ⟨otherValues, others, -⟩ := bind_eq_ok_iff.mp rest
        exact ⟨⟨value, first⟩, ⟨otherValues, others⟩⟩
      · rintro ⟨⟨value, first⟩, ⟨otherValues, rest⟩⟩
        rw [first, rest]
        exact ⟨value :: otherValues, rfl⟩

/-- The values of all items of a list are the values that the items have. -/
theorem mem_iff_of_mapM_eq_ok
    {step : α → Except ε β}
    {items : List α}
    {values : List β}
    (all : items.mapM step = .ok values)
    {value : β} :
    value ∈ values ↔ ∃ item ∈ items, step item = .ok value := by
  induction items generalizing values with
  | nil =>
      cases all
      simp
  | cons item others inductionHypothesis =>
      rw [List.mapM_cons] at all
      obtain ⟨first, isFirst, rest⟩ := bind_eq_ok_iff.mp all
      obtain ⟨further, areFurther, areAll⟩ := bind_eq_ok_iff.mp rest
      cases areAll
      simp only [List.mem_cons, or_and_right, exists_or, exists_eq_left, isFirst,
        Except.ok.injEq, inductionHypothesis areFurther]
      exact or_congr_left eq_comm

/-- Going through a list fails at the first item whose step fails. -/
theorem foldlM_eq_error_iff
    {step : β → α → Except ε β}
    {start : β}
    {items : List α}
    {cause : ε} :
    items.foldlM step start = .error cause ↔
      ∃ before item after state, items = before ++ item :: after ∧
        before.foldlM step start = .ok state ∧ step state item = .error cause := by
  induction items generalizing start with
  | nil =>
      constructor
      · intro fails
        cases fails
      · rintro ⟨before, item, after, state, isSplit, -⟩
        exact absurd isSplit.symm
          (List.append_ne_nil_of_right_ne_nil _ (List.cons_ne_nil _ _))
  | cons first others inductionHypothesis =>
      rw [List.foldlM_cons, bind_eq_error_iff]
      constructor
      · rintro (fails | ⟨next, steps, fails⟩)
        · exact ⟨[], first, others, start, rfl, rfl, fails⟩
        · obtain ⟨before, item, after, state, rfl, reaches, stops⟩ :=
            inductionHypothesis.mp fails
          refine ⟨first :: before, item, after, state, rfl, ?_, stops⟩
          rw [List.foldlM_cons, steps]
          exact reaches
      · rintro ⟨before, item, after, state, isSplit, reaches, stops⟩
        cases before with
        | nil =>
            cases isSplit
            cases reaches
            exact .inl stops
        | cons _ before =>
            cases isSplit
            rw [List.foldlM_cons] at reaches
            obtain ⟨next, steps, goesOn⟩ := bind_eq_ok_iff.mp reaches
            exact .inr ⟨next, steps, inductionHypothesis.mpr
              ⟨before, item, after, state, rfl, goesOn, stops⟩⟩

end Outcome
end Gatehouse
