/-
Module: ColumnarSql.Collect
Purpose: Applying a step that may fail to every item of a list.
Main exports:
  collect, collect_eq_ok_iff
-/

namespace ColumnarSql

/-- Apply `step` to every item in order and collect the results.  The first
failure is the result as a whole. -/
def collect {ε α β : Type} (step : α → Except ε β) : List α → Except ε (List β)
  | [] => .ok []
  | item :: rest =>
      match step item with
      | .error fault => .error fault
      | .ok value =>
          match collect step rest with
          | .error fault => .error fault
          | .ok values => .ok (value :: values)

/-- Collecting succeeds exactly if every step does, and keeps the order. -/
theorem collect_eq_ok_iff {ε α β : Type} {step : α → Except ε β} {items : List α}
    {values : List β} : collect step items = .ok values ↔ items.map step = values.map .ok := by
  induction items generalizing values with
  | nil => cases values <;> simp [collect]
  | cons item rest inductionHypothesis =>
      rw [collect]
      cases first : step item with
      | error fault => cases values <;> simp [first]
      | ok value =>
          cases more : collect step rest with
          | error fault =>
              have stops (others : List β) : rest.map step ≠ others.map .ok := by
                intro same
                cases (inductionHypothesis.mpr same).symm.trans more
              cases values <;> simp [first, stops]
          | ok found =>
              have same := inductionHypothesis.mp more
              have injective : ∀ a b : β, (.ok a : Except ε β) = .ok b → a = b :=
                fun _ _ same => Except.ok.inj same
              cases values <;> simp [first, same, List.map_inj_right injective]

end ColumnarSql
