import Mathlib.Order.Basic

/-! A register that follows a stream, and what is read off it at the marks of the stream. -/
namespace Snapshots

/-- The register after each marked item. -/
def snapshots (step : σ → α → σ) (isMark : α → Bool) (s : σ) : List α → List σ
  | [] => []
  | x :: xs =>
      if isMark x then step s x :: snapshots step isMark (step s x) xs
      else snapshots step isMark (step s x) xs

variable {step : σ → α → σ} {isMark : α → Bool} {s t : σ} {xs : List α}

theorem snapshots_eq_nil : snapshots step isMark s xs = [] ↔ ∀ x ∈ xs, isMark x = false := by
  induction xs generalizing s with
  | nil => simp only [snapshots, List.not_mem_nil, false_implies, implies_true]
  | cons x xs ih =>
      cases marked : isMark x with
      | true => simp [snapshots, marked]
      | false => simp [snapshots, marked, ih]

/-- One snapshot is taken where the stream has one mark. -/
theorem snapshots_eq_singleton : snapshots step isMark s xs = [t] ↔
    ∃ before x after, xs = before ++ x :: after ∧ isMark x = true ∧ (∀ y ∈ before, isMark y = false) ∧
      (∀ y ∈ after, isMark y = false) ∧ (before ++ [x]).foldl step s = t := by
  induction xs generalizing s with
  | nil => simp [snapshots]
  | cons y ys ih =>
      cases marked : isMark y with
      | true =>
          simp only [snapshots, marked, if_true, List.cons.injEq, snapshots_eq_nil]
          constructor
          · rintro ⟨rfl, unmarked⟩
            exact ⟨[], y, ys, rfl, marked, fun _ never => absurd never List.not_mem_nil, unmarked, rfl⟩
          · rintro ⟨_ | ⟨z, before⟩, x, after, split, _, early, late, final⟩
            · cases split
              exact ⟨final, late⟩
            · cases split
              exact absurd (early y List.mem_cons_self) (by simp only [marked, reduceCtorEq, not_false_eq_true])
      | false =>
          simp only [snapshots, marked, Bool.false_eq_true, if_false, ih]
          constructor
          · rintro ⟨before, x, after, rfl, mark, early, late, final⟩
            refine ⟨y :: before, x, after, rfl, mark, ?_, late, final⟩
            exact List.forall_mem_cons.mpr ⟨marked, early⟩
          · rintro ⟨_ | ⟨z, before⟩, x, after, split, mark, early, late, final⟩
            · cases split
              exact absurd mark (by simp only [marked, Bool.false_eq_true, not_false_eq_true])
            · cases split
              exact ⟨before, x, after, rfl, mark, (List.forall_mem_cons.mp early).2, late, final⟩

/-- What a register holds that keeps the last reading. -/
def lastReading (read : α → Option β) (initial : β) (xs : List α) : β :=
  (xs.filterMap read).getLast?.getD initial

theorem lastReading_cons {read : α → Option β} {initial : β} (x : α) :
    lastReading read initial (x :: xs) = lastReading read ((read x).getD initial) xs := by
  simp only [lastReading]
  cases reading : read x with
  | none => rw [List.filterMap_cons_none reading, Option.getD_none]
  | some value =>
      rw [List.filterMap_cons_some reading, List.getLast?_cons, Option.getD_some, Option.getD_some]

end Snapshots
