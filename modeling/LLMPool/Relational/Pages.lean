import Mathlib.Data.List.Basic

/-! Pages of a list: windows of one size, numbered from one, that partition it. -/
namespace Relational
variable {α : Type}

/-- The pages are full but for the last, which is not empty, and together they are the list. -/
structure Pages (listed : List α) (size totalPages : Nat) (page : Nat → List α) : Prop where
  whole : (List.range totalPages).flatMap (fun k => page (k + 1)) = listed
  full : ∀ k, 1 ≤ k → k < totalPages → (page k).length = size
  last : 0 < totalPages → page totalPages ≠ []
  past : ∀ k, totalPages < k → page k = []

def window (listed : List α) (size k : Nat) : List α := (listed.drop ((k - 1) * size)).take size

theorem flatMap_window (listed : List α) (size n : Nat) :
    (List.range n).flatMap (fun k => window listed size (k + 1)) = listed.take (n * size) := by
  induction n with
  | zero => simp
  | succ n ih =>
      rw [List.range_succ, List.flatMap_append, ih, List.flatMap_singleton, window, Nat.add_sub_cancel,
        Nat.succ_mul, List.take_add]

section Ceiling
variable {length size : Nat}

theorem le_ceiling_mul (positive : 0 < size) : length ≤ (length + size - 1) / size * size := by
  have division := Nat.div_add_mod (length + size - 1) size
  have remainder := Nat.mod_lt (length + size - 1) positive
  rw [Nat.mul_comm] at division
  omega

theorem mul_lt_of_lt_ceiling (positive : 0 < size) (before : k < (length + size - 1) / size) :
    k * size < length := by
  have fits := (Nat.le_div_iff_mul_le positive).mp (Nat.succ_le_of_lt before)
  rw [Nat.succ_mul] at fits
  omega

end Ceiling

/-- The windows of a list, up to the ceiling of its length over their size, are its pages. -/
theorem Pages.windows (listed : List α) {size : Nat} (positive : 0 < size) :
    Pages listed size ((listed.length + size - 1) / size) (window listed size) where
  whole := by
    rw [flatMap_window]
    exact List.take_of_length_le (le_ceiling_mul positive)
  full k first before := by
    obtain ⟨k, rfl⟩ := Nat.exists_eq_add_of_le' first
    have fits := mul_lt_of_lt_ceiling positive before
    rw [Nat.succ_mul] at fits
    rw [window, Nat.add_sub_cancel, List.length_take, List.length_drop]
    omega
  last nonempty := by
    have fits := mul_lt_of_lt_ceiling positive (Nat.sub_lt nonempty Nat.one_pos)
    rw [window, ← List.length_pos_iff, List.length_take, List.length_drop]
    omega
  past k after := by
    have beyond : (listed.length + size - 1) / size * size ≤ (k - 1) * size :=
      Nat.mul_le_mul_right size (by omega)
    rw [window, List.drop_eq_nil_of_le (Nat.le_trans (le_ceiling_mul positive) beyond), List.take_nil]

end Relational
