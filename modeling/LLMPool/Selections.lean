import Mathlib.Data.List.Sort

/-! The least elements of a list, by a stable sort and a cut: how many they are, how they
are ordered, and that none that is left out is below one that is kept. -/
namespace Selections
variable {ρ κ : Type} [LinearOrder κ] {usage : ρ → κ} {count : Nat} {rows : List ρ} {a b : ρ}

def sorted (usage : ρ → κ) (rows : List ρ) : List ρ := rows.insertionSort (fun a b => usage a ≤ usage b)

def least (usage : ρ → κ) (count : Nat) (rows : List ρ) : List ρ := (sorted usage rows).take count

def unselected (usage : ρ → κ) (count : Nat) (rows : List ρ) : List ρ := (sorted usage rows).drop count

theorem sorted_pairwise (usage : ρ → κ) (rows : List ρ) :
    (sorted usage rows).Pairwise (fun a b => usage a ≤ usage b) := by
  have total : Std.Total (fun a b : ρ => usage a ≤ usage b) := ⟨fun a b => le_total _ _⟩
  have trans : IsTrans ρ (fun a b => usage a ≤ usage b) := ⟨fun _ _ _ first second => first.trans second⟩
  exact List.pairwise_insertionSort _ rows

theorem least_append_unselected : least usage count rows ++ unselected usage count rows = sorted usage rows :=
  List.take_append_drop _ _

theorem perm_selected : (least usage count rows ++ unselected usage count rows).Perm rows := by
  rw [least_append_unselected]
  exact List.perm_insertionSort _ _

theorem length_least (usage : ρ → κ) (count : Nat) (rows : List ρ) :
    (least usage count rows).length = min count rows.length := by
  rw [least, List.length_take, sorted, List.length_insertionSort]

theorem mem_of_mem_least (member : a ∈ least usage count rows) : a ∈ rows :=
  (List.mem_insertionSort _).mp (List.mem_of_mem_take member)

theorem least_pairwise (usage : ρ → κ) (count : Nat) (rows : List ρ) :
    (least usage count rows).Pairwise (fun a b => usage a ≤ usage b) :=
  (sorted_pairwise usage rows).sublist (List.take_sublist _ _)

/-- What is left out is not below what is kept. -/
theorem least_le (kept : a ∈ least usage count rows) (inside : b ∈ rows)
    (left_out : b ∉ least usage count rows) : usage a ≤ usage b := by
  have ordered : (least usage count rows ++ unselected usage count rows).Pairwise
      (fun a b => usage a ≤ usage b) := by
    rw [least_append_unselected]
    exact sorted_pairwise usage rows
  rw [List.pairwise_append] at ordered
  have split : (least usage count rows ++ unselected usage count rows).Perm rows := perm_selected
  have dropped : b ∈ unselected usage count rows := by
    rcases List.mem_append.mp (split.mem_iff.mpr inside) with again | dropped
    · exact absurd again left_out
    · exact dropped
  exact ordered.2.2 a kept b dropped

theorem least_nodup {label : ρ → γ} (distinct : (rows.map label).Nodup) :
    ((least usage count rows).map label).Nodup := by
  have all : ((least usage count rows ++ unselected usage count rows).map label).Nodup :=
    (perm_selected.map label).nodup_iff.mpr distinct
  exact (List.map_append ▸ all).of_append_left

/-- Sorting the rows with their keys written beside them. -/
theorem least_zip (usage : ρ → κ) (count : Nat) (rows : List ρ) :
    ((((rows.map usage).zip rows).insertionSort (fun a b => a.1 ≤ b.1)).take count).map (fun entry => entry.2) =
      least usage count rows := by
  have paired : (rows.map usage).zip rows = rows.map (fun row => (usage row, row)) := by
    induction rows with
    | nil => rfl
    | cons row rest ih => rw [List.map_cons, List.zip_cons_cons, ih, List.map_cons]
  have beside : (sorted usage rows).map (fun row => (usage row, row)) =
      (rows.map (fun row => (usage row, row))).insertionSort (fun a b => a.1 ≤ b.1) :=
    List.map_insertionSort _ _ _ _ (fun _ _ _ _ => Iff.rfl)
  rw [paired, ← beside, ← List.map_take, List.map_map]
  exact List.map_id _

section Firsts
variable [DecidableEq γ] {label : ρ → γ} {seen : List γ} {c : γ}

/-- The first row of every label that has not been seen. -/
def firsts (label : ρ → γ) : List γ → List ρ → List ρ
  | _, [] => []
  | seen, row :: rest =>
      if label row ∈ seen then firsts label seen rest else row :: firsts label (label row :: seen) rest

theorem mem_labels_firsts :
    c ∈ (firsts label seen rows).map label ↔ c ∉ seen ∧ c ∈ rows.map label := by
  induction rows generalizing seen with
  | nil => simp [firsts]
  | cons row rest ih =>
      by_cases known : label row ∈ seen
      · simp only [firsts, known, if_true, ih, List.map_cons, List.mem_cons]
        refine and_congr_right (fun unseen => ?_)
        have other : c ≠ label row := fun same => unseen (same ▸ known)
        simp only [other, false_or]
      · simp only [firsts, known, if_false, List.map_cons, List.mem_cons, ih, not_or]
        constructor
        · rintro (rfl | ⟨⟨_, unseen⟩, inside⟩)
          · exact ⟨known, .inl rfl⟩
          · exact ⟨unseen, .inr inside⟩
        · rintro ⟨unseen, here | inside⟩
          · exact .inl here
          · by_cases here : c = label row
            · exact .inl here
            · exact .inr ⟨⟨here, unseen⟩, inside⟩

theorem nodup_labels_firsts : ((firsts label seen rows).map label).Nodup := by
  induction rows generalizing seen with
  | nil => exact List.nodup_nil
  | cons row rest ih =>
      by_cases known : label row ∈ seen
      · simp only [firsts, known, if_true]
        exact ih
      · simp only [firsts, known, if_false, List.map_cons]
        refine List.nodup_cons.mpr ⟨fun again => ?_, ih⟩
        exact (mem_labels_firsts.mp again).1 List.mem_cons_self

end Firsts

end Selections
