import LLMPool.Relational.Table
import Mathlib.Data.List.Sort

/-! Reading a table in the order of its keys from a cursor on: each page moves the cursor to
its last key. -/
namespace Relational

section Lookahead
variable {l : List ρ} {n : Nat}

theorem lt_lookahead : n < (l.take (n + 1)).length ↔ n < l.length := by
  rw [List.length_take]
  omega

/-- One row more than a page is read, to see whether there is more; the page itself is without it. -/
theorem take_lookahead : (if n < (l.take (n + 1)).length then (l.take (n + 1)).take n else l.take (n + 1)) = l.take n := by
  by_cases more : n < l.length
  · rw [if_pos (lt_lookahead.mpr more), List.take_take, Nat.min_eq_left (Nat.le_succ n)]
  · rw [if_neg (fun longer => more (lt_lookahead.mp longer)), List.take_of_length_le (by omega),
      List.take_of_length_le (by omega)]

end Lookahead

/-- Where a cursor is after a page. -/
def lastRank (rank : ρ → Int) (start : Int) (page : List ρ) : Int := (page.getLast?.map rank).getD start

section Ordered
variable {rank : ρ → Int} {l : List ρ} {n : Nat} {start : Int} {r : ρ}

theorem le_lastRank (ordered : l.Pairwise (fun r s => rank r < rank s)) (member : r ∈ l) :
    rank r ≤ lastRank rank start l := by
  cases last : l.getLast? with
  | none =>
      rw [List.getLast?_eq_none_iff.mp last] at member
      cases member
  | some m =>
      obtain ⟨earlier, rfl⟩ := List.getLast?_eq_some_iff.mp last
      simp only [lastRank, last, Option.map_some, Option.getD_some]
      rcases List.mem_append.mp member with before | here
      · exact ((List.pairwise_append.mp ordered).2.2 r before m (List.mem_singleton.mpr rfl)).le
      · rw [List.mem_singleton.mp here]

theorem lastRank_lt_of_mem_drop (ordered : l.Pairwise (fun r s => rank r < rank s)) (positive : 0 < n)
    (member : r ∈ l.drop n) : lastRank rank start (l.take n) < rank r := by
  cases last : (l.take n).getLast? with
  | none =>
      rcases List.take_eq_nil_iff.mp (List.getLast?_eq_none_iff.mp last) with zero | empty
      · omega
      · rw [empty, List.drop_nil] at member
        cases member
  | some m =>
      have parts := ordered
      rw [← List.take_append_drop n l] at parts
      simp only [lastRank, last, Option.map_some, Option.getD_some]
      exact (List.pairwise_append.mp parts).2.2 m (List.mem_of_getLast? last) r member

/-- A page has what is not beyond the cursor that it leaves. -/
theorem mem_take_iff (ordered : l.Pairwise (fun r s => rank r < rank s)) (positive : 0 < n) :
    r ∈ l.take n ↔ r ∈ l ∧ rank r ≤ lastRank rank start (l.take n) := by
  constructor
  · exact fun member => ⟨List.mem_of_mem_take member, le_lastRank (ordered.sublist (List.take_sublist n l)) member⟩
  · rintro ⟨member, within⟩
    rw [← List.take_append_drop n l] at member
    rcases List.mem_append.mp member with page | later
    · exact page
    · have beyond : lastRank rank start (l.take n) < rank r := lastRank_lt_of_mem_drop ordered positive later
      omega

/-- There is more than a page where something is beyond the cursor that it leaves. -/
theorem lt_length_iff (ordered : l.Pairwise (fun r s => rank r < rank s)) (positive : 0 < n) :
    n < l.length ↔ ∃ r ∈ l, lastRank rank start (l.take n) < rank r := by
  constructor
  · intro more
    obtain ⟨r, member⟩ := List.exists_mem_of_length_pos (l := l.drop n) (by rw [List.length_drop]; omega)
    exact ⟨r, List.mem_of_mem_drop member, lastRank_lt_of_mem_drop ordered positive member⟩
  · rintro ⟨r, member, beyond⟩
    by_contra all
    rw [List.take_of_length_le (Nat.le_of_not_lt all)] at beyond
    have within : rank r ≤ lastRank rank start l := le_lastRank ordered member
    omega

theorem start_le_lastRank (above : ∀ r ∈ l, start < rank r) : start ≤ lastRank rank start l := by
  cases last : l.getLast? with
  | none => simp only [lastRank, last, Option.map_none, Option.getD_none, Int.le_refl]
  | some m =>
      simp only [lastRank, last, Option.map_some, Option.getD_some]
      exact (above m (List.mem_of_getLast? last)).le

end Ordered

namespace Table
variable {ρ υ : Type} [Row ρ Int υ] {t : Table ρ} {P : ρ → Bool} {start : Int} {r : ρ}

/-- The rows beyond a cursor, in the order of their keys. -/
def after (t : Table ρ) (P : ρ → Bool) (start : Int) : List ρ :=
  (t.rows.filter (fun r => P r && decide (start < key r))).insertionSort (fun r s => (key r : Int) ≤ key s)

theorem mem_after : r ∈ t.after P start ↔ r ∈ t ∧ P r = true ∧ start < key r := by
  rw [after, List.mem_insertionSort, List.mem_filter, Bool.and_eq_true, decide_eq_true_eq]
  rfl

theorem after_ordered : (t.after P start).Pairwise (fun r s => (key r : Int) < key s) := by
  have sorted : (t.after P start).Pairwise (fun r s => (key r : Int) ≤ key s) := by
    have total : Std.Total (fun r s : ρ => (key r : Int) ≤ key s) := ⟨fun r s => Int.le_total _ _⟩
    have trans : IsTrans ρ (fun r s => (key r : Int) ≤ key s) := ⟨fun _ _ _ first second => Int.le_trans first second⟩
    exact List.pairwise_insertionSort _ _
  have distinct : ((t.after P start).map key).Nodup := by
    have perm := (List.perm_insertionSort (fun r s : ρ => (key r : Int) ≤ key s)
      (t.rows.filter (fun r => P r && decide (start < key r)))).map (key : ρ → Int)
    exact perm.nodup_iff.mpr ((List.filter_sublist.map _).nodup t.keys_nodup)
  exact (sorted.and (List.pairwise_map.mp distinct)).imp (fun both => lt_of_le_of_ne both.1 both.2)

end Table
end Relational
