import Mathlib.Algebra.BigOperators.Group.List.Basic
import Mathlib.Data.List.Nodup
import Mathlib.Data.List.Range

/-! Numbering under keys: each item has the number of those before it that have its key, so
the numbers of a key are dense, and no key has one number twice. -/
namespace Relational
variable {α κ : Type} [DecidableEq κ] {key : α → κ} {index : α → Int} {items : List α}

/-- The items of a key. -/
def keyed (key : α → κ) (k : κ) (items : List α) : List α := items.filter (fun item => key item = k)

/-- Each item, newest first, has the number of the older ones with its key. -/
def Numbered (key : α → κ) (index : α → Int) : List α → Prop
  | [] => True
  | item :: older => index item = (keyed key (key item) older).length ∧ Numbered key index older

theorem keyed_cons_self (item : α) : keyed key (key item) (item :: items) = item :: keyed key (key item) items :=
  List.filter_cons_of_pos (by simp)

theorem keyed_cons_ne {item : α} {k : κ} (other : key item ≠ k) : keyed key k (item :: items) = keyed key k items :=
  List.filter_cons_of_neg (by simpa using other)

theorem mem_keyed {k : κ} {item : α} : item ∈ keyed key k items ↔ item ∈ items ∧ key item = k := by
  rw [keyed, List.mem_filter, decide_eq_true_eq]

theorem keyed_length_le (key : α → κ) (k : κ) (items : List α) : (keyed key k items).length ≤ items.length :=
  List.length_filter_le _ _

/-- The numbers of a key, in the order of the items. -/
theorem Numbered.indices (numbered : Numbered key index items) (k : κ) :
    (keyed key k items).reverse.map index = (List.range (keyed key k items).length).map Int.ofNat := by
  induction items with
  | nil => rfl
  | cons item older ih =>
      obtain ⟨number, earlier⟩ := numbered
      by_cases same : key item = k
      · subst same
        rw [keyed_cons_self, List.reverse_cons, List.map_append, ih earlier, List.length_cons, List.range_succ,
          List.map_append, List.map_singleton, number]
        rfl
      · rw [keyed_cons_ne same]
        exact ih earlier

theorem Numbered.bounds (numbered : Numbered key index items) {item : α} (member : item ∈ items) :
    0 ≤ index item ∧ index item < (keyed key (key item) items).length := by
  have inside : index item ∈ (List.range (keyed key (key item) items).length).map Int.ofNat := by
    rw [← numbered.indices]
    exact List.mem_map_of_mem (List.mem_reverse.mpr (mem_keyed.mpr ⟨member, rfl⟩))
  obtain ⟨n, small, number⟩ := List.mem_map.mp inside
  rw [List.mem_range] at small
  rw [← number]
  exact ⟨Int.natCast_nonneg n, Int.ofNat_lt.mpr small⟩

theorem Numbered.nodup (numbered : Numbered key index items) :
    (items.map (fun item => (key item, index item))).Nodup := by
  induction items with
  | nil => exact List.nodup_nil
  | cons item older ih =>
      obtain ⟨number, earlier⟩ := numbered
      refine List.nodup_cons.mpr ⟨fun repeated => ?_, ih earlier⟩
      obtain ⟨other, member, same⟩ := List.mem_map.mp repeated
      obtain ⟨sameKey, sameIndex⟩ := Prod.mk.inj same
      have below := (earlier.bounds member).2
      rw [sameKey, sameIndex, number] at below
      exact absurd below (Int.lt_irrefl _)

theorem sum_ite {M : Type} [AddCommMonoid M] (p : α → Prop) [DecidablePred p] (f : α → M) (items : List α) :
    (items.map (fun item => if p item then f item else 0)).sum = ((items.filter p).map f).sum := by
  rw [List.sum_map_ite]
  simp

/-- Items that match one to one under their keys add up to the same. -/
theorem sum_matched {β γ M : Type} [AddCommMonoid M] {others : List β} (key : α → γ) (key' : β → γ) {f : α → M}
    {g : β → M} (distinct : (items.map key).Nodup) (distinct' : (others.map key').Nodup)
    (onto : ∀ item ∈ items, ∃ other ∈ others, key' other = key item ∧ g other = f item)
    (back : ∀ other ∈ others, ∃ item ∈ items, key item = key' other ∧ f item = g other) :
    (items.map f).sum = (others.map g).sum := by
  have nodup : (items.map (fun item => (key item, f item))).Nodup :=
    List.Nodup.of_map Prod.fst (by simpa only [List.map_map, Function.comp_def] using distinct)
  have nodup' : (others.map (fun other => (key' other, g other))).Nodup :=
    List.Nodup.of_map Prod.fst (by simpa only [List.map_map, Function.comp_def] using distinct')
  have perm : (items.map (fun item => (key item, f item))).Perm (others.map (fun other => (key' other, g other))) := by
    refine (List.perm_ext_iff_of_nodup nodup nodup').mpr (fun pair => ?_)
    constructor
    · intro member
      obtain ⟨item, inside, rfl⟩ := List.mem_map.mp member
      obtain ⟨other, there, sameKey, same⟩ := onto item inside
      exact List.mem_map.mpr ⟨other, there, Prod.ext sameKey same⟩
    · intro member
      obtain ⟨other, inside, rfl⟩ := List.mem_map.mp member
      obtain ⟨item, there, sameKey, same⟩ := back other inside
      exact List.mem_map.mpr ⟨item, there, Prod.ext sameKey same⟩
  have values := (perm.map Prod.snd).sum_eq
  simpa only [List.map_map, Function.comp_def] using values

end Relational
