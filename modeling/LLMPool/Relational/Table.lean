import Mathlib.Algebra.BigOperators.Group.List.Basic
import Mathlib.Algebra.Order.Ring.Int
import Mathlib.Data.List.Nodup
import Mathlib.Order.Interval.Set.Infinite
import Mathlib.Tactic.Abel

/-! Tables of rows under a primary key and one further unique index. A table
cannot hold two rows that agree on either, whatever is written to it. -/
namespace Relational

class Row (ρ : Type) (κ υ : outParam Type) where
  key : ρ → κ
  index : ρ → υ

export Row (key index)

section Columns
variable {ρ γ : Type} [DecidableEq γ] {column : ρ → γ} {rows : List ρ}

def seek (column : ρ → γ) (rows : List ρ) (value : γ) : Option ρ :=
  rows.find? (fun r => column r = value)

theorem seek_mem (found : seek column rows value = some r) : r ∈ rows ∧ column r = value :=
  ⟨List.mem_of_find?_eq_some found, by simpa using List.find?_some found⟩

theorem seek_none : seek column rows value = none ↔ ∀ r ∈ rows, column r ≠ value := by
  simp [seek]

theorem seek_of_mem (distinct : (rows.map column).Nodup) (member : r ∈ rows) :
    seek column rows (column r) = some r := by
  cases found : seek column rows (column r) with
  | none => exact absurd rfl (seek_none.mp found r member)
  | some s =>
      obtain ⟨inside, same⟩ := seek_mem found
      rw [List.inj_on_of_nodup_map distinct inside member same]

theorem seek_map (f : ρ → ρ) (keeps : ∀ r, column (f r) = column r) :
    seek column (rows.map f) value = (seek column rows value).map f := by
  have same : ((fun r => decide (column r = value)) ∘ f) = fun r => decide (column r = value) := by
    funext r
    simp only [Function.comp_apply, keeps]
  rw [seek, List.find?_map, same, seek]

theorem seek_append_ne (other : column r ≠ value) :
    seek column (rows ++ [r]) value = seek column rows value := by
  simp [seek, List.find?_append, other]

end Columns

structure Table (ρ : Type) {κ υ : Type} [Row ρ κ υ] where
  rows : List ρ
  keys_nodup : (rows.map key).Nodup
  index_nodup : (rows.map index).Nodup

namespace Table
variable {ρ κ υ : Type} [Row ρ κ υ] {t : Table ρ} {r s : ρ} {k j : κ} {u : υ}

def empty : Table ρ := ⟨[], List.nodup_nil, List.nodup_nil⟩

instance : Membership ρ (Table ρ) := ⟨fun t r => r ∈ t.rows⟩

theorem mem_def : r ∈ t ↔ r ∈ t.rows := Iff.rfl

theorem eq_of_rows {t t' : Table ρ} (same : t.rows = t'.rows) : t = t' := by
  cases t
  cases t'
  cases same
  rfl

theorem eq_of_key (left : r ∈ t) (right : s ∈ t) (same : key r = key s) : r = s :=
  List.inj_on_of_nodup_map t.keys_nodup left right same

theorem eq_of_index (left : r ∈ t) (right : s ∈ t) (same : index r = index s) : r = s :=
  List.inj_on_of_nodup_map t.index_nodup left right same

section Updates
variable [DecidableEq κ] {f : ρ → ρ} {keeps : ∀ r, key (f r) = key r ∧ index (f r) = index r}

def find (t : Table ρ) (k : κ) : Option ρ := seek key t.rows k

theorem find_iff : t.find k = some r ↔ r ∈ t ∧ key r = k :=
  ⟨seek_mem, fun ⟨member, same⟩ => same ▸ seek_of_mem t.keys_nodup member⟩

theorem find_eq_none : t.find k = none ↔ ∀ r ∈ t, key r ≠ k := seek_none

theorem find_of_mem (member : r ∈ t) : t.find (key r) = some r := find_iff.mpr ⟨member, rfl⟩

/-- A sequence always has an id to draw. -/
theorem exists_serial [Row ρ Int υ] (t : Table ρ) : ∃ serial : Int, 0 < serial ∧ t.find serial = none := by
  obtain ⟨serial, positive, absent⟩ :=
    (Set.Ioi_infinite (0 : Int)).exists_notMem_finset (t.rows.map (fun r => (key r : Int))).toFinset
  refine ⟨serial, positive, find_eq_none.mpr (fun r member here => absent ?_)⟩
  exact List.mem_toFinset.mpr (List.mem_map.mpr ⟨r, member, here⟩)

def at_key (k : κ) (f : ρ → ρ) (r : ρ) : ρ := if key r = k then f r else r

theorem at_key_keeps (keeps : ∀ r : ρ, key (f r) = key r ∧ index (f r) = index r) (r : ρ) :
    key (at_key k f r) = key r ∧ index (at_key k f r) = index r := by
  unfold at_key
  split
  · exact keeps r
  · exact ⟨rfl, rfl⟩

theorem at_key_key (keeps : ∀ r : ρ, key (f r) = key r) (r : ρ) : key (at_key k f r) = key r := by
  unfold at_key
  split
  · exact keeps r
  · rfl

/-- `UPDATE … WHERE key = k`: the columns that `f` leaves alone keep their
values, and `f` may touch neither unique column. -/
def modify (t : Table ρ) (k : κ) (f : ρ → ρ)
    (keeps : ∀ r, key (f r) = key r ∧ index (f r) = index r) : Table ρ where
  rows := t.rows.map (at_key k f)
  keys_nodup := by
    simpa only [List.map_map, Function.comp_def, (at_key_keeps keeps _).1] using t.keys_nodup
  index_nodup := by
    simpa only [List.map_map, Function.comp_def, (at_key_keeps keeps _).2] using t.index_nodup

theorem mem_modify (t : Table ρ) : r ∈ t.modify k f keeps ↔ ∃ s ∈ t, at_key k f s = r := by
  simp only [mem_def, modify, List.mem_map]

/-- An update of a row of one owner is none of the other owners' rows. -/
theorem mem_modify_other {P : ρ → Prop} (t : Table ρ) (here : ∀ s ∈ t, key s = k → P s)
    (kept : ∀ s, P s → P (f s)) (other : ¬P r) : r ∈ t.modify k f keeps ↔ r ∈ t := by
  rw [mem_modify]
  constructor
  · rintro ⟨s, member, rfl⟩
    by_cases at_k : key s = k
    · rw [at_key, if_pos at_k] at other
      exact absurd (kept s (here s member at_k)) other
    · rwa [at_key, if_neg at_k]
  · intro member
    exact ⟨r, member, if_neg (fun at_k => other (here r member at_k))⟩

/-- An update finds the rows that are there, whatever it does to other columns. -/
theorem exists_of_modify {P : ρ → Prop} (keeps : ∀ r, key (f r) = key r ∧ index (f r) = index r)
    (kept : ∀ s, P (f s) → P s) (found : ∃ r ∈ t.modify k f keeps, P r) : ∃ r ∈ t, P r := by
  obtain ⟨_, member, holds⟩ := found
  obtain ⟨s, before, rfl⟩ := (mem_modify t).mp member
  unfold at_key at holds
  split at holds
  · exact ⟨s, before, kept s holds⟩
  · exact ⟨s, before, holds⟩

/-- `UPDATE … WHERE key = k` of a column under the unique index: as long as no other
row has the new value. -/
def update [DecidableEq υ] (t : Table ρ) (k : κ) (f : ρ → ρ) (keeps : ∀ r, key (f r) = key r) :
    Table ρ :=
  if unique : ((t.rows.map (at_key k f)).map index).Nodup then
    ⟨t.rows.map (at_key k f), by
      simpa only [List.map_map, Function.comp_def, at_key_key keeps] using t.keys_nodup, unique⟩
  else t

theorem find_modify (t : Table ρ) : (t.modify k f keeps).find j = (t.find j).map (at_key k f) :=
  seek_map _ (fun r => (at_key_keeps keeps r).1)

theorem find_modify_self (t : Table ρ) : (t.modify k f keeps).find k = (t.find k).map f := by
  rw [find_modify]
  cases found : t.find k with
  | none => rfl
  | some r => rw [Option.map_some, at_key, if_pos (find_iff.mp found).2, Option.map_some]

theorem find_modify_ne (t : Table ρ) (other : j ≠ k) :
    (t.modify k f keeps).find j = t.find j := by
  rw [find_modify]
  cases found : t.find j with
  | none => rfl
  | some r =>
      rw [Option.map_some, at_key, if_neg (fun same => other ((find_iff.mp found).2 ▸ same))]

theorem update_nodup [DecidableEq υ] {t : Table ρ}
    (unique : ∀ r ∈ t, key r = k → ∀ s ∈ t, index s = index (f r) → key s = k) :
    ((t.rows.map (at_key k f)).map index).Nodup := by
  rw [List.map_map]
  refine (List.nodup_map_iff_inj_on (List.Nodup.of_map key t.keys_nodup)).mpr ?_
  intro r left s right same
  simp only [Function.comp_apply, at_key] at same
  split at same <;> split at same
  · rename_i here there
    exact eq_of_key left right (here.trans there.symm)
  · rename_i here there
    exact absurd (unique r left here s right same.symm) there
  · rename_i here there
    exact absurd (unique s right there r left same) here
  · exact eq_of_index left right same

/-- An update that takes no other row's place in the unique index. -/
theorem find_update_self [DecidableEq υ] {alters : ∀ r, key (f r) = key r} {t : Table ρ}
    (unique : ∀ r ∈ t, key r = k → ∀ s ∈ t, index s = index (f r) → key s = k) :
    (t.update k f alters).find k = (t.find k).map f := by
  rw [update, dif_pos (update_nodup unique)]
  refine (seek_map _ (at_key_key alters)).trans ?_
  cases found : t.find k with
  | none => rw [find] at found; rw [found]; rfl
  | some r =>
      have here := (find_iff.mp found).2
      rw [find] at found
      rw [found, Option.map_some, Option.map_some, at_key, if_pos here]

/-- Such an update changes the row it is for, or is none at all. -/
theorem find_update [DecidableEq υ] {alters : ∀ r, key (f r) = key r} (t : Table ρ) :
    (t.update k f alters).find j = (t.find j).map (at_key k f) ∨ t.update k f alters = t := by
  unfold update
  split
  · exact .inl (seek_map _ (at_key_key alters))
  · exact .inr rfl

end Updates

section Lookup
variable [DecidableEq υ]

def lookup (t : Table ρ) (u : υ) : Option ρ := seek index t.rows u

theorem lookup_iff : t.lookup u = some r ↔ r ∈ t ∧ index r = u :=
  ⟨seek_mem, fun ⟨member, same⟩ => same ▸ seek_of_mem t.index_nodup member⟩

theorem lookup_eq_none : t.lookup u = none ↔ ∀ r ∈ t, index r ≠ u := seek_none

variable [DecidableEq κ] {f : ρ → ρ}
  {keeps : ∀ r, key (f r) = key r ∧ index (f r) = index r}

theorem lookup_modify (t : Table ρ) :
    (t.modify k f keeps).lookup u = (t.lookup u).map (at_key k f) :=
  seek_map _ (fun r => (at_key_keeps keeps r).2)

def free (t : Table ρ) (r : ρ) : Prop := t.find (key r) = none ∧ t.lookup (index r) = none

instance : Decidable (t.free r) := by unfold free; infer_instance

theorem free_nodup (free : t.free r) :
    ((t.rows ++ [r]).map key).Nodup ∧ ((t.rows ++ [r]).map index).Nodup := by
  have keys := find_eq_none.mp free.1
  have values := lookup_eq_none.mp free.2
  constructor <;> rw [List.map_append, List.nodup_append]
  · refine ⟨t.keys_nodup, List.nodup_singleton _, ?_⟩
    rintro _ member _ last same
    obtain ⟨s, inside, rfl⟩ := List.mem_map.mp member
    exact keys s inside (same.trans (List.mem_singleton.mp last))
  · refine ⟨t.index_nodup, List.nodup_singleton _, ?_⟩
    rintro _ member _ last same
    obtain ⟨s, inside, rfl⟩ := List.mem_map.mp member
    exact values s inside (same.trans (List.mem_singleton.mp last))

def insert (t : Table ρ) (r : ρ) : Table ρ :=
  if free : t.free r then ⟨t.rows ++ [r], (free_nodup free).1, (free_nodup free).2⟩ else t

theorem rows_insert (free : t.free r) : (t.insert r).rows = t.rows ++ [r] := by
  simp only [insert, dif_pos free]

theorem mem_insert (free : t.free r) : s ∈ t.insert r ↔ s ∈ t ∨ s = r := by
  simp only [mem_def, rows_insert free, List.mem_append, List.mem_singleton]

theorem mem_of_insert (member : s ∈ t.insert r) : s ∈ t ∨ s = r := by
  by_cases free : t.free r
  · exact (mem_insert free).mp member
  · rw [insert, dif_neg free] at member
    exact .inl member

theorem exists_of_insert {P : ρ → Prop} (found : ∃ s ∈ t.insert r, P s) : (∃ s ∈ t, P s) ∨ P r := by
  obtain ⟨s, member, holds⟩ := found
  rcases mem_of_insert member with before | rfl
  · exact .inl ⟨s, before, holds⟩
  · exact .inr holds

theorem find_insert_ne (t : Table ρ) (other : key r ≠ k) : (t.insert r).find k = t.find k := by
  unfold insert
  split
  · exact seek_append_ne other
  · rfl

theorem lookup_insert_ne (t : Table ρ) (other : index r ≠ u) :
    (t.insert r).lookup u = t.lookup u := by
  unfold insert
  split
  · exact seek_append_ne other
  · rfl

theorem find_insert_self (free : t.free r) : (t.insert r).find (key r) = some r :=
  find_of_mem ((mem_insert free).mpr (.inr rfl))

theorem lookup_insert_self (free : t.free r) : (t.insert r).lookup (index r) = some r :=
  lookup_iff.mpr ⟨(mem_insert free).mpr (.inr rfl), rfl⟩

/-- An insert never removes a row. -/
theorem find_insert (found : t.find k = some s) : (t.insert r).find k = some s := by
  obtain ⟨member, same⟩ := find_iff.mp found
  refine find_iff.mpr ⟨?_, same⟩
  unfold insert
  split
  · exact List.mem_append_left _ member
  · exact member

theorem lookup_insert (found : t.lookup u = some s) : (t.insert r).lookup u = some s := by
  obtain ⟨member, named⟩ := lookup_iff.mp found
  exact lookup_iff.mpr ⟨(find_iff.mp (find_insert (find_of_mem member))).1, named⟩

end Lookup

/-- Every row is still there, changed at most as `P` allows. -/
def Persists [DecidableEq κ] (P : ρ → ρ → Prop) (t t' : Table ρ) : Prop :=
  ∀ k r, t.find k = some r → ∃ r', t'.find k = some r' ∧ P r r'

section Persistence
variable [DecidableEq κ] {P : ρ → ρ → Prop} {t' t'' : Table ρ}

theorem Persists.refl (same : ∀ r, P r r) (t : Table ρ) : t.Persists P t :=
  fun _ r found => ⟨r, found, same r⟩

theorem Persists.trans (chains : ∀ {a b c}, P a b → P b c → P a c)
    (first : t.Persists P t') (second : t'.Persists P t'') : t.Persists P t'' := by
  intro k r found
  obtain ⟨middle, here, one⟩ := first k r found
  obtain ⟨last, there, two⟩ := second k middle here
  exact ⟨last, there, chains one two⟩

theorem Persists.modify {f : ρ → ρ} (keeps : ∀ r, key (f r) = key r ∧ index (f r) = index r)
    (same : ∀ r, P r r) (changed : ∀ r, P r (f r)) (t : Table ρ) (k : κ) :
    t.Persists P (t.modify k f keeps) := by
  intro j r found
  refine ⟨at_key k f r, by rw [find_modify, found, Option.map_some], ?_⟩
  unfold at_key
  split
  · exact changed r
  · exact same r

theorem Persists.insert [DecidableEq υ] (same : ∀ r, P r r) (t : Table ρ) (new : ρ) :
    t.Persists P (t.insert new) :=
  fun _ r found => ⟨r, find_insert found, same r⟩

theorem Persists.lookup [DecidableEq υ] (keeps : ∀ {r r' : ρ}, P r r' → index r' = index r)
    (persists : t.Persists P t') (found : t.lookup u = some r) :
    ∃ r', t'.lookup u = some r' ∧ P r r' := by
  obtain ⟨member, at_index⟩ := lookup_iff.mp found
  obtain ⟨r', found', same⟩ := persists (key r) r (find_of_mem member)
  exact ⟨r', lookup_iff.mpr ⟨(find_iff.mp found').1, (keeps same).trans at_index⟩, same⟩

end Persistence

/-- The row of `ORDER BY rank DESC LIMIT 1`: no order is promised between rows
of one rank, so `pick` chooses among those of the highest. -/
def topBy (rank : ρ → Int) (pick : Nat) (rows : List ρ) : Option ρ :=
  let best := rows.filter (fun r => rows.all (fun s => rank s ≤ rank r))
  best[pick % best.length]?

theorem topBy_mem {rank : ρ → Int} {rows : List ρ} (chosen : topBy rank pick rows = some r) :
    r ∈ rows ∧ ∀ s ∈ rows, rank s ≤ rank r := by
  have member := List.mem_of_getElem? chosen
  simpa only [List.mem_filter, List.all_eq_true, decide_eq_true_eq] using member

theorem exists_top {rank : ρ → Int} {rows : List ρ} (nonempty : rows ≠ []) :
    ∃ r ∈ rows, ∀ s ∈ rows, rank s ≤ rank r := by
  induction rows with
  | nil => contradiction
  | cons first rest ih =>
      by_cases last : rest = []
      · subst last
        exact ⟨first, List.mem_cons_self, by simp⟩
      · obtain ⟨best, member, largest⟩ := ih last
        rcases le_total (rank first) (rank best) with less | more
        · exact ⟨best, List.mem_cons_of_mem _ member, by simpa [less] using largest⟩
        · refine ⟨first, List.mem_cons_self, ?_⟩
          simpa using fun s member => (largest s member).trans more

theorem topBy_eq_none {rank : ρ → Int} {rows : List ρ} :
    topBy rank pick rows = none ↔ rows = [] := by
  constructor
  · intro missing
    by_contra nonempty
    obtain ⟨r, member, largest⟩ : ∃ r ∈ rows, ∀ s ∈ rows, rank s ≤ rank r := exists_top nonempty
    have best : r ∈ rows.filter (fun r => rows.all (fun s => rank s ≤ rank r)) := by
      simpa only [List.mem_filter, List.all_eq_true, decide_eq_true_eq] using ⟨member, largest⟩
    have bound := Nat.mod_lt pick (List.length_pos_of_mem best)
    simp only [topBy, List.getElem?_eq_none_iff] at missing
    omega
  · rintro rfl
    rfl

/-- The rows of a query without `ORDER BY`: no order is promised, so `pick` chooses one. -/
def arrange (pick : Nat) : List ρ → List ρ
  | [] => []
  | r :: rest =>
      (arrange (pick / (rest.length + 1)) rest).insertIdx (pick % (rest.length + 1)) r

theorem arrange_perm (pick : Nat) (rows : List ρ) : (arrange pick rows).Perm rows := by
  induction rows generalizing pick with
  | nil => exact .refl _
  | cons r rest ih =>
      have arranged := ih (pick / (rest.length + 1))
      have inside : pick % (rest.length + 1) ≤ (arrange (pick / (rest.length + 1)) rest).length := by
        rw [arranged.length_eq]
        exact Nat.le_of_lt_succ (Nat.mod_lt _ (Nat.succ_pos _))
      exact (List.perm_insertIdx r _ inside).trans (arranged.cons r)

theorem mem_arrange {rows : List ρ} : r ∈ arrange pick rows ↔ r ∈ rows :=
  (arrange_perm pick rows).mem_iff

section Sums
variable {M : Type} [AddCommGroup M]

def sum (f : ρ → M) (t : Table ρ) : M := (t.rows.map f).sum

theorem sum_congr {f g : ρ → M} (same : ∀ r ∈ t, f r = g r) : t.sum f = t.sum g :=
  congrArg List.sum (List.map_congr_left same)

theorem sum_zero {f : ρ → M} (zero : ∀ r ∈ t, f r = 0) : t.sum f = 0 := by
  rw [sum_congr zero]
  simp [sum]

theorem sum_insert [DecidableEq κ] [DecidableEq υ] (f : ρ → M) (free : t.free r) :
    (t.insert r).sum f = t.sum f + f r := by
  simp [sum, rows_insert free]

theorem sum_add (f g : ρ → M) : t.sum (fun r => f r + g r) = t.sum f + t.sum g :=
  List.sum_map_add

theorem sum_modify_same [DecidableEq κ] {f : ρ → ρ}
    {keeps : ∀ r, key (f r) = key r ∧ index (f r) = index r} (g : ρ → M)
    (same : ∀ r, g (f r) = g r) : (t.modify k f keeps).sum g = t.sum g := by
  simp only [sum, modify, List.map_map]
  refine congrArg List.sum (List.map_congr_left (fun r _ => ?_))
  rw [Function.comp_apply, at_key]
  split
  · exact same r
  · rfl

theorem list_sum_at_key [DecidableEq κ] {rows : List ρ} {f : ρ → ρ} (g : ρ → M)
    (distinct : (rows.map key).Nodup) (member : r ∈ rows) (same : key r = k) :
    (rows.map (fun s => g (at_key k f s))).sum = (rows.map g).sum + (g (f r) - g r) := by
  induction rows with
  | nil => cases member
  | cons first rest ih =>
      obtain ⟨fresh, distinct⟩ := List.nodup_cons.mp (List.map_cons ▸ distinct)
      simp only [List.map_cons, List.sum_cons]
      rcases List.mem_cons.mp member with here | inside
      · subst here
        have tail : rest.map (fun s => g (at_key k f s)) = rest.map g := by
          apply List.map_congr_left
          intro s inside
          have other : key s ≠ k := fun at_k =>
            fresh (List.mem_map.mpr ⟨s, inside, at_k.trans same.symm⟩)
          simp only [at_key, if_neg other]
        rw [tail, at_key, if_pos same]
        abel
      · have other : key first ≠ k := fun at_k =>
          fresh (List.mem_map.mpr ⟨r, inside, same.trans at_k.symm⟩)
        rw [ih distinct inside, at_key, if_neg other]
        abel

/-- One row's update changes a sum over the table by that row's change. -/
theorem sum_modify [DecidableEq κ] {f : ρ → ρ}
    {keeps : ∀ r, key (f r) = key r ∧ index (f r) = index r} (g : ρ → M)
    (found : t.find k = some r) : (t.modify k f keeps).sum g = t.sum g + (g (f r) - g r) := by
  obtain ⟨member, same⟩ := find_iff.mp found
  simpa only [sum, modify, List.map_map, Function.comp_def] using
    list_sum_at_key g t.keys_nodup member same

end Sums

end Table
end Relational
