import LLMPool.Relational.Table

/-! Upserts: a row is overwritten where the table has it and inserted where it does not. What
no upsert changes is the place in the unique index under which a key is listed. -/
namespace Relational.Table
variable {ρ κ υ : Type} [Row ρ κ υ] {t : Table ρ} {r : ρ} {k j : κ} {u v : υ}

/-- The table has a row of this key in this place. -/
def Lists (t : Table ρ) (k : κ) (u : υ) : Prop := ∃ r ∈ t, key r = k ∧ index r = u

theorem Lists.index_eq (first : t.Lists k u) (second : t.Lists k v) : u = v := by
  obtain ⟨r, left, at_k, rfl⟩ := first
  obtain ⟨s, right, same, rfl⟩ := second
  rw [eq_of_key left right (at_k.trans same.symm)]

theorem Lists.key_eq (first : t.Lists k u) (second : t.Lists j u) : k = j := by
  obtain ⟨r, left, rfl, at_u⟩ := first
  obtain ⟨s, right, rfl, same⟩ := second
  rw [eq_of_index left right (at_u.trans same.symm)]

/-- The table has the row's key in the row's place, or has neither. -/
def Fits (t : Table ρ) (r : ρ) : Prop := ∀ k u, t.Lists k u → (k = key r ↔ u = index r)

theorem fits_of_listed (listed : t.Lists (key r) (index r)) : t.Fits r := by
  intro k u other
  constructor
  · rintro rfl
    exact other.index_eq listed
  · rintro rfl
    exact other.key_eq listed

theorem fits_of_absent (keys : ∀ u, ¬t.Lists (key r) u) (places : ∀ k, ¬t.Lists k (index r)) : t.Fits r := by
  intro k u other
  constructor
  · rintro rfl
    exact absurd other (keys u)
  · rintro rfl
    exact absurd other (places k)

theorem lists_of_mem (member : r ∈ t) : t.Lists (key r) (index r) := ⟨r, member, rfl, rfl⟩

section Writes
variable [DecidableEq κ] {f : ρ → ρ} {keeps : ∀ r, key (f r) = key r ∧ index (f r) = index r}

theorem lists_modify (t : Table ρ) : (t.modify j f keeps).Lists k u ↔ t.Lists k u := by
  constructor
  · rintro ⟨r, member, at_k, at_u⟩
    obtain ⟨s, inside, rfl⟩ := (mem_modify t).mp member
    obtain ⟨same_key, same_index⟩ := at_key_keeps (k := j) keeps s
    exact ⟨s, inside, same_key.symm.trans at_k, same_index.symm.trans at_u⟩
  · rintro ⟨s, inside, at_k, at_u⟩
    obtain ⟨same_key, same_index⟩ := at_key_keeps (k := j) keeps s
    exact ⟨at_key j f s, (mem_modify t).mpr ⟨s, inside, rfl⟩, same_key.trans at_k, same_index.trans at_u⟩

variable [DecidableEq υ]

theorem lists_insert (free : t.free r) : (t.insert r).Lists k u ↔ t.Lists k u ∨ (key r = k ∧ index r = u) := by
  simp only [Lists, mem_insert free, or_and_right, exists_or, exists_eq_left]

/-- `INSERT … ON CONFLICT … DO UPDATE`, for the row that was found or the one that is new. -/
def put (t : Table ρ) (r : ρ) (f : ρ → ρ) (keeps : ∀ r, key (f r) = key r ∧ index (f r) = index r) : Table ρ :=
  if (t.find (key r)).isSome then t.modify (key r) f keeps else t.insert r

theorem lists_put (fits : t.Fits r) :
    (t.put r f keeps).Lists k u ↔ t.Lists k u ∨ (key r = k ∧ index r = u) := by
  cases found : t.find (key r) with
  | some old =>
      obtain ⟨member, at_key⟩ := find_iff.mp found
      have here : t.Lists (key r) (index r) :=
        ⟨old, member, at_key, (fits _ _ (lists_of_mem member)).mp at_key⟩
      rw [put, found, Option.isSome_some, if_pos rfl, lists_modify]
      constructor
      · exact .inl
      · rintro (listed | ⟨rfl, rfl⟩)
        · exact listed
        · exact here
  | none =>
      have keys := find_eq_none.mp found
      have free : t.free r :=
        ⟨found, lookup_eq_none.mpr (fun s member same => keys s member ((fits _ _ (lists_of_mem member)).mpr same))⟩
      rw [put, found, Option.isSome_none, if_neg Bool.false_ne_true, lists_insert free]

theorem find_put_ne (other : key r ≠ k) : (t.put r f keeps).find k = t.find k := by
  unfold put
  split
  · exact find_modify_ne t (Ne.symm other)
  · exact find_insert_ne t other

theorem find_put_old (found : t.find (key r) = some old) : (t.put r f keeps).find (key r) = some (f old) := by
  rw [put, found, Option.isSome_some, if_pos rfl, find_modify_self, found, Option.map_some]

theorem find_put_new (free : t.free r) : (t.put r f keeps).find (key r) = some r := by
  rw [put, free.1, Option.isSome_none, if_neg Bool.false_ne_true, find_insert_self free]

end Writes
end Relational.Table
