import LLMPool.Catalogue.Listing

/-! The pages of the model listing partition the models that satisfy the filters: each
placeholder is bound to its filter, in both statements. -/
namespace LLMPool.Catalogue
open Relational Transactions

/-- The filters that are given, in their order. -/
def ListModelsFilter.provided (filter : ListModelsFilter) : List (Column × Bind) :=
  filter.upstreamId.toList.map (fun value => (.upstreamId, .bigint value)) ++
    filter.upstreamName.toList.map (fun value => (.upstreamName, .text value)) ++
    filter.name.toList.map (fun value => (.cname, .text value)) ++
    filter.isActive.toList.map (fun value => (.isActive, .boolean value))

section Placeholders
variable {filter : ListModelsFilter}

theorem whereClause_provided : (whereClause filter).conditions =
    filter.provided.zipIdx.map (fun (given, i) => ⟨given.1, i + 1⟩) := by
  rcases filter with ⟨_ | _, _ | _, _ | _, _ | _⟩ <;> rfl

theorem paramIdx_provided : (whereClause filter).paramIdx = filter.provided.length := by
  rcases filter with ⟨_ | _, _ | _, _ | _, _ | _⟩ <;> rfl

theorem bindFilters_provided : bindFilters filter = filter.provided.map Prod.snd := by
  rcases filter with ⟨_ | _, _ | _, _ | _, _ | _⟩ <;> rfl

/-- The `i`th condition has the `i`th placeholder, which is bound to the `i`th filter. -/
theorem placeholder_bound (extra : List Bind) {i : Nat} {column : Column} {value : Bind}
    (given : filter.provided[i]? = some (column, value)) :
    (whereClause filter).conditions[i]? = some ⟨column, i + 1⟩ ∧
      bound (bindFilters filter ++ extra) (i + 1) = some value := by
  constructor
  · rw [whereClause_provided, List.getElem?_map, List.getElem?_zipIdx, given]
    simp only [Option.map_some, Nat.zero_add]
  · have inside : i < (bindFilters filter).length := by
      rw [bindFilters_provided, List.length_map]
      exact (List.getElem?_eq_some_iff.mp given).1
    rw [bound, Nat.add_sub_cancel, List.getElem?_append_left inside, bindFilters_provided, List.getElem?_map, given,
      Option.map_some]

theorem conditions_hold (extra : List Bind) (row : LLMModel × LLMUpstream) :
    (whereClause filter).conditions.all (Condition.holds (bindFilters filter ++ extra) row) = true ↔
      ∀ given ∈ filter.provided, given.1.of row = given.2 := by
  have bounds : ∀ i column value, filter.provided[i]? = some (column, value) →
      bound (bindFilters filter ++ extra) (i + 1) = some value :=
    fun i column value given => (placeholder_bound extra given).2
  rw [whereClause_provided, List.all_eq_true]
  constructor
  · rintro all ⟨column, value⟩ member
    obtain ⟨i, given⟩ := List.mem_iff_getElem?.mp member
    have holds := all ⟨column, i + 1⟩ (List.mem_map.mpr ⟨((column, value), i), by
      rw [List.mem_zipIdx_iff_getElem?]
      exact given, rfl⟩)
    rw [Condition.holds, decide_eq_true_eq, bounds i column value given] at holds
    exact (Option.some.inj holds).symm
  · rintro all c member
    obtain ⟨⟨⟨column, value⟩, i⟩, inside, rfl⟩ := List.mem_map.mp member
    rw [List.mem_zipIdx_iff_getElem?] at inside
    have holds := all (column, value) (List.mem_of_getElem? inside)
    rw [Condition.holds, decide_eq_true_eq, bounds i column value inside, holds]

end Placeholders

/-- A model that every given filter lets through. -/
structure Satisfies (db : Stored) (filter : ListModelsFilter) (m : LLMModel) : Prop where
  upstreamId : ∀ id, filter.upstreamId = some id → m.upstreamId = id
  upstreamName : ∀ name, filter.upstreamName = some name → ∃ u ∈ db.upstreams, u.id = m.upstreamId ∧ u.name = name
  name : ∀ name, filter.name = some name → m.cname = name
  isActive : ∀ active, filter.isActive = some active → m.isActive = active

/-- The texts of a filter can be sent. -/
def ListModelsFilter.Sendable (filter : ListModelsFilter) : Prop :=
  (∀ name, filter.upstreamName = some name → IsText name) ∧ ∀ name, filter.name = some name → IsText name

section Rows
variable {db : Stored} {filter : ListModelsFilter}

theorem filter_eq_find [DecidableEq γ] {column : ρ → γ} {rows : List ρ} (distinct : (rows.map column).Nodup)
    {r : ρ} (member : r ∈ rows) : rows.filter (fun s => column r = column s) = [r] := by
  induction rows with
  | nil => cases member
  | cons s rows ih =>
      obtain ⟨apart, distinct⟩ := List.nodup_cons.mp distinct
      rcases List.mem_cons.mp member with rfl | inside
      · have none : rows.filter (fun s => column r = column s) = [] := by
          rw [List.filter_eq_nil_iff]
          intro s other same
          exact apart (of_decide_eq_true same ▸ List.mem_map_of_mem other)
        rw [List.filter_cons_of_pos (by simp), none]
      · have other : column r ≠ column s := fun same => apart (same ▸ List.mem_map_of_mem inside)
        rw [List.filter_cons_of_neg (by simpa using other), ih distinct inside]

theorem mem_joined {row : LLMModel × LLMUpstream} :
    row ∈ db.joined ↔ row.1 ∈ db.models ∧ row.2 ∈ db.upstreams ∧ row.1.upstreamId = row.2.id := by
  simp only [Stored.joined, List.mem_flatMap, List.mem_map, List.mem_filter, decide_eq_true_eq]
  constructor
  · rintro ⟨m, inside, u, ⟨stored, same⟩, rfl⟩
    exact ⟨inside, stored, same⟩
  · rintro ⟨inside, stored, same⟩
    exact ⟨row.1, inside, row.2, ⟨stored, same⟩, rfl⟩

/-- The join has each model once. -/
theorem joined_models : db.joined.map Prod.fst = db.models.rows := by
  have once : ∀ m ∈ db.models.rows,
      (db.upstreams.rows.filter (fun e => m.upstreamId = e.id)).map (fun _ => m) = [m] := by
    intro m member
    obtain ⟨u, stored, same⟩ := db.references m member
    have single : db.upstreams.rows.filter (fun e => u.id = e.id) = [u] := filter_eq_find db.upstreams.keys_nodup stored
    rw [← same, single]
    rfl
  simp only [Stored.joined, List.map_flatMap, List.map_map]
  exact (List.flatMap_congr (g := fun m => [m]) once).trans (List.flatMap_singleton' _)

/-- The models that the statements select, in the order of their ids. -/
def matching (db : Stored) (filter : ListModelsFilter) : List LLMModel :=
  ((db.joined.filter (fun row => filter.provided.all (fun given => given.1.of row = given.2))).map Prod.fst)

theorem select_matching (db : Stored) (extra : List Bind) (sent : ∀ bind ∈ extra, bind.sendable = true)
    (sendable : filter.Sendable) :
    db.select (whereClause filter).conditions ((whereClause filter).paramIdx + extra.length)
      (bindFilters filter ++ extra) = .ok (matching db filter) := by
  have length : (bindFilters filter ++ extra).length = (whereClause filter).paramIdx + extra.length := by
    rw [List.length_append, bindFilters_provided, paramIdx_provided, List.length_map]
  have texts : (bindFilters filter ++ extra).all Bind.sendable = true := by
    simp only [List.all_append, Bool.and_eq_true, bindFilters, List.all_eq_true, List.mem_map, Option.mem_toList]
    refine ⟨⟨⟨⟨?_, ?_⟩, ?_⟩, ?_⟩, sent⟩ <;> rintro _ ⟨value, given, rfl⟩
    · rfl
    · exact decide_eq_true (sendable.1 value given)
    · exact decide_eq_true (sendable.2 value given)
    · rfl
  have same : (fun row => (whereClause filter).conditions.all (Condition.holds (bindFilters filter ++ extra) row)) =
      fun row => filter.provided.all (fun given => given.1.of row = given.2) := by
    funext row
    rw [Bool.eq_iff_iff, conditions_hold, List.all_eq_true]
    simp only [decide_eq_true_eq]
  rw [Stored.select, if_neg (by simp only [length, texts, ne_eq, not_true_eq_false, or_self, not_false_eq_true]), same,
    matching]

theorem matching_sublist : (matching db filter).Sublist db.models.rows := by
  rw [← joined_models]
  exact List.Sublist.map _ List.filter_sublist

theorem provided_satisfies {m : LLMModel} {u : LLMUpstream} (member : u ∈ db.upstreams) (same : m.upstreamId = u.id) :
    (∀ given ∈ filter.provided, given.1.of (m, u) = given.2) ↔ Satisfies db filter m := by
  have owner : ∀ name, (∃ u' ∈ db.upstreams, u'.id = m.upstreamId ∧ u'.name = name) ↔ u.name = name := by
    intro name
    constructor
    · rintro ⟨u', inside, here, rfl⟩
      rw [Table.eq_of_key member inside (same.symm.trans here.symm)]
    · rintro rfl
      exact ⟨u, member, same.symm, rfl⟩
  simp only [ListModelsFilter.provided, List.mem_append, List.mem_map, Option.mem_toList]
  constructor
  · intro all
    refine ⟨fun id given => ?_, fun name given => (owner name).mpr ?_, fun name given => ?_, fun active given => ?_⟩
    · exact Bind.bigint.inj (all (.upstreamId, .bigint id) (.inl (.inl (.inl ⟨id, given, rfl⟩))))
    · exact Bind.text.inj (all (.upstreamName, .text name) (.inl (.inl (.inr ⟨name, given, rfl⟩))))
    · exact Bind.text.inj (all (.cname, .text name) (.inl (.inr ⟨name, given, rfl⟩)))
    · exact Bind.boolean.inj (all (.isActive, .boolean active) (.inr ⟨active, given, rfl⟩))
  · rintro satisfies given (((⟨id, present, rfl⟩ | ⟨name, present, rfl⟩) | ⟨name, present, rfl⟩) |
      ⟨active, present, rfl⟩)
    · exact congrArg Bind.bigint (satisfies.upstreamId id present)
    · exact congrArg Bind.text ((owner name).mp (satisfies.upstreamName name present))
    · exact congrArg Bind.text (satisfies.name name present)
    · exact congrArg Bind.boolean (satisfies.isActive active present)

theorem mem_matching {m : LLMModel} : m ∈ matching db filter ↔ m ∈ db.models ∧ Satisfies db filter m := by
  simp only [matching, List.mem_map, List.mem_filter, mem_joined, List.all_eq_true, decide_eq_true_eq]
  constructor
  · rintro ⟨⟨m, u⟩, ⟨⟨inside, stored, same⟩, all⟩, rfl⟩
    exact ⟨inside, (provided_satisfies stored same).mp all⟩
  · rintro ⟨inside, satisfies⟩
    obtain ⟨u, stored, same⟩ := db.references m inside
    exact ⟨(m, u), ⟨⟨inside, stored, same.symm⟩, (provided_satisfies stored same.symm).mpr satisfies⟩, rfl⟩

/-- The models that satisfy the filters, in the order of their ids. -/
def listed (db : Stored) (filter : ListModelsFilter) : List LLMModel :=
  (matching db filter).insertionSort (fun m m' => m.id ≤ m'.id)

theorem listed_ordered : (listed db filter).Pairwise (fun m m' => m.id < m'.id) := by
  have distinct : ((listed db filter).map LLMModel.id).Nodup := by
    have perm := (List.perm_insertionSort (fun m m' : LLMModel => m.id ≤ m'.id) (matching db filter)).map LLMModel.id
    exact perm.nodup_iff.mpr ((matching_sublist.map LLMModel.id).nodup db.models.keys_nodup)
  have sorted : (listed db filter).Pairwise (fun m m' => m.id ≤ m'.id) := List.pairwise_insertionSort _ _
  exact (sorted.and (List.pairwise_map.mp distinct)).imp (fun both => lt_of_le_of_ne both.1 both.2)

theorem mem_listed {m : LLMModel} : m ∈ listed db filter ↔ m ∈ db.models ∧ Satisfies db filter m :=
  (List.mem_insertionSort _).trans mem_matching

theorem listed_length (db : Stored) (filter : ListModelsFilter) :
    (listed db filter).length = (matching db filter).length ∧ (listed db filter).length < 2 ^ 62 := by
  have length : (listed db filter).length = (matching db filter).length := List.length_insertionSort _ _
  exact ⟨length, length ▸ matching_sublist.length_le.trans_lt db.bounded⟩

theorem listed_unsendable (unsendable : ¬filter.Sendable) : listed db filter = [] := by
  refine List.eq_nil_iff_forall_not_mem.mpr (fun m member => unsendable ?_)
  obtain ⟨inside, satisfies⟩ := mem_listed.mp member
  constructor
  · intro name given
    obtain ⟨u, stored, _, rfl⟩ := satisfies.upstreamName name given
    exact db.names u stored
  · intro name given
    exact satisfies.name name given ▸ db.cnames m inside

theorem countModelsFiltered_listed (sendable : filter.Sendable) :
    countModelsFiltered db filter = .ok ((listed db filter).length : Int) := by
  have rows := select_matching db [] nofun sendable
  rw [List.append_nil, List.length_nil, Nat.add_zero] at rows
  simp only [countModelsFiltered, rows, (listed_length db filter).1]
  rfl

theorem listModelsFilteredPaginated_listed (sendable : filter.Sendable) (offset limit : Nat) :
    listModelsFilteredPaginated db filter offset limit = .ok (((listed db filter).drop offset).take limit) := by
  have rows := select_matching db [.bigint limit, .bigint offset] (by simp [Bind.sendable]) sendable
  have length : (bindFilters filter).length = (whereClause filter).paramIdx := by
    rw [bindFilters_provided, paramIdx_provided, List.length_map]
  have first : bound (bindFilters filter ++ [.bigint limit, .bigint offset]) ((whereClause filter).paramIdx + 1) =
      some (.bigint limit) := by
    simp [bound, ← length]
  have second : bound (bindFilters filter ++ [.bigint limit, .bigint offset]) ((whereClause filter).paramIdx + 2) =
      some (.bigint offset) := by
    simp [bound, ← length]
  have nonneg : ¬((limit : Int) < 0 ∨ (offset : Int) < 0) := by omega
  simp only [listModelsFilteredPaginated]
  rw [show (whereClause filter).paramIdx + 2 =
    (whereClause filter).paramIdx + [Bind.bigint limit, .bigint offset].length from rfl] at second ⊢
  rw [rows, first, second]
  simp only [bind, Except.bind, orderedPage, if_neg nonneg, Int.toNat_natCast]
  rfl

theorem select_unsendable (db : Stored) (unsendable : ¬filter.Sendable) (conditions : List Condition)
    (placeholders : Nat) (extra : List Bind) :
    db.select conditions placeholders (bindFilters filter ++ extra) = .error (.database .conflict) := by
  have texts : ¬(bindFilters filter ++ extra).all Bind.sendable := by
    intro all
    simp only [List.all_append, Bool.and_eq_true, bindFilters, List.all_eq_true, List.mem_map, Option.mem_toList] at all
    obtain ⟨⟨⟨⟨_, names⟩, cnames⟩, _⟩, _⟩ := all
    refine unsendable ⟨fun name given => ?_, fun name given => ?_⟩
    · exact of_decide_eq_true (names (.text name) ⟨name, given, rfl⟩)
    · exact of_decide_eq_true (cnames (.text name) ⟨name, given, rfl⟩)
  rw [Stored.select, if_pos (.inr texts)]

end Rows

namespace AdminRestApi
open Billing.AdminRestApi (databaseError)

theorem wrap_eq {value : Int} (low : 0 ≤ value) (high : value < 2 ^ 63) : wrap value = value :=
  Int.bmod_eq_of_le (by omega) (by omega)

section Requests
variable {db : Stored} {params : ListModelsParams}

/-- The number of pages, as the endpoint computes it. -/
theorem totalPages_eq {length size : Nat} (positive : 0 < size) (small : size ≤ 100) (bounded : length < 2 ^ 62) :
    (if (length : Int) = 0 then 0 else (wrap (wrap (length + size) - 1)).tdiv size) =
      (((length + size - 1) / size : Nat) : Int) := by
  have sum : wrap ((length : Int) + size) = length + size := wrap_eq (by omega) (by omega)
  rw [sum, wrap_eq (by omega) (by omega)]
  split
  · rename_i empty
    have none : length = 0 := by omega
    subst none
    rw [Nat.zero_add, Nat.div_eq_of_lt (by omega)]
    rfl
  · rw [show (length : Int) + size - 1 = ((length + size - 1 : Nat) : Int) by omega]
    rfl

theorem listModels_page (sendable : params.filter.Sendable) {size : Nat}
    (sized : (size : Int) = clamp 1 maxPageSize params.pageSize) {k : Nat} (first : 1 ≤ k)
    (small : (k - 1) * size < 2 ^ 63) :
    listModels db { params with page := k } = .success .ok ⟨window (listed db params.filter) size k, k, size,
      (listed db params.filter).length, (((listed db params.filter).length + size - 1) / size : Nat)⟩ := by
  obtain ⟨low, high⟩ : 1 ≤ clamp 1 maxPageSize params.pageSize ∧ clamp 1 maxPageSize params.pageSize ≤ 100 :=
    clamp_bounds (by decide)
  have positive : 0 < size := by omega
  have page : (if (k : Int) < 1 then 1 else (k : Int)) = k := if_neg (by omega)
  have least : k - 1 ≤ (k - 1) * size := Nat.le_mul_of_pos_right _ positive
  have before : wrap ((k : Int) - 1) = (k - 1 : Nat) := by
    rw [show (k : Int) - 1 = (k - 1 : Nat) by omega]
    exact wrap_eq (by omega) (by omega)
  have offset : wrap (((k - 1 : Nat) : Int) * size) = ((k - 1) * size : Nat) := by
    rw [← Int.natCast_mul]
    exact wrap_eq (by omega) (by omega)
  have same : ListModelsParams.filter { params with page := k } = params.filter := rfl
  simp only [listModels, page, ← sized, before, offset, same, countModelsFiltered_listed sendable,
    listModelsFilteredPaginated_listed sendable, totalPages_eq positive (by omega) (listed_length db params.filter).2]
  rfl

theorem listModels_unsendable (unsendable : ¬params.filter.Sendable) :
    listModels db params = databaseError "Failed to query models" := by
  have rows := select_unsendable db unsendable (whereClause params.filter).conditions
    (whereClause params.filter).paramIdx []
  rw [List.append_nil] at rows
  simp only [listModels, countModelsFiltered, rows]
  rfl

/-- The pages that are answered to a request partition the models that satisfy its filters. -/
def Partitioned (db : Stored) (params : ListModelsParams) : Prop :=
  ∃ (listed : List LLMModel) (size totalPages : Nat) (page : Nat → List LLMModel),
    (size : Int) = clamp 1 maxPageSize params.pageSize ∧
    listed.Pairwise (fun m m' => m.id < m'.id) ∧
    (∀ m, m ∈ listed ↔ m ∈ db.models ∧ Satisfies db params.filter m) ∧
    Pages listed size totalPages page ∧
    ∀ k, 1 ≤ k → k ≤ totalPages ∨ (k - 1) * size < 2 ^ 63 →
      listModels db { params with page := k } = .success .ok ⟨page k, k, size, listed.length, totalPages⟩

theorem partitioned_of_sendable (db : Stored) (sendable : params.filter.Sendable) : Partitioned db params := by
  obtain ⟨low, high⟩ : 1 ≤ clamp 1 maxPageSize params.pageSize ∧ clamp 1 maxPageSize params.pageSize ≤ 100 :=
    clamp_bounds (by decide)
  obtain ⟨size, sized⟩ := Int.eq_ofNat_of_zero_le (Int.le_trans Int.one_nonneg low)
  have positive : 0 < size := by omega
  refine ⟨listed db params.filter, size, ((listed db params.filter).length + size - 1) / size,
    window (listed db params.filter) size, sized.symm, listed_ordered, fun m => mem_listed, .windows _ positive,
    fun k first within => ?_⟩
  refine listModels_page sendable sized.symm first (within.elim (fun inside => ?_) (fun small => small))
  have bounded := (listed_length db params.filter).2
  have fits : (k - 1) * size < (listed db params.filter).length :=
    mul_lt_of_lt_ceiling positive (by omega)
  omega

/-- The pages of a request partition the models that satisfy its filters if and only if these can be
sent; else every page is an error, and no model satisfies them. -/
theorem pages_partition (db : Stored) (params : ListModelsParams) :
    (Partitioned db params ↔ params.filter.Sendable) ∧
      (¬params.filter.Sendable → (∀ m ∈ db.models, ¬Satisfies db params.filter m) ∧
        ∀ k, listModels db { params with page := k } = databaseError "Failed to query models") ∧
      (∀ k < 1, listModels db { params with page := k } = listModels db { params with page := 1 }) ∧
      ∀ i column value, params.filter.provided[i]? = some (column, value) →
        (whereClause params.filter).conditions[i]? = some ⟨column, i + 1⟩ ∧
          ∀ extra, bound (bindFilters params.filter ++ extra) (i + 1) = some value := by
  have refused : ¬params.filter.Sendable →
      ∀ k, listModels db { params with page := k } = databaseError "Failed to query models" :=
    fun unsendable k => listModels_unsendable unsendable
  refine ⟨⟨fun partitioned => ?_, partitioned_of_sendable db⟩, fun unsendable => ⟨fun m member satisfies => ?_,
    refused unsendable⟩, fun k below => ?_, fun i column value given => ?_⟩
  · by_contra unsendable
    obtain ⟨listed, size, totalPages, page, _, _, _, _, answered⟩ := partitioned
    have first := answered 1 (Nat.le_refl 1) (.inr (by simp))
    cases (refused unsendable 1).symm.trans first
  · have none : listed db params.filter = [] := listed_unsendable unsendable
    have listed := mem_listed.mpr ⟨member, satisfies⟩
    rw [none] at listed
    cases listed
  · simp only [listModels, if_pos below, Int.lt_irrefl, if_false]
    rfl
  · exact ⟨(placeholder_bound [] given).1, fun extra => (placeholder_bound extra given).2⟩

end Requests

def oneUpstream : Table LLMUpstream :=
  ⟨[⟨1, "first", "https://a", "", "openai", [], [], "online", ""⟩], by decide, by decide⟩

def threeModels : Table LLMModel :=
  ⟨[⟨3, 1, "c", "c", true, [], 0, 0, 0, 0, 0, ""⟩, ⟨1, 1, "a", "a", true, [], 0, 0, 0, 0, 0, ""⟩,
    ⟨2, 1, "b", "b", false, [], 0, 0, 0, 0, 0, ""⟩], by decide, by decide⟩

/-- A name with a NUL in it, which no stored name has, makes the first page an error. -/
theorem a_nul_in_a_filter_fails : ¬Partitioned
    ⟨oneUpstream, threeModels, by decide, by decide, by decide, by decide⟩
    ⟨none, none, some (String.singleton (Char.ofNat 0)), none, 1, 20⟩ := by
  rintro ⟨listed, size, totalPages, page, _, _, _, _, answered⟩
  cases answered 1 (Nat.le_refl 1) (.inr (by simp))

/-- Two of the models are active; with one a page, the second is on the second. -/
example : (match listModels ⟨oneUpstream, threeModels, by decide, by decide, by decide, by decide⟩
      ⟨none, some "first", none, some true, 2, 1⟩ with
    | .success _ body => some (body.data.map LLMModel.id, body.total, body.totalPages)
    | .error .. => none) = some ([3], 2, 2) := by
  decide +kernel

end AdminRestApi
end LLMPool.Catalogue
