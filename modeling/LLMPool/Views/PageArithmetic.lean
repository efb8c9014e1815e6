import LLMPool.Views.Pagination

/-! Where the page arithmetic stays in range: each listing answers with the rows at the
positions of its page if and only if the offset has 64 bits and every row of the page can be
read. -/
namespace LLMPool.Pagination
open Relational
open Billing.AdminRestApi (databaseError)
open Catalogue (IsText Stored)
open Catalogue.AdminRestApi (ListModelsParams PaginatedResponse clamp_bounds wrap)
open Secrets (Primitives UpstreamRow)

section Arithmetic
variable {checks : Bool} {page pageSize : Int}

theorem arith_exact {value : Int} (fits : InI64 value) : arith checks value = some value := if_pos fits

theorem arith_release (value : Int) : arith false value = some (wrap value) := by
  rw [arith]
  split
  · rename_i fits
    obtain ⟨low, high⟩ := fits
    exact congrArg some (Int.bmod_eq_of_le (by omega) (by omega)).symm
  · rfl

theorem pageOf_pos (page : Int) : 1 ≤ pageOf page := by
  unfold pageOf
  omega

theorem sizeOf_bounds (pageSize : Int) : 1 ≤ sizeOf pageSize ∧ sizeOf pageSize ≤ 100 := clamp_bounds (by decide)

/-- A product in range has factors in range. -/
theorem offset_bounds (small : (pageOf page - 1) * sizeOf pageSize < 2 ^ 63) :
    InI64 (pageOf page - 1) ∧ InI64 ((pageOf page - 1) * sizeOf pageSize) ∧
      0 ≤ (pageOf page - 1) * sizeOf pageSize := by
  have first := pageOf_pos page
  obtain ⟨low, high⟩ := sizeOf_bounds pageSize
  have nonneg : 0 ≤ (pageOf page - 1) * sizeOf pageSize := Int.mul_nonneg (by omega) (by omega)
  have least : (pageOf page - 1) * 1 ≤ (pageOf page - 1) * sizeOf pageSize :=
    Int.mul_le_mul_of_nonneg_left low (by omega)
  exact ⟨⟨by omega, by omega⟩, ⟨by omega, small⟩, nonneg⟩

theorem offsetOf_exact (small : (pageOf page - 1) * sizeOf pageSize < 2 ^ 63) :
    offsetOf checks (pageOf page) (sizeOf pageSize) = some ((pageOf page - 1) * sizeOf pageSize) := by
  obtain ⟨before, offset, _⟩ := offset_bounds small
  rw [offsetOf, arith_exact before]
  exact arith_exact offset

/-- The number of pages never leaves the range. -/
theorem total_bounds {total : Nat} (bounded : total < 2 ^ 62) (pageSize : Int) :
    InI64 (total + sizeOf pageSize) ∧ InI64 (total + sizeOf pageSize - 1) := by
  obtain ⟨low, high⟩ := sizeOf_bounds pageSize
  exact ⟨⟨by omega, by omega⟩, ⟨by omega, by omega⟩⟩

/-- The pages that some rows fill. -/
def pagesOf (total : Nat) (pageSize : Int) : Nat :=
  (total + (sizeOf pageSize).toNat - 1) / (sizeOf pageSize).toNat

theorem totalPagesOf_exact {total : Nat} (bounded : total < 2 ^ 62) :
    totalPagesOf checks total (sizeOf pageSize) = some (pagesOf total pageSize : Int) := by
  obtain ⟨sum, last⟩ := total_bounds bounded pageSize
  obtain ⟨low, high⟩ := sizeOf_bounds pageSize
  obtain ⟨size, sized⟩ := Int.eq_ofNat_of_zero_le (Int.le_trans Int.one_nonneg low)
  rw [sized] at sum last low high
  rw [pagesOf, sized, Int.toNat_natCast, totalPagesOf]
  split
  · rename_i empty
    obtain rfl : total = 0 := by omega
    rw [Nat.zero_add, Nat.div_eq_of_lt (by omega)]
    rfl
  · rename_i some
    rw [arith_exact sum]
    change (arith checks ((total : Int) + size - 1)).bind _ = _
    rw [arith_exact last, show (total : Int) + size - 1 = ((total + size - 1 : Nat) : Int) by omega]
    rfl

end Arithmetic

section Pages
variable {ρ γ α ε ε' : Type} [LinearOrder γ] {column : ρ → γ} {rows : List ρ} {shows : ρ → α → Prop}
  {checks : Bool} {message : String} {total : Nat} {page pageSize : Int}

/-- The rows at the positions of a page, in the order of a column. -/
def pageRows (column : ρ → γ) (rows : List ρ) (page pageSize : Int) : List ρ :=
  ((rows.insertionSort (fun r s => column r ≤ column s)).drop ((pageOf page - 1) * sizeOf pageSize).toNat).take
    (sizeOf pageSize).toNat

/-- Nothing that is computed leaves the range, and the answer shows the rows at the positions
of the page in the ordered table. -/
structure Paged (column : ρ → γ) (rows : List ρ) (shows : ρ → α → Prop) (total : Nat) (page pageSize : Int)
    (answer : Option (Billing.AdminRestApi.Response (PaginatedResponse α))) : Prop where
  before : InI64 (pageOf page - 1)
  offset : InI64 ((pageOf page - 1) * sizeOf pageSize)
  sum : InI64 (total + sizeOf pageSize)
  last : InI64 (total + sizeOf pageSize - 1)
  answered : ∃ (ordered : List ρ) (data : List α),
    ordered.Perm rows ∧ ordered.Pairwise (fun r s => column r ≤ column s) ∧
    List.Forall₂ shows ((ordered.drop ((pageOf page - 1) * sizeOf pageSize).toNat).take (sizeOf pageSize).toNat) data ∧
    answer = some (.success .ok ⟨data, pageOf page, sizeOf pageSize, total, pagesOf total pageSize⟩)

theorem exists_shown {rows : List ρ} :
    (∃ data, List.Forall₂ shows rows data) ↔ ∀ row ∈ rows, ∃ a, shows row a := by
  induction rows with
  | nil => simp
  | cons row rows ih =>
      rw [List.forall_mem_cons, ← ih]
      constructor
      · rintro ⟨_, shown⟩
        cases shown with
        | cons first rest => exact ⟨⟨_, first⟩, _, rest⟩
      · rintro ⟨⟨a, first⟩, data, rest⟩
        exact ⟨a :: data, .cons first rest⟩

/-- An answer with a page has counted the rows and read the page. -/
theorem paginate_success {count : Except ε Int} {list : Int → Int → Option (Except ε' (List α))}
    {response : PaginatedResponse α}
    (answered : paginate checks message page pageSize count list = some (.success .ok response)) :
    (∃ counted, count = .ok counted) ∧ ∃ offset, offsetOf checks (pageOf page) (sizeOf pageSize) = some offset ∧
      list offset (sizeOf pageSize) = some (.ok response.data) := by
  rw [paginate] at answered
  obtain ⟨offset, computed, answered⟩ := Option.bind_eq_some_iff.mp answered
  cases count with
  | error e => cases answered
  | ok counted =>
      obtain ⟨result, listed, answered⟩ := Option.bind_eq_some_iff.mp answered
      cases result with
      | error e => cases answered
      | ok data =>
          obtain ⟨totalPages, _, answered⟩ := Option.bind_eq_some_iff.mp answered
          cases answered
          exact ⟨⟨counted, rfl⟩, offset, computed, listed⟩

/-- A listing is right if and only if its offset has 64 bits, its filters can be sent and the
rows of the page can be read. -/
theorem paginate_iff {count : Except ε Int} {list : Int → Int → Option (Except ε' (List α))} (Sendable : Prop)
    (bounded : total < 2 ^ 62) (unsent : ¬Sendable → ∃ e, count = .error e) (counts : Sendable → count = .ok (total : Int))
    (lists : Sendable → ∀ (offset limit : Nat) data, list offset limit = some (.ok data) ↔ List.Forall₂ shows
      (((rows.insertionSort (fun r s => column r ≤ column s)).drop offset).take limit) data) :
    Paged column rows shows total page pageSize (paginate checks message page pageSize count list) ↔
      (pageOf page - 1) * sizeOf pageSize < 2 ^ 63 ∧ Sendable ∧
        ∀ row ∈ pageRows column rows page pageSize, ∃ a, shows row a := by
  have sized : ((sizeOf pageSize).toNat : Int) = sizeOf pageSize :=
    Int.toNat_of_nonneg (Int.le_trans Int.one_nonneg (sizeOf_bounds pageSize).1)
  constructor
  · intro paged
    have small := paged.offset.2
    have placed : (((pageOf page - 1) * sizeOf pageSize).toNat : Int) = (pageOf page - 1) * sizeOf pageSize :=
      Int.toNat_of_nonneg (offset_bounds small).2.2
    obtain ⟨_, data, _, _, _, answered⟩ := paged.answered
    obtain ⟨⟨counted, count_ok⟩, offset, computed, listed⟩ := paginate_success answered
    have sendable : Sendable := by
      by_contra unsendable
      obtain ⟨e, failed⟩ := unsent unsendable
      cases failed.symm.trans count_ok
    cases (offsetOf_exact small).symm.trans computed
    refine ⟨small, sendable, exists_shown.mp ⟨data, (lists sendable _ _ _).mp ?_⟩⟩
    rw [placed, sized]
    exact listed
  · rintro ⟨small, sendable, readable⟩
    obtain ⟨before, offset, nonneg⟩ := offset_bounds small
    obtain ⟨sum, last⟩ := total_bounds bounded pageSize
    obtain ⟨data, shown⟩ := exists_shown.mpr readable
    refine ⟨before, offset, sum, last, _, data, List.perm_insertionSort _ rows, List.pairwise_insertionSort _ _,
      shown, ?_⟩
    have listed := (lists sendable _ _ _).mpr shown
    rw [Int.toNat_of_nonneg nonneg, sized] at listed
    rw [paginate, offsetOf_exact small, counts sendable]
    change (list ((pageOf page - 1) * sizeOf pageSize) (sizeOf pageSize)).bind _ = _
    rw [listed]
    change (totalPagesOf checks total (sizeOf pageSize)).bind _ = _
    rw [totalPagesOf_exact bounded]
    rfl

end Pages

section Statements
variable {ρ α κ υ γ : Type} [LinearOrder γ] {column : ρ → γ} {rows : List ρ} {offset limit : Nat}

theorem limited_nat : limited column rows offset limit =
    .ok (((rows.insertionSort (fun r s => column r ≤ column s)).drop offset).take limit) := by
  have nonneg : ¬((limit : Int) < 0 ∨ (offset : Int) < 0) := by omega
  rw [limited, if_neg nonneg, Int.toNat_natCast, Int.toNat_natCast]

theorem limited_eq {data : List ρ} : some (limited column rows offset limit) = some (.ok data) ↔
    List.Forall₂ Eq (((rows.insertionSort (fun r s => column r ≤ column s)).drop offset).take limit) data := by
  rw [limited_nat, List.forall₂_eq_eq_eq, Option.some.injEq, Except.ok.injEq]

theorem decrypted_eq {decrypt : ρ → Except Secrets.QueryError α} {data : List α} :
    decrypted decrypt (limited column rows offset limit) = some (.ok data) ↔
      List.Forall₂ (fun row a => decrypt row = .ok a)
        (((rows.insertionSort (fun r s => column r ≤ column s)).drop offset).take limit) data := by
  rw [limited_nat, decrypted, ← mapM_ok]
  cases List.mapM decrypt _ with
  | error e => cases e <;> simp [unlessPanicked]
  | ok made => simp [unlessPanicked]

end Statements

section Handlers
variable {checks : Bool} {p : Primitives} {encryptionKey : String} {page pageSize : Int}

/-- The offset of a page has 64 bits. -/
def OffsetFits (page pageSize : Int) : Prop := (pageOf page - 1) * sizeOf pageSize < 2 ^ 63

instance (page pageSize : Int) : Decidable (OffsetFits page pageSize) := inferInstanceAs (Decidable (_ < _))

theorem offsetOf_release : offsetOf false page pageSize = some (wrap (wrap (page - 1) * pageSize)) := by
  rw [offsetOf, arith_release]
  exact arith_release _

theorem totalPagesOf_release (total : Int) : totalPagesOf false total pageSize =
    some (if total = 0 then 0 else (wrap (wrap (total + pageSize) - 1)).tdiv pageSize) := by
  rw [totalPagesOf]
  split
  · rfl
  · rw [arith_release]
    change (arith false (wrap (total + pageSize) - 1)).bind _ = _
    rw [arith_release]
    rfl

theorem listUpstreams_iff (total rows : Held UpstreamRow) (params : PaginationParams) :
    Paged UpstreamRow.id rows.rows (fun row u => Secrets.decryptUpstream p encryptionKey row = .ok u)
        total.rows.length params.page params.pageSize (listUpstreams checks p encryptionKey total rows params) ↔
      OffsetFits params.page params.pageSize ∧
        ∀ row ∈ pageRows UpstreamRow.id rows.rows params.page params.pageSize,
          ∃ u, Secrets.decryptUpstream p encryptionKey row = .ok u := by
  refine (paginate_iff True total.bounded (fun never => absurd trivial never) (fun _ => rfl)
    (fun _ _ _ _ => decrypted_eq)).trans ?_
  simp only [true_and, OffsetFits]

theorem listAccounts_iff (total rows : Held Account) (params : PaginationParams) :
    Paged Account.id rows.rows Eq total.rows.length params.page params.pageSize
      (listAccounts checks total rows params) ↔ OffsetFits params.page params.pageSize := by
  refine (paginate_iff True total.bounded (fun never => absurd trivial never) (fun _ => rfl)
    (fun _ _ _ _ => limited_eq)).trans ?_
  simp only [exists_eq', implies_true, and_true, OffsetFits]

/-- The keys of an account, once the account is there. -/
theorem listAccountApikeys_iff (accounts : Table Account) (total rows : Held CredentialRow) (accountId : Int)
    (params : PaginationParams) :
    (match accounts.find accountId with
      | none => listAccountApikeys checks p encryptionKey accounts total rows accountId params =
          some (Auth.accountNotFound accountId)
      | some _ => Paged (fun row : CredentialRow => row.id) (rows.rows.filter (ofAccount accountId))
          (fun row key => decryptCredential p encryptionKey row = .ok key)
          (total.rows.filter (ofAccount accountId)).length params.page params.pageSize
          (listAccountApikeys checks p encryptionKey accounts total rows accountId params)) ↔
      ∀ account, accounts.find accountId = some account → OffsetFits params.page params.pageSize ∧
        ∀ row ∈ pageRows (fun row : CredentialRow => row.id) (rows.rows.filter (ofAccount accountId)) params.page
          params.pageSize, ∃ key, decryptCredential p encryptionKey row = .ok key := by
  simp only [listAccountApikeys, getAccountById]
  cases accounts.find accountId with
  | none => simp
  | some account =>
      have bounded : (total.rows.filter (ofAccount accountId)).length < 2 ^ 62 :=
        (List.length_filter_le _ _).trans_lt total.bounded
      refine (paginate_iff True bounded (fun never => absurd trivial never) (fun _ => rfl)
        (fun _ _ _ _ => decrypted_eq)).trans ?_
      simp only [true_and, Option.some.injEq, forall_eq', OffsetFits]

theorem listModels_iff (total rows : Stored) (params : ListModelsParams) :
    Paged LLMModel.id (Catalogue.matching rows params.filter) Eq (Catalogue.matching total params.filter).length
      params.page params.pageSize (listModels checks total rows params) ↔
      OffsetFits params.page params.pageSize ∧ params.filter.Sendable := by
  have length := Catalogue.listed_length total params.filter
  refine (paginate_iff params.filter.Sendable (length.1 ▸ length.2) (fun unsendable => ?_)
    (fun sendable => ?_) (fun sendable offset limit data => ?_)).trans ?_
  · have refused := Catalogue.select_unsendable total unsendable (Catalogue.whereClause params.filter).conditions
      (Catalogue.whereClause params.filter).paramIdx []
    rw [List.append_nil] at refused
    refine ⟨.database .conflict, ?_⟩
    simp only [Catalogue.countModelsFiltered, refused]
    rfl
  · rw [← length.1]
    exact Catalogue.countModelsFiltered_listed sendable
  · rw [Catalogue.listModelsFilteredPaginated_listed sendable, List.forall₂_eq_eq_eq, Option.some.injEq,
      Except.ok.injEq]
    rfl
  · simp only [exists_eq', implies_true, and_true, OffsetFits]

/-- A row of a plan is never decoded, so no page with a plan on it is listed. -/
theorem listSubscriptionPlans_iff (total rows : Held Plans.SubscriptionPlanRow) (params : PaginationParams) :
    Paged (fun row : Plans.SubscriptionPlanRow => bySortOrder row.sortOrder.toInt row.id.toInt) rows.rows
        (fun row plan => Plans.SubscriptionPlan.fromRow row = .ok plan) total.rows.length params.page params.pageSize
        (listSubscriptionPlans checks total rows params) ↔
      OffsetFits params.page params.pageSize ∧
        pageRows (fun row : Plans.SubscriptionPlanRow => bySortOrder row.sortOrder.toInt row.id.toInt) rows.rows
          params.page params.pageSize = [] := by
  have undecoded : ∀ row, ¬∃ plan, Plans.SubscriptionPlan.fromRow row = .ok plan := by
    rintro row ⟨plan, decoded⟩
    cases decoded
  refine (paginate_iff True total.bounded (fun never => absurd trivial never) (fun _ => rfl)
    (fun _ offset limit data => ?_)).trans ?_
  · rw [listSubscriptionPlansPaginated, limited_nat, Option.some.injEq, ← mapM_ok]
  · simp only [true_and, undecoded, imp_false, OffsetFits, ← List.eq_nil_iff_forall_not_mem]

theorem listSubscriptions_iff (total rows : Held Subscription) (params : ListSubscriptionsParams) :
    Paged (fun row : Subscription => bySortOrder row.sortOrder (-row.id))
        (rows.rows.filter (filtered params.accountId params.status)) Eq
        (total.rows.filter (filtered params.accountId params.status)).length params.page params.pageSize
        (listSubscriptions checks total rows params) ↔
      OffsetFits params.page params.pageSize ∧ ∀ status, params.status = some status → IsText status := by
  have sent : params.status.all (fun status => IsText status) = true ↔
      ∀ status, params.status = some status → IsText status := by
    cases params.status <;> simp
  have bounded : (total.rows.filter (filtered params.accountId params.status)).length < 2 ^ 62 :=
    (List.length_filter_le _ _).trans_lt total.bounded
  refine (paginate_iff (params.status.all (fun status => IsText status) = true) bounded
    (fun unsendable => ?_) (fun sendable => ?_) (fun sendable offset limit data => ?_)).trans ?_
  · refine ⟨.database .conflict, ?_⟩
    rw [countSubscriptions, selected, if_neg unsendable]
    rfl
  · rw [countSubscriptions, selected, if_pos sendable]
    rfl
  · rw [listSubscriptionsPaginated, selected, if_pos sendable]
    exact limited_eq
  · simp only [sent, exists_eq', implies_true, and_true, OffsetFits]

/-- In a build without overflow checks the listing of the models is the one whose pages
partition them. -/
theorem listModels_release (db : Stored) (params : ListModelsParams) :
    listModels false db db params = some (Catalogue.AdminRestApi.listModels db params) := by
  simp only [listModels, paginate, offsetOf_release, totalPagesOf_release, Catalogue.AdminRestApi.listModels,
    pageOf, sizeOf, Option.bind_eq_bind, Option.bind_some]
  cases Catalogue.countModelsFiltered db params.filter with
  | error e => rfl
  | ok total =>
      dsimp only
      cases Catalogue.listModelsFilteredPaginated db params.filter _ _ with
      | error e => rfl
      | ok models => rfl

/-- In every listing the page arithmetic stays in range, and the rows of the page are
answered, exactly where the offset has 64 bits and the page can be read. -/
theorem page_arithmetic_iff (checks : Bool) (p : Primitives) (encryptionKey : String) :
    (∀ total rows params, Paged UpstreamRow.id rows.rows
        (fun row u => Secrets.decryptUpstream p encryptionKey row = .ok u) total.rows.length params.page
        params.pageSize (listUpstreams checks p encryptionKey total rows params) ↔
      OffsetFits params.page params.pageSize ∧
        ∀ row ∈ pageRows UpstreamRow.id rows.rows params.page params.pageSize,
          ∃ u, Secrets.decryptUpstream p encryptionKey row = .ok u) ∧
    (∀ total rows params, Paged Account.id rows.rows Eq total.rows.length params.page params.pageSize
        (listAccounts checks total rows params) ↔ OffsetFits params.page params.pageSize) ∧
    (∀ (accounts : Table Account) (total rows : Held CredentialRow) (accountId : Int) (params : PaginationParams),
      (match accounts.find accountId with
        | none => listAccountApikeys checks p encryptionKey accounts total rows accountId params =
            some (Auth.accountNotFound accountId)
        | some _ => Paged (fun row : CredentialRow => row.id) (rows.rows.filter (ofAccount accountId))
            (fun row key => decryptCredential p encryptionKey row = .ok key)
            (total.rows.filter (ofAccount accountId)).length params.page params.pageSize
            (listAccountApikeys checks p encryptionKey accounts total rows accountId params)) ↔
      ∀ account, accounts.find accountId = some account → OffsetFits params.page params.pageSize ∧
        ∀ row ∈ pageRows (fun row : CredentialRow => row.id) (rows.rows.filter (ofAccount accountId)) params.page
          params.pageSize, ∃ key, decryptCredential p encryptionKey row = .ok key) ∧
    (∀ total rows params, Paged LLMModel.id (Catalogue.matching rows params.filter) Eq
        (Catalogue.matching total params.filter).length params.page params.pageSize
        (listModels checks total rows params) ↔
      OffsetFits params.page params.pageSize ∧ params.filter.Sendable) ∧
    (∀ total rows params, Paged
        (fun row : Plans.SubscriptionPlanRow => bySortOrder row.sortOrder.toInt row.id.toInt) rows.rows
        (fun row plan => Plans.SubscriptionPlan.fromRow row = .ok plan) total.rows.length params.page params.pageSize
        (listSubscriptionPlans checks total rows params) ↔
      OffsetFits params.page params.pageSize ∧
        pageRows (fun row : Plans.SubscriptionPlanRow => bySortOrder row.sortOrder.toInt row.id.toInt) rows.rows
          params.page params.pageSize = []) ∧
    ∀ total rows params, Paged (fun row : Subscription => bySortOrder row.sortOrder (-row.id))
        (rows.rows.filter (filtered params.accountId params.status)) Eq
        (total.rows.filter (filtered params.accountId params.status)).length params.page params.pageSize
        (listSubscriptions checks total rows params) ↔
      OffsetFits params.page params.pageSize ∧ ∀ status, params.status = some status → IsText status :=
  ⟨listUpstreams_iff, listAccounts_iff, listAccountApikeys_iff, listModels_iff, listSubscriptionPlans_iff,
    listSubscriptions_iff⟩

def oneAccount : Held Account := ⟨⟨[⟨1, "first", true⟩], by decide, by decide⟩, by decide⟩

/-- The last page that can be asked for panics or is a database error, and page `2 ^ 62 + 1`
of a hundred panics or shows the first page. -/
theorem far_pages_fail :
    ¬Paged Account.id oneAccount.rows Eq 1 (2 ^ 63 - 1) 20
      (listAccounts true oneAccount oneAccount ⟨2 ^ 63 - 1, 20⟩) ∧
    listAccounts true oneAccount oneAccount ⟨2 ^ 63 - 1, 20⟩ = none ∧
    listAccounts false oneAccount oneAccount ⟨2 ^ 63 - 1, 20⟩ = some (databaseError "Failed to query accounts") ∧
    listAccounts true oneAccount oneAccount ⟨2 ^ 62 + 1, 100⟩ = none ∧
    listAccounts false oneAccount oneAccount ⟨2 ^ 62 + 1, 100⟩ =
      some (.success .ok ⟨[⟨1, "first", true⟩], 2 ^ 62 + 1, 100, 1, 1⟩) := by
  refine ⟨fun paged => ?_, rfl, rfl, rfl, rfl⟩
  exact absurd paged.offset (by decide)

end Handlers

end LLMPool.Pagination
