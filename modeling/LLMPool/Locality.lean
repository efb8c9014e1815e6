import LLMPool.Database
import LLMPool.Transactions.Seen

/-! What a write does to a row or to an index entry depends on the rows and the entries that it
touches, and on no other. -/
namespace LLMPool
open Relational Transactions

section Tables
variable {ρ κ υ : Type} [Row ρ κ υ] [DecidableEq κ] [DecidableEq υ] {t t' : Table ρ} {r : ρ}

theorem free_agrees (row : t.find (key r) = t'.find (key r))
    (entry : (t.lookup (index r)).isSome = (t'.lookup (index r)).isSome) : t.free r ↔ t'.free r := by
  simp only [Table.free, row, ← Option.isNone_iff_eq_none, ← Option.not_isSome, entry]

theorem find_insert_agrees (row : t.find (key r) = t'.find (key r))
    (entry : (t.lookup (index r)).isSome = (t'.lookup (index r)).isSome) (agrees : t.find k = t'.find k) :
    (t.insert r).find k = (t'.insert r).find k := by
  by_cases here : key r = k
  · subst here
    by_cases free : t.free r
    · rw [Table.find_insert_self free, Table.find_insert_self ((free_agrees row entry).mp free)]
    · rw [Table.insert, Table.insert, dif_neg free, dif_neg (mt (free_agrees row entry).mpr free)]
      exact agrees
  · rw [Table.find_insert_ne t here, Table.find_insert_ne t' here, agrees]

theorem lookup_insert_agrees (row : t.find (key r) = t'.find (key r))
    (entry : (t.lookup (index r)).isSome = (t'.lookup (index r)).isSome)
    (agrees : (t.lookup u).isSome = (t'.lookup u).isSome) :
    ((t.insert r).lookup u).isSome = ((t'.insert r).lookup u).isSome := by
  by_cases here : index r = u
  · subst here
    by_cases free : t.free r
    · rw [Table.lookup_insert_self free, Table.lookup_insert_self ((free_agrees row entry).mp free)]
    · rw [Table.insert, Table.insert, dif_neg free, dif_neg (mt (free_agrees row entry).mpr free)]
      exact agrees
  · rw [Table.lookup_insert_ne t here, Table.lookup_insert_ne t' here, agrees]

omit [DecidableEq υ] in
theorem find_modify_agrees {f : ρ → ρ} (keeps : ∀ r : ρ, key (f r) = key r ∧ index (f r) = index r)
    (agrees : t.find k = t'.find k) : (t.modify j f keeps).find k = (t'.modify j f keeps).find k := by
  rw [Table.find_modify, Table.find_modify, agrees]

theorem lookup_modify_agrees {f : ρ → ρ} (keeps : ∀ r : ρ, key (f r) = key r ∧ index (f r) = index r)
    (agrees : (t.lookup u).isSome = (t'.lookup u).isSome) :
    ((t.modify j f keeps).lookup u).isSome = ((t'.modify j f keeps).lookup u).isSome := by
  rw [Table.lookup_modify, Table.lookup_modify, Option.isSome_map, Option.isSome_map, agrees]

end Tables

theorem engine_local : engine.Local := by
  intro w l db db' touched agrees
  cases w
  case insertWallet w =>
    have row : db.wallets.find (key w) = db'.wallets.find (key w) := touched (.wallet w.id) List.mem_cons_self
    have entry : (db.wallets.lookup (index w)).isSome = (db'.wallets.lookup (index w)).isSome :=
      touched (.walletOf w.accountId) (List.mem_cons_of_mem _ List.mem_cons_self)
    cases l with
    | wallet id => exact find_insert_agrees row entry agrees
    | walletOf accountId => exact lookup_insert_agrees row entry agrees
    | _ => exact agrees
  case insertBalanceChange c =>
    have row : db.balanceChanges.find (key c) = db'.balanceChanges.find (key c) :=
      touched (.balanceChange c.id) List.mem_cons_self
    have entry : (db.balanceChanges.lookup (index c)).isSome = (db'.balanceChanges.lookup (index c)).isSome :=
      touched (.request c.uniqueRequestId) (List.mem_cons_of_mem _ List.mem_cons_self)
    cases l with
    | balanceChange id => exact find_insert_agrees row entry agrees
    | request id => exact lookup_insert_agrees row entry agrees
    | _ => exact agrees
  case insertSubscription s =>
    have row : db.subscriptions.find (key s) = db'.subscriptions.find (key s) :=
      touched (.subscription s.id) List.mem_cons_self
    cases l with
    | subscription id => exact find_insert_agrees row (congrArg Option.isSome row) agrees
    | _ => exact agrees
  case putSessionEvent e =>
    have row : db.sessionEvents.find e.id = db'.sessionEvents.find e.id :=
      touched (.sessionEvent e.id) List.mem_cons_self
    have entry : (db.sessionEvents.lookup (index e)).isSome = (db'.sessionEvents.lookup (index e)).isSome :=
      touched (.sessionIndex e.sessionId e.sessionIndex) (List.mem_cons_of_mem _ List.mem_cons_self)
    cases l with
    | sessionEvent id =>
        simp only [same, apply, row]
        split
        · exact find_modify_agrees (overwrite_keeps e) agrees
        · exact find_insert_agrees row entry agrees
    | sessionIndex id number =>
        simp only [same, apply, row]
        split
        · exact lookup_modify_agrees (overwrite_keeps e) agrees
        · exact lookup_insert_agrees row entry agrees
    | _ => exact agrees
  case setWalletBalance id balance =>
    cases l with
    | wallet j => exact find_modify_agrees (withBalance_keeps balance) agrees
    | walletOf accountId => exact lookup_modify_agrees (withBalance_keeps balance) agrees
    | _ => exact agrees
  case markApplied id subscriptionId =>
    cases l with
    | balanceChange j => exact find_modify_agrees (applied_keeps subscriptionId) agrees
    | request uniqueRequestId => exact lookup_modify_agrees (applied_keeps subscriptionId) agrees
    | _ => exact agrees
  case setSubscriptionUsage id tokens money =>
    cases l with
    | subscription j => exact find_modify_agrees (withUsage_keeps tokens money) agrees
    | _ => exact agrees
  case setSubscriptionStatus id status =>
    cases l with
    | subscription j => exact find_modify_agrees (withStatus_keeps status) agrees
    | _ => exact agrees
  all_goals cases l <;> exact agrees

end LLMPool
