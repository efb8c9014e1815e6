import Mathlib.Data.List.Nodup
import Mathlib.Logic.Function.Basic

/-! Sorted sets of scored members that expire as a whole, and how many admissions fall into
a window when each of them counts what came shortly before it. -/
namespace Windows

/-- The members of a key with their scores, and when the key expires. -/
structure SortedSet where
  members : List (String × Int)
  expiresAt : Option Int
  deriving DecidableEq

namespace SortedSet

def empty : SortedSet := ⟨[], none⟩

/-- What is left of a key at a time. -/
def live (now : Int) (set : SortedSet) : SortedSet :=
  if set.expiresAt.any (fun expiresAt => expiresAt < now) then empty else set

/-- All members up to a score are removed; a key without members is none. -/
def zremrangebyscore (max : Int) (set : SortedSet) : SortedSet :=
  let kept := set.members.filter (fun entry => max < entry.2)
  if kept = [] then empty else { set with members := kept }

/-- A member that is there already takes the new score. -/
def zadd (member : String) (score : Int) (set : SortedSet) : SortedSet :=
  { set with members := (member, score) :: set.members.filter (fun entry => entry.1 ≠ member) }

def zcard (set : SortedSet) : Nat := set.members.length

/-- A key expires in so many seconds; one that would have expired already is deleted. -/
def expire (now seconds : Int) (set : SortedSet) : SortedSet :=
  if seconds ≤ 0 then empty else { set with expiresAt := some (now + seconds * 1000) }

variable {set : SortedSet} {entry : String × Int} {member : String} {score max now later seconds : Int}

@[simp] theorem live_live : (set.live now).live now = set.live now := by
  by_cases expired : set.expiresAt.any (fun expiresAt => expiresAt < now) = true
  · simp [live, expired, empty]
  · simp [live, expired]

theorem live_zremrangebyscore (alive : set.live now = set) :
    (set.zremrangebyscore max).live now = set.zremrangebyscore max := by
  rw [← alive, zremrangebyscore]
  split
  · rfl
  · by_cases expired : set.expiresAt.any (fun expiresAt => expiresAt < now) = true
    · simp [live, expired, empty]
    · simp [live, expired]

theorem live_zadd (alive : set.live now = set) : (set.zadd member score).live now = set.zadd member score := by
  rw [← alive, zadd]
  by_cases expired : set.expiresAt.any (fun expiresAt => expiresAt < now) = true
  · simp [live, expired, empty]
  · simp [live, expired]

theorem members_zremrangebyscore :
    (set.zremrangebyscore max).members = set.members.filter (fun entry => max < entry.2) := by
  simp only [zremrangebyscore]
  split
  · rename_i none
    exact none.symm
  · rfl

theorem mem_zremrangebyscore :
    entry ∈ (set.zremrangebyscore max).members ↔ entry ∈ set.members ∧ max < entry.2 := by
  simp [members_zremrangebyscore]

/-- Whether a key has expired does not matter where its members are to be removed anyway. -/
theorem members_live_zremrangebyscore
    (stale : ∀ expiresAt, set.expiresAt = some expiresAt → expiresAt < now → ∀ entry ∈ set.members, entry.2 ≤ max) :
    ((set.live now).zremrangebyscore max).members = set.members.filter (fun entry => max < entry.2) := by
  rw [members_zremrangebyscore, live]
  split
  · rename_i expired
    obtain ⟨expiresAt, expires, before⟩ := (Option.any_eq_true _ _).mp expired
    refine (List.filter_eq_nil_iff.mpr (fun entry member => ?_)).symm
    have old := stale expiresAt expires (of_decide_eq_true before) entry member
    simpa using old
  · rfl

theorem members_zadd_new (new : ∀ entry ∈ set.members, entry.1 ≠ member) :
    (set.zadd member score).members = (member, score) :: set.members := by
  have kept : set.members.filter (fun entry => entry.1 ≠ member) = set.members :=
    List.filter_eq_self.mpr (fun entry inside => decide_eq_true (new entry inside))
  rw [zadd, kept]

theorem mem_zadd_self : (member, score) ∈ (set.zadd member score).members := List.mem_cons_self

/-- An older member stays, also where it is added again with the score that it has. -/
theorem mem_zadd (old : entry ∈ set.members) (same : entry.1 = member → entry.2 = score) :
    entry ∈ (set.zadd member score).members := by
  by_cases again : entry.1 = member
  · obtain rfl : entry = (member, score) := Prod.ext again (same again)
    exact mem_zadd_self
  · exact List.mem_cons_of_mem _ (List.mem_filter.mpr ⟨old, decide_eq_true again⟩)

theorem mem_expire (old : entry ∈ set.members) (soon : later < now + seconds * 1000) (present : now ≤ later) :
    entry ∈ ((set.expire now seconds).live later).members := by
  have positive : ¬seconds ≤ 0 := by omega
  have alive : ¬now + seconds * 1000 < later := by omega
  simpa [expire, live, positive, alive] using old

end SortedSet

section Admissions
variable {α : Type} (time : α → Int) (admitted : α → Bool) (limit : Nat) (width : Int)

/-- A log, newest first, each of whose admissions counts few that came shortly before it. -/
def Limited : List α → Prop
  | [] => True
  | a :: older =>
      (admitted a = true → (a :: older).countP (fun b => admitted b && decide (time a < time b + width)) ≤ limit) ∧
      Limited older

variable {time admitted limit width} {log : List α}

/-- At most so many admissions fall into a window of that width. -/
theorem Limited.within (limited : Limited time admitted limit width log) (window : α → Bool)
    (near : ∀ a b, window a = true → window b = true → time a < time b + width) :
    log.countP (fun a => admitted a && window a) ≤ limit := by
  induction log with
  | nil => exact Nat.zero_le _
  | cons a older ih =>
      have rest := ih limited.2
      by_cases counted : admitted a = true ∧ window a = true
      · have few := limited.1 counted.1
        have shortly : ∀ b ∈ a :: older, (admitted b && window b) = true →
            (admitted b && decide (time a < time b + width)) = true := by
          intro b _ both
          simp only [Bool.and_eq_true, decide_eq_true_eq] at both ⊢
          exact ⟨both.1, near a b counted.2 both.2⟩
        exact Nat.le_trans (List.countP_mono_left shortly) few
      · have other : (admitted a && window a) = false := by simpa using counted
        simpa [List.countP_cons, other] using rest

end Admissions

end Windows
