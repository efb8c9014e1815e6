import Mathlib.Algebra.Order.Ring.Int
import Mathlib.Logic.Function.Basic

/-! Signed numbers of 64 bits under keys that expire, and what a key holds of the increments
that were made before it expires. -/
namespace Windows

structure Counter where
  value : Int
  expiresAt : Option Int
  deriving DecidableEq

namespace Counter

/-- What is left of a key at a time. -/
def live (now : Int) (counter : Option Counter) : Option Counter :=
  counter.filter (fun c => !c.expiresAt.any (fun expiresAt => expiresAt < now))

/-- A key that is not there counts from zero; nothing is changed where the sum does not fit. -/
def incrBy (now delta : Int) (counter : Option Counter) : Option Counter :=
  let value := (live now counter).elim 0 Counter.value + delta
  if -(2 ^ 63) ≤ value ∧ value < 2 ^ 63 then some ⟨value, (live now counter).bind Counter.expiresAt⟩ else none

/-- A key expires in so many seconds; one that would have expired already is deleted. -/
def expire (now seconds : Int) (counter : Option Counter) : Option Counter :=
  if seconds ≤ 0 then none
  else (live now counter).map (fun c => { c with expiresAt := some (now + seconds * 1000) })

/-- A key holds the sum of its increments until a time, and is absent without any. -/
def Holds (limit : Int) (increments : List Int) (counter : Option Counter) : Prop :=
  match increments with
  | [] => counter = none
  | _ => ∃ expiresAt, limit ≤ expiresAt ∧ counter = some ⟨increments.sum, some expiresAt⟩

variable {now seconds limit : Int} {increments : List Int} {counter : Option Counter}

theorem live_some {value : Int} {expiresAt : Option Int}
    (alive : expiresAt.any (fun expiresAt => expiresAt < now) = false) :
    live now (some ⟨value, expiresAt⟩) = some ⟨value, expiresAt⟩ := by
  rw [live, Option.filter_some, if_pos (by rw [alive]; rfl)]

theorem live_of_le {value expiresAt : Int} (early : now ≤ expiresAt) :
    live now (some ⟨value, some expiresAt⟩) = some ⟨value, some expiresAt⟩ := by
  have alive : ¬expiresAt < now := by omega
  exact live_some (decide_eq_false alive)

theorem Holds.live (holds : Holds limit increments counter) (early : now ≤ limit) :
    live now counter = counter := by
  cases increments with
  | nil =>
      obtain rfl : counter = none := holds
      rfl
  | cons first rest =>
      obtain ⟨expiresAt, kept, rfl⟩ := holds
      exact live_of_le (by omega)

theorem Holds.value (holds : Holds limit increments counter) :
    counter.map Counter.value = if increments = [] then none else some increments.sum := by
  cases increments with
  | nil =>
      obtain rfl : counter = none := holds
      rfl
  | cons first rest =>
      obtain ⟨expiresAt, kept, rfl⟩ := holds
      rfl

theorem Holds.elim (holds : Holds limit increments counter) :
    counter.elim 0 Counter.value = increments.sum := by
  cases increments with
  | nil =>
      obtain rfl : counter = none := holds
      rfl
  | cons first rest =>
      obtain ⟨expiresAt, kept, rfl⟩ := holds
      rfl

/-- An increment is added to what a key holds. -/
theorem Holds.incrBy (delta : Int) (holds : Holds limit increments counter) (early : now ≤ limit)
    (low : -(2 ^ 63) ≤ increments.sum + delta) (high : increments.sum + delta < 2 ^ 63) :
    ∃ expiresAt, incrBy now delta counter = some ⟨increments.sum + delta, expiresAt⟩ ∧
      expiresAt.any (fun expiresAt => expiresAt < now) = false := by
  rw [Counter.incrBy, holds.live early, holds.elim, if_pos ⟨low, high⟩]
  refine ⟨_, rfl, ?_⟩
  cases increments with
  | nil =>
      obtain rfl : counter = none := holds
      rfl
  | cons first rest =>
      obtain ⟨expiresAt, kept, rfl⟩ := holds
      have alive : ¬expiresAt < now := by omega
      simpa using alive

theorem expire_live {value : Int} {expiresAt : Option Int} (positive : 0 < seconds)
    (alive : expiresAt.any (fun expiresAt => expiresAt < now) = false) :
    expire now seconds (some ⟨value, expiresAt⟩) = some ⟨value, some (now + seconds * 1000)⟩ := by
  rw [expire, if_neg (by omega), live_some alive]
  rfl

end Counter

end Windows
