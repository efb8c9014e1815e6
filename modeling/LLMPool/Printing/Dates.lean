import LLMPool.Printing.Numerals
import Mathlib.Order.Monotone.Basic
import Mathlib.Order.Nat

/-! The days of the Gregorian calendar from 1970 on, and a moment printed as the year, the
month, the day and the hour in UTC. -/
namespace Printing

def isLeap (year : Nat) : Bool := year % 4 = 0 && year % 100 ≠ 0 || year % 400 = 0

def daysIn (year : Nat) : Nat → Nat
  | 2 => if isLeap year then 29 else 28
  | 4 | 6 | 9 | 11 => 30
  | _ => 31

theorem daysIn_le (year month : Nat) : daysIn year month ≤ 31 := by
  unfold daysIn
  split
  · split <;> decide
  all_goals decide

structure Date where
  year : Nat
  month : Nat
  day : Nat
  month_le : month ≤ 12
  day_pos : 0 < day
  day_le : day ≤ 31

namespace Date

def epoch : Date := ⟨1970, 1, 1, by decide, by decide, by decide⟩

/-- The day after. -/
def next (date : Date) : Date :=
  if within : date.day < daysIn date.year date.month then
    ⟨date.year, date.month, date.day + 1, date.month_le, Nat.succ_pos _,
      Nat.lt_of_lt_of_le within (daysIn_le _ _)⟩
  else if within : date.month < 12 then ⟨date.year, date.month + 1, 1, within, by decide, by decide⟩
  else ⟨date.year + 1, 1, 1, by decide, by decide, by decide⟩

/-- The date of a day, counted from the first of January 1970. -/
def ofDay : Nat → Date
  | 0 => epoch
  | day + 1 => (ofDay day).next

/-- A number that grows from day to day. -/
def ordinal (date : Date) : Nat := (date.year * 13 + date.month) * 32 + date.day

theorem ordinal_next (date : Date) : date.ordinal < date.next.ordinal := by
  have month_le := date.month_le
  have day_le := date.day_le
  unfold next
  split
  · simp only [ordinal]
    omega
  · split
    · simp only [ordinal]
      omega
    · simp only [ordinal]
      omega

theorem ofDay_injective : Function.Injective ofDay := by
  have grows : StrictMono (fun day => (ofDay day).ordinal) :=
    strictMono_nat_of_lt_succ (fun day => ordinal_next (ofDay day))
  exact fun _ _ same => grows.injective (congrArg ordinal same)

end Date

/-- A year in four digits, or with its sign where they do not suffice. -/
def yearDigits (year : Nat) : List Char :=
  if year ≤ 9999 then twoDigits (year / 100) ++ twoDigits (year % 100) else '+' :: Nat.toDigits 10 year

theorem yearDigits_injective {year year' : Nat} (same : yearDigits year = yearDigits year') : year = year' := by
  have signed : ∀ y z : Nat, y ≤ 9999 → twoDigits (y / 100) ++ twoDigits (y % 100) ≠ '+' :: Nat.toDigits 10 z := by
    intro y z small equal
    have first := isDigit_of_mem_twoDigits (c := '+') (n := y / 100) (by omega)
      ((List.cons.inj equal).1 ▸ List.mem_cons_self)
    cases first
  simp only [yearDigits] at same
  split at same <;> split at same
  · obtain ⟨centuries, rest⟩ := List.append_inj same rfl
    have high := twoDigits_injective (by omega) (by omega) centuries
    have low := twoDigits_injective (by omega) (by omega) rest
    omega
  · exact absurd same (signed _ _ ‹_›)
  · exact absurd same.symm (signed _ _ ‹_›)
  · exact toDigits_injective (List.cons.inj same).2

/-- A moment, in milliseconds, in the form `%Y%m%d%H`. -/
def hourDigits (now : Nat) : List Char :=
  let date := Date.ofDay (now / 86400000)
  yearDigits date.year ++ (twoDigits date.month ++ (twoDigits date.day ++ twoDigits (now / 3600000 % 24)))

/-- Two moments are printed alike if and only if they are in the same hour. -/
theorem hourDigits_eq_iff {now later : Nat} :
    hourDigits now = hourDigits later ↔ now / 3600000 = later / 3600000 := by
  constructor
  · intro same
    have month_le := fun day => (Date.ofDay day).month_le
    have day_le := fun day => (Date.ofDay day).day_le
    obtain ⟨years, rest⟩ := List.append_inj' same rfl
    obtain ⟨months, rest⟩ := List.append_inj rest rfl
    obtain ⟨days, hours⟩ := List.append_inj rest rfl
    have dates : Date.ofDay (now / 86400000) = Date.ofDay (later / 86400000) := by
      have year := yearDigits_injective years
      have month := twoDigits_injective (by have := month_le (now / 86400000); omega)
        (by have := month_le (later / 86400000); omega) months
      have day := twoDigits_injective (by have := day_le (now / 86400000); omega)
        (by have := day_le (later / 86400000); omega) days
      generalize Date.ofDay (now / 86400000) = a at year month day
      generalize Date.ofDay (later / 86400000) = b at year month day
      cases a
      cases b
      cases year
      cases month
      cases day
      rfl
    have day := Date.ofDay_injective dates
    have hour := twoDigits_injective (by omega) (by omega) hours
    omega
  · intro same
    have day : now / 86400000 = later / 86400000 := by omega
    simp only [hourDigits, same, day]

theorem isDigit_of_mem_hourDigits {c : Char} {now : Nat} (member : c ∈ hourDigits now) :
    c.isDigit = true ∨ c = '+' := by
  have month_le := (Date.ofDay (now / 86400000)).month_le
  have day_le := (Date.ofDay (now / 86400000)).day_le
  simp only [hourDigits, List.mem_append] at member
  rcases member with year | month | day | hour
  · rw [yearDigits] at year
    split at year
    · rcases List.mem_append.mp year with high | low
      · exact .inl (isDigit_of_mem_twoDigits (by omega) high)
      · exact .inl (isDigit_of_mem_twoDigits (by omega) low)
    · rcases List.mem_cons.mp year with sign | digit
      · exact .inr sign
      · exact .inl (isDigit_of_mem digit)
  · exact .inl (isDigit_of_mem_twoDigits (by omega) month)
  · exact .inl (isDigit_of_mem_twoDigits (by omega) day)
  · exact .inl (isDigit_of_mem_twoDigits (by omega) hour)

/-- The hour in which the leap day of 1972 begins, and the last one of that year. -/
example : hourDigits (789 * 86400000) = "1972022900".toList ∧
    hourDigits (1095 * 86400000 + 86399999) = "1972123123".toList := by decide +kernel

end Printing
