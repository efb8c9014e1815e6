import Mathlib.Data.List.Basic

/-! What a printed number tells: which number it was, and where its digits end. -/
namespace Printing

theorem toDigits_injective {m n : Nat} (same : Nat.toDigits 10 m = Nat.toDigits 10 n) : m = n := by
  rw [← @Nat.ofDigitChars_ten_toDigits m, ← @Nat.ofDigitChars_ten_toDigits n, same]

theorem isDigit_of_mem {c : Char} {n : Nat} (member : c ∈ Nat.toDigits 10 n) : c.isDigit = true :=
  Nat.isDigit_of_mem_toDigits (by decide) (by decide) member

theorem not_mem_toDigits {c : Char} (other : c.isDigit = false) (n : Nat) : c ∉ Nat.toDigits 10 n := by
  intro member
  rw [isDigit_of_mem member] at other
  cases other

theorem toList_toString_int (n : Int) :
    (toString n).toList =
      if 0 ≤ n then Nat.toDigits 10 n.toNat else '-' :: Nat.toDigits 10 (-n).toNat := by
  rw [Int.toString_eq_repr, Int.repr_eq_if]
  split <;> simp [String.toList_append]

theorem toString_int_injective {m n : Int} (same : (toString m).toList = (toString n).toList) : m = n := by
  have signed : ∀ k l : Nat, Nat.toDigits 10 k ≠ '-' :: Nat.toDigits 10 l := by
    intro k l equal
    exact not_mem_toDigits (c := '-') (by decide) k (equal ▸ List.mem_cons_self)
  rw [toList_toString_int, toList_toString_int] at same
  split at same <;> split at same
  · have digits := toDigits_injective same
    omega
  · exact absurd same (signed _ _)
  · exact absurd same.symm (signed _ _)
  · have digits := toDigits_injective (List.cons.inj same).2
    omega

theorem not_mem_toString_int {c : Char} (other : c.isDigit = false) (unsigned : c ≠ '-') (n : Int) :
    c ∉ (toString n).toList := by
  rw [toList_toString_int]
  split
  · exact not_mem_toDigits other _
  · rw [List.mem_cons, not_or]
    exact ⟨unsigned, not_mem_toDigits other _⟩

/-- Two digits. -/
def twoDigits (n : Nat) : List Char := [Nat.digitChar (n / 10), Nat.digitChar (n % 10)]

theorem digitChar_injective {m n : Nat} (small : m < 10) (small' : n < 10)
    (same : m.digitChar = n.digitChar) : m = n := by
  have codes := congrArg Char.toNat same
  rw [Nat.toNat_digitChar_of_lt_ten small, Nat.toNat_digitChar_of_lt_ten small'] at codes
  omega

theorem twoDigits_injective {m n : Nat} (small : m < 100) (small' : n < 100)
    (same : twoDigits m = twoDigits n) : m = n := by
  simp only [twoDigits, List.cons.injEq, and_true] at same
  have tens := digitChar_injective (by omega) (by omega) same.1
  have units := digitChar_injective (by omega) (by omega) same.2
  omega

theorem isDigit_of_mem_twoDigits {c : Char} {n : Nat} (small : n < 100) (member : c ∈ twoDigits n) :
    c.isDigit = true := by
  simp only [twoDigits, List.mem_cons, List.not_mem_nil, or_false] at member
  rcases member with rfl | rfl
  · rw [Nat.isDigit_digitChar, decide_eq_true_eq]
    omega
  · rw [Nat.isDigit_digitChar, decide_eq_true_eq]
    omega

end Printing
