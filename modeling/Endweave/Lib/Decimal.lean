import Mathlib.Data.List.Basic
import Mathlib.Data.Int.Basic

/-!
# Decimal numbers in text

The characters of an integer as it is printed: digits, with a minus sign in front of a negative one.
They determine the integer, and no separator is among them, so that a text is split at its last
separator in one way only (`append_separator_inj`).
-/

namespace Decimal

/-- The characters that an integer is printed with. -/
def chars (n : Int) : List Char := (toString n).toList

theorem chars_eq (n : Int) :
    chars n = if 0 ≤ n then Nat.toDigits 10 n.toNat else '-' :: Nat.toDigits 10 (-n).toNat := by
  unfold chars
  rw [Int.toString_eq_repr, Int.repr_eq_if]
  split_ifs
  · exact Nat.toList_repr
  · rw [String.toList_append, Nat.toList_repr]
    rfl

theorem isDigit_of_mem {n : Nat} {c : Char} (h : c ∈ Nat.toDigits 10 n) : c.isDigit :=
  Nat.isDigit_of_mem_toDigits (by decide) (by decide) h

theorem toDigits_injective {m n : Nat} (h : Nat.toDigits 10 m = Nat.toDigits 10 n) : m = n := by
  have hvalue := congrArg (fun l => Nat.ofDigitChars 10 l 0) h
  rwa [Nat.ofDigitChars_toDigits (by decide) (by decide),
    Nat.ofDigitChars_toDigits (by decide) (by decide)] at hvalue

/-- A minus sign is not a digit. -/
theorem minus_cons_ne_toDigits (cs : List Char) (n : Nat) : '-' :: cs ≠ Nat.toDigits 10 n := by
  intro h
  have hdigit : ('-').isDigit := isDigit_of_mem (h ▸ List.mem_cons_self ..)
  exact absurd hdigit (by decide)

theorem chars_injective {m n : Int} (h : chars m = chars n) : m = n := by
  rw [chars_eq, chars_eq] at h
  split_ifs at h with hm hn hn
  · have hvalue := toDigits_injective h
    omega
  · exact absurd h.symm (minus_cons_ne_toDigits _ _)
  · exact absurd h (minus_cons_ne_toDigits _ _)
  · have hvalue := toDigits_injective (List.cons.inj h).2
    omega

theorem chars_inj {m n : Int} : chars m = chars n ↔ m = n :=
  ⟨chars_injective, congrArg chars⟩

/-- A character that is neither a digit nor a minus sign is in no integer. -/
theorem not_mem_chars {c : Char} (hdigit : c.isDigit = false) (hminus : c ≠ '-') (n : Int) :
    c ∉ chars n := by
  intro h
  rw [chars_eq] at h
  split_ifs at h
  · rw [isDigit_of_mem h] at hdigit
    cases hdigit
  · rcases List.mem_cons.mp h with rfl | h
    · exact hminus rfl
    · rw [isDigit_of_mem h] at hdigit
      cases hdigit

/-- The last occurrence of `c` splits a list in one way. -/
theorem append_cons_inj_of_last {α : Type*} {c : α} {xs ys zs ws : List α} (hz : c ∉ zs)
    (hw : c ∉ ws) : xs ++ c :: zs = ys ++ c :: ws ↔ xs = ys ∧ zs = ws := by
  constructor
  · intro h
    induction xs generalizing ys with
    | nil =>
      cases ys with
      | nil => exact ⟨rfl, (List.cons.inj h).2⟩
      | cons y ys =>
        -- otherwise `c` would come once more, in `zs`
        have hzs : zs = ys ++ c :: ws := (List.cons.inj h).2
        exact absurd (hzs ▸ List.mem_append_right ys (List.mem_cons_self ..)) hz
    | cons x xs ih =>
      cases ys with
      | nil =>
        have hws : xs ++ c :: zs = ws := (List.cons.inj h).2
        exact absurd (hws ▸ List.mem_append_right xs (List.mem_cons_self ..)) hw
      | cons y ys =>
        obtain ⟨rfl, htail⟩ := List.cons.inj h
        obtain ⟨rfl, rfl⟩ := ih htail
        exact ⟨rfl, rfl⟩
  · rintro ⟨rfl, rfl⟩
    rfl

/-- Texts that end in a separator and an integer are equal when their parts are. -/
theorem append_separator_inj {c : Char} (hdigit : c.isDigit = false) (hminus : c ≠ '-')
    {xs ys : List Char} {m n : Int} :
    xs ++ c :: chars m = ys ++ c :: chars n ↔ xs = ys ∧ m = n := by
  rw [append_cons_inj_of_last (not_mem_chars hdigit hminus m) (not_mem_chars hdigit hminus n),
    chars_inj]

end Decimal
