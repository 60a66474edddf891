import Mathlib.Data.Nat.Digits.Defs
import Mathlib.Tactic.Common
import Mathlib.Tactic.Ring
import Mathlib.Tactic.Linarith

/-!
# Library/Digits — positional numerals read from the front, and long division

A numeral is a list of digits, most significant first, as programs write and read them.
`Positional.value` is its value (`Nat.ofDigits` of the reversed list), `Positional.longDiv` the
schoolbook division by a small divisor: one pass over the digits, carrying a remainder.
-/

namespace Positional

variable {B d r : ℕ}

/-! ## Values -/

/-- **The value of a numeral**, most significant digit first. -/
def value (B : ℕ) (l : List ℕ) : ℕ := Nat.ofDigits B l.reverse

@[simp] theorem value_nil : value B [] = 0 := by simp [value]

@[simp] theorem value_cons (a : ℕ) (l : List ℕ) :
    value B (a :: l) = a * B ^ l.length + value B l := by
  simp only [value, List.reverse_cons, Nat.ofDigits_append, List.length_reverse,
    Nat.ofDigits_singleton]
  ring

theorem value_append (l m : List ℕ) :
    value B (l ++ m) = value B l * B ^ m.length + value B m := by
  simp only [value, List.reverse_append, Nat.ofDigits_append, List.length_reverse]
  ring

theorem value_concat (l : List ℕ) (a : ℕ) : value B (l ++ [a]) = value B l * B + a := by
  simp [value_append]

theorem value_lt (hB : 1 < B) {l : List ℕ} (hl : ∀ a ∈ l, a < B) : value B l < B ^ l.length := by
  have h := Nat.ofDigits_lt_base_pow_length hB (l := l.reverse) (by simpa using hl)
  simpa [value] using h

/-- Leading zeros do not count. -/
theorem value_dropWhile_zero (l : List ℕ) : value B (l.dropWhile (· = 0)) = value B l := by
  induction l with
  | nil => rfl
  | cons a l ih =>
      by_cases ha : a = 0
      · rw [List.dropWhile_cons_of_pos (by simpa using ha), ih]
        simp [ha]
      · rw [List.dropWhile_cons_of_neg (by simpa using ha)]

/-- **A numeral without leading zeros is the canonical one.** -/
theorem dropWhile_zero_eq_digits (hB : 1 < B) {l : List ℕ} (hl : ∀ a ∈ l, a < B) :
    l.dropWhile (· = 0) = (Nat.digits B (value B l)).reverse := by
  have hlt : ∀ a ∈ (l.dropWhile (· = 0)).reverse, a < B := by
    intro a ha
    exact hl a ((List.dropWhile_suffix _).subset (List.mem_reverse.mp ha))
  have hlast : ∀ h : (l.dropWhile (· = 0)).reverse ≠ [],
      (l.dropWhile (· = 0)).reverse.getLast h ≠ 0 := by
    intro h
    rw [List.getLast_reverse]
    have := List.head_dropWhile_not (· = 0) (l := l) (by simpa using h)
    simpa using this
  have h := Nat.digits_ofDigits B hB _ hlt hlast
  rw [← value_dropWhile_zero l, value, h, List.reverse_reverse]

/-- Zeros in front add nothing. -/
@[simp] theorem value_replicate_zero_append (k : ℕ) (l : List ℕ) :
    value B (List.replicate k 0 ++ l) = value B l := by
  induction k with
  | zero => rfl
  | succ k ih =>
      rw [List.replicate_succ, List.cons_append, value_cons, ih, Nat.zero_mul, Nat.zero_add]

/-- **Numerals of one length are told apart by their values.** -/
theorem eq_of_value_eq (hB : 1 < B) {l m : List ℕ} (hlength : l.length = m.length)
    (hl : ∀ a ∈ l, a < B) (hm : ∀ a ∈ m, a < B) (h : value B l = value B m) : l = m := by
  refine List.reverse_inj.mp (Nat.ofDigits_inj_of_len_eq hB ?_ ?_ ?_ h)
  · rw [List.length_reverse, List.length_reverse, hlength]
  · exact fun a ha => hl a (List.mem_reverse.mp ha)
  · exact fun a ha => hm a (List.mem_reverse.mp ha)

/-! ## Numerals of a given length -/

/-- **The last `n` places of a number.** -/
def places (B : ℕ) : ℕ → ℕ → List ℕ
  | 0, _ => []
  | n + 1, v => places B n (v / B) ++ [v % B]

@[simp] theorem length_places (n v : ℕ) : (places B n v).length = n := by
  induction n generalizing v with
  | zero => rfl
  | succ n ih => rw [places, List.length_append, ih, List.length_singleton]

theorem places_lt (hB : 0 < B) (n v : ℕ) : ∀ a ∈ places B n v, a < B := by
  induction n generalizing v with
  | zero => exact fun a ha => absurd ha List.not_mem_nil
  | succ n ih =>
      intro a ha
      rcases List.mem_append.mp ha with h | h
      · exact ih _ a h
      · rw [List.mem_singleton.mp h]
        exact Nat.mod_lt _ hB

theorem value_places (n v : ℕ) : value B (places B n v) = v % B ^ n := by
  induction n generalizing v with
  | zero => rw [places, value_nil, pow_zero, Nat.mod_one]
  | succ n ih =>
      rw [places, value_concat, ih, pow_succ', Nat.mod_mul, Nat.mul_comm, Nat.add_comm]

/-- **The places of a numeral's value are its digits.** -/
theorem places_value (hB : 1 < B) {l : List ℕ} (hl : ∀ a ∈ l, a < B) :
    places B l.length (value B l) = l := by
  refine eq_of_value_eq hB (length_places _ _) (places_lt (by omega) _ _) hl ?_
  rw [value_places, Nat.mod_eq_of_lt (value_lt hB hl)]

/-! ## Long division -/

/-- **Long division** by `d`: the quotient's digits, as many as the dividend's, and the remainder.
`r` is the remainder carried in from the left. -/
def longDiv (B d : ℕ) : ℕ → List ℕ → List ℕ × ℕ
  | r, [] => ([], r)
  | r, a :: l =>
      let rest := longDiv B d ((r * B + a) % d) l
      ((r * B + a) / d :: rest.1, rest.2)

@[simp] theorem length_longDiv (r : ℕ) (l : List ℕ) : (longDiv B d r l).1.length = l.length := by
  induction l generalizing r with
  | nil => rfl
  | cons a l ih => simp [longDiv, ih]

theorem longDiv_rem_lt (hd : 0 < d) (hr : r < d) (l : List ℕ) : (longDiv B d r l).2 < d := by
  induction l generalizing r with
  | nil => exact hr
  | cons a l ih => exact ih (Nat.mod_lt _ hd)

/-- **Quotient times divisor plus remainder is the dividend.** -/
theorem longDiv_spec (r : ℕ) (l : List ℕ) :
    value B (longDiv B d r l).1 * d + (longDiv B d r l).2 = r * B ^ l.length + value B l := by
  induction l generalizing r with
  | nil => simp [longDiv]
  | cons a l ih =>
      have hstep := ih ((r * B + a) % d)
      have hdiv := Nat.div_add_mod (r * B + a) d
      simp only [longDiv, value_cons, length_longDiv, List.length_cons]
      calc ((r * B + a) / d * B ^ l.length + value B (longDiv B d ((r * B + a) % d) l).1) * d
            + (longDiv B d ((r * B + a) % d) l).2
          = (d * ((r * B + a) / d)) * B ^ l.length
            + (value B (longDiv B d ((r * B + a) % d) l).1 * d
              + (longDiv B d ((r * B + a) % d) l).2) := by ring
        _ = (d * ((r * B + a) / d) + (r * B + a) % d) * B ^ l.length + value B l := by
            rw [hstep]; ring
        _ = r * B ^ (l.length + 1) + (a * B ^ l.length + value B l) := by rw [hdiv]; ring

/-- The quotient's digits are digits. -/
theorem longDiv_digit_lt (hd : 0 < d) (hr : r < d) {l : List ℕ} (hl : ∀ a ∈ l, a < B) :
    ∀ q ∈ (longDiv B d r l).1, q < B := by
  induction l generalizing r with
  | nil => simp [longDiv]
  | cons a l ih =>
      have ha : a < B := hl a List.mem_cons_self
      have hq : r * B + a < B * d := by
        calc r * B + a < r * B + B := by omega
          _ = (r + 1) * B := by ring
          _ ≤ d * B := Nat.mul_le_mul_right B hr
          _ = B * d := Nat.mul_comm d B
      simp only [longDiv, List.mem_cons, forall_eq_or_imp]
      exact ⟨Nat.div_lt_of_lt_mul (by linarith), ih (Nat.mod_lt _ hd) fun b hb =>
        hl b (List.mem_cons_of_mem a hb)⟩

/-- A whole division: quotient and remainder of the value. -/
theorem longDiv_zero (hd : 0 < d) (l : List ℕ) :
    value B (longDiv B d 0 l).1 = value B l / d ∧ (longDiv B d 0 l).2 = value B l % d := by
  have hspec := longDiv_spec (B := B) (d := d) 0 l
  have hlt := longDiv_rem_lt (B := B) hd hd l
  rw [Nat.zero_mul, Nat.zero_add, Nat.add_comm, Nat.mul_comm] at hspec
  obtain ⟨hq, hm⟩ := (Nat.div_mod_unique hd).mpr ⟨hspec, hlt⟩
  exact ⟨hq.symm, hm.symm⟩

end Positional
