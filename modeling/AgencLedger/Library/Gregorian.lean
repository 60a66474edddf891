import Mathlib.Tactic.Common
import Mathlib.Tactic.IntervalCases
import Mathlib.Logic.Function.Iterate

/-!
# Library/Gregorian — the proleptic Gregorian calendar

A date is a year, a month and a day; `Date.next` is the day after it.  The `n`-th day after a date
is the `n`-fold iterate, and `Date.ordinal` counts the days, so that a valid date is found from its
ordinal.
-/

namespace Gregorian

/-! ## Dates -/

@[ext] structure Date where
  year : ℕ
  month : ℕ
  day : ℕ
  deriving DecidableEq

/-- Every fourth year, but of the centuries only every fourth. -/
def IsLeap (year : ℕ) : Prop := year % 4 = 0 ∧ (year % 100 = 0 → year % 400 = 0)

instance (year : ℕ) : Decidable (IsLeap year) := inferInstanceAs (Decidable (_ ∧ (_ → _)))

/-- The number of days of a month. -/
def monthLength (year month : ℕ) : ℕ :=
  if month = 2 then if IsLeap year then 29 else 28
  else if month = 4 ∨ month = 6 ∨ month = 9 ∨ month = 11 then 30 else 31

namespace Date

/-- A date of the calendar. -/
structure Valid (date : Date) : Prop where
  one_le_month : 1 ≤ date.month
  month_le : date.month ≤ 12
  one_le_day : 1 ≤ date.day
  day_le : date.day ≤ monthLength date.year date.month

/-- The day after. -/
def next (date : Date) : Date :=
  if date.day < monthLength date.year date.month then { date with day := date.day + 1 }
  else if date.month < 12 then ⟨date.year, date.month + 1, 1⟩
  else ⟨date.year + 1, 1, 1⟩

end Date

/-! ## Counting the days -/

/-- The days of the years before. -/
def daysBeforeYear (year : ℕ) : ℕ :=
  365 * year + (year + 3) / 4 + (year + 399) / 400 - (year + 99) / 100

/-- The days of the months before, in the year. -/
def daysBeforeMonth (year month : ℕ) : ℕ :=
  ([0, 0, 31, 59, 90, 120, 151, 181, 212, 243, 273, 304, 334].getD month 0) +
    if 2 < month ∧ IsLeap year then 1 else 0

/-- The number of the day, from the first day of the year 0 on. -/
def Date.ordinal (date : Date) : ℕ :=
  daysBeforeYear date.year + daysBeforeMonth date.year date.month + date.day

theorem one_le_monthLength (year month : ℕ) : 1 ≤ monthLength year month := by
  unfold monthLength
  split_ifs <;> omega

theorem daysBeforeMonth_succ (year : ℕ) {month : ℕ} (h : 1 ≤ month) (h' : month < 12) :
    daysBeforeMonth year (month + 1) = daysBeforeMonth year month + monthLength year month := by
  by_cases hleap : IsLeap year
  · simp only [daysBeforeMonth, monthLength, hleap, and_true, if_true]
    interval_cases month <;> rfl
  · simp only [daysBeforeMonth, monthLength, hleap, and_false, if_false]
    interval_cases month <;> rfl

/-- The leap years before, with one more after a leap year. -/
theorem leapYears_succ (year : ℕ) :
    (year + 4) / 4 + (year + 400) / 400 + (year + 99) / 100 =
      (year + 3) / 4 + (year + 399) / 400 + (year + 100) / 100 + if IsLeap year then 1 else 0 := by
  have h₄ : (year + 4) / 4 = (year + 3) / 4 + if year % 4 = 0 then 1 else 0 := by
    split <;> omega
  have h₁₀₀ : (year + 100) / 100 = (year + 99) / 100 + if year % 100 = 0 then 1 else 0 := by
    split <;> omega
  have h₄₀₀ : (year + 400) / 400 = (year + 399) / 400 + if year % 400 = 0 then 1 else 0 := by
    split <;> omega
  have hleap : (if year % 4 = 0 then 1 else 0) + (if year % 400 = 0 then 1 else 0) =
      (if year % 100 = 0 then 1 else 0) + if IsLeap year then 1 else 0 := by
    by_cases hy : year % 4 = 0
    · by_cases hc : year % 100 = 0
      · simp only [IsLeap, hy, hc, forall_const, true_and, if_true]
      · have hq : year % 400 ≠ 0 := by omega
        simp only [IsLeap, hy, hc, hq, if_true, if_false, false_imp_iff, and_true]
    · have hc : year % 100 ≠ 0 := by omega
      have hq : year % 400 ≠ 0 := by omega
      simp only [IsLeap, hy, hc, hq, if_false, false_and]
  omega

theorem daysBeforeYear_add_one (year : ℕ) :
    daysBeforeYear (year + 1) = daysBeforeYear year + 365 + if IsLeap year then 1 else 0 := by
  have hleaps := leapYears_succ year
  have hcenturies : (year + 100) / 100 ≤ year + 1 := by omega
  have hcenturies' : (year + 99) / 100 ≤ year := by omega
  rw [daysBeforeYear, daysBeforeYear, Nat.add_assoc year 1, Nat.add_assoc year 1,
    Nat.add_assoc year 1]
  generalize (if IsLeap year then 1 else 0) = leap at hleaps ⊢
  generalize (year + 4) / 4 = a at *
  generalize (year + 400) / 400 = b at *
  generalize (year + 3) / 4 = a' at *
  generalize (year + 399) / 400 = b' at *
  generalize (year + 100) / 100 = c at *
  generalize (year + 99) / 100 = c' at *
  omega

theorem daysBeforeYear_succ (year : ℕ) :
    daysBeforeYear (year + 1) =
      daysBeforeYear year + daysBeforeMonth year 12 + monthLength year 12 := by
  rw [daysBeforeYear_add_one, Nat.add_assoc, Nat.add_assoc]
  refine congrArg (daysBeforeYear year + ·) ?_
  by_cases hleap : IsLeap year
  · simp only [daysBeforeMonth, monthLength, hleap, and_true, if_true]
    rfl
  · simp only [daysBeforeMonth, monthLength, hleap, and_false, if_false]
    rfl

/-- A date lies between its month's first day and the next month's. -/
theorem Date.Valid.ordinal_le {date : Date} (h : date.Valid) :
    date.ordinal ≤ daysBeforeYear date.year + daysBeforeMonth date.year date.month +
      monthLength date.year date.month :=
  Nat.add_le_add_left h.day_le _

theorem daysBeforeMonth_mono (year : ℕ) {a b : ℕ} (ha : 1 ≤ a) (hab : a ≤ b) (hb : b ≤ 12) :
    daysBeforeMonth year a ≤ daysBeforeMonth year b := by
  induction b, hab using Nat.le_induction with
  | base => exact Nat.le_refl _
  | succ b hab ih =>
      rw [daysBeforeMonth_succ year (by omega) (by omega)]
      exact (ih (by omega)).trans (Nat.le_add_right _ _)

/-- The ordinals of a year end where the next year's begin. -/
theorem Date.Valid.ordinal_le_year {date : Date} (h : date.Valid) :
    date.ordinal ≤ daysBeforeYear (date.year + 1) := by
  rw [daysBeforeYear_succ]
  refine h.ordinal_le.trans ?_
  rcases Nat.lt_or_ge date.month 12 with hlt | hge
  · have hmono := daysBeforeMonth_mono date.year (show 1 ≤ date.month + 1 by omega) hlt
      (Nat.le_refl 12)
    rw [daysBeforeMonth_succ date.year h.one_le_month hlt] at hmono
    omega
  · rw [Nat.le_antisymm h.month_le hge]

theorem daysBeforeYear_mono : Monotone daysBeforeYear :=
  monotone_nat_of_le_succ fun year => by
    rw [daysBeforeYear_succ]
    omega

/-- **A valid date is determined by its ordinal.** -/
theorem Date.Valid.ext_ordinal {a b : Date} (ha : a.Valid) (hb : b.Valid)
    (h : a.ordinal = b.ordinal) : a = b := by
  have hyear : ∀ {a b : Date}, a.Valid → b.Valid → a.ordinal = b.ordinal → a.year ≤ b.year := by
    intro a b ha hb h
    by_contra hlt
    have hmono : daysBeforeYear (b.year + 1) ≤ daysBeforeYear a.year :=
      daysBeforeYear_mono (by omega)
    have hle := hb.ordinal_le_year
    have hday := ha.one_le_day
    have hord : a.ordinal = daysBeforeYear a.year + daysBeforeMonth a.year a.month + a.day := rfl
    omega
  obtain ⟨y, m, d⟩ := a
  obtain ⟨y', m', d'⟩ := b
  obtain rfl : y = y' := Nat.le_antisymm (hyear ha hb h) (hyear hb ha h.symm)
  have hmonth : ∀ {m d m' d' : ℕ}, (⟨y, m, d⟩ : Date).Valid → (⟨y, m', d'⟩ : Date).Valid →
      (⟨y, m, d⟩ : Date).ordinal = (⟨y, m', d'⟩ : Date).ordinal → m ≤ m' := by
    intro m d m' d' ha hb h
    by_contra hlt
    have hlt' : m' + 1 ≤ m := by omega
    have hle : m ≤ 12 := ha.month_le
    have hmono := daysBeforeMonth_mono y (show 1 ≤ m' + 1 by omega) hlt' hle
    rw [daysBeforeMonth_succ y (show 1 ≤ m' from hb.one_le_month) (by omega)] at hmono
    have hday : d' ≤ monthLength y m' := hb.day_le
    have hday' : 1 ≤ d := ha.one_le_day
    simp only [Date.ordinal] at h
    omega
  obtain rfl : m = m' := Nat.le_antisymm (hmonth ha hb h) (hmonth hb ha h.symm)
  simp only [Date.ordinal] at h
  obtain rfl : d = d' := by omega
  rfl

/-! ## The days after a date -/

theorem Date.Valid.next {date : Date} (h : date.Valid) : date.next.Valid := by
  unfold Date.next
  split
  · exact ⟨h.one_le_month, h.month_le, Nat.le_add_left 1 _, by assumption⟩
  · split
    · exact ⟨Nat.le_add_left 1 _, by assumption, Nat.le_refl 1, one_le_monthLength _ _⟩
    · exact ⟨Nat.le_refl 1, Nat.le_add_left 1 11, Nat.le_refl 1, one_le_monthLength _ _⟩

theorem Date.Valid.ordinal_next {date : Date} (h : date.Valid) :
    date.next.ordinal = date.ordinal + 1 := by
  have hday := h.day_le
  unfold Date.next
  split
  · rfl
  · have hlast : date.day = monthLength date.year date.month := by omega
    split
    · have hsucc := daysBeforeMonth_succ date.year h.one_le_month (by assumption)
      simp only [Date.ordinal, hsucc, hlast, Nat.add_assoc]
    · have hmonth : date.month = 12 := by
        have := h.month_le
        omega
      have hfirst : daysBeforeMonth (date.year + 1) 1 = 0 := rfl
      simp only [Date.ordinal, daysBeforeYear_succ, hfirst, hlast, hmonth]

theorem iterate_next {start : Date} (h : start.Valid) (n : ℕ) :
    (Date.next^[n] start).Valid ∧ (Date.next^[n] start).ordinal = start.ordinal + n := by
  induction n with
  | zero => exact ⟨h, rfl⟩
  | succ n ih =>
      rw [Function.iterate_succ_apply']
      exact ⟨ih.1.next, by rw [ih.1.ordinal_next, ih.2, Nat.add_assoc]⟩

/-- **The `n`-th day after** a valid date is the valid date whose ordinal is `n` more. -/
theorem iterate_next_eq {start date : Date} (hstart : start.Valid) (hdate : date.Valid) {n : ℕ}
    (h : date.ordinal = start.ordinal + n) : Date.next^[n] start = date :=
  (iterate_next hstart n).1.ext_ordinal hdate ((iterate_next hstart n).2.trans h.symm)

theorem monthLength_le (year month : ℕ) : monthLength year month ≤ 31 := by
  unfold monthLength
  split_ifs <;> omega

end Gregorian
