import AgencLedger.Library.Gregorian
import AgencLedger.Sol.Decimal

/-!
# Sol/Calendar — the text of a timestamp determines it

Inside the calendar `rdn_to_ymd` is the inverse of the count of days: years are taken from March
on, so that the day of the leap year comes last, and the century of a day is the century of its
year.
-/

namespace AgencLedger

/-! ## Days -/

/-- The number of days before the calendar fails: the first day of the year 10000. -/
def calendarDays : ℕ := 3652060

/-- The day before the first one, `0000-12-31`. -/
def firstDay : Gregorian.Date := ⟨0, 12, 31⟩

/-- The date `n` days later. -/
def dateOfDay (n : ℕ) : Gregorian.Date := Gregorian.Date.next^[n] firstDay

theorem firstDay_valid : firstDay.Valid :=
  ⟨by decide, by decide, by decide, by decide⟩

theorem ordinal_dateOfDay (n : ℕ) : (dateOfDay n).ordinal = n + 366 :=
  (Gregorian.iterate_next firstDay_valid n).2.trans (Nat.add_comm _ _)

/-- The date that `rdn_to_ymd` returns. -/
def dateOfYmd (ymd : UInt16 × UInt16 × UInt16) : Gregorian.Date :=
  ⟨ymd.1.toNat, ymd.2.1.toNat, ymd.2.2.toNat⟩

/-- The century `a` of a day is the century of its year. -/
theorem century_eq {z a y : ℕ} (ha : (100 * z - 25) / 3652425 = a)
    (hy : (100 * (a - a / 4) + (100 * z - 25)) / 36525 = y) : y / 100 = a := by
  have hlow : 3652425 * a ≤ 100 * z - 25 := by omega
  have hhigh : 100 * z - 25 < 3652425 * (a + 1) := by omega
  omega

/-- A day of a year has a number from 1 to 366. -/
theorem dayOfYear_bounds {z y : ℕ} (hz : 1 ≤ z)
    (hy : (100 * (y / 100 - y / 100 / 4) + (100 * z - 25)) / 36525 = y) :
    1461 * y / 4 < y / 100 - y / 100 / 4 + z ∧
      y / 100 - y / 100 / 4 + z - 1461 * y / 4 ≤ 366 := by
  omega

theorem month_bounds {d m : ℕ} (hd : 1 ≤ d) (hd' : d ≤ 366)
    (hm : (535 * d + 48950) / 16384 = m) : 3 ≤ m ∧ m ≤ 14 := by
  omega

/-- The offset of the month is the number of the days before it, from March on. -/
theorem dayOffset_bounds {d m : ℕ} (hd : 1 ≤ d) (hd' : d ≤ 366)
    (hm : (535 * d + 48950) / 16384 = m) :
    (dayOffset.getD (if m > 12 then m - 12 else m) 0).toNat < d ∧
      d ≤ 31 + (dayOffset.getD (if m > 12 then m - 12 else m) 0).toNat := by
  obtain ⟨hlow, hhigh⟩ := month_bounds hd hd' hm
  interval_cases m <;> simp only [dayOffset] <;> simp <;> omega

/-- The last day of a year that begins in March is there in leap years. -/
theorem isLeap_of_last {z y : ℕ} (ha : (100 * z - 25) / 3652425 = y / 100)
    (hy : (100 * (y / 100 - y / 100 / 4) + (100 * z - 25)) / 36525 = y)
    (hlast : y / 100 - y / 100 / 4 + z - 1461 * y / 4 = 366) : Gregorian.IsLeap (y + 1) := by
  refine ⟨by omega, fun hcentury => ?_⟩
  obtain ⟨c, hc⟩ : ∃ c, y = 100 * c + 99 := ⟨y / 100, by omega⟩
  have hdiv : y / 100 = c := by omega
  rw [hdiv] at ha hlast hy
  omega

/-- The days of the months before, from March on. -/
theorem daysBeforeMonth_march (y : ℕ) {m : ℕ} (hlow : 3 ≤ m) (hhigh : m ≤ 12) :
    Gregorian.daysBeforeMonth y m =
      (dayOffset.getD m 0).toNat + 59 + if Gregorian.IsLeap y then 1 else 0 := by
  by_cases hleap : Gregorian.IsLeap y
  · simp only [Gregorian.daysBeforeMonth, hleap, and_true, if_true]
    interval_cases m <;> rfl
  · simp only [Gregorian.daysBeforeMonth, hleap, and_false, if_false]
    interval_cases m <;> rfl

/-- The days of the years before, a year being counted to its last of February. -/
theorem daysBeforeYear_march (y : ℕ) :
    Gregorian.daysBeforeYear (y + 1) + (y / 100 - y / 100 / 4) = 366 + 1461 * y / 4 := by
  unfold Gregorian.daysBeforeYear
  omega

/-- The end of `rdn_to_ymd`: from a year that begins in March to the calendar's. -/
def civilDate (y m d : UInt32) : Result (UInt16 × UInt16 × UInt16) :=
  let (y, m) := if m > 12 then (y + 1, m - 12) else (y, m)
  let offset := dayOffset.getD m.toNat 0
  if y > 9999 ∨ m > 12 ∨ d > 31 + offset.toUInt32 then .error .bail
  else .ok (y.toUInt16, m.toUInt16, (d - offset.toUInt32).toUInt16)

/-- A year, a month and a day of the year that count to the day `n`. -/
structure MarchDate (n : ℕ) (y m d : ℕ) : Prop where
  first : 1 ≤ d
  last : d ≤ 366
  month : (535 * d + 48950) / 16384 = m
  leap : d = 366 → Gregorian.IsLeap (y + 1)
  count : n + (y / 100 - y / 100 / 4) = d + 1461 * y / 4

/-- The length of a month is that of its days in the March year. -/
theorem MarchDate.day_le {n y m d : ℕ} (h : MarchDate n y m d) :
    d - (dayOffset.getD (if m > 12 then m - 12 else m) 0).toNat ≤
      Gregorian.monthLength (if m > 12 then y + 1 else y) (if m > 12 then m - 12 else m) := by
  obtain ⟨hlow, hhigh⟩ := month_bounds h.first h.last h.month
  have hmonth := h.month
  have hlast := h.last
  have hleap := h.leap
  rcases Nat.lt_or_ge m 14 with hlt | hge
  · clear hleap
    interval_cases m <;> simp [dayOffset, Gregorian.monthLength] <;> omega
  · obtain rfl : m = 14 := by omega
    by_cases hd : d = 366
    · simp [dayOffset, Gregorian.monthLength, hleap hd, hd]
    · simp only [dayOffset, Gregorian.monthLength]
      simp
      split <;> omega

/-- **The date of a day of a March year** is a date of the calendar, and counts to the same day. -/
theorem MarchDate.date {n y m d year month offset : ℕ} (h : MarchDate n y m d)
    (hy : year = if m > 12 then y + 1 else y) (hm : month = if m > 12 then m - 12 else m)
    (hoffset : (dayOffset.getD month 0).toNat = offset) :
    (⟨year, month, d - offset⟩ : Gregorian.Date).Valid ∧
      (⟨year, month, d - offset⟩ : Gregorian.Date).ordinal = n + 60 := by
  obtain ⟨hlow, hhigh⟩ := month_bounds h.first h.last h.month
  have hbefore := (dayOffset_bounds h.first h.last h.month).1
  have hday := h.day_le
  rw [← hm, hoffset] at hbefore hday
  rw [← hy] at hday
  have hmarch := daysBeforeYear_march y
  have hcount := h.count
  by_cases hlate : m > 12
  · rw [if_pos hlate] at hy hm
    have hmonths : Gregorian.daysBeforeMonth year month + 306 = offset := by
      rw [← hoffset, hm]
      obtain rfl | rfl : m = 13 ∨ m = 14 := by omega
      · rfl
      · rfl
    refine ⟨⟨show 1 ≤ month by omega, show month ≤ 12 by omega, show 1 ≤ d - offset by omega,
      hday⟩, ?_⟩
    rw [← hy] at hmarch
    simp only [Gregorian.Date.ordinal]
    omega
  · rw [if_neg hlate] at hy hm
    have hmonths := daysBeforeMonth_march year (show 3 ≤ month by omega) (show month ≤ 12 by omega)
    rw [hoffset] at hmonths
    refine ⟨⟨show 1 ≤ month by omega, show month ≤ 12 by omega, show 1 ≤ d - offset by omega,
      hday⟩, ?_⟩
    rw [Gregorian.daysBeforeYear_add_one, ← hy] at hmarch
    simp only [Gregorian.Date.ordinal, hmonths]
    generalize (if Gregorian.IsLeap year then 1 else 0) = leap at hmarch ⊢
    rw [← hy] at hcount
    omega

/-- The year of a day of the calendar. -/
theorem MarchDate.year_lt {n y m d : ℕ} (h : MarchDate n y m d) (hn : n < calendarDays + 306) :
    y < 9999 ∨ (y = 9999 ∧ m ≤ 12) := by
  have hcount := h.count
  have hmonth := h.month
  have hfirst := h.first
  unfold calendarDays at hn
  omega

/-- The steps of `rdn_to_ymd` before the date is built. -/
theorem rdnToYmd_steps (rdn : UInt32) :
    ∃ z h a b y d m : UInt32, z = rdn + 306 ∧ h = 100 * z - 25 ∧ a = h / 3652425 ∧
      b = a - a >>> 2 ∧ y = (100 * b + h) / 36525 ∧ d = b + z - (1461 * y) >>> 2 ∧
      m = (535 * d + 48950) >>> 14 ∧ rdnToYmd rdn = civilDate y m d :=
  ⟨_, _, _, _, _, _, _, rfl, rfl, rfl, rfl, rfl, rfl, rfl, Eq.refl (civilDate _ _ _)⟩

/-- A quarter, as the code computes it. -/
theorem toNat_shiftRight_two (a : UInt32) : (a >>> 2).toNat = a.toNat / 4 := by
  rw [UInt32.toNat_shiftRight, Nat.shiftRight_eq_div_pow]
  rfl

theorem toNat_sub_quarter (a : UInt32) : (a - a >>> 2).toNat = a.toNat - a.toNat / 4 := by
  have hle : a >>> 2 ≤ a := by
    rw [UInt32.le_iff_toNat_le, toNat_shiftRight_two]
    omega
  rw [UInt32.toNat_sub_of_le _ _ hle, toNat_shiftRight_two]

/-- The day of the year, as the code computes it, where nothing wraps around. -/
theorem toNat_dayOfYear {b z y : UInt32} (hy : y.toNat < 2939745)
    (hfits : b.toNat + z.toNat < 2 ^ 32) (hle : 1461 * y.toNat / 4 ≤ b.toNat + z.toNat) :
    (b + z - (1461 * y) >>> 2).toNat = b.toNat + z.toNat - 1461 * y.toNat / 4 := by
  have hsum : (b + z).toNat = b.toNat + z.toNat := by
    rw [UInt32.toNat_add]
    exact Nat.mod_eq_of_lt hfits
  have hdays : ((1461 * y) >>> 2).toNat = 1461 * y.toNat / 4 := by
    rw [toNat_shiftRight_two, UInt32.toNat_mul,
      Nat.mod_eq_of_lt (by simp only [UInt32.reduceToNat]; omega)]
    rfl
  have hsub : (1461 * y) >>> 2 ≤ b + z := by
    rw [UInt32.le_iff_toNat_le, hdays, hsum]
    exact hle
  rw [UInt32.toNat_sub_of_le _ _ hsub, hdays, hsum]

/-- No step of `rdn_to_ymd` wraps around while the day number, times a hundred, fits. -/
theorem rdnToYmd_eq {rdn : UInt32} (hrdn : rdn.toNat + 306 ≤ 42948791) :
    ∃ y m d, rdnToYmd rdn = civilDate y m d ∧
      MarchDate (rdn.toNat + 306) y.toNat m.toNat d.toNat := by
  obtain ⟨z, h, a, b, y, d, m, hz', hh', ha', hb', hy', hd', hm', hdate⟩ := rdnToYmd_steps rdn
  have hz : z.toNat = rdn.toNat + 306 := by
    rw [hz', UInt32.toNat_add]
    exact Nat.mod_eq_of_lt (by simp only [UInt32.reduceToNat]; omega)
  have hmul : (100 * z).toNat = 100 * z.toNat := by
    rw [UInt32.toNat_mul]
    exact Nat.mod_eq_of_lt (by simp only [UInt32.reduceToNat]; omega)
  have hh : h.toNat = 100 * z.toNat - 25 := by
    have hle : 25 ≤ 100 * z := by
      rw [UInt32.le_iff_toNat_le, hmul]
      simp only [UInt32.reduceToNat]
      omega
    rw [hh', UInt32.toNat_sub_of_le _ _ hle, hmul]
    rfl
  have ha : (100 * z.toNat - 25) / 3652425 = a.toNat := by
    rw [ha', UInt32.toNat_div, hh]
    rfl
  have hb : b.toNat = a.toNat - a.toNat / 4 := hb' ▸ toNat_sub_quarter a
  have hy : (100 * (a.toNat - a.toNat / 4) + (100 * z.toNat - 25)) / 36525 = y.toNat := by
    have hsum : (100 * b + h).toNat = 100 * b.toNat + h.toNat := by
      rw [UInt32.toNat_add, UInt32.toNat_mul]
      simp only [UInt32.reduceToNat]
      omega
    rw [hy', UInt32.toNat_div, hsum, hb, hh]
    rfl
  clear hz' hh' ha' hb' hy'
  have hcentury := century_eq ha hy
  rw [← hcentury] at hy hb
  obtain ⟨hstart, hlength⟩ := dayOfYear_bounds (by omega) hy
  have hd : d.toNat = b.toNat + z.toNat - 1461 * y.toNat / 4 :=
    hd' ▸ toNat_dayOfYear (by omega) (by omega) (by omega)
  clear hd'
  have hd₁ : 1 ≤ d.toNat := by omega
  have hd₂ : d.toNat ≤ 366 := by omega
  have hm : (535 * d.toNat + 48950) / 16384 = m.toNat := by
    have hsum : (535 * d + 48950).toNat = 535 * d.toNat + 48950 := by
      rw [UInt32.toNat_add, UInt32.toNat_mul]
      simp only [UInt32.reduceToNat]
      omega
    rw [hm', UInt32.toNat_shiftRight, Nat.shiftRight_eq_div_pow, hsum]
    rfl
  have hleap : d.toNat = 366 → Gregorian.IsLeap (y.toNat + 1) := fun hlast =>
    isLeap_of_last (ha.trans hcentury.symm) hy (by omega)
  exact ⟨y, m, d, hdate, hd₁, hd₂, hm, hleap, by omega⟩

theorem civilDate_ok {n : ℕ} {y m d : UInt32} (h : MarchDate n y.toNat m.toNat d.toNat)
    (hy : y.toNat < 9999 ∨ (y.toNat = 9999 ∧ m.toNat ≤ 12)) :
    ∃ ymd, civilDate y m d = .ok ymd ∧ ymd.1.toNat < 10000 ∧ (dateOfYmd ymd).Valid ∧
      (dateOfYmd ymd).ordinal = n + 60 := by
  have hmarch := h
  obtain ⟨hd₁, hd₂, hm, -, hcount⟩ := h
  obtain ⟨hm₁, hm₂⟩ := month_bounds hd₁ hd₂ hm
  obtain ⟨hbefore, hlast⟩ := dayOffset_bounds hd₁ hd₂ hm
  generalize hr : civilDate y m d = r
  unfold civilDate at hr
  have hlarge : m > 12 ↔ m.toNat > 12 := UInt32.lt_iff_toNat_lt
  obtain ⟨year, month, hdate, hyear, hmonth⟩ : ∃ year month : UInt32,
      (if m > 12 then (y + 1, m - 12) else (y, m)) = (year, month) ∧
        year.toNat = (if m.toNat > 12 then y.toNat + 1 else y.toNat) ∧
        month.toNat = if m.toNat > 12 then m.toNat - 12 else m.toNat := by
    by_cases hm₃ : m > 12
    · refine ⟨y + 1, m - 12, if_pos hm₃, ?_, ?_⟩
      · rw [if_pos (hlarge.mp hm₃), UInt32.toNat_add]
        exact Nat.mod_eq_of_lt (by simp only [UInt32.reduceToNat]; omega)
      · rw [if_pos (hlarge.mp hm₃), UInt32.toNat_sub_of_le _ _ (UInt32.le_of_lt hm₃)]
        rfl
    · exact ⟨y, m, if_neg hm₃, (if_neg (mt hlarge.mpr hm₃)).symm, (if_neg (mt hlarge.mpr hm₃)).symm⟩
  rw [hdate] at hr
  obtain ⟨offset, ho⟩ : ∃ offset, dayOffset.getD month.toNat 0 = offset := ⟨_, rfl⟩
  rw [← hmonth, ho] at hbefore hlast
  have hresult : (if year > 9999 ∨ month > 12 ∨ d > 31 + offset.toUInt32 then .error .bail
      else .ok (year.toUInt16, month.toUInt16, (d - offset.toUInt32).toUInt16)) = r := by
    rw [← ho]
    exact hr
  have hoffset : offset.toUInt32.toNat = offset.toNat := UInt16.toNat_toUInt32 offset
  have hyear' : year.toNat < 10000 := by
    rw [hyear]
    split <;> omega
  have hmonth' : month.toNat ≤ 12 := by
    rw [hmonth]
    split <;> omega
  have hday : (d - offset.toUInt32).toNat = d.toNat - offset.toNat := by
    have hle : offset.toUInt32 ≤ d := by
      rw [UInt32.le_iff_toNat_le, hoffset]
      exact Nat.le_of_lt hbefore
    rw [UInt32.toNat_sub_of_le _ _ hle, hoffset]
  have hfits : ¬(year > 9999 ∨ month > 12 ∨ d > 31 + offset.toUInt32) := by
    have hsum : (31 + offset.toUInt32).toNat = 31 + offset.toNat := by
      rw [UInt32.toNat_add, hoffset]
      exact Nat.mod_eq_of_lt (by simp only [UInt32.reduceToNat]; omega)
    simp only [gt_iff_lt, UInt32.lt_iff_toNat_lt, hsum, UInt32.reduceToNat]
    omega
  rw [if_neg hfits] at hresult
  have hyear'' : year.toUInt16.toNat = year.toNat := by
    rw [UInt32.toNat_toUInt16]
    exact Nat.mod_eq_of_lt (by omega)
  have hmonth'' : month.toUInt16.toNat = month.toNat := by
    rw [UInt32.toNat_toUInt16]
    exact Nat.mod_eq_of_lt (by omega)
  have hday' : (d - offset.toUInt32).toUInt16.toNat = d.toNat - offset.toNat := by
    rw [UInt32.toNat_toUInt16, hday]
    exact Nat.mod_eq_of_lt (by omega)
  have hdate : dateOfYmd (year.toUInt16, month.toUInt16, (d - offset.toUInt32).toUInt16) =
      ⟨year.toNat, month.toNat, d.toNat - offset.toNat⟩ := by
    rw [dateOfYmd, hyear'', hmonth'', hday']
  refine ⟨_, hresult.symm, show year.toUInt16.toNat < 10000 by omega, ?_⟩
  rw [hdate]
  exact hmarch.date hyear hmonth (congrArg UInt16.toNat ho)

/-- **Inside the calendar** every day has a date, the one as many days after the first. -/
theorem rdnToYmd_ok {rdn : UInt32} (hrdn : rdn.toNat < calendarDays) :
    ∃ ymd, rdnToYmd rdn = .ok ymd ∧ ymd.1.toNat < 10000 ∧ dateOfYmd ymd = dateOfDay rdn.toNat := by
  have hsmall : rdn.toNat + 306 ≤ 42948791 := by
    unfold calendarDays at hrdn
    omega
  obtain ⟨y, m, d, heq, hmarch⟩ := rdnToYmd_eq hsmall
  obtain ⟨ymd, hymd, hyear, hvalid, hordinal⟩ := civilDate_ok hmarch
    (hmarch.year_lt (Nat.add_lt_add_right hrdn 306))
  refine ⟨ymd, heq.trans hymd, hyear, (Gregorian.iterate_next_eq firstDay_valid hvalid ?_).symm⟩
  rw [hordinal, Nat.add_assoc, Nat.add_comm]
  rfl

/-! ## The text -/

theorem length_fixedDigits (n v : ℕ) : (fixedDigits n v).length = n := by
  induction n generalizing v with
  | zero => rfl
  | succ n ih => rw [fixedDigits, List.length_append, ih, List.length_singleton]

theorem nul_notMem_fixedDigits (n v : ℕ) : nul ∉ fixedDigits n v := by
  induction n generalizing v with
  | zero => exact List.not_mem_nil
  | succ n ih =>
      rw [fixedDigits, List.mem_append, List.mem_singleton, not_or]
      exact ⟨ih _, fun h => digitChar_ne_nul (Nat.mod_lt _ (by decide)) h.symm⟩

theorem fixedDigits_inj {n v w : ℕ} (hv : v < 10 ^ n) (hw : w < 10 ^ n)
    (h : fixedDigits n v = fixedDigits n w) : v = w := by
  induction n generalizing v w with
  | zero => omega
  | succ n ih =>
      obtain ⟨hinit, hlast⟩ := List.append_inj' h rfl
      have hdiv : v / 10 = w / 10 := ih (by omega) (by omega) hinit
      have hmod := digitChar_inj (Nat.mod_lt v (by decide)) (Nat.mod_lt w (by decide))
        (List.singleton_injective hlast)
      omega

/-- `YYYY-MM-DD ` -/
def dateText (date : Gregorian.Date) : List Char :=
  fixedDigits 4 date.year ++ ['-'] ++ fixedDigits 2 date.month ++ ['-'] ++
    fixedDigits 2 date.day ++ [' ']

/-- `hh:mm:ss` -/
def timeText (v : ℕ) : List Char :=
  [digitChar (v / 36000 % 10), digitChar (v / 3600 % 10), ':', digitChar (v / 600 % 6),
   digitChar (v / 60 % 10), ':', digitChar (v / 10 % 6), digitChar (v % 10)]

theorem length_timeText (v : ℕ) : (timeText v).length = 8 := rfl

/-- The text of a date of four digits determines it. -/
theorem dateText_inj {a b : Gregorian.Date} (ha : a.Valid) (hb : b.Valid) (hay : a.year < 10000)
    (hby : b.year < 10000) (h : dateText a = dateText b) : a = b := by
  simp only [dateText, List.append_assoc] at h
  obtain ⟨h₁, h⟩ := List.append_inj h (by rw [length_fixedDigits, length_fixedDigits])
  obtain ⟨h₂, h⟩ := List.append_inj (List.append_cancel_left h)
    (by rw [length_fixedDigits, length_fixedDigits])
  obtain ⟨h₃, -⟩ := List.append_inj (List.append_cancel_left h)
    (by rw [length_fixedDigits, length_fixedDigits])
  have hsmall : ∀ {date : Gregorian.Date}, date.Valid → date.month < 10 ^ 2 ∧ date.day < 10 ^ 2 :=
    fun {date} hdate => by
      have := Gregorian.monthLength_le date.year date.month
      have := hdate.month_le
      have := hdate.day_le
      omega
  exact Gregorian.Date.ext (fixedDigits_inj hay hby h₁)
    (fixedDigits_inj (hsmall ha).1 (hsmall hb).1 h₂)
    (fixedDigits_inj (hsmall ha).2 (hsmall hb).2 h₃)

theorem timeText_inj {v w : ℕ} (hv : v < 86400) (hw : w < 86400) (h : timeText v = timeText w) :
    v = w := by
  simp only [timeText, List.cons.injEq, true_and, and_true] at h
  obtain ⟨h₁, h₂, h₃, h₄, h₅, h₆⟩ := h
  have g₁ := digitChar_inj (by omega) (by omega) h₁
  have g₂ := digitChar_inj (by omega) (by omega) h₂
  have g₃ := digitChar_inj (by omega) (by omega) h₃
  have g₄ := digitChar_inj (by omega) (by omega) h₄
  have g₅ := digitChar_inj (by omega) (by omega) h₅
  have g₆ := digitChar_inj (by omega) (by omega) h₆
  omega

/-! ## Timestamps -/

/-- The seconds since the first day of the calendar, as `rfc3339_format` computes them. -/
def sinceStart (time : Int64) : UInt64 := (time + epoch).toUInt64

/-- The number of the day of a timestamp. -/
def dayNumber (time : Int64) : UInt32 := (sinceStart time / 86400).toUInt32

/-- The text of a timestamp whose day has the given date. -/
def timestampText (date : Gregorian.Date) (time : Int64) : List Char :=
  dateText date ++ timeText (sinceStart time % 86400).toNat

/-- What `rfc3339_format` stores for a date and a second of the day. -/
def rfc3339Text (date : Result (UInt16 × UInt16 × UInt16)) (v : ℕ) : Printed :=
  match date with
  | .error e => ⟨[], .error e⟩
  | .ok ymd => ⟨dateText (dateOfYmd ymd) ++ timeText v ++ [nul], .ok ()⟩

theorem append_timeText (l : List Char) (v : ℕ) :
    l ++ [digitChar (v / 36000 % 10), digitChar (v / 3600 % 10), ':', digitChar (v / 600 % 6),
      digitChar (v / 60 % 10), ':', digitChar (v / 10 % 6), digitChar (v % 10), nul] =
    l ++ timeText v ++ [nul] := by
  rw [timeText, List.append_assoc]
  rfl

/-- The end of `rfc3339_format`. -/
theorem rfc3339Text_eq (sec : UInt64) :
    (match rdnToYmd (sec / 86400).toUInt32 with
      | .error e => ⟨[], .error e⟩
      | .ok (y, m, d) =>
          let v := (sec % 86400).toNat
          ⟨fixedDigits 4 y.toNat ++ ['-'] ++ fixedDigits 2 m.toNat ++ ['-'] ++
            fixedDigits 2 d.toNat ++ [' '] ++
            [digitChar (v / 36000 % 10), digitChar (v / 3600 % 10), ':',
             digitChar (v / 600 % 6), digitChar (v / 60 % 10), ':',
             digitChar (v / 10 % 6), digitChar (v % 10), nul], .ok ()⟩ : Printed) =
      rfc3339Text (rdnToYmd (sec / 86400).toUInt32) (sec % 86400).toNat := by
  generalize (sec % 86400).toNat = v
  rcases rdnToYmd (sec / 86400).toUInt32 with e | ⟨y, m, d⟩
  · rfl
  · exact congrArg (Printed.mk · (.ok ())) (append_timeText _ v)

theorem rfc3339Format_eq {len : ℕ} (h : 19 < len) (time : Int64) :
    rfc3339Format len time =
      rfc3339Text (rdnToYmd (dayNumber time)) (sinceStart time % 86400).toNat := by
  rw [rfc3339Format, if_neg (by omega), dayNumber, sinceStart]
  -- the sum is kept abstract: evaluating it would unfold its constants
  generalize (time + epoch).toUInt64 = sec
  exact rfc3339Text_eq sec

/-- The timestamps on the days of the calendar. -/
def InCalendar (time : Int64) : Prop :=
  -62135683200 ≤ time.toInt ∧ time.toInt < 3652060 * 86400 - 62135683200

theorem toNat_sinceStart {time : Int64} (h : InCalendar time) :
    (sinceStart time).toNat = time.toInt + 62135683200 := by
  obtain ⟨hlow, hhigh⟩ := h
  have hepoch : epoch.toInt = 62135683200 := by decide
  have hsum : (time + epoch).toInt = time.toInt + 62135683200 := by
    rw [Int64.toInt_add, hepoch]
    exact Int.bmod_eq_of_le (by omega) (by omega)
  have hnonneg : 0 ≤ time + epoch := by
    rw [Int64.le_iff_toInt_le, hsum, Int64.toInt_zero]
    omega
  rw [sinceStart, Int64.toNat_toUInt64_of_le hnonneg]
  exact (Int.toNat_of_nonneg (Int64.le_iff_toInt_le.mp hnonneg)).trans hsum

theorem toNat_dayNumber {time : Int64} (h : InCalendar time) :
    (dayNumber time).toNat = (sinceStart time).toNat / 86400 ∧
      (dayNumber time).toNat < calendarDays := by
  have hsec := toNat_sinceStart h
  have hlt : (sinceStart time).toNat < 3652060 * 86400 := by
    have := h.2
    omega
  have hday : (dayNumber time).toNat = (sinceStart time).toNat / 86400 := by
    rw [dayNumber, UInt64.toNat_toUInt32, UInt64.toNat_div]
    simp only [UInt64.reduceToNat]
    omega
  exact ⟨hday, by rw [hday, calendarDays]; omega⟩

/-- A timestamp of the calendar has a text: that of its day, and the time of the day. -/
theorem rfc3339Format_ok {len : ℕ} (h : 19 < len) {time : Int64} (ht : InCalendar time) :
    rfc3339Format len time =
      ⟨timestampText (dateOfDay (dayNumber time).toNat) time ++ [nul], .ok ()⟩ := by
  obtain ⟨ymd, hymd, -, hdate⟩ := rdnToYmd_ok (toNat_dayNumber ht).2
  rw [rfc3339Format_eq h, hymd, rfc3339Text, timestampText, hdate]

/-- A day of the calendar has a date of four digits. -/
theorem year_dateOfDay {rdn : UInt32} (h : rdn.toNat < calendarDays) :
    (dateOfDay rdn.toNat).year < 10000 := by
  obtain ⟨ymd, -, hyear, hdate⟩ := rdnToYmd_ok h
  rw [← hdate]
  exact hyear

/-- **The text of a timestamp of the calendar determines it.** -/
theorem timestampText_inj {a b : Int64} (ha : InCalendar a) (hb : InCalendar b)
    (h : timestampText (dateOfDay (dayNumber a).toNat) a =
      timestampText (dateOfDay (dayNumber b).toNat) b) : a = b := by
  obtain ⟨hdate, htime⟩ := List.append_inj' h
    ((length_timeText _).trans (length_timeText _).symm)
  have hvalid : ∀ n, (dateOfDay n).Valid := fun n => (Gregorian.iterate_next firstDay_valid n).1
  have hdates := dateText_inj (hvalid _) (hvalid _) (year_dateOfDay (toNat_dayNumber ha).2)
    (year_dateOfDay (toNat_dayNumber hb).2) hdate
  have hday : (sinceStart a).toNat / 86400 = (sinceStart b).toNat / 86400 := by
    have hordinal := congrArg Gregorian.Date.ordinal hdates
    rw [ordinal_dateOfDay, ordinal_dateOfDay, (toNat_dayNumber ha).1, (toNat_dayNumber hb).1]
      at hordinal
    exact Nat.add_right_cancel hordinal
  have hrest : ∀ t : Int64, (sinceStart t % 86400).toNat = (sinceStart t).toNat % 86400 :=
    fun t => UInt64.toNat_mod _ _
  rw [hrest, hrest] at htime
  have hmod := timeText_inj (Nat.mod_lt _ (by decide)) (Nat.mod_lt _ (by decide)) htime
  have hsum : (sinceStart a).toNat = (sinceStart b).toNat := by omega
  have hint : a.toInt = b.toInt := by
    have h₁ := toNat_sinceStart ha
    have h₂ := toNat_sinceStart hb
    omega
  exact Int64.toInt_inj.mp hint

theorem nul_notMem_timestampText (date : Gregorian.Date) (time : Int64) :
    nul ∉ timestampText date time := by
  have hdigit : ∀ {v : ℕ}, v < 10 → nul ≠ digitChar v := fun hv h => digitChar_ne_nul hv h.symm
  simp only [timestampText, dateText, timeText, List.mem_append, List.mem_cons, List.not_mem_nil,
    or_false, not_or]
  refine ⟨⟨⟨⟨⟨⟨nul_notMem_fixedDigits _ _, by decide⟩, nul_notMem_fixedDigits _ _⟩, by decide⟩,
    nul_notMem_fixedDigits _ _⟩, by decide⟩, ?_⟩
  refine ⟨hdigit ?_, hdigit ?_, by decide, hdigit ?_, hdigit ?_, by decide, hdigit ?_,
    hdigit ?_⟩ <;>
    omega

end AgencLedger
