import AgencLedger.Sol.Calendar
import Mathlib.Data.List.GetD

/-!
# Sol/Timestamp — when a timestamp is printed

`rfc3339_format` cuts the number of the day to 32 bits, and `rdn_to_ymd` counts in 32 bits.  Days
far from the calendar whose numbers wrap around into it are printed as days of the calendar.
-/

namespace AgencLedger

/-! ## Days past the calendar -/

theorem dayOffset_le (i : ℕ) : (dayOffset.getD i 0).toNat ≤ 337 := by
  rcases Nat.lt_or_ge i 13 with hlt | hge
  · interval_cases i <;> decide
  · rw [List.getD_eq_default _ _ hge]
    exact Nat.zero_le _

/-- A day number past the year's days is refused. -/
theorem civilDate_of_day {y m d : UInt32} (h : 368 < d.toNat) :
    civilDate y m d = .error .bail := by
  unfold civilDate
  generalize (if m > 12 then (y + 1, m - 12) else (y, m)) = date
  obtain ⟨year, month⟩ := date
  refine if_pos (.inr (.inr ?_))
  have hoffset := dayOffset_le month.toNat
  rw [gt_iff_lt, UInt32.lt_iff_toNat_lt, UInt32.toNat_add, UInt16.toNat_toUInt32]
  simp only [UInt32.reduceToNat]
  omega

/-- A year past 9999 is refused. -/
theorem civilDate_of_year {y m d : UInt32} (h : 9999 < y.toNat ∨ (y.toNat = 9999 ∧ 12 < m.toNat))
    (hy : y.toNat < 2 ^ 32 - 1) : civilDate y m d = .error .bail := by
  unfold civilDate
  by_cases hm : m > 12
  · rw [if_pos hm]
    refine if_pos (.inl ?_)
    rw [gt_iff_lt, UInt32.lt_iff_toNat_lt, UInt32.toNat_add]
    simp only [UInt32.reduceToNat]
    omega
  · rw [if_neg hm]
    refine if_pos (.inl ?_)
    have hm' : ¬12 < m.toNat := fun hlt => hm (UInt32.lt_iff_toNat_lt.mpr hlt)
    rw [gt_iff_lt, UInt32.lt_iff_toNat_lt]
    simp only [UInt32.reduceToNat]
    omega

/-- The steps of a day number too large to be counted in hundredths: the days of the years counted
are those of the part that did not wrap around. -/
theorem dayOfYear_far {z h a s y : ℕ} (hz : 42948791 < z) (hz' : z < 2 ^ 32 - 882)
    (hh : h = (100 * z - 25) % 2 ^ 32) (ha : a = h / 3652425)
    (hs : s = (100 * (a - a / 4) + h) % 2 ^ 32) (hy : y = s / 36525) :
    1461 * y / 4 + 368 < a - a / 4 + z ∧ a - a / 4 + z < 2 ^ 32 := by
  have hdays : 1461 * y / 4 ≤ s / 100 := by omega
  have hb : a - a / 4 ≤ 882 := by omega
  refine ⟨?_, by omega⟩
  rcases Nat.lt_or_ge (100 * (a - a / 4) + h) (2 ^ 32) with hfits | hwraps
  · have hsum : s = 100 * (a - a / 4) + h := by omega
    have hturn : h + 2 ^ 32 ≤ 100 * z - 25 := by
      by_contra hsmall
      have hsame : h = 100 * z - 25 := by omega
      have hcentury : 1175 ≤ a := by omega
      omega
    omega
  · have hsum : s ≤ 88200 := by omega
    omega

/-- **Day numbers past the calendar** that do not wrap around at the end are refused. -/
theorem rdnToYmd_far {rdn : UInt32} (hlow : 42948791 < rdn.toNat + 306)
    (hhigh : rdn.toNat < 4294966108) : rdnToYmd rdn = .error .bail := by
  obtain ⟨z, h, a, b, y, d, m, hz', hh', ha', hb', hy', hd', -, hdate⟩ := rdnToYmd_steps rdn
  have hz : z.toNat = rdn.toNat + 306 := by
    rw [hz', UInt32.toNat_add]
    exact Nat.mod_eq_of_lt (by simp only [UInt32.reduceToNat]; omega)
  have hh : h.toNat = (100 * z.toNat - 25) % 2 ^ 32 := by
    rw [hh', UInt32.toNat_sub, UInt32.toNat_mul]
    simp only [UInt32.reduceToNat]
    omega
  have ha : a.toNat = h.toNat / 3652425 := ha' ▸ UInt32.toNat_div h 3652425
  have hb : b.toNat = a.toNat - a.toNat / 4 := hb' ▸ toNat_sub_quarter a
  have hs : (100 * b + h).toNat = (100 * (a.toNat - a.toNat / 4) + h.toNat) % 2 ^ 32 := by
    rw [UInt32.toNat_add, UInt32.toNat_mul, hb]
    simp only [UInt32.reduceToNat]
    omega
  have hy : y.toNat = (100 * b + h).toNat / 36525 := hy' ▸ UInt32.toNat_div _ 36525
  obtain ⟨hfar, hfits⟩ := dayOfYear_far (hz ▸ hlow) (by omega) hh ha hs hy
  have hd : d.toNat = b.toNat + z.toNat - 1461 * y.toNat / 4 :=
    hd' ▸ toNat_dayOfYear (by omega) (by omega) (by omega)
  rw [hdate]
  exact civilDate_of_day (by omega)

/-- The day numbers that `rdn_to_ymd` takes for days of the calendar: those of the calendar, and
the last ones before the count wraps around. -/
def InCount (rdn : UInt32) : Prop := rdn.toNat < calendarDays ∨ 4294966109 ≤ rdn.toNat

theorem rdnToYmd_of_not_inCount {rdn : UInt32} (h : ¬InCount rdn) :
    rdnToYmd rdn = .error .bail := by
  unfold InCount calendarDays at h
  rcases Nat.lt_or_ge 42948791 (rdn.toNat + 306) with hfar | hnear
  · rcases Nat.lt_or_ge rdn.toNat 4294966108 with hlt | hge
    · exact rdnToYmd_far hfar hlt
    · obtain rfl : rdn = 4294966108 := UInt32.toNat_inj.mp (by
        simp only [UInt32.reduceToNat]
        omega)
      decide
  · obtain ⟨y, m, d, heq, hmarch⟩ := rdnToYmd_eq hnear
    have hcount := hmarch.count
    have hmonth := hmarch.month
    have hlast := hmarch.last
    have hdays : 1461 * y.toNat / 4 + 366 ≥ 3652366 + (y.toNat / 100 - y.toNat / 100 / 4) := by
      omega
    have hyear : 9999 ≤ y.toNat := by
      by_contra hlt
      have hcenturies : y.toNat / 100 - y.toNat / 100 / 4 ≥ (3 * (y.toNat / 100)) / 4 := by omega
      omega
    rw [heq]
    refine civilDate_of_year ?_ (by omega)
    rcases Nat.lt_or_ge 9999 y.toNat with hlt | hge
    · exact .inl hlt
    · have hy : y.toNat = 9999 := by omega
      rw [hy] at hcount
      exact .inr ⟨hy, by omega⟩

/-- Each of the last day numbers gets a date. -/
theorem rdnToYmd_last : ∀ i < 1187,
    (rdnToYmd (UInt32.ofNat (4294966109 + i))).isOk = true := by
  decide +kernel

theorem rdnToYmd_ok_iff (rdn : UInt32) : (∃ ymd, rdnToYmd rdn = .ok ymd) ↔ InCount rdn := by
  constructor
  · rintro ⟨ymd, hymd⟩
    by_contra h
    exact nomatch (rdnToYmd_of_not_inCount h).symm.trans hymd
  · rintro (h | h)
    · obtain ⟨ymd, hymd, -⟩ := rdnToYmd_ok h
      exact ⟨ymd, hymd⟩
    · obtain ⟨i, hi⟩ : ∃ i, rdn.toNat = 4294966109 + i := ⟨rdn.toNat - 4294966109, by omega⟩
      have hok := rdnToYmd_last i (by have := rdn.toNat_lt; omega)
      rw [← hi, UInt32.ofNat_toNat] at hok
      revert hok
      rcases rdnToYmd rdn with e | ymd
      · exact nofun
      · exact fun _ => ⟨ymd, rfl⟩

/-! ## The date of an instant -/

/-- `hh:mm:ss`, of a second of the day. -/
def clockText (v : ℕ) : List Char :=
  fixedDigits 2 (v / 3600) ++ [':'] ++ fixedDigits 2 (v / 60 % 60) ++ [':']
    ++ fixedDigits 2 (v % 60)

/-- **The date and the time of an instant**, given in seconds from 1970 on. -/
def instantText (seconds : ℤ) : List Char :=
  let n := (seconds + 62135683200).toNat
  dateText (dateOfDay (n / 86400)) ++ clockText (n % 86400)

/-- The instant 0 is on 1970-01-01. -/
example : dateOfDay (62135683200 / 86400) = ⟨1970, 1, 1⟩ :=
  Gregorian.iterate_next_eq firstDay_valid ⟨by decide, by decide, by decide, by decide⟩ rfl

theorem timeText_eq_clockText (v : ℕ) : timeText v = clockText v := by
  simp only [timeText, clockText, fixedDigits, List.nil_append, List.cons_append,
    Nat.div_div_eq_div_mul]
  have h₁ : v / 60 % 60 / 10 % 10 = v / 600 % 6 := by omega
  have h₂ : v / 60 % 60 % 10 = v / 60 % 10 := by omega
  have h₃ : v % 60 / 10 % 10 = v / 10 % 6 := by omega
  have h₄ : v % 60 % 10 = v % 10 := by omega
  rw [h₁, h₂, h₃, h₄]

theorem timestampText_eq {time : Int64} (h : InCalendar time) :
    timestampText (dateOfDay (dayNumber time).toNat) time = instantText time.toInt := by
  have hsince : (sinceStart time).toNat = (time.toInt + 62135683200).toNat := by
    have := toNat_sinceStart h
    omega
  have hrest : (sinceStart time % 86400).toNat = (sinceStart time).toNat % 86400 :=
    UInt64.toNat_mod _ _
  rw [timestampText, instantText, (toNat_dayNumber h).1, hrest, hsince, timeText_eq_clockText]

/-- **The dates shown are the dates signed**: `print_timestamp` prints the instants of the calendar,
each with its own date and time, and no other. -/
structure PrintsDate (time : Int64) (outLength : ℕ) : Prop where
  ok_iff : (printTimestamp time outLength).ret = .ok () ↔ InCalendar time
  text : InCalendar time → ∀ buffer,
    textOf (overlay (printTimestamp time outLength).written buffer) = instantText time.toInt
  nothing : ¬InCalendar time → (printTimestamp time outLength).written = []

/-- **`print_timestamp` prints dates right** exactly on the calendar and where the day number, cut
to 32 bits, is none that `rdn_to_ymd` takes. -/
theorem printsDate_iff {time : Int64} {outLength : ℕ} (h : 20 ≤ outLength) :
    PrintsDate time outLength ↔ InCalendar time ∨ ¬InCount (dayNumber time) := by
  constructor
  · intro hprints
    by_cases hcalendar : InCalendar time
    · exact .inl hcalendar
    · refine .inr fun hcount => hcalendar (hprints.ok_iff.mp ?_)
      obtain ⟨ymd, hymd⟩ := (rdnToYmd_ok_iff _).mpr hcount
      rw [printTimestamp, rfc3339Format_eq (by omega), hymd, rfc3339Text]
  · rintro (hcalendar | hcount)
    · have hformat := @rfc3339Format_ok outLength (by omega) _ hcalendar
      refine ⟨iff_of_true ?_ hcalendar, fun _ buffer => ?_, fun hnot => absurd hcalendar hnot⟩
      · rw [printTimestamp, hformat]
      · rw [printTimestamp, hformat, textOf_overlay_append_nul (nul_notMem_timestampText _ _),
          timestampText_eq hcalendar]
    · have hnot : ¬InCalendar time := fun hcalendar => hcount (.inl (toNat_dayNumber hcalendar).2)
      have hformat : printTimestamp time outLength = ⟨[], .error .bail⟩ := by
        rw [printTimestamp, rfc3339Format_eq (by omega),
          rdnToYmd_of_not_inCount hcount, rfc3339Text]
      refine ⟨iff_of_false ?_ hnot, fun hcalendar => absurd hcalendar hnot, fun _ => ?_⟩
      · rw [hformat]
        intro h
        cases h
      · rw [hformat]

/-- The theorem on the first instant of 1970. -/
theorem printsDate_epoch : 20 ≤ 20 ∧
    (PrintsDate 0 20 ↔ InCalendar 0 ∨ ¬InCount (dayNumber 0)) :=
  ⟨Nat.le_refl 20, printsDate_iff (Nat.le_refl 20)⟩

/-- **2³² days after 1970-01-01** the text is that of 1970-01-01. -/
theorem not_printsDate_wrapped :
    (printTimestamp 371085174374400 20).ret = .ok () ∧
      textOf (printTimestamp 371085174374400 20).written = "1970-01-01 00:00:00".toList ∧
      ¬PrintsDate 371085174374400 20 := by
  have hok : (printTimestamp 371085174374400 20).ret = .ok () := by decide
  refine ⟨hok, by decide, fun h => ?_⟩
  have hnot : ¬InCalendar 371085174374400 := by
    unfold InCalendar
    decide
  exact hnot (h.ok_iff.mp hok)

end AgencLedger
