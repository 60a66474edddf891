import AgencLedger.Sol.Amount

/-!
# Sol/Decimal — the texts of integers

A 64-bit integer, signed or not, always fits the text buffer, and its text determines it.
-/

namespace AgencLedger

/-- **The decimal numeral** of a number. -/
def decimal (v : ℕ) : List Char := (wholeDigits v).reverse.map digitChar

theorem mem_decimal {v : ℕ} {c : Char} (h : c ∈ decimal v) : ∃ a < 10, c = digitChar a := by
  obtain ⟨a, ha, rfl⟩ := List.mem_map.mp h
  exact ⟨a, wholeDigits_lt a (List.mem_reverse.mp ha), rfl⟩

theorem nul_notMem_decimal (v : ℕ) : nul ∉ decimal v := fun h => by
  obtain ⟨a, ha, hc⟩ := mem_decimal h
  exact digitChar_ne_nul ha hc.symm

theorem minus_notMem_decimal (v : ℕ) : '-' ∉ decimal v := fun h => by
  have hne : ∀ a < 10, digitChar a ≠ '-' := by decide
  obtain ⟨a, ha, hc⟩ := mem_decimal h
  exact hne a ha hc.symm

/-- **The numeral determines the number.** -/
theorem decimal_inj {a b : ℕ} (h : decimal a = decimal b) : a = b := by
  have hdigits : wholeDigits a = wholeDigits b := List.reverse_injective (map_digitChar_inj
    (fun c hc => wholeDigits_lt c (List.mem_reverse.mp hc))
    (fun c hc => wholeDigits_lt c (List.mem_reverse.mp hc)) h)
  rw [← ofDigits_wholeDigits a, hdigits, ofDigits_wholeDigits]

theorem length_wholeDigits_le {v k : ℕ} (hk : 1 ≤ k) (h : v < 10 ^ k) :
    (wholeDigits v).length ≤ k := by
  unfold wholeDigits
  split
  · exact hk
  · exact (Nat.digits_length_le_iff (by decide) _).mpr h

/-- **The loop of `print_u64`** stores the lowest digits that there is room for. -/
theorem printU64Loop_eq {outLength fuel v : ℕ} {out : List Char} (hroom : out.length < outLength)
    (hfuel : outLength ≤ out.length + fuel) :
    printU64Loop outLength fuel v out
      = out ++ ((wholeDigits v).take (outLength - out.length)).map digitChar := by
  induction fuel generalizing v out with
  | zero => omega
  | succ fuel ih =>
      have hlength : (out ++ [digitChar (v % 10)]).length = out.length + 1 := by
        rw [List.length_append, List.length_singleton]
      obtain ⟨room, hroom'⟩ : ∃ room, outLength - out.length = room + 1 :=
        ⟨outLength - out.length - 1, by omega⟩
      rw [printU64Loop]
      rcases Nat.eq_zero_or_pos (v / 10) with hv | hv
      · simp only [hv, gt_iff_lt, Nat.lt_irrefl, false_and, if_false, wholeDigits_of_lt hv, hroom',
          List.take_succ_cons, List.take_nil, List.map_cons, List.map_nil]
      · by_cases hnext : (out ++ [digitChar (v % 10)]).length < outLength
        · simp only [if_pos (show v / 10 > 0 ∧ _ from ⟨hv, hnext⟩)]
          rw [ih hnext (by omega), hlength, wholeDigits_of_ge hv, hroom', List.take_succ_cons,
            List.map_cons, List.append_assoc, show outLength - (out.length + 1) = room by omega]
          rfl
        · -- the last cell is taken
          obtain rfl : room = 0 := by omega
          simp only [if_neg (show ¬(v / 10 > 0 ∧ _) from fun h => hnext h.2), wholeDigits_of_ge hv,
            hroom', List.take_succ_cons, List.take_zero, List.map_cons, List.map_nil]

/-- `INT_MAX`. -/
def intMax : ℕ := 2147483647

/-- What `print_u64` stores in a buffer with room for a digit. -/
theorem printU64_of_room (u64 : UInt64) {outLength : ℕ} (h : 1 < outLength)
    (hmax : outLength ≤ intMax) :
    printU64 u64 outLength =
      if (decimal u64.toNat).length < outLength then ⟨decimal u64.toNat ++ [nul], .ok ()⟩
      else ⟨((wholeDigits u64.toNat).take outLength).map digitChar, .error .bail⟩ := by
  have hloop : printU64Loop outLength outLength u64.toNat []
      = ((wholeDigits u64.toNat).take outLength).map digitChar :=
    printU64Loop_eq (by rw [List.length_nil]; omega) (by omega)
  simp only [printU64, if_neg (show ¬outLength > 2147483647 from Nat.not_lt.mpr hmax), if_pos h,
    hloop, List.length_map, List.length_take, decimal, List.length_reverse]
  by_cases hfits : (wholeDigits u64.toNat).length < outLength
  · rw [if_pos hfits, if_neg (by omega), List.take_of_length_le (by omega), List.map_reverse]
  · rw [if_neg hfits, if_pos (by omega)]

/-- **What `print_u64` prints**, with room for twenty digits and the `NUL`. -/
theorem printU64_eq (u64 : UInt64) {outLength : ℕ} (h : 20 < outLength)
    (hmax : outLength ≤ 2147483647) :
    printU64 u64 outLength = ⟨decimal u64.toNat ++ [nul], .ok ()⟩ := by
  have hdigits : (wholeDigits u64.toNat).length ≤ 20 :=
    length_wholeDigits_le (by decide) (Nat.lt_of_lt_of_le u64.toNat_lt (by decide))
  rw [printU64_of_room u64 (by omega) hmax, if_pos]
  rw [decimal, List.length_map, List.length_reverse]
  omega

/-- The numeral of a signed number. -/
def signedDecimal (i64 : Int64) : List Char :=
  if i64 < 0 then '-' :: decimal ((i64.toUInt64 ^^^ 0xffffffffffffffff) + 1).toNat
  else decimal i64.toUInt64.toNat

/-- **What `print_i64` prints.** -/
theorem printI64_eq (i64 : Int64) {outLength : ℕ} (h : 21 < outLength)
    (hmax : outLength ≤ 2147483647) :
    printI64 i64 outLength = ⟨signedDecimal i64 ++ [nul], .ok ()⟩ := by
  rw [printI64, if_neg (show ¬outLength < 1 by omega), signedDecimal]
  split
  · rw [printU64_eq _ (show 20 < outLength - 1 by omega) (by omega)]
    rfl
  · exact printU64_eq _ (by omega) hmax

theorem nul_notMem_signedDecimal (i64 : Int64) : nul ∉ signedDecimal i64 := by
  unfold signedDecimal
  split
  · rw [List.mem_cons, not_or]
    exact ⟨by decide, nul_notMem_decimal _⟩
  · exact nul_notMem_decimal _

/-- **The numeral determines the signed number.** -/
theorem signedDecimal_inj {a b : Int64} (h : signedDecimal a = signedDecimal b) : a = b := by
  have hsign : ∀ {v : ℕ} {l : List Char}, decimal v ≠ '-' :: l := fun {v l} hv =>
    minus_notMem_decimal v (hv ▸ List.mem_cons_self)
  unfold signedDecimal at h
  split at h <;> split at h
  · have hvalue := UInt64.toNat_inj.mp (decimal_inj (List.cons_injective h))
    have hxor := (UInt64.add_left_inj _).mp hvalue
    exact congrArg UInt64.toInt64 ((UInt64.xor_left_inj _).mp hxor)
  · exact absurd h.symm hsign
  · exact absurd h hsign
  · exact congrArg UInt64.toInt64 (UInt64.toNat_inj.mp (decimal_inj h))

/-! ## Buffers of any size -/

/-- The numeral of an integer. -/
def integerText (z : ℤ) : List Char :=
  if z < 0 then '-' :: decimal z.natAbs else decimal z.natAbs

/-- The magnitude that `print_i64` hands on is the absolute value, for the least integer too. -/
theorem signedDecimal_eq (i64 : Int64) : signedDecimal i64 = integerText i64.toInt := by
  have hvalue : i64.toInt = if 2 * i64.toUInt64.toNat < 2 ^ 64 then (i64.toUInt64.toNat : ℤ)
      else i64.toUInt64.toNat - (2 ^ 64 : ℕ) := BitVec.toInt_eq_toNat_cond _
  have hlt := i64.toUInt64.toNat_lt
  have hsign : i64 < 0 ↔ i64.toInt < 0 := Int64.lt_iff_toInt_lt
  have hneg : (i64.toUInt64 ^^^ 0xffffffffffffffff) + 1 = -i64.toUInt64 := by
    rw [show (0xffffffffffffffff : UInt64) = -1 from rfl, UInt64.xor_neg_one,
      UInt64.neg_eq_not_add]
  rw [signedDecimal, integerText, hneg]
  by_cases h : i64 < 0
  · have habs : (-i64.toUInt64).toNat = i64.toInt.natAbs := by
      rw [hsign] at h
      rw [UInt64.toNat_neg, show UInt64.size = 2 ^ 64 from rfl]
      split at hvalue <;> omega
    rw [if_pos h, if_pos (hsign.mp h), habs]
  · have habs : i64.toUInt64.toNat = i64.toInt.natAbs := by
      rw [hsign] at h
      split at hvalue <;> omega
    rw [if_neg h, if_neg (mt hsign.mpr h), habs]

/-- **A print call prints a text** exactly when it fits with its `NUL` in a buffer that is not
longer than the call allows. -/
structure Printed.Prints (p : Printed) (text : List Char) (outLength limit : ℕ) : Prop where
  ret : p.ret = .ok () ↔ text.length + 1 ≤ outLength ∧ outLength ≤ limit
  written : p.ret = .ok () → p.written = text ++ [nul]

/-- A call that fails where the text does not fit. -/
theorem Printed.Prints.of_bail {written text : List Char} {outLength limit : ℕ}
    (h : ¬(text.length + 1 ≤ outLength ∧ outLength ≤ limit)) :
    (⟨written, .error .bail⟩ : Printed).Prints text outLength limit where
  ret := iff_of_false (fun hok => by cases hok) h
  written := fun hok => by cases hok

theorem printU64_of_long (u64 : UInt64) {outLength : ℕ} (h : intMax < outLength) :
    printU64 u64 outLength = ⟨[], .error .bail⟩ :=
  if_pos h

theorem printU64_zero (u64 : UInt64) : printU64 u64 0 = ⟨[], .error .bail⟩ := rfl

theorem printU64_one (u64 : UInt64) : printU64 u64 1 = ⟨[nul], .ok ()⟩ := rfl

theorem length_printU64_le (u64 : UInt64) (outLength : ℕ) :
    (printU64 u64 outLength).written.length ≤ outLength := by
  rcases Nat.lt_or_ge intMax outLength with hlong | hmax
  · rw [printU64_of_long u64 hlong]
    exact Nat.zero_le _
  · obtain rfl | rfl | hroom : outLength = 0 ∨ outLength = 1 ∨ 1 < outLength := by omega
    · rw [printU64_zero]
      exact Nat.zero_le _
    · rw [printU64_one]
      exact Nat.le_refl 1
    · rw [printU64_of_room u64 hroom hmax]
      split
      · rw [List.length_append, List.length_singleton]
        omega
      · rw [List.length_map, List.length_take]
        exact Nat.min_le_left ..

theorem printU64_prints (u64 : UInt64) {outLength : ℕ} (h : outLength ≠ 1) :
    (printU64 u64 outLength).Prints (decimal u64.toNat) outLength intMax := by
  rcases Nat.lt_or_ge intMax outLength with hlong | hmax
  · rw [printU64_of_long u64 hlong]
    exact .of_bail fun hfits => absurd hfits.2 (Nat.not_le.mpr hlong)
  · obtain rfl | hroom : outLength = 0 ∨ 1 < outLength := by omega
    · rw [printU64_zero]
      exact .of_bail fun hfits => absurd hfits.1 (Nat.not_succ_le_zero _)
    · rw [printU64_of_room u64 hroom hmax]
      split
      · exact ⟨iff_of_true rfl ⟨‹_›, hmax⟩, fun _ => rfl⟩
      · exact .of_bail fun hfits => ‹¬_› hfits.1

/-- The cells that `print_i64` leaves for the digits: the sign takes one. -/
def roomForDigits (i64 : Int64) (outLength : ℕ) : ℕ := if i64 < 0 then outLength - 1 else outLength

theorem length_printI64_le (i64 : Int64) (outLength : ℕ) :
    (printI64 i64 outLength).written.length ≤ outLength := by
  unfold printI64
  split
  · exact Nat.zero_le _
  · split
    · have := length_printU64_le ((i64.toUInt64 ^^^ 0xffffffffffffffff) + 1) (outLength - 1)
      rw [List.length_cons]
      omega
    · exact length_printU64_le ..

theorem printI64_prints (i64 : Int64) {outLength : ℕ} (h : roomForDigits i64 outLength ≠ 1) :
    (printI64 i64 outLength).Prints (integerText i64.toInt) outLength
      (if i64 < 0 then intMax + 1 else intMax) := by
  rw [← signedDecimal_eq]
  unfold printI64
  split
  · exact .of_bail fun hfits => by omega
  · by_cases hneg : i64 < 0
    · rw [roomForDigits, if_pos hneg] at h
      have hdigits := printU64_prints ((i64.toUInt64 ^^^ 0xffffffffffffffff) + 1) h
      simp only [signedDecimal, if_pos hneg]
      refine ⟨hdigits.ret.trans ?_, fun hok => ?_⟩
      · rw [List.length_cons]
        omega
      · rw [hdigits.written hok, List.cons_append]
    · rw [roomForDigits, if_neg hneg] at h
      simp only [signedDecimal, if_neg hneg]
      exact printU64_prints _ h

/-- **Integers in buffers of any size**: the calls store nothing behind the end, and unless a single
cell is left for the digits they succeed exactly when the numeral and its `NUL` fit in a buffer
whose length is an `int`, and leave exactly these. -/
theorem integers_printed (u64 : UInt64) (i64 : Int64) (outLength : ℕ) :
    ((printU64 u64 outLength).written.length ≤ outLength ∧
      (outLength ≠ 1 → (printU64 u64 outLength).Prints (decimal u64.toNat) outLength intMax)) ∧
    ((printI64 i64 outLength).written.length ≤ outLength ∧
      (roomForDigits i64 outLength ≠ 1 →
        (printI64 i64 outLength).Prints (integerText i64.toInt) outLength
          (if i64 < 0 then intMax + 1 else intMax))) :=
  ⟨⟨length_printU64_le u64 outLength, printU64_prints u64⟩,
    length_printI64_le i64 outLength, printI64_prints i64⟩

/-- The least integer in its 21 cells. -/
theorem integers_printed_least :
    (printU64 0 21).Prints ['0'] 21 intMax ∧
      (printI64 (-9223372036854775808) 21).Prints "-9223372036854775808".toList 21 (intMax + 1) :=
  ⟨(integers_printed 0 (-9223372036854775808) 21).1.2 (by decide),
    (integers_printed 0 (-9223372036854775808) 21).2.2 (by decide)⟩

/-- **A buffer longer than an `int` can say is refused**, though the text fits. -/
theorem not_prints_of_long :
    ¬(printU64 0 (intMax + 1)).Prints (decimal 0) (intMax + 1) (intMax + 1) := by
  intro h
  have hret := h.ret.mpr ⟨by decide, le_refl _⟩
  rw [printU64_of_long 0 (Nat.lt_succ_self intMax)] at hret
  cases hret

end AgencLedger
