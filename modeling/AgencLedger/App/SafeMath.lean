import AgencLedger.App.Descriptor

/-!
# App/SafeMath — basis points in 64-bit arithmetic

`safe_mul_bps_div10000` divides an 80-bit product in two halves and carries the remainder across.
The exact operations here are those of 64-bit arithmetic that refuse to wrap: a computation in them
that succeeds is the same computation in wrapping arithmetic, and in the natural numbers.
-/

namespace AgencLedger

/-! ## Exact operations -/

/-- A sum that does not wrap. -/
def addExact (a b : UInt64) : Option UInt64 :=
  if a.toNat + b.toNat < 2 ^ 64 then some (a + b) else none

/-- A difference that does not wrap. -/
def subExact (a b : UInt64) : Option UInt64 := if b.toNat ≤ a.toNat then some (a - b) else none

/-- A product that does not wrap. -/
def mulExact (a b : UInt64) : Option UInt64 :=
  if a.toNat * b.toNat < 2 ^ 64 then some (a * b) else none

/-- A shift by half a word that loses no bit. -/
def shiftHalfExact (a : UInt64) : Option UInt64 :=
  if a.toNat * 2 ^ 32 < 2 ^ 64 then some (a <<< 32) else none

section

variable {a b c : UInt64}

theorem eq_add_of_addExact (h : addExact a b = some c) : a + b = c :=
  Option.some.inj (Option.ite_none_right_eq_some.mp h).2

theorem eq_sub_of_subExact (h : subExact a b = some c) : a - b = c :=
  Option.some.inj (Option.ite_none_right_eq_some.mp h).2

theorem eq_mul_of_mulExact (h : mulExact a b = some c) : a * b = c :=
  Option.some.inj (Option.ite_none_right_eq_some.mp h).2

theorem eq_shift_of_shiftHalfExact (h : shiftHalfExact a = some c) : a <<< 32 = c :=
  Option.some.inj (Option.ite_none_right_eq_some.mp h).2

theorem exists_addExact (h : a.toNat + b.toNat < 2 ^ 64) :
    ∃ c, addExact a b = some c ∧ c.toNat = a.toNat + b.toNat :=
  ⟨a + b, if_pos h, by rw [UInt64.toNat_add, Nat.mod_eq_of_lt h]⟩

theorem exists_subExact (h : b.toNat ≤ a.toNat) :
    ∃ c, subExact a b = some c ∧ c.toNat = a.toNat - b.toNat :=
  ⟨a - b, if_pos h, UInt64.toNat_sub_of_le _ _ (UInt64.le_iff_toNat_le.mpr h)⟩

theorem exists_mulExact (h : a.toNat * b.toNat < 2 ^ 64) :
    ∃ c, mulExact a b = some c ∧ c.toNat = a.toNat * b.toNat :=
  ⟨a * b, if_pos h, by rw [UInt64.toNat_mul, Nat.mod_eq_of_lt h]⟩

theorem exists_shiftHalfExact (h : a.toNat * 2 ^ 32 < 2 ^ 64) :
    ∃ c, shiftHalfExact a = some c ∧ c.toNat = a.toNat * 2 ^ 32 := by
  refine ⟨a <<< 32, if_pos h, ?_⟩
  rw [UInt64.toNat_shiftLeft, show (32 : UInt64).toNat % 64 = 32 from rfl, Nat.shiftLeft_eq,
    Nat.mod_eq_of_lt h]

end

/-! ## Basis points -/

/-- `safe_mul_bps_div10000` in exact operations: `none` when one of them would wrap. -/
def safeMulBpsDiv10000Exact (a : UInt64) (b : UInt16) : Option (Option UInt64) := do
  let prodLo ← mulExact (a &&& 0xffffffff) b.toUInt64
  let prodHi ← mulExact (a >>> 32) b.toUInt64
  let qHi := prodHi / 10000
  let rHi := prodHi % 10000
  if qHi > 0xffffffff then return none
  let hiPart ← shiftHalfExact qHi
  let carried ← shiftHalfExact rHi
  let dividend ← addExact carried prodLo
  let loPart := dividend / 10000
  let room ← subExact 0xffffffffffffffff hiPart
  if loPart > room then return none
  let result ← addExact hiPart loPart
  return some result

/-- **Where no operation wraps**, the code computes the same. -/
theorem safeMulBpsDiv10000_of_exact {a : UInt64} {b : UInt16} {r : Option UInt64}
    (h : safeMulBpsDiv10000Exact a b = some r) : safeMulBpsDiv10000 a b = r := by
  unfold safeMulBpsDiv10000Exact at h
  obtain ⟨prodLo, hprodLo, h⟩ := Option.bind_eq_some_iff.mp h
  obtain ⟨prodHi, hprodHi, h⟩ := Option.bind_eq_some_iff.mp h
  unfold safeMulBpsDiv10000
  rw [eq_mul_of_mulExact hprodLo, eq_mul_of_mulExact hprodHi]
  simp only at h ⊢
  by_cases hover : prodHi / 10000 > 0xffffffff
  · rw [if_pos hover] at h ⊢
    exact Option.some.inj h
  · rw [if_neg hover] at h ⊢
    obtain ⟨hiPart, hhiPart, h⟩ := Option.bind_eq_some_iff.mp h
    obtain ⟨carried, hcarried, h⟩ := Option.bind_eq_some_iff.mp h
    obtain ⟨dividend, hdividend, h⟩ := Option.bind_eq_some_iff.mp h
    obtain ⟨room, hroom, h⟩ := Option.bind_eq_some_iff.mp h
    rw [eq_shift_of_shiftHalfExact hhiPart, eq_shift_of_shiftHalfExact hcarried,
      eq_add_of_addExact hdividend, eq_sub_of_subExact hroom]
    by_cases hwrap : dividend / 10000 > room
    · rw [if_pos hwrap] at h ⊢
      exact Option.some.inj h
    · rw [if_neg hwrap] at h ⊢
      obtain ⟨result, hresult, h⟩ := Option.bind_eq_some_iff.mp h
      rw [eq_add_of_addExact hresult]
      exact Option.some.inj h

/-- The two halves of a product, divided one after the other. -/
theorem div_of_halves (hi lo : ℕ) :
    (hi * 2 ^ 32 + lo) / 10000 = hi / 10000 * 2 ^ 32 + (hi % 10000 * 2 ^ 32 + lo) / 10000 := by
  have hsplit : hi * 2 ^ 32 + lo
      = 10000 * (hi / 10000 * 2 ^ 32) + (hi % 10000 * 2 ^ 32 + lo) := by omega
  rw [hsplit, Nat.mul_add_div (by omega)]

/-- **No operation wraps, and the quotient is exact.** -/
theorem safeMulBpsDiv10000Exact_eq (a : UInt64) (b : UInt16) :
    safeMulBpsDiv10000Exact a b = some
      (if a.toNat * b.toNat / 10000 < 2 ^ 64 then
        some (UInt64.ofNat (a.toNat * b.toNat / 10000)) else none) := by
  have ha := a.toNat_lt
  have hb := b.toNat_lt
  have hbytes : b.toUInt64.toNat = b.toNat := UInt16.toNat_toUInt64 b
  have hlow : (a &&& 0xffffffff).toNat = a.toNat % 2 ^ 32 := by
    rw [UInt64.toNat_and, show (0xffffffff : UInt64).toNat = 2 ^ 32 - 1 from rfl,
      Nat.and_two_pow_sub_one_eq_mod]
  have hhigh : (a >>> 32).toNat = a.toNat / 2 ^ 32 := by
    rw [UInt64.toNat_shiftRight, show (32 : UInt64).toNat % 64 = 32 from rfl,
      Nat.shiftRight_eq_div_pow]
  -- each half of the product has 48 bits
  have hlowLt : a.toNat % 2 ^ 32 * b.toNat < 2 ^ 32 * 2 ^ 16 :=
    Nat.mul_lt_mul'' (Nat.mod_lt _ (by omega)) hb
  have hhighLt : a.toNat / 2 ^ 32 * b.toNat < 2 ^ 32 * 2 ^ 16 :=
    Nat.mul_lt_mul'' (Nat.div_lt_of_lt_mul ha) hb
  have hsplit : a.toNat * b.toNat
      = a.toNat / 2 ^ 32 * b.toNat * 2 ^ 32 + a.toNat % 2 ^ 32 * b.toNat := by
    rw [Nat.mul_right_comm, ← Nat.add_mul, Nat.div_add_mod']
  obtain ⟨prodLo, hprodLo, hlo⟩ :=
    exists_mulExact (a := a &&& 0xffffffff) (b := b.toUInt64) (by rw [hlow, hbytes]; omega)
  obtain ⟨prodHi, hprodHi, hhi⟩ :=
    exists_mulExact (a := a >>> 32) (b := b.toUInt64) (by rw [hhigh, hbytes]; omega)
  rw [hlow, hbytes] at hlo
  rw [hhigh, hbytes] at hhi
  rw [hsplit, div_of_halves, ← hlo, ← hhi]
  rw [← hlo] at hlowLt
  rw [← hhi] at hhighLt
  have hqHi : (prodHi / 10000).toNat = prodHi.toNat / 10000 := UInt64.toNat_div _ _
  have hrHi : (prodHi % 10000).toNat = prodHi.toNat % 10000 := UInt64.toNat_mod _ _
  simp only [safeMulBpsDiv10000Exact, hprodLo, hprodHi, Option.bind_eq_bind, Option.bind_some]
  by_cases hover : prodHi / 10000 > 0xffffffff
  · have hbig : 0xffffffff < prodHi.toNat / 10000 := hqHi ▸ UInt64.lt_iff_toNat_lt.mp hover
    rw [if_pos hover, if_neg (by omega)]
    rfl
  · have hsmall : prodHi.toNat / 10000 ≤ 0xffffffff :=
      Nat.le_of_not_lt fun hlt => hover (UInt64.lt_iff_toNat_lt.mpr (hqHi.symm ▸ hlt))
    obtain ⟨hiPart, hhiPart, hhiVal⟩ :=
      exists_shiftHalfExact (a := prodHi / 10000) (by rw [hqHi]; omega)
    obtain ⟨carried, hcarried, hcarriedVal⟩ :=
      exists_shiftHalfExact (a := prodHi % 10000) (by rw [hrHi]; omega)
    rw [hqHi] at hhiVal
    rw [hrHi] at hcarriedVal
    obtain ⟨dividend, hdividend, hdividendVal⟩ :=
      exists_addExact (a := carried) (b := prodLo) (by rw [hcarriedVal]; omega)
    obtain ⟨room, hroom, hroomVal⟩ := exists_subExact (a := 0xffffffffffffffff) (b := hiPart) (by
      have := hiPart.toNat_lt
      change hiPart.toNat ≤ 2 ^ 64 - 1
      omega)
    have hroomVal : room.toNat = 2 ^ 64 - 1 - hiPart.toNat := hroomVal
    have hloVal : (dividend / 10000).toNat = dividend.toNat / 10000 := UInt64.toNat_div _ _
    rw [hdividendVal, hcarriedVal] at hloVal
    rw [if_neg hover, hhiPart, hcarried]
    simp only [Option.bind_some, hdividend, hroom]
    rw [← hhiVal, ← hloVal]
    by_cases hwrap : dividend / 10000 > room
    · have hbig := UInt64.lt_iff_toNat_lt.mp hwrap
      rw [if_pos hwrap, if_neg (by omega)]
      rfl
    · have hfits : (dividend / 10000).toNat ≤ room.toNat :=
        Nat.le_of_not_lt fun hlt => hwrap (UInt64.lt_iff_toNat_lt.mpr hlt)
      obtain ⟨result, hresult, hval⟩ :=
        exists_addExact (a := hiPart) (b := dividend / 10000) (by
          have := hiPart.toNat_lt
          omega)
      rw [if_neg hwrap, hresult, if_pos (by
        have := result.toNat_lt
        omega), ← hval, UInt64.ofNat_toNat]
      rfl

/-- **Basis points are computed exactly**: the floor of the quotient is stored where it fits in 64
bits and nothing is stored otherwise, and no operation on the way wraps. -/
theorem safeMulBpsDiv10000_exact (a : UInt64) (b : UInt16) :
    safeMulBpsDiv10000 a b =
        (if a.toNat * b.toNat / 10000 < 2 ^ 64 then
          some (UInt64.ofNat (a.toNat * b.toNat / 10000)) else none) ∧
      safeMulBpsDiv10000Exact a b = some (safeMulBpsDiv10000 a b) := by
  have hexact := safeMulBpsDiv10000Exact_eq a b
  have hcode := safeMulBpsDiv10000_of_exact hexact
  exact ⟨hcode, hexact.trans (congrArg some hcode.symm)⟩

end AgencLedger
