import AgencLedger.Library.Digits
import AgencLedger.Sol.Printer
import Mathlib.Data.Nat.Digits.Lemmas

/-!
# Sol/Amount — `print_token_amount`, and what a printed amount says

`print_token_amount` writes the digits of the amount from the last one on, puts the dot in at index
`decimals`, turns the text round and strips what it need not say.  `printTokenAmount_eq`
tells when it succeeds and what it then prints: the canonical numeral of `amount / 10^decimals`.

Two readers of such texts follow: the numeral determines the amount as a rational
(`numeral_inj`), and `amount_as_string_is_greater_or_equal` compares amounts
(`amountAsStringIsGreaterOrEqual_iff`).
-/

namespace AgencLedger

open Positional

/-! ## The code -/

/-- The `do … while` of `print_token_amount`: what stands in `out[0 .. i-1]`, last digit first, and
whether the loop is left without a bail-out. -/
def tokenAmountLoop (outLength decimals : ℕ) : ℕ → ℕ → List Char → List Char × Bool
  | 0, _, out => (out, false)
  | fuel + 1, dVal, out =>
      let out := if out.length = decimals then out ++ ['.'] else out
      -- only the dot can bring `i` to the end here
      if out.length ≥ outLength then (out, false)
      else
        let out := out ++ [digitChar (dVal % 10)]
        if (dVal / 10 > 0 ∨ out.length < decimals + 1) ∧ out.length < outLength then
          tokenAmountLoop outLength decimals fuel (dVal / 10) out
        else (out, true)

/-- The trailing zeros, seen from the end of the text; the first character stays. -/
def stripZeros : List Char → List Char
  | '0' :: c :: out => stripZeros (c :: out)
  | out => out

/-- The trailing dot, seen from the end of the text. -/
def stripDot : List Char → List Char
  | '.' :: out => out
  | out => out

/-- `print_token_amount`. -/
def printTokenAmount (amount : UInt64) (asset : Option CString) (decimals : UInt8)
    (outLength : ℕ) : Printed :=
  if outLength > 2147483647 then ⟨[], .error .bail⟩
  else
    let loop :=
      if 1 < outLength then tokenAmountLoop outLength decimals.toNat outLength amount.toNat []
      else ([], true)
    if !loop.2 || loop.1.length ≥ outLength then ⟨loop.1, .error .bail⟩
    -- `out[i - 1]` at `i = 0`
    else if loop.1 = [] then ⟨[], .error .outOfBounds⟩
    else
      let text := (stripDot (stripZeros loop.1)).reverse
      match asset with
      | some asset =>
          if text.length + 1 + asset.chars.length + 1 > outLength then
            ⟨loop.1.reverse, .error .bail⟩
          else ⟨overlay (text ++ ' ' :: asset.chars ++ [nul]) loop.1.reverse, .ok ()⟩
      | none => ⟨overlay (text ++ [nul]) loop.1.reverse, .ok ()⟩

/-- `print_amount`. -/
def printAmount (amount : UInt64) (outLength : ℕ) : Printed :=
  printTokenAmount amount (some (.lit "SOL")) 9 outLength

/-- The loop of `validate_numeric_part`. -/
def validateNumericLoop (numLen : ℕ) : ℕ → ℕ → Bool → List Char → Option ℕ
  | _, dotPos, _, [] => some dotPos
  | i, dotPos, hasDot, c :: str =>
      if c = '.' then
        if hasDot || i = 0 || i = numLen - 1 then none
        else validateNumericLoop numLen (i + 1) i true str
      else if c < '0' || c > '9' then none
      else validateNumericLoop numLen (i + 1) dotPos hasDot str

/-- `validate_numeric_part`: the position of the dot, or the length. -/
def validateNumericPart (str : List Char) : Option ℕ :=
  if str.length = 0 then none else validateNumericLoop str.length 0 str.length false str

/-- The digit loops of the comparison: the first difference decides. -/
def compareDigits : List Char → List Char → Option Bool
  | a :: as, b :: bs => if a ≠ b then some (a > b) else compareDigits as bs
  | _, _ => none

/-- `amount_as_string_is_greater_or_equal`, on two strings. -/
def amountAsStringIsGreaterOrEqual (a b : List Char) : Bool :=
  let aNum := a.takeWhile (· ≠ ' ')
  let bNum := b.takeWhile (· ≠ ' ')
  match a.dropWhile (· ≠ ' '), b.dropWhile (· ≠ ' ') with
  | _ :: aTicker, _ :: bTicker =>
      if aTicker = [] || bTicker = [] then false
      else if aTicker ≠ bTicker then false
      else
        match validateNumericPart aNum, validateNumericPart bNum with
        | some aDot, some bDot =>
            if aDot ≠ bDot then aDot > bDot
            else
              match compareDigits (aNum.take aDot) (bNum.take aDot) with
              | some r => r
              | none =>
                  let aFrac := aNum.drop (aDot + 1)
                  let bFrac := bNum.drop (bDot + 1)
                  let maxFrac := max aFrac.length bFrac.length
                  (compareDigits (aFrac ++ List.replicate (maxFrac - aFrac.length) '0')
                    (bFrac ++ List.replicate (maxFrac - bFrac.length) '0')).getD true
        | _, _ => false
  | _, _ => false

/-! ## The numeral -/

/-- The digits after the dot, last one first. -/
def fracDigits (amount decimals : ℕ) : List ℕ :=
  (List.range decimals).map fun j => amount / 10 ^ j % 10

/-- The digits of a whole number, last one first, `0` for zero. -/
def wholeDigits (q : ℕ) : List ℕ := if q = 0 then [0] else Nat.digits 10 q

/-- The text before it is stripped, last character first. -/
def rawNumeral (amount decimals : ℕ) : List Char :=
  (fracDigits amount decimals).map digitChar
    ++ '.' :: (wholeDigits (amount / 10 ^ decimals)).map digitChar

/-- The digits after the dot without the trailing zeros, first one first. -/
def shownFrac (amount decimals : ℕ) : List ℕ :=
  ((fracDigits amount decimals).dropWhile (· = 0)).reverse

/-- **The canonical numeral** of `amount / 10^decimals`. -/
def numeral (amount decimals : ℕ) : List Char :=
  ((wholeDigits (amount / 10 ^ decimals)).reverse.map digitChar)
    ++ if shownFrac amount decimals = [] then []
       else '.' :: (shownFrac amount decimals).map digitChar

@[simp] theorem length_fracDigits (amount decimals : ℕ) :
    (fracDigits amount decimals).length = decimals := by simp [fracDigits]

theorem fracDigits_lt {amount decimals : ℕ} : ∀ a ∈ fracDigits amount decimals, a < 10 := by
  intro a ha
  obtain ⟨j, -, rfl⟩ := List.mem_map.mp ha
  exact Nat.mod_lt _ (by omega)

theorem fracDigits_succ (amount k : ℕ) :
    fracDigits amount (k + 1) = fracDigits amount k ++ [amount / 10 ^ k % 10] := by
  simp [fracDigits, List.range_succ]

theorem ofDigits_fracDigits (amount decimals : ℕ) :
    Nat.ofDigits 10 (fracDigits amount decimals) = amount % 10 ^ decimals := by
  induction decimals with
  | zero => simp [fracDigits, Nat.mod_one]
  | succ k ih =>
      rw [fracDigits_succ, Nat.ofDigits_append, ih, length_fracDigits, Nat.ofDigits_singleton,
        Nat.mod_pow_succ]

theorem wholeDigits_lt {q : ℕ} : ∀ a ∈ wholeDigits q, a < 10 := by
  intro a ha
  unfold wholeDigits at ha
  split at ha
  · simp at ha
    omega
  · exact Nat.digits_lt_base (by omega) ha

theorem wholeDigits_ne_nil (q : ℕ) : wholeDigits q ≠ [] := by
  unfold wholeDigits
  split
  · simp
  · exact Nat.digits_ne_nil_iff_ne_zero.mpr ‹_›

@[simp] theorem ofDigits_wholeDigits (q : ℕ) : Nat.ofDigits 10 (wholeDigits q) = q := by
  unfold wholeDigits
  split
  · simp_all
  · exact Nat.ofDigits_digits 10 q

theorem wholeDigits_of_lt {q : ℕ} (h : q / 10 = 0) : wholeDigits q = [q % 10] := by
  have hq : q < 10 := by omega
  unfold wholeDigits
  split
  · simp_all
  · rw [Nat.digits_of_lt 10 q ‹_› hq, Nat.mod_eq_of_lt hq]

theorem wholeDigits_of_ge {q : ℕ} (h : 0 < q / 10) :
    wholeDigits q = q % 10 :: wholeDigits (q / 10) := by
  have hq : q ≠ 0 := by omega
  simp only [wholeDigits, if_neg hq, if_neg (show q / 10 ≠ 0 by omega)]
  exact Nat.digits_eq_cons_digits_div (by omega) hq

/-! ## The digit loop -/

/-- What the loop leaves when the whole text would be `raw`: the text when it fits, else a
failure. -/
def LoopSpec (outLength : ℕ) (raw : List Char) (r : List Char × Bool) : Prop :=
  if raw.length < outLength then r = (raw, true) else r.2 = false ∨ outLength ≤ r.1.length

/-- A pass away from the dot stores one digit. -/
theorem tokenAmountLoop_step {outLength decimals fuel dVal : ℕ} {out : List Char}
    (hdot : out.length ≠ decimals) (hout : out.length < outLength) :
    tokenAmountLoop outLength decimals (fuel + 1) dVal out
      = if (dVal / 10 > 0 ∨ out.length < decimals) ∧ out.length + 1 < outLength then
          tokenAmountLoop outLength decimals fuel (dVal / 10) (out ++ [digitChar (dVal % 10)])
        else (out ++ [digitChar (dVal % 10)], true) := by
  simp only [tokenAmountLoop, if_neg hdot, if_neg (show ¬out.length ≥ outLength by omega),
    List.length_append, List.length_singleton, Nat.add_lt_add_iff_right]

/-- The pass at the dot is a pass after it, if there is room. -/
theorem tokenAmountLoop_dot {outLength decimals fuel dVal : ℕ} {out : List Char}
    (hdot : out.length = decimals) :
    tokenAmountLoop outLength decimals (fuel + 1) dVal out
      = if outLength ≤ decimals + 1 then (out ++ ['.'], false)
        else tokenAmountLoop outLength decimals (fuel + 1) dVal (out ++ ['.']) := by
  simp only [tokenAmountLoop, hdot, if_true, List.length_append, List.length_singleton,
    if_neg (show ¬decimals + 1 = decimals by omega)]
  split <;> rfl

/-- Past the dot: the digits of the whole part. -/
theorem tokenAmountLoop_whole {outLength decimals fuel q : ℕ} {out : List Char}
    (hdot : decimals < out.length) (hout : out.length < outLength)
    (hfuel : outLength ≤ fuel + out.length) :
    LoopSpec outLength (out ++ (wholeDigits q).map digitChar)
      (tokenAmountLoop outLength decimals fuel q out) := by
  induction fuel generalizing q out with
  | zero => omega
  | succ fuel ih =>
      have hlen : (out ++ [digitChar (q % 10)]).length = out.length + 1 := by simp
      rw [tokenAmountLoop_step (by omega) hout]
      rcases Nat.eq_zero_or_pos (q / 10) with hq | hq
      · rw [if_neg (by omega), wholeDigits_of_lt hq]
        rcases Nat.lt_or_ge (out.length + 1) outLength with hroom | hfull
        · rw [LoopSpec, if_pos (by simpa using hroom)]
          rfl
        · rw [LoopSpec, if_neg (by simpa using hfull)]
          exact .inr (by simpa using hfull)
      · rw [wholeDigits_of_ge hq, List.map_cons, ← List.singleton_append, ← List.append_assoc]
        rcases Nat.lt_or_ge (out.length + 1) outLength with hroom | hfull
        · rw [if_pos ⟨.inl hq, hroom⟩]
          exact ih (by omega) (by omega) (by omega)
        · rw [if_neg (by omega)]
          have hraw : ¬(out ++ [digitChar (q % 10)] ++
              (wholeDigits (q / 10)).map digitChar).length < outLength := by
            rw [List.length_append, hlen]
            omega
          simp only [LoopSpec, if_neg hraw]
          exact .inr (by omega)

theorem length_rawNumeral_gt (amount decimals : ℕ) :
    decimals + 1 < (rawNumeral amount decimals).length := by
  have := List.length_pos_iff.mpr (wholeDigits_ne_nil (amount / 10 ^ decimals))
  simp only [rawNumeral, List.length_append, List.length_map, length_fracDigits, List.length_cons]
  omega

/-- From digit `k` on, `k` at most `decimals`. -/
theorem tokenAmountLoop_frac {amount outLength decimals fuel k : ℕ} (hk : k ≤ decimals)
    (hout : k < outLength) (hfuel : outLength ≤ fuel + k) :
    LoopSpec outLength (rawNumeral amount decimals)
      (tokenAmountLoop outLength decimals fuel (amount / 10 ^ k)
        ((fracDigits amount k).map digitChar)) := by
  have hraw := length_rawNumeral_gt amount decimals
  induction fuel generalizing k with
  | zero => omega
  | succ fuel ih =>
      have hlen : ((fracDigits amount k).map digitChar).length = k := by simp
      rcases Nat.lt_or_ge k decimals with hlt | hge
      · have hpush : (fracDigits amount k).map digitChar ++ [digitChar (amount / 10 ^ k % 10)]
            = (fracDigits amount (k + 1)).map digitChar := by simp [fracDigits_succ]
        have hdiv : amount / 10 ^ k / 10 = amount / 10 ^ (k + 1) := by
          rw [Nat.div_div_eq_div_mul, pow_succ]
        rw [tokenAmountLoop_step (by omega) (by omega), hpush, hdiv, hlen]
        rcases Nat.lt_or_ge (k + 1) outLength with hroom | hfull
        · rw [if_pos ⟨.inr hlt, hroom⟩]
          exact ih (by omega) hroom (by omega)
        · rw [if_neg (by omega), LoopSpec, if_neg (by omega)]
          exact .inr (by simpa using hfull)
      · obtain rfl : k = decimals := by omega
        rw [tokenAmountLoop_dot hlen]
        split
        · rw [LoopSpec, if_neg (by omega)]
          exact .inl rfl
        · have h : LoopSpec outLength _ (tokenAmountLoop outLength k (fuel + 1) (amount / 10 ^ k)
              ((fracDigits amount k).map digitChar ++ ['.'])) :=
            tokenAmountLoop_whole (by simp) (by simp; omega) (by simp; omega)
          simpa [rawNumeral] using h

/-- **The digit loop writes the whole text exactly when it fits.** -/
theorem tokenAmountLoop_eq (amount decimals : ℕ) {outLength : ℕ} (h : 1 < outLength) :
    LoopSpec outLength (rawNumeral amount decimals)
      (tokenAmountLoop outLength decimals outLength amount []) := by
  have hstart : LoopSpec outLength (rawNumeral amount decimals)
      (tokenAmountLoop outLength decimals outLength (amount / 10 ^ 0)
        ((fracDigits amount 0).map digitChar)) :=
    tokenAmountLoop_frac (Nat.zero_le decimals) (by omega) (Nat.le_refl outLength)
  simpa [fracDigits] using hstart

/-! ## Stripping -/

theorem digitChar_inj {a b : ℕ} (ha : a < 10) (hb : b < 10) (h : digitChar a = digitChar b) :
    a = b := by
  have hall : ∀ a < 10, ∀ b < 10, digitChar a = digitChar b → a = b := by decide
  exact hall a ha b hb h

theorem digitChar_ne_dot {a : ℕ} (ha : a < 10) : digitChar a ≠ '.' := by
  revert a
  decide

theorem digitChar_ne_space {a : ℕ} (ha : a < 10) : digitChar a ≠ ' ' := by
  revert a
  decide

theorem digitChar_ne_nul {a : ℕ} (ha : a < 10) : digitChar a ≠ nul := by
  revert a
  decide

theorem digitChar_eq_zero {a : ℕ} (ha : a < 10) : digitChar a = '0' ↔ a = 0 := by
  revert a
  decide

/-- The zeros after the dot go, the dot stops the loop. -/
theorem stripZeros_eq {frac : List ℕ} (hfrac : ∀ a ∈ frac, a < 10) (whole : List Char) :
    stripZeros (frac.map digitChar ++ '.' :: whole)
      = (frac.dropWhile (· = 0)).map digitChar ++ '.' :: whole := by
  induction frac with
  | nil => rfl
  | cons a l ih =>
      have ha := digitChar_eq_zero (hfrac a List.mem_cons_self)
      by_cases h0 : a = 0
      · obtain ⟨c, rest, hrest⟩ : ∃ c rest, l.map digitChar ++ '.' :: whole = c :: rest := by
          cases l <;> exact ⟨_, _, rfl⟩
        rw [List.map_cons, ha.mpr h0, List.cons_append, hrest, stripZeros, ← hrest,
          ih fun b hb => hfrac b (List.mem_cons_of_mem a hb),
          List.dropWhile_cons_of_pos (by simpa using h0)]
      · rw [List.dropWhile_cons_of_neg (by simpa using h0), List.map_cons, List.cons_append,
          stripZeros]
        intro c rest h
        exact absurd (List.cons.inj h).1 (mt ha.mp h0)

/-- **Stripping the whole text leaves the canonical numeral.** -/
theorem strip_rawNumeral (amount decimals : ℕ) :
    (stripDot (stripZeros (rawNumeral amount decimals))).reverse = numeral amount decimals := by
  rw [rawNumeral, stripZeros_eq fracDigits_lt, numeral, shownFrac]
  rcases hf : (fracDigits amount decimals).dropWhile (· = 0) with _ | ⟨a, l⟩
  · rw [hf]
    simp [stripDot]
  · have ha : a < 10 := fracDigits_lt a ((List.dropWhile_suffix _).subset
      (by rw [hf]; exact List.mem_cons_self))
    have hdot : stripDot ((a :: l).map digitChar
        ++ '.' :: (wholeDigits (amount / 10 ^ decimals)).map digitChar)
        = (a :: l).map digitChar
          ++ '.' :: (wholeDigits (amount / 10 ^ decimals)).map digitChar := by
      rw [List.map_cons, List.cons_append, stripDot]
      intro out h
      exact digitChar_ne_dot ha (List.cons.inj h).1
    rw [hf, hdot]
    simp

theorem numeral_mem {amount decimals : ℕ} {c : Char} (hc : c ∈ numeral amount decimals) :
    c = '.' ∨ ∃ a < 10, c = digitChar a := by
  have hwhole : ∀ a ∈ wholeDigits (amount / 10 ^ decimals), a < 10 := wholeDigits_lt
  rcases List.mem_append.mp hc with h | h
  · obtain ⟨a, ha, rfl⟩ := List.mem_map.mp h
    exact .inr ⟨a, hwhole a (List.mem_reverse.mp ha), rfl⟩
  · split at h
    · exact absurd h List.not_mem_nil
    · rcases List.mem_cons.mp h with h | h
      · exact .inl h
      · obtain ⟨a, ha, rfl⟩ := List.mem_map.mp h
        exact .inr ⟨a, fracDigits_lt a ((List.dropWhile_suffix _).subset
          (List.mem_reverse.mp ha)), rfl⟩

theorem nul_notMem_numeral (amount decimals : ℕ) : nul ∉ numeral amount decimals := fun h => by
  rcases numeral_mem h with h | ⟨a, ha, h⟩
  · exact absurd h (by decide)
  · exact digitChar_ne_nul ha h.symm

theorem space_notMem_numeral (amount decimals : ℕ) : ' ' ∉ numeral amount decimals := fun h => by
  rcases numeral_mem h with h | ⟨a, ha, h⟩
  · exact absurd h (by decide)
  · exact digitChar_ne_space ha h.symm

/-! ## What is printed -/

/-- The text of an amount: the numeral, then a space and the asset. -/
def amountText (amount decimals : ℕ) (asset : List Char) : List Char :=
  numeral amount decimals ++ ' ' :: asset

/-- **When `print_token_amount` succeeds.**  The whole text and the final one must both fit. -/
theorem printTokenAmount_ok_iff {amount : UInt64} {asset : CString} {decimals : UInt8}
    {outLength : ℕ} (h : 1 < outLength) :
    (printTokenAmount amount (some asset) decimals outLength).ret = .ok () ↔
      outLength ≤ 2147483647 ∧
      (rawNumeral amount.toNat decimals.toNat).length < outLength ∧
      (amountText amount.toNat decimals.toNat asset.chars).length < outLength := by
  have hloop := tokenAmountLoop_eq amount.toNat decimals.toNat h
  rw [printTokenAmount, if_pos h]
  by_cases hmax : outLength > 2147483647
  · rw [if_pos hmax]
    simp
    omega
  rw [if_neg hmax]
  unfold LoopSpec at hloop
  by_cases hraw : (rawNumeral amount.toNat decimals.toNat).length < outLength
  · rw [if_pos hraw] at hloop
    have hne : rawNumeral amount.toNat decimals.toNat ≠ [] := fun he => by
      have := length_rawNumeral_gt amount.toNat decimals.toNat
      rw [he] at this
      simp at this
    simp only [hloop, Bool.not_true, Bool.false_or, ge_iff_le, decide_eq_true_eq,
      if_neg (show ¬outLength ≤ (rawNumeral amount.toNat decimals.toNat).length by omega),
      if_neg hne, strip_rawNumeral]
    split
    · simp [amountText]
      omega
    · simp [amountText]
      omega
  · rw [if_neg hraw] at hloop
    have hbail : (!(tokenAmountLoop outLength decimals.toNat outLength amount.toNat []).2 ||
        decide ((tokenAmountLoop outLength decimals.toNat outLength amount.toNat []).1.length
          ≥ outLength)) = true := by
      rcases hloop with h | h <;> simp [h]
    rw [if_pos hbail]
    simp [hraw]

/-- **What `print_token_amount` prints when it succeeds.** -/
theorem textOf_printTokenAmount {amount : UInt64} {asset : CString} {decimals : UInt8}
    {outLength : ℕ} (h : 1 < outLength)
    (hok : (printTokenAmount amount (some asset) decimals outLength).ret = .ok ())
    (buffer : List Char) :
    textOf (overlay (printTokenAmount amount (some asset) decimals outLength).written buffer)
      = amountText amount.toNat decimals.toNat asset.chars := by
  obtain ⟨hmax, hraw, hfits⟩ := (printTokenAmount_ok_iff h).mp hok
  have hloop := tokenAmountLoop_eq amount.toNat decimals.toNat h
  rw [LoopSpec, if_pos hraw] at hloop
  have hnul : nul ∉ amountText amount.toNat decimals.toNat asset.chars := by
    simp only [amountText, List.mem_append, List.mem_cons, not_or]
    exact ⟨nul_notMem_numeral _ _, by decide, asset.noNul⟩
  have hne : rawNumeral amount.toNat decimals.toNat ≠ [] := fun he => by
    have := length_rawNumeral_gt amount.toNat decimals.toNat
    rw [he] at this
    simp at this
  have htext : (printTokenAmount amount (some asset) decimals outLength).written
      = overlay (amountText amount.toNat decimals.toNat asset.chars ++ [nul])
        (rawNumeral amount.toNat decimals.toNat).reverse := by
    have hlen : ¬(numeral amount.toNat decimals.toNat).length + 1 + asset.chars.length + 1
        > outLength := by
      simp only [amountText, List.length_append, List.length_cons] at hfits
      omega
    rw [printTokenAmount, if_neg (by omega), if_pos h]
    simp only [hloop, Bool.not_true, Bool.false_or, ge_iff_le, decide_eq_true_eq,
      if_neg (show ¬outLength ≤ (rawNumeral amount.toNat decimals.toNat).length by omega),
      if_neg hne, strip_rawNumeral, if_neg hlen, amountText]
  rw [htext, overlay, overlay, List.append_assoc, List.append_assoc, List.singleton_append,
    textOf_append_nul hnul]

/-- **An amount of SOL always fits** a buffer of 26 characters. -/
theorem printAmount_ok_of_lt (amount : UInt64) {outLength : ℕ} (h : 25 < outLength)
    (hmax : outLength ≤ 2147483647) : (printAmount amount outLength).ret = .ok () := by
  have hwhole : (wholeDigits (amount.toNat / 10 ^ 9)).length ≤ 11 := by
    unfold wholeDigits
    split
    · simp
    · rw [Nat.digits_length_le_iff (by omega)]
      have := amount.toNat_lt
      omega
  have hfrac : (shownFrac amount.toNat 9).length ≤ 9 := by
    rw [shownFrac, List.length_reverse]
    exact (List.dropWhile_suffix _).length_le.trans (length_fracDigits _ _).le
  refine (printTokenAmount_ok_iff (by omega)).mpr ⟨hmax, ?_, ?_⟩
  · simp only [rawNumeral, List.length_append, List.length_map, length_fracDigits,
      List.length_cons]
    have : (9 : UInt8).toNat = 9 := rfl
    rw [this]
    omega
  · have h9 : (9 : UInt8).toNat = 9 := rfl
    have hnum : (numeral amount.toNat 9).length ≤ 21 := by
      rw [numeral, List.length_append, List.length_map, List.length_reverse]
      split
      · rw [List.length_nil]
        omega
      · rw [List.length_cons, List.length_map]
        omega
    have hsol : (CString.lit "SOL").chars.length = 3 := rfl
    rw [amountText, List.length_append, List.length_cons, h9, hsol]
    omega

/-- **An amount of SOL always fits the text buffer.** -/
theorem printAmount_ok (amount : UInt64) : (printAmount amount 45).ret = .ok () :=
  printAmount_ok_of_lt amount (by decide) (by decide)

/-- Nothing is printed without room for a character and the `NUL`. -/
theorem one_lt_of_printTokenAmount_ok {amount : UInt64} {asset : Option CString} {decimals : UInt8}
    {outLength : ℕ} (h : (printTokenAmount amount asset decimals outLength).ret = .ok ()) :
    1 < outLength := by
  by_contra hle
  rw [printTokenAmount] at h
  split at h
  · cases h
  · simp only [Bool.not_true, Bool.false_or, decide_eq_true_eq] at h
    split at h
    · cases h
    · cases h

/-! ## The numeral determines the amount -/

/-- The digits shown after the dot carry the fraction: as many as are shown of `decimals`. -/
theorem ofDigits_shownFrac (amount decimals : ℕ) :
    (shownFrac amount decimals).length ≤ decimals ∧
      Nat.ofDigits 10 (shownFrac amount decimals).reverse
          * 10 ^ (decimals - (shownFrac amount decimals).length)
        = amount % 10 ^ decimals := by
  rw [shownFrac, List.reverse_reverse, List.length_reverse, ← ofDigits_fracDigits]
  have hlen := length_fracDigits amount decimals
  generalize fracDigits amount decimals = frac at hlen
  subst hlen
  induction frac with
  | nil => simp
  | cons a l ih =>
      by_cases h0 : a = 0
      · rw [List.dropWhile_cons_of_pos (by simpa using h0), Nat.ofDigits_cons, h0, Nat.zero_add,
          List.length_cons, ← ih.2, Nat.succ_sub ih.1, pow_succ]
        exact ⟨ih.1.trans (Nat.le_succ _), by ring⟩
      · rw [List.dropWhile_cons_of_neg (by simpa using h0)]
        simp

/-- The part of a numeral before the dot. -/
theorem takeWhile_numeral (amount decimals : ℕ) :
    (numeral amount decimals).takeWhile (· ≠ '.')
      = (wholeDigits (amount / 10 ^ decimals)).reverse.map digitChar := by
  have hwhole : ∀ c ∈ (wholeDigits (amount / 10 ^ decimals)).reverse.map digitChar,
      (decide (c ≠ '.')) = true := by
    intro c hc
    obtain ⟨a, ha, rfl⟩ := List.mem_map.mp hc
    simpa using digitChar_ne_dot (wholeDigits_lt a (List.mem_reverse.mp ha))
  rw [numeral, List.takeWhile_append_of_pos hwhole]
  split <;> simp

/-- The part of a numeral behind the dot. -/
theorem drop_numeral (amount decimals : ℕ) :
    (numeral amount decimals).drop ((wholeDigits (amount / 10 ^ decimals)).length + 1)
      = (shownFrac amount decimals).map digitChar := by
  rw [numeral, List.drop_append]
  have hlen : ((wholeDigits (amount / 10 ^ decimals)).reverse.map digitChar).length
      = (wholeDigits (amount / 10 ^ decimals)).length := by simp
  rw [hlen, List.drop_of_length_le (by rw [hlen]; omega), Nat.add_sub_cancel_left,
    List.nil_append]
  split
  · simp_all
  · simp

theorem map_digitChar_inj {l m : List ℕ} (hl : ∀ a ∈ l, a < 10) (hm : ∀ a ∈ m, a < 10)
    (h : l.map digitChar = m.map digitChar) : l = m := by
  induction l generalizing m with
  | nil => simpa [eq_comm] using h
  | cons a l ih =>
      obtain _ | ⟨b, m⟩ := m
      · simp at h
      · simp only [List.map_cons, List.cons.injEq] at h
        rw [digitChar_inj (hl a List.mem_cons_self) (hm b List.mem_cons_self) h.1,
          ih (fun c hc => hl c (List.mem_cons_of_mem a hc))
            (fun c hc => hm c (List.mem_cons_of_mem b hc)) h.2]

/-- **Equal numerals, equal amounts**, as rationals. -/
theorem numeral_inj {a da b db : ℕ} (h : numeral a da = numeral b db) :
    a * 10 ^ db = b * 10 ^ da := by
  have hwhole : wholeDigits (a / 10 ^ da) = wholeDigits (b / 10 ^ db) := by
    have hmap := (takeWhile_numeral a da).symm.trans
      ((congrArg (List.takeWhile (· ≠ '.')) h).trans (takeWhile_numeral b db))
    exact List.reverse_injective (map_digitChar_inj
      (fun c hc => wholeDigits_lt c (List.mem_reverse.mp hc))
      (fun c hc => wholeDigits_lt c (List.mem_reverse.mp hc)) hmap)
  have hfrac : shownFrac a da = shownFrac b db := by
    have hmap := drop_numeral a da
    rw [h, hwhole, drop_numeral b db] at hmap
    exact (map_digitChar_inj
      (fun c hc => fracDigits_lt c ((List.dropWhile_suffix _).subset (List.mem_reverse.mp hc)))
      (fun c hc => fracDigits_lt c ((List.dropWhile_suffix _).subset (List.mem_reverse.mp hc)))
      hmap).symm
  have hq : a / 10 ^ da = b / 10 ^ db := by
    rw [← ofDigits_wholeDigits (a / 10 ^ da), hwhole, ofDigits_wholeDigits]
  obtain ⟨hla, hra⟩ := ofDigits_shownFrac a da
  obtain ⟨hlb, hrb⟩ := ofDigits_shownFrac b db
  rw [← hfrac] at hlb hrb
  set k := (shownFrac a da).length
  -- the common fraction, scaled to either number of decimals
  have hmod : a % 10 ^ da * 10 ^ db = b % 10 ^ db * 10 ^ da := by
    rw [← hra, ← hrb, Nat.mul_assoc, Nat.mul_assoc, ← pow_add, ← pow_add]
    congr 2
    omega
  calc a * 10 ^ db
      = (10 ^ da * (a / 10 ^ da) + a % 10 ^ da) * 10 ^ db := by rw [Nat.div_add_mod]
    _ = 10 ^ da * 10 ^ db * (a / 10 ^ da) + a % 10 ^ da * 10 ^ db := by ring
    _ = 10 ^ da * 10 ^ db * (b / 10 ^ db) + b % 10 ^ db * 10 ^ da := by rw [hq, hmod]
    _ = (10 ^ db * (b / 10 ^ db) + b % 10 ^ db) * 10 ^ da := by ring
    _ = b * 10 ^ da := by rw [Nat.div_add_mod]

/-- The two parts of a text around its first space. -/
theorem append_space_inj {l m l' m' : List Char} (hl : ' ' ∉ l) (hl' : ' ' ∉ l')
    (h : l ++ ' ' :: m = l' ++ ' ' :: m') : l = l' ∧ m = m' := by
  have hne : ∀ {x : List Char}, ' ' ∉ x → ∀ c ∈ x, (decide (c ≠ ' ')) = true := fun hx c hc => by
    simpa using ne_of_mem_of_not_mem hc hx
  have htake := congrArg (List.takeWhile (· ≠ ' ')) h
  have hdrop := congrArg (List.dropWhile (· ≠ ' ')) h
  rw [List.takeWhile_append_of_pos (hne hl), List.takeWhile_append_of_pos (hne hl')] at htake
  rw [List.dropWhile_append_of_pos (hne hl), List.dropWhile_append_of_pos (hne hl')] at hdrop
  exact ⟨by simpa using htake, by simpa using hdrop⟩

/-- **Equal texts, equal amounts and assets.** -/
theorem amountText_inj {a da b db : ℕ} {s t : List Char}
    (h : amountText a da s = amountText b db t) : a * 10 ^ db = b * 10 ^ da ∧ s = t := by
  obtain ⟨hnum, hasset⟩ := append_space_inj (space_notMem_numeral a da)
    (space_notMem_numeral b db) h
  exact ⟨numeral_inj hnum, hasset⟩

theorem fracDigits_mul_ten (amount decimals : ℕ) :
    fracDigits (amount * 10) (decimals + 1) = 0 :: fracDigits amount decimals := by
  have hshift : ∀ j, amount * 10 / 10 ^ (j + 1) = amount / 10 ^ j := fun j => by
    rw [pow_succ, Nat.mul_div_mul_right _ _ (by decide)]
  simp [fracDigits, List.range_succ_eq_map, Function.comp_def, hshift]

/-- One more decimal, and a zero there, leave the numeral as it is. -/
theorem numeral_mul_ten (amount decimals : ℕ) :
    numeral (amount * 10) (decimals + 1) = numeral amount decimals := by
  have hshown : shownFrac (amount * 10) (decimals + 1) = shownFrac amount decimals := by
    rw [shownFrac, fracDigits_mul_ten, List.dropWhile_cons_of_pos (by simp), shownFrac]
  rw [numeral, hshown, pow_succ, Nat.mul_div_mul_right _ _ (by decide), numeral]

theorem numeral_mul_pow (amount decimals k : ℕ) :
    numeral (amount * 10 ^ k) (decimals + k) = numeral amount decimals := by
  induction k with
  | zero => rw [pow_zero, Nat.mul_one, Nat.add_zero]
  | succ k ih => rw [pow_succ, ← Nat.mul_assoc, ← Nat.add_assoc, numeral_mul_ten, ih]

/-- **Equal amounts, equal numerals**, of whatever decimals. -/
theorem numeral_eq_iff {a da b db : ℕ} :
    numeral a da = numeral b db ↔ a * 10 ^ db = b * 10 ^ da := by
  refine ⟨numeral_inj, fun h => ?_⟩
  have hle : ∀ {a da b db : ℕ}, da ≤ db → a * 10 ^ db = b * 10 ^ da →
      numeral a da = numeral b db := fun {a da b db} hle h => by
    obtain ⟨k, rfl⟩ := Nat.exists_eq_add_of_le hle
    rw [pow_add, Nat.mul_comm (10 ^ da), ← Nat.mul_assoc] at h
    rw [← Nat.eq_of_mul_eq_mul_right (by positivity) h, numeral_mul_pow]
  rcases Nat.le_total da db with hda | hdb
  · exact hle hda h
  · exact (hle hdb h.symm).symm

/-! ## Comparing two amounts -/

theorem digitChar_gt {a b : ℕ} (ha : a < 10) (hb : b < 10) :
    (digitChar a > digitChar b) ↔ a > b := by
  have hall : ∀ a < 10, ∀ b < 10, (digitChar a > digitChar b) ↔ a > b := by decide
  exact hall a ha b hb

/-- Digits in a row pass the validation. -/
theorem validateNumericLoop_digits {l : List ℕ} (hl : ∀ a ∈ l, a < 10) (numLen i dotPos : ℕ)
    (hasDot : Bool) (rest : List Char) :
    validateNumericLoop numLen i dotPos hasDot (l.map digitChar ++ rest)
      = validateNumericLoop numLen (i + l.length) dotPos hasDot rest := by
  induction l generalizing i with
  | nil => rfl
  | cons a l ih =>
      have hrange : ∀ a < 10, ¬(digitChar a < '0' ∨ digitChar a > '9') := by decide
      have ha : a < 10 := hl a List.mem_cons_self
      rw [List.map_cons, List.cons_append, validateNumericLoop, if_neg (digitChar_ne_dot ha),
        if_neg (by simpa using hrange a ha), ih fun b hb => hl b (List.mem_cons_of_mem a hb),
        List.length_cons, Nat.add_assoc, Nat.add_comm 1]

/-- **A printed numeral is a valid one**, with its dot behind the whole part. -/
theorem validateNumericPart_numeral (amount decimals : ℕ) :
    validateNumericPart (numeral amount decimals)
      = some (wholeDigits (amount / 10 ^ decimals)).length := by
  have hwhole : ∀ a ∈ (wholeDigits (amount / 10 ^ decimals)).reverse, a < 10 := fun a ha =>
    wholeDigits_lt a (List.mem_reverse.mp ha)
  have hpos := List.length_pos_iff.mpr (wholeDigits_ne_nil (amount / 10 ^ decimals))
  have hfrac : ∀ a ∈ shownFrac amount decimals, a < 10 := fun a ha =>
    fracDigits_lt a ((List.dropWhile_suffix _).subset (List.mem_reverse.mp ha))
  have hlen : (numeral amount decimals).length ≠ 0 := by
    rw [numeral, List.length_append, List.length_map, List.length_reverse]
    omega
  rw [validateNumericPart, if_neg hlen]
  unfold numeral at hlen ⊢
  rw [validateNumericLoop_digits hwhole, Nat.zero_add, List.length_reverse]
  split
  · simp [validateNumericLoop]
  · rename_i hne
    have hfl := List.length_pos_iff.mpr hne
    have hmid : ¬((false || decide ((wholeDigits (amount / 10 ^ decimals)).length = 0) ||
        decide ((wholeDigits (amount / 10 ^ decimals)).length
          = ((wholeDigits (amount / 10 ^ decimals)).reverse.map digitChar
            ++ '.' :: (shownFrac amount decimals).map digitChar).length - 1)) = true) := by
      simp only [List.length_append, List.length_map, List.length_reverse, List.length_cons,
        Bool.false_or, Bool.or_eq_true, decide_eq_true_eq]
      omega
    rw [validateNumericLoop, if_pos rfl, if_neg hmid,
      ← List.append_nil ((shownFrac amount decimals).map digitChar),
      validateNumericLoop_digits hfrac, validateNumericLoop]

/-- The digit loops compare the values of equally long digit strings. -/
theorem compareDigits_eq {l m : List ℕ} (hlen : l.length = m.length) (hl : ∀ a ∈ l, a < 10)
    (hm : ∀ a ∈ m, a < 10) :
    compareDigits (l.map digitChar) (m.map digitChar)
      = if value 10 l = value 10 m then none else some (decide (value 10 l > value 10 m)) := by
  induction l generalizing m with
  | nil =>
      obtain rfl := List.length_eq_zero_iff.mp hlen.symm
      rfl
  | cons a l ih =>
      obtain _ | ⟨b, m⟩ := m
      · simp at hlen
      have hlen' : l.length = m.length := by simpa using hlen
      have hla := fun c hc => hl c (List.mem_cons_of_mem a hc)
      have hmb := fun c hc => hm c (List.mem_cons_of_mem b hc)
      have hvl : value 10 l < 10 ^ m.length := hlen' ▸ value_lt (by omega) hla
      have hvm : value 10 m < 10 ^ m.length := value_lt (by omega) hmb
      simp only [List.map_cons, compareDigits, value_cons, hlen']
      by_cases hab : a = b
      · subst hab
        simp only [ne_eq, not_true_eq_false, if_false, ih hlen' hla hmb, Nat.add_left_cancel_iff,
          gt_iff_lt, Nat.add_lt_add_iff_left]
      · have hne : digitChar a ≠ digitChar b := fun h =>
          hab (digitChar_inj (hl a List.mem_cons_self) (hm b List.mem_cons_self) h)
        have hgt := digitChar_gt (hl a List.mem_cons_self) (hm b List.mem_cons_self)
        rw [if_pos hne]
        rcases Nat.lt_or_gt_of_ne hab with h | h
        · have : (a + 1) * 10 ^ m.length ≤ b * 10 ^ m.length := Nat.mul_le_mul_right _ h
          rw [Nat.add_mul, Nat.one_mul] at this
          rw [if_neg (by omega)]
          simp only [hgt]
          congr 1
          rw [decide_eq_false (by omega), decide_eq_false (by omega)]
        · have : (b + 1) * 10 ^ m.length ≤ a * 10 ^ m.length := Nat.mul_le_mul_right _ h
          rw [Nat.add_mul, Nat.one_mul] at this
          rw [if_neg (by omega)]
          simp only [hgt]
          congr 1
          rw [decide_eq_true (by omega), decide_eq_true (by omega)]

/-- A larger whole part is a larger amount. -/
theorem amount_lt_of_whole_lt {a da b db : ℕ} (h : a / 10 ^ da < b / 10 ^ db) :
    a * 10 ^ db < b * 10 ^ da := by
  have hda : 0 < 10 ^ da := by positivity
  have hdb : 0 < 10 ^ db := by positivity
  calc a * 10 ^ db < 10 ^ da * (a / 10 ^ da + 1) * 10 ^ db :=
        (Nat.mul_lt_mul_right hdb).mpr (Nat.lt_mul_div_succ a hda)
    _ ≤ 10 ^ da * (b / 10 ^ db) * 10 ^ db :=
        Nat.mul_le_mul_right _ (Nat.mul_le_mul_left _ h)
    _ = 10 ^ db * (b / 10 ^ db) * 10 ^ da := by ring
    _ ≤ b * 10 ^ da := Nat.mul_le_mul_right _ (Nat.mul_div_le b _)

/-- A longer whole part is a larger one. -/
theorem whole_lt_of_length_lt {q r : ℕ}
    (h : (wholeDigits q).length < (wholeDigits r).length) : q < r := by
  by_contra hle
  have hlen : ∀ {q r : ℕ}, q ≤ r → (wholeDigits q).length ≤ (wholeDigits r).length := by
    intro q r hqr
    unfold wholeDigits
    split
    · split
      · simp
      · exact List.length_pos_iff.mpr (Nat.digits_ne_nil_iff_ne_zero.mpr ‹_›)
    · rw [if_neg (by omega)]
      exact Nat.le_length_digits_le 10 q r hqr
  have := hlen (Nat.not_lt.mp hle)
  omega

/-- The padded fraction, scaled. -/
theorem value_paddedFrac (amount decimals n : ℕ) (hn : (shownFrac amount decimals).length ≤ n) :
    value 10 (shownFrac amount decimals
        ++ List.replicate (n - (shownFrac amount decimals).length) 0) * 10 ^ decimals
      = amount % 10 ^ decimals * 10 ^ n := by
  obtain ⟨hl, hr⟩ := ofDigits_shownFrac amount decimals
  have hzeros : value 10 (List.replicate (n - (shownFrac amount decimals).length) 0) = 0 := by
    rw [value, List.reverse_replicate, Nat.ofDigits_replicate_zero]
  rw [value_append, hzeros, List.length_replicate, Nat.add_zero, ← hr, value]
  set k := (shownFrac amount decimals).length
  rw [Nat.mul_assoc, Nat.mul_assoc, ← pow_add, ← pow_add]
  congr 2
  omega

/-- With equal whole parts, the padded fractions order the amounts. -/
theorem value_paddedFrac_le_iff {a da b db n : ℕ} (hq : a / 10 ^ da = b / 10 ^ db)
    (ha : (shownFrac a da).length ≤ n) (hb : (shownFrac b db).length ≤ n) :
    value 10 (shownFrac b db ++ List.replicate (n - (shownFrac b db).length) 0)
        ≤ value 10 (shownFrac a da ++ List.replicate (n - (shownFrac a da).length) 0)
      ↔ b * 10 ^ da ≤ a * 10 ^ db := by
  have hva := value_paddedFrac a da n ha
  have hvb := value_paddedFrac b db n hb
  set va := value 10 (shownFrac a da ++ List.replicate (n - (shownFrac a da).length) 0)
  set vb := value 10 (shownFrac b db ++ List.replicate (n - (shownFrac b db).length) 0)
  have hscale : 0 < 10 ^ da * 10 ^ db := by positivity
  have hn : 0 < 10 ^ n := by positivity
  have hsplit : ∀ x d e : ℕ,
      x * 10 ^ e = 10 ^ d * 10 ^ e * (x / 10 ^ d) + x % 10 ^ d * 10 ^ e := fun x d e => by
    conv_lhs => rw [← Nat.div_add_mod x (10 ^ d)]
    ring
  rw [hsplit a da db, hsplit b db da, hq, Nat.mul_comm (10 ^ db), Nat.add_le_add_iff_left,
    ← Nat.mul_le_mul_right_iff hscale]
  have hla : va * (10 ^ da * 10 ^ db) = a % 10 ^ da * 10 ^ db * 10 ^ n := by
    rw [← Nat.mul_assoc, hva]
    ring
  have hlb : vb * (10 ^ da * 10 ^ db) = b % 10 ^ db * 10 ^ da * 10 ^ n := by
    rw [Nat.mul_comm (10 ^ da), ← Nat.mul_assoc, hvb]
    ring
  rw [hla, hlb]
  exact Nat.mul_le_mul_right_iff hn

/-- **The comparison of two printed amounts compares the amounts**, as rationals. -/
theorem amountAsStringIsGreaterOrEqual_iff {a da b db : ℕ} {asset : List Char}
    (hasset : asset ≠ []) :
    amountAsStringIsGreaterOrEqual (amountText a da asset) (amountText b db asset) = true ↔
      b * 10 ^ da ≤ a * 10 ^ db := by
  have hne : ∀ x d : ℕ, ∀ c ∈ numeral x d, (decide (c ≠ ' ')) = true := fun x d c hc => by
    simpa using ne_of_mem_of_not_mem hc (space_notMem_numeral x d)
  have htake : ∀ x d : ℕ, (amountText x d asset).takeWhile (· ≠ ' ') = numeral x d := fun x d => by
    rw [amountText, List.takeWhile_append_of_pos (hne x d)]
    simp
  have hdrop : ∀ x d : ℕ, (amountText x d asset).dropWhile (· ≠ ' ') = ' ' :: asset :=
    fun x d => by
      rw [amountText, List.dropWhile_append_of_pos (hne x d)]
      simp
  have hwhole : ∀ x d : ℕ, (numeral x d).take (wholeDigits (x / 10 ^ d)).length
      = (wholeDigits (x / 10 ^ d)).reverse.map digitChar := fun x d => by
    rw [numeral, List.take_append_of_le_length (by simp), List.take_of_length_le (by simp)]
  have hpad : ∀ x d n : ℕ, (shownFrac x d).map digitChar
      ++ List.replicate (n - (shownFrac x d).length) '0'
      = (shownFrac x d ++ List.replicate (n - (shownFrac x d).length) 0).map digitChar :=
    fun x d n => by
      rw [List.map_append, List.map_replicate]
      rfl
  simp only [amountAsStringIsGreaterOrEqual, htake, hdrop, validateNumericPart_numeral,
    drop_numeral, hpad, List.length_map]
  rw [if_neg (by simp [hasset]), if_neg (by simp)]
  by_cases hlen : (wholeDigits (a / 10 ^ da)).length = (wholeDigits (b / 10 ^ db)).length
  · rw [if_neg (by simpa using hlen), hwhole, hlen, hwhole,
      compareDigits_eq (by simpa using hlen) (fun c hc => wholeDigits_lt c (List.mem_reverse.mp hc))
        (fun c hc => wholeDigits_lt c (List.mem_reverse.mp hc))]
    simp only [value, List.reverse_reverse, ofDigits_wholeDigits]
    by_cases hq : a / 10 ^ da = b / 10 ^ db
    · set n := max (shownFrac a da).length (shownFrac b db).length
      have hna : (shownFrac a da).length ≤ n := le_max_left _ _
      have hnb : (shownFrac b db).length ≤ n := le_max_right _ _
      have hdigits : ∀ x d : ℕ, ∀ c ∈ shownFrac x d
          ++ List.replicate (n - (shownFrac x d).length) 0, c < 10 := fun x d c hc => by
        rcases List.mem_append.mp hc with h | h
        · exact fracDigits_lt c ((List.dropWhile_suffix _).subset (List.mem_reverse.mp h))
        · rw [(List.mem_replicate.mp h).2]
          omega
      have hpadded : (shownFrac a da ++ List.replicate (n - (shownFrac a da).length) 0).length
          = (shownFrac b db ++ List.replicate (n - (shownFrac b db).length) 0).length := by
        simp only [List.length_append, List.length_replicate]
        omega
      simp only [if_pos hq]
      rw [compareDigits_eq hpadded (hdigits a da) (hdigits b db),
        ← value_paddedFrac_le_iff hq hna hnb]
      by_cases hv : value 10 (shownFrac a da ++ List.replicate (n - (shownFrac a da).length) 0)
          = value 10 (shownFrac b db ++ List.replicate (n - (shownFrac b db).length) 0)
      · rw [if_pos hv]
        simp only [Option.getD_none, true_iff]
        omega
      · rw [if_neg hv]
        simp only [Option.getD_some, gt_iff_lt, decide_eq_true_eq]
        omega
    · rw [if_neg hq]
      simp only [gt_iff_lt, decide_eq_true_eq]
      rcases Nat.lt_or_gt_of_ne hq with h | h
      · have := amount_lt_of_whole_lt h
        omega
      · have := amount_lt_of_whole_lt h
        omega
  · rw [if_pos (by simpa using hlen)]
    simp only [gt_iff_lt, decide_eq_true_eq]
    rcases Nat.lt_or_gt_of_ne hlen with h | h
    · have := amount_lt_of_whole_lt (whole_lt_of_length_lt h)
      omega
    · have := amount_lt_of_whole_lt (whole_lt_of_length_lt h)
      omega

/-- Texts with different assets are not compared. -/
theorem amountAsStringIsGreaterOrEqual_ne {a da b db : ℕ} {s t : List Char} (h : s ≠ t) :
    amountAsStringIsGreaterOrEqual (amountText a da s) (amountText b db t) = false := by
  have hne : ∀ x d : ℕ, ∀ c ∈ numeral x d, (decide (c ≠ ' ')) = true := fun x d c hc => by
    simpa using ne_of_mem_of_not_mem hc (space_notMem_numeral x d)
  have hdrop : ∀ (x d : ℕ) (asset : List Char),
      (amountText x d asset).dropWhile (· ≠ ' ') = ' ' :: asset := fun x d asset => by
    rw [amountText, List.dropWhile_append_of_pos (hne x d)]
    simp
  simp only [amountAsStringIsGreaterOrEqual, hdrop]
  split <;> rfl

end AgencLedger
