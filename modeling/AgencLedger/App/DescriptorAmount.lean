import AgencLedger.App.SafeMath
import AgencLedger.Library.Digits

/-!
# App/DescriptorAmount — which amounts a descriptor lets pass

A descriptor says where the amount of an instruction stands, in which order its bytes come, and
whether it is the amount of the swap or a part of it, in basis points.  The part is computed in two
halves of 64-bit arithmetic, with checks against overflow; the amounts that pass are those that
exact arithmetic lets pass.
-/

namespace AgencLedger

open Positional

/-! ## Basis points -/

/-- **The cap is the exact quotient**, where that fits. -/
theorem safeMulBpsDiv10000_eq_some_iff (a : UInt64) (b : UInt16) (cap : UInt64) :
    safeMulBpsDiv10000 a b = some cap ↔ a.toNat * b.toNat / 10000 = cap.toNat := by
  rw [safeMulBpsDiv10000_of_exact (safeMulBpsDiv10000Exact_eq a b)]
  constructor
  · intro h
    obtain ⟨hfits, hcap⟩ := Option.ite_none_right_eq_some.mp h
    rw [← Option.some.inj hcap, UInt64.toNat_ofNat_of_lt' hfits]
  · intro h
    have hcap := cap.toNat_lt
    rw [h, if_pos hcap, UInt64.ofNat_toNat]

/-- **The amounts within the cap** are those that exact arithmetic lets pass. -/
theorem exists_cap_iff (swapAmount amount : UInt64) (bps : UInt16) :
    (∃ cap, safeMulBpsDiv10000 swapAmount bps = some cap ∧ amount ≤ cap) ↔
      swapAmount.toNat * bps.toNat / 10000 < 2 ^ 64 ∧
        amount.toNat * 10000 ≤ swapAmount.toNat * bps.toNat := by
  constructor
  · rintro ⟨cap, hcap, hle⟩
    rw [safeMulBpsDiv10000_eq_some_iff] at hcap
    have hlt := cap.toNat_lt
    have hle := UInt64.le_iff_toNat_le.mp hle
    omega
  · rintro ⟨hfits, hle⟩
    refine ⟨UInt64.ofNat (swapAmount.toNat * bps.toNat / 10000), ?_, ?_⟩
    · rw [safeMulBpsDiv10000_eq_some_iff, UInt64.toNat_ofNat_of_lt' hfits]
    · rw [UInt64.le_iff_toNat_le, UInt64.toNat_ofNat_of_lt' hfits]
      omega

/-! ## Bytes -/

/-- **Up to eight bytes** are read without loss. -/
theorem toNat_u8be {bytes : List UInt8} (h : bytes.length ≤ 8) :
    (u8be bytes).toNat = value 256 (bytes.map UInt8.toNat) := by
  have hfold : ∀ (bytes : List UInt8) (acc : UInt64) (k : ℕ), acc.toNat < 256 ^ k →
      k + bytes.length ≤ 8 →
      (bytes.foldl (fun (v : UInt64) b => v <<< 8 ||| b.toUInt64) acc).toNat
        = acc.toNat * 256 ^ bytes.length + value 256 (bytes.map UInt8.toNat) := by
    intro bytes
    induction bytes with
    | nil => intro acc k _ _; simp
    | cons b bytes ih =>
        intro acc k hacc hlen
        rw [List.length_cons] at hlen
        have hb := b.toNat_lt
        have hacc7 : acc.toNat < 256 ^ 7 :=
          hacc.trans_le (Nat.pow_le_pow_right (by omega) (by omega))
        have hstep : (acc <<< 8 ||| b.toUInt64).toNat = acc.toNat * 256 + b.toNat := by
          rw [UInt64.toNat_or, UInt64.toNat_shiftLeft, UInt8.toNat_toUInt64,
            show (8 : UInt64).toNat % 64 = 8 from rfl, Nat.mod_eq_of_lt
              (by rw [Nat.shiftLeft_eq]; omega), ← Nat.shiftLeft_add_eq_or_of_lt hb,
                Nat.shiftLeft_eq]
        have hlt : (acc <<< 8 ||| b.toUInt64).toNat < 256 ^ (k + 1) := by
          rw [hstep, pow_succ]
          omega
        rw [List.foldl_cons, ih _ (k + 1) hlt (by omega), hstep, List.map_cons, value_cons,
          List.length_map, List.length_cons, pow_succ]
        ring
  rw [u8be, hfold bytes 0 0 (by decide) (by omega), UInt64.toNat_zero, Nat.zero_mul, Nat.zero_add]

/-! ## The amount of a descriptor -/

namespace InstructionDescriptor

/-- Where the amount starts in data of a length: counted from the start, or back from the end. -/
def StartsAt (descriptor : InstructionDescriptor) (dataLength offset : ℕ) : Prop :=
  if descriptor.amountRulesNegativeOffset then offset + descriptor.amountOffset.toNat = dataLength
  else offset = descriptor.amountOffset.toNat

/-- The value of the bytes of an amount. -/
def amountValue (descriptor : InstructionDescriptor) (bytes : List UInt8) : ℕ :=
  value 256 ((if descriptor.amountRulesBigEndian then bytes else bytes.reverse).map UInt8.toNat)

/-- The value is the amount of the swap, or at most the part of it that the descriptor names. -/
def Lets (descriptor : InstructionDescriptor) (swapAmount : UInt64) (v : ℕ) : Prop :=
  match descriptor.cappedAmountBps with
  | some bps =>
      swapAmount.toNat * bps.toNat / 10000 < 2 ^ 64 ∧ v * 10000 ≤ swapAmount.toNat * bps.toNat
  | none => v = swapAmount.toNat

variable {descriptor : InstructionDescriptor} {instruction : Instruction} {swap : SwapValidated}

/-- Up to eight bytes have the value of a machine word. -/
theorem exists_amountValue (descriptor : InstructionDescriptor) {bytes : List UInt8}
    (h : bytes.length ≤ 8) : ∃ amount : UInt64, amount.toNat = descriptor.amountValue bytes := by
  refine ⟨u8be (if descriptor.amountRulesBigEndian then bytes else bytes.reverse), toNat_u8be ?_⟩
  split
  · exact h
  · rwa [List.length_reverse]

/-- The slice at an offset is read if it lies inside the data and has at most eight bytes. -/
theorem readSlice_eq_some_iff {data : List UInt8} {offset : ℕ} {amount : UInt64} :
    (if offset + descriptor.amountSize.toNat > data.length then none
      else if descriptor.amountSize.toNat > 8 then none
      else some (u8be (if descriptor.amountRulesBigEndian
        then (data.drop offset).take descriptor.amountSize.toNat
        else ((data.drop offset).take descriptor.amountSize.toNat).reverse))) = some amount ↔
      descriptor.amountSize.toNat ≤ 8 ∧ offset + descriptor.amountSize.toNat ≤ data.length ∧
        amount.toNat
          = descriptor.amountValue ((data.drop offset).take descriptor.amountSize.toNat) := by
  by_cases hslice : offset + descriptor.amountSize.toNat > data.length
  · rw [if_pos hslice]
    exact iff_of_false (fun h => by cases h) fun h => absurd h.2.1 (Nat.not_le_of_lt hslice)
  rw [if_neg hslice]
  by_cases hsize : descriptor.amountSize.toNat > 8
  · rw [if_pos hsize]
    exact iff_of_false (fun h => by cases h) fun h => absurd h.1 (Nat.not_le_of_lt hsize)
  rw [if_neg hsize, Option.some.injEq, ← UInt64.toNat_inj, toNat_u8be]
  · rw [and_iff_right (Nat.le_of_not_lt hsize), and_iff_right (Nat.le_of_not_lt hslice), eq_comm]
    rfl
  · have hlen : ((data.drop offset).take descriptor.amountSize.toNat).length ≤ 8 :=
      (List.length_take_le ..).trans (Nat.le_of_not_lt hsize)
    split
    · exact hlen
    · rwa [List.length_reverse]

/-- **Which amount is read**: that of the slice, if it lies inside the data. -/
theorem readAmount_eq_some_iff {amount : UInt64} :
    readAmountUsingDescriptor instruction descriptor = some amount ↔
      descriptor.amountSize.toNat ≤ 8 ∧ ∃ offset,
        descriptor.StartsAt instruction.data.val.length offset ∧
          offset + descriptor.amountSize.toNat ≤ instruction.data.val.length ∧
          amount.toNat = descriptor.amountValue
            ((instruction.data.val.drop offset).take descriptor.amountSize.toNat) := by
  unfold readAmountUsingDescriptor StartsAt
  rcases hneg : descriptor.amountRulesNegativeOffset
  · simp only [Bool.false_and, Bool.false_eq_true, if_false]
    rw [readSlice_eq_some_iff, exists_eq_left]
  · simp only [Bool.true_and, decide_eq_true_eq, if_true]
    by_cases hbehind : descriptor.amountOffset.toNat > instruction.data.val.length
    · rw [if_pos hbehind]
      refine iff_of_false (fun h => by cases h) ?_
      rintro ⟨-, offset, hoffset, -⟩
      omega
    · rw [if_neg hbehind, readSlice_eq_some_iff]
      refine and_congr_right fun _ =>
        ⟨fun h => ⟨_, Nat.sub_add_cancel (Nat.le_of_not_lt hbehind), h⟩,
        ?_⟩
      rintro ⟨offset, hoffset, h⟩
      obtain rfl : offset = instruction.data.val.length - descriptor.amountOffset.toNat := by omega
      exact h

end InstructionDescriptor

/-- An amount that is read passes if the descriptor lets it. -/
theorem checkDescriptorAmount_of_read {swap : SwapValidated} {instruction : Instruction}
    {descriptor : InstructionDescriptor} {swapAmount amount : UInt64}
    (hsaved : getSwapAmountRaw swap = some swapAmount) (hsize : 1 ≤ descriptor.amountSize)
    (hread : readAmountUsingDescriptor instruction descriptor = some amount) :
    checkDescriptorAmount swap instruction descriptor = true ↔
      descriptor.Lets swapAmount amount.toNat := by
  have hinit : swap.initialized = true ∧ swap.amount = swapAmount := by
    unfold getSwapAmountRaw at hsaved
    split at hsaved
    · rename_i h
      exact ⟨h, Option.some.inj hsaved⟩
    · cases hsaved
  have hne : decide (descriptor.amountSize = 0) = false := decide_eq_false fun h => by
    rw [h] at hsize
    exact absurd hsize (by decide)
  unfold checkDescriptorAmount InstructionDescriptor.Lets
  rw [hne, Bool.false_or, hread, hsaved]
  rcases descriptor.cappedAmountBps with _ | bps
  · simp only
    rw [checkSwapAmountRaw, hinit.1, hinit.2, Bool.true_and, beq_iff_eq, UInt64.toNat_inj]
  · refine Iff.trans ?_ (exists_cap_iff swapAmount amount bps)
    simp only
    rcases safeMulBpsDiv10000 swapAmount bps with _ | cap
    · simp
    · simp

/-- An amount that cannot be read does not pass. -/
theorem checkDescriptorAmount_of_read_none {swap : SwapValidated} {instruction : Instruction}
    {descriptor : InstructionDescriptor} (hsize : 1 ≤ descriptor.amountSize)
    (hread : readAmountUsingDescriptor instruction descriptor = none) :
    checkDescriptorAmount swap instruction descriptor = false := by
  have hne : decide (descriptor.amountSize = 0) = false := decide_eq_false fun h => by
    rw [h] at hsize
    exact absurd hsize (by decide)
  unfold checkDescriptorAmount
  rw [hne, Bool.false_or, hread]

/-- **Which amounts pass**: a slice of at most eight bytes inside the data, whose value is the
amount of the swap or within the cap. -/
theorem checkDescriptorAmount_iff (swap : SwapValidated) (instruction : Instruction)
    (descriptor : InstructionDescriptor) (swapAmount : UInt64)
    (hsaved : getSwapAmountRaw swap = some swapAmount) (hsize : 1 ≤ descriptor.amountSize) :
    checkDescriptorAmount swap instruction descriptor = true ↔
      descriptor.amountSize ≤ 8 ∧ ∃ offset,
        descriptor.StartsAt instruction.data.val.length offset ∧
          offset + descriptor.amountSize.toNat ≤ instruction.data.val.length ∧
          descriptor.Lets swapAmount (descriptor.amountValue
            ((instruction.data.val.drop offset).take descriptor.amountSize.toNat)) := by
  have hsize8 : descriptor.amountSize ≤ 8 ↔ descriptor.amountSize.toNat ≤ 8 := UInt8.le_iff_toNat_le
  rw [hsize8]
  rcases hread : readAmountUsingDescriptor instruction descriptor with _ | amount
  · rw [checkDescriptorAmount_of_read_none hsize hread]
    refine iff_of_false (by simp) ?_
    rintro ⟨hle, offset, hstarts, hinside, -⟩
    obtain ⟨amount, hamount⟩ := descriptor.exists_amountValue
      ((List.length_take_le descriptor.amountSize.toNat (instruction.data.val.drop offset)).trans
        hle)
    have hsome := InstructionDescriptor.readAmount_eq_some_iff.mpr
      ⟨hle, offset, hstarts, hinside, hamount⟩
    rw [hread] at hsome
    cases hsome
  · obtain ⟨hle, offset, hstarts, hinside, hvalue⟩ :=
      InstructionDescriptor.readAmount_eq_some_iff.mp hread
    refine (checkDescriptorAmount_of_read hsaved hsize hread).trans
      ⟨fun h => ⟨hle, offset, hstarts, hinside, hvalue ▸ h⟩, ?_⟩
    rintro ⟨-, offset', hstarts', -, h⟩
    obtain rfl : offset = offset' := by
      unfold InstructionDescriptor.StartsAt at hstarts hstarts'
      split at hstarts
      · rename_i hneg
        rw [if_pos hneg] at hstarts'
        omega
      · rename_i hneg
        rw [if_neg hneg] at hstarts'
        omega
    exact hvalue ▸ h

/-- A descriptor of a fee of at most one percent, in the last byte of the data. -/
def feeDescriptor : InstructionDescriptor :=
  { TlvOut.zero.ins with
    amountSize := 1, amountOffset := 1, amountRulesNegativeOffset := true,
    cappedAmountBps := some 100 }

/-- The theorem on a fee of one. -/
theorem checkDescriptorAmount_iff_fee :
    checkDescriptorAmount { SwapValidated.zero with initialized := true, amount := 100 }
        ⟨0, ⟨0, []⟩, ⟨0, [7, 1]⟩⟩ feeDescriptor = true ↔
      feeDescriptor.amountSize ≤ 8 ∧ ∃ offset,
        feeDescriptor.StartsAt 2 offset ∧ offset + feeDescriptor.amountSize.toNat ≤ 2 ∧
          feeDescriptor.Lets 100 (feeDescriptor.amountValue
            ((([7, 1] : List UInt8).drop offset).take feeDescriptor.amountSize.toNat)) :=
  checkDescriptorAmount_iff _ ⟨0, ⟨0, []⟩, ⟨0, [7, 1]⟩⟩ feeDescriptor 100 rfl (by decide)

end AgencLedger
