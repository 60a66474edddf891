import AgencLedger.Review.Accepted
import Mathlib.Data.Rat.Defs
import Mathlib.Algebra.Order.Field.Rat
import Mathlib.Tactic.FieldSimp
import Mathlib.Tactic.Positivity

/-!
# Review/MaxFee — what the item `Max fees` covers

The fee is computed from the compute budget instructions in front of the displayed ones, rounded
down, with a default limit that counts displayed instructions; the rent of a token account is added
for one pattern.  `MaxFeeCovered` says when it is an upper bound on what the message can cost.
-/

namespace AgencLedger

/-! ## What a message asks for -/

/-- The limit that an instruction sets. -/
def InstructionInfo.unitLimit? : InstructionInfo → Option UInt32
  | .computeBudget ⟨.changeUnitLimit units, _⟩ => some units
  | _ => none

/-- The price that an instruction sets. -/
def InstructionInfo.unitPrice? : InstructionInfo → Option UInt64
  | .computeBudget ⟨.changeUnitPrice units, _⟩ => some units
  | _ => none

/-- The compute unit limit that the instructions of a message request. -/
def requestedLimit (infos : List InstructionInfo) : Option UInt32 :=
  (infos.filterMap (·.unitLimit?)).getLast?

/-- The compute unit price that they request. -/
def requestedPrice (infos : List InstructionInfo) : Option UInt64 :=
  (infos.filterMap (·.unitPrice?)).getLast?

/-- How many instructions are not for the compute budget. -/
def otherInstructions (infos : List InstructionInfo) : ℕ :=
  infos.countP fun info => info.computeBudget?.isNone

/-- The units that a transaction of these instructions may consume. -/
def allowedUnits (infos : List InstructionInfo) : ℕ :=
  match requestedLimit infos with
  | some units => units.toNat
  | none => min (200000 * otherInstructions infos) 1400000

/-- Whether a pattern creates an associated token account. -/
def Pattern.createsTokenAccount : Pattern → Bool
  | .splAssociatedTokenAccount _ => true
  | .splAssociatedTokenAccountCreateWithTransfer .. => true
  | _ => false

/-- **What a message can cost**: the signatures, the units at their price, the rent. -/
def possibleFee (signatures : ℕ) (infos : List InstructionInfo) (pattern : Pattern) : ℚ :=
  5000 * signatures
    + (match requestedPrice infos with
        | some price => price.toNat * allowedUnits infos / 1000000
        | none => 0)
    + if pattern.createsTokenAccount then 2039280 else 0

/-! ## What is computed -/

/-- The displayed instructions behind a nonce. -/
def countedInstructions (parsed : List ParsedInstruction) (l : Layout) : ℕ :=
  (displayInstructionInfo parsed).length - l.nonce.toList.length

/-- The fee that is computed, in numbers without bounds. -/
def computedFee (signatures : ℕ) (limit : Option UInt32) (price : Option UInt64)
    (counted : ℕ) : ℕ :=
  if limit.isSome || price.isSome then
    5000 * signatures
      + match price with
        | some price => price.toNat * (match limit with
            | some units => units.toNat
            | none => min (200000 * counted) 1400000) / 1000000
        | none => 0
  else 0

/-- The limit and the price end up in the record, with the count of signatures. -/
theorem foldl_step (budgets : List ComputeBudgetInfo) (feeInfo : ComputeBudgetFeeInfo) :
    let r := budgets.foldl ComputeBudgetFeeInfo.step feeInfo
    let infos := budgets.map InstructionInfo.computeBudget
    r.changeUnitLimit = (requestedLimit infos).or feeInfo.changeUnitLimit ∧
      r.changeUnitPrice = (requestedPrice infos).or feeInfo.changeUnitPrice ∧
      r.instructionsCount = feeInfo.instructionsCount ∧
      r.signaturesCount = (budgets.getLast?.map (·.signaturesCount)).getD
        feeInfo.signaturesCount := by
  induction budgets generalizing feeInfo with
  | nil => simp [requestedLimit, requestedPrice]
  | cons budget budgets ih =>
      obtain ⟨hlimit, hprice, hcount, hsignatures⟩ := ih (feeInfo.step budget)
      rcases budget with ⟨kind, signatures⟩
      have hlast : ∀ {α : Type} (a : α) (l : List α) (o : Option α),
          (l.getLast?.or (some a)) = ((a :: l).getLast?.or o) := fun a l o => by
        rw [List.getLast?_cons]
        cases l.getLast? <;> rfl
      refine ⟨?_, ?_, ?_, ?_⟩
      · rw [List.foldl_cons, hlimit]
        cases kind <;>
          simp only [ComputeBudgetFeeInfo.step, requestedLimit, List.map_cons, List.filterMap_cons,
            InstructionInfo.unitLimit?]
        exact hlast _ _ _
      · rw [List.foldl_cons, hprice]
        cases kind <;>
          simp only [ComputeBudgetFeeInfo.step, requestedPrice, List.map_cons, List.filterMap_cons,
            InstructionInfo.unitPrice?]
        exact hlast _ _ _
      · rw [List.foldl_cons, hcount]
        cases kind <;> rfl
      · rw [List.foldl_cons, hsignatures, List.getLast?_cons]
        cases budgets.getLast? <;> cases kind <;> rfl

/-- The units are those of the limit, else the default for the instructions counted. -/
theorem toNat_maxCompute (info : ComputeBudgetFeeInfo) :
    (maxCompute info).toNat = match info.changeUnitLimit with
      | some units => units.toNat
      | none => min (200000 * info.instructionsCount) 1400000 := by
  unfold maxCompute
  cases info.changeUnitLimit with
  | some units => exact UInt32.toNat_toUInt64 units
  | none =>
      have hlt : min (info.instructionsCount * 200000) 1400000 < 2 ^ 64 :=
        Nat.lt_of_le_of_lt (Nat.min_le_right _ _) (by decide)
      simp only
      rw [Nat.toUInt64_eq, UInt64.toNat_ofNat_of_lt' hlt, Nat.mul_comm]

/-- `UINT64_MAX`. -/
theorem toNat_uint64Max : (0xffffffffffffffff : UInt64).toNat + 1 = 2 ^ 64 := by decide

/-- A sum that stays below the largest number does not wrap. -/
theorem toNat_add_of_not_gt {max a b : UInt64} (hmax : max.toNat + 1 = 2 ^ 64)
    (h : ¬a > max - b) : (a + b).toNat = a.toNat + b.toNat := by
  have hb := b.toNat_lt
  have hle := UInt64.le_iff_toNat_le.mp (UInt64.not_lt.mp h)
  rw [UInt64.toNat_sub_of_le _ _ (UInt64.le_iff_toNat_le.mpr (by omega))] at hle
  rw [UInt64.toNat_add, Nat.mod_eq_of_lt (by omega)]

/-- A product that stays below the largest number does not wrap. -/
theorem toNat_mul_of_not_gt {max a b : UInt64} (hmax : max.toNat + 1 = 2 ^ 64)
    (hb : 0 < b.toNat) (h : ¬a > max / b) : a.toNat * b.toNat < 2 ^ 64 := by
  have hle := UInt64.le_iff_toNat_le.mp (UInt64.not_lt.mp h)
  rw [UInt64.toNat_div] at hle
  have := (Nat.le_div_iff_mul_le hb).mp hle
  omega

/-- The last check of `calculate_max_fee`, and its result. -/
def totalFee (baseFee computeFee : UInt64) : Result UInt64 :=
  bailIf (baseFee > 0xffffffffffffffff - computeFee) >>= fun _ => pure (baseFee + computeFee)

theorem totalFee_ok {baseFee computeFee fee : UInt64} (h : totalFee baseFee computeFee = .ok fee) :
    fee.toNat = baseFee.toNat + computeFee.toNat := by
  obtain ⟨u, hbail, h⟩ := (Result.seq_ok_iff _ _ _).mp h
  obtain rfl := Except.ok.inj h
  exact toNat_add_of_not_gt toNat_uint64Max (of_decide_eq_false (bailIf_eq_ok.mp hbail))

theorem calculateMaxFee_none {info : ComputeBudgetFeeInfo} (h : info.changeUnitPrice = none) :
    calculateMaxFee info
      = totalFee (feeLamportsPerSignature * info.signaturesCount.toUInt64) 0 := by
  unfold calculateMaxFee
  rw [h]
  rfl

theorem calculateMaxFee_some {info : ComputeBudgetFeeInfo} {price : UInt64}
    (h : info.changeUnitPrice = some price) :
    calculateMaxFee info
      = (bailIf (maxCompute info ≠ 0 && price > 0xffffffffffffffff / maxCompute info) >>= fun _ =>
          totalFee (feeLamportsPerSignature * info.signaturesCount.toUInt64)
            (price * maxCompute info / microLamportMultiplier)) := by
  unfold calculateMaxFee
  rw [h]
  simp only [pure_bind, totalFee]

/-- **The computation of the fee does not wrap.** -/
theorem calculateMaxFee_ok {info : ComputeBudgetFeeInfo} {fee : UInt64}
    (h : calculateMaxFee info = .ok fee) (hsignatures : info.signaturesCount < 256) :
    fee.toNat = 5000 * info.signaturesCount + (match info.changeUnitPrice with
        | some price => price.toNat * (maxCompute info).toNat / 1000000
        | none => 0) ∧
      ∀ price, info.changeUnitPrice = some price →
        price.toNat * (maxCompute info).toNat < 2 ^ 64 := by
  have hbase : (feeLamportsPerSignature * info.signaturesCount.toUInt64).toNat
      = 5000 * info.signaturesCount := by
    have hcount : info.signaturesCount.toUInt64.toNat = info.signaturesCount := by
      rw [Nat.toUInt64_eq, UInt64.toNat_ofNat_of_lt' (Nat.lt_trans hsignatures (by decide))]
    rw [UInt64.toNat_mul, hcount, show feeLamportsPerSignature.toNat = 5000 from rfl]
    exact Nat.mod_eq_of_lt (by omega)
  cases hprice : info.changeUnitPrice with
  | none =>
      rw [calculateMaxFee_none hprice] at h
      have h := totalFee_ok h
      rw [hbase] at h
      exact ⟨h, fun _ h => nomatch h⟩
  | some price =>
      rw [calculateMaxFee_some hprice] at h
      obtain ⟨u, hbail, h⟩ := (Result.seq_ok_iff _ _ _).mp h
      have h := totalFee_ok h
      have hlt : price.toNat * (maxCompute info).toNat < 2 ^ 64 := by
        rcases Nat.eq_zero_or_pos (maxCompute info).toNat with hzero | hpos
        · rw [hzero, Nat.mul_zero]
          decide
        · have hne : maxCompute info ≠ 0 := fun h => by
            rw [h] at hpos
            exact absurd hpos (by decide)
          have hbail := bailIf_eq_ok.mp hbail
          rw [decide_eq_true hne, Bool.true_and] at hbail
          exact toNat_mul_of_not_gt toNat_uint64Max hpos (of_decide_eq_false hbail)
      refine ⟨?_, fun _ h => by cases h; exact hlt⟩
      have hmultiplier : microLamportMultiplier.toNat = 1000000 := by decide
      rw [h, hbase, UInt64.toNat_div, UInt64.toNat_mul, Nat.mod_eq_of_lt hlt, hmultiplier]

/-! ## Where the compute budget instructions stand -/

/-- No pattern has a compute budget instruction. -/
theorem computeBudget?_of_recognise {core : List InstructionInfo} {pattern : Pattern}
    (h : recognise core = some pattern) : ∀ info ∈ core, info.computeBudget? = none := by
  unfold recognise at h
  split at h
  · unfold recogniseOne at h
    split at h <;> cases h <;> simp [InstructionInfo.computeBudget?]
  · unfold recogniseTwo at h
    split at h <;> cases h <;> simp [InstructionInfo.computeBudget?]
  · unfold recogniseThree at h
    split at h <;> cases h <;> simp [InstructionInfo.computeBudget?]
  · unfold recogniseFour at h
    split at h <;> cases h
    simp [InstructionInfo.computeBudget?]
  · cases h

/-- Compute budget instructions are displayed. -/
theorem displayed_of_computeBudget {ctx : TokenContext} {messageBody : Parser}
    {header : MessageHeader} {q : ParsedInstruction} {budget : ComputeBudgetInfo}
    (hq : q ∈ (parseMessageBody ctx messageBody header).1)
    (hinfo : q.info = .computeBudget budget) :
    q.ignored = false ∧ budget.signaturesCount
      = header.pubkeysHeader.numRequiredSignatures.toNat := by
  obtain ⟨-, -, index, hfrom⟩ := parsedFrom_of_mem hq
  rw [hinfo] at hfrom
  obtain ⟨-, hign, hparse⟩ := hfrom
  refine ⟨hign, ?_⟩
  obtain ⟨c, h⟩ := InstrM.parse_ok_iff.mp hparse
  obtain ⟨kind, c₁, -, h⟩ := (Result.step_seq_ok_iff _ _ _ _).mp h
  generalize kind.toNat = k at h
  split at h
  case h_5 => cases h
  all_goals
    obtain ⟨units, c₂, -, h⟩ := (Result.step_seq_ok_iff _ _ _ _).mp h
    cases h
    rfl

/-- What only compute budget instructions have is found among the displayed ones. -/
theorem filterMap_displayInstructionInfo {α : Type} {f : InstructionInfo → Option α}
    (hf : ∀ info, info.computeBudget? = none → f info = none) {parsed : List ParsedInstruction}
    (hparsed : ∀ q ∈ parsed, ∀ budget, q.info = .computeBudget budget → q.ignored = false) :
    (displayInstructionInfo parsed).filterMap f = (parsed.map (·.info)).filterMap f := by
  induction parsed with
  | nil => rfl
  | cons q parsed ih =>
      have ih := ih fun q hq => hparsed q (List.mem_cons_of_mem _ hq)
      simp only [displayInstructionInfo] at ih
      have hhidden : (!q.ignored && q.info.isDisplayed) = false → f q.info = none := fun h => by
        refine hf _ ?_
        cases hinfo : q.info with
        | computeBudget budget =>
            rw [hparsed q List.mem_cons_self budget hinfo, hinfo] at h
            cases h
        | _ => rfl
      rw [List.map_cons, displayInstructionInfo, List.filter_cons]
      cases hshown : !q.ignored && q.info.isDisplayed with
      | true => rw [if_pos rfl, List.map_cons, List.filterMap_cons, List.filterMap_cons, ih]
      | false => rw [if_neg (by simp), ih, List.filterMap_cons, hhidden hshown]

section

variable {ctx : TokenContext} {messageBody : Parser} {header : MessageHeader}
  {parsed : List ParsedInstruction} {l : Layout}

/-- **The fee of a layout**, from the whole message. -/
theorem toNat_fee (hparsed : parseMessageBody ctx messageBody header = (parsed, .ok ()))
    (hl : layout parsed = some l) :
    l.fee.toNat = computedFee header.pubkeysHeader.numRequiredSignatures.toNat
      (requestedLimit (parsed.map (·.info))) (requestedPrice (parsed.map (·.info)))
      (countedInstructions parsed l) ∧ l.fee.toNat ≤ 5000 * 255 + 2 ^ 64 / 1000000 := by
  obtain ⟨budgets, core, infos, hinfos, hdisplay, hcore, -, hfee⟩ := layout_fee hl
  have hmem : ∀ q ∈ parsed, ∀ budget, q.info = .computeBudget budget → q.ignored = false ∧
      budget.signaturesCount = header.pubkeysHeader.numRequiredSignatures.toNat :=
    fun q hq budget hinfo => by
      have hq' : q ∈ (parseMessageBody ctx messageBody header).1 := by rwa [hparsed]
      exact displayed_of_computeBudget hq' hinfo
  have hrequested : ∀ {α : Type} (f : InstructionInfo → Option α),
      (∀ info, info.computeBudget? = none → f info = none) →
      (parsed.map (·.info)).filterMap f = (budgets.map InstructionInfo.computeBudget).filterMap f :=
    fun f hf => by
      rw [← filterMap_displayInstructionInfo hf fun q hq budget h => (hmem q hq budget h).1,
        hdisplay, hinfos, List.filterMap_append, List.filterMap_append]
      have hnonce : (l.nonce.toList.map fun n =>
          InstructionInfo.system (.advanceNonce n)).filterMap f = [] := by
        cases l.nonce with
        | none => rfl
        | some nonce => simp [hf (.system (.advanceNonce nonce)) rfl]
      have hrest : core.filterMap f = [] :=
        List.filterMap_eq_nil_iff.mpr fun info hinfo =>
          hf info (computeBudget?_of_recognise hcore info hinfo)
      rw [hnonce, hrest, List.nil_append, List.append_nil]
  have hlimit : requestedLimit (parsed.map (·.info))
      = requestedLimit (budgets.map InstructionInfo.computeBudget) :=
    congrArg List.getLast? (hrequested _ fun info h => by
      cases info <;> first | rfl | cases h)
  have hprice : requestedPrice (parsed.map (·.info))
      = requestedPrice (budgets.map InstructionInfo.computeBudget) :=
    congrArg List.getLast? (hrequested _ fun info h => by
      cases info <;> first | rfl | cases h)
  have hcounted : countedInstructions parsed l = infos.length := by
    rw [countedInstructions, hdisplay, List.length_append, List.length_map]
    omega
  obtain ⟨hlimit', hprice', hcount, hsignatures⟩ := foldl_step budgets
    ⟨none, none, if infos.length > 1 then infos.length else 0, 0⟩
  rw [Option.or_none, ← hlimit] at hlimit'
  rw [Option.or_none, ← hprice] at hprice'
  unfold computeBudgetMaxFee at hfee
  rw [hlimit', hprice'] at hfee
  unfold computedFee
  split at hfee
  · rename_i hasked
    have hne : budgets ≠ [] := fun h => by
      rw [hlimit, hprice, h] at hasked
      cases hasked
    have hpos : core ≠ [] := fun h => by
      rw [h] at hcore
      cases hcore
    have hlen : infos.length > 1 := by
      have := List.length_pos_iff.mpr hne
      have := List.length_pos_iff.mpr hpos
      rw [hinfos, List.length_append, List.length_map]
      omega
    rw [if_pos hlen] at hcount hfee hlimit' hprice' hsignatures
    have hsig : (budgets.foldl ComputeBudgetFeeInfo.step
        ⟨none, none, infos.length, 0⟩).signaturesCount
          = header.pubkeysHeader.numRequiredSignatures.toNat := by
      obtain ⟨budget, hbudget⟩ : ∃ budget, budgets.getLast? = some budget :=
        ⟨_, List.getLast?_eq_some_getLast hne⟩
      obtain ⟨q, hq, -, -, hinfo⟩ : ∃ q ∈ parsed, q.ignored = false ∧
          (InstructionInfo.computeBudget budget).isDisplayed = true ∧
          q.info = .computeBudget budget := mem_displayInstructionInfo.mp (by
        rw [hdisplay, hinfos]
        exact List.mem_append_right _ (List.mem_append_left _
          (List.mem_map_of_mem (List.mem_of_getLast? hbudget))))
      rw [hsignatures, hbudget]
      exact (hmem q hq budget hinfo).2
    have hsmall := UInt8.toNat_lt header.pubkeysHeader.numRequiredSignatures
    obtain ⟨hvalue, hproduct⟩ := calculateMaxFee_ok hfee (by rw [hsig]; exact hsmall)
    refine ⟨?_, ?_⟩
    · rw [if_pos hasked, hvalue, hsig, hprice', toNat_maxCompute, hlimit', hcount, hcounted]
    · rw [hvalue, hsig]
      refine Nat.add_le_add (Nat.mul_le_mul_left _ (Nat.le_of_lt_succ hsmall)) ?_
      split
      · exact Nat.div_le_div_right (Nat.le_of_lt (hproduct _ ‹_›))
      · exact Nat.zero_le _
  · rename_i hasked
    rw [if_neg hasked, ← Except.ok.inj hfee]
    exact ⟨rfl, Nat.zero_le _⟩

/-- **The fee that is shown does not wrap**, with the rent. -/
theorem toNat_maxFee (hparsed : parseMessageBody ctx messageBody header = (parsed, .ok ()))
    (hl : layout parsed = some l) :
    l.maxFee.toNat = computedFee header.pubkeysHeader.numRequiredSignatures.toNat
        (requestedLimit (parsed.map (·.info))) (requestedPrice (parsed.map (·.info)))
        (countedInstructions parsed l) + l.pattern.rent.toNat := by
  obtain ⟨hfee, hle⟩ := toNat_fee hparsed hl
  have hrent : l.pattern.rent.toNat ≤ 2039280 := by
    unfold Pattern.rent
    split <;> decide
  rw [Layout.maxFee, UInt64.toNat_add, Nat.mod_eq_of_lt (by omega), hfee]

end

/-! ## When the fee is an upper bound -/

/-- A pattern that only creates an associated token account. -/
def Pattern.createsOnly : Pattern → Bool
  | .splAssociatedTokenAccount _ => true
  | _ => false

/-- **The item `Max fees` is an upper bound**, and its computation does not wrap. -/
structure MaxFeeBound (signatures : ℕ) (parsed : List ParsedInstruction) (l : Layout)
    (fee : UInt64) : Prop where
  covers : possibleFee signatures (parsed.map (·.info)) l.pattern ≤ fee.toNat
  noWrap : fee.toNat = computedFee signatures (requestedLimit (parsed.map (·.info)))
    (requestedPrice (parsed.map (·.info))) (countedInstructions parsed l) + l.pattern.rent.toNat

/-- **When it is one.**  Without limit and price only the rent is shown.  With both, the product
must not be rounded; with the price alone, the instructions counted must make up for those that are
not, and for the rounding.  The rent of a creation on its own is left out. -/
def MaxFeeCovered (signatures : ℕ) (parsed : List ParsedInstruction) (l : Layout) : Prop :=
  let infos := parsed.map (·.info)
  match requestedPrice infos, requestedLimit infos with
  | none, none => signatures = 0
  | none, some _ => l.pattern.createsOnly = false
  | some price, some units => 1000000 ∣ price.toNat * units.toNat ∧ l.pattern.createsOnly = false
  | some price, none =>
      price.toNat * otherInstructions infos + (if l.pattern.createsOnly then 5 * 2039280 else 0)
        ≤ 5 * (price.toNat * countedInstructions parsed l / 5)

/-- The comparison in millionths of a lamport. -/
theorem possibleFee_le_iff (signatures : ℕ) (infos : List InstructionInfo) (pattern : Pattern)
    (fee : ℕ) : possibleFee signatures infos pattern ≤ fee ↔
      1000000 * (5000 * signatures + if pattern.createsTokenAccount then 2039280 else 0)
        + (match requestedPrice infos with
            | some price => price.toNat * allowedUnits infos
            | none => 0) ≤ 1000000 * fee := by
  rw [← Nat.cast_le (α := ℚ), possibleFee]
  cases requestedPrice infos <;> cases pattern.createsTokenAccount <;>
    simp only [Bool.false_eq_true, if_false, if_true] <;> push_cast <;>
    constructor <;> intro h <;> linarith

/-- The default units of up to six instructions are not cut off. -/
theorem defaultUnits_eq {n : ℕ} (h : n ≤ 6) : min (200000 * n) 1400000 = 200000 * n := by
  omega

/-- The rent is not left out where it is added. -/
theorem Pattern.createsOnly_of_rent {pattern : Pattern} (h : pattern.rent.toNat ≠ 0) :
    pattern.createsOnly = false := by
  cases pattern <;> first | rfl | exact absurd rfl h

/-- **The bound holds exactly when the fee is covered.** -/
theorem maxFeeBound_iff_covered {ctx : TokenContext} {messageBody : Parser} {header : MessageHeader}
    {parsed : List ParsedInstruction} {l : Layout}
    (hparsed : parseMessageBody ctx messageBody header = (parsed, .ok ()))
    (hl : layout parsed = some l) (hshown : l.maxFee ≠ 0) :
    MaxFeeBound header.pubkeysHeader.numRequiredSignatures.toNat parsed l l.maxFee ↔
      MaxFeeCovered header.pubkeysHeader.numRequiredSignatures.toNat parsed l := by
  have hfee := toNat_maxFee hparsed hl
  obtain ⟨-, -, hsix, -⟩ := parseMessageBody_consumes hparsed
  have hother : otherInstructions (parsed.map (·.info)) ≤ 6 :=
    Nat.le_trans List.countP_le_length (by rw [List.length_map]; exact hsix)
  have hcounted : countedInstructions parsed l ≤ 6 := by
    have : (displayInstructionInfo parsed).length ≤ parsed.length := by
      rw [displayInstructionInfo, List.length_map]
      exact List.length_filter_le _ _
    rw [countedInstructions]
    exact Nat.le_trans (Nat.sub_le _ _) (Nat.le_trans this hsix)
  have hrent : (if l.pattern.createsTokenAccount then 2039280 else 0)
      = l.pattern.rent.toNat + if l.pattern.createsOnly then 2039280 else 0 := by
    cases l.pattern <;>
      simp [Pattern.createsTokenAccount, Pattern.createsOnly, Pattern.rent]
  have hpos : 0 < l.maxFee.toNat := Nat.pos_of_ne_zero fun h => hshown (UInt64.toNat_inj.mp h)
  have hbound : MaxFeeBound header.pubkeysHeader.numRequiredSignatures.toNat parsed l l.maxFee ↔
      possibleFee header.pubkeysHeader.numRequiredSignatures.toNat (parsed.map (·.info)) l.pattern
        ≤ (l.maxFee.toNat : ℚ) := ⟨fun h => h.covers, fun h => ⟨h, hfee⟩⟩
  rw [hbound, possibleFee_le_iff, hrent]
  generalize header.pubkeysHeader.numRequiredSignatures.toNat = signatures at hfee ⊢
  simp only [MaxFeeCovered, allowedUnits, computedFee] at hfee ⊢
  cases hprice : requestedPrice (parsed.map (·.info)) with
  | none =>
      cases hlimit : requestedLimit (parsed.map (·.info)) with
      | none =>
          simp only [hprice, hlimit, Option.isSome_none, Bool.or_self, Bool.false_eq_true, if_false]
            at hfee ⊢
          rw [Pattern.createsOnly_of_rent (by omega : l.pattern.rent.toNat ≠ 0)]
          simp only [Bool.false_eq_true, if_false]
          omega
      | some units =>
          simp only [hprice, hlimit, Option.isSome_some, Bool.true_or, if_true] at hfee ⊢
          cases l.pattern.createsOnly <;> simp <;> omega
  | some price =>
      cases hlimit : requestedLimit (parsed.map (·.info)) with
      | none =>
          simp only [hprice, hlimit, Option.isSome_some, Bool.or_true, if_true,
            defaultUnits_eq hother, defaultUnits_eq hcounted] at hfee ⊢
          have hdiv : price.toNat * (200000 * countedInstructions parsed l) / 1000000
              = price.toNat * countedInstructions parsed l / 5 := by
            rw [Nat.mul_left_comm, show 1000000 = 200000 * 5 from rfl]
            exact Nat.mul_div_mul_left _ _ (by decide)
          rw [hdiv] at hfee
          rw [Nat.mul_left_comm]
          generalize price.toNat * otherInstructions (parsed.map (·.info)) = a
          generalize price.toNat * countedInstructions parsed l / 5 = b at hfee ⊢
          cases l.pattern.createsOnly <;> simp <;> omega
      | some units =>
          simp only [hprice, hlimit, Option.isSome_some, Bool.or_self, if_true] at hfee ⊢
          generalize price.toNat * units.toNat = a at hfee ⊢
          cases l.pattern.createsOnly <;> simp <;> omega

/-- **The fee of an accepted message** is an upper bound exactly when it is covered. -/
theorem maxFee_bound_iff {ctx : TokenContext} {messageBody : Parser} {printConfig : PrintConfig}
    {s : TransactionSummary} {fee : UInt64}
    (h : processMessageBody ctx messageBody printConfig .reset = (.ok (), s))
    (hitem : ⟨"Max fees", .amount fee⟩ ∈ s.usedItems) :
    ∃ parsed l, parseMessageBody ctx messageBody printConfig.header = (parsed, .ok ()) ∧
      layout parsed = some l ∧
      (MaxFeeBound printConfig.header.pubkeysHeader.numRequiredSignatures.toNat parsed l fee ↔
        MaxFeeCovered printConfig.header.pubkeysHeader.numRequiredSignatures.toNat parsed l) := by
  obtain ⟨parsed, l, hparsed, hl, hitems⟩ := mem_usedItems_of_accepted h
  have hfee : l.maxFee ≠ 0 ∧ fee = l.maxFee := by
    rcases (hitems _ (by simp [SummaryItem.notable])).mp hitem with ⟨-, hmem⟩ | hmem | hmem
    · simp [extensionWarningItems] at hmem
    · exact absurd (by simp) (Pattern.notables_spec hmem).1
    · unfold maxFeeItems at hmem
      split at hmem
      · exact ⟨‹_›, by simpa using hmem⟩
      · cases hmem
  rw [hfee.2]
  exact ⟨parsed, l, hparsed, hl, maxFeeBound_iff_covered hparsed hl hfee.1⟩

/-! ## Two messages with a price -/

def pricedKeys : List Pubkey :=
  [plainSigner, systemProgramId, computeBudgetProgramId, splMemoProgramId]

/-- A price of one lamport a unit, five lamports to oneself, and memos. -/
def pricedInstructions (memos : ℕ) : List (List UInt8) :=
  writeInstruction 2 [] [3, 0x40, 0x42, 0x0f, 0, 0, 0, 0, 0] ::
    writeInstruction 1 [0, 0] [2, 0, 0, 0, 5, 0, 0, 0, 0, 0, 0, 0] ::
    List.replicate memos (writeInstruction 3 [] [])

def pricedConfig (memos : ℕ) : PrintConfig :=
  plainConfig (legacyHeader pricedKeys (by decide) (2 + memos)) ⟨4, plainSigner⟩

/-- The review of that message. -/
def pricedReview (memos : ℕ) : Result Unit × TransactionSummary :=
  processMessageBody emptyContext (legacyBody pricedKeys (pricedInstructions memos))
    (pricedConfig memos) .reset

theorem pricedReview_ok : (pricedReview 0).1 = .ok () := by decide

theorem maxFees_mem_pricedReview : ⟨"Max fees", .amount 405000⟩ ∈ (pricedReview 0).2.usedItems := by
  decide

/-- The theorem on a message without memos. -/
theorem maxFee_bound_priced :
    ∃ parsed l, parseMessageBody emptyContext (legacyBody pricedKeys (pricedInstructions 0))
        (pricedConfig 0).header = (parsed, .ok ()) ∧ layout parsed = some l ∧
      (MaxFeeBound (pricedConfig 0).header.pubkeysHeader.numRequiredSignatures.toNat
        parsed l 405000 ↔
        MaxFeeCovered (pricedConfig 0).header.pubkeysHeader.numRequiredSignatures.toNat parsed l) :=
  maxFee_bound_iff (Prod.ext pricedReview_ok rfl) maxFees_mem_pricedReview

/-- What is kept of the instructions with three memos. -/
def pricedParsed : List ParsedInstruction :=
  (parseMessageBody emptyContext (legacyBody pricedKeys (pricedInstructions 3))
    (pricedConfig 3).header).1

/-- **Three memos are not counted**: at one lamport a unit, the four instructions may consume
800000 lamports, and 400000 are shown besides the signature. -/
theorem maxFee_not_bound_memos :
    (pricedReview 3).1 = .ok () ∧ ⟨"Max fees", .amount 405000⟩ ∈ (pricedReview 3).2.usedItems ∧
      ∃ l, layout pricedParsed = some l ∧
        ¬MaxFeeBound (pricedConfig 3).header.pubkeysHeader.numRequiredSignatures.toNat
          pricedParsed l
          405000 := by
  refine ⟨by decide, by decide, ?_⟩
  obtain ⟨l, hl⟩ : ∃ l, layout pricedParsed = some l :=
    Option.isSome_iff_exists.mp (by decide)
  refine ⟨l, hl, fun hbound => ?_⟩
  have hprice : requestedPrice (pricedParsed.map (·.info)) = some 1000000 := by decide
  have hunits : allowedUnits (pricedParsed.map (·.info)) = 800000 := by decide
  have hsignatures : (pricedConfig 3).header.pubkeysHeader.numRequiredSignatures.toNat = 1 := rfl
  have h := (possibleFee_le_iff _ _ _ _).mp hbound.covers
  rw [hprice, hsignatures] at h
  simp only [hunits] at h
  have hvalues : (1000000 : UInt64).toNat = 1000000 ∧ (405000 : UInt64).toNat = 405000 := by
    decide
  rw [hvalues.1, hvalues.2] at h
  omega

end AgencLedger
