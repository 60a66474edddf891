import AgencLedger.Sol.Instruction

/-!
# Program/ComputeBudget — compute budget instructions and the maximum fee

Compute budget instructions are not shown themselves.  Their limit and price give the item
`Max fees`.
-/

namespace AgencLedger

/-- `ComputeBudgetInfo`: the instruction, without `signatures_count`, which is the header's. -/
inductive ComputeBudgetKind
  | requestHeapFrame (bytes : UInt32)
  | changeUnitLimit (units : UInt32)
  | changeUnitPrice (units : UInt64)
  | setLoadedAccountsDataSizeLimit (units : UInt32)
  deriving DecidableEq

/-- `ComputeBudgetInfo`. -/
structure ComputeBudgetInfo where
  kind : ComputeBudgetKind
  signaturesCount : ℕ
  deriving DecidableEq

/-- `ComputeBudgetFeeInfo`; the two pointers are `NULL` where no such instruction was seen. -/
structure ComputeBudgetFeeInfo where
  changeUnitLimit : Option UInt32
  changeUnitPrice : Option UInt64
  instructionsCount : ℕ
  signaturesCount : ℕ
  deriving DecidableEq

/-- `parse_compute_budget_instructions`. -/
def parseComputeBudgetInstructions (header : MessageHeader) : InstrM ComputeBudgetInfo := do
  let maybeKind ← parseU8
  let signaturesCount := header.pubkeysHeader.numRequiredSignatures.toNat
  match maybeKind.toNat with
  | 1 => return ⟨.requestHeapFrame (← parseU32), signaturesCount⟩
  | 2 => return ⟨.changeUnitLimit (← parseU32), signaturesCount⟩
  | 3 => return ⟨.changeUnitPrice (← parseU64), signaturesCount⟩
  | 4 => return ⟨.setLoadedAccountsDataSizeLimit (← parseU32), signaturesCount⟩
  | _ => throw .bail

/-- `FEE_LAMPORTS_PER_SIGNATURE`. -/
def feeLamportsPerSignature : UInt64 := 5000

/-- `MICRO_LAMPORT_MULTIPLIER`. -/
def microLamportMultiplier : UInt64 := 1000000

/-- The units that may be consumed: the limit asked for, else the default one. -/
def maxCompute (info : ComputeBudgetFeeInfo) : UInt64 :=
  match info.changeUnitLimit with
  | some units => units.toUInt64
  | none => (min (info.instructionsCount * 200000) 1400000).toUInt64

/-- `calculate_max_fee`. -/
def calculateMaxFee (info : ComputeBudgetFeeInfo) : Result UInt64 := do
  let baseFee := feeLamportsPerSignature * info.signaturesCount.toUInt64
  let computeFee ← match info.changeUnitPrice with
    | none => pure 0
    | some units => do
        let maxCompute := maxCompute info
        bailIf (maxCompute ≠ 0 && units > 0xffffffffffffffff / maxCompute)
        pure (units * maxCompute / microLamportMultiplier)
  bailIf (baseFee > 0xffffffffffffffff - computeFee)
  return baseFee + computeFee

/-- `print_compute_budget_max_fee`. -/
def printComputeBudgetMaxFee (maxFee : UInt64) : Script := general "Max fees" (.amount maxFee)

end AgencLedger
