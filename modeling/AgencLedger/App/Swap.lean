import AgencLedger.App.Apdu
import Mathlib.Algebra.Order.Field.Basic
import Mathlib.Algebra.Order.Field.Rat

/-!
# App/Swap — what the Exchange application has validated

Exchange starts the app with the parameters of a swap.  They are saved once, and every later check
of a swap transaction compares with them.
-/

namespace AgencLedger

/-- The system's helpers for swap parameters, and the sizes its headers fix. -/
structure SwapSdk where
  /-- `swap_parse_config`: ticker and decimals -/
  parseConfig : List UInt8 → Option (CString × UInt8)
  /-- `swap_str_to_u64` -/
  strToU64 : List UInt8 → Option UInt64
  /-- `MAX_PRINTABLE_AMOUNT_SIZE` -/
  maxPrintableAmountSize : ℕ
  /-- there is room for a character and the `NUL` -/
  one_lt_maxPrintableAmountSize : 1 < maxPrintableAmountSize

/-- `swap_mode_t`. -/
inductive SwapMode
  | standard | crosschain | error
  deriving DecidableEq, Repr

/-- `swap_validated_t`. -/
structure SwapValidated where
  initialized : Bool
  swapMode : SwapMode
  templateId : UInt64
  decimals : UInt8
  ticker : CString
  amount : UInt64
  fee : UInt64
  recipient : CString
  deriving DecidableEq

/-- A zeroed `G_swap_validated`. -/
def SwapValidated.zero : SwapValidated where
  initialized := false
  swapMode := .standard
  templateId := 0
  decimals := 0
  ticker := .lit ""
  amount := 0
  fee := 0
  recipient := .lit ""

/-- `destination_address_extra_id`, as far as Exchange's size contract lets it be read: the type
byte and, for a template, its eight bytes. -/
structure ExtraId where
  type : UInt8
  templateId : Block 8
  deriving DecidableEq

/-- `create_transaction_parameters_t`. -/
structure CreateTransactionParameters where
  coinConfiguration : Option (List UInt8)
  amount : List UInt8
  feeAmount : List UInt8
  destinationAddress : CString
  destinationAddressExtraId : Option ExtraId
  deriving DecidableEq

/-- `U8BE`. -/
def u8be (bytes : List UInt8) : UInt64 :=
  bytes.foldl (fun value b => value <<< 8 ||| b.toUInt64) 0

/-- The mode and the template an extra id asks for. -/
def swapModeOf : Option ExtraId → SwapMode × UInt64
  | none => (.standard, 0)
  | some extraId =>
      if extraId.type = 0x00 then (.standard, 0)
      else if extraId.type = 0x03 then (.crosschain, u8be extraId.templateId.data)
      else (.error, 0)

/-- `strlcpy` into a buffer of the given size. -/
def strlcpy (src : CString) (size : ℕ) : CString :=
  ⟨src.chars.take (size - 1), fun h => src.noNul (List.mem_of_mem_take h)⟩

theorem nul_notMem_sol : nul ∉ "SOL".toList := by decide

/-- Ticker and decimals of the swapped coin: without a configuration it is SOL. -/
def swapCoin (swapSdk : SwapSdk) (coinConfiguration : Option (List UInt8)) :
    Option (CString × UInt8) :=
  match coinConfiguration with
  | none => some (.lit "SOL" nul_notMem_sol, 9)
  | some config => swapSdk.parseConfig config

/-- `swap_copy_transaction_parameters`.  The copy of the address always ends in its `NUL`, so the
check for it never fails. -/
def swapCopyTransactionParameters (swapSdk : SwapSdk) (params : CreateTransactionParameters) :
    Option SwapValidated := do
  let (swapMode, templateId) := swapModeOf params.destinationAddressExtraId
  let (ticker, decimals) ← swapCoin swapSdk params.coinConfiguration
  let amount ← swapSdk.strToU64 params.amount
  let fee ← swapSdk.strToU64 params.feeAmount
  return { initialized := true, swapMode, templateId, decimals, ticker, amount, fee,
           recipient := strlcpy params.destinationAddress 45 }

/-- What a print call of a check leaves in its local buffer: a text, if it succeeded. -/
def printedText (printed : Printed) : Option (List Char) :=
  match printed.ret with
  | .ok () => some (textOf printed.written)
  | .error _ => none

section

variable (swapSdk : SwapSdk) (swap : SwapValidated)

/-- `check_swap_amount`. -/
def checkSwapAmount (text : List Char) : Bool :=
  swap.initialized &&
    match printedText (printTokenAmount swap.amount (some swap.ticker) swap.decimals
      swapSdk.maxPrintableAmountSize) with
    | some validatedAmount => text == validatedAmount
    | none => false

/-- `check_swap_amount_raw`. -/
def checkSwapAmountRaw (amount : UInt64) : Bool := swap.initialized && amount == swap.amount

/-- `get_swap_amount_raw`. -/
def getSwapAmountRaw : Option UInt64 := if swap.initialized then some swap.amount else none

/-- `get_swap_ticker`. -/
def getSwapTicker : Option CString := if swap.initialized then some swap.ticker else none

/-- `check_swap_fee`. -/
def checkSwapFee (text : List Char) : Bool :=
  swap.initialized &&
    match printedText (printAmount swap.fee swapSdk.maxPrintableAmountSize) with
    | some validatedFee => amountAsStringIsGreaterOrEqual validatedFee text
    | none => false

/-- `check_swap_recipient`. -/
def checkSwapRecipient (text : List Char) : Bool :=
  swap.initialized && swap.recipient.chars == text

/-- `get_swap_recipient`. -/
def getSwapRecipient (sdk : Sdk) : Option Pubkey :=
  if swap.initialized then
    match sdk.base58Decode swap.recipient.chars 32 with
    | some bytes => if h : bytes.length = 32 then some ⟨bytes, h⟩ else none
    | none => none
  else none

/-- `is_token_transaction`. -/
def isTokenTransaction : Bool := swap.ticker.chars != "SOL".toList

/-- `check_template_id`. -/
def checkTemplateId (templateId : UInt64) : Bool :=
  swap.initialized && swap.templateId == templateId

end

/-- **Parameters that are saved are saved as given**, but for a recipient cut to its buffer. -/
theorem swapCopyTransactionParameters_eq_some {swapSdk : SwapSdk}
    {params : CreateTransactionParameters} {swap : SwapValidated}
    (h : swapCopyTransactionParameters swapSdk params = some swap) :
    swap.initialized = true ∧
      (swap.swapMode, swap.templateId) = swapModeOf params.destinationAddressExtraId ∧
      swapSdk.strToU64 params.amount = some swap.amount ∧
      swapSdk.strToU64 params.feeAmount = some swap.fee := by
  unfold swapCopyTransactionParameters at h
  simp only [Option.bind_eq_bind, Option.bind_eq_some_iff] at h
  obtain ⟨⟨ticker, decimals⟩, -, amount, hamount, fee, hfee, hswap⟩ := h
  cases hswap
  exact ⟨rfl, rfl, hamount, hfee⟩

/-! ## Comparing fees -/

/-- What a successful `print_token_amount` leaves in its buffer. -/
theorem printedText_printTokenAmount {amount : UInt64} {asset : CString} {decimals : UInt8}
    {outLength : ℕ} (h : (printTokenAmount amount (some asset) decimals outLength).ret = .ok ()) :
    printedText (printTokenAmount amount (some asset) decimals outLength) =
      some (amountText amount.toNat decimals.toNat asset.chars) := by
  have htext := textOf_printTokenAmount (one_lt_of_printTokenAmount_ok h) h []
  rw [overlay, List.drop_nil, List.append_nil] at htext
  rw [printedText, h, htext]

/-- Any text it leaves is that of the amount. -/
theorem eq_amountText_of_printedText {amount : UInt64} {asset : CString} {decimals : UInt8}
    {outLength : ℕ} {text : List Char}
    (h : printedText (printTokenAmount amount (some asset) decimals outLength) = some text) :
    text = amountText amount.toNat decimals.toNat asset.chars := by
  have hok : (printTokenAmount amount (some asset) decimals outLength).ret = .ok () := by
    rcases hret : (printTokenAmount amount (some asset) decimals outLength).ret with e | u
    · rw [printedText, hret] at h
      cases h
    · rfl
  rw [printedText_printTokenAmount hok] at h
  exact (Option.some.inj h).symm

section

variable {swapSdk : SwapSdk} {swap : SwapValidated} {text : List Char}

/-- A text that passes `check_swap_amount` is that of the validated amount. -/
theorem amountText_of_checkSwapAmount (h : checkSwapAmount swapSdk swap text = true) :
    text = amountText swap.amount.toNat swap.decimals.toNat swap.ticker.chars := by
  obtain ⟨-, hcheck⟩ := Bool.and_eq_true_iff.mp h
  split at hcheck
  · rename_i validatedAmount hprinted
    exact (eq_of_beq hcheck).trans (eq_amountText_of_printedText hprinted)
  · cases hcheck

/-- A text that passes `check_swap_fee` is not above the validated fee. -/
theorem amountAsStringIsGreaterOrEqual_of_checkSwapFee
    (h : checkSwapFee swapSdk swap text = true) :
    amountAsStringIsGreaterOrEqual (amountText swap.fee.toNat 9 "SOL".toList) text = true := by
  obtain ⟨-, hcheck⟩ := Bool.and_eq_true_iff.mp h
  split at hcheck
  · rename_i validatedFee hprinted
    rwa [eq_amountText_of_printedText hprinted] at hcheck
  · cases hcheck

/-- An amount that passes is the validated one, of the validated asset. -/
theorem value_of_checkSwapAmount {amount decimals : ℕ} {asset : List Char}
    (h : checkSwapAmount swapSdk swap (amountText amount decimals asset) = true) :
    (amount : ℚ) / 10 ^ decimals = swap.amount.toNat / 10 ^ swap.decimals.toNat ∧
      asset = swap.ticker.chars := by
  obtain ⟨hamount, hasset⟩ := amountText_inj (amountText_of_checkSwapAmount h)
  refine ⟨?_, hasset⟩
  rw [div_eq_div_iff (by positivity) (by positivity)]
  exact_mod_cast hamount

/-- A fee that passes is at most the validated one. -/
theorem le_of_checkSwapFee {fee : UInt64}
    (h : checkSwapFee swapSdk swap (amountText fee.toNat 9 "SOL".toList) = true) :
    fee ≤ swap.fee := by
  have hsol : "SOL".toList ≠ [] := by decide
  have htext := amountAsStringIsGreaterOrEqual_of_checkSwapFee h
  rw [amountAsStringIsGreaterOrEqual_iff hsol] at htext
  exact UInt64.le_iff_toNat_le.mpr ((Nat.mul_le_mul_right_iff (by positivity)).mp htext)

/-- A text that passes `check_swap_recipient` is the validated recipient. -/
theorem recipient_of_checkSwapRecipient (h : checkSwapRecipient swap text = true) :
    swap.recipient.chars = text :=
  eq_of_beq (Bool.and_eq_true_iff.mp h).2

end

/-- **The comparison of two amounts as texts compares the amounts**: for one asset as rationals, for
two never; and a fee passes the check of the swap exactly when it is at most the validated one. -/
theorem amountAsStringIsGreaterOrEqual_spec :
    (∀ (a b : UInt64) (da db : UInt8) (asset : CString) (aLength bLength : ℕ) (aText bText),
      asset.chars ≠ [] →
      printedText (printTokenAmount a (some asset) da aLength) = some aText →
      printedText (printTokenAmount b (some asset) db bLength) = some bText →
      (amountAsStringIsGreaterOrEqual aText bText = true ↔
        (b.toNat : ℚ) / 10 ^ db.toNat ≤ (a.toNat : ℚ) / 10 ^ da.toNat)) ∧
    (∀ (a b : UInt64) (da db : UInt8) (s t : CString) (aLength bLength : ℕ) (aText bText),
      s.chars ≠ [] → t.chars ≠ [] → s ≠ t →
      printedText (printTokenAmount a (some s) da aLength) = some aText →
      printedText (printTokenAmount b (some t) db bLength) = some bText →
      amountAsStringIsGreaterOrEqual aText bText = false) ∧
    (∀ (swapSdk : SwapSdk) (swap : SwapValidated) (fee : UInt64) (outLength : ℕ) (text),
      swapSdk.maxPrintableAmountSize = 50 → swap.initialized = true →
      printedText (printAmount fee outLength) = some text →
      (checkSwapFee swapSdk swap text = true ↔ fee ≤ swap.fee)) := by
  refine ⟨fun a b da db asset aLength bLength aText bText hasset ha hb => ?_,
    fun a b da db s t aLength bLength aText bText hs ht hst ha hb => ?_,
    fun swapSdk swap fee outLength text hsize hinit hfee => ?_⟩
  · rw [eq_amountText_of_printedText ha, eq_amountText_of_printedText hb,
      amountAsStringIsGreaterOrEqual_iff hasset, div_le_div_iff₀ (by positivity) (by positivity)]
    norm_cast
  · rw [eq_amountText_of_printedText ha, eq_amountText_of_printedText hb]
    exact amountAsStringIsGreaterOrEqual_ne fun heq => hst (by cases s; cases t; cases heq; rfl)
  · have hvalid := printAmount_ok_of_lt swap.fee (show 25 < 50 by decide) (by decide)
    rw [eq_amountText_of_printedText hfee, checkSwapFee, hinit, Bool.true_and, hsize, printAmount,
      printedText_printTokenAmount hvalid]
    have hsol : (CString.lit "SOL").chars ≠ [] := by decide
    exact (amountAsStringIsGreaterOrEqual_iff hsol).trans
      ((Nat.mul_le_mul_right_iff (by positivity)).trans UInt64.le_iff_toNat_le.symm)

theorem nul_notMem_systemAddress : nul ∉ "11111111111111111111111111111111".toList := by
  decide

/-- The parameters of a swap of one SOL for a fee of 5000 lamports. -/
def feeSwap : SwapValidated where
  initialized := true
  swapMode := .standard
  templateId := 0
  decimals := 9
  ticker := .lit "SOL" nul_notMem_sol
  amount := 1000000000
  fee := 5000
  recipient := .lit "11111111111111111111111111111111" nul_notMem_systemAddress

/-- The theorem on half a unit and three, on two assets, and on a fee. -/
theorem amountAsStringIsGreaterOrEqual_half :
    (amountAsStringIsGreaterOrEqual "0.5 SOL".toList "3 SOL".toList = true ↔
      ((3 : UInt64).toNat : ℚ) / 10 ^ (0 : UInt8).toNat ≤
        ((5 : UInt64).toNat : ℚ) / 10 ^ (1 : UInt8).toNat) ∧
    amountAsStringIsGreaterOrEqual "5 USDC".toList "3 SOL".toList = false ∧
    (checkSwapFee ⟨fun _ => none, fun _ => none, 50, by decide⟩ feeSwap "0.000004 SOL".toList
      = true ↔ 4000 ≤ feeSwap.fee) :=
  ⟨amountAsStringIsGreaterOrEqual_spec.1 5 3 1 0 (.lit "SOL") 20 20 _ _ (by decide)
      (by decide) (by decide),
    amountAsStringIsGreaterOrEqual_spec.2.1 5 3 0 0 (.lit "USDC") (.lit "SOL") 20 20 _ _ (by decide)
      (by decide) (by decide) (by decide) (by decide),
    amountAsStringIsGreaterOrEqual_spec.2.2 _ feeSwap 4000 45 _ rfl rfl (by decide)⟩

end AgencLedger
