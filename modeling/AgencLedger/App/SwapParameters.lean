import AgencLedger.App.State

/-!
# App/SwapParameters — saving the parameters of a swap

`swap_copy_transaction_parameters` fills a local record, and only behind its last check resets the
globals and commits the record.  The check for a recipient that is too long looks at the last byte
of the copy, which `strlcpy` has always set to `NUL`.
-/

namespace AgencLedger

/-- What `strlcpy` leaves in a buffer. -/
def strlcpyInto (buffer src : List Char) : List Char :=
  overlay (src.take (buffer.length - 1) ++ [nul]) buffer

/-- `swap_copy_transaction_parameters` on `G_swap_validated`. -/
def saveTransactionParameters (swapSdk : SwapSdk) (params : CreateTransactionParameters) :
    StateM SwapValidated Bool := do
  let (swapMode, templateId) := swapModeOf params.destinationAddressExtraId
  let some (ticker, decimals) := swapCoin swapSdk params.coinConfiguration | return false
  let recipient := strlcpyInto (List.replicate 45 nul) params.destinationAddress.chars
  if recipient[44]? ≠ some nul then return false
  let some amount := swapSdk.strToU64 params.amount | return false
  let some fee := swapSdk.strToU64 params.feeAmount | return false
  set SwapValidated.zero
  set ({ initialized := true, swapMode, templateId, decimals, ticker, amount, fee,
         recipient := CString.ofBuffer recipient } : SwapValidated)
  return true

/-! ## The copy of the recipient -/

theorem getElem?_strlcpyInto (src : List Char) :
    (strlcpyInto (List.replicate 45 nul) src)[44]? = some nul := by
  rw [strlcpyInto, overlay, List.length_replicate]
  rcases Nat.lt_or_ge src.length 44 with hshort | hlong
  · rw [List.getElem?_append_right, List.getElem?_drop, List.getElem?_replicate, if_pos]
    all_goals
      rw [List.length_append, List.length_take, List.length_singleton]
      omega
  · have htake : (src.take (45 - 1)).length = 44 := List.length_take_of_le hlong
    rw [List.append_assoc, List.getElem?_append_right (by rw [htake]), htake]
    rfl

/-- The copy is what is left of the recipient. -/
theorem ofBuffer_strlcpyInto (src : CString) :
    CString.ofBuffer (strlcpyInto (List.replicate 45 nul) src.chars) = strlcpy src 45 := by
  have htext : textOf (strlcpyInto (List.replicate 45 nul) src.chars) = src.chars.take 44 :=
    textOf_overlay_append_nul fun h => src.noNul (List.mem_of_mem_take h)
  simp only [CString.ofBuffer, strlcpy, htext]

/-- The recipient that is checked is the first 44 characters of the one supplied. -/
theorem strlcpy_eq_iff (src : CString) :
    (strlcpy src 45).chars = src.chars ↔ src.chars.length ≤ 44 :=
  List.take_eq_self_iff _

/-! ## Saving -/

section

variable (swapSdk : SwapSdk) (params : CreateTransactionParameters) (saved : SwapValidated)

/-- **The check of the copy never fails**, so what is saved is what the other checks let pass. -/
theorem saveTransactionParameters_eq :
    saveTransactionParameters swapSdk params saved
      = ((swapCopyTransactionParameters swapSdk params).isSome,
          (swapCopyTransactionParameters swapSdk params).getD saved) := by
  unfold saveTransactionParameters swapCopyTransactionParameters
  rcases swapModeOf params.destinationAddressExtraId with ⟨swapMode, templateId⟩
  simp only [getElem?_strlcpyInto, ofBuffer_strlcpyInto]
  rcases swapCoin swapSdk params.coinConfiguration with _ | ⟨ticker, decimals⟩
  · rfl
  · rcases swapSdk.strToU64 params.amount with _ | amount
    · rfl
    · rcases swapSdk.strToU64 params.feeAmount with _ | fee
      · rfl
      · rfl

/-- **The parameters are saved whole or not at all**: after a success the checks compare with the
parameters as they were supplied, after a failure with what was saved before. -/
structure SavedWhole : Prop where
  recipient : (saveTransactionParameters swapSdk params saved).1 = true → ∀ text,
    checkSwapRecipient (saveTransactionParameters swapSdk params saved).2 text = true ↔
      text = params.destinationAddress.chars
  amount : (saveTransactionParameters swapSdk params saved).1 = true → ∀ amount,
    checkSwapAmountRaw (saveTransactionParameters swapSdk params saved).2 amount = true ↔
      swapSdk.strToU64 params.amount = some amount
  fee : (saveTransactionParameters swapSdk params saved).1 = true →
    swapSdk.strToU64 params.feeAmount
      = some (saveTransactionParameters swapSdk params saved).2.fee
  template : (saveTransactionParameters swapSdk params saved).1 = true →
    (saveTransactionParameters swapSdk params saved).2.templateId
      = (swapModeOf params.destinationAddressExtraId).2
  unchanged : (saveTransactionParameters swapSdk params saved).1 = false →
    (saveTransactionParameters swapSdk params saved).2 = saved

/-- Whether the coin, the amount or the fee is refused. -/
def RefusesParameters : Prop :=
  swapCoin swapSdk params.coinConfiguration = none ∨ swapSdk.strToU64 params.amount = none ∨
    swapSdk.strToU64 params.feeAmount = none

variable {swapSdk params}

theorem swapCopyTransactionParameters_eq_none :
    swapCopyTransactionParameters swapSdk params = none ↔ RefusesParameters swapSdk params := by
  unfold swapCopyTransactionParameters RefusesParameters
  rcases swapModeOf params.destinationAddressExtraId with ⟨swapMode, templateId⟩
  rcases swapCoin swapSdk params.coinConfiguration with _ | ⟨ticker, decimals⟩ <;>
    rcases swapSdk.strToU64 params.amount with _ | amount <;>
    rcases swapSdk.strToU64 params.feeAmount with _ | fee <;> simp

theorem recipient_of_swapCopyTransactionParameters {swap : SwapValidated}
    (h : swapCopyTransactionParameters swapSdk params = some swap) :
    swap.recipient = strlcpy params.destinationAddress 45 := by
  unfold swapCopyTransactionParameters at h
  simp only [Option.bind_eq_bind, Option.bind_eq_some_iff] at h
  obtain ⟨⟨ticker, decimals⟩, -, amount, -, fee, -, hswap⟩ := h
  cases hswap
  rfl

variable (swapSdk params)

/-- **They are saved whole** exactly when the address fits the buffer, or something else is
refused. -/
theorem savedWhole_iff :
    SavedWhole swapSdk params saved ↔
      params.destinationAddress.chars.length ≤ 44 ∨ RefusesParameters swapSdk params := by
  rcases hcopy : swapCopyTransactionParameters swapSdk params with _ | swap
  · have hrefuses := swapCopyTransactionParameters_eq_none.mp hcopy
    have hsave := saveTransactionParameters_eq swapSdk params saved
    rw [hcopy, Option.isSome_none, Option.getD_none] at hsave
    refine iff_of_true ?_ (.inr hrefuses)
    constructor
    all_goals
      rw [hsave]
      intro h
      first
        | rfl
        | cases h
  · have hkeeps : ¬RefusesParameters swapSdk params := fun hrefuses => by
      rw [swapCopyTransactionParameters_eq_none.mpr hrefuses] at hcopy
      cases hcopy
    have hsave := saveTransactionParameters_eq swapSdk params saved
    rw [hcopy, Option.isSome_some, Option.getD_some] at hsave
    obtain ⟨hinit, hmode, hamount, hfee⟩ := swapCopyTransactionParameters_eq_some hcopy
    have hrecipient := recipient_of_swapCopyTransactionParameters hcopy
    rw [or_iff_left hkeeps, ← strlcpy_eq_iff, ← hrecipient]
    constructor
    · intro h
      have hcheck := h.recipient (by rw [hsave]) swap.recipient.chars
      rw [hsave] at hcheck
      exact hcheck.mp (by rw [checkSwapRecipient, hinit, Bool.true_and, beq_self_eq_true])
    · intro h
      refine ⟨fun _ text => ?_, fun _ amount => ?_, fun _ => ?_, fun _ => ?_, fun hfalse => ?_⟩
      · rw [hsave, checkSwapRecipient, hinit, Bool.true_and, beq_iff_eq, ← h, eq_comm]
      · rw [hsave, checkSwapAmountRaw, hinit, Bool.true_and, beq_iff_eq, hamount,
          Option.some.injEq, eq_comm]
      · rw [hsave, hfee]
      · rw [hsave, ← hmode]
      · rw [hsave] at hfalse
        cases hfalse

end

/-- An address of 45 characters, for a swap of SOL. -/
def longParameters : CreateTransactionParameters where
  coinConfiguration := none
  amount := [5]
  feeAmount := [1]
  destinationAddress := ⟨List.replicate 45 '1', by decide⟩
  destinationAddressExtraId := none

/-- **An address that is too long is cut**, not refused: the checks accept its first 44
characters. -/
theorem longParameters_not_savedWhole :
    ¬∀ swapSdk params saved, SavedWhole swapSdk params saved := by
  intro h
  have hsaved := h (Env.plain emptyContext.sdk plainSigner).swapSdk longParameters .zero
  rcases (savedWhole_iff _ _ _).mp hsaved with hlength | hcoin | hamount | hfee
  · revert hlength
    decide
  · cases hcoin
  · cases hamount
  · cases hfee

end AgencLedger
