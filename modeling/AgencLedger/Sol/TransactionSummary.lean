import AgencLedger.Sol.Base58
import AgencLedger.Sol.Amount

/-!
# Sol/TransactionSummary — the items of a review, and their display

The summary holds one primary item, up to eleven general ones, the two nonce items and the fee
payer.  A getter hands out an unused slot or `NULL`; a setter fills the slot it is handed.  Used
general slots form a prefix of the array, so the model keeps the list of their items, with its
bound.

Items hold pointers.  Those into the message read what the message says for as long as the review
lasts.  A hash item may also point into the parsed record of an instruction, a local of
`process_message_body`: what such a pointer reads once that call has returned is the argument
`frame` of the display functions.
-/

namespace AgencLedger

/-! ## Items -/

/-- `NUM_GENERAL_ITEMS`. -/
def numGeneralItems : ℕ := 4 + 5 + 2

/-- `TITLE_SIZE`. -/
def titleSize : ℕ := 32

/-- `TEXT_BUFFER_LENGTH`, that is `BASE58_PUBKEY_LENGTH`. -/
def textBufferLength : ℕ := 45

/-- `enum SummaryItemKind`, but for `SummaryItemNone`, which is an empty slot here. -/
inductive SummaryItemKind
  | amount | tokenAmount | i64 | u64 | pubkey | hash | sizedString | string | timestamp
  | offchainMessageApplicationDomain
  deriving DecidableEq, Repr

/-- `TokenAmount`. -/
structure TokenAmount where
  value : UInt64
  symbol : CString
  decimals : UInt8
  deriving DecidableEq

/-- Where the hash of an item stands. -/
inductive HashRef
  /-- in the message -/
  | message (hash : Ptr Hash)
  /-- in a global, with the value it has when the item is set -/
  | global (hash : Hash)
  /-- in the record of the instruction with this index, a local of `process_message_body` -/
  | record (index : ℕ)
  deriving DecidableEq

/-- The union of `SummaryItem`. -/
inductive SummaryValue
  | amount (u64 : UInt64)
  | tokenAmount (tokenAmount : TokenAmount)
  | i64 (i64 : Int64)
  | u64 (u64 : UInt64)
  | pubkey (pubkey : Ptr Pubkey)
  | hash (hash : HashRef)
  | sizedString (sizedString : SizedString)
  | string (string : CString)
  | timestamp (i64 : Int64)
  | applicationDomain (domain : Ptr (Block 32))
  deriving DecidableEq

/-- The kind that goes with a value. -/
def SummaryValue.kind : SummaryValue → SummaryItemKind
  | .amount _ => .amount
  | .tokenAmount _ => .tokenAmount
  | .i64 _ => .i64
  | .u64 _ => .u64
  | .pubkey _ => .pubkey
  | .hash _ => .hash
  | .sizedString _ => .sizedString
  | .string _ => .string
  | .timestamp _ => .timestamp
  | .applicationDomain _ => .offchainMessageApplicationDomain

/-- `SummaryItem`, used. -/
structure SummaryItem where
  title : String
  value : SummaryValue
  deriving DecidableEq

/-- `transaction_type_t`. -/
inductive TransactionType
  | other | solTransfer | splTransfer | solStaking | solDeactivateStake | solActivateStake
  | solWithdraw | blindSigning | agencAction
  deriving DecidableEq, Repr

/-- `TransactionSummary`. -/
structure TransactionSummary where
  isToken2022Transfer : Bool
  feeWarning : Bool
  hookWarning : Bool
  isBlindSigning : Bool
  transactionType : TransactionType
  primary : Option SummaryItem
  feePayer : Option SummaryItem
  nonceAccount : Option SummaryItem
  nonceAuthority : Option SummaryItem
  general : List SummaryItem
  size : general.length ≤ numGeneralItems
  deriving DecidableEq

/-- `transaction_summary_reset`: the summary is zeroed. -/
def TransactionSummary.reset : TransactionSummary where
  isToken2022Transfer := false
  feeWarning := false
  hookWarning := false
  isBlindSigning := false
  transactionType := .other
  primary := none
  feePayer := none
  nonceAccount := none
  nonceAuthority := none
  general := []
  size := Nat.zero_le _

/-! ## Getters and setters -/

/-- The slots a getter can be asked for. -/
inductive Slot
  | primary | general | nonceAccount | nonceAuthority | feePayer
  deriving DecidableEq, Repr

namespace TransactionSummary

/-- The used items of a slot, in order. -/
def itemsOf (s : TransactionSummary) : Slot → List SummaryItem
  | .primary => s.primary.toList
  | .general => s.general
  | .nonceAccount => s.nonceAccount.toList
  | .nonceAuthority => s.nonceAuthority.toList
  | .feePayer => s.feePayer.toList

/-- How many items a slot takes. -/
def capacity : Slot → ℕ
  | .general => numGeneralItems
  | _ => 1

/-- A getter followed by its setter: `none` where the getter hands out `NULL`. -/
def put (s : TransactionSummary) : Slot → SummaryItem → Option TransactionSummary
  | .primary, item => if s.primary.isNone then some { s with primary := some item } else none
  | .general, item =>
      if h : s.general.length < numGeneralItems then
        some { s with general := s.general ++ [item], size := by simpa using h }
      else none
  | .nonceAccount, item =>
      if s.nonceAccount.isNone then some { s with nonceAccount := some item } else none
  | .nonceAuthority, item =>
      if s.nonceAuthority.isNone then some { s with nonceAuthority := some item } else none
  | .feePayer, item => if s.feePayer.isNone then some { s with feePayer := some item } else none

/-- `transaction_summary_primary_or_general_item`. -/
def primaryOrGeneral (s : TransactionSummary) : Slot :=
  if s.primary.isNone then .primary else .general

/-- **A slot can be filled exactly while it has room.** -/
theorem put_isSome {s : TransactionSummary} {slot : Slot} {item : SummaryItem} :
    (s.put slot item).isSome ↔ (s.itemsOf slot).length < capacity slot := by
  cases slot <;> simp only [put, itemsOf, capacity] <;> split <;> simp_all

/-- **Filling a slot appends to it and leaves the others alone.** -/
theorem itemsOf_put {s s' : TransactionSummary} {slot : Slot} {item : SummaryItem}
    (h : s.put slot item = some s') (slot' : Slot) :
    s'.itemsOf slot' = s.itemsOf slot' ++ if slot' = slot then [item] else [] := by
  cases slot <;> simp only [put] at h <;> split at h <;> simp at h <;> subst h <;>
    cases slot' <;> simp_all [itemsOf]

theorem length_itemsOf_le (s : TransactionSummary) (slot : Slot) :
    (s.itemsOf slot).length ≤ capacity slot := by
  have hone : ∀ o : Option SummaryItem, o.toList.length ≤ 1 := fun o => by cases o <;> simp
  cases slot
  case general => exact s.size
  all_goals exact hone _

@[simp] theorem itemsOf_reset (slot : Slot) : reset.itemsOf slot = [] := by cases slot <;> rfl

/-- `transaction_summary_set_fee_payer_pubkey`. -/
def setFeePayerPubkey (s : TransactionSummary) (pubkey : Ptr Pubkey) : Result TransactionSummary :=
  match s.put .feePayer ⟨"Fee payer", .pubkey pubkey⟩ with
  | some s' => .ok s'
  | none => .error .bail

/-! ## Finding an item -/

/-- `transaction_summary_find_item`: the slots by index.  The primary slot and the fee payer's
count even when unused. -/
def slots (s : TransactionSummary) : List (Option SummaryItem) :=
  [s.primary] ++ s.general.map some ++ s.nonceAccount.toList.map some
    ++ s.nonceAuthority.toList.map some ++ [s.feePayer]

/-- The used items in the order of the review. -/
def usedItems (s : TransactionSummary) : List SummaryItem :=
  s.primary.toList ++ s.general ++ s.nonceAccount.toList ++ s.nonceAuthority.toList
    ++ s.feePayer.toList

theorem usedItems_eq_itemsOf (s : TransactionSummary) :
    s.usedItems = s.itemsOf .primary ++ s.itemsOf .general ++ s.itemsOf .nonceAccount
      ++ s.itemsOf .nonceAuthority ++ s.itemsOf .feePayer := rfl

theorem mem_usedItems {s : TransactionSummary} {item : SummaryItem} :
    item ∈ s.usedItems ↔ ∃ slot, item ∈ s.itemsOf slot := by
  rw [usedItems_eq_itemsOf]
  constructor
  · simp only [List.mem_append]
    rintro ((((h | h) | h) | h) | h) <;> exact ⟨_, h⟩
  · rintro ⟨slot, h⟩
    cases slot <;> simp [h]

/-- **The slots start with the used items** once there is a primary one. -/
theorem usedItems_prefix_slots {s : TransactionSummary} (h : s.primary.isSome) :
    s.usedItems.map some <+: s.slots := by
  obtain ⟨item, hitem⟩ := Option.isSome_iff_exists.mp h
  cases hf : s.feePayer <;> simp [usedItems, slots, hitem, hf]

theorem getElem?_slots {s : TransactionSummary} (h : s.primary.isSome) {i : ℕ} {item : SummaryItem}
    (hi : s.usedItems[i]? = some item) : s.slots[i]? = some (some item) := by
  obtain ⟨unused, hslots⟩ := usedItems_prefix_slots h
  obtain ⟨hlt, -⟩ := List.getElem?_eq_some_iff.mp hi
  rw [← hslots, List.getElem?_append_left (by simpa using hlt), List.getElem?_map, hi]
  rfl

theorem mem_usedItems_of_mem_slots {s : TransactionSummary} {item : SummaryItem}
    (h : some item ∈ s.slots) : item ∈ s.usedItems := by
  simp only [slots, usedItems, List.mem_append, List.mem_map, List.mem_singleton, Option.some.injEq,
    exists_eq_right, Option.mem_toList] at h ⊢
  simpa only [eq_comm] using h

/-- `transaction_summary_finalize`: the kinds of the used items. -/
def finalize (s : TransactionSummary) : Result (List SummaryItemKind) :=
  if s.primary.isNone then .error .bail
  else .ok (s.usedItems.map fun item => item.value.kind)

/-- Only a summary with a primary item can be finalized. -/
theorem isSome_primary_of_finalize {s : TransactionSummary} {kinds : List SummaryItemKind}
    (h : s.finalize = .ok kinds) : s.primary.isSome := by
  unfold finalize at h
  split at h
  · cases h
  · simpa [Option.isSome_iff_ne_none] using ‹¬s.primary.isNone = true›

end TransactionSummary

/-! ## Display -/

/-- `G_transaction_summary_title` and `G_transaction_summary_text`. -/
structure DisplayBuffers where
  title : List Char
  text : List Char
  deriving DecidableEq

/-- `transaction_summary_reset` zeroes the two buffers. -/
def DisplayBuffers.reset : DisplayBuffers :=
  ⟨List.replicate titleSize nul, List.replicate textBufferLength nul⟩

/-- What a hash reference reads. -/
def HashRef.read (frame : ℕ → Hash) : HashRef → Hash
  | .message p => p.val
  | .global h => h
  | .record index => frame index

/-- A base58 text, as `encode_base58` leaves it. -/
def printBase58 (bytes : List UInt8) (outLength : ℕ) : Printed :=
  match encodeBase58 bytes outLength with
  | .ok text => ⟨text ++ [nul], .ok ()⟩
  | .error e => ⟨[], .error e⟩

/-- A key in full, or its two ends. -/
def printPubkey (longPubkeys : Bool) (pubkey : Pubkey) : Printed :=
  match encodeBase58 pubkey.data 45 with
  | .error e => ⟨[], .error e⟩
  | .ok tmpBuf =>
      if longPubkeys then printString tmpBuf textBufferLength else printSummary tmpBuf 17 7 7

/-- The text of an item: one arm of `transaction_summary_update_display_for_item` each.  The return
codes of the string printers are not looked at. -/
def SummaryValue.print (frame : ℕ → Hash) (longPubkeys : Bool) : SummaryValue → Printed
  | .amount value => printAmount value textBufferLength
  | .tokenAmount t => printTokenAmount t.value (some t.symbol) t.decimals textBufferLength
  | .i64 value => printI64 value textBufferLength
  | .u64 value => printU64 value textBufferLength
  | .pubkey key => printPubkey longPubkeys key.val
  | .hash ref => printBase58 (ref.read frame).data textBufferLength
  | .string str => ⟨(printString str.chars textBufferLength).written, .ok ()⟩
  | .sizedString str => ⟨(printSizedString str textBufferLength).written, .ok ()⟩
  | .timestamp value => printTimestamp value textBufferLength
  | .applicationDomain domain => printBase58 domain.val.data textBufferLength

/-- `transaction_summary_update_display_for_item`: the title changes only when the text
succeeded. -/
def updateDisplayForItem (frame : ℕ → Hash) (longPubkeys : Bool) (buffers : DisplayBuffers) :
    Option SummaryItem → Result Unit × DisplayBuffers
  | none => (.error .bail, buffers)
  | some item =>
      let text := item.value.print frame longPubkeys
      let buffers := { buffers with text := overlay text.written buffers.text }
      match text.ret with
      | .error e => (.error e, buffers)
      | .ok () =>
          let title := printString item.title.toList titleSize
          (.ok (), { buffers with title := overlay title.written buffers.title })

/-- `transaction_summary_display_item`. -/
def displayItem (frame : ℕ → Hash) (s : TransactionSummary) (itemIndex : ℕ) (longPubkeys : Bool)
    (buffers : DisplayBuffers) : Result Unit × DisplayBuffers :=
  match s.slots[itemIndex]? with
  | none => (.error .bail, buffers)
  | some item => updateDisplayForItem frame longPubkeys buffers item

/-- The titles and texts of a review, one `transaction_summary_display_item` after the other. -/
def displayAll (frame : ℕ → Hash) (s : TransactionSummary) (longPubkeys : Bool) :
    List ℕ → DisplayBuffers → List (List Char × List Char)
  | [], _ => []
  | i :: rest, buffers =>
      let shown := (displayItem frame s i longPubkeys buffers).2
      (textOf shown.title, textOf shown.text) :: displayAll frame s longPubkeys rest shown

/-- Each item of a review is displayed by one call, on the buffers the calls before it left. -/
theorem getElem?_displayAll (frame : ℕ → Hash) (s : TransactionSummary) (longPubkeys : Bool)
    {indices : List ℕ} {k i : ℕ} (hi : indices[k]? = some i) (buffers : DisplayBuffers) :
    ∃ before, (displayAll frame s longPubkeys indices buffers)[k]?
      = some (textOf (displayItem frame s i longPubkeys before).2.title,
          textOf (displayItem frame s i longPubkeys before).2.text) := by
  induction indices generalizing k buffers with
  | nil => simp at hi
  | cons j indices ih =>
      cases k with
      | zero =>
          obtain rfl : j = i := by simpa using hi
          exact ⟨buffers, by simp [displayAll]⟩
      | succ k => simpa [displayAll] using ih (by simpa using hi) _

theorem length_displayAll (frame : ℕ → Hash) (s : TransactionSummary) (longPubkeys : Bool)
    (indices : List ℕ) (buffers : DisplayBuffers) :
    (displayAll frame s longPubkeys indices buffers).length = indices.length := by
  induction indices generalizing buffers with
  | nil => rfl
  | cons i indices ih => exact congrArg (· + 1) (ih _)

/-! ## Texts of keys and hashes -/

/-- The base58 alphabet has no `NUL`. -/
theorem nul_notMem_base58Numeral (input : List UInt8) : nul ∉ base58Numeral input := by
  have hchar : ∀ a < 58, base58Char a ≠ nul := by decide
  intro h
  rcases List.mem_append.mp h with h | h
  · exact absurd (List.mem_replicate.mp h).2 (by decide)
  · obtain ⟨a, ha, hc⟩ := List.mem_map.mp h
    exact hchar a (Nat.digits_lt_base (by omega) (List.mem_reverse.mp ha)) hc

/-- **A hash is shown as its base58 numeral.** -/
theorem printBase58_block (b : Block 32) :
    (printBase58 b.data textBufferLength).ret = .ok () ∧
      ∀ buffer, textOf (overlay (printBase58 b.data textBufferLength).written buffer)
        = base58Numeral b.data := by
  rw [printBase58, encodeBase58_block b (show 44 < textBufferLength by decide)]
  exact ⟨rfl, fun buffer => textOf_overlay_append_nul (nul_notMem_base58Numeral _)⟩

/-- **A key shown in full is its base58 numeral.** -/
theorem printPubkey_long (pubkey : Pubkey) :
    (printPubkey true pubkey).ret = .ok () ∧
      ∀ buffer, textOf (overlay (printPubkey true pubkey).written buffer)
        = base58Numeral pubkey.data := by
  have hlen := length_base58Numeral_le pubkey.size
  rw [printPubkey, encodeBase58_block pubkey (show 44 < 45 by decide)]
  have hfits : (base58Numeral pubkey.data).length < textBufferLength :=
    Nat.lt_of_le_of_lt hlen (by decide)
  exact printString_of_fits hfits (nul_notMem_base58Numeral _)

end AgencLedger
