import AgencLedger.Review.Items
import AgencLedger.Sol.Timestamp

/-!
# Review/Display — which reviews can be displayed

Finalization looks at the kinds of the items, not at what they hold.  Of the items of an accepted
message only token amounts and timestamps may fail to print; the review can be displayed exactly
when all of these do print.
-/

namespace AgencLedger

/-! ## Which values print -/

/-- A timestamp on a day that `rdn_to_ymd` counts; a token amount short enough, before and after its
zeros are stripped. -/
def SummaryValue.Printable : SummaryValue → Prop
  | .timestamp time => InCount (dayNumber time)
  | .tokenAmount t =>
      (rawNumeral t.value.toNat t.decimals.toNat).length < textBufferLength ∧
        (amountText t.value.toNat t.decimals.toNat t.symbol.chars).length < textBufferLength
  | _ => True

theorem rfc3339Format_ok_iff {len : ℕ} (h : 19 < len) (seconds : Int64) :
    (rfc3339Format len seconds).ret = .ok () ↔ InCount (dayNumber seconds) := by
  rw [rfc3339Format_eq h, ← rdnToYmd_ok_iff]
  rcases rdnToYmd (dayNumber seconds) with e | ymd
  · exact ⟨nofun, fun ⟨_, h⟩ => nomatch h⟩
  · exact iff_of_true rfl ⟨ymd, rfl⟩

/-- A key has a text in either form. -/
theorem printPubkey_ok (longPubkeys : Bool) (pubkey : Pubkey) :
    (printPubkey longPubkeys pubkey).ret = .ok () := by
  cases longPubkeys with
  | true => exact (printPubkey_long pubkey).1
  | false =>
      rw [printPubkey, encodeBase58_block pubkey (show 44 < 45 by decide)]
      simp only [Bool.false_eq_true, if_false]
      rw [printSummary, if_neg (by decide)]
      split <;> rfl

/-- **What prints**: everything but a bad date and a long amount. -/
theorem print_ok_iff (frame : ℕ → Hash) (longPubkeys : Bool) (value : SummaryValue) :
    (value.print frame longPubkeys).ret = .ok () ↔ value.Printable := by
  cases value with
  | amount u64 => exact iff_of_true (printAmount_ok u64) trivial
  | tokenAmount t =>
      exact (printTokenAmount_ok_iff (by decide)).trans (and_iff_right (by decide))
  | i64 i64 =>
      rw [SummaryValue.print, printI64_eq _ (by decide) (by decide)]
      exact iff_of_true rfl trivial
  | u64 u64 =>
      rw [SummaryValue.print, printU64_eq _ (by decide) (by decide)]
      exact iff_of_true rfl trivial
  | pubkey key => exact iff_of_true (printPubkey_ok longPubkeys key.val) trivial
  | hash ref => exact iff_of_true (printBase58_block _).1 trivial
  | sizedString str => exact iff_of_true rfl trivial
  | string str => exact iff_of_true rfl trivial
  | timestamp time => exact rfc3339Format_ok_iff (by decide) time
  | applicationDomain domain => exact iff_of_true (printBase58_block _).1 trivial

theorem printable_of_not_mayFail {value : SummaryValue} (h : value.mayFail = false) :
    value.Printable := by
  cases value with
  | tokenAmount => cases h
  | timestamp => cases h
  | _ => trivial

/-! ## Which reviews can be displayed -/

/-- An item is displayed exactly when its value prints. -/
theorem displayItem_ok_iff {s : TransactionSummary} (hprimary : s.primary.isSome) {i : ℕ}
    {item : SummaryItem} (hi : s.usedItems[i]? = some item) (frame : ℕ → Hash) (longPubkeys : Bool)
    (buffers : DisplayBuffers) :
    (displayItem frame s i longPubkeys buffers).1 = .ok () ↔ item.value.Printable := by
  rw [← print_ok_iff frame longPubkeys, displayItem, TransactionSummary.getElem?_slots hprimary hi]
  simp only [updateDisplayForItem]
  cases (item.value.print frame longPubkeys).ret <;> simp

/-- Every item of a finalized review is displayed, whatever the flags and the buffers. -/
def AllDisplayed (frame : ℕ → Hash) (s : TransactionSummary) (n : ℕ) : Prop :=
  ∀ longPubkeys, ∀ i < n, ∀ buffers, (displayItem frame s i longPubkeys buffers).1 = .ok ()

theorem allDisplayed_iff {s : TransactionSummary} {kinds : List SummaryItemKind}
    (h : s.finalize = .ok kinds) (frame : ℕ → Hash) :
    AllDisplayed frame s kinds.length ↔ ∀ item ∈ s.usedItems, item.value.Printable := by
  have hprimary := TransactionSummary.isSome_primary_of_finalize h
  have hlength : kinds.length = s.usedItems.length := by
    rw [TransactionSummary.finalize, if_neg (by simpa [Option.isSome_iff_ne_none] using hprimary)]
      at h
    rw [← Except.ok.inj h, List.length_map]
  constructor
  · intro hall item hitem
    obtain ⟨i, hi⟩ := List.getElem?_of_mem hitem
    have hlt : i < kinds.length := by
      rw [hlength]
      exact (List.getElem?_eq_some_iff.mp hi).1
    exact (displayItem_ok_iff hprimary hi frame true .reset).mp (hall true i hlt .reset)
  · intro hall longPubkeys i hlt buffers
    rw [hlength] at hlt
    have hi : s.usedItems[i]? = some s.usedItems[i] := List.getElem?_eq_getElem hlt
    exact (displayItem_ok_iff hprimary hi frame longPubkeys buffers).mpr
      (hall _ (List.getElem_mem _))

/-- **A finalized review can be displayed exactly when the token amounts and the timestamps of its
pattern print.** -/
theorem allDisplayed_iff_printable {ctx : TokenContext} {messageBody : Parser}
    {printConfig : PrintConfig} {s : TransactionSummary} {kinds : List SummaryItemKind}
    (h : processMessageBody ctx messageBody printConfig .reset = (.ok (), s))
    (hkinds : s.finalize = .ok kinds) (frame : ℕ → Hash) :
    ∃ parsed l, parseMessageBody ctx messageBody printConfig.header = (parsed, .ok ()) ∧
      layout parsed = some l ∧ (AllDisplayed frame s kinds.length ↔
        ∀ item ∈ l.pattern.notables ctx, item.value.Printable) := by
  obtain ⟨parsed, l, hparsed, hl, hitems⟩ := mem_usedItems_of_accepted h
  refine ⟨parsed, l, hparsed, hl, (allDisplayed_iff hkinds frame).trans ?_⟩
  have hnotable : ∀ {item : SummaryItem}, item.value.mayFail = true → item.notable = true :=
    fun h => by rw [SummaryItem.notable, h, Bool.or_true]
  constructor
  · intro hall item hitem
    have hfail := (Pattern.notables_spec hitem).2
    exact hall item ((hitems item (hnotable hfail)).mpr (.inr (.inl hitem)))
  · intro hall item hitem
    cases hfail : item.value.mayFail with
    | false => exact printable_of_not_mayFail hfail
    | true =>
        rcases (hitems item (hnotable hfail)).mp hitem with ⟨-, hmem⟩ | hmem | hmem
        · simp only [extensionWarningItems, List.mem_cons, List.not_mem_nil, or_false] at hmem
          rcases hmem with rfl | rfl <;> cases hfail
        · exact hall item hmem
        · unfold maxFeeItems at hmem
          split at hmem
          · rw [List.mem_singleton.mp hmem] at hfail
            cases hfail
          · cases hmem

/-! ## Two burns -/

def burnKeys : List Pubkey := [plainSigner, splTokenProgramId]

/-- The review of a message that burns one unit of a token with so many decimals. -/
def burnReview (decimals : UInt8) : Result Unit × TransactionSummary :=
  processMessageBody emptyContext
    (legacyBody burnKeys [writeInstruction 1 [1, 1, 0] [15, 1, 0, 0, 0, 0, 0, 0, 0, decimals]])
    (plainConfig (legacyHeader burnKeys (by decide) 1) ⟨4, plainSigner⟩) .reset

theorem burnReview_ok : (burnReview 9).1 = .ok () := by decide

theorem finalize_burnReview :
    (burnReview 9).2.finalize = .ok [.tokenAmount, .pubkey, .pubkey] := by decide

/-- The theorem on nine decimals. -/
theorem allDisplayed_burn :
    ∃ parsed l, parseMessageBody emptyContext
        (legacyBody burnKeys [writeInstruction 1 [1, 1, 0] [15, 1, 0, 0, 0, 0, 0, 0, 0, 9]])
        (legacyHeader burnKeys (by decide) 1) = (parsed, .ok ()) ∧ layout parsed = some l ∧
      (AllDisplayed (fun _ => Block.zero 32) (burnReview 9).2
          [SummaryItemKind.tokenAmount, .pubkey, .pubkey].length ↔
        ∀ item ∈ l.pattern.notables emptyContext, item.value.Printable) :=
  allDisplayed_iff_printable (Prod.ext burnReview_ok rfl) finalize_burnReview _

/-- **With two hundred decimals** the message is accepted and finalized, and its first item cannot
be displayed. -/
theorem burn_not_allDisplayed :
    (burnReview 200).1 = .ok () ∧
      (burnReview 200).2.finalize = .ok [.tokenAmount, .pubkey, .pubkey] ∧
      ¬AllDisplayed (fun _ => Block.zero 32) (burnReview 200).2 3 := by
  refine ⟨by decide, by decide, fun h => ?_⟩
  have hfirst : (displayItem (fun _ => Block.zero 32) (burnReview 200).2 0 true .reset).1
      ≠ .ok () := by decide
  exact hfirst (h true 0 (by decide) .reset)

end AgencLedger
