import AgencLedger.App.Crosschain
import AgencLedger.App.SwapReview

/-!
# App/TokenSwap — what a swap of tokens signs

`check_swap_validity_token` loops over the review and keeps flags.  It passes over the keys it does
not know, so that a review is held to its amount, its texts and its fee: of all the patterns only
those of a transfer show a token amount under the title `Amount`.
-/

namespace AgencLedger

/-! ## The loop -/

section

variable {swapSdk : SwapSdk} {swap : SwapValidated} {info : TrustedInfo} {flags flags' : TokenFlags}

/-- What `check_swap_validity_token` asks of an item that is not a key, as shown. -/
def TokenItemOk (swapSdk : SwapSdk) (swap : SwapValidated) (info : TrustedInfo) :
    SummaryItemKind × List Char × List Char → Prop
  | (.tokenAmount, title, text) => title = "Amount".toList ∧
    checkSwapAmount swapSdk swap text = true
  | (.amount, title, text) => title = "Max fees".toList ∧ checkSwapFee swapSdk swap text = true
  | (.string, title, text) => title = "To".toList ∧ info.encodedOwnerAddress.chars = text ∧
      checkSwapRecipient swap text = true
  | (.pubkey, _, _) => True
  | _ => False

/-- A key sets other flags than those of the amount and of the wallet. -/
theorem checkTokenPubkey_flags {title text : List Char}
    (h : checkTokenPubkey info title text flags = .ok flags') :
    flags'.amountOk = flags.amountOk ∧ flags'.destSolAddressOk = flags.destSolAddressOk := by
  unfold checkTokenPubkey at h
  repeat' split at h
  all_goals first | cases h; exact ⟨rfl, rfl⟩ | cases h

/-- **One pass of the loop**: it lets an item through, and sets the flag of its kind. -/
theorem checkTokenItem_ok {kind : SummaryItemKind} {title text : List Char}
    (h : checkTokenItem swapSdk swap info kind title text flags = .ok flags') :
    TokenItemOk swapSdk swap info (kind, title, text) ∧
      (kind = .tokenAmount → flags.amountOk = false) ∧
      flags'.amountOk = (flags.amountOk || decide (kind = .tokenAmount)) ∧
      flags'.destSolAddressOk = (flags.destSolAddressOk || decide (kind = .string)) := by
  unfold checkTokenItem at h
  split at h
  · split at h
    · cases h
    split at h
    · cases h
    split at h
    · cases h
    · rename_i htitle hcheck hfirst
      cases h
      refine ⟨⟨not_not.mp htitle, ?_⟩, fun _ => ?_, ?_, ?_⟩
      · simpa using hcheck
      · simpa using hfirst
      · simp
      · simp
  · split at h
    · cases h
    split at h
    · cases h
    · rename_i htitle hcheck
      cases h
      refine ⟨⟨not_not.mp htitle, ?_⟩, fun hkind => ?_, ?_, ?_⟩
      · simpa using hcheck
      · cases hkind
      · simp
      · simp
  · obtain ⟨hamount, hdest⟩ := checkTokenPubkey_flags h
    exact ⟨trivial, fun hkind => (by cases hkind), by simp [hamount], by simp [hdest]⟩
  · split at h
    · cases h
    split at h
    · cases h
    split at h
    · cases h
    · rename_i htitle howner hcheck
      cases h
      refine ⟨⟨not_not.mp htitle, not_not.mp howner, ?_⟩, fun hkind => ?_, ?_, ?_⟩
      · simpa using hcheck
      · cases hkind
      · simp
      · simp
  · cases h

/-- **The whole loop**: every item is let through, at most one of them a token amount, and the
flags tell what was there. -/
theorem checkTokenItems_ok {entries : List (SummaryItemKind × List Char × List Char)}
    (h : checkTokenItems swapSdk swap info entries flags = .ok flags') :
    (∀ entry ∈ entries, TokenItemOk swapSdk swap info entry) ∧
      (entries.map Prod.fst).count .tokenAmount ≤ (if flags.amountOk then 0 else 1) ∧
      (flags'.amountOk = true → flags.amountOk = true ∨ .tokenAmount ∈ entries.map Prod.fst) ∧
      (flags'.destSolAddressOk = true →
        flags.destSolAddressOk = true ∨ .string ∈ entries.map Prod.fst) := by
  induction entries generalizing flags with
  | nil =>
      cases h
      exact ⟨fun _ hmem => absurd hmem List.not_mem_nil, Nat.zero_le _, .inl, .inl⟩
  | cons entry entries ih =>
      obtain ⟨kind, title, text⟩ := entry
      rw [checkTokenItems] at h
      rcases hitem : checkTokenItem swapSdk swap info kind title text flags with code | flags₁
      · rw [hitem] at h
        cases h
      rw [hitem] at h
      obtain ⟨hok, hfirst, hamount, hdest⟩ := checkTokenItem_ok hitem
      obtain ⟨hall, hcount, hlast, hlastDest⟩ := ih h
      refine ⟨List.forall_mem_cons.mpr ⟨hok, hall⟩, ?_, fun h' => ?_, fun h' => ?_⟩
      · rw [List.map_cons, List.count_cons]
        by_cases hkind : kind = .tokenAmount
        · simp only [hfirst hkind, hamount, hkind] at hcount ⊢
          simpa using hcount
        · simpa [hamount, hkind] using hcount
      · rw [List.map_cons, List.mem_cons]
        rcases hlast h' with hnow | hlater
        · rw [hamount, Bool.or_eq_true, decide_eq_true_eq] at hnow
          exact hnow.imp_right fun hkind => .inl hkind.symm
        · exact .inr (.inr hlater)
      · rw [List.map_cons, List.mem_cons]
        rcases hlastDest h' with hnow | hlater
        · rw [hdest, Bool.or_eq_true, decide_eq_true_eq] at hnow
          exact hnow.imp_right fun hkind => .inl hkind.symm
        · exact .inr (.inr hlater)

end

/-! ## Patterns with a token amount -/

section

variable {printConfig : PrintConfig} {ctx : TokenContext}

/-- Beside transfers only token instructions show token amounts. -/
theorem splToken_of_tokenAmount {pattern : Pattern} {item : SummaryItem}
    (hitem : item ∈ pattern.notables ctx) (hkind : item.value.kind = .tokenAmount)
    (hnone : pattern.transfer? = none) : ∃ info, pattern = .splToken info := by
  have htime : ∀ lockup, item ∉ lockupTime lockup := fun lockup hmem => by
    unfold lockupTime at hmem
    split at hmem
    · split at hmem
      · obtain rfl := List.mem_singleton.mp hmem
        cases hkind
      · cases hmem
    · cases hmem
  have hstake : ∀ info : StakeInfo, item ∉ info.notables := fun info hmem => by
    unfold StakeInfo.notables at hmem
    split at hmem
    · exact htime _ hmem
    · exact htime _ hmem
    · obtain ⟨time, -, rfl⟩ := List.mem_map.mp hmem
      cases hkind
    · obtain ⟨time, -, rfl⟩ := List.mem_map.mp hmem
      cases hkind
    · cases hmem
  have hagenc : ∀ body : AgencBody, item ∉ body.notables := fun body hmem => by
    unfold AgencBody.notables at hmem
    split at hmem
    · obtain rfl := List.mem_singleton.mp hmem
      cases hkind
    · cases hmem
  unfold Pattern.notables at hitem
  split at hitem
  case h_1 => exact absurd hitem (hstake _)
  case h_2 info => exact ⟨info, rfl⟩
  case h_3 => exact absurd hitem (hagenc _)
  case h_8 => cases hnone
  case h_9 => exact absurd hitem (hagenc _)
  case h_10 => cases hitem
  all_goals exact absurd hitem (htime _)

/-- Such an instruction shows no item under the title of a transfer. -/
theorem titles_ne_amount {info : SplTokenInfo} (hnone : info.body.transfer? = none) :
    (printSplTokenInfo ctx info printConfig).AllItems fun item => item.title ≠ "Amount" := by
  have hsign : ∀ sign, (printSplTokenSign sign printConfig).AllItems
      fun item => item.title ≠ "Amount" := fun sign => by
    rcases sign with signer | ⟨account, signers⟩
    · unfold printSplTokenSign generalAuthority
      by_cases hshow : printConfig.showAuthority signer = true <;> simp [hshow]
    · simp [printSplTokenSign]
  rcases info with ⟨isToken2022Kind, warning, body⟩
  cases body with
  | transferChecked info | transferCheckedWithFee info => cases hnone
  | initializeMint info =>
      rcases h : info.freezeAuthority with _ | authority <;>
        simp [printSplTokenInfo, printSplTokenInitializeMintInfo, h]
  | setAuthority info =>
      rcases h : info.newAuthority with _ | authority <;>
        rcases hclear : info.newAuthority.isNone <;>
        simp [printSplTokenInfo, printSplTokenSetAuthorityInfo, h, hsign]
  | initializeMultisig info =>
      simp only [printSplTokenInfo, printSplTokenInitializeMultisigInfo, summaryItemSetMultisigMOfN]
      split <;> simp
  | _ =>
      simp [printSplTokenInfo, printSplTokenInitializeAccountInfo, printSplTokenApproveInfo,
        printSplTokenRevokeInfo, printSplTokenMintToInfo, printSplTokenBurnInfo,
        printSplTokenCloseAccountInfo, printSplTokenFreezeAccountInfo,
        printSplTokenThawAccountInfo, printSplTokenSyncNativeInfo, hsign]

/-- **A review with a token amount and the title `Amount` shows a transfer.** -/
theorem transfer?_of_tokenAmount {l : Layout} {item titled : SummaryItem}
    (hitem : item ∈ l.pattern.notables ctx) (hkind : item.value.kind = .tokenAmount)
    (hmem : titled ∈ l.usedItems printConfig ctx) (htitle : titled.title = "Amount") :
    ∃ isToken2022Kind transfer, l.pattern.transfer? = some (isToken2022Kind, transfer) := by
  rcases htransfer : l.pattern.transfer? with _ | ⟨isToken2022Kind, transfer⟩
  · obtain ⟨info, hpattern⟩ := splToken_of_tokenAmount hitem hkind htransfer
    have hnone : info.body.transfer? = none := by
      simpa [hpattern, Pattern.transfer?] using htransfer
    have htitles := @titles_ne_amount printConfig ctx info hnone
    simp only [Layout.usedItems, hpattern, Pattern.print, List.mem_append] at hmem
    rcases hmem with (((hprimary | hwarning) | hgeneral) | hfee) | hnonce
    · exact absurd htitle (htitles.items hprimary)
    · split at hwarning
      · rcases List.mem_pair.mp hwarning with rfl | rfl <;> simp at htitle
      · cases hwarning
    · exact absurd htitle (htitles.items hgeneral)
    · unfold maxFeeItems at hfee
      split at hfee
      · obtain rfl := List.mem_singleton.mp hfee
        simp at htitle
      · cases hfee
    · unfold nonceItems at hnonce
      split at hnonce
      · split at hnonce
        · rcases List.mem_pair.mp hnonce with rfl | rfl <;> simp at htitle
        · cases hnonce
      · cases hnonce
  · exact ⟨isToken2022Kind, transfer, rfl⟩

end

/-! ## What a review tells of its token -/

/-- Whether the token is one of Token-2022, and the two warnings. -/
def TransactionSummary.tokenFlags (s : TransactionSummary) : Bool × Bool × Bool :=
  (s.isToken2022Transfer, s.feeWarning, s.hookWarning)

/-- What an effect makes of them. -/
def Effect.tokenFlags (flags : Bool × Bool × Bool) : Effect → Bool × Bool × Bool
  | .setIsToken2022Transfer transfer => (transfer, flags.2)
  | .setTokenFeeWarning warning => (flags.1, warning, flags.2.2)
  | .setTokenHookWarning warning => (flags.1, flags.2.1, warning)
  | _ => flags

namespace Script

/-- What a script makes of them. -/
def tokenFlags (script : Script) (flags : Bool × Bool × Bool) : Bool × Bool × Bool :=
  script.foldl Effect.tokenFlags flags

theorem tokenFlags_put {s s' : TransactionSummary} {slot : Slot} {item : SummaryItem}
    (h : s.put slot item = some s') : s'.tokenFlags = s.tokenFlags := by
  cases slot <;> simp only [TransactionSummary.put] at h <;> split at h <;> cases h <;> rfl

theorem tokenFlags_step {s s' : TransactionSummary} {e : Effect} (h : step s e = .ok s') :
    s'.tokenFlags = e.tokenFlags s.tokenFlags := by
  unfold step at h
  split at h
  · split at h <;> cases h
    exact tokenFlags_put ‹_›
  · split at h <;> cases h
    exact tokenFlags_put ‹_›
  all_goals cases h
  all_goals rfl

/-- **A script that returns has set the flags.** -/
theorem tokenFlags_play {script : Script} {s s' : TransactionSummary}
    (h : play script s = (.ok (), s')) : s'.tokenFlags = script.tokenFlags s.tokenFlags := by
  induction script generalizing s with
  | nil => cases h; rfl
  | cons e script ih =>
      rw [play] at h
      split at h
      · rename_i hstep
        rw [ih h, tokenFlags_step hstep]
        rfl
      · cases h

variable (a b : Script) (flags : Bool × Bool × Bool)

@[simp] theorem tokenFlags_nil : tokenFlags [] flags = flags := rfl

@[simp] theorem tokenFlags_append : tokenFlags (a ++ b) flags = b.tokenFlags (a.tokenFlags flags) :=
  List.foldl_append

@[simp] theorem tokenFlags_cons (e : Effect) :
    tokenFlags (e :: a) flags = a.tokenFlags (e.tokenFlags flags) := rfl

@[simp] theorem tokenFlags_primary (title : String) (value : SummaryValue) :
    tokenFlags (primary title value) flags = flags := rfl

@[simp] theorem tokenFlags_general (title : String) (value : SummaryValue) :
    tokenFlags (general title value) flags = flags := rfl

@[simp] theorem tokenFlags_ite (c : Prop) [Decidable c] :
    tokenFlags (if c then a else b) flags = if c then a.tokenFlags flags else b.tokenFlags flags :=
  apply_ite (tokenFlags · flags) c a b

end Script

section

variable {printConfig : PrintConfig} {ctx : TokenContext}

/-- The printer of a transfer sets the flags. -/
theorem tokenFlags_printSplTokenTransferInfo (transfer : SplTokenTransferInfo)
    (isToken2022Kind : Bool) (flags : Bool × Bool × Bool) :
    (printSplTokenTransferInfo ctx transfer printConfig isToken2022Kind true).tokenFlags flags
      = (isToken2022Kind, isToken2022Kind && transfer.transferCheckedWithFeeAmount.isNone,
          isToken2022Kind && transfer.isTransferCheckedWithHook) := by
  have hto : ∀ flags, (transferToItem ctx).tokenFlags flags = flags := fun flags => by
    unfold transferToItem
    split <;> rfl
  have hfee : ∀ symbol flags, (transferFeeItem transfer symbol).tokenFlags flags = flags :=
    fun symbol flags => by
      unfold transferFeeItem
      split
      · split <;> rfl
      · rfl
  have hsign : ∀ flags, (printSplTokenSign transfer.sign printConfig).tokenFlags flags = flags :=
    fun flags => by
      unfold printSplTokenSign generalAuthority
      split
      · split <;> rfl
      · rfl
  simp [printSplTokenTransferInfo, hto, hfee, hsign, Effect.tokenFlags]

/-- A transfer whose recipient can be shown is printed as one, created account or not. -/
theorem print_transfer {pattern : Pattern} {isToken2022Kind : Bool}
    {transfer : SplTokenTransferInfo} {toAddress : CString}
    (h : pattern.transfer? = some (isToken2022Kind, transfer))
    (hto : getTransferToAddress ctx = some toAddress) :
    pattern.print printConfig ctx
      = printSplTokenTransferInfo ctx transfer printConfig isToken2022Kind true := by
  unfold Pattern.transfer? at h
  split at h
  · rename_i info
    obtain ⟨body, hbody, hpair⟩ := Option.map_eq_some_iff.mp h
    cases hpair
    rcases info with ⟨kind, warning, body⟩
    cases body <;> cases hbody <;> rfl
  · cases h
    exact printSplAssociatedTokenAccountCreateWithTransfer_eq hto
  · cases h

/-- **An accepted transfer has its flags in the summary.** -/
theorem tokenFlags_of_accepted {messageBody : Parser} {s : TransactionSummary} {l : Layout}
    {parsed : List ParsedInstruction} {isToken2022Kind : Bool} {transfer : SplTokenTransferInfo}
    {toAddress : CString}
    (h : processMessageBody ctx messageBody printConfig .reset = (.ok (), s))
    (hparsed : parseMessageBody ctx messageBody printConfig.header = (parsed, .ok ()))
    (hl : layout parsed = some l)
    (htransfer : l.pattern.transfer? = some (isToken2022Kind, transfer))
    (hto : getTransferToAddress ctx = some toAddress) :
    s.tokenFlags = (isToken2022Kind,
      isToken2022Kind && transfer.transferCheckedWithFeeAmount.isNone,
      isToken2022Kind && transfer.isTransferCheckedWithHook) := by
  have hfee : ∀ flags, Script.tokenFlags
      (if l.maxFee ≠ 0 then printComputeBudgetMaxFee l.maxFee else []) flags = flags :=
        fun flags => by
    split <;> rfl
  unfold processMessageBody messageBodyScript at h
  simp only [hparsed, printMessageBody_eq, hl] at h
  rw [Script.tokenFlags_play h, Script.tokenFlags_append, Layout.script, Script.tokenFlags_append,
    hfee, Script.tokenFlags_append, print_transfer htransfer hto,
    tokenFlags_printSplTokenTransferInfo]

/-- The items of a transfer's review in a swap. -/
theorem usedItems_tokenTransfer {l : Layout} {isToken2022Kind : Bool}
    {transfer : SplTokenTransferInfo} {toAddress : CString}
    (hfull : printConfig.forceFullPrint = true)
    (htransfer : l.pattern.transfer? = some (isToken2022Kind, transfer))
    (hto : getTransferToAddress ctx = some toAddress) :
    l.usedItems printConfig ctx
      = ⟨"Amount", .tokenAmount ⟨transfer.amount,
          getTokenSymbol ctx transfer.mintAccount.val isToken2022Kind, transfer.decimals⟩⟩
        :: ((if l.warning then extensionWarningItems else [])
          ++ [⟨"Token address", .pubkey transfer.mintAccount⟩, ⟨"To", .string toAddress⟩,
              ⟨"To (token account)", .pubkey transfer.destAccount⟩]
          ++ Script.items .general (transferFeeItem transfer
              (getTokenSymbol ctx transfer.mintAccount.val isToken2022Kind))
          ++ Script.items .general (printSplTokenSign transfer.sign printConfig)
          ++ maxFeeItems l.maxFee ++ nonceItems printConfig l.nonce) := by
  simp [Layout.usedItems, print_transfer htransfer hto, printSplTokenTransferInfo, hfull,
    transferToItem, hto, Script.itemAt, Script.GeneralOnly.items_primary]

end

/-! ## Signed swaps -/

/-- Only a token transfer, alone or after the creation of an account, is shown as one. -/
theorem recognise_eq_transfer {core : List InstructionInfo} {pattern : Pattern}
    {isToken2022Kind : Bool} {transfer : SplTokenTransferInfo} (h : recognise core = some pattern)
    (ht : pattern.transfer? = some (isToken2022Kind, transfer)) :
    ∃ info, info.isToken2022Kind = isToken2022Kind ∧ info.body.transfer? = some transfer ∧
      (core = [.splToken info] ∨
        ∃ create, core = [.splAssociatedTokenAccount create, .splToken info]) := by
  unfold recognise at h
  split at h
  · unfold recogniseOne at h
    split at h <;> (cases h; try cases ht)
    rename_i info
    obtain ⟨body, hbody, hpair⟩ := Option.map_eq_some_iff.mp ht
    cases hpair
    exact ⟨info, rfl, hbody, .inl rfl⟩
  · unfold recogniseTwo at h
    split at h <;> cases h <;> cases ht
    · exact ⟨_, rfl, rfl, .inr ⟨_, rfl⟩⟩
    · exact ⟨_, rfl, rfl, .inr ⟨_, rfl⟩⟩
  · unfold recogniseThree at h
    split at h <;> cases h <;> cases ht
  · unfold recogniseFour at h
    split at h <;> cases h
    cases ht
  · cases h

/-- The mode and the ticker lead to `check_swap_validity_token`. -/
theorem checkSwapValidityToken_of_valid {env : Env} {frame : ℕ → Hash} {app : App}
    {kinds : List SummaryItemKind} (hmode : app.swap.swapMode = .standard)
    (hticker : app.swap.ticker.chars ≠ "SOL".toList)
    (h : checkSwapValidity env frame app kinds = .ok ()) :
    (app.summary.isToken2022Transfer = true →
        app.summary.feeWarning = false ∧ app.summary.hookWarning = false) ∧
      checkSwapValidityToken env.swapSdk app.swap env.sdk app.trustedInfo
        (displayedItems frame app.summary kinds app.buffers) app.summary.isToken2022Transfer
          = .ok () := by
  unfold checkSwapValidity at h
  rw [hmode] at h
  simp only at h
  rw [if_pos (by rw [isTokenTransaction, bne_iff_ne]; exact hticker)] at h
  split at h
  · cases h
  split at h
  · cases h
  rename_i hfee hhook
  refine ⟨fun htoken => ⟨?_, ?_⟩, h⟩
  · simpa [htoken] using hfee
  · simpa [htoken] using hhook

/-- What `check_swap_validity_token` has found when it returns. -/
theorem checkSwapValidityToken_ok {swapSdk : SwapSdk} {swap : SwapValidated} {sdk : Sdk}
    {trustedInfo : Option TrustedInfo} {isToken2022 : Bool}
    {items : List (SummaryItemKind × List Char × List Char)}
    (h : checkSwapValidityToken swapSdk swap sdk trustedInfo items isToken2022 = .ok ()) :
    ∃ info flags, trustedInfo = some info ∧
      checkTokenItems swapSdk swap info items ⟨false, false, false, false, false⟩ = .ok flags ∧
      flags.amountOk = true ∧ flags.destSolAddressOk = true := by
  rcases trustedInfo with _ | info
  · cases h
  rcases hitems : checkTokenItems swapSdk swap info items ⟨false, false, false, false, false⟩
    with code | flags
  · simp only [checkSwapValidityToken, hitems] at h
    split at h
    · cases h
    · split at h <;> cases h
  · refine ⟨info, flags, rfl, hitems, ?_⟩
    simp only [checkSwapValidityToken, hitems] at h
    split at h
    · cases h
    split at h
    · cases h
    change (if (!flags.amountOk || !flags.mintOk || !flags.destAtaOk || !flags.destSolAddressOk)
      = true then _ else _) = _ at h
    split at h
    · cases h
    · rename_i hflags
      simp only [Bool.or_eq_true, Bool.not_eq_true', not_or, Bool.not_eq_false] at hflags
      exact ⟨hflags.1.1.1, hflags.2⟩

section

variable {swapSdk : SwapSdk} {swap : SwapValidated} {frame : ℕ → Hash} {printConfig : PrintConfig}
  {ctx : TokenContext} {l : Layout} {info : TrustedInfo} {flags : TokenFlags}

/-- **A review that the loop lets through shows a transfer.** -/
theorem transfer?_of_checkTokenItems {messageBody : Parser} {s : TransactionSummary}
    {parsed : List ParsedInstruction}
    (hbody : processMessageBody ctx messageBody printConfig .reset = (.ok (), s))
    (hparsed : parseMessageBody ctx messageBody printConfig.header = (parsed, .ok ()))
    (hl : layout parsed = some l)
    (h : checkTokenItems swapSdk swap info
      (shownItems frame (l.usedItems printConfig ctx) .reset) ⟨false, false, false, false, false⟩
        = .ok flags) (hamount : flags.amountOk = true) :
    ∃ isToken2022Kind transfer, l.pattern.transfer? = some (isToken2022Kind, transfer) := by
  obtain ⟨hall, -, hlast, -⟩ := checkTokenItems_ok h
  have hkinds := @map_kind_shownItems frame (l.usedItems printConfig ctx) .reset
  obtain ⟨⟨kind, title, text⟩, hentry, rfl⟩ :=
    List.mem_map.mp ((hlast hamount).resolve_left Bool.false_ne_true)
  obtain ⟨item, hitem, hkind⟩ : ∃ item ∈ l.usedItems printConfig ctx,
      item.value.kind = .tokenAmount :=
    List.mem_map.mp (hkinds ▸ List.mem_map_of_mem hentry)
  obtain ⟨htitle, -⟩ := hall _ hentry
  obtain ⟨titled, htitled, heq⟩ := (title_of_mem_shownItems
    (fun item h => titleFits_of_mem_usedItems h) hentry).resolve_left fun hreset => by
      rw [htitle] at hreset
      exact absurd hreset (by decide)
  refine transfer?_of_tokenAmount ?_ hkind htitled (String.toList_inj.mp (heq.symm.trans htitle))
  have hnotable : item.notable = true := by
    unfold SummaryItem.notable
    rcases item with ⟨_, value⟩
    cases value <;> cases hkind
    simp
  obtain ⟨parsed', l', hparsed', hl', hmem⟩ := mem_usedItems_of_accepted hbody
  obtain ⟨rfl, -⟩ := Prod.ext_iff.mp (hparsed.symm.trans hparsed')
  obtain rfl : l = l' := Option.some.inj (hl.symm.trans hl')
  obtain ⟨parsed', l', hparsed', hl', -, husedItems⟩ := usedItems_of_accepted hbody
  obtain ⟨rfl, -⟩ := Prod.ext_iff.mp (hparsed.symm.trans hparsed')
  obtain rfl : l = l' := Option.some.inj (hl.symm.trans hl')
  rw [← husedItems, hmem item hnotable] at hitem
  rcases hitem with ⟨-, hwarning⟩ | hpattern | hfee
  · rcases List.mem_pair.mp hwarning with rfl | rfl <;> cases hkind
  · exact hpattern
  · unfold maxFeeItems at hfee
    split at hfee
    · obtain rfl := List.mem_singleton.mp hfee
      cases hkind
    · cases hfee

/-- What the loop has found of a transfer: its amount is the validated one, it has no fee of its
own, its recipient is the validated one, and the fee of the message is within the validated one. -/
structure SwapsToken (swap : SwapValidated) (ctx : TokenContext) (l : Layout) (info : TrustedInfo)
    (isToken2022Kind : Bool) (transfer : SplTokenTransferInfo) : Prop where
  warning : l.warning = false
  symbol : (getTokenSymbol ctx transfer.mintAccount.val isToken2022Kind).chars = swap.ticker.chars
  amount : (transfer.amount.toNat : ℚ) / 10 ^ transfer.decimals.toNat
    = swap.amount.toNat / 10 ^ swap.decimals.toNat
  noFee : ∀ fee, transfer.transferCheckedWithFeeAmount = some fee → fee = 0
  recipient : info.encodedOwnerAddress.chars = swap.recipient.chars
  maxFee : l.maxFee ≤ swap.fee

/-- The first amount of a review passes under its own title only, with its own text: before the
first item the title is empty. -/
theorem checkSwapAmount_of_first {amount : TokenAmount} {items : List SummaryItem}
    (hall : ∀ entry ∈ shownItems frame (⟨"Amount", .tokenAmount amount⟩ :: items) .reset,
      TokenItemOk swapSdk swap info entry) :
    checkSwapAmount swapSdk swap
      (amountText amount.value.toNat amount.decimals.toNat amount.symbol.chars) = true := by
  rcases hret : ((SummaryValue.tokenAmount amount).print frame true).ret with stop | _
  · obtain ⟨text, after, hshown⟩ :=
      @shownItems_cons_of_error frame ⟨"Amount", .tokenAmount amount⟩ stop hret items .reset
    rw [hshown] at hall
    obtain ⟨htitle, -⟩ := hall _ List.mem_cons_self
    exact absurd htitle (by decide)
  · obtain ⟨after, hshown⟩ := @shownItems_cons frame ⟨"Amount", .tokenAmount amount⟩ _ (by simp)
      (textIs_tokenAmount ((print_ok_iff frame true _).mp hret)) items .reset
    rw [hshown] at hall
    exact (hall _ List.mem_cons_self).2

/-- **What the loop holds a transfer to.** -/
theorem swapsToken_of_checkTokenItems {isToken2022Kind : Bool} {transfer : SplTokenTransferInfo}
    {toAddress : CString} (hfull : printConfig.forceFullPrint = true)
    (htransfer : l.pattern.transfer? = some (isToken2022Kind, transfer))
    (hto : getTransferToAddress ctx = some toAddress)
    (h : checkTokenItems swapSdk swap info
      (shownItems frame (l.usedItems printConfig ctx) .reset) ⟨false, false, false, false, false⟩
        = .ok flags) (hdest : flags.destSolAddressOk = true) :
    SwapsToken swap ctx l info isToken2022Kind transfer := by
  obtain ⟨hall, hcount, -, hlastDest⟩ := checkTokenItems_ok h
  have hitems := usedItems_tokenTransfer hfull htransfer hto
  have hvalue := value_of_checkSwapAmount (checkSwapAmount_of_first (hitems ▸ hall))
  refine ⟨?_, hvalue.2, hvalue.1, fun fee hfee => ?_, ?_, ?_⟩
  · by_contra hwarning
    rw [Bool.not_eq_false] at hwarning
    have hmem : (⟨"Extension Warning",
        .string (.lit "Unsupported extensions found" nul_notMem_extensionsFound)⟩ : SummaryItem)
        ∈ l.usedItems printConfig ctx := by
      simp [Layout.usedItems, extensionWarningItems, hwarning]
    obtain ⟨htitle, -⟩ := hall _ (mem_shownItems hmem (titleFits_of_mem_usedItems hmem)
      (textIs_string (by decide)) .reset)
    exact absurd htitle (by decide)
  · -- an item for the fee would be the second token amount
    by_contra hne
    rw [map_kind_shownItems, hitems, List.map_cons, List.count_cons] at hcount
    simp [transferFeeItem, hfee, hne, SummaryValue.kind, List.count_append] at hcount
  · obtain ⟨⟨kind, title, text⟩, hentry, rfl⟩ :=
      List.mem_map.mp ((hlastDest hdest).resolve_left Bool.false_ne_true)
    obtain ⟨-, howner, hrecipient⟩ := hall _ hentry
    exact howner.trans (recipient_of_checkSwapRecipient hrecipient).symm
  · by_cases hfee : l.maxFee = 0
    · rw [hfee]
      exact UInt64.zero_le
    · have hmem : (⟨"Max fees", .amount l.maxFee⟩ : SummaryItem) ∈ l.usedItems printConfig ctx := by
        simp [Layout.usedItems, maxFeeItems, hfee]
      exact le_of_checkSwapFee (hall _ (mem_shownItems hmem (titleFits_of_mem_usedItems hmem)
        (@textIs_amount frame l.maxFee) .reset)).2

end

/-- What a swap has checked of the token transfer it signs. -/
structure App.ValidToken (env : Env) (app : App) (l : Layout) (info : SplTokenInfo)
    (transfer : SplTokenTransferInfo) (trusted : TrustedInfo) : Prop where
  warning : l.warning = false
  body : info.body.transfer? = some transfer
  symbol : (getTokenSymbol (app.tokenContext env) transfer.mintAccount.val
    info.isToken2022Kind).chars = app.swap.ticker.chars
  amount : (transfer.amount.toNat : ℚ) / 10 ^ transfer.decimals.toNat
    = app.swap.amount.toNat / 10 ^ app.swap.decimals.toNat
  trustedInfo : app.trustedInfo = some trusted
  account : validateAssociatedTokenAddress env.sdk trusted.ownerAddress transfer.mintAccount.val
    transfer.destAccount.val info.isToken2022Kind = true
  recipient : trusted.encodedOwnerAddress.chars = app.swap.recipient.chars
  token2022 : info.isToken2022Kind = true → info.body = .transferCheckedWithFee transfer ∧
    transfer.transferCheckedWithFeeAmount = some 0 ∧ transfer.isTransferCheckedWithHook = false
  maxFee : l.maxFee ≤ app.swap.fee

/-- **A review that passes in a swap of tokens** is that of one transfer, perhaps after the creation
of an account. -/
theorem App.PassesReview.token {env : Env} {frame : ℕ → Hash} {app : App} {header : MessageHeader}
    {messageBody : Parser} {signerPubkey : Ptr Pubkey}
    {parsed : List ParsedInstruction} {l : Layout}
    {s : TransactionSummary}
    (review : app.PassesReview env frame header messageBody signerPubkey parsed l s)
    (hmode : app.swap.swapMode = .standard) (hticker : app.swap.ticker.chars ≠ "SOL".toList) :
    ∃ info transfer trusted, (patternInstructions parsed = [.splToken info] ∨
      ∃ create, patternInstructions parsed = [.splAssociatedTokenAccount create, .splToken info]) ∧
      app.ValidToken env l info transfer trusted := by
  obtain ⟨kinds, hkinds, hvalid⟩ := review.valid
  obtain ⟨hwarnings, htoken⟩ := @checkSwapValidityToken_of_valid env frame
    { app.resetSummary with summary := s } kinds hmode hticker hvalid
  obtain ⟨trusted, flags, htrusted, hitems, hamount, hdest⟩ := checkSwapValidityToken_ok htoken
  rw [displayedItems_eq hkinds, review.usedItems_eq] at hitems
  obtain ⟨isToken2022Kind, transfer, htransfer⟩ := transfer?_of_checkTokenItems review.accepted
    review.parsed_eq review.layout_eq hitems hamount
  obtain ⟨info, rfl, hbody, hcore⟩ :=
    recognise_eq_transfer (recognise_patternInstructions review.layout_eq) htransfer
  have hinfo : .splToken info ∈ patternInstructions parsed := by
    rcases hcore with hcore | ⟨create, hcore⟩ <;> simp [hcore]
  obtain ⟨q, hq, hignored, hqinfo⟩ := exists_parsed_of_patternInstructions hinfo
  have hmem : q ∈ (parseMessageBody (app.tokenContext env) messageBody header).1 := by
    rwa [review.parsed_eq]
  obtain ⟨-, -, index, hfrom⟩ := parsedFrom_of_mem hmem
  rw [hqinfo, hignored] at hfrom
  have hparsedInfo := (parseSplTokenInstructions_ok hfrom.2).2
  obtain ⟨trusted', htrusted', -, -, -, hata, hto⟩ :=
    getTransferToAddress_of_check (hparsedInfo.check hbody)
  obtain rfl : trusted = trusted' := Option.some.inj (htrusted.symm.trans htrusted')
  have hswaps := swapsToken_of_checkTokenItems review.calledFromSwap htransfer hto hitems hdest
  have hflags := tokenFlags_of_accepted review.accepted review.parsed_eq review.layout_eq htransfer
    hto
  refine ⟨info, transfer, trusted, hcore, hswaps.warning, hbody, hswaps.symbol, hswaps.amount,
    htrusted, hata, hswaps.recipient, fun h2022 => ?_, hswaps.maxFee⟩
  rw [h2022, Bool.true_and, Bool.true_and] at hflags
  obtain ⟨htoken2022, hfee, hhook⟩ :=
    (Prod.ext_iff.trans (and_congr_right fun _ => Prod.ext_iff)).mp
    hflags
  obtain ⟨hfeeWarning, hhookWarning⟩ := hwarnings htoken2022
  have hnamed : transfer.transferCheckedWithFeeAmount.isNone = false := hfee.symm.trans hfeeWarning
  obtain ⟨fee, hfeeAmount⟩ := Option.isSome_iff_exists.mp (Option.isNone_eq_false_iff.mp hnamed)
  refine ⟨?_, ?_, hhook.symm.trans hhookWarning⟩
  · unfold SplTokenInfo.Parsed at hparsedInfo
    rcases info with ⟨kind, warning, body⟩
    cases body <;> cases hbody
    · simp [hfeeAmount] at hparsedInfo
    · rfl
  · rw [hfeeAmount, hswaps.noFee fee hfeeAmount]

/-- **A swap of tokens signs one transfer**, perhaps after the creation of an account: of the
validated amount of the validated token, to the token account of the validated recipient, and for a
fee within the validated one.  A Token-2022 transfer names its fee, which is zero, and has no
hook. -/
theorem tokenTransfer_of_swapFinalize {env : Env} {frame : ℕ → Hash} {app : App}
    {signature : Option (Block 64)} (hnone : app.savedDescriptors = none)
    (hmode : app.swap.swapMode = .standard) (hticker : app.swap.ticker.chars ≠ "SOL".toList)
    (h : (handleSignMessageParseMessage env frame app).1 = .swapFinalize signature) :
    ∃ header messageBody parsed l info transfer trusted,
      parseMessageHeader ⟨0, app.command.message⟩ = .ok (header, messageBody) ∧
        parseMessageBody (app.tokenContext env) messageBody header = (parsed, .ok ()) ∧
        layout parsed = some l ∧
        (patternInstructions parsed = [.splToken info] ∨
          ∃ create, patternInstructions parsed
            = [.splAssociatedTokenAccount create, .splToken info]) ∧
        info.body.transfer? = some transfer ∧
        (getTokenSymbol (app.tokenContext env) transfer.mintAccount.val info.isToken2022Kind).chars
          = app.swap.ticker.chars ∧
        (transfer.amount.toNat : ℚ) / 10 ^ transfer.decimals.toNat
          = app.swap.amount.toNat / 10 ^ app.swap.decimals.toNat ∧
        app.trustedInfo = some trusted ∧
        validateAssociatedTokenAddress env.sdk trusted.ownerAddress transfer.mintAccount.val
          transfer.destAccount.val info.isToken2022Kind = true ∧
        trusted.encodedOwnerAddress.chars = app.swap.recipient.chars ∧
        (info.isToken2022Kind = true → info.body = .transferCheckedWithFee transfer ∧
          transfer.transferCheckedWithFeeAmount = some 0 ∧
          transfer.isTransferCheckedWithHook = false) ∧
        l.maxFee ≤ app.swap.fee := by
  obtain ⟨header, messageBody, signerPubkey, parsed, l, s, review⟩ :=
    passesReview_of_swapFinalize hnone h
  obtain ⟨info, transfer, trusted, hcore, hvalid⟩ := review.token hmode hticker
  exact ⟨header, messageBody, parsed, l, info, transfer, trusted, review.header_eq,
    review.parsed_eq, review.layout_eq, hcore, hvalid.body, hvalid.symbol, hvalid.amount,
    hvalid.trustedInfo, hvalid.account, hvalid.recipient, hvalid.token2022, hvalid.maxFee⟩

theorem nul_notMem_usdc : nul ∉ "USDC".toList := by decide

theorem nul_notMem_wallet : nul ∉ "LbUiWL3xVV8hTFYBVdbTNrpDo41NKS6o3LHHuDzjfcY".toList := by decide

theorem nul_notMem_usdcAccount : nul ∉ "9mXjp24PXrRbfBJL6eQySAHjkvTF9XedbS3Mre8XTS5g".toList := by
  decide

theorem nul_notMem_usdcMint : nul ∉ "EPjFWdd5AufqSSqeM2qN1xzybapC8G4wEGGkZwyTDt1v".toList := by
  decide

/-- The app of a swap for USDC, with what it was told of the token and of its recipient, and with
the message to sign: the transfer of one millionth to the account of the wallet. -/
def tokenApp : App :=
  { App.plain exchangeEnv (legacyMessage
      [plainSigner, senderKey.val, usdcAccount, usdcMint, splTokenProgramId]
      [writeInstruction 4 [1, 3, 2, 0] [12, 1, 0, 0, 0, 0, 0, 0, 0, 6]]) with
    calledFromSwap := true
    swap := { standardApp.swap with
      ticker := .lit "USDC" nul_notMem_usdc
      decimals := 6
      recipient := .lit "LbUiWL3xVV8hTFYBVdbTNrpDo41NKS6o3LHHuDzjfcY" nul_notMem_wallet }
    trustedInfo := some ⟨true,
      .lit "LbUiWL3xVV8hTFYBVdbTNrpDo41NKS6o3LHHuDzjfcY" nul_notMem_wallet, walletKey,
      .lit "9mXjp24PXrRbfBJL6eQySAHjkvTF9XedbS3Mre8XTS5g" nul_notMem_usdcAccount, usdcAccount,
      .lit "EPjFWdd5AufqSSqeM2qN1xzybapC8G4wEGGkZwyTDt1v" nul_notMem_usdcMint, usdcMint⟩
    dynamicTokenInfo := some ⟨true, .lit "USDC" nul_notMem_usdc, 6, false,
      .lit "EPjFWdd5AufqSSqeM2qN1xzybapC8G4wEGGkZwyTDt1v" nul_notMem_usdcMint, usdcMint⟩ }

/-- The theorem on that swap. -/
theorem tokenTransfer_of_swapFinalize_token :
    ∃ header messageBody parsed l info transfer trusted,
      parseMessageHeader ⟨0, tokenApp.command.message⟩ = .ok (header, messageBody) ∧
        parseMessageBody (tokenApp.tokenContext exchangeEnv) messageBody header
          = (parsed, .ok ()) ∧
        layout parsed = some l ∧
        (patternInstructions parsed = [.splToken info] ∨
          ∃ create, patternInstructions parsed
            = [.splAssociatedTokenAccount create, .splToken info]) ∧
        info.body.transfer? = some transfer ∧
        (getTokenSymbol (tokenApp.tokenContext exchangeEnv) transfer.mintAccount.val
          info.isToken2022Kind).chars = tokenApp.swap.ticker.chars ∧
        (transfer.amount.toNat : ℚ) / 10 ^ transfer.decimals.toNat
          = tokenApp.swap.amount.toNat / 10 ^ tokenApp.swap.decimals.toNat ∧
        tokenApp.trustedInfo = some trusted ∧
        validateAssociatedTokenAddress exchangeEnv.sdk trusted.ownerAddress
          transfer.mintAccount.val transfer.destAccount.val info.isToken2022Kind = true ∧
        trusted.encodedOwnerAddress.chars = tokenApp.swap.recipient.chars ∧
        (info.isToken2022Kind = true → info.body = .transferCheckedWithFee transfer ∧
          transfer.transferCheckedWithFeeAmount = some 0 ∧
          transfer.isTransferCheckedWithHook = false) ∧
        l.maxFee ≤ tokenApp.swap.fee :=
  @tokenTransfer_of_swapFinalize exchangeEnv (fun _ => Block.zero 32) tokenApp
    (some (Block.zero 64)) rfl rfl (by decide) (by decide +kernel)

end AgencLedger
