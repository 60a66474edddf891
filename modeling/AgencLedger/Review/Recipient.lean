import AgencLedger.Review.Accepted
import AgencLedger.Review.Multisig
import AgencLedger.Review.Shown

/-!
# Review/Recipient — the recipient a token transfer shows

A checked transfer names two token accounts and a mint, and no wallet.  Who owns the destination
comes from trusted information: the parser lets a transfer pass whose destination is the token
account of the owner it trusts, and the printer shows that owner in the encoding it was received in.
-/

namespace AgencLedger

/-! ## What the parser checks -/

/-- The instruction is `TransferChecked` or `TransferCheckedWithFee`. -/
def Instruction.TransfersChecked (instruction : Instruction) : Prop :=
  instruction.data.val[0]? = some 12 ∨
    instruction.data.val[0]? = some SplTokenExtensionKind.transferFeeExtension.code ∧
      instruction.data.val[1]? = some transferCheckedWithFeeTag

section

variable {header : MessageHeader} {instruction : Instruction} {ctx : TokenContext}

/-- The mint and the destination are the second and the third account. -/
theorem parseTransferSplTokenInstruction_accounts {withFee isToken2022Kind : Bool} :
    Ensures (Cursor.At header instruction 0)
      (parseTransferSplTokenInstruction ctx header withFee isToken2022Kind) fun transfer _ =>
        instructionAccount header instruction 1 = some transfer.mintAccount ∧
          instructionAccount header instruction 2 = some transfer.destAccount :=
  lift_ensures.seq fun _ => lift_ensures.seq fun _ => lift_ensures.seq fun _ =>
    (nextAccount_ensures 0).seq fun _ => .of_and fun _ =>
    (nextAccount_ensures 1).seq fun _ => .of_and fun hmint =>
    (nextAccount_ensures 2).seq fun _ => .of_and fun hdest =>
    .seq .any fun _ => .seq .any fun _ => .pure fun _ _ => ⟨hmint, hdest⟩

/-- **A checked transfer is parsed to its record**, or not at all. -/
theorem parseSplTokenInstructions_transfer {info : SplTokenInfo} {ignored : Bool}
    (h : (parseSplTokenInstructions ctx header instruction).parse header instruction
      = .ok (info, ignored)) (htransfer : instruction.TransfersChecked) :
    ∃ transfer, info.body.transfer? = some transfer ∧ ignored = false ∧
      instructionAccount header instruction 1 = some transfer.mintAccount ∧
      instructionAccount header instruction 2 = some transfer.destAccount := by
  obtain ⟨c, h⟩ := InstrM.parse_ok_iff.mp h
  obtain ⟨kind, c₁, hkind, h⟩ := (Result.step_seq_ok_iff _ _ _ _).mp h
  obtain ⟨isToken2022Kind, c₂, hcall, h⟩ := (Result.step_seq_ok_iff _ _ _ _).mp h
  have hat : c₁.At header instruction 0 := lift_ensures _ _ _ Cursor.at_init hkind
  rw [← (InstrM.call_ok hcall).2] at hat
  obtain ⟨p, hkind, hc₁⟩ := InstrM.lift_ok_iff.mp hkind
  have hparser : c₂.parser = p := by
    rw [(InstrM.call_ok hcall).2]
    exact congrArg Cursor.parser hc₁
  rw [Cursor.init] at hkind
  rcases hdata : instruction.data.val with _ | ⟨b, rest⟩
  · rw [Instruction.TransfersChecked, hdata] at htransfer
    rcases htransfer with hcode | ⟨hcode, -⟩ <;> cases hcode
  rw [Instruction.TransfersChecked, hdata] at htransfer
  rw [hdata] at hkind
  rcases htransfer with hcode | ⟨hcode, htag⟩
  · obtain rfl : b = 12 := Option.some.inj hcode
    obtain ⟨rfl, -⟩ : .transferChecked = kind ∧ _ = p := Prod.mk.inj (Except.ok.inj hkind)
    obtain ⟨transfer, c₃, hbody, h⟩ := (Result.step_seq_ok_iff _ _ _ _).mp h
    cases h
    exact ⟨transfer, rfl, rfl, parseTransferSplTokenInstruction_accounts _ _ _ hat hbody⟩
  · obtain rfl : b = 26 := Option.some.inj hcode
    obtain ⟨rfl, rfl⟩ : .extension .transferFeeExtension = kind ∧
        ⟨instruction.data.addr + 1, rest⟩ = p := Prod.mk.inj (Except.ok.inj hkind)
    obtain ⟨u, c₃, hbail, h⟩ := (Result.step_seq_ok_iff _ _ _ _).mp h
    obtain ⟨withFee, c₄, hfee, h⟩ := (Result.step_seq_ok_iff _ _ _ _).mp h
    obtain rfl : c₃ = c₂ := (Prod.ext_iff.mp (instrBailIf_ok_iff.mp hbail).2).2
    replace hat := lift_ensures _ _ _ hat hfee
    obtain ⟨p', hfee, -⟩ := InstrM.lift_ok_iff.mp hfee
    rw [hparser] at hfee
    obtain ⟨tag, hbuffer, hwithFee⟩ := parseTransferFeeInstruction_tag hfee
    have htag : some tag = some transferCheckedWithFeeTag := by
      rw [← htag, show rest = tag :: p'.buffer from hbuffer]
      rfl
    obtain rfl : withFee = true := hwithFee.trans (decide_eq_true (Option.some.inj htag))
    obtain ⟨transfer, c₅, hbody, h⟩ := (Result.step_seq_ok_iff _ _ _ _).mp h
    cases h
    exact ⟨transfer, rfl, rfl, parseTransferSplTokenInstruction_accounts _ _ _ hat hbody⟩

/-! ## What the printer shows -/

/-- The pattern of a transfer: alone, or behind the creation of the token account. -/
theorem transfer?_of_mem {core : List InstructionInfo} {pattern : Pattern} {info : SplTokenInfo}
    {transfer : SplTokenTransferInfo} (h : recognise core = some pattern)
    (hinfo : .splToken info ∈ core) (htransfer : info.body.transfer? = some transfer) :
    pattern.transfer? = some (info.isToken2022Kind, transfer) := by
  rcases info with ⟨isToken2022Kind, warning, body⟩
  unfold recognise at h
  split at h
  · obtain rfl := List.mem_singleton.mp hinfo
    obtain rfl := Option.some.inj h
    exact Option.map_eq_some_iff.mpr ⟨transfer, htransfer, rfl⟩
  · unfold recogniseTwo at h
    split at h <;> cases h <;> simp_all [Pattern.transfer?, SplTokenBody.transfer?]
  · unfold recogniseThree at h
    split at h <;> cases h <;> simp_all [SplTokenBody.transfer?]
  · unfold recogniseFour at h
    split at h <;> cases h
    simp_all
  · cases h

/-- The item says whom the transfer is to only by the trusted owner. -/
def SummaryItem.NamesRecipient (ctx : TokenContext) (item : SummaryItem) : Prop :=
  item.title = "To" → ∀ text, item.value = .string text → getTransferToAddress ctx = some text

variable {printConfig : PrintConfig}

theorem namesRecipient_printSplTokenTransferInfo (transfer : SplTokenTransferInfo)
    (isToken2022Kind : Bool) :
    (printSplTokenTransferInfo ctx transfer printConfig isToken2022Kind true).AllItems
      (SummaryItem.NamesRecipient ctx) := by
  have hto : (transferToItem ctx).AllItems (SummaryItem.NamesRecipient ctx) := by
    unfold transferToItem
    split
    · rename_i toAddress haddress
      refine (Script.allItems_general _ _).mpr fun _ text htext => ?_
      rw [haddress, SummaryValue.string.inj htext]
    · simp
  have hfee : ∀ symbol, (transferFeeItem transfer symbol).AllItems
      (SummaryItem.NamesRecipient ctx) := fun symbol => by
    unfold transferFeeItem
    split
    · split <;> simp [SummaryItem.NamesRecipient]
    · simp
  have hsign : (printSplTokenSign transfer.sign printConfig).AllItems
      (SummaryItem.NamesRecipient ctx) := by
    rcases transfer.sign with signer | ⟨account, signers⟩ <;>
      simp [printSplTokenSign, generalAuthority, SummaryItem.NamesRecipient]
  simp [printSplTokenTransferInfo, hto, hfee, hsign, SummaryItem.NamesRecipient]

/-- **The review of a transfer** names its recipient only by the trusted owner. -/
theorem namesRecipient_script {l : Layout} (h : l.pattern.transfer?.isSome = true) :
    (l.script printConfig ctx).AllItems (SummaryItem.NamesRecipient ctx) := by
  have hhead : (headItems printConfig l.warning l.nonce).AllItems
      (SummaryItem.NamesRecipient ctx) := by
    have hnonce : ∀ nonce, (printSystemNoncedTransactionSentinel nonce printConfig).AllItems
        (SummaryItem.NamesRecipient ctx) := fun nonce => by
      unfold printSystemNoncedTransactionSentinel
      split <;> simp [SummaryItem.NamesRecipient]
    rcases l.nonce with _ | nonce <;>
      simp [headItems, hnonce, printSplTokenExtensionWarning, SummaryItem.NamesRecipient]
  have hfee : (if l.maxFee ≠ 0 then printComputeBudgetMaxFee l.maxFee else []).AllItems
      (SummaryItem.NamesRecipient ctx) := by
    simp [printComputeBudgetMaxFee, SummaryItem.NamesRecipient]
  have hpattern : (l.pattern.print printConfig ctx).AllItems (SummaryItem.NamesRecipient ctx) := by
    rcases hpattern : l.pattern
    all_goals
      rw [hpattern] at h
      try cases h
    case splToken info =>
      rcases info with ⟨isToken2022Kind, warning, body⟩
      rcases body
      all_goals try cases h
      all_goals exact namesRecipient_printSplTokenTransferInfo _ _
    case splAssociatedTokenAccountCreateWithTransfer create isToken2022Kind transfer =>
      exact (namesRecipient_printSplTokenTransferInfo transfer isToken2022Kind).of_isPrefix
        (List.takeWhile_prefix _)
  rw [Layout.script]
  exact Script.allItems_append.mpr ⟨Script.allItems_append.mpr ⟨hhead, hpattern⟩, hfee⟩

/-! ## Accepted messages -/

/-- **The information is about the destination of the transfer**: its mint and its token account are
those of the instruction, and the token account is that of its owner, for the instruction's
program. -/
structure TrustedInfo.OwnsDestination (sdk : Sdk) (header : MessageHeader)
    (instruction : Instruction) (info : TrustedInfo) : Prop where
  mint : (instructionAccount header instruction 1).map (·.val) = some info.mintAddress
  destination : (instructionAccount header instruction 2).map (·.val) = some info.tokenAddress
  account : ∃ isToken2022Kind, isToken2022Instruction instruction header = .ok isToken2022Kind ∧
    validateAssociatedTokenAddress sdk info.ownerAddress info.mintAddress info.tokenAddress
      isToken2022Kind = true

/-- **An accepted message with a checked transfer** has trusted information about its destination,
and names the recipient only by the owner in it. -/
theorem ownsDestination_of_accepted {messageBody : Parser} {s : TransactionSummary}
    (h : processMessageBody ctx messageBody printConfig .reset = (.ok (), s))
    (hins : instruction ∈ bodyInstructions printConfig.header
      printConfig.header.instructionsLength messageBody)
    (hprogram : instructionProgramId instruction printConfig.header = .ok .splToken)
    (htransfer : instruction.TransfersChecked) :
    ∃ info, ctx.trustedInfo = some info ∧ info.received = true ∧
      info.OwnsDestination ctx.sdk printConfig.header instruction ∧
      ∀ item ∈ s.usedItems, item.title = "To" → ∀ text, item.value = .string text →
        text = info.encodedOwnerAddress := by
  obtain ⟨parsed, l, hparsed, hl, -, hitems⟩ := processMessageBody_ok h
  obtain ⟨q, hq, rfl, hne, index, hfrom⟩ := exists_parsed_of_mem hparsed hins
  obtain ⟨token, hinfo, hparse⟩ := exists_splToken_of_parsedFrom hfrom hne hprogram
  obtain ⟨transfer, hbody, hignored, hmint, hdest⟩ :=
    parseSplTokenInstructions_transfer hparse htransfer
  obtain ⟨hkind, hchecked⟩ := parseSplTokenInstructions_ok hparse
  obtain ⟨info, htrusted, hreceived, hmint', hdest', hvalid, hto⟩ :=
    getTransferToAddress_of_check (hchecked.check hbody)
  obtain ⟨core, hcore, htoken⟩ := exists_core_of_layout hl hq hinfo hignored
  refine ⟨info, htrusted, hreceived, ⟨?_, ?_, token.isToken2022Kind, hkind, ?_⟩,
    fun item hitem htitle text htext => ?_⟩
  · rw [hmint, hmint']
    rfl
  · rw [hdest, hdest']
    rfl
  · rw [hmint', hdest']
    exact hvalid
  · obtain ⟨slot, hslot⟩ := TransactionSummary.mem_usedItems.mp hitem
    rw [hitems slot, TransactionSummary.itemsOf_reset, List.nil_append] at hslot
    have hpattern : l.pattern.transfer?.isSome = true := by
      rw [transfer?_of_mem hcore htoken hbody]
      rfl
    have hnames := (namesRecipient_script hpattern).items hslot htitle text htext
    exact Option.some.inj (hnames.symm.trans hto)

end

end AgencLedger
