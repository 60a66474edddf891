import AgencLedger.Review.Body

/-!
# Review/Lamports — lamports that move, and lamports that are shown

Three System instructions move lamports: a transfer and the two ways to create an account.  Their
lamports are shown by every pattern but the splits: outside expert mode these hide the transfer that
prefunds them, and a create in front of a split is taken to move nothing.
-/

namespace AgencLedger

/-! ## Lamports of an instruction -/

/-- The lamports field of a transfer or of a creation. -/
def SystemInfo.lamports? : SystemInfo → Option UInt64
  | .transfer info => some info.lamports
  | .createAccount info => some info.lamports
  | .createAccountWithSeed info => some info.lamports
  | _ => none

/-- The System instructions of a pattern. -/
def Pattern.systemInfos : Pattern → List SystemInfo
  | .system info => [info]
  | .createStakeAccount ca _ => [.createAccount ca]
  | .createStakeAccountWithSeed cws _ => [.createAccountWithSeed cws]
  | .createNonceAccount ca ni => [.createAccount ca, .initializeNonce ni]
  | .createNonceAccountWithSeed cws ni => [.createAccountWithSeed cws, .initializeNonce ni]
  | .createVoteAccount ca _ => [.createAccount ca]
  | .createVoteAccountWithSeed cws _ => [.createAccountWithSeed cws]
  | .stakeSplitWithSeedV1_1 aws _ => [.allocateWithSeed aws]
  | .stakeSplitV1_2 ca _ => [.createAccount ca]
  | .stakeSplitWithSeedV1_2 cws _ => [.createAccountWithSeed cws]
  | .splTokenCreateMint ca _ => [.createAccount ca]
  | .splTokenCreateAccount ca _ => [.createAccount ca]
  | .splTokenCreateMultisig ca _ => [.createAccount ca]
  | .createStakeAccountAndDelegate ca _ _ => [.createAccount ca]
  | .createStakeAccountWithSeedAndDelegate cws _ _ => [.createAccountWithSeed cws]
  | .stakeSplitV1_1 allocate assign _ => [.allocate allocate, .assign assign]
  | .stakeSplitWithSeedV1_3 prefund aws _ => [.transfer prefund, .allocateWithSeed aws]
  | .stakeSplitV1_3 prefund allocate assign _ =>
      [.transfer prefund, .allocate allocate, .assign assign]
  | _ => []

/-- **A pattern keeps the System instructions it is recognised from.** -/
theorem mem_systemInfos {core : List InstructionInfo} {pattern : Pattern} {info : SystemInfo}
    (h : recognise core = some pattern) (hinfo : .system info ∈ core) :
    info ∈ pattern.systemInfos := by
  unfold recognise at h
  split at h
  · unfold recogniseOne at h
    split at h <;> cases h <;> simp_all [Pattern.systemInfos]
  · unfold recogniseTwo at h
    split at h <;> cases h <;> simp_all [Pattern.systemInfos]
  · unfold recogniseThree at h
    split at h <;> cases h <;> simp_all [Pattern.systemInfos]
  · unfold recogniseFour at h
    split at h <;> cases h
    simp_all [Pattern.systemInfos]
  · cases h

/-- **The pattern does not show the lamports of the instruction**: it prefunds a split outside
expert mode, or creates the account of one. -/
def Pattern.Hides (printConfig : PrintConfig) : Pattern → SystemInfo → Prop
  | .stakeSplitV1_3 .., .transfer _ => printConfig.expertMode = false
  | .stakeSplitWithSeedV1_3 .., .transfer _ => printConfig.expertMode = false
  | .stakeSplitV1_2 .., .createAccount _ => True
  | .stakeSplitWithSeedV1_2 .., .createAccountWithSeed _ => True
  | _, _ => False

section

variable {printConfig : PrintConfig}

theorem amount_mem_printSystemInfo {info : SystemInfo} {lamports : UInt64}
    (h : info.lamports? = some lamports) :
    ∃ slot, ∃ item ∈ Script.items slot (printSystemInfo info printConfig),
      item.value = .amount lamports := by
  cases info with
  | transfer info =>
      cases h
      exact ⟨.primary, ⟨"Amount", .amount info.lamports⟩,
        by simp [printSystemInfo, printSystemTransferInfo], rfl⟩
  | createAccount info =>
      cases h
      exact ⟨.general, ⟨"Deposit", .amount info.lamports⟩,
        by simp [printSystemInfo, printSystemCreateAccountInfo], rfl⟩
  | createAccountWithSeed info =>
      cases h
      exact ⟨.general, ⟨"Deposit", .amount info.lamports⟩,
        by simp [printSystemInfo, printSystemCreateAccountWithSeedInfo], rfl⟩
  | _ => cases h

theorem deposit_mem_printSystemCreateAccountInfo (title : Option String)
    (info : SystemCreateAccountInfo) (displayOwner : Bool) :
    ⟨"Deposit", .amount info.lamports⟩ ∈ Script.items .general
      (printSystemCreateAccountInfo title info printConfig displayOwner) := by
  simp [printSystemCreateAccountInfo]

theorem deposit_mem_printSystemCreateAccountWithSeedInfo (title : Option String)
    (info : SystemCreateAccountWithSeedInfo) (displayOwner : Bool) :
    ⟨"Deposit", .amount info.lamports⟩ ∈ Script.items .general
      (printSystemCreateAccountWithSeedInfo title info printConfig displayOwner) := by
  simp [printSystemCreateAccountWithSeedInfo]

/-- **A pattern shows the lamports it does not hide.** -/
theorem amount_mem_print (ctx : TokenContext) {pattern : Pattern} {info : SystemInfo}
    {lamports : UInt64}
    (hinfo : info ∈ pattern.systemInfos) (hlamports : info.lamports? = some lamports)
    (hhides : ¬pattern.Hides printConfig info) :
    ∃ slot, ∃ item ∈ Script.items slot (pattern.print printConfig ctx),
      item.value = .amount lamports := by
  cases pattern with
  | system info' =>
      obtain rfl := List.mem_singleton.mp hinfo
      exact amount_mem_printSystemInfo hlamports
  | createStakeAccount ca _ | createVoteAccount ca _ | createStakeAccountAndDelegate ca _ _ =>
      obtain rfl := List.mem_singleton.mp hinfo
      cases hlamports
      refine ⟨.general, ⟨"Deposit", .amount ca.lamports⟩, ?_, rfl⟩
      simp [Pattern.print, printCreateStakeAccount, printCreateVoteAccount,
        printCreateStakeAccountAndDelegate, deposit_mem_printSystemCreateAccountInfo]
  | createStakeAccountWithSeed cws _ | createVoteAccountWithSeed cws _
  | createStakeAccountWithSeedAndDelegate cws _ _ =>
      obtain rfl := List.mem_singleton.mp hinfo
      cases hlamports
      refine ⟨.general, ⟨"Deposit", .amount cws.lamports⟩, ?_, rfl⟩
      simp [Pattern.print, printCreateStakeAccountWithSeed, printCreateVoteAccountWithSeed,
        printCreateStakeAccountWithSeedAndDelegate,
        deposit_mem_printSystemCreateAccountWithSeedInfo]
  | createNonceAccount ca ni =>
      rcases List.mem_pair.mp hinfo with rfl | rfl <;> cases hlamports
      refine ⟨.general, ⟨"Deposit", .amount ca.lamports⟩, ?_, rfl⟩
      simp [Pattern.print, printCreateNonceAccount, deposit_mem_printSystemCreateAccountInfo]
  | createNonceAccountWithSeed cws ni =>
      rcases List.mem_pair.mp hinfo with rfl | rfl <;> cases hlamports
      refine ⟨.general, ⟨"Deposit", .amount cws.lamports⟩, ?_, rfl⟩
      simp [Pattern.print, printCreateNonceAccountWithSeed,
        deposit_mem_printSystemCreateAccountWithSeedInfo]
  | splTokenCreateMint ca _ | splTokenCreateAccount ca _ | splTokenCreateMultisig ca _ =>
      obtain rfl := List.mem_singleton.mp hinfo
      cases hlamports
      refine ⟨.general, ⟨"Funded with", .amount ca.lamports⟩, ?_, rfl⟩
      simp [Pattern.print, printSplTokenCreateMint, printSplTokenCreateAccount,
        printSplTokenCreateMultisig]
  | stakeSplitV1_2 ca _ | stakeSplitWithSeedV1_2 cws _ =>
      obtain rfl := List.mem_singleton.mp hinfo
      exact absurd trivial hhides
  | stakeSplitWithSeedV1_3 prefund aws _ =>
      rcases List.mem_pair.mp hinfo with rfl | rfl <;> cases hlamports
      have hexpert : printConfig.expertMode = true := by simpa [Pattern.Hides] using hhides
      refine ⟨.general, ⟨"Prefund", .amount prefund.lamports⟩, ?_, rfl⟩
      simp [Pattern.print, printPrefundedSplitWithSeed, printSystemPrefundForSplit, hexpert]
  | stakeSplitV1_3 prefund allocate assign _ =>
      simp only [Pattern.systemInfos, List.mem_cons, List.not_mem_nil, or_false] at hinfo
      rcases hinfo with rfl | rfl | rfl <;> cases hlamports
      have hexpert : printConfig.expertMode = true := by simpa [Pattern.Hides] using hhides
      refine ⟨.general, ⟨"Prefund", .amount prefund.lamports⟩, ?_, rfl⟩
      simp [Pattern.print, printPrefundedSplit, printSystemPrefundForSplit, hexpert]
  | stakeSplitWithSeedV1_1 aws _ =>
      obtain rfl := List.mem_singleton.mp hinfo
      cases hlamports
  | stakeSplitV1_1 allocate assign _ =>
      rcases List.mem_pair.mp hinfo with rfl | rfl <;> cases hlamports
  | _ => exact absurd hinfo List.not_mem_nil

end

/-! ## Accepted messages -/

/-- An instruction of the core is one of the pattern, and neither the nonce nor the fee's. -/
theorem mem_systemInfos_of_layout {parsed : List ParsedInstruction} {l : Layout}
    (hl : layout parsed = some l) {q : ParsedInstruction} (hq : q ∈ parsed) {info : SystemInfo}
    (hinfo : q.info = .system info) (hignored : q.ignored = false)
    (hlamports : info.lamports?.isSome) : info ∈ l.pattern.systemInfos := by
  obtain ⟨core, hcore, -, hall⟩ := core_of_layout hl
  have hmem := hall q hq hignored (by rw [hinfo]; rfl)
  rw [hinfo] at hmem
  rcases hmem with hmem | ⟨nonce, hnonce⟩ | ⟨budget, hbudget⟩
  · exact mem_systemInfos hcore hmem
  · cases hnonce
    cases hlamports
  · cases hbudget

/-- **An accepted message shows the lamports that its System instructions move**, but for the
transfer that prefunds a split, which is shown in expert mode only, and the creation in front of a
split. -/
theorem lamports_shown {ctx : TokenContext} {messageBody : Parser} {printConfig : PrintConfig}
    {s : TransactionSummary}
    (h : processMessageBody ctx messageBody printConfig .reset = (.ok (), s))
    {instruction : Instruction}
    (hins : instruction ∈ bodyInstructions printConfig.header
      printConfig.header.instructionsLength messageBody)
    (hprogram : instructionProgramId instruction printConfig.header = .ok .system)
    {info : SystemInfo} (hparse : parseSystemInstructions.parse printConfig.header instruction
      = .ok info) {lamports : UInt64} (hlamports : info.lamports? = some lamports)
    (hhides : ∀ parsed l, parseMessageBody ctx messageBody printConfig.header = (parsed, .ok ()) →
      layout parsed = some l → ¬l.pattern.Hides printConfig info) :
    ∃ item ∈ s.usedItems, item.value = .amount lamports := by
  obtain ⟨parsed, l, hparsed, hl, -, hitems⟩ := processMessageBody_ok h
  obtain ⟨q, hq, rfl, hne, index, hfrom⟩ := exists_parsed_of_mem hparsed hins
  obtain ⟨hinfo, hignored⟩ := eq_system_of_parsedFrom hfrom hne hprogram hparse
  have hmem := mem_systemInfos_of_layout hl hq hinfo hignored (by rw [hlamports]; rfl)
  obtain ⟨slot, item, hitem, hvalue⟩ :=
    amount_mem_print ctx hmem hlamports (hhides parsed l hparsed hl)
  refine ⟨item, TransactionSummary.mem_usedItems.mpr ⟨slot, ?_⟩, hvalue⟩
  rw [hitems slot, Layout.script, Script.items_append, Script.items_append]
  exact List.mem_append_right _ (List.mem_append_left _ (List.mem_append_right _ hitem))

/-! ## A transfer that is shown, and one that is not -/

/-- The header of a message with instructions of the System and the stake program. -/
def stakeHeader (instructionsLength : ℕ) : MessageHeader :=
  legacyHeader [plainSigner, systemProgramId, stakeProgramId] (by decide) instructionsLength

/-- The body of such a message. -/
def stakeBody (instructions : List (List UInt8)) : Parser :=
  legacyBody [plainSigner, systemProgramId, stakeProgramId] instructions

/-- Its review, in default display. -/
def stakeReview (instructions : List (List UInt8)) : Result Unit × TransactionSummary :=
  processMessageBody emptyContext (stakeBody instructions)
    (plainConfig (stakeHeader instructions.length) ⟨4, plainSigner⟩) .reset

/-- A transfer of five lamports. -/
def fiveLamports : List UInt8 := writeInstruction 1 [0, 0] [2, 0, 0, 0, 5, 0, 0, 0, 0, 0, 0, 0]

/-- The transfer as it stands at the front of a body. -/
def fiveLamportsInstruction : Instruction :=
  ⟨1, ⟨135, [0, 0]⟩, ⟨138, [2, 0, 0, 0, 5, 0, 0, 0, 0, 0, 0, 0]⟩⟩

/-- What the transfer is parsed to. -/
def fiveLamportsInfo : SystemTransferInfo := ⟨⟨4, plainSigner⟩, ⟨4, plainSigner⟩, 5⟩

/-- The theorem on a transfer alone. -/
theorem lamports_shown_fiveLamports :
    ∃ item ∈ (stakeReview [fiveLamports]).2.usedItems, item.value = .amount 5 := by
  have hreview : (stakeReview [fiveLamports]).1 = .ok () := by decide
  have hpattern : (layout (parseMessageBody emptyContext (stakeBody [fiveLamports])
      (stakeHeader 1)).1).map (·.pattern) = some (.system (.transfer fiveLamportsInfo)) := by
    decide
  refine @lamports_shown emptyContext (stakeBody [fiveLamports])
    (plainConfig (stakeHeader 1) ⟨4, plainSigner⟩) (stakeReview [fiveLamports]).2
    (by rw [← hreview]; rfl) fiveLamportsInstruction (by decide)
    (by decide) (.transfer fiveLamportsInfo) (by decide) 5 rfl
    fun parsed l hparsed hl => ?_
  rw [show parseMessageBody emptyContext (stakeBody [fiveLamports]) (stakeHeader 1)
    = (parsed, .ok ()) from hparsed, hl] at hpattern
  have hsystem : l.pattern = .system (.transfer fiveLamportsInfo) := Option.some.inj hpattern
  rw [hsystem]
  exact not_false

/-- A split that is prefunded with five lamports. -/
def prefundedSplit : List (List UInt8) :=
  [fiveLamports, writeInstruction 1 [0] [8, 0, 0, 0, 200, 0, 0, 0, 0, 0, 0, 0],
    writeInstruction 1 [0] ([1, 0, 0, 0] ++ stakeProgramId.data),
    writeInstruction 2 [0, 0, 0] [3, 0, 0, 0, 7, 0, 0, 0, 0, 0, 0, 0]]

/-- **In default display a prefunded split does not show the five lamports** its first instruction
transfers. -/
theorem prefundedSplit_hides_lamports :
    (stakeReview prefundedSplit).1 = .ok () ∧
      fiveLamportsInstruction ∈ bodyInstructions (stakeHeader 4) 4 (stakeBody prefundedSplit) ∧
      parseSystemInstructions.parse (stakeHeader 4) fiveLamportsInstruction
        = .ok (.transfer fiveLamportsInfo) ∧
      ¬∃ item ∈ (stakeReview prefundedSplit).2.usedItems, item.value = .amount 5 := by
  decide

end AgencLedger
