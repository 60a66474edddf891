import AgencLedger.Sol.Message

/-!
# Review/Body — accepted messages and the layout of their review

A message is accepted when all its instructions are known and they form a pattern whose items fit
in the summary.  `Layout` is what the review of such a message consists of: a warning, a nonce, the
pattern, a fee.
-/

namespace AgencLedger

/-! ## Parsed instructions -/

theorem known_ok_iff {α : Type} {parsed : Result α} {info : α → InstructionInfo × Bool}
    {r : InstructionInfo × Bool} :
    known parsed info = .ok r ↔
      (∃ a, parsed = .ok a ∧ r = info a) ∨ (parsed = .error .bail ∧ r = (.unknown, false)) := by
  cases parsed with
  | ok a => simp [known, eq_comm]
  | error stop => cases stop <;> simp [known, eq_comm]

/-- Where the record of an instruction comes from. -/
def InstructionInfo.ParsedFrom (ctx : TokenContext) (header : MessageHeader) (index : ℕ)
    (instruction : Instruction) (ignored : Bool) : InstructionInfo → Prop
  | .unknown => ignored = false
  | .serumAssertOwner => instructionProgramId instruction header = .ok .serumAssertOwner ∧
      ignored = false
  | .splMemo => instructionProgramId instruction header = .ok .splMemo ∧ ignored = false
  | .system info => instructionProgramId instruction header = .ok .system ∧ ignored = false ∧
      parseSystemInstructions.parse header instruction = .ok info
  | .stake info => instructionProgramId instruction header = .ok .stake ∧ ignored = false ∧
      parseStakeInstructions.parse header instruction = .ok info
  | .vote info => instructionProgramId instruction header = .ok .vote ∧ ignored = false ∧
      (parseVoteInstructions instruction.data.val.length).parse header instruction = .ok info
  | .splToken info => instructionProgramId instruction header = .ok .splToken ∧
      (parseSplTokenInstructions ctx header instruction).parse header instruction
        = .ok (info, ignored)
  | .splAssociatedTokenAccount create =>
      instructionProgramId instruction header = .ok .splAssociatedTokenAccount ∧ ignored = false ∧
      (parseSplAssociatedTokenAccountInstructions instruction.data.val.length).parse header
        instruction = .ok create
  | .computeBudget info => instructionProgramId instruction header = .ok .computeBudget ∧
      ignored = false ∧ (parseComputeBudgetInstructions header).parse header instruction = .ok info
  | .agenc index' info => instructionProgramId instruction header = .ok .agenc ∧ ignored = false ∧
      index' = index ∧ parseAgencInstructions instruction header = .ok info

/-- **A record is what its program's parser makes of the instruction.** -/
theorem parsedFrom_of_parse {ctx : TokenContext} {header : MessageHeader} {index : ℕ}
    {instruction : Instruction} {info : InstructionInfo} {ignored : Bool}
    (h : parseInstructionInfo ctx header index instruction = .ok (info, ignored)) :
    info.ParsedFrom ctx header index instruction ignored := by
  obtain ⟨program, hprogram, h⟩ := (Result.seq_ok_iff _ _ _).mp h
  cases program
  case splMemo => cases h; exact ⟨hprogram, rfl⟩
  case serumAssertOwner => cases h; exact ⟨hprogram, rfl⟩
  case unknown => cases h; rfl
  all_goals
    rcases known_ok_iff.mp h with ⟨a, hparse, hr⟩ | ⟨-, hr⟩ <;> cases hr
    · simp only [InstructionInfo.ParsedFrom, hprogram, hparse, and_self]
    · rfl

/-- The instructions parsed are each the outcome of one pass of the loop. -/
theorem mem_parseBodyInstructions {ctx : TokenContext} {header : MessageHeader}
    {q : ParsedInstruction} {n index : ℕ} {p : Parser}
    (hq : q ∈ (parseBodyInstructions ctx header n index p).1) :
    ∃ i p₁ p₂, parseBodyInstruction ctx header i p₁ = .ok (q, p₂) := by
  induction n generalizing index p with
  | zero => simp [parseBodyInstructions] at hq
  | succ n ih =>
      rw [parseBodyInstructions] at hq
      cases hstep : parseBodyInstruction ctx header index p with
      | error stop => simp [hstep] at hq
      | ok r =>
          simp only [hstep, List.mem_cons] at hq
          rcases hq with rfl | hq
          · exact ⟨index, p, r.2, hstep⟩
          · exact ih hq

/-- An instruction that the body's walk accepts has its indices in range. -/
theorem instructionValidate_of_parse {header : MessageHeader} {instruction : Instruction}
    {p p' : Parser}
    (h : parseValidateAndDebugInstructionAccounts header p = .ok (instruction, p')) :
    instructionValidate instruction header = true ∧ instruction.accounts.val.length < 256 := by
  obtain ⟨ins, p₁, -, h⟩ := (Result.step_seq_ok_iff _ _ _ _).mp h
  obtain ⟨u, p₂, hvalid, h⟩ := (Result.step_seq_ok_iff _ _ _ _).mp h
  have hins : instructionValidate ins header = true := by
    simpa using (parseBailIf_ok_iff.mp hvalid).1
  split at h
  · cases h
  · cases h
    exact ⟨hins, by omega⟩

/-- What one pass of the loop keeps of an instruction. -/
theorem parseBodyInstruction_ok {ctx : TokenContext} {header : MessageHeader}
    {q : ParsedInstruction} {index : ℕ} {p p' : Parser}
    (h : parseBodyInstruction ctx header index p = .ok (q, p')) :
    parseValidateAndDebugInstructionAccounts header p = .ok (q.instruction, p') ∧
      q.info.ParsedFrom ctx header index q.instruction q.ignored := by
  obtain ⟨instruction, p₁, hparse, h⟩ := (Result.step_seq_ok_iff _ _ _ _).mp h
  obtain ⟨⟨info, ignored⟩, p₂, hinfo, h⟩ := (Result.step_seq_ok_iff _ _ _ _).mp h
  obtain ⟨hinfo, hp⟩ := Result.step_lift_ok_iff.mp hinfo
  cases h
  exact ⟨by rw [hparse]; exact congrArg _ (congrArg _ hp.symm), parsedFrom_of_parse hinfo⟩

/-- **Every instruction of a parsed body** has its indices in range and its record from its
program's parser. -/
theorem parsedFrom_of_mem {ctx : TokenContext} {messageBody : Parser} {header : MessageHeader}
    {q : ParsedInstruction} (hq : q ∈ (parseMessageBody ctx messageBody header).1) :
    instructionValidate q.instruction header = true ∧ q.instruction.accounts.val.length < 256 ∧
      ∃ index, q.info.ParsedFrom ctx header index q.instruction q.ignored := by
  unfold parseMessageBody at hq
  split at hq
  · simp at hq
  · obtain ⟨index, p₁, p₂, hstep⟩ := mem_parseBodyInstructions hq
    obtain ⟨hparse, hfrom⟩ := parseBodyInstruction_ok hstep
    obtain ⟨hvalid, hlen⟩ := instructionValidate_of_parse hparse
    exact ⟨hvalid, hlen, index, hfrom⟩

/-- The instructions of a body, as they stand there. -/
def bodyInstructions (header : MessageHeader) : ℕ → Parser → List Instruction
  | 0, _ => []
  | n + 1, p =>
      match parseValidateAndDebugInstructionAccounts header p with
      | .ok (instruction, p') => instruction :: bodyInstructions header n p'
      | .error _ => []

theorem map_instruction_parseBodyInstructions {ctx : TokenContext} {header : MessageHeader}
    {n index : ℕ} {p p' : Parser} (h : (parseBodyInstructions ctx header n index p).2 = .ok p') :
    (parseBodyInstructions ctx header n index p).1.map (·.instruction)
      = bodyInstructions header n p := by
  induction n generalizing index p with
  | zero => rfl
  | succ n ih =>
      rw [parseBodyInstructions] at h ⊢
      cases hstep : parseBodyInstruction ctx header index p with
      | error stop => simp [hstep] at h
      | ok r =>
          simp only [hstep] at h
          simp only [bodyInstructions, (parseBodyInstruction_ok hstep).1, List.map_cons, ih h]

/-- **A body parsed to the end has a record for each of its instructions.** -/
theorem map_instruction_parseMessageBody {ctx : TokenContext} {messageBody : Parser}
    {header : MessageHeader} {parsed : List ParsedInstruction}
    (h : parseMessageBody ctx messageBody header = (parsed, .ok ())) :
    parsed.map (·.instruction) = bodyInstructions header header.instructionsLength messageBody := by
  unfold parseMessageBody at h
  split at h
  · cases (Prod.ext_iff.mp h).2
  · obtain ⟨rfl, h⟩ := Prod.ext_iff.mp h
    obtain ⟨p, hp, -⟩ := (Result.seq_ok_iff _ _ _).mp h
    exact map_instruction_parseBodyInstructions hp

/-- No instruction of a body that is parsed to the end is unknown. -/
theorem info_ne_unknown {ctx : TokenContext} {messageBody : Parser} {header : MessageHeader}
    {parsed : List ParsedInstruction}
    (h : parseMessageBody ctx messageBody header = (parsed, .ok ()))
    {q : ParsedInstruction} (hq : q ∈ parsed) : q.info ≠ .unknown := by
  unfold parseMessageBody at h
  split at h
  · cases (Prod.ext_iff.mp h).2
  · obtain ⟨rfl, h⟩ := Prod.ext_iff.mp h
    obtain ⟨p, -, h⟩ := (Result.seq_ok_iff _ _ _).mp h
    obtain ⟨r, -, h⟩ := (Result.seq_ok_iff _ _ _).mp h
    have hnone := bailIf_eq_ok.mp h
    simpa using (List.any_eq_false.mp hnone) q hq

/-- **Every instruction of a body parsed to the end** has a record, from its program's parser. -/
theorem exists_parsed_of_mem {ctx : TokenContext} {messageBody : Parser} {header : MessageHeader}
    {parsed : List ParsedInstruction}
    (h : parseMessageBody ctx messageBody header = (parsed, .ok ()))
    {instruction : Instruction}
    (hins : instruction ∈ bodyInstructions header header.instructionsLength messageBody) :
    ∃ q ∈ parsed, q.instruction = instruction ∧ q.info ≠ .unknown ∧
      ∃ index, q.info.ParsedFrom ctx header index instruction q.ignored := by
  rw [← map_instruction_parseMessageBody h] at hins
  obtain ⟨q, hq, rfl⟩ := List.mem_map.mp hins
  have hmem : q ∈ (parseMessageBody ctx messageBody header).1 := by rwa [h]
  obtain ⟨-, -, hfrom⟩ := parsedFrom_of_mem hmem
  exact ⟨q, hq, rfl, info_ne_unknown h hq, hfrom⟩

/-- The record of an instruction of the System program. -/
theorem eq_system_of_parsedFrom {ctx : TokenContext} {header : MessageHeader} {index : ℕ}
    {instruction : Instruction} {ignored : Bool} {info : InstructionInfo} {system : SystemInfo}
    (hfrom : info.ParsedFrom ctx header index instruction ignored) (hne : info ≠ .unknown)
    (hprogram : instructionProgramId instruction header = .ok .system)
    (hparse : parseSystemInstructions.parse header instruction = .ok system) :
    info = .system system ∧ ignored = false := by
  cases info with
  | unknown => exact absurd rfl hne
  | system info =>
      obtain ⟨-, hignored, hinfo⟩ := hfrom
      obtain rfl : info = system := Except.ok.inj (hinfo.symm.trans hparse)
      exact ⟨rfl, hignored⟩
  | _ => exact absurd (hprogram.symm.trans hfrom.1) (by simp)

theorem mem_displayInstructionInfo {parsed : List ParsedInstruction} {info : InstructionInfo} :
    info ∈ displayInstructionInfo parsed ↔
      ∃ q ∈ parsed, q.ignored = false ∧ info.isDisplayed = true ∧ q.info = info := by
  simp only [displayInstructionInfo, List.mem_map, List.mem_filter, Bool.and_eq_true,
    Bool.not_eq_true']
  constructor
  · rintro ⟨q, ⟨hq, hign, hdisp⟩, rfl⟩
    exact ⟨q, hq, hign, hdisp, rfl⟩
  · rintro ⟨q, hq, hign, hdisp, rfl⟩
    exact ⟨q, ⟨hq, hign, hdisp⟩, rfl⟩

/-! ## Layouts -/

/-- What the review of a message consists of. -/
structure Layout where
  /-- whether the extension warning comes first -/
  warning : Bool
  nonce : Option SystemAdvanceNonceInfo
  /-- the maximum fee of the compute budget, zero for none -/
  fee : UInt64
  pattern : Pattern
  deriving DecidableEq

/-- The layout of the review of a parsed message, if it is one of the known ones. -/
def layout (parsed : List ParsedInstruction) : Option Layout :=
  let (nonce, infos) := splitNonce (displayInstructionInfo parsed)
  let (infos, feeInfo) := preprocessComputeBudgetInstructions infos
  match computeBudgetMaxFee feeInfo, recognise infos with
  | .ok fee, some pattern =>
      some { warning := generateExtensionWarning parsed, nonce, fee, pattern }
  | _, _ => none

/-- What comes before the pattern. -/
def headItems (printConfig : PrintConfig) (warning : Bool) (nonce : Option SystemAdvanceNonceInfo) :
    Script :=
  (if warning then printSplTokenExtensionWarning else [])
    ++ (nonce.map fun nonceInfo =>
        printSystemNoncedTransactionSentinel nonceInfo printConfig).getD []

namespace Layout

/-- The fee that is shown: with the rent of a token account. -/
def maxFee (l : Layout) : UInt64 := l.fee + l.pattern.rent

/-- The items of a layout. -/
def script (printConfig : PrintConfig) (ctx : TokenContext) (l : Layout) : Script :=
  headItems printConfig l.warning l.nonce ++ l.pattern.print printConfig ctx
    ++ (if l.maxFee ≠ 0 then printComputeBudgetMaxFee l.maxFee else [])

end Layout

/-- **Printing is playing the layout**; without one the printer bails out after the warning and the
nonce. -/
theorem printMessageBody_eq (ctx : TokenContext) (printConfig : PrintConfig)
    (parsed : List ParsedInstruction) :
    printMessageBody ctx printConfig parsed = match layout parsed with
      | some l => l.script printConfig ctx
      | none => headItems printConfig (generateExtensionWarning parsed)
          (splitNonce (displayInstructionInfo parsed)).1 ++ [.fail] := by
  unfold printMessageBody printTransaction printTransactionNonceProcessed layout
  rcases splitNonce (displayInstructionInfo parsed) with ⟨nonce, infos⟩
  rcases hpre : preprocessComputeBudgetInstructions infos with ⟨core, feeInfo⟩
  simp only [hpre]
  cases nonce <;> cases computeBudgetMaxFee feeInfo <;> cases recognise core <;>
    simp only [headItems, Layout.script, Layout.maxFee, Option.map_none, Option.map_some,
      Option.getD_none, Option.getD_some, List.nil_append, List.append_nil, List.append_assoc] <;>
    rfl

/-! ## What a layout says about the instructions -/

theorem splitNonce_eq {infos core : List InstructionInfo} {nonce : Option SystemAdvanceNonceInfo}
    (h : splitNonce infos = (nonce, core)) :
    infos = (nonce.toList.map fun n => .system (.advanceNonce n)) ++ core := by
  unfold splitNonce at h
  split at h
  · cases h; rfl
  · cases h; rfl
  · rename_i info infos hne
    split at h
    · rename_i n hn
      cases h
      have hinfo : info = .system (.advanceNonce n) := by
        unfold InstructionInfo.advanceNonce? at hn
        split at hn
        · cases hn; rfl
        · cases hn
      simp [hinfo]
    · cases h
      rfl

theorem stripComputeBudget_eq (feeInfo : ComputeBudgetFeeInfo) (infos : List InstructionInfo) :
    ∃ budgets : List ComputeBudgetInfo,
      infos = budgets.map .computeBudget ++ (stripComputeBudget feeInfo infos).1 ∧
        (stripComputeBudget feeInfo infos).2 = budgets.foldl ComputeBudgetFeeInfo.step feeInfo := by
  induction infos generalizing feeInfo with
  | nil => exact ⟨[], rfl, rfl⟩
  | cons info infos ih =>
      rw [stripComputeBudget]
      cases hb : info.computeBudget? with
      | none => exact ⟨[], rfl, rfl⟩
      | some budget =>
          obtain ⟨budgets, hinfos, hfee⟩ := ih (feeInfo.step budget)
          have hinfo : info = .computeBudget budget := by
            unfold InstructionInfo.computeBudget? at hb
            split at hb
            · cases hb; rfl
            · cases hb
          exact ⟨budget :: budgets, by simpa [hinfo] using hinfos, hfee⟩

theorem preprocessComputeBudgetInstructions_spec {infos core : List InstructionInfo}
    {feeInfo : ComputeBudgetFeeInfo}
    (h : preprocessComputeBudgetInstructions infos = (core, feeInfo)) :
    ∃ budgets : List ComputeBudgetInfo, infos = budgets.map .computeBudget ++ core ∧
      feeInfo = budgets.foldl ComputeBudgetFeeInfo.step
        ⟨none, none, if infos.length > 1 then infos.length else 0, 0⟩ := by
  unfold preprocessComputeBudgetInstructions at h
  split at h
  · obtain ⟨budgets, hinfos, hfee⟩ := stripComputeBudget_eq ⟨none, none, infos.length, 0⟩ infos
    rw [h] at hinfos hfee
    exact ⟨budgets, hinfos, by rw [if_pos ‹_›]; exact hfee⟩
  · cases h
    exact ⟨[], rfl, by rw [if_neg ‹_›]; rfl⟩

/-- **The fee of a layout** counts the displayed instructions behind the nonce. -/
theorem layout_fee {parsed : List ParsedInstruction} {l : Layout} (h : layout parsed = some l) :
    ∃ (budgets : List ComputeBudgetInfo) (core infos : List InstructionInfo),
      infos = budgets.map .computeBudget ++ core ∧
        displayInstructionInfo parsed
          = (l.nonce.toList.map fun n => .system (.advanceNonce n)) ++ infos ∧
        recognise core = some l.pattern ∧ l.warning = generateExtensionWarning parsed ∧
        computeBudgetMaxFee (budgets.foldl ComputeBudgetFeeInfo.step
          ⟨none, none, if infos.length > 1 then infos.length else 0, 0⟩) = .ok l.fee := by
  unfold layout at h
  rcases hsplit : splitNonce (displayInstructionInfo parsed) with ⟨nonce, infos⟩
  rcases hpre : preprocessComputeBudgetInstructions infos with ⟨core, feeInfo⟩
  simp only [hsplit, hpre] at h
  split at h
  · rename_i fee pattern hfee hpattern
    cases h
    obtain ⟨budgets, hinfos, hfeeInfo⟩ := preprocessComputeBudgetInstructions_spec hpre
    exact ⟨budgets, core, infos, hinfos, splitNonce_eq hsplit, hpattern, rfl, hfeeInfo ▸ hfee⟩
  · cases h

/-- **The displayed instructions of a layout**: the nonce, compute budget instructions, and the
instructions of the pattern. -/
theorem layout_spec {parsed : List ParsedInstruction} {l : Layout} (h : layout parsed = some l) :
    ∃ (budgets : List ComputeBudgetInfo) (core : List InstructionInfo) (n : ℕ),
      displayInstructionInfo parsed
          = (l.nonce.toList.map fun n => .system (.advanceNonce n))
            ++ budgets.map .computeBudget ++ core ∧
        recognise core = some l.pattern ∧ l.warning = generateExtensionWarning parsed ∧
        computeBudgetMaxFee (budgets.foldl ComputeBudgetFeeInfo.step ⟨none, none, n, 0⟩)
          = .ok l.fee := by
  obtain ⟨budgets, core, infos, rfl, hdisplay, hrest⟩ := layout_fee h
  exact ⟨budgets, core, _, by rw [hdisplay, List.append_assoc], hrest⟩

theorem layout_nonce {parsed : List ParsedInstruction} {l : Layout} (h : layout parsed = some l) :
    l.nonce = (splitNonce (displayInstructionInfo parsed)).1 := by
  unfold layout at h
  simp only at h
  split at h <;> cases h
  rfl

/-- **The records that a pattern is recognised from** are displayed, and they are all that are but
for the nonce and the instructions of the compute budget. -/
theorem core_of_layout {parsed : List ParsedInstruction} {l : Layout}
    (h : layout parsed = some l) :
    ∃ core, recognise core = some l.pattern ∧
      (∀ info ∈ core, ∃ q ∈ parsed, q.ignored = false ∧ q.info = info) ∧
      ∀ q ∈ parsed, q.ignored = false → q.info.isDisplayed = true → q.info ∈ core ∨
        (∃ nonce, q.info = .system (.advanceNonce nonce)) ∨
        ∃ budget, q.info = .computeBudget budget := by
  obtain ⟨budgets, core, n, hdisplay, hcore, -⟩ := layout_spec h
  refine ⟨core, hcore, fun info hinfo => ?_, fun q hq hign hdisplayed => ?_⟩
  · have hmem : info ∈ displayInstructionInfo parsed := by
      rw [hdisplay]
      exact List.mem_append_right _ hinfo
    obtain ⟨q, hq, hign, -, hqinfo⟩ := mem_displayInstructionInfo.mp hmem
    exact ⟨q, hq, hign, hqinfo⟩
  · have hmem : q.info ∈ displayInstructionInfo parsed :=
      mem_displayInstructionInfo.mpr ⟨q, hq, hign, hdisplayed, rfl⟩
    rw [hdisplay] at hmem
    simp only [List.mem_append, List.mem_map] at hmem
    rcases hmem with (⟨nonce, -, hnonce⟩ | ⟨budget, -, hbudget⟩) | hmem
    · exact .inr (.inl ⟨nonce, hnonce.symm⟩)
    · exact .inr (.inr ⟨budget, hbudget.symm⟩)
    · exact .inl hmem

/-! ## Transfers -/

/-- The transfer of a token instruction. -/
def SplTokenBody.transfer? : SplTokenBody → Option SplTokenTransferInfo
  | .transferChecked transfer => some transfer
  | .transferCheckedWithFee transfer => some transfer
  | _ => none

/-- The transfer that a pattern shows, with the kind of its token. -/
def Pattern.transfer? : Pattern → Option (Bool × SplTokenTransferInfo)
  | .splToken info => info.body.transfer?.map fun transfer => (info.isToken2022Kind, transfer)
  | .splAssociatedTokenAccountCreateWithTransfer _ isToken2022Kind transfer =>
      some (isToken2022Kind, transfer)
  | _ => none

theorem recognise_transfer {core : List InstructionInfo} {pattern : Pattern}
    {isToken2022Kind : Bool}
    {transfer : SplTokenTransferInfo} (h : recognise core = some pattern)
    (ht : pattern.transfer? = some (isToken2022Kind, transfer)) :
    ∃ info, .splToken info ∈ core ∧ info.isToken2022Kind = isToken2022Kind ∧
      info.body.transfer? = some transfer := by
  unfold recognise at h
  split at h
  · unfold recogniseOne at h
    split at h <;> (cases h; try cases ht)
    rename_i info
    obtain ⟨body, hbody, hpair⟩ := Option.map_eq_some_iff.mp ht
    cases hpair
    exact ⟨info, List.mem_singleton_self _, rfl, hbody⟩
  · unfold recogniseTwo at h
    split at h <;> cases h <;> cases ht
    · exact ⟨_, List.mem_cons_of_mem _ (List.mem_singleton_self _), rfl, rfl⟩
    · exact ⟨_, List.mem_cons_of_mem _ (List.mem_singleton_self _), rfl, rfl⟩
  · unfold recogniseThree at h
    split at h <;> cases h <;> cases ht
  · unfold recogniseFour at h
    split at h <;> cases h
    cases ht
  · cases h

/-- **A transfer that is shown** comes from a token instruction whose parser checked the token
account against the trusted info. -/
theorem parsed_transfer_of_layout {ctx : TokenContext} {messageBody : Parser}
    {header : MessageHeader} {parsed : List ParsedInstruction} {l : Layout}
    (hparsed : parseMessageBody ctx messageBody header = (parsed, .ok ()))
    (hl : layout parsed = some l) {isToken2022Kind : Bool} {transfer : SplTokenTransferInfo}
    (ht : l.pattern.transfer? = some (isToken2022Kind, transfer)) :
    ∃ info : SplTokenInfo, info.Parsed ctx false ∧ info.isToken2022Kind = isToken2022Kind ∧
      info.body.transfer? = some transfer := by
  obtain ⟨core, hcore, hdisplayed, -⟩ := core_of_layout hl
  obtain ⟨info, hinfo, hkind, hbody⟩ := recognise_transfer hcore ht
  obtain ⟨q, hq, hign, hqinfo⟩ := hdisplayed _ hinfo
  have hmem : q ∈ (parseMessageBody ctx messageBody header).1 := by rwa [hparsed]
  obtain ⟨-, -, index, hfrom⟩ := parsedFrom_of_mem hmem
  rw [hqinfo, hign] at hfrom
  exact ⟨info, (parseSplTokenInstructions_ok hfrom.2).2, hkind, hbody⟩

/-- Such a transfer passes the check. -/
theorem SplTokenInfo.Parsed.check {ctx : TokenContext} {info : SplTokenInfo} {ignored : Bool}
    {transfer : SplTokenTransferInfo} (h : info.Parsed ctx ignored)
    (ht : info.body.transfer? = some transfer) :
    checkAtaAgainstTrustedInfo ctx transfer.mintAccount.val transfer.destAccount.val
      info.isToken2022Kind = true := by
  unfold SplTokenInfo.Parsed at h
  cases hbody : info.body <;> rw [hbody] at h ht <;> cases ht
  · exact h.2.2.2
  · exact h.2.2.2.2

/-! ## Accepted messages -/

/-- Parsing puts nothing into the summary and does not stop it. -/
theorem parseEffects_quiet (parsed : List ParsedInstruction) :
    Effect.fail ∉ parsed.flatMap (·.info.parseEffects) ∧
      ∀ slot, Script.items slot (parsed.flatMap (·.info.parseEffects)) = [] := by
  have hquiet : ∀ info : InstructionInfo, Effect.fail ∉ info.parseEffects ∧
      ∀ slot, Script.items slot info.parseEffects = [] := fun info => by
    cases info with
    | stake info =>
        cases info <;> simp [InstructionInfo.parseEffects, StakeInfo.parseEffects, Script.itemAt]
    | _ => simp [InstructionInfo.parseEffects]
  induction parsed with
  | nil => simp
  | cons q parsed ih =>
      simp only [List.flatMap_cons, List.mem_append, Script.items_append]
      exact ⟨not_or.mpr ⟨(hquiet q.info).1, ih.1⟩,
        fun slot => by rw [(hquiet q.info).2 slot, ih.2 slot, List.append_nil]⟩

/-- **When a message is accepted**: its body parses, its review has a layout, and the items of the
layout fit. -/
theorem processMessageBody_ok_iff {ctx : TokenContext} {messageBody : Parser}
    {printConfig : PrintConfig} {s : TransactionSummary} :
    (processMessageBody ctx messageBody printConfig s).1 = .ok () ↔
      ∃ parsed l, parseMessageBody ctx messageBody printConfig.header = (parsed, .ok ()) ∧
        layout parsed = some l ∧ Effect.fail ∉ l.script printConfig ctx ∧
        ∀ slot, (s.itemsOf slot).length + (Script.items slot (l.script printConfig ctx)).length
          ≤ TransactionSummary.capacity slot := by
  unfold processMessageBody messageBodyScript
  rcases parseMessageBody ctx messageBody printConfig.header with ⟨parsed, stop | u⟩
  · simp
  · simp only [Script.play_ok_iff, printMessageBody_eq, List.mem_append, Script.items_append,
      (parseEffects_quiet parsed).1, (parseEffects_quiet parsed).2, false_or, List.nil_append]
    cases hl : layout parsed with
    | none => simp [hl]
    | some l => simp [hl]

/-- **What an accepted message leaves in the summary**: the items of its layout. -/
theorem processMessageBody_ok {ctx : TokenContext} {messageBody : Parser}
    {printConfig : PrintConfig} {s s' : TransactionSummary}
    (h : processMessageBody ctx messageBody printConfig s = (.ok (), s')) :
    ∃ parsed l, parseMessageBody ctx messageBody printConfig.header = (parsed, .ok ()) ∧
      layout parsed = some l ∧ Effect.fail ∉ l.script printConfig ctx ∧
      ∀ slot, s'.itemsOf slot = s.itemsOf slot ++ Script.items slot (l.script printConfig ctx) := by
  obtain ⟨parsed, l, hparsed, hl, hfail, -⟩ :=
    processMessageBody_ok_iff.mp (congrArg Prod.fst h)
  refine ⟨parsed, l, hparsed, hl, hfail, fun slot => ?_⟩
  unfold processMessageBody messageBodyScript at h
  simp only [hparsed, printMessageBody_eq, hl] at h
  rw [Script.itemsOf_play h slot, Script.items_append, (parseEffects_quiet parsed).2,
    List.nil_append]

end AgencLedger
