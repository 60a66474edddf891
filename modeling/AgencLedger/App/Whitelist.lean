import AgencLedger.App.NativeSwap
import AgencLedger.App.TokenSwap
import AgencLedger.Review.Accepted

/-!
# App/Whitelist — everything that a signed swap contains

The swap checks see the review only, and not every instruction has a trace there.  Memos and owner
assertions have none by design; an extension instruction has one if it calls for a warning, and then
the swap is refused.  The other extensions are passed over in silence.
-/

namespace AgencLedger

section

variable {ctx : TokenContext} {header : MessageHeader} {index : ℕ} {instruction : Instruction}
  {info : InstructionInfo} {ignored : Bool}

/-- An instruction that the review does not show is one of three. -/
theorem hidden_of_parsedFrom (h : info.ParsedFrom ctx header index instruction ignored)
    (hhidden : ¬(ignored = false ∧ info.isDisplayed = true)) :
    instructionProgramId instruction header = .ok .splMemo ∨
      instructionProgramId instruction header = .ok .serumAssertOwner ∨
      ∃ kind, instruction.IsExtension header kind := by
  cases info with
  | splMemo => exact .inl h.1
  | serumAssertOwner => exact .inr (.inl h.1)
  | splToken info =>
      rcases ignored with _ | _
      · exact absurd ⟨rfl, rfl⟩ hhidden
      · obtain ⟨kind, hbody⟩ := (ignored_iff_of_splToken h).mp rfl
        exact .inr (.inr ⟨kind, (isExtension_iff h).mpr hbody⟩)
  | unknown => exact absurd ⟨h, rfl⟩ hhidden
  | _ => exact absurd ⟨h.2.1, rfl⟩ hhidden

/-- Without a warning no extension that calls for one is there. -/
theorem notMem_warningKinds {parsed : List ParsedInstruction} {q : ParsedInstruction}
    {kind : SplTokenExtensionKind} (hwarning : generateExtensionWarning parsed = false)
    (hq : q ∈ parsed) (h : q.info.ParsedFrom ctx header index q.instruction q.ignored)
    (hext : q.instruction.IsExtension header kind) (hne : q.info ≠ .unknown) :
    kind ∉ warningKinds := by
  intro hkind
  have hq' := (generateExtensionWarning_iff h hne).mpr ⟨kind, hkind, hext⟩
  rw [generateExtensionWarning, List.any_eq_false] at hwarning
  exact hwarning q hq hq'

end

/-- The instructions of a pattern that a swap signs: the validated transfer, and in front of one of
tokens perhaps the creation of an account. -/
def App.ValidCore (env : Env) (app : App) (l : Layout) (core : List InstructionInfo) : Prop :=
  (∃ info, core = [.system (.transfer info)] ∧ app.swap.ticker.chars = "SOL".toList ∧
    app.ValidLamports env l info) ∨
  ∃ info transfer trusted, (core = [.splToken info] ∨
      ∃ create, core = [.splAssociatedTokenAccount create, .splToken info]) ∧
    app.swap.ticker.chars ≠ "SOL".toList ∧ app.ValidToken env l info transfer trusted

/-- **What a signed swap contains**: a leading nonce advance, the compute budget, and the validated
transfer, perhaps after the creation of an account; and out of the review memos, owner assertions,
and the extension instructions that call for no warning. -/
theorem whitelist_of_swapFinalize {env : Env} {frame : ℕ → Hash} {app : App}
    {signature : Option (Block 64)} (hnone : app.savedDescriptors = none)
    (h : (handleSignMessageParseMessage env frame app).1 = .swapFinalize signature) :
    ∃ header messageBody parsed l,
      parseMessageHeader ⟨0, app.command.message⟩ = .ok (header, messageBody) ∧
        parseMessageBody (app.tokenContext env) messageBody header = (parsed, .ok ()) ∧
        parsed.map (·.instruction)
          = bodyInstructions header header.instructionsLength messageBody ∧
        layout parsed = some l ∧
        (∃ (nonce : Option SystemAdvanceNonceInfo) (budgets : List ComputeBudgetInfo)
            (core : List InstructionInfo),
          displayInstructionInfo parsed = (nonce.toList.map fun n => .system (.advanceNonce n))
              ++ budgets.map .computeBudget ++ core ∧
            app.ValidCore env l core) ∧
        ∀ q ∈ parsed, (q.ignored = false ∧ q.info ∈ displayInstructionInfo parsed) ∨
          instructionProgramId q.instruction header = .ok .splMemo ∨
          instructionProgramId q.instruction header = .ok .serumAssertOwner ∨
          ∃ kind ∉ warningKinds, q.instruction.IsExtension header kind := by
  obtain ⟨header, messageBody, signerPubkey, parsed, l, s, review⟩ :=
    passesReview_of_swapFinalize hnone h
  obtain ⟨kinds, hkinds, hvalid⟩ := review.valid
  have hmode : app.swap.swapMode = .standard :=
    @swapMode_of_checkSwapValidity env frame { app.resetSummary with summary := s } kinds hvalid
  have hcore : l.warning = false ∧ app.ValidCore env l (patternInstructions parsed) := by
    by_cases hticker : app.swap.ticker.chars = "SOL".toList
    · obtain ⟨info, hpattern, hlamports⟩ := review.lamports hmode hticker
      exact ⟨hlamports.warning, .inl ⟨info, hpattern, hticker, hlamports⟩⟩
    · obtain ⟨info, transfer, trusted, hpattern, htoken⟩ := review.token hmode hticker
      exact ⟨htoken.warning, .inr ⟨info, transfer, trusted, hpattern, hticker, htoken⟩⟩
  obtain ⟨nonce, budgets, hdisplay⟩ := displayInstructionInfo_patternInstructions parsed
  refine ⟨header, messageBody, parsed, l, review.header_eq, review.parsed_eq,
    map_instruction_parseMessageBody review.parsed_eq, review.layout_eq,
      ⟨nonce, budgets, _, hdisplay, hcore.2⟩, fun q hq => ?_⟩
  have hmem : q ∈ (parseMessageBody (app.tokenContext env) messageBody header).1 := by
    rwa [review.parsed_eq]
  obtain ⟨-, -, index, hfrom⟩ := parsedFrom_of_mem hmem
  by_cases hshown : q.ignored = false ∧ q.info.isDisplayed = true
  · exact .inl ⟨hshown.1, mem_displayInstructionInfo.mpr ⟨q, hq, hshown.1, hshown.2, rfl⟩⟩
  · refine .inr ((hidden_of_parsedFrom hfrom hshown).imp_right fun h => h.imp_right ?_)
    rintro ⟨kind, hext⟩
    obtain ⟨-, -, -, -, -, hwarning, -⟩ := layout_spec review.layout_eq
    refine ⟨kind, notMem_warningKinds (hwarning.symm.trans hcore.1) hq hfrom hext ?_, hext⟩
    exact info_ne_unknown review.parsed_eq hq

/-- The app of a standard swap, with the message to sign: a price of one lamport a unit, one lamport
for the System program, and a memo. -/
def memoApp : App :=
  { App.plain exchangeEnv (legacyMessage
      [plainSigner, systemProgramId, computeBudgetProgramId, splMemoProgramId]
      [writeInstruction 2 [] [3, 0x40, 0x42, 0x0f, 0, 0, 0, 0, 0],
        writeInstruction 1 [0, 1] [2, 0, 0, 0, 1, 0, 0, 0, 0, 0, 0, 0],
        writeInstruction 3 [] [104, 105]]) with
    calledFromSwap := true
    swap := { standardApp.swap with fee := 405000 } }

/-- The theorem on that swap. -/
theorem whitelist_of_swapFinalize_memo :
    ∃ header messageBody parsed l,
      parseMessageHeader ⟨0, memoApp.command.message⟩ = .ok (header, messageBody) ∧
        parseMessageBody (memoApp.tokenContext exchangeEnv) messageBody header
          = (parsed, .ok ()) ∧
        parsed.map (·.instruction)
          = bodyInstructions header header.instructionsLength messageBody ∧
        layout parsed = some l ∧
        (∃ (nonce : Option SystemAdvanceNonceInfo) (budgets : List ComputeBudgetInfo)
            (core : List InstructionInfo),
          displayInstructionInfo parsed = (nonce.toList.map fun n => .system (.advanceNonce n))
              ++ budgets.map .computeBudget ++ core ∧
            memoApp.ValidCore exchangeEnv l core) ∧
        ∀ q ∈ parsed, (q.ignored = false ∧ q.info ∈ displayInstructionInfo parsed) ∨
          instructionProgramId q.instruction header = .ok .splMemo ∨
          instructionProgramId q.instruction header = .ok .serumAssertOwner ∨
          ∃ kind ∉ warningKinds, q.instruction.IsExtension header kind :=
  @whitelist_of_swapFinalize exchangeEnv (fun _ => Block.zero 32) memoApp
    (some (Block.zero 64)) rfl (by decide +kernel)

/-! ## A swap with an extension -/

/-- The keys of a message that pays one lamport and takes the CPI guard off a token account. -/
def guardKeys : List Pubkey := [plainSigner, systemProgramId, splToken2022ProgramId]

theorem length_guardKeys : guardKeys.length < 128 := by decide

def guardInstructions : List (List UInt8) :=
  [writeInstruction 1 [0, 1] [2, 0, 0, 0, 1, 0, 0, 0, 0, 0, 0, 0],
    writeInstruction 2 [1, 0] [34, 1]]

/-- The app of a standard swap, with that message to sign. -/
def guardApp : App :=
  { App.plain exchangeEnv (legacyMessage guardKeys guardInstructions) with
    calledFromSwap := true
    swap := standardApp.swap }

/-- What the message is parsed to. -/
def guardParsed : List ParsedInstruction × Result Unit :=
  parseMessageBody (guardApp.tokenContext exchangeEnv) (legacyBody guardKeys guardInstructions)
    (legacyHeader guardKeys length_guardKeys 2)

/-- **A swap is signed with an extension instruction** that is neither shown nor warned of. -/
theorem guardApp_signs_extension :
    guardApp.savedDescriptors = none ∧
      (handleSignMessageParseMessage exchangeEnv (fun _ => Block.zero 32) guardApp).1
        = .swapFinalize (some (Block.zero 64)) ∧
      ∃ header messageBody parsed,
        parseMessageHeader ⟨0, guardApp.command.message⟩ = .ok (header, messageBody) ∧
          parseMessageBody (guardApp.tokenContext exchangeEnv) messageBody header
            = (parsed, .ok ()) ∧
          ∃ q ∈ parsed, q.info ∉ displayInstructionInfo parsed ∧
            instructionProgramId q.instruction header ≠ .ok .splMemo ∧
            instructionProgramId q.instruction header ≠ .ok .serumAssertOwner ∧
            q.instruction.IsExtension header .cpiGuardExtension := by
  have hguard : ∃ q ∈ guardParsed.1, q.info ∉ displayInstructionInfo guardParsed.1 ∧
      instructionProgramId q.instruction (legacyHeader guardKeys length_guardKeys 2)
        = .ok .splToken ∧
      q.instruction.data.val[0]? = some SplTokenExtensionKind.cpiGuardExtension.code := by
    decide
  obtain ⟨q, hq, hhidden, hprogram, hcode⟩ := hguard
  refine ⟨rfl, by decide +kernel, legacyHeader guardKeys length_guardKeys 2,
    legacyBody guardKeys guardInstructions, guardParsed.1, by decide +kernel,
    Prod.ext rfl (by decide), q, hq, hhidden, ?_, ?_, hprogram, hcode, ?_⟩
  · rw [hprogram]
    decide
  · rw [hprogram]
    decide
  · intro h
    cases h

end AgencLedger
