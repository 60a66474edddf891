import AgencLedger.Review.Items
import AgencLedger.Sol.Grammar

/-!
# Review/Accepted — no instruction is signed unparsed

An accepted body is its instructions and nothing else.  Each of them was recognised and accepted by
the parser of its program; each is displayed, or belongs to one of the few kinds that are not; and
what is displayed forms one of the known patterns.
-/

namespace AgencLedger

open Input

/-! ## Consumption -/

/-- What follows the instructions: no lookup tables in a versioned message, nothing else. -/
def bodyEnd (versioned : Bool) : Grammar UInt8 Unit := fun n _ w =>
  if versioned then compactLength n 0 w else w = []

theorem parseBodyEnd_ok {header : MessageHeader} {p p' : Parser} {u : Unit}
    (h : parseBodyEnd header p = .ok (u, p')) : bodyEnd header.versioned p.addr () p.buffer := by
  have hempty : ∀ {q : Parser}, parserIsEmpty q = true → q.buffer = [] := fun hq =>
    List.length_eq_zero_iff.mp (by simpa [parserIsEmpty] using hq)
  unfold bodyEnd
  unfold parseBodyEnd at h
  split
  · rename_i hversioned
    rw [if_pos hversioned] at h
    obtain ⟨tables, q, hlength, h⟩ := (Result.step_seq_ok_iff _ _ _ _).mp h
    obtain ⟨u, q', hnone, h⟩ := (Result.step_seq_ok_iff _ _ _ _).mp h
    obtain ⟨hnone, hq⟩ := parseBailIf_ok_iff.mp hnone
    cases hq
    obtain ⟨r, q', hget, h⟩ := (Result.step_seq_ok_iff _ _ _ _).mp h
    cases hget
    obtain ⟨w, ⟨hrest, -⟩, hw⟩ := (accepts_parseLength p tables q).mp hlength
    have hq : q.buffer = [] := hempty (by simpa using (parseBailIf_ok_iff.mp h).1)
    have hbuffer : p.buffer = w ++ q.buffer := hrest
    rw [hq, List.append_nil] at hbuffer
    obtain rfl : tables = 0 := by simpa using hnone
    rw [hbuffer]
    exact hw
  · rename_i hversioned
    rw [if_neg hversioned] at h
    obtain ⟨r, q', hget, h⟩ := (Result.step_seq_ok_iff _ _ _ _).mp h
    cases hget
    exact hempty (by simpa using (parseBailIf_ok_iff.mp h).1)

/-- **The walk reads the instructions it keeps**, one after the other. -/
theorem reads_parseBodyInstructions {ctx : TokenContext} {header : MessageHeader} {n index : ℕ}
    {p p' : Parser} (h : (parseBodyInstructions ctx header n index p).2 = .ok p') :
    (parseBodyInstructions ctx header n index p).1.length = n ∧
      ∃ w, Reads p w p' ∧ instructionsAt p.addr
        ((parseBodyInstructions ctx header n index p).1.map (·.instruction)) w := by
  induction n generalizing index p with
  | zero =>
      cases h
      exact ⟨rfl, [], reads_nil.mpr rfl, rfl⟩
  | succ n ih =>
      rw [parseBodyInstructions] at h ⊢
      cases hstep : parseBodyInstruction ctx header index p with
      | error stop => simp [hstep] at h
      | ok r =>
          simp only [hstep] at h ⊢
          obtain ⟨hlen, v, hv, hinstructions⟩ := ih h
          obtain ⟨hparse, -⟩ := parseBodyInstruction_ok hstep
          obtain ⟨instruction, q, hins, hrest⟩ := (Result.step_seq_ok_iff _ _ _ _).mp hparse
          obtain ⟨u, q', hvalid, hrest⟩ := (Result.step_seq_ok_iff _ _ _ _).mp hrest
          obtain ⟨-, hq⟩ := parseBailIf_ok_iff.mp hvalid
          cases hq
          split at hrest
          · cases hrest
          · cases hrest
            obtain ⟨u, hu, hat⟩ := (accepts_parseInstruction _ _ _).mp hins
            refine ⟨by rw [List.length_cons, hlen], u ++ v, reads_append.mpr ⟨_, hu, hv⟩, u, v,
              rfl, hat, ?_⟩
            have haddr : r.2.addr = p.addr + u.length := hu.2
            rwa [haddr] at hinstructions

/-- **A body that parses is its instructions, and its end.** -/
theorem parseMessageBody_consumes {ctx : TokenContext} {messageBody : Parser}
    {header : MessageHeader} {parsed : List ParsedInstruction}
    (h : parseMessageBody ctx messageBody header = (parsed, .ok ())) :
    parsed.length = header.instructionsLength ∧ 1 ≤ parsed.length ∧
      parsed.length ≤ maxInstructions ∧
      ∃ u v, messageBody.buffer = u ++ v ∧
        instructionsAt messageBody.addr (parsed.map (·.instruction)) u ∧
        bodyEnd header.versioned (messageBody.addr + u.length) () v := by
  unfold parseMessageBody at h
  split at h
  · cases (Prod.ext_iff.mp h).2
  · obtain ⟨rfl, h⟩ := Prod.ext_iff.mp h
    obtain ⟨p, hp, h⟩ := (Result.seq_ok_iff _ _ _).mp h
    obtain ⟨⟨u, p'⟩, hend, -⟩ := (Result.seq_ok_iff _ _ _).mp h
    obtain ⟨hlen, w, hreads, hinstructions⟩ := reads_parseBodyInstructions hp
    have hend := parseBodyEnd_ok hend
    have haddr : p.addr = messageBody.addr + w.length := hreads.2
    rw [haddr] at hend
    exact ⟨hlen, by rw [hlen]; omega, by rw [hlen]; omega, w, p.buffer, hreads.1, hinstructions,
      hend⟩

/-! ## Extension instructions -/

/-- The first data byte of an extension instruction. -/
def SplTokenExtensionKind.code : SplTokenExtensionKind → UInt8
  | .transferFeeExtension => 26
  | .confidentialTransferExtension => 27
  | .defaultAccountStateExtension => 28
  | .memoTransferExtension => 30
  | .interestBearingMintExtension => 33
  | .cpiGuardExtension => 34
  | .transferHookExtension => 36
  | .confidentialTransferFeeExtension => 37
  | .metadataPointerExtension => 39
  | .groupPointerExtension => 40
  | .groupMemberPointerExtension => 41

/-- The tag of `TransferCheckedWithFee`. -/
def transferCheckedWithFeeTag : UInt8 := 1

/-- An instruction of an extension, other than `TransferCheckedWithFee`. -/
def Instruction.IsExtension (header : MessageHeader) (instruction : Instruction)
    (kind : SplTokenExtensionKind) : Prop :=
  instructionProgramId instruction header = .ok .splToken ∧
    instruction.data.val[0]? = some kind.code ∧
    (kind = .transferFeeExtension →
      ∃ tag, instruction.data.val[1]? = some tag ∧ tag ≠ transferCheckedWithFeeTag)

theorem parseSplTokenInstructionKind_code {p p' : Parser} {kind : SplTokenExtensionKind}
    (h : parseSplTokenInstructionKind p = .ok (.extension kind, p')) :
    p.buffer = kind.code :: p'.buffer := by
  obtain ⟨b, q, hbyte, h⟩ := (Result.step_seq_ok_iff _ _ _ _).mp h
  obtain ⟨w, ⟨hrest, -⟩, hw⟩ := (accepts_parseU8 p b q).mp hbyte
  have hbuffer : p.buffer = w ++ q.buffer := hrest
  rw [integerBytes, leBytes_one_toNat] at hw
  rw [hbuffer, hw]
  generalize hn : b.toNat = n at h
  split at h <;> cases h
  all_goals exact congrArg (· :: _) (UInt8.toNat_inj.mp hn)

theorem parseSplTokenInstructionKind_of_code {p : Parser} {kind : SplTokenExtensionKind}
    {rest : List UInt8} (h : p.buffer = kind.code :: rest) :
    parseSplTokenInstructionKind p = .ok (.extension kind, ⟨p.addr + 1, rest⟩) := by
  have hbyte : parseU8 p = .ok (kind.code, ⟨p.addr + 1, rest⟩) := by
    rw [parseU8, h]
  refine (Result.step_seq_ok_iff _ _ _ _).mpr ⟨_, _, hbyte, ?_⟩
  cases kind <;> rfl

theorem parseTransferFeeInstruction_tag {p p' : Parser} {withFee : Bool}
    (h : parseTransferFeeInstruction p = .ok (withFee, p')) :
    ∃ tag, p.buffer = tag :: p'.buffer ∧ withFee = decide (tag = transferCheckedWithFeeTag) := by
  obtain ⟨b, q, hbyte, h⟩ := (Result.step_seq_ok_iff _ _ _ _).mp h
  obtain ⟨w, ⟨hrest, -⟩, hw⟩ := (accepts_parseU8 p b q).mp hbyte
  have hbuffer : p.buffer = w ++ q.buffer := hrest
  rw [integerBytes, leBytes_one_toNat] at hw
  split at h
  · obtain ⟨rfl, rfl⟩ := Prod.ext_iff.mp (Except.ok.inj h)
    refine ⟨b, by rw [hbuffer, hw]; rfl, decide_eq_decide.mpr ?_⟩
    exact ⟨fun hb => UInt8.toNat_inj.mp hb, fun hb => by rw [hb]; rfl⟩
  · cases h

/-- **The body of a token instruction is not looked into exactly when it is one of an extension**,
other than `TransferCheckedWithFee`. -/
theorem isExtension_iff {ctx : TokenContext} {header : MessageHeader} {index : ℕ}
    {instruction : Instruction} {info : SplTokenInfo} {ignored : Bool}
    {kind : SplTokenExtensionKind}
    (hfrom : (InstructionInfo.splToken info).ParsedFrom ctx header index instruction ignored) :
    instruction.IsExtension header kind ↔ info.body = .extension kind := by
  obtain ⟨hprogram, hparse⟩ := hfrom
  obtain ⟨c, h⟩ := InstrM.parse_ok_iff.mp hparse
  obtain ⟨parsedKind, c₁, hkind, h⟩ := (Result.step_seq_ok_iff _ _ _ _).mp h
  obtain ⟨isToken2022Kind, c₂, htoken, h⟩ := (Result.step_seq_ok_iff _ _ _ _).mp h
  have hc₂ := (InstrM.call_ok htoken).2
  obtain ⟨p, hkind, (hc₁ : c₁ = _)⟩ := InstrM.lift_ok_iff.mp hkind
  have hother : ∀ {body : SplTokenBody}, (∀ kind, parsedKind ≠ .extension kind) →
      info.body = body → (∀ kind, body ≠ .extension kind) →
      (instruction.IsExtension header kind ↔ info.body = .extension kind) :=
    fun hparsed hbody hne => by
      refine ⟨fun ⟨_, hcode, _⟩ => ?_, fun h => absurd (hbody ▸ h) (hne kind)⟩
      obtain ⟨rest, hdata⟩ : ∃ rest, instruction.data.val = kind.code :: rest := by
        cases hval : instruction.data.val with
        | nil => simp [hval] at hcode
        | cons b rest => exact ⟨rest, by simpa [hval] using hcode⟩
      have := (parseSplTokenInstructionKind_of_code hdata).symm.trans hkind
      exact absurd (congrArg Prod.fst (Except.ok.inj this)).symm (hparsed kind)
  -- only the two `ignored` returns have such a body
  cases parsedKind with
  | extension parsedKind =>
      have hcode : instruction.data.val = parsedKind.code :: p.buffer :=
        parseSplTokenInstructionKind_code hkind
      have hinj : ∀ kind : SplTokenExtensionKind, kind.code = parsedKind.code → kind = parsedKind :=
        fun kind h => by
          revert h
          cases kind <;> cases parsedKind <;> decide
      cases parsedKind with
      | transferFeeExtension =>
          obtain ⟨u, c₃, hbail, h⟩ := (Result.step_seq_ok_iff _ _ _ _).mp h
          obtain ⟨-, hc₃⟩ := instrBailIf_ok_iff.mp hbail
          cases hc₃
          obtain ⟨withFee, c₄, htag, h⟩ := (Result.step_seq_ok_iff _ _ _ _).mp h
          obtain ⟨q, htag, -⟩ := InstrM.lift_ok_iff.mp htag
          rw [hc₂, hc₁] at htag
          obtain ⟨tag, hbuffer, htag⟩ := parseTransferFeeInstruction_tag htag
          cases withFee with
          | true =>
              obtain ⟨transfer, c₅, -, h⟩ := (Result.step_seq_ok_iff _ _ _ _).mp h
              cases h
              refine ⟨fun ⟨_, hkind, hfee⟩ => ?_, fun h => nomatch h⟩
              rw [hcode, hbuffer] at hkind hfee
              obtain ⟨tag', htag', hne⟩ := hfee (hinj kind (by simpa [eq_comm] using hkind))
              obtain rfl : tag = tag' := by simpa using htag'
              exact absurd (of_decide_eq_true htag.symm) hne
          | false =>
              cases h
              refine ⟨fun ⟨_, hkind, _⟩ => ?_, fun h => ?_⟩
              · rw [hcode] at hkind
                rw [hinj kind (by simpa [eq_comm] using hkind)]
              · cases h
                rw [Instruction.IsExtension, hcode, hbuffer]
                exact ⟨hprogram, rfl, fun _ => ⟨tag, rfl, of_decide_eq_false htag.symm⟩⟩
      | _ =>
          cases h
          refine ⟨fun ⟨_, hkind, _⟩ => ?_, fun h => ?_⟩
          · rw [hcode] at hkind
            rw [hinj kind (by simpa [eq_comm] using hkind)]
          · cases h
            rw [Instruction.IsExtension, hcode]
            exact ⟨hprogram, rfl, fun hkind => nomatch hkind⟩
  | _ =>
      obtain ⟨body, c₃, -, h⟩ := (Result.step_seq_ok_iff _ _ _ _).mp h
      cases h
      exact hother (fun kind h => nomatch h) rfl fun kind h => nomatch h

/-! ## Accepted messages -/

/-- The instructions of a parsed body that are displayed. -/
def displayed (parsed : List ParsedInstruction) : List ParsedInstruction :=
  parsed.filter fun q => !q.ignored && q.info.isDisplayed

/-- The kinds of extension that call for a warning. -/
def warningKinds : List SplTokenExtensionKind :=
  [.transferFeeExtension, .confidentialTransferExtension, .memoTransferExtension,
   .transferHookExtension, .confidentialTransferFeeExtension]

/-- What the acceptance of a message says about its body, and about the summary it leaves. -/
structure ClearSigned (ctx : TokenContext) (header : MessageHeader) (messageBody : Parser)
    (parsed : List ParsedInstruction) (s : TransactionSummary) : Prop where
  count : parsed.length = header.instructionsLength ∧ 1 ≤ header.instructionsLength ∧
    header.instructionsLength ≤ 6
  indices : ∀ q ∈ parsed, q.instruction.programIdIndex.toNat < header.pubkeys.length ∧
    ∀ account ∈ q.instruction.accounts.val, account.toNat < header.pubkeys.length
  /-- the program is recognised, and its parser accepts the instruction -/
  recognised : ∀ q ∈ parsed, q.info ≠ .unknown ∧
    (∃ program, instructionProgramId q.instruction header = .ok program ∧ program ≠ .unknown) ∧
    ∃ index, q.info.ParsedFrom ctx header index q.instruction q.ignored
  /-- the body is these instructions and its end -/
  consumed : ∃ u v, messageBody.buffer = u ++ v ∧
    instructionsAt messageBody.addr (parsed.map (·.instruction)) u ∧
    bodyEnd header.versioned (messageBody.addr + u.length) () v
  shown : ∀ q ∈ parsed, q ∈ displayed parsed ∨
    instructionProgramId q.instruction header = .ok .splMemo ∨
    instructionProgramId q.instruction header = .ok .serumAssertOwner ∨
    ∃ kind, q.instruction.IsExtension header kind
  warning : ∀ item ∈ extensionWarningItems, item ∈ s.usedItems ↔
    ∃ q ∈ parsed, q ∉ displayed parsed ∧ ∃ kind ∈ warningKinds,
      q.instruction.IsExtension header kind
  /-- behind a nonce advance and compute budget instructions, one of the patterns -/
  pattern : ∃ (nonce : Option SystemAdvanceNonceInfo) (budgets : List ComputeBudgetInfo)
    (core : List InstructionInfo), (displayed parsed).map (·.info)
      = (nonce.toList.map fun n => .system (.advanceNonce n))
        ++ budgets.map .computeBudget ++ core ∧
    (recognise core).isSome

theorem recognised_of_parsedFrom {ctx : TokenContext} {header : MessageHeader} {index : ℕ}
    {instruction : Instruction} {ignored : Bool} {info : InstructionInfo}
    (h : info.ParsedFrom ctx header index instruction ignored) (hne : info ≠ .unknown) :
    ∃ program, instructionProgramId instruction header = .ok program ∧ program ≠ .unknown := by
  cases info with
  | unknown => exact absurd rfl hne
  | _ => exact ⟨_, h.1, by decide⟩

theorem mem_displayed {parsed : List ParsedInstruction} {q : ParsedInstruction} (hq : q ∈ parsed) :
    q ∈ displayed parsed ↔ q.ignored = false ∧ q.info.isDisplayed = true := by
  simp [displayed, hq]

/-- An instruction of the token programs is ignored exactly when it is one of an extension. -/
theorem ignored_iff_of_splToken {ctx : TokenContext} {header : MessageHeader} {index : ℕ}
    {instruction : Instruction} {info : SplTokenInfo} {ignored : Bool}
    (h : (InstructionInfo.splToken info).ParsedFrom ctx header index instruction ignored) :
    ignored = true ↔ ∃ kind, info.body = .extension kind := by
  have hparsed := (parseSplTokenInstructions_ok h.2).2
  unfold SplTokenInfo.Parsed at hparsed
  split at hparsed
  · rename_i kind hbody
    exact ⟨fun _ => ⟨kind, hbody⟩, fun _ => hparsed.1⟩
  · rename_i transfer hbody
    simp [hparsed.1, hbody]
  · rename_i transfer hbody
    simp [hparsed.1, hbody]
  · rename_i hother _ _
    exact ⟨fun hignored => absurd (hignored.symm.trans hparsed.1) (by simp),
      fun ⟨kind, hbody⟩ => absurd hbody (hother kind)⟩

/-- Only an extension instruction calls for a warning. -/
theorem generateExtensionWarning_iff {ctx : TokenContext} {header : MessageHeader} {index : ℕ}
    {instruction : Instruction} {info : InstructionInfo} {ignored : Bool}
    (h : info.ParsedFrom ctx header index instruction ignored) (hne : info ≠ .unknown) :
    info.generateExtensionWarning = true ↔
      ∃ kind ∈ warningKinds, instruction.IsExtension header kind := by
  have hwarns : ∀ kind : SplTokenExtensionKind, kind ∈ warningKinds ↔ kind.warns = true :=
    fun kind => by cases kind <;> decide
  cases info with
  | unknown => exact absurd rfl hne
  | splToken info =>
      simp only [isExtension_iff h, InstructionInfo.generateExtensionWarning]
      have hparsed := (parseSplTokenInstructions_ok h.2).2
      unfold SplTokenInfo.Parsed at hparsed
      split at hparsed
      · rename_i kind hbody
        rw [hparsed.2, hbody]
        simp [hwarns]
      · rename_i transfer hbody
        simp [hparsed.2.1, hbody]
      · rename_i transfer hbody
        simp [hparsed.2.1, hbody]
      · rename_i hother _ _
        simpa [hparsed.2] using fun kind _ => hother kind
  | _ =>
      refine ⟨fun h => (nomatch h), fun ⟨kind, _, hext⟩ => ?_⟩
      exact absurd (hext.1.symm.trans h.1) (by simp)

/-- **Clear signing fails closed.** -/
theorem clearSigned_of_accepted {ctx : TokenContext} {messageBody : Parser}
    {printConfig : PrintConfig} {s : TransactionSummary}
    (h : processMessageBody ctx messageBody printConfig .reset = (.ok (), s)) :
    ClearSigned ctx printConfig.header messageBody
      (parseMessageBody ctx messageBody printConfig.header).1 s := by
  obtain ⟨parsed, l, hparsed, hl, hitems⟩ := mem_usedItems_of_accepted h
  have hfrom : ∀ q ∈ parsed, q.info ≠ .unknown ∧
      instructionValidate q.instruction printConfig.header = true ∧
      ∃ index, q.info.ParsedFrom ctx printConfig.header index q.instruction q.ignored :=
    fun q hq => by
      have hmem : q ∈ (parseMessageBody ctx messageBody printConfig.header).1 := by rwa [hparsed]
      obtain ⟨hvalid, -, hfrom⟩ := parsedFrom_of_mem hmem
      exact ⟨info_ne_unknown hparsed hq, hvalid, hfrom⟩
  obtain ⟨hcount, hpos, hle, hconsumed⟩ := parseMessageBody_consumes hparsed
  rw [hparsed]
  refine ⟨⟨hcount, hcount ▸ hpos, hcount ▸ hle⟩, fun q hq => ?_, fun q hq => ?_, hconsumed,
    fun q hq => ?_, fun item hitem => ?_, ?_⟩
  · obtain ⟨-, hvalid, -⟩ := hfrom q hq
    rw [printConfig.header.size]
    simpa [instructionValidate] using hvalid
  · obtain ⟨hne, -, index, hfrom⟩ := hfrom q hq
    exact ⟨hne, recognised_of_parsedFrom hfrom hne, index, hfrom⟩
  · obtain ⟨hne, -, index, hfrom⟩ := hfrom q hq
    rw [mem_displayed hq]
    cases hinfo : q.info <;> rw [hinfo] at hfrom hne
    case unknown => exact absurd rfl hne
    case splMemo => exact .inr (.inl hfrom.1)
    case serumAssertOwner => exact .inr (.inr (.inl hfrom.1))
    case splToken info =>
      cases hign : q.ignored with
      | false => exact .inl ⟨rfl, rfl⟩
      | true =>
          obtain ⟨kind, hbody⟩ := (ignored_iff_of_splToken hfrom).mp hign
          exact .inr (.inr (.inr ⟨kind, (isExtension_iff hfrom).mpr hbody⟩))
    all_goals exact .inl ⟨hfrom.2.1, rfl⟩
  · have hnotable : item.notable = true := by
      rcases List.mem_cons.mp hitem with rfl | hitem
      · simp [SummaryItem.notable]
      · rw [List.mem_singleton.mp hitem]
        simp [SummaryItem.notable]
    have hreserved : item.title ∈ reservedTitles := by
      rcases List.mem_cons.mp hitem with rfl | hitem
      · simp
      · rw [List.mem_singleton.mp hitem]
        simp
    have hfee : item ∉ maxFeeItems l.maxFee := fun hmem => by
      unfold maxFeeItems at hmem
      split at hmem
      · rw [List.mem_singleton.mp hmem] at hitem
        simp [extensionWarningItems] at hitem
      · cases hmem
    have hpattern : item ∉ l.pattern.notables ctx := fun hmem =>
      (Pattern.notables_spec hmem).1 hreserved
    obtain ⟨-, -, -, -, -, hwarning, -⟩ := layout_spec hl
    rw [hitems item hnotable]
    simp only [hitem, hfee, hpattern, and_true, or_false, hwarning,
      AgencLedger.generateExtensionWarning,
      List.any_eq_true]
    refine exists_congr fun q => and_congr_right fun hq => ?_
    obtain ⟨hne, -, index, hfrom⟩ := hfrom q hq
    rw [generateExtensionWarning_iff hfrom hne, mem_displayed hq]
    refine ⟨fun hkind => ⟨fun hshown => ?_, hkind⟩, And.right⟩
    obtain ⟨kind, -, hext⟩ := hkind
    cases hinfo : q.info <;> rw [hinfo] at hfrom hne
    case unknown => exact hne rfl
    case splToken info =>
      have := (ignored_iff_of_splToken hfrom).mpr ⟨kind, (isExtension_iff hfrom).mp hext⟩
      rw [hshown.1] at this
      cases this
    all_goals exact absurd (hext.1.symm.trans hfrom.1) (by simp)
  · obtain ⟨budgets, core, n, hdisplay, hcore, -⟩ := layout_spec hl
    exact ⟨l.nonce, budgets, core, hdisplay, by rw [hcore]; rfl⟩

/-- The keys of a message that pays five lamports and changes a memo requirement. -/
def warnedKeys : List Pubkey := [plainSigner, systemProgramId, splToken2022ProgramId]

def warnedBody : Parser :=
  legacyBody warnedKeys [writeInstruction 1 [0, 0] [2, 0, 0, 0, 5, 0, 0, 0, 0, 0, 0, 0],
    writeInstruction 2 [0] [30, 0]]

def warnedConfig : PrintConfig :=
  plainConfig (legacyHeader warnedKeys (by decide) 2) ⟨4, plainSigner⟩

/-- The review of that message. -/
def warnedReview : Result Unit × TransactionSummary :=
  processMessageBody emptyContext warnedBody warnedConfig .reset

theorem warnedReview_ok : warnedReview.1 = .ok () := by decide

/-- The theorem on a message with an extension. -/
theorem clearSigned_warned :
    ClearSigned emptyContext warnedConfig.header warnedBody
      (parseMessageBody emptyContext warnedBody warnedConfig.header).1 warnedReview.2 :=
  clearSigned_of_accepted (Prod.ext warnedReview_ok rfl)

end AgencLedger
