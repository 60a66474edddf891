import AgencLedger.Program.TokenSigners
import AgencLedger.Review.Body

/-!
# Review/Multisig — the threshold of a multisig account

The instruction that sets up a multisig account names how many of its signers are required.  The
parser bounds that number by `Token_MAX_SIGNERS`, but not by the number of signers; the text cannot
be printed when it is larger, and then there is no item.
-/

namespace AgencLedger

/-! ## The text -/

/-- The text `m of n`, in decimal. -/
def mOfN (m n : ℕ) : List Char := (toString m ++ " of " ++ toString n).toList

/-- The two digits are those of the number. -/
theorem mOfN_number {k : UInt8} (hk : k.toNat ≤ tokenMaxSigners) :
    (if k > 9 then ['1'] else []) ++ [digitChar (k.toNat % 10)] = (toString k.toNat).toList ∧
      nul ∉ (toString k.toNat).toList := by
  have hall : ∀ j ≤ tokenMaxSigners, (if j.toUInt8 > 9 then ['1'] else [])
      ++ [digitChar (j % 10)] = (toString j).toList ∧ nul ∉ (toString j).toList := by
    decide
  have h := hall k.toNat hk
  rwa [show k.toNat.toUInt8 = k from UInt8.ofNat_toNat] at h

theorem nul_notMem_mOfN {m n : UInt8} (hm : m.toNat ≤ tokenMaxSigners)
    (hn : n.toNat ≤ tokenMaxSigners) : nul ∉ mOfN m.toNat n.toNat := by
  rw [mOfN, String.toList_append, String.toList_append, List.mem_append, List.mem_append]
  rintro ((h | h) | h)
  · exact (mOfN_number hm).2 h
  · revert h
    decide
  · exact (mOfN_number hn).2 h

/-- A buffer without a NUL is its own text. -/
theorem CString.ofBuffer_eq_iff {buffer : List Char} (h : nul ∉ buffer) {text : CString} :
    CString.ofBuffer buffer = text ↔ text.chars = buffer := by
  have hself : textOf buffer = buffer := by
    rw [textOf, List.takeWhile_eq_self_iff]
    intro c hc
    exact decide_eq_true (ne_of_mem_of_not_mem hc h)
  constructor
  · rintro rfl
    exact hself
  · intro htext
    obtain ⟨chars, noNul⟩ := text
    rw [CString.ofBuffer, CString.mk.injEq, hself]
    exact htext.symm

/-- **The text is printed exactly if no more signers are required than there are.** -/
theorem printMOfNString_iff {m n : UInt8} (hn : n.toNat ≤ tokenMaxSigners) {text : CString} :
    printMOfNString m n = some text ↔ m.toNat ≤ n.toNat ∧ text.chars = mOfN m.toNat n.toNat := by
  unfold printMOfNString
  by_cases hmn : m.toNat ≤ n.toNat
  · have hpass : ¬(n.toNat > tokenMaxSigners ∨ m > n) := by
      rintro (h | h)
      · omega
      · exact absurd (UInt8.lt_iff_toNat_lt.mp h) (by omega)
    rw [if_neg hpass]
    simp only [(mOfN_number (hmn.trans hn)).1, (mOfN_number hn).1, Option.some.injEq]
    rw [← String.toList_append, ← String.toList_append, ← mOfN,
      CString.ofBuffer_eq_iff (nul_notMem_mOfN (hmn.trans hn) hn), and_iff_right hmn]
  · rw [if_pos (.inr (UInt8.lt_iff_toNat_lt.mpr (by omega)))]
    exact iff_of_false (fun h => by cases h) fun h => hmn h.1

/-! ## The instruction -/

section

variable {header : MessageHeader} {instruction : Instruction} {ctx : TokenContext}

theorem parseSplTokenMultisigners_walks (i : ℕ) :
    Ensures (Cursor.Walks header instruction i) parseSplTokenMultisigners fun signers _ =>
      signers.count.toNat + i = instruction.walked.length ∧
        signers.count.toNat ≤ tokenMaxSigners :=
  remainingAccounts_walks.seq fun n => .of_and fun hn =>
    instrBailIf_walks.seq fun _ => .of_and fun hmax =>
    (nextAccount_walks i).seq fun _ => .of_and fun hnext => .pure fun _ _ => by
      have hle : n ≤ tokenMaxSigners := Nat.le_of_not_lt (of_decide_eq_false hmax)
      have hcount : n.toUInt8.toNat = n := by
        rw [tokenMaxSigners] at hle
        exact Nat.mod_eq_of_lt (by omega)
      rw [hcount]
      omega

/-- **What is read of an instruction that sets up a multisig**: the required number is the byte
behind the kind, and all accounts but the first two are signers. -/
theorem parseSplTokenInstructions_multisig {info : SplTokenInfo} {ignored : Bool}
    (h : (parseSplTokenInstructions ctx header instruction).parse header instruction
      = .ok (info, ignored)) (hkind : instruction.data.val[0]? = some 2) :
    ∃ im, info.body = .initializeMultisig im ∧ ignored = false ∧
      instruction.data.val[1]? = some im.m ∧
      im.signers.count.toNat + 2 = instruction.walked.length ∧
      im.signers.count.toNat ≤ tokenMaxSigners := by
  obtain ⟨rest, hdata⟩ : ∃ rest, instruction.data.val = 2 :: rest := by
    rcases hdata : instruction.data.val with _ | ⟨b, rest⟩
    · rw [hdata] at hkind
      cases hkind
    · rw [hdata] at hkind
      exact ⟨rest, by rw [Option.some.inj hkind]⟩
  replace h := InstrM.parse_ok_iff.mp h
  obtain ⟨c, h⟩ := h
  replace h := (Result.step_seq_ok_iff _ _ _ _).mp h
  obtain ⟨kind, c₁, hkind, h⟩ := h
  replace h := (Result.step_seq_ok_iff _ _ _ _).mp h
  obtain ⟨isToken2022Kind, c₂, hcall, h⟩ := h
  have hwalks := lift_walks _ _ _ Cursor.walks_init hkind
  rw [← (InstrM.call_ok hcall).2] at hwalks
  obtain ⟨p, hkind, hc₁⟩ := InstrM.lift_ok_iff.mp hkind
  rw [Cursor.init, hdata] at hkind
  obtain ⟨rfl, rfl⟩ : .initializeMultisig = kind ∧ ⟨instruction.data.addr + 1, rest⟩ = p :=
    Prod.mk.inj (Except.ok.inj hkind)
  have hparser : c₂.parser.buffer = rest := by
    rw [(InstrM.call_ok hcall).2]
    exact congrArg (fun c : Cursor => c.parser.buffer) hc₁
  obtain ⟨im, c₃, him, h⟩ := (Result.step_seq_ok_iff _ _ _ _).mp h
  cases h
  refine ⟨im, rfl, rfl, ?_⟩
  obtain ⟨m, c₄, hm, him⟩ := (Result.step_seq_ok_iff _ _ _ _).mp him
  obtain ⟨u, c₅, hbail, him⟩ := (Result.step_seq_ok_iff _ _ _ _).mp him
  obtain ⟨account, c₆, haccount, him⟩ := (Result.step_seq_ok_iff _ _ _ _).mp him
  obtain ⟨u', c₇, hskip, him⟩ := (Result.step_seq_ok_iff _ _ _ _).mp him
  obtain ⟨signers, c₈, hsigners, him⟩ := (Result.step_seq_ok_iff _ _ _ _).mp him
  cases him
  replace hwalks := lift_walks _ _ _ hwalks hm
  replace hwalks := (instrBailIf_walks _ _ _ hwalks hbail).2
  replace hwalks := (nextAccount_walks 0 _ _ _ hwalks haccount).2
  replace hwalks := (skipAccount_walks 1 _ _ _ hwalks hskip).2
  refine ⟨?_, parseSplTokenMultisigners_walks 2 _ _ _ hwalks hsigners⟩
  obtain ⟨p', hm, -⟩ := InstrM.lift_ok_iff.mp hm
  rw [hdata]
  rcases rest with _ | ⟨b, rest⟩
  · rw [parseU8, hparser] at hm
    cases hm
  · rw [parseU8, hparser] at hm
    cases hm
    rfl

/-! ## The item -/

/-- The pattern of a multisig's initialization: alone, or behind the account's creation. -/
theorem pattern_of_multisig {core : List InstructionInfo} {pattern : Pattern}
    {isToken2022Kind warning : Bool} {im : SplTokenInitializeMultisigInfo}
    (h : recognise core = some pattern)
    (hinfo : .splToken ⟨isToken2022Kind, warning, .initializeMultisig im⟩ ∈ core) :
    pattern = .splToken ⟨isToken2022Kind, warning, .initializeMultisig im⟩ ∨
      ∃ ca, pattern = .splTokenCreateMultisig ca im := by
  unfold recognise at h
  split at h
  · obtain rfl := List.mem_singleton.mp hinfo
    exact .inl (Option.some.inj h).symm
  · unfold recogniseTwo at h
    split at h <;> cases h <;> simp_all
  · unfold recogniseThree at h
    split at h <;> cases h <;> simp_all
  · unfold recogniseFour at h
    split at h <;> cases h
    simp_all
  · cases h

theorem mem_items_summaryItemSetMultisigMOfN {m n : UInt8} {text : CString} {slot : Slot} :
    ⟨"Required signers", .string text⟩ ∈ Script.items slot (summaryItemSetMultisigMOfN m n) ↔
      slot = .general ∧ printMOfNString m n = some text := by
  unfold summaryItemSetMultisigMOfN
  rcases printMOfNString m n with _ | mOfN
  · simp
  · simp [eq_comm]

/-- **The review of a multisig's initialization** shows the text where it is printed. -/
theorem mem_items_script_multisig {printConfig : PrintConfig} {l : Layout}
    {isToken2022Kind warning : Bool} {im : SplTokenInitializeMultisigInfo}
    (h : l.pattern = .splToken ⟨isToken2022Kind, warning, .initializeMultisig im⟩ ∨
      ∃ ca, l.pattern = .splTokenCreateMultisig ca im) {text : CString} {slot : Slot} :
    ⟨"Required signers", .string text⟩ ∈ Script.items slot (l.script printConfig ctx) ↔
      slot = .general ∧ printMOfNString im.m im.signers.count = some text := by
  have hhead : ⟨"Required signers", .string text⟩ ∉
      Script.items slot (headItems printConfig l.warning l.nonce) := by
    rcases hnonce : l.nonce with _ | nonce
    · rcases l.warning <;> simp [headItems, printSplTokenExtensionWarning]
    · rcases l.warning <;>
        simp [headItems, printSplTokenExtensionWarning, printSystemNoncedTransactionSentinel,
          Script.itemAt]
  have hfee : ⟨"Required signers", .string text⟩ ∉
      Script.items slot (if l.maxFee ≠ 0 then printComputeBudgetMaxFee l.maxFee else []) := by
    simp [printComputeBudgetMaxFee]
  rw [Layout.script, Script.items_append, Script.items_append, List.mem_append, List.mem_append,
    or_iff_right hhead, or_iff_left hfee]
  rcases h with hpattern | ⟨ca, hpattern⟩
  · rw [hpattern]
    simp [Pattern.print, printSplTokenInfo, printSplTokenInitializeMultisigInfo, primaryIfTitled,
      mem_items_summaryItemSetMultisigMOfN]
  · rw [hpattern, Pattern.print, printSplTokenCreateMultisig]
    simp [mem_items_summaryItemSetMultisigMOfN, generalAuthority]

/-! ## Accepted messages -/

/-- The record of an instruction of the token program. -/
theorem exists_splToken_of_parsedFrom {index : ℕ} {ignored : Bool} {info : InstructionInfo}
    (hfrom : info.ParsedFrom ctx header index instruction ignored) (hne : info ≠ .unknown)
    (hprogram : instructionProgramId instruction header = .ok .splToken) :
    ∃ token, info = .splToken token ∧
      (parseSplTokenInstructions ctx header instruction).parse header instruction
        = .ok (token, ignored) := by
  cases info with
  | unknown => exact absurd rfl hne
  | splToken token => exact ⟨token, rfl, hfrom.2⟩
  | _ => exact absurd (hprogram.symm.trans hfrom.1) (by simp)

/-- A token instruction of the core is one that the layout is recognised from. -/
theorem exists_core_of_layout {parsed : List ParsedInstruction} {l : Layout}
    (hl : layout parsed = some l) {q : ParsedInstruction} (hq : q ∈ parsed) {token : SplTokenInfo}
    (htoken : q.info = .splToken token) (hignored : q.ignored = false) :
    ∃ core, recognise core = some l.pattern ∧ .splToken token ∈ core := by
  obtain ⟨core, hcore, -, hall⟩ := core_of_layout hl
  have hmem := hall q hq hignored (by rw [htoken]; rfl)
  simp only [htoken, reduceCtorEq, exists_false, or_false] at hmem
  exact ⟨core, hcore, hmem⟩

/-- **An accepted message that sets up a multisig shows its threshold** exactly if no more signers
are required than there are. -/
theorem requiredSigners_shown_iff {messageBody : Parser} {printConfig : PrintConfig}
    {s : TransactionSummary}
    (h : processMessageBody ctx messageBody printConfig .reset = (.ok (), s))
    (hins : instruction ∈ bodyInstructions printConfig.header
      printConfig.header.instructionsLength messageBody)
    (hprogram : instructionProgramId instruction printConfig.header = .ok .splToken)
    (hkind : instruction.data.val[0]? = some 2) :
    ∃ (m : UInt8) (n : ℕ), instruction.data.val[1]? = some m ∧
      instruction.accounts.val.length = n + 2 ∧
      ((∃ text : CString, text.chars = mOfN m.toNat n ∧
        ⟨"Required signers", .string text⟩ ∈ s.usedItems) ↔ m.toNat ≤ n) := by
  obtain ⟨parsed, l, hparsed, hl, -, hitems⟩ := processMessageBody_ok h
  obtain ⟨q, hq, rfl, hne, index, hfrom⟩ := exists_parsed_of_mem hparsed hins
  have hmem : q ∈ (parseMessageBody ctx messageBody printConfig.header).1 := by rwa [hparsed]
  have hlength : q.instruction.accounts.val.length < 256 := (parsedFrom_of_mem hmem).2.1
  obtain ⟨token, hinfo, hparse⟩ := exists_splToken_of_parsedFrom hfrom hne hprogram
  obtain ⟨im, hbody, hignored, hm, hcount, hmax⟩ :=
    parseSplTokenInstructions_multisig hparse hkind
  obtain ⟨core, hcore, htoken⟩ := exists_core_of_layout hl hq hinfo hignored
  obtain ⟨isToken2022Kind, warning, body⟩ := token
  obtain rfl : body = .initializeMultisig im := hbody
  rw [Instruction.length_walked, Nat.mod_eq_of_lt hlength] at hcount
  refine ⟨im.m, im.signers.count.toNat, hm, hcount.symm, ?_⟩
  have hshown : ∀ text : CString, ⟨"Required signers", .string text⟩ ∈ s.usedItems ↔
      im.m.toNat ≤ im.signers.count.toNat ∧
        text.chars = mOfN im.m.toNat im.signers.count.toNat := by
    intro text
    rw [TransactionSummary.mem_usedItems, ← printMOfNString_iff hmax]
    have hslot : ∀ slot, ⟨"Required signers", .string text⟩ ∈ s.itemsOf slot ↔
        slot = .general ∧ printMOfNString im.m im.signers.count = some text := by
      intro slot
      rw [hitems slot, TransactionSummary.itemsOf_reset, List.nil_append]
      exact mem_items_script_multisig (pattern_of_multisig hcore htoken)
    simp only [hslot, exists_eq_left]
  simp only [hshown]
  constructor
  · rintro ⟨text, -, hle, -⟩
    exact hle
  · intro hle
    exact ⟨⟨_, nul_notMem_mOfN (hle.trans hmax) hmax⟩, rfl, hle, rfl⟩

end

/-! ## A multisig of one signer -/

/-- The header of a message with an instruction of the token program. -/
def multisigHeader : MessageHeader :=
  legacyHeader [plainSigner, Block.zero 32, splTokenProgramId] (by decide) 1

/-- The body that sets up a multisig of one signer, of which `m` are required. -/
def multisigBody (m : UInt8) : Parser :=
  legacyBody [plainSigner, Block.zero 32, splTokenProgramId]
    [writeInstruction 2 [1, 1, 0] [2, m]]

/-- The instruction of the body. -/
def multisigInstruction (m : UInt8) : Instruction := ⟨2, ⟨135, [1, 1, 0]⟩, ⟨139, [2, m]⟩⟩

/-- Its review, in default display. -/
def multisigReview (m : UInt8) : Result Unit × TransactionSummary :=
  processMessageBody emptyContext (multisigBody m)
    (plainConfig multisigHeader ⟨4, plainSigner⟩) .reset

/-- One signer of one shows. -/
theorem requiredSigners_shown_iff_one :
    ∃ (m : UInt8) (n : ℕ), (multisigInstruction 1).data.val[1]? = some m ∧
      (multisigInstruction 1).accounts.val.length = n + 2 ∧
      ((∃ text : CString, text.chars = mOfN m.toNat n ∧
        ⟨"Required signers", .string text⟩ ∈ (multisigReview 1).2.usedItems) ↔ m.toNat ≤ n) :=
  requiredSigners_shown_iff (s := (multisigReview 1).2)
    (Prod.ext (by decide) rfl) (by decide) (by decide) (by decide)

/-- **Two signers required of one are not shown**, though the message is accepted. -/
theorem requiredSigners_hidden :
    ¬ ∀ (ctx : TokenContext) (messageBody : Parser) (printConfig : PrintConfig)
      (s : TransactionSummary) (instruction : Instruction),
      processMessageBody ctx messageBody printConfig .reset = (.ok (), s) →
      instruction ∈ bodyInstructions printConfig.header
        printConfig.header.instructionsLength messageBody →
      instructionProgramId instruction printConfig.header = .ok .splToken →
      instruction.data.val[0]? = some 2 →
      ∃ (m : UInt8) (n : ℕ), instruction.data.val[1]? = some m ∧
        instruction.accounts.val.length = n + 2 ∧
        ∃ text : CString, text.chars = mOfN m.toNat n ∧
          ⟨"Required signers", .string text⟩ ∈ s.usedItems := by
  intro hclaim
  obtain ⟨m, n, -, -, text, -, hitem⟩ := hclaim emptyContext (multisigBody 2)
    (plainConfig multisigHeader ⟨4, plainSigner⟩) (multisigReview 2).2 (multisigInstruction 2)
    (Prod.ext (by decide) rfl) (by decide) (by decide) (by decide)
  have htitles : ∀ item ∈ (multisigReview 2).2.usedItems, item.title ≠ "Required signers" := by
    decide
  exact htitles _ hitem rfl

end AgencLedger
