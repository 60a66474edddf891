import AgencLedger.Program.ArtifactHash
import AgencLedger.Review.DeadStorage
import AgencLedger.Review.Outcome

/-!
# Review/Artifact — what the hash of an artifact pins down

The review of a submitted result shows the hash of the artifact that its data names.  It reads the
hash from the record of the instruction, which is dead by then: only where the frame still holds the
record do results that are shown alike name the same artifact.  What stands behind the name is
looked at by nobody.
-/

namespace AgencLedger

/-! ## The submission behind a review -/

section

variable {ctx : TokenContext} {messageBody : Parser} {printConfig : PrintConfig}
  {s : TransactionSummary} {l : Layout} {index : ℕ} {programId : Ptr Pubkey}
  {info : AgencSubmitTaskResultInfo} {frame : ℕ → Hash} {longPubkeys : Bool}
  {buffers : DisplayBuffers} {text : List Char}

/-- An accepted message that submits a result does nothing else that is shown. -/
theorem pattern_of_submitTaskResult {header : MessageHeader} {parsed : List ParsedInstruction}
    (hparsed : parseMessageBody ctx messageBody header = (parsed, .ok ()))
    (hl : layout parsed = some l) {instruction : Instruction}
    (hins : instruction ∈ bodyInstructions header header.instructionsLength messageBody)
    (hinfo : instruction.IsAgenc header ⟨programId, .submitTaskResult info⟩) :
    ∃ index, l.pattern = .agenc index ⟨programId, .submitTaskResult info⟩ := by
  obtain ⟨core, hcore, hagenc⟩ := exists_core_agenc hparsed hl
  obtain ⟨index, hmem⟩ := (hagenc _).mpr ⟨instruction, hins, hinfo⟩
  exact ⟨index, recognise_submitTaskResult hmem hcore⟩

/-- The items of its review. -/
theorem usedItems_submitTaskResult
    (h : l.pattern = .agenc index ⟨programId, .submitTaskResult info⟩) :
    l.usedItems printConfig ctx
      = ⟨"AgenC action", .string (.lit "Submit result")⟩
        :: ((if l.warning then extensionWarningItems else [])
          ++ [⟨"Proof hash", .hash (.message info.proofHash)⟩, ⟨"Task", .pubkey info.task⟩,
              ⟨"Worker", .pubkey info.worker⟩, ⟨"Submission", .pubkey info.taskSubmission⟩,
              if info.artifactHash.isSome then ⟨"Artifact SHA-256", .hash (.record index)⟩
              else ⟨"Result data",
                .string (if info.resultData.isSome then .lit "included" else .lit "none")⟩,
              ⟨"Program", .pubkey programId⟩]
          ++ maxFeeItems l.maxFee ++ nonceItems printConfig l.nonce) := by
  by_cases hsome : info.artifactHash.isSome = true <;>
    simp [Layout.usedItems, h, Pattern.print, printAgencInfo, printAgencSubmitTaskResultInfo,
      setPrimaryAction, setGeneral, Script.itemAt, hsome]

/-- Each of them prints, and one alone bears the title of an artifact's hash. -/
theorem item_of_submitTaskResult
    (h : l.pattern = .agenc index ⟨programId, .submitTaskResult info⟩) {item : SummaryItem}
    (hitem : item ∈ l.usedItems printConfig ctx) :
    item.value.mayFail = false ∧ (item.title = "Artifact SHA-256" →
      info.artifactHash.isSome = true ∧ item.value = .hash (.record index)) := by
  rw [usedItems_submitTaskResult h] at hitem
  simp only [List.mem_cons, List.mem_append, List.not_mem_nil, or_false] at hitem
  rcases hitem with rfl | ((hwarning | rfl | rfl | rfl | rfl | hartifact | rfl) | hfee) | hnonce
  case inr.inl.inl.inl =>
    split at hwarning
    · rcases List.mem_pair.mp hwarning with rfl | rfl <;> simp
    · cases hwarning
  case inr.inl.inl.inr.inr.inr.inr.inr.inl =>
    split at hartifact <;> subst hartifact
    · rename_i hsome
      exact ⟨rfl, fun _ => ⟨hsome, rfl⟩⟩
    · exact ⟨rfl, fun htitle => absurd htitle (by simp)⟩
  case inr.inl.inr =>
    unfold maxFeeItems at hfee
    split at hfee
    · obtain rfl := List.mem_singleton.mp hfee
      simp
    · cases hfee
  case inr.inr =>
    unfold nonceItems at hnonce
    split at hnonce
    · split at hnonce
      · rcases List.mem_pair.mp hnonce with rfl | rfl <;> simp
      · cases hnonce
    · cases hnonce
  all_goals simp

/-- Each item that prints is displayed under its title, over what the buffer held before. -/
theorem getElem?_displayAll_usedItems (hprimary : s.primary.isSome) {k : ℕ} {item : SummaryItem}
    (hk : s.usedItems[k]? = some item) (hfits : item.TitleFits)
    (hok : (item.value.print frame longPubkeys).ret = .ok ()) :
    ∃ buffer, (displayAll frame s longPubkeys (List.range s.usedItems.length) buffers)[k]?
      = some (item.title.toList,
          textOf (overlay (item.value.print frame longPubkeys).written buffer)) := by
  have hrange := List.getElem?_range (List.getElem?_eq_some_iff.mp hk).1
  obtain ⟨before, hget⟩ := getElem?_displayAll frame s longPubkeys hrange buffers
  refine ⟨before.text, ?_⟩
  rw [hget]
  simp only [displayItem, TransactionSummary.getElem?_slots hprimary hk, updateDisplayForItem, hok]
  rw [(printString_of_fits hfits.1 hfits.2).2]

/-- **What is shown as the hash of an artifact** is what the frame holds in place of the record. -/
theorem artifact_shown_iff
    (h : processMessageBody ctx messageBody printConfig .reset = (.ok (), s))
    (hl : l.pattern = .agenc index ⟨programId, .submitTaskResult info⟩)
    (hitems : s.usedItems = l.usedItems printConfig ctx) :
    ("Artifact SHA-256".toList, text)
        ∈ displayAll frame s longPubkeys (List.range s.usedItems.length) buffers ↔
      info.artifactHash.isSome = true ∧ text = base58Numeral (frame index).data := by
  obtain ⟨kinds, hkinds⟩ := finalize_of_accepted h
  have hprimary := TransactionSummary.isSome_primary_of_finalize hkinds
  have hshown : ∀ {k : ℕ} {item : SummaryItem}, s.usedItems[k]? = some item →
      ∃ buffer, (displayAll frame s longPubkeys (List.range s.usedItems.length) buffers)[k]?
        = some (item.title.toList,
            textOf (overlay (item.value.print frame longPubkeys).written buffer)) :=
    fun {k item} hk => by
      have hmem : item ∈ l.usedItems printConfig ctx := hitems ▸ List.mem_of_getElem? hk
      exact getElem?_displayAll_usedItems hprimary hk (titleFits_of_mem_usedItems hmem)
        ((print_ok_iff _ _ _).mpr (printable_of_not_mayFail (item_of_submitTaskResult hl hmem).1))
  constructor
  · intro hmem
    obtain ⟨k, hk⟩ := List.getElem?_of_mem hmem
    have hlt : k < s.usedItems.length := by
      have hlength := (List.getElem?_eq_some_iff.mp hk).1
      rwa [length_displayAll, List.length_range] at hlength
    obtain ⟨item, hitem⟩ : ∃ item, s.usedItems[k]? = some item :=
      ⟨_, List.getElem?_eq_getElem hlt⟩
    obtain ⟨buffer, hget⟩ := hshown hitem
    obtain ⟨htitle, rfl⟩ := Prod.mk.inj (Option.some.inj (hk.symm.trans hget))
    obtain ⟨hsome, hvalue⟩ := (item_of_submitTaskResult hl
      (hitems ▸ List.mem_of_getElem? hitem)).2 (String.toList_inj.mp htitle).symm
    rw [hvalue]
    exact ⟨hsome, (printBase58_block (frame index)).2 buffer⟩
  · rintro ⟨hsome, rfl⟩
    have hmem : ⟨"Artifact SHA-256", .hash (.record index)⟩ ∈ s.usedItems := by
      rw [hitems, usedItems_submitTaskResult hl, if_pos hsome]
      simp
    obtain ⟨k, hk⟩ := List.getElem?_of_mem hmem
    obtain ⟨buffer, hget⟩ := hshown hk
    refine List.mem_of_getElem? (hget.trans ?_)
    rw [show (SummaryValue.hash (.record index)).print frame longPubkeys
      = printBase58 (frame index).data textBufferLength from rfl,
      (printBase58_block (frame index)).2 buffer]

theorem artifactItem_mem (h : l.pattern = .agenc index ⟨programId, .submitTaskResult info⟩)
    (hsome : info.artifactHash.isSome = true) :
    ⟨"Artifact SHA-256", .hash (.record index)⟩ ∈ l.usedItems printConfig ctx := by
  rw [usedItems_submitTaskResult h, if_pos hsome]
  simp

end

/-! ## What it pins down -/

namespace TransactionSummary

variable {s s' : TransactionSummary} {ctx ctx' : TokenContext} {messageBody messageBody' : Parser}
  {printConfig printConfig' : PrintConfig} {info info' : AgencSubmitTaskResultInfo}
  {frame frame' : ℕ → Hash} {text : List Char}

/-- **An accepted message that submits a result shows the text** as the hash of an artifact. -/
structure ShowsArtifact (s : TransactionSummary) (ctx : TokenContext) (messageBody : Parser)
    (printConfig : PrintConfig) (info : AgencSubmitTaskResultInfo) (frame : ℕ → Hash)
    (text : List Char) : Prop where
  accepted : processMessageBody ctx messageBody printConfig .reset = (.ok (), s)
  submits : ∃ instruction ∈ bodyInstructions printConfig.header
      printConfig.header.instructionsLength messageBody,
    ∃ programId, instruction.IsAgenc printConfig.header ⟨programId, .submitTaskResult info⟩
  shown : ∃ longPubkeys buffers, ("Artifact SHA-256".toList, text)
    ∈ displayAll frame s longPubkeys (List.range s.usedItems.length) buffers

/-- The frame still holds the artifact of the record where the review reads it. -/
def HoldsArtifact (s : TransactionSummary) (frame : ℕ → Hash) (info : AgencSubmitTaskResultInfo) :
    Prop :=
  ∀ index, ⟨"Artifact SHA-256", .hash (.record index)⟩ ∈ s.usedItems →
    info.artifactHash = some (frame index)

/-- What is shown is what the frame holds. -/
theorem ShowsArtifact.text_eq (h : s.ShowsArtifact ctx messageBody printConfig info frame text) :
    info.Read ∧ info.artifactHash.isSome = true ∧ ∃ index,
      ⟨"Artifact SHA-256", .hash (.record index)⟩ ∈ s.usedItems ∧
        text = base58Numeral (frame index).data := by
  obtain ⟨parsed, l, hparsed, hl, -, hitems⟩ := usedItems_of_accepted h.accepted
  obtain ⟨instruction, hins, programId, hinfo⟩ := h.submits
  obtain ⟨index, hpattern⟩ := pattern_of_submitTaskResult hparsed hl hins hinfo
  obtain ⟨longPubkeys, buffers, hshown⟩ := h.shown
  obtain ⟨hsome, htext⟩ := (artifact_shown_iff h.accepted hpattern hitems).mp hshown
  exact ⟨read_of_parseAgencInstructions hinfo.2, hsome, index,
    hitems ▸ artifactItem_mem hpattern hsome, htext⟩

/-- Whatever the frame holds is shown. -/
theorem exists_showsArtifact
    (h : processMessageBody ctx messageBody printConfig .reset = (.ok (), s))
    (hsubmits : ∃ instruction ∈ bodyInstructions printConfig.header
        printConfig.header.instructionsLength messageBody,
      ∃ programId, instruction.IsAgenc printConfig.header ⟨programId, .submitTaskResult info⟩)
    (hsome : info.artifactHash.isSome = true) (frame : ℕ → Hash) :
    ∃ index, s.ShowsArtifact ctx messageBody printConfig info frame
      (base58Numeral (frame index).data) := by
  obtain ⟨parsed, l, hparsed, hl, -, hitems⟩ := usedItems_of_accepted h
  obtain ⟨instruction, hins, programId, hinfo⟩ := hsubmits
  obtain ⟨index, hpattern⟩ := pattern_of_submitTaskResult hparsed hl hins hinfo
  exact ⟨index, h, ⟨instruction, hins, programId, hinfo⟩, false, .reset,
    (artifact_shown_iff h hpattern hitems).mpr ⟨hsome, rfl⟩⟩

/-- Frames that hold the records show the same hash only for the same artifact. -/
theorem ShowsArtifact.artifactHash_eq
    (h : s.ShowsArtifact ctx messageBody printConfig info frame text)
    (h' : s'.ShowsArtifact ctx' messageBody' printConfig' info' frame' text)
    (hholds : s.HoldsArtifact frame info) (hholds' : s'.HoldsArtifact frame' info') :
    info.artifactHash = info'.artifactHash := by
  obtain ⟨-, -, index, hitem, htext⟩ := h.text_eq
  obtain ⟨-, -, index', hitem', htext'⟩ := h'.text_eq
  have hframe : frame index = frame' index' :=
    Block.ext (eq_of_base58Numeral_eq ((frame index).size.trans (frame' index').size.symm)
      (htext.symm.trans htext'))
  rw [hholds index hitem, hholds' index' hitem', hframe]

end TransactionSummary

/-- **When results that are shown with the same artifact hash are the same**: they have to name the
same artifact, and the four bytes behind the name have to agree, which nothing checks.  If the
frames still hold their records, they name the same artifact. -/
theorem resultData_shown_iff {s s' : TransactionSummary} {ctx ctx' : TokenContext}
    {messageBody messageBody' : Parser} {printConfig printConfig' : PrintConfig}
    {info info' : AgencSubmitTaskResultInfo} {frame frame' : ℕ → Hash} {text : List Char}
    (h : s.ShowsArtifact ctx messageBody printConfig info frame text)
    (h' : s'.ShowsArtifact ctx' messageBody' printConfig' info' frame' text) :
    ∃ resultData resultData', info.resultData = some resultData ∧
      info'.resultData = some resultData' ∧
      (resultData.val = resultData'.val ↔ info.artifactHash = info'.artifactHash ∧
        resultData.val.drop 60 = resultData'.val.drop 60) ∧
      (s.HoldsArtifact frame info → s'.HoldsArtifact frame' info' →
        (resultData.val = resultData'.val ↔ resultData.val.drop 60 = resultData'.val.drop 60)) := by
  obtain ⟨hread, hsome, -⟩ := h.text_eq
  obtain ⟨hread', hsome', -⟩ := h'.text_eq
  obtain ⟨resultData, resultData', hdata, hdata', heq⟩ := hread.eq_iff hread' hsome hsome'
  refine ⟨resultData, resultData', hdata, hdata', heq, fun hholds hholds' => ?_⟩
  rw [heq]
  exact and_iff_right (h.artifactHash_eq h' hholds hholds')

/-! ## Two results that are shown alike -/

/-- The keys of a message that submits a result. -/
def submitKeys : List Pubkey := [plainSigner, agencArtifactProgramId, systemProgramId]

/-- The body of one that names an artifact, with something behind its name. -/
def submitBody (artifact : Hash) (rest : List UInt8) : Parser :=
  legacyBody submitKeys [writeInstruction 1 [0, 0, 0, 0, 0, 0, 0, 2]
    ([0x27, 0x6c, 0x4a, 0x04, 0x42, 0x7d, 0x9d, 0x07] ++ List.replicate 32 7 ++ [1]
      ++ artifactResultData artifact rest)]

/-- Its default display. -/
def submitConfig : PrintConfig :=
  plainConfig (legacyHeader submitKeys (by decide) 1) ⟨4, plainSigner⟩

/-- Its review. -/
def submitReview (artifact : Hash) (rest : List UInt8) : Result Unit × TransactionSummary :=
  processMessageBody emptyContext (submitBody artifact rest) submitConfig .reset

theorem length_proofHash : (List.replicate 32 (7 : UInt8)).length = 32 := rfl

/-- What is read of it. -/
def submitInfo (artifact : Hash) (rest : List UInt8) : AgencSubmitTaskResultInfo where
  task := ⟨4, plainSigner⟩
  claim := ⟨4, plainSigner⟩
  taskValidationConfig := ⟨4, plainSigner⟩
  taskSubmission := ⟨4, plainSigner⟩
  protocolConfig := ⟨4, plainSigner⟩
  worker := ⟨4, plainSigner⟩
  authority := ⟨4, plainSigner⟩
  systemProgram := ⟨68, systemProgramId⟩
  proofHash := ⟨152, ⟨List.replicate 32 7, length_proofHash⟩⟩
  resultData := some ⟨185, artifactResultData artifact rest⟩
  artifactHash := some artifact

/-- The instruction of that message. -/
def submitInstruction (artifact : Hash) (rest : List UInt8) : Instruction :=
  ⟨1, ⟨135, [0, 0, 0, 0, 0, 0, 0, 2]⟩,
    ⟨144, [0x27, 0x6c, 0x4a, 0x04, 0x42, 0x7d, 0x9d, 0x07] ++ List.replicate 32 7 ++ [1]
      ++ artifactResultData artifact rest⟩⟩

/-- A message that is accepted and parsed so shows whatever the frame holds. -/
theorem showsArtifact_submit {artifact : Hash} {rest : List UInt8}
    (haccepted : (submitReview artifact rest).1 = .ok ())
    (hmem : submitInstruction artifact rest
      ∈ bodyInstructions submitConfig.header 1 (submitBody artifact rest))
    (hparse : (submitInstruction artifact rest).IsAgenc submitConfig.header
      ⟨⟨36, agencArtifactProgramId⟩, .submitTaskResult (submitInfo artifact rest)⟩)
    (held : Hash) :
    (submitReview artifact rest).2.ShowsArtifact emptyContext (submitBody artifact rest)
      submitConfig (submitInfo artifact rest) (fun _ => held) (base58Numeral held.data) := by
  obtain ⟨-, hshows⟩ := TransactionSummary.exists_showsArtifact
    (Prod.ext haccepted rfl : submitReview artifact rest = (.ok (), _)) ⟨_, hmem, _, hparse⟩ rfl
    fun _ => held
  exact hshows

/-- The zero hash, with zeros behind its name. -/
theorem showsArtifact_plain (held : Hash) :
    (submitReview (Block.zero 32) [0, 0, 0, 0]).2.ShowsArtifact emptyContext
      (submitBody (Block.zero 32) [0, 0, 0, 0]) submitConfig
      (submitInfo (Block.zero 32) [0, 0, 0, 0]) (fun _ => held) (base58Numeral held.data) :=
  showsArtifact_submit (by decide +kernel) (by decide +kernel)
    ⟨by decide +kernel, by decide +kernel⟩ held

/-- The zero hash, with something else behind its name. -/
theorem showsArtifact_behind (held : Hash) :
    (submitReview (Block.zero 32) [1, 2, 3, 4]).2.ShowsArtifact emptyContext
      (submitBody (Block.zero 32) [1, 2, 3, 4]) submitConfig
      (submitInfo (Block.zero 32) [1, 2, 3, 4]) (fun _ => held) (base58Numeral held.data) :=
  showsArtifact_submit (by decide +kernel) (by decide +kernel)
    ⟨by decide +kernel, by decide +kernel⟩ held

/-- Another hash. -/
theorem showsArtifact_other (held : Hash) :
    (submitReview nonzeroHash [0, 0, 0, 0]).2.ShowsArtifact emptyContext
      (submitBody nonzeroHash [0, 0, 0, 0]) submitConfig (submitInfo nonzeroHash [0, 0, 0, 0])
      (fun _ => held) (base58Numeral held.data) :=
  showsArtifact_submit (by decide +kernel) (by decide +kernel)
    ⟨by decide +kernel, by decide +kernel⟩ held

/-- The theorem on the two results that name the zero hash. -/
theorem resultData_shown_iff_behind :
    ∃ resultData resultData', (submitInfo (Block.zero 32) [0, 0, 0, 0]).resultData
        = some resultData ∧
      (submitInfo (Block.zero 32) [1, 2, 3, 4]).resultData = some resultData' ∧
      (resultData.val = resultData'.val ↔
        (submitInfo (Block.zero 32) [0, 0, 0, 0]).artifactHash
            = (submitInfo (Block.zero 32) [1, 2, 3, 4]).artifactHash ∧
          resultData.val.drop 60 = resultData'.val.drop 60) ∧
      ((submitReview (Block.zero 32) [0, 0, 0, 0]).2.HoldsArtifact (fun _ => Block.zero 32)
          (submitInfo (Block.zero 32) [0, 0, 0, 0]) →
        (submitReview (Block.zero 32) [1, 2, 3, 4]).2.HoldsArtifact (fun _ => Block.zero 32)
          (submitInfo (Block.zero 32) [1, 2, 3, 4]) →
        (resultData.val = resultData'.val ↔
          resultData.val.drop 60 = resultData'.val.drop 60)) :=
  resultData_shown_iff (showsArtifact_plain _) (showsArtifact_behind _)

/-- **Two results are shown alike and differ**: behind the name, though the frames hold their
records, and in the name itself, where a frame holds something else. -/
theorem resultData_behind_text :
    (∃ text, (submitReview (Block.zero 32) [0, 0, 0, 0]).2.ShowsArtifact emptyContext
          (submitBody (Block.zero 32) [0, 0, 0, 0]) submitConfig
          (submitInfo (Block.zero 32) [0, 0, 0, 0]) (fun _ => Block.zero 32) text ∧
        (submitReview (Block.zero 32) [1, 2, 3, 4]).2.ShowsArtifact emptyContext
          (submitBody (Block.zero 32) [1, 2, 3, 4]) submitConfig
          (submitInfo (Block.zero 32) [1, 2, 3, 4]) (fun _ => Block.zero 32) text ∧
        (submitReview nonzeroHash [0, 0, 0, 0]).2.ShowsArtifact emptyContext
          (submitBody nonzeroHash [0, 0, 0, 0]) submitConfig (submitInfo nonzeroHash [0, 0, 0, 0])
          (fun _ => Block.zero 32) text) ∧
      (submitReview (Block.zero 32) [0, 0, 0, 0]).2.HoldsArtifact (fun _ => Block.zero 32)
        (submitInfo (Block.zero 32) [0, 0, 0, 0]) ∧
      (submitReview (Block.zero 32) [1, 2, 3, 4]).2.HoldsArtifact (fun _ => Block.zero 32)
        (submitInfo (Block.zero 32) [1, 2, 3, 4]) ∧
      artifactResultData (Block.zero 32) [0, 0, 0, 0]
        ≠ artifactResultData (Block.zero 32) [1, 2, 3, 4] ∧
      artifactResultData (Block.zero 32) [0, 0, 0, 0]
        ≠ artifactResultData nonzeroHash [0, 0, 0, 0] :=
  ⟨⟨_, showsArtifact_plain _, showsArtifact_behind _, showsArtifact_other _⟩, fun _ _ => rfl,
    fun _ _ => rfl, by decide, by decide⟩

end AgencLedger
