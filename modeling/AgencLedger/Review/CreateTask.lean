import AgencLedger.Review.DeadStorage
import AgencLedger.Review.Outcome

/-!
# Review/CreateTask — the review of a new task determines the task

A message that creates a task is shown as a list of titles and texts.  Each title stands for one
field of the task, a field that may be missing is missed by its title, and each of the encodings
(lamports, base units, base58, date, integers) is one to one.  So two messages whose reviews look
the same create the same task and ask for the same validation of its result.
-/

namespace AgencLedger

/-! ## Values that are shown the same -/

/-- The two values are shown by one text, each in its own run. -/
def SummaryValue.SameText (frame frame' : ℕ → Hash) (value value' : SummaryValue) : Prop :=
  ∃ text, value.TextIs frame text ∧ value'.TextIs frame' text

section

variable {frame frame' : ℕ → Hash}

theorem SummaryValue.TextIs.unique {value : SummaryValue} {text text' : List Char}
    (h : value.TextIs frame text) (h' : value.TextIs frame text') : text = text' :=
  (h.2 []).symm.trans (h'.2 [])

/-- Values that are shown the same have the same text. -/
theorem SummaryValue.SameText.text_eq {value value' : SummaryValue} {text text' : List Char}
    (h : value.SameText frame frame' value') (htext : value.TextIs frame text)
    (htext' : value'.TextIs frame' text') : text = text' := by
  obtain ⟨shown, hshown, hshown'⟩ := h
  exact (htext.unique hshown).trans (hshown'.unique htext')

theorem eq_of_sameText_amount {a b : UInt64}
    (h : (SummaryValue.amount a).SameText frame frame' (.amount b)) : a = b := by
  have hvalue := (amountText_inj (h.text_eq (textIs_amount a) (textIs_amount b))).1
  exact UInt64.toNat_inj.mp (Nat.eq_of_mul_eq_mul_right (by decide) hvalue)

theorem eq_of_sameText_u64 {a b : UInt64}
    (h : (SummaryValue.u64 a).SameText frame frame' (.u64 b)) : a = b :=
  UInt64.toNat_inj.mp (decimal_inj (h.text_eq (textIs_u64 a) (textIs_u64 b)))

theorem eq_of_sameText_i64 {a b : Int64}
    (h : (SummaryValue.i64 a).SameText frame frame' (.i64 b)) : a = b :=
  signedDecimal_inj (h.text_eq (textIs_i64 a) (textIs_i64 b))

theorem eq_of_base58Numeral_block {a b : Block 32}
    (h : base58Numeral a.data = base58Numeral b.data) : a = b :=
  Block.ext (eq_of_base58Numeral_eq (a.size.trans b.size.symm) h)

theorem eq_of_sameText_pubkey {a b : Ptr Pubkey}
    (h : (SummaryValue.pubkey a).SameText frame frame' (.pubkey b)) : a.val = b.val :=
  eq_of_base58Numeral_block (h.text_eq (textIs_pubkey a) (textIs_pubkey b))

theorem eq_of_sameText_hash {a b : HashRef}
    (h : (SummaryValue.hash a).SameText frame frame' (.hash b)) : a.read frame = b.read frame' :=
  eq_of_base58Numeral_block (h.text_eq (textIs_hash a) (textIs_hash b))

theorem eq_of_sameText_timestamp {a b : Int64} (ha : InCalendar a) (hb : InCalendar b)
    (h : (SummaryValue.timestamp a).SameText frame frame' (.timestamp b)) : a = b :=
  timestampText_inj ha hb (h.text_eq (textIs_timestamp ha) (textIs_timestamp hb))

/-! ## Reviews that are shown the same -/

/-- The two items are shown under one title, by one text. -/
def SummaryItem.SameShown (frame frame' : ℕ → Hash) (item item' : SummaryItem) : Prop :=
  item.title = item'.title ∧ item.value.SameText frame frame' item'.value

/-- **Firm items that show the same titles and texts** are shown the same one by one. -/
theorem exists_sameShown {items items' : List SummaryItem}
    (hfirm : ∀ item ∈ items, item.Firm frame) (hfirm' : ∀ item ∈ items', item.Firm frame')
    {buffers buffers' : DisplayBuffers}
    (h : (shownItems frame items buffers).map Prod.snd
      = (shownItems frame' items' buffers').map Prod.snd)
    {item : SummaryItem} (hitem : item ∈ items) :
    ∃ item' ∈ items', item.SameShown frame frame' item' := by
  induction items generalizing items' buffers buffers' with
  | nil => cases hitem
  | cons first items ih =>
      obtain ⟨⟨hfits, text, htext⟩, hrest⟩ := List.forall_mem_cons.mp hfirm
      obtain ⟨after, hshown⟩ := shownItems_cons hfits htext items buffers
      rcases items' with _ | ⟨first', items'⟩
      · rw [hshown] at h
        cases h
      obtain ⟨⟨hfits', text', htext'⟩, hrest'⟩ := List.forall_mem_cons.mp hfirm'
      obtain ⟨after', hshown'⟩ := shownItems_cons hfits' htext' items' buffers'
      rw [hshown, hshown', List.map_cons, List.map_cons, List.cons.injEq, Prod.mk.injEq] at h
      obtain ⟨⟨htitle, rfl⟩, h⟩ := h
      rcases List.mem_cons.mp hitem with rfl | hitem
      · exact ⟨first', List.mem_cons_self, String.toList_inj.mp htitle, text, htext, htext'⟩
      · obtain ⟨item', hitem', hsame⟩ := ih hrest hrest' h hitem
        exact ⟨item', List.mem_cons_of_mem _ hitem', hsame⟩

/-- The titles and texts of a finalized review are those of its items. -/
theorem displayAll_eq_map {s : TransactionSummary} {kinds : List SummaryItemKind}
    (h : s.finalize = .ok kinds) (frame : ℕ → Hash) (buffers : DisplayBuffers) :
    displayAll frame s true (List.range kinds.length) buffers
      = (shownItems frame s.usedItems buffers).map Prod.snd := by
  rw [← zip_displayAll h, List.map_snd_zip]
  rw [length_displayAll, List.length_range]

end

/-! ## New tasks -/

/-- The program, the task it is to create and, if there is one, the validation that is configured
for it. -/
structure NewTask where
  programId : Ptr Pubkey
  task : AgencCreateTaskInfo
  validation : Option AgencConfigureTaskValidationInfo

/-- **The message asks for the task**: one of its instructions creates it, and its instructions that
configure a validation are the one of the task, if there is one. -/
structure NewTask.AskedBy (header : MessageHeader) (messageBody : Parser) (t : NewTask) : Prop where
  create : ∃ instruction ∈ bodyInstructions header header.instructionsLength messageBody,
    instruction.IsAgenc header ⟨t.programId, .createTask t.task⟩
  configure : ∀ validation, t.validation = some validation ↔
    ∃ instruction ∈ bodyInstructions header header.instructionsLength messageBody,
      ∃ programId, instruction.IsAgenc header ⟨programId, .configureTaskValidation validation⟩

/-- The task that a pattern creates. -/
def Pattern.newTask? : Pattern → Option NewTask
  | .agenc _ ⟨programId, .createTask task⟩ => some ⟨programId, task, none⟩
  | .agencCreateTaskWithReview ⟨programId, .createTask task⟩
      ⟨_, .configureTaskValidation validation⟩ => some ⟨programId, task, some validation⟩
  | _ => none

/-- A task is created alone, or with the validation behind it. -/
theorem recognise_createTask {core : List InstructionInfo} {pattern : Pattern} {index : ℕ}
    {programId : Ptr Pubkey} {task : AgencCreateTaskInfo}
    (hmem : .agenc index ⟨programId, .createTask task⟩ ∈ core)
    (h : recognise core = some pattern) :
    (core = [.agenc index ⟨programId, .createTask task⟩] ∧
      pattern = .agenc index ⟨programId, .createTask task⟩) ∨
    ∃ index' programId' validation,
      core = [.agenc index ⟨programId, .createTask task⟩,
        .agenc index' ⟨programId', .configureTaskValidation validation⟩] ∧
      pattern = .agencCreateTaskWithReview ⟨programId, .createTask task⟩
        ⟨programId', .configureTaskValidation validation⟩ := by
  unfold recognise at h
  split at h
  · obtain rfl := List.mem_singleton.mp hmem
    exact .inl ⟨rfl, (Option.some.inj h).symm⟩
  · unfold recogniseTwo at h
    split at h <;> cases h <;> simp_all
  · unfold recogniseThree at h
    split at h <;> cases h <;> simp_all
  · unfold recogniseFour at h
    split at h <;> cases h
    simp_all
  · cases h

/-- **Every message with a layout that creates a task** asks for it, alone or with a validation. -/
theorem exists_askedBy {ctx : TokenContext} {messageBody : Parser} {header : MessageHeader}
    {parsed : List ParsedInstruction} {l : Layout} {instruction : Instruction}
    {programId : Ptr Pubkey} {task : AgencCreateTaskInfo}
    (hparsed : parseMessageBody ctx messageBody header = (parsed, .ok ()))
    (hl : layout parsed = some l)
    (hins : instruction ∈ bodyInstructions header header.instructionsLength messageBody)
    (hcreate : instruction.IsAgenc header ⟨programId, .createTask task⟩) :
    ∃ validation, NewTask.AskedBy header messageBody ⟨programId, task, validation⟩ := by
  obtain ⟨core, hcore, hagenc⟩ := exists_core_agenc hparsed hl
  obtain ⟨index, hmem⟩ := (hagenc _).mpr ⟨instruction, hins, hcreate⟩
  have hconfigure : ∀ validation, (∃ instruction ∈ bodyInstructions header header.instructionsLength
      messageBody, ∃ id, instruction.IsAgenc header ⟨id, .configureTaskValidation validation⟩) ↔
      ∃ id index, .agenc index ⟨id, .configureTaskValidation validation⟩ ∈ core := by
    intro validation
    simp only [hagenc]
    exact ⟨fun ⟨i, hi, id, h⟩ => ⟨id, i, hi, h⟩, fun ⟨id, i, hi, h⟩ => ⟨i, hi, id, h⟩⟩
  rcases recognise_createTask hmem hcore with ⟨rfl, -⟩ | ⟨index', id', validation', rfl, -⟩
  · exact ⟨none, ⟨instruction, hins, hcreate⟩, fun validation => by simp [hconfigure]⟩
  · exact ⟨some validation', ⟨instruction, hins, hcreate⟩, fun validation => by
      simp [hconfigure, eq_comm]⟩

/-- **The pattern of a message that asks for a task** creates it. -/
theorem newTask?_of_askedBy {ctx : TokenContext} {messageBody : Parser} {header : MessageHeader}
    {parsed : List ParsedInstruction} {l : Layout} {t : NewTask}
    (hparsed : parseMessageBody ctx messageBody header = (parsed, .ok ()))
    (hl : layout parsed = some l) (ht : t.AskedBy header messageBody) :
    l.pattern.newTask? = some t := by
  obtain ⟨core, hcore, hagenc⟩ := exists_core_agenc hparsed hl
  obtain ⟨index, hmem⟩ := (hagenc _).mpr ht.create
  rcases t with ⟨programId, task, validation⟩
  rcases recognise_createTask hmem hcore with
    ⟨rfl, hpattern⟩ | ⟨index', id', validation', rfl, hpattern⟩
  · -- no instruction is left to configure a validation
    have hnone : validation = none := by
      rcases validation with _ | validation
      · rfl
      obtain ⟨instruction, hins, id, hconfigure⟩ := (ht.configure validation).mp rfl
      obtain ⟨index', hmem'⟩ := (hagenc _).mpr ⟨instruction, hins, hconfigure⟩
      cases List.mem_singleton.mp hmem'
    rw [hpattern, hnone]
    rfl
  · obtain ⟨instruction, hins, hconfigure⟩ :=
      (hagenc ⟨id', .configureTaskValidation validation'⟩).mp
        ⟨index', List.mem_cons_of_mem _ (List.mem_singleton_self _)⟩
    have hsome := (ht.configure validation').mpr ⟨instruction, hins, id', hconfigure⟩
    rw [hpattern, show validation = some validation' from hsome]
    rfl

/-! ## What is shown of a task -/

namespace NewTask

/-- The general items of a task, in order. -/
def items (t : NewTask) : List SummaryItem :=
  (match t.task.rewardMint with
    | some rewardMint =>
        [⟨"Reward (token base units)", .u64 t.task.rewardAmount⟩,
          ⟨"Token mint", .pubkey rewardMint⟩]
    | none => [⟨"Reward", .amount t.task.rewardAmount⟩])
    ++ [⟨"Task", .pubkey t.task.task⟩, ⟨"Creator", .pubkey t.task.creator⟩,
      ⟨"Content hash", .hash (.message t.task.descriptionCommitment)⟩,
      ⟨"Deadline", .timestamp t.task.deadline⟩, ⟨"Max workers", .u64 t.task.maxWorkers.toUInt64⟩]
    ++ (if t.task.taskType ≠ 0 then [⟨"Task type", .u64 t.task.taskType.toUInt64⟩] else [])
    ++ [⟨"Min reputation", .u64 t.task.minReputation.toUInt64⟩, ⟨"Program", .pubkey t.programId⟩]
    ++ t.validation.toList.map fun validation =>
        ⟨"Review window", .i64 validation.reviewWindowSecs⟩

/-- **The validation is the standard one**: of this task and creator, in mode 1, without a quorum
and without an attestor. -/
def Standard (t : NewTask) : Prop :=
  ∀ validation ∈ t.validation,
    validation.task.val = t.task.task.val ∧ validation.creator.val = t.task.creator.val ∧
      validation.mode = 1 ∧ validation.validatorQuorum = 0 ∧ validation.attestor = none

/-- The titles that a review uses besides those of the task. -/
def otherTitles : List String :=
  ["AgenC action", "Extension Warning", "", "Max fees", "Nonce account", "Nonce authority"]

variable {t : NewTask}

/-- **Each title stands for one field.** -/
theorem nodup_titles (t : NewTask) : (t.items.map (·.title)).Nodup := by
  rcases hmint : t.task.rewardMint with _ | mint <;> by_cases htype : t.task.taskType = 0 <;>
    rcases hvalidation : t.validation with _ | validation <;>
    simp [items, hmint, htype, hvalidation]

/-- The titles of a task are its own. -/
theorem title_notMem_otherTitles (t : NewTask) : ∀ item ∈ t.items, item.title ∉ otherTitles := by
  rcases hmint : t.task.rewardMint with _ | mint <;> by_cases htype : t.task.taskType = 0 <;>
    rcases hvalidation : t.validation with _ | validation <;>
    simp [items, hmint, htype, hvalidation, otherTitles]

/-- Every item of a task has its text, if the deadline is a date. -/
theorem firm_items {frame : ℕ → Hash} (h : InCalendar t.task.deadline) :
    ∀ item ∈ t.items, item.Firm frame := by
  have hpubkey : ∀ {title : String} (key : Ptr Pubkey), SummaryItem.TitleFits ⟨title, .pubkey key⟩ →
      SummaryItem.Firm frame ⟨title, .pubkey key⟩ := fun key hfits => ⟨hfits, _, textIs_pubkey key⟩
  have hu64 : ∀ {title : String} (u64 : UInt64), SummaryItem.TitleFits ⟨title, .u64 u64⟩ →
      SummaryItem.Firm frame ⟨title, .u64 u64⟩ := fun u64 hfits => ⟨hfits, _, textIs_u64 u64⟩
  simp only [items, List.forall_mem_append, List.forall_mem_cons]
  refine ⟨⟨⟨⟨?_, ?_⟩, ?_⟩, ?_⟩, ?_⟩
  · split
    · simp [hpubkey, hu64]
    · exact List.forall_mem_singleton.mpr ⟨by simp, _, textIs_amount _⟩
  · refine ⟨hpubkey _ (by simp), hpubkey _ (by simp), ⟨by simp, _, textIs_hash _⟩,
      ⟨by simp, _, textIs_timestamp h⟩, hu64 _ (by simp), by simp⟩
  · split <;> simp [hu64]
  · simp [hpubkey, hu64]
  · intro item hitem
    obtain ⟨validation, -, rfl⟩ := List.mem_map.mp hitem
    exact ⟨by simp, _, textIs_i64 _⟩

section

variable {printConfig : PrintConfig} {ctx : TokenContext}

/-- **The pattern of a task shows the task**, behind the name of the action, and no validation but
the standard one. -/
theorem items_print {pattern : Pattern} (h : pattern.newTask? = some t)
    (hfail : Effect.fail ∉ pattern.print printConfig ctx) :
    Script.items .primary (pattern.print printConfig ctx)
        = [⟨"AgenC action", .string (.lit "Create task")⟩] ∧
      Script.items .general (pattern.print printConfig ctx) = t.items ∧ t.Standard := by
  have hfields : ∀ slot programId task, Script.items slot (printCreateTaskFields programId task)
      = if slot = .general then items ⟨programId, task, none⟩ else [] := by
    intro slot programId task
    rcases hmint : task.rewardMint with _ | mint <;> by_cases htype : task.taskType = 0 <;>
      cases slot <;> simp [printCreateTaskFields, setGeneral, items, hmint, htype, Script.itemAt]
  unfold Pattern.newTask? at h
  split at h
  · rename_i index programId task
    obtain rfl := Option.some.inj h
    have hprint : (Pattern.agenc index ⟨programId, .createTask task⟩).print printConfig ctx
        = setPrimaryAction (.lit "Create task") ++ printCreateTaskFields programId task := rfl
    rw [hprint, Script.items_append, Script.items_append, hfields, hfields]
    refine ⟨rfl, rfl, ?_⟩
    intro validation hvalidation
    cases hvalidation
  · rename_i programId task programId' validation
    obtain rfl := Option.some.inj h
    have hprint : (Pattern.agencCreateTaskWithReview ⟨programId, .createTask task⟩
        ⟨programId', .configureTaskValidation validation⟩).print printConfig ctx
          = printAgencCreateTaskWithReviewInfo ⟨programId, .createTask task⟩
            ⟨programId', .configureTaskValidation validation⟩ := rfl
    rw [hprint, printAgencCreateTaskWithReviewInfo_eq] at hfail ⊢
    have hstandard : standardReview task validation = true := by
      by_contra h
      rw [if_neg h] at hfail
      exact hfail (List.mem_singleton_self _)
    rw [if_pos hstandard]
    simp only [Script.items_append, hfields]
    refine ⟨rfl, ?_, ?_⟩
    · simp [items, setGeneral, setPrimaryAction, Script.itemAt]
    · rintro validation' hvalidation
      obtain rfl := Option.some.inj hvalidation
      simp only [standardReview, pubkeysEqual_iff, Bool.and_eq_true, decide_eq_true_eq,
        Option.isNone_iff_eq_none] at hstandard
      obtain ⟨⟨⟨⟨htask, hcreator⟩, hmode⟩, hquorum⟩, hattestor⟩ := hstandard
      exact ⟨htask.symm, hcreator.symm, hmode, hquorum, hattestor⟩
  · cases h

/-- The items of the task are in the review. -/
theorem mem_usedItems {l : Layout} (h : l.pattern.newTask? = some t)
    (hfail : Effect.fail ∉ l.pattern.print printConfig ctx) {item : SummaryItem}
    (hitem : item ∈ t.items) : item ∈ l.usedItems printConfig ctx := by
  obtain ⟨-, hgeneral, -⟩ := items_print h hfail
  simp only [Layout.usedItems, hgeneral, List.mem_append]
  exact .inl (.inl (.inr hitem))

/-- **The items of the review** are those of the task, and others under other titles; these all have
their texts. -/
theorem item_of_mem_usedItems {l : Layout} (h : l.pattern.newTask? = some t)
    (hfail : Effect.fail ∉ l.pattern.print printConfig ctx) {item : SummaryItem}
    (hitem : item ∈ l.usedItems printConfig ctx) (frame : ℕ → Hash) :
    item ∈ t.items ∨ item.title ∈ otherTitles ∧ ∃ text, item.value.TextIs frame text := by
  obtain ⟨hprimary, hgeneral, -⟩ := items_print h hfail
  simp only [Layout.usedItems, hprimary, hgeneral, List.mem_append] at hitem
  rcases hitem with (((haction | hwarning) | htask) | hfee) | hnonce
  · obtain rfl := List.mem_singleton.mp haction
    exact .inr ⟨by simp [otherTitles], _, textIs_string (by decide)⟩
  · split at hwarning
    · simp only [extensionWarningItems, List.mem_cons, List.not_mem_nil, or_false] at hwarning
      rcases hwarning with rfl | rfl <;>
        exact .inr ⟨by simp [otherTitles], _, textIs_string (by decide)⟩
    · cases hwarning
  · exact .inl htask
  · unfold maxFeeItems at hfee
    split at hfee
    · obtain rfl := List.mem_singleton.mp hfee
      exact .inr ⟨by simp [otherTitles], _, textIs_amount _⟩
    · cases hfee
  · unfold nonceItems at hnonce
    split at hnonce
    · split at hnonce
      · rcases List.mem_pair.mp hnonce with rfl | rfl <;>
          exact .inr ⟨by simp [otherTitles], _, textIs_pubkey _⟩
      · cases hnonce
    · cases hnonce

/-- Every item of the review has its text, if the deadline is a date. -/
theorem firm_usedItems {frame : ℕ → Hash} {l : Layout} (h : l.pattern.newTask? = some t)
    (hfail : Effect.fail ∉ l.pattern.print printConfig ctx)
    (hdeadline : InCalendar t.task.deadline) :
    ∀ item ∈ l.usedItems printConfig ctx, item.Firm frame := by
  intro item hitem
  rcases item_of_mem_usedItems h hfail hitem frame with htask | ⟨-, htext⟩
  · exact firm_items hdeadline item htask
  · exact ⟨titleFits_of_mem_usedItems hitem, htext⟩

end

/-! ## Tasks that are shown the same -/

/-- Each item of the one task is shown as one of the other. -/
def ShownAs (frame frame' : ℕ → Hash) (t t' : NewTask) : Prop :=
  ∀ item ∈ t.items, ∃ item' ∈ t'.items, item.SameShown frame frame' item'

section

variable {frame frame' : ℕ → Hash} {t' : NewTask} {value value' : SummaryValue}

/-- The item that is shown the same has the same title. -/
theorem ShownAs.exists_value {title : String} (h : t.ShownAs frame frame' t')
    (hvalue : ⟨title, value⟩ ∈ t.items) :
    ∃ value', ⟨title, value'⟩ ∈ t'.items ∧ value.SameText frame frame' value' := by
  obtain ⟨⟨title', value'⟩, hitem, rfl, htext⟩ := h _ hvalue
  exact ⟨value', hitem, htext⟩

/-- **The values of a title are shown the same.** -/
theorem ShownAs.sameText (h : t.ShownAs frame frame' t') (title : String)
    (hvalue : ⟨title, value⟩ ∈ t.items) (hvalue' : ⟨title, value'⟩ ∈ t'.items) :
    value.SameText frame frame' value' := by
  obtain ⟨other, hother, htext⟩ := h.exists_value hvalue
  obtain rfl : other = value' := (SummaryItem.mk.inj
    (List.inj_on_of_nodup_map t'.nodup_titles hother hvalue' rfl)).2
  exact htext

theorem mem_tokenMint : ⟨"Token mint", value⟩ ∈ t.items ↔
    ∃ mint, t.task.rewardMint = some mint ∧ value = .pubkey mint := by
  rcases hmint : t.task.rewardMint with _ | mint <;> simp [items, hmint]

theorem mem_taskType : ⟨"Task type", value⟩ ∈ t.items ↔
    t.task.taskType ≠ 0 ∧ value = .u64 t.task.taskType.toUInt64 := by
  rcases hmint : t.task.rewardMint with _ | mint <;> simp [items, hmint]

theorem mem_reviewWindow : ⟨"Review window", value⟩ ∈ t.items ↔
    ∃ validation, t.validation = some validation ∧ value = .i64 validation.reviewWindowSecs := by
  rcases hmint : t.task.rewardMint with _ | mint <;> simp [items, hmint, eq_comm]

/-- **Two reviews that look the same** show each item of the one task as one of the other. -/
theorem shownAs_of_usedItems {printConfig printConfig' : PrintConfig} {ctx ctx' : TokenContext}
    {l l' : Layout} (h : l.pattern.newTask? = some t) (h' : l'.pattern.newTask? = some t')
    (hfail : Effect.fail ∉ l.pattern.print printConfig ctx)
    (hfail' : Effect.fail ∉ l'.pattern.print printConfig' ctx')
    (hdeadline : InCalendar t.task.deadline) (hdeadline' : InCalendar t'.task.deadline)
    {buffers buffers' : DisplayBuffers}
    (hshown : (shownItems frame (l.usedItems printConfig ctx) buffers).map Prod.snd
      = (shownItems frame' (l'.usedItems printConfig' ctx') buffers').map Prod.snd) :
    t.ShownAs frame frame' t' := by
  intro item hitem
  obtain ⟨item', hitem', htitle, htext⟩ := exists_sameShown (firm_usedItems h hfail hdeadline)
    (firm_usedItems h' hfail' hdeadline') hshown (mem_usedItems h hfail hitem)
  rcases item_of_mem_usedItems h' hfail' hitem' frame' with htask | ⟨hother, -⟩
  · exact ⟨item', htask, htitle, htext⟩
  · exact absurd (htitle ▸ hother) (t.title_notMem_otherTitles item hitem)

end

/-- **The two tasks agree** on all that their reviews are to determine. -/
structure Agrees (t t' : NewTask) : Prop where
  rewardAmount : t.task.rewardAmount = t'.task.rewardAmount
  rewardMint : t.task.rewardMint.map (·.val) = t'.task.rewardMint.map (·.val)
  task : t.task.task.val = t'.task.task.val
  creator : t.task.creator.val = t'.task.creator.val
  descriptionCommitment : t.task.descriptionCommitment.val = t'.task.descriptionCommitment.val
  deadline : t.task.deadline = t'.task.deadline
  maxWorkers : t.task.maxWorkers = t'.task.maxWorkers
  taskType : t.task.taskType = t'.task.taskType
  minReputation : t.task.minReputation = t'.task.minReputation
  programId : t.programId.val = t'.programId.val
  /-- both configure a validation or none does, and its review window is the same -/
  reviewWindow : t.validation.map (·.reviewWindowSecs) = t'.validation.map (·.reviewWindowSecs)

section

variable {frame frame' : ℕ → Hash} {t' : NewTask}

/-- The reward: an amount of lamports, or of base units of a mint. -/
theorem ShownAs.reward (h : t.ShownAs frame frame' t') (h' : t'.ShownAs frame' frame t) :
    t.task.rewardAmount = t'.task.rewardAmount ∧
      t.task.rewardMint.map (·.val) = t'.task.rewardMint.map (·.val) := by
  rcases hmint : t.task.rewardMint with _ | mint <;>
    rcases hmint' : t'.task.rewardMint with _ | mint'
  · have hamount : t.task.rewardAmount = t'.task.rewardAmount := eq_of_sameText_amount
      (h.sameText "Reward" (by simp [items, hmint]) (by simp [items, hmint']))
    exact ⟨hamount, rfl⟩
  · obtain ⟨value, hvalue, -⟩ := h'.exists_value (mem_tokenMint.mpr ⟨mint', hmint', rfl⟩)
    obtain ⟨other, hother, -⟩ := mem_tokenMint.mp hvalue
    cases hmint.symm.trans hother
  · obtain ⟨value, hvalue, -⟩ := h.exists_value (mem_tokenMint.mpr ⟨mint, hmint, rfl⟩)
    obtain ⟨other, hother, -⟩ := mem_tokenMint.mp hvalue
    cases hmint'.symm.trans hother
  · have hamount : t.task.rewardAmount = t'.task.rewardAmount := eq_of_sameText_u64
      (h.sameText "Reward (token base units)" (by simp [items, hmint]) (by simp [items, hmint']))
    have hkey := h.sameText "Token mint" (mem_tokenMint.mpr ⟨mint, hmint, rfl⟩)
      (mem_tokenMint.mpr ⟨mint', hmint', rfl⟩)
    exact ⟨hamount, congrArg some (eq_of_sameText_pubkey hkey)⟩

/-- The type of the task, which is not shown if it is zero. -/
theorem ShownAs.taskType (h : t.ShownAs frame frame' t') (h' : t'.ShownAs frame' frame t) :
    t.task.taskType = t'.task.taskType := by
  have hzero : t.task.taskType = 0 ↔ t'.task.taskType = 0 := by
    refine not_iff_not.mp ⟨fun hne => ?_, fun hne => ?_⟩
    · obtain ⟨value, hvalue, -⟩ := h.exists_value (mem_taskType.mpr ⟨hne, rfl⟩)
      exact (mem_taskType.mp hvalue).1
    · obtain ⟨value, hvalue, -⟩ := h'.exists_value (mem_taskType.mpr ⟨hne, rfl⟩)
      exact (mem_taskType.mp hvalue).1
  by_cases htype : t.task.taskType = 0
  · rw [htype, hzero.mp htype]
  · have htext := h.sameText "Task type" (mem_taskType.mpr ⟨htype, rfl⟩)
      (mem_taskType.mpr ⟨mt hzero.mpr htype, rfl⟩)
    exact UInt8.toUInt64_inj.mp (eq_of_sameText_u64 htext)

/-- The review window, if a validation is configured. -/
theorem ShownAs.reviewWindow (h : t.ShownAs frame frame' t') (h' : t'.ShownAs frame' frame t) :
    t.validation.map (·.reviewWindowSecs) = t'.validation.map (·.reviewWindowSecs) := by
  rcases hval : t.validation with _ | validation <;>
    rcases hval' : t'.validation with _ | validation'
  · rfl
  · obtain ⟨value, hvalue, -⟩ := h'.exists_value (mem_reviewWindow.mpr ⟨validation', hval', rfl⟩)
    obtain ⟨other, hother, -⟩ := mem_reviewWindow.mp hvalue
    cases hval.symm.trans hother
  · obtain ⟨value, hvalue, -⟩ := h.exists_value (mem_reviewWindow.mpr ⟨validation, hval, rfl⟩)
    obtain ⟨other, hother, -⟩ := mem_reviewWindow.mp hvalue
    cases hval'.symm.trans hother
  · have htext := h.sameText "Review window" (mem_reviewWindow.mpr ⟨validation, hval, rfl⟩)
      (mem_reviewWindow.mpr ⟨validation', hval', rfl⟩)
    exact congrArg some (eq_of_sameText_i64 htext)

/-- **Tasks that are shown as one another agree.** -/
theorem ShownAs.agrees (h : t.ShownAs frame frame' t') (h' : t'.ShownAs frame' frame t)
    (hdeadline : InCalendar t.task.deadline) (hdeadline' : InCalendar t'.task.deadline) :
    t.Agrees t' where
  rewardAmount := (h.reward h').1
  rewardMint := (h.reward h').2
  task := eq_of_sameText_pubkey (h.sameText "Task" (by simp [items]) (by simp [items]))
  creator := eq_of_sameText_pubkey (h.sameText "Creator" (by simp [items]) (by simp [items]))
  descriptionCommitment :=
    @eq_of_sameText_hash frame frame' (.message t.task.descriptionCommitment)
      (.message t'.task.descriptionCommitment)
      (h.sameText "Content hash" (by simp [items]) (by simp [items]))
  deadline := eq_of_sameText_timestamp hdeadline hdeadline'
    (h.sameText "Deadline" (by simp [items]) (by simp [items]))
  maxWorkers := UInt8.toUInt64_inj.mp
    (eq_of_sameText_u64 (h.sameText "Max workers" (by simp [items]) (by simp [items])))
  taskType := h.taskType h'
  minReputation := UInt16.toUInt64_inj.mp
    (eq_of_sameText_u64 (h.sameText "Min reputation" (by simp [items]) (by simp [items])))
  programId := eq_of_sameText_pubkey (h.sameText "Program" (by simp [items]) (by simp [items]))
  reviewWindow := h.reviewWindow h'

end

end NewTask

/-! ## Accepted messages -/

/-- **The review of a new task determines the task.**  Two accepted messages that ask for a task,
with deadlines that are dates, and whose reviews show the same titles and texts when keys are shown
in full, agree on the task; and a validation that is configured is the standard one. -/
theorem createTask_determined {ctx ctx' : TokenContext} {printConfig printConfig' : PrintConfig}
    {messageBody messageBody' : Parser} {s s' : TransactionSummary}
    {kinds kinds' : List SummaryItemKind} {t t' : NewTask} {frame frame' : ℕ → Hash}
    {buffers buffers' : DisplayBuffers}
    (h : processMessageBody ctx messageBody printConfig .reset = (.ok (), s))
    (h' : processMessageBody ctx' messageBody' printConfig' .reset = (.ok (), s'))
    (ht : t.AskedBy printConfig.header messageBody)
    (ht' : t'.AskedBy printConfig'.header messageBody')
    (hdeadline : InCalendar t.task.deadline) (hdeadline' : InCalendar t'.task.deadline)
    (hkinds : s.finalize = .ok kinds) (hkinds' : s'.finalize = .ok kinds')
    (hshown : displayAll frame s true (List.range kinds.length) buffers
      = displayAll frame' s' true (List.range kinds'.length) buffers') :
    t.Agrees t' ∧ t.Standard ∧ t'.Standard := by
  obtain ⟨parsed, l, hparsed, hl, hfail, hitems⟩ := usedItems_of_accepted h
  obtain ⟨parsed', l', hparsed', hl', hfail', hitems'⟩ := usedItems_of_accepted h'
  have hpattern := newTask?_of_askedBy hparsed hl ht
  have hpattern' := newTask?_of_askedBy hparsed' hl' ht'
  rw [displayAll_eq_map hkinds, displayAll_eq_map hkinds', hitems, hitems'] at hshown
  have hsame := NewTask.shownAs_of_usedItems hpattern hpattern' hfail hfail' hdeadline hdeadline'
    hshown
  have hsame' := NewTask.shownAs_of_usedItems hpattern' hpattern hfail' hfail hdeadline' hdeadline
    hshown.symm
  exact ⟨hsame.agrees hsame' hdeadline hdeadline', (NewTask.items_print hpattern hfail).2.2,
    (NewTask.items_print hpattern' hfail').2.2⟩

/-! ## Two messages with one review -/

theorem length_taskKeys : [plainSigner, systemProgramId, agencArtifactProgramId].length < 128 := by
  decide

/-- The header of the two messages. -/
def taskHeader : MessageHeader :=
  legacyHeader [plainSigner, systemProgramId, agencArtifactProgramId] length_taskKeys 2

/-- A task for five lamports whose result is to be reviewed within a minute; the capabilities that
it requires are not shown. -/
def taskMessage (capable : Bool) : Parser :=
  ⟨133, [2, 13] ++ [0, 0, 0, 0, 0, 0, 0, 1, 0, 0, 0, 0, 0] ++ [134, 1]
    ++ [0xc2, 0x50, 0x06, 0xb4, 0xe8, 0x7f, 0x30, 0xab] ++ List.replicate 32 7
    ++ (if capable then 1 else 0) :: List.replicate 7 0
    ++ List.replicate 32 9 ++ List.replicate 32 0 ++ 5 :: List.replicate 7 0
    ++ 3 :: List.replicate 8 0 ++ [0, 0, 2, 0, 0]
    ++ writeInstruction 2 [0, 0, 0, 0, 0, 0, 1]
      ([0x0b, 0x4f, 0x13, 0xbc, 0x0d, 0x20, 0xf4, 0x5a] ++ 1 :: 60 :: List.replicate 9 0)⟩

/-- What becomes of the message. -/
def taskReview (capable : Bool) : Result Unit × TransactionSummary :=
  processMessageBody emptyContext (taskMessage capable) (plainConfig taskHeader ⟨4, plainSigner⟩)
    .reset

/-- The task of the message. -/
def sampleTask (capable : Bool) : NewTask where
  programId := ⟨68, agencArtifactProgramId⟩
  task :=
    { task := ⟨4, plainSigner⟩
      escrow := ⟨4, plainSigner⟩
      protocolConfig := ⟨4, plainSigner⟩
      creatorAgent := ⟨4, plainSigner⟩
      authorityRateLimit := ⟨4, plainSigner⟩
      authority := ⟨4, plainSigner⟩
      creator := ⟨4, plainSigner⟩
      systemProgram := ⟨36, systemProgramId⟩
      taskId := ⟨158, List.replicate 32 7, rfl⟩
      requiredCapabilities := if capable then 1 else 0
      description := ⟨198, List.replicate 32 9 ++ List.replicate 32 0⟩
      descriptionCommitment := ⟨198, List.replicate 32 9, rfl⟩
      rewardAmount := 5
      maxWorkers := 3
      deadline := 0
      taskType := 0
      constraintHash := none
      minReputation := 2
      rewardMint := none }
  validation := some
    { task := ⟨4, plainSigner⟩
      taskValidationConfig := ⟨4, plainSigner⟩
      taskAttestorConfig := ⟨4, plainSigner⟩
      protocolConfig := ⟨4, plainSigner⟩
      hireRecord := ⟨4, plainSigner⟩
      creator := ⟨4, plainSigner⟩
      systemProgram := ⟨36, systemProgramId⟩
      mode := 1
      reviewWindowSecs := 60
      validatorQuorum := 0
      attestor := none }

instance (header : MessageHeader) (instruction : Instruction) (info : AgencInfo) :
    Decidable (instruction.IsAgenc header info) :=
  inferInstanceAs (Decidable (_ ∧ _))

theorem taskReview_ok : ∀ capable, (taskReview capable).1 = .ok () := by decide +kernel

theorem taskReview_accepted (capable : Bool) :
    taskReview capable = (.ok (), (taskReview capable).2) := by
  rw [← taskReview_ok capable]

theorem isAgenc_taskMessage : ∀ capable,
    (∃ instruction ∈ bodyInstructions taskHeader 2 (taskMessage capable),
      instruction.IsAgenc taskHeader
        ⟨(sampleTask capable).programId, .createTask (sampleTask capable).task⟩) ∧
    ∀ validation ∈ (sampleTask capable).validation,
      ∃ instruction ∈ bodyInstructions taskHeader 2 (taskMessage capable),
        instruction.IsAgenc taskHeader
          ⟨(sampleTask capable).programId, .configureTaskValidation validation⟩ := by
  decide +kernel

theorem askedBy_taskMessage (capable : Bool) :
    (sampleTask capable).AskedBy taskHeader (taskMessage capable) := by
  obtain ⟨parsed, l, hparsed, hl, -⟩ := usedItems_of_accepted (taskReview_accepted capable)
  obtain ⟨⟨instruction, hins, hcreate⟩, hconfigure⟩ := isAgenc_taskMessage capable
  obtain ⟨validation, hasked⟩ := exists_askedBy hparsed hl hins hcreate
  obtain ⟨instruction', hins', hconfigure⟩ := hconfigure _ rfl
  obtain rfl : validation = _ := (hasked.configure _).mpr ⟨instruction', hins', _, hconfigure⟩
  exact hasked

/-- The theorem on the two messages: their tasks agree, though not in the capabilities. -/
theorem createTask_determined_sample :
    (sampleTask false).Agrees (sampleTask true) ∧ (sampleTask false).Standard ∧
      (sampleTask true).Standard := by
  have hdeadline : ∀ capable, InCalendar (sampleTask capable).task.deadline := by
    intro capable
    rw [show (sampleTask capable).task.deadline = 0 from rfl]
    exact ⟨by decide, by decide⟩
  have hagrees : ∀ a b, (taskReview a).2 = (taskReview b).2 →
      (sampleTask a).Agrees (sampleTask b) ∧ (sampleTask a).Standard ∧ (sampleTask b).Standard := by
    intro a b hsame
    obtain ⟨kinds, hkinds⟩ := finalize_of_accepted (taskReview_accepted b)
    have hkinds' : (taskReview a).2.finalize = .ok kinds := by
      rw [hsame]
      exact hkinds
    have hshown : displayAll (fun _ => Block.zero 32) (taskReview a).2 true
        (List.range kinds.length) .reset = displayAll (fun _ => Block.zero 32) (taskReview b).2 true
          (List.range kinds.length) .reset := by
      rw [hsame]
    exact createTask_determined (taskReview_accepted a) (taskReview_accepted b)
      (askedBy_taskMessage a) (askedBy_taskMessage b) (hdeadline a) (hdeadline b) hkinds' hkinds
      hshown
  exact hagrees false true (by decide +kernel)

end AgencLedger
