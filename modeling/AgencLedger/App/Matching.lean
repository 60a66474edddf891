import AgencLedger.App.Framing
import AgencLedger.App.Stores

/-!
# App/Matching — the descriptor store, and its match with a message one to one

Descriptors are appended to the store, all of one network and one template, and a message is
accepted by way of them when its instructions meet them one after the other.
-/

namespace AgencLedger

/-! ## Meeting a descriptor -/

/-- What the descriptors of a swap speak of: the swapped token and the recipient. -/
structure SwapParties where
  mint : Pubkey
  isToken2022Kind : Bool
  recipient : Pubkey

/-- The parties of the swap, when the token is known and the recipient is an address. -/
def App.swapParties (env : Env) (app : App) : Option SwapParties := do
  let (mint, isToken2022Kind) ←
    (getSwapTicker app.swap).bind (getTokenMintAddress (app.tokenContext env))
  let recipient ← getSwapRecipient app.swap env.sdk
  return ⟨mint, isToken2022Kind, recipient⟩

/-- The instruction has an account at the index, and its key is as asked for. -/
def Instruction.AccountAt (header : MessageHeader) (instruction : Instruction) (index : UInt8)
    (ask : Pubkey → Prop) : Prop :=
  ∃ account, getAccountFromIns instruction header index = .ok (some account) ∧ ask account.val

/-- The amount in the data of the instruction is the amount of the swap, or within the cap that the
descriptor sets to a part of it. -/
def InstructionDescriptor.AmountMet (swap : SwapValidated) (instruction : Instruction)
    (descriptor : InstructionDescriptor) : Prop :=
  ∃ amount, readAmountUsingDescriptor instruction descriptor = some amount ∧
    swap.initialized = true ∧
    match descriptor.cappedAmountBps with
    | none => amount = swap.amount
    | some bps => ∃ cap, safeMulBpsDiv10000 swap.amount bps = some cap ∧ amount ≤ cap

/-- **An instruction meets a descriptor**: the program, the front of the data, and whatever else the
descriptor asks for. -/
structure InstructionDescriptor.Met (env : Env) (app : App) (parties : SwapParties)
    (header : MessageHeader) (descriptor : InstructionDescriptor) (instruction : Instruction) :
    Prop where
  programId : ∃ programId, programIdKey instruction header = .ok programId ∧
    programId.val = descriptor.programId
  discriminator : descriptor.discriminator <+: instruction.data.val
  amount : descriptor.amountSize ≠ 0 → descriptor.AmountMet app.swap instruction
  cappedAmountToken : ∀ index, descriptor.cappedAmountTokenIndex = some index →
    instruction.AccountAt header index (· = parties.mint)
  assetAccount : ∀ index, descriptor.assetAccountIndex = some index →
    instruction.AccountAt header index (· = parties.mint)
  assetAta : ∀ index, descriptor.assetAtaIndex = some index →
    instruction.AccountAt header index fun ata =>
      ∃ signer, env.getPublicKey app.command.derivationPath = some signer ∧
        validateAssociatedTokenAddress env.sdk signer parties.mint ata parties.isToken2022Kind
  recipientAccount : ∀ index, descriptor.recipientAccountIndex = some index →
    instruction.AccountAt header index (· = parties.recipient)
  recipientAta : ∀ index, descriptor.recipientAtaIndex = some index →
    instruction.AccountAt header index fun ata =>
      validateAssociatedTokenAddress env.sdk parties.recipient parties.mint ata
        parties.isToken2022Kind

section

variable {env : Env} {app : App} {header : MessageHeader} {instruction : Instruction}
  {descriptor : InstructionDescriptor}

theorem amountMet_of_check (h : checkDescriptorAmount app.swap instruction descriptor = true)
    (hsize : descriptor.amountSize ≠ 0) : descriptor.AmountMet app.swap instruction := by
  unfold checkDescriptorAmount at h
  rw [decide_eq_false hsize, Bool.false_or] at h
  unfold InstructionDescriptor.AmountMet
  rcases hread : readAmountUsingDescriptor instruction descriptor with _ | amount
  · rw [hread] at h
    cases h
  · simp only [hread] at h
    refine ⟨amount, rfl, ?_⟩
    rcases hbps : descriptor.cappedAmountBps with _ | bps
    · simpa [hbps, checkSwapAmountRaw] using h
    · simp only [hbps, getSwapAmountRaw] at h
      rcases hinit : app.swap.initialized with _ | _
      · simp [hinit] at h
      · simp only [hinit, if_true] at h
        rcases hcap : safeMulBpsDiv10000 app.swap.amount bps with _ | cap
        · simp [hcap] at h
        · exact ⟨rfl, cap, hcap, by simpa [hcap] using h⟩

/-- A check on an account asks for it when there is an index. -/
theorem accountAt_of_check {index : Option UInt8} {check : Pubkey → Bool}
    (h : checkDescriptorAccount header instruction index check = .ok true) :
    ∀ i, index = some i → instruction.AccountAt header i fun key => check key = true := by
  rintro i rfl
  obtain ⟨account, haccount, h⟩ := (Result.seq_ok_iff _ _ _).mp h
  rcases account with _ | account
  · cases h
  · exact ⟨account, haccount, Except.ok.inj h⟩

/-- **What `validate_instruction_using_descriptor` checks**, and that it uses up one descriptor. -/
theorem met_of_validate {saved saved' : SavedDescriptors}
    (h : validateInstructionUsingDescriptor env app saved header instruction = .ok saved') :
    ∃ parties entry, app.swapParties env = some parties ∧
      saved.descriptors[saved.readCount]? = some entry ∧
      saved' = { saved with readCount := saved.readCount + 1 } ∧
      entry.descriptor.Met env app parties header instruction := by
  unfold validateInstructionUsingDescriptor at h
  split at h
  · rename_i mint isToken2022Kind hmint
    split at h
    · rename_i recipient hrecipient
      split at h
      · rename_i descriptor saved₁ hnext
        obtain ⟨entry, hentry, hpair⟩ := Option.map_eq_some_iff.mp hnext
        cases hpair
        simp only [Result.seq_ok_iff, bailIf_eq_ok, Bool.not_eq_false'] at h
        obtain ⟨programId, hkey, -, hprogram, -, hdata, -, hamount, -, hcapped, -, rfl, -, hasset,
          -, rfl, -, hata, -, rfl, -, hrecipientKey, -, rfl, -, hrecipientAta, -, rfl, hsaved⟩ := h
        have hparties : app.swapParties env = some ⟨mint, isToken2022Kind, recipient⟩ := by
          simp only [App.swapParties, hmint, hrecipient]
          rfl
        refine ⟨_, entry, hparties, hentry, (Except.ok.inj hsaved).symm, ?_⟩
        exact
          { programId := ⟨programId, hkey, by simpa using hprogram⟩
            discriminator := List.prefix_iff_eq_take.mpr
              (not_not.mp (of_decide_eq_false hdata)).symm
            amount := amountMet_of_check hamount
            cappedAmountToken := fun i hi => by simpa using accountAt_of_check hcapped i hi
            assetAccount := fun i hi => by simpa using accountAt_of_check hasset i hi
            assetAta := fun i hi => by
              obtain ⟨account, haccount, hcheck⟩ := accountAt_of_check hata i hi
              refine ⟨account, haccount, ?_⟩
              rcases hsigner : env.getPublicKey app.command.derivationPath with _ | signer
              · simp [hsigner] at hcheck
              · exact ⟨signer, rfl, by simpa [hsigner] using hcheck⟩
            recipientAccount := fun i hi => by simpa using accountAt_of_check hrecipientKey i hi
            recipientAta := accountAt_of_check hrecipientAta }
      · cases h
    · cases h
  · cases h

/-! ## The walk -/

/-- **The instruction meets the descriptor**, as the swap goes. -/
def App.Meets (env : Env) (app : App) (header : MessageHeader) (entry : SavedDescriptor)
    (instruction : Instruction) : Prop :=
  ∃ parties, app.swapParties env = some parties ∧
    entry.descriptor.Met env app parties header instruction

/-- The instructions of a walk meet the descriptors from the cursor on, and move it behind them. -/
theorem meets_of_foldlM {instructions : List Instruction} {saved saved' : SavedDescriptors}
    (h : instructions.foldlM (fun saved instruction =>
      validateInstructionUsingDescriptor env app saved header instruction) saved = .ok saved') :
    saved' = { saved with readCount := saved.readCount + instructions.length } ∧
      List.Forall₂ (app.Meets env header)
        ((saved.descriptors.drop saved.readCount).take instructions.length) instructions := by
  induction instructions generalizing saved with
  | nil =>
      cases h
      exact ⟨rfl, by simp⟩
  | cons i is ih =>
      obtain ⟨next, hvalid, h⟩ := (Result.seq_ok_iff _ _ _).mp h
      obtain ⟨parties, entry, hparties, hentry, rfl, hmet⟩ := met_of_validate hvalid
      obtain ⟨rfl, hall⟩ := ih h
      obtain ⟨hlt, hget⟩ := List.getElem?_eq_some_iff.mp hentry
      refine ⟨?_, ?_⟩
      · simp only [List.length_cons, Nat.add_assoc, Nat.add_comm 1]
      · rw [List.drop_eq_getElem_cons hlt, hget, List.length_cons, List.take_succ_cons]
        exact .cons ⟨parties, hparties, hmet⟩ hall

theorem bodyInstructions_of_walk {n : ℕ} {p p' : Parser} {instructions : List Instruction}
    (h : walkInstructions header n p = .ok (instructions, p')) :
    bodyInstructions header n p = instructions := by
  induction n generalizing p instructions with
  | zero =>
      cases h
      rfl
  | succ n ih =>
      obtain ⟨i, p₁, hpass, h⟩ := (Result.step_seq_ok_iff _ _ _ _).mp h
      obtain ⟨is, p₂, hwalk, h⟩ := (Result.step_seq_ok_iff _ _ _ _).mp h
      cases Result.step_pure_ok_iff.mp h
      simp only [bodyInstructions, hpass, ih hwalk]

/-- **An accepted message meets the descriptors one to one.** -/
theorem meets_of_accepted {messageBody : Parser}
    (h : processMessageBodyWithDescriptor env app messageBody header = .ok ()) :
    ∃ saved, app.savedDescriptors = some saved ∧
      header.instructionsLength = saved.descriptors.length ∧
      List.Forall₂ (app.Meets env header) saved.descriptors
        (bodyInstructions header header.instructionsLength messageBody) := by
  obtain ⟨hpos, saved, hsaved, hlength, is, p', hframing, saved', hfold⟩ :=
    processMessageBodyWithDescriptor_ok_iff.mp h
  obtain ⟨is', p₁, hwalk, hrest⟩ := (Result.step_seq_ok_iff _ _ _ _).mp hframing
  obtain ⟨q, p₂, -, hrest⟩ := (Result.step_seq_ok_iff _ _ _ _).mp hrest
  obtain ⟨u, p₃, -, hrest⟩ := (Result.step_seq_ok_iff _ _ _ _).mp hrest
  cases Result.step_pure_ok_iff.mp hrest
  obtain ⟨-, hall⟩ := meets_of_foldlM hfold
  refine ⟨saved, hsaved, hlength.symm, ?_⟩
  obtain ⟨w, -, hcount, -, -⟩ := (accepts_walkInstructions header _ _ _ _).mp hwalk
  -- as many instructions as descriptors, so none of these was left out in front
  have hmatched := hall.length_eq
  rw [List.length_take, List.length_drop, hcount, ← hlength] at hmatched
  have hread : saved.readCount = 0 := by omega
  rw [hread, List.drop_zero, hcount, ← hlength, List.take_length] at hall
  rwa [bodyInstructions_of_walk hwalk]

/-! ## The store -/

/-- **A sound store**: it holds no more descriptors than there is room for, the cursor stays within
them, and all of them are of its network and its template. -/
structure SavedDescriptors.Sound (saved : SavedDescriptors) : Prop where
  savedCount : saved.descriptors.length ≤ maxDiscriminatorNumber
  readCount : saved.readCount ≤ saved.descriptors.length
  uniform : ∀ entry ∈ saved.descriptors,
    entry.isMainNet = saved.isMainNet ∧ entry.templateId = saved.templateId

theorem sound_zero : SavedDescriptors.zero.Sound :=
  ⟨SavedDescriptors.zero.size, Nat.le_refl 0, fun _ h => absurd h List.not_mem_nil⟩

/-- Saving keeps a store sound. -/
theorem sound_saveInstructionDescriptor {isMainNet : Bool} {templateId : UInt64}
    {saved saved' : SavedDescriptors} (hsaved : saved.Sound)
    (h : saveInstructionDescriptor isMainNet templateId descriptor saved = some saved') :
    saved'.Sound := by
  have happend := descriptors_saveInstructionDescriptor h
  have hread : saved'.readCount = saved.readCount := by
    unfold saveInstructionDescriptor at h
    simp only at h
    repeat' split at h
    all_goals cases h
    all_goals rfl
  refine ⟨saved'.size, ?_, fun entry hentry => ?_⟩
  · rw [hread, happend, List.length_append]
    exact hsaved.readCount.trans (Nat.le_add_right _ _)
  rw [happend] at hentry
  unfold saveInstructionDescriptor at h
  split at h
  · simp only at h
    split at h
    · split at h
      · cases h
      split at h
      · cases h
      · rename_i hnet htemplate
        cases h
        rcases List.mem_append.mp hentry with hold | hnew
        · exact hsaved.uniform entry hold
        · obtain rfl := List.mem_singleton.mp hnew
          exact ⟨not_not.mp hnet, not_not.mp htemplate⟩
    · rename_i hempty
      cases h
      -- the first descriptor sets the network and the template
      rw [List.length_eq_zero_iff.mp (by omega : saved.descriptors.length = 0)] at hentry
      obtain rfl := List.mem_singleton.mp hentry
      exact ⟨rfl, rfl⟩
  · cases h

/-- Walking over instructions keeps a store sound. -/
theorem sound_walkWithDescriptors {n : ℕ} {saved saved' : SavedDescriptors} {p p' : Parser}
    (hsaved : saved.Sound)
    (h : walkWithDescriptors env app header n saved p = .ok (saved', p')) : saved'.Sound := by
  obtain ⟨is, -, hfold⟩ := walkWithDescriptors_ok_iff.mp h
  obtain ⟨rfl, hall⟩ := meets_of_foldlM hfold
  have hmatched := hall.length_eq
  rw [List.length_take, List.length_drop] at hmatched
  have hread := hsaved.readCount
  exact ⟨hsaved.savedCount, by dsimp only; omega, hsaved.uniform⟩

/-! ## Providing a descriptor -/

/-- A failed check is answered with an error. -/
theorem ne_success_of_checkDescriptor {swap : SwapValidated} {items : List TlvItem} {out : TlvOut}
    {outcome : Outcome} (h : checkDescriptor env swap items out = .error outcome) :
    outcome ≠ .status .success := by
  have hguard : ∀ {c : Prop} [Decidable c] {e : Outcome} {k : PUnit → Except Outcome Unit}
      {x : Except Outcome Unit}, (if c then throw e >>= k else x) = .error outcome →
        e = outcome ∨ x = .error outcome := fun {c} _ {e k x} hif => by
    by_cases hc : c
    · rw [if_pos hc] at hif
      exact .inl (Except.error.inj hif)
    · rw [if_neg hc] at hif
      exact .inr hif
  unfold checkDescriptor at h
  iterate 7 rcases hguard h with rfl | h; · simp
  simp only at h
  split at h
  · cases h
    simp
  · split at h
    · cases h
      simp
    · cases h

/-- **What a descriptor makes of the store**: it is saved, or the store is as it was. -/
theorem savedDescriptors_handleProvideInstructionDescriptor (env : Env) (memory : Bool)
    (app : App) :
    ((handleProvideInstructionDescriptor env memory app).2.savedDescriptors = app.savedDescriptors ∧
      (handleProvideInstructionDescriptor env memory app).1 ≠ .status .success) ∨
    ∃ out : TlvOut, ∃ saved',
      saveInstructionDescriptor out.isMainNet out.templateId out.ins
        (app.savedDescriptors.getD SavedDescriptors.zero) = some saved' ∧
      (handleProvideInstructionDescriptor env memory app).2.savedDescriptors = some saved' ∧
      (handleProvideInstructionDescriptor env memory app).1 = .status .success := by
  unfold handleProvideInstructionDescriptor
  split
  · exact .inl ⟨rfl, by simp [App.sendSw]⟩
  split
  · exact .inl ⟨rfl, by simp⟩
  rename_i items out hparse
  split
  · rename_i outcome hcheck
    exact .inl ⟨rfl, ne_success_of_checkDescriptor hcheck⟩
  split
  · exact .inl ⟨rfl, by simp⟩
  simp only
  split
  · exact .inl ⟨rfl, by simp⟩
  · rename_i saved' hsave
    exact .inr ⟨out, saved', hsave, rfl, rfl⟩

/-! ## Runs -/

/-- The store of the app, when there is one, is sound. -/
def App.SoundStore (app : App) : Prop :=
  ∀ saved, app.savedDescriptors = some saved → saved.Sound

/-- A store that is kept or emptied stays sound. -/
theorem App.SoundStore.of_kept {app' : App} (h : app.SoundStore)
    (hkept : app'.savedDescriptors = app.savedDescriptors ∨ app'.savedDescriptors = none) :
    app'.SoundStore := by
  intro saved hsaved
  rcases hkept with heq | hnone
  · exact h saved (heq ▸ hsaved)
  · rw [hnone] at hsaved
    cases hsaved

theorem soundStore_dispatch {frame : ℕ → Hash} {memory : Bool} {instruction : InstructionCode}
    (h : app.SoundStore) : (dispatch env frame memory app instruction).2.SoundStore := by
  by_cases hdescriptor : instruction = .trustedInfoProvideInstructionDescriptor
  · subst hdescriptor
    rcases savedDescriptors_handleProvideInstructionDescriptor env memory app with
      ⟨hsame, -⟩ | ⟨out, saved', hsave, hnew, -⟩
    · exact h.of_kept (.inl hsame)
    · intro saved hsaved
      obtain rfl : saved' = saved := Option.some.inj (hnew.symm.trans hsaved)
      refine sound_saveInstructionDescriptor ?_ hsave
      rcases hstore : app.savedDescriptors with _ | kept
      · exact sound_zero
      · exact h kept hstore
  · exact h.of_kept (savedDescriptors_dispatch app hdescriptor)

theorem soundStore_handleApdu {frame : ℕ → Hash} {memory : Bool} {bytes : List UInt8}
    (h : app.SoundStore) : (handleApdu env frame memory bytes app).2.SoundStore := by
  unfold handleApdu
  split
  · exact h
  · unfold handleCommand
    split
    · exact h
    · exact h
    · refine soundStore_dispatch ?_
      split <;> exact h

/-- **One step keeps the store sound.** -/
theorem soundStore_step (h : app.SoundStore) (event : Event) : (app.step env event).SoundStore := by
  rcases hrun : app.running with _ | _
  · rw [step_of_not_running hrun]
    exact h
  · rw [step_of_running hrun]
    rcases event with ⟨bytes, memory, frame⟩ | ⟨confirm, memory⟩ | settings
    · by_cases hbytes : bytes = []
      · subst hbytes
        exact h
      · rw [react_apdu hbytes]
        exact soundStore_handleApdu h
    · exact h.of_kept (.inl (@stores_choose env app confirm memory).1)
    · exact h

/-- **The descriptors and the messages they let through.**  The store is sound in every run, also
while a message is walked over; a descriptor that is refused leaves it as it was; and an accepted
message meets the descriptors one to one. -/
theorem descriptors_matched (env : Env) :
    (∀ calledFromSwap swap settings events saved,
      (Run.final (App.step env) (App.start env calledFromSwap swap settings)
        events).savedDescriptors
        = some saved → saved.Sound) ∧
    (∀ (app : App) header n saved p saved' p', saved.Sound →
      walkWithDescriptors env app header n saved p = .ok (saved', p') → saved'.Sound) ∧
    (∀ memory app, (handleProvideInstructionDescriptor env memory app).1 ≠ .status .success →
      (handleProvideInstructionDescriptor env memory app).2.savedDescriptors
        = app.savedDescriptors) ∧
    ∀ (app : App) messageBody header,
      processMessageBodyWithDescriptor env app messageBody header = .ok () →
        ∃ saved, app.savedDescriptors = some saved ∧
          header.instructionsLength = saved.descriptors.length ∧
          List.Forall₂ (app.Meets env header) saved.descriptors
            (bodyInstructions header header.instructionsLength messageBody) := by
  refine ⟨fun calledFromSwap swap settings events => ?_, fun app header n saved p saved' p' => ?_,
    fun memory app hrefused => ?_, fun app messageBody header => meets_of_accepted⟩
  · refine @Run.invariant _ _ _ _ _ App.SoundStore (fun _ e h _ => soundStore_step h e) events ?_
      (Run.guarded_true events)
    intro saved hsaved
    cases hsaved
  · exact sound_walkWithDescriptors
  · rcases savedDescriptors_handleProvideInstructionDescriptor env memory app with
      ⟨hsame, -⟩ | ⟨_, _, -, -, hsuccess⟩
    · exact hsame
    · exact absurd hsuccess hrefused

end

end AgencLedger
