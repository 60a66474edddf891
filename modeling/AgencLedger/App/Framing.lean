import AgencLedger.App.Assembly
import AgencLedger.Program.Faultless
import AgencLedger.Review.Body
import AgencLedger.Sol.RoundTrip

/-!
# App/Framing — the frame of a message body, and where walking it never ends

`process_message_body` and `process_message_body_with_descriptor` walk the instructions of a body
in the same way and differ in what they ask behind the last one.  The walk itself counts the
accounts of an instruction in a byte, and never ends on an instruction with more than 255 of them.
-/

namespace AgencLedger

open Input

/-! ## The loop over the accounts -/

/-- The debug loop of `parse_validate_and_debug_instruction_accounts`, from the counter `i` on: the
counter it ends with, `none` when it still runs after the passes given. -/
def debugAccounts (accountsLength : ℕ) : ℕ → UInt8 → Option UInt8
  | 0, _ => none
  | passes + 1, i =>
      if i.toNat < accountsLength then debugAccounts accountsLength passes (i + 1) else some i

/-- A counter of one byte is always below a length past 255. -/
theorem debugAccounts_eq_none {accountsLength : ℕ} (h : 255 < accountsLength) (passes : ℕ)
    (i : UInt8) : debugAccounts accountsLength passes i = none := by
  induction passes generalizing i with
  | zero => rfl
  | succ passes ih =>
      have hi := i.toNat_lt
      rw [debugAccounts, if_pos (by omega)]
      exact ih (i + 1)

theorem debugAccounts_eq_some {accountsLength : ℕ} (h : accountsLength ≤ 255) (passes : ℕ)
    {i : UInt8} (hi : i.toNat + passes = accountsLength) :
    debugAccounts accountsLength (passes + 1) i = some accountsLength.toUInt8 := by
  induction passes generalizing i with
  | zero =>
      rw [debugAccounts, if_neg (by omega), ← hi]
      simp
  | succ passes ih =>
      rw [debugAccounts, if_pos (by omega)]
      refine ih ?_
      rw [UInt8.toNat_add, UInt8.toNat_one, Nat.mod_eq_of_lt (by omega)]
      omega

/-- **The loop over the accounts ends** exactly when there are at most 255 of them. -/
theorem debugAccounts_ends_iff (accountsLength : ℕ) :
    (∃ passes i, debugAccounts accountsLength passes 0 = some i) ↔ accountsLength ≤ 255 := by
  constructor
  · rintro ⟨passes, i, hends⟩
    by_contra h
    rw [debugAccounts_eq_none (by omega)] at hends
    cases hends
  · intro h
    exact ⟨_, _, debugAccounts_eq_some h accountsLength (Nat.zero_add _)⟩

/-! ## One pass of the walk -/

section

variable {header : MessageHeader}

theorem parseBailIf_not_iff {b : Bool} {p : Parser} {r : Unit × Parser} :
    parseBailIf (!b) p = .ok r ↔ b = true ∧ r = ((), p) := by
  simp

/-- **A pass accepts** an instruction whose indices are in range and whose accounts a byte
counts. -/
theorem pass_ok_iff {instruction : Instruction} {p p' : Parser} :
    parseValidateAndDebugInstructionAccounts header p = .ok (instruction, p') ↔
      parseInstruction p = .ok (instruction, p') ∧ instructionValidate instruction header = true ∧
        instruction.accounts.val.length ≤ 255 := by
  constructor
  · intro h
    obtain ⟨ins, p₁, hparse, h⟩ := (Result.step_seq_ok_iff _ _ _ _).mp h
    obtain ⟨u, p₂, hbail, h⟩ := (Result.step_seq_ok_iff _ _ _ _).mp h
    obtain ⟨hvalid, hp⟩ := parseBailIf_not_iff.mp hbail
    cases hp
    split at h
    · cases h
    · cases h
      exact ⟨hparse, hvalid, by omega⟩
  · rintro ⟨hparse, hvalid, hlen⟩
    refine (Result.step_seq_ok_iff _ _ _ _).mpr ⟨instruction, p', hparse, ?_⟩
    refine (Result.step_seq_ok_iff _ _ _ _).mpr ⟨(), p', parseBailIf_not_iff.mpr ⟨hvalid, rfl⟩, ?_⟩
    rw [if_neg (by omega)]
    rfl

/-- **A pass never ends** on an instruction whose loop over the accounts does not. -/
theorem pass_diverges_iff {p : Parser} :
    parseValidateAndDebugInstructionAccounts header p = .error .diverges ↔
      ∃ instruction p', parseInstruction p = .ok (instruction, p') ∧
        instructionValidate instruction header = true ∧
        ¬∃ passes i, debugAccounts instruction.accounts.val.length passes 0 = some i := by
  simp only [debugAccounts_ends_iff, Nat.not_le]
  constructor
  · intro h
    rcases Result.step_seq_error_iff.mp h with hparse | ⟨instruction, p', hparse, h⟩
    · have hfault : parseInstruction.Faultless := inferInstance
      cases hfault.error trivial hparse
    rcases Result.step_seq_error_iff.mp h with hbail | ⟨u, p₂, hbail, h⟩
    · have hfault : (parseBailIf (!instructionValidate instruction header)).Faultless :=
        inferInstance
      cases hfault.error trivial hbail
    obtain ⟨hvalid, hp⟩ := parseBailIf_not_iff.mp hbail
    split at h
    · exact ⟨instruction, p', hparse, hvalid, ‹_›⟩
    · cases h
  · rintro ⟨instruction, p', hparse, hvalid, hlen⟩
    refine Result.step_seq_error_iff.mpr (.inr ⟨instruction, p', hparse, ?_⟩)
    refine Result.step_seq_error_iff.mpr
      (.inr ⟨(), p', parseBailIf_not_iff.mpr ⟨hvalid, rfl⟩, ?_⟩)
    rw [if_pos hlen]
    rfl

/-! ## The walk -/

/-- The walk over the instructions of a body, without what is made of each of them. -/
def walkInstructions (header : MessageHeader) : ℕ → ParseM (List Instruction)
  | 0 => pure []
  | n + 1 => do
      let instruction ← parseValidateAndDebugInstructionAccounts header
      let instructions ← walkInstructions header n
      return instruction :: instructions

/-- An instruction the walk goes past: its indices are in range, and a byte counts its accounts. -/
def Instruction.Passes (header : MessageHeader) (instruction : Instruction) : Prop :=
  instructionValidate instruction header = true ∧ instruction.accounts.val.length ≤ 255

theorem accepts_pass (header : MessageHeader) :
    Accepts (parseValidateAndDebugInstructionAccounts header) fun pos instruction w =>
      instruction.Passes header ∧ instructionAt pos instruction w := by
  intro p instruction p'
  rw [pass_ok_iff, accepts_parseInstruction p instruction p']
  constructor
  · rintro ⟨⟨w, hreads, hw⟩, hpasses⟩
    exact ⟨w, hreads, hpasses, hw⟩
  · rintro ⟨w, hreads, hpasses, hw⟩
    exact ⟨⟨w, hreads, hw⟩, hpasses⟩

/-- **The walk accepts exactly the declared instructions**, when it goes past each of them. -/
theorem accepts_walkInstructions (header : MessageHeader) : ∀ n,
    Accepts (walkInstructions header n) fun pos instructions w => instructions.length = n ∧
      (∀ instruction ∈ instructions, instruction.Passes header) ∧ instructionsAt pos instructions w
  | 0 => (Accepts.pure _).congr fun pos instructions w => by
      constructor
      · rintro ⟨rfl, rfl⟩
        exact ⟨rfl, fun _ h => absurd h List.not_mem_nil, rfl⟩
      · rintro ⟨hlength, -, h⟩
        obtain rfl := List.length_eq_zero_iff.mp hlength
        exact ⟨rfl, h⟩
  | n + 1 => by
      refine ((accepts_pass header).seq fun i =>
        (accepts_walkInstructions header n).seq fun is => .pure _).congr fun pos
          instructions w => ?_
      constructor
      · rintro ⟨i, u, v, rfl, ⟨hpasses, hi⟩, his⟩
        obtain ⟨is, rfl, hlength, hall, his⟩ := (Grammar.seq_pure _ _).mp his
        exact ⟨by rw [List.length_cons, hlength], List.forall_mem_cons.mpr ⟨hpasses, hall⟩,
          u, v, rfl, hi, his⟩
      · rintro ⟨hlength, hall, his⟩
        obtain ⟨i, is, rfl⟩ := List.exists_cons_of_length_eq_add_one hlength
        obtain ⟨u, v, rfl, hi, his⟩ := his
        obtain ⟨hpasses, hall⟩ := List.forall_mem_cons.mp hall
        exact ⟨i, u, v, rfl, ⟨hpasses, hi⟩,
          (Grammar.seq_pure _ _).mpr ⟨is, rfl, by simpa using hlength, hall, his⟩⟩

/-- **A declared instruction that is reached lists more than 255 accounts.** -/
def MeetsLong (header : MessageHeader) : ℕ → Parser → Prop
  | 0, _ => False
  | n + 1, p => ∃ instruction p', parseInstruction p = .ok (instruction, p') ∧
      instructionValidate instruction header = true ∧
      (255 < instruction.accounts.val.length ∨ MeetsLong header n p')

/-- **The walk never ends** exactly when it meets such an instruction. -/
theorem walkInstructions_diverges_iff {n : ℕ} {p : Parser} :
    walkInstructions header n p = .error .diverges ↔ MeetsLong header n p := by
  induction n generalizing p with
  | zero =>
      constructor
      · intro h
        cases h
      · exact False.elim
  | succ n ih =>
      refine Result.step_seq_error_iff.trans ?_
      simp only [pass_diverges_iff, debugAccounts_ends_iff, Nat.not_le, MeetsLong]
      constructor
      · rintro (⟨i, p', hparse, hvalid, hlong⟩ | ⟨i, p', hpass, hrest⟩)
        · exact ⟨i, p', hparse, hvalid, .inl hlong⟩
        · obtain ⟨hparse, hvalid, -⟩ := pass_ok_iff.mp hpass
          rcases Result.step_seq_error_iff.mp hrest with hrest | ⟨is, p₂, -, hrest⟩
          · exact ⟨i, p', hparse, hvalid, .inr (ih.mp hrest)⟩
          · cases hrest
      · rintro ⟨i, p', hparse, hvalid, hmeets⟩
        by_cases hlong : 255 < i.accounts.val.length
        · exact .inl ⟨i, p', hparse, hvalid, hlong⟩
        · have hrest := hmeets.resolve_left hlong
          exact .inr ⟨i, p', pass_ok_iff.mpr ⟨hparse, hvalid, by omega⟩,
            Result.step_seq_error_iff.mpr (.inl (ih.mpr hrest))⟩

/-! ## The walk of `process_message_body` -/

/-- **`process_message_body` walks the instructions alike**: what a program's parser returns does
not stop it. -/
theorem snd_parseBodyInstructions (ctx : TokenContext) (n index : ℕ) (p : Parser) :
    (parseBodyInstructions ctx header n index p).2 = (walkInstructions header n p).map (·.2) := by
  induction n generalizing index p with
  | zero => rfl
  | succ n ih =>
      rcases hpass : parseValidateAndDebugInstructionAccounts header p with stop | ⟨i, p'⟩
      · have hbody : parseBodyInstruction ctx header index p = .error stop :=
          Result.step_seq_error_iff.mpr (.inl hpass)
        have hwalk : walkInstructions header (n + 1) p = .error stop :=
          Result.step_seq_error_iff.mpr (.inl hpass)
        rw [parseBodyInstructions, hbody, hwalk]
        rfl
      · obtain ⟨-, hvalid, -⟩ := pass_ok_iff.mp hpass
        obtain ⟨⟨info, ignored⟩, hinfo⟩ := exists_parseInstructionInfo ctx index hvalid
        have hbody : parseBodyInstruction ctx header index p = .ok (⟨i, info, ignored⟩, p') :=
          (Result.step_seq_ok_iff _ _ _ _).mpr ⟨i, p', hpass, (Result.step_seq_ok_iff _ _ _ _).mpr
            ⟨(info, ignored), p', Result.step_lift_ok_iff.mpr ⟨hinfo, rfl⟩, rfl⟩⟩
        rw [parseBodyInstructions, hbody]
        refine (ih (index + 1) p').trans ?_
        change _ = ((parseValidateAndDebugInstructionAccounts header >>= fun i =>
          walkInstructions header n >>= fun is => pure (i :: is)) p).map (·.2)
        rw [step_seq_of_ok hpass]
        change _ = ((walkInstructions header n p').bind fun r => .ok (i :: r.1, r.2)).map (·.2)
        rcases walkInstructions header n p' with stop | r <;> rfl

end

/-! ## Where a walk never ends -/

/-- A call that stops, if it does, in some other way than by running forever. -/
class Result.Ends {α : Type} (call : Result α) : Prop where
  ne : call ≠ .error .diverges

namespace Result.Ends

instance pure {α : Type} (a : α) : Ends (Pure.pure a : Result α) where
  ne := fun h => by cases h

instance bail {α : Type} : Ends (throw .bail : Result α) where
  ne := fun h => by cases h

instance seq {α β : Type} {call : Result α} {next : α → Result β} [hcall : Ends call]
    [hnext : ∀ a, Ends (next a)] : Ends (call >>= next) where
  ne := fun h => by
    rcases Result.seq_error_iff.mp h with hc | ⟨a, -, hn⟩
    · exact hcall.ne hc
    · exact (hnext a).ne hn

/-- Two calls in a row, one by one. -/
theorem bind {α β : Type} {call : Result α} {next : α → Result β} (hcall : Ends call)
    (hnext : ∀ a, Ends (next a)) : Ends (call >>= next) :=
  seq

instance bailIf (c : Bool) : Ends (AgencLedger.bailIf c) where
  ne := fun h => by cases bailIf_eq_error h

instance readAt {α : Type} (l : List α) (i : ℕ) : Ends (AgencLedger.readAt l i) where
  ne := fun h => by
    unfold AgencLedger.readAt at h
    split at h <;> cases h

end Result.Ends

instance (instruction : Instruction) (header : MessageHeader) :
    Result.Ends (programIdKey instruction header) := by
  unfold programIdKey
  infer_instance

instance (instruction : Instruction) (header : MessageHeader) (accountIndex : UInt8) :
    Result.Ends (getAccountFromIns instruction header accountIndex) := by
  unfold getAccountFromIns
  split
  · exact Result.Ends.pure none
  · infer_instance

instance (header : MessageHeader) (instruction : Instruction) (index : Option UInt8)
    (check : Pubkey → Bool) :
    Result.Ends (checkDescriptorAccount header instruction index check) := by
  unfold checkDescriptorAccount
  split
  · exact Result.Ends.pure true
  · refine .bind inferInstance fun account => ?_
    cases account <;> infer_instance

instance (env : Env) (app : App) (saved : SavedDescriptors) (header : MessageHeader)
    (instruction : Instruction) :
    Result.Ends (validateInstructionUsingDescriptor env app saved header instruction) := by
  unfold validateInstructionUsingDescriptor
  split
  · split
    · split
      · -- the checks one by one: together they are too many for one instance search
        dsimp only
        iterate 8 refine .bind inferInstance fun _ => ?_
        infer_instance
      · infer_instance
    · infer_instance
  · infer_instance

section

variable {header : MessageHeader}

instance (header : MessageHeader) : (parseBodyEnd header).Faultless := by
  unfold parseBodyEnd
  infer_instance

/-- What stands behind the instructions of a body never keeps the parsing from ending. -/
theorem parseMessageBody_diverges_iff {ctx : TokenContext} {messageBody : Parser} :
    (parseMessageBody ctx messageBody header).2 = .error .diverges ↔
      header.instructionsLength ≤ maxInstructions ∧
        MeetsLong header header.instructionsLength messageBody := by
  rw [← walkInstructions_diverges_iff]
  unfold parseMessageBody
  split
  · rename_i h
    constructor
    · intro hstop
      cases hstop
    · rintro ⟨hle, hwalk⟩
      rcases h with h | h
      · rw [h] at hwalk
        cases hwalk
      · exact absurd hle (Nat.not_le.mpr h)
  · rename_i h
    obtain ⟨-, hle⟩ := not_or.mp h
    refine Iff.trans ?_ (and_iff_right (Nat.not_lt.mp hle)).symm
    change ((parseBodyInstructions ctx header header.instructionsLength 0 messageBody).2 >>= _) = _
      ↔ _
    rw [Result.seq_error_iff, snd_parseBodyInstructions]
    constructor
    · rintro (hwalk | ⟨p, -, hstop⟩)
      · rcases hr : walkInstructions header header.instructionsLength messageBody with stop | r
        · rw [hr] at hwalk
          cases hwalk
          rfl
        · rw [hr] at hwalk
          cases hwalk
      · rcases Result.seq_error_iff.mp hstop with hend | ⟨r, -, hbail⟩
        · have hfault : (parseBodyEnd header).Faultless := inferInstance
          cases hfault.error trivial hend
        · cases bailIf_eq_error hbail
    · intro hwalk
      rw [hwalk]
      exact .inl rfl

/-- Playing a script always ends. -/
theorem play_ne_diverges (script : Script) (s : TransactionSummary) :
    (Script.play script s).1 ≠ .error .diverges := by
  intro h
  obtain ⟨done, e, rest, t, rfl, -, hstop⟩ := Script.play_eq_error h
  rcases Script.step_eq_error hstop with ⟨hstop, -⟩ | ⟨hstop, -⟩ <;> cases hstop

/-- **`process_message_body` never ends** exactly where its walk does not. -/
theorem processMessageBody_diverges_iff {ctx : TokenContext} {messageBody : Parser}
    {printConfig : PrintConfig} {s : TransactionSummary} :
    (processMessageBody ctx messageBody printConfig s).1 = .error .diverges ↔
      printConfig.header.instructionsLength ≤ maxInstructions ∧
        MeetsLong printConfig.header printConfig.header.instructionsLength messageBody := by
  rw [← @parseMessageBody_diverges_iff _ ctx]
  unfold processMessageBody
  rcases (parseMessageBody ctx messageBody printConfig.header).2 with stop | u
  · exact Iff.rfl
  · refine iff_of_false (play_ne_diverges _ s) fun h => ?_
    cases h

/-- **A reached instruction lists more than 255 accounts**, where the walk goes on behind an
instruction only when its descriptor passes. -/
def MeetsLongDescribed (env : Env) (app : App) (header : MessageHeader) :
    ℕ → SavedDescriptors → Parser → Prop
  | 0, _, _ => False
  | n + 1, saved, p => ∃ instruction p', parseInstruction p = .ok (instruction, p') ∧
      instructionValidate instruction header = true ∧
      (255 < instruction.accounts.val.length ∨ ∃ saved',
        validateInstructionUsingDescriptor env app saved header instruction = .ok saved' ∧
          MeetsLongDescribed env app header n saved' p')

theorem walkWithDescriptors_diverges_iff {env : Env} {app : App} {n : ℕ} {saved : SavedDescriptors}
    {p : Parser} :
    walkWithDescriptors env app header n saved p = .error .diverges ↔
      MeetsLongDescribed env app header n saved p := by
  induction n generalizing saved p with
  | zero =>
      constructor
      · intro h
        cases h
      · exact False.elim
  | succ n ih =>
      refine Result.seq_error_iff.trans ?_
      simp only [pass_diverges_iff, debugAccounts_ends_iff, Nat.not_le, MeetsLongDescribed]
      constructor
      · rintro (⟨i, p', hparse, hvalid, hlong⟩ | ⟨⟨i, p'⟩, hpass, hrest⟩)
        · exact ⟨i, p', hparse, hvalid, .inl hlong⟩
        · obtain ⟨hparse, hvalid, -⟩ := pass_ok_iff.mp hpass
          rcases Result.seq_error_iff.mp hrest with hrest | ⟨saved', hok, hrest⟩
          · exact absurd hrest Result.Ends.ne
          · exact ⟨i, p', hparse, hvalid, .inr ⟨saved', hok, ih.mp hrest⟩⟩
      · rintro ⟨i, p', hparse, hvalid, hmeets⟩
        by_cases hlong : 255 < i.accounts.val.length
        · exact .inl ⟨i, p', hparse, hvalid, hlong⟩
        · obtain ⟨saved', hok, hrest⟩ := hmeets.resolve_left hlong
          exact .inr ⟨(i, p'), pass_ok_iff.mpr ⟨hparse, hvalid, by omega⟩,
            Result.seq_error_iff.mpr (.inr ⟨saved', hok, ih.mpr hrest⟩)⟩

/-- **`process_message_body_with_descriptor` never ends** exactly where its walk does not. -/
theorem processMessageBodyWithDescriptor_diverges_iff {env : Env} {app : App}
    {messageBody : Parser} :
    processMessageBodyWithDescriptor env app messageBody header = .error .diverges ↔
      ∃ saved, app.savedDescriptors = some saved ∧
        saved.descriptors.length = header.instructionsLength ∧
        MeetsLongDescribed env app header header.instructionsLength saved messageBody := by
  unfold processMessageBodyWithDescriptor
  constructor
  · intro h
    rcases Result.seq_error_iff.mp h with hbail | ⟨u, -, h⟩
    · cases bailIf_eq_error hbail
    split at h
    · rename_i saved hsaved
      rcases Result.seq_error_iff.mp h with hbail | ⟨u, hlength, h⟩
      · cases bailIf_eq_error hbail
      rcases Result.seq_error_iff.mp h with hwalk | ⟨r, -, hbail⟩
      · exact ⟨saved, hsaved, by simpa using bailIf_eq_ok.mp hlength,
          walkWithDescriptors_diverges_iff.mp hwalk⟩
      · cases bailIf_eq_error hbail
    · cases h
  · rintro ⟨saved, hsaved, hlength, hmeets⟩
    have hpos : header.instructionsLength ≠ 0 := fun h0 => by
      rw [h0] at hmeets
      exact hmeets
    refine Result.seq_error_iff.mpr (.inr ⟨(), by simpa using hpos, ?_⟩)
    simp only [hsaved]
    refine Result.seq_error_iff.mpr (.inr ⟨(), by simpa using hlength, ?_⟩)
    exact Result.seq_error_iff.mpr (.inl (walkWithDescriptors_diverges_iff.mpr hmeets))

end

/-- **Every loop of the two walks ends** exactly when none of them reaches an instruction with more
than 255 accounts. -/
theorem bodyWalks_end_iff {env : Env} {app : App} {ctx : TokenContext} {messageBody : Parser}
    {printConfig : PrintConfig} {s : TransactionSummary} :
    ((processMessageBody ctx messageBody printConfig s).1 ≠ .error .diverges ∧
      processMessageBodyWithDescriptor env app messageBody printConfig.header ≠ .error .diverges) ↔
    (printConfig.header.instructionsLength ≤ maxInstructions →
      ¬MeetsLong printConfig.header printConfig.header.instructionsLength messageBody) ∧
    ∀ saved, app.savedDescriptors = some saved →
      saved.descriptors.length = printConfig.header.instructionsLength →
      ¬MeetsLongDescribed env app printConfig.header printConfig.header.instructionsLength saved
        messageBody := by
  refine and_congr (not_congr processMessageBody_diverges_iff |>.trans not_and) ?_
  refine (not_congr processMessageBodyWithDescriptor_diverges_iff).trans ?_
  simp only [not_exists, not_and]

/-- An instruction with 256 accounts, all of them the signer. -/
def crowdedInstruction : List UInt8 :=
  [0, 0x80, 0x02] ++ List.replicate 256 0 ++ [0]

/-- **On 256 accounts the walk never ends.** -/
theorem crowdedInstruction_diverges :
    parseMessageHeader ⟨0, legacyMessage [plainSigner] [crowdedInstruction]⟩
      = .ok (legacyHeader [plainSigner] (by decide) 1,
          legacyBody [plainSigner] [crowdedInstruction]) ∧
    (processMessageBody emptyContext (legacyBody [plainSigner] [crowdedInstruction])
      (plainConfig (legacyHeader [plainSigner] (by decide) 1) ⟨4, plainSigner⟩) .reset).1
      = .error .diverges := by
  decide +kernel

/-! ## The frame of a body -/

/-- What `process_message_body` accepts, but for the programs and the printers: the walk, and what
is asked behind it. -/
def bodyFraming (header : MessageHeader) : ParseM (List Instruction) := do
  let instructions ← walkInstructions header header.instructionsLength
  parseBodyEnd header
  return instructions

/-- What `process_message_body_with_descriptor` accepts, but for the descriptors. -/
def descriptorFraming (header : MessageHeader) : ParseM (List Instruction) := do
  let instructions ← walkInstructions header header.instructionsLength
  let p ← get
  parseBailIf (!parserIsEmpty p)
  return instructions

/-- **The frame of a body**: the declared instructions with their indices in range, an empty list of
lookup tables in a versioned message, and nothing behind. -/
structure Framed (header : MessageHeader) (messageBody : Parser) (instructions : List Instruction) :
    Prop where
  length : instructions.length = header.instructionsLength
  inRange : ∀ instruction ∈ instructions, instructionValidate instruction header = true
  bytes : ∃ u v, messageBody.buffer = u ++ v ∧ instructionsAt messageBody.addr instructions u ∧
    if header.versioned then compactLength (messageBody.addr + u.length) 0 v else v = []

section

variable {header : MessageHeader}

theorem parserIsEmpty_iff {p : Parser} : parserIsEmpty p = true ↔ p.buffer = [] := by
  simp [parserIsEmpty]

/-- What `process_message_body` asks behind the instructions. -/
theorem parseBodyEnd_ok_iff {p : Parser} :
    (∃ p', parseBodyEnd header p = .ok ((), p')) ↔
      if header.versioned then compactLength p.addr 0 p.buffer else p.buffer = [] := by
  have hempty : ∀ q : Parser, (∃ p', (do
      let p ← get
      parseBailIf (!parserIsEmpty p) : ParseM Unit) q = .ok ((), p')) ↔ q.buffer = [] := by
    intro q
    change (∃ p', parseBailIf (!parserIsEmpty q) q = .ok ((), p')) ↔ _
    simp only [parseBailIf_not_iff, parserIsEmpty_iff]
    exact ⟨fun ⟨_, h, _⟩ => h, fun h => ⟨q, h, rfl⟩⟩
  cases hversioned : header.versioned with
  | false =>
      unfold parseBodyEnd
      simp only [hversioned, Bool.false_eq_true, if_false]
      exact hempty p
  | true =>
      unfold parseBodyEnd
      simp only [hversioned, if_true]
      constructor
      · rintro ⟨p', h⟩
        obtain ⟨value, p₁, hlength, h⟩ := (Result.step_seq_ok_iff _ _ _ _).mp h
        obtain ⟨u, p₂, hbail, h⟩ := (Result.step_seq_ok_iff _ _ _ _).mp h
        obtain ⟨hzero, hp⟩ := parseBailIf_ok_iff.mp hbail
        cases hp
        obtain ⟨w, ⟨hrest, -⟩, hw⟩ := (accepts_parseLength _ _ _).mp hlength
        have hrest : p.buffer = w ++ p₁.buffer := hrest
        rw [(hempty p₁).mp ⟨p', h⟩, List.append_nil] at hrest
        obtain rfl : value = 0 := by simpa using hzero
        rw [hrest]
        exact hw
      · intro hw
        have hlength : parseLength p = .ok (0, ⟨p.addr + p.buffer.length, []⟩) :=
          (accepts_parseLength _ _ _).mpr ⟨p.buffer, ⟨(List.append_nil _).symm, rfl⟩, hw⟩
        obtain ⟨p', hend⟩ := (hempty ⟨p.addr + p.buffer.length, []⟩).mpr rfl
        exact ⟨p', (Result.step_seq_ok_iff _ _ _ _).mpr ⟨0, _, hlength,
          (Result.step_seq_ok_iff _ _ _ _).mpr ⟨(), _, parseBailIf_ok_iff.mpr ⟨rfl, rfl⟩, hend⟩⟩⟩

/-- The framing of `process_message_body` is the frame, where a byte counts all accounts. -/
theorem bodyFraming_ok_iff {messageBody : Parser} {instructions : List Instruction}
    (hshort : ∀ instruction ∈ instructions, instruction.accounts.val.length ≤ 255) :
    (∃ p', bodyFraming header messageBody = .ok (instructions, p')) ↔
      Framed header messageBody instructions := by
  constructor
  · rintro ⟨p', h⟩
    obtain ⟨is, p₁, hwalk, h⟩ := (Result.step_seq_ok_iff _ _ _ _).mp h
    obtain ⟨u, p₂, hend, h⟩ := (Result.step_seq_ok_iff _ _ _ _).mp h
    cases h
    obtain ⟨w, ⟨hrest, hpos⟩, hlength, hall, his⟩ :=
      (accepts_walkInstructions header _ _ _ _).mp hwalk
    refine ⟨hlength, fun i hi => (hall i hi).1, w, p₁.buffer, hrest, his, ?_⟩
    have hbytes := parseBodyEnd_ok_iff.mp ⟨_, hend⟩
    have hpos : p₁.addr = messageBody.addr + w.length := hpos
    rwa [hpos] at hbytes
  · rintro ⟨hlength, hall, w, v, hrest, his, hend⟩
    have hwalk : walkInstructions header header.instructionsLength messageBody
        = .ok (instructions, ⟨messageBody.addr + w.length, v⟩) :=
      (accepts_walkInstructions header _ _ _ _).mpr
        ⟨w, ⟨hrest, rfl⟩, hlength, fun i hi => ⟨hall i hi, hshort i hi⟩, his⟩
    obtain ⟨p', hp'⟩ := (@parseBodyEnd_ok_iff header ⟨messageBody.addr + w.length, v⟩).mpr hend
    exact ⟨p', (Result.step_seq_ok_iff _ _ _ _).mpr ⟨instructions, _, hwalk,
      (Result.step_seq_ok_iff _ _ _ _).mpr ⟨(), p', hp', rfl⟩⟩⟩

/-- On a legacy message both walks frame alike. -/
theorem descriptorFraming_eq (h : header.versioned = false) :
    descriptorFraming header = bodyFraming header := by
  unfold descriptorFraming bodyFraming parseBodyEnd
  simp only [h, Bool.false_eq_true, if_false, bind_assoc]

/-- **`process_message_body` accepts** a body that is framed and whose programs are all known. -/
theorem parseMessageBody_ok_iff {ctx : TokenContext} {messageBody : Parser} :
    (parseMessageBody ctx messageBody header).2 = .ok () ↔
      (0 < header.instructionsLength ∧ header.instructionsLength ≤ maxInstructions) ∧
      (∃ instructions p', bodyFraming header messageBody = .ok (instructions, p')) ∧
      ∀ q ∈ (parseMessageBody ctx messageBody header).1, q.info ≠ .unknown := by
  unfold parseMessageBody
  split
  · rename_i h
    refine iff_of_false (fun hstop => by cases hstop) fun ⟨⟨hpos, hle⟩, _⟩ => ?_
    exact h.elim (fun h0 => absurd h0 hpos.ne') fun hlt => absurd hle (Nat.not_le.mpr hlt)
  · rename_i h
    obtain ⟨hpos, hle⟩ := not_or.mp h
    refine Iff.trans ?_ (and_iff_right ⟨Nat.pos_of_ne_zero hpos, Nat.not_lt.mp hle⟩).symm
    change ((parseBodyInstructions ctx header header.instructionsLength 0 messageBody).2 >>=
      fun p =>
      parseBodyEnd header p >>= fun _ => bailIf _) = _ ↔ _
    rw [snd_parseBodyInstructions, Result.seq_ok_iff]
    simp only [Result.seq_ok_iff, bailIf_eq_ok, List.any_eq_false, decide_eq_true_eq]
    constructor
    · rintro ⟨p, hmap, r, hend, hknown⟩
      obtain ⟨⟨is, p₁⟩, hwalk, rfl⟩ := Except.map_eq_ok.mp hmap
      exact ⟨⟨is, r.2, (Result.step_seq_ok_iff _ _ _ _).mpr ⟨is, p₁, hwalk,
        (Result.step_seq_ok_iff _ _ _ _).mpr ⟨(), r.2, hend, rfl⟩⟩⟩, hknown⟩
    · rintro ⟨⟨is, p', hframing⟩, hknown⟩
      obtain ⟨is', p₁, hwalk, hrest⟩ := (Result.step_seq_ok_iff _ _ _ _).mp hframing
      obtain ⟨u, p₂, hend, -⟩ := (Result.step_seq_ok_iff _ _ _ _).mp hrest
      exact ⟨p₁, Except.map_eq_ok.mpr ⟨_, hwalk, rfl⟩, _, hend, hknown⟩

/-- The walk with descriptors is the walk, and each instruction passes the next descriptor. -/
theorem walkWithDescriptors_ok_iff {env : Env} {app : App} {n : ℕ} {saved : SavedDescriptors}
    {p : Parser} {r : SavedDescriptors × Parser} :
    walkWithDescriptors env app header n saved p = .ok r ↔
      ∃ instructions, walkInstructions header n p = .ok (instructions, r.2) ∧
        instructions.foldlM (fun saved instruction =>
          validateInstructionUsingDescriptor env app saved header instruction) saved = .ok r.1 := by
  induction n generalizing saved p with
  | zero =>
      constructor
      · intro h
        cases h
        exact ⟨[], rfl, rfl⟩
      · rintro ⟨is, hwalk, hfold⟩
        cases hwalk
        cases hfold
        rfl
  | succ n ih =>
      constructor
      · intro h
        obtain ⟨⟨i, p'⟩, hpass, h⟩ := (Result.seq_ok_iff _ _ _).mp h
        obtain ⟨saved', hvalid, h⟩ := (Result.seq_ok_iff _ _ _).mp h
        obtain ⟨is, hwalk, hfold⟩ := ih.mp h
        exact ⟨i :: is, (Result.step_seq_ok_iff _ _ _ _).mpr ⟨i, p', hpass,
          (Result.step_seq_ok_iff _ _ _ _).mpr ⟨is, _, hwalk, rfl⟩⟩,
          (Result.seq_ok_iff _ _ _).mpr ⟨saved', hvalid, hfold⟩⟩
      · rcases r with ⟨last, p₁⟩
        rintro ⟨is, hwalk, hfold⟩
        obtain ⟨i, p', hpass, hrest⟩ := (Result.step_seq_ok_iff _ _ _ _).mp hwalk
        obtain ⟨is', p₂, hwalk, hrest⟩ := (Result.step_seq_ok_iff _ _ _ _).mp hrest
        cases Result.step_pure_ok_iff.mp hrest
        obtain ⟨saved', hvalid, hfold⟩ := (Result.seq_ok_iff _ _ _).mp hfold
        exact (Result.seq_ok_iff _ _ _).mpr ⟨(i, p'), hpass,
          (Result.seq_ok_iff _ _ _).mpr ⟨saved', hvalid, ih.mpr ⟨is', hwalk, hfold⟩⟩⟩

/-- **`process_message_body_with_descriptor` accepts** a body that is framed and each of whose
instructions passes its descriptor. -/
theorem processMessageBodyWithDescriptor_ok_iff {env : Env} {app : App} {messageBody : Parser} :
    processMessageBodyWithDescriptor env app messageBody header = .ok () ↔
      0 < header.instructionsLength ∧
      ∃ saved, app.savedDescriptors = some saved ∧
        saved.descriptors.length = header.instructionsLength ∧
        ∃ instructions p', descriptorFraming header messageBody = .ok (instructions, p') ∧
          ∃ saved', instructions.foldlM (fun saved instruction =>
            validateInstructionUsingDescriptor env app saved header instruction) saved
              = .ok saved' := by
  unfold processMessageBodyWithDescriptor
  constructor
  · intro h
    obtain ⟨u, hpos, h⟩ := (Result.seq_ok_iff _ _ _).mp h
    split at h
    · rename_i saved hsaved
      obtain ⟨u, hlength, h⟩ := (Result.seq_ok_iff _ _ _).mp h
      obtain ⟨r, hwalk, hempty⟩ := (Result.seq_ok_iff _ _ _).mp h
      obtain ⟨is, hwalk, hfold⟩ := walkWithDescriptors_ok_iff.mp hwalk
      refine ⟨Nat.pos_of_ne_zero (by simpa using bailIf_eq_ok.mp hpos), saved, hsaved,
        by simpa using bailIf_eq_ok.mp hlength, is, r.2, ?_, r.1, hfold⟩
      refine (Result.step_seq_ok_iff _ _ _ _).mpr ⟨is, r.2, hwalk, ?_⟩
      refine (Result.step_seq_ok_iff _ _ _ _).mpr ⟨r.2, r.2, rfl, ?_⟩
      exact (Result.step_seq_ok_iff _ _ _ _).mpr
        ⟨(), r.2, parseBailIf_ok_iff.mpr ⟨bailIf_eq_ok.mp hempty, rfl⟩, rfl⟩
    · cases h
  · rintro ⟨hpos, saved, hsaved, hlength, is, p', hframing, saved', hfold⟩
    obtain ⟨is', p₁, hwalk, hrest⟩ := (Result.step_seq_ok_iff _ _ _ _).mp hframing
    obtain ⟨q, p₂, hget, hrest⟩ := (Result.step_seq_ok_iff _ _ _ _).mp hrest
    cases hget
    obtain ⟨u, p₃, hbail, hrest⟩ := (Result.step_seq_ok_iff _ _ _ _).mp hrest
    obtain ⟨hempty, -⟩ := parseBailIf_ok_iff.mp hbail
    cases Result.step_pure_ok_iff.mp hrest
    refine (Result.seq_ok_iff _ _ _).mpr ⟨(), by simpa using hpos.ne', ?_⟩
    simp only [hsaved]
    refine (Result.seq_ok_iff _ _ _).mpr ⟨(), by simpa using hlength, ?_⟩
    exact (Result.seq_ok_iff _ _ _).mpr ⟨(saved', _),
      walkWithDescriptors_ok_iff.mpr ⟨is, hwalk, hfold⟩, bailIf_eq_ok.mpr hempty⟩

/-- **Both walks agree on the frame of a body**: of a legacy message the two framings are one, and
the framing of `process_message_body` is the frame, in a versioned message of any version number. -/
theorem framing_spec (hpos : 0 < header.instructionsLength)
    (hle : header.instructionsLength ≤ maxInstructions) (messageBody : Parser) :
    (∀ instructions : List Instruction,
      (∀ instruction ∈ instructions, instruction.accounts.val.length ≤ 255) →
      ((∃ p', bodyFraming header messageBody = .ok (instructions, p')) ↔
        Framed header messageBody instructions)) ∧
    (header.versioned = false →
      descriptorFraming header messageBody = bodyFraming header messageBody) ∧
    (∀ ctx, (parseMessageBody ctx messageBody header).2 = .ok () ↔
      (∃ instructions p', bodyFraming header messageBody = .ok (instructions, p')) ∧
        ∀ q ∈ (parseMessageBody ctx messageBody header).1, q.info ≠ .unknown) ∧
    (∀ env app, processMessageBodyWithDescriptor env app messageBody header = .ok () ↔
      ∃ saved, app.savedDescriptors = some saved ∧
        saved.descriptors.length = header.instructionsLength ∧
        ∃ instructions p', descriptorFraming header messageBody = .ok (instructions, p') ∧
          ∃ saved', instructions.foldlM (fun saved instruction =>
            validateInstructionUsingDescriptor env app saved header instruction) saved
              = .ok saved') := by
  refine ⟨fun instructions hshort => bodyFraming_ok_iff hshort,
    fun hlegacy => by rw [descriptorFraming_eq hlegacy], fun ctx => ?_, fun env app => ?_⟩
  · exact parseMessageBody_ok_iff.trans (and_iff_right ⟨hpos, hle⟩)
  · exact processMessageBodyWithDescriptor_ok_iff.trans (and_iff_right hpos)

end

/-- A message of version 1 with one instruction, of no accounts and no data. -/
def versionOneMessage : List UInt8 :=
  [0x81, 1, 0, 0, 1] ++ plainSigner.data ++ List.replicate 32 0 ++ [1] ++ [0, 0, 0] ++ [0]

theorem length_versionOneKeys : [plainSigner].length < 128 := by decide

/-- Its header. -/
def versionOneHeader : MessageHeader :=
  { legacyHeader [plainSigner] length_versionOneKeys 1 with
    versioned := true
    version := 1
    pubkeys := [⟨5, plainSigner⟩]
    blockhash := ⟨37, Block.zero 32⟩
    size := rfl }

/-- **The framing of `process_message_body` accepts a message of version 1**, and that of
`process_message_body_with_descriptor` refuses it for its list of lookup tables. -/
theorem versionOneMessage_framed :
    parseMessageHeader ⟨0, versionOneMessage⟩ = .ok (versionOneHeader, ⟨70, [0, 0, 0, 0]⟩) ∧
    (∃ r, bodyFraming versionOneHeader ⟨70, [0, 0, 0, 0]⟩ = .ok r) ∧
    descriptorFraming versionOneHeader ⟨70, [0, 0, 0, 0]⟩ = .error .bail :=
  ⟨by decide, ⟨⟨[⟨0, ⟨72, []⟩, ⟨73, []⟩⟩], ⟨74, []⟩⟩, by decide⟩, by decide⟩

/-- The theorem on a legacy message of one transfer. -/
theorem framing_spec_transfer : 0 < 1 ∧ 1 ≤ maxInstructions ∧
    ∀ instructions : List Instruction,
      (∀ instruction ∈ instructions, instruction.accounts.val.length ≤ 255) →
      ((∃ p', bodyFraming (legacyHeader [plainSigner] (by decide) 1)
          (legacyBody [plainSigner] [writeInstruction 0 [0] [7]]) = .ok (instructions, p')) ↔
        Framed (legacyHeader [plainSigner] (by decide) 1)
          (legacyBody [plainSigner] [writeInstruction 0 [0] [7]]) instructions) :=
  ⟨Nat.one_pos, by decide, (@framing_spec (legacyHeader [plainSigner] (by decide) 1) Nat.one_pos
    (by decide) (legacyBody [plainSigner] [writeInstruction 0 [0] [7]])).1⟩

end AgencLedger
