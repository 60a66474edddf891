import AgencLedger.App.Framing
import AgencLedger.Program.NativeFormats
import AgencLedger.Program.TokenFormats

/-!
# App/BodyFormat — the message bodies that are accepted

The `switch` over the programs puts the formats of `Program/NativeFormats` and
`Program/TokenFormats` together: a record is known when the instruction is written as the record of
its program.  A body is accepted when it is a row of such instructions, from one to
`MAX_INSTRUCTIONS`, and nothing else.
-/

namespace AgencLedger

open Input

/-! ## One instruction -/

/-- **The instruction is written as the record**, by the format of its program.  The data of an
assertion and of a memo is not looked at. -/
def InstructionInfo.Written (ctx : TokenContext) (header : MessageHeader) (index : ℕ)
    (instruction : Instruction) (ignored : Bool) : InstructionInfo → Prop
  | .unknown => False
  | .serumAssertOwner => instructionProgramId instruction header = .ok .serumAssertOwner ∧
      ignored = false
  | .splMemo => instructionProgramId instruction header = .ok .splMemo ∧ ignored = false
  | .system info => instructionProgramId instruction header = .ok .system ∧ ignored = false ∧
      WrittenAs header instruction (.integer 4 info.kind.code :: info.fields) info.accounts
  | .stake info => instructionProgramId instruction header = .ok .stake ∧ ignored = false ∧
      info.Possible ∧
        WrittenAs header instruction (.integer 4 info.kind.code :: info.fields) info.accounts
  | .vote info => instructionProgramId instruction header = .ok .vote ∧ ignored = false ∧
      info.Possible instruction.data.val.length ∧
        WrittenAs header instruction
          (.integer 4 info.kind.code :: info.fields instruction.data.val.length)
          (info.accounts instruction.data.val.length)
  | .splToken info => instructionProgramId instruction header = .ok .splToken ∧
      ∃ isToken2022Kind, isToken2022Instruction instruction header = .ok isToken2022Kind ∧
        ((info, ignored) = info.body.parsed isToken2022Kind ∧
          info.body.Possible ctx instruction.accounts.val.length isToken2022Kind) ∧
        WrittenAs header instruction (.integer 1 info.body.kind.code :: info.body.fields)
          (info.body.accounts isToken2022Kind)
  | .splAssociatedTokenAccount create =>
      instructionProgramId instruction header = .ok .splAssociatedTokenAccount ∧ ignored = false ∧
        instruction.data.val ∈ [[], [0], [1]] ∧
        ∃ i, AccountsAt header instruction 0 create.accounts i
  | .computeBudget info => instructionProgramId instruction header = .ok .computeBudget ∧
      ignored = false ∧
        info.signaturesCount = header.pubkeysHeader.numRequiredSignatures.toNat ∧
        WrittenAs header instruction [.integer 1 info.kind.code, info.kind.field] []
  -- the format of these is that of `Program/AgencGrammar`
  | .agenc index' info => instructionProgramId instruction header = .ok .agenc ∧ ignored = false ∧
      index' = index ∧ parseAgencInstructions instruction header = .ok info

section

variable {ctx : TokenContext} {header : MessageHeader} {index : ℕ} {instruction : Instruction}
  {info : InstructionInfo} {ignored : Bool}

/-- A record that comes from its program's parser is what the `switch` gives back. -/
theorem parseInstructionInfo_of_parsedFrom (hknown : info ≠ .unknown)
    (h : info.ParsedFrom ctx header index instruction ignored) :
    parseInstructionInfo ctx header index instruction = .ok (info, ignored) := by
  refine (Result.seq_ok_iff _ _ _).mpr ?_
  cases info
  case unknown => exact absurd rfl hknown
  case serumAssertOwner | splMemo =>
    obtain ⟨hprogram, rfl⟩ := h
    exact ⟨_, hprogram, rfl⟩
  case splToken info =>
    exact ⟨_, h.1, known_ok_iff.mpr (.inl ⟨_, h.2, rfl⟩)⟩
  case agenc index' info =>
    obtain ⟨hprogram, rfl, rfl, hparse⟩ := h
    exact ⟨_, hprogram, known_ok_iff.mpr (.inl ⟨info, hparse, rfl⟩)⟩
  all_goals
    obtain ⟨hprogram, rfl, hparse⟩ := h
    exact ⟨_, hprogram, known_ok_iff.mpr (.inl ⟨_, hparse, rfl⟩)⟩

variable (hvalid : instructionValidate instruction header = true)
include hvalid

/-- **The parsers of the programs accept what is written so.** -/
theorem parsedFrom_iff_written (hknown : info ≠ .unknown) :
    info.ParsedFrom ctx header index instruction ignored ↔
      info.Written ctx header index instruction ignored := by
  cases info with
  | unknown => exact absurd rfl hknown
  | serumAssertOwner | splMemo | agenc => exact Iff.rfl
  | system info =>
      exact and_congr_right fun _ => and_congr_right fun _ =>
        (formats_parseSystemInstructions hvalid).parse_iff.trans (and_iff_right trivial)
  | stake info =>
      exact and_congr_right fun _ => and_congr_right fun _ =>
        (formats_parseStakeInstructions hvalid).parse_iff
  | vote info =>
      exact and_congr_right fun _ => and_congr_right fun _ =>
        (formats_parseVoteInstructions hvalid _).parse_iff
  | splAssociatedTokenAccount create =>
      exact and_congr_right fun _ => and_congr_right fun _ =>
        parseSplAssociatedTokenAccountInstructions_iff hvalid
  | computeBudget info =>
      exact and_congr_right fun _ => and_congr_right fun _ =>
        formats_parseComputeBudgetInstructions.parse_iff
  | splToken info =>
      refine and_congr_right fun _ => ?_
      obtain ⟨isToken2022Kind, hkind⟩ := exists_isToken2022Instruction hvalid
      rw [(formats_parseSplTokenInstructions hvalid isToken2022Kind ctx hkind).parse_iff]
      constructor
      · exact fun h => ⟨isToken2022Kind, hkind, h⟩
      · rintro ⟨_, hkind', h⟩
        cases hkind.symm.trans hkind'
        exact h

/-- **A known record** is the one the instruction is written as. -/
theorem parseInstructionInfo_iff (hknown : info ≠ .unknown) :
    parseInstructionInfo ctx header index instruction = .ok (info, ignored) ↔
      info.Written ctx header index instruction ignored :=
  ⟨fun h => (parsedFrom_iff_written hvalid hknown).mp (parsedFrom_of_parse h), fun h =>
    parseInstructionInfo_of_parsedFrom hknown ((parsedFrom_iff_written hvalid hknown).mpr h)⟩

end

/-! ## The body -/

section

variable {ctx : TokenContext} {header : MessageHeader}

/-- The record of an instruction that the walk goes past is what the `switch` makes of it. -/
theorem fst_parseBodyInstructions_succ {n index : ℕ} {p p' : Parser} {instruction : Instruction}
    (hpass : parseValidateAndDebugInstructionAccounts header p = .ok (instruction, p')) :
    ∃ info ignored,
      parseInstructionInfo ctx header index instruction = .ok (info, ignored) ∧
      (parseBodyInstructions ctx header (n + 1) index p).1
        = ⟨instruction, info, ignored⟩ ::
          (parseBodyInstructions ctx header n (index + 1) p').1 := by
  obtain ⟨⟨info, ignored⟩, hinfo⟩ :=
    exists_parseInstructionInfo ctx index (pass_ok_iff.mp hpass).2.1
  have hbody : parseBodyInstruction ctx header index p = .ok (⟨instruction, info, ignored⟩, p') :=
    (Result.step_seq_ok_iff _ _ _ _).mpr ⟨instruction, p', hpass,
      (Result.step_seq_ok_iff _ _ _ _).mpr
        ⟨(info, ignored), p', Result.step_lift_ok_iff.mpr ⟨hinfo, rfl⟩, rfl⟩⟩
  exact ⟨info, ignored, hinfo, by rw [parseBodyInstructions, hbody]⟩

/-- **The records of a walk** are those of its instructions, each at its place. -/
theorem fst_parseBodyInstructions_iff {n index : ℕ} {p p' : Parser}
    {instructions : List Instruction}
    (hwalk : walkInstructions header n p = .ok (instructions, p'))
    {parsed : List ParsedInstruction} :
    (parseBodyInstructions ctx header n index p).1 = parsed ↔
      parsed.map (·.instruction) = instructions ∧ ∀ i (q : ParsedInstruction), parsed[i]? = some q →
        parseInstructionInfo ctx header (index + i) q.instruction = .ok (q.info, q.ignored) := by
  induction n generalizing index p instructions parsed with
  | zero =>
      cases hwalk
      constructor
      · rintro rfl
        exact ⟨rfl, fun i q hq => by cases hq⟩
      · exact fun h => (List.map_eq_nil_iff.mp h.1).symm
  | succ n ih =>
      obtain ⟨instruction, p₁, hpass, hrest⟩ := (Result.step_seq_ok_iff _ _ _ _).mp hwalk
      obtain ⟨rest, p₂, hwalk, hrest⟩ := (Result.step_seq_ok_iff _ _ _ _).mp hrest
      cases hrest
      obtain ⟨info, ignored, hinfo, hfst⟩ :=
        @fst_parseBodyInstructions_succ ctx header n index p p₁ instruction hpass
      rw [hfst]
      cases parsed with
      | nil => exact iff_of_false (List.cons_ne_nil _ _) fun h => by cases h.1
      | cons q qs =>
          have hplace : ∀ i, index + (i + 1) = index + 1 + i := fun i => by omega
          rw [List.cons.injEq, ih hwalk, List.map_cons, List.cons.injEq]
          constructor
          · rintro ⟨rfl, hmap, hqs⟩
            refine ⟨⟨rfl, hmap⟩, fun i q hq => ?_⟩
            cases i with
            | zero =>
                cases hq
                exact hinfo
            | succ i =>
                rw [hplace]
                exact hqs i q hq
          · rintro ⟨⟨rfl, hmap⟩, hqs⟩
            refine ⟨?_, hmap, fun i q hq => hplace i ▸ hqs (i + 1) q hq⟩
            cases hinfo.symm.trans (hqs 0 q rfl)
            rfl

theorem fst_parseMessageBody {messageBody : Parser} (hpos : 0 < header.instructionsLength)
    (hle : header.instructionsLength ≤ maxInstructions) :
    (parseMessageBody ctx messageBody header).1
      = (parseBodyInstructions ctx header header.instructionsLength 0 messageBody).1 := by
  rw [parseMessageBody, if_neg (not_or.mpr ⟨hpos.ne', Nat.not_lt.mpr hle⟩)]

/-- A framing is a walk, and the end of the body. -/
theorem walk_of_bodyFraming {messageBody p' : Parser} {instructions : List Instruction}
    (h : bodyFraming header messageBody = .ok (instructions, p')) :
    ∃ p₁, walkInstructions header header.instructionsLength messageBody
      = .ok (instructions, p₁) := by
  obtain ⟨_, p₁, hwalk, hrest⟩ := (Result.step_seq_ok_iff _ _ _ _).mp h
  obtain ⟨-, p₂, -, hrest⟩ := (Result.step_seq_ok_iff _ _ _ _).mp hrest
  cases hrest
  exact ⟨p₁, hwalk⟩

/-- **What `process_message_body` accepts**: one to `MAX_INSTRUCTIONS` instructions in a frame, each
written as its record. -/
theorem parseMessageBody_iff {messageBody : Parser} {parsed : List ParsedInstruction} :
    parseMessageBody ctx messageBody header = (parsed, .ok ()) ↔
      (0 < header.instructionsLength ∧ header.instructionsLength ≤ maxInstructions) ∧
      Framed header messageBody (parsed.map (·.instruction)) ∧
      ∀ i (q : ParsedInstruction), parsed[i]? = some q →
        q.instruction.accounts.val.length ≤ 255 ∧
          q.info.Written ctx header i q.instruction q.ignored := by
  rw [Prod.ext_iff, parseMessageBody_ok_iff, and_left_comm]
  refine and_congr_right fun ⟨hpos, hle⟩ => ?_
  rw [fst_parseMessageBody hpos hle]
  constructor
  · rintro ⟨hparsed, ⟨instructions, p', hframing⟩, hknown⟩
    obtain ⟨p₁, hwalk⟩ := walk_of_bodyFraming hframing
    obtain ⟨_, -, -, hpasses, -⟩ := (accepts_walkInstructions header _ _ _ _).mp hwalk
    obtain ⟨rfl, hinfo⟩ := (fst_parseBodyInstructions_iff hwalk).mp hparsed
    have hpass : ∀ q ∈ parsed, q.instruction.Passes header := fun q hq =>
      hpasses _ (List.mem_map_of_mem hq)
    refine ⟨(bodyFraming_ok_iff fun i hi => (hpasses i hi).2).mp ⟨_, hframing⟩, fun i q hq => ?_⟩
    have hmem := List.mem_of_getElem? hq
    refine ⟨(hpass q hmem).2, (parseInstructionInfo_iff (hpass q hmem).1 ?_).mp ?_⟩
    · exact hknown q (hparsed ▸ hmem)
    · rw [← hinfo i q hq, Nat.zero_add]
  · rintro ⟨hframed, hwritten⟩
    have hall : ∀ q ∈ parsed, ∃ i, q.instruction.accounts.val.length ≤ 255 ∧
        q.info.Written ctx header i q.instruction q.ignored := fun q hq => by
      obtain ⟨i, hi⟩ := List.mem_iff_getElem?.mp hq
      exact ⟨i, hwritten i q hi⟩
    have hknown : ∀ q ∈ parsed, q.info ≠ .unknown := fun q hq hunknown => by
      obtain ⟨_, -, hq⟩ := hall q hq
      rw [hunknown] at hq
      exact hq
    obtain ⟨p', hframing⟩ := (bodyFraming_ok_iff fun instruction hi => by
      obtain ⟨q, hq, rfl⟩ := List.mem_map.mp hi
      exact (hall q hq).choose_spec.1).mpr hframed
    obtain ⟨p₁, hwalk⟩ := walk_of_bodyFraming hframing
    have hparsed := (@fst_parseBodyInstructions_iff ctx header _ 0 _ _ _ hwalk parsed).mpr
      ⟨rfl, fun i q hq => by
        have hmem := List.mem_of_getElem? hq
        rw [Nat.zero_add]
        exact (parseInstructionInfo_iff (hframed.inRange _ (List.mem_map_of_mem hmem))
          (hknown q hmem)).mpr (hwritten i q hq).2⟩
    exact ⟨hparsed, ⟨_, _, hframing⟩, hparsed ▸ hknown⟩

end

/-- The data of a transfer of five lamports. -/
def fiveLamportsData : List UInt8 := [2, 0, 0, 0, 5, 0, 0, 0, 0, 0, 0, 0]

/-- A body with this transfer only. -/
theorem parseMessageBody_iff_transfer :
    parseMessageBody emptyContext ⟨101, [1, 2, 0, 0, 12] ++ fiveLamportsData⟩
        (oneProgramHeader systemProgramId)
      = ([⟨oneProgramInstruction 2 fiveLamportsData, .system (.transfer ⟨plainKey, plainKey, 5⟩),
          false⟩], .ok ()) :=
  have hinstruction : instructionAt 101 (oneProgramInstruction 2 fiveLamportsData)
      ([1, 2, 0, 0, 12] ++ fiveLamportsData) :=
    ⟨1, [1], [2, 0, 0, 12] ++ fiveLamportsData, rfl, rfl, ⟨103, [0, 0]⟩, [2, 0, 0],
      [12] ++ fiveLamportsData, rfl, ⟨2, [2], [0, 0], rfl, .inl ⟨2, rfl, rfl, rfl⟩, rfl, rfl⟩,
      ⟨106, fiveLamportsData⟩, [12] ++ fiveLamportsData, [], rfl,
      ⟨12, [12], fiveLamportsData, rfl, .inl ⟨12, rfl, rfl, rfl⟩, rfl, rfl⟩, rfl, rfl⟩
  have hwritten : WrittenAs (oneProgramHeader systemProgramId)
      (oneProgramInstruction 2 fiveLamportsData) [.integer 4 2, .integer 8 5]
      [.key plainKey, .key plainKey] :=
    { data := ⟨fiveLamportsData, [], rfl, leBytes 4 2, leBytes 8 5, rfl, rfl, leBytes 8 5, [],
        rfl, rfl, rfl⟩
      accounts := ⟨2, 1, ⟨rfl, rfl⟩, 2, ⟨rfl, rfl⟩, rfl⟩ }
  parseMessageBody_iff.mpr ⟨by decide,
    { length := rfl
      inRange := by decide
      bytes := ⟨_, [], (List.append_nil _).symm, ⟨_, [], rfl, hinstruction, rfl⟩, rfl⟩ },
    fun i q hq => by
      rw [List.getElem?_singleton, Option.ite_none_right_eq_some] at hq
      cases hq.2
      exact ⟨by decide, rfl, rfl, hwritten⟩⟩

end AgencLedger
