import AgencLedger.App.Assembly
import AgencLedger.Sol.RoundTrip

/-!
# App/Offchain — off-chain messages: apart from transactions, and shown as they are signed

The signing domain starts with `0xff`, which is a version byte to the transaction parser.  What
keeps the two kinds of messages apart are the bytes behind it: read as the counts of a message they
ask for more signatures than there are keys.
-/

namespace AgencLedger

open Input

/-! ## Domain separation -/

/-- The commands of the transaction path. -/
def InstructionCode.signsTransaction : InstructionCode → Bool
  | .deprecatedSignMessage => true
  | .signMessage => true
  | .signMessagePreview => true
  | .signMessageDelayed => true
  | _ => false

/-- The handler granted something: it put up a review, or it signed at once. -/
def App.Grants (app : App) (handled : Outcome × App) : Prop :=
  handled.1 = .pending ∨ handled.2.signed ≠ app.signed

/-- **The domain asks for 115 signatures of 97 keys.** -/
theorem parseMessageHeader_of_domain {bytes : List UInt8}
    (h : offchainMessageSigningDomain <+: bytes) (addr : ℕ) :
    parseMessageHeader ⟨addr, bytes⟩ = .error .bail := by
  obtain ⟨rest, rfl⟩ := h
  rfl

/-- An off-chain header starts with the domain. -/
theorem domain_of_parseOffchainMessageHeader {p p' : Parser} {header : OffchainMessageHeader}
    (h : parseOffchainMessageHeader p = .ok (header, p')) :
    offchainMessageSigningDomain <+: p.buffer := by
  obtain ⟨u, q, hcheck, h⟩ := (Result.step_seq_ok_iff _ _ _ _).mp h
  obtain ⟨domain, q', hdomain, h⟩ := (Result.step_seq_ok_iff _ _ _ _).mp h
  obtain ⟨u', q'', hbail, -⟩ := (Result.step_seq_ok_iff _ _ _ _).mp h
  obtain ⟨w, ⟨hbuffer, -⟩, -, rfl⟩ := (accepts_bytes 16 p domain q').mp
    ((Result.step_seq_ok_iff _ _ _ _).mpr ⟨u, q, hcheck, hdomain⟩)
  obtain ⟨hw, -⟩ := parseBailIf_ok_iff.mp hbail
  obtain rfl : w = offchainMessageSigningDomain := by simpa using hw
  exact ⟨q'.buffer, hbuffer.symm⟩

section

variable {env : Env} {frame : ℕ → Hash} {memory : Bool} {app : App}

theorem not_grants_sendSw {app' : App} (sw : ApduReply) (h : app'.signed = app.signed) :
    ¬app.Grants (app'.sendSw sw) := by
  rintro (hpending | hsigned)
  · cases hpending
  · exact hsigned h

/-- A message that is no transaction is refused before anything else happens. -/
theorem handleSignMessageParseMessage_of_bail
    (h : parseMessageHeader ⟨0, app.command.message⟩ = .error .bail) :
    handleSignMessageParseMessage env frame app = app.sendSw .solanaInvalidMessage := by
  unfold handleSignMessageParseMessage
  rw [h]

/-- Nor does it have a fingerprint. -/
theorem verifyDelayedMessageMatchesPreview_of_bail
    (h : parseMessageHeader ⟨0, app.command.message⟩ = .error .bail) (preview : PreviewState) :
    verifyDelayedMessageMatchesPreview env app.command preview ≠ .success := by
  have hhash : hashMessageWithZeroedBlockhash env app.command.message = none := by
    rw [hashMessageWithZeroedBlockhash, h]
  intro hverify
  rw [verifyDelayedMessageMatchesPreview, hhash] at hverify
  split at hverify
  · cases hverify
  split at hverify <;> cases hverify

/-- **The transaction path grants nothing to a message that starts with the domain.** -/
theorem not_grants_of_domain {instruction : InstructionCode}
    (hins : instruction.signsTransaction = true)
    (h : offchainMessageSigningDomain <+: app.command.message) :
    ¬app.Grants (dispatch env frame memory app instruction) := by
  have hparse : ∀ app' : App, app'.command.message = app.command.message →
      app'.signed = app.signed → ¬app.Grants (handleSignMessageParseMessage env frame app') := by
    intro app' hmessage hsigned
    rw [handleSignMessageParseMessage_of_bail (hmessage ▸ parseMessageHeader_of_domain h 0)]
    exact not_grants_sendSw _ hsigned
  rcases instruction with _ | _ | _ | _ | _ | _ | _ | _ | _ | _ | _ | _ | _ <;>
    cases hins
  case deprecatedSignMessage => exact hparse app rfl rfl
  case signMessage => exact hparse app rfl rfl
  case signMessagePreview =>
    change ¬app.Grants (if app.calledFromSwap then app.sendSw .sdkNotSupported else _)
    split
    · exact not_grants_sendSw _ rfl
    · exact hparse _ rfl rfl
  case signMessageDelayed =>
    change ¬app.Grants (handleSignMessageDelayed env app)
    unfold handleSignMessageDelayed handleSignMessageDelayedInternal
    split
    rename_i outcome app' hinternal
    split at hinternal
    · cases hinternal
      exact not_grants_sendSw _ rfl
    split at hinternal
    · cases hinternal
      exact not_grants_sendSw _ rfl
    split at hinternal
    · exact absurd ‹_› (verifyDelayedMessageMatchesPreview_of_bail
        (parseMessageHeader_of_domain h 0) _)
    · cases hinternal
      exact not_grants_sendSw _ rfl

/-- An off-chain message that is put up for review starts with the domain. -/
theorem domain_of_grants (h : app.Grants (dispatch env frame memory app .signOffchainMessage)) :
    offchainMessageSigningDomain <+: app.command.message := by
  change app.Grants (handleSignOffchainMessage env app) at h
  unfold handleSignOffchainMessage at h
  split at h
  · exact absurd h (not_grants_sendSw _ rfl)
  split at h
  · exact absurd h (not_grants_sendSw _ rfl)
  split at h
  · exact absurd h (not_grants_sendSw _ rfl)
  · rcases h with hpending | hsigned
    · cases hpending
    · exact absurd rfl hsigned
  · rename_i hheader
    exact domain_of_parseOffchainMessageHeader hheader

end

/-- **Transactions and off-chain messages are separate**: no bytes parse as both, what the
transaction path grants does not start with the signing domain, and it grants nothing to a message
that was accepted as an off-chain one. -/
theorem domainSeparation (bytes : List UInt8) :
    (∀ addr header p header' p', parseMessageHeader ⟨addr, bytes⟩ = .ok (header, p) →
      parseOffchainMessageHeader ⟨addr, bytes⟩ ≠ .ok (header', p')) ∧
    (∀ env frame memory (app : App) (instruction : InstructionCode),
      app.command.message = bytes → instruction.signsTransaction = true →
      app.Grants (dispatch env frame memory app instruction) →
      ¬offchainMessageSigningDomain <+: bytes) ∧
    ∀ env frame memory env' frame' memory' (app app' : App) (instruction : InstructionCode),
      app.command.message = bytes → app'.command.message = bytes →
      instruction.signsTransaction = true →
      app.Grants (dispatch env frame memory app .signOffchainMessage) →
      ¬app'.Grants (dispatch env' frame' memory' app' instruction) := by
  refine ⟨?_, ?_, ?_⟩
  · intro addr header p header' p' hheader hoffchain
    rw [parseMessageHeader_of_domain (domain_of_parseOffchainMessageHeader hoffchain) addr]
      at hheader
    cases hheader
  · rintro env frame memory app instruction rfl hins hgrants hdomain
    exact not_grants_of_domain hins hdomain hgrants
  · intro env frame memory env' frame' memory' app app' instruction hmessage hmessage' hins hgrants
    exact not_grants_of_domain hins (hmessage' ▸ hmessage ▸ domain_of_grants hgrants)

/-! ## The header and the text behind it -/

/-- The domain, the version and what it brings, the signers in order, the length of the text. -/
def offchainHeaderAt : Grammar UInt8 OffchainMessageHeader :=
  (bytesAt 16).seq fun domain =>
    (Grammar.check (decide (domain.val ≠ offchainMessageSigningDomain) = false)).seq fun _ : Unit =>
    (integerBytes 1 UInt8.toNat).seq fun version =>
    Grammar.seq (fun n a w => if version = 0 then
        (blockAt 32).seq (fun applicationDomain => (integerBytes 1 UInt8.toNat).seq fun format =>
          .pure (some applicationDomain, format)) n a w
      else Grammar.pure (none, 0) n a w) fun v : Option (Ptr (Block 32)) × UInt8 =>
    (integerBytes 1 UInt8.toNat).seq fun signersLength =>
    (pubkeysAt signersLength.toNat).seq fun signers =>
    (Grammar.check ((version ≥ 1 && !signersAscending signers.val) = false)).seq fun _ : Unit =>
    (integerBytes 2 UInt16.toNat).seq fun length =>
    .pure ⟨version, v.1, v.2, signers.val, length⟩

theorem accepts_parseOffchainMessageHeader :
    Accepts parseOffchainMessageHeader offchainHeaderAt := by
  have hassoc : parseOffchainMessageHeader =
      (checkBufferLength 16 >>= fun _ => advance 16) >>= fun domain => (do
        parseBailIf (domain.val ≠ offchainMessageSigningDomain)
        let version ← parseU8
        let v ← (if version = 0 then do
              let applicationDomain ← parseBlock 32
              let format ← parseU8
              return (some applicationDomain, format)
            else return (none, 0) : ParseM (Option (Ptr (Block 32)) × UInt8))
        let signersLength ← parseU8
        let signers ← parsePubkeysWithLen signersLength.toNat
        parseBailIf (version ≥ 1 && !signersAscending signers.val)
        let length ← parseU16
        return ⟨version, v.1, v.2, signers.val, length⟩) := by
    simp only [bind_assoc]
    rfl
  rw [hassoc]
  exact (accepts_bytes 16).seq fun _ => (accepts_parseBailIf _).seq fun _ =>
    accepts_parseU8.seq fun _ =>
    (Accepts.ite (fun _ => (accepts_parseBlock 32).seq fun _ =>
      accepts_parseU8.seq fun _ => .pure _)
      fun _ => .pure _).seq fun _ =>
    accepts_parseU8.seq fun _ => (accepts_parsePubkeysWithLen _).seq fun _ =>
    (accepts_parseBailIf _).seq fun _ => accepts_parseU16.seq fun _ => .pure _

theorem length_integerBytes {α : Type} {k n : ℕ} {toNat : α → ℕ} {a : α} {w : List UInt8}
    (h : integerBytes k toNat n a w) : w.length = k := by
  rw [h, length_leBytes]

/-- **The length formula counts what the parser reads.** -/
theorem length_of_offchainHeaderAt {n : ℕ} {header : OffchainMessageHeader} {w : List UInt8}
    (h : offchainHeaderAt n header w) : w.length = offchainMessageHeaderLength header := by
  obtain ⟨domain, w₁, r₁, rfl, ⟨hdomain, -⟩, h⟩ := h
  obtain ⟨-, version, w₂, r₂, rfl, hversion, v, w₃, r₃, rfl, hv, h⟩ := (Grammar.check_seq _ _).mp h
  obtain ⟨signersLength, w₄, r₄, rfl, hsigners, signers, w₅, r₅, rfl, ⟨hkeys, hval⟩, h⟩ := h
  obtain ⟨-, h⟩ := (Grammar.check_seq _ _).mp h
  obtain ⟨length, rfl, hlength⟩ := (Grammar.seq_pure _ _).mp h
  have hcount : signers.val.length = signersLength.toNat := signers.property
  have hbrings : w₃.length = if version = 0 then 33 else 0 := by
    by_cases hzero : version = 0
    · rw [if_pos hzero] at hv ⊢
      obtain ⟨domain, u, u', rfl, ⟨-, rfl⟩, hformat⟩ := hv
      obtain ⟨format, -, hformat⟩ := (Grammar.seq_pure _ _).mp hformat
      rw [List.length_append, domain.val.size, length_integerBytes hformat]
    · rw [if_neg hzero] at hv ⊢
      rw [hv.2, List.length_nil]
  simp only [List.length_append, hdomain, length_integerBytes hversion,
    length_integerBytes hsigners, hkeys, length_integerBytes hlength, hbrings,
    offchainMessageHeaderLength, hcount]
  split <;> omega

/-- The parser stops where the length formula says. -/
theorem parseOffchainMessageHeader_pos {message : List UInt8} {header : OffchainMessageHeader}
    {p : Parser} (h : parseOffchainMessageHeader ⟨0, message⟩ = .ok (header, p)) :
    p.addr = offchainMessageHeaderLength header ∧ p.addr ≤ message.length ∧
      p.buffer = message.drop p.addr := by
  obtain ⟨w, ⟨hbuffer, haddr⟩, hw⟩ := (accepts_parseOffchainMessageHeader _ _ _).mp h
  have haddr : p.addr = 0 + w.length := haddr
  have hbuffer : message = w ++ p.buffer := hbuffer
  rw [Nat.zero_add] at haddr
  refine ⟨by rw [haddr, length_of_offchainHeaderAt hw], ?_, ?_⟩
  · rw [haddr, hbuffer, List.length_append]
    exact Nat.le_add_right _ _
  · rw [haddr, hbuffer, List.drop_left]

/-! ## What is shown and what is signed -/

/-- The array holds the text at an offset, as a string of C. -/
def HoldsText (array : List UInt8) (start : ℕ) (text : List UInt8) : Prop :=
  0 ∉ text ∧ ∃ rest, array.drop start = text ++ 0 :: rest

/-- ASCII text has no `NUL`. -/
theorem zero_notMem_of_isDataAscii {text : List UInt8} (h : isDataAscii text = true) :
    0 ∉ text := by
  intro hmem
  have hzero := List.all_eq_true.mp h 0 hmem
  revert hzero
  decide

/-- What stands behind an offset of a message is a string of C in its array. -/
theorem holdsText_array {maxLength start : ℕ} {command : Command}
    (hlength : command.message.length < maxLength) (hstart : start ≤ command.message.length)
    (hascii : isDataAscii (command.message.drop start) = true) :
    HoldsText (command.array maxLength) start (command.message.drop start) := by
  refine ⟨zero_notMem_of_isDataAscii hascii,
    List.replicate (maxLength - command.message.length - 1) 0, ?_⟩
  rw [Command.array, List.drop_append_of_le_length hstart, ← List.replicate_succ]
  congr 2
  omega

/-- **What a review of an off-chain message rests on.** -/
theorem review_of_handleSignOffchainMessage {env : Env} {app : App}
    (h : (handleSignOffchainMessage env app).1 = .pending) :
    ∃ header p, parseOffchainMessageHeader ⟨0, app.command.message⟩ = .ok (header, p) ∧
      checkOffchainHeader header p.buffer = .ok () ∧
      (handleSignOffchainMessage env app).2.command.messageTextStart
        = some (offchainMessageHeaderLength header) := by
  have hsetup : ∀ (app : App) header isAscii signer,
      (setupOffchainSigningUi header isAscii signer app).2.command = app.command := by
    intro app header isAscii signer
    unfold setupOffchainSigningUi
    split
    · rfl
    · simp only
      split <;> rfl
  unfold handleSignOffchainMessage at h ⊢
  split at h
  · cases h
  split at h
  · cases h
  rename_i hconfirm hsize
  rw [if_neg hconfirm, if_neg hsize]
  split at h
  · cases h
  · cases h
  rename_i header p hparse
  refine ⟨header, p, hparse, ?_, ?_⟩
  · simp only at h
    split at h
    · cases h
    · assumption
  · simp only at h ⊢
    split at h
    · cases h
    split at h
    · cases h
    split at h
    · cases h
    split at h
    · cases h
    split at h
    · cases h
    split at h
    · cases h
    rename_i hutf8 hformat hblind
    simp only [if_neg hutf8, if_neg hformat, if_neg hblind]
    rw [hsetup]

/-- The checks on an off-chain header. -/
theorem checkOffchainHeader_ok {header : OffchainMessageHeader} {content : List UInt8}
    (h : checkOffchainHeader header content = .ok ()) :
    header.version ≤ 1 ∧ content.length = header.length.toNat := by
  simp only [checkOffchainHeader, throw_bind] at h
  split at h
  · cases h
  · rename_i hcond
    simp only [not_or, ne_eq, not_not, gt_iff_lt] at hcond
    exact ⟨UInt8.not_lt.mp hcond.1, hcond.2.2.1.symm⟩

/-- A screen comes from the handler of a complete command. -/
theorem dispatch_of_pending {env : Env} {frame : ℕ → Hash} {memory : Bool} {app : App}
    (h : (handleCommand env frame memory app).1 = .pending) :
    ∃ instruction previewState, app.command.instruction = some instruction ∧
      handleCommand env frame memory app
        = dispatch env frame memory { app with previewState } instruction := by
  unfold handleCommand at h ⊢
  split at h
  · cases h
  · cases h
  · rename_i instruction hins _
    simp only [hins]
    refine ⟨instruction, if instruction = .signMessageDelayed then app.previewState else none,
      rfl, ?_⟩
    split <;> rfl

/-- **The text shown is the text signed.**  When an APDU, after any others, puts an off-chain
message up for review, the start of the text is where the parser of the header stopped, the text is
the last part of the message, as long as the header says, and if it is ASCII it stands there as a
string of C. -/
theorem offchainText_signed (env : Env) (app : App) (events : List Event) {s s' : AppInMemory}
    (hrun : Run.final (reactInMemory env) (clearedInMemory env app) events = s)
    {bytes : List UInt8} {memory : Bool} {frame : ℕ → Hash}
    (hstep : reactInMemory env s (.apdu bytes memory frame) = s')
    (hins : s'.1.command.instruction = some .signOffchainMessage)
    (hreview : (s.1.react env (.apdu bytes memory frame)).1 = .pending) :
    ∃ header p, parseOffchainMessageHeader ⟨0, s'.1.command.message⟩ = .ok (header, p) ∧
      header.version ≤ 1 ∧
      s'.1.command.messageTextStart = some p.addr ∧ offchainMessageHeaderLength header = p.addr ∧
      p.buffer.length = header.length.toNat ∧
      p.buffer = s'.1.command.message.drop
        (s'.1.command.message.length - header.length.toNat) ∧
      (isDataAscii p.buffer = true → HoldsText s'.2 p.addr p.buffer) := by
  have hbytes : bytes ≠ [] := by
    rintro rfl
    cases hreview
  have hconsistent := consistent_run env app (events ++ [.apdu bytes memory frame])
  rw [Run.final_append, hrun, Run.final_cons, Run.final_nil, hstep] at hconsistent
  obtain ⟨hput, harray⟩ := hconsistent
  have happ : (handleApdu env frame memory bytes s.1).2 = s'.1 := by
    rw [← hstep, reactInMemory_apdu hbytes]
  rw [react_apdu hbytes] at hreview
  unfold handleApdu at hreview happ
  rcases hok : apduHandleMessage (maxMessageLength env.usbSegmentSize) bytes s.1.command
    with sw | command
  · rw [hok] at hreview
    cases hreview
  rw [hok] at hreview happ
  simp only at hreview happ
  obtain ⟨instruction, previewState, hins', hdispatch⟩ := dispatch_of_pending hreview
  rw [hdispatch] at hreview happ
  -- the command as it was put together
  have heq := @assembled_dispatch env frame memory { s.1 with command, previewState } instruction
  rw [happ] at heq
  have hmessage : s'.1.command.message = command.message :=
    (congrArg Command.message heq : s'.1.command.assembled.message = _)
  have hstate : s'.1.command.state = command.state :=
    (congrArg Command.state heq : s'.1.command.assembled.state = _)
  have hinstruction : s'.1.command.instruction = command.instruction :=
    (congrArg Command.instruction heq : s'.1.command.assembled.instruction = _)
  obtain rfl : instruction = .signOffchainMessage :=
    Option.some.inj (hins'.symm.trans (hinstruction.symm.trans hins))
  obtain ⟨header, p, hparse, hcheck, hstart⟩ := review_of_handleSignOffchainMessage hreview
  obtain ⟨hversion, hlength⟩ := checkOffchainHeader_ok hcheck
  obtain ⟨haddr, hle, hbuffer⟩ := parseOffchainMessageHeader_pos hparse
  obtain ⟨first, rest, hmade⟩ := hput (hstate ▸ state_of_apduHandleMessage hok) _ hins rfl
  change _ = command.message.drop p.addr at hbuffer
  change _ ≤ command.message.length at hle
  rw [← hmessage] at hbuffer hle
  refine ⟨header, p, hmessage ▸ hparse, hversion, ?_, haddr.symm, hlength, ?_, ?_⟩
  · rw [haddr, ← hstart, ← happ]
    rfl
  · rw [hbuffer] at hlength ⊢
    rw [List.length_drop] at hlength
    congr 1
    omega
  · intro hascii
    rw [harray]
    rw [hbuffer] at hascii ⊢
    exact holdsText_array hmade.length hle hascii

/-- The theorem on an off-chain message. -/
theorem offchainText_signed_offchainApdu :
    let s' := reactInMemory signingEnv (clearedInMemory signingEnv dashboardApp)
      (.plain offchainApdu)
    ∃ header p, parseOffchainMessageHeader ⟨0, s'.1.command.message⟩ = .ok (header, p) ∧
      HoldsText s'.2 (offchainMessageHeaderLength header) p.buffer := by
  intro s'
  obtain ⟨header, p, hparse, -, -, haddr, -, hbuffer, htext⟩ :=
    @offchainText_signed signingEnv dashboardApp [] _ s' rfl offchainApdu true
      (fun _ => Block.zero 32) rfl (by decide) (by decide)
  have hascii : ((parseOffchainMessageHeader ⟨0, s'.1.command.message⟩).toOption.all
      fun r => isDataAscii r.2.buffer) = true := by decide
  rw [hparse] at hascii
  exact ⟨header, p, hparse, haddr ▸ htext hascii⟩

end AgencLedger
