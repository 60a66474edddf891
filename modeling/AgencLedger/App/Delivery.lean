import AgencLedger.App.Transport

/-!
# App/Delivery — what the app makes of a request that was cut

A client sends one APDU after the other, until one is refused.  Whatever is cut, the app puts
together: the outcome of the exchange is that of the whole command, or a refusal where the message
is too long.
-/

namespace AgencLedger

/-! ## What the app makes of the pieces -/

/-- The event brings the APDU. -/
def Event.Brings (apdu : List UInt8) : Event → Prop
  | .apdu bytes _ _ => bytes = apdu
  | _ => False

/-- A client sends on as long as it is answered `success`; the answer it ends with, and the app. -/
def App.exchange (env : Env) (app : App) : List Event → Outcome × App
  | [] => (.status .success, app)
  | [e] => app.react env e
  | e :: e' :: es =>
      if (app.react env e).1 = .status .success then
        App.exchange env (app.step env e) (e' :: es)
      else app.react env e

/-- A command in progress that an APDU of `instruction` goes on with. -/
structure Command.Open (ins : InstructionCode) (p1 : UInt8) (command : Command) : Prop where
  state : command.state = .payloadInProgress
  instruction : command.instruction = some ins
  nonConfirm : command.nonConfirm = decide (p1 = 0)
  deprecatedHost : command.deprecatedHost = false
  paths : instructionWithDerivationPathInFirstApdu ins = true →
    command.numDerivationPaths = 1

/-- The command after one more piece. -/
def Command.take (command : Command) (piece : List UInt8) : Command :=
  { command with message := command.message ++ piece }

/-- The command after its last piece. -/
def Command.complete (command : Command) (ata : Bool) : Command :=
  { command with state := .payloadComplete, userInputIsAtaOrTokenAccount := ata }

/-- The command that a piece leaves. -/
def Command.after (command : Command) (p2 : UInt8) (piece : List UInt8) : Command :=
  if p2 &&& p2More = 0 then (command.take piece).complete (p2 &&& p2IsAtaOrTokenAccount ≠ 0)
  else command.take piece

section

variable {instruction : InstructionCode} {ins p1 p2 : UInt8} {data : List UInt8}

/-- **The header of a client's APDU.** -/
theorem parseApduHeader_exchangeApdu (hins : InstructionCode.ofByte ins = some instruction)
    (hcurrent : instruction.isDeprecated = false) (hdata : data.length ≤ 255) :
    parseApduHeader (exchangeApdu ins p1 p2 data)
      = .ok ⟨instruction, p1, p2, if data = [] then none else some data, false⟩ := by
  have hlen : data.length.toUInt8.toNat = data.length := by
    rw [Nat.toUInt8, UInt8.toNat_ofNat_of_lt' (by change _ < 256; omega)]
  have hempty : (if data.length > 0 then some data else none)
      = if data = [] then none else some data := by
    rcases data with _ | ⟨b, data⟩ <;> rfl
  simp only [parseApduHeader, exchangeApdu, List.cons_append, List.nil_append, List.length_cons,
    List.getD_cons_zero, List.getD_cons_succ, hins, hcurrent, hlen]
  rw [if_neg (by omega), if_neg (by decide)]
  simp only [Bool.false_eq_true, if_false]
  rw [if_neg (by omega), if_neg (by omega), if_neg (by omega), ← hempty]
  rfl

variable {command : Command} {maxLength : ℕ}

theorem Command.Open.take (hopen : command.Open instruction p1) (piece : List UInt8) :
    (command.take piece).Open instruction p1 :=
  ⟨hopen.state, hopen.instruction, hopen.nonConfirm, hopen.deprecatedHost, hopen.paths⟩

theorem checkExtension_of_open (hopen : command.Open instruction p1) {data : Option (List UInt8)} :
    checkExtension ⟨instruction, p1, p2, data, false⟩ command = .ok () := by
  unfold checkExtension
  rw [if_neg (not_not_intro hopen.state), if_neg (not_not_intro hopen.instruction),
    if_neg (not_not_intro hopen.nonConfirm), if_neg (not_not_intro hopen.deprecatedHost)]
  rfl

theorem appendData_some (piece : List UInt8) :
    appendData maxLength instruction (some piece) command
      = if command.message.length + piece.length < maxLength then .ok (command.take piece)
        else .error .solanaInvalidMessageSize := by
  simp only [appendData, throw_bind]
  by_cases hfits : command.message.length + piece.length < maxLength
  · rw [if_neg (Nat.not_le.mpr hfits), if_pos hfits]
    rfl
  · rw [if_pos (Nat.not_lt.mp hfits), if_neg hfits]

theorem close_eq (hcurrent : instruction.isDeprecated = false) (piece : List UInt8) :
    ApduHeader.close maxLength ⟨instruction, p1, p2, data, false⟩ (command, some piece)
      = if command.message.length + piece.length < maxLength then
          .ok (command.after p2 piece)
        else .error .solanaInvalidMessageSize := by
  have hne : instruction ≠ .deprecatedSignMessage := fun h => by
    rw [h] at hcurrent
    cases hcurrent
  unfold ApduHeader.close ApduHeader.dropPrefix
  rw [if_neg hne]
  change (appendData maxLength instruction (some piece) command).map _ = _
  rw [appendData_some]
  by_cases hfits : command.message.length + piece.length < maxLength
  · rw [if_pos hfits, if_pos hfits]
    rfl
  · rw [if_neg hfits, if_neg hfits]
    rfl

/-- **A further piece** is put behind the others. -/
theorem apduHandleMessage_extend (hins : InstructionCode.ofByte ins = some instruction)
    (hcurrent : instruction.isDeprecated = false)
    (hsplit : splitAllowedForInstruction instruction = true) (hextend : p2 &&& p2Extend ≠ 0)
    (hopen : command.Open instruction p1) (hne : data ≠ []) (hdata : data.length ≤ 255) :
    apduHandleMessage maxLength (exchangeApdu ins p1 p2 data) command
      = if command.message.length + data.length < maxLength then
          .ok (command.after p2 data)
        else .error .solanaInvalidMessageSize := by
  have hpayload : instructionWithoutPayload instruction = false := by
    cases instruction <;> first | rfl | cases hsplit
  have hheader := @parseApduHeader_exchangeApdu instruction ins p1 p2 data hins hcurrent hdata
  rw [if_neg hne] at hheader
  rw [apduHandleMessage_eq hheader hpayload, ApduHeader.open, if_neg, checkExtension_of_open hopen]
  · change Except.bind (if _ then _ else _) _ = _
    rw [if_neg]
    · exact close_eq hcurrent data
    · intro hpaths
      simp only [Bool.and_eq_true, decide_eq_true_eq] at hpaths
      exact hpaths.2 (hopen.paths hpaths.1)
  · simp [ApduHeader.isFirst, hextend, hsplit]

/-- The command a first piece with a path starts. -/
def Command.ofPath (instruction : InstructionCode) (p1 : UInt8) (levels : List UInt32) : Command :=
  { Command.start ⟨instruction, p1, 0, none, false⟩ .payloadInProgress with
    numDerivationPaths := 1, derivationPath := levels }

theorem open_ofPath (levels : List UInt32) :
    (Command.ofPath instruction p1 levels).Open instruction p1 := ⟨rfl, rfl, rfl, rfl, fun _ => rfl⟩

/-- **A first piece** starts over, with the path in front of it. -/
theorem apduHandleMessage_first (hins : InstructionCode.ofByte ins = some instruction)
    (hcurrent : instruction.isDeprecated = false)
    (hsplit : splitAllowedForInstruction instruction = true)
    (hpaths : instructionWithDerivationPathInFirstApdu instruction = true)
    (hfirst : p2 &&& p2Extend = 0) (path : DerivationPath) (piece : List UInt8)
    (hdata : (1 :: (path.pack ++ piece)).length ≤ 255) (command : Command) :
    apduHandleMessage maxLength (exchangeApdu ins p1 p2 (1 :: (path.pack ++ piece))) command
      = if piece.length < maxLength then
          .ok ((Command.ofPath instruction p1 path.levels).after p2 piece)
        else .error .solanaInvalidMessageSize := by
  have hpayload : instructionWithoutPayload instruction = false := by
    cases instruction <;> first | rfl | cases hsplit
  have hne : instruction ≠ .getPubkey := fun h => by
    rw [h] at hsplit
    cases hsplit
  have hheader := @parseApduHeader_exchangeApdu instruction ins p1 p2 _ hins hcurrent hdata
  rw [if_neg (List.cons_ne_nil _ _)] at hheader
  have hisFirst : ∀ data, ApduHeader.isFirst ⟨instruction, p1, p2, data, false⟩ = true :=
    fun data => by simp [ApduHeader.isFirst, hfirst]
  have htake : takeDerivationPath ⟨instruction, p1, p2, some (1 :: (path.pack ++ piece)), false⟩
      = .ok (path.levels, piece) := by
    simp only [takeDerivationPath, Bool.not_false, Bool.true_and, decide_eq_true hne, if_true]
    change (readDerivationPath (some (path.pack ++ piece)) >>= _) = _
    rw [path.readDerivationPath_pack]
    change Except.ok (path.levels, (path.pack ++ piece).drop _) = _
    rw [← path.length_pack, List.drop_left]
  rw [apduHandleMessage_eq hheader hpayload, ApduHeader.open, if_pos (hisFirst _),
    ApduHeader.takePath, hisFirst, hpaths, Bool.and_self, if_pos rfl, htake]
  refine (@close_eq instruction p1 p2 _ (Command.ofPath instruction p1 path.levels) maxLength
    hcurrent piece).trans ?_
  rw [show (Command.ofPath instruction p1 path.levels).message.length + piece.length = piece.length
    from Nat.zero_add _]

end

/-! ## Delivery -/

section

variable {env : Env} {instruction : InstructionCode} {ins p1 mark : UInt8} {events : List Event}
  {bytes : List UInt8} {memory : Bool} {frame : ℕ → Hash}

theorem forall₂_brings (apdus : List (List UInt8)) :
    List.Forall₂ Event.Brings apdus (apdus.map .plain) :=
  List.forall₂_map_right_iff.mpr (List.forall₂_same.mpr fun _ _ => rfl)

theorem getLast?_plain {apdus : List (List UInt8)} {apdu : List UInt8}
    (h : apdus.getLast? = some apdu) :
    (apdus.map Event.plain).getLast? = some (.apdu apdu true fun _ => Block.zero 32) := by
  rw [List.getLast?_map, h]
  rfl

theorem react_of_brings {app : App} {e : Event} {apdu : List UInt8} (h : e.Brings apdu)
    (hne : apdu ≠ []) : ∃ memory frame, e = .apdu apdu memory frame ∧
      app.react env e = handleApdu env frame memory apdu app := by
  rcases e with ⟨bytes, memory, frame⟩ | _ | _
  · obtain rfl : bytes = apdu := h
    exact ⟨memory, frame, rfl, by rw [App.react, if_neg (by simp [hne])]⟩
  · exact h.elim
  · exact h.elim

theorem exchangeApdu_ne_nil (ins p1 p2 : UInt8) (data : List UInt8) :
    exchangeApdu ins p1 p2 data ≠ [] := List.cons_ne_nil _ _

/-- What a delivered piece does. -/
theorem react_piece {app : App} {e : Event} {apdu piece : List UInt8} {p2 : UInt8}
    {command : Command} (h : e.Brings apdu) (hne : apdu ≠ [])
    (hpiece : apduHandleMessage (maxMessageLength env.usbSegmentSize) apdu app.command
      = if command.message.length + piece.length < maxMessageLength env.usbSegmentSize
        then .ok (command.after p2 piece) else .error .solanaInvalidMessageSize)
    (hcommand : command.state = .payloadInProgress) (hmore : p2 &&& p2More ≠ 0) :
    app.react env e
      = if command.message.length + piece.length < maxMessageLength env.usbSegmentSize
        then (.status .success, { app with command := command.take piece })
        else (.status .solanaInvalidMessageSize, { app with command := .clear }) := by
  obtain ⟨memory, frame, rfl, hreact⟩ := @react_of_brings env app e apdu h hne
  rw [hreact, handleApdu, hpiece]
  by_cases hfits : command.message.length + piece.length < maxMessageLength env.usbSegmentSize
  · rw [if_pos hfits, if_pos hfits, Command.after, if_neg hmore]
    simp only [handleCommand, Command.take, hcommand]
    rfl
  · rw [if_neg hfits, if_neg hfits]
    rfl

/-- What the last piece does. -/
theorem react_last {app : App} {apdu piece : List UInt8} {p2 : UInt8} {command : Command}
    (hne : apdu ≠ [])
    (hpiece : apduHandleMessage (maxMessageLength env.usbSegmentSize) apdu app.command
      = if command.message.length + piece.length < maxMessageLength env.usbSegmentSize
        then .ok (command.after p2 piece) else .error .solanaInvalidMessageSize)
    (hmore : p2 &&& p2More = 0) :
    app.react env (.apdu apdu memory frame)
      = if command.message.length + piece.length < maxMessageLength env.usbSegmentSize
        then handleCommand env frame memory { app with
          command := (command.take piece).complete (p2 &&& p2IsAtaOrTokenAccount ≠ 0) }
        else (.status .solanaInvalidMessageSize, { app with command := .clear }) := by
  rw [App.react, if_neg (by simp [hne]), handleApdu, hpiece]
  by_cases hfits : command.message.length + piece.length < maxMessageLength env.usbSegmentSize
  · rw [if_pos hfits, if_pos hfits, Command.after, if_pos hmore]
  · rw [if_neg hfits, if_neg hfits]
    rfl

/-- **The app handles the command of all the events**: each but the last is answered `success`. -/
inductive App.Delivers (env : Env) : App → List Event → Outcome × App → Prop
  | last {app : App} {e : Event} (hrun : app.running = true) :
      Delivers env app [e] (app.react env e)
  | more {app app' : App} {e e' : Event} {es : List Event} {r : Outcome × App}
      (hrun : app.running = true) (h : app.react env e = (.status .success, app'))
      (hrun' : app'.running = true) (hes : Delivers env app' (e' :: es) r) :
      Delivers env app (e :: e' :: es) r

namespace App.Delivers

variable {app app' : App} {e : Event} {r : Outcome × App}

theorem step_eq (hrun : app.running = true) (h : app.react env e = (.status .success, app'))
    (hrun' : app'.running = true) : app.step env e = app' := by
  rw [step_of_running hrun, h]
  change { app' with running := true } = app'
  rw [← hrun']

/-- The client sends all of them. -/
theorem exchange_eq (h : app.Delivers env events r) : app.exchange env events = r := by
  induction h with
  | last hrun => rfl
  | more hrun h hrun' hes ih =>
      rw [App.exchange, h, step_eq hrun h hrun']
      exact (if_pos rfl).trans ih

/-- **The exchange is a run** over all of them. -/
theorem final_eq (h : app.Delivers env events r) :
    Run.final (App.step env) app events = { r.2 with running := r.1.returns } := by
  induction h with
  | last hrun => exact step_of_running hrun _
  | more hrun h hrun' hes ih => rw [Run.final_cons, step_eq hrun h hrun', ih]

end App.Delivers

theorem exchange_of_success {app app' : App} {e e' : Event} {es : List Event}
    (hrun : app.running = true) (h : app.react env e = (.status .success, app'))
    (hrun' : app'.running = true) :
    app.exchange env (e :: e' :: es) = app'.exchange env (e' :: es) := by
  rw [App.exchange, h, App.Delivers.step_eq hrun h hrun']
  exact if_pos rfl

theorem exchange_of_refusal {app app' : App} {e : Event} {es : List Event} {sw : ApduReply}
    (hsw : sw ≠ .success) (h : app.react env e = (.status sw, app')) :
    app.exchange env (e :: es) = (.status sw, app') := by
  rcases es with _ | ⟨e', es⟩
  · exact h
  · rw [App.exchange, h]
    exact if_neg fun hsuccess => hsw (Outcome.status.inj hsuccess)

/-- **What comes of sending a command in pieces**: where the message fits, it is delivered; else one
of the pieces is refused, and the command forgotten. -/
structure App.Takes (env : Env) (app : App) (events : List Event) (message : List UInt8)
    (r : Outcome × App) : Prop where
  delivers : message.length < maxMessageLength env.usbSegmentSize → app.Delivers env events r
  refuses : ¬message.length < maxMessageLength env.usbSegmentSize →
    app.exchange env events = (.status .solanaInvalidMessageSize, { app with command := .clear })

/-- What comes of a piece, and of those behind it. -/
theorem takes_cons {app : App} {e e' : Event} {es : List Event} {command : Command}
    {piece message : List UInt8} {r : Outcome × App} (hrun : app.running = true)
    (hreact : app.react env e
      = if command.message.length + piece.length < maxMessageLength env.usbSegmentSize
        then (.status .success, { app with command := command.take piece })
        else (.status .solanaInvalidMessageSize, { app with command := .clear }))
    (hlong : command.message.length + piece.length ≤ message.length)
    (hrest : { app with command := command.take piece }.Takes env (e' :: es) message r) :
    app.Takes env (e :: e' :: es) message r := by
  refine ⟨fun hfits => ?_, fun hlarge => ?_⟩
  · rw [if_pos (by omega)] at hreact
    exact .more hrun hreact hrun (hrest.delivers hfits)
  · by_cases hfits : command.message.length + piece.length < maxMessageLength env.usbSegmentSize
    · rw [if_pos hfits] at hreact
      rw [exchange_of_success hrun hreact hrun]
      exact hrest.refuses hlarge
    · rw [if_neg hfits] at hreact
      exact exchange_of_refusal (by decide) hreact

/-- What comes of the last piece. -/
theorem takes_last {app : App} {e : Event} {command : Command} {piece message : List UInt8}
    {r : Outcome × App} (hrun : app.running = true)
    (hreact : app.react env e
      = if command.message.length + piece.length < maxMessageLength env.usbSegmentSize
        then r else (.status .solanaInvalidMessageSize, { app with command := .clear }))
    (hmessage : message.length = command.message.length + piece.length) :
    app.Takes env [e] message r := by
  refine ⟨fun hfits => ?_, fun hlarge => ?_⟩
  · rw [if_pos (by omega)] at hreact
    exact hreact ▸ .last hrun
  · rw [if_neg (by omega)] at hreact
    exact hreact

theorem exists_cons_of_train {d : List UInt8} {rest : List (List UInt8)} {es : List Event}
    (h : List.Forall₂ Event.Brings (train ins p1 mark (d :: rest)) es) :
    ∃ e' es', es = e' :: es' := by
  rw [train_cons] at h
  obtain ⟨e', es', -, -, rfl⟩ := List.forall₂_cons_left_iff.mp h
  exact ⟨e', es', rfl⟩

/-- **The pieces behind the first one**, sent to a command that goes on with them. -/
theorem takes_train (hins : InstructionCode.ofByte ins = some instruction)
    (hcurrent : instruction.isDeprecated = false)
    (hsplit : splitAllowedForInstruction instruction = true) {ata : Bool}
    {rest : List (List UInt8)} (hrest : rest ≠ [])
    (hpieces : ∀ d ∈ rest, d ≠ [] ∧ d.length ≤ 255) {app : App} (hrun : app.running = true)
    (hopen : app.command.Open instruction p1)
    (hsent : List.Forall₂ Event.Brings (train ins p1 (ataBit ata) rest) events)
    (hlast : events.getLast? = some (.apdu bytes memory frame)) :
    app.Takes env events (app.command.message ++ rest.flatten) (handleCommand env frame memory
      { app with command := (app.command.take rest.flatten).complete ata }) := by
  induction rest generalizing app events with
  | nil => exact absurd rfl hrest
  | cons d rest ih =>
      obtain ⟨hne, hlength⟩ := hpieces d List.mem_cons_self
      rw [train_cons] at hsent
      obtain ⟨e, es, he, hes, rfl⟩ := List.forall₂_cons_left_iff.mp hsent
      have hpiece := fun p2 (hextend : p2 &&& p2Extend ≠ 0) =>
        @apduHandleMessage_extend instruction ins p1 p2 d app.command
          (maxMessageLength env.usbSegmentSize) hins hcurrent hsplit hextend hopen hne hlength
      rcases rest with _ | ⟨d', rest⟩
      · obtain rfl := List.forall₂_nil_left_iff.mp hes
        obtain rfl : e = .apdu bytes memory frame := Option.some.inj hlast
        obtain rfl : bytes = _ := he
        have hreact := @react_last env memory frame app _ d (p2Extend ||| ataBit ata) app.command
          (exchangeApdu_ne_nil _ _ _ _) (hpiece _ (by cases ata <;> decide))
          (by cases ata <;> decide)
        have hata : decide ((p2Extend ||| ataBit ata) &&& p2IsAtaOrTokenAccount ≠ 0) = ata := by
          cases ata <;> decide
        rw [hata] at hreact
        rw [List.flatten_singleton]
        exact takes_last hrun hreact List.length_append
      · rw [if_neg (by simp)] at he
        obtain ⟨e', es, rfl⟩ := exists_cons_of_train hes
        have hnext := @ih (e' :: es) (List.cons_ne_nil _ _)
          (fun d hd => hpieces d (List.mem_cons_of_mem _ hd))
          { app with command := app.command.take d } hrun (hopen.take d) hes hlast
        refine takes_cons hrun (@react_piece env app e _ d (p2More ||| p2Extend ||| ataBit ata)
          app.command he (exchangeApdu_ne_nil _ _ _ _) (hpiece _ (by cases ata <;> decide))
          hopen.state (by cases ata <;> decide)) (by simp) ?_
        simpa only [Command.take, List.flatten_cons, List.append_assoc] using hnext

/-- A whole request: the first piece, and those behind it. -/
theorem takes_sendPieces (hins : InstructionCode.ofByte ins = some instruction)
    (hcurrent : instruction.isDeprecated = false)
    (hsplit : splitAllowedForInstruction instruction = true) {ata : Bool} {command : Command}
    {first piece : List UInt8} {rest : List (List UInt8)} {app : App} (hrun : app.running = true)
    (hfirst : ∀ p2, p2 &&& p2Extend = 0 →
      apduHandleMessage (maxMessageLength env.usbSegmentSize) (exchangeApdu ins p1 p2 first)
          app.command
        = if command.message.length + piece.length < maxMessageLength env.usbSegmentSize
          then .ok (command.after p2 piece) else .error .solanaInvalidMessageSize)
    (hopen : command.Open instruction p1)
    (hpieces : ∀ d ∈ rest, d ≠ [] ∧ d.length ≤ 255)
    (hsent : List.Forall₂ Event.Brings (sendPieces ins p1 (ataBit ata) first rest) events)
    (hlast : events.getLast? = some (.apdu bytes memory frame)) :
    app.Takes env events (command.message ++ (piece ++ rest.flatten))
      (handleCommand env frame memory
        { app with command := (command.take (piece ++ rest.flatten)).complete ata }) := by
  obtain ⟨e, es, he, hes, rfl⟩ := List.forall₂_cons_left_iff.mp hsent
  rcases rest with _ | ⟨d, rest⟩
  · obtain rfl := List.forall₂_nil_left_iff.mp hes
    obtain rfl : e = .apdu bytes memory frame := Option.some.inj hlast
    obtain rfl : bytes = _ := he
    have hreact := @react_last env memory frame app _ piece (ataBit ata) command
      (exchangeApdu_ne_nil _ _ _ _) (hfirst _ (by cases ata <;> decide))
      (by cases ata <;> decide)
    have hata : decide (ataBit ata &&& p2IsAtaOrTokenAccount ≠ 0) = ata := by
      cases ata <;> decide
    rw [hata] at hreact
    rw [List.flatten_nil, List.append_nil]
    exact takes_last hrun hreact List.length_append
  · obtain ⟨e', es, rfl⟩ := exists_cons_of_train hes
    rw [if_neg (by simp)] at he
    have hnext := @takes_train env instruction ins p1 (e' :: es) bytes memory frame hins hcurrent
      hsplit ata (d :: rest) (List.cons_ne_nil _ _) hpieces
      { app with command := command.take piece } hrun (hopen.take piece) hes hlast
    refine takes_cons hrun (@react_piece env app e _ piece p2More command he
      (exchangeApdu_ne_nil _ _ _ _) (hfirst _ (by decide)) hopen.state (by decide))
      (by simp) ?_
    simpa only [Command.take, List.append_assoc] using hnext

/-- The instructions whose first piece brings the path of the key, and whose message may be cut. -/
def InstructionCode.signs : InstructionCode → Bool
  | .signMessage | .signOffchainMessage | .signMessagePreview | .signMessageDelayed => true
  | _ => false

/-- The complete command of a request to sign. -/
def Command.request (instruction : InstructionCode) (path : DerivationPath) (ata : Bool)
    (message : List UInt8) : Command :=
  ((Command.ofPath instruction 1 path.levels).take message).complete ata

theorem signs_cases (hsigns : instruction.signs = true) : instruction.isDeprecated = false ∧
    splitAllowedForInstruction instruction = true ∧
      instructionWithDerivationPathInFirstApdu instruction = true := by
  cases instruction <;> first | exact ⟨rfl, rfl, rfl⟩ | cases hsigns

/-- A request whose first piece is the path and the start of the message. -/
theorem takes_request (hins : InstructionCode.ofByte ins = some instruction)
    (hsigns : instruction.signs = true) (path : DerivationPath) {piece : List UInt8}
    {rest : List (List UInt8)} {ata : Bool} {app : App} (hrun : app.running = true)
    (hfirst : (1 :: (path.pack ++ piece)).length ≤ 255)
    (hpieces : ∀ d ∈ rest, d ≠ [] ∧ d.length ≤ 255)
    (hsent : List.Forall₂ Event.Brings
      (sendPieces ins 1 (ataBit ata) (1 :: (path.pack ++ piece)) rest) events)
    (hlast : events.getLast? = some (.apdu bytes memory frame)) :
    app.Takes env events (piece ++ rest.flatten) (handleCommand env frame memory
      { app with command := Command.request instruction path ata (piece ++ rest.flatten) }) := by
  obtain ⟨hcurrent, hsplit, hpaths⟩ := signs_cases hsigns
  have hzero : (Command.ofPath instruction 1 path.levels).message.length = 0 := rfl
  refine @takes_sendPieces env instruction ins 1 events bytes memory frame hins hcurrent hsplit ata
    _ _ piece rest app hrun (fun p2 hp2 => ?_) (open_ofPath path.levels) hpieces hsent hlast
  rw [apduHandleMessage_first hins hcurrent hsplit hpaths hp2 path piece hfirst, hzero,
    Nat.zero_add]

/-- **A request to sign is delivered whole**, whichever client sends it and whatever the app was
doing: it handles the command with the path and the message that were asked for, or refuses a
message that it cannot hold and forgets the command. -/
theorem takes_signRequest (hins : InstructionCode.ofByte ins = some instruction)
    (hsigns : instruction.signs = true) (path : DerivationPath) (message : List UInt8) (ata : Bool)
    {app : App} (hrun : app.running = true) {apdus : List (List UInt8)}
    (hclient : apdus = sendAsyncSignRequest ins path.pack message ata ∨
      ata = false ∧ apdus = solanaSend ins 1 ([1] ++ path.pack ++ message))
    (hsent : List.Forall₂ Event.Brings apdus events)
    (hlast : events.getLast? = some (.apdu bytes memory frame)) :
    app.Takes env events message (handleCommand env frame memory
      { app with command := Command.request instruction path ata message }) := by
  have hpack := path.length_pack_le
  rcases hclient with rfl | ⟨rfl, rfl⟩
  · rw [sendAsyncSignRequest_eq] at hsent
    have hrequest := @takes_request env instruction ins events bytes memory frame hins hsigns
      path [] (chunksOf message) ata app hrun (by rw [List.append_nil, List.length_cons]; omega)
      (fun d hd => length_of_mem_chunksOf hd) (by rwa [List.append_nil]) hlast
    rwa [List.nil_append, flatten_chunksOf] at hrequest
  · have hne : [1] ++ path.pack ++ message ≠ [] := List.cons_ne_nil _ _
    have hcut : ([1] ++ path.pack ++ message).take maxChunkSize
        = 1 :: (path.pack ++ message.take (maxChunkSize - (path.pack.length + 1))) := by
      rw [List.append_assoc, List.singleton_append, List.take_cons (by decide), List.take_append,
        List.take_of_length_le (by unfold maxChunkSize; omega), Nat.sub_sub, Nat.add_comm 1]
    have hbehind : ([1] ++ path.pack ++ message).drop maxChunkSize
        = message.drop (maxChunkSize - (path.pack.length + 1)) := by
      rw [List.drop_append, List.drop_eq_nil_of_le (by
        rw [List.length_append, List.length_singleton]; unfold maxChunkSize; omega),
        List.nil_append, List.length_append, List.length_singleton, Nat.add_comm 1]
    rw [solanaSend_eq_exchangeSplit, exchangeSplit_eq ins 1 hne, hcut, hbehind] at hsent
    have hrequest := @takes_request env instruction ins events bytes memory frame hins hsigns
      path _ _ false app hrun (by
        rw [List.length_cons, List.length_append, List.length_take]
        unfold maxChunkSize
        omega) (fun d hd => length_of_mem_chunksOf hd) hsent hlast
    rwa [flatten_chunksOf, List.take_append_drop] at hrequest

/-- The path `m/44'/501'`. -/
def DerivationPath.plain : DerivationPath := ⟨[harden 44, harden 501], rfl, by decide⟩

/-- What takes two pieces to send. -/
def longPayload : List UInt8 := List.replicate 300 7

theorem getLast?_longRequest :
    (sendAsyncSignRequest 0x06 DerivationPath.plain.pack longPayload true).getLast?
      = some (exchangeApdu 0x06 1 9 (List.replicate 45 7)) := by
  decide +kernel

theorem takes_signRequest_plain :
    dashboardApp.exchange signingEnv
        ((sendAsyncSignRequest 0x06 DerivationPath.plain.pack longPayload true).map .plain)
      = handleCommand signingEnv (fun _ => Block.zero 32) true
        { dashboardApp with command := Command.request .signMessage .plain true longPayload } :=
  ((takes_signRequest rfl rfl .plain longPayload true rfl (.inl rfl) (forall₂_brings _)
    (getLast?_plain getLast?_longRequest)).delivers (by decide +kernel)).exchange_eq

/-- The instructions whose payload is a descriptor without a path, and may be cut. -/
def InstructionCode.provides : InstructionCode → Bool
  | .trustedInfoProvideInfo | .trustedInfoProvideDynamicDescriptor => true
  | _ => false

/-- The complete command of a payload without a path. -/
def Command.ofPayload (instruction : InstructionCode) (p1 : UInt8) (payload : List UInt8) :
    Command :=
  ((Command.start ⟨instruction, p1, 0, none, false⟩ .payloadInProgress).take payload).complete false

/-- A first piece without a path starts over. -/
theorem apduHandleMessage_firstOfPayload (hins : InstructionCode.ofByte ins = some instruction)
    (hprovides : instruction.provides = true) {p2 : UInt8} (hfirst : p2 &&& p2Extend = 0)
    {piece : List UInt8} (hne : piece ≠ []) (hdata : piece.length ≤ 255) {maxLength : ℕ}
    (command : Command) :
    apduHandleMessage maxLength (exchangeApdu ins p1 p2 piece) command
      = if piece.length < maxLength then
          .ok ((Command.start ⟨instruction, p1, 0, none, false⟩ .payloadInProgress).after p2 piece)
        else .error .solanaInvalidMessageSize := by
  have hkind : instruction.isDeprecated = false ∧ instructionWithoutPayload instruction = false ∧
      instructionWithDerivationPathInFirstApdu instruction = false := by
    cases instruction <;> first | exact ⟨rfl, rfl, rfl⟩ | cases hprovides
  have hheader := @parseApduHeader_exchangeApdu instruction ins p1 p2 piece hins hkind.1 hdata
  rw [if_neg hne] at hheader
  rw [apduHandleMessage_eq hheader hkind.2.1, ApduHeader.open, if_pos (by
    simp [ApduHeader.isFirst, hfirst]), ApduHeader.takePath, hkind.2.2, Bool.false_and]
  refine (@close_eq instruction p1 p2 piece
    (Command.start ⟨instruction, p1, 0, none, false⟩ .payloadInProgress) maxLength hkind.1
    piece).trans ?_
  rw [show (Command.start ⟨instruction, p1, 0, none, false⟩ .payloadInProgress).message.length
    + piece.length = piece.length from Nat.zero_add _]

/-- **So is a descriptor of any length** that the tests' client sends in pieces. -/
theorem takes_exchangeSplit (hins : InstructionCode.ofByte ins = some instruction)
    (hprovides : instruction.provides = true) {payload : List UInt8} (hne : payload ≠ [])
    {app : App} (hrun : app.running = true)
    (hsent : List.Forall₂ Event.Brings (exchangeSplit ins p1 payload) events)
    (hlast : events.getLast? = some (.apdu bytes memory frame)) :
    app.Takes env events payload (handleCommand env frame memory
      { app with command := Command.ofPayload instruction p1 payload }) := by
  have hkind : instruction.isDeprecated = false ∧ splitAllowedForInstruction instruction = true ∧
      instructionWithDerivationPathInFirstApdu instruction = false := by
    cases instruction <;> first | exact ⟨rfl, rfl, rfl⟩ | cases hprovides
  have hpos : 0 < payload.length := List.length_pos_iff.mpr hne
  have hfirst : payload.take maxChunkSize ≠ [] ∧ (payload.take maxChunkSize).length ≤ 255 := by
    refine ⟨List.ne_nil_of_length_pos ?_, ?_⟩ <;> rw [List.length_take] <;>
      unfold maxChunkSize <;> omega
  have hzero : (Command.start ⟨instruction, p1, 0, none, false⟩ .payloadInProgress).message.length
      = 0 := rfl
  rw [exchangeSplit_eq ins p1 hne] at hsent
  have htakes := @takes_sendPieces env instruction ins p1 events bytes memory frame hins hkind.1
    hkind.2.1 false (Command.start ⟨instruction, p1, 0, none, false⟩ .payloadInProgress) _
    (payload.take maxChunkSize) _ app hrun (fun p2 hp2 => by
      rw [apduHandleMessage_firstOfPayload hins hprovides hp2 hfirst.1 hfirst.2, hzero,
        Nat.zero_add])
    ⟨rfl, rfl, rfl, rfl, fun h => absurd (hkind.2.2.symm.trans h) Bool.false_ne_true⟩
    (fun d hd => length_of_mem_chunksOf hd) hsent hlast
  rwa [flatten_chunksOf, List.take_append_drop] at htakes

theorem getLast?_longSplit :
    (exchangeSplit 0x21 0 longPayload).getLast?
      = some (exchangeApdu 0x21 0 1 (List.replicate 45 7)) := by
  decide +kernel

theorem takes_exchangeSplit_plain :
    dashboardApp.exchange signingEnv ((exchangeSplit 0x21 0 longPayload).map .plain)
      = handleCommand signingEnv (fun _ => Block.zero 32) true
        { dashboardApp with command := Command.ofPayload .trustedInfoProvideInfo 0 longPayload } :=
  ((takes_exchangeSplit rfl rfl (by decide +kernel) rfl (forall₂_brings _)
    (getLast?_plain getLast?_longSplit)).delivers (by decide +kernel)).exchange_eq

end

end AgencLedger
