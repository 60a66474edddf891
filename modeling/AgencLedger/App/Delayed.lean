import AgencLedger.App.Stores
import AgencLedger.Sol.RoundTrip

/-!
# App/Delayed — a delayed signature is that of an approved preview

The fingerprint of a preview is a hash of the message with its blockhash zeroed.  The keys in front
of the blockhash tell where it stands, so two messages with one fingerprint differ in their
blockhashes only.  A fingerprint is there only from the approval of its preview on, and up to the
next command.
-/

namespace AgencLedger

open Input

/-! ## The blockhash field -/

/-- The version is told by the first byte. -/
theorem parseVersion_cons (n : ℕ) (b : UInt8) (rest : List UInt8) :
    parseVersion ⟨n, b :: rest⟩ =
      if b &&& 0x80 ≠ 0 then .ok ((true, b &&& 0x7f), ⟨n + 1, rest⟩)
      else .ok ((false, 0), ⟨n, b :: rest⟩) := rfl

/-- Behind the version, the blockhash is free: what stands in front of it and behind it does not
depend on it. -/
theorem headerRestAt_split {version : Bool × UInt8} {n : ℕ} {header : MessageHeader}
    {w : List UInt8} (h : headerRestAt version n header w) :
    ∃ before after, before ≠ [] ∧ w = before ++ (header.blockhash.val.data ++ after) ∧
      header.blockhash.addr = n + before.length ∧
      ∀ block : Block 32, ∃ header', header'.blockhash.addr = n + before.length ∧
        headerRestAt version n header' (before ++ (block.data ++ after)) := by
  obtain ⟨counts, u, v, rfl, hcounts, h⟩ := h
  simp only [Grammar.check_seq] at h
  obtain ⟨hsigners, hsigned, hunsigned, keys, us, v, rfl, hkeys, blockhash, ub, v, rfl, hblockhash,
    h⟩ := h
  obtain ⟨instructionsLength, rfl, hlength⟩ := (Grammar.seq_pure _ _).mp h
  have hu : u ≠ [] := by
    obtain ⟨_, u₁, u₂, rfl, hu₁, -⟩ := hcounts
    rintro hnil
    obtain ⟨rfl, -⟩ := List.append_eq_nil_iff.mp hnil
    cases hu₁
  refine ⟨u ++ us, v, by simp [hu], ?_, ?_, fun block => ?_⟩
  · rw [List.append_assoc, hblockhash.2]
  · rw [hblockhash.1, List.length_append, Nat.add_assoc]
  · refine ⟨⟨version.1, version.2, counts, keys.val, ⟨n + u.length + us.length, block⟩,
      instructionsLength, counts.size_keys keys⟩, ?_, ?_⟩
    · rw [List.length_append, Nat.add_assoc]
    · rw [List.append_assoc]
      refine ⟨counts, u, _, rfl, hcounts, ?_⟩
      simp only [Grammar.check_seq]
      refine ⟨hsigners, hsigned, hunsigned, keys, us, _, rfl, hkeys, ⟨_, block⟩, block.data, v, rfl,
        ⟨rfl, rfl⟩, ?_⟩
      exact (Grammar.seq_pure _ _).mpr ⟨instructionsLength, rfl, hlength⟩

/-- **The header in front of the blockhash tells where it stands**, whatever the blockhash is. -/
theorem parseMessageHeader_split {message : List UInt8} {header : MessageHeader} {rest : Parser}
    (h : parseMessageHeader ⟨0, message⟩ = .ok (header, rest)) :
    ∃ before after, message = before ++ (header.blockhash.val.data ++ after) ∧
      header.blockhash.addr = before.length ∧
      ∀ block : Block 32, ∃ header' rest',
        parseMessageHeader ⟨0, before ++ (block.data ++ after)⟩ = .ok (header', rest') ∧
          header'.blockhash.addr = before.length := by
  rw [parseMessageHeader_eq, Result.step_seq_ok_iff] at h
  obtain ⟨version, p, hversion, h⟩ := h
  obtain ⟨w, ⟨hw, -⟩, hg⟩ := (accepts_parseHeaderRest version _ _ _).mp h
  obtain ⟨before, after, hnil, rfl, haddr, hblock⟩ := headerRestAt_split hg
  have hw : p.buffer = before ++ (header.blockhash.val.data ++ after) ++ rest.buffer := hw
  rcases message with _ | ⟨b, tail⟩
  · cases hversion
  rw [parseVersion_cons] at hversion
  split at hversion
  · rename_i hb
    cases hversion
    have hw : tail = before ++ (header.blockhash.val.data ++ after) ++ rest.buffer := hw
    have haddr : header.blockhash.addr = 1 + before.length := haddr
    refine ⟨b :: before, after ++ rest.buffer, by simp [hw], by simp [haddr, Nat.add_comm],
      fun block => ?_⟩
    obtain ⟨header', haddr', hg'⟩ := hblock block
    obtain ⟨rest', hrest'⟩ : ∃ rest', parseHeaderRest (true, b &&& 0x7f)
        ⟨1, before ++ (block.data ++ after) ++ rest.buffer⟩ = .ok (header', rest') :=
      ⟨_, (accepts_parseHeaderRest _).parse hg'⟩
    refine ⟨header', rest', ?_, haddr'.trans (Nat.add_comm 1 before.length)⟩
    rw [parseMessageHeader_eq, Result.step_seq_ok_iff]
    refine ⟨(true, b &&& 0x7f), _, ?_, hrest'⟩
    rw [List.cons_append, parseVersion_cons, if_pos hb]
    simp only [List.append_assoc]
  · rename_i hb
    cases hversion
    have hw : b :: tail = before ++ (header.blockhash.val.data ++ after) ++ rest.buffer := hw
    have haddr : header.blockhash.addr = 0 + before.length := haddr
    rw [Nat.zero_add] at haddr
    refine ⟨before, after ++ rest.buffer, by simpa using hw, haddr, fun block => ?_⟩
    obtain ⟨header', haddr', hg'⟩ := hblock block
    obtain ⟨rest', hrest'⟩ : ∃ rest', parseHeaderRest (false, 0)
        ⟨0, before ++ (block.data ++ after) ++ rest.buffer⟩ = .ok (header', rest') :=
      ⟨_, (accepts_parseHeaderRest _).parse hg'⟩
    refine ⟨header', rest', ?_, haddr'.trans (Nat.zero_add before.length)⟩
    -- a legacy message has no byte of its own for the version
    obtain ⟨before', rfl⟩ : ∃ before', before = b :: before' := by
      rcases before with _ | ⟨c, before'⟩
      · exact absurd rfl hnil
      · exact ⟨before', by rw [(List.cons.inj hw).1]⟩
    rw [parseMessageHeader_eq, Result.step_seq_ok_iff]
    refine ⟨(false, 0), _, ?_, hrest'⟩
    rw [List.cons_append, parseVersion_cons, if_neg hb]
    simp only [List.cons_append, List.append_assoc]

/-! ## Fingerprints -/

/-- **Two messages are equal but for their blockhashes**: as long as each other, with the field at
one offset, equal in front of it and behind it. -/
def EqualButBlockhash (message message' : List UInt8) : Prop :=
  ∃ header rest header' rest', parseMessageHeader ⟨0, message⟩ = .ok (header, rest) ∧
    parseMessageHeader ⟨0, message'⟩ = .ok (header', rest') ∧
    message.length = message'.length ∧ header.blockhash.addr = header'.blockhash.addr ∧
    message.take header.blockhash.addr = message'.take header.blockhash.addr ∧
    message.drop (header.blockhash.addr + 32) = message'.drop (header.blockhash.addr + 32)

/-- The message with zeros for its blockhash. -/
def zeroedMessage (message : List UInt8) : Option (List UInt8) :=
  match parseMessageHeader ⟨0, message⟩ with
  | .error _ => none
  | .ok (header, _) =>
      some (message.take header.blockhash.addr ++ List.replicate 32 0
        ++ message.drop (header.blockhash.addr + 32))

/-- That is what is hashed. -/
theorem hashMessageWithZeroedBlockhash_eq_some {env : Env} {message : List UInt8}
    {hash : Block 64} : hashMessageWithZeroedBlockhash env message = some hash ↔
      ∃ zeroed, zeroedMessage message = some zeroed ∧ env.sha512 zeroed = some hash := by
  rcases hheader : parseMessageHeader ⟨0, message⟩ with _ | ⟨header, rest⟩ <;>
    simp [hashMessageWithZeroedBlockhash, zeroedMessage, hheader]

/-- It stands around the field that its own header tells. -/
theorem zeroedMessage_spec {message zeroed : List UInt8} (h : zeroedMessage message = some zeroed) :
    ∃ header rest before after, parseMessageHeader ⟨0, message⟩ = .ok (header, rest) ∧
      message = before ++ (header.blockhash.val.data ++ after) ∧
      header.blockhash.addr = before.length ∧ zeroed = before ++ ((Block.zero 32).data ++ after) ∧
      ∃ header' rest', parseMessageHeader ⟨0, zeroed⟩ = .ok (header', rest') ∧
        header'.blockhash.addr = before.length := by
  unfold zeroedMessage at h
  split at h
  · cases h
  rename_i header rest hheader
  obtain ⟨before, after, hsplit, haddr, hblock⟩ := parseMessageHeader_split hheader
  have hsize : header.blockhash.val.data.length = 32 := header.blockhash.val.size
  have htake : message.take header.blockhash.addr = before := by
    rw [hsplit, haddr, List.take_left]
  have hdrop : message.drop (header.blockhash.addr + 32) = after := by
    rw [hsplit, haddr, ← List.append_assoc, List.drop_left' (by rw [List.length_append, hsize])]
  rw [htake, hdrop, List.append_assoc] at h
  obtain rfl := Option.some.inj h
  exact ⟨header, rest, before, after, hheader, hsplit, haddr, rfl, hblock (Block.zero 32)⟩

/-- **Messages that are one but for zeros in their blockhashes are equal but for their
blockhashes.** -/
theorem equalButBlockhash_of_zeroedMessage {message message' zeroed : List UInt8}
    (h : zeroedMessage message = some zeroed) (h' : zeroedMessage message' = some zeroed) :
    EqualButBlockhash message message' := by
  obtain ⟨header, rest, before, after, hheader, hsplit, haddr, hsame, field, _, hfield, hzero⟩ :=
    zeroedMessage_spec h
  obtain ⟨header', rest', before', after', hheader', hsplit', haddr', hsame', field', _, hfield',
    hzero'⟩ := zeroedMessage_spec h'
  -- the header of the common message tells where the fields of both stand
  have hlength : before.length = before'.length := by
    rw [hfield'] at hfield
    cases hfield
    exact hzero.symm.trans hzero'
  obtain ⟨rfl, hrest⟩ := List.append_inj (hsame.symm.trans hsame') hlength
  obtain ⟨-, rfl⟩ := List.append_inj hrest rfl
  have hsize : header.blockhash.val.data.length = 32 := header.blockhash.val.size
  have hsize' : header'.blockhash.val.data.length = 32 := header'.blockhash.val.size
  refine ⟨header, rest, header', rest', hheader, hheader', ?_, haddr.trans haddr'.symm, ?_, ?_⟩
  · rw [hsplit, hsplit']
    simp only [List.length_append, hsize, hsize']
  · rw [haddr, hsplit, hsplit', List.take_left, List.take_left]
  · rw [haddr, hsplit, hsplit', ← List.append_assoc, ← List.append_assoc,
      List.drop_left' (by rw [List.length_append, hsize]),
      List.drop_left' (by rw [List.length_append, hsize'])]

/-! ## Commands, approvals and signatures -/

/-- **A command is executed**: the event completes one. -/
def App.Executes (env : Env) (app : App) (event : Event) : Prop :=
  app.running = true ∧ ∃ bytes memory frame command instruction,
    event = .apdu bytes memory frame ∧ app.Completes env bytes command instruction

/-- **`handle_sign_message_delayed` signs a message** with a path. -/
structure App.SignsDelayed (env : Env) (app : App) (event : Event) (path : List UInt32)
    (message : List UInt8) : Prop where
  running : app.running = true
  command : ∃ bytes memory frame command, event = .apdu bytes memory frame ∧
    app.Completes env bytes command .signMessageDelayed
  signed : (app.step env event).signed = app.signed ++ [(path, message)]

/-- **The user approves the preview of a message** with a path. -/
structure App.ApprovesPreview (app : App) (event : Event) (path : List UInt32)
    (message : List UInt8) : Prop where
  running : app.running = true
  choice : ∃ memory, event = .choice true memory
  screen : app.screen = .review ⟨message, path, true⟩

/-- **The app takes the hash of a message**, with zeros for its blockhash: the user approves its
preview, or a delayed command brings it. -/
def App.TakesHash (env : Env) (app : App) (event : Event) (message : List UInt8) : Prop :=
  (∃ path, app.ApprovesPreview event path message) ∨
    ∃ bytes memory frame command, event = .apdu bytes memory frame ∧
      app.Completes env bytes command .signMessageDelayed ∧ command.message = message

/-- What is hashed in a run. -/
def App.Hashes (env : Env) (app : App) (events : List Event) (zeroed : List UInt8) : Prop :=
  ∃ before event after message, events = before ++ event :: after ∧
    (Run.final (App.step env) app before).TakesHash env event message ∧
    zeroedMessage message = some zeroed

/-- **The run hits no collision** of the hash. -/
def App.NoCollision (env : Env) (app : App) (events : List Event) : Prop :=
  ∀ zeroed zeroed' hash, app.Hashes env events zeroed → app.Hashes env events zeroed' →
    env.sha512 zeroed = some hash → env.sha512 zeroed' = some hash → zeroed = zeroed'

/-- No APDU is processed while a review is pending. -/
def App.Quiet (app : App) (event : Event) : Prop :=
  ∀ bytes memory frame reviewed, event = .apdu bytes memory frame → app.running = true →
    app.screen ≠ .review reviewed

section

variable {env : Env} {app : App} {event : Event}

theorem App.SignsDelayed.executes {path : List UInt32} {message : List UInt8}
    (h : app.SignsDelayed env event path message) : app.Executes env event := by
  obtain ⟨bytes, memory, frame, command, hevent, hcommand⟩ := h.command
  exact ⟨h.running, bytes, memory, frame, command, .signMessageDelayed, hevent, hcommand⟩

theorem App.Hashes.append {events : List Event} {zeroed : List UInt8}
    (h : app.Hashes env events zeroed) (later : List Event) :
    app.Hashes env (events ++ later) zeroed := by
  obtain ⟨before, event, after, message, rfl, htakes, hzeroed⟩ := h
  exact ⟨before, event, after ++ later, message, by simp, htakes, hzeroed⟩

/-- A run that hits no collision hits none on the way. -/
theorem App.NoCollision.of_append {events later : List Event}
    (h : app.NoCollision env (events ++ later)) : app.NoCollision env events :=
  fun zeroed zeroed' hash hhashes hhashes' =>
    h zeroed zeroed' hash (hhashes.append later) (hhashes'.append later)

/-- A quiet event disturbs no review. -/
theorem App.Quiet.reviewed_step (h : app.Quiet event) (hreviewed : app.Reviewed) :
    (app.step env event).Reviewed := by
  rcases hrun : app.running with _ | _
  · rw [step_of_not_running hrun]
    exact hreviewed
  · exact AgencLedger.reviewed_step hreviewed fun bytes memory frame reviewed hevent hscreen =>
      absurd hscreen (h bytes memory frame reviewed hevent hrun)

/-- **A command leaves no fingerprint.** -/
theorem previewState_dispatch (frame : ℕ → Hash) (memory : Bool) (instruction : InstructionCode) :
    (dispatch env frame memory (if instruction = .signMessageDelayed then app
      else app.clearPreviewState) instruction).2.previewState = none := by
  by_cases hdelayed : instruction = .signMessageDelayed
  · subst hdelayed
    exact (stores_handleSignMessageDelayed app).2.2
  rw [if_neg hdelayed]
  by_cases hdescriptor : instruction = .trustedInfoProvideInstructionDescriptor
  · subst hdescriptor
    exact (stores_handleProvideInstructionDescriptor app.clearPreviewState).2
  by_cases hinfo : instruction = .trustedInfoProvideInfo
  · subst hinfo
    exact (stores_handleProvideTrustedInfo app.clearPreviewState).2
  · exact (keepsStores_dispatch app.clearPreviewState hdelayed hdescriptor hinfo).previewState

theorem previewState_of_executes (h : app.Executes env event) :
    (app.step env event).previewState = none := by
  obtain ⟨hrun, bytes, memory, frame, command, instruction, rfl, hcommand⟩ := h
  rw [step_of_running hrun, react_apdu hcommand.nonempty, hcommand.handleApdu_eq]
  exact @previewState_dispatch env { app with command } frame memory instruction

/-- What `review_choice` makes of the fingerprint: an approved preview leaves its own. -/
theorem previewState_reviewChoice {memory confirm : Bool} {reviewed : CommandData}
    {preview : PreviewState}
    (h : (reviewChoice env memory confirm reviewed app).2.previewState = some preview) :
    (confirm = true ∧ app.command.isPreviewMode = true ∧
      app.command.derivationPath = preview.derivationPath ∧
      app.command.message.length = preview.messageLength ∧
      hashMessageWithZeroedBlockhash env app.command.message
        = some preview.messageHashWithZeroBlockhash) ∨ app.previewState = some preview := by
  unfold reviewChoice at h
  rcases confirm with _ | _
  · exact .inr h
  simp only [if_true] at h
  split at h
  · rename_i hmode
    unfold storePreviewFingerprint at h
    split at h
    · exact .inr h
    · split at h
      · cases h
      · rename_i hash hhash
        cases h
        exact .inl ⟨rfl, hmode, rfl, rfl, hhash⟩
  · split at h <;> exact .inr h

/-- **Where a fingerprint comes from**: an approved preview brings it; every other step keeps it at
most, and is not the execution of a command. -/
theorem approves_or_previewState {preview : PreviewState} (hreviewed : app.Reviewed)
    (h : (app.step env event).running = true ∧ (app.step env event).previewState = some preview) :
    (∃ message, app.ApprovesPreview event preview.derivationPath message ∧
      message.length = preview.messageLength ∧
      hashMessageWithZeroedBlockhash env message = some preview.messageHashWithZeroBlockhash) ∨
    (app.running = true ∧ app.previewState = some preview) ∧ ¬app.Executes env event := by
  obtain ⟨hrunning, hpreview⟩ := h
  have hexecutes : ¬app.Executes env event := fun h => by
    rw [previewState_of_executes h] at hpreview
    cases hpreview
  rcases hrun : app.running with _ | _
  · rw [step_of_not_running hrun, hrun] at hrunning
    cases hrunning
  rw [step_of_running hrun] at hpreview
  rcases event with ⟨bytes, memory, frame⟩ | ⟨confirm, memory⟩ | settings
  · refine .inr ⟨⟨rfl, ?_⟩, hexecutes⟩
    by_cases hbytes : bytes = []
    · subst hbytes
      exact hpreview
    rw [react_apdu hbytes] at hpreview
    rcases handleApdu_cases env frame memory app bytes
      with ⟨command, sw, hanswer⟩ | ⟨command, instruction, hok, hstate, hins, -⟩
    · rw [hanswer] at hpreview
      exact hpreview
    · exact absurd ⟨hrun, bytes, memory, frame, command, instruction, rfl, hbytes, hok, hstate,
        hins⟩ hexecutes
  · simp only [App.react, App.choose] at hpreview
    split at hpreview
    · rename_i reviewed hscreen
      rcases previewState_reviewChoice hpreview with ⟨rfl, hmode, hpath, hlength, hhash⟩ | hkept
      · obtain rfl := hreviewed.screen hrun reviewed hscreen
        refine .inl ⟨app.command.message, ⟨hrun, ⟨memory, rfl⟩, ?_⟩, hlength, hhash⟩
        rw [hscreen, Command.data, hmode, hpath]
      · exact .inr ⟨⟨rfl, hkept⟩, hexecutes⟩
    · refine .inr ⟨⟨rfl, ?_⟩, hexecutes⟩
      split at hpreview <;> exact hpreview
    · exact .inr ⟨⟨rfl, hpreview⟩, hexecutes⟩
  · exact .inr ⟨⟨rfl, hpreview⟩, hexecutes⟩

theorem verifyDelayedMessageMatchesPreview_success {command : Command} {preview : PreviewState}
    (h : verifyDelayedMessageMatchesPreview env command preview = .success) :
    command.message.length = preview.messageLength ∧
      command.derivationPath = preview.derivationPath ∧
      hashMessageWithZeroedBlockhash env command.message
        = some preview.messageHashWithZeroBlockhash := by
  unfold verifyDelayedMessageMatchesPreview at h
  split at h
  · cases h
  rename_i hlength
  split at h
  · cases h
  rename_i hpath
  split at h
  · cases h
  rename_i hash hhash
  split at h
  · cases h
  rename_i hsame
  rw [not_not.mp hlength, not_not.mp hpath, hhash, not_not.mp hsame]
  exact ⟨rfl, rfl, rfl⟩

/-- A delayed command signs its message, once it matches the fingerprint, or nothing. -/
theorem signed_handleSignMessageDelayed (app : App) :
    (handleSignMessageDelayed env app).2.signed = app.signed ∨
      (∃ preview, app.previewState = some preview ∧
        verifyDelayedMessageMatchesPreview env app.command preview = .success) ∧
      (handleSignMessageDelayed env app).2.signed
        = app.signed ++ [(app.command.derivationPath, app.command.message)] := by
  change (handleSignMessageDelayedInternal env app).2.signed = _ ∨
    _ ∧ (handleSignMessageDelayedInternal env app).2.signed = _
  unfold handleSignMessageDelayedInternal
  split
  · exact .inl rfl
  rename_i preview hpreview
  split
  · exact .inl rfl
  split
  · rename_i hsuccess
    refine .inr ⟨⟨preview, hpreview, hsuccess⟩, ?_⟩
    simp only
    split <;> rfl
  · exact .inl rfl

/-- **What a delayed command signs is hashed, and matches the fingerprint.** -/
theorem App.SignsDelayed.preview {path : List UInt32} {message : List UInt8}
    (h : app.SignsDelayed env event path message) :
    app.TakesHash env event message ∧
    ∃ preview, app.previewState = some preview ∧ message.length = preview.messageLength ∧
      path = preview.derivationPath ∧
      hashMessageWithZeroedBlockhash env message = some preview.messageHashWithZeroBlockhash := by
  obtain ⟨bytes, memory, frame, command, rfl, hcommand⟩ := h.command
  have hsigned := h.signed
  rw [step_of_running h.running, react_apdu hcommand.nonempty, hcommand.handleApdu_eq,
    if_pos rfl] at hsigned
  replace hsigned : (handleSignMessageDelayed env { app with command }).2.signed
    = app.signed ++ [(path, message)] := hsigned
  rcases @signed_handleSignMessageDelayed env { app with command }
    with hsame | ⟨⟨preview, hpreview, hsuccess⟩, hnew⟩
  · have hnil := List.append_right_eq_self.mp (hsigned.symm.trans hsame)
    cases hnil
  · have hpair := List.append_cancel_left (hsigned.symm.trans hnew)
    obtain ⟨rfl, rfl⟩ := Prod.mk.inj (List.singleton_inj.mp hpair)
    obtain ⟨hlength, hpath, hhash⟩ := verifyDelayedMessageMatchesPreview_success hsuccess
    exact ⟨.inr ⟨bytes, memory, frame, command, rfl, hcommand, rfl⟩, preview, hpreview, hlength,
      hpath, hhash⟩

end

/-! ## Runs -/

section

variable {env : Env} {calledFromSwap : Bool} {swap : SwapValidated} {settings : AppSettings}

/-- **A delayed signature is that of the last approved preview**, with no command in between. -/
theorem approval_of_signsDelayed {events : List Event} {event : Event}
    (hsha : (App.start env calledFromSwap swap settings).NoCollision env (events ++ [event]))
    (hquiet : Run.Guarded (App.step env) App.Quiet (.start env calledFromSwap swap settings) events)
    {path : List UInt32} {message : List UInt8}
    (h : (Run.final (App.step env) (.start env calledFromSwap swap settings) events).SignsDelayed
      env event path message) :
    ∃ before choice between previewed, events = before ++ choice :: between ∧
      (Run.final (App.step env) (.start env calledFromSwap swap settings) before).ApprovesPreview
        choice path previewed ∧
      EqualButBlockhash message previewed ∧
      Run.Guarded (App.step env) (fun app event => ¬app.Executes env event)
        (Run.final (App.step env) (.start env calledFromSwap swap settings) (before ++ [choice]))
        between := by
  obtain ⟨htakes, preview, hpreview, -, rfl, hhash⟩ := h.preview
  obtain ⟨before, choice, between, hevents, ⟨previewed, happroves, -, hhash'⟩, hbetween⟩ :=
    @Run.exists_origin_since App Event (App.step env) App.Quiet
      (.start env calledFromSwap swap settings) App.Reviewed
      (fun app => app.running = true ∧ app.previewState = some preview)
      (fun app event => ∃ message, app.ApprovesPreview event preview.derivationPath message ∧
        message.length = preview.messageLength ∧
        hashMessageWithZeroedBlockhash env message = some preview.messageHashWithZeroBlockhash)
      (fun app event => app.Executes env event)
      (fun _ _ hreviewed hok => hok.reviewed_step hreviewed)
      (fun _ _ hreviewed _ hstep => approves_or_previewState hreviewed hstep)
      (reviewed_start env calledFromSwap swap settings)
      (fun hstart => by cases hstart.2) events hquiet ⟨h.running, hpreview⟩
  obtain ⟨zeroed, hzeroed, hzero⟩ := hashMessageWithZeroedBlockhash_eq_some.mp hhash
  obtain ⟨zeroed', hzeroed', hzero'⟩ := hashMessageWithZeroedBlockhash_eq_some.mp hhash'
  obtain rfl : zeroed = zeroed' :=
    hsha zeroed zeroed' _ ⟨events, event, [], message, rfl, htakes, hzeroed⟩
      ⟨before, choice, between ++ [event], previewed, by simp [hevents], .inl ⟨_, happroves⟩,
        hzeroed'⟩ hzero hzero'
  refine ⟨before, choice, between, previewed, hevents, happroves,
    equalButBlockhash_of_zeroedMessage hzeroed hzeroed', ?_⟩
  rw [Run.final_append]
  exact hbetween

/-- An approval is no command. -/
theorem App.ApprovesPreview.ne {app app' : App} {event choice : Event} {path : List UInt32}
    {message : List UInt8} (h : app.ApprovesPreview choice path message)
    (h' : app'.Executes env event) : event ≠ choice := by
  obtain ⟨-, bytes, memory, frame, -, -, rfl, -⟩ := h'
  obtain ⟨memory', rfl⟩ := h.choice
  intro heq
  cases heq

/-- **Delayed signing is safe**, in every run that hits no collision of the hash and in which no
APDU comes while a review is pending: what a delayed command signs is, but for its blockhash, the
message of an approved preview with the same path, and no command was executed since; and between
two delayed signatures another preview was approved, so that each approval leads to one signature at
most. -/
theorem delayedSigning_safe {events : List Event}
    (hsha : (App.start env calledFromSwap swap settings).NoCollision env events)
    (hquiet : Run.Guarded (App.step env) App.Quiet (.start env calledFromSwap swap settings)
      events) :
    (∀ before event after path message, events = before ++ event :: after →
      (Run.final (App.step env) (.start env calledFromSwap swap settings) before).SignsDelayed env
        event path message →
      ∃ past choice between previewed, before = past ++ choice :: between ∧
        (Run.final (App.step env) (.start env calledFromSwap swap settings) past).ApprovesPreview
          choice path previewed ∧
        EqualButBlockhash message previewed ∧
        Run.Guarded (App.step env) (fun app event => ¬app.Executes env event)
          (Run.final (App.step env) (.start env calledFromSwap swap settings) (past ++ [choice]))
          between) ∧
    ∀ before event between event' after path message path' message',
      events = before ++ event :: (between ++ event' :: after) →
      (Run.final (App.step env) (.start env calledFromSwap swap settings) before).SignsDelayed env
        event path message →
      (Run.final (App.step env) (.start env calledFromSwap swap settings)
        (before ++ event :: between)).SignsDelayed env event' path' message' →
      ∃ past choice rest previewed, between = past ++ choice :: rest ∧
        (Run.final (App.step env) (.start env calledFromSwap swap settings)
          (before ++ event :: past)).ApprovesPreview choice path' previewed ∧
        EqualButBlockhash message' previewed := by
  refine ⟨?_, ?_⟩
  · rintro before event after path message rfl hsigns
    rw [List.append_cons] at hsha
    exact approval_of_signsDelayed hsha.of_append (Run.guarded_append.mp hquiet).1 hsigns
  · intro before event between event' after path message path' message' hevents hsigns hsigns'
    rw [← List.cons_append, ← List.append_assoc] at hevents
    subst hevents
    have hquiet' : Run.Guarded (App.step env) App.Quiet (.start env calledFromSwap swap settings)
        (before ++ event :: between) := (Run.guarded_append.mp hquiet).1
    rw [List.append_cons] at hsha
    obtain ⟨past, choice, rest, previewed, hsplit, happroves, hequal, hrest⟩ :=
      approval_of_signsDelayed hsha.of_append hquiet' hsigns'
    have hne : event ≠ choice := happroves.ne hsigns.executes
    rcases List.append_eq_append_iff.mp hsplit with ⟨_ | ⟨e, past'⟩, hpast, hbetween⟩
      | ⟨_ | ⟨c, rest'⟩, hbefore, hchoice⟩
    · exact absurd (List.cons.inj hbetween).1 hne
    · rw [List.cons_append] at hbetween
      obtain ⟨rfl, hlater⟩ := List.cons.inj hbetween
      subst hpast
      exact ⟨past', choice, rest, previewed, hlater, happroves, hequal⟩
    · exact absurd (List.cons.inj hchoice).1.symm hne
    · -- the first signature would stand between the approval and the second one
      rw [List.cons_append] at hchoice
      obtain ⟨rfl, hrest'⟩ := List.cons.inj hchoice
      subst hbefore
      rw [hrest', Run.guarded_append] at hrest
      refine absurd hsigns.executes ?_
      have hstop := hrest.2.1
      rw [← Run.final_append, List.append_assoc] at hstop
      exact hstop

end

/-! ## A preview and its delayed signature -/

/-- The transfer of five lamports from the signer to itself, with the given blockhash. -/
def transferMessage (blockhash : Blockhash) : List UInt8 :=
  [1, 0, 0, 2] ++ plainSigner.data ++ systemProgramId.data ++ blockhash.data ++ [1]
    ++ writeInstruction 1 [0, 0] [2, 0, 0, 0, 5, 0, 0, 0, 0, 0, 0, 0]

/-- The SHA-512 hash of the transfer with a zero blockhash. -/
def transferHash : Block 64 :=
  ⟨[0x0a, 0x9f, 0x5f, 0xec, 0x95, 0x75, 0x62, 0x33, 0xba, 0x11, 0xcc, 0xcf, 0xa0, 0x1f, 0x9d, 0xed,
    0xa5, 0x1b, 0xf6, 0x4a, 0x61, 0x9c, 0xda, 0xaf, 0x92, 0x42, 0x56, 0x13, 0x60, 0x9a, 0x53, 0xaa,
    0xa8, 0x32, 0xb9, 0x86, 0xb9, 0x45, 0xcb, 0x49, 0xa9, 0x49, 0x92, 0x54, 0xc7, 0xe3, 0x13, 0xf7,
    0xc3, 0xc4, 0x6b, 0x53, 0x53, 0xee, 0xba, 0xe9, 0xad, 0xa1, 0x75, 0xf7, 0xbe, 0x8d, 0xdd, 0x14],
    rfl⟩

/-- An environment that knows no other hash. -/
def transferEnv : Env :=
  { signingEnv with
    sha512 := fun message =>
      if message = transferMessage (Block.zero 32) then some transferHash else none }

theorem length_laterBlockhash : (List.replicate 32 (1 : UInt8)).length = 32 := rfl

/-- The blockhash the transfer is signed with in the end. -/
def laterBlockhash : Blockhash := ⟨List.replicate 32 1, length_laterBlockhash⟩

/-- The transfer is previewed and approved. -/
def previewRun : List Event :=
  [.plain (writeApdu 0x08 1 ([1] ++ plainPath ++ transferMessage (Block.zero 32))),
    .choice true true]

/-- Then it is sent again, with another blockhash. -/
def delayedEvent : Event :=
  .plain (writeApdu 0x09 1 ([1] ++ plainPath ++ transferMessage laterBlockhash))

/-- The app of that run. -/
def transferApp : App := .start transferEnv false .zero ⟨false, false, false⟩

theorem signsDelayed_transfer :
    (Run.final (App.step transferEnv) transferApp previewRun).SignsDelayed transferEnv delayedEvent
      [0x8000002c, 0x800001f5] (transferMessage laterBlockhash) where
  running := by decide +kernel
  command := ⟨_, _, _, { Command.clear with
      state := .payloadComplete, instruction := some .signMessageDelayed, numDerivationPaths := 1
      derivationPath := [0x8000002c, 0x800001f5], message := transferMessage laterBlockhash }, rfl,
    by decide, by decide +kernel, by decide, rfl⟩
  signed := by decide +kernel

theorem quiet_transfer :
    Run.Guarded (App.step transferEnv) App.Quiet transferApp (previewRun ++ [delayedEvent]) := by
  have hpage : (Run.final (App.step transferEnv) transferApp previewRun).screen = .page := by
    decide +kernel
  refine Run.guarded_append.mpr ⟨⟨fun _ _ _ _ _ _ hscreen => (nomatch hscreen),
    fun _ _ _ _ hevent => (nomatch hevent), trivial⟩, fun _ _ _ reviewed _ _ hscreen => ?_, trivial⟩
  rw [hpage] at hscreen
  cases hscreen

/-- The theorem on the delayed transfer. -/
theorem delayedSigning_safe_transfer :
    ∃ past choice between previewed, previewRun = past ++ choice :: between ∧
      (Run.final (App.step transferEnv) transferApp past).ApprovesPreview choice
        [0x8000002c, 0x800001f5] previewed ∧
      EqualButBlockhash (transferMessage laterBlockhash) previewed ∧
      Run.Guarded (App.step transferEnv) (fun app event => ¬app.Executes transferEnv event)
        (Run.final (App.step transferEnv) transferApp (past ++ [choice])) between := by
  have hsha : transferApp.NoCollision transferEnv (previewRun ++ [delayedEvent]) := by
    intro message message' hash _ _ h h'
    obtain ⟨hmessage, -⟩ := Option.ite_none_right_eq_some.mp h
    obtain ⟨hmessage', -⟩ := Option.ite_none_right_eq_some.mp h'
    rw [hmessage, hmessage']
  exact (delayedSigning_safe hsha quiet_transfer).1 previewRun delayedEvent [] _ _ rfl
    signsDelayed_transfer

end AgencLedger
