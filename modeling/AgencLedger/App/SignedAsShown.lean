import AgencLedger.App.Delivery
import AgencLedger.App.Offered
import AgencLedger.App.Stores
import AgencLedger.Review.Accepted
import AgencLedger.Review.DeadStorage
import AgencLedger.Review.Outcome

/-!
# App/SignedAsShown — from the client's request to the signature

A client cuts a message into APDUs, the app puts it together, parses it, and puts its items up for
review; the user turns the pages and confirms.  Whatever happened before, the pages show the items
of that very message, and the signature is one of that very message.
-/

namespace AgencLedger

/-! ## APDUs on the screens -/

/-- The event of the screens that passes the event on. -/
def Event.onScreens : Event → UiEvent
  | .apdu bytes memory frame => .apdu bytes memory frame
  | .choice confirm memory => .choice confirm memory
  | .setSettings settings => .setSettings settings

/-- The event brings the APDU to the screens. -/
def UiEvent.Brings (apdu : List UInt8) (event : UiEvent) : Prop :=
  ∃ memory frame, event = .apdu apdu memory frame

section

variable {env : Env} {wallet : Bool} {ui : Ui}

/-- The events of the app behind the APDUs on the screens. -/
theorem exists_events {apdus : List (List UInt8)} {sent : List UiEvent}
    (h : List.Forall₂ UiEvent.Brings apdus sent) : ∃ events : List Event,
      sent = events.map Event.onScreens ∧ List.Forall₂ Event.Brings apdus events := by
  induction h with
  | nil => exact ⟨[], rfl, .nil⟩
  | cons hbrings _ ih =>
      obtain ⟨memory, frame, rfl⟩ := hbrings
      obtain ⟨events, rfl, hevents⟩ := ih
      exact ⟨.apdu _ memory frame :: events, rfl, .cons rfl hevents⟩

theorem app_afterApdu (outcome : Outcome) : (ui.afterApdu wallet outcome).app = ui.app := by
  unfold Ui.afterApdu
  split <;> rfl

/-- **A command that is delivered to the app is delivered through the screens**, and the review that
it puts up is on them. -/
theorem final_of_delivers {app : App} {apdus : List (List UInt8)} {events : List Event}
    {app' : App} (h : app.Delivers env events (.pending, app')) (happ : ui.app = app)
    (hbrings : List.Forall₂ Event.Brings apdus events) {reviewed : CommandData}
    (hscreen : app'.screen = .review reviewed) :
    (Run.final (Ui.step env wallet) ui (events.map Event.onScreens)).app
        = { app' with running := true } ∧
      ((Run.final (Ui.step env wallet) ui (events.map Event.onScreens)).view,
        (Run.final (Ui.step env wallet) ui (events.map Event.onScreens)).content)
          = startReviewUi wallet { app' with running := true } := by
  generalize hr : ((.pending, app') : Outcome × App) = r at h
  induction h generalizing ui apdus with
  | @last app e hrun =>
      subst happ
      obtain ⟨bytes, -, hbytes, -, -⟩ := List.forall₂_cons_right_iff.mp hbrings
      rcases e with ⟨bytes', memory, frame⟩ | _ | _
      · have happ' : ui.app.step env (.apdu bytes' memory frame)
            = { app' with running := true } := by
          rw [step_of_running hrun, ← hr]
          rfl
        have hstep : ui.step env wallet (.apdu bytes' memory frame)
            = Ui.afterApdu wallet { ui with app := { app' with running := true } } .pending := by
          rw [Ui.step, if_pos hrun]
          simp only [Ui.react, happ', ← hr]
        simp only [List.map_cons, List.map_nil, Event.onScreens, Run.final_cons, Run.final_nil]
        rw [hstep, afterApdu_review hscreen]
        exact ⟨rfl, rfl⟩
      · exact hbytes.elim
      · exact hbytes.elim
  | @more app app₁ e e' es r hrun hreact hrun' hes ih =>
      subst happ
      obtain ⟨bytes, apdus, hbytes, hrest, -⟩ := List.forall₂_cons_right_iff.mp hbrings
      rcases e with ⟨bytes', memory, frame⟩ | _ | _
      · have happ' : (ui.step env wallet (.apdu bytes' memory frame)).app = app₁ := by
          rw [Ui.step, if_pos hrun]
          simp only [Ui.react, app_afterApdu]
          exact App.Delivers.step_eq hrun hreact hrun'
        exact ih happ' hrest hr
      · exact hbytes.elim
      · exact hbytes.elim

/-! ## Outside a swap there are no descriptors -/

/-- The app was started from the dashboard, and holds no instruction descriptors. -/
structure App.OnDashboard (app : App) : Prop where
  calledFromSwap : app.calledFromSwap = false
  savedDescriptors : app.savedDescriptors = none

theorem onDashboard_handleApdu {app : App} (h : app.OnDashboard) (frame : ℕ → Hash) (memory : Bool)
    (bytes : List UInt8) : (handleApdu env frame memory bytes app).2.savedDescriptors = none := by
  have hdispatch : ∀ {app' : App} (instruction : InstructionCode), app'.OnDashboard →
      (dispatch env frame memory app' instruction).2.savedDescriptors = none := by
    intro app' instruction h'
    by_cases hdescriptor : instruction = .trustedInfoProvideInstructionDescriptor
    · subst hdescriptor
      change (handleProvideInstructionDescriptor env memory app').2.savedDescriptors = none
      rw [handleProvideInstructionDescriptor, h'.calledFromSwap]
      exact h'.savedDescriptors
    · exact (@savedDescriptors_dispatch env frame memory app' instruction hdescriptor).elim
        (fun hsame => hsame.trans h'.savedDescriptors) id
  rcases handleApdu_cases env frame memory app bytes
    with ⟨command, sw, hanswer⟩ | ⟨command, instruction, -, -, -, hhandled⟩
  · rw [hanswer]
    exact h.savedDescriptors
  · rw [hhandled]
    refine hdispatch instruction ?_
    split <;> exact ⟨h.calledFromSwap, h.savedDescriptors⟩

theorem onDashboard_step {app : App} (h : app.OnDashboard) (event : Event) :
    (app.step env event).OnDashboard := by
  refine ⟨(calledFromSwap_step app event).trans h.calledFromSwap, ?_⟩
  rcases hrun : app.running with _ | _
  · rw [step_of_not_running hrun]
    exact h.savedDescriptors
  rw [step_of_running hrun]
  rcases event with ⟨bytes, memory, frame⟩ | ⟨confirm, memory⟩ | settings
  · by_cases hbytes : bytes = []
    · subst hbytes
      exact h.savedDescriptors
    · rw [react_apdu hbytes]
      exact onDashboard_handleApdu h frame memory bytes
  · exact (stores_choose app confirm memory).1.trans h.savedDescriptors
  · exact h.savedDescriptors

/-- **So it stays**, whatever happens to the screens. -/
theorem onDashboard_final (settings : AppSettings) (slots : List DynamicSlot)
    (events : List UiEvent) :
    (Run.final (Ui.step env wallet) (.start env settings slots) events).app.OnDashboard := by
  exact @invariant_screens env wallet _ App.OnDashboard (fun _ _ => True)
    (fun app event h _ => onDashboard_step h event) (fun _ _ h => ⟨h.1, h.2⟩)
    (fun _ h => ⟨h.1, h.2⟩) events ⟨rfl, rfl⟩ (Run.guarded_of_forall (fun _ _ _ _ => trivial) _)

/-! ## Reviews of accepted messages -/

variable {path : DerivationPath} {message : List UInt8} {ata : Bool} {header : MessageHeader}
  {messageBody : Parser} {signerPubkey : Ptr Pubkey} {s : TransactionSummary}

/-- The app with the review of a message. -/
def App.reviewing (app : App) (path : DerivationPath) (ata : Bool) (message : List UInt8)
    (s : TransactionSummary) : App :=
  { app with
    command := Command.request .signMessage path ata message
    summary := s
    buffers := .reset
    previewState := none
    screen := .review ⟨message, path.levels, false⟩
    running := true }

/-- **A message that is accepted goes to review.** -/
theorem handleSignMessageParseMessage_of_accepted {app : App} (h : app.OnDashboard)
    (hheader : parseMessageHeader ⟨0, app.command.message⟩ = .ok (header, messageBody))
    (hsigner : scanHeaderForSigner env app.command.derivationPath header = some signerPubkey)
    (hconfirm : app.command.nonConfirm = false)
    (haccepted : processMessageBody (app.tokenContext env) messageBody
      (app.printConfig header signerPubkey) .reset = (.ok (), s)) (frame : ℕ → Hash) :
    handleSignMessageParseMessage env frame app = (.pending,
      { app with summary := s, buffers := .reset, screen := .review app.command.data }) := by
  obtain ⟨kinds, hkinds⟩ := finalize_of_accepted haccepted
  have hbody : processMessageBody (app.resetSummary.tokenContext env) messageBody
      (app.printConfig header signerPubkey) app.resetSummary.summary = (.ok (), s) := haccepted
  rw [handleSignMessageParseMessage_eq hheader hsigner hconfirm h.savedDescriptors,
    signWithSummary, hbody]
  simp only [handleSignMessageUi, hkinds, h.calledFromSwap, Bool.false_eq_true, if_false]
  rfl

/-- So does the message of a request. -/
theorem handleCommand_of_accepted {app : App} (h : app.OnDashboard) (hrun : app.running = true)
    (hheader : parseMessageHeader ⟨0, message⟩ = .ok (header, messageBody))
    (hsigner : scanHeaderForSigner env path.levels header = some signerPubkey)
    (haccepted : processMessageBody (app.tokenContext env) messageBody
      ⟨header, app.settings.expertMode, false, ata, signerPubkey⟩ .reset = (.ok (), s))
    (frame : ℕ → Hash) (memory : Bool) :
    handleCommand env frame memory
        { app with command := Command.request .signMessage path ata message }
      = (.pending, app.reviewing path ata message s) := by
  have hconfig : App.printConfig { app with
      command := Command.request .signMessage path ata message, previewState := none } header
        signerPubkey = ⟨header, app.settings.expertMode, false, ata, signerPubkey⟩ := by
    rw [← h.calledFromSwap]
    rfl
  refine (@handleSignMessageParseMessage_of_accepted env header messageBody signerPubkey s
    { app with command := Command.request .signMessage path ata message, previewState := none }
    ⟨h.1, h.2⟩ hheader hsigner rfl (hconfig ▸ haccepted) frame).trans ?_
  rw [App.reviewing, ← hrun]
  rfl

/-- An item that lasts is shown alike over any frame. -/
theorem SummaryItem.ShownAs.of_lasting {item : SummaryItem} {shown : List Char × List Char}
    {f : ℕ → Hash} {longPubkeys : Bool} (h : item.ShownAs f longPubkeys shown)
    (hlasting : item.value.Lasting) (g : ℕ → Hash) : item.ShownAs g longPubkeys shown := by
  obtain ⟨hfits, htitle, hret, htext⟩ := h
  rw [print_eq_of_lasting hlasting f g] at hret htext
  exact ⟨hfits, htitle, hret, htext⟩

theorem shownAs_of_lasting {items : List SummaryItem} {shown : List (List Char × List Char)}
    {f : ℕ → Hash} {longPubkeys : Bool} (hlasting : ∀ item ∈ items, item.value.Lasting)
    (h : List.Forall₂ (SummaryItem.ShownAs f longPubkeys) items shown) (g : ℕ → Hash) :
    List.Forall₂ (SummaryItem.ShownAs g longPubkeys) items shown := by
  induction h with
  | nil => exact .nil
  | cons hitem _ ih =>
      obtain ⟨hfirst, hrest⟩ := List.forall_mem_cons.mp hlasting
      exact .cons (hitem.of_lasting hfirst g) (ih hrest)

/-- The review of a transaction whose items last has a step for each of them, whatever the frames
hold. -/
theorem offers_reviewing {app : App} {view : View} {content : ReviewContent}
    {slots : List DynamicSlot} (hprimary : s.primary.isSome)
    (hitems : ∀ item ∈ s.usedItems, item.TitleFits ∧ item.value.Printable)
    (hlasting : ∀ item ∈ s.usedItems, item.value.Lasting)
    (hreview : (view, content) = startReviewUi wallet (app.reviewing path ata message s)) :
    ∃ shown, (∀ frame, List.Forall₂
        (SummaryItem.ShownAs frame app.settings.longPubkeys) s.usedItems shown) ∧
      (Ui.mk (app.reviewing path ata message s) view content slots).Offers
        ⟨message, path.levels, false⟩ fun _ => shown := by
  have hcontent : content = ⟨.transaction, s.usedItems.length, false⟩ := by
    have hsnd : content = (startReviewUi wallet (app.reviewing path ata message s)).2 :=
      congrArg Prod.snd hreview
    rw [hsnd]
    unfold startReviewUi
    rw [if_neg (show ¬(app.reviewing path ata message s).command.instruction
      = some .signOffchainMessage by simp [App.reviewing, Command.request, Command.complete,
        Command.take, Command.ofPath, Command.start])]
    unfold startSignMessageUi
    repeat' split
    all_goals rfl
  have hview : view.InReview := by
    have hfst : view = (startReviewUi wallet (app.reviewing path ata message s)).1 :=
      congrArg Prod.fst hreview
    rw [hfst]
    exact inReview_startReviewUi _
  have hmessage : ReviewContent.messageStep ⟨.transaction, s.usedItems.length, false⟩
      (app.reviewing path ata message s).command = [] := rfl
  obtain ⟨shown, ⟨texts, htexts, htext⟩, -, hsteps⟩ := @shows_of_printable (fun _ => Block.zero 32)
    (app.reviewing path ata message s) content (fun _ => hprimary) hitems (by rw [hcontent]; rfl)
  rw [hcontent, hmessage, List.append_nil] at htext
  subst htext
  have hshown : ∀ frame, List.Forall₂ (SummaryItem.ShownAs frame app.settings.longPubkeys)
      s.usedItems shown := fun frame => shownAs_of_lasting hlasting htexts frame
  refine ⟨shown, hshown, rfl, rfl, rfl, hview, fun frame => ⟨⟨shown, hshown frame, ?_⟩,
    fun _ => hprimary, hsteps⟩⟩
  rw [hcontent, hmessage, List.append_nil]

/-! ## From the request to the signature -/

/-- The last of the events that bring a request. -/
theorem exists_getLast {apdus : List (List UInt8)} {events : List Event}
    (h : List.Forall₂ Event.Brings apdus events) (hne : apdus ≠ []) :
    ∃ bytes memory frame, events.getLast? = some (.apdu bytes memory frame) := by
  have hevents : events ≠ [] := fun hnil => hne (List.forall₂_nil_right_iff.mp (hnil ▸ h))
  have hapdu : ∀ e ∈ events, ∃ bytes memory frame, e = .apdu bytes memory frame := by
    clear hne hevents
    induction h with
    | nil => exact fun _ he => absurd he List.not_mem_nil
    | @cons _ e _ _ hbrings _ ih =>
        refine List.forall_mem_cons.mpr ⟨?_, ih⟩
        rcases e with ⟨bytes, memory, frame⟩ | _ | _
        · exact ⟨bytes, memory, frame, rfl⟩
        · exact hbrings.elim
        · exact hbrings.elim
  obtain ⟨bytes, memory, frame, he⟩ := hapdu _ (List.getLast_mem hevents)
  exact ⟨bytes, memory, frame, by rw [List.getLast?_eq_getLast_of_ne_nil hevents, he]⟩

/-- **What is signed is what was shown, and what was asked for.**  Whatever has happened to the app,
a client asks for the signature of a message that it accepts, that submits no artifact and whose
items print, and no other APDU comes before the user has answered.  Then the pages show the items of
that message and nothing else, whatever dead storage holds, and what a confirmation signs is that
message, with the key asked for. -/
theorem signed_as_shown {settings : AppSettings} {slots : List DynamicSlot}
    {events : List UiEvent}
    (hui : ui = Run.final (Ui.step env wallet) (.start env settings slots) events)
    (hrun : ui.app.running = true)
    (hfits : message.length < maxMessageLength env.usbSegmentSize)
    (hheader : parseMessageHeader ⟨0, message⟩ = .ok (header, messageBody))
    (hsigner : scanHeaderForSigner env path.levels header = some signerPubkey)
    (haccepted : processMessageBody (ui.app.tokenContext env) messageBody
      ⟨header, ui.app.settings.expertMode, false, ata, signerPubkey⟩ .reset = (.ok (), s))
    (hartifact : ∀ instruction ∈ bodyInstructions header header.instructionsLength messageBody,
      ¬SubmitsArtifact header instruction)
    (hprintable : ∀ item ∈ s.usedItems, item.value.Printable) {apdus : List (List UInt8)}
    (hclient : apdus = sendAsyncSignRequest 0x06 path.pack message ata ∨
      ata = false ∧ apdus = solanaSend 0x06 1 ([1] ++ path.pack ++ message))
    {sent : List UiEvent} (hsent : List.Forall₂ UiEvent.Brings apdus sent) :
    ∃ parsed l shown,
      parseMessageBody (ui.app.tokenContext env) messageBody header = (parsed, .ok ()) ∧
      layout parsed = some l ∧
      (∀ frame, List.Forall₂ (SummaryItem.ShownAs frame ui.app.settings.longPubkeys)
        (l.usedItems ⟨header, ui.app.settings.expertMode, false, ata, signerPubkey⟩
          (ui.app.tokenContext env)) shown) ∧
      (Run.final (Ui.step env wallet) ui sent).app.signed = ui.app.signed ∧
      (Run.final (Ui.step env wallet) ui sent).SignsAsShown env wallet path.levels message
        fun _ => shown := by
  have hdashboard : ui.app.OnDashboard := hui ▸ onDashboard_final settings slots events
  obtain ⟨parsed, l, hparsed, hl, -, hitems⟩ := usedItems_of_accepted haccepted
  obtain ⟨kinds, hkinds⟩ := finalize_of_accepted haccepted
  obtain ⟨delivered, rfl, hbrings⟩ := exists_events hsent
  have hne : apdus ≠ [] := by
    rcases hclient with rfl | ⟨-, rfl⟩
    · rw [sendAsyncSignRequest_eq]
      exact List.cons_ne_nil _ _
    · have hpayload : [1] ++ path.pack ++ message ≠ [] := List.cons_ne_nil _ _
      rw [solanaSend_eq_exchangeSplit, exchangeSplit_eq _ _ hpayload]
      exact List.cons_ne_nil _ _
  obtain ⟨bytes, memory, frame, hlast⟩ := exists_getLast hbrings hne
  have htakes := @takes_signRequest env .signMessage _ _ _ _ _ rfl rfl path message ata _ hrun _
    hclient hbrings hlast
  rw [handleCommand_of_accepted hdashboard hrun hheader hsigner haccepted] at htakes
  obtain ⟨happ, hreview⟩ := @final_of_delivers env wallet ui _ _ _ _ (htakes.delivers hfits) rfl
    hbrings _ rfl
  replace happ : (Run.final (Ui.step env wallet) ui (delivered.map Event.onScreens)).app
    = ui.app.reviewing path ata message s := happ
  generalize Run.final (Ui.step env wallet) ui (delivered.map Event.onScreens) = ui' at *
  obtain ⟨app, view, content, slots'⟩ := ui'
  obtain rfl : app = ui.app.reviewing path ata message s := happ
  obtain ⟨shown, hshown, hoffers⟩ := @offers_reviewing wallet path message ata s ui.app view content
    slots' (TransactionSummary.isSome_primary_of_finalize hkinds)
    (fun item hitem => ⟨titleFits_of_mem_usedItems (hitems ▸ hitem), hprintable item hitem⟩)
    (lasting_usedItems haccepted hartifact) hreview
  exact ⟨parsed, l, shown, hparsed, hl, hitems ▸ hshown, rfl, hoffers.signsAsShown rfl⟩

end

/-- The message that pays five lamports and changes a memo requirement. -/
def warnedMessage : List UInt8 :=
  legacyMessage warnedKeys [writeInstruction 1 [0, 0] [2, 0, 0, 0, 5, 0, 0, 0, 0, 0, 0, 0],
    writeInstruction 2 [0] [30, 0]]

theorem parseMessageHeader_warned :
    parseMessageHeader ⟨0, warnedMessage⟩ = .ok (warnedConfig.header, warnedBody) := by
  decide +kernel

theorem printable_warnedReview : ∀ item ∈ warnedReview.2.usedItems, item.value.Printable := by
  have hfirm : warnedReview.2.usedItems.all (fun item => !item.value.mayFail) = true := by
    decide +kernel
  intro item hitem
  exact printable_of_not_mayFail (by simpa using List.all_eq_true.mp hfirm item hitem)

/-- Neither of its programs is AgenC. -/
theorem not_submitsArtifact_warned : ∀ instruction ∈ bodyInstructions warnedConfig.header
      warnedConfig.header.instructionsLength warnedBody,
    ¬SubmitsArtifact warnedConfig.header instruction := by
  have hprogram : ∀ instruction ∈ bodyInstructions warnedConfig.header
      warnedConfig.header.instructionsLength warnedBody,
      instructionProgramId instruction warnedConfig.header ≠ .ok .agenc := by
    decide +kernel
  exact fun instruction hins hsubmits => hprogram instruction hins hsubmits.1

/-- The home page of a device. -/
def plainUi : Ui := .start signingEnv ⟨false, false, false⟩ plainSlots

/-- The tests' client asks for its signature. -/
def warnedRequest : List UiEvent :=
  (sendAsyncSignRequest 0x06 DerivationPath.plain.pack warnedMessage false).map fun apdu =>
    .apdu apdu true fun _ => Block.zero 32

theorem brings_warnedRequest : List.Forall₂ UiEvent.Brings
    (sendAsyncSignRequest 0x06 DerivationPath.plain.pack warnedMessage false) warnedRequest :=
  List.forall₂_map_right_iff.mpr (List.forall₂_same.mpr fun _ _ => ⟨_, _, rfl⟩)

/-- The theorem on that message, from the home page. -/
theorem signed_as_shown_warned :
    ∃ parsed l shown,
      parseMessageBody (plainUi.app.tokenContext signingEnv) warnedBody warnedConfig.header
        = (parsed, .ok ()) ∧
      layout parsed = some l ∧
      (∀ frame, List.Forall₂ (SummaryItem.ShownAs frame false)
        (l.usedItems warnedConfig (plainUi.app.tokenContext signingEnv)) shown) ∧
      (Run.final (Ui.step signingEnv true) plainUi warnedRequest).app.signed = [] ∧
      (Run.final (Ui.step signingEnv true) plainUi warnedRequest).SignsAsShown signingEnv true
        DerivationPath.plain.levels warnedMessage fun _ => shown :=
  @signed_as_shown signingEnv true plainUi .plain warnedMessage false warnedConfig.header
    warnedBody ⟨4, plainSigner⟩ warnedReview.2 ⟨false, false, false⟩ plainSlots [] rfl rfl
    (by decide +kernel) parseMessageHeader_warned (by decide +kernel) (Prod.ext warnedReview_ok rfl)
    not_submitsArtifact_warned printable_warnedReview _ (.inl rfl) warnedRequest
    brings_warnedRequest

end AgencLedger
