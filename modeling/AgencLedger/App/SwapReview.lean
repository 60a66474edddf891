import AgencLedger.App.Handled
import AgencLedger.Review.Authorities
import AgencLedger.Review.Outcome

/-!
# App/SwapReview — how a swap without descriptors comes to be signed

The message is accepted, its review has a layout, and the checks of the swap let pass what the
display buffers show of it.
-/

namespace AgencLedger

section

variable {env : Env} {frame : ℕ → Hash} {app : App}

/-- The signer found in a header is the key of the path. -/
theorem getPublicKey_of_scanHeaderForSigner {derivationPath : List UInt32} {header : MessageHeader}
    {signerPubkey : Ptr Pubkey}
    (h : scanHeaderForSigner env derivationPath header = some signerPubkey) :
    env.getPublicKey derivationPath = some signerPubkey.val := by
  simp only [scanHeaderForSigner, Option.bind_eq_bind, Option.bind_eq_some_iff] at h
  obtain ⟨signer, hsigner, index, hindex, hkey⟩ := h
  obtain ⟨hlt, hval, -⟩ := List.findIdx?_eq_some_iff_getElem.mp hindex
  rw [hsigner, ← of_decide_eq_true hval, List.getElem_take]
  obtain ⟨hlt', rfl⟩ := List.getElem?_eq_some_iff.mp hkey
  rfl

/-- What the swap checks read off a finalized summary. -/
theorem displayedItems_eq {s : TransactionSummary} {kinds : List SummaryItemKind}
    (h : s.finalize = .ok kinds) (buffers : DisplayBuffers) :
    displayedItems frame s kinds buffers = shownItems frame s.usedItems buffers :=
  zip_displayAll h frame buffers

/-- **A review that the swap checks let pass**: that of an accepted message. -/
structure App.PassesReview (env : Env) (frame : ℕ → Hash) (app : App) (header : MessageHeader)
    (messageBody : Parser) (signerPubkey : Ptr Pubkey)
    (parsed : List ParsedInstruction) (l : Layout)
    (s : TransactionSummary) : Prop where
  calledFromSwap : app.calledFromSwap = true
  header_eq : parseMessageHeader ⟨0, app.command.message⟩ = .ok (header, messageBody)
  signer_eq : scanHeaderForSigner env app.command.derivationPath header = some signerPubkey
  accepted : processMessageBody (app.tokenContext env) messageBody
    (app.printConfig header signerPubkey) .reset = (.ok (), s)
  parsed_eq : parseMessageBody (app.tokenContext env) messageBody header = (parsed, .ok ())
  layout_eq : layout parsed = some l
  fail_notMem : Effect.fail ∉ l.pattern.print (app.printConfig header signerPubkey)
    (app.tokenContext env)
  usedItems_eq : s.usedItems = l.usedItems (app.printConfig header signerPubkey)
    (app.tokenContext env)
  primary : Script.items .primary (l.pattern.print (app.printConfig header signerPubkey)
    (app.tokenContext env)) ≠ []
  valid : ∃ kinds, s.finalize = .ok kinds ∧
    checkSwapValidity env frame { app.resetSummary with summary := s } kinds = .ok ()

/-- Only a standard swap has a review that passes. -/
theorem swapMode_of_checkSwapValidity {kinds : List SummaryItemKind}
    (h : checkSwapValidity env frame app kinds = .ok ()) : app.swap.swapMode = .standard := by
  unfold checkSwapValidity at h
  split at h
  · cases h
  · cases h
  · assumption

/-- The user interface finalizes a swap only after its checks. -/
theorem checkSwapValidity_of_swapFinalize {signature : Option (Block 64)}
    (h : (handleSignMessageUi env frame app).1 = .swapFinalize signature) :
    app.calledFromSwap = true ∧ ∃ kinds, app.summary.finalize = .ok kinds ∧
      checkSwapValidity env frame app kinds = .ok () := by
  unfold handleSignMessageUi at h
  split at h
  · cases h
  rename_i kinds hkinds
  split at h
  · rename_i hswap
    split at h
    · cases h
    split at h
    · rename_i hvalid
      exact ⟨hswap, kinds, hkinds, hvalid⟩
    · cases h
  · cases h

/-- The summary path finalizes a swap only for a message it accepts: the fallback is for the
dashboard. -/
theorem processMessageBody_of_swapFinalize {messageBody : Parser} {printConfig : PrintConfig}
    {signature : Option (Block 64)}
    (h : (signWithSummary env frame app messageBody printConfig).1 = .swapFinalize signature) :
    app.calledFromSwap = true ∧ ∃ s kinds,
      processMessageBody (app.tokenContext env) messageBody printConfig app.summary = (.ok (), s) ∧
      s.finalize = .ok kinds ∧
      checkSwapValidity env frame { app with summary := s } kinds = .ok () := by
  unfold signWithSummary at h
  rcases hbody : processMessageBody (app.tokenContext env) messageBody printConfig app.summary
    with ⟨ret, s⟩
  rw [hbody] at h
  rcases ret with stop | _
  · rcases stop with _ | _ | _ | _ | _ <;> try cases h
    simp only at h
    split at h
    · cases h
    rename_i hswap
    split at h
    · cases h
    split at h
    · rename_i app' hblind
      obtain ⟨hswap', -⟩ := checkSwapValidity_of_swapFinalize h
      exact absurd ((handled_blindSigningItems _ hblind).calledFromSwap_eq.symm.trans hswap') hswap
    · cases h
  · obtain ⟨hswap, kinds, hkinds, hvalid⟩ := checkSwapValidity_of_swapFinalize h
    exact ⟨hswap, s, kinds, rfl, hkinds, hvalid⟩

/-- **Without descriptors `swap_finalize` is reached by a review that passes.** -/
theorem passesReview_of_swapFinalize {signature : Option (Block 64)}
    (hnone : app.savedDescriptors = none)
    (h : (handleSignMessageParseMessage env frame app).1 = .swapFinalize signature) :
    ∃ header messageBody signerPubkey parsed l s,
      app.PassesReview env frame header messageBody signerPubkey parsed l s := by
  rcases hheader : parseMessageHeader ⟨0, app.command.message⟩ with stop | ⟨header, messageBody⟩
  · rw [handleSignMessageParseMessage, hheader] at h
    rcases stop with _ | _ | _ | _ | _ <;> cases h
  rcases hsigner : scanHeaderForSigner env app.command.derivationPath header with _ | signerPubkey
  · rw [handleSignMessageParseMessage, hheader] at h
    simp only [hsigner] at h
    cases h
  rcases hconfirm : app.command.nonConfirm
  · rw [handleSignMessageParseMessage_eq hheader hsigner hconfirm hnone] at h
    obtain ⟨hswap, s, kinds, hbody, hkinds, hvalid⟩ := processMessageBody_of_swapFinalize h
    obtain ⟨parsed, l, hparsed, hl, hfail, hitems⟩ := usedItems_of_accepted hbody
    exact ⟨header, messageBody, signerPubkey, parsed, l, s, hswap, hheader, hsigner, hbody, hparsed,
      hl, hfail, hitems, setsPrimary_print hfail, kinds, hkinds, hvalid⟩
  · rw [handleSignMessageParseMessage, hheader] at h
    simp only [hsigner, hconfirm, if_true] at h
    cases h

end

end AgencLedger
