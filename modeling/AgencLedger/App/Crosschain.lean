import AgencLedger.App.Stores

/-!
# App/Crosschain — descriptors and the mode of a swap

The descriptor path signs whatever its descriptors allow, and does not look at the mode of the swap.
What keeps it to cross-chain swaps is the template: a descriptor is saved only for the template that
Exchange named.  In the other modes that template is zero, and a descriptor for the template zero
gets through.
-/

namespace AgencLedger

/-! ## The invariant -/

/-- **The app may have descriptors only for the cross-chain swap it was started for.** -/
structure App.ForTemplate (mode : SwapMode × UInt64) (app : App) : Prop where
  swap_eq : (app.swap.swapMode, app.swap.templateId) = mode
  crosschain : app.savedDescriptors.isSome = true → app.swap.swapMode = .crosschain
  descriptorsMatch : app.DescriptorsMatch

/-- **The event saves no descriptor for the template zero**, but in a cross-chain swap: none comes
that the checks let pass and that the store takes. -/
def App.NamesTemplate (env : Env) (app : App) (event : Event) : Prop :=
  ∀ bytes memory frame command items out, event = .apdu bytes memory frame → app.running = true →
    app.Completes env bytes command .trustedInfoProvideInstructionDescriptor →
    parseInstructionDescriptor env.tlv command.message = some (items, out) →
    checkDescriptor env app.swap items out = .ok () →
    app.savedDescriptors.isSome = true ∨ memory = true →
    (saveInstructionDescriptor out.isMainNet out.templateId out.ins
      (app.savedDescriptors.getD .zero)).isSome = true →
    app.swap.swapMode = .crosschain ∨ out.templateId ≠ 0

/-- Without a template the template is zero. -/
theorem templateId_of_swapModeOf {extraId : Option ExtraId}
    (h : (swapModeOf extraId).1 ≠ .crosschain) : (swapModeOf extraId).2 = 0 := by
  unfold swapModeOf at h ⊢
  split
  · rfl
  · split
    · rfl
    · split
      · simp_all
      · rfl

section

variable {env : Env} {app : App} {extraId : Option ExtraId}

/-- Only descriptors and the swap matter. -/
theorem App.ForTemplate.of_eq {mode : SwapMode × UInt64} {app' : App} (h : app.ForTemplate mode)
    (hdescriptors : app'.savedDescriptors = app.savedDescriptors) (hswap : app'.swap = app.swap) :
    app'.ForTemplate mode := by
  obtain ⟨hmode, hcrosschain, hmatch⟩ := h
  refine ⟨hswap ▸ hmode, hswap ▸ hdescriptors ▸ hcrosschain, fun saved hsaved entry hentry => ?_⟩
  rw [hswap]
  exact hmatch saved (hdescriptors ▸ hsaved) entry hentry

/-- Descriptors are there after a command that brings one only if they were before, or if that one
was saved. -/
theorem saves_of_handleProvideInstructionDescriptor {memory : Bool}
    (h : (handleProvideInstructionDescriptor env memory app).2.savedDescriptors.isSome = true) :
    app.savedDescriptors.isSome = true ∨ ∃ items out,
      parseInstructionDescriptor env.tlv app.command.message = some (items, out) ∧
        checkDescriptor env app.swap items out = .ok () ∧ memory = true ∧
        (saveInstructionDescriptor out.isMainNet out.templateId out.ins
          (app.savedDescriptors.getD .zero)).isSome = true := by
  unfold handleProvideInstructionDescriptor at h
  split at h
  · exact .inl h
  split at h
  · exact .inl h
  rename_i items out hparse
  split at h
  · exact .inl h
  rename_i hcheck
  rcases hsaved : app.savedDescriptors with _ | saved
  · rw [hsaved] at h
    rcases memory with _ | _
    · simp [hsaved] at h
    · refine .inr ⟨items, out, hparse, hcheck, rfl, ?_⟩
      dsimp only at h
      split at h
      · simp [hsaved] at h
      · rename_i hsave
        rw [hsave]
        rfl
  · exact .inl rfl

/-- An APDU that names its template keeps descriptors to cross-chain swaps. -/
theorem forTemplate_handleApdu (h : app.ForTemplate (swapModeOf extraId)) {bytes : List UInt8}
    (hbytes : bytes ≠ []) {memory : Bool} {frame : ℕ → Hash} (hrun : app.running = true)
    (hevent : app.NamesTemplate env (.apdu bytes memory frame)) :
    (handleApdu env frame memory bytes app).2.ForTemplate (swapModeOf extraId) := by
  obtain ⟨command, previewState, -, hhandled⟩ := handled_handleApdu env frame memory app bytes
  have hswap : (handleApdu env frame memory bytes app).2.swap = app.swap := hhandled.swap_eq
  refine ⟨hswap ▸ h.swap_eq, fun hsome => ?_, hhandled.descriptorsMatch h.descriptorsMatch⟩
  rw [hswap]
  rcases handleApdu_cases env frame memory app bytes
    with ⟨command, sw, hanswer⟩ | ⟨command, instruction, hok, hstate, hins, hdispatch⟩
  · rw [hanswer] at hsome
    exact h.crosschain hsome
  rw [hdispatch] at hsome
  by_cases hdescriptor : instruction = .trustedInfoProvideInstructionDescriptor
  · subst hdescriptor
    rcases saves_of_handleProvideInstructionDescriptor hsome
      with hold | ⟨items, out, hparse, hcheck, hmemory, hsave⟩
    · exact h.crosschain hold
    rcases hevent bytes memory frame command items out rfl hrun ⟨hbytes, hok, hstate, hins⟩ hparse
      hcheck (.inr hmemory) hsave with hmode | hnonzero
    · exact hmode
    · by_contra hmode
      have htemplate : app.swap.templateId = 0 := by
        have hfst : app.swap.swapMode = (swapModeOf extraId).1 := congrArg Prod.fst h.swap_eq
        rw [← templateId_of_swapModeOf (hfst ▸ hmode)]
        exact congrArg Prod.snd h.swap_eq
      exact hnonzero ((templateId_of_checkDescriptor hcheck).2.trans htemplate)
  · refine h.crosschain ?_
    rcases savedDescriptors_dispatch (if instruction = .signMessageDelayed
        then { app with command } else App.clearPreviewState { app with command }) hdescriptor
      with hsame | hnone
    · rw [hsame] at hsome
      split at hsome <;> exact hsome
    · rw [hnone] at hsome
      cases hsome

/-- **One step keeps descriptors to cross-chain swaps.** -/
theorem forTemplate_step (h : app.ForTemplate (swapModeOf extraId)) {event : Event}
    (hevent : app.NamesTemplate env event) :
    (app.step env event).ForTemplate (swapModeOf extraId) := by
  rcases hrun : app.running with _ | _
  · rw [step_of_not_running hrun]
    exact h
  · rw [step_of_running hrun]
    rcases event with ⟨bytes, memory, frame⟩ | ⟨confirm, memory⟩ | settings
    · by_cases hbytes : bytes = []
      · subst hbytes
        exact h.of_eq rfl rfl
      · rw [react_apdu hbytes]
        exact (forTemplate_handleApdu h hbytes hrun hevent).of_eq rfl rfl
    · obtain ⟨hdescriptors, -, hswap⟩ := @stores_choose env app confirm memory
      exact h.of_eq hdescriptors hswap
    · exact h.of_eq rfl rfl

end

/-! ## Signing with descriptors -/

/-- The event makes the app reach `swap_finalize` while it has descriptors. -/
def App.FinalizesWithDescriptors (env : Env) (app : App) (event : Event) : Prop :=
  app.running = true ∧ app.savedDescriptors.isSome = true ∧
    ∃ signature, (app.react env event).1 = .swapFinalize signature

/-- What Exchange starts has no descriptors yet. -/
theorem forTemplate_startFromExchange {env : Env} {params : CreateTransactionParameters}
    {settings : AppSettings} {app : App}
    (h : App.startFromExchange env params settings = some app) :
    app.ForTemplate (swapModeOf params.destinationAddressExtraId) := by
  obtain ⟨swap, hswap, rfl⟩ := Option.map_eq_some_iff.mp h
  exact ⟨(swapCopyTransactionParameters_eq_some hswap).2.1, fun hsome => (nomatch hsome),
    fun _ hsaved => (nomatch hsaved)⟩

/-- **The descriptor path signs in cross-chain swaps only, with descriptors for the template that
Exchange named**, in every run in which no descriptor for the template zero is saved outside
them. -/
theorem crosschain_of_finalizesWithDescriptors {env : Env} {params : CreateTransactionParameters}
    {settings : AppSettings} {app : App}
    (hstart : App.startFromExchange env params settings = some app)
    {events : List Event}
    (hrun : Run.Guarded (App.step env) (App.NamesTemplate env) app events) {event : Event}
    (hfinalize : (Run.final (App.step env) app events).FinalizesWithDescriptors env event) :
    (Run.final (App.step env) app events).swap.swapMode = .crosschain ∧
      ∃ saved, (Run.final (App.step env) app events).savedDescriptors = some saved ∧
        ∀ entry ∈ saved.descriptors,
          swapModeOf params.destinationAddressExtraId = (.crosschain, entry.templateId) := by
  have hfinal : (Run.final (App.step env) app events).ForTemplate
      (swapModeOf params.destinationAddressExtraId) :=
    @Run.invariant _ _ _ _ _ (App.ForTemplate (swapModeOf params.destinationAddressExtraId))
      (fun _ _ h hevent => forTemplate_step h hevent) _ (forTemplate_startFromExchange hstart) hrun
  obtain ⟨-, hsome, -⟩ := hfinalize
  have hmode := hfinal.crosschain hsome
  obtain ⟨saved, hsaved⟩ := Option.isSome_iff_exists.mp hsome
  refine ⟨hmode, saved, hsaved, fun entry hentry => ?_⟩
  rw [← hfinal.swap_eq, hmode, hfinal.descriptorsMatch saved hsaved entry hentry]

/-! ## A standard swap signed with a descriptor -/

/-- A TLV tag or length: one byte, or `0x81` and one byte. -/
def readDer : List UInt8 → Option (ℕ × List UInt8)
  | 0x81 :: b :: rest => some (b.toNat, rest)
  | b :: rest => if b < 0x80 then some (b.toNat, rest) else none
  | [] => none

/-- The items of a TLV payload; the first argument bounds their number. -/
def readTlv : ℕ → List UInt8 → Option (List TlvItem)
  | _, [] => some []
  | 0, _ => none
  | n + 1, bytes => do
      let (tag, rest) ← readDer bytes
      let (length, rest) ← readDer rest
      let items ← readTlv n (rest.drop length)
      return ⟨tag, rest.take length, bytes.take (bytes.length - (rest.length - length))⟩ :: items

/-- A descriptor of System transfers for the given template, and nothing more to check, without its
signature. -/
def descriptorPayload (templateId : UInt8) : List UInt8 :=
  [0x01, 1, 0x0a, 0x02, 1, 1, 0x23, 4, 0, 0, 3, 0x84, 0x81, 0x90, 8, 0, 0, 0, 0, 0, 0, 0,
    templateId, 0x81, 0x91, 32] ++ systemProgramId.data ++ [0x81, 0x92, 4, 2, 0, 0, 0]

/-- The SHA-256 hash of that for the template 0. -/
def standardHash : Hash :=
  ⟨[161, 36, 74, 254, 227, 104, 164, 172, 124, 113, 21, 243, 68, 249, 90, 244, 36, 87, 148, 93,
    141, 184, 25, 142, 153, 217, 9, 19, 42, 20, 141, 147], rfl⟩

/-- The SHA-256 hash of that for the template 7. -/
def crosschainHash : Hash :=
  ⟨[162, 74, 233, 128, 23, 228, 177, 55, 147, 13, 117, 144, 124, 228, 236, 6, 152, 164, 119, 231,
    228, 182, 116, 155, 212, 42, 116, 185, 75, 159, 169, 233], rfl⟩

/-- The command with that descriptor. -/
def descriptorApdu (templateId : UInt8) : List UInt8 :=
  writeApdu 0x16 1 (descriptorPayload templateId ++ [0x15, 70] ++ List.replicate 70 0)

/-- An environment for swaps: the first row of the token table, and the two descriptors. -/
def exchangeEnv : Env :=
  let sdk := { walletSdk with
    sha256 := fun message =>
      if message = descriptorPayload 0 then some standardHash
      else if message = descriptorPayload 7 then some crosschainHash
      else walletSdk.sha256 message }
  let env := Env.plain sdk plainSigner
  { env with
    tlv := { env.tlv with instructionDescriptor := readTlv 16 }
    tokenRegistry := [⟨⟨[
      0x06, 0x9b, 0x88, 0x57, 0xfe, 0xab, 0x81, 0x84, 0xfb, 0x68, 0x7f, 0x63, 0x46,
      0x18, 0xc0, 0x35, 0xda, 0xc4, 0x39, 0xdc, 0x1a, 0xeb, 0x3b, 0x55, 0x98, 0xa0,
      0xf0, 0x00, 0x00,
      0x00, 0x00, 0x01], rfl⟩, .lit "SOL" nul_notMem_sol⟩] }

/-- A swap of lamports, with the extra id given. -/
def exchangeParameters (extraId : Option ExtraId) : CreateTransactionParameters where
  coinConfiguration := none
  amount := [1]
  feeAmount := [1]
  destinationAddress := .lit "11111111111111111111111111111111" nul_notMem_systemAddress
  destinationAddressExtraId := extraId

/-- The command to sign a transfer of `2 ^ 56` lamports to the signer. -/
def transferApdu : List UInt8 :=
  writeApdu 0x06 1 ([1] ++ plainPath ++ legacyMessage [plainSigner, systemProgramId]
    [writeInstruction 1 [0, 0] [2, 0, 0, 0, 0, 0, 0, 0, 0, 0, 0, 1]])

/-- The app of a cross-chain swap for the template 7. -/
def crosschainApp : App :=
  .start exchangeEnv true
    ⟨true, .crosschain, 7, 9, .lit "SOL" nul_notMem_sol, 1, 1,
      .lit "11111111111111111111111111111111" nul_notMem_systemAddress⟩
    ⟨false, false, false⟩

/-- The app of a standard swap. -/
def standardApp : App :=
  .start exchangeEnv true
    ⟨true, .standard, 0, 9, .lit "SOL" nul_notMem_sol, 1, 1,
      .lit "11111111111111111111111111111111" nul_notMem_systemAddress⟩
    ⟨false, false, false⟩

theorem crosschainApp_start :
    App.startFromExchange exchangeEnv
      (exchangeParameters (some ⟨3, ⟨[0, 0, 0, 0, 0, 0, 0, 7], rfl⟩⟩)) ⟨false, false, false⟩
        = some crosschainApp := by
  decide

theorem guarded_crosschainApp :
    Run.Guarded (App.step exchangeEnv) (App.NamesTemplate exchangeEnv) crosschainApp
      [.plain (descriptorApdu 7)] :=
  ⟨fun _ _ _ _ _ _ _ _ _ _ _ _ _ => .inl rfl, trivial⟩

theorem finalizes_crosschainApp :
    (Run.final (App.step exchangeEnv) crosschainApp
      [.plain (descriptorApdu 7)]).FinalizesWithDescriptors exchangeEnv (.plain transferApdu) :=
  ⟨by decide +kernel, by decide +kernel, some (Block.zero 64), by decide +kernel⟩

/-- The theorem on a cross-chain swap that signs. -/
theorem crosschain_of_crosschainApp :
    (Run.final (App.step exchangeEnv) crosschainApp
        [.plain (descriptorApdu 7)]).swap.swapMode = .crosschain ∧
      ∃ saved, (Run.final (App.step exchangeEnv) crosschainApp
          [.plain (descriptorApdu 7)]).savedDescriptors = some saved ∧
        ∀ entry ∈ saved.descriptors,
          swapModeOf (some ⟨3, ⟨[0, 0, 0, 0, 0, 0, 0, 7], rfl⟩⟩)
            = (.crosschain, entry.templateId) :=
  crosschain_of_finalizesWithDescriptors crosschainApp_start guarded_crosschainApp
    finalizes_crosschainApp

theorem standardApp_start :
    App.startFromExchange exchangeEnv (exchangeParameters none) ⟨false, false, false⟩
      = some standardApp := by
  decide

/-- **A standard swap is signed with a descriptor** for the template zero, whatever it moves. -/
theorem standardApp_finalizesWithDescriptors :
    App.startFromExchange exchangeEnv (exchangeParameters none) ⟨false, false, false⟩
        = some standardApp ∧
      (Run.final (App.step exchangeEnv) standardApp
        [.plain (descriptorApdu 0)]).FinalizesWithDescriptors exchangeEnv (.plain transferApdu) ∧
      (Run.final (App.step exchangeEnv) standardApp [.plain (descriptorApdu 0)]).swap.swapMode
        ≠ .crosschain :=
  ⟨standardApp_start,
    ⟨by decide +kernel, by decide +kernel, some (Block.zero 64), by decide +kernel⟩,
    by decide +kernel⟩

end AgencLedger
