import AgencLedger.App.OffchainGrammar

/-!
# App/OffchainReview — what expert mode shows of an off-chain message

In expert mode a review starts with the fields of the header, the size and the hash of the content.
All of them are what the signed bytes say but one: where there is more than one signer, the number
shown as that of the other signers is the number of all.
-/

namespace AgencLedger

/-! ## The fields of a review -/

/-- What an item shows, by value; `other` is what no off-chain message has. -/
inductive ReviewField
  | key (key : Pubkey)
  | number (n : ℕ)
  | domain (applicationDomain : Block 32)
  | text (text : CString)
  | hash (hash : Hash)
  | other
  deriving DecidableEq

/-- The field an item of an off-chain review shows. -/
def SummaryValue.field : SummaryValue → ReviewField
  | .pubkey key => .key key.val
  | .u64 n => .number n.toNat
  | .applicationDomain domain => .domain domain.val
  | .string text => .text text
  | .hash (.global messageHash) => .hash messageHash
  | _ => .other

/-- The title and the field of an item. -/
def SummaryItem.titled (item : SummaryItem) : String × ReviewField :=
  (item.title, item.value.field)

theorem nul_notMem_domainNotProvided : nul ∉ "Domain not provided".toList := by decide

/-- What the application domain is shown as. -/
def applicationDomainField (applicationDomain : Block 32) : ReviewField :=
  if applicationDomain = Block.zero 32 then
    .text (.lit "Domain not provided" nul_notMem_domainNotProvided)
  else .domain applicationDomain

/-- The application domain, of a version 0 message. -/
def OffchainVersion.domainFields : OffchainVersion → List (String × ReviewField)
  | .v0 applicationDomain _ => [("Application", applicationDomainField applicationDomain)]
  | .v1 => []

/-- The version, and the format of a version 0 message. -/
def OffchainVersion.versionFields : OffchainVersion → List (String × ReviewField)
  | .v0 _ format => [("Version", .number 0), ("Format", .number format.toNat)]
  | .v1 => [("Version", .number 1)]

/-- The fields of a message, given the number of other signers and the hash of the content. -/
def OffchainMessage.fields (m : OffchainMessage) (key : Pubkey) (others : ℕ) (hash : Hash) :
    List (String × ReviewField) :=
  ("Signer", .key key) :: ((if others = 0 then [] else [("Other signers", .number others)]) ++
    (m.version.domainFields ++ (m.version.versionFields ++
      [("Size", .number m.content.length), ("Hash", .hash hash)])))

/-- How many signers are not the given one. -/
def OffchainMessage.otherSigners (m : OffchainMessage) (key : Pubkey) : ℕ :=
  m.signers.countP fun signer => signer ≠ key

/-- **The review shows the message**: every item is there, in order, and says what the signed bytes
say. -/
def OffchainMessage.ShownBy (m : OffchainMessage) (key : Pubkey) (hash : Hash)
    (s : TransactionSummary) : Prop :=
  s.finalize = .ok (s.usedItems.map (·.value.kind)) ∧
    s.usedItems.map SummaryItem.titled = m.fields key (m.otherSigners key) hash

/-! ## The items -/

/-- The summary holds a primary item and general ones, and nothing else. -/
structure TransactionSummary.Holds (s : TransactionSummary) (primary : SummaryItem)
    (general : List SummaryItem) : Prop where
  primary : s.primary = some primary
  general : s.general = general
  nonceAccount : s.nonceAccount = none
  nonceAuthority : s.nonceAuthority = none
  feePayer : s.feePayer = none

section

variable {s : TransactionSummary} {primary : SummaryItem} {general : List SummaryItem}

theorem TransactionSummary.Holds.usedItems_eq (h : s.Holds primary general) :
    s.usedItems = primary :: general := by
  rw [TransactionSummary.usedItems, h.primary, h.general, h.nonceAccount, h.nonceAuthority,
    h.feePayer]
  simp

/-- **A general slot is free** while there are fewer items than slots. -/
theorem TransactionSummary.Holds.put (h : s.Holds primary general)
    (hroom : general.length < numGeneralItems) (title : String) (value : SummaryValue) :
    ∃ s', putItem s .general title value = .ok s' ∧ s'.Holds primary (general ++ [⟨title, value⟩])
    := by
  have hroom' : s.general.length < numGeneralItems := h.general ▸ hroom
  refine ⟨{ s with general := s.general ++ [⟨title, value⟩], size := by simpa using hroom' }, ?_,
    h.primary, ?_, h.nonceAccount, h.nonceAuthority, h.feePayer⟩
  · rw [putItem, TransactionSummary.put, dif_pos hroom']
  · exact congrArg (· ++ [⟨title, value⟩]) h.general

/-- An item that is put up under a condition, in front of what follows. -/
theorem TransactionSummary.Holds.putIf (h : s.Holds primary general)
    (hroom : general.length < numGeneralItems) (c : Prop) [Decidable c] (title : String)
    (value : SummaryValue) :
    ∃ s' : TransactionSummary, (∀ {β : Type} (next : TransactionSummary → Result β),
      (if c then putItem s .general title value >>= next else .ok s >>= next) = next s') ∧
      s'.Holds primary (general ++ if c then [⟨title, value⟩] else []) := by
  by_cases hc : c
  · obtain ⟨s', hput, h'⟩ := h.put hroom title value
    simp only [if_pos hc, hput]
    exact ⟨s', fun _ => rfl, h'⟩
  · simp only [if_neg hc, List.append_nil]
    exact ⟨s, fun _ => rfl, h⟩

/-- The item of the application domain, if there is one. -/
def domainItems (header : OffchainMessageHeader) : List SummaryItem :=
  header.applicationDomain.toList.map fun domain =>
    if domain.val = Block.zero 32 then
      ⟨"Application", .string (.lit "Domain not provided" nul_notMem_domainNotProvided)⟩
    else ⟨"Application", .applicationDomain domain⟩

theorem length_domainItems_le (header : OffchainMessageHeader) :
    (domainItems header).length ≤ 1 := by
  rw [domainItems, List.length_map]
  rcases header.applicationDomain with _ | domain
  · exact Nat.zero_le 1
  · exact Nat.le_refl 1

theorem TransactionSummary.Holds.uiApplicationDomain (h : s.Holds primary general)
    (hroom : general.length < numGeneralItems) (header : OffchainMessageHeader) :
    ∃ s', AgencLedger.uiApplicationDomain header s = .ok s' ∧
      s'.Holds primary (general ++ domainItems header) := by
  unfold AgencLedger.uiApplicationDomain domainItems
  rcases header.applicationDomain with _ | domain
  · simp only [Option.toList_none, List.map_nil, List.append_nil]
    exact ⟨s, rfl, h⟩
  · by_cases hempty : domain.val = Block.zero 32
    · simp only [if_pos hempty, Option.toList_some, List.map_cons, List.map_nil]
      exact h.put hroom _ _
    · simp only [if_neg hempty, Option.toList_some, List.map_cons, List.map_nil]
      exact h.put hroom _ _

end

/-- The general items of expert mode. -/
def expertItems (header : OffchainMessageHeader) (messageHash : Hash) : List SummaryItem :=
  (if header.signers.length > 1 then
      [⟨"Other signers", .u64 header.signers.length.toUInt64⟩] else []) ++
    domainItems header ++ [⟨"Version", .u64 header.version.toUInt64⟩] ++
    (if header.version = 0 then [⟨"Format", .u64 header.format.toUInt64⟩] else []) ++
    [⟨"Size", .u64 header.length.toUInt64⟩] ++ [⟨"Hash", .hash (.global messageHash)⟩]

/-- **All slots are free**, and hold the items of expert mode. -/
theorem preparePrimaryItems_expert (isAscii : Bool) (messageHash : Hash)
    (header : OffchainMessageHeader) (signer : Ptr Pubkey) :
    ∃ s, preparePrimaryItems true isAscii messageHash header signer .reset = .ok (s, true) ∧
      s.Holds ⟨"Signer", .pubkey signer⟩ (expertItems header messageHash) := by
  have hdomain := length_domainItems_le header
  have hothers : (if header.signers.length > 1 then
      [(⟨"Other signers", .u64 header.signers.length.toUInt64⟩ : SummaryItem)] else []).length
        ≤ 1 :=
    by split <;> simp
  have hformat : (if header.version = 0 then
      [(⟨"Format", .u64 header.format.toUInt64⟩ : SummaryItem)] else []).length ≤ 1 :=
    by split <;> simp
  obtain ⟨s₀, hput₀, h₀⟩ : ∃ s, putItem .reset TransactionSummary.reset.primaryOrGeneral "Signer"
      (.pubkey signer) = .ok s ∧ s.Holds ⟨"Signer", .pubkey signer⟩ [] :=
    ⟨_, rfl, rfl, rfl, rfl, rfl, rfl⟩
  obtain ⟨s₁, hput₁, h₁⟩ := h₀.putIf (by decide) (header.signers.length > 1) "Other signers"
    (.u64 header.signers.length.toUInt64)
  rw [List.nil_append] at h₁
  obtain ⟨s₂, hput₂, h₂⟩ := h₁.uiApplicationDomain (by rw [numGeneralItems]; omega) header
  obtain ⟨s₃, hput₃, h₃⟩ := h₂.put (by simp only [List.length_append, numGeneralItems]; omega)
    "Version" (.u64 header.version.toUInt64)
  obtain ⟨s₄, hput₄, h₄⟩ := h₃.putIf (by
    simp only [List.length_append, List.length_singleton, numGeneralItems]
    omega) (header.version = 0) "Format" (.u64 header.format.toUInt64)
  obtain ⟨s₅, hput₅, h₅⟩ := h₄.put (by
    simp only [List.length_append, List.length_singleton, numGeneralItems]
    omega) "Size" (.u64 header.length.toUInt64)
  obtain ⟨s₆, hput₆, h₆⟩ := h₅.put (by
    simp only [List.length_append, List.length_singleton, numGeneralItems]
    omega) "Hash" (.hash (.global messageHash))
  refine ⟨s₆, ?_, h₆⟩
  rw [preparePrimaryItems, if_pos rfl, hput₀, ok_bind]
  dsimp only
  rw [hput₁, hput₂, ok_bind, hput₃, ok_bind, hput₄, hput₅, ok_bind, hput₆]
  rfl

/-! ## What they say -/

theorem titled_domainItems {version : OffchainVersion} {header : OffchainMessageHeader}
    (h : version.Matches header) :
    (domainItems header).map SummaryItem.titled = version.domainFields := by
  rcases version with ⟨applicationDomain, format⟩ | _
  · obtain ⟨domain, hdomain, rfl⟩ := Option.map_eq_some_iff.mp h.2.1
    rw [domainItems, hdomain, OffchainVersion.domainFields, applicationDomainField]
    by_cases hempty : domain.val = Block.zero 32
    · simp only [if_pos hempty, Option.toList_some, List.map_cons, List.map_nil]
      rfl
    · simp only [if_neg hempty, Option.toList_some, List.map_cons, List.map_nil]
      rfl
  · rw [domainItems, h.2]
    rfl

theorem titled_versionItems {version : OffchainVersion} {header : OffchainMessageHeader}
    (h : version.Matches header) :
    (("Version", .number header.version.toUInt64.toNat) ::
        ((if header.version = 0 then
          [(⟨"Format", .u64 header.format.toUInt64⟩ : SummaryItem)] else []).map
            SummaryItem.titled))
      = version.versionFields := by
  rcases version with ⟨applicationDomain, format⟩ | _
  · obtain ⟨hzero, -, rfl⟩ := h
    rw [if_pos hzero, hzero]
    simp [SummaryItem.titled, SummaryValue.field, OffchainVersion.versionFields]
  · rw [if_neg (by rw [h.1]; decide), h.1]
    rfl

/-- **The items say what the signed bytes say**, but for the number of other signers. -/
theorem titled_expertItems {m : OffchainMessage} {header : OffchainMessageHeader}
    (hmatches : m.Matches header) (hlt : m.signers.length < 256) (messageHash : Hash)
    (signer : Ptr Pubkey) :
    (⟨"Signer", .pubkey signer⟩ :: expertItems header messageHash).map SummaryItem.titled
      = m.fields signer.val (if m.signers.length > 1 then m.signers.length else 0)
          messageHash := by
  have hcount : header.signers.length = m.signers.length := by
    rw [← hmatches.signers, List.length_map]
  have hsigners : m.signers.length.toUInt64.toNat = m.signers.length := Nat.mod_eq_of_lt (by omega)
  have hothers : (if m.signers.length > 1 then
        [(⟨"Other signers", .u64 m.signers.length.toUInt64⟩ : SummaryItem)] else []).map
          SummaryItem.titled
      = if (if m.signers.length > 1 then m.signers.length else 0) = 0 then []
        else [("Other signers", ReviewField.number
          (if m.signers.length > 1 then m.signers.length else 0))] := by
    by_cases hmany : m.signers.length > 1
    · simp only [if_pos hmany]
      rw [if_neg (by omega)]
      exact congrArg (fun n => [("Other signers", ReviewField.number n)]) hsigners
    · simp only [if_neg hmany, if_true, List.map_nil]
  rw [OffchainMessage.fields, ← hothers, ← titled_domainItems hmatches.version,
    ← titled_versionItems hmatches.version, expertItems, hcount]
  simp only [List.map_cons, List.map_append, List.map_nil, List.append_assoc, List.cons_append,
    List.nil_append]
  have hlength : header.length.toUInt64.toNat = m.content.length := by
    rw [UInt16.toNat_toUInt64, hmatches.length]
  rw [← hlength]
  rfl

/-- **The number of other signers can be read off the fields.** -/
theorem OffchainMessage.fields_inj {m : OffchainMessage} {key : Pubkey} {others others' : ℕ}
    {hash : Hash} (h : m.fields key others hash = m.fields key others' hash) :
    others = others' := by
  -- no other field has the title of this one
  have hhead : ∀ (n : ℕ) rest, m.version.domainFields ++ (m.version.versionFields ++
      [("Size", .number m.content.length), ("Hash", .hash hash)])
        ≠ ("Other signers", .number n) :: rest := by
    intro n rest heq
    rcases hversion : m.version with ⟨applicationDomain, format⟩ | _
    · rw [hversion] at heq
      exact absurd (Prod.mk.inj (List.cons.inj heq).1).1 (by decide)
    · rw [hversion] at heq
      exact absurd (Prod.mk.inj (List.cons.inj heq).1).1 (by decide)
  have htail := (List.cons.inj h).2
  by_cases hzero : others = 0
  · by_cases hzero' : others' = 0
    · rw [hzero, hzero']
    · rw [if_pos hzero, if_neg hzero', List.nil_append, List.singleton_append] at htail
      exact absurd htail (hhead _ _)
  · by_cases hzero' : others' = 0
    · rw [if_neg hzero, if_pos hzero', List.nil_append, List.singleton_append] at htail
      exact absurd htail.symm (hhead _ _)
    · rw [if_neg hzero, if_neg hzero', List.singleton_append, List.singleton_append] at htail
      exact ReviewField.number.inj (congrArg Prod.snd (List.cons.inj htail).1)

/-- **The number shown is right for a single signer only.** -/
theorem otherSigners_eq_iff {m : OffchainMessage} {key : Pubkey} (hkey : key ∈ m.signers) :
    (if m.signers.length > 1 then m.signers.length else 0) = m.otherSigners key ↔
      m.signers.length = 1 := by
  have hlt : m.otherSigners key < m.signers.length := by
    refine Nat.lt_of_le_of_ne List.countP_le_length fun heq => ?_
    have hne := List.countP_eq_length.mp heq key hkey
    exact absurd rfl (of_decide_eq_true hne)
  split
  · omega
  · omega

/-! ## The review -/

section

variable {env : Env} {app : App}

/-- A review needs a confirmation and a message that is not too long. -/
theorem confirm_of_pending (h : (handleSignOffchainMessage env app).1 = .pending) :
    app.command.nonConfirm = false ∧ app.command.message.length ≤ packetDataSize := by
  unfold handleSignOffchainMessage at h
  split at h
  · cases h
  split at h
  · cases h
  rename_i hconfirm hsize
  exact ⟨Bool.not_eq_true _ ▸ hconfirm, Nat.not_lt.mp hsize⟩

/-- **What an accepted message shows** in expert mode. -/
theorem handleSignOffchainMessage_expert (hexpert : app.settings.expertMode = true)
    (haccepted : (handleSignOffchainMessage env app).1 = .pending) {m : OffchainMessage}
    {key : Pubkey} (hkey : env.getPublicKey app.command.derivationPath = some key)
    (hm : m.WellFormed IsAcceptedUtf8 key) (hmessage : app.command.message = m.serialise)
    {hash : Hash} (hhash : env.sdk.sha256 m.content = some hash) :
    (handleSignOffchainMessage env app).2.summary.primary.isSome = true ∧
      (handleSignOffchainMessage env app).2.summary.usedItems.map SummaryItem.titled
        = m.fields key (if m.signers.length > 1 then m.signers.length else 0) hash := by
  obtain ⟨hconfirm, hsize⟩ := confirm_of_pending haccepted
  obtain ⟨header, p, signer, hformatted, hmatches, hcontent, rfl⟩ :=
    hm.exists_formatted hkey hmessage
  rw [handleSignOffchainMessage_of_formatted hconfirm hsize hformatted] at haccepted ⊢
  split at haccepted
  · cases haccepted
  rename_i hblind
  rw [if_neg hblind]
  obtain ⟨s, hitems, hholds⟩ :=
    preparePrimaryItems_expert (isDataAscii p.buffer) hash header signer
  have hset : ((app.withText header).withContentHash env p.buffer).command.messageHash = hash := by
    rw [App.withContentHash, App.withText, hcontent, hhash, hexpert, Bool.or_true, if_pos rfl]
    rfl
  have hmode : ((app.withText header).withContentHash env p.buffer).settings.expertMode = true :=
    hexpert
  rw [setupOffchainSigningUi, hmode, hset, hitems]
  dsimp only
  rw [hholds.primary, Option.isNone_some, Bool.and_false, if_neg Bool.false_ne_true,
    App.startReview]
  refine ⟨by rw [hholds.primary]; rfl, ?_⟩
  rw [hholds.usedItems_eq]
  exact titled_expertItems hmatches hm.signers_lt hash signer

end

/-- **Expert mode shows an accepted message faithfully exactly when it has a single signer.**
All slots that are asked for are free, every accepted message is well formed, and with more than one
signer the number of the others is wrong: it counts all of them. -/
theorem shownBy_iff (env : Env) (app : App) (sha256 : List UInt8 → Hash)
    (hsha256 : ∀ data, env.sdk.sha256 data = some (sha256 data))
    (hexpert : app.settings.expertMode = true)
    (haccepted : (handleSignOffchainMessage env app).1 = .pending) :
    (∀ isAscii messageHash header signer,
      ∃ s, preparePrimaryItems true isAscii messageHash header signer .reset = .ok (s, true)) ∧
    (∃ key m, env.getPublicKey app.command.derivationPath = some key ∧
      OffchainMessage.WellFormed IsAcceptedUtf8 key m ∧ app.command.message = m.serialise) ∧
    ∀ key m, env.getPublicKey app.command.derivationPath = some key →
      OffchainMessage.WellFormed IsAcceptedUtf8 key m → app.command.message = m.serialise →
      (m.ShownBy key (sha256 m.content) (handleSignOffchainMessage env app).2.summary ↔
        m.signers.length = 1) := by
  obtain ⟨hconfirm, hsize⟩ := confirm_of_pending haccepted
  refine ⟨?_, ?_, ?_⟩
  · intro isAscii messageHash header signer
    obtain ⟨s, hitems, -⟩ := preparePrimaryItems_expert isAscii messageHash header signer
    exact ⟨s, hitems⟩
  · obtain ⟨header, p, signer, h⟩ := (passesFormatChecks_iff hconfirm hsize).mp (.inl haccepted)
    obtain ⟨m, hkey, hm, hmessage, -, -⟩ := h.exists_message
    exact ⟨signer.val, m, hkey, hm, hmessage⟩
  · intro key m hkey hm hmessage
    obtain ⟨hprimary, hfields⟩ :=
      handleSignOffchainMessage_expert hexpert haccepted hkey hm hmessage
      (hsha256 m.content)
    rw [OffchainMessage.ShownBy, hfields, ← otherSigners_eq_iff hm.signer]
    constructor
    · rintro ⟨-, h⟩
      exact OffchainMessage.fields_inj h
    · intro h
      refine ⟨?_, by rw [h]⟩
      rw [TransactionSummary.finalize, if_neg]
      rw [Option.isNone_iff_eq_none]
      rintro hnone
      rw [hnone] at hprimary
      cases hprimary

/-- The SHA-256 hash of the text `hi`. -/
def hiHash : Hash :=
  ⟨[143, 67, 67, 70, 100, 143, 107, 150, 223, 137, 221, 169, 1, 197, 23, 107, 16, 166, 216, 57, 97,
    221, 60, 26, 200, 139, 89, 178, 220, 50, 122, 164], rfl⟩

/-- A hash function that is right about that text. -/
def hiSha256 (content : List UInt8) : Hash :=
  if content = [104, 105] then hiHash else Block.zero 32

/-- The environment and the app of the messages here, in expert mode. -/
def expertEnv : Env :=
  .plain ⟨fun content => some (hiSha256 content), fun _ => false, fun _ _ => none⟩ plainSigner

def expertApp (message : List UInt8) : App :=
  { offchainApp message with settings := { dashboardApp.settings with expertMode := true } }

/-- The theorem on the text `hi` of a single signer. -/
theorem shownBy_iff_hi :
    let m : OffchainMessage := ⟨.v1, [plainSigner], [104, 105]⟩
    m.ShownBy plainSigner hiHash
      (handleSignOffchainMessage expertEnv (expertApp m.serialise)).2.summary := by
  intro m
  have hm : m.WellFormed IsAcceptedUtf8 plainSigner :=
    wellFormed_v1 (by decide) (by decide) ((isDataUtf8_iff _).mp (by decide))
  exact ((shownBy_iff expertEnv (expertApp m.serialise) hiSha256 (fun _ => rfl) rfl
    (by decide)).2.2 plainSigner m rfl hm rfl).mpr rfl

/-- The text `hi` of two signers. -/
def twoSignerMessage : OffchainMessage :=
  ⟨.v1, [plainSigner, ⟨List.replicate 32 2, rfl⟩], [104, 105]⟩

theorem wellFormed_twoSignerMessage : twoSignerMessage.WellFormed IsAcceptedUtf8 plainSigner where
  format_le := fun _ _ h => nomatch h
  signers_pos := by decide
  signers_lt := by decide
  ascending := fun _ => by decide
  signer := by decide
  content_pos := by decide
  content_lt := by decide
  text := (isDataUtf8_iff _).mp (by decide)
  ascii := fun _ h => nomatch h

/-- **Two signers are shown as two others.** -/
theorem twoSignerMessage_not_shownBy :
    ¬∀ (env : Env) (app : App) (sha256 : List UInt8 → Hash),
      (∀ data, env.sdk.sha256 data = some (sha256 data)) → app.settings.expertMode = true →
      (handleSignOffchainMessage env app).1 = .pending →
      ∀ key m, env.getPublicKey app.command.derivationPath = some key →
        OffchainMessage.WellFormed IsAcceptedUtf8 key m → app.command.message = m.serialise →
        m.ShownBy key (sha256 m.content) (handleSignOffchainMessage env app).2.summary := by
  intro h
  have haccepted : (handleSignOffchainMessage expertEnv
      (expertApp twoSignerMessage.serialise)).1 = .pending := by decide
  obtain ⟨-, hshown⟩ := h expertEnv (expertApp twoSignerMessage.serialise) hiSha256
    (fun _ => rfl) rfl haccepted plainSigner twoSignerMessage rfl wellFormed_twoSignerMessage rfl
  obtain ⟨-, hfields⟩ := @handleSignOffchainMessage_expert expertEnv
    (expertApp twoSignerMessage.serialise) rfl haccepted twoSignerMessage plainSigner rfl
    wellFormed_twoSignerMessage rfl hiHash rfl
  have hothers := OffchainMessage.fields_inj (hfields.symm.trans hshown)
  revert hothers
  decide

end AgencLedger
