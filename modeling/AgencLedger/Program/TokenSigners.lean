import AgencLedger.Sol.Message

/-!
# Program/TokenSigners — the signers of a Token-2022 transfer, and its hook

The fourth account of a transfer is its owner, who signs the message, or a multisig account, which
its signers follow.  What follows these belongs to a transfer hook.  The parser tells signers by
their index, but does not look at the index of a multisig's first signer; and the iterator counts
the accounts in a byte.
-/

namespace AgencLedger

/-! ## Walking the accounts to their end -/

/-- The accounts an iterator walks: their number is taken modulo 256. -/
def Instruction.walked (instruction : Instruction) : List UInt8 :=
  instruction.accounts.val.take (instruction.accounts.val.length % 256)

/-- The next account is the one at the position, and the iterator goes on to the last one that is
walked. -/
structure Cursor.Walks (header : MessageHeader) (instruction : Instruction) (i : ℕ) (c : Cursor) :
    Prop extends c.At header instruction i where
  length : c.it.length = instruction.accounts.val.length.toUInt8

section

variable {header : MessageHeader} {instruction : Instruction} {i : ℕ}

theorem Instruction.length_walked (instruction : Instruction) :
    instruction.walked.length = instruction.accounts.val.length % 256 := by
  rw [Instruction.walked, List.length_take]
  exact min_eq_left (Nat.mod_le _ _)

theorem Cursor.walks_init : (Cursor.init header instruction).Walks header instruction 0 :=
  ⟨Cursor.at_init, rfl⟩

theorem Cursor.Walks.length_eq {c : Cursor} (h : c.Walks header instruction i) :
    c.it.length.toNat = instruction.walked.length := by
  rw [h.length, UInt8.toNat_ofNat', Instruction.length_walked]

theorem Cursor.Walks.remaining_eq {c : Cursor} (h : c.Walks header instruction i) :
    c.it.remaining = instruction.walked.length - i := by
  rw [InstructionAccountsIterator.remaining, h.length_eq, h.current]

/-- Short of the end, the account at the position is one of those walked. -/
theorem Instruction.walked_getElem? (h : i < instruction.walked.length) :
    instruction.walked[i]? = instruction.accounts.val[i]? := by
  rw [Instruction.length_walked] at h
  exact List.getElem?_take_of_lt h

theorem nextAccount_walks (i : ℕ) :
    Ensures (Cursor.Walks header instruction i) nextAccount fun p c =>
      (i < instruction.walked.length ∧ instructionAccount header instruction i = some p) ∧
        c.Walks header instruction (i + 1) := by
  intro c p c' hwalks h
  obtain ⟨hp, hat⟩ := nextAccount_ensures i c p c' hwalks.toAt h
  unfold nextAccount at h
  split at h
  · rename_i hlt
    rw [hwalks.length_eq, hwalks.current] at hlt
    obtain ⟨index, -, h⟩ := (Result.seq_ok_iff _ _ _).mp h
    obtain ⟨key, -, h⟩ := (Result.seq_ok_iff _ _ _).mp h
    cases h
    exact ⟨⟨hlt, hp⟩, hat, hwalks.length⟩
  · cases h

theorem skipAccount_walks (i : ℕ) :
    Ensures (Cursor.Walks header instruction i) skipAccount fun _ c =>
      i < instruction.walked.length ∧ c.Walks header instruction (i + 1) := by
  intro c u c' hwalks h
  have hat := skipAccount_ensures i c u c' hwalks.toAt h
  unfold skipAccount at h
  split at h
  · rename_i hlt
    rw [hwalks.length_eq, hwalks.current] at hlt
    cases h
    exact ⟨hlt, hat, hwalks.length⟩
  · cases h

theorem lift_walks {α : Type} {step : ParseM α} :
    Ensures (Cursor.Walks header instruction i) (liftM step : InstrM α) fun _ c =>
      c.Walks header instruction i := by
  intro c a c' hwalks h
  have hat := lift_ensures c a c' hwalks.toAt h
  obtain ⟨p, -, hc⟩ := InstrM.lift_ok_iff.mp h
  cases hc
  exact ⟨hat, hwalks.length⟩

theorem instrBailIf_walks {b : Bool} :
    Ensures (Cursor.Walks header instruction i) (instrBailIf b) fun _ c =>
      b = false ∧ c.Walks header instruction i := by
  intro c u c' hwalks h
  obtain ⟨hb, hc⟩ := instrBailIf_ok_iff.mp h
  cases hc
  exact ⟨hb, hwalks⟩

theorem remainingAccounts_walks :
    Ensures (Cursor.Walks header instruction i) remainingAccounts fun n c =>
      n = instruction.walked.length - i ∧ c.Walks header instruction i := by
  intro c n c' hwalks h
  cases h
  exact ⟨hwalks.remaining_eq, hwalks⟩

/-- The index of the account at the position, none at the end of those walked. -/
theorem currentAccountIndex_walks :
    Ensures (Cursor.Walks header instruction i) currentAccountIndex fun r c =>
      r = instruction.walked[i]? ∧ c.Walks header instruction i := by
  intro c r c' hwalks h
  unfold currentAccountIndex at h
  split at h
  · rename_i hend
    cases h
    rw [hwalks.remaining_eq] at hend
    exact ⟨(List.getElem?_eq_none (by omega)).symm, hwalks⟩
  · rename_i hmore
    obtain ⟨index, hindex, h⟩ := (Result.seq_ok_iff _ _ _).mp h
    cases h
    rw [hwalks.remaining_eq] at hmore
    rw [readAt_eq_ok, hwalks.accounts, hwalks.current] at hindex
    rw [Instruction.walked_getElem? (by omega)]
    exact ⟨hindex.symm, hwalks⟩

/-! ## The signers -/

/-- The account signs the message: its key is one of the first `num_required_signatures`. -/
def MessageHeader.isRequiredSigner (header : MessageHeader) (index : UInt8) : Bool :=
  index < header.pubkeysHeader.numRequiredSignatures

/-- The accounts from a position on that sign the message, up to the first that does not. -/
def signerRun (header : MessageHeader) (accounts : List UInt8) (i : ℕ) : List UInt8 :=
  (accounts.drop i).takeWhile header.isRequiredSigner

theorem signerRun_of_signer {accounts : List UInt8} {index : UInt8} (hi : accounts[i]? = some index)
    (hsigner : header.isRequiredSigner index = true) :
    signerRun header accounts i = index :: signerRun header accounts (i + 1) := by
  obtain ⟨hlt, rfl⟩ := List.getElem?_eq_some_iff.mp hi
  rw [signerRun, List.drop_eq_getElem_cons hlt, List.takeWhile_cons_of_pos hsigner]
  rfl

theorem signerRun_of_not_signer {accounts : List UInt8} {index : UInt8}
    (hi : accounts[i]? = some index) (hsigner : header.isRequiredSigner index = false) :
    signerRun header accounts i = [] := by
  obtain ⟨hlt, rfl⟩ := List.getElem?_eq_some_iff.mp hi
  rw [signerRun, List.drop_eq_getElem_cons hlt,
    List.takeWhile_cons_of_neg (Bool.not_eq_true _ ▸ hsigner)]

theorem signerRun_of_end {accounts : List UInt8} (hi : accounts[i]? = none) :
    signerRun header accounts i = [] := by
  rw [signerRun, List.drop_eq_nil_of_le (List.getElem?_eq_none_iff.mp hi)]
  rfl

/-- **The loop counts the signers that come next** and stops behind them. -/
theorem skipSigners_walks (fuel i : ℕ) (signersCount : UInt8)
    (hfuel : instruction.walked.length ≤ i + fuel) (hroom : signersCount.toNat + fuel < 256) :
    Ensures (Cursor.Walks header instruction i)
      (skipSigners header.pubkeysHeader.numRequiredSignatures fuel signersCount) fun count c =>
        count.toNat = signersCount.toNat + (signerRun header instruction.walked i).length ∧
          c.Walks header instruction (i + (signerRun header instruction.walked i).length) := by
  induction fuel generalizing i signersCount with
  | zero =>
      refine .pure fun c hwalks => ?_
      rw [signerRun_of_end (List.getElem?_eq_none (by omega))]
      exact ⟨rfl, hwalks⟩
  | succ fuel ih =>
      refine currentAccountIndex_walks.seq fun r => .of_and fun hr => ?_
      rcases r with _ | index
      · -- the accounts are at their end
        refine .pure fun c hwalks => ?_
        rw [signerRun_of_end hr.symm]
        exact ⟨rfl, hwalks⟩
      · by_cases hsigner : index < header.pubkeysHeader.numRequiredSignatures
        · simp only [hsigner, if_true]
          rw [signerRun_of_signer hr.symm (decide_eq_true hsigner)]
          refine (skipAccount_walks i).seq fun _ => .of_and fun _ => ?_
          have hcount : (signersCount + 1).toNat = signersCount.toNat + 1 := by
            rw [UInt8.toNat_add, UInt8.toNat_one]
            omega
          intro c count c' hwalks h
          obtain ⟨hsum, hwalks⟩ := ih (i + 1) (signersCount + 1) (by omega) (by omega) c count c'
            hwalks h
          rw [hcount] at hsum
          rw [List.length_cons]
          exact ⟨by omega, by rwa [Nat.add_right_comm, Nat.add_assoc] at hwalks⟩
        · simp only [hsigner, if_false]
          refine .pure fun c hwalks => ?_
          rw [signerRun_of_not_signer hr.symm (decide_eq_false hsigner)]
          exact ⟨rfl, hwalks⟩

/-! ## What the parser reads -/

/-- What the parser makes of the accounts it walks: behind a multisig account it takes the next one
for a signer, whether or not that signs the message. -/
inductive SignersRead (header : MessageHeader) (instruction : Instruction) :
    SplTokenSign → Bool → Prop
  | single {index : UInt8} {signer : Ptr Pubkey} {hook : Bool}
      (hindex : instruction.walked[3]? = some index)
      (hsigner : header.isRequiredSigner index = true)
      (haccount : instructionAccount header instruction 3 = some signer)
      (hhook : hook = true ↔ 4 < instruction.walked.length) :
      SignersRead header instruction (.single signer) hook
  | multi {index count : UInt8} {account first : Ptr Pubkey} {hook : Bool}
      (hindex : instruction.walked[3]? = some index)
      (hsigner : header.isRequiredSigner index = false)
      (haccount : instructionAccount header instruction 3 = some account)
      (hfirst : instructionAccount header instruction 4 = some first)
      (hlength : 4 < instruction.walked.length)
      (hcount : count.toNat = 1 + (signerRun header instruction.walked 5).length)
      (hlimit : count.toNat ≤ tokenMaxSigners)
      (hhook : hook = true ↔
        5 + (signerRun header instruction.walked 5).length < instruction.walked.length) :
      SignersRead header instruction (.multi account ⟨first, count⟩) hook

theorem parseSplTokenHook_walks :
    Ensures (Cursor.Walks header instruction i) parseSplTokenHook fun hook _ =>
      (hook = true ↔ i < instruction.walked.length) :=
  remainingAccounts_walks.seq fun n => .of_and fun hn => .pure fun _ _ => by
    rw [decide_eq_true_iff, hn]
    omega

/-- **The signers and the hook of a Token-2022 transfer.** -/
theorem parseSplToken2022Sign_hook_walks :
    Ensures (Cursor.Walks header instruction 3)
      (parseSplToken2022Sign header >>= fun sign =>
        parseSplTokenHook >>= fun hook => pure (sign, hook))
      fun r _ => SignersRead header instruction r.1 r.2 := by
  intro c r c' hwalks h
  obtain ⟨sign, c₁, hsign, h⟩ := (Result.step_seq_ok_iff _ _ _ _).mp h
  obtain ⟨hook, c₂, hhook, h⟩ := (Result.step_seq_ok_iff _ _ _ _).mp h
  cases h
  obtain ⟨fourth, c₃, hfourth, hsign⟩ := (Result.step_seq_ok_iff _ _ _ _).mp hsign
  obtain ⟨hindex, hwalks⟩ := currentAccountIndex_walks _ _ _ hwalks hfourth
  rcases fourth with _ | index
  · cases hsign
  · by_cases hlt : index < header.pubkeysHeader.numRequiredSignatures
    · simp only [hlt, if_true] at hsign
      obtain ⟨signer, c₄, hsigner, hsign⟩ := (Result.step_seq_ok_iff _ _ _ _).mp hsign
      cases hsign
      obtain ⟨⟨-, haccount⟩, hwalks⟩ := nextAccount_walks 3 _ _ _ hwalks hsigner
      exact .single hindex.symm (decide_eq_true hlt) haccount
        (parseSplTokenHook_walks _ _ _ hwalks hhook)
    · simp only [hlt, if_false] at hsign
      obtain ⟨account, c₄, haccount, hsign⟩ := (Result.step_seq_ok_iff _ _ _ _).mp hsign
      obtain ⟨first, c₅, hfirst, hsign⟩ := (Result.step_seq_ok_iff _ _ _ _).mp hsign
      obtain ⟨left, c₆, hleft, hsign⟩ := (Result.step_seq_ok_iff _ _ _ _).mp hsign
      obtain ⟨count, c₇, hcount, hsign⟩ := (Result.step_seq_ok_iff _ _ _ _).mp hsign
      obtain ⟨u, c₈, hbail, hsign⟩ := (Result.step_seq_ok_iff _ _ _ _).mp hsign
      cases hsign
      obtain ⟨⟨-, haccount⟩, hwalks⟩ := nextAccount_walks 3 _ _ _ hwalks haccount
      obtain ⟨⟨hlength, hfirst⟩, hwalks⟩ := nextAccount_walks 4 _ _ _ hwalks hfirst
      obtain ⟨rfl, hwalks⟩ := remainingAccounts_walks _ _ _ hwalks hleft
      have hlt256 : instruction.walked.length < 256 := by
        rw [Instruction.length_walked]
        exact Nat.mod_lt _ (by omega)
      have hroom : (1 : UInt8).toNat + (instruction.walked.length - 5) < 256 := by
        rw [UInt8.toNat_one]
        omega
      obtain ⟨hsum, hwalks⟩ := skipSigners_walks _ 5 1 (by omega) hroom _ _ _ hwalks hcount
      obtain ⟨hlimit, hwalks⟩ := instrBailIf_walks _ _ _ hwalks hbail
      exact .multi hindex.symm (decide_eq_false hlt) haccount hfirst hlength hsum
        (Nat.le_of_not_lt (of_decide_eq_false hlimit))
        (parseSplTokenHook_walks _ _ _ hwalks hhook)

theorem parseTransferSplTokenInstruction_signers {ctx : TokenContext} {withFee : Bool} :
    Ensures (Cursor.Walks header instruction 0)
      (parseTransferSplTokenInstruction ctx header withFee true) fun info _ =>
        SignersRead header instruction info.sign info.isTransferCheckedWithHook :=
  lift_walks.seq fun _ => lift_walks.seq fun _ => lift_walks.seq fun _ =>
    (nextAccount_walks 0).seq fun _ => .of_and fun _ =>
    (nextAccount_walks 1).seq fun _ => .of_and fun _ =>
    (nextAccount_walks 2).seq fun _ => .of_and fun _ =>
    parseSplToken2022Sign_hook_walks.seq fun _ => by
      intro c info c' hread h
      obtain ⟨u, c₁, -, h⟩ := (Result.step_seq_ok_iff _ _ _ _).mp h
      cases h
      exact hread

/-- What the parser of token instructions reads of a Token-2022 transfer. -/
theorem parseSplTokenInstructions_signers {ctx : TokenContext} {info : SplTokenInfo}
    {ignored : Bool}
    (h : (parseSplTokenInstructions ctx header instruction).parse header instruction
      = .ok (info, ignored))
    (h2022 : info.isToken2022Kind = true) {transfer : SplTokenTransferInfo}
    (htransfer : info.body = .transferChecked transfer ∨
      info.body = .transferCheckedWithFee transfer) :
    SignersRead header instruction transfer.sign transfer.isTransferCheckedWithHook := by
  obtain ⟨c, h⟩ := InstrM.parse_ok_iff.mp h
  obtain ⟨kind, c₁, hkind, h⟩ := (Result.step_seq_ok_iff _ _ _ _).mp h
  obtain ⟨isToken2022Kind, c₂, hcall, h⟩ := (Result.step_seq_ok_iff _ _ _ _).mp h
  have hwalks := lift_walks _ _ _ Cursor.walks_init hkind
  rw [← (InstrM.call_ok hcall).2] at hwalks
  cases kind with
  | transferChecked =>
      obtain ⟨body, c₃, hbody, h⟩ := (Result.step_seq_ok_iff _ _ _ _).mp h
      cases h
      obtain rfl : isToken2022Kind = true := h2022
      obtain rfl : body = transfer := by simpa using htransfer
      exact parseTransferSplTokenInstruction_signers _ _ _ hwalks hbody
  | extension kind =>
      cases kind with
      | transferFeeExtension =>
          obtain ⟨u, c₃, hbail, h⟩ := (Result.step_seq_ok_iff _ _ _ _).mp h
          obtain ⟨withFee, c₄, hfee, h⟩ := (Result.step_seq_ok_iff _ _ _ _).mp h
          obtain ⟨-, hwalks⟩ := instrBailIf_walks _ _ _ hwalks hbail
          replace hwalks := lift_walks _ _ _ hwalks hfee
          cases withFee with
          | true =>
              obtain ⟨body, c₅, hbody, h⟩ := (Result.step_seq_ok_iff _ _ _ _).mp h
              cases h
              obtain rfl : isToken2022Kind = true := h2022
              obtain rfl : body = transfer := by simpa using htransfer
              exact parseTransferSplTokenInstruction_signers _ _ _ hwalks hbody
          | false =>
              cases h
              rcases htransfer with hbody | hbody <;> cases hbody
      | _ =>
          cases h
          rcases htransfer with hbody | hbody <;> cases hbody
  | _ =>
      obtain ⟨body, c₃, -, h⟩ := (Result.step_seq_ok_iff _ _ _ _).mp h
      cases h
      rcases htransfer with hbody | hbody <;> cases hbody

/-! ## What the accounts tell -/

/-- **The signers as the accounts give them**: the fourth account where it signs the message, else
all those behind it that do, up to the first that does not; and what is left is the hook's. -/
inductive SignersTold (header : MessageHeader) (instruction : Instruction) :
    SplTokenSign → Bool → Prop
  | single {index : UInt8} {signer : Ptr Pubkey} {hook : Bool}
      (hindex : instruction.accounts.val[3]? = some index)
      (hsigner : header.isRequiredSigner index = true)
      (haccount : instructionAccount header instruction 3 = some signer)
      (hhook : hook = true ↔ 4 < instruction.accounts.val.length) :
      SignersTold header instruction (.single signer) hook
  | multi {index count : UInt8} {account first : Ptr Pubkey} {hook : Bool}
      (hindex : instruction.accounts.val[3]? = some index)
      (hsigner : header.isRequiredSigner index = false)
      (haccount : instructionAccount header instruction 3 = some account)
      (hfirst : instructionAccount header instruction 4 = some first)
      (hcount : count.toNat = (signerRun header instruction.accounts.val 4).length)
      (hone : 1 ≤ count.toNat) (hlimit : count.toNat ≤ tokenMaxSigners)
      (hhook : hook = true ↔ 4 + (signerRun header instruction.accounts.val 4).length
        < instruction.accounts.val.length) :
      SignersTold header instruction (.multi account ⟨first, count⟩) hook

/-- Where the signers of a transfer end. -/
def signersEnd (header : MessageHeader) (accounts : List UInt8) : ℕ :=
  if accounts[3]?.any header.isRequiredSigner then 4
  else 4 + (signerRun header accounts 4).length

/-- The signers among the accounts that are walked. -/
theorem length_signerRun_walked :
    (signerRun header instruction.walked i).length =
      min (instruction.walked.length - i) (signerRun header instruction.accounts.val i).length := by
  rw [Instruction.length_walked, signerRun, signerRun, Instruction.walked, List.drop_take,
    ← List.take_takeWhile, List.length_take]

theorem length_signerRun_le (accounts : List UInt8) :
    (signerRun header accounts i).length ≤ accounts.length - i := by
  rw [← List.length_drop]
  exact (List.takeWhile_sublist _).length_le

/-- **When the parser reads the signers that the accounts give**: the owner signs, or the first
signer of the multisig does; and the count of the accounts fits a byte, or its lowest byte still
reaches behind the signers. -/
theorem signersTold_iff {ctx : TokenContext} {info : SplTokenInfo} {ignored : Bool}
    (h : (parseSplTokenInstructions ctx header instruction).parse header instruction
      = .ok (info, ignored))
    (h2022 : info.isToken2022Kind = true) {transfer : SplTokenTransferInfo}
    (htransfer : info.body = .transferChecked transfer ∨
      info.body = .transferCheckedWithFee transfer) :
    SignersTold header instruction transfer.sign transfer.isTransferCheckedWithHook ↔
      (instruction.accounts.val[3]?.any header.isRequiredSigner = true ∨
        instruction.accounts.val[4]?.any header.isRequiredSigner = true) ∧
      (instruction.accounts.val.length < 256 ∨
        signersEnd header instruction.accounts.val < instruction.accounts.val.length % 256) := by
  have hread := parseSplTokenInstructions_signers h h2022 htransfer
  have hwalked := Instruction.length_walked instruction
  rcases hsign : transfer.sign with signer | ⟨account, first, count⟩
  · -- the owner signs: only the hook is in question
    rw [hsign] at hread
    obtain ⟨hindex, hsigner, haccount, hhook⟩ := hread
    rename_i index
    have hlt : 3 < instruction.walked.length := (List.getElem?_eq_some_iff.mp hindex).1
    rw [Instruction.walked_getElem? hlt] at hindex
    have hany : instruction.accounts.val[3]?.any header.isRequiredSigner = true := by
      rw [hindex]
      exact hsigner
    rw [signersEnd, if_pos hany, ← hwalked]
    constructor
    · rintro (⟨-, -, -, hhook'⟩ | -)
      rw [hhook'] at hhook
      exact ⟨.inl hany, by omega⟩
    · rintro ⟨-, hfit⟩
      exact .single hindex hsigner haccount (hhook.trans (by omega))
  · rw [hsign] at hread
    rcases hread with _ | ⟨hindex, hsigner, haccount, hfirst, hlength, hcount, hlimit, hhook⟩
    rename_i index
    rw [Instruction.walked_getElem? (by omega)] at hindex
    have hany : instruction.accounts.val[3]?.any header.isRequiredSigner = false := by
      rw [hindex]
      exact hsigner
    obtain ⟨fifth, hfifth⟩ : ∃ fifth, instruction.accounts.val[4]? = some fifth := by
      rw [← Instruction.walked_getElem? hlength]
      exact ⟨_, List.getElem?_eq_getElem hlength⟩
    have hrun := @length_signerRun_walked header instruction 5
    have hle := @length_signerRun_le header 5 instruction.accounts.val
    rw [signersEnd, if_neg (Bool.not_eq_true _ ▸ hany), hany, hfifth, ← hwalked]
    rcases hsigner₄ : header.isRequiredSigner fifth with _ | _
    · -- the first signer of the multisig does not sign
      refine iff_of_false ?_ ?_
      · rintro (- | ⟨-, -, -, -, hcount', hone, -, -⟩)
        rw [signerRun_of_not_signer hfifth hsigner₄, List.length_nil] at hcount'
        omega
      · rintro ⟨hor | hor, -⟩
        · cases hor
        · rw [Option.any_some, hsigner₄] at hor
          cases hor
    · have hcons : signerRun header instruction.accounts.val 4
          = fifth :: signerRun header instruction.accounts.val 5 :=
        signerRun_of_signer hfifth hsigner₄
      rw [hcons, List.length_cons]
      constructor
      · rintro (- | ⟨-, -, -, -, hcount', -, -, hhook'⟩)
        rw [hcons, List.length_cons] at hcount' hhook'
        rw [hhook'] at hhook
        exact ⟨.inr (by rw [Option.any_some, hsigner₄]), by omega⟩
      · rintro ⟨-, hfit⟩
        refine .multi hindex hsigner haccount hfirst ?_ (by omega) hlimit (hhook.trans ?_)
        · rw [hcons, List.length_cons]
          omega
        · rw [hcons, List.length_cons]
          omega

end

/-! ## A transfer to the wallet's token account -/

/-- A context that was told of the wallet's account of the Token-2022 mint. -/
def walletContext : TokenContext where
  sdk := walletSdk
  tokenRegistry := []
  trustedInfo := some ⟨true, .lit "LbUiWL3xVV8hTFYBVdbTNrpDo41NKS6o3LHHuDzjfcY", walletKey,
    .lit "48btkZZQEcWRRtvhu48DLmG34SnANuudDEYK6HzhdSdZ", token2022Account,
    .lit "2b1kV6DkPAnxd5ixfnxCpjxmKwqjjaYmCZfHsFu24GXo", token2022Mint⟩
  dynamicTokenInfo := none

/-- The header of the transfer: the first of its keys is the only one that signs. -/
def walletHeader : MessageHeader :=
  legacyHeader [plainSigner, sourceAccount, token2022Mint, token2022Account, splToken2022ProgramId]
    (by decide) 1

/-- A transfer of 42 from that account to the wallet's. -/
def walletTransfer (owner next : UInt8) : Instruction :=
  ⟨4, ⟨199, [1, 2, 3, owner, next]⟩, ⟨205, [12, 42, 0, 0, 0, 0, 0, 0, 0, 9]⟩⟩

/-- What the parser makes of it. -/
def walletTransferInfo (sign : SplTokenSign) (hook : Bool) : SplTokenTransferInfo :=
  ⟨⟨36, sourceAccount⟩, ⟨100, token2022Account⟩, ⟨68, token2022Mint⟩, sign, 42, 9, none, hook⟩

/-- An owner that signs is the signer, and one more account means a hook. -/
theorem signersTold_iff_owner :
    SignersTold walletHeader (walletTransfer 0 1) (.single ⟨4, plainSigner⟩) true :=
  (@signersTold_iff walletHeader (walletTransfer 0 1) walletContext
    ⟨true, false, .transferChecked (walletTransferInfo (.single ⟨4, plainSigner⟩) true)⟩ false
    (by decide +kernel) rfl _ (.inl rfl)).mpr (by decide)

/-- Behind an owner that does not sign, an account that does not sign either is counted as its
signer, and no hook is seen. -/
theorem signersTold_hidden_hook :
    ¬ ∀ (ctx : TokenContext) (header : MessageHeader) (instruction : Instruction)
      (info : SplTokenInfo) (ignored : Bool) (transfer : SplTokenTransferInfo),
      (parseSplTokenInstructions ctx header instruction).parse header instruction
        = .ok (info, ignored) →
      info.isToken2022Kind = true →
      (info.body = .transferChecked transfer ∨ info.body = .transferCheckedWithFee transfer) →
      SignersTold header instruction transfer.sign transfer.isTransferCheckedWithHook := by
  intro hclaim
  have htold := hclaim walletContext walletHeader (walletTransfer 1 1)
    ⟨true, false, .transferChecked (walletTransferInfo
      (.multi ⟨36, sourceAccount⟩ ⟨⟨36, sourceAccount⟩, 1⟩) false)⟩ false _
    (by decide +kernel) rfl (.inl rfl)
  rcases htold with _ | ⟨-, -, -, -, hcount, -, -, -⟩
  revert hcount
  decide

end AgencLedger
