import AgencLedger.Program.WireFormat

/-!
# Program/TokenFormats — how instructions of the token programs are written

The kind is the first field, a byte.  Behind the accounts of its own an instruction names those that
sign for it: the token program tells a signer from a multisig account by their number, Token-2022 by
whether the account signs the message.
-/

namespace AgencLedger

/-! ## Signers -/

/-- A multisig account has one to eleven signers. -/
def SplTokenMultisigners.Possible (signers : SplTokenMultisigners) : Prop :=
  0 < signers.count.toNat ∧ signers.count.toNat ≤ tokenMaxSigners

/-- All accounts that are left. -/
def SplTokenMultisigners.accounts (signers : SplTokenMultisigners) : List AccountUse :=
  [.left signers.count.toNat, .key signers.first]

namespace SplTokenSign

def Possible : SplTokenSign → Prop
  | single _ => True
  | multi _ signers => signers.Possible

/-- The accounts, for the token program: the last one, or a multisig account and its signers. -/
def accounts : SplTokenSign → List AccountUse
  | single signer => [.left 1, .key signer]
  | multi account signers => .key account :: signers.accounts

/-- The accounts, for Token-2022. -/
def accounts2022 : SplTokenSign → List AccountUse
  | single signer => [.signer signer]
  | multi account signers =>
      [.nonSigner account, .key signers.first, .signers (signers.count.toNat - 1)]

end SplTokenSign

section

variable {header : MessageHeader} {instruction : Instruction}
  (hvalid : instructionValidate instruction header = true)

section

include hvalid

theorem formats_parseSplTokenMultisigners :
    Formats header instruction parseSplTokenMultisigners SplTokenMultisigners.Possible
      (fun _ => []) SplTokenMultisigners.accounts := by
  refine Formats.accounts_iff.mpr fun parser i signers c => ?_
  rw [parseSplTokenMultisigners, step_seq_of_ok (remainingAccounts_place parser i)]
  simp only [SplTokenMultisigners.accounts, AccountsAt, AccountUse.Takes]
  rcases Nat.lt_or_ge i instruction.walked.length with hi | hi
  · obtain ⟨_, key, -, -, hkey⟩ := exists_walkedAccount hvalid hi
    have hnext := nextAccount_place hvalid parser i
    rw [hkey] at hnext
    by_cases hmany : instruction.walked.length - i > tokenMaxSigners
    · rw [decide_eq_true hmany]
      refine iff_of_false (fun h => by cases h) ?_
      rintro ⟨_, -, ⟨-, hle⟩, _, ⟨hleft, -⟩, -⟩
      omega
    rw [decide_eq_false hmany, instrBailIf_false, pure_bind, step_seq_of_ok hnext]
    have hcount : (instruction.walked.length - i).toUInt8.toNat = instruction.walked.length - i :=
      UInt8.toNat_ofNat_of_lt' ((Nat.not_lt.mp hmany).trans_lt (by decide))
    constructor
    · intro h
      cases h
      exact ⟨_, rfl, ⟨hcount.symm ▸ Nat.sub_pos_of_lt hi, hcount.symm ▸ Nat.not_lt.mp hmany⟩, i,
        ⟨hcount.symm, rfl⟩, _, ⟨hkey, rfl⟩, rfl⟩
    · rintro ⟨_, rfl, -, _, ⟨hleft, rfl⟩, _, ⟨hfirst, rfl⟩, rfl⟩
      rw [hkey] at hfirst
      cases hfirst
      rw [hleft, Nat.toUInt8_eq, UInt8.ofNat_toNat]
      rfl
  · refine iff_of_false (fun h => ?_) ?_
    · rw [Nat.sub_eq_zero_of_le hi, decide_eq_false (by decide), instrBailIf_false, pure_bind,
        step_seq_of_error (by rw [nextAccount_place hvalid, walkedAccount_of_ge hi]; rfl)] at h
      cases h
    · rintro ⟨_, -, ⟨hpos, -⟩, _, ⟨hleft, -⟩, -⟩
      omega

theorem formats_parseSplTokenSign :
    Formats header instruction parseSplTokenSign SplTokenSign.Possible (fun _ => [])
      SplTokenSign.accounts := by
  refine Formats.accounts_iff.mpr fun parser i sign c => ?_
  rw [parseSplTokenSign, step_seq_of_ok (remainingAccounts_place parser i)]
  rcases Nat.lt_or_ge i instruction.walked.length with hi | hi
  · obtain ⟨_, key, -, -, hkey⟩ := exists_walkedAccount hvalid hi
    have hnext := nextAccount_place hvalid parser i
    rw [hkey] at hnext
    rw [decide_eq_false (Nat.sub_ne_zero_of_lt hi), instrBailIf_false, pure_bind]
    by_cases hone : instruction.walked.length - i = 1
    · rw [if_pos hone, step_seq_of_ok hnext]
      constructor
      · intro h
        cases h
        exact ⟨_, rfl, trivial, i, ⟨hone, rfl⟩, _, ⟨hkey, rfl⟩, rfl⟩
      · rintro ⟨_, rfl, hpossible, hi'⟩
        cases sign with
        | single signer =>
            obtain ⟨_, ⟨-, rfl⟩, _, ⟨hsigner, rfl⟩, rfl⟩ := hi'
            rw [hkey] at hsigner
            cases hsigner
            rfl
        | multi account signers =>
            obtain ⟨_, ⟨-, rfl⟩, _, ⟨hleft, rfl⟩, -⟩ := hi'
            have := hpossible.1
            omega
    · rw [if_neg hone, step_seq_of_ok hnext, Result.step_seq_ok_iff]
      simp only [Formats.accounts_iff.mp (formats_parseSplTokenMultisigners hvalid)]
      constructor
      · rintro ⟨signers, _, ⟨i', rfl, hpossible, hi'⟩, h⟩
        cases h
        exact ⟨i', rfl, hpossible, _, ⟨hkey, rfl⟩, hi'⟩
      · rintro ⟨i', rfl, hpossible, hi'⟩
        cases sign with
        | single signer =>
            obtain ⟨_, ⟨hleft, rfl⟩, -⟩ := hi'
            exact absurd hleft hone
        | multi account signers =>
            obtain ⟨_, ⟨haccount, rfl⟩, hi'⟩ := hi'
            rw [hkey] at haccount
            cases haccount
            exact ⟨signers, _, ⟨i', rfl, hpossible, hi'⟩, rfl⟩
  · refine iff_of_false (fun h => ?_) ?_
    · rw [decide_eq_true (Nat.sub_eq_zero_of_le hi), instrBailIf_true] at h
      cases h
    · rintro ⟨_, -, -, hi'⟩
      cases sign with
      | single signer =>
          obtain ⟨_, ⟨hleft, -⟩, -⟩ := hi'
          omega
      | multi account signers =>
          obtain ⟨_, ⟨haccount, -⟩, -⟩ := hi'
          rw [walkedAccount_of_ge hi] at haccount
          cases haccount

omit hvalid in
theorem currentAccountIndex_place (parser : Parser) (i : ℕ) :
    currentAccountIndex (.place header instruction parser i)
      = .ok (instruction.walked[i]?, .place header instruction parser i) := by
  have hremaining : (Cursor.place header instruction parser i).it.remaining
      = instruction.walked.length - i := congrArg (· - i) (Cursor.length_place parser i)
  rw [currentAccountIndex, hremaining]
  rcases Nat.lt_or_ge i instruction.walked.length with hi | hi
  · have hwalked := Instruction.walked_getElem? hi
    rw [List.getElem?_eq_getElem hi] at hwalked ⊢
    have hindex : readAt (Cursor.place header instruction parser i).it.accounts
        (Cursor.place header instruction parser i).it.current = .ok instruction.walked[i] :=
      readAt_eq_ok.mpr hwalked.symm
    rw [if_neg (Nat.sub_ne_zero_of_lt hi), hindex]
    rfl
  · rw [if_pos (Nat.sub_eq_zero_of_le hi), List.getElem?_eq_none hi]

/-- **The loop over the signers**, from any account on. -/
theorem skipSigners_place (parser : Parser) (fuel i : ℕ) (signersCount : UInt8)
    (hfuel : instruction.walked.length ≤ i + fuel) :
    skipSigners header.pubkeysHeader.numRequiredSignatures fuel signersCount
        (.place header instruction parser i)
      = .ok (signersCount + UInt8.ofNat (signerRun header instruction.walked i).length,
          .place header instruction parser
            (i + (signerRun header instruction.walked i).length)) := by
  induction fuel generalizing i signersCount with
  | zero =>
      rw [@signerRun_of_end header i _ (List.getElem?_eq_none hfuel), List.length_nil,
        show UInt8.ofNat 0 = 0 from rfl,
          UInt8.add_zero]
      rfl
  | succ fuel ih =>
      rw [skipSigners, step_seq_of_ok (currentAccountIndex_place parser i)]
      rcases hindex : instruction.walked[i]? with _ | index
      · rw [signerRun_of_end hindex, List.length_nil, show UInt8.ofNat 0 = 0 from rfl,
          UInt8.add_zero]
        rfl
      have hi : i < instruction.walked.length := (List.getElem?_eq_some_iff.mp hindex).1
      by_cases hsigner : index < header.pubkeysHeader.numRequiredSignatures
      · have hskip := skipAccount_place hvalid parser i
        rw [if_pos ((walkedAccount_isSome_iff hvalid).mpr hi)] at hskip
        simp only [hsigner, if_true]
        rw [step_seq_of_ok hskip, ih (i + 1) (signersCount + 1) (by omega),
          signerRun_of_signer hindex (decide_eq_true hsigner), List.length_cons, Nat.add_assoc,
          Nat.add_comm 1, UInt8.ofNat_add, UInt8.add_assoc, UInt8.add_comm 1]
        rfl
      · simp only [hsigner, if_false]
        rw [signerRun_of_not_signer hindex (decide_eq_false hsigner), List.length_nil,
          show UInt8.ofNat 0 = 0 from rfl,
          UInt8.add_zero]
        rfl

/-- The signers behind a multisig account and its first signer, all of them counted. -/
def laterSigners (header : MessageHeader) (instruction : Instruction) (i : ℕ) : ℕ :=
  (signerRun header instruction.walked (i + 2)).length

omit hvalid in
theorem toNat_laterSigners (i : ℕ) :
    (1 + UInt8.ofNat (laterSigners header instruction i)).toNat
      = laterSigners header instruction i + 1 := by
  have hlength := @length_signerRun_le header (i + 2) instruction.walked
  have hwalked : instruction.walked.length < 256 := by
    rw [Instruction.length_walked]
    exact Nat.mod_lt _ (by decide)
  rw [UInt8.toNat_add, UInt8.toNat_one, UInt8.toNat_ofNat', laterSigners]
  omega

omit hvalid in
theorem parseSplToken2022Sign_place (parser : Parser) (i : ℕ) :
    parseSplToken2022Sign header (.place header instruction parser i)
      = (match instruction.walked[i]? with
          | none => throw .bail
          | some index =>
              if index < header.pubkeysHeader.numRequiredSignatures then
                return .single (← nextAccount)
              else do
                let account ← nextAccount
                let first ← nextAccount
                let signersCount ← skipSigners header.pubkeysHeader.numRequiredSignatures
                  (← remainingAccounts) 1
                instrBailIf (signersCount.toNat > tokenMaxSigners)
                return .multi account ⟨first, signersCount⟩ : InstrM SplTokenSign)
          (.place header instruction parser i) :=
  step_seq_of_ok (currentAccountIndex_place parser i)

/-- **An account that signs** is the signer. -/
theorem parseSplToken2022Sign_of_signs (parser : Parser) {i : ℕ}
    (hsigns : walkedSigns header instruction i = true) :
    parseSplToken2022Sign header (.place header instruction parser i)
      = (walkedAccount header instruction i).elim (.error .bail) fun key =>
          .ok (.single key, .place header instruction parser (i + 1)) := by
  rw [parseSplToken2022Sign_place]
  rcases hindex : instruction.walked[i]? with _ | index
  · rw [walkedSigns, hindex] at hsigns
    cases hsigns
  rw [walkedSigns, hindex] at hsigns
  have hsigner : index < header.pubkeysHeader.numRequiredSignatures := of_decide_eq_true hsigns
  have hnext := nextAccount_place hvalid parser i
  simp only [hsigner, if_true]
  cases hkey : walkedAccount header instruction i with
  | none =>
      rw [hkey] at hnext
      exact step_seq_of_error hnext
  | some key =>
      rw [hkey] at hnext
      exact step_seq_of_ok hnext

/-- **An account that does not** is a multisig account. -/
theorem parseSplToken2022Sign_of_not_signs (parser : Parser) {i : ℕ}
    (hsigns : walkedSigns header instruction i = false) :
    parseSplToken2022Sign header (.place header instruction parser i)
      = (walkedAccount header instruction i).elim (.error .bail) fun account =>
          (walkedAccount header instruction (i + 1)).elim (.error .bail) fun first =>
            if laterSigners header instruction i + 1 > tokenMaxSigners then .error .bail
            else .ok (.multi account
                ⟨first, 1 + UInt8.ofNat (laterSigners header instruction i)⟩,
              .place header instruction parser
                (i + 2 + laterSigners header instruction i)) := by
  rw [parseSplToken2022Sign_place]
  rcases hindex : instruction.walked[i]? with _ | index
  · rw [walkedAccount, hindex]
    rfl
  have hi : i < instruction.walked.length := (List.getElem?_eq_some_iff.mp hindex).1
  rw [walkedSigns, hindex] at hsigns
  have hsigner : ¬index < header.pubkeysHeader.numRequiredSignatures := of_decide_eq_false hsigns
  obtain ⟨_, key, -, -, hkey⟩ := exists_walkedAccount hvalid hi
  have hnext := nextAccount_place hvalid parser i
  rw [hkey] at hnext ⊢
  simp only [hsigner, if_false]
  rw [step_seq_of_ok hnext]
  have hnext := nextAccount_place hvalid parser (i + 1)
  rcases hfirst : walkedAccount header instruction (i + 1) with _ | first
  · rw [hfirst] at hnext
    exact step_seq_of_error hnext
  · rw [hfirst] at hnext
    rw [step_seq_of_ok hnext, step_seq_of_ok (remainingAccounts_place parser (i + 2)),
      step_seq_of_ok (skipSigners_place hvalid parser _ (i + 2) 1 (by omega))]
    change (instrBailIf (decide
      ((1 + UInt8.ofNat (laterSigners header instruction i)).toNat > tokenMaxSigners)) >>= _) _ = _
    rw [toNat_laterSigners]
    by_cases hmany : laterSigners header instruction i + 1 > tokenMaxSigners
    · rw [decide_eq_true hmany]
      exact (if_pos hmany).symm
    · rw [decide_eq_false hmany]
      exact (if_neg hmany).symm

theorem formats_parseSplToken2022Sign :
    Formats header instruction (parseSplToken2022Sign header) SplTokenSign.Possible (fun _ => [])
      SplTokenSign.accounts2022 := by
  refine Formats.accounts_iff.mpr fun parser i sign c => ?_
  cases hsigns : walkedSigns header instruction i with
  | true =>
      rw [parseSplToken2022Sign_of_signs hvalid parser hsigns]
      constructor
      · cases hkey : walkedAccount header instruction i with
        | none => exact fun h => by cases h
        | some key =>
            intro h
            cases h
            exact ⟨_, rfl, trivial, _, ⟨hkey, hsigns, rfl⟩, rfl⟩
      · rintro ⟨_, rfl, -, hi'⟩
        cases sign with
        | single signer =>
            obtain ⟨_, ⟨haccount, -, rfl⟩, rfl⟩ := hi'
            rw [haccount]
            rfl
        | multi account signers =>
            obtain ⟨_, ⟨-, hnot, -⟩, -⟩ := hi'
            cases hsigns.symm.trans hnot
  | false =>
      have hcount := @toNat_laterSigners header instruction i
      rw [parseSplToken2022Sign_of_not_signs hvalid parser hsigns]
      constructor
      · cases hkey : walkedAccount header instruction i with
        | none => exact fun h => by cases h
        | some account =>
            cases hfirst : walkedAccount header instruction (i + 1) with
            | none => exact fun h => by cases h
            | some first =>
                intro h
                rw [Option.elim_some, Option.elim_some] at h
                split at h
                · cases h
                · rename_i hfew
                  cases h
                  refine ⟨_, rfl, ⟨hcount ▸ Nat.succ_pos _, hcount ▸ Nat.not_lt.mp hfew⟩, _,
                    ⟨hkey, hsigns, rfl⟩, _, ⟨hfirst, rfl⟩, _, ⟨?_, rfl⟩, ?_⟩
                  · rw [hcount]
                    rfl
                  · rw [hcount]
                    rfl
      · rintro ⟨_, rfl, hpossible, hi'⟩
        cases sign with
        | single signer =>
            obtain ⟨_, ⟨-, hsign, -⟩, -⟩ := hi'
            cases hsigns.symm.trans hsign
        | multi account signers =>
            obtain ⟨_, ⟨haccount, -, rfl⟩, _, ⟨hfirst, rfl⟩, _, ⟨hsigners, rfl⟩, rfl⟩ := hi'
            obtain ⟨hpos, hle⟩ := hpossible
            have hlater : laterSigners header instruction i + 1 = signers.count.toNat := by
              rw [laterSigners, hsigners]
              omega
            have heq : 1 + UInt8.ofNat (laterSigners header instruction i) = signers.count :=
              UInt8.toNat_inj.mp (hcount.trans hlater)
            rw [haccount, hfirst, Option.elim_some, Option.elim_some, heq, if_neg (by omega),
              ← hlater]
            rfl

omit hvalid in
theorem formats_parseSplTokenHook :
    Formats header instruction parseSplTokenHook (fun _ => True) (fun _ => [])
      fun hook => [.more hook] := by
  refine Formats.accounts_iff.mpr fun parser i hook c => ?_
  rw [parseSplTokenHook, step_seq_of_ok (remainingAccounts_place parser i)]
  simp only [accountsAt_one, AccountUse.Takes, true_and]
  constructor
  · intro h
    cases h
    exact ⟨i, rfl, by rw [decide_eq_true_iff]; omega, rfl⟩
  · rintro ⟨j, rfl, hhook, rfl⟩
    have hmore : decide (instruction.walked.length - j ≠ 0) = hook :=
      Bool.eq_iff_iff.mpr (by rw [decide_eq_true_iff, hhook]; omega)
    rw [← hmore]
    rfl

end

end

/-! ## Instructions -/

/-- The number of an extension. -/
def SplTokenExtensionKind.number : SplTokenExtensionKind → ℕ
  | transferFeeExtension => 26
  | confidentialTransferExtension => 27
  | defaultAccountStateExtension => 28
  | memoTransferExtension => 30
  | interestBearingMintExtension => 33
  | cpiGuardExtension => 34
  | transferHookExtension => 36
  | confidentialTransferFeeExtension => 37
  | metadataPointerExtension => 39
  | groupPointerExtension => 40
  | groupMemberPointerExtension => 41

/-- The number of a kind. -/
def SplTokenInstructionKind.code : SplTokenInstructionKind → ℕ
  | initializeMint => 0
  | initializeAccount => 1
  | initializeMultisig => 2
  | revoke => 5
  | setAuthority => 6
  | closeAccount => 9
  | freezeAccount => 10
  | thawAccount => 11
  | transferChecked => 12
  | approveChecked => 13
  | mintToChecked => 14
  | burnChecked => 15
  | initializeAccount2 => 16
  | syncNative => 17
  | extension kind => kind.number

/-- The number of an authority. -/
def TokenAuthorityType.code : TokenAuthorityType → ℕ
  | mintTokens => 0
  | freezeAccount => 1
  | accountOwner => 2
  | closeAccount => 3

theorem acceptsField_parseSplTokenInstructionKind :
    AcceptsField parseSplTokenInstructionKind fun kind => .integer 1 kind.code := by
  refine acceptsField_code accepts_parseU8 (fun kind => ⟨.ofNat kind.code, ?_⟩) fun code => ?_
  · cases kind with
    | extension kind => cases kind <;> rfl
    | _ => rfl
  generalize code.toNat = n
  split
  case h_26 =>
    refine (Accepts.throw _).congr fun _ kind _ => iff_of_false id ?_
    rintro ⟨rfl, -⟩
    cases kind with
    | extension kind => cases kind <;> contradiction
    | _ => contradiction
  all_goals
    refine (Accepts.pure _).congr fun _ kind _ => and_congr_left fun _ => ?_
    cases kind with
    | extension kind => cases kind <;> decide
    | _ => decide

theorem acceptsField_parseTokenAuthorityType :
    AcceptsField parseTokenAuthorityType fun authorityType => .integer 1 authorityType.code := by
  refine acceptsField_code accepts_parseU8 (fun type => ⟨.ofNat type.code, ?_⟩) fun code => ?_
  · cases type <;> rfl
  generalize code.toNat = n
  split
  case h_5 =>
    refine (Accepts.throw _).congr fun _ type _ => iff_of_false id ?_
    rintro ⟨rfl, -⟩
    cases type <;> contradiction
  all_goals
    refine (Accepts.pure _).congr fun _ type _ => and_congr_left fun _ => ?_
    cases type <;> decide

theorem acceptsField_parseTransferFeeInstruction :
    AcceptsField parseTransferFeeInstruction fun withFee =>
      .oneOf (if withFee then [1] else [0, 2, 3, 4, 5]) := by
  refine (accepts_parseU8.seq fun tag => Accepts.ite (fun _ => .pure _) fun _ =>
    .throw Stop.bail).congr fun n withFee w => ?_
  simp only [Grammar.seq, integerBytes, leBytes_one_toNat]
  constructor
  · rintro ⟨tag, u, v, rfl, rfl, hv⟩
    split at hv
    · rename_i hle
      obtain ⟨rfl, rfl⟩ := hv
      refine ⟨tag, ?_, rfl⟩
      obtain ⟨n, hn, rfl⟩ : ∃ n ≤ 5, tag = UInt8.ofNat n := ⟨_, hle, UInt8.ofNat_toNat.symm⟩
      interval_cases n <;> decide
    · exact hv.elim
  · rintro ⟨tag, htag, rfl⟩
    refine ⟨tag, [tag], [], rfl, rfl, ?_⟩
    cases withFee <;> simp at htag
    · rcases htag with rfl | rfl | rfl | rfl | rfl <;> exact ⟨rfl, rfl⟩
    · rw [htag]
      exact ⟨rfl, rfl⟩

/-- What a transfer has for the fee: nothing, unless it is one with a fee. -/
def SplTokenTransferInfo.fields (info : SplTokenTransferInfo) : List WireField :=
  [[.integer 8 info.amount.toNat, .integer 1 info.decimals.toNat],
    info.transferCheckedWithFeeAmount.elim [] fun fee => [.integer 8 fee.toNat]].flatten

/-- Only a Token-2022 transfer has a hook. -/
def SplTokenTransferInfo.accounts (isToken2022Kind : Bool) (info : SplTokenTransferInfo) :
    List AccountUse :=
  .key info.srcAccount :: .key info.mintAccount :: .key info.destAccount ::
    if isToken2022Kind then info.sign.accounts2022 ++ [.more info.isTransferCheckedWithHook]
    else info.sign.accounts

/-- The destination passes the check against the trusted info. -/
structure SplTokenTransferInfo.Possible (ctx : TokenContext) (isToken2022Kind withFee : Bool)
    (info : SplTokenTransferInfo) : Prop where
  fee : info.transferCheckedWithFeeAmount.isSome = withFee
  sign : info.sign.Possible
  hook : isToken2022Kind = false → info.isTransferCheckedWithHook = false
  destination : checkAtaAgainstTrustedInfo ctx info.mintAccount.val info.destAccount.val
    isToken2022Kind = true

namespace SplTokenBody

/-- The kind of a record. -/
def kind : SplTokenBody → SplTokenInstructionKind
  | initializeMint _ => .initializeMint
  | initializeAccount _ => .initializeAccount
  | initializeAccount2 _ => .initializeAccount2
  | initializeMultisig _ => .initializeMultisig
  | transferChecked _ => .transferChecked
  | transferCheckedWithFee _ => .extension .transferFeeExtension
  | approveChecked _ => .approveChecked
  | revoke _ => .revoke
  | setAuthority _ => .setAuthority
  | mintToChecked _ => .mintToChecked
  | burnChecked _ => .burnChecked
  | closeAccount _ => .closeAccount
  | freezeAccount _ => .freezeAccount
  | thawAccount _ => .thawAccount
  | syncNative _ => .syncNative
  | extension kind => .extension kind

/-- It is the one of the transfer fee instructions that is parsed. -/
def hasFee : SplTokenBody → Bool
  | transferCheckedWithFee _ => true
  | _ => false

/-- The fields behind the kind.  Of the transfer fees one instruction is parsed, the others are
told from it by their tag. -/
def fields : SplTokenBody → List WireField
  | initializeMint info =>
      [[.integer 1 info.decimals.toNat, .key info.mintAuthority],
        optionFields .key info.freezeAuthority].flatten
  | initializeAccount _ => []
  | initializeAccount2 info => [.key info.owner]
  | initializeMultisig info => [.integer 1 info.m.toNat]
  | transferChecked info => info.fields
  | transferCheckedWithFee info => .oneOf [1] :: info.fields
  | approveChecked info => [.integer 8 info.amount.toNat, .integer 1 info.decimals.toNat]
  | revoke _ => []
  | setAuthority info =>
      [[.integer 1 info.authorityType.code], optionFields .key info.newAuthority].flatten
  | mintToChecked info => [.integer 8 info.amount.toNat, .integer 1 info.decimals.toNat]
  | burnChecked info => [.integer 8 info.amount.toNat, .integer 1 info.decimals.toNat]
  | closeAccount _ => []
  | freezeAccount _ => []
  | thawAccount _ => []
  | syncNative _ => []
  | extension .transferFeeExtension => [.oneOf [0, 2, 3, 4, 5]]
  | extension _ => []

/-- The accounts; the rent sysvar is skipped. -/
def accounts (isToken2022Kind : Bool) : SplTokenBody → List AccountUse
  | initializeMint info => [.key info.mintAccount, .skipped]
  | initializeAccount info =>
      [.key info.tokenAccount, .key info.mintAccount, .key info.owner, .skipped]
  | initializeAccount2 info => [.key info.tokenAccount, .key info.mintAccount, .skipped]
  | initializeMultisig info => .key info.multisigAccount :: .skipped :: info.signers.accounts
  | transferChecked info => info.accounts isToken2022Kind
  | transferCheckedWithFee info => info.accounts isToken2022Kind
  | approveChecked info =>
      .key info.tokenAccount :: .key info.mintAccount :: .key info.delegate :: info.sign.accounts
  | revoke info => .key info.tokenAccount :: info.sign.accounts
  | setAuthority info => .key info.account :: info.sign.accounts
  | mintToChecked info => .key info.mintAccount :: .key info.tokenAccount :: info.sign.accounts
  | burnChecked info => .key info.tokenAccount :: .key info.mintAccount :: info.sign.accounts
  | closeAccount info => .key info.tokenAccount :: .key info.destAccount :: info.sign.accounts
  | freezeAccount info => .key info.tokenAccount :: .key info.mintAccount :: info.sign.accounts
  | thawAccount info => .key info.tokenAccount :: .key info.mintAccount :: info.sign.accounts
  | syncNative info => [.key info.tokenAccount]
  | extension _ => []

/-- The records that there are. -/
def Possible (ctx : TokenContext) (accountsLength : ℕ) (isToken2022Kind : Bool) :
    SplTokenBody → Prop
  | initializeMint _ => True
  | initializeAccount _ => accountsLength = 4
  | initializeAccount2 _ => True
  | initializeMultisig info => info.m.toNat ≤ tokenMaxSigners ∧ info.signers.Possible
  | transferChecked info => info.Possible ctx isToken2022Kind false
  | transferCheckedWithFee info => isToken2022Kind = true ∧ info.Possible ctx isToken2022Kind true
  | approveChecked info => info.sign.Possible
  | revoke info => info.sign.Possible
  | setAuthority info => info.sign.Possible
  | mintToChecked info => info.sign.Possible
  | burnChecked info => info.sign.Possible
  | closeAccount info => info.sign.Possible
  | freezeAccount info => info.sign.Possible
  | thawAccount info => info.sign.Possible
  | syncNative _ => True
  | extension kind => kind = .transferFeeExtension → isToken2022Kind = true

/-- The record as the parser gives it back: only extensions are left out of the review. -/
def parsed (isToken2022Kind : Bool) : SplTokenBody → SplTokenInfo × Bool
  | extension kind => (⟨isToken2022Kind, kind.warns, extension kind⟩, true)
  | body => (⟨isToken2022Kind, false, body⟩, false)

end SplTokenBody

section

variable {header : MessageHeader} {instruction : Instruction}
  (hvalid : instructionValidate instruction header = true)

section

include hvalid

variable (isToken2022Kind : Bool)

open SplTokenInitializeMintInfo in
theorem formats_parseInitializeMintSplTokenInstruction :
    Formats header instruction parseInitializeMintSplTokenInstruction (fun _ => True)
      (fun info => (SplTokenBody.initializeMint info).fields)
      fun info => (SplTokenBody.initializeMint info).accounts isToken2022Kind := by
  unfold parseInitializeMintSplTokenInstruction
  refine .read decimals acceptsField_parseU8 fun _ => ?_
  refine .read mintAuthority acceptsField_parsePubkey fun _ => ?_
  refine .readOption freezeAuthority acceptsField_parsePubkey fun _ => ?_
  refine .account hvalid mintAccount fun _ => .skip hvalid ?_
  exact .pure fun info => by cases info; grind

open SplTokenInitializeAccountInfo in
theorem formats_parseInitializeAccountSplTokenInstruction (accountsLength : ℕ) :
    Formats header instruction
      (parseInitializeAccountSplTokenInstruction accountsLength true)
      (fun _ => accountsLength = 4) (fun info => (SplTokenBody.initializeAccount info).fields)
      fun info => (SplTokenBody.initializeAccount info).accounts isToken2022Kind := by
  unfold parseInitializeAccountSplTokenInstruction
  refine .check (fun hlength _ hfour => ?_) fun _ => ?_
  · simp [hfour] at hlength
  refine .account hvalid tokenAccount fun _ => ?_
  refine .account hvalid mintAccount fun _ => ?_
  refine .account hvalid owner fun _ => .skip hvalid ?_
  exact .pure fun info => by cases info; grind

open SplTokenInitializeAccountInfo in
theorem formats_parseInitializeAccountSplTokenInstruction2 (accountsLength : ℕ) :
    Formats header instruction
      (parseInitializeAccountSplTokenInstruction accountsLength false)
      (fun _ => True) (fun info => (SplTokenBody.initializeAccount2 info).fields)
      fun info => (SplTokenBody.initializeAccount2 info).accounts isToken2022Kind := by
  unfold parseInitializeAccountSplTokenInstruction
  refine .check (fun hlength => by cases hlength) fun _ => ?_
  refine .account hvalid tokenAccount fun _ => ?_
  refine .account hvalid mintAccount fun _ => .skip hvalid ?_
  refine .read owner acceptsField_parsePubkey fun _ => ?_
  exact .pure fun info => by cases info; grind

/-- The signers of a transfer, and its hook. -/
theorem formats_signAndHook :
    Formats header instruction
      (if isToken2022Kind then do
          let sign ← parseSplToken2022Sign header
          let hook ← parseSplTokenHook
          return (sign, hook)
        else do
          let sign ← parseSplTokenSign
          return (sign, false))
      (fun r => r.1.Possible ∧ (isToken2022Kind = false → r.2 = false)) (fun _ => [])
      fun r => if isToken2022Kind then r.1.accounts2022 ++ [.more r.2] else r.1.accounts := by
  cases isToken2022Kind with
  | true =>
      refine (formats_parseSplToken2022Sign hvalid).seq Prod.fst (by tauto) fun sign hsign => ?_
      refine .last formats_parseSplTokenHook Prod.snd (by tauto) fun hook _ => ?_
      exact .pure fun r => by cases r; grind
  | false =>
      refine .last (formats_parseSplTokenSign hvalid) Prod.fst (by tauto) fun sign hsign => ?_
      exact .pure fun r => by cases r; grind

omit hvalid in
theorem accepts_transferFee (withFee : Bool) :
    Accepts (if withFee then parseU64 >>= fun fee => pure (some fee) else pure none :
      ParseM (Option UInt64)) fun n fee w => fee.isSome = withFee ∧
        FieldsAt n (fee.elim [] fun fee => [.integer 8 fee.toNat]) w := by
  cases withFee with
  | true =>
      refine (accepts_parseU64.seq fun fee => .pure (some fee)).congr fun n fee w => ?_
      rw [Grammar.seq_pure]
      constructor
      · rintro ⟨fee, rfl, hw⟩
        exact ⟨rfl, fieldsAt_one.mpr hw⟩
      · rintro ⟨hfee, hw⟩
        obtain ⟨fee, rfl⟩ := Option.isSome_iff_exists.mp hfee
        exact ⟨fee, rfl, fieldsAt_one.mp hw⟩
  | false =>
      refine (Accepts.pure none).congr fun n fee w => ?_
      rw [Option.isSome_eq_false_iff, Option.isNone_iff_eq_none]
      exact and_congr_right fun hfee => by rw [hfee]; rfl

open SplTokenTransferInfo in
theorem formats_parseTransferSplTokenInstruction (ctx : TokenContext) (withFee : Bool) :
    Formats header instruction
      (parseTransferSplTokenInstruction ctx header withFee isToken2022Kind)
      (SplTokenTransferInfo.Possible ctx isToken2022Kind withFee) SplTokenTransferInfo.fields
      (SplTokenTransferInfo.accounts isToken2022Kind) := by
  unfold parseTransferSplTokenInstruction
  refine .read amount acceptsField_parseU64 fun _ => ?_
  refine .read decimals acceptsField_parseU8 fun _ => ?_
  refine (Formats.of_accepts (accepts_transferFee withFee)).seq transferCheckedWithFeeAmount
    (fun _ hinfo => hinfo.1.1.fee) fun fee hfee => ?_
  refine .account hvalid srcAccount fun _ => ?_
  refine .account hvalid mintAccount fun mint => ?_
  refine .account hvalid destAccount fun dest => ?_
  refine .last (formats_signAndHook hvalid isToken2022Kind)
    (fun info => (sign info, isTransferCheckedWithHook info))
    (fun _ ⟨⟨⟨⟨hinfo, _⟩, _⟩, _⟩, _⟩ => ⟨hinfo.1.1.sign, hinfo.1.1.hook⟩) fun r hsign => ?_
  refine .check (fun hata info hinfo => ?_) fun hata => ?_
  · obtain ⟨⟨⟨⟨hinfo, -⟩, rfl⟩, rfl⟩, -⟩ := hinfo
    rw [hinfo.1.1.1.destination] at hata
    cases hata
  · refine .pure fun info => ⟨?_, ?_⟩
    · rintro ⟨⟨⟨⟨⟨⟨⟨-, rfl⟩, rfl⟩, rfl⟩, rfl⟩, rfl⟩, rfl⟩, rfl⟩
      rfl
    · rintro rfl
      have hdestination : checkAtaAgainstTrustedInfo ctx mint.val dest.val isToken2022Kind = true :=
        by simpa using hata
      exact ⟨⟨⟨⟨⟨⟨⟨⟨hfee, hsign.1, hsign.2, hdestination⟩, rfl⟩, rfl⟩, rfl⟩, rfl⟩, rfl⟩, rfl⟩, rfl⟩

open SplTokenInitializeMultisigInfo in
theorem formats_parseInitializeMultisigSplTokenInstruction :
    Formats header instruction parseInitializeMultisigSplTokenInstruction
      (fun info => info.m.toNat ≤ tokenMaxSigners ∧ info.signers.Possible)
      (fun info => (SplTokenBody.initializeMultisig info).fields)
      fun info => (SplTokenBody.initializeMultisig info).accounts isToken2022Kind := by
  unfold parseInitializeMultisigSplTokenInstruction
  refine .read m acceptsField_parseU8 fun _ => .check (fun hmany info hinfo => ?_) fun hfew => ?_
  · exact absurd (hinfo.2 ▸ hinfo.1.1) (Nat.not_le.mpr (of_decide_eq_true hmany))
  refine .account hvalid multisigAccount fun _ => .skip hvalid ?_
  refine .last (formats_parseSplTokenMultisigners hvalid) signers (by tauto) fun _ hsigners => ?_
  have hm := Nat.not_lt.mp (of_decide_eq_false hfew)
  exact .pure fun info => by cases info; grind

open SplTokenRevokeInfo in
theorem formats_parseRevokeSplTokenInstruction :
    Formats header instruction parseRevokeSplTokenInstruction (fun info => info.sign.Possible)
      (fun info => (SplTokenBody.revoke info).fields)
      fun info => (SplTokenBody.revoke info).accounts isToken2022Kind := by
  unfold parseRevokeSplTokenInstruction
  refine .account hvalid tokenAccount fun _ => ?_
  refine .last (formats_parseSplTokenSign hvalid) sign (by tauto) fun _ hsign => ?_
  exact .pure fun info => by cases info; grind

open SplTokenSetAuthorityInfo in
theorem formats_parseSetAuthoritySplTokenInstruction :
    Formats header instruction parseSetAuthoritySplTokenInstruction (fun info => info.sign.Possible)
      (fun info => (SplTokenBody.setAuthority info).fields)
      fun info => (SplTokenBody.setAuthority info).accounts isToken2022Kind := by
  unfold parseSetAuthoritySplTokenInstruction
  refine .account hvalid account fun _ => ?_
  refine .read authorityType acceptsField_parseTokenAuthorityType fun _ => ?_
  refine .readOption newAuthority acceptsField_parsePubkey fun _ => ?_
  refine .last (formats_parseSplTokenSign hvalid) sign (by tauto) fun _ hsign => ?_
  exact .pure fun info => by cases info; grind

open SplTokenApproveInfo in
theorem formats_parseApproveSplTokenInstruction :
    Formats header instruction parseApproveSplTokenInstruction (fun info => info.sign.Possible)
      (fun info => (SplTokenBody.approveChecked info).fields)
      fun info => (SplTokenBody.approveChecked info).accounts isToken2022Kind := by
  unfold parseApproveSplTokenInstruction
  refine .read amount acceptsField_parseU64 fun _ => ?_
  refine .read decimals acceptsField_parseU8 fun _ => ?_
  refine .account hvalid tokenAccount fun _ => ?_
  refine .account hvalid mintAccount fun _ => ?_
  refine .account hvalid delegate fun _ => ?_
  refine .last (formats_parseSplTokenSign hvalid) sign (by tauto) fun _ hsign => ?_
  exact .pure fun info => by cases info; grind

open SplTokenMintToInfo in
theorem formats_parseMintToSplTokenInstruction :
    Formats header instruction parseMintToSplTokenInstruction (fun info => info.sign.Possible)
      (fun info => (SplTokenBody.mintToChecked info).fields)
      fun info => (SplTokenBody.mintToChecked info).accounts isToken2022Kind := by
  unfold parseMintToSplTokenInstruction
  refine .read amount acceptsField_parseU64 fun _ => ?_
  refine .read decimals acceptsField_parseU8 fun _ => ?_
  refine .account hvalid mintAccount fun _ => ?_
  refine .account hvalid tokenAccount fun _ => ?_
  refine .last (formats_parseSplTokenSign hvalid) sign (by tauto) fun _ hsign => ?_
  exact .pure fun info => by cases info; grind

open SplTokenBurnInfo in
theorem formats_parseBurnSplTokenInstruction :
    Formats header instruction parseBurnSplTokenInstruction (fun info => info.sign.Possible)
      (fun info => (SplTokenBody.burnChecked info).fields)
      fun info => (SplTokenBody.burnChecked info).accounts isToken2022Kind := by
  unfold parseBurnSplTokenInstruction
  refine .read amount acceptsField_parseU64 fun _ => ?_
  refine .read decimals acceptsField_parseU8 fun _ => ?_
  refine .account hvalid tokenAccount fun _ => ?_
  refine .account hvalid mintAccount fun _ => ?_
  refine .last (formats_parseSplTokenSign hvalid) sign (by tauto) fun _ hsign => ?_
  exact .pure fun info => by cases info; grind

open SplTokenCloseAccountInfo in
theorem formats_parseCloseAccountSplTokenInstruction :
    Formats header instruction parseCloseAccountSplTokenInstruction (fun info => info.sign.Possible)
      (fun info => (SplTokenBody.closeAccount info).fields)
      fun info => (SplTokenBody.closeAccount info).accounts isToken2022Kind := by
  unfold parseCloseAccountSplTokenInstruction
  refine .account hvalid tokenAccount fun _ => ?_
  refine .account hvalid destAccount fun _ => ?_
  refine .last (formats_parseSplTokenSign hvalid) sign (by tauto) fun _ hsign => ?_
  exact .pure fun info => by cases info; grind

open SplTokenFreezeAccountInfo in
theorem formats_parseFreezeAccountSplTokenInstruction :
    Formats header instruction parseFreezeAccountSplTokenInstruction
      (fun info => info.sign.Possible) (fun info => (SplTokenBody.freezeAccount info).fields)
      fun info => (SplTokenBody.freezeAccount info).accounts isToken2022Kind := by
  unfold parseFreezeAccountSplTokenInstruction
  refine .account hvalid tokenAccount fun _ => ?_
  refine .account hvalid mintAccount fun _ => ?_
  refine .last (formats_parseSplTokenSign hvalid) sign (by tauto) fun _ hsign => ?_
  exact .pure fun info => by cases info; grind

open SplTokenThawAccountInfo in
theorem formats_parseThawAccountSplTokenInstruction :
    Formats header instruction parseThawAccountSplTokenInstruction (fun info => info.sign.Possible)
      (fun info => (SplTokenBody.thawAccount info).fields)
      fun info => (SplTokenBody.thawAccount info).accounts isToken2022Kind := by
  unfold parseThawAccountSplTokenInstruction
  refine .account hvalid tokenAccount fun _ => ?_
  refine .account hvalid mintAccount fun _ => ?_
  refine .last (formats_parseSplTokenSign hvalid) sign (by tauto) fun _ hsign => ?_
  exact .pure fun info => by cases info; grind

open SplTokenSyncNativeInfo in
theorem formats_parseSyncNativeSplTokenInstruction :
    Formats header instruction parseSyncNativeSplTokenInstruction (fun _ => True)
      (fun info => (SplTokenBody.syncNative info).fields)
      fun info => (SplTokenBody.syncNative info).accounts isToken2022Kind := by
  unfold parseSyncNativeSplTokenInstruction
  refine .account hvalid tokenAccount fun _ => ?_
  exact .pure fun info => by cases info; grind

omit hvalid in
/-- Some of the records, in the form in which the parser gives them back. -/
theorem parsed_iff {α : Type} {ctx : TokenContext} {accountsLength : ℕ} (inj : α → SplTokenBody)
    {possible : α → Prop} (some : SplTokenBody → Prop)
    (h : ∀ body : SplTokenBody, body.Possible ctx accountsLength isToken2022Kind ∧ some body ↔
      ∃ a, body = inj a ∧ possible a) (r : SplTokenInfo × Bool) :
    (r = r.1.body.parsed isToken2022Kind ∧
        r.1.body.Possible ctx accountsLength isToken2022Kind) ∧ some r.1.body ↔
      ∃ a, r = (inj a).parsed isToken2022Kind ∧ possible a := by
  have hbody : ∀ body : SplTokenBody, (body.parsed isToken2022Kind).1.body = body := fun body => by
    cases body <;> rfl
  rw [and_assoc, h]
  constructor
  · rintro ⟨hr, a, ha, hpossible⟩
    exact ⟨a, ha ▸ hr, hpossible⟩
  · rintro ⟨a, rfl, hpossible⟩
    rw [hbody]
    exact ⟨rfl, a, rfl, hpossible⟩

omit hvalid in
/-- Those of a kind. -/
theorem parsed_kind_iff {α : Type} {ctx : TokenContext} {accountsLength : ℕ}
    {kind : SplTokenInstructionKind} (inj : α → SplTokenBody) {possible : α → Prop}
    (h : ∀ body : SplTokenBody, body.Possible ctx accountsLength isToken2022Kind ∧
      body.kind = kind ↔ ∃ a, body = inj a ∧ possible a) (r : SplTokenInfo × Bool) :
    (r = r.1.body.parsed isToken2022Kind ∧
        r.1.body.Possible ctx accountsLength isToken2022Kind) ∧ r.1.body.kind = kind ↔
      ∃ a, r = (inj a).parsed isToken2022Kind ∧ possible a :=
  parsed_iff isToken2022Kind inj (·.kind = kind) h r

omit hvalid in
/-- That of an extension that is not looked into. -/
theorem parsed_extension_iff {ctx : TokenContext} {accountsLength : ℕ}
    {kind : SplTokenExtensionKind} (hkind : kind ≠ .transferFeeExtension)
    (r : SplTokenInfo × Bool) :
    (r = r.1.body.parsed isToken2022Kind ∧
        r.1.body.Possible ctx accountsLength isToken2022Kind) ∧ r.1.body.kind = .extension kind ↔
      r = (SplTokenBody.extension kind).parsed isToken2022Kind := by
  have hone : ∀ body : SplTokenBody, body.Possible ctx accountsLength isToken2022Kind ∧
      body.kind = .extension kind ↔ ∃ _ : Unit, body = .extension kind ∧ True := fun body => by
    cases body <;> simp [SplTokenBody.Possible, SplTokenBody.kind, hkind.symm]
    rintro rfl
    exact fun h => absurd h hkind
  exact (parsed_kind_iff isToken2022Kind (fun _ => .extension kind) hone r).trans (by simp)

omit hvalid in
/-- Those of the transfer with a fee. -/
theorem parsed_withFee_iff {ctx : TokenContext} {accountsLength : ℕ}
    (h2022 : isToken2022Kind = true) (r : SplTokenInfo × Bool) :
    ((r = r.1.body.parsed isToken2022Kind ∧
        r.1.body.Possible ctx accountsLength isToken2022Kind) ∧
          r.1.body.kind = .extension .transferFeeExtension) ∧ r.1.body.hasFee = true ↔
      ∃ info, r = (SplTokenBody.transferCheckedWithFee info).parsed isToken2022Kind ∧
        info.Possible ctx isToken2022Kind true := by
  rw [and_assoc]
  refine parsed_iff isToken2022Kind SplTokenBody.transferCheckedWithFee
    (fun body => body.kind = .extension .transferFeeExtension ∧ body.hasFee = true)
    (fun body => ?_) r
  cases body <;> simp [SplTokenBody.Possible, SplTokenBody.kind, SplTokenBody.hasFee, h2022]

omit hvalid in
/-- That of the other transfer fee instructions. -/
theorem parsed_withoutFee_iff {ctx : TokenContext} {accountsLength : ℕ}
    (h2022 : isToken2022Kind = true) (r : SplTokenInfo × Bool) :
    ((r = r.1.body.parsed isToken2022Kind ∧
        r.1.body.Possible ctx accountsLength isToken2022Kind) ∧
          r.1.body.kind = .extension .transferFeeExtension) ∧ r.1.body.hasFee = false ↔
      r = (SplTokenBody.extension .transferFeeExtension).parsed isToken2022Kind := by
  have hone : ∀ body : SplTokenBody, body.Possible ctx accountsLength isToken2022Kind ∧
      body.kind = .extension .transferFeeExtension ∧ body.hasFee = false ↔
        ∃ _ : Unit, body = .extension .transferFeeExtension ∧ True := fun body => by
    cases body <;> simp [SplTokenBody.Possible, SplTokenBody.kind, SplTokenBody.hasFee, h2022]
  rw [and_assoc]
  exact (parsed_iff isToken2022Kind (fun _ => .extension .transferFeeExtension)
    (fun body => body.kind = .extension .transferFeeExtension ∧ body.hasFee = false)
    hone r).trans (by simp)

omit hvalid in
theorem kind_eq_transferFee_iff {body : SplTokenBody} :
    body.kind = .extension .transferFeeExtension ↔
      (∃ info, body = .transferCheckedWithFee info) ∨ body = .extension .transferFeeExtension := by
  cases body <;> simp [SplTokenBody.kind]

theorem formats_parseSplTokenInstructions (ctx : TokenContext)
    (hkind : isToken2022Instruction instruction header = .ok isToken2022Kind) :
    Formats header instruction (parseSplTokenInstructions ctx header instruction)
      (fun r => r = r.1.body.parsed isToken2022Kind ∧
        r.1.body.Possible ctx instruction.accounts.val.length isToken2022Kind)
      (fun r => .integer 1 r.1.body.kind.code :: r.1.body.fields)
      fun r => r.1.body.accounts isToken2022Kind := by
  unfold parseSplTokenInstructions
  refine .read (fun r : SplTokenInfo × Bool => r.1.body.kind)
    acceptsField_parseSplTokenInstructionKind fun kind => ?_
  have hcall : (liftM (isToken2022Instruction instruction header) : InstrM Bool)
      = pure isToken2022Kind := by
    rw [hkind]
    rfl
  rw [hcall, pure_bind]
  dsimp only
  cases kind with
  | initializeMint =>
      refine .map (formats_parseInitializeMintSplTokenInstruction hvalid isToken2022Kind)
        (parsed_kind_iff isToken2022Kind SplTokenBody.initializeMint fun body => ?_)
      cases body <;> simp [SplTokenBody.Possible, SplTokenBody.kind]
  | initializeAccount =>
      refine .map (formats_parseInitializeAccountSplTokenInstruction hvalid isToken2022Kind _)
        (parsed_kind_iff isToken2022Kind SplTokenBody.initializeAccount fun body => ?_)
      cases body <;> simp [SplTokenBody.Possible, SplTokenBody.kind]
  | initializeAccount2 =>
      refine .map (formats_parseInitializeAccountSplTokenInstruction2 hvalid isToken2022Kind _)
        (parsed_kind_iff isToken2022Kind SplTokenBody.initializeAccount2 fun body => ?_)
      cases body <;> simp [SplTokenBody.Possible, SplTokenBody.kind]
  | initializeMultisig =>
      refine .map (formats_parseInitializeMultisigSplTokenInstruction hvalid isToken2022Kind)
        (parsed_kind_iff isToken2022Kind SplTokenBody.initializeMultisig fun body => ?_)
      cases body <;> simp [SplTokenBody.Possible, SplTokenBody.kind]
  | revoke =>
      refine .map (formats_parseRevokeSplTokenInstruction hvalid isToken2022Kind)
        (parsed_kind_iff isToken2022Kind SplTokenBody.revoke fun body => ?_)
      cases body <;> simp [SplTokenBody.Possible, SplTokenBody.kind]
  | setAuthority =>
      refine .map (formats_parseSetAuthoritySplTokenInstruction hvalid isToken2022Kind)
        (parsed_kind_iff isToken2022Kind SplTokenBody.setAuthority fun body => ?_)
      cases body <;> simp [SplTokenBody.Possible, SplTokenBody.kind]
  | closeAccount =>
      refine .map (formats_parseCloseAccountSplTokenInstruction hvalid isToken2022Kind)
        (parsed_kind_iff isToken2022Kind SplTokenBody.closeAccount fun body => ?_)
      cases body <;> simp [SplTokenBody.Possible, SplTokenBody.kind]
  | freezeAccount =>
      refine .map (formats_parseFreezeAccountSplTokenInstruction hvalid isToken2022Kind)
        (parsed_kind_iff isToken2022Kind SplTokenBody.freezeAccount fun body => ?_)
      cases body <;> simp [SplTokenBody.Possible, SplTokenBody.kind]
  | thawAccount =>
      refine .map (formats_parseThawAccountSplTokenInstruction hvalid isToken2022Kind)
        (parsed_kind_iff isToken2022Kind SplTokenBody.thawAccount fun body => ?_)
      cases body <;> simp [SplTokenBody.Possible, SplTokenBody.kind]
  | transferChecked =>
      refine .map (formats_parseTransferSplTokenInstruction hvalid isToken2022Kind ctx false)
        (parsed_kind_iff isToken2022Kind SplTokenBody.transferChecked fun body => ?_)
      cases body <;> simp [SplTokenBody.Possible, SplTokenBody.kind]
  | approveChecked =>
      refine .map (formats_parseApproveSplTokenInstruction hvalid isToken2022Kind)
        (parsed_kind_iff isToken2022Kind SplTokenBody.approveChecked fun body => ?_)
      cases body <;> simp [SplTokenBody.Possible, SplTokenBody.kind]
  | mintToChecked =>
      refine .map (formats_parseMintToSplTokenInstruction hvalid isToken2022Kind)
        (parsed_kind_iff isToken2022Kind SplTokenBody.mintToChecked fun body => ?_)
      cases body <;> simp [SplTokenBody.Possible, SplTokenBody.kind]
  | burnChecked =>
      refine .map (formats_parseBurnSplTokenInstruction hvalid isToken2022Kind)
        (parsed_kind_iff isToken2022Kind SplTokenBody.burnChecked fun body => ?_)
      cases body <;> simp [SplTokenBody.Possible, SplTokenBody.kind]
  | syncNative =>
      refine .map (formats_parseSyncNativeSplTokenInstruction hvalid isToken2022Kind)
        (parsed_kind_iff isToken2022Kind SplTokenBody.syncNative fun body => ?_)
      cases body <;> simp [SplTokenBody.Possible, SplTokenBody.kind]
  | extension kind =>
      cases kind with
      | transferFeeExtension =>
          refine .check (fun hnot r hr => ?_) fun hnot => ?_
          · obtain ⟨⟨-, hpossible⟩, hr⟩ := hr
            have h2022 : isToken2022Kind = true := by
              rcases kind_eq_transferFee_iff.mp hr with ⟨info, hbody⟩ | hbody
              · exact (hbody ▸ hpossible).1
              · exact (hbody ▸ hpossible) rfl
            rw [h2022] at hnot
            cases hnot
          have h2022 : isToken2022Kind = true := by simpa using hnot
          -- the tag tells the one that is parsed from the others
          refine .congr (?_ : Formats _ _ _ _ (fun r : SplTokenInfo × Bool =>
            .oneOf (if r.1.body.hasFee then [1] else [0, 2, 3, 4, 5]) :: r.1.body.fields.tail) _)
            (fun _ => Iff.rfl) (fun r hr => ?_) fun _ _ => rfl
          · refine .read (fun r : SplTokenInfo × Bool => r.1.body.hasFee)
              acceptsField_parseTransferFeeInstruction fun withFee => ?_
            cases withFee with
            | true =>
                exact .map (formats_parseTransferSplTokenInstruction hvalid isToken2022Kind ctx
                  true) (parsed_withFee_iff isToken2022Kind h2022)
            | false => exact .pure_of_nil (parsed_withoutFee_iff isToken2022Kind h2022) rfl rfl
          · rcases kind_eq_transferFee_iff.mp hr.2 with ⟨info, hbody⟩ | hbody
            · rw [hbody]
              rfl
            · rw [hbody]
              rfl
      | _ => exact .pure_of_nil (parsed_extension_iff isToken2022Kind (by decide)) rfl rfl

theorem exists_isToken2022Instruction :
    ∃ isToken2022Kind, isToken2022Instruction instruction header = .ok isToken2022Kind := by
  obtain ⟨key, -, hkey⟩ := readAt_of_lt (instructionValidate_iff.mp hvalid).1
  refine ⟨key.val == splToken2022ProgramId, ?_⟩
  rw [isToken2022Instruction, programIdKey, hkey]
  rfl

end

end

end AgencLedger
