import AgencLedger.Library.Walk
import AgencLedger.Program.AssociatedTokenAccount
import AgencLedger.Program.Faultless
import AgencLedger.Program.Stake
import AgencLedger.Program.TokenSigners
import AgencLedger.Sol.RoundTrip

/-!
# Program/WireFormat — how an instruction is written: fields in the data, accounts in a row

An instruction of a program is a list of fields at the front of its data and a list of accounts in
the order of the iterator.  A parser has a format when it gives back exactly the records that are
written so: it accepts no other instruction, and misreads none.  What follows the fields and the
accounts is not looked at.
-/

namespace AgencLedger

open Input

/-! ## Fields -/

/-- A field of the data of an instruction. -/
inductive WireField
  | integer (size value : ℕ)
  | oneOf (tags : List UInt8)
  | key (pubkey : Ptr Pubkey)
  | string (s : SizedString)

/-- The bytes of a field at a position; what the field refers to is there. -/
def WireField.At (n : ℕ) : WireField → List UInt8 → Prop
  | integer size value, w => w = leBytes size value
  | oneOf tags, w => ∃ tag ∈ tags, w = [tag]
  | key pubkey, w => pubkey.addr = n ∧ pubkey.val.data = w
  | string s, w => w = leBytes 8 s.length.toNat ++ s.string.val ∧ s.string.addr = n + 8 ∧
      s.string.val.length = s.length.toNat ∧ s.length.toNat ≤ sizeMax

/-- A tag, and a value behind the tag 1. -/
def optionFields {α : Type} (field : α → WireField) : Option α → List WireField
  | none => [.integer 1 0]
  | some a => [.integer 1 1, field a]

/-- **Fields in a row.** -/
def FieldsAt : ℕ → List WireField → List UInt8 → Prop
  | _, [], w => w = []
  | n, field :: fields, w => ∃ u v, w = u ++ v ∧ field.At n u ∧ FieldsAt (n + u.length) fields v

theorem fieldsAt_one {n : ℕ} {field : WireField} {w : List UInt8} :
    FieldsAt n [field] w ↔ field.At n w := by
  constructor
  · rintro ⟨u, _, rfl, hu, rfl⟩
    rwa [List.append_nil]
  · exact fun hw => ⟨w, [], (List.append_nil w).symm, hw, rfl⟩

theorem fieldsAt_append {n : ℕ} {fields fields' : List WireField} {w : List UInt8} :
    FieldsAt n (fields ++ fields') w ↔
      ∃ u v, w = u ++ v ∧ FieldsAt n fields u ∧ FieldsAt (n + u.length) fields' v := by
  induction fields generalizing n w with
  | nil =>
      constructor
      · exact fun h => ⟨[], w, rfl, rfl, h⟩
      · rintro ⟨_, v, rfl, rfl, hv⟩
        exact hv
  | cons field fields ih =>
      constructor
      · rintro ⟨t, _, rfl, ht, h⟩
        obtain ⟨u, v, rfl, hu, hv⟩ := ih.mp h
        refine ⟨t ++ u, v, (List.append_assoc _ _ _).symm, ⟨t, u, rfl, ht, hu⟩, ?_⟩
        rwa [List.length_append, ← Nat.add_assoc]
      · rintro ⟨_, v, rfl, ⟨t, u, rfl, ht, hu⟩, hv⟩
        rw [List.length_append, ← Nat.add_assoc] at hv
        exact ⟨t, u ++ v, List.append_assoc _ _ _, ht, ih.mpr ⟨u, v, rfl, hu, hv⟩⟩

/-! ### The fields that the parsing steps accept -/

/-- A parsing step accepts exactly the values that are written as a field. -/
def AcceptsField {α : Type} (step : ParseM α) (field : α → WireField) : Prop :=
  Accepts step fun n a w => (field a).At n w

/-- A parsing step accepts exactly the values that are written as fields in a row. -/
def AcceptsFields {α : Type} (step : ParseM α) (fields : α → List WireField) : Prop :=
  Accepts step fun n a w => FieldsAt n (fields a) w

theorem AcceptsField.acceptsFields {α : Type} {step : ParseM α} {field : α → WireField}
    (h : AcceptsField step field) : AcceptsFields step fun a => [field a] :=
  h.congr fun _ _ _ => fieldsAt_one.symm

theorem acceptsField_integer {α : Type} {step : ParseM α} {size : ℕ} {toNat : α → ℕ}
    (h : Accepts step (integerBytes size toNat)) :
    AcceptsField step fun v => .integer size (toNat v) := h

theorem acceptsField_parseU8 : AcceptsField parseU8 fun v => .integer 1 v.toNat :=
  acceptsField_integer accepts_parseU8

theorem acceptsField_parseU32 : AcceptsField parseU32 fun v => .integer 4 v.toNat :=
  acceptsField_integer accepts_parseU32

theorem acceptsField_parseU64 : AcceptsField parseU64 fun v => .integer 8 v.toNat :=
  acceptsField_integer accepts_parseU64

theorem acceptsField_parseI64 : AcceptsField parseI64 fun v => .integer 8 v.toUInt64.toNat :=
  acceptsField_integer accepts_parseI64

/-- An integer that numbers the values. -/
theorem acceptsField_code {α β : Type} {code : ParseM β} {size : ℕ} {toNat : β → ℕ}
    (h : Accepts code (integerBytes size toNat)) {next : β → ParseM α} {codeOf : α → ℕ}
    (hcode : ∀ a, ∃ b, toNat b = codeOf a)
    (hnext : ∀ b, Accepts (next b) fun _ a w => codeOf a = toNat b ∧ w = []) :
    AcceptsField (code >>= next) fun a => .integer size (codeOf a) := by
  refine (h.seq hnext).congr fun n a w => ?_
  constructor
  · rintro ⟨b, u, _, rfl, hu, ha, rfl⟩
    rw [List.append_nil, hu, ← ha]
    rfl
  · rintro rfl
    obtain ⟨b, hb⟩ := hcode a
    exact ⟨b, _, [], (List.append_nil _).symm, congrArg (leBytes size) hb.symm, hb.symm, rfl⟩

theorem acceptsField_parsePubkey : AcceptsField parsePubkey .key := accepts_parseBlock 32

theorem acceptsField_parseSizedString : AcceptsField parseSizedString .string := by
  have hassoc : parseSizedString = parseU64 >>= fun length =>
      parseBailIf (length.toNat > sizeMax) >>= fun _ =>
        (checkBufferLength length.toNat >>= fun _ => advance length.toNat) >>= fun string =>
          pure ⟨length, string⟩ := by
    simp only [bind_assoc]
    rfl
  rw [AcceptsField, hassoc]
  refine (accepts_parseU64.seq fun length => (accepts_parseBailIf _).seq fun _ =>
    (accepts_bytes length.toNat).seq fun string => .pure _).congr fun n s w => ?_
  constructor
  · rintro ⟨length, u, v, rfl, hu, hv⟩
    obtain ⟨hle, hv⟩ := (Grammar.check_seq _ _).mp hv
    obtain ⟨string, rfl, hlength, rfl⟩ := (Grammar.seq_pure _ _).mp hv
    rw [hu]
    refine ⟨rfl, ?_, hlength, Nat.not_lt.mp (of_decide_eq_false hle)⟩
    rw [length_leBytes]
  · rintro ⟨rfl, haddr, hlength, hle⟩
    refine ⟨s.length, _, _, rfl, rfl, (Grammar.check_seq _ _).mpr
      ⟨decide_eq_false (Nat.not_lt.mpr hle), (Grammar.seq_pure _ _).mpr
        ⟨s.string, rfl, hlength, ?_⟩⟩⟩
    rw [length_leBytes, ← haddr]

theorem acceptsFields_parseOptional {α : Type} {step : ParseM α} {field : α → WireField}
    (h : AcceptsField step field) :
    AcceptsFields (parseOptional step) (optionFields field) := by
  have hthen : ∀ some : Bool, Accepts
      (if some = true then step >>= fun a => pure (.some a) else pure none : ParseM (Option α))
      fun n o w => if some = true then ∃ a, o = .some a ∧ FieldsAt n [field a] w
        else o = none ∧ w = [] := fun some =>
    .ite (fun _ => (h.acceptsFields.seq fun a => .pure (Option.some a)).congr fun n o w =>
      Grammar.seq_pure _ _) fun _ => .pure none
  refine (accepts_parseOption.seq hthen).congr fun n o w => ?_
  constructor
  · rintro ⟨some, u, v, rfl, rfl, hv⟩
    cases some with
    | true =>
        obtain ⟨a, rfl, hv⟩ := hv
        exact ⟨[1], v, rfl, rfl, hv⟩
    | false =>
        obtain ⟨rfl, rfl⟩ := hv
        exact ⟨[0], [], rfl, rfl, rfl⟩
  · intro hw
    rcases o with _ | a
    · obtain ⟨_, _, rfl, rfl, rfl⟩ := hw
      exact ⟨false, [0], [], rfl, rfl, rfl, rfl⟩
    · obtain ⟨_, v, rfl, rfl, hv⟩ := hw
      exact ⟨true, [1], v, rfl, rfl, a, rfl, hv⟩

/-! ## Accounts -/

/-- What is made of the next accounts. -/
inductive AccountUse
  | key (pubkey : Ptr Pubkey)
  | skipped
  | ifAny (pubkey : Option (Ptr Pubkey))
  | skippedIfAny
  /-- so many are left -/
  | left (n : ℕ)
  /-- the key of an account that signs the message -/
  | signer (pubkey : Ptr Pubkey)
  /-- the key of one that does not -/
  | nonSigner (pubkey : Ptr Pubkey)
  /-- so many sign the message, up to the first that does not -/
  | signers (n : ℕ)
  /-- whether there are more -/
  | more (any : Bool)

/-- The cursor in front of some bytes and of the account at a position. -/
def Cursor.place (header : MessageHeader) (instruction : Instruction) (parser : Parser) (i : ℕ) :
    Cursor :=
  ⟨parser, { InstructionAccountsIterator.init header instruction with current := i }⟩

section

variable (header : MessageHeader) (instruction : Instruction)

/-- The key of an account that the iterator comes to. -/
def walkedAccount (i : ℕ) : Option (Ptr Pubkey) :=
  instruction.walked[i]?.bind fun index => header.pubkeys[index.toNat]?

/-- It signs the message. -/
def walkedSigns (i : ℕ) : Bool := instruction.walked[i]?.any header.isRequiredSigner

/-- From which position to which an account is used so. -/
def AccountUse.Takes (i : ℕ) : AccountUse → ℕ → Prop
  | key pubkey, i' => walkedAccount header instruction i = some pubkey ∧ i' = i + 1
  | skipped, i' => (walkedAccount header instruction i).isSome ∧ i' = i + 1
  | ifAny pubkey, i' => walkedAccount header instruction i = pubkey ∧
      i' = i + pubkey.toList.length
  | skippedIfAny, i' => i' = i + (walkedAccount header instruction i).toList.length
  | left n, i' => instruction.walked.length - i = n ∧ i' = i
  | signer pubkey, i' => walkedAccount header instruction i = some pubkey ∧
      walkedSigns header instruction i = true ∧ i' = i + 1
  | nonSigner pubkey, i' => walkedAccount header instruction i = some pubkey ∧
      walkedSigns header instruction i = false ∧ i' = i + 1
  | signers n, i' => (signerRun header instruction.walked i).length = n ∧ i' = i + n
  | more any, i' => (any = true ↔ i < instruction.walked.length) ∧ i' = i

/-- **Accounts in a row**, from one position to another. -/
def AccountsAt : ℕ → List AccountUse → ℕ → Prop
  | i, [], i' => i' = i
  | i, use :: uses, i'' => ∃ i', use.Takes header instruction i i' ∧ AccountsAt i' uses i''

variable {header instruction}

theorem accountsAt_one {i i' : ℕ} {use : AccountUse} :
    AccountsAt header instruction i [use] i' ↔ use.Takes header instruction i i' := by
  constructor
  · rintro ⟨_, htakes, rfl⟩
    exact htakes
  · exact fun htakes => ⟨i', htakes, rfl⟩

theorem accountsAt_append {i i'' : ℕ} {uses uses' : List AccountUse} :
    AccountsAt header instruction i (uses ++ uses') i'' ↔
      ∃ i', AccountsAt header instruction i uses i' ∧
        AccountsAt header instruction i' uses' i'' := by
  induction uses generalizing i with
  | nil =>
      constructor
      · exact fun h => ⟨i, rfl, h⟩
      · rintro ⟨_, rfl, h⟩
        exact h
  | cons use uses ih =>
      constructor
      · rintro ⟨j, htakes, h⟩
        obtain ⟨i', huses, huses'⟩ := ih.mp h
        exact ⟨i', ⟨j, htakes, huses⟩, huses'⟩
      · rintro ⟨i', ⟨j, htakes, huses⟩, huses'⟩
        exact ⟨j, htakes, ih.mpr ⟨i', huses, huses'⟩⟩

/-! ### The accounts that the iterator hands out -/

theorem Cursor.place_init :
    Cursor.init header instruction
      = .place header instruction ⟨instruction.data.addr, instruction.data.val⟩ 0 := rfl

theorem Cursor.length_place (parser : Parser) (i : ℕ) :
    (Cursor.place header instruction parser i).it.length.toNat = instruction.walked.length := by
  rw [Instruction.length_walked]
  exact UInt8.toNat_ofNat'

theorem remainingAccounts_place (parser : Parser) (i : ℕ) :
    remainingAccounts (.place header instruction parser i)
      = .ok (instruction.walked.length - i, .place header instruction parser i) :=
  congrArg (fun n => Except.ok (n - i, _)) (Cursor.length_place parser i)

section

variable (hvalid : instructionValidate instruction header = true)
include hvalid

/-- **An account that the iterator comes to has a key.** -/
theorem exists_walkedAccount {i : ℕ} (hi : i < instruction.walked.length) :
    ∃ index key, instruction.accounts.val[i]? = some index ∧
      header.pubkeys[index.toNat]? = some key ∧ walkedAccount header instruction i = some key := by
  have hwalked := Instruction.walked_getElem? hi
  rw [List.getElem?_eq_getElem hi] at hwalked
  obtain ⟨key, -, hkey⟩ := readAt_of_lt ((instructionValidate_iff.mp hvalid).2 _
    (List.mem_of_getElem? hwalked.symm))
  refine ⟨_, key, hwalked.symm, readAt_eq_ok.mp hkey, ?_⟩
  rw [walkedAccount, List.getElem?_eq_getElem hi, Option.bind_some, readAt_eq_ok.mp hkey]

omit hvalid in
theorem walkedAccount_of_ge {i : ℕ} (hi : instruction.walked.length ≤ i) :
    walkedAccount header instruction i = none := by
  rw [walkedAccount, List.getElem?_eq_none hi, Option.bind_none]

theorem walkedAccount_isSome_iff {i : ℕ} :
    (walkedAccount header instruction i).isSome ↔ i < instruction.walked.length := by
  rcases Nat.lt_or_ge i instruction.walked.length with hi | hi
  · obtain ⟨_, key, -, -, hkey⟩ := exists_walkedAccount hvalid hi
    rw [hkey]
    exact iff_of_true rfl hi
  · rw [walkedAccount_of_ge hi]
    exact iff_of_false Bool.false_ne_true (Nat.not_lt.mpr hi)

/-- **The next account**, wherever the cursor is. -/
theorem nextAccount_place (parser : Parser) (i : ℕ) :
    nextAccount (.place header instruction parser i)
      = (walkedAccount header instruction i).elim (.error .bail) fun key =>
          .ok (key, .place header instruction parser (i + 1)) := by
  have hlength := @Cursor.length_place header instruction parser i
  rcases Nat.lt_or_ge i instruction.walked.length with hi | hi
  · obtain ⟨index, key, hindex, hkey, hwalked⟩ := exists_walkedAccount hvalid hi
    have hindex : readAt (Cursor.place header instruction parser i).it.accounts
        (Cursor.place header instruction parser i).it.current = .ok index := readAt_eq_ok.mpr hindex
    have hkey : readAt (Cursor.place header instruction parser i).it.messageHeaderPubkeys
        index.toNat = .ok key := readAt_eq_ok.mpr hkey
    rw [hwalked, nextAccount, if_pos (hlength ▸ hi), hindex]
    simp only [bind, Except.bind, hkey]
    rfl
  · rw [walkedAccount_of_ge hi, nextAccount, if_neg (hlength ▸ Nat.not_lt.mpr hi)]
    rfl

theorem skipAccount_place (parser : Parser) (i : ℕ) :
    skipAccount (.place header instruction parser i)
      = if (walkedAccount header instruction i).isSome then
          .ok ((), .place header instruction parser (i + 1)) else .error .bail := by
  rw [skipAccount, Cursor.length_place]
  exact if_congr (walkedAccount_isSome_iff hvalid).symm rfl rfl

theorem skipAccountIfAny_place (parser : Parser) (i : ℕ) :
    skipAccountIfAny (.place header instruction parser i)
      = .ok ((), .place header instruction parser
          (i + (walkedAccount header instruction i).toList.length)) := by
  rw [skipAccountIfAny, step_seq_of_ok (remainingAccounts_place parser i)]
  rcases Nat.lt_or_ge i instruction.walked.length with hi | hi
  · obtain ⟨_, key, -, -, hkey⟩ := exists_walkedAccount hvalid hi
    rw [if_neg (by omega), skipAccount_place hvalid, hkey]
    rfl
  · rw [walkedAccount_of_ge hi, if_pos (by omega)]
    rfl

theorem nextAccountIfAny_place (parser : Parser) (i : ℕ) :
    nextAccountIfAny (.place header instruction parser i)
      = .ok (walkedAccount header instruction i, .place header instruction parser
          (i + (walkedAccount header instruction i).toList.length)) := by
  rw [nextAccountIfAny, step_seq_of_ok (remainingAccounts_place parser i)]
  rcases Nat.lt_or_ge i instruction.walked.length with hi | hi
  · obtain ⟨_, key, -, -, hkey⟩ := exists_walkedAccount hvalid hi
    have hnext := nextAccount_place hvalid parser i
    rw [hkey] at hnext ⊢
    rw [if_neg (by omega), step_seq_of_ok hnext]
    rfl
  · rw [walkedAccount_of_ge hi, if_pos (by omega)]
    rfl

end

end

/-! ## Formats -/

/-- Parsing steps among those of a program's parser, one after the other. -/
theorem InstrM.lift_bind {α β : Type} (step : ParseM α) (next : α → ParseM β) :
    (liftM (step >>= next) : InstrM β) = liftM step >>= fun a => liftM (next a) := by
  funext c
  change ((step c.parser >>= fun r => next r.1 r.2) >>= fun r => _)
    = (step c.parser >>= fun r => _) >>= fun r => _
  cases step c.parser <;> rfl

section

variable {header : MessageHeader} {instruction : Instruction} {α β γ : Type}

variable (header instruction) in
/-- **The parser has a format**: it gives back the possible records that are written so, and
nothing else. -/
def Formats (step : InstrM α) (possible : α → Prop) (fields : α → List WireField)
    (accounts : α → List AccountUse) : Prop :=
  AcceptsWalk (Cursor.place header instruction) step fun n i a w i' =>
    possible a ∧ FieldsAt n (fields a) w ∧ AccountsAt header instruction i (accounts a) i'

theorem instrBailIf_true : instrBailIf true = throw .bail := rfl

theorem instrBailIf_false : instrBailIf false = pure () := rfl

@[simp] theorem InstrM.lift_pure {α : Type} (a : α) :
    (liftM (pure a : ParseM α) : InstrM α) = pure a := rfl

namespace Formats

variable {step : InstrM α} {next : α → InstrM β} {possible : α → Prop} {possible' : β → Prop}
  {fields : α → List WireField} {fields' : β → List WireField} {accounts : α → List AccountUse}
  {accounts' : β → List AccountUse}

theorem congr {possible' : α → Prop} {fields' : α → List WireField}
    {accounts' : α → List AccountUse}
    (h : Formats header instruction step possible fields accounts)
    (hpossible : ∀ a, possible a ↔ possible' a) (hfields : ∀ a, possible' a → fields a = fields' a)
    (haccounts : ∀ a, possible' a → accounts a = accounts' a) :
    Formats header instruction step possible' fields' accounts' :=
  AcceptsWalk.congr h fun _ _ a _ _ => by
    rw [hpossible]
    exact and_congr_right fun ha => by rw [hfields a ha, haccounts a ha]

/-- **A part of a record in front of the others**, which the record has at `part`. -/
theorem seq (h : Formats header instruction step possible fields accounts) (part : β → α)
    (hpart : ∀ b, possible' b → possible (part b))
    (hnext : ∀ a, possible a → Formats header instruction (next a)
      (fun b => possible' b ∧ part b = a) fields' accounts') :
    Formats header instruction (step >>= next) possible' (fun b => fields (part b) ++ fields' b)
      fun b => accounts (part b) ++ accounts' b := by
  refine AcceptsWalk.congr (AcceptsWalk.seq h fun a ⟨_, _, _, _, ha, _⟩ => hnext a ha)
    fun n i b w i'' => ?_
  constructor
  · rintro ⟨_, u, v, i', rfl, ⟨-, hu, hi⟩, ⟨hb, rfl⟩, hv, hi'⟩
    exact ⟨hb, fieldsAt_append.mpr ⟨u, v, rfl, hu, hv⟩, accountsAt_append.mpr ⟨i', hi, hi'⟩⟩
  · rintro ⟨hb, hw, hi⟩
    obtain ⟨u, v, rfl, hu, hv⟩ := fieldsAt_append.mp hw
    obtain ⟨i', hi, hi'⟩ := accountsAt_append.mp hi
    exact ⟨part b, u, v, i', rfl, ⟨hpart b hb, hu, hi⟩, ⟨hb, rfl⟩, hv, hi'⟩

/-- The parts make the record. -/
theorem pure {a : α} (h : ∀ a', possible a' ↔ a' = a) :
    Formats header instruction (Pure.pure a) possible (fun _ => []) fun _ => [] :=
  (AcceptsWalk.pure a).congr fun _ _ a' _ _ => and_congr_left fun _ => (h a').symm

/-- A record without fields and accounts. -/
theorem pure_of_nil {a : α} (h : ∀ a', possible a' ↔ a' = a) (hfields : fields a = [])
    (haccounts : accounts a = []) :
    Formats header instruction (Pure.pure a) possible fields accounts :=
  (pure h).congr (fun _ => Iff.rfl) (fun a' ha' => by rw [(h a').mp ha', hfields])
    fun a' ha' => by rw [(h a').mp ha', haccounts]

/-- No record. -/
theorem throw (stop : Stop) (h : ∀ a, ¬possible a) :
    Formats header instruction (MonadExcept.throw stop) possible fields accounts :=
  (AcceptsWalk.throw stop).congr fun _ _ a _ _ => iff_of_false id fun ⟨ha, _⟩ => h a ha

/-- The same record among those of a larger type. -/
theorem map {inj : α → γ} {possible' : γ → Prop} {fields : γ → List WireField}
    {accounts : γ → List AccountUse}
    (h : Formats header instruction step possible (fun a => fields (inj a))
      fun a => accounts (inj a))
    (hpossible : ∀ c, possible' c ↔ ∃ a, c = inj a ∧ possible a) :
    Formats header instruction (step >>= fun a => Pure.pure (inj a)) possible' fields accounts := by
  refine AcceptsWalk.congr (AcceptsWalk.seq h fun a _ => AcceptsWalk.pure (inj a))
    fun n i c w i'' => ?_
  constructor
  · rintro ⟨a, u, v, i', rfl, ⟨ha, hu, hi⟩, rfl, rfl, rfl⟩
    rw [List.append_nil]
    exact ⟨(hpossible _).mpr ⟨a, rfl, ha⟩, hu, hi⟩
  · rintro ⟨hc, hw, hi⟩
    obtain ⟨a, rfl, ha⟩ := (hpossible c).mp hc
    exact ⟨a, w, [], i'', (List.append_nil w).symm, ⟨ha, hw, hi⟩, rfl, rfl, rfl⟩

/-- A step that reads the data only. -/
theorem of_accepts {step : ParseM α}
    (h : Accepts step fun n a w => possible a ∧ FieldsAt n (fields a) w) :
    Formats header instruction (liftM step) possible fields fun _ => [] := by
  refine (AcceptsWalk.of_accepts h fun parser i => ?_).congr fun n i a w i' => and_assoc
  change (step parser >>= fun r => .ok (r.1, Cursor.place header instruction r.2 i)) = _
  cases step parser <;> rfl

theorem of_fields {step : ParseM α} (h : AcceptsFields step fields) :
    Formats header instruction (liftM step) (fun _ => True) fields fun _ => [] :=
  of_accepts (h.congr fun _ _ _ => (and_iff_right trivial).symm)

/-- **A step that takes accounts only**, from any of them on. -/
theorem accounts_iff : Formats header instruction step possible (fun _ => []) accounts ↔
    ∀ parser i a c, step (.place header instruction parser i) = .ok (a, c) ↔
      ∃ i', c = .place header instruction parser i' ∧ possible a ∧
        AccountsAt header instruction i (accounts a) i' := by
  constructor
  · intro h parser i a c
    rw [h]
    constructor
    · rintro ⟨_, _, i', hreads, rfl, ha, rfl, hi⟩
      rw [reads_nil.mp hreads]
      exact ⟨i', rfl, ha, hi⟩
    · rintro ⟨i', rfl, ha, hi⟩
      exact ⟨[], parser, i', reads_nil.mpr rfl, rfl, ha, rfl, hi⟩
  · intro h
    have hmove : AcceptsWalk (Cursor.place header instruction) step
        (.move fun i a i' => possible a ∧ AccountsAt header instruction i (accounts a) i') :=
      .of_move h
    exact hmove.congr fun _ _ _ _ _ => and_left_comm

section

variable (hvalid : instructionValidate instruction header = true)
include hvalid

theorem of_nextAccount :
    Formats header instruction nextAccount (fun _ => True) (fun _ => []) fun key => [.key key] := by
  refine accounts_iff.mpr fun parser i key c => ?_
  simp only [nextAccount_place hvalid, accountsAt_one, AccountUse.Takes, true_and]
  cases walkedAccount header instruction i <;> simp [and_comm, eq_comm]

theorem of_skipAccount :
    Formats header instruction skipAccount (fun _ => True) (fun _ => []) fun _ => [.skipped] := by
  refine accounts_iff.mpr fun parser i _ c => ?_
  simp only [skipAccount_place hvalid, accountsAt_one, AccountUse.Takes, true_and]
  cases walkedAccount header instruction i <;> simp [eq_comm]

theorem of_skipAccountIfAny :
    Formats header instruction skipAccountIfAny (fun _ => True) (fun _ => [])
      fun _ => [.skippedIfAny] := by
  refine accounts_iff.mpr fun parser i _ c => ?_
  simp only [skipAccountIfAny_place hvalid, accountsAt_one, AccountUse.Takes, true_and]
  simp [eq_comm]

theorem of_nextAccountIfAny :
    Formats header instruction nextAccountIfAny (fun _ => True) (fun _ => [])
      fun key => [.ifAny key] := by
  refine accounts_iff.mpr fun parser i key c => ?_
  simp only [nextAccountIfAny_place hvalid, accountsAt_one, AccountUse.Takes, true_and]
  constructor
  · intro h
    cases h
    exact ⟨_, rfl, rfl, rfl⟩
  · rintro ⟨_, rfl, rfl, rfl⟩
    rfl

end

/-- **Accounts behind those of all other parts**, and no data. -/
theorem last (h : Formats header instruction step possible (fun _ => []) accounts) (part : β → α)
    (hpart : ∀ b, possible' b → possible (part b))
    (hnext : ∀ a, possible a → Formats header instruction (next a)
      (fun b => possible' b ∧ part b = a) fields' fun _ => []) :
    Formats header instruction (step >>= next) possible' fields' fun b => accounts (part b) :=
  (h.seq part hpart hnext).congr (fun _ => Iff.rfl) (fun _ _ => rfl)
    fun _ _ => List.append_nil _

/-! ### One step in front -/

/-- `BAIL_IF`, on what no possible record has. -/
theorem check {c : Bool} {next : InstrM β} (hc : c = true → ∀ b, ¬possible' b)
    (hnext : c = false → Formats header instruction next possible' fields' accounts') :
    Formats header instruction (instrBailIf c >>= fun _ => next) possible' fields' accounts' := by
  cases c with
  | true => exact .throw .bail (hc rfl)
  | false => exact hnext rfl

section

variable {next : α → InstrM β} (part : β → α)

theorem read {step : ParseM α} {field : α → WireField} (h : AcceptsField step field)
    (hnext : ∀ a, Formats header instruction (next a) (fun b => possible' b ∧ part b = a)
      fields' accounts') :
    Formats header instruction (liftM step >>= next) possible'
      (fun b => field (part b) :: fields' b) accounts' :=
  (of_fields h.acceptsFields).seq part (fun _ _ => trivial) fun a _ => hnext a

theorem readAll {step : ParseM α} (h : AcceptsFields step fields)
    (hnext : ∀ a, Formats header instruction (next a) (fun b => possible' b ∧ part b = a)
      fields' accounts') :
    Formats header instruction (liftM step >>= next) possible'
      (fun b => fields (part b) ++ fields' b) accounts' :=
  (of_fields h).seq part (fun _ _ => trivial) fun a _ => hnext a

end

theorem readOption {step : ParseM α} {next : Option α → InstrM β} (part : β → Option α)
    {field : α → WireField} (h : AcceptsField step field)
    (hnext : ∀ o, Formats header instruction (next o) (fun b => possible' b ∧ part b = o)
      fields' accounts') :
    Formats header instruction (liftM parseOption >>= fun option =>
        liftM (if option then step >>= fun a => Pure.pure (some a) else Pure.pure none :
          ParseM (Option α)) >>= next) possible'
      (fun b => optionFields field (part b) ++ fields' b) accounts' := by
  have hoptional := readAll part (acceptsFields_parseOptional h) hnext
  rw [parseOptional, InstrM.lift_bind, bind_assoc] at hoptional
  exact hoptional

section

variable (hvalid : instructionValidate instruction header = true)
include hvalid

theorem account {next : Ptr Pubkey → InstrM β} (part : β → Ptr Pubkey)
    (hnext : ∀ key, Formats header instruction (next key)
      (fun b => possible' b ∧ part b = key) fields' accounts') :
    Formats header instruction (nextAccount >>= next) possible' fields'
      fun b => .key (part b) :: accounts' b :=
  (of_nextAccount hvalid).seq part (fun _ _ => trivial) fun a _ => hnext a

theorem skip {next : InstrM β}
    (hnext : Formats header instruction next possible' fields' accounts') :
    Formats header instruction (skipAccount >>= fun _ => next) possible' fields'
      fun b => .skipped :: accounts' b :=
  (of_skipAccount hvalid).seq (fun _ => ()) (fun _ _ => trivial) fun _ _ =>
    hnext.congr (fun _ => (and_iff_left rfl).symm) (fun _ _ => rfl) fun _ _ => rfl

theorem accountIfAny {next : Option (Ptr Pubkey) → InstrM β} (part : β → Option (Ptr Pubkey))
    (hnext : ∀ key, Formats header instruction (next key)
      (fun b => possible' b ∧ part b = key) fields' accounts') :
    Formats header instruction (nextAccountIfAny >>= next) possible' fields'
      fun b => .ifAny (part b) :: accounts' b :=
  (of_nextAccountIfAny hvalid).seq part (fun _ _ => trivial) fun a _ => hnext a

theorem skipIfAny {next : InstrM β}
    (hnext : Formats header instruction next possible' fields' accounts') :
    Formats header instruction (skipAccountIfAny >>= fun _ => next) possible' fields'
      fun b => .skippedIfAny :: accounts' b :=
  (of_skipAccountIfAny hvalid).seq (fun _ => ()) (fun _ _ => trivial) fun _ _ =>
    hnext.congr (fun _ => (and_iff_left rfl).symm) (fun _ _ => rfl) fun _ _ => rfl

end

end Formats

/-! ## Instructions -/

variable (header instruction) in
/-- **The instruction is written so**: the fields are in front of its data, the accounts in front of
its accounts. -/
structure WrittenAs (fields : List WireField) (accounts : List AccountUse) : Prop where
  data : ∃ w rest, instruction.data.val = w ++ rest ∧ FieldsAt instruction.data.addr fields w
  accounts : ∃ i, AccountsAt header instruction 0 accounts i

/-- **A parser with a format accepts an instruction** exactly when it is written so. -/
theorem Formats.parse_iff {step : InstrM α} {possible : α → Prop} {fields : α → List WireField}
    {accounts : α → List AccountUse}
    (h : Formats header instruction step possible fields accounts) {a : α} :
    step.parse header instruction = .ok a ↔
      possible a ∧ WrittenAs header instruction (fields a) (accounts a) := by
  rw [InstrM.parse_ok_iff, Cursor.place_init]
  constructor
  · rintro ⟨c, hstep⟩
    obtain ⟨w, parser, i, ⟨hdata, -⟩, -, ha, hw, hi⟩ := (h _ _ _ _).mp hstep
    exact ⟨ha, ⟨w, parser.buffer, hdata, hw⟩, i, hi⟩
  · rintro ⟨ha, ⟨w, rest, hdata, hw⟩, i, hi⟩
    exact ⟨_, (h _ _ _ _).mpr
      ⟨w, ⟨instruction.data.addr + w.length, rest⟩, i, ⟨hdata, rfl⟩, rfl, ha, hw, hi⟩⟩

end

/-! ## One instruction -/

theorem length_oneProgramKeys (programId : Pubkey) : [plainSigner, programId].length < 128 := by
  rw [List.length_cons, List.length_singleton]
  decide

/-- The header of a message with one instruction of a program. -/
def oneProgramHeader (programId : Pubkey) : MessageHeader :=
  legacyHeader [plainSigner, programId] (length_oneProgramKeys programId) 1

/-- That instruction: its accounts are the first key. -/
def oneProgramInstruction (accounts : ℕ) (data : List UInt8) : Instruction where
  programIdIndex := 1
  accounts := ⟨103, List.replicate accounts 0⟩
  data := ⟨104 + accounts, data⟩

/-- The first key, where it stands. -/
def plainKey : Ptr Pubkey := ⟨4, plainSigner⟩

end AgencLedger
