import AgencLedger.Program.Faultless
import AgencLedger.Sol.RoundTrip

/-!
# Program/AccountsIterator — what the iterator over the accounts hands out

The iterator keeps the number of accounts in a byte.  Up to 255 accounts it hands out the keys of
all of them, in order, and then fails at every call; beyond that it has already forgotten some.
-/

namespace AgencLedger

section

variable {header : MessageHeader} {instruction : Instruction}

/-! ## Calls -/

/-- The results of so many calls of `instruction_accounts_iterator_next`, one after the other.  A
call that fails leaves the iterator as it is. -/
def nextCalls : ℕ → Cursor → List (Result (Ptr Pubkey)) × Cursor
  | 0, c => ([], c)
  | k + 1, c =>
      match nextAccount c with
      | .ok (key, c') => ((.ok key :: (nextCalls k c').1), (nextCalls k c').2)
      | .error stop => ((.error stop :: (nextCalls k c).1), (nextCalls k c).2)

theorem nextCalls_of_ok {c c' : Cursor} {key : Ptr Pubkey} (h : nextAccount c = .ok (key, c'))
    (k : ℕ) : nextCalls (k + 1) c = (.ok key :: (nextCalls k c').1, (nextCalls k c').2) := by
  rw [nextCalls, h]

theorem nextCalls_of_error {c : Cursor} {stop : Stop} (h : nextAccount c = .error stop) (k : ℕ) :
    nextCalls (k + 1) c = (.error stop :: (nextCalls k c).1, (nextCalls k c).2) := by
  rw [nextCalls, h]

/-- What a call hands out when it comes to a position. -/
def accountCall (header : MessageHeader) (instruction : Instruction) (i : ℕ) :
    Result (Ptr Pubkey) :=
  (instructionAccount header instruction i).elim (.error .bail) .ok

variable (header instruction) in
/-- **The iterator is complete**: its calls hand out the keys of the accounts one by one, and fail
from then on; at every point it knows how many are left, and the index of the next. -/
structure IteratesAll : Prop where
  calls : ∀ k, (nextCalls k (.init header instruction)).1
    = (List.range k).map (accountCall header instruction)
  remaining : ∀ k, (nextCalls k (.init header instruction)).2.it.remaining
    = instruction.accounts.val.length - k
  index : ∀ k, ∃ c, currentAccountIndex (nextCalls k (.init header instruction)).2
    = .ok (instruction.accounts.val[k]?, c)

/-! ## One call -/

/-- The cursor in front of the account at a position. -/
def Cursor.before (header : MessageHeader) (instruction : Instruction) (i : ℕ) : Cursor :=
  ⟨⟨instruction.data.addr, instruction.data.val⟩,
    { InstructionAccountsIterator.init header instruction with current := i }⟩

theorem toNat_length (h : instruction.accounts.val.length ≤ 255) (i : ℕ) :
    (Cursor.before header instruction i).it.length.toNat = instruction.accounts.val.length :=
  UInt8.toNat_ofNat_of_lt' (Nat.lt_succ_of_le h)

theorem nextAccount_before (hvalid : instructionValidate instruction header = true)
    (h : instruction.accounts.val.length ≤ 255) {i : ℕ} (hi : i < instruction.accounts.val.length) :
    ∃ key, accountCall header instruction i = .ok key ∧
      nextAccount (.before header instruction i)
        = .ok (key, .before header instruction (i + 1)) := by
  obtain ⟨index, hmem, hindex⟩ := readAt_of_lt hi
  obtain ⟨key, -, hkey⟩ := readAt_of_lt ((instructionValidate_iff.mp hvalid).2 index hmem)
  refine ⟨key, ?_, ?_⟩
  · rw [accountCall, instructionAccount, readAt_eq_ok.mp hindex, Option.bind_some,
      readAt_eq_ok.mp hkey, Option.elim_some]
  · have hindex : readAt (Cursor.before header instruction i).it.accounts
        (Cursor.before header instruction i).it.current = .ok index := hindex
    have hkey : readAt (Cursor.before header instruction i).it.messageHeaderPubkeys index.toNat
        = .ok key := hkey
    rw [nextAccount, if_pos (by rw [toNat_length h]; exact hi), hindex]
    simp only [bind, Except.bind, hkey]
    rfl

theorem nextAccount_end (h : instruction.accounts.val.length ≤ 255) :
    nextAccount (.before header instruction instruction.accounts.val.length) = .error .bail :=
  if_neg (by rw [toNat_length h]; exact Nat.lt_irrefl _)

theorem accountCall_of_ge {i : ℕ} (hi : instruction.accounts.val.length ≤ i) :
    accountCall header instruction i = .error .bail := by
  rw [accountCall, instructionAccount, List.getElem?_eq_none hi, Option.bind_none,
    Option.elim_none]

/-- Behind the last account all calls fail. -/
theorem map_accountCall_of_ge {i : ℕ} (hi : instruction.accounts.val.length ≤ i) (k : ℕ) :
    (List.range' i k).map (accountCall header instruction) = List.replicate k (.error .bail) := by
  refine List.eq_replicate_iff.mpr
    ⟨by rw [List.length_map, List.length_range'], fun call hcall => ?_⟩
  obtain ⟨m, hm, rfl⟩ := List.mem_map.mp hcall
  exact accountCall_of_ge (hi.trans (List.mem_range'_1.mp hm).1)

/-! ## All calls -/

/-- **Any number of calls**, from any account on. -/
theorem nextCalls_before (hvalid : instructionValidate instruction header = true)
    (h : instruction.accounts.val.length ≤ 255) (k : ℕ) {i : ℕ}
    (hi : i ≤ instruction.accounts.val.length) :
    nextCalls k (.before header instruction i)
      = ((List.range' i k).map (accountCall header instruction),
        .before header instruction (min (i + k) instruction.accounts.val.length)) := by
  induction k generalizing i with
  | zero => rw [nextCalls, List.range'_zero, List.map_nil, Nat.add_zero, Nat.min_eq_left hi]
  | succ k ih =>
      rcases Nat.lt_or_eq_of_le hi with hlt | rfl
      · obtain ⟨key, hcall, hnext⟩ := nextAccount_before hvalid h hlt
        rw [nextCalls_of_ok hnext, ih hlt, List.range'_succ, List.map_cons, hcall,
          show i + (k + 1) = i.succ + k by omega]
      · rw [nextCalls_of_error (nextAccount_end h), ih (Nat.le_refl _),
          map_accountCall_of_ge (Nat.le_refl _), map_accountCall_of_ge (Nat.le_refl _),
          List.replicate_succ, Nat.min_eq_right (Nat.le_add_right _ _),
          Nat.min_eq_right (Nat.le_add_right _ _)]

theorem remaining_before (h : instruction.accounts.val.length ≤ 255) (i : ℕ) :
    (Cursor.before header instruction i).it.remaining = instruction.accounts.val.length - i :=
  congrArg (· - i) (toNat_length h i)

theorem currentAccountIndex_before (h : instruction.accounts.val.length ≤ 255) (i : ℕ) :
    currentAccountIndex (.before header instruction i)
      = .ok (instruction.accounts.val[i]?, .before header instruction i) := by
  rw [currentAccountIndex, remaining_before h]
  rcases Nat.lt_or_ge i instruction.accounts.val.length with hlt | hge
  · obtain ⟨index, -, hindex⟩ := readAt_of_lt hlt
    have hread : readAt (Cursor.before header instruction i).it.accounts
        (Cursor.before header instruction i).it.current = .ok index := hindex
    rw [if_neg (by omega), hread, readAt_eq_ok.mp hindex]
    rfl
  · rw [if_pos (by omega), List.getElem?_eq_none hge]

/-- **The iterator is complete** exactly up to 255 accounts. -/
theorem iteratesAll_iff (hvalid : instructionValidate instruction header = true) :
    IteratesAll header instruction ↔ instruction.accounts.val.length ≤ 255 := by
  constructor
  · intro h
    have hlength : instruction.accounts.val.length % 256 = instruction.accounts.val.length := by
      rw [← UInt8.toNat_ofNat']
      exact h.remaining 0
    omega
  · intro h
    have hcalls : ∀ k, nextCalls k (.init header instruction)
        = ((List.range' 0 k).map (accountCall header instruction),
          .before header instruction (min (0 + k) instruction.accounts.val.length)) :=
      fun k => nextCalls_before hvalid h k (Nat.zero_le _)
    refine ⟨fun k => ?_, fun k => ?_, fun k => ?_⟩
    · rw [hcalls, List.range_eq_range']
    · rw [hcalls, remaining_before h]
      omega
    · rw [hcalls, currentAccountIndex_before h, Nat.zero_add]
      rcases Nat.le_total k instruction.accounts.val.length with hle | hge
      · rw [Nat.min_eq_left hle]
        exact ⟨_, rfl⟩
      · rw [Nat.min_eq_right hge, List.getElem?_eq_none (Nat.le_refl _),
          List.getElem?_eq_none hge]
        exact ⟨_, rfl⟩

end

/-- A header with one key. -/
def oneKeyHeader : MessageHeader := legacyHeader [plainSigner] (by decide) 1

/-- An instruction that names its one key twice. -/
theorem iteratesAll_iff_two :
    IteratesAll oneKeyHeader ⟨0, ⟨38, [0, 0]⟩, ⟨41, []⟩⟩ ↔ 2 ≤ 255 :=
  iteratesAll_iff (by decide)

/-- An instruction that names its one key 256 times. -/
def crowdedValue : InstructionValue where
  programIdIndex := 0
  accounts := List.replicate 256 0
  data := []
  accounts_le := by rw [List.length_replicate]; decide
  data_le := by decide

/-- **Of 256 accounts none is left at the start**, though the instruction is read and its indices
are in range. -/
theorem crowdedValue_not_iteratesAll :
    ¬∀ (p p' : Parser) (instruction : Instruction) (header : MessageHeader),
      parseInstruction p = .ok (instruction, p') → instructionValidate instruction header = true →
        IteratesAll header instruction := by
  intro h
  obtain ⟨instruction, hat, hprogram, haccounts, -⟩ := instructionAt_serialise crowdedValue 0
  have hvalid : instructionValidate instruction oneKeyHeader = true := by
    refine instructionValidate_iff.mpr ⟨by rw [hprogram]; decide, fun index hmem => ?_⟩
    rw [haccounts] at hmem
    rw [(List.mem_replicate.mp hmem).2]
    decide
  have hparse := @Accepts.parse 0 [] _ _ _ accepts_parseInstruction _ _ hat
  have hle := (iteratesAll_iff hvalid).mp (h _ _ instruction oneKeyHeader hparse hvalid)
  have hlength := congrArg List.length haccounts
  rw [show crowdedValue.accounts.length = 256 from List.length_replicate] at hlength
  omega

end AgencLedger
