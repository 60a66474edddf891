import AgencLedger.App.Approval

/-!
# App/Assembly — the chunks of a command, put together

An APDU that reaches `G_command` brings a `Chunk`: it starts a command, or goes on with the one in
progress.  Over any run a complete command is made of the chunks since the last first one, in order,
and of nothing else.

Two things the model of `apdu_handle_message` leaves out are added here: the lengths that the code
counts down by hand, and the array the message stands in.
-/

namespace AgencLedger

/-! ## Lengths counted down -/

/-- What can go wrong while the data of a header is taken apart. -/
inductive LengthFault
  /-- a length that falls below zero -/
  | underflow
  | reply (sw : ApduReply)
  deriving DecidableEq

/-- `data` and `data_length` of a header: what stands behind the pointer, and the length kept
beside it. -/
structure Slice where
  data : Option (List UInt8)
  length : ℕ
  deriving DecidableEq

/-- The data of a header as `parse_apdu_header` sets it. -/
def ApduHeader.slice (header : ApduHeader) : Slice :=
  ⟨header.data, (header.data.getD []).length⟩

/-- `data += n; data_length -= n;`. -/
def Slice.advance (n : ℕ) (s : Slice) : Except LengthFault Slice :=
  if s.length < n then .error .underflow else .ok ⟨s.data.map (·.drop n), s.length - n⟩

/-- `read_derivation_path`, on a pointer and a length. -/
def Slice.readDerivationPath (s : Slice) : Except LengthFault (List UInt32) :=
  match s.data with
  | none => .error (.reply .sdkInvalidParameter)
  | some data =>
      if s.length = 0 then .error (.reply .solanaInvalidMessageSize)
      else
        let len := (data.getD 0 0).toNat
        if len < 1 ∨ len > 5 then .error (.reply .solanaInvalidMessage)
        else if 1 + 4 * len > s.length then .error (.reply .solanaInvalidMessageSize)
        else
          let path := pathWords len (data.drop 1)
          if len < 2 ∨ path.getD 0 0 ≠ 0x80000000 ||| 44 ∨ path.getD 1 0 ≠ 0x80000000 ||| 501 then
            .error (.reply .solanaInvalidDerivationPath)
          else .ok path

/-- How the derivation path is taken off the data of a first chunk. -/
def Slice.takeDerivationPath (header : ApduHeader) :
    Except LengthFault (List UInt32 × Slice) := do
  let s ← if !header.deprecatedHost && header.instruction ≠ .getPubkey then do
      if header.slice.length = 0 then throw (.reply .solanaInvalidMessageSize)
      let numDerivationPaths := (header.data.getD []).getD 0 0
      let s ← header.slice.advance 1
      if numDerivationPaths ≠ 1 then throw (.reply .solanaInvalidMessage)
      pure s
    else pure header.slice
  let path ← s.readDerivationPath
  let s ← s.advance (1 + path.length * 4)
  return (path, s)

/-- How the `u16` length is taken off the data of a deprecated message. -/
def Slice.dropLengthPrefix (s : Slice) : Except LengthFault Slice := do
  if s.length < 2 then throw (.reply .solanaInvalidMessageSize)
  let dataLen := match s.data with
    | some data => u2be (data.getD 0 0) (data.getD 1 0)
    | none => 0
  let s ← s.advance 2
  if s.length ≠ dataLen then throw (.reply .solanaInvalidMessageSize)
  return s

/-- The slice of data with its own length. -/
def Slice.of (data : Option (List UInt8)) : Slice := ⟨data, (data.getD []).length⟩

/-- The same call on data that knows its length: no length falls below zero. -/
def inPlace {α β : Type} (f : α → β) : Except ApduReply α → Except LengthFault β
  | .ok a => .ok (f a)
  | .error sw => .error (.reply sw)

theorem inPlace_ne_underflow {α β : Type} (f : α → β) (r : Except ApduReply α) :
    inPlace f r ≠ .error .underflow := by
  rcases r with sw | a
  · exact fun h => LengthFault.noConfusion (Except.error.inj h)
  · exact fun h => (nomatch h)

theorem length_pathWords : ∀ (n : ℕ) (data : List UInt8), 4 * n ≤ data.length →
    (pathWords n data).length = n
  | 0, data, _ => by unfold pathWords; rfl
  | n + 1, a :: b :: c :: d :: data, h => by
      simp only [List.length_cons] at h
      rw [pathWords, List.length_cons, length_pathWords n data (by omega)]
  | n + 1, [], h => by simp at h
  | n + 1, [_], h => by simp at h; omega
  | n + 1, [_, _], h => by simp at h; omega
  | n + 1, [_, _, _], h => by simp at h; omega

theorem throw_bind {ε α β : Type} (e : ε) (k : α → Except ε β) :
    (throw e >>= k) = .error e := rfl

theorem take_two_eq_iff (path : List UInt32) (a b : UInt32) :
    path.take 2 = [a, b] ↔ 2 ≤ path.length ∧ path.getD 0 0 = a ∧ path.getD 1 0 = b := by
  rcases path with _ | ⟨x, _ | ⟨y, path⟩⟩ <;> simp

/-- What an accepted path is: the first two of its two to five levels are fixed. -/
theorem readDerivationPath_ok {data : Option (List UInt8)} {path : List UInt32}
    (h : readDerivationPath data = .ok path) :
    ∃ len rest, data = some (len :: rest) ∧ 4 * path.length ≤ rest.length ∧
      path.take 2 = [0x8000002c, 0x800001f5] ∧ 2 ≤ path.length ∧ path.length ≤ 5 := by
  rcases data with _ | _ | ⟨len, rest⟩
  · cases h
  · cases h
  simp only [readDerivationPath, throw_bind] at h
  split at h
  · cases h
  split at h
  · cases h
  split at h
  · cases h
  rename_i hlen hrest hpath
  have hlength := length_pathWords len.toNat rest (by omega)
  obtain rfl : pathWords len.toNat rest = path := Except.ok.inj h
  have htake := not_not.mp hpath
  exact ⟨len, rest, rfl, by omega, htake, ((take_two_eq_iff _ _ _).mp htake).1, by omega⟩

theorem readDerivationPath_of (data : Option (List UInt8)) :
    (Slice.of data).readDerivationPath = inPlace id (readDerivationPath data) := by
  rcases data with _ | _ | ⟨len, rest⟩
  · rfl
  · rfl
  simp only [Slice.readDerivationPath, readDerivationPath, Slice.of, Option.getD_some,
    List.length_cons, List.getD_cons_zero, List.drop_one, List.tail_cons, Nat.add_eq_zero_iff,
    one_ne_zero, and_false, if_false, throw_bind]
  by_cases hlen : len.toNat < 1 ∨ len.toNat > 5
  · rw [if_pos hlen, if_pos hlen]
    rfl
  rw [if_neg hlen, if_neg hlen]
  by_cases hrest : 4 * len.toNat > rest.length
  · rw [if_pos (by omega), if_pos hrest]
    rfl
  rw [if_neg (by omega), if_neg hrest]
  have hlength := length_pathWords len.toNat rest (by omega)
  have hfixed := take_two_eq_iff (pathWords len.toNat rest) (0x80000000 ||| 44) (0x80000000 ||| 501)
  rw [hlength] at hfixed
  by_cases hpath : (pathWords len.toNat rest).take 2 = [0x80000000 ||| 44, 0x80000000 ||| 501]
  · rw [if_neg (by have := hfixed.mp hpath; simp only [not_or, not_not]; exact ⟨by omega, this.2⟩),
      if_neg (not_not_intro hpath)]
    rfl
  · rw [if_pos, if_pos hpath]
    · rfl
    · by_contra hall
      simp only [not_or, not_not, not_lt] at hall
      exact hpath (hfixed.mpr ⟨hall.1, hall.2⟩)

/-- **No length falls below zero while the path is taken off**, and what is left is as long as its
length says. -/
theorem takeDerivationPath_inPlace (header : ApduHeader) :
    Slice.takeDerivationPath header =
      inPlace (fun r => (r.1, Slice.of (some r.2))) (takeDerivationPath header) := by
  have hread : ∀ data : Option (List UInt8),
      (do let path ← (Slice.of data).readDerivationPath
          let s ← (Slice.of data).advance (1 + path.length * 4)
          pure (path, s)) =
        inPlace (fun r => (r.1, Slice.of (some r.2)))
          (do let path ← readDerivationPath data
              pure (path, (data.getD []).drop (1 + path.length * 4))) := by
    intro data
    rw [readDerivationPath_of]
    rcases hpath : readDerivationPath data with sw | path
    · rfl
    · obtain ⟨len, rest, rfl, hlength, -⟩ := readDerivationPath_ok hpath
      change (Slice.advance (1 + path.length * 4) _ >>= fun s => _) = _
      rw [Slice.advance, if_neg (by
        change ¬(len :: rest).length < 1 + path.length * 4
        rw [List.length_cons]
        omega)]
      simp [inPlace, Slice.of]
  unfold Slice.takeDerivationPath takeDerivationPath
  simp only [throw_bind]
  by_cases hpath : (!header.deprecatedHost && decide (header.instruction ≠ .getPubkey)) = true
  · rw [if_pos hpath, if_pos hpath]
    rcases hdata : header.data with _ | _ | ⟨n, data⟩
    · rw [if_pos (by simp [ApduHeader.slice, hdata])]
      rfl
    · rw [if_pos (by simp [ApduHeader.slice, hdata])]
      rfl
    · rw [if_neg (by simp [ApduHeader.slice, hdata])]
      have hadvance : header.slice.advance 1 = .ok (Slice.of (some data)) := by
        simp [ApduHeader.slice, hdata, Slice.advance, Slice.of]
      rw [hadvance]
      by_cases hn : n = 1
      · subst hn
        exact hread (some data)
      · change (if n ≠ 1 then _ else _) = _
        rw [if_pos hn]
        simp only [if_pos hn]
        rfl
  · rw [if_neg hpath, if_neg hpath]
    exact hread header.data

/-- Nor while the length of a deprecated message is. -/
theorem dropLengthPrefix_inPlace (data : Option (List UInt8)) :
    (Slice.of data).dropLengthPrefix = inPlace Slice.of (dropLengthPrefix data) := by
  rcases data with _ | _ | ⟨a, _ | ⟨b, rest⟩⟩
  · rfl
  · rfl
  · rfl
  have hlength : ¬(Slice.of (some (a :: b :: rest))).length < 2 := by simp [Slice.of]
  have hadvance : (Slice.of (some (a :: b :: rest))).advance 2 = .ok (Slice.of (some rest)) := by
    simp [Slice.advance, Slice.of]
  unfold Slice.dropLengthPrefix dropLengthPrefix
  rw [if_neg hlength]
  rw [hadvance]
  change (if rest.length ≠ u2be a b then _ else _)
    = inPlace _ (if rest.length ≠ u2be a b then _ else _)
  by_cases hrest : rest.length ≠ u2be a b
  · rw [if_pos hrest, if_pos hrest]
    rfl
  · rw [if_neg hrest, if_neg hrest]
    rfl

/-! ## Chunks -/

/-- Whether an APDU starts a command: `P2_EXTEND` counts only where a command may be split. -/
def ApduHeader.isFirst (header : ApduHeader) : Bool :=
  header.p2 &&& p2Extend = 0 || !splitAllowedForInstruction header.instruction

/-- What an APDU adds to a command. -/
structure Chunk where
  instruction : InstructionCode
  nonConfirm : Bool
  deprecatedHost : Bool
  first : Bool
  /-- it is not the final one -/
  more : Bool
  /-- the derivation path of a first chunk that carries one -/
  path : List UInt32
  /-- the data without the path and the length in front of it -/
  data : List UInt8
  deriving DecidableEq

/-- The path of a first chunk, and the data behind it. -/
def ApduHeader.takePath (header : ApduHeader) :
    Except ApduReply (List UInt32 × Option (List UInt8)) :=
  if instructionWithDerivationPathInFirstApdu header.instruction && header.isFirst then
    (takeDerivationPath header).map fun r => (r.1, some r.2)
  else .ok ([], header.data)

/-- The data behind the length of a deprecated message. -/
def ApduHeader.dropPrefix (header : ApduHeader) (data : Option (List UInt8)) :
    Except ApduReply (Option (List UInt8)) :=
  if header.instruction = .deprecatedSignMessage then dropLengthPrefix data else .ok data

/-- The path and the data of a chunk. -/
def ApduHeader.pathAndData (header : ApduHeader) :
    Except ApduReply (List UInt32 × Option (List UInt8)) :=
  header.takePath.bind fun r => (header.dropPrefix r.2).map fun data => (r.1, data)

/-- The same on pointers and lengths. -/
def ApduHeader.pathAndSlice (header : ApduHeader) : Except LengthFault (List UInt32 × Slice) :=
  (if instructionWithDerivationPathInFirstApdu header.instruction && header.isFirst then
      Slice.takeDerivationPath header
    else .ok ([], header.slice)).bind fun r =>
  (if header.instruction = .deprecatedSignMessage then r.2.dropLengthPrefix else .ok r.2).map
    fun s => (r.1, s)

/-- The chunk under a header. -/
def ApduHeader.chunk (header : ApduHeader) (path : List UInt32) (data : Option (List UInt8)) :
    Chunk where
  instruction := header.instruction
  nonConfirm := header.p1 = 0
  deprecatedHost := header.deprecatedHost
  first := header.isFirst
  more := header.p2 &&& p2More ≠ 0
  path
  data := data.getD []

/-- The chunk an APDU brings. -/
def readChunk (apdu : List UInt8) : Except ApduReply Chunk := do
  let header ← parseApduHeader apdu
  let (path, data) ← header.pathAndData
  return header.chunk path data

/-- **No length of a header falls below zero.** -/
theorem pathAndSlice_eq (header : ApduHeader) :
    header.pathAndSlice = inPlace (fun r => (r.1, Slice.of r.2)) header.pathAndData := by
  have hrest : ∀ (path : List UInt32) (data : Option (List UInt8)),
      (if header.instruction = .deprecatedSignMessage then (Slice.of data).dropLengthPrefix
        else .ok (Slice.of data)).map (fun s => (path, s)) =
        inPlace (fun r => (r.1, Slice.of r.2))
          ((header.dropPrefix data).map fun d => (path, d)) := by
    intro path data
    unfold ApduHeader.dropPrefix
    split
    · rw [dropLengthPrefix_inPlace]
      rcases dropLengthPrefix data with sw | data <;> rfl
    · rfl
  unfold ApduHeader.pathAndSlice ApduHeader.pathAndData ApduHeader.takePath
  by_cases hpath : (instructionWithDerivationPathInFirstApdu header.instruction && header.isFirst)
      = true
  · rw [if_pos hpath, if_pos hpath, takeDerivationPath_inPlace]
    rcases takeDerivationPath header with sw | ⟨path, data⟩
    · rfl
    · exact hrest path (some data)
  · rw [if_neg hpath, if_neg hpath]
    exact hrest [] header.data

/-! ## Taking a chunk -/

/-- **What a command makes of a chunk.** -/
structure Command.Takes (maxLength : ℕ) (command : Command) (chunk : Chunk) (command' : Command) :
    Prop where
  payload : instructionWithoutPayload chunk.instruction = false
  continues : chunk.first = false → command.state = .payloadInProgress ∧
    command.instruction = some chunk.instruction ∧ command.nonConfirm = chunk.nonConfirm ∧
    command.deprecatedHost = chunk.deprecatedHost
  instruction : command'.instruction = some chunk.instruction
  nonConfirm : command'.nonConfirm = chunk.nonConfirm
  deprecatedHost : command'.deprecatedHost = chunk.deprecatedHost
  state : command'.state = if chunk.more then .payloadInProgress else .payloadComplete
  path : command'.derivationPath = if chunk.first then chunk.path else command.derivationPath
  message : command'.message = (if chunk.first then [] else command.message) ++ chunk.data
  length : command'.message.length < maxLength

/-- The commands without a payload are complete at once. -/
theorem apduHandleMessage_withoutPayload {maxLength : ℕ} {apdu : List UInt8} {command : Command}
    {header : ApduHeader} (hheader : parseApduHeader apdu = .ok header)
    (h : instructionWithoutPayload header.instruction = true) :
    apduHandleMessage maxLength apdu command = .ok (Command.start header .payloadComplete) := by
  unfold apduHandleMessage
  rw [hheader]
  exact if_pos h

/-- The command a chunk is put into, and its data. -/
def ApduHeader.open (header : ApduHeader) (command : Command) :
    Except ApduReply (Command × Option (List UInt8)) :=
  if header.isFirst then
    header.takePath.map fun r =>
      ({ Command.start header .payloadInProgress with
          numDerivationPaths :=
            if instructionWithDerivationPathInFirstApdu header.instruction then 1 else 0
          derivationPath := r.1 }, r.2)
  else (checkExtension header command).bind fun _ =>
    if instructionWithDerivationPathInFirstApdu header.instruction
        && command.numDerivationPaths ≠ 1 then .error .solanaInvalidMessage
    else .ok (command, header.data)

/-- The command with the data of a chunk behind its message. -/
def ApduHeader.close (maxLength : ℕ) (header : ApduHeader) (r : Command × Option (List UInt8)) :
    Except ApduReply Command :=
  (header.dropPrefix r.2).bind fun data =>
    (appendData maxLength header.instruction data r.1).map fun command =>
      if header.p2 &&& p2More = 0 then
        { command with
          state := .payloadComplete
          userInputIsAtaOrTokenAccount := header.p2 &&& p2IsAtaOrTokenAccount ≠ 0 }
      else command

theorem apduHandleMessage_eq {maxLength : ℕ} {apdu : List UInt8} {command : Command}
    {header : ApduHeader} (hheader : parseApduHeader apdu = .ok header)
    (hpayload : instructionWithoutPayload header.instruction = false) :
    apduHandleMessage maxLength apdu command
      = (header.open command).bind (header.close maxLength) := by
  have hclose : ∀ r : Command × Option (List UInt8),
      (do let data ← if header.instruction = .deprecatedSignMessage then dropLengthPrefix r.2
            else pure r.2
          let command ← appendData maxLength header.instruction data r.1
          if header.p2 &&& p2More = 0 then
            return { command with
              state := .payloadComplete
              userInputIsAtaOrTokenAccount := header.p2 &&& p2IsAtaOrTokenAccount ≠ 0 }
          return command) = header.close maxLength r := by
    intro r
    unfold ApduHeader.close ApduHeader.dropPrefix
    have happend : ∀ data, (do
        let command ← appendData maxLength header.instruction data r.1
        if header.p2 &&& p2More = 0 then
          return { command with
            state := .payloadComplete
            userInputIsAtaOrTokenAccount := header.p2 &&& p2IsAtaOrTokenAccount ≠ 0 }
        return command) = (appendData maxLength header.instruction data r.1).map fun command =>
          if header.p2 &&& p2More = 0 then
            { command with
              state := .payloadComplete
              userInputIsAtaOrTokenAccount := header.p2 &&& p2IsAtaOrTokenAccount ≠ 0 }
          else command := fun data => by
      rcases appendData maxLength header.instruction data r.1 with sw | command
      · rfl
      · exact (apply_ite Except.ok _ _ _).symm
    by_cases hdeprecated : header.instruction = .deprecatedSignMessage
    · rw [if_pos hdeprecated, if_pos hdeprecated]
      rcases dropLengthPrefix r.2 with sw | data
      · rfl
      · exact happend data
    · rw [if_neg hdeprecated, if_neg hdeprecated]
      exact happend r.2
  unfold apduHandleMessage
  rw [hheader]
  refine (if_neg (by rw [hpayload]; simp)).trans ?_
  unfold ApduHeader.open ApduHeader.takePath
  by_cases hfirst : header.isFirst = true
  · rw [if_pos hfirst]
    refine (if_pos hfirst).trans ?_
    by_cases hpath : instructionWithDerivationPathInFirstApdu header.instruction = true
    · have hboth : (instructionWithDerivationPathInFirstApdu header.instruction && header.isFirst)
          = true := by rw [hpath, hfirst, Bool.and_self]
      rw [if_pos hboth]
      refine (if_pos hpath).trans ((if_pos hfirst).trans ?_)
      rw [if_pos hpath]
      rcases takeDerivationPath header with sw | ⟨path, data⟩
      · rfl
      · exact hclose ({ Command.start header .payloadInProgress with
          numDerivationPaths := 1, derivationPath := path }, some data)
    · have hboth : ¬(instructionWithDerivationPathInFirstApdu header.instruction && header.isFirst)
          = true := fun h => hpath (Bool.and_eq_true_iff.mp h).1
      rw [if_neg hboth]
      refine (if_neg hpath).trans ?_
      rw [if_neg hpath]
      exact hclose (Command.start header .payloadInProgress, header.data)
  · rw [if_neg hfirst]
    refine (if_neg hfirst).trans ?_
    rcases checkExtension header command with sw | u
    · rfl
    change _ = Except.bind (if instructionWithDerivationPathInFirstApdu header.instruction
        && command.numDerivationPaths ≠ 1 then .error .solanaInvalidMessage
      else .ok (command, header.data)) (header.close maxLength)
    by_cases hpath : instructionWithDerivationPathInFirstApdu header.instruction = true
    · refine (if_pos hpath).trans ((if_neg hfirst).trans ?_)
      by_cases hnum : command.numDerivationPaths = 1
      · rw [decide_eq_false (not_not_intro hnum), Bool.and_false]
        exact (if_neg (not_not_intro hnum)).trans (hclose (command, header.data))
      · rw [decide_eq_true hnum, hpath]
        exact if_pos hnum
    · refine (if_neg hpath).trans ((hclose (command, header.data)).trans ?_)
      rw [Bool.eq_false_iff.mpr hpath, Bool.false_and]
      rfl

theorem Except.bind_eq_ok {ε α β : Type} {x : Except ε α} {f : α → Except ε β} {b : β} :
    x.bind f = .ok b ↔ ∃ a, x = .ok a ∧ f a = .ok b := by
  rcases x with e | a <;> simp [Except.bind]

theorem Except.map_eq_ok {ε α β : Type} {x : Except ε α} {f : α → β} {b : β} :
    x.map f = .ok b ↔ ∃ a, x = .ok a ∧ f a = b := by
  rcases x with e | a <;> simp [Except.map]

/-- Data that is appended fits, with room for the `NUL`; only the key commands may come without. -/
theorem appendData_ok {maxLength : ℕ} {instruction : InstructionCode} {data : Option (List UInt8)}
    {command command' : Command} (hpayload : instructionWithoutPayload instruction = false)
    (h : appendData maxLength instruction data command = .ok command') :
    (∃ d, data = some d ∧ command' = { command with message := command.message ++ d } ∧
      command'.message.length < maxLength) ∨
    (data = none ∧ instructionWithOnlyDerivationPathInPayload instruction = true) := by
  rcases data with _ | d
  · refine .inr ⟨rfl, ?_⟩
    by_contra hdata
    simp only [appendData, hpayload, throw_bind, Bool.eq_false_iff.mpr hdata] at h
    cases h
  · simp only [appendData, throw_bind] at h
    split at h
    · cases h
    · rename_i hfits
      obtain rfl := (Except.ok.inj h).symm
      exact .inl ⟨d, rfl, rfl, by rw [List.length_append]; omega⟩

/-- A key command is never split, and there is data behind its path. -/
theorem some_of_onlyDerivationPath {header : ApduHeader} {path : List UInt32}
    {data : Option (List UInt8)}
    (h : instructionWithOnlyDerivationPathInPayload header.instruction = true)
    (hdata : header.pathAndData = .ok (path, data)) : data.isSome = true := by
  have hkinds : ∀ instruction : InstructionCode,
      instructionWithOnlyDerivationPathInPayload instruction = true →
        instructionWithDerivationPathInFirstApdu instruction = true ∧
          splitAllowedForInstruction instruction = false ∧
            instruction ≠ .deprecatedSignMessage := by
    intro instruction
    cases instruction <;> simp [instructionWithOnlyDerivationPathInPayload,
      instructionWithDerivationPathInFirstApdu, splitAllowedForInstruction]
  obtain ⟨hpath, hsplit, hne⟩ := hkinds _ h
  obtain ⟨r, htake, hdrop⟩ := Except.bind_eq_ok.mp hdata
  obtain ⟨data', hdrop, hr⟩ := Except.map_eq_ok.mp hdrop
  cases hr
  rw [ApduHeader.takePath, ApduHeader.isFirst, hpath, hsplit, Bool.not_false, Bool.or_true,
    Bool.and_self, if_pos rfl] at htake
  obtain ⟨taken, -, rfl⟩ := Except.map_eq_ok.mp htake
  rw [ApduHeader.dropPrefix, if_neg hne] at hdrop
  cases hdrop
  rfl

theorem checkExtension_ok {header : ApduHeader} {command : Command}
    (h : checkExtension header command = .ok ()) :
    command.state = .payloadInProgress ∧ command.instruction = some header.instruction ∧
      command.nonConfirm = decide (header.p1 = 0) ∧
      command.deprecatedHost = header.deprecatedHost := by
  simp only [checkExtension, throw_bind] at h
  split at h
  · cases h
  split at h
  · cases h
  split at h
  · cases h
  split at h
  · cases h
  rename_i hstate hins hconfirm hhost
  exact ⟨not_not.mp hstate, not_not.mp hins, not_not.mp hconfirm, not_not.mp hhost⟩

/-- The command that a chunk is put into is in progress, and has the marks of the chunk. -/
structure ApduHeader.Opens (header : ApduHeader) (command base : Command) (path : List UInt32) :
    Prop where
  state : base.state = .payloadInProgress
  instruction : base.instruction = some header.instruction
  nonConfirm : base.nonConfirm = decide (header.p1 = 0)
  deprecatedHost : base.deprecatedHost = header.deprecatedHost
  path : base.derivationPath = if header.isFirst then path else command.derivationPath
  message : base.message = if header.isFirst then [] else command.message
  continues : header.isFirst = false → base = command

theorem opens_of_open {header : ApduHeader} {command base : Command} {taken : Option (List UInt8)}
    (h : header.open command = .ok (base, taken)) :
    ∃ path, header.takePath = .ok (path, taken) ∧ header.Opens command base path := by
  unfold ApduHeader.open at h
  split at h
  · rename_i hfirst
    obtain ⟨⟨path, data⟩, htake, hbase⟩ := Except.map_eq_ok.mp h
    cases hbase
    exact ⟨path, htake, rfl, rfl, rfl, rfl, (if_pos hfirst).symm, (if_pos hfirst).symm,
      fun hrest => absurd hfirst (by rw [hrest]; exact Bool.false_ne_true)⟩
  · rename_i hrest
    obtain ⟨u, hcheck, h⟩ := Except.bind_eq_ok.mp h
    split at h
    · cases h
    cases h
    obtain ⟨hstate, hins, hconfirm, hhost⟩ := checkExtension_ok hcheck
    have htake : header.takePath = .ok ([], header.data) := by
      rw [ApduHeader.takePath, Bool.eq_false_iff.mpr hrest, Bool.and_false]
      rfl
    exact ⟨[], htake, hstate, hins, hconfirm, hhost, (if_neg hrest).symm, (if_neg hrest).symm,
      fun _ => rfl⟩

/-- **A command that goes on after an APDU took its chunk.** -/
theorem takes_of_apduHandleMessage {maxLength : ℕ} {apdu : List UInt8} {command command' : Command}
    {header : ApduHeader} (hheader : parseApduHeader apdu = .ok header)
    (hpayload : instructionWithoutPayload header.instruction = false)
    (h : apduHandleMessage maxLength apdu command = .ok command') :
    ∃ chunk, readChunk apdu = .ok chunk ∧ command.Takes maxLength chunk command' := by
  rw [apduHandleMessage_eq hheader hpayload] at h
  obtain ⟨⟨base, taken⟩, hopen, hclose⟩ := Except.bind_eq_ok.mp h
  obtain ⟨data, hdrop, hclose⟩ := Except.bind_eq_ok.mp hclose
  obtain ⟨appended, happend, hcommand⟩ := Except.map_eq_ok.mp hclose
  obtain ⟨path, htake, hbase⟩ := opens_of_open hopen
  have hdata : header.pathAndData = .ok (path, data) :=
    Except.bind_eq_ok.mpr ⟨_, htake, Except.map_eq_ok.mpr ⟨data, hdrop, rfl⟩⟩
  have hchunk : readChunk apdu = .ok (header.chunk path data) := by
    rw [readChunk, hheader]
    change (header.pathAndData >>= _) = _
    rw [hdata]
    rfl
  obtain ⟨d, rfl, rfl, hlength⟩ : ∃ d, data = some d ∧
      appended = { base with message := base.message ++ d } ∧
        appended.message.length < maxLength := by
    rcases appendData_ok hpayload happend with hsome | ⟨rfl, honly⟩
    · exact hsome
    · exact absurd (some_of_onlyDerivationPath honly hdata) Bool.false_ne_true
  refine ⟨_, hchunk, hpayload, fun hrest => ?_, ?_, ?_, ?_, ?_, ?_, ?_, ?_⟩
  · rw [← hbase.continues hrest]
    exact ⟨hbase.state, hbase.instruction, hbase.nonConfirm, hbase.deprecatedHost⟩
  all_goals rw [← hcommand]
  · split <;> exact hbase.instruction
  · split <;> exact hbase.nonConfirm
  · split <;> exact hbase.deprecatedHost
  · by_cases hmore : header.p2 &&& p2More = 0
    · rw [if_pos hmore, if_neg (by simp [ApduHeader.chunk, hmore])]
    · rw [if_neg hmore, if_pos (by simp [ApduHeader.chunk, hmore])]
      exact hbase.state
  · split <;> exact hbase.path
  · split <;> exact congrArg (· ++ d) hbase.message
  · split <;> exact hlength

theorem takeDerivationPath_ok {header : ApduHeader} {path : List UInt32} {rest : List UInt8}
    (h : takeDerivationPath header = .ok (path, rest)) :
    ∃ data, readDerivationPath data = .ok path := by
  have hread : ∀ data : Option (List UInt8), (do
      let path ← readDerivationPath data
      return (path, (data.getD []).drop (1 + path.length * 4))) = .ok (path, rest) →
      ∃ data, readDerivationPath data = .ok path := by
    intro data hok
    obtain ⟨path', hpath, hpair⟩ := Except.bind_eq_ok.mp hok
    cases hpair
    exact ⟨data, hpath⟩
  simp only [takeDerivationPath, throw_bind] at h
  split at h
  · split at h
    · cases h
    · cases h
    · split at h
      · cases h
      · exact hread (some _) h
  · exact hread header.data h

/-- A command that goes on after an APDU has been started. -/
theorem state_of_apduHandleMessage {maxLength : ℕ} {apdu : List UInt8} {command command' : Command}
    (h : apduHandleMessage maxLength apdu command = .ok command') :
    command'.state ≠ .uninitialized := by
  rcases hheader : parseApduHeader apdu with sw | header
  · rw [apduHandleMessage, hheader] at h
    cases h
  rcases hwithout : instructionWithoutPayload header.instruction with _ | _
  · obtain ⟨chunk, -, htakes⟩ := takes_of_apduHandleMessage hheader hwithout h
    rw [htakes.state]
    split <;> simp
  · rw [apduHandleMessage_withoutPayload hheader hwithout] at h
    obtain rfl := (Except.ok.inj h).symm
    simp [Command.start]

/-- The path of a first chunk is one of the app. -/
theorem path_of_readChunk {apdu : List UInt8} {chunk : Chunk} (h : readChunk apdu = .ok chunk)
    (hfirst : chunk.first = true)
    (hpath : instructionWithDerivationPathInFirstApdu chunk.instruction = true) :
    chunk.path.take 2 = [0x8000002c, 0x800001f5] ∧ 2 ≤ chunk.path.length ∧
      chunk.path.length ≤ 5 := by
  obtain ⟨header, -, h⟩ := Except.bind_eq_ok.mp h
  obtain ⟨⟨path, data⟩, hdata, h⟩ := Except.bind_eq_ok.mp h
  obtain rfl : header.chunk path data = chunk := Except.ok.inj h
  obtain ⟨⟨path', taken⟩, htake, hdrop⟩ := Except.bind_eq_ok.mp hdata
  obtain ⟨data', -, hpair⟩ := Except.map_eq_ok.mp hdrop
  cases hpair
  have hboth : (instructionWithDerivationPathInFirstApdu header.instruction && header.isFirst)
      = true := Bool.and_eq_true_iff.mpr ⟨hpath, hfirst⟩
  rw [ApduHeader.takePath, if_pos hboth] at htake
  obtain ⟨⟨read, rest⟩, htaken, hpair⟩ := Except.map_eq_ok.mp htake
  cases hpair
  obtain ⟨bytes, hread⟩ := takeDerivationPath_ok htaken
  obtain ⟨-, -, -, -, hfixed, hle⟩ := readDerivationPath_ok hread
  exact ⟨hfixed, hle⟩

/-! ## Handlers leave it as it was put together -/

/-- The command without what handlers write into it. -/
def Command.assembled (command : Command) : Command :=
  { command with isPreviewMode := false, messageHash := Block.zero 32, messageTextStart := none }

section

variable {env : Env} {frame : ℕ → Hash} {memory : Bool} (app : App)

theorem assembled_swapFinalize :
    (swapFinalize env app).2.command.assembled = app.command.assembled := by
  unfold swapFinalize
  split <;> rfl

theorem assembled_handleSignMessageUi :
    (handleSignMessageUi env frame app).2.command.assembled = app.command.assembled := by
  unfold handleSignMessageUi
  repeat' split
  all_goals first | rfl | exact assembled_swapFinalize app

theorem assembled_blindSigningItems {printConfig : PrintConfig} {app' : App}
    (h : blindSigningItems env app printConfig = .ok app') :
    app'.command.assembled = app.command.assembled := by
  unfold blindSigningItems at h
  simp only at h
  split at h
  · split at h
    · obtain ⟨feePayer, -, h⟩ := (Result.seq_ok_iff _ _ _).mp h
      obtain rfl : _ = app' := Except.ok.inj h
      rfl
    · cases h
  · cases h

theorem assembled_signWithDescriptors (messageBody : Parser) (header : MessageHeader) :
    (signWithDescriptors env app messageBody header).2.command.assembled
      = app.command.assembled := by
  unfold signWithDescriptors
  simp only
  repeat' split
  all_goals first | rfl | exact assembled_swapFinalize _

theorem assembled_signWithSummary (messageBody : Parser) (printConfig : PrintConfig) :
    (signWithSummary env frame app messageBody printConfig).2.command.assembled
      = app.command.assembled := by
  unfold signWithSummary
  rcases processMessageBody (app.tokenContext env) messageBody printConfig app.summary
    with ⟨ret, summary⟩
  rcases ret with stop | u
  · rcases stop with _ | _ | _ | _ | _ <;> try rfl
    simp only
    split
    · rfl
    split
    · rfl
    split
    · rename_i hblind
      exact (assembled_handleSignMessageUi _).trans
        (assembled_blindSigningItems { app with summary } hblind)
    · rfl
  · exact assembled_handleSignMessageUi _

theorem assembled_handleSignMessageParseMessage :
    (handleSignMessageParseMessage env frame app).2.command.assembled = app.command.assembled := by
  unfold handleSignMessageParseMessage
  split
  · rfl
  · rfl
  split
  · rfl
  split
  · rfl
  simp only
  split
  · exact assembled_signWithDescriptors _ _ _
  · exact assembled_signWithSummary _ _ _

theorem assembled_handleSignMessageDelayed :
    (handleSignMessageDelayed env app).2.command.assembled = app.command.assembled := by
  have hinternal : (handleSignMessageDelayedInternal env app).2.command.assembled
      = app.command.assembled := by
    unfold handleSignMessageDelayedInternal
    split
    · rfl
    split
    · rfl
    split
    · simp only
      split <;> rfl
    · rfl
  exact hinternal

theorem assembled_handleSignOffchainMessage :
    (handleSignOffchainMessage env app).2.command.assembled = app.command.assembled := by
  have hsetup : ∀ (app : App) header isAscii signer,
      (setupOffchainSigningUi header isAscii signer app).2.command.assembled
        = app.command.assembled := by
    intro app header isAscii signer
    unfold setupOffchainSigningUi
    split
    · rfl
    · simp only
      split <;> rfl
  unfold handleSignOffchainMessage
  split
  · rfl
  split
  · rfl
  split
  · rfl
  · rfl
  simp only
  split
  · rfl
  split
  · rfl
  split
  · rfl
  split
  · rfl
  split
  · rfl
  split
  · rfl
  · exact hsetup _ _ _ _

theorem assembled_handleProvideInstructionDescriptor :
    (handleProvideInstructionDescriptor env memory app).2.command.assembled
      = app.command.assembled := by
  unfold handleProvideInstructionDescriptor
  split
  · rfl
  split
  · rfl
  split
  · rfl
  split
  · rfl
  simp only
  split <;> rfl

theorem assembled_handleProvideTrustedInfo :
    (handleProvideTrustedInfo env memory app).2.command.assembled = app.command.assembled := by
  unfold handleProvideTrustedInfo
  simp only
  split <;> rfl

theorem assembled_handleProvideDynamicDescriptor :
    (handleProvideDynamicDescriptor env memory app).2.command.assembled
      = app.command.assembled := by
  unfold handleProvideDynamicDescriptor
  simp only
  split <;> rfl

theorem assembled_handleGetPubkey :
    (handleGetPubkey env app).2.command.assembled = app.command.assembled := by
  unfold handleGetPubkey
  split
  · rfl
  · simp only
    split <;> rfl

theorem assembled_dispatch (instruction : InstructionCode) :
    (dispatch env frame memory app instruction).2.command.assembled = app.command.assembled := by
  rcases instruction with _ | _ | _ | _ | _ | _ | _ | _ | _ | _ | _ | _ | _
  case signMessagePreview =>
    change (if app.calledFromSwap then app.sendSw .sdkNotSupported else _).2.command.assembled = _
    split
    · rfl
    · exact assembled_handleSignMessageParseMessage _
  case deprecatedGetAppConfiguration => rfl
  case getAppConfiguration => rfl
  case deprecatedGetPubkey => exact assembled_handleGetPubkey app
  case getPubkey => exact assembled_handleGetPubkey app
  case deprecatedSignMessage => exact assembled_handleSignMessageParseMessage app
  case signMessage => exact assembled_handleSignMessageParseMessage app
  case signMessageDelayed => exact assembled_handleSignMessageDelayed app
  case signOffchainMessage => exact assembled_handleSignOffchainMessage app
  case trustedInfoProvideInstructionDescriptor =>
    exact assembled_handleProvideInstructionDescriptor app
  case trustedInfoGetChallenge => rfl
  case trustedInfoProvideInfo => exact assembled_handleProvideTrustedInfo app
  case trustedInfoProvideDynamicDescriptor => exact assembled_handleProvideDynamicDescriptor app

/-- **Handling a command leaves it as it was put together.** -/
theorem assembled_handleCommand :
    (handleCommand env frame memory app).2.command.assembled = app.command.assembled := by
  unfold handleCommand
  split
  · rfl
  · rfl
  · simp only
    split <;> exact assembled_dispatch _ _

end

/-! ## Commands and what they are made of -/

/-- **A command made of a first chunk and those that followed it**, the last of the APDUs there
were. -/
structure Command.MadeOf (maxLength : ℕ) (apdus : List (List UInt8)) (first : Chunk)
    (rest : List Chunk) (command : Command) : Prop where
  received : ∃ before sent, apdus = before ++ sent ∧
    List.Forall₂ (fun apdu chunk => readChunk apdu = .ok chunk) sent (first :: rest)
  starts : first.first = true
  goesOn : ∀ chunk ∈ rest, chunk.first = false
  marks : ∀ chunk ∈ first :: rest, command.instruction = some chunk.instruction ∧
    command.nonConfirm = chunk.nonConfirm ∧ command.deprecatedHost = chunk.deprecatedHost
  notFinal : ∀ chunk ∈ (first :: rest).dropLast, chunk.more = true
  final : ∃ chunk, (first :: rest).getLast? = some chunk ∧
    command.state = if chunk.more then .payloadInProgress else .payloadComplete
  path : command.derivationPath = first.path
  message : command.message = (first :: rest).flatMap (·.data)
  length : command.message.length < maxLength

/-- A command that has been started, and has a payload, is made of the last APDUs. -/
def Command.PutTogether (maxLength : ℕ) (apdus : List (List UInt8)) (command : Command) : Prop :=
  command.state ≠ .uninitialized → ∀ instruction, command.instruction = some instruction →
    instructionWithoutPayload instruction = false →
    ∃ first rest, command.MadeOf maxLength apdus first rest

section

variable {maxLength : ℕ} {apdus : List (List UInt8)} {apdu : List UInt8} {first chunk : Chunk}
  {rest : List Chunk} {command command' : Command}

/-- Handlers do not matter. -/
theorem Command.MadeOf.of_assembled (h : command.MadeOf maxLength apdus first rest)
    (heq : command'.assembled = command.assembled) :
      command'.MadeOf maxLength apdus first rest := by
  have hstate := congrArg Command.state heq
  have hins := congrArg Command.instruction heq
  have hconfirm := congrArg Command.nonConfirm heq
  have hhost := congrArg Command.deprecatedHost heq
  have hpath := congrArg Command.derivationPath heq
  have hmessage := congrArg Command.message heq
  simp only [Command.assembled] at hstate hins hconfirm hhost hpath hmessage
  obtain ⟨hreceived, hstarts, hgoesOn, hmarks, hnotFinal, hfinal, hpath', hmessage', hlength⟩ := h
  refine ⟨hreceived, hstarts, hgoesOn, ?_, hnotFinal, ?_, ?_, ?_, ?_⟩
  · rw [hins, hconfirm, hhost]
    exact hmarks
  · rw [hstate]
    exact hfinal
  · rw [hpath]
    exact hpath'
  · rw [hmessage]
    exact hmessage'
  · rw [hmessage]
    exact hlength

/-- A first chunk makes a command of its own. -/
theorem Command.Takes.madeOf_first (h : command.Takes maxLength chunk command')
    (hread : readChunk apdu = .ok chunk) (hfirst : chunk.first = true) :
    command'.MadeOf maxLength (apdus ++ [apdu]) chunk [] where
  received := ⟨apdus, [apdu], rfl, .cons hread .nil⟩
  starts := hfirst
  goesOn := by simp
  marks := by simpa using ⟨h.instruction, h.nonConfirm, h.deprecatedHost⟩
  notFinal := by simp
  final := ⟨chunk, rfl, h.state⟩
  path := by rw [h.path, if_pos hfirst]
  message := by rw [h.message, if_pos hfirst]; simp
  length := h.length

/-- A further chunk goes behind the others. -/
theorem Command.Takes.madeOf_rest (h : command.Takes maxLength chunk command')
    (hread : readChunk apdu = .ok chunk) (hrest : chunk.first = false)
    (hmade : command.MadeOf maxLength apdus first rest) :
    command'.MadeOf maxLength (apdus ++ [apdu]) first (rest ++ [chunk]) := by
  obtain ⟨hstate, hins, hconfirm, hhost⟩ := h.continues hrest
  obtain ⟨before, sent, happdus, hsent⟩ := hmade.received
  have hnot : ¬chunk.first = true := by rw [hrest]; exact Bool.false_ne_true
  refine ⟨⟨before, sent ++ [apdu], by rw [happdus, List.append_assoc], ?_⟩, hmade.starts, ?_, ?_,
    ?_, ⟨chunk, by rw [← List.cons_append, List.getLast?_concat], h.state⟩, ?_, ?_, h.length⟩
  · exact List.rel_append hsent (.cons hread .nil)
  · intro c hc
    rcases List.mem_append.mp hc with hold | hnew
    · exact hmade.goesOn c hold
    · rw [List.mem_singleton.mp hnew]
      exact hrest
  · intro c hc
    rw [← List.cons_append] at hc
    rcases List.mem_append.mp hc with hold | hnew
    · obtain ⟨hi, hn, hd⟩ := hmade.marks c hold
      rw [h.instruction, h.nonConfirm, h.deprecatedHost, ← hins, ← hconfirm, ← hhost]
      exact ⟨hi, hn, hd⟩
    · rw [List.mem_singleton.mp hnew]
      exact ⟨h.instruction, h.nonConfirm, h.deprecatedHost⟩
  · intro c hc
    rw [← List.cons_append, List.dropLast_concat] at hc
    -- the chunk that was last so far left the command in progress
    obtain ⟨last, hlast, hmore⟩ := hmade.final
    rw [← List.dropLast_append_getLast? last hlast] at hc
    rcases List.mem_append.mp hc with hold | hnew
    · exact hmade.notFinal c hold
    · rw [List.mem_singleton.mp hnew]
      by_contra hfinal
      rw [if_neg hfinal, hstate] at hmore
      cases hmore
  · rw [h.path, if_neg hnot, hmade.path]
  · rw [h.message, if_neg hnot, hmade.message, ← List.cons_append, List.flatMap_append]
    simp

/-- **Every APDU keeps commands put together.** -/
theorem putTogether_of_apduHandleMessage (h : command.PutTogether maxLength apdus)
    (hok : apduHandleMessage maxLength apdu command = .ok command') :
    command'.PutTogether maxLength (apdus ++ [apdu]) := by
  intro hstate i hi hpayload
  rcases hheader : parseApduHeader apdu with sw | header
  · rw [apduHandleMessage, hheader] at hok
    cases hok
  rcases hwithout : instructionWithoutPayload header.instruction with _ | _
  · obtain ⟨chunk, hread, htakes⟩ := takes_of_apduHandleMessage hheader hwithout hok
    rcases hfirst : chunk.first with _ | _
    · obtain ⟨hprogress, hins, -⟩ := htakes.continues hfirst
      obtain ⟨first, rest, hmade⟩ := h (by rw [hprogress]; simp) _ hins htakes.payload
      exact ⟨first, rest ++ [chunk], htakes.madeOf_rest hread hfirst hmade⟩
    · exact ⟨chunk, [], htakes.madeOf_first hread hfirst⟩
  · rw [apduHandleMessage_withoutPayload hheader hwithout] at hok
    obtain rfl := (Except.ok.inj hok).symm
    obtain rfl : header.instruction = i := Option.some.inj hi
    rw [hwithout] at hpayload
    cases hpayload

theorem Command.PutTogether.of_assembled (h : command.PutTogether maxLength apdus)
    (heq : command'.assembled = command.assembled) : command'.PutTogether maxLength apdus := by
  have hstate : command'.state = command.state :=
    (congrArg Command.state heq : command'.assembled.state = command.assembled.state)
  have hins : command'.instruction = command.instruction :=
    (congrArg Command.instruction heq : command'.assembled.instruction = _)
  intro hstarted i hi hpayload
  obtain ⟨first, rest, hmade⟩ := h (hstate ▸ hstarted) i (hins ▸ hi) hpayload
  exact ⟨first, rest, hmade.of_assembled heq⟩

end

/-! ## The array the message stands in -/

/-- `memcpy`, into an array at an offset. -/
def writeAt (bytes : List UInt8) (offset : ℕ) (data : List UInt8) : List UInt8 :=
  bytes.take offset ++ data ++ bytes.drop (offset + data.length)

/-- What `apdu_handle_message`, and clearing the command when it fails, do to the array
`G_command.message`. -/
def arrayAfter (maxLength : ℕ) (apdu : List UInt8) (command : Command) (bytes : List UInt8) :
    List UInt8 :=
  let cleared := List.replicate maxLength 0
  match apduHandleMessage maxLength apdu command, readChunk apdu with
  | .ok command', .ok chunk =>
      if instructionWithoutPayload chunk.instruction then cleared
      else
        let copied := if chunk.first then writeAt cleared 0 chunk.data
          else writeAt bytes command.message.length chunk.data
        if chunk.more then copied else writeAt copied command'.message.length [0]
  -- the call failed, or its command has no payload
  | _, _ => cleared

/-- The array of a message: the message, and zeros behind it. -/
def Command.array (maxLength : ℕ) (command : Command) : List UInt8 :=
  command.message ++ List.replicate (maxLength - command.message.length) 0

theorem writeAt_replicate (maxLength : ℕ) (message data : List UInt8) :
    writeAt (message ++ List.replicate (maxLength - message.length) 0) message.length data
      = message ++ data ++ List.replicate (maxLength - (message ++ data).length) 0 := by
  rw [writeAt, List.take_left, ← List.drop_drop, List.drop_left, List.drop_replicate,
    List.length_append, Nat.sub_sub]

/-- The `NUL` is written where a zero stands already. -/
theorem writeAt_zero {maxLength : ℕ} {message : List UInt8} (h : message.length < maxLength) :
    writeAt (message ++ List.replicate (maxLength - message.length) 0) message.length [0]
      = message ++ List.replicate (maxLength - message.length) 0 := by
  rw [writeAt_replicate, List.append_assoc, List.length_append, List.length_singleton,
    show maxLength - message.length = (maxLength - (message.length + 1)) + 1 by omega,
    List.replicate_succ]
  rfl

/-- The header of an APDU that brings a chunk. -/
theorem header_of_readChunk {apdu : List UInt8} {chunk : Chunk} {header : ApduHeader}
    (hheader : parseApduHeader apdu = .ok header) (hread : readChunk apdu = .ok chunk) :
    chunk.instruction = header.instruction := by
  obtain ⟨read, hread', h⟩ := Except.bind_eq_ok.mp hread
  obtain rfl : header = read := Except.ok.inj (hheader.symm.trans hread')
  obtain ⟨⟨path, data⟩, -, h⟩ := Except.bind_eq_ok.mp h
  obtain rfl : header.chunk path data = chunk := Except.ok.inj h
  rfl

/-- **The array holds the message, and zeros behind it.** -/
theorem arrayAfter_array {maxLength : ℕ} {apdu : List UInt8} {command command' : Command}
    (hok : apduHandleMessage maxLength apdu command = .ok command') :
    arrayAfter maxLength apdu command (command.array maxLength) = command'.array maxLength := by
  rcases hheader : parseApduHeader apdu with sw | header
  · rw [apduHandleMessage, hheader] at hok
    cases hok
  unfold arrayAfter
  rcases hwithout : instructionWithoutPayload header.instruction with _ | _
  · obtain ⟨chunk, hread, htakes⟩ := takes_of_apduHandleMessage hheader hwithout hok
    rw [hok, hread]
    simp only [htakes.payload, Bool.false_eq_true, if_false]
    have hcopied : (if chunk.first then writeAt (List.replicate maxLength 0) 0 chunk.data
        else writeAt (command.array maxLength) command.message.length chunk.data)
          = command'.array maxLength := by
      rw [Command.array, Command.array, htakes.message]
      split
      · exact writeAt_replicate maxLength [] chunk.data
      · exact writeAt_replicate maxLength command.message chunk.data
    rw [hcopied]
    split
    · rfl
    · exact writeAt_zero htakes.length
  · have hcommand := hok
    rw [apduHandleMessage_withoutPayload hheader hwithout] at hcommand
    obtain rfl := (Except.ok.inj hcommand).symm
    rw [hok]
    rcases hread : readChunk apdu with sw | chunk
    · rfl
    · simp only [header_of_readChunk hheader hread, hwithout, if_true]
      rfl

/-! ## Runs -/

/-- The app with the array of its message. -/
abbrev AppInMemory := App × List UInt8

/-- What an event does to them. -/
def reactInMemory (env : Env) (s : AppInMemory) (event : Event) : AppInMemory :=
  ((s.1.react env event).2,
    match event with
    | .apdu bytes _ _ =>
        if bytes.isEmpty then s.2
        else arrayAfter (maxMessageLength env.usbSegmentSize) bytes s.1.command s.2
    | _ => s.2)

theorem reactInMemory_apdu {env : Env} {bytes : List UInt8} (h : bytes ≠ []) (s : AppInMemory)
    (memory : Bool) (frame : ℕ → Hash) :
    reactInMemory env s (.apdu bytes memory frame) = ((handleApdu env frame memory bytes s.1).2,
      arrayAfter (maxMessageLength env.usbSegmentSize) bytes s.1.command s.2) := by
  rw [reactInMemory, react_apdu h]
  exact Prod.ext rfl (if_neg (by simpa using h))

/-- The app with a cleared command. -/
def clearedInMemory (env : Env) (app : App) : AppInMemory :=
  ({ app with command := .clear }, List.replicate (maxMessageLength env.usbSegmentSize) 0)

/-- The APDU of an event that comes to `handle_apdu`. -/
def Event.handled : Event → Option (List UInt8)
  | .apdu bytes _ _ => if bytes.isEmpty then none else some bytes
  | _ => none

/-- The APDUs that come to `handle_apdu`. -/
def apdusOf (events : List Event) : List (List UInt8) := events.filterMap Event.handled

theorem apdusOf_concat_of_none {events : List Event} {event : Event} (h : event.handled = none) :
    apdusOf (events ++ [event]) = apdusOf events := by
  simp [apdusOf, h]

theorem apdusOf_concat_apdu {events : List Event} {bytes : List UInt8} (h : bytes ≠ [])
    (memory : Bool) (frame : ℕ → Hash) :
    apdusOf (events ++ [.apdu bytes memory frame]) = apdusOf events ++ [bytes] := by
  simp [apdusOf, Event.handled, h]

/-- The command is put together from the APDUs so far, and stands in the array. -/
def AppInMemory.Consistent (env : Env) (apdus : List (List UInt8)) (s : AppInMemory) : Prop :=
  s.1.command.PutTogether (maxMessageLength env.usbSegmentSize) apdus ∧
    s.2 = s.1.command.array (maxMessageLength env.usbSegmentSize)

/-- The user and the settings leave the command alone. -/
theorem assembled_choose (env : Env) (app : App) (confirm memory : Bool) :
    (app.choose env confirm memory).2.command.assembled = app.command.assembled := by
  unfold App.choose
  split
  · unfold reviewChoice
    simp only
    split
    · split
      · unfold storePreviewFingerprint
        split
        · rfl
        · split <;> rfl
      · split <;> rfl
    · rfl
  · split <;> rfl
  · rfl

/-- **One event keeps the command put together.** -/
theorem consistent_reactInMemory {env : Env} {events : List Event} {s : AppInMemory}
    (h : s.Consistent env (apdusOf events)) (event : Event) :
    (reactInMemory env s event).Consistent env (apdusOf (events ++ [event])) := by
  obtain ⟨hput, harray⟩ := h
  have hother : ∀ {command : Command}, command.assembled = s.1.command.assembled →
      command.PutTogether (maxMessageLength env.usbSegmentSize) (apdusOf events) ∧
        s.2 = command.array (maxMessageLength env.usbSegmentSize) := by
    intro command heq
    have hmessage : command.message = s.1.command.message :=
      (congrArg Command.message heq : command.assembled.message = _)
    refine ⟨hput.of_assembled heq, ?_⟩
    rw [harray, Command.array, Command.array, hmessage]
  rcases event with ⟨bytes, memory, frame⟩ | ⟨confirm, memory⟩ | settings
  · by_cases hbytes : bytes = []
    · subst hbytes
      rw [apdusOf_concat_of_none rfl]
      exact hother rfl
    · rw [apdusOf_concat_apdu hbytes, reactInMemory_apdu hbytes, harray]
      unfold AppInMemory.Consistent handleApdu
      simp only
      rcases hok : apduHandleMessage (maxMessageLength env.usbSegmentSize) bytes s.1.command
        with sw | command
      · refine ⟨fun hstate => absurd rfl hstate, ?_⟩
        rw [arrayAfter, hok]
        rfl
      · have heq := @assembled_handleCommand env frame memory { s.1 with command }
        refine ⟨(putTogether_of_apduHandleMessage hput hok).of_assembled heq, ?_⟩
        have hmessage : (handleCommand env frame memory { s.1 with command }).2.command.message
            = command.message := (congrArg Command.message heq :)
        rw [arrayAfter_array hok, Command.array, Command.array, hmessage]
  · rw [apdusOf_concat_of_none rfl]
    exact hother (assembled_choose env s.1 confirm memory)
  · rw [apdusOf_concat_of_none rfl]
    exact hother rfl

/-- **Every run keeps the command put together.** -/
theorem consistent_run (env : Env) (app : App) (events : List Event) :
    (Run.final (reactInMemory env) (clearedInMemory env app) events).Consistent env
      (apdusOf events) := by
  induction events using List.reverseRecOn with
  | nil => exact ⟨fun hstate => absurd rfl hstate, rfl⟩
  | append_singleton events event ih =>
      rw [Run.final_append]
      exact consistent_reactInMemory ih event

/-- **A complete command is its chunks in order.**  Whenever the command is complete, for an
instruction with a payload, it is made of the chunks since the last first one: its message is their
data, its path that of the first, two to five levels from `m/44'/501'` where the instruction has
one; the message fits the array, with a `NUL` behind it.  No length fell below zero on the way. -/
theorem command_of_chunks (env : Env) (app : App) (events : List Event) {s : AppInMemory}
    (hrun : Run.final (reactInMemory env) (clearedInMemory env app) events = s)
    {instruction : InstructionCode} (hstate : s.1.command.state = .payloadComplete)
    (hins : s.1.command.instruction = some instruction)
    (hpayload : instructionWithoutPayload instruction = false) :
    (∃ first rest, s.1.command.MadeOf (maxMessageLength env.usbSegmentSize) (apdusOf events) first
        rest ∧ (instructionWithDerivationPathInFirstApdu instruction = true →
          first.path.take 2 = [0x8000002c, 0x800001f5] ∧ 2 ≤ first.path.length ∧
            first.path.length ≤ 5)) ∧
      s.2.take s.1.command.message.length = s.1.command.message ∧
      s.2[s.1.command.message.length]? = some 0 ∧
      ∀ apdu ∈ apdusOf events, ∀ header, parseApduHeader apdu = .ok header →
        header.pathAndSlice ≠ .error .underflow := by
  subst hrun
  obtain ⟨hput, harray⟩ := consistent_run env app events
  obtain ⟨first, rest, hmade⟩ := hput (by rw [hstate]; simp) instruction hins hpayload
  refine ⟨⟨first, rest, hmade, fun hpath => ?_⟩, ?_, ?_, ?_⟩
  · obtain ⟨before, sent, -, hsent⟩ := hmade.received
    obtain ⟨apdu, sent', hread, -, -⟩ := List.forall₂_cons_right_iff.mp hsent
    obtain ⟨hsame, -⟩ := hmade.marks first (List.mem_cons_self ..)
    obtain rfl : instruction = first.instruction := Option.some.inj (hins.symm.trans hsame)
    exact path_of_readChunk hread hmade.starts hpath
  · rw [harray, Command.array]
    exact List.take_left
  · have hlength := hmade.length
    rw [harray, Command.array, List.getElem?_append_right (le_refl _), Nat.sub_self,
      List.getElem?_replicate, if_pos (by omega)]
  · intro apdu _ header _
    rw [pathAndSlice_eq]
    exact inPlace_ne_underflow _ _

/-- A message to sign in two chunks. -/
def splitEvents : List Event :=
  [.plain ([0xE0, 0x06, 1, 2, 11, 1] ++ plainPath ++ [0x41]), .plain [0xE0, 0x06, 1, 1, 1, 0x42]]

/-- The theorem on a command in two chunks. -/
theorem command_of_splitEvents :
    let s := Run.final (reactInMemory (Env.plain emptyContext.sdk plainSigner))
      (clearedInMemory (Env.plain emptyContext.sdk plainSigner)
        (App.start (Env.plain emptyContext.sdk plainSigner) false .zero ⟨false, false, false⟩))
      splitEvents
    s.1.command.message = [0x41, 0x42] ∧ s.2.take 2 = [0x41, 0x42] ∧ s.2[2]? = some 0 := by
  intro s
  have hmessage : s.1.command.message = [0x41, 0x42] := by decide
  obtain ⟨-, htake, hnul, -⟩ := @command_of_chunks (Env.plain emptyContext.sdk plainSigner)
    (App.start (Env.plain emptyContext.sdk plainSigner) false .zero ⟨false, false, false⟩)
    splitEvents s rfl .signMessage (by decide) (by decide) rfl
  rw [hmessage] at htake hnul
  exact ⟨hmessage, htake, hnul⟩

end AgencLedger
