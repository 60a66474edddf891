import AgencLedger.Program.Faultless
import AgencLedger.Sol.Grammar

/-!
# Program/InBounds — what the parsers of the programs hand out lies in the message

A parsed instruction refers to the message: to keys of the header, and to keys, hashes and texts in
the data of the instruction.  Every step of a parser hands out such references only, so that a
record that is made of them lies in the message as a whole.
-/

namespace AgencLedger

open Input

/-! ## References -/

/-- A reference: as many bytes as it says, from an address on, and what the model reads there. -/
structure Ref where
  addr : ℕ
  length : ℕ
  bytes : List UInt8
  deriving DecidableEq

/-- The bytes stand in a piece of memory, where the reference says. -/
def Ref.In (r : Ref) (base : Ptr (List UInt8)) : Prop :=
  r.bytes.length = r.length ∧
    ∃ before after, base.val = before ++ (r.bytes ++ after) ∧ r.addr = base.addr + before.length

/-- The references a value is made of; a `NULL` pointer is none. -/
class Refs (α : Type) where
  refs : α → List Ref

export Refs (refs)

instance {n : ℕ} : Refs (Ptr (Block n)) := ⟨fun p => [⟨p.addr, n, p.val.data⟩]⟩
instance : Refs (Ptr (List UInt8)) := ⟨fun p => [⟨p.addr, p.val.length, p.val⟩]⟩
instance : Refs SizedString := ⟨fun s => [⟨s.string.addr, s.length.toNat, s.string.val⟩]⟩
instance {α : Type} [Refs α] : Refs (Option α) := ⟨fun o => o.toList.flatMap refs⟩
instance {α β : Type} [Refs α] [Refs β] : Refs (α × β) := ⟨fun v => refs v.1 ++ refs v.2⟩

instance : Refs Unit := ⟨fun _ => []⟩
instance : Refs Bool := ⟨fun _ => []⟩
instance : Refs ℕ := ⟨fun _ => []⟩
instance : Refs UInt8 := ⟨fun _ => []⟩
instance : Refs UInt16 := ⟨fun _ => []⟩
instance : Refs UInt32 := ⟨fun _ => []⟩
instance : Refs UInt64 := ⟨fun _ => []⟩
instance : Refs Int64 := ⟨fun _ => []⟩

/-! ## Steps -/

section

variable (base : Ptr (List UInt8)) (keys : List (Ptr Pubkey))

/-- Where a reference may point: into the data, or at a key of the header. -/
def Allowed (r : Ref) : Prop := r.In base ∨ ∃ key ∈ keys, r ∈ refs key

/-- All references of a value are allowed. -/
def AllAllowed {α : Type} [Refs α] (a : α) : Prop := ∀ r ∈ refs a, Allowed base keys r

/-- The parser has read a front part of the data. -/
def Parser.Within (p : Parser) : Prop := ∃ w, Reads (⟨base.addr, base.val⟩ : Parser) w p

/-- The parser is within the data, and the iterator walks the keys. -/
structure Cursor.Within (c : Cursor) : Prop where
  parser : c.parser.Within base
  messageHeaderPubkeys : c.it.messageHeaderPubkeys = keys

/-- A parsing step that stays in bounds and hands out allowed references. -/
abbrev ParseM.InBounds {α : Type} [Refs α] (step : ParseM α) : Prop :=
  Yields (Parser.Within base) (AllAllowed base keys) step

/-- The same of a step of a program's parser. -/
abbrev InstrM.InBounds {α : Type} [Refs α] (step : InstrM α) : Prop :=
  Yields (Cursor.Within base keys) (AllAllowed base keys) step

end

section

variable {base : Ptr (List UInt8)} {keys : List (Ptr Pubkey)}

/-- **Two steps in a row hand out allowed references** when each of them does. -/
theorem inBounds_seq {σ α β : Type} [Refs α] [Refs β] {P : σ → Prop} {step : StateT σ Result α}
    {next : α → StateT σ Result β} [Yields P (AllAllowed base keys) step]
    (hnext : ∀ a, AllAllowed base keys a → Yields P (AllAllowed base keys) (next a)) :
    Yields P (AllAllowed base keys) (step >>= next) :=
  Yields.seq hnext

/-- A step's value goes into one with the same references. -/
theorem inBounds_map {σ α β : Type} [Refs α] [Refs β] {P : σ → Prop} {step : StateT σ Result α}
    [Yields P (AllAllowed base keys) step] {f : α → β} (hf : ∀ a, refs (f a) = refs a) :
    Yields P (AllAllowed base keys) (step >>= fun a => pure (f a)) :=
  inBounds_seq fun a ha => .pure fun r hr => ha r (hf a ▸ hr)

/-- What stands in the bytes that are read next stands in the data. -/
theorem Ref.In.of_reads {r : Ref} {p p' : Parser} {w : List UInt8} (hp : p.Within base)
    (hw : Reads p w p') (hr : r.In ⟨p.addr, w⟩) : r.In base := by
  obtain ⟨u, hu, hpos⟩ := hp
  obtain ⟨hlength, before, after, hsplit, haddr⟩ := hr
  have hu : base.val = u ++ p.buffer := hu
  have hpos : p.addr = base.addr + u.length := hpos
  have hw : p.buffer = w ++ p'.buffer := hw.1
  have hsplit : w = before ++ (r.bytes ++ after) := hsplit
  have haddr : r.addr = p.addr + before.length := haddr
  refine ⟨hlength, u ++ before, after ++ p'.buffer, ?_, ?_⟩
  · rw [hu, hw, hsplit]
    simp only [List.append_assoc]
  · rw [haddr, hpos, List.length_append, Nat.add_assoc]

/-- **A parser that accepts a grammar stays in bounds**; what stands in the words of the grammar
stands in the data. -/
theorem yields_of_accepts {α : Type} {step : ParseM α} {g : Grammar UInt8 α} (h : Accepts step g)
    {Q : α → Prop} (hQ : ∀ n a w, g n a w → (∀ r : Ref, r.In ⟨n, w⟩ → r.In base) → Q a) :
    Yields (Parser.Within base) Q step where
  ensures := fun p a p' hp hstep => by
    obtain ⟨w, hw, hg⟩ := (h p a p').mp hstep
    refine ⟨hQ _ _ _ hg fun r hr => Ref.In.of_reads hp hw hr, ?_⟩
    obtain ⟨u, hu⟩ := hp
    exact ⟨u ++ w, reads_append.mpr ⟨p, hu, hw⟩⟩

theorem ParseM.InBounds.of_accepts {α : Type} [Refs α] {step : ParseM α} {g : Grammar UInt8 α}
    (h : Accepts step g) (hrefs : ∀ n a w, g n a w → ∀ r ∈ refs a, r.In ⟨n, w⟩) :
    step.InBounds base keys :=
  yields_of_accepts h fun _ _ _ hg hin r hr => .inl (hin r (hrefs _ _ _ hg r hr))

/-- A parser of plain values hands out nothing. -/
theorem ParseM.InBounds.of_plain {α : Type} [Refs α] {step : ParseM α} {g : Grammar UInt8 α}
    (h : Accepts step g) (hrefs : ∀ a : α, refs a = []) : step.InBounds base keys :=
  .of_accepts h fun _ a _ _ r hr => by
    rw [hrefs] at hr
    cases hr

instance : parseU8.InBounds base keys := .of_plain accepts_parseU8 fun _ => rfl
instance : parseU16.InBounds base keys := .of_plain accepts_parseU16 fun _ => rfl
instance : parseU32.InBounds base keys := .of_plain accepts_parseU32 fun _ => rfl
instance : parseU64.InBounds base keys := .of_plain accepts_parseU64 fun _ => rfl
instance : parseI64.InBounds base keys := .of_plain accepts_parseI64 fun _ => rfl
instance : parseOption.InBounds base keys := .of_plain accepts_parseOption fun _ => rfl

instance (n : ℕ) : (parseBlock n).InBounds base keys :=
  .of_accepts (accepts_parseBlock n) fun n block w ⟨haddr, hdata⟩ r hr => by
    obtain rfl := List.mem_singleton.mp hr
    exact ⟨block.val.size, [], [], by rw [hdata]; simp, haddr⟩

instance : parsePubkey.InBounds base keys := inferInstanceAs ((parseBlock 32).InBounds base keys)

/-- A string of the length that stands in front of it. -/
theorem inBounds_string {length : UInt64} {n : ℕ} (hn : n = length.toNat) :
    (do checkBufferLength n
        let string ← advance n
        return (⟨length, string⟩ : SizedString) : ParseM SizedString).InBounds base keys := by
  have hassoc : (do checkBufferLength n
                    let string ← advance n
                    return (⟨length, string⟩ : SizedString) : ParseM SizedString) =
      (checkBufferLength n >>= fun _ => advance n) >>= fun string => pure ⟨length, string⟩ := by
    simp only [bind_assoc]
  rw [hassoc]
  refine .of_accepts ((accepts_bytes n).seq fun string => .pure _) fun pos str w h r hr => ?_
  obtain ⟨string, rfl, hw, rfl⟩ := (Grammar.seq_pure _ _).mp h
  obtain rfl := List.mem_singleton.mp hr
  exact ⟨hw.trans hn, [], [], by simp, rfl⟩

instance (c : Bool) : (parseBailIf c).InBounds base keys where
  ensures := fun p u p' hp h => by
    obtain ⟨-, h⟩ := parseBailIf_ok_iff.mp h
    cases h
    exact ⟨fun _ hr => (nomatch hr), hp⟩

instance : parseSizedString.InBounds base keys := by
  unfold parseSizedString
  exact inBounds_seq fun length _ => inBounds_seq fun _ _ => inBounds_string rfl

instance : parseBorshString.InBounds base keys := by
  unfold parseBorshString
  exact inBounds_seq fun length _ => inBounds_string (UInt32.toNat_toUInt64 length).symm

/-- A value behind its option tag. -/
instance {α : Type} [Refs α] {parse : ParseM α} [parse.InBounds base keys] :
    (parseOptional parse).InBounds base keys := by
  unfold parseOptional
  refine inBounds_seq fun option _ => .ite (fun _ => inBounds_seq fun a ha => .pure ?_)
    fun _ => .pure fun _ hr => (nomatch hr)
  simpa [AllAllowed, refs] using ha

/-- Reading the data leaves the accounts alone. -/
instance {α : Type} [Refs α] {step : ParseM α} [h : step.InBounds base keys] :
    (liftM step : InstrM α).InBounds base keys where
  ensures := fun c a c' hc hstep => by
    obtain ⟨p, hp, rfl⟩ := InstrM.lift_ok_iff.mp hstep
    obtain ⟨ha, hp'⟩ := h.ensures _ _ _ hc.parser hp
    exact ⟨ha, hp', hc.messageHeaderPubkeys⟩

instance : nextAccount.InBounds base keys where
  ensures := fun c key c' hc h => by
    unfold nextAccount at h
    split at h
    · obtain ⟨index, hindex, h⟩ := (Result.seq_ok_iff _ _ _).mp h
      obtain ⟨key', hkey, h⟩ := (Result.seq_ok_iff _ _ _).mp h
      cases h
      refine ⟨fun r hr => .inr ⟨key, hc.messageHeaderPubkeys ▸ readAt_mem hkey, hr⟩, ?_⟩
      exact ⟨hc.parser, hc.messageHeaderPubkeys⟩
    · cases h

instance : skipAccount.InBounds base keys where
  ensures := fun c u c' hc h => by
    unfold skipAccount at h
    split at h <;> cases h
    exact ⟨fun _ hr => (nomatch hr), hc.parser, hc.messageHeaderPubkeys⟩

instance : remainingAccounts.InBounds base keys where
  ensures := fun c n c' hc h => by
    cases h
    exact ⟨fun _ hr => (nomatch hr), hc⟩

instance : currentAccountIndex.InBounds base keys where
  ensures := fun c index c' hc h => by
    refine ⟨fun r hr => ?_, ?_⟩
    · rcases index with _ | index <;> cases hr
    · unfold currentAccountIndex at h
      split at h
      · cases h
        exact hc
      · obtain ⟨index, -, h⟩ := (Result.seq_ok_iff _ _ _).mp h
        cases h
        exact hc

instance (b : Bool) : (instrBailIf b).InBounds base keys where
  ensures := fun c u c' hc h => by
    obtain ⟨-, h⟩ := instrBailIf_ok_iff.mp h
    cases h
    exact ⟨fun _ hr => (nomatch hr), hc⟩

/-- A call that hands out nothing. -/
theorem inBounds_call {call : Result Bool} :
    (liftM (liftM call : ParseM Bool) : InstrM Bool).InBounds base keys where
  ensures := fun c b c' hc h => by
    obtain ⟨-, rfl⟩ := InstrM.call_ok h
    exact ⟨fun _ hr => (nomatch hr), hc⟩

end

end AgencLedger
