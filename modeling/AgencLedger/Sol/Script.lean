import AgencLedger.Sol.TransactionSummary

/-!
# Sol/Script — print functions as scripts, and what playing a script does to the summary

No print function reads the summary back: each asks for slots, fills them, sets flags, and bails
out or not, in an order fixed by its arguments.  Such a function is modelled by its `Script`, the
list of its effects in the order of the source; `play` runs a script on a summary and keeps what
was done before a stop.

`BAIL_IF(print_x(..))` is `++`: the effects after a failing one are not played.
-/

namespace AgencLedger

/-- One effect of a print function. -/
inductive Effect
  /-- a getter and its setter, the item not looked at in between -/
  | put (slot : Slot) (item : SummaryItem)
  /-- the same, with `BAIL_IF(item == NULL)` in between -/
  | putChecked (slot : Slot) (item : SummaryItem)
  | setTransactionType (type : TransactionType)
  | setTokenFeeWarning (warning : Bool)
  | setTokenHookWarning (warning : Bool)
  | setIsToken2022Transfer (transfer : Bool)
  /-- a non-zero return code -/
  | fail
  deriving DecidableEq

/-- An effect that cannot bail out. -/
def Effect.Unchecked (e : Effect) : Prop := e ≠ .fail ∧ ∀ slot item, e ≠ .putChecked slot item

/-- An effect that never fills a `NULL` item. -/
def Effect.Checked (e : Effect) : Prop := ∀ slot item, e ≠ .put slot item

/-- The effects of a print function, in order. -/
abbrev Script := List Effect

/-- `summary_item_set_*(transaction_summary_primary_item(), ..)`. -/
def primary (title : String) (value : SummaryValue) : Script := [.put .primary ⟨title, value⟩]

/-- `summary_item_set_*(transaction_summary_general_item(), ..)`. -/
def general (title : String) (value : SummaryValue) : Script := [.put .general ⟨title, value⟩]

namespace Script

/-- The effect of one step on the summary, `none` where the script stops. -/
def step (s : TransactionSummary) : Effect → Except Stop TransactionSummary
  | .put slot item => match s.put slot item with
      | some s' => .ok s'
      | none => .error .nullItem
  | .putChecked slot item => match s.put slot item with
      | some s' => .ok s'
      | none => .error .bail
  | .setTransactionType type => .ok { s with transactionType := type }
  | .setTokenFeeWarning warning => .ok { s with feeWarning := warning }
  | .setTokenHookWarning warning => .ok { s with hookWarning := warning }
  | .setIsToken2022Transfer transfer => .ok { s with isToken2022Transfer := transfer }
  | .fail => .error .bail

/-- **Playing a script**: the return code, and the summary it leaves. -/
def play : Script → TransactionSummary → Result Unit × TransactionSummary
  | [], s => (.ok (), s)
  | e :: script, s => match step s e with
      | .ok s' => play script s'
      | .error stop => (.error stop, s)

/-- The item an effect puts into a slot. -/
def itemAt (slot : Slot) : Effect → List SummaryItem
  | .put slot' item => if slot' = slot then [item] else []
  | .putChecked slot' item => if slot' = slot then [item] else []
  | _ => []

/-- **The items a script puts into a slot**, in order. -/
def items (slot : Slot) (script : Script) : List SummaryItem := script.flatMap (itemAt slot)

@[simp] theorem items_nil (slot : Slot) : items slot [] = [] := rfl

@[simp] theorem items_cons (slot : Slot) (e : Effect) (script : Script) :
    items slot (e :: script) = itemAt slot e ++ items slot script := rfl

@[simp] theorem items_append (slot : Slot) (a b : Script) :
    items slot (a ++ b) = items slot a ++ items slot b := List.flatMap_append

@[simp] theorem items_primary (slot : Slot) (title : String) (value : SummaryValue) :
    items slot (AgencLedger.primary title value)
      = if slot = .primary then [⟨title, value⟩] else [] := by
  simp [AgencLedger.primary, itemAt, eq_comm]

@[simp] theorem items_general (slot : Slot) (title : String) (value : SummaryValue) :
    items slot (AgencLedger.general title value)
      = if slot = .general then [⟨title, value⟩] else [] := by
  simp [AgencLedger.general, itemAt, eq_comm]

@[simp] theorem items_ite (slot : Slot) (c : Prop) [Decidable c] (a b : Script) :
    items slot (if c then a else b) = if c then items slot a else items slot b :=
  apply_ite (items slot) c a b

/-! ## Steps -/

/-- **A step appends its item to its slot.** -/
theorem itemsOf_step {s s' : TransactionSummary} {e : Effect} (h : step s e = .ok s')
    (slot : Slot) : s'.itemsOf slot = s.itemsOf slot ++ itemAt slot e := by
  have hput : ∀ {slot' : Slot} {item : SummaryItem}, s.put slot' item = some s' →
      s'.itemsOf slot = s.itemsOf slot ++ if slot' = slot then [item] else [] := fun hp => by
    simp only [TransactionSummary.itemsOf_put hp slot, eq_comm]
  cases e with
  | put slot' item =>
      rcases hp : s.put slot' item with _ | t <;> simp only [step, hp] at h <;> cases h
      exact hput hp
  | putChecked slot' item =>
      rcases hp : s.put slot' item with _ | t <;> simp only [step, hp] at h <;> cases h
      exact hput hp
  | fail => cases h
  | _ => cases h; cases slot <;> simp [TransactionSummary.itemsOf, itemAt]

/-- A step that is not a bail-out succeeds while its slot has room. -/
theorem step_isOk {s : TransactionSummary} {e : Effect} (hfail : e ≠ .fail)
    (hroom : ∀ slot, (s.itemsOf slot).length + (itemAt slot e).length
      ≤ TransactionSummary.capacity slot) : ∃ s', step s e = .ok s' := by
  have hput : ∀ (slot : Slot) (item : SummaryItem),
      (s.itemsOf slot).length + 1 ≤ TransactionSummary.capacity slot →
      ∃ s', s.put slot item = some s' := fun _ _ h =>
    Option.isSome_iff_exists.mp (TransactionSummary.put_isSome.mpr h)
  cases e with
  | put slot item =>
      obtain ⟨s', hs'⟩ := hput slot item (by simpa [itemAt] using hroom slot)
      exact ⟨s', by simp only [step, hs']⟩
  | putChecked slot item =>
      obtain ⟨s', hs'⟩ := hput slot item (by simpa [itemAt] using hroom slot)
      exact ⟨s', by simp only [step, hs']⟩
  | fail => exact absurd rfl hfail
  | _ => exact ⟨_, rfl⟩

/-- **Why a step stops**: a slot without room, looked at or not, or a bail-out. -/
theorem step_eq_error {s : TransactionSummary} {e : Effect} {stop : Stop}
    (h : step s e = .error stop) :
    (stop = .nullItem ∧ ∃ slot item, e = .put slot item ∧ s.put slot item = none) ∨
      (stop = .bail ∧
        (e = .fail ∨ ∃ slot item, e = .putChecked slot item ∧ s.put slot item = none)) := by
  cases e with
  | put slot item =>
      rcases hp : s.put slot item with _ | t <;> simp only [step, hp] at h <;> cases h
      exact .inl ⟨rfl, slot, item, rfl, hp⟩
  | putChecked slot item =>
      rcases hp : s.put slot item with _ | t <;> simp only [step, hp] at h <;> cases h
      exact .inr ⟨rfl, .inr ⟨slot, item, rfl, hp⟩⟩
  | fail => cases h; exact .inr ⟨rfl, .inl rfl⟩
  | _ => cases h

/-! ## Runs -/

theorem play_append (a b : Script) (s : TransactionSummary) :
    play (a ++ b) s = match play a s with
      | (.ok (), s') => play b s'
      | r => r := by
  induction a generalizing s with
  | nil => rfl
  | cons e a ih =>
      rw [List.cons_append, play, play]
      cases step s e with
      | error stop => rfl
      | ok s' => exact ih s'

/-- **A script that returns has put all its items**, and had room for them. -/
theorem itemsOf_play {script : Script} {s s' : TransactionSummary}
    (h : play script s = (.ok (), s')) (slot : Slot) :
    s'.itemsOf slot = s.itemsOf slot ++ items slot script := by
  induction script generalizing s with
  | nil => cases h; simp
  | cons e script ih =>
      rw [play] at h
      cases hstep : step s e with
      | error stop => rw [hstep] at h; cases h
      | ok t =>
          rw [hstep] at h
          rw [ih h, itemsOf_step hstep, items_cons, List.append_assoc]

/-- **A script returns exactly when it does not bail out and every slot has room** for what it
puts there. -/
theorem play_ok_iff {script : Script} {s : TransactionSummary} :
    (play script s).1 = .ok () ↔ Effect.fail ∉ script ∧
      ∀ slot, (s.itemsOf slot).length + (items slot script).length
        ≤ TransactionSummary.capacity slot := by
  induction script generalizing s with
  | nil => simpa [play] using fun slot => s.length_itemsOf_le slot
  | cons e script ih =>
      have hsplit : ∀ slot, (items slot (e :: script)).length
          = (itemAt slot e).length + (items slot script).length := fun slot => by simp
      rw [play]
      cases hstep : step s e with
      | error stop =>
          refine ⟨fun h => (nomatch h), fun ⟨hfail, hroom⟩ => ?_⟩
          obtain ⟨s', hs'⟩ := step_isOk (s := s) (e := e)
            (fun he => hfail (he ▸ List.mem_cons_self))
            (fun slot => by have := hroom slot; rw [hsplit] at this; omega)
          rw [hs'] at hstep
          cases hstep
      | ok t =>
          have hfail : e ≠ .fail := fun he => by rw [he] at hstep; cases hstep
          simp only [ih, List.mem_cons, not_or]
          refine and_congr ⟨fun h => ⟨hfail.symm, h⟩, And.right⟩ (forall_congr' fun slot => ?_)
          rw [itemsOf_step hstep, hsplit, List.length_append]
          omega

/-- **What a script leaves behind**, also when it stops: the items of a part of it from the
front. -/
theorem itemsOf_play_prefix (script : Script) (s : TransactionSummary) :
    ∃ done, done <+: script ∧
      ∀ slot, (play script s).2.itemsOf slot = s.itemsOf slot ++ items slot done := by
  induction script generalizing s with
  | nil => exact ⟨[], List.prefix_rfl, by simp [play]⟩
  | cons e script ih =>
      rw [play]
      cases hstep : step s e with
      | error stop => exact ⟨[], List.nil_prefix, by simp⟩
      | ok t =>
          obtain ⟨done, hdone, hitems⟩ := ih t
          exact ⟨e :: done, (List.prefix_cons_inj e).mpr hdone, fun slot => by
            rw [hitems slot, itemsOf_step hstep, items_cons, List.append_assoc]⟩

/-! ## Stops -/

/-- A script stops at an effect of its own. -/
theorem play_eq_error {script : Script} {s : TransactionSummary} {stop : Stop}
    (h : (play script s).1 = .error stop) :
    ∃ done e rest t, script = done ++ e :: rest ∧ play done s = (.ok (), t) ∧
      step t e = .error stop := by
  induction script generalizing s with
  | nil => cases h
  | cons e script ih =>
      rw [play] at h
      cases hstep : step s e with
      | error stop' =>
          rw [hstep] at h
          cases h
          exact ⟨[], e, script, s, rfl, rfl, hstep⟩
      | ok t =>
          rw [hstep] at h
          obtain ⟨done, e', rest, t', rfl, hplay, hstop⟩ := ih h
          exact ⟨e :: done, e', rest, t', rfl, by rw [play, hstep]; exact hplay, hstop⟩

/-- **A script never fills a `NULL` item while every slot has room.** -/
theorem play_ne_nullItem_of_room {script : Script} {s : TransactionSummary}
    (hroom : ∀ slot, (s.itemsOf slot).length + (items slot script).length
      ≤ TransactionSummary.capacity slot) : (play script s).1 ≠ .error .nullItem := by
  intro h
  obtain ⟨done, e, rest, t, rfl, hplay, hstop⟩ := play_eq_error h
  rcases step_eq_error hstop with ⟨-, slot, item, rfl, hput⟩ | ⟨hbail, -⟩
  · have hlen := hroom slot
    rw [items_append, items_cons, List.length_append, List.length_append] at hlen
    have hsome : (t.put slot item).isSome := by
      rw [TransactionSummary.put_isSome, itemsOf_play hplay, List.length_append]
      simp only [itemAt, if_true, List.length_singleton] at hlen
      omega
    rw [hput] at hsome
    cases hsome
  · cases hbail

/-- **A script without checks returns, or fills a `NULL` item.** -/
theorem play_unchecked {script : Script} (hscript : ∀ e ∈ script, e.Unchecked)
    (s : TransactionSummary) :
    (play script s).1 = .ok () ∨ (play script s).1 = .error .nullItem := by
  cases h : (play script s).1 with
  | ok u => exact .inl rfl
  | error stop =>
      obtain ⟨done, e, rest, t, rfl, -, hstop⟩ := play_eq_error h
      have he := hscript e (by simp)
      rcases step_eq_error hstop with ⟨rfl, -⟩ | ⟨-, rfl | ⟨slot, item, rfl, -⟩⟩
      · exact .inr rfl
      · exact absurd rfl he.1
      · exact absurd rfl (he.2 slot item)

/-- **A script that looks at each item never fills a `NULL` one.** -/
theorem play_checked {script : Script} (hscript : ∀ e ∈ script, e.Checked)
    (s : TransactionSummary) : (play script s).1 ≠ .error .nullItem := by
  intro h
  obtain ⟨done, e, rest, t, rfl, -, hstop⟩ := play_eq_error h
  rcases step_eq_error hstop with ⟨-, slot, item, rfl, -⟩ | ⟨hbail, -⟩
  · exact absurd rfl (hscript _ (by simp) slot item)
  · cases hbail

end Script

end AgencLedger
