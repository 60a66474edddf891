import AgencLedger.Review.MaxFee

/-!
# Review/ComputeBudget — the compute budget instructions in front

`preprocess_compute_budget_instructions` moves the pointer to the infos while it counts its passes
by their number, so it may look at one info many times.  It takes off the compute budget
instructions in front and no others; a message with one behind its action is not accepted.
-/

namespace AgencLedger

/-! ## The loop on its pointer -/

/-- The passes that are left of the loop, with `infos` at `base` and `*infos_length`. -/
def preprocessLoop (infos : List InstructionInfo) :
    ℕ → ℕ → ℕ → ComputeBudgetFeeInfo → Result (ℕ × ℕ × ComputeBudgetFeeInfo)
  | 0, base, infosLength, feeInfo => .ok (base, infosLength, feeInfo)
  | passes + 1, base, infosLength, feeInfo => do
      let info ← readAt infos base
      match info.computeBudget? with
      | some budget =>
          preprocessLoop infos passes (base + 1) (infosLength - 1) (feeInfo.step budget)
      | none => preprocessLoop infos passes base infosLength feeInfo

/-- `preprocess_compute_budget_instructions` on the array: where the returned pointer stands, the
returned length, and the fee info. -/
def preprocessInPlace (infos : List InstructionInfo) : Result (ℕ × ℕ × ComputeBudgetFeeInfo) :=
  if infos.length > 1 then
    preprocessLoop infos infos.length 0 infos.length ⟨none, none, infos.length, 0⟩
  else .ok (0, infos.length, ⟨none, none, 0, 0⟩)

theorem preprocessLoop_some {infos : List InstructionInfo} {base : ℕ} {info : InstructionInfo}
    {budget : ComputeBudgetInfo} (hinfo : infos[base]? = some info)
    (hbudget : info.computeBudget? = some budget) (passes infosLength : ℕ)
    (feeInfo : ComputeBudgetFeeInfo) :
    preprocessLoop infos (passes + 1) base infosLength feeInfo
      = preprocessLoop infos passes (base + 1) (infosLength - 1) (feeInfo.step budget) := by
  rw [preprocessLoop, readAt_eq_ok.mpr hinfo]
  simp only [bind, Except.bind, hbudget]

/-- In front of another instruction the pointer stays. -/
theorem preprocessLoop_none {infos : List InstructionInfo} {base : ℕ} {info : InstructionInfo}
    (hinfo : infos[base]? = some info) (hbudget : info.computeBudget? = none)
    (passes infosLength : ℕ) (feeInfo : ComputeBudgetFeeInfo) :
    preprocessLoop infos passes base infosLength feeInfo = .ok (base, infosLength, feeInfo) := by
  induction passes with
  | zero => rfl
  | succ passes ih =>
      rw [preprocessLoop, readAt_eq_ok.mpr hinfo]
      simp only [bind, Except.bind, hbudget]
      exact ih

/-- **The loop strips what is in front**: with a pass for each info behind the pointer, every info
it looks at is there. -/
theorem preprocessLoop_eq (front rest : List InstructionInfo) (feeInfo : ComputeBudgetFeeInfo) :
    preprocessLoop (front ++ rest) rest.length front.length rest.length feeInfo
      = .ok (front.length + (rest.length - (stripComputeBudget feeInfo rest).1.length),
          (stripComputeBudget feeInfo rest).1.length, (stripComputeBudget feeInfo rest).2) := by
  induction rest generalizing front feeInfo with
  | nil => rfl
  | cons info rest ih =>
      have hinfo : (front ++ info :: rest)[front.length]? = some info := by
        rw [List.getElem?_append_right (Nat.le_refl _), Nat.sub_self, List.getElem?_cons_zero]
      rw [stripComputeBudget]
      rcases hbudget : info.computeBudget? with _ | budget
      · rw [preprocessLoop_none hinfo hbudget]
        simp only [Nat.sub_self, Nat.add_zero]
      · have hrest := ih (front ++ [info]) (feeInfo.step budget)
        rw [List.append_assoc, List.singleton_append, List.length_append,
          List.length_singleton] at hrest
        rw [List.length_cons, preprocessLoop_some hinfo hbudget, Nat.add_sub_cancel, hrest]
        have hle : (stripComputeBudget (feeInfo.step budget) rest).1.length ≤ rest.length := by
          obtain ⟨budgets, hinfos, -⟩ := stripComputeBudget_eq (feeInfo.step budget) rest
          have hlength := congrArg List.length hinfos
          rw [List.length_append] at hlength
          omega
        simp only
        congr 2
        omega

/-- **The list that the printer works on** is what the returned pointer and length delimit. -/
theorem preprocessInPlace_eq (infos : List InstructionInfo) :
    preprocessInPlace infos
      = .ok (infos.length - (preprocessComputeBudgetInstructions infos).1.length,
          (preprocessComputeBudgetInstructions infos).1.length,
          (preprocessComputeBudgetInstructions infos).2) := by
  unfold preprocessInPlace preprocessComputeBudgetInstructions
  split
  · have hloop := preprocessLoop_eq [] infos ⟨none, none, infos.length, 0⟩
    rw [List.nil_append, List.length_nil, Nat.zero_add] at hloop
    exact hloop
  · rw [Nat.sub_self]

/-! ## What is stripped -/

/-- Whether an instruction is one for the compute budget. -/
def InstructionInfo.isComputeBudget (info : InstructionInfo) : Bool := info.computeBudget?.isSome

theorem stripComputeBudget_fst (feeInfo : ComputeBudgetFeeInfo) (infos : List InstructionInfo) :
    (stripComputeBudget feeInfo infos).1 = infos.dropWhile (·.isComputeBudget) := by
  induction infos generalizing feeInfo with
  | nil => rfl
  | cons info infos ih =>
      rw [stripComputeBudget]
      rcases hbudget : info.computeBudget? with _ | budget
      · rw [List.dropWhile_cons_of_neg (by simp [InstructionInfo.isComputeBudget, hbudget])]
      · rw [List.dropWhile_cons_of_pos (by simp [InstructionInfo.isComputeBudget, hbudget])]
        exact ih _

/-- **The compute budget instructions in front are taken off**, and the fee info remembers the last
limit and the last price among them, and how many instructions there were. -/
structure Preprocessed (infos : List InstructionInfo) (base infosLength : ℕ)
    (feeInfo : ComputeBudgetFeeInfo) : Prop where
  list : infos.drop base = infos.dropWhile (·.isComputeBudget)
  length : infosLength = (infos.drop base).length
  limit : feeInfo.changeUnitLimit = requestedLimit (infos.takeWhile (·.isComputeBudget))
  price : feeInfo.changeUnitPrice = requestedPrice (infos.takeWhile (·.isComputeBudget))
  count : feeInfo.instructionsCount = infos.length

theorem preprocessed_of_two_le {infos : List InstructionInfo} (h : 2 ≤ infos.length) :
    ∃ base infosLength feeInfo, preprocessInPlace infos = .ok (base, infosLength, feeInfo) ∧
      Preprocessed infos base infosLength feeInfo := by
  refine ⟨_, _, _, preprocessInPlace_eq infos, ?_⟩
  have hpre : preprocessComputeBudgetInstructions infos
      = stripComputeBudget ⟨none, none, infos.length, 0⟩ infos := if_pos h
  rw [hpre]
  obtain ⟨budgets, hinfos, hfeeInfo⟩ := stripComputeBudget_eq ⟨none, none, infos.length, 0⟩ infos
  obtain ⟨hlimit, hprice, hcount, -⟩ := foldl_step budgets ⟨none, none, infos.length, 0⟩
  have hstrip := stripComputeBudget_fst ⟨none, none, infos.length, 0⟩ infos
  have hfront : infos.takeWhile (·.isComputeBudget) = budgets.map .computeBudget := by
    have hsplit : infos.takeWhile (·.isComputeBudget) ++ infos.dropWhile (·.isComputeBudget)
        = budgets.map .computeBudget ++ infos.dropWhile (·.isComputeBudget) := by
      rw [List.takeWhile_append_dropWhile, ← hstrip]
      exact hinfos
    exact List.append_cancel_right hsplit
  generalize stripComputeBudget ⟨none, none, infos.length, 0⟩ infos
    = stripped at hinfos hfeeInfo hstrip
  have hdrop : infos.drop (infos.length - stripped.1.length) = stripped.1 := by
    have hlength := congrArg List.length hinfos
    rw [List.length_append] at hlength
    rw [show infos.length - stripped.1.length
      = (budgets.map InstructionInfo.computeBudget).length by omega, hinfos]
    exact List.drop_left
  rw [← hfeeInfo] at hlimit hprice hcount
  exact ⟨hdrop.trans hstrip, by rw [hdrop], by rw [hlimit, hfront, Option.or_none],
    by rw [hprice, hfront, Option.or_none], hcount⟩

/-! ## Accepted messages -/

/-- **The compute budget instructions of a layout stand in front**: the message falls in two parts,
the displayed infos of the first are a nonce and compute budget instructions, those of the second
are the instructions of the pattern, and no compute budget instruction is among the second. -/
theorem exists_front_of_layout {ctx : TokenContext} {messageBody : Parser} {header : MessageHeader}
    {parsed : List ParsedInstruction} {l : Layout}
    (hparsed : parseMessageBody ctx messageBody header = (parsed, .ok ()))
    (hl : layout parsed = some l) :
    ∃ front action, parsed = front ++ action ∧
      displayInstructionInfo front = (l.nonce.toList.map fun n => .system (.advanceNonce n))
        ++ (displayInstructionInfo front).filter (·.isComputeBudget) ∧
      recognise (displayInstructionInfo action) = some l.pattern ∧
      ∀ q ∈ action, q.info.isComputeBudget = false := by
  obtain ⟨budgets, core, -, hdisplay, hcore, -⟩ := layout_spec hl
  obtain ⟨shown, shown', hfilter, hfront, hback⟩ := List.map_eq_append_iff.mp hdisplay
  obtain ⟨front, action, rfl, hshown, hshown'⟩ := List.filter_eq_append_iff.mp hfilter
  have hfront : displayInstructionInfo front
      = (l.nonce.toList.map fun n => .system (.advanceNonce n)) ++ budgets.map .computeBudget := by
    rw [displayInstructionInfo, hshown, hfront]
  have hback : displayInstructionInfo action = core := by
    rw [displayInstructionInfo, hshown', hback]
  refine ⟨front, action, rfl, ?_, hback ▸ hcore, fun q hq => ?_⟩
  · have hnonce : (l.nonce.toList.map fun n => InstructionInfo.system (.advanceNonce n)).filter
        (·.isComputeBudget) = [] := by
      cases l.nonce <;> rfl
    have hbudgets : (budgets.map InstructionInfo.computeBudget).filter (·.isComputeBudget)
        = budgets.map .computeBudget :=
      List.filter_eq_self.mpr fun info hinfo => by
        obtain ⟨budget, -, rfl⟩ := List.mem_map.mp hinfo
        rfl
    rw [hfront, List.filter_append, hnonce, hbudgets, List.nil_append]
  · by_contra hbudget
    obtain ⟨budget, hinfo⟩ : ∃ budget, q.info = .computeBudget budget := by
      cases hinfo : q.info with
      | computeBudget budget => exact ⟨budget, rfl⟩
      | _ => exact absurd (by rw [hinfo]; rfl) hbudget
    have hmem : q ∈ (parseMessageBody ctx messageBody header).1 := by
      rw [hparsed]
      exact List.mem_append_right _ hq
    have hdisplayed : q.info ∈ displayInstructionInfo action :=
      mem_displayInstructionInfo.mpr
        ⟨q, hq, (displayed_of_computeBudget hmem hinfo).1, by rw [hinfo]; rfl, rfl⟩
    have hnone := computeBudget?_of_recognise hcore _ (hback ▸ hdisplayed)
    rw [hinfo] at hnone
    cases hnone

/-- **Preprocessing takes off the compute budget instructions in front**, of a list of at least two,
and leaves a shorter list alone; and an accepted message has no other ones. -/
theorem computeBudget_preprocessed :
    (∀ infos, 2 ≤ infos.length → ∃ base infosLength feeInfo,
      preprocessInPlace infos = .ok (base, infosLength, feeInfo) ∧
        Preprocessed infos base infosLength feeInfo) ∧
    (∀ infos, infos.length < 2 →
      preprocessInPlace infos = .ok (0, infos.length, ⟨none, none, 0, 0⟩)) ∧
    ∀ ctx messageBody printConfig s,
      (processMessageBody ctx messageBody printConfig s).1 = .ok () →
      ∃ front action nonce pattern,
        parseMessageBody ctx messageBody printConfig.header = (front ++ action, .ok ()) ∧
        displayInstructionInfo front
          = (Option.toList nonce |>.map fun n => .system (.advanceNonce n))
            ++ (displayInstructionInfo front).filter (·.isComputeBudget) ∧
        recognise (displayInstructionInfo action) = some pattern ∧
        ∀ q ∈ action, q.info.isComputeBudget = false := by
  refine ⟨fun infos => preprocessed_of_two_le, fun infos h => if_neg (by omega), ?_⟩
  intro ctx messageBody printConfig s h
  obtain ⟨parsed, l, hparsed, hl, -⟩ := processMessageBody_ok_iff.mp h
  obtain ⟨front, action, rfl, hfront, haction, hbudget⟩ := exists_front_of_layout hparsed hl
  exact ⟨front, action, l.nonce, l.pattern, hparsed, hfront, haction, hbudget⟩

/-- A limit, a price, and five lamports to oneself. -/
def pricedInfos : List InstructionInfo :=
  [.computeBudget ⟨.changeUnitLimit 1000, 1⟩, .computeBudget ⟨.changeUnitPrice 7, 1⟩,
    .system (.transfer ⟨⟨4, plainSigner⟩, ⟨4, plainSigner⟩, 5⟩)]

/-- The theorem on that list and on one of none, and on an accepted message with a price. -/
theorem computeBudget_preprocessed_priced :
    (∃ base infosLength feeInfo, preprocessInPlace pricedInfos = .ok (base, infosLength, feeInfo) ∧
      Preprocessed pricedInfos base infosLength feeInfo) ∧
    preprocessInPlace [] = .ok (0, 0, ⟨none, none, 0, 0⟩) ∧
    ∃ front action nonce pattern,
      parseMessageBody emptyContext (legacyBody pricedKeys (pricedInstructions 0))
        (pricedConfig 0).header = (front ++ action, .ok ()) ∧
      displayInstructionInfo front
        = (Option.toList nonce |>.map fun n => .system (.advanceNonce n))
          ++ (displayInstructionInfo front).filter (·.isComputeBudget) ∧
      recognise (displayInstructionInfo action) = some pattern ∧
      ∀ q ∈ action, q.info.isComputeBudget = false :=
  ⟨computeBudget_preprocessed.1 _ (by decide), computeBudget_preprocessed.2.1 [] (by decide),
    computeBudget_preprocessed.2.2 _ _ (pricedConfig 0) _ pricedReview_ok⟩

end AgencLedger
