import AgencLedger.Sol.TransactionSummary
import Mathlib.Data.List.FinRange

/-!
# Sol/SummarySlots — the summary in memory: slots, pointers to them, and two ways to list them

`G_transaction_summary` is fifteen items, each of them used or not.  A getter hands out a pointer to
an unused one and a setter fills it.  `transaction_summary_finalize` appends the kinds of the used
items, slot by slot; `transaction_summary_find_item` counts them with a running index, with the
first and the last slot as special cases.  Both list the same items, whichever slots are used.
-/

namespace AgencLedger

/-! ## Slots -/

/-- A `SummaryItem *` into `G_transaction_summary`. -/
inductive SummaryItemRef
  | primary
  | feePayer
  | nonceAccount
  | nonceAuthority
  | general (i : Fin numGeneralItems)
  deriving DecidableEq

/-- The items of `G_transaction_summary`; `none` is an item of the kind `SummaryItemNone`. -/
abbrev SummarySlots := SummaryItemRef → Option SummaryItem

/-- The getters. -/
inductive Getter
  | primary | feePayer | nonceAccount | nonceAuthority | general | primaryOrGeneral
  deriving DecidableEq

/-- `MAX_TRANSACTION_SUMMARY_ITEMS`. -/
def maxTransactionSummaryItems : ℕ := 1 + numGeneralItems + 1 + 1 + 1

namespace SummarySlots

/-- `transaction_summary_reset`. -/
def reset : SummarySlots := fun _ => none

/-- `summary->general[0]` and so on. -/
def generalRefs : List SummaryItemRef := (List.finRange numGeneralItems).map .general

variable (s : SummarySlots)

/-- `is_summary_item_used`. -/
def isSummaryItemUsed (ref : SummaryItemRef) : Bool := (s ref).isSome

/-- `summary_item_as_unused`. -/
def summaryItemAsUnused (ref : SummaryItemRef) : Option SummaryItemRef :=
  if !s.isSummaryItemUsed ref then some ref else none

/-- `transaction_summary_general_item`. -/
def generalItem : Option SummaryItemRef := generalRefs.find? fun ref => !s.isSummaryItemUsed ref

/-- `transaction_summary_primary_or_general_item`. -/
def primaryOrGeneralItem : Option SummaryItemRef :=
  match s.summaryItemAsUnused .primary with
  | some ref => some ref
  | none => s.generalItem

/-- What a getter hands out. -/
def item : Getter → Option SummaryItemRef
  | .primary => s.summaryItemAsUnused .primary
  | .feePayer => s.summaryItemAsUnused .feePayer
  | .nonceAccount => s.summaryItemAsUnused .nonceAccount
  | .nonceAuthority => s.summaryItemAsUnused .nonceAuthority
  | .general => s.generalItem
  | .primaryOrGeneral => s.primaryOrGeneralItem

/-- `summary_item_set_…`. -/
def set (ref : SummaryItemRef) (item : SummaryItem) : SummarySlots :=
  Function.update s ref (some item)

/-- A getter and, unless it hands out `NULL`, a setter. -/
def fill (call : Getter × SummaryItem) : SummarySlots :=
  match s.item call.1 with
  | some ref => s.set ref call.2
  | none => s

/-- The summary after some getters and setters. -/
def filled (calls : List (Getter × SummaryItem)) : SummarySlots := calls.foldl fill reset

/-! ## Finding and finalizing -/

/-- A slot of the search: it is the one looked for, or it counts, or it is unused. -/
def visit (itemIndex currentIndex : ℕ) (ref : SummaryItemRef) : Except SummaryItemRef ℕ :=
  if s.isSummaryItemUsed ref then
    if currentIndex = itemIndex then throw ref else return currentIndex + 1
  else return currentIndex

/-- The body of `transaction_summary_find_item`; what it throws is what it returns early. -/
def search (itemIndex : ℕ) : Except SummaryItemRef Unit := do
  let currentIndex := 0
  if currentIndex = itemIndex then throw .primary
  let currentIndex ← generalRefs.foldlM (s.visit itemIndex) (currentIndex + 1)
  let currentIndex ← s.visit itemIndex currentIndex .nonceAccount
  let currentIndex ← s.visit itemIndex currentIndex .nonceAuthority
  if currentIndex = itemIndex then throw .feePayer

/-- `transaction_summary_find_item`. -/
def findItem (itemIndex : ℕ) : Option SummaryItemRef :=
  match s.search itemIndex with
  | .error ref => some ref
  | .ok () => none

/-- `transaction_summary_display_item`. -/
def displayItem (frame : ℕ → Hash) (itemIndex : ℕ) (longPubkeys : Bool) (buffers : DisplayBuffers) :
    Result Unit × DisplayBuffers :=
  match s.findItem itemIndex with
  | none => (.error .bail, buffers)
  | some ref => updateDisplayForItem frame longPubkeys buffers (s ref)

/-- `SET_IF_USED`; the array of the caller has `MAX_TRANSACTION_SUMMARY_ITEMS` places. -/
def setIfUsed (itemKinds : List SummaryItemKind) (ref : SummaryItemRef) :
    Result (List SummaryItemKind) :=
  match s ref with
  | none => .ok itemKinds
  | some item =>
      if itemKinds.length < maxTransactionSummaryItems then .ok (itemKinds ++ [item.value.kind])
      else .error .outOfBounds

/-- `transaction_summary_finalize`. -/
def finalize : Result (List SummaryItemKind) := do
  bailIf (!s.isSummaryItemUsed .primary)
  let itemKinds ← s.setIfUsed [] .primary
  let itemKinds ← generalRefs.foldlM s.setIfUsed itemKinds
  let itemKinds ← s.setIfUsed itemKinds .nonceAccount
  let itemKinds ← s.setIfUsed itemKinds .nonceAuthority
  s.setIfUsed itemKinds .feePayer

/-! ## The order of the slots -/

/-- The slots between the first and the last one, in the order of the review. -/
def optionalRefs : List SummaryItemRef := generalRefs ++ [.nonceAccount, .nonceAuthority]

/-- **The slots in the order of the review.** -/
def reviewOrder : List SummaryItemRef := .primary :: (optionalRefs ++ [.feePayer])

theorem length_reviewOrder : reviewOrder.length = maxTransactionSummaryItems := by decide

variable {s}

/-! ## The search -/

/-- **A run of the search over some slots**: it stops at the one that the running index reaches. -/
theorem foldlM_visit (refs : List SummaryItemRef) {itemIndex currentIndex : ℕ}
    (h : currentIndex ≤ itemIndex) :
    refs.foldlM (s.visit itemIndex) currentIndex
      = match (refs.filter s.isSummaryItemUsed)[itemIndex - currentIndex]? with
        | some ref => .error ref
        | none => .ok (currentIndex + (refs.filter s.isSummaryItemUsed).length) := by
  induction refs generalizing currentIndex with
  | nil => rfl
  | cons ref refs ih =>
      rw [List.foldlM_cons]
      by_cases hused : s.isSummaryItemUsed ref = true
      · rw [List.filter_cons_of_pos hused]
        rcases h.eq_or_lt with rfl | hlt
        · rw [visit, if_pos hused, if_pos rfl, Nat.sub_self]
          rfl
        · obtain ⟨k, hk⟩ : ∃ k, itemIndex - currentIndex = k + 1 :=
            ⟨itemIndex - currentIndex - 1, by omega⟩
          have hk' : itemIndex - (currentIndex + 1) = k := by omega
          rw [visit, if_pos hused, if_neg hlt.ne, hk, List.getElem?_cons_succ, List.length_cons]
          refine (ih hlt).trans ?_
          rw [hk', Nat.succ_eq_add_one, Nat.add_assoc, Nat.add_comm 1]
      · rw [List.filter_cons_of_neg hused, visit, if_neg hused]
        exact ih h

/-- What `transaction_summary_find_item` finds behind the first slot. -/
theorem findItem_succ (itemIndex : ℕ) :
    s.findItem (itemIndex + 1)
      = match (optionalRefs.filter s.isSummaryItemUsed)[itemIndex]? with
        | some ref => some ref
        | none =>
            if (optionalRefs.filter s.isSummaryItemUsed).length = itemIndex then some .feePayer
            else none := by
  have hsearch : s.search (itemIndex + 1) = (do
      let currentIndex ← optionalRefs.foldlM (s.visit (itemIndex + 1)) 1
      if currentIndex = itemIndex + 1 then throw .feePayer) := by
    rw [search, optionalRefs, List.foldlM_append]
    simp only [List.foldlM_cons, List.foldlM_nil, bind_assoc, bind_pure]
    rfl
  rw [findItem, hsearch, foldlM_visit optionalRefs (Nat.le_add_left 1 itemIndex),
    Nat.add_sub_cancel]
  rcases (optionalRefs.filter s.isSummaryItemUsed)[itemIndex]? with _ | ref
  · by_cases hlast : (optionalRefs.filter s.isSummaryItemUsed).length = itemIndex
    · simp [hlast, Nat.add_comm 1, throw, throwThe, MonadExceptOf.throw, bind, Except.bind]
    · simp [hlast, Nat.add_comm 1, bind, Except.bind, pure, Except.pure]
  · rfl

/-- The kinds of some slots, as far as they are used. -/
def kindsOf (s : SummarySlots) (refs : List SummaryItemRef) : List SummaryItemKind :=
  refs.filterMap fun ref => (s ref).map (·.value.kind)

/-- **`SET_IF_USED` over some slots** appends their kinds, if the array has places for them. -/
theorem foldlM_setIfUsed (refs : List SummaryItemRef) {itemKinds : List SummaryItemKind}
    (h : itemKinds.length + (s.kindsOf refs).length ≤ maxTransactionSummaryItems) :
    refs.foldlM s.setIfUsed itemKinds = .ok (itemKinds ++ s.kindsOf refs) := by
  induction refs generalizing itemKinds with
  | nil => rw [kindsOf, List.filterMap_nil, List.append_nil]; rfl
  | cons ref refs ih =>
      rw [List.foldlM_cons]
      rcases hitem : s ref with _ | item
      · have hkinds : s.kindsOf (ref :: refs) = s.kindsOf refs := by simp [kindsOf, hitem]
        have hset : s.setIfUsed itemKinds ref = .ok itemKinds := by rw [setIfUsed, hitem]
        rw [hkinds] at h
        rw [hkinds, hset]
        exact ih h
      · have hkinds : s.kindsOf (ref :: refs) = item.value.kind :: s.kindsOf refs := by
          simp [kindsOf, hitem]
        rw [hkinds, List.length_cons] at h
        have hset : s.setIfUsed itemKinds ref = .ok (itemKinds ++ [item.value.kind]) := by
          rw [setIfUsed, hitem]
          exact if_pos (by omega)
        rw [hkinds, hset, List.append_cons itemKinds item.value.kind (s.kindsOf refs)]
        refine ih ?_
        rw [List.length_append, List.length_singleton]
        omega

/-- **Finalizing lists the kinds of the used slots**, and the array has places for them. -/
theorem finalize_eq (hprimary : s.isSummaryItemUsed .primary = true) :
    s.finalize = .ok (s.kindsOf reviewOrder) := by
  have hle : ([] : List SummaryItemKind).length + (s.kindsOf reviewOrder).length
      ≤ maxTransactionSummaryItems := by
    rw [List.length_nil, Nat.zero_add, ← length_reviewOrder]
    exact List.length_filterMap_le _ _
  have hfinalize : s.finalize = reviewOrder.foldlM s.setIfUsed [] := by
    rw [finalize, hprimary, reviewOrder, optionalRefs]
    simp only [List.foldlM_cons, List.foldlM_append, List.foldlM_nil, bind_assoc, bind_pure]
    rfl
  rw [hfinalize, foldlM_setIfUsed reviewOrder hle, List.nil_append]

/-- The slots hold the items of a summary, the general ones from the first slot on. -/
structure Represents (s : SummarySlots) (t : TransactionSummary) : Prop where
  primary : s .primary = t.primary
  feePayer : s .feePayer = t.feePayer
  nonceAccount : s .nonceAccount = t.nonceAccount
  nonceAuthority : s .nonceAuthority = t.nonceAuthority
  general : ∀ i : Fin numGeneralItems, s (.general i) = t.general[i.val]?

theorem represents_reset : Represents reset .reset := ⟨rfl, rfl, rfl, rfl, fun _ => rfl⟩

section

variable {t : TransactionSummary}

/-- The slot that a getter asks for. -/
def slotOf (t : TransactionSummary) : Getter → Slot
  | .primary => .primary
  | .feePayer => .feePayer
  | .nonceAccount => .nonceAccount
  | .nonceAuthority => .nonceAuthority
  | .general => .general
  | .primaryOrGeneral => t.primaryOrGeneral

/-- The first unused general slot is the one behind the used ones. -/
theorem Represents.generalItem (h : s.Represents t) :
    s.generalItem = if hlt : t.general.length < numGeneralItems
      then some (.general ⟨t.general.length, hlt⟩) else none := by
  split
  · rename_i hlt
    refine List.find?_eq_some_iff_getElem.mpr ⟨?_, t.general.length, ?_, ?_, ?_⟩
    · simp [isSummaryItemUsed, h.general]
    · simpa [generalRefs] using hlt
    · simp [generalRefs]
    · intro j hj
      simp [generalRefs, isSummaryItemUsed, h.general, hj]
  · rename_i hfull
    refine List.find?_eq_none.mpr fun ref href => ?_
    obtain ⟨i, -, rfl⟩ := List.mem_map.mp href
    have hi : i.val < t.general.length := by omega
    simp [isSummaryItemUsed, h.general, hi]

/-- A pointer is where an item of a slot goes, and `NULL` where there is no room. -/
def Takes (s : SummarySlots) (t : TransactionSummary) (slot : Slot) (item : SummaryItem)
    (pointer : Option SummaryItemRef) : Prop :=
  match t.put slot item with
  | some t' => ∃ ref, pointer = some ref ∧ (s.set ref item).Represents t'
  | none => pointer = none

theorem Represents.takes_primary (h : s.Represents t) (item : SummaryItem) :
    s.Takes t .primary item (s.summaryItemAsUnused .primary) := by
  unfold Takes TransactionSummary.put summaryItemAsUnused isSummaryItemUsed
  rw [h.primary]
  cases t.primary with
  | none => exact ⟨_, rfl, by simp [set], by simp [set, h.feePayer], by simp [set, h.nonceAccount],
      by simp [set, h.nonceAuthority], fun i => by simp [set, h.general]⟩
  | some _ => rfl

theorem Represents.takes_feePayer (h : s.Represents t) (item : SummaryItem) :
    s.Takes t .feePayer item (s.summaryItemAsUnused .feePayer) := by
  unfold Takes TransactionSummary.put summaryItemAsUnused isSummaryItemUsed
  rw [h.feePayer]
  cases t.feePayer with
  | none => exact ⟨_, rfl, by simp [set, h.primary], by simp [set], by simp [set, h.nonceAccount],
      by simp [set, h.nonceAuthority], fun i => by simp [set, h.general]⟩
  | some _ => rfl

theorem Represents.takes_nonceAccount (h : s.Represents t) (item : SummaryItem) :
    s.Takes t .nonceAccount item (s.summaryItemAsUnused .nonceAccount) := by
  unfold Takes TransactionSummary.put summaryItemAsUnused isSummaryItemUsed
  rw [h.nonceAccount]
  cases t.nonceAccount with
  | none => exact ⟨_, rfl, by simp [set, h.primary], by simp [set, h.feePayer], by simp [set],
      by simp [set, h.nonceAuthority], fun i => by simp [set, h.general]⟩
  | some _ => rfl

theorem Represents.takes_nonceAuthority (h : s.Represents t) (item : SummaryItem) :
    s.Takes t .nonceAuthority item (s.summaryItemAsUnused .nonceAuthority) := by
  unfold Takes TransactionSummary.put summaryItemAsUnused isSummaryItemUsed
  rw [h.nonceAuthority]
  cases t.nonceAuthority with
  | none => exact ⟨_, rfl, by simp [set, h.primary], by simp [set, h.feePayer],
      by simp [set, h.nonceAccount], by simp [set], fun i => by simp [set, h.general]⟩
  | some _ => rfl

theorem Represents.takes_general (h : s.Represents t) (item : SummaryItem) :
    s.Takes t .general item s.generalItem := by
  unfold Takes
  rw [h.generalItem]
  by_cases hlt : t.general.length < numGeneralItems
  · simp only [TransactionSummary.put, dif_pos hlt]
    refine ⟨_, rfl, by simp [set, h.primary], by simp [set, h.feePayer],
      by simp [set, h.nonceAccount], by simp [set, h.nonceAuthority], fun i => ?_⟩
    rcases Nat.lt_trichotomy i.val t.general.length with hi | hi | hi
    · have hne : i ≠ ⟨t.general.length, hlt⟩ := fun heq => hi.ne (congrArg Fin.val heq)
      simp [set, hne, h.general, List.getElem?_append_left hi]
    · obtain rfl : i = ⟨t.general.length, hlt⟩ := Fin.ext hi
      simp [set]
    · have hne : i ≠ ⟨t.general.length, hlt⟩ := fun heq => hi.ne' (congrArg Fin.val heq)
      simp [set, hne, h.general, Nat.le_of_lt hi, hi]
  · simp only [TransactionSummary.put, dif_neg hlt]

/-- **A getter hands out a pointer to where its item goes.** -/
theorem Represents.takes (h : s.Represents t) (getter : Getter) (item : SummaryItem) :
    s.Takes t (slotOf t getter) item (s.item getter) := by
  cases getter with
  | primary => exact h.takes_primary item
  | feePayer => exact h.takes_feePayer item
  | nonceAccount => exact h.takes_nonceAccount item
  | nonceAuthority => exact h.takes_nonceAuthority item
  | general => exact h.takes_general item
  | primaryOrGeneral =>
      rcases hprimary : t.primary with _ | first
      · have hslot : slotOf t .primaryOrGeneral = .primary := by
          simp [slotOf, TransactionSummary.primaryOrGeneral, hprimary]
        have hitem : s.item .primaryOrGeneral = s.summaryItemAsUnused .primary := by
          simp [SummarySlots.item, primaryOrGeneralItem, summaryItemAsUnused, isSummaryItemUsed,
            h.primary, hprimary]
        rw [hslot, hitem]
        exact h.takes_primary item
      · have hslot : slotOf t .primaryOrGeneral = .general := by
          simp [slotOf, TransactionSummary.primaryOrGeneral, hprimary]
        have hitem : s.item .primaryOrGeneral = s.generalItem := by
          simp [SummarySlots.item, primaryOrGeneralItem, summaryItemAsUnused, isSummaryItemUsed,
            h.primary, hprimary]
        rw [hslot, hitem]
        exact h.takes_general item

/-- **The slots go on holding the items of the summary**, whatever getters and setters are
called. -/
theorem Represents.fill (h : s.Represents t) (call : Getter × SummaryItem) :
    (s.fill call).Represents ((t.put (slotOf t call.1) call.2).getD t) := by
  have htakes := h.takes call.1 call.2
  unfold Takes at htakes
  unfold SummarySlots.fill
  rcases hput : t.put (slotOf t call.1) call.2 with _ | t'
  · rw [hput] at htakes
    rw [show s.item call.1 = none from htakes]
    exact h
  · rw [hput] at htakes
    obtain ⟨ref, href, hset⟩ := htakes
    rw [href]
    exact hset

/-- Every summary in memory holds the items of one. -/
theorem exists_represents_filled (calls : List (Getter × SummaryItem)) :
    ∃ t, (filled calls).Represents t := by
  have hrun : ∀ (calls : List (Getter × SummaryItem)) (s : SummarySlots) (t : TransactionSummary),
      s.Represents t → ∃ t', (calls.foldl SummarySlots.fill s).Represents t' := fun calls => by
    induction calls with
    | nil => exact fun s t h => ⟨t, h⟩
    | cons call calls ih => exact fun s t h => ih _ _ (h.fill call)
  exact hrun calls reset .reset represents_reset

/-! ## Finding and finalizing the items -/

theorem filterMap_getElem? {α : Type} (l : List α) {n : ℕ} (h : l.length ≤ n) :
    (List.finRange n).filterMap (fun i => l[i.val]?) = l := by
  induction l generalizing n with
  | nil => simp
  | cons a l ih =>
      obtain ⟨m, rfl⟩ : ∃ m, n = m + 1 := ⟨n - 1, by rw [List.length_cons] at h; omega⟩
      rw [List.finRange_succ, List.filterMap_cons_some (by rfl), List.filterMap_map]
      exact congrArg (a :: ·) (ih (Nat.le_of_succ_le_succ h))

/-- The items of the used ones among some slots. -/
theorem map_filter_isSummaryItemUsed (refs : List SummaryItemRef) :
    (refs.filter s.isSummaryItemUsed).map s = (refs.filterMap s).map some := by
  induction refs with
  | nil => rfl
  | cons ref refs ih =>
      rcases h : s ref with _ | item
      · rw [List.filter_cons_of_neg (by simp [isSummaryItemUsed, h]),
          List.filterMap_cons_none h, ih]
      · rw [List.filter_cons_of_pos (by simp [isSummaryItemUsed, h]), List.filterMap_cons_some h,
          List.map_cons, List.map_cons, h, ih]

/-- The items between the first and the last slot. -/
theorem Represents.filterMap_optionalRefs (h : s.Represents t) :
    optionalRefs.filterMap s
      = t.general ++ t.nonceAccount.toList ++ t.nonceAuthority.toList := by
  have hgeneral : generalRefs.filterMap s = t.general := by
    rw [generalRefs, List.filterMap_map]
    refine (List.filterMap_congr fun i _ => h.general i).trans ?_
    exact filterMap_getElem? t.general t.size
  have hrest : [SummaryItemRef.nonceAccount, .nonceAuthority].filterMap s
      = t.nonceAccount.toList ++ t.nonceAuthority.toList := by
    have haccount := h.nonceAccount
    have hauthority := h.nonceAuthority
    cases ha : t.nonceAccount <;> cases hb : t.nonceAuthority <;> simp_all
  rw [optionalRefs, List.filterMap_append, hgeneral, hrest, List.append_assoc]

/-- **The search in memory is that of the model.** -/
theorem Represents.findItem (h : s.Represents t) (itemIndex : ℕ) :
    (s.findItem itemIndex).map s = t.slots[itemIndex]? := by
  have hslots : t.slots = s .primary :: ((optionalRefs.filter s.isSummaryItemUsed).map s
      ++ [s .feePayer]) := by
    rw [map_filter_isSummaryItemUsed, h.filterMap_optionalRefs, h.primary, h.feePayer]
    simp [TransactionSummary.slots]
  rw [hslots]
  rcases itemIndex with _ | itemIndex
  · rfl
  · rw [findItem_succ, List.getElem?_cons_succ]
    by_cases hlt : itemIndex < (optionalRefs.filter s.isSummaryItemUsed).length
    · rw [List.getElem?_append_left (by rwa [List.length_map]), List.getElem?_map,
        List.getElem?_eq_getElem hlt]
    · rw [List.getElem?_append_right (by rw [List.length_map]; omega), List.length_map,
        List.getElem?_eq_none (Nat.le_of_not_lt hlt)]
      by_cases hlast : (optionalRefs.filter s.isSummaryItemUsed).length = itemIndex
      · simp [hlast]
      · rw [List.getElem?_eq_none (by rw [List.length_singleton]; omega)]
        simp [hlast]

/-- **Finalizing in memory is finalizing the model.** -/
theorem Represents.finalize (h : s.Represents t) : s.finalize = t.finalize := by
  rcases hprimary : t.primary with _ | item
  · have hunused : s.isSummaryItemUsed .primary = false := by
      rw [isSummaryItemUsed, h.primary, hprimary]
      rfl
    rw [SummarySlots.finalize, hunused, TransactionSummary.finalize, hprimary]
    rfl
  · have hused : s.isSummaryItemUsed .primary = true := by
      rw [isSummaryItemUsed, h.primary, hprimary]
      rfl
    have hitems : reviewOrder.filterMap s = t.usedItems := by
      rw [reviewOrder, List.filterMap_cons_some (h.primary.trans hprimary), List.filterMap_append,
        h.filterMap_optionalRefs]
      have hfee := h.feePayer
      cases hf : t.feePayer <;> simp_all [TransactionSummary.usedItems]
    have hkinds : s.kindsOf reviewOrder = (reviewOrder.filterMap s).map (·.value.kind) :=
      (List.map_filterMap ..).symm
    rw [finalize_eq hused, hkinds, hitems, TransactionSummary.finalize, hprimary]
    rfl

end

/-! ## Agreement -/

end SummarySlots

end AgencLedger
