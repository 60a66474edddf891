import AgencLedger.Sol.TokenContext
import Mathlib.Data.List.Basic

/-!
# Sol/AtaSearch — the token account check beside the official search

The token account of an owner is the first candidate off the curve, nonces being tried from 255
down.  `validate_associated_token_address` tries them in that order, but looks for the address it
was given and asks the curve about that one only.  So it accepts the address the official search
ends at, and also any candidate off the curve that the search would not have reached.
-/

namespace AgencLedger

/-! ## Two searches of a list -/

section Search

variable {α : Type*} [DecidableEq α]

/-- Look for an element first, and ask about the one found only. -/
def findThenTest (p : α → Bool) (a : α) : List α → Bool
  | [] => false
  | c :: rest => if c = a then p c else findThenTest p a rest

/-- **Testing what was found accepts the members that pass.** -/
theorem findThenTest_iff (p : α → Bool) (a : α) (candidates : List α) :
    findThenTest p a candidates = true ↔ a ∈ candidates ∧ p a = true := by
  induction candidates with
  | nil => simp [findThenTest]
  | cons c rest ih =>
      rw [findThenTest, List.mem_cons]
      by_cases hc : c = a
      · subst hc
        simp
      · rw [if_neg hc, ih]
        simp [Ne.symm hc]

end Search

/-- **The search down a descending list**: what is found comes from an entry above which nothing
passes. -/
theorem find_filterMap_eq_some_iff {α β : Type*} [LT β] (hasymm : ∀ m n : β, m < n → ¬ n < m)
    (f : β → Option α) (p : α → Bool) (a : α) {entries : List β}
    (hdesc : entries.Pairwise (· > ·)) :
    (entries.filterMap f).find? p = some a ↔
      ∃ n ∈ entries, f n = some a ∧ p a = true ∧
        ∀ m ∈ entries, n < m → ∀ c, f m = some c → p c = false := by
  induction entries with
  | nil => simp
  | cons n rest ih =>
      obtain ⟨hhead, hrest⟩ := List.pairwise_cons.mp hdesc
      have hstep : ∀ c, f n = some c → p c = true →
          ((n :: rest).filterMap f).find? p = some c := by
        intro c hc hp
        rw [List.filterMap_cons_some hc, List.find?_cons_of_pos hp]
      by_cases hpass : ∃ c, f n = some c ∧ p c = true
      · -- the largest entry passes: it is the one found, and nothing is above it
        obtain ⟨c, hc, hp⟩ := hpass
        rw [hstep c hc hp]
        constructor
        · intro h
          obtain rfl := Option.some.inj h
          refine ⟨n, List.mem_cons_self, hc, hp, ?_⟩
          intro m hm hlt
          rcases List.mem_cons.mp hm with rfl | hm
          · exact absurd hlt (hasymm _ _ hlt)
          · exact absurd hlt (hasymm _ _ (hhead m hm))
        · rintro ⟨k, hk, hka, -, habove⟩
          rcases List.mem_cons.mp hk with rfl | hk
          · rw [← hc, hka]
          · rw [habove n List.mem_cons_self (hhead k hk) c hc] at hp
            cases hp
      · -- the largest entry is passed over
        have hskip : ((n :: rest).filterMap f).find? p = (rest.filterMap f).find? p := by
          rcases hn : f n with _ | c
          · rw [List.filterMap_cons_none hn]
          · rw [List.filterMap_cons_some hn, List.find?_cons_of_neg fun hp => hpass ⟨c, hn, hp⟩]
        rw [hskip, ih hrest]
        constructor
        · rintro ⟨k, hk, hka, hp, habove⟩
          refine ⟨k, List.mem_cons_of_mem n hk, hka, hp, ?_⟩
          intro m hm hlt c hc
          rcases List.mem_cons.mp hm with rfl | hm
          · exact Bool.eq_false_iff.mpr fun hp => hpass ⟨c, hc, hp⟩
          · exact habove m hm hlt c hc
        · rintro ⟨k, hk, hka, hp, habove⟩
          rcases List.mem_cons.mp hk with rfl | hk
          · exact absurd ⟨a, hka, hp⟩ hpass
          · exact ⟨k, hk, hka, hp, fun m hm => habove m (List.mem_cons_of_mem n hm)⟩

/-! ## The official search -/

/-- The nonces below `n` in the order in which they are tried, the largest first. -/
def ataNonces (n : ℕ) : List UInt8 := (List.range n).reverse.map Nat.toUInt8

theorem ataNonces_succ (n : ℕ) : ataNonces (n + 1) = n.toUInt8 :: ataNonces n := by
  rw [ataNonces, List.range_succ, List.reverse_append]
  rfl

theorem ataNonces_pairwise : (ataNonces 256).Pairwise (· > ·) := by
  rw [ataNonces, List.pairwise_map, List.pairwise_reverse]
  refine List.pairwise_lt_range.imp_of_mem ?_
  intro m n hm hn hlt
  rw [List.mem_range] at hm hn
  rw [gt_iff_lt, UInt8.lt_iff_toNat_lt, UInt8.toNat_ofNat', UInt8.toNat_ofNat']
  omega

theorem mem_ataNonces (nonce : UInt8) : nonce ∈ ataNonces 256 := by
  rw [ataNonces, List.mem_map]
  refine ⟨nonce.toNat, ?_, UInt8.ofNat_toNat⟩
  rw [List.mem_reverse, List.mem_range]
  exact nonce.toNat_lt

section

variable (sdk : Sdk) (ownerAccount mintAccount : Pubkey) (isToken2022 : Bool)

/-- The candidates of the nonces below `n`, in the order in which they are tried. -/
def ataCandidates (n : ℕ) : List Pubkey :=
  (ataNonces n).filterMap fun nonce =>
    derivateAtaCandidate sdk ownerAccount mintAccount nonce isToken2022

/-- **The official search**: the candidate of the largest nonce whose candidate is off the
curve. -/
def findAssociatedTokenAddress : Option Pubkey :=
  (ataCandidates sdk ownerAccount mintAccount isToken2022 256).find? fun candidate =>
    !sdk.isOnCurve candidate

variable {sdk ownerAccount mintAccount isToken2022}

theorem mem_ataCandidates {address : Pubkey} :
    address ∈ ataCandidates sdk ownerAccount mintAccount isToken2022 256 ↔
      ∃ nonce, derivateAtaCandidate sdk ownerAccount mintAccount nonce isToken2022 =
        some address := by
  rw [ataCandidates, List.mem_filterMap]
  constructor
  · rintro ⟨nonce, -, h⟩
    exact ⟨nonce, h⟩
  · rintro ⟨nonce, h⟩
    exact ⟨nonce, mem_ataNonces nonce, h⟩

/-- Where hashing does not fail, the loop looks for the address among the candidates and tests it
then. -/
theorem validateAtaLoop_eq (hhash : ∀ message, (sdk.sha256 message).isSome = true)
    (providedAta : Pubkey) (n : ℕ) :
    validateAtaLoop sdk ownerAccount mintAccount providedAta isToken2022 n =
      findThenTest (fun candidate => !sdk.isOnCurve candidate) providedAta
        (ataCandidates sdk ownerAccount mintAccount isToken2022 n) := by
  induction n with
  | zero => rfl
  | succ n ih =>
      obtain ⟨candidate, hcandidate⟩ : ∃ candidate, derivateAtaCandidate sdk ownerAccount
          mintAccount n.toUInt8 isToken2022 = some candidate :=
        Option.isSome_iff_exists.mp (hhash _)
      have hcandidates : ataCandidates sdk ownerAccount mintAccount isToken2022 (n + 1) =
          candidate :: ataCandidates sdk ownerAccount mintAccount isToken2022 n := by
        rw [ataCandidates, ataNonces_succ]
        exact List.filterMap_cons_some hcandidate
      rw [validateAtaLoop, hcandidate, hcandidates, findThenTest, ← ih]

/-- The official search ends at the candidate of the largest nonce off the curve. -/
theorem findAssociatedTokenAddress_eq_some_iff {address : Pubkey} :
    findAssociatedTokenAddress sdk ownerAccount mintAccount isToken2022 = some address ↔
      ∃ nonce, derivateAtaCandidate sdk ownerAccount mintAccount nonce isToken2022 = some address ∧
        sdk.isOnCurve address = false ∧
        ∀ larger > nonce, ∀ candidate,
          derivateAtaCandidate sdk ownerAccount mintAccount larger isToken2022 = some candidate →
            sdk.isOnCurve candidate = true := by
  rw [findAssociatedTokenAddress, ataCandidates,
    find_filterMap_eq_some_iff (fun _ _ => UInt8.lt_asymm) _ _ _ ataNonces_pairwise]
  simp only [mem_ataNonces, true_and, forall_true_left, Bool.not_eq_true', Bool.not_eq_false']

/-- **What the token account check accepts**: the candidates off the curve, whatever their nonce.
The official search ends at the one above which every candidate is on the curve. -/
theorem validateAssociatedTokenAddress_iff
    (hhash : ∀ message, (sdk.sha256 message).isSome = true)
    (ownerAccount mintAccount providedAta : Pubkey) (isToken2022 : Bool) :
    (validateAssociatedTokenAddress sdk ownerAccount mintAccount providedAta isToken2022 = true ↔
      sdk.isOnCurve providedAta = false ∧ ∃ nonce,
        derivateAtaCandidate sdk ownerAccount mintAccount nonce isToken2022 = some providedAta) ∧
    (findAssociatedTokenAddress sdk ownerAccount mintAccount isToken2022 = some providedAta ↔
      validateAssociatedTokenAddress sdk ownerAccount mintAccount providedAta isToken2022 = true ∧
      ∃ nonce,
        derivateAtaCandidate sdk ownerAccount mintAccount nonce isToken2022 = some providedAta ∧
        ∀ larger > nonce, ∀ candidate,
          derivateAtaCandidate sdk ownerAccount mintAccount larger isToken2022 = some candidate →
            sdk.isOnCurve candidate = true) := by
  have hvalidate : validateAssociatedTokenAddress sdk ownerAccount mintAccount providedAta
      isToken2022 = true ↔ sdk.isOnCurve providedAta = false ∧ ∃ nonce,
        derivateAtaCandidate sdk ownerAccount mintAccount nonce isToken2022 = some providedAta := by
    rw [validateAssociatedTokenAddress, validateAtaLoop_eq hhash, findThenTest_iff,
      mem_ataCandidates, Bool.not_eq_true', and_comm]
  refine ⟨hvalidate, ?_⟩
  rw [hvalidate, findAssociatedTokenAddress_eq_some_iff]
  constructor
  · rintro ⟨nonce, hnonce, hoff, habove⟩
    exact ⟨⟨hoff, nonce, hnonce⟩, nonce, hnonce, habove⟩
  · rintro ⟨⟨hoff, -⟩, nonce, hnonce, habove⟩
    exact ⟨nonce, hnonce, hoff, habove⟩

end

/-- A hash that keeps the nonce, and a curve that has no point. -/
def nonceSdk : Sdk where
  sha256 message := some ⟨List.replicate 32 (message.getD 96 0), List.length_replicate⟩
  isOnCurve _ := false
  base58Decode _ _ := none

/-- The check at an address that the official search does not reach. -/
theorem validateAssociatedTokenAddress_iff_nonce :
    validateAssociatedTokenAddress nonceSdk (Block.zero 32) (Block.zero 32)
        ⟨List.replicate 32 254, rfl⟩ false = true ∧
      nonceSdk.isOnCurve ⟨List.replicate 32 254, rfl⟩ = false :=
  have h := (@validateAssociatedTokenAddress_iff nonceSdk (fun _ => rfl) (Block.zero 32)
    (Block.zero 32) ⟨List.replicate 32 254, rfl⟩ false).1
  have haccepted : validateAssociatedTokenAddress nonceSdk (Block.zero 32) (Block.zero 32)
      ⟨List.replicate 32 254, rfl⟩ false = true := by decide
  ⟨haccepted, (h.mp haccepted).1⟩

/-- The check and the official search part at the candidate of nonce 254, where that of nonce 255
is off the curve too. -/
theorem validateAssociatedTokenAddress_nonce :
    ¬ ∀ sdk : Sdk, (∀ message, (sdk.sha256 message).isSome = true) →
      ∀ (ownerAccount mintAccount providedAta : Pubkey) (isToken2022 : Bool),
        validateAssociatedTokenAddress sdk ownerAccount mintAccount providedAta isToken2022 = true ↔
          findAssociatedTokenAddress sdk ownerAccount mintAccount isToken2022 =
            some providedAta := by
  intro hclaim
  have h := hclaim nonceSdk (fun _ => rfl) (Block.zero 32) (Block.zero 32)
    ⟨List.replicate 32 254, rfl⟩ false
  revert h
  decide

end AgencLedger
