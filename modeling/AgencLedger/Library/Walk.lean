import AgencLedger.Library.Grammar

/-!
# Library/Walk — parsers that walk along something else as they read

A parser may walk along a second structure while it reads its input, each at its own pace: a table,
a list of arguments.  A grammar with a walk relates the position of a word, the value it encodes,
and the two ends of the walk.  As in `Library/Grammar`, the rules build the grammar of a parser from
those of its parts.
-/

namespace AgencLedger

open Input

/-! ## Grammars with a walk -/

/-- At which positions, and from where to where on the walk, a word encodes which values. -/
abbrev WalkGrammar (τ ι α : Type*) := ℕ → ι → α → List τ → ι → Prop

namespace WalkGrammar

variable {τ ι α β : Type*}

/-- The empty word, for one value, without a step. -/
def pure (a : α) : WalkGrammar τ ι α := fun _ i b w i' => b = a ∧ w = [] ∧ i' = i

/-- No word at all. -/
def empty : WalkGrammar τ ι α := fun _ _ _ _ _ => False

/-- One after the other. -/
def seq (g : WalkGrammar τ ι α) (next : α → WalkGrammar τ ι β) : WalkGrammar τ ι β :=
  fun n i b w i'' =>
    ∃ a u v i', w = u ++ v ∧ g n i a u i' ∧ next a (n + u.length) i' b v i''

/-- A word, and no step. -/
def still (g : Grammar τ α) : WalkGrammar τ ι α := fun n i a w i' => g n a w ∧ i' = i

/-- Steps, and no word. -/
def move (m : ι → α → ι → Prop) : WalkGrammar τ ι α := fun _ i a w i' => w = [] ∧ m i a i'

end WalkGrammar

/-! ## Parsers -/

section

variable {S σ τ ι ε α β : Type} [Input σ τ]

/-- **The parser accepts exactly the grammar**, wherever it is placed. -/
def AcceptsWalk (place : σ → ι → S) (step : StateT S (Except ε) α) (g : WalkGrammar τ ι α) : Prop :=
  ∀ s i a c, step (place s i) = .ok (a, c) ↔
    ∃ w s' i', Reads s w s' ∧ c = place s' i' ∧ g (pos s) i a w i'

namespace AcceptsWalk

variable {place : σ → ι → S} {step : StateT S (Except ε) α} {g g' : WalkGrammar τ ι α}

theorem congr (h : AcceptsWalk place step g)
    (hg : ∀ n i a w i', g n i a w i' ↔ g' n i a w i') : AcceptsWalk place step g' :=
  fun s i a c => (h s i a c).trans (exists_congr fun _ => exists_congr fun _ =>
    exists_congr fun _ => and_congr_right fun _ => and_congr_right fun _ => hg _ _ _ _ _)

theorem pure (a : α) : AcceptsWalk place (Pure.pure a : StateT S (Except ε) α) (.pure a) := by
  intro s i b c
  constructor
  · intro h
    cases h
    exact ⟨[], s, i, reads_nil.mpr rfl, rfl, rfl, rfl, rfl⟩
  · rintro ⟨w, s', i', hreads, rfl, rfl, rfl, rfl⟩
    rw [reads_nil.mp hreads]
    rfl

theorem throw (e : ε) :
    AcceptsWalk place (MonadExcept.throw e : StateT S (Except ε) α) .empty :=
  fun _ _ _ _ => ⟨fun h => (nomatch h), fun ⟨_, _, _, _, _, h⟩ => h.elim⟩

/-- **Two parsers in a row**: the second goes on from the values that the first gives. -/
theorem seq {next : α → StateT S (Except ε) β} {gnext : α → WalkGrammar τ ι β}
    (h : AcceptsWalk place step g)
    (hnext : ∀ a, (∃ n i w i', g n i a w i') → AcceptsWalk place (next a) (gnext a)) :
    AcceptsWalk place (step >>= next) (g.seq gnext) := by
  intro s i b c
  constructor
  · intro hb
    rcases hs : step (place s i) with e | ⟨a, c'⟩
    · rw [step_seq_of_error hs] at hb
      cases hb
    · rw [step_seq_of_ok hs] at hb
      obtain ⟨u, s', i', hu, rfl, hg⟩ := (h s i a c').mp hs
      obtain ⟨v, s'', i'', hv, rfl, hg'⟩ := (hnext a ⟨_, _, _, _, hg⟩ s' i' b c).mp hb
      refine ⟨u ++ v, s'', i'', reads_append.mpr ⟨s', hu, hv⟩, rfl, a, u, v, i', rfl, hg, ?_⟩
      rwa [hu.2] at hg'
  · rintro ⟨w, s'', i'', hw, rfl, a, u, v, i', rfl, hg, hg'⟩
    obtain ⟨s', hu, hv⟩ := reads_append.mp hw
    rw [step_seq_of_ok ((h s i a (place s' i')).mpr ⟨u, s', i', hu, rfl, hg⟩)]
    exact (hnext a ⟨_, _, _, _, hg⟩ s' i' b _).mpr ⟨v, s'', i'', hv, rfl, by rwa [hu.2]⟩

/-- A parser that reads, and does not walk. -/
theorem of_accepts {read : StateT σ (Except ε) α} {g : Grammar τ α} (h : Accepts read g)
    (hstep : ∀ s i, step (place s i) = (read s).map fun r => (r.1, place r.2 i)) :
    AcceptsWalk place step (.still g) := by
  intro s i a c
  rw [hstep]
  constructor
  · intro hok
    rcases hs : read s with e | ⟨a', s'⟩
    · rw [hs] at hok
      cases hok
    · rw [hs] at hok
      cases hok
      obtain ⟨w, hw, hg⟩ := (h s a' s').mp hs
      exact ⟨w, s', i, hw, rfl, hg, rfl⟩
  · rintro ⟨w, s', _, hw, rfl, hg, rfl⟩
    rw [(h s a s').mpr ⟨w, hw, hg⟩]
    rfl

/-- A parser that walks, and does not read. -/
theorem of_move {m : ι → α → ι → Prop}
    (hstep : ∀ s i a c, step (place s i) = .ok (a, c) ↔ ∃ i', c = place s i' ∧ m i a i') :
    AcceptsWalk place step (.move m) := by
  intro s i a c
  rw [hstep]
  constructor
  · rintro ⟨i', rfl, hm⟩
    exact ⟨[], s, i', reads_nil.mpr rfl, rfl, rfl, hm⟩
  · rintro ⟨w, s', i', hw, rfl, rfl, hm⟩
    exact ⟨i', by rw [reads_nil.mp hw], hm⟩

end AcceptsWalk

end

end AgencLedger
