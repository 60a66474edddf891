import AgencLedger.Library.Ensures
import Mathlib.Logic.Equiv.Defs
import Mathlib.Tactic.Common

/-!
# Library/Grammar — parsers that accept exactly a grammar

A parser reads a word off the front of its input and gives a value, or fails.  A grammar relates
the position a word stands at, the value it encodes, and the word.  `Accepts` says that a parser
succeeds on exactly the inputs that start with a word of the grammar, with the value of that word,
and leaves what follows it.  The rules build the grammar of a parser from those of its parts.
-/

namespace AgencLedger

/-! ## Inputs -/

/-- An input is a position and the symbols from there on. -/
class Input (σ : Type*) (τ : outParam Type*) where
  equiv : σ ≃ ℕ × List τ

namespace Input

variable {σ τ : Type*} [Input σ τ]

/-- Where the input stands. -/
def pos (s : σ) : ℕ := (equiv s).1

/-- What is left of it. -/
def rest (s : σ) : List τ := (equiv s).2

/-- The input at a position, with what is left of it. -/
def at' (σ : Type*) {τ : Type*} [Input σ τ] (n : ℕ) (l : List τ) : σ := equiv.symm (n, l)

@[simp] theorem pos_at' (n : ℕ) (l : List τ) : pos (at' σ n l) = n := by
  simp [pos, at']

@[simp] theorem rest_at' (n : ℕ) (l : List τ) : rest (at' σ n l) = l := by
  simp [rest, at']

theorem ext {s t : σ} (hpos : pos s = pos t) (hrest : rest s = rest t) : s = t :=
  equiv.injective (Prod.ext hpos hrest)

/-- A word is read off the front of the input. -/
def Reads (s : σ) (w : List τ) (s' : σ) : Prop :=
  rest s = w ++ rest s' ∧ pos s' = pos s + w.length

@[simp] theorem reads_nil {s s' : σ} : Reads s [] s' ↔ s' = s :=
  ⟨fun ⟨hrest, hpos⟩ => ext hpos hrest.symm, fun h => h ▸ ⟨rfl, rfl⟩⟩

theorem reads_append {s s'' : σ} {v w : List τ} :
    Reads s (v ++ w) s'' ↔ ∃ s', Reads s v s' ∧ Reads s' w s'' := by
  constructor
  · rintro ⟨hrest, hpos⟩
    refine ⟨at' σ (pos s + v.length) (w ++ rest s''), ⟨?_, pos_at' ..⟩, rest_at' .., ?_⟩
    · rw [rest_at', hrest, List.append_assoc]
    · rw [pos_at', hpos, List.length_append, Nat.add_assoc]
  · rintro ⟨s', ⟨hrest, hpos⟩, hrest', hpos'⟩
    exact ⟨by rw [hrest, hrest', List.append_assoc],
      by rw [hpos', hpos, List.length_append, Nat.add_assoc]⟩

end Input

open Input

/-! ## Grammars -/

/-- At which positions a word encodes which values. -/
abbrev Grammar (τ α : Type*) := ℕ → α → List τ → Prop

namespace Grammar

variable {τ α β : Type*}

/-- The empty word, for one value. -/
def pure (a : α) : Grammar τ α := fun _ b w => b = a ∧ w = []

/-- A word behind another one. -/
def seq (g : Grammar τ α) (next : α → Grammar τ β) : Grammar τ β := fun n b w =>
  ∃ a u v, w = u ++ v ∧ g n a u ∧ next a (n + u.length) b v

/-- No word at all. -/
def empty : Grammar τ α := fun _ _ _ => False

/-- A condition, on the empty word. -/
def check (c : Prop) : Grammar τ PUnit := fun _ _ w => c ∧ w = []

@[simp] theorem seq_pure (g : Grammar τ α) (f : α → β) {n : ℕ} {b : β} {w : List τ} :
    g.seq (fun a => pure (f a)) n b w ↔ ∃ a, b = f a ∧ g n a w := by
  constructor
  · rintro ⟨a, u, v, rfl, hg, rfl, rfl⟩
    exact ⟨a, rfl, by simpa using hg⟩
  · rintro ⟨a, rfl, hg⟩
    exact ⟨a, w, [], by simp, hg, rfl, rfl⟩

@[simp] theorem pure_seq (a : α) (next : α → Grammar τ β) : (pure a).seq next = next a := by
  funext n b w
  refine propext ⟨?_, fun h => ⟨a, [], w, rfl, ⟨rfl, rfl⟩, h⟩⟩
  rintro ⟨a', u, v, rfl, ⟨rfl, rfl⟩, h⟩
  exact h

@[simp] theorem check_seq (c : Prop) (next : PUnit → Grammar τ β) {n : ℕ} {b : β} {w : List τ} :
    (check c).seq next n b w ↔ c ∧ next ⟨⟩ n b w := by
  constructor
  · rintro ⟨a, u, v, rfl, ⟨hc, rfl⟩, h⟩
    exact ⟨hc, h⟩
  · rintro ⟨hc, h⟩
    exact ⟨⟨⟩, [], w, rfl, ⟨hc, rfl⟩, h⟩

end Grammar

/-! ## Parsers -/

section

variable {σ τ ε α β : Type} [Input σ τ]

/-- **The parser accepts exactly the grammar.** -/
def Accepts (step : StateT σ (Except ε) α) (g : Grammar τ α) : Prop :=
  ∀ s a s', step s = .ok (a, s') ↔ ∃ w, Reads s w s' ∧ g (pos s) a w

namespace Accepts

variable {step : StateT σ (Except ε) α} {g g' : Grammar τ α}

theorem congr (h : Accepts step g) (hg : ∀ n a w, g n a w ↔ g' n a w) : Accepts step g' :=
  fun s a s' => (h s a s').trans (exists_congr fun _ => and_congr_right fun _ => hg _ _ _)

theorem pure (a : α) : Accepts (Pure.pure a : StateT σ (Except ε) α) (.pure a) := by
  intro s b s'
  constructor
  · intro h
    cases h
    exact ⟨[], reads_nil.mpr rfl, rfl, rfl⟩
  · rintro ⟨w, hreads, rfl, rfl⟩
    rw [reads_nil.mp hreads]
    rfl

theorem throw (e : ε) : Accepts (MonadExcept.throw e : StateT σ (Except ε) α) .empty :=
  fun _ _ _ => ⟨fun h => (nomatch h), fun ⟨_, _, h⟩ => h.elim⟩

/-- **Two parsers in a row.** -/
theorem seq {next : α → StateT σ (Except ε) β} {gnext : α → Grammar τ β} (h : Accepts step g)
    (hnext : ∀ a, Accepts (next a) (gnext a)) : Accepts (step >>= next) (g.seq gnext) := by
  intro s b s''
  have hbind : (step >>= next) s = .ok (b, s'') ↔
      ∃ a s', step s = .ok (a, s') ∧ next a s' = .ok (b, s'') := by
    change (step s >>= fun q => next q.1 q.2) = .ok (b, s'') ↔ _
    cases step s with
    | error e => exact ⟨fun h => (nomatch h), fun ⟨_, _, h, _⟩ => (nomatch h)⟩
    | ok q =>
        refine ⟨fun h => ⟨q.1, q.2, rfl, h⟩, ?_⟩
        rintro ⟨a, s', hq, h⟩
        cases hq
        exact h
  rw [hbind]
  constructor
  · rintro ⟨a, s', hstep, hn⟩
    obtain ⟨u, hu, hgu⟩ := (h s a s').mp hstep
    obtain ⟨v, hv, hgv⟩ := (hnext a s' b s'').mp hn
    refine ⟨u ++ v, reads_append.mpr ⟨s', hu, hv⟩, a, u, v, rfl, hgu, ?_⟩
    rwa [hu.2] at hgv
  · rintro ⟨w, hw, a, u, v, rfl, hgu, hgv⟩
    obtain ⟨s', hu, hv⟩ := reads_append.mp hw
    exact ⟨a, s', (h s a s').mpr ⟨u, hu, hgu⟩,
      (hnext a s' b s'').mpr ⟨v, hv, by rwa [hu.2]⟩⟩

theorem ite {c : Prop} [Decidable c] {other : StateT σ (Except ε) α} (h : c → Accepts step g)
    (h' : ¬c → Accepts other g') :
    Accepts (if c then step else other) fun n a w => if c then g n a w else g' n a w := by
  by_cases hc : c
  · simpa only [if_pos hc] using h hc
  · simpa only [if_neg hc] using h' hc

/-- **A whole input is accepted** when all of it is a word of the grammar. -/
theorem whole (h : Accepts step g) {n : ℕ} {w : List τ} {a : α} :
    (∃ s', step (at' σ n w) = .ok (a, s') ∧ rest s' = []) ↔ g n a w := by
  constructor
  · rintro ⟨s', hstep, hrest⟩
    obtain ⟨v, ⟨hv, -⟩, hg⟩ := (h _ a s').mp hstep
    rw [rest_at', hrest, List.append_nil] at hv
    rw [hv]
    simpa using hg
  · intro hg
    refine ⟨at' σ (n + w.length) [], (h _ a _).mpr ⟨w, ⟨?_, ?_⟩, by simpa using hg⟩, rest_at' ..⟩
    · simp
    · simp

end Accepts

/-! ## Encodings -/

variable {γ δ : Type} {step : StateT σ (Except ε) α} {next : α → StateT σ (Except ε) γ}
  {rel : α → β → Prop} {enc : β → List τ} {ok : β → Prop}

/-- **The parser decodes an encoding**: what it reads is the encoding of the value that its result
stands for, and it reads the encoding of every value there is. -/
structure Decodes (step : StateT σ (Except ε) α) (rel : α → β → Prop) (enc : β → List τ)
    (ok : β → Prop) : Prop where
  read : ∀ {s a s'}, step s = .ok (a, s') → ∃ b, rel a b ∧ ok b ∧ Reads s (enc b) s'
  write : ∀ {s b l}, ok b → rest s = enc b ++ l →
    ∃ a s', step s = .ok (a, s') ∧ rel a b ∧ rest s' = l

namespace Decodes

/-- A parser that accepts the encodings and nothing else. -/
theorem of_accepts {g : Grammar τ α} (h : Accepts step g)
    (hread : ∀ n a w, g n a w → ∃ b, rel a b ∧ ok b ∧ w = enc b)
    (hwrite : ∀ n b, ok b → ∃ a, rel a b ∧ g n a (enc b)) : Decodes step rel enc ok where
  read := fun {s a s'} hstep => by
    obtain ⟨w, hw, hga⟩ := (h s a s').mp hstep
    obtain ⟨b, hrel, hok, rfl⟩ := hread _ _ _ hga
    exact ⟨b, hrel, hok, hw⟩
  write := fun {s b l} hok hl => by
    obtain ⟨a, hrel, hga⟩ := hwrite (pos s) b hok
    refine ⟨a, at' σ (pos s + (enc b).length) l, (h _ _ _).mpr ⟨_, ⟨?_, ?_⟩, hga⟩, hrel, ?_⟩
    · rw [hl, rest_at']
    · rw [pos_at']
    · rw [rest_at']

/-- Nothing is left to read: the parts that have been read make the value. -/
theorem pure {a : α} {b : β} (hok : ok b) (hrel : rel a b) (huniq : ∀ b', ok b' → b' = b) :
    Decodes (Pure.pure a : StateT σ (Except ε) α) rel (fun _ => []) ok where
  read := fun hstep => by
    cases hstep
    exact ⟨b, hrel, hok, reads_nil.mpr rfl⟩
  write := fun {s b' l} hok' hl => ⟨a, s, rfl, huniq b' hok' ▸ hrel, hl⟩

theorem throw (e : ε) (h : ∀ b, ¬ok b) :
    Decodes (MonadExcept.throw e : StateT σ (Except ε) α) rel enc ok where
  read := fun hstep => nomatch hstep
  write := fun {_ b _} hok => absurd hok (h b)

theorem congr {enc' : β → List τ} {ok' : β → Prop} (h : Decodes step rel enc ok)
    (henc : ∀ b, ok b → enc b = enc' b) (hok : ∀ b, ok b ↔ ok' b) :
    Decodes step rel enc' ok' where
  read := fun hstep => by
    obtain ⟨b, hrel, hb, hread⟩ := h.read hstep
    exact ⟨b, hrel, (hok b).mp hb, henc b hb ▸ hread⟩
  write := fun {s b l} hb hl => h.write ((hok b).mpr hb) (by rw [henc b ((hok b).mpr hb), hl])

/-- **A part of a value in front of the others**, which the value has at `part`. -/
theorem seq {rel' : γ → δ → Prop} {enc' : δ → List τ} {ok' : δ → Prop}
    (h : Decodes step rel enc ok) (part : δ → β) (hpart : ∀ d, ok' d → ok (part d))
    (hnext : ∀ a b, rel a b → ok b → Decodes (next a) rel' enc' fun d => ok' d ∧ part d = b) :
    Decodes (step >>= next) rel' (fun d => enc (part d) ++ enc' d) ok' where
  read := fun {s c s''} hstep => by
    rcases hs : step s with e | ⟨a, s'⟩
    · rw [step_seq_of_error hs] at hstep
      cases hstep
    · rw [step_seq_of_ok hs] at hstep
      obtain ⟨b, hrel, hok, hread⟩ := h.read hs
      obtain ⟨d, hrel', ⟨hok', rfl⟩, hread'⟩ := (hnext a b hrel hok).read hstep
      exact ⟨d, hrel', hok', reads_append.mpr ⟨s', hread, hread'⟩⟩
  write := fun {s d l} hok' hl => by
    rw [List.append_assoc] at hl
    obtain ⟨a, s', hs, hrel, hrest⟩ := h.write (hpart d hok') hl
    obtain ⟨c, s'', hs', hrel', hrest'⟩ :=
      (hnext a _ hrel (hpart d hok')).write ⟨hok', rfl⟩ hrest
    exact ⟨c, s'', (step_seq_of_ok hs).trans hs', hrel', hrest'⟩

/-- The same value among those of a larger type. -/
theorem map {rel' : γ → δ → Prop} {enc' : δ → List τ} {ok' : δ → Prop} {f : α → γ} {inj : β → δ}
    (h : Decodes step rel enc ok) (hrel : ∀ a b, rel a b → rel' (f a) (inj b))
    (henc : ∀ b, enc' (inj b) = enc b) (hok : ∀ d, ok' d ↔ ∃ b, inj b = d ∧ ok b) :
    Decodes (step >>= fun a => Pure.pure (f a)) rel' enc' ok' where
  read := fun {s c s'} hstep => by
    rcases hs : step s with e | ⟨a, s₁⟩
    · rw [step_seq_of_error hs] at hstep
      cases hstep
    · rw [step_seq_of_ok hs] at hstep
      obtain ⟨rfl, rfl⟩ : f a = c ∧ s₁ = s' := Prod.mk.inj (Except.ok.inj hstep)
      obtain ⟨b, hb, hokb, hread⟩ := h.read hs
      exact ⟨inj b, hrel a b hb, (hok _).mpr ⟨b, rfl, hokb⟩, henc b ▸ hread⟩
  write := fun {s d l} hok' hl => by
    obtain ⟨b, rfl, hokb⟩ := (hok d).mp hok'
    obtain ⟨a, s', hs, hb, hrest⟩ := h.write hokb (henc b ▸ hl)
    exact ⟨f a, s', step_seq_of_ok hs, hrel a b hb, hrest⟩

/-- **A whole input is decoded** exactly when it is the encoding of a value. -/
theorem whole_read (h : Decodes step rel enc ok) {n : ℕ} {w : List τ} {a : α} {s' : σ}
    (hstep : step (at' σ n w) = .ok (a, s')) (hrest : rest s' = []) :
    ∃ b, rel a b ∧ ok b ∧ w = enc b := by
  obtain ⟨b, hrel, hok, hread, -⟩ := h.read hstep
  rw [rest_at', hrest, List.append_nil] at hread
  exact ⟨b, hrel, hok, hread⟩

theorem whole_write (h : Decodes step rel enc ok) {n : ℕ} {b : β} (hok : ok b) :
    ∃ a s', step (at' σ n (enc b)) = .ok (a, s') ∧ rel a b ∧ rest s' = [] :=
  h.write hok (by rw [rest_at', List.append_nil])

end Decodes

end

end AgencLedger
