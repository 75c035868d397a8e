import ThumbDrive.Reader

/-! # Runs in step with an undisturbed run

The same operation is run twice, on a system that may be disturbed by failures from below and on
one that is not.  The two runs are **in step** when they end alike, in states that belong together;
or when the disturbed one ends in an error after some failure from below.  An operation that is in
step from all related states `Follows` its undisturbed twin.

An error of the kind that means an early end is special, because such an error is taken for the end
of a directory further up.  A run that fails with an error of that kind must therefore have met
this very error below: none of the layers makes one up.

Interrupted reads are tried again, so the operations that fill buffers need more of the reads they
are made of (`Reads`): a read that fails leaves the state where it was, up to what the relation
does not look at. -/
namespace ThumbDrive

/-! ## Two runs side by side -/

/-- Which states of a disturbed system and of an undisturbed one belong together, and the failures
from below that a state of the disturbed one tells of, the latest first. -/
structure Pairing (σ τ : Type) where
  Rel : σ → τ → Prop
  failures : σ → List IoError

namespace Pairing
variable {σ τ α β : Type} (p : Pairing σ τ)

/-- What has happened from `s` to `s'`: the failures `es`. -/
def Since (es : List IoError) (s s' : σ) : Prop := p.failures s' = es ++ p.failures s

/-- How a disturbed run from `s` may end beside an undisturbed one.  Where it is left when it fails
is up to `ruin`. -/
inductive InStep (ruin : σ → Prop) (s : σ) :
    EStateM.Result IoError σ α → EStateM.Result IoError τ α → Prop where
  | ok {a s' t' es} (hr : p.Rel s' t') (hs : p.Since es s s') : InStep ruin s (.ok a s') (.ok a t')
  | error {e s' t' es} (hr : p.Rel s' t') (hs : p.Since es s s') (hk : e.kind ≠ .interrupted) :
      InStep ruin s (.error e s') (.error e t')
  | failed {e s' y es} (hr : ruin s') (hs : p.Since es s s') (hne : es ≠ [])
      (hend : e.kind = .unexpectedEof → e ∈ es) : InStep ruin s (.error e s') y

/-- A state from which the disturbed system can still be compared. -/
def Live (s : σ) : Prop := ∃ t, p.Rel s t

/-- **An operation follows its undisturbed twin.** -/
def Follows (x : IoOn σ α) (y : IoOn τ α) : Prop :=
  ∀ s t, p.Rel s t → p.InStep p.Live s (x s) (y t)

/-- Reads that follow their undisturbed twins, and leave the state where it was if they fail. -/
def Reads (x : Nat → IoOn σ Bytes) (y : Nat → IoOn τ Bytes) : Prop :=
  ∀ n s t, p.Rel s t → p.InStep (fun s' => p.Rel s' t) s (x n s) (y n t)

variable {p}

theorem Since.refl (s : σ) : p.Since [] s s := rfl

theorem Since.trans {es es' : List IoError} {s s' s'' : σ} (h : p.Since es s s')
    (h' : p.Since es' s' s'') : p.Since (es' ++ es) s s'' := by
  unfold Since at *
  rw [h', h, List.append_assoc]

namespace InStep
variable {ruin : σ → Prop} {s s₀ : σ} {x : EStateM.Result IoError σ α}
  {y : EStateM.Result IoError τ α}

/-- The three ways to be in step, as equations. -/
theorem inv (h : p.InStep ruin s x y) :
    (∃ a s' t' es, x = .ok a s' ∧ y = .ok a t' ∧ p.Rel s' t' ∧ p.Since es s s') ∨
    (∃ e s' t' es, x = .error e s' ∧ y = .error e t' ∧ p.Rel s' t' ∧ p.Since es s s' ∧
      e.kind ≠ .interrupted) ∨
    (∃ e s' es, x = .error e s' ∧ ruin s' ∧ p.Since es s s' ∧ es ≠ [] ∧
      (e.kind = .unexpectedEof → e ∈ es)) := by
  cases h with
  | ok hr hs => exact .inl ⟨_, _, _, _, rfl, rfl, hr, hs⟩
  | error hr hs hk => exact .inr (.inl ⟨_, _, _, _, rfl, rfl, hr, hs, hk⟩)
  | failed hr hs hne hend => exact .inr (.inr ⟨_, _, _, rfl, hr, hs, hne, hend⟩)

/-- A run may be seen as the end of a longer one. -/
theorem after {es : List IoError} (h : p.Since es s₀ s) (hx : p.InStep ruin s x y) :
    p.InStep ruin s₀ x y := by
  cases hx with
  | ok hr hs => exact .ok hr (h.trans hs)
  | error hr hs hk => exact .error hr (h.trans hs) hk
  | failed hr hs hne hend =>
    refine .failed hr (h.trans hs) ?_ ?_
    · intro hnil
      exact hne (List.append_eq_nil_iff.mp hnil).1
    · intro he
      exact List.mem_append_left _ (hend he)

end InStep

/-! ## Operations made of operations -/

theorem Follows.pure (a : α) : p.Follows (pure a) (pure a) :=
  fun s _ h => .ok h (Since.refl s)

theorem Follows.throw {e : IoError} (hk : e.kind ≠ .interrupted) :
    p.Follows (throw e : IoOn σ α) (throw e) :=
  fun s _ h => .error h (Since.refl s) hk

theorem Follows.bind {x : IoOn σ α} {y : IoOn τ α} {f : α → IoOn σ β} {g : α → IoOn τ β}
    (hx : p.Follows x y) (hf : ∀ a, p.Follows (f a) (g a)) : p.Follows (x >>= f) (y >>= g) := by
  intro s t h
  have hstep := hx s t h
  rw [IoOn.bind_apply, IoOn.bind_apply]
  generalize x s = rx, y t = ry at hstep ⊢
  cases hstep with
  | ok hr hs => exact (hf _ _ _ hr).after hs
  | error hr hs hk => exact .error hr hs hk
  | failed hr hs hne hend => exact .failed hr hs hne hend

/-! ## Filling buffers -/

/-- What one round of filling a buffer does with a read that brought bytes. -/
theorem readWithin_cons {x : Nat → IoOn σ Bytes} {rounds n : Nat} {s s' : σ} {b : UInt8}
    {got : Bytes} (h : x (n + 1) s = .ok (b :: got) s') :
    readWithin x (rounds + 1) (n + 1) s =
      match readWithin x rounds (n - got.length) s' with
      | .ok rest s => .ok (b :: got ++ rest) s
      | .error e s => .error e s := by
  cases hr : readWithin x rounds (n - got.length) s' <;>
    simp only [readWithin, h, List.length_cons, Nat.add_sub_add_right, hr]

theorem readWithin_nil {x : Nat → IoOn σ Bytes} {rounds n : Nat} {s s' : σ}
    (h : x (n + 1) s = .ok [] s') :
    readWithin x (rounds + 1) (n + 1) s = .error IoError.shortRead s' := by
  simp only [readWithin, h]

theorem readWithin_error {x : Nat → IoOn σ Bytes} {rounds n : Nat} {s s' : σ} {e : IoError}
    (h : x (n + 1) s = .error e s') :
    readWithin x (rounds + 1) (n + 1) s =
      if e.kind = .interrupted then readWithin x rounds (n + 1) s' else .error e s' := by
  simp only [readWithin, h]

theorem readWithin_zero (x : Nat → IoOn σ Bytes) (rounds : Nat) (s : σ) :
    readWithin x rounds 0 s = .ok [] s := by
  cases rounds <;> rfl

/-- The rounds of filling a buffer.  The disturbed run has fewer rounds left than the undisturbed
one only after an interruption, so it runs out of them only then. -/
theorem Reads.readWithin {x : Nat → IoOn σ Bytes} {y : Nat → IoOn τ Bytes} (h : p.Reads x y)
    {s₀ : σ} (rounds : Nat) : ∀ (rounds' n : Nat) (s : σ) (t : τ) (es : List IoError), p.Rel s t →
      p.Since es s₀ s → (es = [] → n ≤ rounds) → n ≤ rounds' →
      p.InStep p.Live s₀ (readWithin x rounds n s) (readWithin y rounds' n t) := by
  induction rounds with
  | zero =>
    intro rounds' n s t es hr hs hn hn'
    cases n with
    | zero =>
      rw [readWithin_zero, readWithin_zero]
      exact .ok hr hs
    | succ n =>
      refine .failed ⟨t, hr⟩ hs ?_ ?_
      · intro hnil
        exact absurd (hn hnil) (Nat.not_succ_le_zero n)
      · intro hk
        cases hk
  | succ rounds ih =>
    intro rounds' n s t es hr hs hn hn'
    cases n with
    | zero =>
      rw [readWithin_zero, readWithin_zero]
      exact .ok hr hs
    | succ n =>
      obtain ⟨rounds', rfl⟩ : ∃ r, rounds' = r + 1 := ⟨rounds' - 1, by omega⟩
      rcases (h (n + 1) s t hr).inv with ⟨got, s', t', es', hxs, hyt, hr', hs'⟩ |
        ⟨e, s', t', es', hxs, hyt, hr', hs', hk⟩ | ⟨e, s', es', hxs, hr', hs', hne, hend⟩
      · cases got with
        | nil =>
          rw [readWithin_nil hxs, readWithin_nil hyt]
          exact .error hr' (hs.trans hs') (by decide)
        | cons b got =>
          -- a byte has come in, so one round less is enough for what is missing
          have hrest := ih rounds' (n - got.length) s' t' (es' ++ es) hr' (hs.trans hs')
            (fun hnil => by have := hn (List.append_eq_nil_iff.mp hnil).2; omega) (by omega)
          rw [readWithin_cons hxs, readWithin_cons hyt]
          generalize ThumbDrive.readWithin x rounds (n - got.length) s' = rx,
            ThumbDrive.readWithin y rounds' (n - got.length) t' = ry at hrest ⊢
          cases hrest with
          | ok hr₁ hs₁ => exact .ok hr₁ hs₁
          | error hr₁ hs₁ hk => exact .error hr₁ hs₁ hk
          | failed hr₁ hs₁ hne hend => exact .failed hr₁ hs₁ hne hend
      · rw [readWithin_error hxs, readWithin_error hyt, if_neg hk, if_neg hk]
        exact .error hr' (hs.trans hs') hk
      · rw [readWithin_error hxs]
        by_cases hk : e.kind = .interrupted
        · rw [if_pos hk]
          refine ih (rounds' + 1) (n + 1) s' t (es' ++ es) hr' (hs.trans hs') ?_ hn'
          intro hnil
          exact absurd (List.append_eq_nil_iff.mp hnil).1 hne
        · rw [if_neg hk]
          exact (InStep.failed ⟨t, hr'⟩ hs' hne hend).after hs

/-- Filling a buffer follows if reading does. -/
theorem Reads.readExact {x : Nat → IoOn σ Bytes} {y : Nat → IoOn τ Bytes} (h : p.Reads x y)
    (n : Nat) : p.Follows (readExact x n) (readExact y n) := by
  intro s t hr
  exact h.readWithin _ _ n s t [] hr (Since.refl s) (fun _ => Nat.le_add_right n _)
    (Nat.le_add_right n _)

/-- Filling pieces follows if reading does. -/
theorem Reads.readPieces {x : Nat → IoOn σ Bytes} {y : Nat → IoOn τ Bytes} (h : p.Reads x y)
    (lengths : List Nat) : p.Follows (readPieces x lengths) (readPieces y lengths) := by
  unfold ThumbDrive.readPieces
  generalize ([] : Bytes) = got
  induction lengths generalizing got with
  | nil => exact Follows.pure got
  | cons n lengths ih =>
    rw [List.foldlM_cons, List.foldlM_cons]
    exact ((h.readExact n).bind fun piece => Follows.pure (got ++ piece)).bind ih

end Pairing
end ThumbDrive
