import FirstAgent.Framework.Fallible

/-! # Incremental Layers

    A layer turns batches of input into batches of output and keeps a state
    between two batches.  It is *incremental* when a batch may be cut anywhere:
    the two halves, one after the other, give the outputs of the whole and
    leave its state.

    * `feed` runs a layer item by item, and is incremental.
    * `pipe` feeds the outputs of one layer to the next, batch by batch.  It
      is incremental when both layers are and there is one way to fail.
    * `run` feeds a list of batches; an incremental layer makes it depend on
      the joined batches alone (`run_eq_flatten`). -/

open Fallible

namespace Layers

variable {ε α β γ σ τ : Type}

/-- A layer: the state and the outputs a batch leaves. -/
abbrev Layer (ε σ α β : Type) : Type := σ → List α → Except ε (σ × List β)

/-- A batch may be cut anywhere. -/
def Incremental (f : Layer ε σ α β) : Prop :=
  ∀ s xs ys, f s (xs ++ ys) = do
    let (s', bs) ← f s xs
    let (s'', cs) ← f s' ys
    pure (s'', bs ++ cs)

/-! ### Layers that read item by item -/

/-- Feed a batch item by item. -/
def feed (step : σ → α → Except ε (σ × List β)) : Layer ε σ α β
  | s, []      => pure (s, [])
  | s, x :: xs => do
    let (s', bs) ← step s x
    let (s'', cs) ← feed step s' xs
    pure (s'', bs ++ cs)

theorem incremental_feed (step : σ → α → Except ε (σ × List β)) : Incremental (feed step) := by
  intro s xs ys
  induction xs generalizing s with
  | nil => simp [feed]
  | cons x xs ih =>
    simp only [List.cons_append, feed, ih, bind_assoc, pure_bind, List.append_assoc]

/-! ### Composition -/

/-- Feed the outputs of a batch to the next layer. -/
def pipe (f : Layer ε σ α β) (g : Layer ε τ β γ) : Layer ε (σ × τ) α γ :=
  fun (s, t) xs => do
    let (s', bs) ← f s xs
    let (t', cs) ← g t bs
    pure ((s', t'), cs)

theorem pipe_eq_ok {f : Layer ε σ α β} {g : Layer ε τ β γ} {p q : σ × τ} {xs : List α}
    {cs : List γ} :
    pipe f g p xs = .ok (q, cs) ↔ ∃ bs, f p.1 xs = .ok (q.1, bs) ∧ g p.2 bs = .ok (q.2, cs) := by
  simp only [pipe, bind_eq_ok, pure_eq_ok, Prod.mk.injEq, Prod.exists]
  constructor
  · rintro ⟨s, bs, hf, t, cs, hg, rfl, rfl⟩
    exact ⟨bs, hf, hg⟩
  · rintro ⟨bs, hf, hg⟩
    exact ⟨q.1, bs, hf, q.2, cs, hg, rfl, rfl⟩

/-- The second half of the first layer runs before the first half of the
    second one, or after it: with one way to fail the order does not show. -/
theorem incremental_pipe [Subsingleton ε] {f : Layer ε σ α β} {g : Layer ε τ β γ}
    (hf : Incremental f) (hg : Incremental g) : Incremental (pipe f g) := by
  rintro ⟨s, t⟩ xs ys
  simp only [pipe, hf s xs ys, bind_assoc, pure_bind]
  cases hfirst : f s xs with
  | error e => rfl
  | ok p =>
    obtain ⟨s', bs⟩ := p
    change (f s' ys >>= _) = (g t bs >>= _)
    cases hsecond : f s' ys with
    | error e =>
      cases hthen : g t bs with
      | error e' => exact congrArg _ (Subsingleton.elim e e')
      | ok q => rfl
    | ok q =>
      obtain ⟨s'', cs⟩ := q
      change (g t (bs ++ cs) >>= _) = _
      rw [hg t bs cs]
      cases hthen : g t bs with
      | error e => rfl
      | ok q =>
        obtain ⟨t', ds⟩ := q
        change ((g t' cs >>= _) >>= _) = (g t' cs >>= _)
        rw [bind_assoc]
        rfl

/-! ### Batches -/

/-- Feed the batches one after the other. -/
def run (f : Layer ε σ α β) : σ → List (List α) → Except ε (σ × List β)
  | s, []      => pure (s, [])
  | s, b :: bs => do
    let (s', cs) ← f s b
    let (s'', ds) ← run f s' bs
    pure (s'', cs ++ ds)

/-- After a batch, the empty batch changes nothing. -/
theorem nil_after {f : Layer ε σ α β} (hf : Incremental f) {s s' : σ} {xs : List α} {bs : List β}
    (h : f s xs = .ok (s', bs)) : f s' [] = .ok (s', []) := by
  have hcut := hf s xs []
  rw [List.append_nil, h] at hcut
  change _ = (f s' [] >>= _) at hcut
  obtain ⟨⟨s'', cs⟩, hnil, hpure⟩ := bind_eq_ok.mp hcut.symm
  rw [pure_eq_ok, Prod.mk.injEq] at hpure
  obtain ⟨rfl, hcs⟩ := hpure
  have hempty : cs = [] := by simpa using hcs
  rw [hnil, hempty]

/-- The batches matter only through what they join to. -/
theorem run_eq_flatten {f : Layer ε σ α β} (hf : Incremental f) {s : σ}
    (hs : f s [] = .ok (s, [])) (batches : List (List α)) :
    run f s batches = f s batches.flatten := by
  induction batches generalizing s with
  | nil => exact hs.symm
  | cons b bs ih =>
    rw [List.flatten_cons, hf s b bs.flatten, run]
    cases hb : f s b with
    | error e => rfl
    | ok p =>
      obtain ⟨s', cs⟩ := p
      change (run f s' bs >>= _) = _
      rw [ih (nil_after hf hb)]
      rfl

end Layers
