import FirstAgent.Framework.Fallible

/-! # Transition Systems with Refusable Steps

    A system is a step function that may refuse a label.  A run is a finite
    sequence of labels none of which is refused.  The rules below carry a
    property of states along runs:

    * **`run_invariant`**: preserved by every step, hence by every run.
    * **`run_invariant_along`**: preserved by every step whose label meets a
      side condition in the state it is taken from.
    * **`run_history`**: preserved with the labels taken so far in view.
    * **`run_until`**: a property that only a releasing label can end, with the
      labels taken so far in view. -/

namespace Fallible

variable {ε State Label : Type}

/-- A system whose steps may be refused with an `ε`. -/
structure System (ε State Label : Type) where
  step : State → Label → Except ε State

namespace System

variable (sys : System ε State Label)

/-- Run a sequence of labels; the first refusal ends the run. -/
def run : State → List Label → Except ε State
  | s, []      => .ok s
  | s, l :: ls => sys.step s l >>= fun s' => run s' ls

/-- Every label of the run meets `C` in the state it is taken from. -/
def Along (C : State → Label → Prop) : State → List Label → Prop
  | _, []      => True
  | s, l :: ls => C s l ∧ ∀ s', sys.step s l = .ok s' → Along C s' ls

/-- Check a condition along a run. -/
def check_along (C : State → Label → Bool) : State → List Label → Bool
  | _, []      => true
  | s, l :: ls => C s l && match sys.step s l with
    | .ok s'   => check_along C s' ls
    | .error _ => true

variable {sys}

@[simp] theorem run_nil {s s' : State} : sys.run s [] = .ok s' ↔ s = s' := by
  simp [run]

theorem run_cons {s s' : State} {l : Label} {ls : List Label} :
    sys.run s (l :: ls) = .ok s' ↔ ∃ t, sys.step s l = .ok t ∧ sys.run t ls = .ok s' := by
  simp [run, bind_eq_ok]

theorem run_append {s s' : State} {ls ms : List Label} :
    sys.run s (ls ++ ms) = .ok s' ↔ ∃ t, sys.run s ls = .ok t ∧ sys.run t ms = .ok s' := by
  induction ls generalizing s with
  | nil => simp
  | cons l ls ih =>
    simp only [List.cons_append, run_cons, ih]
    constructor
    · rintro ⟨t, ht, u, hu, h⟩
      exact ⟨u, ⟨t, ht, hu⟩, h⟩
    · rintro ⟨u, ⟨t, ht, hu⟩, h⟩
      exact ⟨t, ht, u, hu, h⟩

/-! ### Invariants -/

/-- What every step meeting the side condition preserves holds at the end of
    every run whose steps all meet it. -/
theorem run_invariant_along {C : State → Label → Prop} {I : State → Prop}
    (hstep : ∀ s l s', I s → C s l → sys.step s l = .ok s' → I s')
    {s s' : State} {ls : List Label} (hI : I s) (hC : sys.Along C s ls)
    (hrun : sys.run s ls = .ok s') : I s' := by
  induction ls generalizing s with
  | nil =>
    obtain rfl := run_nil.mp hrun
    exact hI
  | cons l ls ih =>
    obtain ⟨t, ht, hrest⟩ := run_cons.mp hrun
    exact ih (hstep s l t hI hC.1 ht) (hC.2 t ht) hrest

theorem along_true {s : State} {ls : List Label} : sys.Along (fun _ _ => True) s ls := by
  induction ls generalizing s with
  | nil => trivial
  | cons l ls ih => exact ⟨trivial, fun _ _ => ih⟩

/-- What every step preserves holds at the end of every run. -/
theorem run_invariant {I : State → Prop}
    (hstep : ∀ s l s', I s → sys.step s l = .ok s' → I s')
    {s s' : State} {ls : List Label} (hI : I s) (hrun : sys.run s ls = .ok s') : I s' :=
  run_invariant_along (C := fun _ _ => True) (fun s l s' h _ => hstep s l s' h) hI along_true hrun

theorem along_of_check {C : State → Label → Prop} [∀ s l, Decidable (C s l)] {s : State}
    {ls : List Label} (h : sys.check_along (fun s l => C s l) s ls = true) : sys.Along C s ls := by
  induction ls generalizing s with
  | nil => trivial
  | cons l ls ih =>
    simp only [check_along, Bool.and_eq_true, decide_eq_true_eq] at h
    refine ⟨h.1, fun t ht => ih ?_⟩
    have := h.2
    rwa [ht] at this

/-- A condition that the labels meet in every state holds along a run. -/
theorem along_of_always {C : State → Label → Prop} {s : State} {ls : List Label}
    (h : ∀ l ∈ ls, ∀ s, C s l) : sys.Along C s ls := by
  induction ls generalizing s with
  | nil => trivial
  | cons l ls ih =>
    exact ⟨h l List.mem_cons_self s, fun _ _ => ih fun m hm => h m (List.mem_cons_of_mem _ hm)⟩

/-- A condition on the labels alone holds along a run. -/
theorem along_of_forall {C : Label → Prop} {s : State} {ls : List Label} (h : ∀ l ∈ ls, C l) :
    sys.Along (fun _ l => C l) s ls :=
  along_of_always fun l hl _ => h l hl

theorem Along.append_right {C : State → Label → Prop} {s t : State} {ls ms : List Label}
    (h : sys.Along C s (ls ++ ms)) (hrun : sys.run s ls = .ok t) : sys.Along C t ms := by
  induction ls generalizing s with
  | nil =>
    obtain rfl := run_nil.mp hrun
    exact h
  | cons l ls ih =>
    obtain ⟨u, hu, hrest⟩ := run_cons.mp hrun
    exact ih (h.2 u hu) hrest

/-- A condition along a run whose first step is known. -/
theorem Along.cons {C : State → Label → Prop} {s t : State} {l : Label} {ls : List Label}
    (hl : C s l) (ht : sys.step s l = .ok t) (h : sys.Along C t ls) : sys.Along C s (l :: ls) := by
  refine ⟨hl, fun s' hs' => ?_⟩
  obtain rfl := ok_eq_ok.mp (ht.symm.trans hs')
  exact h

theorem Along.append {C : State → Label → Prop} {s t : State} {ls ms : List Label}
    (hls : sys.Along C s ls) (hrun : sys.run s ls = .ok t) (hms : sys.Along C t ms) :
    sys.Along C s (ls ++ ms) := by
  induction ls generalizing s with
  | nil =>
    obtain rfl := run_nil.mp hrun
    exact hms
  | cons l ls ih =>
    refine ⟨hls.1, fun u hu => ?_⟩
    obtain ⟨v, hv, hrest⟩ := run_cons.mp hrun
    obtain rfl := ok_eq_ok.mp (hu.symm.trans hv)
    exact ih (hls.2 u hu) hrest

theorem Along.append_left {C : State → Label → Prop} {s : State} {ls ms : List Label}
    (h : sys.Along C s (ls ++ ms)) : sys.Along C s ls := by
  induction ls generalizing s with
  | nil => trivial
  | cons l ls ih => exact ⟨h.1, fun t ht => ih (h.2 t ht)⟩

/-- Strengthening the side condition of a run. -/
theorem Along.mono {C D : State → Label → Prop} (h : ∀ s l, C s l → D s l)
    {s : State} {ls : List Label} (hC : sys.Along C s ls) : sys.Along D s ls := by
  induction ls generalizing s with
  | nil => trivial
  | cons l ls ih => exact ⟨h s l hC.1, fun t ht => ih (hC.2 t ht)⟩

/-- Two conditions along a run are one. -/
theorem Along.and {C D : State → Label → Prop} {s : State} {ls : List Label}
    (hC : sys.Along C s ls) (hD : sys.Along D s ls) : sys.Along (fun s l => C s l ∧ D s l) s ls := by
  induction ls generalizing s with
  | nil => trivial
  | cons l ls ih => exact ⟨⟨hC.1, hD.1⟩, fun t ht => ih (hC.2 t ht) (hD.2 t ht)⟩

/-- A property of the labels taken and the state reached, preserved by every
    step, holds at the end of every run. -/
theorem run_history {P : List Label → State → Prop}
    (hstep : ∀ pre s l s', P pre s → sys.step s l = .ok s' → P (pre ++ [l]) s')
    {s s' : State} (pre : List Label) {ls : List Label} (hP : P pre s)
    (hrun : sys.run s ls = .ok s') : P (pre ++ ls) s' := by
  induction ls generalizing s pre with
  | nil =>
    obtain rfl := run_nil.mp hrun
    simpa using hP
  | cons l ls ih =>
    obtain ⟨t, ht, hrest⟩ := run_cons.mp hrun
    simpa using ih (pre ++ [l]) (hstep pre s l t hP ht) hrest

/-- A property of the labels taken and the state reached, which no step ends
    unless its label releases it, persists until such a label is taken. -/
theorem run_until {C : State → Label → Prop} {P : List Label → State → Prop}
    {R : State → Label → Prop}
    (hstep : ∀ pre s l s', P pre s → C s l → sys.step s l = .ok s' → P (pre ++ [l]) s' ∨ R s l)
    {s s' : State} (pre : List Label) {ls : List Label} (hP : P pre s) (hC : sys.Along C s ls)
    (hrun : sys.run s ls = .ok s') :
    P (pre ++ ls) s' ∨ ∃ ls₁ l ls₂ t, ls = ls₁ ++ l :: ls₂ ∧ sys.run s ls₁ = .ok t ∧
      P (pre ++ ls₁) t ∧ R t l := by
  induction ls generalizing s pre with
  | nil =>
    obtain rfl := run_nil.mp hrun
    exact .inl (by simpa using hP)
  | cons l ls ih =>
    obtain ⟨t, ht, hrest⟩ := run_cons.mp hrun
    rcases hstep pre s l t hP hC.1 ht with hPt | hR
    · rcases ih _ hPt (hC.2 t ht) hrest with h | ⟨ls₁, m, ls₂, u, rfl, hu, hPu, hR⟩
      · exact .inl (by simpa using h)
      · exact .inr ⟨l :: ls₁, m, ls₂, u, rfl, run_cons.mpr ⟨t, ht, hu⟩, by simpa using hPu, hR⟩
    · exact .inr ⟨[], l, ls, s, rfl, run_nil.mpr rfl, by simpa using hP, hR⟩

end System

end Fallible
