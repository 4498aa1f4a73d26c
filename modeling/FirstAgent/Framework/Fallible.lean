import Mathlib.Algebra.Ring.Int.Defs
import Mathlib.Algebra.Ring.Nat

/-! # Fallible Computations and Checked Values

    A computation that may raise is an `Except ε`.  This module collects the
    two guards programs are written with (`refuse`, `expect`), the inversion
    rules that read a successful run of such a program back as the
    conjunction of everything it checked, and `Checked`, the type of values
    that passed a constructor check.

    Inverting a program is `simp only [prog, bind_eq_ok, refuse_eq_ok, …] at h`:
    each guard turns into a proposition, each bind into an existential. -/

namespace Fallible

variable {ε α β γ : Type}

/-! ### Guards -/

/-- Raise `e` when `bad` holds. -/
def refuse (bad : Prop) [Decidable bad] (e : ε) : Except ε Unit :=
  if bad then .error e else .ok ()

/-- Unwrap an optional value, raising `e` when there is none. -/
def expect (o : Option α) (e : ε) : Except ε α :=
  match o with
  | some a => .ok a
  | none   => .error e

/-! ### Inversion rules -/

theorem refuse_eq_ok {bad : Prop} [Decidable bad] {e : ε} {u : Unit} :
    refuse bad e = .ok u ↔ ¬ bad := by
  unfold refuse
  by_cases h : bad <;> simp [h]

theorem expect_eq_ok {o : Option α} {e : ε} {a : α} :
    expect o e = .ok a ↔ o = some a := by
  cases o <;> simp [expect]

theorem bind_eq_ok {x : Except ε α} {f : α → Except ε β} {b : β} :
    (x >>= f) = .ok b ↔ ∃ a, x = .ok a ∧ f a = .ok b := by
  cases x with
  | ok a    => simp [bind, Except.bind]
  | error e => simp [bind, Except.bind]

theorem pure_eq_ok {a b : α} : (pure a : Except ε α) = .ok b ↔ a = b := by
  simp [pure, Except.pure]

theorem throw_ne_ok {e : ε} {b : α} : (throw e : Except ε α) = .ok b ↔ False := by
  simp [throw, throwThe, MonadExceptOf.throw]

theorem error_ne_ok {e : ε} {b : α} : (Except.error e : Except ε α) = .ok b ↔ False := by
  simp

theorem ok_eq_ok {a b : α} : (Except.ok a : Except ε α) = .ok b ↔ a = b := by
  simp

/-! The same for what a program raises. -/

theorem bind_eq_error {x : Except ε α} {f : α → Except ε β} {e : ε} :
    (x >>= f) = .error e ↔ x = .error e ∨ ∃ a, x = .ok a ∧ f a = .error e := by
  cases x with
  | ok a    => simp [bind, Except.bind]
  | error e => simp [bind, Except.bind]

theorem refuse_eq_error {bad : Prop} [Decidable bad] {e e' : ε} :
    refuse bad e' = .error e ↔ bad ∧ e' = e := by
  unfold refuse
  by_cases h : bad <;> simp [h]

theorem expect_eq_error {o : Option α} {e e' : ε} :
    expect o e' = .error e ↔ o = none ∧ e' = e := by
  cases o <;> simp [expect]

/-- A branch succeeds when the branch it takes does. -/
theorem ite_eq_ok {c : Prop} [Decidable c] {x y : Except ε α} {b : α} :
    (if c then x else y) = .ok b ↔ (c ∧ x = .ok b) ∨ (¬ c ∧ y = .ok b) := by
  by_cases h : c <;> simp [h]

/-- Reading an optional value in a program with a default branch. -/
theorem option_elim_eq_ok {o : Option α} {x : Except ε β} {f : α → Except ε β} {b : β} :
    o.elim x f = .ok b ↔ (o = none ∧ x = .ok b) ∨ (∃ a, o = some a ∧ f a = .ok b) := by
  cases o <;> simp

/-- A check of every item succeeds when each check does. -/
theorem forM_eq_ok {f : α → Except ε Unit} {xs : List α} {u : Unit} :
    xs.forM f = .ok u ↔ ∀ x ∈ xs, f x = .ok () := by
  induction xs with
  | nil => simp [List.forM, pure_eq_ok]
  | cons x xs ih =>
    change (f x >>= fun _ => xs.forM f) = .ok u ↔ _
    rw [bind_eq_ok]
    simp only [ih, List.mem_cons, forall_eq_or_imp]
    exact ⟨fun ⟨_, hx, hxs⟩ => ⟨hx, hxs⟩, fun ⟨hx, hxs⟩ => ⟨(), hx, hxs⟩⟩

/-! ### Running on concrete inputs -/

/-- The program succeeds with a value that passes the test. -/
def succeeds (x : Except ε α) (p : α → Bool) : Bool :=
  match x with
  | .ok a    => p a
  | .error _ => false

theorem succeeds_iff {x : Except ε α} {p : α → Bool} :
    succeeds x p = true ↔ ∃ a, x = .ok a ∧ p a = true := by
  cases x <;> simp [succeeds]

/-! ### Checked values -/

/-- A value together with the proof that its constructor check passed. -/
structure Checked {F : Type} (check : F → Except ε Unit) where
  val : F
  valid : check val = .ok ()

namespace Checked

variable {F : Type} {check : F → Except ε Unit}

@[ext] theorem ext {x y : Checked check} (h : x.val = y.val) : x = y := by
  cases x
  cases y
  cases h
  rfl

instance [DecidableEq F] : DecidableEq (Checked check) := fun x y =>
  if h : x.val = y.val then isTrue (ext h) else isFalse fun h' => h (h' ▸ rfl)

/-- Run the constructor: the check decides whether the value exists. -/
def make (f : F) : Except ε (Checked check) :=
  match h : check f with
  | .ok ()   => .ok ⟨f, h⟩
  | .error e => .error e

theorem make_eq_ok {f : F} {x : Checked check} : make f = .ok x ↔ x.val = f := by
  unfold make
  constructor
  · intro h
    split at h
    · cases h
      rfl
    · cases h
  · rintro rfl
    split
    · rfl
    · next e he =>
      rw [x.valid] at he
      cases he

/-- A checked value can be rebuilt from its fields. -/
@[simp] theorem make_val (x : Checked check) : make x.val = .ok x :=
  make_eq_ok.mpr rfl

/-- Whatever the check establishes holds of every checked value. -/
theorem of_check {P : F → Prop} (h : ∀ f, check f = .ok () → P f) (x : Checked check) : P x.val :=
  h x.val x.valid

end Checked

end Fallible
