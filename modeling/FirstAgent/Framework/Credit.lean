import FirstAgent.Framework.TransitionSystem

/-! # Credits along Runs

    Some labels spend from a credit, a number that every state holds.  Where
    no step of a run adds to the credit, and every spending step takes its
    price away, the credit bounds what the run spends.

    * **`run_pays`**: the prices of a run and the credit left together are at
      most the credit at the start.
    * **`run_spends`**: the steps that spend and the credit left together are
      at most the credit at the start.
    * **`spends_from_credit`**: a step that spends is taken from a state of
      the run that holds credit, and what every step keeps holds there.
    * **`closed_spends_nothing`**: behind a state without credit no step
      spends.
    * **`no_close_before_spend`**: a label that takes the whole credit does
      not stand before a spending one. -/

namespace Fallible

variable {ε State Label : Type}

namespace System

variable {sys : System ε State Label}

/-- Under the side condition, every step keeps `I` and pays the price of its
    label. -/
def Charges (sys : System ε State Label) (C : State → Label → Prop) (I : State → Prop)
    (price : Label → Nat) (credit : State → Nat) : Prop :=
  ∀ s l s', I s → C s l → sys.step s l = .ok s' → I s' ∧ price l + credit s' ≤ credit s

theorem run_pays {C : State → Label → Prop} {I : State → Prop} {price : Label → Nat}
    {credit : State → Nat} (h : sys.Charges C I price credit) {s s' : State} {ls : List Label}
    (hI : I s) (hC : sys.Along C s ls) (hrun : sys.run s ls = .ok s') :
    I s' ∧ (ls.map price).sum + credit s' ≤ credit s := by
  induction ls generalizing s with
  | nil =>
    obtain rfl := run_nil.mp hrun
    exact ⟨hI, by simp⟩
  | cons l ls ih =>
    obtain ⟨t, ht, hrest⟩ := run_cons.mp hrun
    obtain ⟨hIt, hpaid⟩ := h s l t hI hC.1 ht
    obtain ⟨hI', hleft⟩ := ih hIt (hC.2 t ht) hrest
    refine ⟨hI', ?_⟩
    rw [List.map_cons, List.sum_cons]
    omega

/-- What a label spends. -/
def cost (spends : Label → Bool) (l : Label) : Nat := if spends l then 1 else 0

/-- Under the side condition, every step keeps `I` and pays for its label. -/
def Pays (sys : System ε State Label) (C : State → Label → Prop) (I : State → Prop)
    (spends : Label → Bool) (credit : State → Nat) : Prop :=
  ∀ s l s', I s → C s l → sys.step s l = .ok s' → I s' ∧ cost spends l + credit s' ≤ credit s

variable {C : State → Label → Prop} {I : State → Prop} {spends : Label → Bool}
  {credit : State → Nat}

theorem sum_cost (spends : Label → Bool) (ls : List Label) :
    (ls.map (cost spends)).sum = ls.countP spends := by
  induction ls with
  | nil => rfl
  | cons l ls ih =>
    rw [List.map_cons, List.sum_cons, List.countP_cons, ih, Nat.add_comm]
    rfl

theorem run_spends (h : sys.Pays C I spends credit) {s s' : State} {ls : List Label} (hI : I s)
    (hC : sys.Along C s ls) (hrun : sys.run s ls = .ok s') :
    I s' ∧ ls.countP spends + credit s' ≤ credit s := by
  obtain ⟨hI', hleft⟩ := run_pays h hI hC hrun
  rw [sum_cost] at hleft
  exact ⟨hI', hleft⟩

/-- The state a spending step is taken from. -/
theorem spends_from_credit (h : sys.Pays C I spends credit) {s s' : State} {ls ms : List Label}
    {l : Label} (hI : I s) (hC : sys.Along C s (ls ++ l :: ms))
    (hrun : sys.run s (ls ++ l :: ms) = .ok s') (hl : spends l = true) :
    ∃ t t', sys.run s ls = .ok t ∧ sys.step t l = .ok t' ∧ I t ∧ C t l ∧ 0 < credit t := by
  obtain ⟨t, ht, hrest⟩ := run_append.mp hrun
  obtain ⟨t', ht', _⟩ := run_cons.mp hrest
  obtain ⟨hIt, _⟩ := run_spends h hI hC.append_left ht
  have hCt : C t l := (hC.append_right ht).1
  obtain ⟨_, hpaid⟩ := h t l t' hIt hCt ht'
  refine ⟨t, t', ht, ht', hIt, hCt, ?_⟩
  simp only [cost, hl, if_true] at hpaid
  omega

theorem closed_spends_nothing (h : sys.Pays C I spends credit) {s s' : State} {ls : List Label}
    (hI : I s) (hC : sys.Along C s ls) (hrun : sys.run s ls = .ok s') (hcredit : credit s = 0) :
    ∀ l ∈ ls, spends l = false := by
  obtain ⟨_, hspent⟩ := run_spends h hI hC hrun
  have hnone : ls.countP spends = 0 := by omega
  intro l hl
  simpa using List.countP_eq_zero.mp hnone l hl

/-- No label that takes the whole credit stands before a spending one. -/
theorem no_close_before_spend (h : sys.Pays C I spends credit) {closes : Label → Bool}
    (hcloses : ∀ s l s', I s → C s l → closes l = true → sys.step s l = .ok s' → credit s' = 0)
    {s s' : State} {ls ms : List Label} {l : Label} (hI : I s)
    (hC : sys.Along C s (ls ++ l :: ms)) (hrun : sys.run s (ls ++ l :: ms) = .ok s')
    (hl : spends l = true) : ∀ m ∈ ls, closes m = false := by
  intro m hm
  refine Bool.eq_false_iff.mpr fun hclose => ?_
  obtain ⟨before, after, rfl⟩ := List.append_of_mem hm
  rw [List.append_assoc, List.cons_append] at hC hrun
  obtain ⟨t, ht, hrest⟩ := run_append.mp hrun
  obtain ⟨t', ht', hafter⟩ := run_cons.mp hrest
  obtain ⟨hIt, _⟩ := run_spends h hI hC.append_left ht
  have hCt := hC.append_right ht
  obtain ⟨hIt', _⟩ := h t m t' hIt hCt.1 ht'
  have hempty : credit t' = 0 := hcloses t m t' hIt hCt.1 hclose ht'
  have hnone := closed_spends_nothing h hIt' (hCt.2 t' ht') hafter hempty l (by simp)
  rw [hl] at hnone
  cases hnone

end System

end Fallible
