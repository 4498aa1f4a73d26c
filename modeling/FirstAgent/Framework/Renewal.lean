import FirstAgent.Framework.Credit

/-! # Credits that are Renewed

    A credit that some steps give back in full bounds what a run spends only
    where no such step stands between two spending ones.

    * **`spends_from_renewal`**: the prices of such a run are at most the bound
      of the credit.
    * **`marks_distinct`**: where every spending step is marked by the credit
      it spends, no two steps of such a run carry the same mark. -/

namespace Fallible

variable {ε State Label : Type}

namespace System

/-- No step that renews stands between two steps that spend. -/
def OnceSpending (sys : System ε State Label) (renews : State → Label → Bool)
    (spends : Label → Bool) (s : State) (ls : List Label) : Prop :=
  ∀ before l after t, ls = before ++ l :: after → sys.run s before = .ok t → renews t l = true →
    (∀ m ∈ before, spends m = false) ∨ ∀ m ∈ after, spends m = false

/-- Nothing is spent behind a step that renews. -/
def ClosedByRenewal (sys : System ε State Label) (renews : State → Label → Bool)
    (spends : Label → Bool) (s : State) (ls : List Label) : Prop :=
  ∀ before l after t, ls = before ++ l :: after → sys.run s before = .ok t → renews t l = true →
    ∀ m ∈ after, spends m = false

variable {sys : System ε State Label} {renews : State → Label → Bool} {spends : Label → Bool}
  {s s' t : State} {l : Label} {ls : List Label}

theorem OnceSpending.tail (h : sys.OnceSpending renews spends s (l :: ls))
    (ht : sys.step s l = .ok t) : sys.OnceSpending renews spends t ls := by
  intro before m after u hsplit hu hrenews
  rcases h (l :: before) m after u (by rw [hsplit]; rfl) (run_cons.mpr ⟨t, ht, hu⟩) hrenews with
    hbefore | hafter
  · exact .inl fun n hn => hbefore n (List.mem_cons_of_mem _ hn)
  · exact .inr hafter

theorem ClosedByRenewal.tail (h : sys.ClosedByRenewal renews spends s (l :: ls))
    (ht : sys.step s l = .ok t) : sys.ClosedByRenewal renews spends t ls := by
  intro before m after u hsplit hu hrenews
  exact h (l :: before) m after u (by rw [hsplit]; rfl) (run_cons.mpr ⟨t, ht, hu⟩) hrenews

/-- Where spending has begun, the next renewal closes it. -/
theorem OnceSpending.closed (h : sys.OnceSpending renews spends s (l :: ls))
    (hl : spends l = true) (hrenews : renews s l = false) :
    sys.ClosedByRenewal renews spends s (l :: ls) := by
  intro before m after u hsplit hu hm
  cases before with
  | nil =>
    obtain ⟨rfl, rfl⟩ := List.cons.inj hsplit
    obtain rfl := run_nil.mp hu
    rw [hm] at hrenews
    cases hrenews
  | cons n before =>
    obtain ⟨rfl, _⟩ := List.cons.inj hsplit
    rcases h (l :: before) m after u hsplit hu hm with hbefore | hafter
    · have hnone := hbefore l List.mem_cons_self
      rw [hl] at hnone
      cases hnone
    · exact hafter

/-- A run that renews at its first step only. -/
theorem once_of_head (hls : ∀ m ∈ ls, ∀ t, renews t m = false) :
    sys.OnceSpending renews spends s (l :: ls) := by
  intro before m after t hsplit _ hrenews
  cases before with
  | nil => exact .inl (by simp)
  | cons n before =>
    obtain ⟨_, rfl⟩ := List.cons.inj hsplit
    rw [hls m (by simp) t] at hrenews
    cases hrenews

variable {I : State → Prop} {price : Label → Nat} {credit : State → Nat}

/-- The laws of a credit: every step keeps `I`, a step that does not renew
    pays its price, and only steps that spend have one and do not renew. -/
structure Renewable (sys : System ε State Label) (I : State → Prop)
    (renews : State → Label → Bool) (spends : Label → Bool) (price : Label → Nat)
    (credit : State → Nat) : Prop where
  keeps : ∀ s l s', I s → sys.step s l = .ok s' → I s'
  pays : ∀ s l s', I s → renews s l = false → sys.step s l = .ok s' →
    price l + credit s' ≤ credit s
  free : ∀ l, spends l = false → price l = 0
  apart : ∀ s l, spends l = true → renews s l = false

theorem sum_of_free (hfree : ∀ l, spends l = false → price l = 0)
    (hls : ∀ l ∈ ls, spends l = false) : (ls.map price).sum = 0 := by
  induction ls with
  | nil => rfl
  | cons l ls ih =>
    have hl := hfree l (hls l List.mem_cons_self)
    have hrest := ih fun m hm => hls m (List.mem_cons_of_mem _ hm)
    rw [List.map_cons, List.sum_cons, hl, hrest]

theorem spends_from_closed (h : sys.Renewable I renews spends price credit) (hI : I s)
    (hclosed : sys.ClosedByRenewal renews spends s ls) (hrun : sys.run s ls = .ok s') :
    (ls.map price).sum ≤ credit s := by
  induction ls generalizing s with
  | nil => exact Nat.zero_le _
  | cons l ls ih =>
    obtain ⟨t, ht, hrest⟩ := run_cons.mp hrun
    rw [List.map_cons, List.sum_cons]
    by_cases hrenews : renews s l = true
    · have hl : spends l = false := by
        refine Bool.eq_false_iff.mpr fun hl => ?_
        rw [h.apart s l hl] at hrenews
        cases hrenews
      have hnone := hclosed [] l ls s rfl (run_nil.mpr rfl) hrenews
      rw [h.free l hl, sum_of_free h.free hnone]
      omega
    · have hpaid := h.pays s l t hI (by simpa using hrenews) ht
      have hleft := ih (h.keeps s l t hI ht) (hclosed.tail ht) hrest
      omega

/-- Where no renewal stands between two spending steps, the run spends one
    credit. -/
theorem spends_from_renewal (h : sys.Renewable I renews spends price credit) {bound : Nat}
    (hbound : ∀ s, I s → credit s ≤ bound) (hI : I s)
    (honce : sys.OnceSpending renews spends s ls) (hrun : sys.run s ls = .ok s') :
    (ls.map price).sum ≤ bound := by
  induction ls generalizing s with
  | nil => exact Nat.zero_le _
  | cons l ls ih =>
    obtain ⟨t, ht, hrest⟩ := run_cons.mp hrun
    by_cases hl : spends l = true
    · have hclosed := honce.closed hl (h.apart s l hl)
      exact Nat.le_trans (spends_from_closed h hI hclosed hrun) (hbound s hI)
    · have hleft := ih (h.keeps s l t hI ht) (honce.tail ht) hrest
      rw [List.map_cons, List.sum_cons, h.free l (by simpa using hl)]
      omega

/-! ### Marks -/

variable {Mark : Type} {mark : Label → Option Mark} {rank : Mark → Nat}

/-- The marks of a closed run fall with the credit. -/
theorem marks_fall (h : sys.Renewable I renews spends price credit)
    (hmark : ∀ s l s' b, I s → sys.step s l = .ok s' → mark l = some b →
      spends l = true ∧ rank b ≤ credit s ∧ credit s' < rank b)
    (hI : I s) (hclosed : sys.ClosedByRenewal renews spends s ls)
    (hrun : sys.run s ls = .ok s') :
    (ls.filterMap mark).Pairwise (fun a b => rank b < rank a) ∧
      ∀ b ∈ ls.filterMap mark, rank b ≤ credit s := by
  induction ls generalizing s with
  | nil => exact ⟨List.Pairwise.nil, by simp⟩
  | cons l ls ih =>
    obtain ⟨t, ht, hrest⟩ := run_cons.mp hrun
    obtain ⟨hpairs, hbelow⟩ := ih (h.keeps s l t hI ht) (hclosed.tail ht) hrest
    cases hl : mark l with
    | some b =>
      obtain ⟨_, hrank, hfalls⟩ := hmark s l t b hI ht hl
      rw [List.filterMap_cons_some hl]
      refine ⟨List.pairwise_cons.mpr ⟨fun c hc => ?_, hpairs⟩, ?_⟩
      · have hc' := hbelow c hc
        omega
      · intro c hc
        rcases List.mem_cons.mp hc with rfl | hc
        · exact hrank
        · have hc' := hbelow c hc
          omega
    | none =>
      rw [List.filterMap_cons_none hl]
      refine ⟨hpairs, fun b hb => ?_⟩
      by_cases hrenews : renews s l = true
      · -- behind a renewal no step is marked
        obtain ⟨m, hm, hmb⟩ := List.mem_filterMap.mp hb
        have hnone := hclosed [] l ls s rfl (run_nil.mpr rfl) hrenews m hm
        obtain ⟨before, after, rfl⟩ := List.append_of_mem hm
        obtain ⟨u, hu, hafter⟩ := run_append.mp hrest
        obtain ⟨u', hu', _⟩ := run_cons.mp hafter
        have hIu : I u := run_invariant h.keeps (h.keeps s l t hI ht) hu
        obtain ⟨hspends, _⟩ := hmark u m u' b hIu hu' hmb
        rw [hnone] at hspends
        cases hspends
      · have hpaid := h.pays s l t hI (by simpa using hrenews) ht
        have hb' := hbelow b hb
        omega

/-- Where no renewal stands between two spending steps, no two steps carry the
    same mark. -/
theorem marks_distinct (h : sys.Renewable I renews spends price credit)
    (hmark : ∀ s l s' b, I s → sys.step s l = .ok s' → mark l = some b →
      spends l = true ∧ rank b ≤ credit s ∧ credit s' < rank b)
    (hI : I s) (honce : sys.OnceSpending renews spends s ls) (hrun : sys.run s ls = .ok s') :
    (ls.filterMap mark).Nodup := by
  induction ls generalizing s with
  | nil => exact List.nodup_nil
  | cons l ls ih =>
    obtain ⟨t, ht, hrest⟩ := run_cons.mp hrun
    by_cases hl : spends l = true
    · have hclosed := honce.closed hl (h.apart s l hl)
      obtain ⟨hpairs, _⟩ := marks_fall h hmark hI hclosed hrun
      refine hpairs.imp fun {a b} hab => ?_
      rintro rfl
      exact absurd hab (Nat.lt_irrefl _)
    · have hnone : mark l = none := by
        cases hb : mark l with
        | none => rfl
        | some b => exact absurd (hmark s l t b hI ht hb).1 hl
      rw [List.filterMap_cons_none hnone]
      exact ih (h.keeps s l t hI ht) (honce.tail ht) hrest

end System

end Fallible
