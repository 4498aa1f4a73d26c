import FirstAgent.Python.Text

/-! # Occurrences of a Text

    `text.count(sub)`, which counts occurrences from the left that do not
    overlap, and `text.replace(old, new, 1)`.  A count of one says that every
    occurrence overlaps the first (`count_eq_one`), which is less than that
    there is only one. -/

namespace PyText

/-- `sub` stands in `text` at position `i`. -/
def occurs_at (sub text : List Char) (i : Nat) : Prop :=
  ∃ before after, text = before ++ sub ++ after ∧ before.length = i

/-- Occurrences from the left, after `skip` code points of the last one. -/
def count_from (sub : List Char) : (skip : Nat) → List Char → Nat
  | _, []             => 0
  | skip + 1, _ :: cs => count_from sub skip cs
  | 0, c :: cs        =>
    if sub.isPrefixOf (c :: cs) then 1 + count_from sub (sub.length - 1) cs
    else count_from sub 0 cs

/-- `text.count(sub)`; the empty text occurs between any two code points. -/
def count (text sub : List Char) : Nat :=
  if sub = [] then text.length + 1 else count_from sub 0 text

/-- `text.replace(old, new, 1)`. -/
def replace_first (old new : List Char) : List Char → List Char
  | []      => if old = [] then new else []
  | c :: cs =>
    if old.isPrefixOf (c :: cs) then new ++ (c :: cs).drop old.length
    else c :: replace_first old new cs

/-- An occurrence with none before it. -/
structure First (sub text before after : List Char) : Prop where
  split : text = before ++ sub ++ after
  none_before : ∀ i < before.length, ¬ occurs_at sub text i

theorem occurs_at_zero {sub text : List Char} : occurs_at sub text 0 ↔ sub <+: text := by
  constructor
  · rintro ⟨before, after, rfl, hlength⟩
    rw [List.length_eq_zero_iff.mp hlength]
    exact ⟨after, by simp⟩
  · rintro ⟨after, rfl⟩
    exact ⟨[], after, by simp, rfl⟩

theorem occurs_at_succ {sub cs : List Char} {c : Char} {i : Nat} :
    occurs_at sub (c :: cs) (i + 1) ↔ occurs_at sub cs i := by
  constructor
  · rintro ⟨before, after, htext, hlength⟩
    cases before with
    | nil => cases hlength
    | cons d before =>
      rw [List.cons_append, List.cons_append] at htext
      exact ⟨before, after, (List.cons.inj htext).2, by simpa using hlength⟩
  · rintro ⟨before, after, rfl, rfl⟩
    exact ⟨c :: before, after, rfl, rfl⟩

/-- Past the first occurrence, occurrences are those of the rest. -/
theorem occurs_at_append {sub before after : List Char} {i : Nat} :
    occurs_at sub (before ++ after) (before.length + i) ↔ occurs_at sub after i := by
  induction before with
  | nil => simp
  | cons c before ih =>
    rw [List.cons_append, List.length_cons, show before.length + 1 + i = before.length + i + 1 by
      omega, occurs_at_succ, ih]

/-- What occurs has a first occurrence. -/
theorem exists_first {sub text : List Char} {i : Nat} (h : occurs_at sub text i) :
    ∃ before after, First sub text before after := by
  induction text generalizing i with
  | nil =>
    obtain ⟨before, after, htext, -⟩ := h
    have hall : before = [] ∧ sub = [] ∧ after = [] := by simpa using htext.symm
    exact ⟨[], [], by rw [hall.2.1]; rfl, fun i hi => absurd hi (Nat.not_lt_zero i)⟩
  | cons c cs ih =>
    by_cases hzero : sub <+: c :: cs
    · obtain ⟨after, hafter⟩ := hzero
      exact ⟨[], after, by simpa using hafter.symm, fun i hi => absurd hi (Nat.not_lt_zero i)⟩
    · cases i with
      | zero => exact absurd (occurs_at_zero.mp h) hzero
      | succ i =>
        obtain ⟨before, after, hfirst⟩ := ih (occurs_at_succ.mp h)
        refine ⟨c :: before, after, by rw [hfirst.split]; rfl, fun j hj => ?_⟩
        cases j with
        | zero => exact fun hocc => hzero (occurs_at_zero.mp hocc)
        | succ j =>
          rw [occurs_at_succ]
          exact hfirst.none_before j (by simpa using hj)

/-- The first occurrence of a longer text. -/
theorem First.of_cons {sub cs before after : List Char} {c d : Char}
    (h : First sub (c :: cs) (d :: before) after) : c = d ∧ First sub cs before after := by
  have hsplit := h.split
  rw [List.cons_append, List.cons_append] at hsplit
  obtain ⟨rfl, rfl⟩ := List.cons.inj hsplit
  refine ⟨rfl, rfl, fun i hi hocc => ?_⟩
  exact h.none_before (i + 1) (by simpa using hi) (occurs_at_succ.mpr hocc)

theorem First.not_prefix {sub cs before after : List Char} {c d : Char}
    (h : First sub (c :: cs) (d :: before) after) : ¬ sub <+: c :: cs :=
  fun hbegin => h.none_before 0 (by simp) (occurs_at_zero.mpr hbegin)

/-- The first occurrence is what is replaced. -/
theorem replace_first_eq {old new text before after : List Char}
    (h : First old text before after) : replace_first old new text = before ++ new ++ after := by
  induction before generalizing text with
  | nil =>
    have htext : text = old ++ after := by simpa using h.split
    subst htext
    cases hold : old ++ after with
    | nil =>
      obtain ⟨rfl, rfl⟩ := List.append_eq_nil_iff.mp hold
      simp [replace_first]
    | cons c cs =>
      have hbegin : old.isPrefixOf (c :: cs) = true := by
        rw [← hold, List.isPrefixOf_iff_prefix]
        exact List.prefix_append old after
      rw [replace_first, if_pos hbegin, ← hold, List.drop_left]
      rfl
  | cons d before ih =>
    cases text with
    | nil =>
      have hsplit := h.split
      simp at hsplit
    | cons c cs =>
      obtain ⟨rfl, hrest⟩ := h.of_cons
      have hbegin : ¬ old.isPrefixOf (c :: cs) = true := by
        rw [List.isPrefixOf_iff_prefix]
        exact h.not_prefix
      rw [replace_first, if_neg hbegin, ih hrest]
      rfl

/-! ### Counting -/

theorem count_from_skip {sub cs : List Char} {skip : Nat} :
    count_from sub skip cs = count_from sub 0 (cs.drop skip) := by
  induction cs generalizing skip with
  | nil => cases skip <;> simp [count_from]
  | cons c cs ih =>
    cases skip with
    | zero => rfl
    | succ skip =>
      rw [count_from, ih]
      rfl

/-- The first occurrence counts, and then those behind it. -/
theorem count_from_first {sub text before after : List Char} (hsub : sub ≠ [])
    (h : First sub text before after) :
    count_from sub 0 text = 1 + count_from sub 0 after := by
  induction before generalizing text with
  | nil =>
    have htext : text = sub ++ after := by simpa using h.split
    subst htext
    cases sub with
    | nil => exact absurd rfl hsub
    | cons c sub =>
      have hbegin : (c :: sub).isPrefixOf (c :: (sub ++ after)) = true := by
        rw [List.isPrefixOf_iff_prefix]
        exact ⟨after, rfl⟩
      rw [List.cons_append, count_from, if_pos hbegin, count_from_skip]
      simp
  | cons d before ih =>
    cases text with
    | nil =>
      have hsplit := h.split
      simp at hsplit
    | cons c cs =>
      obtain ⟨rfl, hrest⟩ := h.of_cons
      have hbegin : ¬ sub.isPrefixOf (c :: cs) = true := by
        rw [List.isPrefixOf_iff_prefix]
        exact h.not_prefix
      rw [count_from, if_neg hbegin, ih hrest]

theorem count_from_eq_zero {sub text : List Char} (hsub : sub ≠ []) :
    count_from sub 0 text = 0 ↔ ∀ i, ¬ occurs_at sub text i := by
  constructor
  · intro h i hocc
    obtain ⟨before, after, hfirst⟩ := exists_first hocc
    rw [count_from_first hsub hfirst] at h
    omega
  · intro h
    induction text with
    | nil => rfl
    | cons c cs ih =>
      have hbegin : ¬ sub.isPrefixOf (c :: cs) = true := by
        rw [List.isPrefixOf_iff_prefix]
        exact fun hp => h 0 (occurs_at_zero.mpr hp)
      rw [count_from, if_neg hbegin]
      exact ih fun i hocc => h (i + 1) (occurs_at_succ.mpr hocc)

/-- A count of one: there is a first occurrence, and every other one begins
    inside it. -/
theorem count_eq_one {text sub : List Char} :
    count text sub = 1 ↔ ∃ before after, First sub text before after ∧
      ∀ i, occurs_at sub text i → i = before.length ∨
        (before.length < i ∧ i < before.length + sub.length) := by
  unfold count
  by_cases hsub : sub = []
  · subst hsub
    rw [if_pos rfl]
    constructor
    · intro h
      have htext : text = [] := List.length_eq_zero_iff.mp (by omega)
      subst htext
      refine ⟨[], [], ⟨rfl, fun i hi => absurd hi (Nat.not_lt_zero i)⟩, fun i hocc => ?_⟩
      obtain ⟨before, after, hnil, rfl⟩ := hocc
      left
      have hboth : before = [] ∧ after = [] := by simpa using hnil.symm
      rw [hboth.1]
    · rintro ⟨before, after, hfirst, hall⟩
      have hend : occurs_at [] text text.length := ⟨text, [], by simp, rfl⟩
      have hbegin : occurs_at [] text 0 := ⟨[], text, by simp, rfl⟩
      have h1 := hall _ hend
      have h2 := hall _ hbegin
      simp only [List.length_nil, Nat.add_zero] at h1 h2
      omega
  · rw [if_neg hsub]
    have hlength : 0 < sub.length := List.length_pos_iff.mpr hsub
    constructor
    · intro h
      have hsome : ∃ i, occurs_at sub text i := by
        apply Classical.byContradiction
        intro hnone
        rw [(count_from_eq_zero hsub).mpr fun i hocc => hnone ⟨i, hocc⟩] at h
        cases h
      obtain ⟨i, hi⟩ := hsome
      obtain ⟨before, after, hfirst⟩ := exists_first hi
      rw [count_from_first hsub hfirst] at h
      have hzero : count_from sub 0 after = 0 := by omega
      have hnone := (count_from_eq_zero hsub).mp hzero
      refine ⟨before, after, hfirst, fun j hj => ?_⟩
      have hge : before.length ≤ j := Nat.le_of_not_lt fun hlt => hfirst.none_before j hlt hj
      by_cases hin : j < before.length + sub.length
      · omega
      · -- an occurrence behind the first one lies in the rest
        obtain ⟨k, rfl⟩ := Nat.exists_eq_add_of_le (Nat.le_of_not_lt hin)
        have hk : (before ++ sub).length + k = before.length + sub.length + k := by simp
        rw [hfirst.split, ← hk, occurs_at_append] at hj
        exact absurd hj (hnone k)
    · rintro ⟨before, after, hfirst, hall⟩
      rw [count_from_first hsub hfirst]
      have hnone : count_from sub 0 after = 0 := by
        rw [count_from_eq_zero hsub]
        intro k hk
        have hocc : occurs_at sub text ((before ++ sub).length + k) := by
          rw [hfirst.split]
          exact occurs_at_append.mpr hk
        have hwhere := hall _ hocc
        rw [List.length_append] at hwhere
        omega
      omega

-- one count, two positions
example : count ['a', 'a', 'a'] ['a', 'a'] = 1 := by decide

end PyText
