import FirstAgent.Framework.Fallible

/-! # Streaks

    A counter that is not stored but read off the end of a log: entries that
    count are counted back from the newest one, entries that pass are skipped,
    and the first entry that breaks the streak ends it.  Judging an entry may
    raise.

    * **`streak_counts`**, **`streak_passes`**, **`streak_breaks`**: what one
      more entry does to the counter.
    * **`streak_append_of_break`**: nothing behind a breaking entry matters, so
      the counter depends on the log from its last breaking entry on.
    * **`streak_of_padded`**: entries that break put in anywhere do not start a
      streak that is not there. -/

namespace Fallible

/-- What an entry does to the streak. -/
inductive Verdict where
  | counts
  | passes
  | breaks
  deriving Repr, DecidableEq

variable {ε α : Type} {verdict : α → Except ε Verdict}

/-- The streak of a log whose newest entry comes first. -/
def streak (verdict : α → Except ε Verdict) : List α → Except ε Nat
  | []      => .ok 0
  | a :: as => verdict a >>= fun v => match v with
    | .counts => streak verdict as >>= fun n => .ok (n + 1)
    | .passes => streak verdict as
    | .breaks => .ok 0

theorem streak_counts {a : α} {as : List α} {n : Nat} (ha : verdict a = .ok .counts)
    (h : streak verdict as = .ok n) : streak verdict (a :: as) = .ok (n + 1) := by
  simp [streak, ha, h, bind, Except.bind]

theorem streak_passes {a : α} {as : List α} (ha : verdict a = .ok .passes) :
    streak verdict (a :: as) = streak verdict as := by
  simp [streak, ha, bind, Except.bind]

theorem streak_breaks {a : α} {as : List α} (ha : verdict a = .ok .breaks) :
    streak verdict (a :: as) = .ok 0 := by
  simp [streak, ha, bind, Except.bind]

/-- The log behind a breaking entry does not matter. -/
theorem streak_append_of_break {as bs cs : List α}
    (h : ∃ a ∈ as, verdict a = .ok .breaks) :
    streak verdict (as ++ bs) = streak verdict (as ++ cs) := by
  induction as with
  | nil => simp at h
  | cons a as ih =>
    rw [List.cons_append, List.cons_append]
    obtain ⟨b, hb, hbreaks⟩ := h
    rcases List.mem_cons.mp hb with rfl | hb
    · rw [streak_breaks hbreaks, streak_breaks hbreaks]
    · simp only [streak, ih ⟨b, hb, hbreaks⟩]

/-! ### Padded logs -/

/-- The second log is the first with entries that satisfy `p` put in. -/
inductive Padded (p : α → Prop) : List α → List α → Prop where
  | nil : Padded p [] []
  | keep (a : α) {as bs : List α} : Padded p as bs → Padded p (a :: as) (a :: bs)
  | pad (a : α) {as bs : List α} : p a → Padded p as bs → Padded p as (a :: bs)

namespace Padded

variable {p : α → Prop} {as bs cs ds : List α}

theorem refl : (as : List α) → Padded p as as
  | []      => .nil
  | a :: as => .keep a (refl as)

theorem append (h : Padded p as bs) (h' : Padded p cs ds) : Padded p (as ++ cs) (bs ++ ds) := by
  induction h with
  | nil => exact h'
  | keep a _ ih => exact .keep a ih
  | pad a ha _ ih => exact .pad a ha ih

theorem all (h : ∀ a ∈ bs, p a) : Padded p [] bs := by
  induction bs with
  | nil => exact .nil
  | cons b bs ih =>
    exact .pad b (h b List.mem_cons_self) (ih fun a ha => h a (List.mem_cons_of_mem _ ha))

theorem front (h : ∀ a ∈ cs, p a) (h' : Padded p as bs) : Padded p as (cs ++ bs) :=
  (all h).append h'

theorem back (as : List α) (h : ∀ a ∈ cs, p a) : Padded p as (as ++ cs) := by
  simpa using (refl as).append (all h)

theorem reverse (h : Padded p as bs) : Padded p as.reverse bs.reverse := by
  induction h with
  | nil => exact .nil
  | keep a _ ih =>
    rw [List.reverse_cons, List.reverse_cons]
    exact ih.append (refl [a])
  | pad a ha _ ih =>
    have hlast : Padded p [] [a] := all (by simpa using ha)
    rw [List.reverse_cons]
    simpa using ih.append hlast

theorem mono {q : α → Prop} (hpq : ∀ a, p a → q a) (h : Padded p as bs) : Padded q as bs := by
  induction h with
  | nil => exact .nil
  | keep a _ ih => exact .keep a ih
  | pad a ha _ ih => exact .pad a (hpq a ha) ih

theorem subset (h : Padded p as bs) : as ⊆ bs := by
  induction h with
  | nil => exact List.nil_subset _
  | keep a _ ih => exact List.cons_subset_cons a ih
  | pad a _ _ ih => exact fun x hx => List.mem_cons_of_mem a (ih hx)

/-- A test the padding fails sees the same entries. -/
theorem filter_eq {q : α → Bool} (hpq : ∀ a, p a → q a = false) (h : Padded p as bs) :
    bs.filter q = as.filter q := by
  induction h with
  | nil => rfl
  | keep a _ ih => rw [List.filter_cons, List.filter_cons, ih]
  | pad a ha _ ih =>
    rw [List.filter_cons, hpq a ha]
    exact ih

end Padded

/-- Breaking entries start no streak. -/
theorem streak_of_padded {p : α → Prop} {as bs : List α}
    (hp : ∀ a, p a → verdict a = .ok .breaks) (h : Padded p as bs)
    (hzero : streak verdict as = .ok 0) : streak verdict bs = .ok 0 := by
  induction h with
  | nil => exact hzero
  | pad a ha _ _ => exact streak_breaks (hp a ha)
  | keep a _ ih =>
    cases hv : verdict a with
    | error e => simp [streak, hv, bind, Except.bind] at hzero
    | ok v =>
      cases v with
      | breaks => exact streak_breaks hv
      | passes =>
        rw [streak_passes hv] at hzero ⊢
        exact ih hzero
      | counts =>
        simp only [streak, hv] at hzero
        change (streak verdict _ >>= fun n => .ok (n + 1)) = .ok 0 at hzero
        obtain ⟨n, _, hsucc⟩ := bind_eq_ok.mp hzero
        exact absurd (ok_eq_ok.mp hsucc) (Nat.succ_ne_zero n)

end Fallible
