import FirstAgent.Workspace.Discovery

/-! # The Budgets of a Search

    A scan lists what is admitted among the entries it has room for, and every
    step of a search keeps the counters within their limits.  The number of
    matches is kept within `max_results` unless the scan budget ran out: a
    stop behind that does not change the reason, and the directories above go
    on. -/

open Fallible

namespace Workspace

/-! ### Stopping -/

namespace Budget

@[simp] theorem stop_scanned (budget : Budget) (reason : StopReason) :
    (budget.stop reason).scanned_entries = budget.scanned_entries := by
  unfold stop
  split <;> rfl

@[simp] theorem stop_opened (budget : Budget) (reason : StopReason) :
    (budget.stop reason).opened_files = budget.opened_files := by
  unfold stop
  split <;> rfl

@[simp] theorem stop_total (budget : Budget) (reason : StopReason) :
    (budget.stop reason).total_bytes = budget.total_bytes := by
  unfold stop
  split <;> rfl

theorem stop_reason (budget : Budget) (reason : StopReason) :
    (budget.stop reason).reason = some (budget.reason.getD reason) := by
  unfold stop
  split
  · next h => rw [h]; rfl
  · next r h => rw [h]; rfl

theorem stop_reason_ne (budget : Budget) (reason : StopReason) :
    (budget.stop reason).reason ≠ none := by
  rw [stop_reason]
  exact Option.some_ne_none _

/-- The reason stays once it is set. -/
theorem stop_reason_some {budget : Budget} {reason r : StopReason} (h : budget.reason = some r) :
    (budget.stop reason).reason = some r := by
  rw [stop_reason, h]
  rfl

theorem halted_eq_false {budget : Budget} :
    budget.halted = false ↔ budget.reason = none ∨ budget.reason = some .scan_entries := by
  unfold halted
  cases budget.reason with
  | none => simp
  | some r => cases r <;> simp

end Budget

@[simp] theorem Search.stop_found {M : Type} (s : Search M) (reason : StopReason) :
    (s.stop reason).found = s.found := rfl

@[simp] theorem Search.stop_budget {M : Type} (s : Search M) (reason : StopReason) :
    (s.stop reason).budget = s.budget.stop reason := rfl

/-! ### Scanning -/

section
variable {b : Boundary} {limits : TraversalLimits}

/-- What is admitted among some entries. -/
def admitted (b : Boundary) (parts : List String) (entries : Entries) : List Entry :=
  entries.filterMap (visible_entry b parts)

/-- The loop of a scan reads the entries it has room for. -/
theorem scan_entries_eq (limits : TraversalLimits) (parts : List String) (entries : Entries)
    (budget : Budget) :
    (scan_entries b limits parts entries budget).2 =
        admitted b parts (entries.take (limits.max_scan_entries - budget.scanned_entries)) ∧
      (scan_entries b limits parts entries budget).1 =
        if entries.length ≤ limits.max_scan_entries - budget.scanned_entries then
          { budget with scanned_entries := budget.scanned_entries + entries.length }
        else
          { budget with
            scanned_entries := max budget.scanned_entries limits.max_scan_entries }.stop
              .scan_entries := by
  induction entries generalizing budget with
  | nil => simp [scan_entries, admitted]
  | cons entry entries ih =>
    rw [scan_entries]
    by_cases hfull : budget.scanned_entries ≥ limits.max_scan_entries
    · have hroom : limits.max_scan_entries - budget.scanned_entries = 0 := by omega
      rw [if_pos hfull, hroom, if_neg (by simp), Nat.max_eq_left hfull]
      exact ⟨rfl, rfl⟩
    · rw [if_neg hfull]
      obtain ⟨hlist, hbudget⟩ := ih { budget with scanned_entries := budget.scanned_entries + 1 }
      have hroom : limits.max_scan_entries - budget.scanned_entries =
          (limits.max_scan_entries - (budget.scanned_entries + 1)) + 1 := by omega
      refine ⟨?_, ?_⟩
      · dsimp only at hlist ⊢
        rw [hlist, hroom, List.take_succ_cons]
        cases hvisible : visible_entry b parts entry <;> simp [admitted, hvisible]
      · dsimp only at hbudget ⊢
        rw [hbudget, List.length_cons]
        by_cases hfits : entries.length ≤ limits.max_scan_entries - (budget.scanned_entries + 1)
        · rw [if_pos hfits, if_pos (by omega)]
          congr 1
          omega
        · have hmax : max (budget.scanned_entries + 1) limits.max_scan_entries =
              max budget.scanned_entries limits.max_scan_entries := by omega
          rw [if_neg hfits, if_neg (by omega), hmax]

/-- An entry a scan lists is admitted. -/
theorem mem_scan_directory {parts : List String} {entries : Entries} {budget : Budget} {e : Entry}
    (h : e ∈ (scan_directory b limits parts entries budget).2) :
    ∃ entry ∈ entries, visible_entry b parts entry = some e := by
  have hmem : e ∈ (scan_entries b limits parts entries budget).2 :=
    (List.mem_insertionSort _).mp h
  clear h
  induction entries generalizing budget with
  | nil => cases hmem
  | cons entry entries ih =>
    rw [scan_entries] at hmem
    split at hmem
    · cases hmem
    · obtain hhere | hrest := List.mem_append.mp hmem
      · exact ⟨entry, List.mem_cons_self .., Option.mem_toList.mp hhere⟩
      · obtain ⟨found, hfound, hvisible⟩ := ih hrest
        exact ⟨found, List.mem_cons_of_mem _ hfound, hvisible⟩

theorem scan_entries_keeps (parts : List String) (entries : Entries) (budget : Budget) :
    (scan_entries b limits parts entries budget).1.opened_files = budget.opened_files ∧
      (scan_entries b limits parts entries budget).1.total_bytes = budget.total_bytes ∧
      ((scan_entries b limits parts entries budget).1.reason = budget.reason ∨
        (scan_entries b limits parts entries budget).1.reason =
          some (budget.reason.getD .scan_entries)) := by
  induction entries generalizing budget with
  | nil => exact ⟨rfl, rfl, Or.inl rfl⟩
  | cons entry entries ih =>
    rw [scan_entries]
    split
    · exact ⟨Budget.stop_opened .., Budget.stop_total .., Or.inr (Budget.stop_reason ..)⟩
    · exact ih { budget with scanned_entries := budget.scanned_entries + 1 }

/-! ### The counters -/

/-- The counters are within their limits. -/
structure WithinLimits (limits : TraversalLimits) (budget : Budget) : Prop where
  scanned : budget.scanned_entries ≤ limits.max_scan_entries
  opened : budget.opened_files ≤ limits.max_opened_files
  total : budget.total_bytes ≤ limits.max_total_bytes

theorem WithinLimits.stop {budget : Budget} (h : WithinLimits limits budget)
    (reason : StopReason) : WithinLimits limits (budget.stop reason) where
  scanned := by
    rw [Budget.stop_scanned]
    exact h.scanned
  opened := by
    rw [Budget.stop_opened]
    exact h.opened
  total := by
    rw [Budget.stop_total]
    exact h.total

theorem WithinLimits.scan {budget : Budget} (h : WithinLimits limits budget)
    (parts : List String) (entries : Entries) :
    WithinLimits limits (scan_directory b limits parts entries budget).1 := by
  obtain ⟨-, hbudget⟩ := scan_entries_eq (b := b) limits parts entries budget
  have hscanned := h.scanned
  change WithinLimits limits (scan_entries b limits parts entries budget).1
  rw [hbudget]
  split
  · exact ⟨by dsimp only; omega, h.opened, h.total⟩
  · apply WithinLimits.stop
    exact ⟨Nat.max_le.mpr ⟨hscanned, Nat.le_refl _⟩, h.opened, h.total⟩

theorem WithinLimits.read {budget : Budget} (h : WithinLimits limits budget)
    (data : List UInt8) : WithinLimits limits (read_search_bytes limits data budget).1 := by
  unfold read_search_bytes
  dsimp only
  split
  · exact h
  · next hroom =>
    refine ⟨h.scanned, h.opened, ?_⟩
    have htotal := h.total
    dsimp only
    rw [List.length_take]
    omega

/-! ### Appending -/

section
variable {M : Type} {max_results : Int} {s : Search M} {m : M}

theorem append_found : (s.append max_results m).1.found = s.found ++ [m] := by
  unfold Search.append
  dsimp only
  split <;> rfl

variable (max_results s m) in
/-- Appending stops at `max_results` or leaves the budget. -/
theorem append_budget :
    ((s.append max_results m).2 = true ∧ max_results ≤ s.found.length + 1 ∧
        (s.append max_results m).1.budget = s.budget.stop .matches) ∨
      ((s.append max_results m).2 = false ∧ (s.found.length : Int) + 1 < max_results ∧
        (s.append max_results m).1.budget = s.budget) := by
  unfold Search.append
  dsimp only
  have hlength : ((s.add m).found.length : Int) = s.found.length + 1 := by
    simp [Search.add]
  by_cases hfull : ((s.add m).found.length : Int) ≥ max_results
  · rw [if_pos hfull]
    exact Or.inl ⟨rfl, by omega, rfl⟩
  · rw [if_neg hfull]
    exact Or.inr ⟨rfl, by omega, rfl⟩

theorem WithinLimits.append (h : WithinLimits limits s.budget) :
    WithinLimits limits (s.append max_results m).1.budget := by
  obtain ⟨-, -, hbudget⟩ | ⟨-, -, hbudget⟩ := append_budget max_results s m
  · rw [hbudget]
    exact h.stop _
  · rw [hbudget]
    exact h

theorem WithinLimits.stop_at (h : WithinLimits limits s.budget) (bounded : Option StopReason) :
    WithinLimits limits (s.stop_at bounded).budget := by
  cases bounded with
  | none        => exact h
  | some reason => exact h.stop reason

/-- No more than `max_results` matches, unless the scan budget ran out. -/
structure BoundedMatches (max_results : Int) (s : Search M) : Prop where
  going : s.budget.reason = none → (s.found.length : Int) < max_results
  stopped : s.budget.reason ≠ some .scan_entries → (s.found.length : Int) ≤ max_results

theorem BoundedMatches.stop (h : BoundedMatches max_results s) (reason : StopReason) :
    BoundedMatches max_results (s.stop reason) where
  going := fun hnone => absurd hnone (Budget.stop_reason_ne _ _)
  stopped := fun hother => by
    cases hs : s.budget.reason with
    | none =>
      have hgoing := h.going hs
      rw [Search.stop_found]
      omega
    | some r =>
      rw [Search.stop_budget, Budget.stop_reason_some hs, ← hs] at hother
      exact h.stopped hother

theorem BoundedMatches.stop_at (h : BoundedMatches max_results s) (bounded : Option StopReason) :
    BoundedMatches max_results (s.stop_at bounded) := by
  cases bounded with
  | none        => exact h
  | some reason => exact h.stop reason

theorem BoundedMatches.append (h : BoundedMatches max_results s)
    (hhalted : s.budget.halted = false) :
    BoundedMatches max_results (s.append max_results m).1 := by
  have hfound : ((s.append max_results m).1.found.length : Int) = s.found.length + 1 := by
    rw [append_found]
    simp
  obtain ⟨-, hfull, hbudget⟩ | ⟨-, hroom, hbudget⟩ := append_budget max_results s m
  · refine ⟨fun hnone => ?_, fun hother => ?_⟩
    · rw [hbudget] at hnone
      exact absurd hnone (Budget.stop_reason_ne _ _)
    · obtain hgoing | hscan := Budget.halted_eq_false.mp hhalted
      · have hlength := h.going hgoing
        omega
      · rw [hbudget, Budget.stop_reason_some hscan] at hother
        exact absurd rfl hother
  · exact ⟨fun _ => by omega, fun _ => by omega⟩

end

/-! ### Lines -/

/-- The matches of the lines from a number on. -/
def matching_lines (b : Boundary) (query : String) (make : Nat → List Char → TextMatch) :
    Nat → List (List Char) → List TextMatch
  | _, []              => []
  | number, line :: lines =>
    (if line_matches b query line then [make number line] else []) ++
      matching_lines b query make (number + 1) lines

section
variable {query : String} {max_results : Int} {make : Nat → List Char → TextMatch}

variable (b query max_results make) in
/-- The loop over lines appends their matches, all of them or up to
    `max_results`. -/
theorem examine_lines_found (number : Nat) (lines : List (List Char)) (s : Search TextMatch) :
    ((examine_lines b query max_results make number lines s).2 = false ∧
        (examine_lines b query max_results make number lines s).1.found =
          s.found ++ matching_lines b query make number lines ∧
        (examine_lines b query max_results make number lines s).1.budget = s.budget) ∨
      ((examine_lines b query max_results make number lines s).2 = true ∧
        (∃ some_lines, some_lines <+: matching_lines b query make number lines ∧
          (examine_lines b query max_results make number lines s).1.found =
            s.found ++ some_lines) ∧
        (examine_lines b query max_results make number lines s).1.budget =
          s.budget.stop .matches) := by
  induction lines generalizing number s with
  | nil => exact Or.inl ⟨rfl, by simp [examine_lines, matching_lines], rfl⟩
  | cons line lines ih =>
    rw [examine_lines, matching_lines]
    by_cases hmatch : line_matches b query line = true
    · rw [if_pos hmatch, if_pos hmatch]
      dsimp only
      obtain ⟨hfull, -, hbudget⟩ | ⟨hroom, -, hbudget⟩ :=
        append_budget max_results s (make number line)
      · rw [if_pos hfull]
        refine Or.inr ⟨hfull, ⟨[make number line], List.prefix_append _ _, append_found⟩, hbudget⟩
      · rw [if_neg (by simp [hroom])]
        obtain ⟨hflag, hfound, hkept⟩ | ⟨hflag, ⟨rest, hrest, hfound⟩, hkept⟩ :=
          ih (number + 1) (s.append max_results (make number line)).1
        · refine Or.inl ⟨hflag, ?_, hkept.trans hbudget⟩
          rw [hfound, append_found, List.append_assoc]
        · refine Or.inr ⟨hflag, ⟨[make number line] ++ rest, ?_, ?_⟩, by rw [hkept, hbudget]⟩
          · exact (List.prefix_append_right_inj _).mpr hrest
          · rw [hfound, append_found, List.append_assoc]
    · rw [if_neg hmatch, if_neg hmatch]
      exact ih (number + 1) s

theorem BoundedMatches.lines {s : Search TextMatch} (h : BoundedMatches max_results s)
    (hhalted : s.budget.halted = false) (number : Nat) (lines : List (List Char)) :
    BoundedMatches max_results (examine_lines b query max_results make number lines s).1 := by
  induction lines generalizing number s with
  | nil => exact h
  | cons line lines ih =>
    rw [examine_lines]
    split
    · dsimp only
      split
      · exact h.append hhalted
      · next hroom =>
        refine ih (h.append hhalted) ?_ _
        obtain ⟨hfull, -, -⟩ | ⟨-, -, hbudget⟩ :=
          append_budget max_results s (make number line)
        · exact absurd hfull hroom
        · rw [hbudget]
          exact hhalted
    · exact ih h hhalted _

end

end

end Workspace
