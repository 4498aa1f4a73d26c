import FirstAgent.Workspace.Budgets

/-! # What a Search Finds

    Both searches are walks (`search_walk`).  Every match belongs to a visible
    entry of a directory reached through visible directories, and a search that
    was not cut has found all of them. -/

open Fallible

namespace Workspace

/-! ### Visible places -/

/-- A visible entry of a directory. -/
def VisibleIn (b : Boundary) (place : Place) (e : Entry) : Prop :=
  ∃ entry ∈ place.entries, visible_entry b place.parts entry = some e

/-- A directory so many levels below, through visible directories that open. -/
inductive VisiblePlace (b : Boundary) : Nat → Place → Place → Prop where
  | here (place : Place) : VisiblePlace b 0 place place
  | deeper {n : Nat} {place child place' : Place} {e : Entry} (visible : VisibleIn b place e)
      (directory : e.kind = .directory) (entered : enter_place place e = .ok child)
      (rest : VisiblePlace b n child place') : VisiblePlace b (n + 1) place place'

/-- What a scan that is not cut lists. -/
def full_scan (b : Boundary) (place : Place) : List Entry :=
  sort_entries (admitted b place.parts place.entries)

theorem mem_full_scan {b : Boundary} {place : Place} {e : Entry} :
    e ∈ full_scan b place ↔ VisibleIn b place e := by
  unfold full_scan sort_entries admitted VisibleIn
  rw [List.mem_insertionSort, List.mem_filterMap]

section
variable {b : Boundary} {limits : TraversalLimits} {M : Type}
variable {examine : Place → Entry → Search M → Except WorkspaceError (Search M × Bool)}

theorem listed_visible {place : Place} {e : Entry}
    (h : (search_walk b limits examine).Listed place e) : VisibleIn b place e := by
  obtain ⟨s, hs⟩ := h
  exact mem_scan_directory hs

theorem reaches_visible {n : Nat} {place place' : Place}
    (h : (search_walk b limits examine).Reaches n place place') : VisiblePlace b n place place' := by
  induction h with
  | here place => exact .here place
  | deeper listed directory entered _ ih =>
    exact .deeper (listed_visible listed) (of_decide_eq_true directory) entered ih

theorem within_visible {place place' : Place} :
    (search_walk b limits examine).Within (full_scan b) place place' ↔
      ∃ n, VisiblePlace b n place place' := by
  constructor
  · intro h
    induction h with
    | here place => exact ⟨0, .here place⟩
    | deeper listed directory entered _ ih =>
      obtain ⟨n, hn⟩ := ih
      exact ⟨n + 1, .deeper (mem_full_scan.mp listed) (of_decide_eq_true directory) entered hn⟩
  · rintro ⟨n, h⟩
    induction h with
    | here place => exact .here place
    | deeper visible directory entered _ ih =>
      exact .deeper (mem_full_scan.mpr visible) (decide_eq_true directory) entered ih

/-- A scan that leaves the reason empty was full. -/
theorem scan_full {place : Place} {s : Search M}
    (h : ((search_walk b limits examine).scan place s).1.budget.reason = none) :
    ((search_walk b limits examine).scan place s).2 = full_scan b place := by
  obtain ⟨hlist, hbudget⟩ :=
    scan_entries_eq (b := b) limits place.parts place.entries s.budget
  change sort_entries (scan_entries b limits place.parts place.entries s.budget).2 = _
  change (scan_entries b limits place.parts place.entries s.budget).1.reason = none at h
  rw [hbudget] at h
  by_cases hfits : place.entries.length ≤ limits.max_scan_entries - s.budget.scanned_entries
  · rw [hlist, List.take_of_length_le hfits]
    rfl
  · rw [if_neg hfits] at h
    exact absurd h (Budget.stop_reason_ne _ _)

/-- A scan keeps the matches, and may set the reason. -/
theorem scan_keeps (b : Boundary) (limits : TraversalLimits)
    (examine : Place → Entry → Search M → Except WorkspaceError (Search M × Bool))
    (place : Place) (s : Search M) :
    ((search_walk b limits examine).scan place s).1.found = s.found ∧
      (((search_walk b limits examine).scan place s).1.budget.reason = s.budget.reason ∨
        ((search_walk b limits examine).scan place s).1.budget.reason =
          some (s.budget.reason.getD .scan_entries)) :=
  ⟨rfl, (scan_entries_keeps place.parts place.entries s.budget).2.2⟩

theorem BoundedMatches.scan {max_results : Int} {s : Search M} (h : BoundedMatches max_results s)
    (place : Place) :
    BoundedMatches max_results ((search_walk b limits examine).scan place s).1 := by
  obtain ⟨hfound, hsame | hset⟩ := scan_keeps b limits examine place s
  · exact ⟨fun hnone => by rw [hfound]; exact h.going (hsame.symm.trans hnone),
      fun hother => by rw [hfound]; exact h.stopped (hsame ▸ hother)⟩
  · refine ⟨fun hnone => ?_, fun hother => ?_⟩
    · rw [hset] at hnone
      cases hnone
    · rw [hfound]
      rw [hset] at hother
      cases hs : s.budget.reason with
      | none =>
        rw [hs] at hother
        exact absurd rfl hother
      | some r =>
        rw [hs] at hother
        exact h.stopped (hs ▸ hother)

end

/-! ### Paths -/

section
variable {b : Boundary} {limits : TraversalLimits} {query : String} {max_results : Int}

/-- The matches of an entry in a path search. -/
def path_matches (b : Boundary) (query : String) (place : Place) (e : Entry) : List PathMatch :=
  if PyText.contains (b.casefold (locator place e)) query then [path_match b place e] else []

/-- `search_paths` passes an entry over, or appends its match. -/
theorem examine_path_cases {place : Place} {e : Entry} {s s' : Search PathMatch} {leave : Bool}
    (h : examine_path b query max_results place e s = .ok (s', leave)) :
    (path_matches b query place e = [] ∧ s' = s ∧ leave = false) ∨
      (path_matches b query place e = [path_match b place e] ∧
        s' = (s.append max_results (path_match b place e)).1 ∧
        leave = (s.append max_results (path_match b place e)).2) := by
  unfold examine_path at h
  unfold path_matches
  by_cases hquery : PyText.contains (b.casefold (locator place e)) query = true
  · rw [if_pos hquery] at h ⊢
    obtain ⟨rfl, rfl⟩ := Prod.mk.inj (ok_eq_ok.mp h)
    exact Or.inr ⟨rfl, rfl, rfl⟩
  · rw [if_neg hquery] at h ⊢
    obtain ⟨rfl, rfl⟩ := Prod.mk.inj (ok_eq_ok.mp h)
    exact Or.inl ⟨rfl, rfl, rfl⟩

/-- The walk of `search_paths`. -/
def paths_walk (b : Boundary) (limits : TraversalLimits) (query : String) (max_results : Int) :
    Walk WorkspaceError Place Entry (Search PathMatch) :=
  search_walk b limits (examine_path b query max_results)

theorem paths_within_limits (n : Nat) (root : Place) :
    (paths_walk b limits query max_results).Preserves n root
      fun s => WithinLimits limits s.budget where
  scan := fun _ _ _ hs => hs.scan _ _
  examine := fun _ _ _ _ hs hexamine => by
    obtain ⟨-, rfl, -⟩ | ⟨-, rfl, -⟩ := examine_path_cases hexamine
    · exact hs
    · exact hs.append
  too_deep := fun _ hs => hs.stop _

theorem paths_bounded (n : Nat) (root : Place) :
    (paths_walk b limits query max_results).Preserves n root (BoundedMatches max_results) where
  scan := fun _ _ _ hs => hs.scan _
  examine := fun _ _ _ hhalted hs hexamine => by
    obtain ⟨-, rfl, -⟩ | ⟨-, rfl, -⟩ := examine_path_cases hexamine
    · exact hs
    · exact hs.append hhalted
  too_deep := fun _ hs => hs.stop _

/-- A match of a visible entry within a depth. -/
def ShownPath (b : Boundary) (query : String) (depth : Nat) (root : Place) (m : PathMatch) : Prop :=
  ∃ n place e, n ≤ depth ∧ VisiblePlace b n root place ∧ VisibleIn b place e ∧
    m ∈ path_matches b query place e

theorem paths_shown (n : Nat) (root : Place) :
    (paths_walk b limits query max_results).Preserves n root
      fun s => ∀ m ∈ s.found, ShownPath b query n root m where
  scan := fun _ _ _ hs => hs
  examine := fun hk hreaches hlisted _ hs hexamine => by
    obtain ⟨-, rfl, -⟩ | ⟨hown, rfl, -⟩ := examine_path_cases hexamine
    · exact hs
    · intro m hm
      rw [append_found] at hm
      obtain hm | hm := List.mem_append.mp hm
      · exact hs m hm
      · refine ⟨_, _, _, hk, reaches_visible hreaches, listed_visible hlisted, ?_⟩
        rw [hown]
        exact hm
  too_deep := fun _ hs => hs

theorem paths_collects :
    (paths_walk b limits query max_results).Collects (full_scan b) (path_matches b query)
      Search.found where
  scan := fun h => ⟨scan_full (of_decide_eq_true h), rfl⟩
  examine := @fun place e s s' leave hexamine hdescends => by
    obtain ⟨hown, rfl, rfl⟩ | ⟨hown, rfl, rfl⟩ := examine_path_cases hexamine
    · exact ⟨hdescends, rfl, by rw [hown, List.append_nil]⟩
    · have hnone := of_decide_eq_true hdescends
      obtain ⟨-, -, hbudget⟩ | ⟨hroom, -, hbudget⟩ :=
        append_budget max_results s (path_match b place e)
      · rw [hbudget] at hnone
        exact absurd hnone (Budget.stop_reason_ne _ _)
      · rw [hbudget] at hnone
        exact ⟨decide_eq_true hnone, hroom, by rw [hown, append_found]⟩
  goes_on := fun hdescends => Budget.halted_eq_false.mpr (Or.inl (of_decide_eq_true hdescends))
  too_deep := fun s => decide_eq_false (Budget.stop_reason_ne _ _)

end

/-! ### Lines -/

section
variable {b : Boundary} {limits : TraversalLimits} {query : String} {max_results : Int}

/-- The matches of the bytes read from a file. -/
def file_matches (b : Boundary) (limits : TraversalLimits) (query : String) (place : Place)
    (e : Entry) (data : List UInt8) (bounded : Bool) : List TextMatch :=
  if is_binary data then []
  else matching_lines b query (text_match b limits place e data bounded) 1
    (PyText.splitlines (decode_text data).1)

/-- The matches of an entry in a text search that reads it whole. -/
def text_matches (b : Boundary) (limits : TraversalLimits) (query : String) (place : Place)
    (e : Entry) : List TextMatch :=
  if e.kind = .directory then []
  else
    match open_expected b place.entries e with
    | .ok (_, data) => file_matches b limits query place e data false
    | .error _      => []

/-- `search_text` passes a directory over, runs out of files, or reads a file. -/
theorem examine_text_cases {place : Place} {e : Entry} {s s' : Search TextMatch} {leave : Bool}
    (h : examine_text b limits query max_results place e s = .ok (s', leave)) :
    (e.kind = .directory ∧ s' = s ∧ leave = false) ∨
    (e.kind ≠ .directory ∧ s' = s.stop .opened_files ∧ leave = true) ∨
    (e.kind ≠ .directory ∧ s.budget.opened_files < limits.max_opened_files ∧
      ∃ info data opened read bounded, open_expected b place.entries e = .ok (info, data) ∧
        opened = { s.budget with opened_files := s.budget.opened_files + 1 } ∧
        read = read_search_bytes limits data opened ∧ bounded = read.2.2 ∧
        ((is_binary read.2.1 = true ∧
            s' = ({ s with budget := read.1 } : Search TextMatch).stop_at bounded ∧
            leave = false) ∨
          (is_binary read.2.1 = false ∧ ∃ matched,
            matched = examine_lines b query max_results
              (text_match b limits place e read.2.1 bounded.isSome) 1
              (PyText.splitlines (decode_text read.2.1).1) { s with budget := read.1 } ∧
            ((matched.2 = true ∧ s' = matched.1 ∧ leave = true) ∨
              (matched.2 = false ∧ s' = matched.1.stop_at bounded ∧
                leave = bounded.isSome))))) := by
  unfold examine_text at h
  by_cases hdirectory : e.kind = .directory
  · rw [if_pos hdirectory] at h
    obtain ⟨rfl, rfl⟩ := Prod.mk.inj (ok_eq_ok.mp h)
    exact Or.inl ⟨hdirectory, rfl, rfl⟩
  rw [if_neg hdirectory] at h
  by_cases hopened : s.budget.opened_files ≥ limits.max_opened_files
  · rw [if_pos hopened] at h
    obtain ⟨rfl, rfl⟩ := Prod.mk.inj (ok_eq_ok.mp h)
    exact Or.inr (Or.inl ⟨hdirectory, rfl, rfl⟩)
  rw [if_neg hopened] at h
  obtain ⟨⟨info, data⟩, hopen, h⟩ := bind_eq_ok.mp h
  refine Or.inr (Or.inr ⟨hdirectory, Nat.lt_of_not_ge hopened, info, data, _, _, _, hopen, rfl, rfl,
    rfl, ?_⟩)
  dsimp only at h
  -- a binary file has no lines to look at
  split at h
  · next hbinary =>
    obtain ⟨rfl, rfl⟩ := Prod.mk.inj (ok_eq_ok.mp h)
    exact Or.inl ⟨hbinary, rfl, rfl⟩
  · next hbinary =>
    refine Or.inr ⟨by simpa using hbinary, _, rfl, ?_⟩
    split at h
    · next hfull =>
      obtain ⟨rfl, rfl⟩ := Prod.mk.inj (ok_eq_ok.mp h)
      exact Or.inl ⟨hfull, rfl, hfull⟩
    · next hroom =>
      obtain ⟨rfl, rfl⟩ := Prod.mk.inj (ok_eq_ok.mp h)
      exact Or.inr ⟨by simpa using hroom, rfl, rfl⟩

/-- A read is the beginning of the file, and all of it when nothing cut it. -/
theorem read_search_bytes_eq (limits : TraversalLimits) (data : List UInt8) (budget : Budget) :
    (read_search_bytes limits data budget).1.reason = budget.reason ∧
      (∃ k, (read_search_bytes limits data budget).2.1 = data.take k) ∧
      ((read_search_bytes limits data budget).2.2 = none →
        (read_search_bytes limits data budget).2.1 = data) := by
  unfold read_search_bytes
  dsimp only
  split
  · exact ⟨rfl, ⟨0, rfl⟩, fun h => by cases h⟩
  · refine ⟨rfl, ⟨_, rfl⟩, fun h => ?_⟩
    split at h
    · split at h <;> cases h
    · next hfits => exact List.take_of_length_le (Nat.le_of_not_lt hfits)

theorem WithinLimits.lines {make : Nat → List Char → TextMatch} {s : Search TextMatch}
    (h : WithinLimits limits s.budget) (number : Nat) (lines : List (List Char)) :
    WithinLimits limits (examine_lines b query max_results make number lines s).1.budget := by
  obtain ⟨-, -, hbudget⟩ | ⟨-, -, hbudget⟩ := examine_lines_found b query max_results make number lines s
  · rw [hbudget]
    exact h
  · rw [hbudget]
    exact h.stop _

/-- The walk of `search_text`. -/
def texts_walk (b : Boundary) (limits : TraversalLimits) (query : String) (max_results : Int) :
    Walk WorkspaceError Place Entry (Search TextMatch) :=
  search_walk b limits (examine_text b limits query max_results)

theorem texts_within_limits (n : Nat) (root : Place) :
    (texts_walk b limits query max_results).Preserves n root
      fun s => WithinLimits limits s.budget where
  scan := fun _ _ _ hs => hs.scan _ _
  examine := @fun k place e s s' leave _ _ _ _ hs hexamine => by
    obtain ⟨-, rfl, -⟩ | ⟨-, rfl, -⟩ | ⟨-, hroom, info, data, opened, read, bounded, -, hopened,
      hread, -, hcases⟩ := examine_text_cases hexamine
    · exact hs
    · exact hs.stop _
    · have hopen : WithinLimits limits opened := hopened ▸ ⟨hs.scanned, hroom, hs.total⟩
      have hafter : WithinLimits limits read.1 := hread ▸ hopen.read data
      obtain ⟨-, rfl, -⟩ | ⟨-, matched, rfl, ⟨-, rfl, -⟩ | ⟨-, rfl, -⟩⟩ := hcases
      · exact WithinLimits.stop_at hafter _
      · exact WithinLimits.lines hafter _ _
      · exact WithinLimits.stop_at (WithinLimits.lines hafter _ _) _
  too_deep := fun _ hs => hs.stop _

theorem texts_bounded (n : Nat) (root : Place) :
    (texts_walk b limits query max_results).Preserves n root (BoundedMatches max_results) where
  scan := fun _ _ _ hs => hs.scan _
  examine := @fun k place e s s' leave _ _ _ hhalted hs hexamine => by
    obtain ⟨-, rfl, -⟩ | ⟨-, rfl, -⟩ | ⟨-, hroom, info, data, opened, read, bounded, -, hopened,
      hread, -, hcases⟩ := examine_text_cases hexamine
    · exact hs
    · exact hs.stop _
    · have hreason : read.1.reason = s.budget.reason := by
        rw [hread, (read_search_bytes_eq limits data opened).1, hopened]
      have hafter : BoundedMatches max_results ({ s with budget := read.1 } : Search TextMatch) :=
        ⟨fun hnone => hs.going (hreason.symm.trans hnone),
          fun hother => hs.stopped fun hscan => hother (hreason.trans hscan)⟩
      have hgoing : read.1.halted = false := by
        rw [Budget.halted_eq_false, hreason]
        exact Budget.halted_eq_false.mp hhalted
      obtain ⟨-, rfl, -⟩ | ⟨-, matched, rfl, ⟨-, rfl, -⟩ | ⟨-, rfl, -⟩⟩ := hcases
      · exact hafter.stop_at _
      · exact hafter.lines hgoing _ _
      · exact (hafter.lines hgoing _ _).stop_at _
  too_deep := fun _ hs => hs.stop _

/-- A match of the lines read from a visible file within a depth.  A read that
    was not cut is the whole file. -/
def ShownText (b : Boundary) (limits : TraversalLimits) (query : String) (depth : Nat)
    (root : Place) (m : TextMatch) : Prop :=
  ∃ n place e info data read bounded, n ≤ depth ∧ VisiblePlace b n root place ∧
    VisibleIn b place e ∧ e.kind ≠ .directory ∧
    open_expected b place.entries e = .ok (info, data) ∧ (∃ k, read = data.take k) ∧
    (bounded = false → read = data) ∧ m ∈ file_matches b limits query place e read bounded

@[simp] theorem Search.stop_at_found {M : Type} (s : Search M) (bounded : Option StopReason) :
    (s.stop_at bounded).found = s.found := by
  cases bounded <;> rfl

theorem texts_shown (n : Nat) (root : Place) :
    (texts_walk b limits query max_results).Preserves n root
      fun s => ∀ m ∈ s.found, ShownText b limits query n root m where
  scan := fun _ _ _ hs => hs
  examine := @fun k place e s s' leave hk hreaches hlisted _ hs hexamine => by
    obtain ⟨-, rfl, -⟩ | ⟨-, rfl, -⟩ | ⟨hfile, hroom, info, data, opened, read, bounded, hopen, -,
      hread, hbounded, hcases⟩ := examine_text_cases hexamine
    · exact hs
    · exact hs
    obtain ⟨-, hbegin, hwhole⟩ := read_search_bytes_eq limits data opened
    rw [← hread] at hbegin hwhole
    have hcut : bounded.isSome = false → read.2.1 = data := fun hnone =>
      hwhole (hbounded ▸ Option.not_isSome_iff_eq_none.mp (by simp [hnone]))
    obtain ⟨-, rfl, -⟩ | ⟨hbinary, matched, hmatched, hdone⟩ := hcases
    · intro m hm
      exact hs m (by simpa using hm)
    -- the loop over the lines appends matches of the read
    have hlines : ∀ m ∈ matched.1.found, ShownText b limits query n root m := by
      have hadded : ∃ added, matched.1.found = s.found ++ added ∧ ∀ m ∈ added,
          m ∈ file_matches b limits query place e read.2.1 bounded.isSome := by
        unfold file_matches
        rw [if_neg (by simp [hbinary]), hmatched]
        obtain ⟨-, hfound, -⟩ | ⟨-, ⟨some_lines, hsome, hfound⟩, -⟩ := examine_lines_found b query
          max_results (text_match b limits place e read.2.1 bounded.isSome) 1
          (PyText.splitlines (decode_text read.2.1).1) { s with budget := read.1 }
        · exact ⟨_, hfound, fun m hm => hm⟩
        · exact ⟨_, hfound, fun m hm => hsome.subset hm⟩
      obtain ⟨added, hfound, hadded⟩ := hadded
      rw [hfound]
      intro m hm
      obtain hm | hm := List.mem_append.mp hm
      · exact hs m hm
      · exact ⟨k, place, e, info, data, read.2.1, bounded.isSome, hk, reaches_visible hreaches,
          listed_visible hlisted, hfile, hopen, hbegin, hcut, hadded m hm⟩
    obtain ⟨-, rfl, -⟩ | ⟨-, rfl, -⟩ := hdone
    · exact hlines
    · rw [Search.stop_at_found]
      exact hlines
  too_deep := fun _ hs => hs

theorem texts_collects :
    (texts_walk b limits query max_results).Collects (full_scan b) (text_matches b limits query)
      Search.found where
  scan := fun h => ⟨scan_full (of_decide_eq_true h), rfl⟩
  examine := @fun place e s s' leave hexamine hdescends => by
    have hnone : s'.budget.reason = none := of_decide_eq_true hdescends
    obtain ⟨hdirectory, rfl, rfl⟩ | ⟨-, rfl, -⟩ | ⟨hfile, hroom, info, data, opened, read, bounded,
      hopen, hopened, hread, hbounded, hcases⟩ := examine_text_cases hexamine
    · exact ⟨hdescends, rfl, by rw [text_matches, if_pos hdirectory, List.append_nil]⟩
    · exact absurd hnone (Budget.stop_reason_ne _ _)
    obtain ⟨hreason, -, hwhole⟩ := read_search_bytes_eq limits data opened
    rw [← hread] at hreason hwhole
    have hown : text_matches b limits query place e =
        file_matches b limits query place e data false := by
      rw [text_matches, if_neg hfile, hopen]
    -- a cut read would have set the reason
    have hnot_cut : ∀ t : Search TextMatch, (t.stop_at bounded).budget.reason = none →
        bounded = none ∧ t.budget.reason = none := by
      intro t ht
      cases bounded with
      | none => exact ⟨rfl, ht⟩
      | some r => exact absurd ht (Budget.stop_reason_ne _ _)
    obtain ⟨hbinary, rfl, rfl⟩ | ⟨hbinary, matched, hmatched, hdone⟩ := hcases
    · obtain ⟨hbounded_none, hread_none⟩ := hnot_cut _ hnone
      have hdata := hwhole (hbounded ▸ hbounded_none)
      refine ⟨decide_eq_true ?_, rfl, ?_⟩
      · rw [← hread_none, hreason, hopened]
      · rw [Search.stop_at_found, hown, file_matches, if_pos (hdata ▸ hbinary), List.append_nil]
    · obtain ⟨hgoing, hfound, hbudget⟩ | ⟨-, -, hbudget⟩ := examine_lines_found b query max_results
        (text_match b limits place e read.2.1 bounded.isSome) 1
        (PyText.splitlines (decode_text read.2.1).1) { s with budget := read.1 }
      · rw [← hmatched] at hgoing hfound hbudget
        obtain ⟨hflag, -, -⟩ | ⟨-, rfl, rfl⟩ := hdone
        · rw [hflag] at hgoing
          cases hgoing
        · obtain ⟨rfl, hmatched_none⟩ := hnot_cut _ hnone
          have hdata := hwhole hbounded.symm
          refine ⟨decide_eq_true ?_, rfl, ?_⟩
          · rw [← hmatched_none, hbudget, hreason, hopened]
          · rw [Search.stop_at_found, hfound, hown, file_matches, if_neg (by simp [← hdata, hbinary]),
              hdata]
            rfl
      · rw [← hmatched] at hbudget
        obtain ⟨-, rfl, -⟩ | ⟨-, rfl, -⟩ := hdone
        · rw [hbudget] at hnone
          exact absurd hnone (Budget.stop_reason_ne _ _)
        · have hmatched_none := (hnot_cut _ hnone).2
          rw [hbudget] at hmatched_none
          exact absurd hmatched_none (Budget.stop_reason_ne _ _)
  goes_on := fun hdescends => Budget.halted_eq_false.mpr (Or.inl (of_decide_eq_true hdescends))
  too_deep := fun s => decide_eq_false (Budget.stop_reason_ne _ _)

end

end Workspace
