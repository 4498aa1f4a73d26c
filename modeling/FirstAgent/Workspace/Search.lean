import FirstAgent.Workspace.Places

/-! # Workspace Search

    Over a directory tree, a search keeps its budgets and shows visible
    entries only; a search that is not cut has found every match, each once and
    in order, and a search whose scan was not cut does not depend on the order
    of the directories.  A match that is not truncated is the line a later
    read of the file gives (`search_complete_unless_cut`). -/

open Fallible

namespace Workspace

/-! ### Any order of the directories -/

/-- One directory of two trees that differ in their order. -/
structure SamePlace (place place' : Place) : Prop where
  parts : place'.parts = place.parts
  tidy : Tidy place.entries
  tidy' : Tidy place'.entries
  same : SameTree place.entries place'.entries

/-- The scan budget ran out. -/
def Cut {M : Type} (s : Search M) : Prop := s.budget.reason = some .scan_entries

section
variable {b : Boundary} {limits : TraversalLimits} {place place' : Place}

theorem SamePlace.locator (h : SamePlace place place') (e : Entry) :
    locator place' e = locator place e := by
  unfold Workspace.locator
  rw [h.parts]

/-- Entries with one head are equal, or directories of different entries. -/
theorem head_eq {node node' : Node} (h : node'.head = node.head) :
    node' = node ∨ ∃ info stat_ok open_ok children children',
      node = .directory info stat_ok open_ok children ∧
        node' = .directory info stat_ok open_ok children' := by
  cases node with
  | directory info stat_ok open_ok children =>
    obtain ⟨children', rfl⟩ := head_directory h
    exact Or.inr ⟨info, stat_ok, open_ok, children, children', rfl, rfl⟩
  | file info stat_ok open_ok data =>
    left
    cases node' with
    | directory info' stat_ok' open_ok' children' => cases h
    | _ => exact h
  | symlink info =>
    left
    cases node' with
    | directory info' stat_ok' open_ok' children' => cases h
    | _ => exact h
  | special info open_ok =>
    left
    cases node' with
    | directory info' stat_ok' open_ok' children' => cases h
    | _ => exact h

/-- A file opens to the same file in the same tree. -/
theorem open_expected_same {entries entries' : Entries} (h : SameTree entries entries')
    (e : Entry) : open_expected b entries' e = open_expected b entries e := by
  unfold open_expected open_regular
  cases hfind : find_entry e.name entries with
  | none =>
    have hsame := h.here e.name
    rw [hfind] at hsame
    rw [Option.map_eq_none_iff.mp hsame.symm]
  | some node =>
    obtain ⟨node', hfind', hhead⟩ := h.find hfind
    rw [hfind']
    obtain rfl | ⟨info, stat_ok, open_ok, children, children', rfl, rfl⟩ := head_eq hhead
    · rfl
    · rfl

/-- The same entry opens to the same directory. -/
theorem SamePlace.enter {e : Entry} {child : Place} (h : SamePlace place place')
    (henter : enter_place place e = .ok child) :
    ∃ child', enter_place place' e = .ok child' ∧ SamePlace child child' := by
  obtain ⟨hparts, info, stat_ok, hfind, hidentity⟩ := enter_place_eq_ok henter
  obtain ⟨node', hfind', hhead⟩ := h.same.find hfind
  obtain ⟨children', rfl⟩ := head_directory hhead
  refine ⟨{ parts := place'.parts ++ [e.name], entries := children' }, ?_, ?_⟩
  · refine bind_eq_ok.mpr ⟨children', ?_, rfl⟩
    unfold open_directory_entry
    rw [hfind']
    exact bind_eq_ok.mpr ⟨(), refuse_eq_ok.mpr (not_not.mpr hidentity), rfl⟩
  · exact ⟨by rw [h.parts, hparts], h.tidy.below hfind, h.tidy'.below hfind',
      h.same.below hfind hfind'⟩

theorem SamePlace.scan {M : Type}
    {examine : Place → Entry → Search M → Except WorkspaceError (Search M × Bool)} {s : Search M}
    (h : SamePlace place place') (hs : s.budget.reason = none)
    (hcut : ¬ Cut ((search_walk b limits examine).scan place s).1) :
    (search_walk b limits examine).scan place' s = (search_walk b limits examine).scan place s := by
  obtain ⟨hlist, hbudget⟩ := scan_entries_eq (b := b) limits place.parts place.entries s.budget
  obtain ⟨hlist', hbudget'⟩ := scan_entries_eq (b := b) limits place.parts place'.entries s.budget
  have hlength := length_same h.tidy.names h.tidy'.names h.same
  have hfits : place.entries.length ≤ limits.max_scan_entries - s.budget.scanned_entries := by
    by_contra hlong
    apply hcut
    change (scan_entries b limits place.parts place.entries s.budget).1.reason = _
    rw [hbudget, if_neg hlong, Budget.stop_reason]
    change some (s.budget.reason.getD _) = _
    rw [hs]
    rfl
  have hfull := full_scan_same (b := b) h.parts.symm h.tidy.names h.tidy'.names h.same
  unfold full_scan at hfull
  rw [if_pos hfits] at hbudget
  rw [← hlength, if_pos hfits] at hbudget'
  rw [List.take_of_length_le hfits] at hlist
  rw [List.take_of_length_le (hlength ▸ hfits)] at hlist'
  change (({ s with budget := (scan_entries b limits place'.parts place'.entries s.budget).1 } :
      Search M), sort_entries (scan_entries b limits place'.parts place'.entries s.budget).2) =
    (({ s with budget := (scan_entries b limits place.parts place.entries s.budget).1 } :
      Search M), sort_entries (scan_entries b limits place.parts place.entries s.budget).2)
  rw [h.parts] at hfull ⊢
  rw [hbudget, hbudget', hlist, hlist', hfull]

/-- A scan stays cut. -/
theorem Cut.stop {M : Type} {s : Search M} (h : Cut s) (reason : StopReason) :
    Cut (s.stop reason) := Budget.stop_reason_some h

theorem Cut.stop_at {M : Type} {s : Search M} (h : Cut s) (bounded : Option StopReason) :
    Cut (s.stop_at bounded) := by
  cases bounded with
  | none        => exact h
  | some reason => exact h.stop reason

theorem Cut.scan {M : Type}
    {examine : Place → Entry → Search M → Except WorkspaceError (Search M × Bool)} {s : Search M}
    (h : Cut s) : Cut ((search_walk b limits examine).scan place s).1 := by
  obtain ⟨-, hsame | hset⟩ := scan_keeps b limits examine place s
  · exact hsame.trans h
  · unfold Cut at h ⊢
    rw [hset, h]
    rfl

theorem Cut.append {M : Type} {s : Search M} {m : M} {max_results : Int} (h : Cut s) :
    Cut (s.append max_results m).1 := by
  unfold Cut at h ⊢
  obtain ⟨-, -, hbudget⟩ | ⟨-, -, hbudget⟩ := append_budget max_results s m
  · rw [hbudget]
    exact Budget.stop_reason_some h
  · rw [hbudget]
    exact h

theorem paths_agree (query : String) (max_results : Int) :
    (paths_walk b limits query max_results).Agrees SamePlace Cut where
  scan := fun hplace hdescends hcut => hplace.scan (of_decide_eq_true hdescends) hcut
  examine := @fun place place' s e hplace => by
    change examine_path b query max_results place' e s = examine_path b query max_results place e s
    unfold examine_path path_match
    rw [hplace.locator]
  enter := fun hplace henter => hplace.enter henter
  scan_cut := fun hs => hs.scan
  examine_cut := fun hexamine hs => by
    obtain ⟨-, rfl, -⟩ | ⟨-, rfl, -⟩ := examine_path_cases hexamine
    · exact hs
    · exact hs.append
  too_deep_cut := fun hs => hs.stop _

theorem texts_agree (query : String) (max_results : Int) :
    (texts_walk b limits query max_results).Agrees SamePlace Cut where
  scan := fun hplace hdescends hcut => hplace.scan (of_decide_eq_true hdescends) hcut
  examine := @fun place place' s e hplace => by
    change examine_text b limits query max_results place' e s =
      examine_text b limits query max_results place e s
    have hmatch : text_match b limits place' e = text_match b limits place e := by
      unfold text_match
      rw [hplace.locator]
    unfold examine_text
    rw [open_expected_same hplace.same, hmatch]
  enter := fun hplace henter => hplace.enter henter
  scan_cut := fun hs => hs.scan
  examine_cut := @fun place e s s' leave hexamine hs => by
    obtain ⟨-, rfl, -⟩ | ⟨-, rfl, -⟩ | ⟨-, -, info, data, opened, read, bounded, -, hopened, hread,
      -, hcases⟩ := examine_text_cases hexamine
    · exact hs
    · exact hs.stop _
    have hafter : Cut ({ s with budget := read.1 } : Search TextMatch) := by
      unfold Cut at hs ⊢
      dsimp only
      rw [hread, (read_search_bytes_eq limits data opened).1, hopened]
      exact hs
    have hlines : ∀ make lines, Cut (examine_lines b query max_results make 1 lines
        ({ s with budget := read.1 } : Search TextMatch)).1 := by
      intro make lines
      obtain ⟨-, -, hbudget⟩ | ⟨-, -, hbudget⟩ := examine_lines_found b query max_results make 1
        lines { s with budget := read.1 }
      · unfold Cut
        rw [hbudget]
        exact hafter
      · unfold Cut
        rw [hbudget]
        exact Budget.stop_reason_some hafter
    obtain ⟨-, rfl, -⟩ | ⟨-, matched, rfl, ⟨-, rfl, -⟩ | ⟨-, rfl, -⟩⟩ := hcases
    · exact hafter.stop_at _
    · exact hlines _ _
    · exact Cut.stop_at (hlines _ _) _
  too_deep_cut := fun hs => hs.stop _

end

/-- Directories of one path in the same tree. -/
theorem open_parts_same {parts : List String} {entries entries' found : Entries}
    (h : SameTree entries entries')
    (hopen : parts.foldlM (fun entries part => open_part part entries) entries = .ok found) :
    ∃ found', parts.foldlM (fun entries part => open_part part entries) entries' = .ok found' ∧
      SameTree found found' := by
  induction parts generalizing entries entries' with
  | nil =>
    obtain rfl := pure_eq_ok.mp hopen
    exact ⟨entries', rfl, h⟩
  | cons part parts ih =>
    rw [List.foldlM_cons] at hopen ⊢
    obtain ⟨below, hpart, hrest⟩ := bind_eq_ok.mp hopen
    unfold open_part at hpart
    split at hpart
    · cases hpart
    · next info stat_ok children hfind =>
      obtain rfl := ok_eq_ok.mp hpart
      obtain ⟨node', hfind', hhead⟩ := h.find hfind
      obtain ⟨children', rfl⟩ := head_directory hhead
      obtain ⟨found', hfound', hsame⟩ := ih (h.below hfind hfind') hrest
      refine ⟨found', bind_eq_ok.mpr ⟨children', ?_, hfound'⟩, hsame⟩
      unfold open_part
      rw [hfind']
    · cases hpart

/-- A search of the reordered tree begins in the same place. -/
theorem search_root_same {b : Boundary} {tree tree' : Tree} {query root_text q : String}
    {max_results : Int} {limits : TraversalLimits} {place : Place} (h : tree.Reordered tree')
    (hroot : search_root b tree.root query root_text max_results limits = .ok (q, place)) :
    ∃ place', search_root b tree'.root query root_text max_results limits = .ok (q, place') ∧
      SamePlace place place' := by
  have hwithin := Within.start hroot
  have hroot' := hroot
  obtain ⟨query', hquery, hroot'⟩ := bind_eq_ok.mp hroot'
  obtain ⟨_, hbounds, hroot'⟩ := bind_eq_ok.mp hroot'
  obtain ⟨parts, hparts, hroot'⟩ := bind_eq_ok.mp hroot'
  obtain ⟨entries, hopen, hroot'⟩ := bind_eq_ok.mp hroot'
  obtain ⟨rfl, rfl⟩ := Prod.mk.inj (pure_eq_ok.mp hroot')
  have hopened : ∃ entries', open_directory_parts b tree'.root parts = .ok entries' ∧
      SameTree entries entries' := by
    unfold open_directory_parts Tree.root at hopen ⊢
    rw [← h.open_ok, ← h.info]
    cases htree : tree.open_ok with
    | false =>
      rw [htree] at hopen
      cases hopen
    | true =>
      rw [htree] at hopen
      dsimp only at hopen ⊢
      by_cases hidentity : tree.info.identity = b.root_identity
      · rw [if_pos hidentity] at hopen ⊢
        exact open_parts_same h.entries hopen
      · rw [if_neg hidentity] at hopen
        cases hopen
  obtain ⟨entries', hopen', hsame⟩ := hopened
  have hstart' : search_root b tree'.root query root_text max_results limits =
      .ok (query', { parts, entries := entries' }) :=
    bind_eq_ok.mpr ⟨query', hquery, bind_eq_ok.mpr ⟨(), hbounds, bind_eq_ok.mpr ⟨parts, hparts,
      bind_eq_ok.mpr ⟨entries', hopen', rfl⟩⟩⟩⟩
  exact ⟨_, hstart', rfl, hwithin.tidy, (Within.start hstart').tidy, hsame⟩

/-! ### Lines of a read -/

section
variable {b : Boundary} {limits : TraversalLimits} {query : String}

theorem mem_matching_lines {make : Nat → List Char → TextMatch} {number : Nat}
    {lines : List (List Char)} {m : TextMatch} :
    m ∈ matching_lines b query make number lines ↔
      ∃ (i : Nat) (line : List Char), lines[i]? = some line ∧ line_matches b query line = true ∧
        m = make (number + i) line := by
  induction lines generalizing number with
  | nil => simp [matching_lines]
  | cons line lines ih =>
    rw [matching_lines, List.mem_append, ih]
    constructor
    · rintro (hhere | ⟨i, found, hfound, hmatch, rfl⟩)
      · split at hhere
        · next hmatch =>
          obtain rfl := List.mem_singleton.mp hhere
          exact ⟨0, line, rfl, hmatch, rfl⟩
        · cases hhere
      · exact ⟨i + 1, found, hfound, hmatch, by rw [show number + 1 + i = number + (i + 1) by omega]⟩
    · rintro ⟨i, found, hfound, hmatch, rfl⟩
      cases i with
      | zero =>
        obtain rfl := Option.some.inj hfound
        left
        rw [if_pos hmatch]
        exact List.mem_singleton.mpr rfl
      | succ i =>
        exact Or.inr ⟨i, found, hfound, hmatch,
          by rw [show number + (i + 1) = number + 1 + i by omega]⟩

/-- Lines have their own numbers. -/
theorem matching_lines_nodup {make : Nat → List Char → TextMatch}
    (hline : ∀ number line, (make number line).line = number) (number : Nat)
    (lines : List (List Char)) : (matching_lines b query make number lines).Nodup := by
  induction lines generalizing number with
  | nil => exact List.nodup_nil
  | cons line lines ih =>
    rw [matching_lines]
    refine List.Nodup.append ?_ (ih (number + 1)) ?_
    · split
      · exact List.nodup_singleton _
      · exact List.nodup_nil
    · intro m hm hm'
      split at hm
      · obtain rfl := List.mem_singleton.mp hm
        obtain ⟨i, found, -, -, heq⟩ := mem_matching_lines.mp hm'
        have hnumber := congrArg TextMatch.line heq
        rw [hline, hline] at hnumber
        omega
      · cases hm

/-- A line of a visible file below a place matches the query. -/
def MatchedLine (b : Boundary) (limits : TraversalLimits) (query : String) (root : Place)
    (m : TextMatch) : Prop :=
  ∃ n place e info data, VisiblePlace b n root place ∧ VisibleIn b place e ∧
    e.kind ≠ .directory ∧ open_expected b place.entries e = .ok (info, data) ∧
    is_binary data = false ∧
    ∃ (i : Nat) (line : List Char), (PyText.splitlines (decode_text data).1)[i]? = some line ∧
      line_matches b query line = true ∧ m = text_match b limits place e data false (i + 1) line

theorem mem_file_matches {place : Place} {e : Entry} {data : List UInt8} {bounded : Bool}
    {m : TextMatch} :
    m ∈ file_matches b limits query place e data bounded ↔ is_binary data = false ∧
      ∃ (i : Nat) (line : List Char), (PyText.splitlines (decode_text data).1)[i]? = some line ∧
        line_matches b query line = true ∧
        m = text_match b limits place e data bounded (i + 1) line := by
  unfold file_matches
  cases hbinary : is_binary data with
  | true => simp
  | false =>
    rw [if_neg (by simp), mem_matching_lines]
    simp only [Nat.add_comm 1, true_and]

theorem matched_line_iff {root : Place} {m : TextMatch} :
    MatchedLine b limits query root m ↔ ∃ place e, (∃ n, VisiblePlace b n root place) ∧
      VisibleIn b place e ∧ m ∈ text_matches b limits query place e := by
  constructor
  · rintro ⟨n, place, e, info, data, hplace, hvisible, hfile, hopen, hbinary, hline⟩
    refine ⟨place, e, ⟨n, hplace⟩, hvisible, ?_⟩
    rw [text_matches, if_neg hfile, hopen]
    exact mem_file_matches.mpr ⟨hbinary, hline⟩
  · rintro ⟨place, e, ⟨n, hplace⟩, hvisible, hm⟩
    unfold text_matches at hm
    split at hm
    · cases hm
    · next hfile =>
      split at hm
      · next info data hopen =>
        obtain ⟨hbinary, hline⟩ := mem_file_matches.mp hm
        exact ⟨n, place, e, info, data, hplace, hvisible, hfile, hopen, hbinary, hline⟩
      · cases hm

theorem text_matches_path {place : Place} {e : Entry} {m : TextMatch}
    (h : m ∈ text_matches b limits query place e) : m.path = locator place e := by
  unfold text_matches at h
  split at h
  · cases h
  · split at h
    · obtain ⟨-, i, line, -, -, rfl⟩ := mem_file_matches.mp h
      rfl
    · cases h

theorem text_matches_nodup (place : Place) (e : Entry) :
    (text_matches b limits query place e).Nodup := by
  unfold text_matches
  split
  · exact List.nodup_nil
  · split
    · unfold file_matches
      split
      · exact List.nodup_nil
      · exact matching_lines_nodup (fun number line => rfl) 1 _
    · exact List.nodup_nil

theorem path_matches_path {place : Place} {e : Entry} {m : PathMatch}
    (h : m ∈ path_matches b query place e) : m.path = locator place e := by
  unfold path_matches at h
  split at h
  · obtain rfl := List.mem_singleton.mp h
    rfl
  · cases h

theorem path_matches_nodup (place : Place) (e : Entry) :
    (path_matches b query place e).Nodup := by
  unfold path_matches
  split
  · exact List.nodup_singleton _
  · exact List.nodup_nil

end

/-! ### The order of the matches -/

theorem text_le_total (x y : TextMatch) : text_le x y ∨ text_le y x := by
  unfold text_le
  obtain h | h | h := lt_trichotomy x.path y.path
  · exact Or.inl (Or.inl h)
  · obtain hl | hl | hl := Nat.lt_trichotomy x.line y.line
    · exact Or.inl (Or.inr ⟨h, Or.inl hl⟩)
    · obtain hs | hs := le_total x.snippet y.snippet
      · exact Or.inl (Or.inr ⟨h, Or.inr ⟨hl, hs⟩⟩)
      · exact Or.inr (Or.inr ⟨h.symm, Or.inr ⟨hl.symm, hs⟩⟩)
    · exact Or.inr (Or.inr ⟨h.symm, Or.inl hl⟩)
  · exact Or.inr (Or.inl h)

theorem text_le_trans {x y z : TextMatch} (hxy : text_le x y) (hyz : text_le y z) :
    text_le x z := by
  unfold text_le at *
  obtain hp | ⟨hp, hrest⟩ := hxy
  · obtain hq | ⟨hq, -⟩ := hyz
    · exact Or.inl (lt_trans hp hq)
    · exact Or.inl (hq ▸ hp)
  · obtain hq | ⟨hq, hrest'⟩ := hyz
    · exact Or.inl (hp ▸ hq)
    · refine Or.inr ⟨hp.trans hq, ?_⟩
      obtain hl | ⟨hl, hs⟩ := hrest
      · obtain hl' | ⟨hl', -⟩ := hrest'
        · exact Or.inl (Nat.lt_trans hl hl')
        · exact Or.inl (hl' ▸ hl)
      · obtain hl' | ⟨hl', hs'⟩ := hrest'
        · exact Or.inl (hl ▸ hl')
        · exact Or.inr ⟨hl.trans hl', le_trans hs hs'⟩

theorem sort_texts_pairwise (found : List TextMatch) : (sort_texts found).Pairwise text_le := by
  have : Std.Total text_le := ⟨text_le_total⟩
  have : IsTrans TextMatch text_le := ⟨fun _ _ _ => text_le_trans⟩
  exact List.pairwise_insertionSort _ found

theorem sort_paths_pairwise (found : List PathMatch) :
    (sort_paths found).Pairwise fun x y => x.path ≤ y.path :=
  pairwise_insertionSort_key PathMatch.path found

/-! ### Reading a match -/

section
variable {b : Boundary} {tree : Tree} {limits : TraversalLimits} {query : String}

theorem open_parts_append {parts more : List String} {entries found : Entries}
    (h : parts.foldlM (fun entries part => open_part part entries) entries = .ok found) :
    (parts ++ more).foldlM (fun entries part => open_part part entries) entries =
      more.foldlM (fun entries part => open_part part entries) found := by
  rw [List.foldlM_append, h]
  rfl

theorem open_directory_append {root : Node} {parts more : List String} {found : Entries}
    (h : open_directory_parts b root parts = .ok found) :
    open_directory_parts b root (parts ++ more) =
      more.foldlM (fun entries part => open_part part entries) found := by
  unfold open_directory_parts at h ⊢
  split at h
  · split at h
    · next hidentity =>
      rw [if_pos hidentity]
      exact open_parts_append h
    · cases h
  · cases h

/-- A place reached from an opened directory is opened by its path. -/
theorem visible_place_opens {root : Node} {n : Nat} {place place' : Place}
    (hplace : VisiblePlace b n place place')
    (h : open_directory_parts b root place.parts = .ok place.entries) :
    open_directory_parts b root place'.parts = .ok place'.entries := by
  induction hplace with
  | here place => exact h
  | deeper visible directory entered _ ih =>
    refine ih ?_
    obtain ⟨hparts, info, stat_ok, hfind, -⟩ := enter_place_eq_ok entered
    rw [hparts, open_directory_append h, List.foldlM_cons]
    refine bind_eq_ok.mpr ⟨_, ?_, rfl⟩
    unfold open_part
    rw [hfind]

theorem open_expected_regular {entries : Entries} {e : Entry} {info : Stat} {data : List UInt8}
    (h : open_expected b entries e = .ok (info, data)) :
    open_regular b entries e.name = .ok (info, data) := by
  obtain ⟨node, -, h⟩ := bind_eq_ok.mp h
  obtain ⟨_, -, h⟩ := bind_eq_ok.mp h
  exact h

/-- The file a match names is the file that was searched. -/
theorem target_file_of_locator {place : Place} {e : Entry} {info info' : Stat}
    {data data' : List UInt8} (hwithin : Within tree place) (hvisible : VisibleIn b place e)
    (hplace : open_directory_parts b tree.root place.parts = .ok place.entries)
    (hopen : open_expected b place.entries e = .ok (info, data))
    (htarget : target_file b tree.root (locator place e) = .ok (info', data')) : data' = data := by
  obtain ⟨parts, entries, name, hparts, hparent, hread⟩ := target_file_eq_ok.mp htarget
  obtain ⟨-, -, htext, -⟩ := b.validate_relative_eq_ok.mp hparts
  rw [locator, of_text_intercalate (by simp) (hwithin.locator_legal hvisible)] at htext
  dsimp only at htext
  rw [map_ofList_toList] at htext
  subst htext
  obtain ⟨entries', hentries, h⟩ := bind_eq_ok.mp hparent
  obtain ⟨rfl, rfl⟩ := Prod.mk.inj (pure_eq_ok.mp h)
  rw [List.dropLast_concat] at hentries
  obtain rfl := ok_eq_ok.mp (hplace.symm.trans hentries)
  rw [List.getLast?_concat, Option.getD_some, open_expected_regular hopen] at hread
  exact (Prod.mk.inj (ok_eq_ok.mp hread)).2.symm

/-- A match that is not truncated is the line a read of the file gives. -/
theorem shown_text_reads {depth : Nat} {root : Place} {m : TextMatch} (hwithin : Within tree root)
    (hroot : open_directory_parts b tree.root root.parts = .ok root.entries)
    (hm : ShownText b limits query depth root m) (hwhole : m.truncated = false)
    {max_bytes max_line_cap : Int} {chunk : FileChunk}
    (hchunk : read_file_chunk b tree.root m.path m.line 1 max_bytes max_line_cap = .ok chunk) :
    ∃ ending, PyText.LineEnd ending ∧ chunk.content = m.snippet.toList ++ ending := by
  obtain ⟨n, place, e, info, data, read, bounded, -, hplace, hvisible, -, hopen, -, hcut, hmatch⟩ :=
    hm
  obtain ⟨-, i, line, hline, -, rfl⟩ := mem_file_matches.mp hmatch
  obtain ⟨hshort, hbounded⟩ := Bool.or_eq_false_iff.mp hwhole
  obtain rfl := hcut hbounded
  obtain ⟨info', data', htarget, hcontent⟩ := read_file_chunk_line hchunk
  obtain rfl := target_file_of_locator (hwithin.visible hplace) hvisible
    (visible_place_opens hplace hroot) hopen htarget
  unfold PyText.splitlines at hline
  rw [List.getElem?_map] at hline
  obtain ⟨l, hl, rfl⟩ := Option.map_eq_some_iff.mp hline
  refine ⟨l.2, (PyText.lines_plain (List.mem_of_getElem? hl)).2, ?_⟩
  have hindex : (((i + 1 : Nat) : Int) - 1).toNat = i := by omega
  have hsnippet : (if l.1.length > limits.max_snippet_chars then
      l.1.take limits.max_snippet_chars else l.1) = l.1 := if_neg (of_decide_eq_false hshort)
  rw [hcontent]
  change (((PyText.lines (decode_text data').1)[(((i + 1 : Nat) : Int) - 1).toNat]?).map
    fun l => l.1 ++ l.2).getD [] = (String.ofList _).toList ++ l.2
  rw [hindex, hl, hsnippet, String.toList_ofList]
  rfl

end

/-! ### Trees that open -/

/-- A file or a directory that refuses to be opened. -/
def refuses_open : Node → Bool
  | .file _ _ open_ok _      => !open_ok
  | .directory _ _ open_ok _ => !open_ok
  | .symlink _               => false
  | .special _ _             => false

/-- Every file and every directory of the tree opens. -/
def AllOpen (tree : Tree) : Prop :=
  ∀ parts found, directory_at parts tree.entries = some found →
    ∀ entry ∈ found, refuses_open entry.2 = false

section
variable {b : Boundary} {tree : Tree} {limits : TraversalLimits}

/-- What the node of a visible entry is. -/
theorem visible_entry_eq_some {parts : List String} {name : String} {node : Node} {e : Entry}
    (h : visible_entry b parts (name, node) = some e) :
    e.name = name ∧ e.info = node.info ∧ e.info.identity ∉ b.protected_identities ∧
      b.is_sensitive (parts ++ [name]) true = false ∧
      ((e.kind = .file ∧ b.is_sensitive (parts ++ [name]) false = false ∧ e.info.nlink = 1 ∧
          ∃ open_ok data, node = .file e.info true open_ok data) ∨
        (e.kind = .directory ∧ ∃ open_ok children, node = .directory e.info true open_ok children)) := by
  unfold visible_entry at h
  dsimp only at h
  by_cases hsensitive : b.is_sensitive (parts ++ [name]) true = true
  · rw [if_pos hsensitive] at h
    cases h
  rw [if_neg hsensitive] at h
  have hallowed : b.is_sensitive (parts ++ [name]) true = false := by simpa using hsensitive
  -- a link or a special file is never shown
  cases node with
  | symlink info => cases h
  | special info open_ok => cases h
  | file info stat_ok open_ok data =>
    dsimp only at h
    cases stat_ok with
    | false => cases h
    | true =>
      rw [if_neg (by simp)] at h
      split at h
      · cases h
      · next hplain =>
        split at h
        · cases h
        · next hlink =>
          split at h
          · cases h
          · next hidentity =>
            obtain rfl := Option.some.inj h
            exact ⟨rfl, rfl, hidentity, hallowed,
              Or.inl ⟨rfl, by simpa using hplain, not_not.mp hlink, open_ok, data, rfl⟩⟩
  | directory info stat_ok open_ok children =>
    dsimp only at h
    cases stat_ok with
    | false => cases h
    | true =>
      rw [if_neg (by simp)] at h
      split at h
      · cases h
      · next hidentity =>
        obtain rfl := Option.some.inj h
        exact ⟨rfl, rfl, hidentity, hallowed, Or.inr ⟨rfl, open_ok, children, rfl⟩⟩

/-- In a tree that opens, a visible directory is entered. -/
theorem AllOpen.enter {place : Place} {e : Entry} (h : AllOpen tree) (hplace : Within tree place)
    (hvisible : VisibleIn b place e) (hdirectory : e.kind = .directory) :
    ∃ child, enter_place place e = .ok child := by
  obtain ⟨⟨name, node⟩, hmem, hentry⟩ := hvisible
  obtain ⟨rfl, -, -, -, ⟨hfile, -⟩ | ⟨-, open_ok, children, rfl⟩⟩ := visible_entry_eq_some hentry
  · rw [hfile] at hdirectory
    cases hdirectory
  · have hopen := h place.parts place.entries hplace.at_path _ hmem
    obtain rfl : open_ok = true := by simpa [refuses_open] using hopen
    have hfind := find_entry_of_mem hplace.tidy.names hmem
    refine ⟨{ parts := place.parts ++ [e.name], entries := children }, ?_⟩
    refine bind_eq_ok.mpr ⟨children, ?_, rfl⟩
    unfold open_directory_entry
    rw [hfind]
    exact bind_eq_ok.mpr ⟨(), refuse_eq_ok.mpr fun hne => hne rfl, rfl⟩

/-- In a tree that opens, a visible file opens. -/
theorem AllOpen.read {place : Place} {e : Entry} (h : AllOpen tree) (hplace : Within tree place)
    (hvisible : VisibleIn b place e) (hfile : e.kind ≠ .directory) :
    ∃ info data, open_expected b place.entries e = .ok (info, data) := by
  obtain ⟨⟨name, node⟩, hmem, hentry⟩ := hvisible
  obtain ⟨rfl, -, hidentity, -, ⟨-, -, hlink, open_ok, data, rfl⟩ | ⟨hdirectory, -⟩⟩ :=
    visible_entry_eq_some hentry
  · have hopen := h place.parts place.entries hplace.at_path _ hmem
    obtain rfl : open_ok = true := by simpa [refuses_open] using hopen
    have hfind := find_entry_of_mem hplace.tidy.names hmem
    refine ⟨e.info, data, ?_⟩
    unfold open_expected open_regular
    rw [hfind]
    refine bind_eq_ok.mpr ⟨_, rfl, bind_eq_ok.mpr ⟨(), refuse_eq_ok.mpr fun hne => hne.2 rfl, ?_⟩⟩
    refine bind_eq_ok.mpr ⟨_, rfl, bind_eq_ok.mpr ⟨(), refuse_eq_ok.mpr (by simp), ?_⟩⟩
    refine bind_eq_ok.mpr ⟨(), refuse_eq_ok.mpr hidentity, ?_⟩
    exact bind_eq_ok.mpr ⟨(), refuse_eq_ok.mpr (not_not.mpr hlink), rfl⟩
  · exact absurd hdirectory hfile

theorem AllOpen.paths (b : Boundary) (limits : TraversalLimits) (query : String)
    (max_results : Int) {place : Place} (h : AllOpen tree)
    (hplace : Within tree place) : (paths_walk b limits query max_results).Opens place where
  examine := @fun k place' e s hreaches hlisted => by
    change ∃ r, examine_path b query max_results place' e s = .ok r
    unfold examine_path
    split
    · exact ⟨_, rfl⟩
    · exact ⟨_, rfl⟩
  enter := fun hreaches hlisted hdirectory =>
    h.enter (hplace.visible (reaches_visible hreaches)) (listed_visible hlisted)
      (of_decide_eq_true hdirectory)

theorem AllOpen.texts (b : Boundary) (limits : TraversalLimits) (query : String)
    (max_results : Int) {place : Place} (h : AllOpen tree)
    (hplace : Within tree place) : (texts_walk b limits query max_results).Opens place where
  examine := @fun k place' e s hreaches hlisted => by
    change ∃ r, examine_text b limits query max_results place' e s = .ok r
    unfold examine_text
    by_cases hdirectory : e.kind = .directory
    · rw [if_pos hdirectory]
      exact ⟨_, rfl⟩
    rw [if_neg hdirectory]
    by_cases hfull : s.budget.opened_files ≥ limits.max_opened_files
    · rw [if_pos hfull]
      exact ⟨_, rfl⟩
    rw [if_neg hfull]
    obtain ⟨info, data, hopen⟩ := h.read (hplace.visible (reaches_visible hreaches))
      (listed_visible hlisted) hdirectory
    rw [hopen]
    dsimp only [bind, Except.bind]
    split
    · exact ⟨_, rfl⟩
    · split
      · exact ⟨_, rfl⟩
      · exact ⟨_, rfl⟩
  enter := fun hreaches hlisted hdirectory =>
    h.enter (hplace.visible (reaches_visible hreaches)) (listed_visible hlisted)
      (of_decide_eq_true hdirectory)

end

/-! ### Search -/

/-- What holds of a result: `shown` of every match, `own` of exactly the
    matches when the search was not cut. -/
structure SoundResult {M : Type} (limits : TraversalLimits) (max_results : Int)
    (shown own : M → Prop) (le : M → M → Prop) (result : WorkspaceSearchResult M) : Prop where
  scanned : result.scanned_entries ≤ limits.max_scan_entries
  opened : result.opened_files ≤ limits.max_opened_files
  total : result.total_bytes ≤ limits.max_total_bytes
  count : result.truncation_reason ≠ some .scan_entries →
    (result.found.length : Int) ≤ max_results
  cut : result.truncated = true ↔ result.truncation_reason ≠ none
  visible : ∀ m ∈ result.found, shown m
  sorted : result.found.Pairwise le
  complete : result.truncated = false →
    result.found.Nodup ∧ ∀ m, m ∈ result.found ↔ own m

section
variable {b : Boundary} {tree : Tree} {query root_text : String} {max_results : Int}
variable {limits : TraversalLimits}

theorem start_within_limits {M : Type} : WithinLimits limits (Search.start (M := M)).budget :=
  ⟨Nat.zero_le _, Nat.zero_le _, Nat.zero_le _⟩

theorem start_bounded {M : Type} (h : 1 ≤ max_results) :
    BoundedMatches max_results (Search.start (M := M)) :=
  ⟨fun _ => by simp [Search.start]; omega, fun _ => by simp [Search.start]; omega⟩

/-- The result of a walk from its facts. -/
theorem sound_result {M : Type} {shown own : M → Prop} {le : M → M → Prop} {s : Search M}
    {show_match : M → String × String × Option Nat} {sorted : List M}
    (hlimits : WithinLimits limits s.budget) (hcount : BoundedMatches max_results s)
    (hshown : ∀ m ∈ s.found, shown m) (hperm : sorted.Perm s.found) (hsorted : sorted.Pairwise le)
    (hown : s.budget.reason = none → s.found.Nodup ∧ ∀ m, m ∈ s.found ↔ own m) :
    SoundResult limits max_results shown own le (search_result b show_match sorted s.budget) where
  scanned := hlimits.scanned
  opened := hlimits.opened
  total := hlimits.total
  count := fun hother => by
    change (sorted.length : Int) ≤ max_results
    rw [hperm.length_eq]
    exact hcount.stopped hother
  cut := by
    change s.budget.reason.isSome = true ↔ s.budget.reason ≠ none
    rw [Option.isSome_iff_ne_none]
  visible := fun m hm => hshown m (hperm.mem_iff.mp hm)
  sorted := hsorted
  complete := fun hwhole => by
    have hnone : s.budget.reason = none := by
      cases hreason : s.budget.reason with
      | none   => rfl
      | some r =>
        change s.budget.reason.isSome = false at hwhole
        rw [hreason] at hwhole
        cases hwhole
    obtain ⟨hnodup, hmem⟩ := hown hnone
    exact ⟨hperm.nodup_iff.mpr hnodup, fun m => hperm.mem_iff.trans (hmem m)⟩

/-- A visible path below a place matches the query. -/
def MatchedPath (b : Boundary) (query : String) (root : Place) (m : PathMatch) : Prop :=
  ∃ n place e, VisiblePlace b n root place ∧ VisibleIn b place e ∧
    PyText.contains (b.casefold (locator place e)) query = true ∧ m = path_match b place e

theorem mem_path_matches {place : Place} {e : Entry} {q : String} {m : PathMatch} :
    m ∈ path_matches b q place e ↔
      PyText.contains (b.casefold (locator place e)) q = true ∧ m = path_match b place e := by
  unfold path_matches
  split
  · next h => simp [h]
  · next h => simp [h]

theorem search_paths_sound {result : WorkspaceSearchResult PathMatch}
    (h : search_paths b tree.root query root_text max_results limits = .ok result) :
    ∃ q place, search_root b tree.root query root_text max_results limits = .ok (q, place) ∧
      SoundResult limits max_results (ShownPath b q limits.max_depth place) (MatchedPath b q place)
        (fun x y => x.path ≤ y.path) result ∧
      ∀ tree', tree.Reordered tree' → result.truncation_reason ≠ some .scan_entries →
        search_paths b tree'.root query root_text max_results limits = .ok result := by
  obtain ⟨⟨q, place⟩, hroot, h⟩ := bind_eq_ok.mp h
  obtain ⟨s, hvisit, h⟩ := bind_eq_ok.mp h
  obtain rfl := pure_eq_ok.mp h
  obtain ⟨hpositive, -, -, -⟩ := search_root_eq_ok hroot
  have hwithin := Within.start hroot
  refine ⟨q, place, hroot, ?_, ?_⟩
  · refine sound_result
      (Walk.visit_preserves (I := fun s => WithinLimits limits s.budget)
        (paths_within_limits limits.max_depth place) start_within_limits hvisit)
      (Walk.visit_preserves (paths_bounded limits.max_depth place) (start_bounded hpositive) hvisit)
      (Walk.visit_preserves (paths_shown limits.max_depth place)
        (fun m hm => absurd hm List.not_mem_nil) hvisit)
      (List.perm_insertionSort _ _) (sort_paths_pairwise _) fun hnone => ?_
    obtain ⟨-, hfound, hmem⟩ := Walk.visit_collects paths_collects hvisit (decide_eq_true hnone)
    rw [show s.found = _ from hfound, Search.start, List.nil_append]
    refine ⟨collect_nodup (fun _ _ _ => path_matches_path) path_matches_nodup limits.max_depth hwithin,
      fun m => (hmem m).trans ?_⟩
    constructor
    · rintro ⟨place', e, hwithin', he, hm⟩
      obtain ⟨n, hvisible⟩ := within_visible.mp hwithin'
      obtain ⟨hcontains, heq⟩ := mem_path_matches.mp hm
      exact ⟨n, place', e, hvisible, mem_full_scan.mp he, hcontains, heq⟩
    · rintro ⟨n, place', e, hvisible, he, hcontains, heq⟩
      exact ⟨place', e, within_visible.mpr ⟨n, hvisible⟩, mem_full_scan.mpr he,
        mem_path_matches.mpr ⟨hcontains, heq⟩⟩
  · intro tree' hsame hother
    obtain ⟨place', hroot', hplace⟩ := search_root_same hsame hroot
    exact bind_eq_ok.mpr ⟨(q, place'), hroot', bind_eq_ok.mpr
      ⟨s, Walk.visit_agrees (paths_agree q max_results) hplace hvisit hother, rfl⟩⟩

theorem search_text_sound {result : WorkspaceSearchResult TextMatch}
    (h : search_text b tree.root query root_text max_results limits = .ok result) :
    ∃ q place, search_root b tree.root query root_text max_results limits = .ok (q, place) ∧
      SoundResult limits max_results (ShownText b limits q limits.max_depth place)
        (MatchedLine b limits q place) text_le result ∧
      (∀ tree', tree.Reordered tree' → result.truncation_reason ≠ some .scan_entries →
        search_text b tree'.root query root_text max_results limits = .ok result) ∧
      ∀ m ∈ result.found, m.truncated = false → ∀ max_bytes max_line_cap chunk,
        read_file_chunk b tree.root m.path m.line 1 max_bytes max_line_cap = .ok chunk →
        ∃ ending, PyText.LineEnd ending ∧ chunk.content = m.snippet.toList ++ ending := by
  obtain ⟨⟨q, place⟩, hroot, h⟩ := bind_eq_ok.mp h
  obtain ⟨s, hvisit, h⟩ := bind_eq_ok.mp h
  obtain rfl := pure_eq_ok.mp h
  obtain ⟨hpositive, -, -, hopen⟩ := search_root_eq_ok hroot
  have hwithin := Within.start hroot
  have hshown := Walk.visit_preserves (texts_shown limits.max_depth place)
    (fun m hm => absurd hm List.not_mem_nil) hvisit
  refine ⟨q, place, hroot, ?_, ?_, ?_⟩
  · refine sound_result
      (Walk.visit_preserves (I := fun s => WithinLimits limits s.budget)
        (texts_within_limits limits.max_depth place) start_within_limits hvisit)
      (Walk.visit_preserves (texts_bounded limits.max_depth place) (start_bounded hpositive) hvisit)
      hshown (List.perm_insertionSort _ _) (sort_texts_pairwise _) fun hnone => ?_
    obtain ⟨-, hfound, hmem⟩ := Walk.visit_collects texts_collects hvisit (decide_eq_true hnone)
    rw [show s.found = _ from hfound, Search.start, List.nil_append]
    refine ⟨collect_nodup (fun _ _ _ => text_matches_path) text_matches_nodup limits.max_depth hwithin,
      fun m => (hmem m).trans ?_⟩
    rw [matched_line_iff]
    constructor
    · rintro ⟨place', e, hwithin', he, hm⟩
      exact ⟨place', e, within_visible.mp hwithin', mem_full_scan.mp he, hm⟩
    · rintro ⟨place', e, hvisible, he, hm⟩
      exact ⟨place', e, within_visible.mpr hvisible, mem_full_scan.mpr he, hm⟩
  · intro tree' hsame hother
    obtain ⟨place', hroot', hplace⟩ := search_root_same hsame hroot
    exact bind_eq_ok.mpr ⟨(q, place'), hroot', bind_eq_ok.mpr
      ⟨s, Walk.visit_agrees (texts_agree q max_results) hplace hvisit hother, rfl⟩⟩
  · intro m hm hwhole max_bytes max_line_cap chunk hchunk
    have hm' : m ∈ s.found := (List.mem_insertionSort _).mp hm
    exact shown_text_reads hwithin hopen (hshown m hm') hwhole hchunk

end

/-- A search is complete unless it says otherwise. -/
theorem search_complete_unless_cut (b : Boundary) (tree : Tree) (query root_text : String)
    (max_results : Int) (limits : TraversalLimits) :
    (∀ result, search_paths b tree.root query root_text max_results limits = .ok result →
      ∃ q place, search_root b tree.root query root_text max_results limits = .ok (q, place) ∧
        SoundResult limits max_results (ShownPath b q limits.max_depth place)
          (MatchedPath b q place) (fun x y => x.path ≤ y.path) result ∧
        ∀ tree', tree.Reordered tree' → result.truncation_reason ≠ some .scan_entries →
          search_paths b tree'.root query root_text max_results limits = .ok result) ∧
    (∀ result, search_text b tree.root query root_text max_results limits = .ok result →
      ∃ q place, search_root b tree.root query root_text max_results limits = .ok (q, place) ∧
        SoundResult limits max_results (ShownText b limits q limits.max_depth place)
          (MatchedLine b limits q place) text_le result ∧
        (∀ tree', tree.Reordered tree' → result.truncation_reason ≠ some .scan_entries →
          search_text b tree'.root query root_text max_results limits = .ok result) ∧
        ∀ m ∈ result.found, m.truncated = false → ∀ max_bytes max_line_cap chunk,
          read_file_chunk b tree.root m.path m.line 1 max_bytes max_line_cap = .ok chunk →
          ∃ ending, PyText.LineEnd ending ∧ chunk.content = m.snippet.toList ++ ending) ∧
    -- with an admitted request and entries that open, neither raises
    (∀ q place, search_root b tree.root query root_text max_results limits = .ok (q, place) →
      AllOpen tree →
      (∃ result, search_paths b tree.root query root_text max_results limits = .ok result) ∧
        ∃ result, search_text b tree.root query root_text max_results limits = .ok result) := by
  refine ⟨fun _ h => search_paths_sound h, fun _ h => search_text_sound h, ?_⟩
  intro q place hroot hopen
  have hwithin := Within.start hroot
  obtain ⟨s, hs⟩ := Walk.visit_succeeds (n := limits.max_depth)
    (AllOpen.paths b limits q max_results hopen hwithin) .start
  obtain ⟨t, ht⟩ := Walk.visit_succeeds (n := limits.max_depth)
    (AllOpen.texts b limits q max_results hopen hwithin) .start
  exact ⟨⟨_, bind_eq_ok.mpr ⟨(q, place), hroot, bind_eq_ok.mpr ⟨s, hs, rfl⟩⟩⟩,
    ⟨_, bind_eq_ok.mpr ⟨(q, place), hroot, bind_eq_ok.mpr ⟨t, ht, rfl⟩⟩⟩⟩

/-! ### Two levels -/

/-- A directory is tidy when its names are and the directories in it. -/
theorem tidy_of {entries : Entries} (hnames : (entries.map Prod.fst).Nodup)
    (hlegal : ∀ entry ∈ entries, LegalName entry.1)
    (hbelow : ∀ name info stat_ok open_ok children,
      (name, Node.directory info stat_ok open_ok children) ∈ entries → Tidy children) :
    Tidy entries := by
  intro parts found hfound
  cases parts with
  | nil =>
    obtain rfl := Option.some.inj hfound
    exact ⟨hnames, hlegal⟩
  | cons part parts =>
    rw [directory_at] at hfound
    split at hfound
    · next hfind => exact hbelow _ _ _ _ _ (find_entry_mem hfind) parts found hfound
    · cases hfound

def small_file (inode : Nat) (data : List UInt8) : Node := .file ⟨1, inode, 1, 0, 0⟩ true true data

/-- A directory with two files, which may refuse to open, next to a file. -/
def two_levels (open_a : Bool) : Tree where
  info := ⟨1, 1, 1, 0, 0⟩
  stat_ok := true
  open_ok := true
  entries :=
    [("a", .directory ⟨1, 2, 1, 0, 0⟩ true open_a [("q1", small_file 3 [113]), ("x", small_file 4 [])]),
      ("q2", small_file 5 [113])]
  tidy := by
    refine tidy_of (by simp) (by simp [LegalName]; decide) ?_
    intro name info stat_ok open_ok children hmem
    simp [small_file] at hmem
    obtain ⟨-, -, -, -, rfl⟩ := hmem
    refine tidy_of (by decide) (by simp [LegalName]; decide) ?_
    intro name info stat_ok open_ok children hmem
    simp at hmem

/-- Room for so many entries. -/
def room_for (max_scan_entries : Nat) (h : 1 ≤ max_scan_entries) : TraversalLimits where
  max_scan_entries
  max_opened_files := 200
  max_total_bytes := 2000000
  max_single_file_bytes := 200000
  max_depth := 12
  max_matches := 16
  max_snippet_chars := 600
  positive := by simpa using h

/-- A blank query and a directory that refuses to open raise, the components of
    the search root are not held to what a scan admits, and once the scan budget
    ran out a search goes on behind `max_results` in the directories above. -/
theorem search_differs :
    (Fallible.succeeds
        (search_paths plain_boundary (two_levels true).root "" "." 1 (room_for 3 (by decide)))
        (fun _ => true) = false ∧
      Fallible.succeeds
        (search_text plain_boundary (two_levels true).root "" "." 1 (room_for 3 (by decide)))
        (fun _ => true) = false ∧
      Fallible.succeeds
        (search_paths plain_boundary (two_levels false).root "q" "." 1 (room_for 3 (by decide)))
        (fun _ => true) = false) ∧
    (∀ entry ∈ (two_levels true).entries, entry.1 = "a" →
        visible_entry { plain_boundary with protected_identities := [(1, 2)] } [] entry = none) ∧
      Fallible.succeeds
        (search_paths { plain_boundary with protected_identities := [(1, 2)] }
          (two_levels true).root "q" "a" 1 (room_for 3 (by decide)))
        (fun result => result.found.length = 1) = true ∧
    Fallible.succeeds
        (search_paths plain_boundary (two_levels true).root "q" "." 1 (room_for 3 (by decide)))
        (fun result => result.found.length = 2) = true ∧
      Fallible.succeeds
        (search_text plain_boundary (two_levels true).root "q" "." 1 (room_for 3 (by decide)))
        (fun result => result.found.length = 2) = true := by
  refine ⟨⟨by decide +kernel, by decide +kernel, by decide +kernel⟩, ?_, by decide +kernel,
    by decide +kernel, by decide +kernel⟩
  intro entry hentry ha
  simp only [two_levels, List.mem_cons, List.not_mem_nil, or_false] at hentry
  obtain rfl | rfl := hentry
  · decide +kernel
  · exact absurd ha (by decide)

/-- With room for all entries both files are found, once. -/
theorem search_two_levels :
    ∃ result, search_paths plain_boundary (two_levels true).root "q" "." 4 (room_for 4 (by decide)) =
        .ok result ∧ result.truncated = false ∧ result.found.length = 2 ∧ result.found.Nodup := by
  have hrun : Fallible.succeeds
      (search_paths plain_boundary (two_levels true).root "q" "." 4 (room_for 4 (by decide)))
      (fun result => result.truncated = false ∧ result.found.length = 2) = true := by
    decide +kernel
  obtain ⟨result, hresult, hfound⟩ := Fallible.succeeds_iff.mp hrun
  obtain ⟨hwhole, hlength⟩ := of_decide_eq_true hfound
  obtain ⟨hpaths, -, -⟩ :=
    search_complete_unless_cut plain_boundary (two_levels true) "q" "." 4 (room_for 4 (by decide))
  obtain ⟨q, place, -, hsound, -⟩ := hpaths result hresult
  exact ⟨result, hresult, hwhole, hlength, (hsound.complete hwhole).1⟩

end Workspace
