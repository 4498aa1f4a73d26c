import FirstAgent.Workspace.Names

/-! # The Places of a Tree

    A directory that a search opens lies in the tree under its path.  Paths of
    legal names begin with one entry each, so that a walk collects each of its
    items once. -/

open Fallible

namespace Workspace

/-! ### Places of a tree -/

/-- An opened directory of a tree. -/
structure Within (tree : Tree) (place : Place) : Prop where
  at_path : directory_at place.parts tree.entries = some place.entries
  legal : ∀ part ∈ place.parts, LegalName part

section
variable {b : Boundary} {tree : Tree}

theorem directory_at_append {parts more : List String} {entries found : Entries}
    (h : directory_at parts entries = some found) :
    directory_at (parts ++ more) entries = directory_at more found := by
  induction parts generalizing entries with
  | nil =>
    obtain rfl := Option.some.inj h
    rfl
  | cons part parts ih =>
    rw [List.cons_append, directory_at]
    rw [directory_at] at h
    split at h
    · exact ih h
    · cases h

theorem open_parts_at {parts : List String} {entries found : Entries}
    (h : parts.foldlM (fun entries part => open_part part entries) entries = .ok found) :
    directory_at parts entries = some found := by
  induction parts generalizing entries with
  | nil =>
    obtain rfl := pure_eq_ok.mp h
    rfl
  | cons part parts ih =>
    rw [List.foldlM_cons] at h
    obtain ⟨below, hpart, hrest⟩ := bind_eq_ok.mp h
    unfold open_part at hpart
    split at hpart
    · cases hpart
    · next hfind =>
      obtain rfl := ok_eq_ok.mp hpart
      rw [directory_at, hfind]
      exact ih hrest
    · cases hpart

theorem open_directory_at {parts : List String} {found : Entries}
    (h : open_directory_parts b tree.root parts = .ok found) :
    directory_at parts tree.entries = some found := by
  unfold open_directory_parts Tree.root at h
  split at h
  · next heq =>
    obtain ⟨-, -, -, rfl⟩ := Node.directory.inj heq
    split at h
    · exact open_parts_at h
    · cases h
  · cases h

theorem Within.tidy {place : Place} (h : Within tree place) : Tidy place.entries := by
  intro parts found hfound
  refine tree.tidy (place.parts ++ parts) found ?_
  rw [directory_at_append h.at_path]
  exact hfound

/-- A directory that was entered. -/
theorem enter_place_eq_ok {place child : Place} {e : Entry}
    (h : enter_place place e = .ok child) :
    child.parts = place.parts ++ [e.name] ∧ ∃ info stat_ok,
      find_entry e.name place.entries = some (.directory info stat_ok true child.entries) ∧
      info.identity = e.info.identity := by
  obtain ⟨children, hopen, h⟩ := bind_eq_ok.mp h
  obtain rfl := pure_eq_ok.mp h
  refine ⟨rfl, ?_⟩
  unfold open_directory_entry at hopen
  split at hopen
  · next info stat_ok found hfind =>
    obtain ⟨_, hidentity, hfound⟩ := bind_eq_ok.mp hopen
    obtain rfl := pure_eq_ok.mp hfound
    exact ⟨info, stat_ok, hfind, not_not.mp (refuse_eq_ok.mp hidentity)⟩
  · cases hopen

theorem Within.enter {place child : Place} {e : Entry} (h : Within tree place)
    (henter : enter_place place e = .ok child) : Within tree child := by
  obtain ⟨hparts, info, stat_ok, hfind, -⟩ := enter_place_eq_ok henter
  refine ⟨?_, ?_⟩
  · rw [hparts, directory_at_append h.at_path, directory_at, hfind]
    rfl
  · rw [hparts]
    intro part hpart
    obtain hpart | hpart := List.mem_append.mp hpart
    · exact h.legal part hpart
    · obtain rfl := List.mem_singleton.mp hpart
      exact h.tidy.legal _ (find_entry_mem hfind)

theorem Within.visible {n : Nat} {place place' : Place} (h : Within tree place)
    (hplace : VisiblePlace b n place place') : Within tree place' := by
  induction hplace with
  | here place => exact h
  | deeper visible directory entered _ ih => exact ih (h.enter entered)

/-- A directory below adds names to the path. -/
theorem visible_place_parts {n : Nat} {place place' : Place}
    (hplace : VisiblePlace b n place place') :
    ∃ more, place'.parts = place.parts ++ more ∧ more.length = n := by
  induction hplace with
  | here place => exact ⟨[], by simp, rfl⟩
  | deeper visible directory entered _ ih =>
    obtain ⟨more, hmore, hlength⟩ := ih
    obtain ⟨hparts, -⟩ := enter_place_eq_ok entered
    exact ⟨_ :: more, by rw [hmore, hparts, List.append_assoc]; rfl, by simp [hlength]⟩

theorem Within.locator_legal {place : Place} {e : Entry} (h : Within tree place)
    (hvisible : VisibleIn b place e) : ∀ part ∈ place.parts ++ [e.name], LegalName part := by
  intro part hpart
  obtain hpart | hpart := List.mem_append.mp hpart
  · exact h.legal part hpart
  · obtain rfl := List.mem_singleton.mp hpart
    obtain ⟨entry, hmem, hentry⟩ := hvisible
    rw [visible_entry_name hentry]
    exact h.tidy.legal entry hmem

/-- The directory a search begins in. -/
theorem search_root_eq_ok {query root_text q : String} {max_results : Int}
    {limits : TraversalLimits} {place : Place}
    (h : search_root b tree.root query root_text max_results limits = .ok (q, place)) :
    1 ≤ max_results ∧ max_results ≤ limits.max_matches ∧
      b.validate_relative root_text true true = .ok place.parts ∧
      open_directory_parts b tree.root place.parts = .ok place.entries := by
  obtain ⟨query', -, h⟩ := bind_eq_ok.mp h
  obtain ⟨_, hbounds, h⟩ := bind_eq_ok.mp h
  obtain ⟨parts, hparts, h⟩ := bind_eq_ok.mp h
  obtain ⟨entries, hentries, h⟩ := bind_eq_ok.mp h
  obtain ⟨rfl, rfl⟩ := Prod.mk.inj (pure_eq_ok.mp h)
  obtain ⟨hlow, hhigh⟩ := not_or.mp (refuse_eq_ok.mp hbounds)
  exact ⟨by omega, by omega, hparts, hentries⟩

theorem Within.start {query root_text q : String} {max_results : Int} {limits : TraversalLimits}
    {place : Place}
    (h : search_root b tree.root query root_text max_results limits = .ok (q, place)) :
    Within tree place := by
  obtain ⟨-, -, hparts, hopen⟩ := search_root_eq_ok h
  exact ⟨open_directory_at hopen, validate_relative_legal hparts⟩

end

/-! ### Each match once -/

section
variable {b : Boundary} {tree : Tree} {limits : TraversalLimits} {M : Type}
variable {examine : Place → Entry → Search M → Except WorkspaceError (Search M × Bool)}

/-- An item whose path begins with an entry of a place. -/
def BeginsWith (path_of : M → String) (place : Place) (e : Entry) (more : List String) (m : M) :
    Prop :=
  path_of m = "/".intercalate (place.parts ++ e.name :: more) ∧
    ∀ part ∈ place.parts ++ e.name :: more, LegalName part

theorem BeginsWith.names {path_of : M → String} {place : Place} {e e' : Entry}
    {more more' : List String} {m : M} (h : BeginsWith path_of place e more m)
    (h' : BeginsWith path_of place e' more' m) : e.name = e'.name ∧ more = more' := by
  have hsame := intercalate_inj (by simp) (by simp) h.2 h'.2 (h.1.symm.trans h'.1)
  exact List.cons.inj (List.append_cancel_left hsame)

/-- What a walk of a place collects begins with its entries. -/
theorem collect_begins {own : Place → Entry → List M} {path_of : M → String}
    (hpath : ∀ place e, ∀ m ∈ own place e, path_of m = locator place e) {n : Nat} {place : Place}
    (hplace : Within tree place) {m : M}
    (hm : m ∈ (search_walk b limits examine).collect (full_scan b) own n place) :
    ∃ e more, BeginsWith path_of place e more m := by
  obtain ⟨place', e, hwithin, he, hm⟩ := Walk.mem_collect hm
  obtain ⟨k, hvisible⟩ := within_visible.mp hwithin
  have hlegal := (hplace.visible hvisible).locator_legal (mem_full_scan.mp he)
  have htext := hpath place' e m hm
  unfold locator at htext
  cases hvisible with
  | here => exact ⟨e, [], htext, hlegal⟩
  | deeper visible directory entered rest =>
    obtain ⟨more, hmore, -⟩ := visible_place_parts rest
    obtain ⟨hparts, -⟩ := enter_place_eq_ok entered
    rw [hparts, List.append_assoc, List.singleton_append] at hmore
    rw [hmore, List.append_assoc, List.cons_append] at hlegal htext
    exact ⟨_, more ++ [e.name], htext, hlegal⟩

theorem full_scan_names {place : Place} (h : Within tree place) :
    (full_scan b place).Pairwise fun x y => x.name ≠ y.name := by
  have hnodup := (admitted_names (b := b) place.parts place.entries).nodup h.tidy.names
  have hperm := (List.perm_insertionSort (fun x y : Entry => x.name ≤ y.name)
    (admitted b place.parts place.entries)).map Entry.name
  exact List.pairwise_map.mp (hperm.nodup_iff.mpr hnodup)

/-- Blocks of items that begin with different entries hold each item once. -/
theorem blocks_nodup (path_of : M → String) {block : Entry → List M} {place : Place}
    (h : Within tree place)
    (hbegin : ∀ e, VisibleIn b place e → ∀ m ∈ block e, ∃ more, BeginsWith path_of place e more m)
    (hblock : ∀ e, VisibleIn b place e → (block e).Nodup) :
    ((full_scan b place).flatMap block).Nodup := by
  refine List.nodup_flatMap.mpr ⟨fun e he => hblock e (mem_full_scan.mp he), ?_⟩
  refine (full_scan_names h).imp_of_mem fun he he' hne => ?_
  intro m hm hm'
  obtain ⟨more, hbegin₁⟩ := hbegin _ (mem_full_scan.mp he) m hm
  obtain ⟨more', hbegin₂⟩ := hbegin _ (mem_full_scan.mp he') m hm'
  exact hne (hbegin₁.names hbegin₂).1

/-- What a walk collects in a tree, each item once, when entries have items of
    their own path only and each once. -/
theorem collect_nodup {own : Place → Entry → List M} {path_of : M → String}
    (hpath : ∀ place e, ∀ m ∈ own place e, path_of m = locator place e)
    (hown : ∀ place e, (own place e).Nodup) (n : Nat) {place : Place} (h : Within tree place) :
    ((search_walk b limits examine).collect (full_scan b) own n place).Nodup := by
  have hbegin : ∀ place, Within tree place → ∀ e, VisibleIn b place e → ∀ m ∈ own place e,
      BeginsWith path_of place e [] m := fun place hplace e hvisible m hm =>
    ⟨hpath place e m hm, hplace.locator_legal hvisible⟩
  induction n generalizing place with
  | zero =>
    exact blocks_nodup path_of h (fun e he m hm => ⟨[], hbegin place h e he m hm⟩)
      fun e _ => hown place e
  | succ n ih =>
    -- the items of a directory below begin with its name and one more
    have hinside : ∀ e child, (search_walk b limits examine).enter place e = .ok child →
        ∀ m ∈ (search_walk b limits examine).collect (full_scan b) own n child,
          ∃ name more, BeginsWith path_of place e (name :: more) m := by
      intro e child henter m hm
      obtain ⟨hparts, -⟩ := enter_place_eq_ok henter
      obtain ⟨e', more, htext, hlegal⟩ := collect_begins hpath (h.enter henter) hm
      rw [hparts, List.append_assoc, List.singleton_append] at htext hlegal
      exact ⟨e'.name, more, htext, hlegal⟩
    refine blocks_nodup path_of h (fun e he m hm => ?_) fun e he => ?_
    · obtain hm | hm := List.mem_append.mp hm
      · exact ⟨[], hbegin place h e he m hm⟩
      · split at hm
        · next child _ henter =>
          obtain ⟨name, more, hmore⟩ := hinside e child henter m hm
          exact ⟨name :: more, hmore⟩
        · cases hm
    · refine (hown place e).append ?_ ?_
      · split
        · next child _ henter => exact ih (h.enter henter)
        · exact List.nodup_nil
      · intro m hm hm'
        split at hm'
        · next child _ henter =>
          obtain ⟨name, more, hmore⟩ := hinside e child henter m hm'
          have hnil := ((hbegin place h e he m hm).names hmore).2
          cases hnil
        · cases hm'

end

end Workspace
