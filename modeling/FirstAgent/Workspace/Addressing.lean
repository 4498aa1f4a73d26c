import Mathlib.Data.List.Induction
import FirstAgent.Workspace.Search

/-! # Listing and Addressing

    Discovery judges the entries of a directory (`_visible_entry`), access
    judges the text of a path (`validate_relative`) and the entry it opens.
    Over a tree the two agree on printable paths: what discovery shows can be
    addressed, and what can be addressed is listed from the root
    (`listed_iff_addressed`). -/

open Fallible

namespace Workspace

/-! ### Sensitive paths -/

namespace Boundary

variable {b : Boundary}

/-- An admitted project path stays visible when components are cut. -/
theorem is_project_path_visible_append {parts : List String} (more : List String)
    {allow_ancestor : Bool}
    (h : b.is_project_path_visible (parts ++ more) allow_ancestor = true) :
    b.is_project_path_visible parts true = true := by
  unfold is_project_path_visible at h ⊢
  obtain ⟨admitted, hmem, hvisible⟩ := List.any_eq_true.mp h
  refine List.any_eq_true.mpr ⟨admitted, hmem, ?_⟩
  rw [List.map_append] at hvisible
  simp only [Bool.or_eq_true, Bool.and_eq_true, List.isPrefixOf_iff_prefix, true_and] at hvisible ⊢
  obtain hwhole | ⟨-, habove⟩ := hvisible
  · exact List.prefix_or_prefix_of_prefix hwhole (List.prefix_append _ _)
  · exact Or.inr ((List.prefix_append _ _).trans habove)

/-- What is not sensitive has no sensitive directory above it. -/
theorem is_sensitive_append {parts : List String} (more : List String)
    {allow_project_ancestor : Bool}
    (h : b.is_sensitive (parts ++ more) allow_project_ancestor = false) :
    b.is_sensitive parts true = false := by
  unfold is_sensitive at h ⊢
  rw [Bool.or_eq_false_iff] at h ⊢
  rw [List.any_append, Bool.or_eq_false_iff] at h
  refine ⟨h.1.1, ?_⟩
  cases parts with
  | nil => rfl
  | cons part parts =>
    have hroot := h.2
    rw [List.cons_append] at hroot
    dsimp only at hroot ⊢
    rw [Bool.and_eq_false_iff] at hroot ⊢
    refine hroot.imp id fun hvisible => ?_
    rw [Bool.not_eq_false'] at hvisible ⊢
    exact is_project_path_visible_append more hvisible

theorem is_sensitive_ancestor {parts : List String} {allow_project_ancestor : Bool}
    (h : b.is_sensitive parts allow_project_ancestor = false) : b.is_sensitive parts true = false :=
  is_sensitive_append [] (by rw [List.append_nil]; exact h)

end Boundary

/-! ### Shown names -/

/-- The entry a shown name stands for. -/
def read_display (shown : String) : String × Kind :=
  if PyText.endswith shown "/" then (String.ofList shown.toList.dropLast, .directory)
  else (shown, .file)

theorem read_display_name {e : Entry} (h : LegalName e.name) :
    read_display e.display_name = (e.name, e.kind) := by
  unfold Entry.display_name read_display PyText.endswith
  cases hkind : e.kind with
  | directory =>
    have hend : "/".toList.isSuffixOf (e.name ++ "/").toList = true := by
      rw [List.isSuffixOf_iff_suffix, String.toList_append]
      exact List.suffix_append _ _
    rw [if_pos hend, String.toList_append, show "/".toList = ['/'] from rfl, List.dropLast_concat,
      String.ofList_toList]
  | file =>
    have hend : ¬ "/".toList.isSuffixOf e.name.toList = true := by
      rw [List.isSuffixOf_iff_suffix]
      intro hsuffix
      exact no_slash_of_is_name h (hsuffix.subset (by simp))
    rw [if_neg hend]

/-! ### Listing -/

section
variable {b : Boundary}

theorem mem_listed_names {parts : List String} {room : Int} {entries : Entries} {shown : String}
    (h : shown ∈ (listed_names b parts room entries).1) :
    ∃ e, VisibleIn b { parts, entries } e ∧ shown = e.display_name := by
  induction entries generalizing room with
  | nil => cases h
  | cons entry entries ih =>
    rw [listed_names] at h
    split at h
    · cases h
    · obtain hhere | hrest := List.mem_append.mp h
      · obtain ⟨e, he, rfl⟩ := Option.map_eq_some_iff.mp (Option.mem_toList.mp hhere)
        exact ⟨e, ⟨entry, List.mem_cons_self .., he⟩, rfl⟩
      · obtain ⟨e, ⟨found, hfound, he⟩, hshown⟩ := ih hrest
        exact ⟨e, ⟨found, List.mem_cons_of_mem _ hfound, he⟩, hshown⟩

/-- A scan with room for all entries lists all that are visible. -/
theorem listed_names_full (parts : List String) {room : Int} {entries : Entries}
    (h : (entries.length : Int) ≤ room) :
    (listed_names b parts room entries).1 =
      (admitted b parts entries).map Entry.display_name := by
  induction entries generalizing room with
  | nil => rfl
  | cons entry entries ih =>
    rw [List.length_cons] at h
    rw [listed_names, if_neg (by omega)]
    dsimp only
    rw [ih (by omega)]
    cases hvisible : visible_entry b parts entry <;> simp [admitted, hvisible]

theorem bounded_names_subset {max_output_chars output_chars : Int} {first : Bool}
    {names : List String} {shown : String}
    (h : shown ∈ (bounded_names max_output_chars output_chars first names).1) : shown ∈ names := by
  induction names generalizing output_chars first with
  | nil => cases h
  | cons name names ih =>
    rw [bounded_names] at h
    generalize (name.length : Int) + (if first = true then 0 else 1) = added at h
    by_cases hfull : output_chars + added > max_output_chars
    · rw [if_pos hfull] at h
      cases h
    · rw [if_neg hfull] at h
      obtain rfl | h := List.mem_cons.mp h
      · exact List.mem_cons_self ..
      · exact List.mem_cons_of_mem _ (ih h)

/-- What names take in a listing, at most. -/
def output_size (names : List String) : Nat := (names.map fun name => name.length + 1).sum

theorem bounded_names_full {max_output_chars output_chars : Int} {first : Bool}
    {names : List String} (h : output_chars + output_size names ≤ max_output_chars) :
    (bounded_names max_output_chars output_chars first names).1 = names := by
  induction names generalizing output_chars first with
  | nil => rfl
  | cons name names ih =>
    have hsize : output_size (name :: names) = name.length + 1 + output_size names := by
      simp [output_size]
    rw [hsize] at h
    rw [bounded_names]
    dsimp only
    have hadded : (if first = true then (0 : Int) else 1) ≤ 1 := by split <;> omega
    rw [if_neg (by omega), ih (by omega)]

/-- What a listing shows is visible in the directory it lists. -/
theorem listing_visible {root : Node} {raw_path : String}
    {max_entries max_scan_entries max_output_chars : Int} {listing : DirectoryListing}
    (h : list_entries_bounded b root raw_path max_entries max_scan_entries max_output_chars =
      .ok listing) :
    ∃ parts found, b.validate_relative raw_path true true = .ok parts ∧
      open_directory_parts b root parts = .ok found ∧
      ∀ shown ∈ listing.entries,
        ∃ e, VisibleIn b { parts, entries := found } e ∧ shown = e.display_name := by
  obtain ⟨_, -, h⟩ := bind_eq_ok.mp h
  obtain ⟨_, -, h⟩ := bind_eq_ok.mp h
  obtain ⟨parts, hparts, h⟩ := bind_eq_ok.mp h
  obtain ⟨found, hfound, h⟩ := bind_eq_ok.mp h
  obtain rfl := pure_eq_ok.mp h
  refine ⟨parts, found, hparts, hfound, fun shown hshown => ?_⟩
  have hselected := List.mem_of_mem_take (bounded_names_subset hshown)
  exact mem_listed_names ((List.mem_insertionSort _).mp hselected)

/-- A listing with room for everything shows all that is visible. -/
theorem listing_full {root : Node} {raw_path : String} {parts : List String} {found : Entries}
    (hparts : b.validate_relative raw_path true true = .ok parts)
    (hfound : open_directory_parts b root parts = .ok found) :
    ∃ max_entries max_scan_entries max_output_chars listing,
      list_entries_bounded b root raw_path max_entries max_scan_entries max_output_chars =
        .ok listing ∧
      ∀ e, VisibleIn b { parts, entries := found } e → e.display_name ∈ listing.entries := by
  have hlisted := listed_names_full (b := b) parts
    (show (found.length : Int) ≤ (found.length : Int) + 1 by omega)
  refine ⟨found.length + 1, found.length + 1,
    output_size ((listed_names b parts ((found.length : Int) + 1) found).1.insertionSort (· ≤ ·)) + 1,
    _, bind_eq_ok.mpr ⟨(), refuse_eq_ok.mpr (by omega), bind_eq_ok.mpr ⟨(),
      refuse_eq_ok.mpr (by omega), bind_eq_ok.mpr ⟨parts, hparts, bind_eq_ok.mpr
        ⟨found, hfound, rfl⟩⟩⟩⟩, fun e he => ?_⟩
  dsimp only
  have hadmitted : (admitted b parts found).length ≤ found.length := List.length_filterMap_le _ _
  have hall : ((listed_names b parts ((found.length : Int) + 1) found).1.insertionSort
      (· ≤ ·)).take ((found.length : Int) + 1).toNat =
        (listed_names b parts ((found.length : Int) + 1) found).1.insertionSort (· ≤ ·) := by
    refine List.take_of_length_le ?_
    rw [List.length_insertionSort, hlisted, List.length_map]
    omega
  rw [hall, bounded_names_full (by omega), List.mem_insertionSort, hlisted]
  exact List.mem_map.mpr ⟨e, List.mem_filterMap.mpr he, rfl⟩

end

/-! ### Discovery -/

/-- The components of the text of a path. -/
def path_parts (text : String) : List String :=
  (PurePath.of_text text.toList).parts.map String.ofList

/-- What listing shows, directory by directory from the root. -/
inductive Listed (b : Boundary) (tree : Tree) : List String → Kind → Prop where
  | root {max_entries max_scan_entries max_output_chars : Int} {listing : DirectoryListing}
      {shown : String}
      (list : list_entries_bounded b tree.root "" max_entries max_scan_entries max_output_chars =
        .ok listing)
      (mem : shown ∈ listing.entries) :
      Listed b tree [(read_display shown).1] (read_display shown).2
  | nested {parent : List String} {max_entries max_scan_entries max_output_chars : Int}
      {listing : DirectoryListing} {shown : String} (above : Listed b tree parent .directory)
      (list : list_entries_bounded b tree.root ("/".intercalate parent) max_entries
        max_scan_entries max_output_chars = .ok listing)
      (mem : shown ∈ listing.entries) :
      Listed b tree (parent ++ [(read_display shown).1]) (read_display shown).2

/-- What a discovery operation shows. -/
inductive Discovered (b : Boundary) (tree : Tree) : List String → Kind → Prop where
  | listed {parts : List String} {kind : Kind} (list : Listed b tree parts kind) :
      Discovered b tree parts kind
  | path {query root_text : String} {max_results : Int} {limits : TraversalLimits}
      {result : WorkspaceSearchResult PathMatch} {m : PathMatch}
      (search : search_paths b tree.root query root_text max_results limits = .ok result)
      (mem : m ∈ result.found) : Discovered b tree (path_parts m.path) m.kind
  | text {query root_text : String} {max_results : Int} {limits : TraversalLimits}
      {result : WorkspaceSearchResult TextMatch} {m : TextMatch}
      (search : search_text b tree.root query root_text max_results limits = .ok result)
      (mem : m ∈ result.found) : Discovered b tree (path_parts m.path) .file

/-- A visible entry of a directory that opens under its path. -/
def VisibleAt (b : Boundary) (tree : Tree) (parts : List String) (kind : Kind) : Prop :=
  ∃ place e, Within tree place ∧
    open_directory_parts b tree.root place.parts = .ok place.entries ∧ VisibleIn b place e ∧
    parts = place.parts ++ [e.name] ∧ e.kind = kind

section
variable {b : Boundary} {tree : Tree}

theorem path_parts_intercalate {parts : List String} (hne : parts ≠ [])
    (h : ∀ part ∈ parts, LegalName part) : path_parts ("/".intercalate parts) = parts := by
  rw [path_parts, of_text_intercalate hne h]
  exact map_ofList_toList parts

theorem VisibleAt.legal {parts : List String} {kind : Kind} (h : VisibleAt b tree parts kind) :
    parts ≠ [] ∧ ∀ part ∈ parts, LegalName part := by
  obtain ⟨place, e, hwithin, -, hvisible, rfl, -⟩ := h
  exact ⟨by simp, hwithin.locator_legal hvisible⟩

/-- One listing shows visible entries of the directory it names. -/
theorem listing_visible_at {raw_path shown : String} (parent : List String)
    {max_entries max_scan_entries max_output_chars : Int} {listing : DirectoryListing}
    (hlist : list_entries_bounded b tree.root raw_path max_entries max_scan_entries
      max_output_chars = .ok listing)
    (hparent : path_parts raw_path = parent) (hmem : shown ∈ listing.entries) :
    VisibleAt b tree (parent ++ [(read_display shown).1]) (read_display shown).2 := by
  obtain ⟨parts, found, hparts, hfound, hshown⟩ := listing_visible hlist
  obtain ⟨-, -, htext, -⟩ := b.validate_relative_eq_ok.mp hparts
  obtain rfl : parts = parent := htext.symm.trans hparent
  obtain ⟨e, hvisible, rfl⟩ := hshown shown hmem
  have hwithin : Within tree { parts, entries := found } :=
    ⟨open_directory_at hfound, validate_relative_legal hparts⟩
  have hname : LegalName e.name := by
    obtain ⟨entry, hentry, he⟩ := hvisible
    rw [visible_entry_name he]
    exact hwithin.tidy.legal entry hentry
  rw [read_display_name hname]
  exact ⟨{ parts, entries := found }, e, hwithin, hfound, hvisible, rfl, rfl⟩

theorem Listed.visible {parts : List String} {kind : Kind} (h : Listed b tree parts kind) :
    VisibleAt b tree parts kind := by
  induction h with
  | root list mem => exact listing_visible_at [] list (by decide) mem
  | nested above list mem ih =>
    exact listing_visible_at _ list (path_parts_intercalate ih.legal.1 ih.legal.2) mem

/-- A match of a search stands for a visible entry. -/
theorem shown_visible_at {query root_text q : String} {max_results : Int} {limits : TraversalLimits}
    {root place : Place} {n : Nat} {e : Entry}
    (hroot : search_root b tree.root query root_text max_results limits = .ok (q, root))
    (hplace : VisiblePlace b n root place) (hvisible : VisibleIn b place e) :
    VisibleAt b tree (path_parts (locator place e)) e.kind := by
  obtain ⟨-, -, -, hopen⟩ := search_root_eq_ok hroot
  have hwithin := (Within.start hroot).visible hplace
  refine ⟨place, e, hwithin, visible_place_opens hplace hopen, hvisible, ?_, rfl⟩
  exact path_parts_intercalate (by simp) (hwithin.locator_legal hvisible)

theorem Discovered.visible {parts : List String} {kind : Kind} (h : Discovered b tree parts kind) :
    VisibleAt b tree parts kind := by
  cases h with
  | listed list => exact list.visible
  | path search mem =>
    obtain ⟨q, root, hroot, hsound, -⟩ := search_paths_sound search
    obtain ⟨n, place, e, -, hplace, hvisible, hm⟩ := hsound.visible _ mem
    obtain ⟨-, rfl⟩ := mem_path_matches.mp hm
    exact shown_visible_at hroot hplace hvisible
  | text search mem =>
    obtain ⟨q, root, hroot, hsound, -⟩ := search_text_sound search
    obtain ⟨n, place, e, info, data, read, bounded, -, hplace, hvisible, hfile, -, -, -, hm⟩ :=
      hsound.visible _ mem
    obtain ⟨-, i, line, -, -, rfl⟩ := mem_file_matches.mp hm
    -- a text match is in a file
    have hkind : e.kind = .file := by
      cases hkind : e.kind with
      | file      => rfl
      | directory => exact absurd hkind hfile
    rw [← hkind]
    exact shown_visible_at hroot hplace hvisible

/-! ### From discovery to access -/

/-- The entry under a path. -/
def node_at (tree : Tree) (parts : List String) : Option Node :=
  (directory_at parts.dropLast tree.entries).bind (find_entry (parts.getLast?.getD ""))

theorem node_at_concat {parts : List String} {name : String} {found : Entries}
    (h : directory_at parts tree.entries = some found) :
    node_at tree (parts ++ [name]) = find_entry name found := by
  rw [node_at, List.dropLast_concat, List.getLast?_concat, h]
  rfl

/-- What is visible is no sensitive path and no protected entry; a file has one
    link. -/
structure Admissible (b : Boundary) (tree : Tree) (parts : List String) (kind : Kind) (node : Node) :
    Prop where
  found : node_at tree parts = some node
  plain : b.is_sensitive parts (kind = .directory) = false
  unprotected : node.info.identity ∉ b.protected_identities
  file : kind = .file →
    (∃ open_ok data, node = .file node.info true open_ok data) ∧ node.info.nlink = 1
  directory : kind = .directory →
    ∃ open_ok children, node = .directory node.info true open_ok children

theorem VisibleAt.admissible {parts : List String} {kind : Kind}
    (h : VisibleAt b tree parts kind) : ∃ node, Admissible b tree parts kind node := by
  obtain ⟨place, e, hwithin, -, ⟨⟨name, node⟩, hmem, hentry⟩, rfl, rfl⟩ := h
  obtain ⟨rfl, hinfo, hidentity, hancestor, hkind⟩ := visible_entry_eq_some hentry
  have hnode : node_at tree (place.parts ++ [e.name]) = some node := by
    rw [node_at_concat hwithin.at_path]
    exact find_entry_of_mem hwithin.tidy.names hmem
  obtain ⟨hfile, hplain, hlink, hentry⟩ | ⟨hdirectory, hentry⟩ := hkind
  · refine ⟨node, hnode, by simpa [hfile] using hplain, hinfo ▸ hidentity, fun _ => ?_,
      fun hdirectory => ?_⟩
    · exact ⟨hinfo ▸ hentry, hinfo ▸ hlink⟩
    · rw [hfile] at hdirectory
      cases hdirectory
  · refine ⟨node, hnode, by simpa [hdirectory] using hancestor, hinfo ▸ hidentity, fun hfile => ?_,
      fun _ => hinfo ▸ hentry⟩
    rw [hdirectory] at hfile
    cases hfile

/-- The text of a visible path is accepted when it is printable. -/
theorem VisibleAt.accepted {parts : List String} {kind : Kind} (h : VisibleAt b tree parts kind)
    (hprint : b.isprintable ("/".intercalate parts) = true) (allow_root : Bool) :
    b.validate_relative ("/".intercalate parts) allow_root (kind = .directory) = .ok parts := by
  obtain ⟨hne, hlegal⟩ := h.legal
  obtain ⟨node, hnode⟩ := h.admissible
  refine b.validate_relative_eq_ok.mpr ⟨hprint, ?_, path_parts_intercalate hne hlegal, ?_⟩
  · rw [of_text_intercalate hne hlegal]
    rfl
  · rw [if_neg hne]
    refine ⟨fun hdot => ?_, fun hup => ?_, hnode.plain⟩
    · exact absurd (hlegal _ hdot) (by unfold LegalName; decide)
    · exact absurd (hlegal _ hup) (by unfold LegalName; decide)

/-- A visible file that opens is read under its path. -/
theorem VisibleAt.reads {parts : List String} (h : VisibleAt b tree parts .file)
    (hprint : b.isprintable ("/".intercalate parts) = true) {node : Node}
    (hnode : node_at tree parts = some node) (hopen : refuses_open node = false) :
    ∃ info data, target_file b tree.root ("/".intercalate parts) = .ok (info, data) := by
  have haccepted := h.accepted hprint false
  obtain ⟨node', hadmissible⟩ := h.admissible
  obtain rfl := Option.some.inj (hnode.symm.trans hadmissible.found)
  obtain ⟨⟨open_ok, data, hfile⟩, hlink⟩ := hadmissible.file rfl
  obtain ⟨place, e, hwithin, hplace, -, rfl, -⟩ := h
  rw [node_at_concat hwithin.at_path] at hnode
  rw [hfile] at hopen
  obtain rfl : open_ok = true := by simpa [refuses_open] using hopen
  refine ⟨node.info, data, target_file_eq_ok.mpr ⟨_, place.entries, e.name, haccepted, ?_, ?_⟩⟩
  · unfold open_parent
    rw [List.dropLast_concat, List.getLast?_concat, hplace]
    rfl
  · unfold open_regular
    rw [hnode, hfile]
    refine bind_eq_ok.mpr ⟨_, rfl, bind_eq_ok.mpr ⟨(), refuse_eq_ok.mpr (by simp), ?_⟩⟩
    refine bind_eq_ok.mpr ⟨(), refuse_eq_ok.mpr hadmissible.unprotected, ?_⟩
    exact bind_eq_ok.mpr ⟨(), refuse_eq_ok.mpr (not_not.mpr hlink), rfl⟩

/-- A visible directory that opens is opened under its path. -/
theorem VisibleAt.opens {parts : List String} (h : VisibleAt b tree parts .directory) {node : Node}
    (hnode : node_at tree parts = some node) (hopen : refuses_open node = false) :
    ∃ found, open_directory_parts b tree.root parts = .ok found := by
  obtain ⟨node', hadmissible⟩ := h.admissible
  obtain rfl := Option.some.inj (hnode.symm.trans hadmissible.found)
  obtain ⟨open_ok, children, hdirectory⟩ := hadmissible.directory rfl
  obtain ⟨place, e, hwithin, hplace, -, rfl, -⟩ := h
  rw [node_at_concat hwithin.at_path] at hnode
  rw [hdirectory] at hopen
  obtain rfl : open_ok = true := by simpa [refuses_open] using hopen
  refine ⟨children, ?_⟩
  rw [open_directory_append hplace, List.foldlM_cons]
  refine bind_eq_ok.mpr ⟨children, ?_, rfl⟩
  unfold open_part
  rw [hnode, hdirectory]

/-! ### From access to discovery -/

/-- Whether `stat` answers for an entry. -/
def stats : Node → Bool
  | .file _ stat_ok _ _      => stat_ok
  | .directory _ stat_ok _ _ => stat_ok
  | .symlink _               => true
  | .special _ _             => true

/-- An entry discovery can see: it answers `stat`, and a directory is not
    protected. -/
def Seen (b : Boundary) (node : Node) : Prop :=
  stats node = true ∧
    ∀ info stat_ok open_ok children, node = .directory info stat_ok open_ok children →
      info.identity ∉ b.protected_identities

/-- Every entry on a path can be seen. -/
def SeenAlong (b : Boundary) (tree : Tree) (parts : List String) : Prop :=
  ∀ above more, parts = above ++ more → above ≠ [] →
    ∀ node, node_at tree above = some node → Seen b node

theorem SeenAlong.above {parts more : List String} (h : SeenAlong b tree (parts ++ more)) :
    SeenAlong b tree parts :=
  fun above rest heq hne node hnode => h above (rest ++ more) (by rw [heq, List.append_assoc]) hne
    node hnode

theorem mem_intercalate {c : Char} {pieces : List (List Char)}
    (h : c ∈ List.intercalate ['/'] pieces) :
    (∃ piece ∈ pieces, c ∈ piece) ∨ (c = '/' ∧ 2 ≤ pieces.length) := by
  induction pieces with
  | nil => cases h
  | cons piece pieces ih =>
    cases pieces with
    | nil =>
      rw [List.intercalate_singleton] at h
      exact Or.inl ⟨piece, List.mem_cons_self .., h⟩
    | cons next pieces =>
      rw [List.intercalate_cons_cons, List.append_assoc] at h
      obtain h | h := List.mem_append.mp h
      · exact Or.inl ⟨piece, List.mem_cons_self .., h⟩
      · obtain h | h := List.mem_append.mp h
        · exact Or.inr ⟨List.mem_singleton.mp h, by simp⟩
        · obtain ⟨found, hfound, hc⟩ | ⟨hslash, -⟩ := ih h
          · exact Or.inl ⟨found, List.mem_cons_of_mem _ hfound, hc⟩
          · exact Or.inr ⟨hslash, by simp⟩

theorem mem_of_mem_split {c : Char} {cs piece : List Char}
    (hpiece : piece ∈ PyText.split_chars '/' cs) (h : c ∈ piece) : c ∈ cs := by
  induction cs generalizing piece with
  | nil =>
    obtain rfl := List.mem_singleton.mp hpiece
    cases h
  | cons d cs ih =>
    rw [PyText.split_chars] at hpiece
    split at hpiece
    · obtain rfl | hpiece := List.mem_cons.mp hpiece
      · cases h
      · exact List.mem_cons_of_mem _ (ih hpiece h)
    · split at hpiece
      · obtain rfl := List.mem_singleton.mp hpiece
        obtain rfl := List.mem_singleton.mp h
        exact List.mem_cons_self ..
      · next p rest hsplit =>
        rw [hsplit] at ih
        obtain rfl | hpiece := List.mem_cons.mp hpiece
        · obtain rfl | h := List.mem_cons.mp h
          · exact List.mem_cons_self ..
          · exact List.mem_cons_of_mem _ (ih (List.mem_cons_self ..) h)
        · exact List.mem_cons_of_mem _ (ih (List.mem_cons_of_mem _ hpiece) h)

/-- The characters of an accepted path are those of its text. -/
theorem accepted_printable {raw_path : String} {allow_root allow_project_ancestor : Bool}
    {parts : List String}
    (h : b.validate_relative raw_path allow_root allow_project_ancestor = .ok parts) :
    b.isprintable ("/".intercalate parts) = true := by
  obtain ⟨hprint, -, rfl, -⟩ := b.validate_relative_eq_ok.mp h
  unfold Boundary.isprintable at hprint ⊢
  rw [List.all_eq_true] at hprint ⊢
  intro c hc
  rw [String.toList_intercalate, List.map_map] at hc
  have hchars : (PurePath.of_text raw_path.toList).parts.map (String.toList ∘ String.ofList) =
      (PurePath.of_text raw_path.toList).parts := by simp [Function.comp_def]
  rw [hchars] at hc
  apply hprint
  obtain ⟨piece, hpiece, hc⟩ | ⟨rfl, hlength⟩ := mem_intercalate hc
  · exact mem_of_mem_split (List.mem_filter.mp hpiece).1 hc
  · by_contra hslash
    have hone : (PurePath.of_text raw_path.toList).parts.length ≤ 1 := by
      unfold PurePath.of_text
      rw [split_chars_plain hslash]
      exact List.length_filter_le _ _
    omega

/-- The parent of an accepted path is opened on the way to it. -/
theorem open_directory_concat {parts : List String} {name : String} {found : Entries}
    (h : open_directory_parts b tree.root (parts ++ [name]) = .ok found) :
    ∃ above, open_directory_parts b tree.root parts = .ok above ∧
      ∃ info stat_ok, find_entry name above = some (.directory info stat_ok true found) := by
  unfold open_directory_parts at h ⊢
  split at h
  · next hnode =>
    split at h
    · next hidentity =>
      rw [List.foldlM_append] at h
      obtain ⟨above, habove, h⟩ := bind_eq_ok.mp h
      rw [List.foldlM_cons] at h
      obtain ⟨below, hpart, hbelow⟩ := bind_eq_ok.mp h
      obtain rfl := pure_eq_ok.mp hbelow
      refine ⟨above, ?_, ?_⟩
      · rw [if_pos hidentity]
        exact habove
      · unfold open_part at hpart
        split at hpart
        · cases hpart
        · next info stat_ok children hfind =>
          obtain rfl := ok_eq_ok.mp hpart
          exact ⟨info, stat_ok, hfind⟩
        · cases hpart
    · cases h
  · cases h

/-- The text of a directory above an accepted path is accepted. -/
theorem parent_accepted {parent : List String} {name : String}
    (hlegal : ∀ part ∈ parent, LegalName part)
    (hprint : b.isprintable ("/".intercalate (parent ++ [name])) = true)
    {allow_project_ancestor : Bool}
    (hplain : b.is_sensitive (parent ++ [name]) allow_project_ancestor = false) :
    b.isprintable ("/".intercalate parent) = true ∧ b.is_sensitive parent true = false ∧
      b.validate_relative ("/".intercalate parent) true true = .ok parent := by
  have hparent : b.isprintable ("/".intercalate parent) = true := by
    cases parent with
    | nil => rfl
    | cons part parent =>
      unfold Boundary.isprintable at hprint ⊢
      rw [List.all_eq_true] at hprint ⊢
      rw [String.intercalate_append_of_ne_nil (by simp) (by simp)] at hprint
      intro c hc
      refine hprint c ?_
      rw [String.toList_append, String.toList_append]
      exact List.mem_append_left _ (List.mem_append_left _ hc)
  have hsensitive := Boundary.is_sensitive_append [name] hplain
  refine ⟨hparent, hsensitive, b.validate_relative_eq_ok.mpr ?_⟩
  by_cases hne : parent = []
  · subst hne
    exact ⟨rfl, by decide, by decide, by rw [if_pos rfl]⟩
  · refine ⟨hparent, ?_, path_parts_intercalate hne hlegal, ?_⟩
    · rw [of_text_intercalate hne hlegal]
      rfl
    · rw [if_neg hne]
      refine ⟨fun hdot => ?_, fun hup => ?_, hsensitive⟩
      · exact absurd (hlegal _ hdot) (by unfold LegalName; decide)
      · exact absurd (hlegal _ hup) (by unfold LegalName; decide)

/-- A visible entry of a listed directory is listed. -/
theorem listed_entry {parent : List String} {found : Entries} {e : Entry}
    (habove : parent = [] ∨ Listed b tree parent .directory)
    (haccepted : b.validate_relative ("/".intercalate parent) true true = .ok parent)
    (hopen : open_directory_parts b tree.root parent = .ok found) (hname : LegalName e.name)
    (hvisible : VisibleIn b { parts := parent, entries := found } e) :
    Listed b tree (parent ++ [e.name]) e.kind := by
  obtain ⟨max_entries, max_scan_entries, max_output_chars, listing, hlist, hall⟩ :=
    listing_full haccepted hopen
  have hread := read_display_name hname
  have hshown := hall e hvisible
  rw [show e.name = (read_display e.display_name).1 by rw [hread],
    show e.kind = (read_display e.display_name).2 by rw [hread]]
  obtain rfl | habove := habove
  · exact .root hlist hshown
  · exact .nested habove hlist hshown

/-- A directory that can be addressed is listed, level by level. -/
theorem listed_directory {parts : List String} (hlegal : ∀ part ∈ parts, LegalName part)
    (hprint : b.isprintable ("/".intercalate parts) = true)
    (hplain : b.is_sensitive parts true = false) {found : Entries}
    (hopen : open_directory_parts b tree.root parts = .ok found) (hseen : SeenAlong b tree parts) :
    parts = [] ∨ Listed b tree parts .directory := by
  induction parts using List.reverseRecOn generalizing found with
  | nil => exact Or.inl rfl
  | append_singleton parent name ih =>
    right
    have hlegal_parent : ∀ part ∈ parent, LegalName part := fun part hpart =>
      hlegal part (List.mem_append_left _ hpart)
    obtain ⟨above, habove, info, stat_ok, hfind⟩ := open_directory_concat hopen
    obtain ⟨hprint_parent, hplain_parent, haccepted⟩ :=
      parent_accepted hlegal_parent hprint hplain
    have hlisted := ih hlegal_parent hprint_parent hplain_parent habove hseen.above
    have hnode : node_at tree (parent ++ [name]) = some (.directory info stat_ok true found) := by
      rw [node_at_concat (open_directory_at habove)]
      exact hfind
    obtain ⟨hstat, hunprotected⟩ := hseen (parent ++ [name]) [] (by simp) (by simp) _ hnode
    obtain rfl : stat_ok = true := hstat
    have hvisible : VisibleIn b { parts := parent, entries := above }
        { name, info, kind := .directory } := by
      refine ⟨_, find_entry_mem hfind, ?_⟩
      unfold visible_entry
      dsimp only
      rw [if_neg (by simp [hplain]), if_neg (by simp),
        if_neg (hunprotected info true true found rfl)]
    exact listed_entry (e := { name, info, kind := .directory }) hlisted haccepted habove
      (hlegal name (by simp)) hvisible

/-- A file that can be addressed is listed. -/
theorem listed_file {raw_path : String} {parts : List String} {info : Stat} {data : List UInt8}
    (haccepted : b.validate_relative raw_path false false = .ok parts)
    (hfile : target_file b tree.root raw_path = .ok (info, data)) (hseen : SeenAlong b tree parts) :
    Listed b tree parts .file := by
  obtain ⟨parts', entries, name, hparts', hparent, hopen⟩ := target_file_eq_ok.mp hfile
  obtain rfl := ok_eq_ok.mp (haccepted.symm.trans hparts')
  have hprint := accepted_printable haccepted
  have hlegal := validate_relative_legal haccepted
  obtain ⟨-, -, -, hplain⟩ := b.validate_relative_eq_ok.mp haccepted
  obtain ⟨above, habove, hlast⟩ := bind_eq_ok.mp hparent
  obtain ⟨rfl, rfl⟩ := Prod.mk.inj (pure_eq_ok.mp hlast)
  cases parts using List.reverseRecOn with
  | nil => simp at hplain
  | append_singleton parent name =>
    rw [if_neg (by simp)] at hplain
    rw [List.dropLast_concat] at habove
    rw [List.getLast?_concat, Option.getD_some] at hopen
    obtain ⟨hprint_parent, hplain_parent, haccepted_parent⟩ := parent_accepted
      (fun part hpart => hlegal part (List.mem_append_left _ hpart)) hprint hplain.2.2
    have hlisted := listed_directory (fun part hpart => hlegal part (List.mem_append_left _ hpart))
      hprint_parent hplain_parent habove hseen.above
    obtain ⟨node, hfind, hread⟩ := bind_eq_ok.mp hopen
    have hfind := expect_eq_ok.mp hfind
    have hnode : node_at tree (parent ++ [name]) = some node := by
      rw [node_at_concat (open_directory_at habove)]
      exact hfind
    obtain ⟨hstat, -⟩ := hseen (parent ++ [name]) [] (by simp) (by simp) node hnode
    cases node with
    | symlink info => cases hread
    | special info open_ok => cases open_ok <;> cases hread
    | directory info stat_ok open_ok children => cases open_ok <;> cases hread
    | file info' stat_ok open_ok data' =>
      obtain rfl : stat_ok = true := hstat
      obtain ⟨_, -, hread⟩ := bind_eq_ok.mp hread
      obtain ⟨_, hunprotected, hread⟩ := bind_eq_ok.mp hread
      obtain ⟨_, hlink, -⟩ := bind_eq_ok.mp hread
      have hvisible : VisibleIn b { parts := parent, entries := above }
          { name, info := info', kind := .file } := by
        refine ⟨_, find_entry_mem hfind, ?_⟩
        unfold visible_entry
        dsimp only
        rw [if_neg (by simp [Boundary.is_sensitive_ancestor hplain.2.2]), if_neg (by simp),
          if_neg (by simp [hplain.2.2]), if_neg (refuse_eq_ok.mp hlink),
          if_neg (refuse_eq_ok.mp hunprotected)]
      exact listed_entry (e := { name, info := info', kind := .file }) hlisted haccepted_parent habove
        (hlegal name (by simp)) hvisible

end

/-- What can be listed can be addressed, and only that. -/
theorem listed_iff_addressed (b : Boundary) (tree : Tree) :
    -- nothing denied is revealed
    (∀ parts kind, Discovered b tree parts kind → ∃ node, Admissible b tree parts kind node) ∧
    -- what is shown is accepted when it is printable, and opens when the entry does
    (∀ parts kind node, Discovered b tree parts kind →
      b.isprintable ("/".intercalate parts) = true → node_at tree parts = some node →
      (∀ allow_root, b.validate_relative ("/".intercalate parts) allow_root (kind = .directory) =
        .ok parts) ∧
      (refuses_open node = false →
        (kind = .file →
          ∃ info data, target_file b tree.root ("/".intercalate parts) = .ok (info, data)) ∧
        (kind = .directory → ∃ found, open_directory_parts b tree.root parts = .ok found))) ∧
    -- what is accepted and opens is listed when every entry on the path can be seen
    (∀ raw_path parts, SeenAlong b tree parts →
      (b.validate_relative raw_path false false = .ok parts →
        (∃ info data, target_file b tree.root raw_path = .ok (info, data)) →
        Listed b tree parts .file) ∧
      (b.validate_relative raw_path true true = .ok parts → parts ≠ [] →
        (∃ found, open_directory_parts b tree.root parts = .ok found) →
        Listed b tree parts .directory)) ∧
    -- where all of this holds the two are one
    (∀ parts node, SeenAlong b tree parts → b.isprintable ("/".intercalate parts) = true →
      node_at tree parts = some node → refuses_open node = false →
      (Discovered b tree parts .file ↔ ∃ raw_path info data,
        b.validate_relative raw_path false false = .ok parts ∧
          target_file b tree.root raw_path = .ok (info, data)) ∧
      (Discovered b tree parts .directory ↔ parts ≠ [] ∧ ∃ raw_path found,
        b.validate_relative raw_path true true = .ok parts ∧
          open_directory_parts b tree.root parts = .ok found)) := by
  -- an accepted directory that opens is listed, unless it is the root
  have hdirectories : ∀ {raw_path parts found}, SeenAlong b tree parts →
      b.validate_relative raw_path true true = .ok parts → parts ≠ [] →
      open_directory_parts b tree.root parts = .ok found → Listed b tree parts .directory := by
    intro raw_path parts found hseen haccepted hne hopen
    obtain ⟨-, -, -, hplain⟩ := b.validate_relative_eq_ok.mp haccepted
    rw [if_neg hne] at hplain
    exact (listed_directory (validate_relative_legal haccepted) (accepted_printable haccepted)
      hplain.2.2 hopen hseen).resolve_left hne
  refine ⟨fun parts kind h => h.visible.admissible, ?_, ?_, ?_⟩
  · intro parts kind node h hprint hnode
    refine ⟨h.visible.accepted hprint, fun hopen => ⟨fun hfile => ?_, fun hdirectory => ?_⟩⟩
    · subst hfile
      exact h.visible.reads hprint hnode hopen
    · subst hdirectory
      exact h.visible.opens hnode hopen
  · intro raw_path parts hseen
    refine ⟨fun haccepted hread => ?_, fun haccepted hne hopen => ?_⟩
    · obtain ⟨info, data, hread⟩ := hread
      exact listed_file haccepted hread hseen
    · obtain ⟨found, hopen⟩ := hopen
      exact hdirectories hseen haccepted hne hopen
  · intro parts node hseen hprint hnode hopen
    constructor
    · constructor
      · intro h
        obtain ⟨info, data, hread⟩ := h.visible.reads hprint hnode hopen
        exact ⟨_, info, data, h.visible.accepted hprint false, hread⟩
      · rintro ⟨raw_path, info, data, haccepted, hread⟩
        exact .listed (listed_file haccepted hread hseen)
    · constructor
      · intro h
        obtain ⟨found, hfound⟩ := h.visible.opens hnode hopen
        exact ⟨h.visible.legal.1, _, found, h.visible.accepted hprint true, hfound⟩
      · rintro ⟨hne, raw_path, found, haccepted, hfound⟩
        exact .listed (hdirectories hseen haccepted hne hfound)

/-! ### One entry -/

/-- A workspace with one empty file. -/
def one_entry (name : String) (legal : LegalName name) (open_ok : Bool) : Tree where
  info := ⟨1, 1, 1, 0, 0⟩
  stat_ok := true
  open_ok := true
  entries := [(name, .file ⟨1, 2, 1, 0, 0⟩ true open_ok [])]
  tidy := by
    refine tidy_of (by simp) (by simpa using legal) ?_
    intro name info stat_ok open_ok children hmem
    simp at hmem

/-- A control character is not printable. -/
def printing_boundary : Boundary :=
  { plain_boundary with unicode := { casefold := id, isprintable := fun c => 32 ≤ c.toNat } }

/-- A file with an unprintable name is listed and refused, a file that refuses
    to open is listed and denied, and a protected directory is accepted, opened
    and not listed. -/
theorem listing_differs :
    (Fallible.succeeds
        (list_entries_bounded printing_boundary
          (one_entry (String.ofList [Char.ofNat 1]) (by unfold LegalName; decide) true).root "" 9 9 99)
        (fun listing => listing.entries = [String.ofList [Char.ofNat 1]]) = true ∧
      Fallible.succeeds
        (printing_boundary.validate_relative (String.ofList [Char.ofNat 1]) false false)
        (fun _ => true) = false) ∧
    (Fallible.succeeds
        (list_entries_bounded plain_boundary
          (one_entry "a" (by unfold LegalName; decide) false).root "" 9 9 99)
        (fun listing => listing.entries = ["a"]) = true ∧
      Fallible.succeeds
        (read_document plain_boundary (one_entry "a" (by unfold LegalName; decide) false).root "a" 9)
        (fun _ => true) = false) ∧
    Fallible.succeeds
        ({ plain_boundary with protected_identities := [(1, 2)] }.validate_relative "a" true true)
        (fun parts => parts = ["a"]) = true ∧
      Fallible.succeeds
        (open_directory_parts { plain_boundary with protected_identities := [(1, 2)] }
          (two_levels true).root ["a"])
        (fun _ => true) = true ∧
      Fallible.succeeds
        (list_entries_bounded { plain_boundary with protected_identities := [(1, 2)] }
          (two_levels true).root "" 9 9 99)
        (fun listing => listing.entries = ["q2"]) = true := by
  refine ⟨⟨by decide +kernel, by decide +kernel⟩, ⟨by decide +kernel, by decide +kernel⟩,
    by decide +kernel, by decide +kernel, by decide +kernel⟩

theorem two_levels_seen : SeenAlong plain_boundary (two_levels true) ["a", "x"] := by
  have hseen : ∀ node, plain_boundary.protected_identities = [] → stats node = true →
      Seen plain_boundary node := fun node hnone hstat =>
    ⟨hstat, fun info stat_ok open_ok children _ => by rw [hnone]; exact List.not_mem_nil⟩
  intro above more heq hne node hnode
  match above, heq with
  | [p], heq =>
    obtain ⟨rfl, -⟩ := List.cons.inj heq
    obtain rfl := Option.some.inj hnode
    exact hseen _ rfl rfl
  | [p, q], heq =>
    obtain ⟨rfl, hrest⟩ := List.cons.inj heq
    obtain ⟨rfl, -⟩ := List.cons.inj hrest
    obtain rfl := Option.some.inj hnode
    exact hseen _ rfl rfl
  | p :: q :: r :: above, heq => simp at heq

/-- A file in a directory is addressed, and so it is discovered. -/
theorem nested_file_discovered : Discovered plain_boundary (two_levels true) ["a", "x"] .file := by
  have haccepted : Fallible.succeeds (plain_boundary.validate_relative "a/x" false false)
      (fun parts => parts = ["a", "x"]) = true := by
    decide +kernel
  have hread : Fallible.succeeds (target_file plain_boundary (two_levels true).root "a/x")
      (fun _ => true) = true := by
    decide +kernel
  obtain ⟨parts, haccepted, hparts⟩ := Fallible.succeeds_iff.mp haccepted
  obtain rfl := of_decide_eq_true hparts
  obtain ⟨⟨info, data⟩, hread, -⟩ := Fallible.succeeds_iff.mp hread
  have hiff := (listed_iff_addressed plain_boundary (two_levels true)).2.2.2 ["a", "x"]
    (small_file 4 []) two_levels_seen (by decide +kernel) rfl rfl
  exact hiff.1.mpr ⟨"a/x", info, data, haccepted, hread⟩

end Workspace
