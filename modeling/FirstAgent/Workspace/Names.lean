import FirstAgent.Python.IntText
import FirstAgent.Workspace.Found

/-! # Trees and Their Paths

    A directory tree has legal, distinct names.  The text of a path is read
    back as its components, so that a path of the tree names one entry. -/

open Fallible

namespace Workspace

/-! ### Path texts -/

theorem split_chars_plain {cs : List Char} (h : '/' ∉ cs) : PyText.split_chars '/' cs = [cs] := by
  induction cs with
  | nil => rfl
  | cons c cs ih =>
    simp only [List.mem_cons, not_or] at h
    rw [PyText.split_chars, if_neg (fun heq => h.1 heq.symm), ih h.2]

/-- Joined components split again. -/
theorem split_chars_intercalate {parts : List (List Char)} (hne : parts ≠ [])
    (h : ∀ c ∈ parts, '/' ∉ c) :
    PyText.split_chars '/' (List.intercalate ['/'] parts) = parts := by
  induction parts with
  | nil => exact absurd rfl hne
  | cons c parts ih =>
    have hc := h c (List.mem_cons_self ..)
    cases parts with
    | nil => rw [List.intercalate_singleton, split_chars_plain hc]
    | cons d parts =>
      have hrest := ih (by simp) fun x hx => h x (List.mem_cons_of_mem _ hx)
      rw [List.intercalate_cons_cons, List.append_assoc, List.singleton_append,
        PyText.split_chars_append hc, hrest]

/-- No component of a split holds the separator. -/
theorem split_chars_mem {cs c : List Char} (h : c ∈ PyText.split_chars '/' cs) : '/' ∉ c := by
  induction cs generalizing c with
  | nil =>
    obtain rfl := List.mem_singleton.mp h
    exact List.not_mem_nil
  | cons d cs ih =>
    rw [PyText.split_chars] at h
    split at h
    · obtain rfl | h := List.mem_cons.mp h
      · exact List.not_mem_nil
      · exact ih h
    · next hd =>
      split at h
      · obtain rfl := List.mem_singleton.mp h
        simpa using fun heq => hd heq.symm
      · next p rest hsplit =>
        rw [hsplit] at ih
        obtain rfl | h := List.mem_cons.mp h
        · intro hmem
          obtain heq | hmem := List.mem_cons.mp hmem
          · exact hd heq.symm
          · exact ih (List.mem_cons_self ..) hmem
        · exact ih (List.mem_cons_of_mem _ h)

/-- A legal name of an entry. -/
def LegalName (name : String) : Prop := is_name name.toList = true

/-- The text of a path of legal names is read back as the path. -/
theorem of_text_intercalate {parts : List String} (hne : parts ≠ [])
    (h : ∀ part ∈ parts, LegalName part) :
    PurePath.of_text ("/".intercalate parts).toList =
      { root := [], parts := parts.map String.toList } := by
  have hslash : ∀ c ∈ parts.map String.toList, '/' ∉ c := by
    intro c hc
    obtain ⟨part, hpart, rfl⟩ := List.mem_map.mp hc
    exact no_slash_of_is_name (h part hpart)
  have hsplit := split_chars_intercalate (by simpa using hne) hslash
  have hroot : PurePath.split_root (List.intercalate ['/'] (parts.map String.toList)) = [] := by
    cases parts with
    | nil => exact absurd rfl hne
    | cons part parts =>
      have hpart := h part (List.mem_cons_self ..)
      unfold LegalName at hpart
      cases hchars : part.toList with
      | nil =>
        rw [hchars] at hpart
        cases hpart
      | cons c cs =>
        have hc : c ≠ '/' := by
          intro heq
          have hno := no_slash_of_is_name hpart
          rw [hchars, heq] at hno
          exact hno (List.mem_cons_self ..)
        cases parts <;> simp [PurePath.split_root, hchars, hc]
  unfold PurePath.of_text
  rw [String.toList_intercalate, show "/".toList = ['/'] from rfl, hsplit, hroot]
  congr 1
  refine List.filter_eq_self.mpr fun c hc => ?_
  obtain ⟨part, hpart, rfl⟩ := List.mem_map.mp hc
  have hname := h part hpart
  simp only [LegalName, is_name, Bool.and_eq_true] at hname
  simp only [Bool.and_eq_true]
  exact ⟨hname.1.1.1, hname.1.1.2⟩

theorem map_ofList_toList (parts : List String) :
    (parts.map String.toList).map String.ofList = parts := by
  simp

/-- Paths of legal names with one text are one path. -/
theorem intercalate_inj {parts parts' : List String} (hne : parts ≠ []) (hne' : parts' ≠ [])
    (h : ∀ part ∈ parts, LegalName part) (h' : ∀ part ∈ parts', LegalName part)
    (heq : "/".intercalate parts = "/".intercalate parts') : parts = parts' := by
  have hread := of_text_intercalate hne h
  rw [heq, of_text_intercalate hne' h'] at hread
  have hparts := congrArg PurePath.parts hread
  dsimp only at hparts
  rw [← map_ofList_toList parts, ← map_ofList_toList parts', hparts]

/-- What `validate_relative` returns are legal names. -/
theorem validate_relative_legal {b : Boundary} {raw_path : String}
    {allow_root allow_project_ancestor : Bool} {parts : List String}
    (h : b.validate_relative raw_path allow_root allow_project_ancestor = .ok parts) :
    ∀ part ∈ parts, LegalName part := by
  obtain ⟨-, -, hparts, hrest⟩ := b.validate_relative_eq_ok.mp h
  intro part hpart
  have hne : parts ≠ [] := List.ne_nil_of_mem hpart
  rw [if_neg hne] at hrest
  have hup : part ≠ ".." := fun heq => hrest.2.1 (heq ▸ hpart)
  rw [← hparts] at hpart
  obtain ⟨c, hc, rfl⟩ := List.mem_map.mp hpart
  have hfilter := List.mem_filter.mp hc
  have hslash := split_chars_mem hfilter.1
  have hkept := hfilter.2
  simp only [Bool.and_eq_true, decide_eq_true_eq] at hkept
  have hup' : c ≠ ['.', '.'] := by
    rintro rfl
    exact hup rfl
  simp [LegalName, is_name, hkept.1, hkept.2, hup', hslash]

/-! ### Trees -/

/-- An entry without what is below it. -/
def Node.head : Node → Node
  | .directory info stat_ok open_ok _ => .directory info stat_ok open_ok []
  | node                              => node

/-- The directory a path of names leads to. -/
def directory_at : List String → Entries → Option Entries
  | [], entries           => some entries
  | part :: parts, entries =>
    match find_entry part entries with
    | some (.directory _ _ _ children) => directory_at parts children
    | _                                => none

/-- Every directory has distinct, legal names. -/
def Tidy (entries : Entries) : Prop :=
  ∀ parts found, directory_at parts entries = some found →
    (found.map Prod.fst).Nodup ∧ ∀ entry ∈ found, LegalName entry.1

/-- The same entry under every path, in any order. -/
def SameTree (entries entries' : Entries) : Prop :=
  ∀ parts name,
    ((directory_at parts entries).bind fun found => (find_entry name found).map Node.head) =
      (directory_at parts entries').bind fun found => (find_entry name found).map Node.head

/-- A directory tree. -/
structure Tree where
  info : Stat
  stat_ok : Bool
  open_ok : Bool
  entries : Entries
  tidy : Tidy entries

namespace Tree

def root (tree : Tree) : Node := .directory tree.info tree.stat_ok tree.open_ok tree.entries

/-- The same tree, scanned in any order. -/
structure Reordered (tree tree' : Tree) : Prop where
  info : tree.info = tree'.info
  open_ok : tree.open_ok = tree'.open_ok
  entries : SameTree tree.entries tree'.entries

end Tree

section
variable {entries entries' : Entries}

theorem find_entry_mem {name : String} {node : Node} (h : find_entry name entries = some node) :
    (name, node) ∈ entries := by
  unfold find_entry at h
  obtain ⟨entry, hfind, rfl⟩ := Option.map_eq_some_iff.mp h
  have hname := List.find?_some hfind
  have hmem := List.mem_of_find?_eq_some hfind
  obtain rfl : entry.1 = name := of_decide_eq_true hname
  exact hmem

/-- With distinct names an entry is found under its name. -/
theorem find_entry_of_mem {name : String} {node : Node} (hnames : (entries.map Prod.fst).Nodup)
    (h : (name, node) ∈ entries) : find_entry name entries = some node := by
  induction entries with
  | nil => cases h
  | cons entry entries ih =>
    rw [List.map_cons, List.nodup_cons] at hnames
    unfold find_entry
    rw [List.find?_cons]
    obtain rfl | h := List.mem_cons.mp h
    · simp
    · have hne : entry.1 ≠ name := fun heq =>
        hnames.1 (heq ▸ List.mem_map.mpr ⟨(name, node), h, rfl⟩)
      rw [decide_eq_false hne]
      exact ih hnames.2 h

theorem Tidy.names (h : Tidy entries) : (entries.map Prod.fst).Nodup := (h [] entries rfl).1

theorem Tidy.legal (h : Tidy entries) : ∀ entry ∈ entries, LegalName entry.1 := (h [] entries rfl).2

theorem Tidy.below {name : String} {info : Stat} {stat_ok open_ok : Bool} {children : Entries}
    (h : Tidy entries)
    (hfind : find_entry name entries = some (.directory info stat_ok open_ok children)) :
    Tidy children := by
  intro parts found hfound
  refine h (name :: parts) found ?_
  rw [directory_at, hfind]
  exact hfound

/-- The same tree has the same entries in front. -/
theorem SameTree.here (h : SameTree entries entries') (name : String) :
    (find_entry name entries).map Node.head = (find_entry name entries').map Node.head :=
  h [] name

theorem SameTree.below {name : String} {info info' : Stat} {stat_ok open_ok stat_ok' open_ok' : Bool}
    {children children' : Entries} (h : SameTree entries entries')
    (hfind : find_entry name entries = some (.directory info stat_ok open_ok children))
    (hfind' : find_entry name entries' = some (.directory info' stat_ok' open_ok' children')) :
    SameTree children children' := by
  intro parts below
  have hsame := h (name :: parts) below
  rw [directory_at, directory_at, hfind, hfind'] at hsame
  exact hsame

/-- What the other tree has under a name. -/
theorem SameTree.find {name : String} {node : Node} (h : SameTree entries entries')
    (hfind : find_entry name entries = some node) :
    ∃ node', find_entry name entries' = some node' ∧ node'.head = node.head := by
  have hsame := h.here name
  rw [hfind] at hsame
  obtain ⟨node', hnode', hhead⟩ := Option.map_eq_some_iff.mp hsame.symm
  exact ⟨node', hnode', hhead⟩

theorem SameTree.symm (h : SameTree entries entries') : SameTree entries' entries :=
  fun parts name => (h parts name).symm

/-- A directory is a directory in both. -/
theorem head_directory {node : Node} {info : Stat} {stat_ok open_ok : Bool} {children : Entries}
    (h : node.head = (Node.directory info stat_ok open_ok children).head) :
    ∃ children', node = .directory info stat_ok open_ok children' := by
  cases node with
  | directory info' stat_ok' open_ok' children' =>
    simp only [Node.head, Node.directory.injEq, and_true] at h
    obtain ⟨rfl, rfl, rfl⟩ := h
    exact ⟨children', rfl⟩
  | file info stat_ok open_ok data => cases h
  | symlink info => cases h
  | special info open_ok => cases h

end

/-! ### Scanning in any order -/

section
variable {b : Boundary} {entries entries' : Entries}

theorem visible_entry_head {parts : List String} {name : String} {node node' : Node}
    (h : node'.head = node.head) :
    visible_entry b parts (name, node') = visible_entry b parts (name, node) := by
  have hone : ∀ n : Node, visible_entry b parts (name, n) = visible_entry b parts (name, n.head) := by
    intro n
    cases n <;> rfl
  rw [hone node', hone node, h]

theorem visible_entry_name {parts : List String} {entry : String × Node} {e : Entry}
    (h : visible_entry b parts entry = some e) : e.name = entry.1 := by
  obtain ⟨name, node⟩ := entry
  unfold visible_entry at h
  dsimp only at h
  split at h
  · cases h
  · cases node with
    | file info stat_ok open_ok data =>
      dsimp only at h
      repeat (split at h; · cases h)
      obtain rfl := Option.some.inj h
      rfl
    | directory info stat_ok open_ok children =>
      dsimp only at h
      repeat (split at h; · cases h)
      obtain rfl := Option.some.inj h
      rfl
    | symlink info => cases h
    | special info open_ok => cases h

/-- The names of what is admitted are among the names of the directory. -/
theorem admitted_names (parts : List String) (entries : Entries) :
    ((admitted b parts entries).map Entry.name).Sublist (entries.map Prod.fst) := by
  induction entries with
  | nil => exact List.Sublist.refl _
  | cons entry entries ih =>
    unfold admitted at ih ⊢
    rw [List.filterMap_cons]
    cases hvisible : visible_entry b parts entry with
    | none => exact ih.cons _
    | some e =>
      rw [List.map_cons, List.map_cons, visible_entry_name hvisible]
      exact ih.cons_cons _

theorem mem_admitted_same {parts : List String} {e : Entry} (hnames : (entries.map Prod.fst).Nodup)
    (h : SameTree entries entries') (he : e ∈ admitted b parts entries) :
    e ∈ admitted b parts entries' := by
  obtain ⟨⟨name, node⟩, hmem, hvisible⟩ := List.mem_filterMap.mp he
  obtain ⟨node', hfind', hhead⟩ := h.find (find_entry_of_mem hnames hmem)
  refine List.mem_filterMap.mpr ⟨(name, node'), find_entry_mem hfind', ?_⟩
  rw [visible_entry_head hhead]
  exact hvisible

theorem length_same (hnames : (entries.map Prod.fst).Nodup)
    (hnames' : (entries'.map Prod.fst).Nodup) (h : SameTree entries entries') :
    entries.length = entries'.length := by
  have hmem : ∀ {es es' : Entries}, (es.map Prod.fst).Nodup → SameTree es es' →
      ∀ name, name ∈ es.map Prod.fst → name ∈ es'.map Prod.fst := by
    intro es es' hnodup hsame name hname
    obtain ⟨⟨_, node⟩, hentry, rfl⟩ := List.mem_map.mp hname
    obtain ⟨node', hfind', -⟩ := hsame.find (find_entry_of_mem hnodup hentry)
    exact List.mem_map.mpr ⟨_, find_entry_mem hfind', rfl⟩
  have hperm : (entries.map Prod.fst).Perm (entries'.map Prod.fst) :=
    (List.perm_ext_iff_of_nodup hnames hnames').mpr fun name =>
      ⟨hmem hnames h name, hmem hnames' h.symm name⟩
  simpa using hperm.length_eq

/-- Sorting by a key sorts the keys. -/
theorem pairwise_insertionSort_key {α κ : Type} [LinearOrder κ] (key : α → κ) (items : List α) :
    (items.insertionSort fun x y => key x ≤ key y).Pairwise fun x y => key x ≤ key y := by
  have : Std.Total fun x y : α => key x ≤ key y := ⟨fun x y => le_total (key x) (key y)⟩
  have : IsTrans α fun x y => key x ≤ key y := ⟨fun x y z => le_trans⟩
  exact List.pairwise_insertionSort _ items

/-- A full scan does not depend on the order of the directory. -/
theorem full_scan_same {place place' : Place} (hparts : place.parts = place'.parts)
    (hnames : (place.entries.map Prod.fst).Nodup) (hnames' : (place'.entries.map Prod.fst).Nodup)
    (h : SameTree place.entries place'.entries) : full_scan b place' = full_scan b place := by
  unfold full_scan
  rw [← hparts]
  have hnodup := (admitted_names (b := b) place.parts place.entries).nodup hnames
  have hnodup' := (admitted_names (b := b) place.parts place'.entries).nodup hnames'
  have hperm : (admitted b place.parts place'.entries).Perm
      (admitted b place.parts place.entries) :=
    (List.perm_ext_iff_of_nodup hnodup'.of_map hnodup.of_map).mpr fun e =>
      ⟨mem_admitted_same hnames' h.symm, mem_admitted_same hnames h⟩
  unfold sort_entries
  have hboth := ((List.perm_insertionSort (fun x y : Entry => x.name ≤ y.name) _).trans hperm).trans
    (List.perm_insertionSort (fun x y : Entry => x.name ≤ y.name) _).symm
  refine hboth.eq_of_pairwise (fun x y hx hy hxy hyx => ?_) (pairwise_insertionSort_key _ _)
    (pairwise_insertionSort_key _ _)
  -- two entries of one name are one
  have hx' := hperm.mem_iff.mp ((List.mem_insertionSort _).mp hx)
  have hy' := (List.mem_insertionSort _).mp hy
  exact List.inj_on_of_nodup_map hnodup hx' hy' (le_antisymm hxy hyx)

end

end Workspace
