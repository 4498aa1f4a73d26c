import FirstAgent.Workspace.Paths

/-! # The Workspace Tree

    A workspace as a finite tree of directory entries, and the descriptor
    walks of the boundary over it. -/

open Fallible

namespace Workspace

/-- What `stat` says of an entry. -/
structure Stat where
  device : Nat
  inode : Nat
  nlink : Nat
  size : Nat
  mtime_ns : Nat
  deriving DecidableEq, Repr

def Stat.identity (info : Stat) : Nat × Nat := (info.device, info.inode)

/-- Identities are compared as pairs of numbers. -/
instance identity_lawful : LawfulBEq (Nat × Nat) := inferInstance

/-- A directory entry.  An entry may refuse `stat` or `open`. -/
inductive Node where
  | file (info : Stat) (stat_ok open_ok : Bool) (data : List UInt8)
  | directory (info : Stat) (stat_ok open_ok : Bool) (entries : List (String × Node))
  | symlink (info : Stat)
  /-- A device, a socket or a pipe. -/
  | special (info : Stat) (open_ok : Bool)

/-- The entries of a directory, in the order `scandir` gives them. -/
abbrev Entries : Type := List (String × Node)

namespace Node

def info : Node → Stat
  | .file info _ _ _      => info
  | .directory info _ _ _ => info
  | .symlink info         => info
  | .special info _       => info

end Node

/-- The entry of a name. -/
def find_entry (name : String) (entries : Entries) : Option Node :=
  (entries.find? fun e => e.1 = name).map Prod.snd

/-! ### Opening -/

/-- `os.open(part, O_DIRECTORY | O_NOFOLLOW, dir_fd=…)` on the way to a path. -/
def open_part (part : String) (entries : Entries) : Except WorkspaceError Entries :=
  match find_entry part entries with
  | none                                  => .error .missing_parent
  | some (.directory _ _ true entries)    => .ok entries
  | some _                                => .error (.security "directory traversal was denied")

/-- `_open_directory_parts`: the entries of a directory below the root. -/
def open_directory_parts (b : Boundary) (root : Node) (parts : List String) :
    Except WorkspaceError Entries :=
  match root with
  | .directory info _ true entries =>
    if info.identity = b.root_identity then
      parts.foldlM (fun entries part => open_part part entries) entries
    else .error (.security "workspace root identity changed")
  | _ => .error .os_error

/-- `_open_regular` by name; the entry is returned. -/
def open_regular (b : Boundary) (entries : Entries) (name : String) :
    Except WorkspaceError (Stat × List UInt8) := do
  let node ← expect (find_entry name entries) .file_not_found
  match node with
  | .symlink _            => .error (.security "file traversal was denied")
  | .special _ open_ok    =>
    if open_ok then .error (.security "only regular files are allowed")
    else .error (.security "file traversal was denied")
  | .directory _ _ open_ok _ =>
    if open_ok then .error (.security "only regular files are allowed")
    else .error (.security "file traversal was denied")
  | .file info _ open_ok data => do
    refuse_security (open_ok = false) "file traversal was denied"
    refuse_security (info.identity ∈ b.protected_identities) "protected file identity is denied"
    refuse_security (info.nlink ≠ 1) "multi-link file is denied"
    pure (info, data)

/-- `_read_bounded`. -/
def read_bounded (data : List UInt8) (max_bytes : Int) : Except WorkspaceError (List UInt8) := do
  refuse (max_bytes < 1) (.value_error "max_bytes must be positive")
  refuse_security (data.length > max_bytes) "file exceeds the configured read bound"
  pure data

/-- The directory of a path and its last component. -/
def open_parent (b : Boundary) (root : Node) (parts : List String) :
    Except WorkspaceError (Entries × String) := do
  let entries ← open_directory_parts b root parts.dropLast
  pure (entries, parts.getLast?.getD "")

/-! ### Changing a directory -/

/-- The tree after the entries of one directory changed. -/
def Node.modify (f : Entries → Entries) : List String → Node → Node
  | [], .directory info stat_ok open_ok entries => .directory info stat_ok open_ok (f entries)
  | part :: parts, .directory info stat_ok open_ok entries =>
    .directory info stat_ok open_ok
      (entries.map fun e => if e.1 = part then (e.1, Node.modify f parts e.2) else e)
  | _, node => node

theorem find_entry_map {name part : String} {f : Node → Node} {entries : Entries} :
    find_entry name (entries.map fun e => if e.1 = part then (e.1, f e.2) else e) =
      if name = part then (find_entry name entries).map f else find_entry name entries := by
  unfold find_entry
  induction entries with
  | nil => simp
  | cons e entries ih =>
    rw [List.map_cons, List.find?_cons, List.find?_cons]
    by_cases he : e.1 = name
    · by_cases hp : e.1 = part
      · have hname : name = part := he ▸ hp
        simp [he, hname]
      · have hname : ¬ name = part := fun h => hp (he.trans h)
        simp [he, hname]
    · have hkept : ¬ (if e.1 = part then (e.1, f e.2) else e).1 = name := by
        split <;> exact he
      simpa [he, hkept] using ih

/-- Opening the changed directory gives the changed entries. -/
theorem open_parts_modify {f : Entries → Entries} {parts : List String} {entries found : Entries}
    (h : parts.foldlM (fun entries part => open_part part entries) entries = .ok found) :
    ∀ info stat_ok, ∃ entries',
      Node.modify f parts (.directory info stat_ok true entries) =
        .directory info stat_ok true entries' ∧
      parts.foldlM (fun entries part => open_part part entries) entries' = .ok (f found) := by
  induction parts generalizing entries with
  | nil =>
    obtain rfl := pure_eq_ok.mp h
    intro info stat_ok
    exact ⟨f entries, rfl, rfl⟩
  | cons part parts ih =>
    intro info stat_ok
    rw [List.foldlM_cons] at h
    obtain ⟨below, hpart, hrest⟩ := bind_eq_ok.mp h
    unfold open_part at hpart
    split at hpart
    · cases hpart
    · next dinfo dstat dentries hfind =>
      obtain rfl := ok_eq_ok.mp hpart
      obtain ⟨below', hmodify, hopen⟩ := ih hrest dinfo dstat
      refine ⟨_, rfl, ?_⟩
      rw [List.foldlM_cons]
      refine bind_eq_ok.mpr ⟨below', ?_, hopen⟩
      unfold open_part
      rw [find_entry_map, if_pos rfl, hfind, Option.map_some, hmodify]
    · cases hpart

/-- The same from the root. -/
theorem open_directory_modify {b : Boundary} {root : Node} {f : Entries → Entries}
    {parts : List String} {found : Entries}
    (h : open_directory_parts b root parts = .ok found) :
    open_directory_parts b (root.modify f parts) parts = .ok (f found) := by
  unfold open_directory_parts at h
  split at h
  · next info stat_ok entries =>
    split at h
    · next hidentity =>
      obtain ⟨entries', hmodify, hopen⟩ := open_parts_modify h info stat_ok
      rw [hmodify]
      exact (if_pos hidentity).trans hopen
    · cases h
  · cases h

end Workspace
