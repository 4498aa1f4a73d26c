import FirstAgent.Python.Occurrences
import FirstAgent.Workspace.Reading

/-! # Approved Edits

    `prepare_edit_binding` computes the edited bytes and shows them for
    approval; `edit_file` computes them again on a fresh read and replaces the
    file through a temporary one.  Every system call of the replacement may
    fail (`Faults`).  What is written is what was shown, and a failure leaves
    the file as it was unless it comes behind the rename
    (`edit_writes_what_was_approved`). -/

open Fallible

namespace Workspace

/-! ### Inspection -/

structure MutationBinding where
  target_digest : String
  precondition_digest : String

/-- `repr(sorted(precondition.items()))`. -/
def precondition_text (info : Stat) (data : List UInt8) : String :=
  "[('device', " ++ toString info.device ++ "), ('inode', " ++ toString info.inode ++
    "), ('mtime_ns', " ++ toString info.mtime_ns ++ "), ('sha256', '" ++ sha256 data ++
    "'), ('size', " ++ toString info.size ++ ")]"

/-- `inspect_mutation`: the identity of a target and its bytes, if it is there. -/
def inspect_mutation (b : Boundary) (root : Node) (raw_path : String) (max_bytes : Int) :
    Except WorkspaceError (MutationBinding × Option (List UInt8)) := do
  let parts ← b.validate_relative raw_path false false
  let target_digest := sha256 (encode ("/".intercalate parts).toList)
  let (entries, name) ← open_parent b root parts
  match open_regular b entries name with
  | .error .file_not_found =>
    pure ({ target_digest, precondition_digest := sha256 (encode "missing".toList) }, none)
  | .error e       => .error e
  | .ok (info, data) => do
    let data ← read_bounded data max_bytes
    pure ({ target_digest
            precondition_digest := sha256 (encode (precondition_text info data).toList) },
      some data)

/-! ### Editing -/

/-- `_updated_content`. -/
def updated_content (current : List UInt8) (old_text new_text : String) :
    Except WorkspaceError (List UInt8) := do
  let text ← expect (Utf8.Decoder.decode_strict current) .unicode_error
  refuse (PyText.count text old_text.toList ≠ 1) .edit_conflict
  pure (encode (PyText.replace_first old_text.toList new_text.toList text))

structure EditBinding where
  target_digest : String
  precondition_digest : String
  new_content_digest : String
  effect_preview : List Char

/-- The preview of an edit; the edited bytes decode, since they were encoded. -/
def effect_preview (path old_text new_text : String) (updated : List UInt8) : List Char :=
  ("edit " ++ path ++ " (" ++ toString updated.length ++ " resulting bytes):\n" ++
      "--- replace this exact text ---\n" ++ old_text ++ "\n--- with this text ---\n" ++ new_text ++
      "\n--- resulting content ---\n").toList ++
    (Utf8.Decoder.decode_strict updated).getD [] ++ "\n--- end resulting content ---".toList

/-- `prepare_edit_binding`. -/
def prepare_edit_binding (b : Boundary) (root : Node) (path old_text new_text : String)
    (max_bytes : Int) : Except WorkspaceError EditBinding := do
  let (binding, current) ← inspect_mutation b root path max_bytes
  let current ← expect current (.security "edit target does not exist")
  let updated ← updated_content current old_text new_text
  refuse_security (updated.length > max_bytes) "edited content exceeds the configured write bound"
  pure
    { target_digest := binding.target_digest
      precondition_digest := binding.precondition_digest
      new_content_digest := sha256 updated
      effect_preview := effect_preview path old_text new_text updated }

/-! ### Replacing -/

/-- The system calls of a replacement, in their order. -/
inductive Step where
  | create
  | chmod
  | write
  | sync_file
  | close_file
  | rename
  | sync_directory
  | close_directory
  deriving DecidableEq

/-- Which system calls fail, how much a failing write leaves, and whether the
    temporary file can be unlinked afterwards. -/
structure Faults where
  fails : Step → Bool
  written : Nat
  unlink_fails : Bool

/-- No call fails. -/
def Faults.none : Faults := { fails := fun _ => false, written := 0, unlink_fails := false }

/-- A call before the rename fails, or the rename. -/
def Faults.before_rename (faults : Faults) : Bool :=
  [Step.create, .chmod, .write, .sync_file, .close_file, .rename].any faults.fails

/-- Only calls after the rename fail. -/
def Faults.only_after_rename (faults : Faults) : Bool :=
  !faults.before_rename && (faults.fails .sync_directory || faults.fails .close_directory)

/-- The process and the inode the temporary file gets. -/
structure Writer where
  pid : Nat
  fresh : Stat

section
variable (faults : Faults) (writer : Writer)

/-- The name of the temporary file. -/
def temp_name (name : String) (data : List UInt8) : String :=
  "." ++ name ++ ".tmp-" ++ toString writer.pid ++ "-" ++ PyText.take (sha256 data) 12

def remove_entry (name : String) (entries : Entries) : Entries :=
  entries.filter fun e => e.1 ≠ name

/-- `unlink` of the temporary file. -/
def unlink_temp (temp : String) (entries : Entries) : Entries :=
  if faults.unlink_fails then entries else remove_entry temp entries

/-- `os.replace`. -/
def rename_entry (temp name : String) (node : Node) (entries : Entries) : Entries :=
  (name, node) :: remove_entry name (remove_entry temp entries)

/-- `atomic_replace` in the opened directory: the entries it leaves, and
    whether it returns. -/
def replace_entries (name : String) (data : List UInt8) (entries : Entries) :
    Entries × Except WorkspaceError Unit :=
  let temp := temp_name writer name data
  let with_temp := fun written => entries ++ [(temp, Node.file writer.fresh true true written)]
  let failed := fun left => (unlink_temp faults temp left, Except.error WorkspaceError.os_error)
  if faults.fails .create ∨ (find_entry temp entries).isSome then failed entries
  else if faults.fails .chmod then failed (with_temp [])
  else if faults.fails .write then failed (with_temp (data.take faults.written))
  else if faults.fails .sync_file then failed (with_temp data)
  -- the handler closes the file again, which raises before it unlinks
  else if faults.fails .close_file then (with_temp data, .error .os_error)
  else if faults.fails .rename then failed (with_temp data)
  else
    let renamed := rename_entry temp name (.file writer.fresh true true data) (with_temp data)
    if faults.fails .sync_directory then failed renamed
    else if faults.fails .close_directory then (renamed, .error .os_error)
    else (renamed, .ok ())

/-- `atomic_replace`. -/
def atomic_replace (b : Boundary) (root : Node) (raw_path : String) (data : List UInt8) :
    Node × Except WorkspaceError Unit :=
  let checked : Except WorkspaceError (List String × Entries × String) := do
    let parts ← b.validate_relative raw_path false false
    let (entries, name) ← open_parent b root parts
    match open_regular b entries name with
    | .error .file_not_found => pure (parts, entries, name)
    | .error e               => .error e
    | .ok _                  => pure (parts, entries, name)
  match checked with
  | .error e                    => (root, .error e)
  | .ok (parts, entries, name)  =>
    (root.modify (fun entries => (replace_entries faults writer name data entries).1) parts.dropLast,
      (replace_entries faults writer name data entries).2)

/-- The edited bytes `edit_file` computes from a fresh read. -/
def recomputed_content (b : Boundary) (root : Node) (path old_text new_text : String)
    (max_bytes : Int) : Except WorkspaceError (List UInt8) := do
  let (_, current) ← inspect_mutation b root path max_bytes
  let current ← expect current (.security "edit target does not exist")
  updated_content current old_text new_text

/-- `edit_file`: the workspace it leaves, and what it returns. -/
def edit_file (b : Boundary) (root : Node) (path old_text new_text : String) (max_bytes : Int) :
    Node × Except WorkspaceError String :=
  match recomputed_content b root path old_text new_text max_bytes with
  | .error e    => (root, .error e)
  | .ok updated =>
    let (root, result) := atomic_replace faults writer b root path updated
    (root, do
      result
      pure ("edited " ++ path ++ " (" ++ toString updated.length ++ " bytes)"))

end

/-! ### The target -/

/-- The bytes of an entry. -/
def entry_bytes : Option Node → Option (List UInt8)
  | some (.file _ _ _ data) => some data
  | _                       => none

/-- The bytes a path holds. -/
def target_bytes (b : Boundary) (root : Node) (path : String) : Option (List UInt8) :=
  match b.validate_relative path false false with
  | .error _  => none
  | .ok parts =>
    match open_parent b root parts with
    | .error _            => none
    | .ok (entries, name) => entry_bytes (find_entry name entries)

/-- No entry has the name of the temporary file. -/
def temp_free (writer : Writer) (b : Boundary) (root : Node) (path : String)
    (data : List UInt8) : Bool :=
  match b.validate_relative path false false with
  | .error _  => true
  | .ok parts =>
    match open_parent b root parts with
    | .error _            => true
    | .ok (entries, name) => (find_entry (temp_name writer name data) entries).isNone

/-- `inspect_mutation` finds a file when the target is one and within the bound. -/
theorem inspect_mutation_some {b : Boundary} {root : Node} {path : String} {max_bytes : Int}
    {current : List UInt8} :
    (∃ binding, inspect_mutation b root path max_bytes = .ok (binding, some current)) ↔
      (∃ info, target_file b root path = .ok (info, current)) ∧ 1 ≤ max_bytes ∧
        (current.length : Int) ≤ max_bytes := by
  unfold inspect_mutation
  constructor
  · rintro ⟨binding, h⟩
    obtain ⟨parts, hparts, h⟩ := bind_eq_ok.mp h
    obtain ⟨⟨entries, name⟩, hparent, h⟩ := bind_eq_ok.mp h
    cases hopen : open_regular b entries name with
    | error e =>
      dsimp only at h
      rw [hopen] at h
      cases e <;> simp [pure, Except.pure] at h
    | ok found =>
      obtain ⟨info, data⟩ := found
      dsimp only at h
      rw [hopen] at h
      obtain ⟨read, hread, h⟩ := bind_eq_ok.mp h
      obtain ⟨hpositive, hbound, rfl⟩ := read_bounded_eq_ok.mp hread
      obtain ⟨-, hdata⟩ := Prod.mk.inj (pure_eq_ok.mp h)
      obtain rfl := Option.some.inj hdata
      exact ⟨⟨info, target_file_eq_ok.mpr ⟨parts, entries, name, hparts, hparent, hopen⟩⟩,
        hpositive, hbound⟩
  · rintro ⟨⟨info, hfile⟩, hpositive, hbound⟩
    obtain ⟨parts, entries, name, hparts, hparent, hopen⟩ := target_file_eq_ok.mp hfile
    refine ⟨
      { target_digest := sha256 (encode ("/".intercalate parts).toList)
        precondition_digest := sha256 (encode (precondition_text info current).toList) }, ?_⟩
    refine bind_eq_ok.mpr ⟨parts, hparts, bind_eq_ok.mpr ⟨(entries, name), hparent, ?_⟩⟩
    dsimp only
    rw [hopen]
    exact bind_eq_ok.mpr ⟨current, read_bounded_eq_ok.mpr ⟨hpositive, hbound, rfl⟩, rfl⟩

/-- `_updated_content` needs a first occurrence that every other one overlaps. -/
theorem updated_content_eq_ok {current updated : List UInt8} {old_text new_text : String} :
    updated_content current old_text new_text = .ok updated ↔
      ∃ before after, current = encode (before ++ old_text.toList ++ after) ∧
        (∀ i, PyText.occurs_at old_text.toList (before ++ old_text.toList ++ after) i →
          i = before.length ∨ (before.length < i ∧ i < before.length + old_text.toList.length)) ∧
        updated = encode (before ++ new_text.toList ++ after) := by
  simp only [updated_content, bind_eq_ok, expect_eq_ok, refuse_eq_ok, pure_eq_ok, not_not,
    Utf8.Decoder.decode_strict_eq_some]
  constructor
  · rintro ⟨text, rfl, _, hcount, rfl⟩
    obtain ⟨before, after, hfirst, hall⟩ := PyText.count_eq_one.mp hcount
    refine ⟨before, after, ?_, ?_, ?_⟩
    · rw [hfirst.split, encode]
    · rw [← hfirst.split]
      exact hall
    · rw [PyText.replace_first_eq hfirst]
  · rintro ⟨before, after, rfl, hall, rfl⟩
    have hfirst : PyText.First old_text.toList (before ++ old_text.toList ++ after) before after := by
      refine ⟨rfl, fun i hi hocc => ?_⟩
      have hwhere := hall i hocc
      omega
    refine ⟨_, rfl, (), PyText.count_eq_one.mpr ⟨before, after, hfirst, hall⟩, ?_⟩
    rw [PyText.replace_first_eq hfirst]

/-! ### The replacement -/

section
variable {faults : Faults} {writer : Writer}

theorem temp_name_ne (writer : Writer) (name : String) (data : List UInt8) : temp_name writer name data ≠ name := by
  intro h
  have hlength := congrArg String.length h
  simp only [temp_name, String.length_append] at hlength
  have hdot : ".".length = 1 := by decide
  omega

theorem find_entry_append {name temp : String} {node : Node} {entries : Entries}
    (hne : temp ≠ name) :
    find_entry name (entries ++ [(temp, node)]) = find_entry name entries := by
  unfold find_entry
  rw [List.find?_append]
  simp [hne]

theorem find_entry_remove {name temp : String} {entries : Entries} (hne : temp ≠ name) :
    find_entry name (remove_entry temp entries) = find_entry name entries := by
  unfold find_entry remove_entry
  rw [List.find?_filter]
  congr 2
  funext e
  by_cases he : e.1 = name
  · simp [he, hne.symm]
  · simp [he]

theorem find_entry_unlink {name temp : String} {entries : Entries} (hne : temp ≠ name) :
    find_entry name (unlink_temp faults temp entries) = find_entry name entries := by
  unfold unlink_temp
  split
  · rfl
  · exact find_entry_remove hne

theorem find_entry_rename {name temp : String} {node : Node} {entries : Entries} :
    find_entry name (rename_entry temp name node entries) = some node := by
  simp [find_entry, rename_entry]

variable (faults writer) in
/-- A replacement leaves the entry, or every call up to the rename worked. -/
theorem replace_entries_cases (name : String) (data : List UInt8) (entries : Entries) :
    ((replace_entries faults writer name data entries).2 = .error .os_error ∧
      find_entry name (replace_entries faults writer name data entries).1 =
        find_entry name entries) ∨
    (faults.before_rename = false ∧
      find_entry name (replace_entries faults writer name data entries).1 =
        some (.file writer.fresh true true data) ∧
      ((replace_entries faults writer name data entries).2 = .ok () ∨
        faults.fails .sync_directory = true ∨ faults.fails .close_directory = true)) := by
  have hne := temp_name_ne writer name data
  unfold replace_entries
  dsimp only
  by_cases hcreate : faults.fails .create = true ∨
      (find_entry (temp_name writer name data) entries).isSome = true
  · left
    rw [if_pos hcreate]
    exact ⟨rfl, find_entry_unlink hne⟩
  rw [if_neg hcreate]
  -- until the rename the text is only under its temporary name, which goes
  have hleft : ∀ written : List UInt8, find_entry name (unlink_temp faults
      (temp_name writer name data) (entries ++ [(temp_name writer name data,
        Node.file writer.fresh true true written)])) = find_entry name entries := fun written => by
    rw [find_entry_unlink hne, find_entry_append hne]
  by_cases hchmod : faults.fails .chmod = true
  · left
    rw [if_pos hchmod]
    exact ⟨rfl, hleft _⟩
  rw [if_neg hchmod]
  by_cases hwrite : faults.fails .write = true
  · left
    rw [if_pos hwrite]
    exact ⟨rfl, hleft _⟩
  rw [if_neg hwrite]
  by_cases hsync : faults.fails .sync_file = true
  · left
    rw [if_pos hsync]
    exact ⟨rfl, hleft _⟩
  rw [if_neg hsync]
  by_cases hclose : faults.fails .close_file = true
  · left
    rw [if_pos hclose]
    exact ⟨rfl, find_entry_append hne⟩
  rw [if_neg hclose]
  by_cases hrename : faults.fails .rename = true
  · left
    rw [if_pos hrename]
    exact ⟨rfl, hleft _⟩
  rw [if_neg hrename]
  -- from the rename on the new text is in place, whatever fails after it
  right
  have hbefore : faults.before_rename = false := by
    have hcreated : ¬ faults.fails .create = true := fun h => hcreate (Or.inl h)
    simp only [Bool.not_eq_true] at hcreated hchmod hwrite hsync hclose hrename
    simp [Faults.before_rename, hcreated, hchmod, hwrite, hsync, hclose, hrename]
  refine ⟨hbefore, ?_⟩
  by_cases hdirectory : faults.fails .sync_directory = true
  · rw [if_pos hdirectory]
    exact ⟨by rw [find_entry_unlink hne, find_entry_rename], Or.inr (Or.inl hdirectory)⟩
  rw [if_neg hdirectory]
  by_cases hclosed : faults.fails .close_directory = true
  · rw [if_pos hclosed]
    exact ⟨find_entry_rename, Or.inr (Or.inr hclosed)⟩
  · rw [if_neg hclosed]
    exact ⟨find_entry_rename, Or.inl rfl⟩

/-- A replacement that fails leaves the entry, or it failed behind the rename. -/
theorem replace_entries_error {name : String} {data : List UInt8} {entries : Entries}
    {e : WorkspaceError} (h : (replace_entries faults writer name data entries).2 = .error e) :
    find_entry name (replace_entries faults writer name data entries).1 =
      find_entry name entries ∨
    (faults.only_after_rename = true ∧
      find_entry name (replace_entries faults writer name data entries).1 =
        some (.file writer.fresh true true data)) := by
  obtain ⟨-, hleft⟩ | ⟨hbefore, hfound, hresult⟩ :=
    replace_entries_cases faults writer name data entries
  · exact Or.inl hleft
  · refine Or.inr ⟨?_, hfound⟩
    rw [Faults.only_after_rename, hbefore]
    obtain hok | hsync | hclose := hresult
    · rw [hok] at h
      cases h
    · simp [hsync]
    · simp [hclose]

/-- A replacement that returns leaves the data under the name. -/
theorem replace_entries_ok {name : String} {data : List UInt8} {entries : Entries}
    (h : (replace_entries faults writer name data entries).2 = .ok ()) :
    find_entry name (replace_entries faults writer name data entries).1 =
      some (.file writer.fresh true true data) := by
  obtain ⟨herror, -⟩ | ⟨-, hfound, -⟩ :=
    replace_entries_cases faults writer name data entries
  · rw [herror] at h
    cases h
  · exact hfound

/-- With no fault and a free name the replacement returns. -/
theorem replace_entries_none {name : String} {data : List UInt8} {entries : Entries}
    (hfree : (find_entry (temp_name writer name data) entries).isNone = true) :
    (replace_entries Faults.none writer name data entries).2 = .ok () := by
  rw [Option.isNone_iff_eq_none] at hfree
  simp [replace_entries, Faults.none, hfree]

/-! ### The whole edit -/

/-- A changed directory changes what the path holds. -/
theorem target_bytes_modify {b : Boundary} {root : Node} {path : String} {parts : List String}
    {entries : Entries} {name : String} {f : Entries → Entries}
    (hparts : b.validate_relative path false false = .ok parts)
    (hparent : open_parent b root parts = .ok (entries, name)) :
    target_bytes b root path = entry_bytes (find_entry name entries) ∧
      target_bytes b (root.modify f parts.dropLast) path =
        entry_bytes (find_entry name (f entries)) := by
  have hchanged : open_parent b (root.modify f parts.dropLast) parts = .ok (f entries, name) := by
    unfold open_parent at hparent ⊢
    obtain ⟨found, hopen, hfound⟩ := bind_eq_ok.mp hparent
    obtain ⟨rfl, rfl⟩ := Prod.mk.inj (pure_eq_ok.mp hfound)
    exact bind_eq_ok.mpr ⟨f found, open_directory_modify hopen, rfl⟩
  unfold target_bytes
  rw [hparts]
  dsimp only
  rw [hparent, hchanged]
  exact ⟨rfl, rfl⟩

variable (faults writer) in
/-- What `atomic_replace` does: it refuses, or it replaces in the directory. -/
theorem atomic_replace_cases (b : Boundary) (root : Node) (path : String) (data : List UInt8) :
    (∃ e, atomic_replace faults writer b root path data = (root, .error e)) ∨
    (∃ parts entries name, b.validate_relative path false false = .ok parts ∧
      open_parent b root parts = .ok (entries, name) ∧
      atomic_replace faults writer b root path data =
        (root.modify (fun entries => (replace_entries faults writer name data entries).1)
          parts.dropLast, (replace_entries faults writer name data entries).2)) := by
  unfold atomic_replace
  dsimp only
  split
  · next e he => exact Or.inl ⟨e, rfl⟩
  · next parts entries name hchecked =>
    right
    obtain ⟨parts', hparts, h⟩ := bind_eq_ok.mp hchecked
    obtain ⟨⟨entries', name'⟩, hparent, h⟩ := bind_eq_ok.mp h
    have hsame : (parts', entries', name') = (parts, entries, name) := by
      dsimp only at h
      split at h
      · exact pure_eq_ok.mp h
      · cases h
      · exact pure_eq_ok.mp h
    obtain ⟨rfl, hrest⟩ := Prod.mk.inj hsame
    obtain ⟨rfl, rfl⟩ := Prod.mk.inj hrest
    exact ⟨parts', entries', name', hparts, hparent, rfl⟩

variable (faults writer) in
/-- An admitted target is replaced. -/
theorem atomic_replace_file {b : Boundary} {root : Node} {path : String} {current : List UInt8}
    {info : Stat} (data : List UInt8) (hfile : target_file b root path = .ok (info, current)) :
    ∃ parts entries name, b.validate_relative path false false = .ok parts ∧
      open_parent b root parts = .ok (entries, name) ∧
      atomic_replace faults writer b root path data =
        (root.modify (fun entries => (replace_entries faults writer name data entries).1)
          parts.dropLast, (replace_entries faults writer name data entries).2) := by
  obtain ⟨parts, entries, name, hparts, hparent, hopen⟩ := target_file_eq_ok.mp hfile
  refine ⟨parts, entries, name, hparts, hparent, ?_⟩
  unfold atomic_replace
  rw [hparts]
  dsimp only [bind, Except.bind]
  rw [hparent]
  dsimp only
  rw [hopen]
  rfl

/-- A replacement that fails leaves the target, or it failed behind the rename. -/
theorem atomic_replace_error {b : Boundary} {root root' : Node} {path : String} {data : List UInt8}
    {e : WorkspaceError} (h : atomic_replace faults writer b root path data = (root', .error e)) :
    target_bytes b root' path = target_bytes b root path ∨
      (faults.only_after_rename = true ∧ target_bytes b root' path = some data) := by
  obtain ⟨e', he⟩ | ⟨parts, entries, name, hparts, hparent, he⟩ :=
    atomic_replace_cases faults writer b root path data
  · rw [he] at h
    rw [(Prod.mk.inj h).1]
    exact Or.inl rfl
  · rw [he] at h
    obtain ⟨rfl, herror⟩ := Prod.mk.inj h
    obtain ⟨hbefore, hafter⟩ := target_bytes_modify
      (f := fun entries => (replace_entries faults writer name data entries).1) hparts hparent
    rw [hbefore, hafter]
    obtain hleft | ⟨hlate, hfound⟩ := replace_entries_error herror
    · rw [hleft]
      exact Or.inl rfl
    · rw [hfound]
      exact Or.inr ⟨hlate, rfl⟩

/-- A replacement that returns leaves the data in the target. -/
theorem atomic_replace_ok {b : Boundary} {root root' : Node} {path : String} {data : List UInt8}
    (h : atomic_replace faults writer b root path data = (root', .ok ())) :
    target_bytes b root' path = some data := by
  obtain ⟨e', he⟩ | ⟨parts, entries, name, hparts, hparent, he⟩ :=
    atomic_replace_cases faults writer b root path data
  · rw [he] at h
    cases (Prod.mk.inj h).2
  · rw [he] at h
    obtain ⟨rfl, hok⟩ := Prod.mk.inj h
    obtain ⟨-, hafter⟩ := target_bytes_modify
      (f := fun entries => (replace_entries faults writer name data entries).1) hparts hparent
    rw [hafter, replace_entries_ok hok]
    rfl

theorem recomputed_content_eq_ok {b : Boundary} {root : Node} {path old_text new_text : String}
    {max_bytes : Int} {updated : List UInt8} :
    recomputed_content b root path old_text new_text max_bytes = .ok updated ↔
      ∃ info current, target_file b root path = .ok (info, current) ∧ 1 ≤ max_bytes ∧
        (current.length : Int) ≤ max_bytes ∧
        updated_content current old_text new_text = .ok updated := by
  constructor
  · intro h
    obtain ⟨⟨binding, found⟩, hinspect, h⟩ := bind_eq_ok.mp h
    obtain ⟨current, hfound, hupdated⟩ := bind_eq_ok.mp h
    obtain rfl := expect_eq_ok.mp hfound
    obtain ⟨⟨info, hfile⟩, hpositive, hbound⟩ := inspect_mutation_some.mp ⟨binding, hinspect⟩
    exact ⟨info, current, hfile, hpositive, hbound, hupdated⟩
  · rintro ⟨info, current, hfile, hpositive, hbound, hupdated⟩
    obtain ⟨binding, hinspect⟩ := inspect_mutation_some.mpr ⟨⟨info, hfile⟩, hpositive, hbound⟩
    exact bind_eq_ok.mpr ⟨(binding, some current), hinspect,
      bind_eq_ok.mpr ⟨current, expect_eq_ok.mpr rfl, hupdated⟩⟩

theorem prepare_edit_binding_eq_ok {b : Boundary} {root : Node}
    {path old_text new_text : String} {max_bytes : Int} :
    (∃ binding, prepare_edit_binding b root path old_text new_text max_bytes = .ok binding) ↔
      ∃ updated, recomputed_content b root path old_text new_text max_bytes = .ok updated ∧
        (updated.length : Int) ≤ max_bytes := by
  constructor
  · rintro ⟨binding, h⟩
    obtain ⟨⟨inspected, found⟩, hinspect, h⟩ := bind_eq_ok.mp h
    obtain ⟨current, hfound, h⟩ := bind_eq_ok.mp h
    obtain ⟨updated, hupdated, h⟩ := bind_eq_ok.mp h
    obtain ⟨_, hbound, -⟩ := bind_eq_ok.mp h
    refine ⟨updated, ?_, Int.not_lt.mp (refuse_eq_ok.mp hbound)⟩
    exact bind_eq_ok.mpr ⟨(inspected, found), hinspect, bind_eq_ok.mpr ⟨current, hfound, hupdated⟩⟩
  · rintro ⟨updated, h, hbound⟩
    obtain ⟨⟨inspected, found⟩, hinspect, h⟩ := bind_eq_ok.mp h
    obtain ⟨current, hfound, hupdated⟩ := bind_eq_ok.mp h
    refine ⟨_, bind_eq_ok.mpr ⟨(inspected, found), hinspect, bind_eq_ok.mpr ⟨current, hfound,
      bind_eq_ok.mpr ⟨updated, hupdated, bind_eq_ok.mpr ⟨(), ?_, rfl⟩⟩⟩⟩⟩
    exact refuse_eq_ok.mpr (Int.not_lt.mpr hbound)

/-- What a binding says of the edited bytes. -/
theorem prepare_edit_binding_shows {b : Boundary} {root : Node}
    {path old_text new_text : String} {max_bytes : Int} {binding : EditBinding}
    (h : prepare_edit_binding b root path old_text new_text max_bytes = .ok binding) :
    ∃ updated, recomputed_content b root path old_text new_text max_bytes = .ok updated ∧
      (updated.length : Int) ≤ max_bytes ∧ binding.new_content_digest = sha256 updated ∧
      binding.effect_preview = effect_preview path old_text new_text updated := by
  obtain ⟨⟨inspected, found⟩, hinspect, h⟩ := bind_eq_ok.mp h
  obtain ⟨current, hfound, h⟩ := bind_eq_ok.mp h
  obtain ⟨updated, hupdated, h⟩ := bind_eq_ok.mp h
  obtain ⟨_, hbound, h⟩ := bind_eq_ok.mp h
  obtain rfl := pure_eq_ok.mp h
  refine ⟨updated, ?_, Int.not_lt.mp (refuse_eq_ok.mp hbound), rfl, rfl⟩
  exact bind_eq_ok.mpr ⟨(inspected, found), hinspect, bind_eq_ok.mpr ⟨current, hfound, hupdated⟩⟩

/-- An edit either fails before it replaces or replaces with the recomputed bytes. -/
theorem edit_file_eq {b : Boundary} {root : Node} {path old_text new_text : String}
    {max_bytes : Int} {updated : List UInt8}
    (h : recomputed_content b root path old_text new_text max_bytes = .ok updated) :
    edit_file faults writer b root path old_text new_text max_bytes =
      ((atomic_replace faults writer b root path updated).1,
        (atomic_replace faults writer b root path updated).2 >>= fun _ =>
          pure ("edited " ++ path ++ " (" ++ toString updated.length ++ " bytes)")) := by
  unfold edit_file
  rw [h]

/-- A failing edit leaves the target, or it failed behind the rename. -/
theorem edit_file_error {b : Boundary} {root root' : Node} {path old_text new_text : String}
    {max_bytes : Int} {e : WorkspaceError}
    (h : edit_file faults writer b root path old_text new_text max_bytes = (root', .error e)) :
    target_bytes b root' path = target_bytes b root path ∨
      (faults.only_after_rename = true ∧
        ∃ updated, recomputed_content b root path old_text new_text max_bytes = .ok updated ∧
          target_bytes b root' path = some updated) := by
  cases hupdated : recomputed_content b root path old_text new_text max_bytes with
  | error e' =>
    unfold edit_file at h
    rw [hupdated] at h
    rw [(Prod.mk.inj h).1]
    exact Or.inl rfl
  | ok updated =>
    rw [edit_file_eq hupdated] at h
    obtain ⟨rfl, herror⟩ := Prod.mk.inj h
    obtain hreplace | ⟨_, -, hnever⟩ := bind_eq_error.mp herror
    · obtain hleft | ⟨hlate, hbytes⟩ := atomic_replace_error (Prod.ext rfl hreplace)
      · exact Or.inl hleft
      · exact Or.inr ⟨hlate, updated, rfl, hbytes⟩
    · cases hnever

/-- A returning edit leaves the recomputed bytes. -/
theorem edit_file_ok {b : Boundary} {root root' : Node} {path old_text new_text message : String}
    {max_bytes : Int}
    (h : edit_file faults writer b root path old_text new_text max_bytes = (root', .ok message)) :
    ∃ updated, recomputed_content b root path old_text new_text max_bytes = .ok updated ∧
      target_bytes b root' path = some updated := by
  cases hupdated : recomputed_content b root path old_text new_text max_bytes with
  | error e' =>
    unfold edit_file at h
    rw [hupdated] at h
    cases (Prod.mk.inj h).2
  | ok updated =>
    rw [edit_file_eq hupdated] at h
    obtain ⟨rfl, hok⟩ := Prod.mk.inj h
    obtain ⟨_, hreplace, -⟩ := bind_eq_ok.mp hok
    exact ⟨updated, rfl, atomic_replace_ok (Prod.ext rfl hreplace)⟩

/-- With no fault and a free temporary name an edit returns. -/
theorem edit_file_returns {b : Boundary} {root : Node} {path old_text new_text : String}
    {max_bytes : Int} {updated : List UInt8}
    (h : recomputed_content b root path old_text new_text max_bytes = .ok updated)
    (hfree : temp_free writer b root path updated = true) :
    ∃ root' message,
      edit_file Faults.none writer b root path old_text new_text max_bytes = (root', .ok message) := by
  obtain ⟨info, current, hfile, -, -, -⟩ := recomputed_content_eq_ok.mp h
  obtain ⟨parts, entries, name, hparts, hparent, hreplace⟩ :=
    atomic_replace_file Faults.none writer updated hfile
  have hname : (find_entry (temp_name writer name updated) entries).isNone = true := by
    unfold temp_free at hfree
    rw [hparts] at hfree
    dsimp only at hfree
    rw [hparent] at hfree
    exact hfree
  rw [edit_file_eq h, hreplace, replace_entries_none hname]
  exact ⟨_, _, rfl⟩

end

/-- An approved edit is what is written. -/
theorem edit_writes_what_was_approved (b : Boundary) (root : Node)
    (path old_text new_text : String) (max_bytes : Int) :
    -- one position, valid text and both bounds are enough to prepare
    (∀ info before after,
      target_file b root path = .ok (info, encode (before ++ old_text.toList ++ after)) →
      (∀ i, PyText.occurs_at old_text.toList (before ++ old_text.toList ++ after) i →
        i = before.length) →
      1 ≤ max_bytes →
      ((encode (before ++ old_text.toList ++ after)).length : Int) ≤ max_bytes →
      ((encode (before ++ new_text.toList ++ after)).length : Int) ≤ max_bytes →
      ∃ binding, prepare_edit_binding b root path old_text new_text max_bytes = .ok binding) ∧
    -- what was prepared is what an edit of the same file writes
    (∀ binding, prepare_edit_binding b root path old_text new_text max_bytes = .ok binding →
      ∃ info before after,
        target_file b root path = .ok (info, encode (before ++ old_text.toList ++ after)) ∧
        (∀ i, PyText.occurs_at old_text.toList (before ++ old_text.toList ++ after) i →
          i = before.length ∨ (before.length < i ∧ i < before.length + old_text.toList.length)) ∧
        1 ≤ max_bytes ∧
        ((encode (before ++ old_text.toList ++ after)).length : Int) ≤ max_bytes ∧
        ((encode (before ++ new_text.toList ++ after)).length : Int) ≤ max_bytes ∧
        binding.new_content_digest = sha256 (encode before ++ encode new_text.toList ++ encode after) ∧
        (∃ head, binding.effect_preview =
          head ++ (before ++ new_text.toList ++ after) ++ "\n--- end resulting content ---".toList) ∧
        ∀ writer,
          (temp_free writer b root path (encode (before ++ new_text.toList ++ after)) = true →
            ∃ root' message, edit_file Faults.none writer b root path old_text new_text max_bytes =
              (root', .ok message)) ∧
          ∀ faults root' message,
            edit_file faults writer b root path old_text new_text max_bytes =
              (root', .ok message) →
            target_bytes b root' path =
              some (encode before ++ encode new_text.toList ++ encode after)) ∧
    -- a failure leaves the target, or it came behind the rename
    (∀ faults writer root' e,
      edit_file faults writer b root path old_text new_text max_bytes = (root', .error e) →
      target_bytes b root' path = target_bytes b root path ∨
        (faults.only_after_rename = true ∧
          ∃ updated, recomputed_content b root path old_text new_text max_bytes = .ok updated ∧
            target_bytes b root' path = some updated)) ∧
    (∀ faults writer data root' e,
      atomic_replace faults writer b root path data = (root', .error e) →
      target_bytes b root' path = target_bytes b root path ∨
        (faults.only_after_rename = true ∧ target_bytes b root' path = some data)) := by
  refine ⟨?_, ?_, fun _ _ _ _ h => edit_file_error h, fun _ _ _ _ _ h => atomic_replace_error h⟩
  · intro info before after hfile hunique hpositive hcurrent hupdated
    refine prepare_edit_binding_eq_ok.mpr ⟨_, recomputed_content_eq_ok.mpr
      ⟨info, _, hfile, hpositive, hcurrent, ?_⟩, hupdated⟩
    exact updated_content_eq_ok.mpr ⟨before, after, rfl, fun i hocc => Or.inl (hunique i hocc), rfl⟩
  · intro binding h
    obtain ⟨updated, hrecomputed, hbound, hdigest, hpreview⟩ := prepare_edit_binding_shows h
    obtain ⟨info, current, hfile, hpositive, hcurrent, hcontent⟩ :=
      recomputed_content_eq_ok.mp hrecomputed
    obtain ⟨before, after, rfl, hall, rfl⟩ := updated_content_eq_ok.mp hcontent
    have hsplit : encode (before ++ new_text.toList ++ after) =
        encode before ++ encode new_text.toList ++ encode after := by
      simp [encode]
    have hdecode : Utf8.Decoder.decode_strict (encode (before ++ new_text.toList ++ after)) =
        some (before ++ new_text.toList ++ after) := Utf8.Decoder.decode_strict_eq_some.mpr rfl
    refine ⟨info, before, after, hfile, hall, hpositive, hcurrent, hbound, ?_, ?_, ?_⟩
    · rw [hdigest, hsplit]
    · rw [hpreview, effect_preview, hdecode]
      exact ⟨_, rfl⟩
    · intro writer
      refine ⟨edit_file_returns hrecomputed, fun faults root' message hedit => ?_⟩
      obtain ⟨written, hwritten, hbytes⟩ := edit_file_ok hedit
      obtain rfl := ok_eq_ok.mp (hrecomputed.symm.trans hwritten)
      rw [hbytes, hsplit]

/-! ### Runs on one file -/

/-- A workspace with one file, `a`. -/
def one_file (data : List UInt8) : Node :=
  .directory ⟨1, 1, 1, 0, 0⟩ true true [("a", .file ⟨1, 2, 1, 0, 0⟩ true true data)]

/-- The directory cannot be synced. -/
def directory_unsynced : Faults :=
  { fails := fun step => step = .sync_directory, written := 0, unlink_fails := false }

/-- A process and an inode. -/
def plain_writer : Writer := { pid := 7, fresh := ⟨1, 3, 1, 0, 0⟩ }

theorem one_file_target (data : List UInt8) :
    target_file plain_boundary (one_file data) "a" = .ok (⟨1, 2, 1, 0, 0⟩, data) := by
  rfl

/-- A failure to sync the directory raises behind the rename. -/
theorem replace_entries_unsynced {name : String} {data : List UInt8} {entries : Entries}
    (hfree : (find_entry (temp_name plain_writer name data) entries).isNone = true) :
    (replace_entries directory_unsynced plain_writer name data entries).2 = .error .os_error ∧
      find_entry name (replace_entries directory_unsynced plain_writer name data entries).1 =
        some (.file plain_writer.fresh true true data) := by
  rw [Option.isNone_iff_eq_none] at hfree
  have hne := temp_name_ne plain_writer name data
  have hleft : find_entry name (unlink_temp directory_unsynced (temp_name plain_writer name data)
      (rename_entry (temp_name plain_writer name data) name
        (.file plain_writer.fresh true true data) (entries ++ [(temp_name plain_writer name data,
          .file plain_writer.fresh true true data)]))) = _ := find_entry_unlink hne
  rw [find_entry_rename] at hleft
  simp [replace_entries, directory_unsynced, hfree] at hleft ⊢
  exact hleft

theorem one_file_free (data updated : List UInt8) :
    temp_free plain_writer plain_boundary (one_file data) "a" updated = true := by
  have hne := temp_name_ne plain_writer "a" updated
  change (find_entry (temp_name plain_writer "a" updated)
    [("a", Node.file ⟨1, 2, 1, 0, 0⟩ true true data)]).isNone = true
  simp [find_entry, hne.symm]

/-- A second occurrence that overlaps the first is not counted, a bound of zero
    is refused, and a directory that cannot be synced raises behind the rename. -/
theorem edit_differs :
    (Fallible.succeeds
        (prepare_edit_binding plain_boundary (one_file [97, 97, 97]) "a" "aa" "b" 8)
        (fun _ => true) = true ∧
      PyText.occurs_at "aa".toList "aaa".toList 0 ∧ PyText.occurs_at "aa".toList "aaa".toList 1) ∧
    (target_file plain_boundary (one_file []) "a" = .ok (⟨1, 2, 1, 0, 0⟩, encode "".toList) ∧
      (∀ i, PyText.occurs_at "".toList "".toList i → i = 0) ∧
      ((encode "".toList).length : Int) ≤ 0 ∧
      Fallible.succeeds (prepare_edit_binding plain_boundary (one_file []) "a" "" "" 0)
        (fun _ => true) = false) ∧
    ∃ root', edit_file directory_unsynced plain_writer plain_boundary (one_file [97]) "a" "a" "b" 8 =
        (root', .error .os_error) ∧
      target_bytes plain_boundary (one_file [97]) "a" = some [97] ∧
      target_bytes plain_boundary root' "a" = some [98] := by
  refine ⟨⟨by decide +kernel, ⟨[], ['a'], rfl, rfl⟩, ⟨['a'], [], rfl, rfl⟩⟩,
    ⟨rfl, ?_, by decide +kernel, by decide +kernel⟩, ?_⟩
  · rintro i ⟨before, after, hnil, rfl⟩
    have hbefore : before = [] := by
      cases before with
      | nil       => rfl
      | cons c cs => cases hnil
    rw [hbefore]
    rfl
  · have hrecomputed : recomputed_content plain_boundary (one_file [97]) "a" "a" "b" 8 =
        .ok [98] := by
      refine recomputed_content_eq_ok.mpr
        ⟨⟨1, 2, 1, 0, 0⟩, [97], rfl, by decide, by decide, ?_⟩
      decide +kernel
    obtain ⟨parts, entries, name, hparts, hparent, hreplace⟩ :=
      atomic_replace_file directory_unsynced plain_writer [98] (one_file_target [97])
    have hfree : (find_entry (temp_name plain_writer name [98]) entries).isNone = true := by
      have h := one_file_free [97] [98]
      unfold temp_free at h
      rw [hparts] at h
      dsimp only at h
      rw [hparent] at h
      exact h
    obtain ⟨herror, hfound⟩ := replace_entries_unsynced hfree
    obtain ⟨-, hafter⟩ := target_bytes_modify
      (f := fun entries => (replace_entries directory_unsynced plain_writer name [98] entries).1)
      hparts hparent
    rw [hfound] at hafter
    refine ⟨_, ?_, rfl, hafter⟩
    rw [edit_file_eq hrecomputed, hreplace, herror]
    rfl

/-- One edit of one file. -/
theorem edit_one_file :
    (∃ binding, prepare_edit_binding plain_boundary (one_file [97, 98, 97]) "a" "b" "c" 8 =
      .ok binding) ∧
    ∃ root' message,
      edit_file Faults.none plain_writer plain_boundary (one_file [97, 98, 97]) "a" "b" "c" 8 =
        (root', .ok message) ∧
      target_bytes plain_boundary root' "a" = some [97, 99, 97] := by
  obtain ⟨hprepare, -⟩ :=
    edit_writes_what_was_approved plain_boundary (one_file [97, 98, 97]) "a" "b" "c" 8
  have hunique : ∀ i, PyText.occurs_at "b".toList (['a'] ++ "b".toList ++ ['a']) i →
      i = ['a'].length := by
    rintro i ⟨before, after, hsplit, rfl⟩
    match before, hsplit with
    | [_], _                      => rfl
    | _ :: _ :: _ :: before, hsplit => simp at hsplit
  obtain ⟨binding, hbinding⟩ := hprepare ⟨1, 2, 1, 0, 0⟩ ['a'] ['a']
    (one_file_target [97, 98, 97]) hunique (by decide) (by decide) (by decide)
  refine ⟨⟨binding, hbinding⟩, ?_⟩
  have hrecomputed : recomputed_content plain_boundary (one_file [97, 98, 97]) "a" "b" "c" 8 =
      .ok [97, 99, 97] := by
    decide +kernel
  obtain ⟨root', message, hedit⟩ := edit_file_returns hrecomputed
    (one_file_free [97, 98, 97] [97, 99, 97])
  obtain ⟨updated, hupdated, hbytes⟩ := edit_file_ok hedit
  obtain rfl := ok_eq_ok.mp (hrecomputed.symm.trans hupdated)
  exact ⟨root', message, hedit, hbytes⟩

end Workspace
