import Mathlib.Data.List.Sort
import Mathlib.Data.String.Basic
import FirstAgent.Framework.Walk
import FirstAgent.Workspace.Reading

/-! # Discovery

    `list_entries_bounded` lists one directory; `search_paths` and
    `search_text` walk a directory and everything below it within the budgets
    of `TraversalLimits`.  Each shows the entries `_visible_entry` admits.
    The deadline is taken as not reached. -/

open Fallible

namespace Workspace

/-! ### Limits and budgets -/

structure TraversalLimits where
  max_scan_entries : Nat
  max_opened_files : Nat
  max_total_bytes : Nat
  max_single_file_bytes : Nat
  max_depth : Nat
  max_matches : Nat
  max_snippet_chars : Nat
  positive : ∀ value ∈ [max_scan_entries, max_opened_files, max_total_bytes,
    max_single_file_bytes, max_depth, max_matches, max_snippet_chars], 1 ≤ value

/-- Why a search stopped. -/
inductive StopReason where
  | scan_entries
  | matches
  | depth
  | opened_files
  | total_bytes
  | single_file_bytes
  deriving DecidableEq, Repr

def StopReason.text : StopReason → String
  | .scan_entries      => "scan_entries"
  | .matches           => "matches"
  | .depth             => "depth"
  | .opened_files      => "opened_files"
  | .total_bytes       => "total_bytes"
  | .single_file_bytes => "single_file_bytes"

/-- `_TraversalBudget`. -/
structure Budget where
  scanned_entries : Nat
  opened_files : Nat
  total_bytes : Nat
  reason : Option StopReason
  deriving DecidableEq

namespace Budget

def start : Budget := { scanned_entries := 0, opened_files := 0, total_bytes := 0, reason := none }

/-- `stop`: the first reason stays. -/
def stop (budget : Budget) (reason : StopReason) : Budget :=
  match budget.reason with
  | none   => { budget with reason := some reason }
  | some _ => budget

/-- `budget.reason not in {None, "scan_entries"}`. -/
def halted (budget : Budget) : Bool :=
  budget.reason ≠ none && budget.reason ≠ some .scan_entries

end Budget

/-! ### Scanning -/

/-- An admitted entry of a scan. -/
structure Entry where
  name : String
  info : Stat
  kind : Kind
  deriving DecidableEq

/-- The name a listing shows. -/
def Entry.display_name (e : Entry) : String :=
  match e.kind with
  | .file      => e.name
  | .directory => e.name ++ "/"

/-- `_visible_entry`. -/
def visible_entry (b : Boundary) (parts : List String) (entry : String × Node) : Option Entry :=
  let child_parts := parts ++ [entry.1]
  if b.is_sensitive child_parts true then none
  else
    match entry.2 with
    | .file info stat_ok _ _ =>
      if stat_ok = false then none
      else if b.is_sensitive child_parts false then none
      else if info.nlink ≠ 1 then none
      else if info.identity ∈ b.protected_identities then none
      else some { name := entry.1, info, kind := .file }
    | .directory info stat_ok _ _ =>
      if stat_ok = false then none
      else if info.identity ∈ b.protected_identities then none
      else some { name := entry.1, info, kind := .directory }
    | .symlink _ => none
    | .special _ _ => none

section
variable (b : Boundary) (limits : TraversalLimits)

/-- The loop of `_scan_directory`. -/
def scan_entries (parts : List String) : Entries → Budget → Budget × List Entry
  | [], budget               => (budget, [])
  | entry :: entries, budget =>
    if budget.scanned_entries ≥ limits.max_scan_entries then (budget.stop .scan_entries, [])
    else
      let scanned := { budget with scanned_entries := budget.scanned_entries + 1 }
      let rest := scan_entries parts entries scanned
      (rest.1, (visible_entry b parts entry).toList ++ rest.2)

/-- `visible.sort(key=lambda item: item[0])`. -/
def sort_entries (visible : List Entry) : List Entry :=
  visible.insertionSort fun x y => x.name ≤ y.name

/-- `_scan_directory`. -/
def scan_directory (parts : List String) (entries : Entries) (budget : Budget) :
    Budget × List Entry :=
  let scan := scan_entries b limits parts entries budget
  (scan.1, sort_entries scan.2)

/-- Whether `os.open` opens an entry that exists, whatever it is. -/
def opens : Node → Bool
  | .file _ _ open_ok _      => open_ok
  | .directory _ _ open_ok _ => open_ok
  | .symlink _               => false
  | .special _ open_ok       => open_ok

/-- `_open_directory_entry`. -/
def open_directory_entry (entries : Entries) (expected : Entry) :
    Except WorkspaceError Entries :=
  match find_entry expected.name entries with
  | some (.directory info _ true children) => do
    refuse_security (info.identity ≠ expected.info.identity)
      "directory identity changed during traversal"
    pure children
  | _ => .error (.security "directory traversal was denied")

/-- `_open_regular` of a scanned entry. -/
def open_expected (entries : Entries) (expected : Entry) :
    Except WorkspaceError (Stat × List UInt8) := do
  let node ← expect (find_entry expected.name entries) .file_not_found
  refuse_security (opens node = true ∧ node.info.identity ≠ expected.info.identity)
    "file identity changed during traversal"
  open_regular b entries expected.name

/-- `_read_search_bytes`: the bytes within the budgets, and what cut them. -/
def read_search_bytes (data : List UInt8) (budget : Budget) :
    Budget × List UInt8 × Option StopReason :=
  let remaining_total : Int := (limits.max_total_bytes : Int) - budget.total_bytes
  if remaining_total ≤ 0 then (budget, [], some .total_bytes)
  else
    let read_limit := min limits.max_single_file_bytes remaining_total.toNat
    let reason :=
      if data.length > read_limit then
        if (read_limit : Int) = remaining_total then some .total_bytes else some .single_file_bytes
      else none
    let data := data.take read_limit
    ({ budget with total_bytes := budget.total_bytes + data.length }, data, reason)

end

/-! ### Listing -/

structure DirectoryListing where
  path : String
  entries : List String
  truncated : Bool
  truncation_reason : Option String
  snapshot_digest : String

/-- The scan of a listing, with its own bound: the names in the order of the
    scan, and whether it was cut. -/
def listed_names (b : Boundary) (parts : List String) : Int → Entries → List String × Bool
  | _, []                 => ([], false)
  | room, entry :: entries =>
    if room ≤ 0 then ([], true)
    else
      let rest := listed_names b parts (room - 1) entries
      (((visible_entry b parts entry).map Entry.display_name).toList ++ rest.1, rest.2)

/-- The names that fit the output, and whether all did. -/
def bounded_names (max_output_chars : Int) : Int → Bool → List String → List String × Bool
  | _, _, []                         => ([], true)
  | output_chars, first, name :: names =>
    let added : Int := name.length + (if first then 0 else 1)
    if output_chars + added > max_output_chars then ([], false)
    else
      let rest := bounded_names max_output_chars (output_chars + added) false names
      (name :: rest.1, rest.2)

/-- `repr` of an optional text. -/
def repr_option (b : Boundary) : Option String → String
  | none   => "None"
  | some s => b.repr s

def repr_bool (value : Bool) : String := if value then "True" else "False"

/-- `list_entries_bounded`. -/
def list_entries_bounded (b : Boundary) (root : Node) (raw_path : String)
    (max_entries max_scan_entries max_output_chars : Int) :
    Except WorkspaceError DirectoryListing := do
  refuse (max_entries < 1) (.value_error "max_entries must be positive")
  refuse (max_scan_entries < 1 ∨ max_output_chars < 1)
    (.value_error "listing limits must be positive")
  let parts ← b.validate_relative raw_path true true
  let found ← open_directory_parts b root parts
  let (visible, scan_truncated) := listed_names b parts max_scan_entries found
  let selected := (visible.insertionSort (· ≤ ·)).take max_entries.toNat
  let bounded := bounded_names max_output_chars 0 true selected
  let reason :=
    if scan_truncated then some "scan_entries"
    else if visible.length > selected.length then some "matches"
    else if bounded.2 = false then some "output_chars"
    else none
  let path := if parts = [] then "." else "/".intercalate parts
  pure
    { path
      entries := bounded.1
      truncated := reason.isSome
      truncation_reason := reason
      snapshot_digest := sha256 (encode ("\x7b'path': " ++ b.repr path ++ ", 'entries': [" ++
        ", ".intercalate (bounded.1.map b.repr) ++ "], 'truncated': " ++ repr_bool reason.isSome ++
        ", 'truncation_reason': " ++ repr_option b reason ++ "\x7d").toList) }

/-! ### Searching -/

/-- An opened directory and its path. -/
structure Place where
  parts : List String
  entries : Entries

/-- The state of a search; `found` is the list `matches`. -/
structure Search (M : Type) where
  budget : Budget
  found : List M

namespace Search

variable {M : Type}

def start : Search M := { budget := .start, found := [] }

def stop (s : Search M) (reason : StopReason) : Search M :=
  { s with budget := s.budget.stop reason }

/-- `matches.append(m)`. -/
def add (s : Search M) (m : M) : Search M := { s with found := s.found ++ [m] }

/-- Append a match, and stop at `max_results`. -/
def append (max_results : Int) (s : Search M) (m : M) : Search M × Bool :=
  let s := s.add m
  if s.found.length ≥ max_results then (s.stop .matches, true) else (s, false)

end Search

/-- `_validate_search_query`. -/
def validate_search_query (b : Boundary) (query : String) : Except WorkspaceError String := do
  refuse (PyText.strip query = "" ∨ query.length > 256 ∨ b.isprintable query = false)
    (.value_error "workspace search query must be non-empty and bounded")
  pure (b.casefold query)

/-- A directory below a place. -/
def enter_place (place : Place) (e : Entry) : Except WorkspaceError Place := do
  let entries ← open_directory_entry place.entries e
  pure { parts := place.parts ++ [e.name], entries }

/-- The text of a path below a place. -/
def locator (place : Place) (e : Entry) : String := "/".intercalate (place.parts ++ [e.name])

section
variable (b : Boundary) (limits : TraversalLimits) (query : String) (max_results : Int)

/-- The walk of a search; `examine` is what it does with one entry. -/
def search_walk {M : Type}
    (examine : Place → Entry → Search M → Except WorkspaceError (Search M × Bool)) :
    Walk WorkspaceError Place Entry (Search M) where
  scan := fun place s =>
    let scan := scan_directory b limits place.parts place.entries s.budget
    ({ s with budget := scan.1 }, scan.2)
  halted := fun s => s.budget.halted
  descends := fun s => s.budget.reason = none
  examine
  is_directory := fun e => e.kind = .directory
  enter := enter_place
  too_deep := fun s => s.stop .depth

structure PathMatch where
  path : String
  kind : Kind
  snapshot_digest : String
  observed_at : String
  deriving DecidableEq

/-- The match of an entry. -/
def path_match (place : Place) (e : Entry) : PathMatch :=
  { path := locator place e
    kind := e.kind
    snapshot_digest := entry_snapshot_digest b (locator place e) e.info e.kind
    observed_at := observed_at e.info }

/-- The part of `search_paths` for one entry. -/
def examine_path (place : Place) (e : Entry) (s : Search PathMatch) :
    Except WorkspaceError (Search PathMatch × Bool) :=
  if PyText.contains (b.casefold (locator place e)) query then
    .ok (s.append max_results (path_match b place e))
  else .ok (s, false)

structure TextMatch where
  path : String
  line : Nat
  snippet : String
  encoding : Encoding
  content_digest : String
  snapshot_digest : String
  observed_at : String
  truncated : Bool
  deriving DecidableEq

/-- The match of a line. -/
def text_match (place : Place) (e : Entry) (data : List UInt8) (bounded : Bool) (number : Nat)
    (line : List Char) : TextMatch :=
  let snippet := if line.length > limits.max_snippet_chars then line.take limits.max_snippet_chars
    else line
  { path := locator place e
    line := number
    snippet := String.ofList snippet
    encoding := (decode_text data).2
    content_digest := sha256 (encode snippet)
    snapshot_digest := file_snapshot_digest b (locator place e) e.info (sha256 data)
    observed_at := observed_at e.info
    truncated := line.length > limits.max_snippet_chars || bounded }

/-- Whether a line matches the query. -/
def line_matches (line : List Char) : Bool :=
  PyText.contains (b.casefold (String.ofList line)) query

/-- The loop over the lines of a file, from a line number on. -/
def examine_lines (make : Nat → List Char → TextMatch) :
    Nat → List (List Char) → Search TextMatch → Search TextMatch × Bool
  | _, [], s                 => (s, false)
  | number, line :: lines, s =>
    if line_matches b query line then
      let added := s.append max_results (make number line)
      if added.2 then added else examine_lines make (number + 1) lines added.1
    else examine_lines make (number + 1) lines s

/-- Stop at a cut read. -/
def Search.stop_at {M : Type} (s : Search M) : Option StopReason → Search M
  | none        => s
  | some reason => s.stop reason

/-- The part of `search_text` for one entry. -/
def examine_text (place : Place) (e : Entry) (s : Search TextMatch) :
    Except WorkspaceError (Search TextMatch × Bool) :=
  if e.kind = .directory then .ok (s, false)
  else if s.budget.opened_files ≥ limits.max_opened_files then .ok (s.stop .opened_files, true)
  else do
    let (_, data) ← open_expected b place.entries e
    let opened := { s.budget with opened_files := s.budget.opened_files + 1 }
    let (budget, data, bounded) := read_search_bytes limits data opened
    let s := { s with budget }
    if is_binary data then .ok (s.stop_at bounded, false)
    else
      let matched := examine_lines b query max_results
        (text_match b limits place e data bounded.isSome) 1
        (PyText.splitlines (decode_text data).1) s
      if matched.2 then .ok matched
      else .ok (matched.1.stop_at bounded, bounded.isSome)

end

structure WorkspaceSearchResult (M : Type) where
  found : List M
  truncated : Bool
  truncation_reason : Option StopReason
  scanned_entries : Nat
  opened_files : Nat
  total_bytes : Nat
  snapshot_digest : String

/-- `_search_result`; `show_match` gives the path, the snapshot and the line of
    a match. -/
def search_result {M : Type} (b : Boundary) (show_match : M → String × String × Option Nat)
    (found : List M) (budget : Budget) : WorkspaceSearchResult M :=
  let shown := found.map fun m =>
    "\x7b'path': " ++ b.repr (show_match m).1 ++ ", 'snapshot_digest': '" ++ (show_match m).2.1 ++
      "', 'line': " ++ ((show_match m).2.2.map toString).getD "None" ++ "\x7d"
  { found
    truncated := budget.reason.isSome
    truncation_reason := budget.reason
    scanned_entries := budget.scanned_entries
    opened_files := budget.opened_files
    total_bytes := budget.total_bytes
    snapshot_digest := sha256 (encode ("\x7b'matches': [" ++ ", ".intercalate shown ++
      "], 'truncated': " ++ repr_bool budget.reason.isSome ++ ", 'truncation_reason': " ++
      repr_option b (budget.reason.map StopReason.text) ++ ", 'scanned_entries': " ++
      toString budget.scanned_entries ++ ", 'opened_files': " ++ toString budget.opened_files ++
      ", 'total_bytes': " ++ toString budget.total_bytes ++ "\x7d").toList) }

/-- The checks both searches begin with, and the directory they walk. -/
def search_root (b : Boundary) (root : Node) (query root_text : String) (max_results : Int)
    (limits : TraversalLimits) : Except WorkspaceError (String × Place) := do
  let normalized_query ← validate_search_query b query
  refuse (max_results < 1 ∨ limits.max_matches < max_results)
    (.value_error "max_results exceeds the workspace search cap")
  let parts ← b.validate_relative root_text true true
  let entries ← open_directory_parts b root parts
  pure (normalized_query, { parts, entries })

/-- `matches.sort(key=lambda item: item.path)`. -/
def sort_paths (found : List PathMatch) : List PathMatch :=
  found.insertionSort fun x y => x.path ≤ y.path

/-- `search_paths`. -/
def search_paths (b : Boundary) (root : Node) (query root_text : String) (max_results : Int)
    (limits : TraversalLimits) : Except WorkspaceError (WorkspaceSearchResult PathMatch) := do
  let (query, place) ← search_root b root query root_text max_results limits
  let s ← (search_walk b limits (examine_path b query max_results)).visit limits.max_depth place
    .start
  pure (search_result b (fun m => (m.path, m.snapshot_digest, none)) (sort_paths s.found) s.budget)

/-- `(item.path, item.line, item.snippet)` in the order of tuples. -/
def text_le (x y : TextMatch) : Prop :=
  x.path < y.path ∨ (x.path = y.path ∧
    (x.line < y.line ∨ (x.line = y.line ∧ x.snippet ≤ y.snippet)))

instance (x y : TextMatch) : Decidable (text_le x y) := inferInstanceAs (Decidable (_ ∨ _))

/-- `matches.sort(key=lambda item: (item.path, item.line, item.snippet))`. -/
def sort_texts (found : List TextMatch) : List TextMatch := found.insertionSort text_le

/-- `search_text`. -/
def search_text (b : Boundary) (root : Node) (query root_text : String) (max_results : Int)
    (limits : TraversalLimits) : Except WorkspaceError (WorkspaceSearchResult TextMatch) := do
  let (query, place) ← search_root b root query root_text max_results limits
  let s ← (search_walk b limits (examine_text b limits query max_results)).visit limits.max_depth
    place .start
  pure (search_result b (fun m => (m.path, m.snapshot_digest, some m.line)) (sort_texts s.found)
    s.budget)

end Workspace
