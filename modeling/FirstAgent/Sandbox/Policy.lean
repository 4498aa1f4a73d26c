import FirstAgent.Python.PurePath
import FirstAgent.Python.Utf8

/-! # Sandbox Policies

    `build_sandbox_policy`, the one way a policy is made, over a filesystem
    that answers its questions, and `compile_seatbelt_profile`, which writes
    the policy as a Seatbelt profile.  Paths and texts are lists of code
    points; a canonical path is an `AbsPath`. -/

open Fallible

namespace Sandbox

/-- What the builder and the compiler raise. -/
inductive SandboxError where
  | value_error (message : String)
  /-- `OSError` from the filesystem. -/
  | os_error
  /-- `seatbelt path contains control characters: …`. -/
  | control_characters (value : List Char)
  /-- `seatbelt path contains quote/backslash: …`. -/
  | quote_or_backslash (value : List Char)
  deriving DecidableEq, Repr

def refuse_value (bad : Prop) [Decidable bad] (message : String) : Except SandboxError Unit :=
  refuse bad (.value_error message)

inductive SandboxMode where
  | read_only
  | workspace_write
  | danger_full_access
  deriving DecidableEq, Repr

inductive SandboxNetworkMode where
  | off
  | full
  deriving DecidableEq, Repr

structure SandboxPolicyV1 where
  mode : SandboxMode
  network : SandboxNetworkMode
  workspace_root : AbsPath
  temp_root : AbsPath
  state_root : AbsPath
  home_root : AbsPath
  writable_roots : List AbsPath
  git_metadata_roots : List AbsPath
  unreadable_roots : List AbsPath

/-! ### The filesystem -/

/-- `lstat` of a path. -/
inductive Lstat where
  /-- `FileNotFoundError`. -/
  | missing
  /-- Any other `OSError`. -/
  | failed
  | symlink
  | other
  deriving DecidableEq, Repr

/-- The answers of the filesystem; `none` is an exception. -/
structure Filesystem where
  /-- `resolve(strict=True)`. -/
  resolve_strict : PurePath → Option AbsPath
  /-- `resolve(strict=False)`. -/
  resolve : PurePath → Option AbsPath
  lstat : PurePath → Lstat
  there : PurePath → Option Bool
  is_dir : PurePath → Option Bool
  is_file : PurePath → Option Bool
  read_bytes : PurePath → Option (List UInt8)

section
variable (fs : Filesystem)

/-! ### Admission -/

/-- `_canonical_existing`. -/
def canonical_existing (candidate : PurePath) (name : String) : Except SandboxError AbsPath := do
  refuse_value (candidate.is_absolute = false) (name ++ " must be a canonical absolute path")
  let resolved ← expect (fs.resolve_strict candidate)
    (.value_error (name ++ " must be a canonical existing path"))
  refuse_value (candidate.chars ≠ resolved.chars)
    (name ++ " must be canonical (symlink/non-normalized input rejected): " ++
      String.ofList candidate.chars ++ " != " ++ String.ofList resolved.chars)
  pure resolved

/-- `_require_disjoint`. -/
def require_disjoint : List AbsPath → Except SandboxError Unit
  | []            => .ok ()
  | left :: roots => do
    roots.forM fun right =>
      refuse_value (left.inside right ∨ right.inside left)
        ("roots must not overlap: " ++ String.ofList left.chars ++ " vs " ++
          String.ofList right.chars)
    require_disjoint roots

/-- `_resolve_private`. -/
def resolve_private (workspace : AbsPath) (entry : List Char) : Except SandboxError AbsPath := do
  refuse_value (entry = []) "private_roots entries must be non-empty strings"
  refuse_value ('\x00' ∈ entry ∨ '\n' ∈ entry ∨ '\r' ∈ entry)
    "private_roots entries must not contain control characters"
  let given := PurePath.of_text entry
  refuse_value (given.is_absolute = false ∧ ['.', '.'] ∈ given.parts)
    "private_roots entries must not escape their anchor"
  let candidate := workspace.to_pure.join given
  match fs.lstat candidate with
  | .missing => do
    let resolved ← expect (fs.resolve candidate)
      (.value_error "private_roots entry cannot be resolved")
    refuse_value (candidate ≠ resolved.to_pure)
      "private_roots entry must not traverse symlinks or non-normalized paths"
    pure resolved
  | .failed  => .error (.value_error "private_roots entry cannot be inspected")
  | .symlink => .error (.value_error "private_roots entry must not be a symlink")
  | .other   => canonical_existing fs candidate "private_roots entry"

/-- The parent directory; the root is its own parent. -/
def parent (p : AbsPath) : AbsPath :=
  { names := p.names.dropLast, valid := fun c hc => p.valid c ((List.dropLast_sublist p.names).mem hc) }

/-- `p / name`. -/
def child (p : AbsPath) (name : List Char) (h : is_name name = true) : AbsPath :=
  { names := p.names ++ [name]
    valid := fun c hc => by
      rcases List.mem_append.mp hc with hc | hc
      · exact p.valid c hc
      · rwa [List.mem_singleton.mp hc] }

/-- The target of a `.git` file, which has to stay below the parent of the
    workspace. -/
def gitdir_target (workspace candidate : AbsPath) : Except SandboxError AbsPath := do
  let raw ← expect (fs.read_bytes candidate.to_pure) .os_error
  refuse_value (raw.length > 256) "gitdir pointer exceeds bounded size"
  let decoded ← expect (Utf8.Decoder.decode_strict raw) (.value_error "gitdir pointer malformed")
  let text := PyText.strip (String.ofList decoded)
  refuse_value (PyText.startswith text "gitdir: " = false ∨ '\n' ∈ text.toList)
    "gitdir pointer malformed"
  let target_raw := PyText.strip (String.ofList (text.toList.drop 8))
  let target := workspace.to_pure.join (PurePath.of_text target_raw.toList)
  let resolved ← expect (fs.resolve_strict target)
    (.value_error "gitdir target does not resolve")
  refuse_value (¬ (parent workspace).inside resolved)
    "gitdir target escapes the workspace parent; refusing policy"
  pure resolved

/-- The metadata roots of one name: a directory, or a `.git` file with its
    target. -/
def metadata_roots (workspace : AbsPath) (name : List Char) (h : is_name name = true) :
    Except SandboxError (List AbsPath) := do
  let candidate := child workspace name h
  let there ← expect (fs.there candidate.to_pure) .os_error
  if there = false then pure []
  else do
    let dir ← expect (fs.is_dir candidate.to_pure) .os_error
    if dir then pure [candidate]
    else do
      let file ← expect (if name = ".git".toList then fs.is_file candidate.to_pure else some false)
        .os_error
      if file then do
        let resolved ← gitdir_target fs workspace candidate
        pure [candidate, resolved]
      else pure []

/-- `_git_metadata_roots`. -/
def git_metadata_roots (workspace : AbsPath) : Except SandboxError (List AbsPath) := do
  let git ← metadata_roots fs workspace ".git".toList (by decide)
  let codex ← metadata_roots fs workspace ".codex".toList (by decide)
  pure (git ++ codex)

/-- `build_sandbox_policy`. -/
def build_sandbox_policy (mode : SandboxMode) (network : SandboxNetworkMode)
    (workspace temp_root state_root home : List Char) (private_roots : List (List Char)) :
    Except SandboxError SandboxPolicyV1 := do
  let workspace_canonical ← canonical_existing fs (PurePath.of_text workspace) "workspace"
  let temp_canonical ← canonical_existing fs (PurePath.of_text temp_root) "temp_root"
  let state_canonical ← canonical_existing fs (PurePath.of_text state_root) "state_root"
  let home_canonical ← canonical_existing fs (PurePath.of_text home) "home"
  require_disjoint [workspace_canonical, temp_canonical, state_canonical, home_canonical]
  let priv ← private_roots.mapM (resolve_private fs workspace_canonical)
  let git_roots ← (if mode = .danger_full_access then pure []
    else git_metadata_roots fs workspace_canonical)
  pure
    { mode
      network
      workspace_root := workspace_canonical
      temp_root := temp_canonical
      state_root := state_canonical
      home_root := home_canonical
      writable_roots :=
        if mode = .workspace_write then [workspace_canonical, temp_canonical] else []
      git_metadata_roots := git_roots
      unreadable_roots := if mode = .danger_full_access then [] else state_canonical :: priv }

end

/-! ### Compilation -/

/-- `escape_seatbelt_path`. -/
def escape_seatbelt_path (value : List Char) : Except SandboxError (List Char) := do
  refuse ('\x00' ∈ value ∨ '\n' ∈ value ∨ '\r' ∈ value) (.control_characters value)
  refuse ('"' ∈ value ∨ '\\' ∈ value) (.quote_or_backslash value)
  pure value

/-- A clause with one path, written between quotes. -/
def path_clause (head : String) (path : List Char) : Except SandboxError (List Char) := do
  let value ← escape_seatbelt_path path
  pure (head.toList ++ value ++ "\"))".toList)

def deny_write_subpath (path : List Char) : Except SandboxError (List Char) :=
  path_clause "(deny file-write* (subpath \"" path

def deny_read_subpath (path : List Char) : Except SandboxError (List Char) :=
  path_clause "(deny file-read* (subpath \"" path

def allow_write_subpath (path : List Char) : Except SandboxError (List Char) :=
  path_clause "(allow file-write* (subpath \"" path

/-- `allow_backend_literals`. -/
def allow_backend_literals : Except SandboxError (List (List Char)) :=
  ["/dev/null".toList].mapM (path_clause "(allow file-write* (literal \"")

/-- `SENSITIVE_FILENAME_PATTERNS`. -/
def sensitive_filename_patterns : List (List Char) :=
  [".env".toList, ".env.*".toList, "*.pem".toList, "*.key".toList, "*.p12".toList, "*.pfx".toList]

/-- `re_escape_segment`. -/
def re_escape_segment (value : List Char) : List Char :=
  value.flatMap fun c => if c = '.' then ['\\', '.'] else [c]

/-- `_fnmatch_to_regex`. -/
def fnmatch_to_regex (pattern : List Char) : List Char :=
  if "*".toList.isPrefixOf pattern then
    "(^|/)[^/]*".toList ++ re_escape_segment (pattern.drop 1) ++ "$".toList
  else if ".*".toList.isSuffixOf pattern then
    "(^|/)".toList ++ re_escape_segment (pattern.take (pattern.length - 2)) ++
      "(\\.[^/]*)?$".toList
  else "(^|/)".toList ++ re_escape_segment pattern ++ "$".toList

/-- `_sensitive_pattern_clauses`. -/
def sensitive_pattern_clauses : List (List Char) :=
  sensitive_filename_patterns.flatMap fun pattern =>
    ["(deny file-read* (regex #\"".toList ++ fnmatch_to_regex pattern ++ "\"))".toList,
      "(deny file-write* (regex #\"".toList ++ fnmatch_to_regex pattern ++ "\"))".toList]

/-- `"\n".join(clauses) + "\n"`. -/
def join_lines (clauses : List (List Char)) : List Char :=
  List.intercalate ['\n'] clauses ++ ['\n']

/-- `compile_seatbelt_profile`. -/
def compile_seatbelt_profile (policy : SandboxPolicyV1) : Except SandboxError (List Char) := do
  if policy.mode = .danger_full_access then
    if policy.network = .full then
      .error (.value_error "unconfined bypass has no Seatbelt profile")
    else pure (join_lines
      ["(version 1)".toList, "(allow default)".toList, "(deny network*)".toList])
  else do
    let backend ← allow_backend_literals
    let writable ← policy.writable_roots.mapM fun root => allow_write_subpath root.chars
    let git ← policy.git_metadata_roots.mapM fun root => deny_write_subpath root.chars
    let unreadable ← policy.unreadable_roots.mapM fun root => deny_read_subpath root.chars
    let unwritable ← policy.unreadable_roots.mapM fun root => deny_write_subpath root.chars
    pure (join_lines
      (["(version 1)".toList, "(allow default)".toList, "(deny file-write*)".toList] ++
        backend ++ writable ++ git ++ unreadable ++ unwritable ++ sensitive_pattern_clauses ++
        if policy.network = .off then ["(deny network*)".toList] else []))

end Sandbox
