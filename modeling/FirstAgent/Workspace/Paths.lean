import FirstAgent.Contracts.Authority
import FirstAgent.Python.PurePath

/-! # Workspace Paths

    Which names a workspace boundary admits.  `str.casefold` and
    `str.isprintable` are functions of the Unicode database, given as a
    parameter. -/

open Fallible

namespace Workspace

/-- The functions of `str` that read the Unicode database. -/
structure Unicode where
  casefold : String → String
  isprintable : Char → Bool

/-- What the boundary and the file tools raise. -/
inductive WorkspaceError where
  /-- `WorkspaceSecurityError`. -/
  | security (message : String)
  /-- `MissingParentDirectoryError`. -/
  | missing_parent
  /-- `EditContentConflictError`. -/
  | edit_conflict
  | file_not_found
  | value_error (message : String)
  /-- `UnicodeDecodeError`. -/
  | unicode_error
  | os_error
  deriving DecidableEq, Repr

def refuse_security (bad : Prop) [Decidable bad] (message : String) : Except WorkspaceError Unit :=
  refuse bad (.security message)

/-- The settings of a `WorkspaceBoundary`. -/
structure Boundary where
  unicode : Unicode
  root_identity : Nat × Nat
  protected_identities : List (Nat × Nat)
  private_roots : List String
  /-- The casefolded components of the admitted project paths. -/
  project_paths : List (List String)

namespace Boundary

variable (b : Boundary)

def casefold (s : String) : String := b.unicode.casefold s

def isprintable (s : String) : Bool := s.toList.all b.unicode.isprintable

/-- `_is_project_path_visible`. -/
def is_project_path_visible (parts : List String) (allow_ancestor : Bool) : Bool :=
  let folded := parts.map b.casefold
  b.project_paths.any fun admitted =>
    admitted.isPrefixOf folded || (allow_ancestor && folded.isPrefixOf admitted)

/-- One component that is always refused. -/
def is_refused_component (part : String) : Bool :=
  let folded := b.casefold part
  is_intrinsically_sensitive_component folded || PyText.startswith folded "agent_log.archived-" ||
    PyText.startswith folded ".tui_audit_log"

/-- `_is_sensitive`. -/
def is_sensitive (parts : List String) (allow_project_ancestor : Bool) : Bool :=
  parts.any b.is_refused_component ||
    match parts with
    | []         => false
    | part :: _  =>
      (b.private_roots.map b.casefold).contains (b.casefold part) &&
        !b.is_project_path_visible parts allow_project_ancestor

/-- `validate_relative`. -/
def validate_relative (raw_path : String) (allow_root allow_project_ancestor : Bool) :
    Except WorkspaceError (List String) := do
  refuse_security (b.isprintable raw_path = false) "path must be a plain relative string"
  let path := PurePath.of_text raw_path.toList
  refuse_security (path.is_absolute = true) "absolute paths are outside the workspace grant"
  let parts := path.parts.map String.ofList
  if parts = [] then
    if allow_root then pure []
    else .error (.security "path must name a workspace entry")
  else do
    refuse_security ("." ∈ parts ∨ ".." ∈ parts) "path traversal is not allowed"
    refuse_security (b.is_sensitive parts allow_project_ancestor = true)
      "sensitive path class is denied"
    pure parts

/-- What passes `validate_relative`. -/
theorem validate_relative_eq_ok {raw_path : String} {allow_root allow_project_ancestor : Bool}
    {parts : List String} :
    b.validate_relative raw_path allow_root allow_project_ancestor = .ok parts ↔
      b.isprintable raw_path = true ∧ (PurePath.of_text raw_path.toList).is_absolute = false ∧
        (PurePath.of_text raw_path.toList).parts.map String.ofList = parts ∧
        if parts = [] then allow_root = true
        else "." ∉ parts ∧ ".." ∉ parts ∧ b.is_sensitive parts allow_project_ancestor = false := by
  simp only [validate_relative, refuse_security, bind_eq_ok, refuse_eq_ok, Bool.not_eq_false,
    Bool.not_eq_true]
  generalize (PurePath.of_text raw_path.toList).parts.map String.ofList = found
  by_cases hfound : found = []
  · rw [if_pos hfound]
    constructor
    · rintro ⟨_, hprint, _, habs, h⟩
      cases allow_root with
      | true =>
        obtain rfl := pure_eq_ok.mp h
        exact ⟨hprint, habs, hfound, by rw [if_pos rfl]⟩
      | false => cases h
    · rintro ⟨hprint, habs, rfl, hroot⟩
      rw [if_pos hfound] at hroot
      refine ⟨(), hprint, (), habs, ?_⟩
      rw [if_pos hroot, hfound]
      rfl
  · rw [if_neg hfound]
    simp only [bind_eq_ok, refuse_eq_ok, pure_eq_ok, not_or, Bool.not_eq_true]
    constructor
    · rintro ⟨_, hprint, _, habs, _, ⟨hdot, hup⟩, _, hsensitive, rfl⟩
      exact ⟨hprint, habs, rfl, by rw [if_neg hfound]; exact ⟨hdot, hup, hsensitive⟩⟩
    · rintro ⟨hprint, habs, rfl, h⟩
      rw [if_neg hfound] at h
      exact ⟨(), hprint, (), habs, (), ⟨h.1, h.2.1⟩, (), h.2.2, rfl⟩

end Boundary

end Workspace
