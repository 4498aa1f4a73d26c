import FirstAgent.Python.Lines
import FirstAgent.Python.Sha256
import FirstAgent.Python.Utf8
import FirstAgent.Workspace.Tree

/-! # Reading a Workspace File

    A path that is admitted and names a regular file is read whole
    (`read_document`) or by lines (`read_file_chunk`). -/

open Fallible

namespace Workspace

/-! ### Digests -/

/-- `_sha256`. -/
def sha256 (data : List UInt8) : String := String.ofList (Sha256.digest (data.map UInt8.toNat))

/-- `text.encode()`. -/
def encode (text : List Char) : List UInt8 := text.flatMap String.utf8EncodeChar

/-- An entry in a directory scan. -/
inductive Kind where
  | file
  | directory
  deriving DecidableEq, Repr

def Kind.text : Kind → String
  | .file      => "file"
  | .directory => "directory"

/-- `stat.S_IFMT`. -/
def Kind.mode : Kind → Nat
  | .file      => 0o100000
  | .directory => 0o040000

/-- `repr` of a path. -/
def Boundary.repr (b : Boundary) (s : String) : String := PyText.repr b.unicode.isprintable s

/-- `_entry_snapshot_digest`. -/
def entry_snapshot_digest (b : Boundary) (path : String) (info : Stat) (kind : Kind) : String :=
  sha256 (encode ("\x7b'path': " ++ b.repr path ++ ", 'device': " ++ toString info.device ++
    ", 'inode': " ++ toString info.inode ++ ", 'mode': " ++ toString kind.mode ++ ", 'size': " ++
    toString info.size ++ ", 'mtime_ns': " ++ toString info.mtime_ns ++ "\x7d").toList)

/-- `_file_snapshot_digest`. -/
def file_snapshot_digest (b : Boundary) (path : String) (info : Stat) (content_digest : String) :
    String :=
  sha256 (encode ("\x7b'entry': '" ++ entry_snapshot_digest b path info .file ++
    "', 'content_digest': '" ++ content_digest ++ "'\x7d").toList)

def observed_at (info : Stat) : String := "mtime_ns:" ++ toString info.mtime_ns

/-! ### Text -/

inductive Encoding where
  | utf8
  | utf8_replacement
  deriving DecidableEq, Repr

/-- `_decode_text`. -/
def decode_text (data : List UInt8) : List Char × Encoding :=
  match Utf8.Decoder.decode_strict data with
  | some content => (content, .utf8)
  | none         => (Utf8.Decoder.decode_replace .start data, .utf8_replacement)

/-- `_is_binary`. -/
def is_binary (data : List UInt8) : Bool :=
  if 0 ∈ data then true
  else if data = [] then false
  else (data.filter fun byte => byte < 9 ∨ (13 < byte ∧ byte < 32)).length * 20 > data.length

/-! ### Documents -/

/-- The regular file a path names. -/
def target_file (b : Boundary) (root : Node) (path : String) :
    Except WorkspaceError (Stat × List UInt8) := do
  let parts ← b.validate_relative path false false
  let (entries, name) ← open_parent b root parts
  open_regular b entries name

theorem target_file_eq_ok {b : Boundary} {root : Node} {path : String} {info : Stat}
    {data : List UInt8} :
    target_file b root path = .ok (info, data) ↔
      ∃ parts entries name, b.validate_relative path false false = .ok parts ∧
        open_parent b root parts = .ok (entries, name) ∧
        open_regular b entries name = .ok (info, data) := by
  unfold target_file
  constructor
  · intro h
    obtain ⟨parts, hparts, h⟩ := bind_eq_ok.mp h
    obtain ⟨⟨entries, name⟩, hparent, h⟩ := bind_eq_ok.mp h
    exact ⟨parts, entries, name, hparts, hparent, h⟩
  · rintro ⟨parts, entries, name, hparts, hparent, h⟩
    exact bind_eq_ok.mpr ⟨parts, hparts, bind_eq_ok.mpr ⟨(entries, name), hparent, h⟩⟩

theorem read_bounded_eq_ok {data read : List UInt8} {max_bytes : Int} :
    read_bounded data max_bytes = .ok read ↔
      1 ≤ max_bytes ∧ (data.length : Int) ≤ max_bytes ∧ data = read := by
  simp only [read_bounded, refuse_security, bind_eq_ok, refuse_eq_ok, pure_eq_ok, Int.not_lt]
  constructor
  · rintro ⟨_, hpositive, _, hbound, rfl⟩
    exact ⟨hpositive, hbound, rfl⟩
  · rintro ⟨hpositive, hbound, rfl⟩
    exact ⟨(), hpositive, (), hbound, rfl⟩

structure WorkspaceDocument where
  path : String
  content : List Char
  encoding : Encoding
  content_digest : String
  snapshot_digest : String
  observed_at : String

/-- `read_document`. -/
def read_document (b : Boundary) (root : Node) (raw_path : String) (max_bytes : Int) :
    Except WorkspaceError WorkspaceDocument := do
  let parts ← b.validate_relative raw_path false false
  let (entries, name) ← open_parent b root parts
  let (info, data) ← open_regular b entries name
  let data ← read_bounded data max_bytes
  let path := "/".intercalate parts
  pure
    { path
      content := (decode_text data).1
      encoding := (decode_text data).2
      content_digest := sha256 data
      snapshot_digest := file_snapshot_digest b path info (sha256 data)
      observed_at := observed_at info }

structure FileChunk where
  path : String
  start_line : Int
  end_line : Int
  content : List Char
  encoding : Encoding
  truncated : Bool
  content_digest : String
  original_content_digest : String
  snapshot_digest : String
  observed_at : String

/-- `read_file_chunk`. -/
def read_file_chunk (b : Boundary) (root : Node) (raw_path : String)
    (start_line max_lines max_bytes max_line_cap : Int) : Except WorkspaceError FileChunk := do
  refuse (start_line < 1 ∨ max_lines < 1 ∨ max_line_cap < max_lines)
    (.value_error "line window is outside the configured bounds")
  let document ← read_document b root raw_path max_bytes
  let lines := PyText.splitlines_keepends document.content
  let selected := (lines.drop (start_line - 1).toNat).take max_lines.toNat
  let content := selected.flatten
  let end_line := start_line + selected.length - 1
  pure
    { path := document.path
      start_line
      end_line
      content
      encoding := document.encoding
      truncated := start_line > 1 || end_line < lines.length
      content_digest := sha256 (encode content)
      original_content_digest := document.content_digest
      snapshot_digest := document.snapshot_digest
      observed_at := document.observed_at }

theorem read_document_eq_ok {b : Boundary} {root : Node} {raw_path : String} {max_bytes : Int}
    {document : WorkspaceDocument}
    (h : read_document b root raw_path max_bytes = .ok document) :
    ∃ info data, target_file b root raw_path = .ok (info, data) ∧
      document.content = (decode_text data).1 := by
  obtain ⟨parts, hparts, h⟩ := bind_eq_ok.mp h
  obtain ⟨⟨entries, name⟩, hparent, h⟩ := bind_eq_ok.mp h
  obtain ⟨⟨info, data⟩, hopen, h⟩ := bind_eq_ok.mp h
  obtain ⟨read, hread, h⟩ := bind_eq_ok.mp h
  obtain ⟨-, -, rfl⟩ := read_bounded_eq_ok.mp hread
  obtain rfl := pure_eq_ok.mp h
  exact ⟨info, data, target_file_eq_ok.mpr ⟨parts, entries, name, hparts, hparent, hopen⟩, rfl⟩

/-- A chunk of one line is that line with its end, if there is one. -/
theorem read_file_chunk_line {b : Boundary} {root : Node} {raw_path : String}
    {start_line max_bytes max_line_cap : Int} {chunk : FileChunk}
    (h : read_file_chunk b root raw_path start_line 1 max_bytes max_line_cap = .ok chunk) :
    ∃ info data, target_file b root raw_path = .ok (info, data) ∧
      chunk.content = (((PyText.lines (decode_text data).1)[(start_line - 1).toNat]?).map
        fun l => l.1 ++ l.2).getD [] := by
  obtain ⟨_, -, h⟩ := bind_eq_ok.mp h
  obtain ⟨document, hdocument, h⟩ := bind_eq_ok.mp h
  obtain rfl := pure_eq_ok.mp h
  obtain ⟨info, data, hfile, hcontent⟩ := read_document_eq_ok hdocument
  refine ⟨info, data, hfile, ?_⟩
  dsimp only
  rw [hcontent, PyText.splitlines_keepends, ← List.map_drop, ← List.map_take]
  generalize PyText.lines (decode_text data).1 = lines
  change ((lines.drop (start_line - 1).toNat).take 1 |>.map fun l => l.1 ++ l.2).flatten = _
  rw [List.take_one, List.head?_drop]
  cases lines[(start_line - 1).toNat]? <;> simp

/-- A boundary over ASCII names. -/
def plain_boundary : Boundary :=
  { unicode := { casefold := id, isprintable := fun _ => true }
    root_identity := (1, 1)
    protected_identities := []
    private_roots := []
    project_paths := [] }

end Workspace
