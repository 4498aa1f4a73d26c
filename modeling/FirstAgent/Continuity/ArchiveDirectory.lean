import FirstAgent.Framework.Fallible
import FirstAgent.Framework.Links
import FirstAgent.Python.Sha256

/-! # The Archive Directory

    The names and files of a conversation's archive directory, the listing of
    a workspace scope, and the read-back of one archive.  A file is named by
    the digest of its content; a temporary file names the archive it is for.
    Every file is created by the archive itself, so it is a regular file of its
    owner; what varies is its content and its link count. -/

open Fallible

/-! ### Names and states -/

/-- The errors of an archive, and of the checkpoint it is made from. -/
inductive ArchiveError where
  | error (message : String)
  | security (message : String)
  | conflict (message : String)
  | value_error (message : String)
  | checkpoint_missing (message : String)
  | checkpoint_conflict (message : String)
  deriving Repr, DecidableEq

/-- `<digest>.json`, and `.<digest>.json.tmp-<suffix>`. -/
inductive ArchiveName where
  | final (digest : String)
  | temp (digest suffix : String)
  deriving Repr, DecidableEq

namespace ArchiveName

/-- The digest a name is for. -/
def digest : ArchiveName → String
  | .final digest  => digest
  | .temp digest _ => digest

def is_temp : ArchiveName → Bool
  | .final _  => false
  | .temp _ _ => true

@[simp] theorem digest_final (digest : String) : (final digest).digest = digest := rfl

@[simp] theorem digest_temp (digest suffix : String) : (temp digest suffix).digest = digest := rfl

@[simp] theorem is_temp_final (digest : String) : (final digest).is_temp = false := rfl

@[simp] theorem is_temp_temp (digest suffix : String) : (temp digest suffix).is_temp = true := rfl

end ArchiveName

/-- A directory of archives; contents are byte sequences. -/
abbrev ArchiveDirectory : Type := LinkedDirectory ArchiveName (List Nat)

structure ArchiveLimits where
  max_state_bytes : Nat
  max_archives : Nat

/-- `_TEMP_RECONCILE_LIMIT`. -/
def TEMP_RECONCILE_LIMIT : Nat := 64

/-- What an archive uses of the states of a runtime: their text, and the fields
    it looks at. -/
structure StateCodec (State : Type) where
  encode : State → List Nat
  decode : List Nat → Option State
  conversation_id : State → String
  workspace_scope_digest : State → Option String
  /-- `_require_user_archive_eligible`. -/
  archive_eligible : State → Bool

structure LoadedSnapshot (State : Type) where
  state : State
  token : String
  deriving DecidableEq

/-- The identity of an archive; its path is derived from it. -/
structure ArchivedConversation where
  conversation_id : String
  workspace_scope_digest : String
  source_checkpoint_digest : String
  deriving Repr, DecidableEq

/-- `hashlib.sha256(data).hexdigest()`. -/
def data_digest (data : List Nat) : String := String.ofList (Sha256.digest data)

/-- `_token`. -/
def data_token (data : List Nat) : String := "sha256:" ++ data_digest data

/-- `source_checkpoint_digest.removeprefix("sha256:")`. -/
def token_digest (source_checkpoint_digest : String) : String :=
  if PyText.startswith source_checkpoint_digest "sha256:" then
    String.ofList (source_checkpoint_digest.toList.drop 7)
  else
    source_checkpoint_digest

/-- `_archive_file_name`. -/
def archive_file_name (source_checkpoint_digest : String) : ArchiveName :=
  .final (token_digest source_checkpoint_digest)

/-! ### Arguments -/

/-- One character of `_CONVERSATION_ID_PATTERN`. -/
def matches_id_char (picture c : Char) : Bool :=
  match picture with
  | 'x' => "0123456789abcdef".toList.contains c
  | 'v' => "12345".toList.contains c
  | 'n' => "89ab".toList.contains c
  | _   => c = picture

/-- `_CONVERSATION_ID_PATTERN.fullmatch`. -/
def is_conversation_id (conversation_id : String) : Bool :=
  let picture := "xxxxxxxx-xxxx-vxxx-nxxx-xxxxxxxxxxxx".toList
  conversation_id.toList.length == picture.length &&
    (picture.zip conversation_id.toList).all fun p => matches_id_char p.1 p.2

def validate_conversation_id (conversation_id : String) : Except ArchiveError Unit :=
  refuse (is_conversation_id conversation_id = false)
    (.value_error "conversation_id must be a canonical UUID")

def validate_scope_digest (workspace_scope_digest : String) : Except ArchiveError Unit :=
  refuse (PyText.is_lower_hex workspace_scope_digest 64 = false)
    (.value_error "workspace scope digest must be 64 lowercase hex characters")

def validate_digest_token (source_checkpoint_digest : String) : Except ArchiveError Unit :=
  refuse (PyText.startswith source_checkpoint_digest "sha256:" = false ∨
      PyText.is_lower_hex (token_digest source_checkpoint_digest) 64 = false)
    (.value_error "source checkpoint digest must be a sha256:<hex> token")

/-! ### Files -/

/-- `os.fstat` of a file. -/
structure FileInfo where
  inode : Nat
  nlink : Nat
  deriving DecidableEq

/-- `_validate_regular_file_with_links`. -/
def validate_links (d : ArchiveDirectory) (i : Nat) (expected_links : List Nat) :
    Except ArchiveError FileInfo := do
  refuse (d.nlink i ∉ expected_links) (.security ("archive file link count must be " ++
    " or ".intercalate (expected_links.map toString)))
  .ok { inode := i, nlink := d.nlink i }

/-- `os.open` of a name in the directory. -/
def open_entry (d : ArchiveDirectory) (name : ArchiveName) : Except ArchiveError Nat :=
  expect (d.inode name) (.error "filesystem error during open archive: No such file or directory")

/-- `_read_fd_all`. -/
def read_fd_all (d : ArchiveDirectory) (i : Nat) (max_state_bytes : Nat) :
    Except ArchiveError (List Nat) := do
  refuse (max_state_bytes < (d.content i).length) (.error "archive file exceeds configured capacity")
  .ok (d.content i)

/-- `_inspect_child_archive_file`. -/
def inspect_child_archive_file (d : ArchiveDirectory) (name : ArchiveName)
    (expected_links : List Nat) : Except ArchiveError FileInfo := do
  let i ← open_entry d name
  validate_links d i expected_links

/-- `_read_child_archive_entry`. -/
def read_child_archive_entry (d : ArchiveDirectory) (name : ArchiveName)
    (expected_links : List Nat) (max_state_bytes : Nat) :
    Except ArchiveError (FileInfo × List Nat) := do
  let i ← open_entry d name
  let info ← validate_links d i expected_links
  let data ← read_fd_all d i max_state_bytes
  .ok (info, data)

/-- `_same_file`. -/
def same_file (left right : FileInfo) : Bool := left.inode = right.inode

/-! ### Listing -/

/-- What the listing of a directory has collected. -/
structure ArchiveListing where
  archives : List (String × FileInfo) := []
  temps : List ((String × String) × FileInfo) := []

/-- `_verify_temp_content_identity`. -/
def verify_temp_content_identity (digest : String) (data : List Nat) : Except ArchiveError Unit :=
  refuse (data_token data ≠ "sha256:" ++ digest)
    (.conflict "archive temp content does not match its digest identity")

/-- One name of the directory; `collected` counts the records of the
    conversations before this one. -/
def collect_entry (limits : ArchiveLimits) (d : ArchiveDirectory) (collected : Nat)
    (l : ArchiveListing) : ArchiveName → Except ArchiveError ArchiveListing
  | .temp digest suffix => do
    let (info, data) ←
      read_child_archive_entry d (.temp digest suffix) [1, 2] limits.max_state_bytes
    verify_temp_content_identity digest data
    let temps := l.temps ++ [((digest, suffix), info)]
    refuse (TEMP_RECONCILE_LIMIT < temps.length)
      (.error "archive temp listing exceeds its safety bound")
    .ok { l with temps }
  | .final digest => do
    let info ← inspect_child_archive_file d (.final digest) [1, 2]
    let archives := l.archives ++ [(digest, info)]
    refuse (limits.max_archives < collected + archives.length)
      (.error "archive listing exceeds its safety bound")
    .ok { l with archives }

/-- The names of the directory in turn. -/
def collect_entries (limits : ArchiveLimits) (d : ArchiveDirectory) (collected : Nat) :
    List ArchiveName → ArchiveListing → Except ArchiveError ArchiveListing
  | [], l            => .ok l
  | name :: names, l => do
    let l ← collect_entry limits d collected l name
    collect_entries limits d collected names l

/-- The information a listing has of a name. -/
def listed_info {κ : Type} [DecidableEq κ] (k : κ) (infos : List (κ × FileInfo)) : Option FileInfo :=
  (infos.find? fun p => p.1 = k).map Prod.snd

/-- A temporary file with a second link is paired with its archive. -/
def verify_temp_pair (l : ArchiveListing) (temp : (String × String) × FileInfo) :
    Except ArchiveError Unit :=
  refuse (temp.2.nlink ≠ 1 ∧ (listed_info temp.1.1 l.archives).any (same_file temp.2) = false)
    (.security "archive temp hardlink does not match its published archive")

/-- The temporary files that are looked at again for an unpaired archive. -/
def find_publication_temp (d : ArchiveDirectory) (digest : String) (current : FileInfo) :
    List ((String × String) × FileInfo) → Except ArchiveError Unit
  | [] => .error (.security "archive hardlink does not match a protocol publication temp")
  | ((for_digest, suffix), _) :: temps =>
    if for_digest ≠ digest then
      find_publication_temp d digest current temps
    else do
      let current_temp ← inspect_child_archive_file d (.temp for_digest suffix) [1, 2]
      if current_temp.nlink = 2 ∧ same_file current_temp current = true then
        .ok ()
      else
        find_publication_temp d digest current temps

/-- An archive with a second link is paired with a temporary file. -/
def verify_archive_pair (d : ArchiveDirectory) (l : ArchiveListing) (archive : String × FileInfo) :
    Except ArchiveError Unit :=
  if archive.2.nlink = 2 ∧ (l.temps.any fun t => t.2.nlink ≠ 1 && t.1.1 = archive.1) = false then do
    let current ← inspect_child_archive_file d (.final archive.1) [1, 2]
    if current.nlink = 1 then
      .ok ()
    else
      find_publication_temp d archive.1 current l.temps
  else
    .ok ()

/-- `_verify_listing_entries`. -/
def verify_listing_entries (d : ArchiveDirectory) (l : ArchiveListing) : Except ArchiveError Unit := do
  l.temps.forM (verify_temp_pair l)
  l.archives.forM (verify_archive_pair d l)

/-- `_collect_conversation_records`. -/
def collect_conversation_records (limits : ArchiveLimits) (d : ArchiveDirectory)
    (conversation_id workspace_scope_digest : String) (records : List ArchivedConversation) :
    Except ArchiveError (List ArchivedConversation) := do
  let l ← collect_entries limits d records.length (d.entries.map Prod.fst) {}
  verify_listing_entries d l
  .ok (records ++ l.archives.map fun archive => {
    conversation_id, workspace_scope_digest
    source_checkpoint_digest := "sha256:" ++ archive.1 })

/-- `_list_scope` before its sort. -/
def collect_scope (limits : ArchiveLimits) (workspace_scope_digest : String)
    (directory : String → ArchiveDirectory) :
    List String → List ArchivedConversation → Except ArchiveError (List ArchivedConversation)
  | [], records                            => .ok records
  | conversation_id :: conversations, records => do
    refuse (is_conversation_id conversation_id = false)
      (.error "transcripts workspace directory contains an unknown entry")
    let records ← collect_conversation_records limits (directory conversation_id) conversation_id
      workspace_scope_digest records
    collect_scope limits workspace_scope_digest directory conversations records

/-- The text records are sorted by, below the directory of their scope. -/
def record_path (record : ArchivedConversation) : String :=
  record.conversation_id ++ "/" ++ token_digest record.source_checkpoint_digest ++ ".json"

/-- `list_archived` of a scope with the directories of these conversations. -/
def list_archived (limits : ArchiveLimits) (workspace_scope_digest : String)
    (conversations : List String) (directory : String → ArchiveDirectory) :
    Except ArchiveError (List ArchivedConversation) := do
  validate_scope_digest workspace_scope_digest
  let records ← collect_scope limits workspace_scope_digest directory conversations []
  .ok (records.mergeSort fun x y => PyText.le (record_path x) (record_path y))

/-! ### Reading back -/

/-- `load_archived`. -/
def load_archived {State : Type} (codec : StateCodec State) (limits : ArchiveLimits)
    (conversations : List String) (directory : String → ArchiveDirectory)
    (archive : ArchivedConversation) : Except ArchiveError (LoadedSnapshot State) := do
  validate_conversation_id archive.conversation_id
  validate_scope_digest archive.workspace_scope_digest
  validate_digest_token archive.source_checkpoint_digest
  refuse (archive.conversation_id ∉ conversations) (.error "archived conversation is missing")
  let d := directory archive.conversation_id
  let i ← expect (d.inode (archive_file_name archive.source_checkpoint_digest))
    (.error "archive file is missing")
  let _ ← validate_links d i [1]
  let data ← read_fd_all d i limits.max_state_bytes
  refuse (data_token data ≠ archive.source_checkpoint_digest)
    (.conflict "archive content does not match its digest identity")
  let state ← expect (codec.decode data) (.value_error "checkpoint is malformed")
  refuse (codec.conversation_id state ≠ archive.conversation_id)
    (.error "archived state conversation identity does not match its record")
  refuse (codec.workspace_scope_digest state ≠ some archive.workspace_scope_digest)
    (.error "archived state is not bound to the record workspace")
  .ok { state, token := archive.source_checkpoint_digest }

/-! ### Tidy directories -/

/-- The file of a digest holds a whole archived text. -/
structure Whole (limits : ArchiveLimits) (archived : List (List Nat)) (digest : String)
    (data : List Nat) : Prop where
  archived : data ∈ archived
  digest : data_digest data = digest
  fits : data.length ≤ limits.max_state_bytes

/-- The directory of a conversation, where only the file `torn` may not be
    written yet: an inode is shared by the names of one digest only, a digest
    has one temporary file at most, and every other file is whole. -/
structure Tidy (limits : ArchiveLimits) (archived : List (List Nat)) (torn : Option ArchiveName)
    (d : ArchiveDirectory) : Prop where
  distinct : d.Distinct
  shared : ∀ n m i, (n, i) ∈ d.entries → (m, i) ∈ d.entries → n.digest = m.digest
  single : ∀ n m i j, (n, i) ∈ d.entries → (m, j) ∈ d.entries →
    n.is_temp = true → m.is_temp = true → n.digest = m.digest → n = m
  whole : ∀ n i, (n, i) ∈ d.entries → torn ≠ some n →
    Whole limits archived n.digest (d.content i)

/-- The information of a name of the directory. -/
def entry_info (d : ArchiveDirectory) (name : ArchiveName) : FileInfo :=
  { inode := (d.inode name).getD 0, nlink := d.nlink ((d.inode name).getD 0) }

section Tidy

variable {limits : ArchiveLimits} {archived : List (List Nat)} {torn : Option ArchiveName}
  {d : ArchiveDirectory} {n m : ArchiveName} {i : Nat}

theorem empty_tidy : Tidy limits archived torn { content := fun _ => [] } where
  distinct := List.nodup_nil
  shared _ _ _ h := by cases h
  single _ _ _ _ h := by cases h
  whole _ _ h := by cases h

/-- Two names of one kind and digest are one. -/
theorem Tidy.same_name (h : Tidy limits archived torn d) {j : Nat} (hn : (n, i) ∈ d.entries)
    (hm : (m, j) ∈ d.entries) (hkind : n.is_temp = m.is_temp) (hdigest : n.digest = m.digest) :
    n = m := by
  cases n with
  | final g =>
    cases m with
    | final g' => rw [show g = g' from hdigest]
    | temp g' s => cases hkind
  | temp g s =>
    cases m with
    | final g' => cases hkind
    | temp g' s' => exact h.single _ _ i j hn hm rfl rfl hdigest

/-- A file has one link, or two: an archive and a temporary file for it. -/
theorem Tidy.nlink (h : Tidy limits archived torn d) (hn : (n, i) ∈ d.entries) :
    (d.nlink i = 1 ∧ ∀ m, (m, i) ∈ d.entries → m = n) ∨
      (d.nlink i = 2 ∧ ∃ m, (m, i) ∈ d.entries ∧ m.is_temp ≠ n.is_temp ∧ m.digest = n.digest) := by
  by_cases honly : ∀ m, (m, i) ∈ d.entries → m = n
  · exact .inl ⟨LinkedDirectory.nlink_one h.distinct hn honly, honly⟩
  · push Not at honly
    obtain ⟨m, hm, hne⟩ := honly
    have hdigest := h.shared m n i hm hn
    have hkind : m.is_temp ≠ n.is_temp := fun hsame => hne (h.same_name hm hn hsame hdigest)
    refine .inr ⟨LinkedDirectory.nlink_two h.distinct hn hm (Ne.symm hne) ?_,
      m, hm, hkind, hdigest⟩
    intro k hk
    -- a third name would be of one of the two kinds
    have hkdigest := h.shared k n i hk hn
    by_cases hkkind : k.is_temp = n.is_temp
    · exact .inl (h.same_name hk hn hkkind hkdigest)
    · have hkm : k.is_temp = m.is_temp := by
        cases hk' : k.is_temp <;> cases hm' : m.is_temp <;> cases hn' : n.is_temp <;>
          simp_all
      exact .inr (h.same_name hk hm hkm (hkdigest.trans hdigest.symm))

/-- Without a temporary file for it, an archive has one link. -/
theorem Tidy.nlink_final (h : Tidy limits archived torn d) {g : String}
    (hfinal : (.final g, i) ∈ d.entries)
    (hfree : ∀ s j, (.temp g s, j) ∉ d.entries) : d.nlink i = 1 := by
  rcases h.nlink hfinal with ⟨hone, _⟩ | ⟨_, m, hm, hkind, hdigest⟩
  · exact hone
  · cases m with
    | final g' => exact absurd rfl hkind
    | temp g' s =>
      obtain rfl : g' = g := hdigest
      exact absurd hm (hfree s i)

theorem entry_info_eq (h : d.Distinct) (hn : (n, i) ∈ d.entries) :
    entry_info d n = { inode := i, nlink := d.nlink i } := by
  simp [entry_info, LinkedDirectory.inode_of_mem h hn]

theorem Tidy.inspect (h : Tidy limits archived torn d) (hn : (n, i) ∈ d.entries) :
    inspect_child_archive_file d n [1, 2] = .ok (entry_info d n) := by
  have hlinks : d.nlink i ∈ [1, 2] := by
    rcases h.nlink hn with ⟨hone, _⟩ | ⟨htwo, _⟩
    · simp [hone]
    · simp [htwo]
  rw [entry_info_eq h.distinct hn]
  simp only [inspect_child_archive_file, open_entry, validate_links, bind_eq_ok, expect_eq_ok,
    refuse_eq_ok]
  exact ⟨i, LinkedDirectory.inode_of_mem h.distinct hn, (), not_not.mpr hlinks, rfl⟩

end Tidy

/-! ### Listing a tidy directory -/

/-- The archives among these names. -/
def listed_archives (d : ArchiveDirectory) (names : List ArchiveName) : List (String × FileInfo) :=
  names.filterMap fun
    | .final digest => some (digest, entry_info d (.final digest))
    | .temp _ _     => none

/-- The temporary files among these names. -/
def listed_temps (d : ArchiveDirectory) (names : List ArchiveName) :
    List ((String × String) × FileInfo) :=
  names.filterMap fun
    | .final _            => none
    | .temp digest suffix => some ((digest, suffix), entry_info d (.temp digest suffix))

section Listing

variable {limits : ArchiveLimits} {archived : List (List Nat)} {d : ArchiveDirectory}
  {names : List ArchiveName} {l : ArchiveListing}

/-- A tidy directory within the bounds is collected. -/
theorem Tidy.collect (h : Tidy limits archived none d) (collected : Nat)
    (hnames : ∀ n ∈ names, ∃ i, (n, i) ∈ d.entries)
    (htemps : l.temps.length + names.countP ArchiveName.is_temp ≤ TEMP_RECONCILE_LIMIT)
    (harchives : collected + l.archives.length + names.countP (fun n => !n.is_temp) ≤
      limits.max_archives) :
    collect_entries limits d collected names l = .ok {
      archives := l.archives ++ listed_archives d names
      temps := l.temps ++ listed_temps d names } := by
  induction names generalizing l with
  | nil => simp [collect_entries, listed_archives, listed_temps]
  | cons n names ih =>
    obtain ⟨i, hn⟩ := hnames n List.mem_cons_self
    have hrest := fun m hm => hnames m (List.mem_cons_of_mem _ hm)
    have hinspect := h.inspect hn
    cases n with
    | final digest =>
      simp only [ArchiveName.is_temp_final, List.countP_cons, Bool.not_false, if_true,
        Bool.false_eq_true, if_false] at htemps harchives
      have hone : collect_entry limits d collected l (.final digest) = .ok { l with
          archives := l.archives ++ [(digest, entry_info d (.final digest))] } := by
        simp only [collect_entry, hinspect, bind_eq_ok, refuse_eq_ok, ok_eq_ok]
        refine ⟨_, rfl, (), ?_, rfl⟩
        simp only [List.length_append, List.length_singleton]
        omega
      simp only [collect_entries, hone, bind_eq_ok, ok_eq_ok, exists_eq_left']
      rw [ih hrest (by simpa using htemps) (by
        simp only [List.length_append, List.length_singleton]
        omega)]
      simp [listed_archives, listed_temps]
    | temp digest suffix =>
      simp only [ArchiveName.is_temp_temp, List.countP_cons, Bool.not_true, if_true,
        Bool.false_eq_true, if_false] at htemps harchives
      have hwhole := h.whole _ i hn (by simp)
      have hone : collect_entry limits d collected l (.temp digest suffix) = .ok { l with
          temps := l.temps ++ [((digest, suffix), entry_info d (.temp digest suffix))] } := by
        simp only [inspect_child_archive_file, bind_eq_ok] at hinspect
        obtain ⟨j, hopen, hlinks⟩ := hinspect
        obtain rfl : j = i := by
          rw [open_entry, LinkedDirectory.inode_of_mem h.distinct hn] at hopen
          exact (ok_eq_ok.mp hopen).symm
        have hread : read_child_archive_entry d (.temp digest suffix) [1, 2]
            limits.max_state_bytes = .ok (entry_info d (.temp digest suffix), d.content j) := by
          simp only [read_child_archive_entry, read_fd_all, bind_eq_ok, refuse_eq_ok]
          exact ⟨j, hopen, _, hlinks, _, ⟨(), Nat.not_lt.mpr hwhole.fits, rfl⟩, rfl⟩
        have hidentity : verify_temp_content_identity digest (d.content j) = .ok () := by
          refine refuse_eq_ok.mpr (not_not.mpr ?_)
          rw [data_token, hwhole.digest, ArchiveName.digest_temp]
        simp only [collect_entry, hread, bind_eq_ok, refuse_eq_ok, ok_eq_ok]
        refine ⟨_, rfl, (), hidentity, (), ?_, rfl⟩
        simp only [List.length_append, List.length_singleton]
        omega
      simp only [collect_entries, hone, bind_eq_ok, ok_eq_ok, exists_eq_left']
      rw [ih hrest (by
        simp only [List.length_append, List.length_singleton]
        omega) (by simpa using harchives)]
      simp [listed_archives, listed_temps]

theorem mem_listed_archives {g : String} {info : FileInfo} :
    (g, info) ∈ listed_archives d names ↔
      .final g ∈ names ∧ info = entry_info d (.final g) := by
  simp only [listed_archives, List.mem_filterMap]
  constructor
  · rintro ⟨n, hn, heq⟩
    cases n with
    | final digest =>
      cases heq
      exact ⟨hn, rfl⟩
    | temp _ _ => cases heq
  · rintro ⟨hn, rfl⟩
    exact ⟨_, hn, rfl⟩

theorem mem_listed_temps {g s : String} {info : FileInfo} :
    ((g, s), info) ∈ listed_temps d names ↔
      .temp g s ∈ names ∧ info = entry_info d (.temp g s) := by
  simp only [listed_temps, List.mem_filterMap]
  constructor
  · rintro ⟨n, hn, heq⟩
    cases n with
    | final _ => cases heq
    | temp digest suffix =>
      cases heq
      exact ⟨hn, rfl⟩
  · rintro ⟨hn, rfl⟩
    exact ⟨_, hn, rfl⟩

/-- The listing has the information of every archive. -/
theorem listed_info_archives {g : String} (hmem : .final g ∈ names) :
    listed_info g (listed_archives d names) = some (entry_info d (.final g)) := by
  cases hfound : (listed_archives d names).find? fun p => p.1 = g with
  | none =>
    have hnone := List.find?_eq_none.mp hfound _ (mem_listed_archives.mpr ⟨hmem, rfl⟩)
    exact absurd (decide_eq_true rfl) hnone
  | some p =>
    obtain ⟨g', info⟩ := p
    obtain rfl : g' = g := by
      simpa using List.find?_some hfound
    obtain ⟨_, rfl⟩ := mem_listed_archives.mp (List.mem_of_find?_eq_some hfound)
    rw [listed_info, hfound]
    rfl

/-- The links of a tidy directory are the ones of its publications. -/
theorem Tidy.verify (h : Tidy limits archived none d) :
    verify_listing_entries d {
      archives := listed_archives d (d.entries.map Prod.fst)
      temps := listed_temps d (d.entries.map Prod.fst) } = .ok () := by
  have hname : ∀ n, n ∈ d.entries.map Prod.fst → ∃ i, (n, i) ∈ d.entries := by
    intro n hn
    obtain ⟨⟨m, i⟩, hm, rfl⟩ := List.mem_map.mp hn
    exact ⟨i, hm⟩
  simp only [verify_listing_entries, bind_eq_ok, forM_eq_ok]
  refine ⟨(), ?_, ?_⟩
  · rintro ⟨⟨g, s⟩, info⟩ ht
    obtain ⟨hmem, rfl⟩ := mem_listed_temps.mp ht
    obtain ⟨i, hi⟩ := hname _ hmem
    refine refuse_eq_ok.mpr ?_
    rintro ⟨hlinks, hunpaired⟩
    rw [entry_info_eq h.distinct hi] at hlinks hunpaired
    rcases h.nlink hi with ⟨hone, _⟩ | ⟨_, m, hm, hkind, hdigest⟩
    · exact hlinks hone
    · cases m with
      | temp g' s' => exact hkind rfl
      | final g' =>
        obtain rfl : g' = g := hdigest
        have hmem' : .final g' ∈ d.entries.map Prod.fst := List.mem_map.mpr ⟨_, hm, rfl⟩
        rw [listed_info_archives hmem', entry_info_eq h.distinct hm] at hunpaired
        simp [same_file] at hunpaired
  · rintro ⟨g, info⟩ ha
    obtain ⟨hmem, rfl⟩ := mem_listed_archives.mp ha
    obtain ⟨i, hi⟩ := hname _ hmem
    refine if_neg ?_
    rintro ⟨hlinks, hunpaired⟩
    rw [entry_info_eq h.distinct hi] at hlinks
    rcases h.nlink hi with ⟨hone, _⟩ | ⟨htwo, m, hm, hkind, hdigest⟩
    · rw [hone] at hlinks
      cases hlinks
    · cases m with
      | final g' => exact hkind rfl
      | temp g' s =>
        obtain rfl : g' = g := hdigest
        have hlisted : ((g', s), entry_info d (.temp g' s)) ∈
            listed_temps d (d.entries.map Prod.fst) :=
          mem_listed_temps.mpr ⟨List.mem_map.mpr ⟨_, hm, rfl⟩, rfl⟩
        have hpaired := List.any_eq_false.mp hunpaired _ hlisted
        rw [entry_info_eq h.distinct hm] at hpaired
        simp [htwo] at hpaired

/-- The records of a conversation. -/
def directory_records (d : ArchiveDirectory) (conversation_id workspace_scope_digest : String) :
    List ArchivedConversation :=
  (listed_archives d (d.entries.map Prod.fst)).map fun archive => {
    conversation_id, workspace_scope_digest
    source_checkpoint_digest := "sha256:" ++ archive.1 }

/-- The archives of a directory, and its temporary files. -/
def archive_count (d : ArchiveDirectory) : Nat :=
  (d.entries.map Prod.fst).countP fun n => !n.is_temp

def temp_count (d : ArchiveDirectory) : Nat := (d.entries.map Prod.fst).countP ArchiveName.is_temp

theorem directory_records_length (d : ArchiveDirectory)
    (conversation_id workspace_scope_digest : String) :
    (directory_records d conversation_id workspace_scope_digest).length = archive_count d := by
  have hcount : ∀ names : List ArchiveName,
      (listed_archives d names).length = names.countP fun n => !n.is_temp := by
    intro names
    induction names with
    | nil => rfl
    | cons n names ih =>
      cases n with
      | final _ => simpa [listed_archives] using ih
      | temp _ _ => simpa [listed_archives] using ih
  simp [directory_records, hcount, archive_count]

/-- A tidy directory within the bounds is listed. -/
theorem Tidy.records (h : Tidy limits archived none d)
    (conversation_id workspace_scope_digest : String) (records : List ArchivedConversation)
    (htemps : temp_count d ≤ TEMP_RECONCILE_LIMIT)
    (harchives : records.length + archive_count d ≤ limits.max_archives) :
    collect_conversation_records limits d conversation_id workspace_scope_digest records =
      .ok (records ++ directory_records d conversation_id workspace_scope_digest) := by
  have hnames : ∀ n ∈ d.entries.map Prod.fst, ∃ i, (n, i) ∈ d.entries := by
    intro n hn
    obtain ⟨⟨m, i⟩, hm, rfl⟩ := List.mem_map.mp hn
    exact ⟨i, hm⟩
  have hcollect := h.collect (l := {}) records.length hnames
    (by simpa [temp_count] using htemps) (by simpa [archive_count] using harchives)
  simp only [List.nil_append] at hcollect
  simp only [collect_conversation_records, hcollect, bind_eq_ok, ok_eq_ok, exists_eq_left']
  exact ⟨(), h.verify, rfl⟩

theorem mem_directory_records {r : ArchivedConversation} {conversation_id scope : String} :
    r ∈ directory_records d conversation_id scope ↔
      ∃ g i, (.final g, i) ∈ d.entries ∧ r = {
        conversation_id, workspace_scope_digest := scope
        source_checkpoint_digest := "sha256:" ++ g } := by
  simp only [directory_records, List.mem_map]
  constructor
  · rintro ⟨⟨g, info⟩, hg, rfl⟩
    obtain ⟨hmem, _⟩ := mem_listed_archives.mp hg
    obtain ⟨⟨_, i⟩, hi, rfl⟩ := List.mem_map.mp hmem
    exact ⟨g, i, hi, rfl⟩
  · rintro ⟨g, i, hi, rfl⟩
    exact ⟨(g, entry_info d (.final g)), mem_listed_archives.mpr ⟨List.mem_map.mpr ⟨_, hi, rfl⟩, rfl⟩,
      rfl⟩

/-- A scope of tidy directories within the bounds is listed. -/
theorem collect_scope_ok (scope : String) {directory : String → ArchiveDirectory}
    {conversations : List String} (records : List ArchivedConversation)
    (hids : ∀ c ∈ conversations, is_conversation_id c = true)
    (htidy : ∀ c ∈ conversations, Tidy limits archived none (directory c))
    (htemps : ∀ c ∈ conversations, temp_count (directory c) ≤ TEMP_RECONCILE_LIMIT)
    (harchives : records.length + (conversations.map fun c => archive_count (directory c)).sum ≤
      limits.max_archives) :
    collect_scope limits scope directory conversations records =
      .ok (records ++ conversations.flatMap fun c => directory_records (directory c) c scope) := by
  induction conversations generalizing records with
  | nil => simp [collect_scope]
  | cons c conversations ih =>
    simp only [List.map_cons, List.sum_cons] at harchives
    have hid := hids c List.mem_cons_self
    have hone := (htidy c List.mem_cons_self).records c scope records
      (htemps c List.mem_cons_self) (by omega)
    have hrest := ih (records ++ directory_records (directory c) c scope)
      (fun c' hc => hids c' (List.mem_cons_of_mem _ hc))
      (fun c' hc => htidy c' (List.mem_cons_of_mem _ hc))
      (fun c' hc => htemps c' (List.mem_cons_of_mem _ hc))
      (by
        rw [List.length_append, directory_records_length]
        omega)
    simp only [collect_scope, hone, bind_eq_ok, refuse_eq_ok, ok_eq_ok, exists_eq_left']
    refine ⟨(), by simp [hid], ?_⟩
    rw [hrest]
    simp

/-- `list_archived` does not raise, and returns the archives. -/
theorem list_archived_ok {scope : String} {directory : String → ArchiveDirectory}
    {conversations : List String} (hscope : validate_scope_digest scope = .ok ())
    (hids : ∀ c ∈ conversations, is_conversation_id c = true)
    (htidy : ∀ c ∈ conversations, Tidy limits archived none (directory c))
    (htemps : ∀ c ∈ conversations, temp_count (directory c) ≤ TEMP_RECONCILE_LIMIT)
    (harchives : (conversations.map fun c => archive_count (directory c)).sum ≤
      limits.max_archives) :
    ∃ records, list_archived limits scope conversations directory = .ok records ∧
      ∀ r, r ∈ records ↔ ∃ c ∈ conversations, ∃ g i, (.final g, i) ∈ (directory c).entries ∧
        r = { conversation_id := c, workspace_scope_digest := scope
              source_checkpoint_digest := "sha256:" ++ g } := by
  have hcollect := collect_scope_ok scope [] hids htidy htemps
    (by simpa using harchives)
  refine ⟨(conversations.flatMap fun c => directory_records (directory c) c scope).mergeSort
    fun x y => PyText.le (record_path x) (record_path y), ?_, ?_⟩
  · simp only [list_archived, hscope, hcollect, bind_eq_ok, ok_eq_ok, exists_eq_left']
    exact ⟨(), trivial, rfl⟩
  · intro r
    simp only [List.mem_mergeSort, List.mem_flatMap, mem_directory_records]

end Listing
