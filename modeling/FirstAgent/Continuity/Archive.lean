import Mathlib.Logic.Function.Basic
import FirstAgent.Continuity.ArchiveDirectory
import FirstAgent.Framework.TransitionSystem

/-! # Publishing an Archive

    `LocalConversationArchive.archive` as its system calls on the directory of
    a conversation, one a step, with a hard stop possible before each of them
    and inside the write loop, and `archive_workspace_session`, which reads the
    archive back and then releases the checkpoint.  One writer works at a time:
    the callers hold the lock of the workspace. -/

open Fallible

/-! ### Writers -/

/-- How far a writer is. -/
inductive ArchiveStage where
  | started
  | opened
  /-- Residual temporary files are left to reconcile. -/
  | reconciling (temps : List ArchiveName)
  /-- A name for the temporary file is to be found. -/
  | allocating (attempts : Nat)
  /-- `view` is not written yet. -/
  | writing (temp : ArchiveName) (inode : Nat) (view : List Nat)
  | synced (temp : ArchiveName)
  | linked (temp : ArchiveName)
  | unlinked
  /-- The archive existed already. -/
  | existing (temp : ArchiveName)
  | cleaning (temp : ArchiveName) (result : Except ArchiveError Unit)
  | cleaned (result : Except ArchiveError Unit)
  /-- The archive has returned to `archive_workspace_session`. -/
  | returned
  /-- It was read back as the checkpoint. -/
  | confirmed

/-- The temporary file that a stage has not written yet. -/
def ArchiveStage.torn : ArchiveStage → Option ArchiveName
  | .writing temp _ view => if view = [] then none else some temp
  | _                    => none

/-- A call of the archive; a session archives the snapshot it holds. -/
structure ArchiveWriter (State : Type) where
  conversation_id : String
  workspace_scope_digest : String
  data : List Nat
  session : Option (LoadedSnapshot State)
  stage : ArchiveStage

namespace ArchiveWriter

variable {State : Type}

/-- The digest of the state a writer archives. -/
def digest (x : ArchiveWriter State) : String := data_digest x.data

/-- The record a writer returns. -/
def record (x : ArchiveWriter State) : ArchivedConversation where
  conversation_id := x.conversation_id
  workspace_scope_digest := x.workspace_scope_digest
  source_checkpoint_digest := data_token x.data

end ArchiveWriter

/-- The archive directories of a scope, the active checkpoints by conversation
    and the writer; `archived` names the texts of all archive calls so far, and
    `result` is what the last one returned. -/
structure ArchiveWorld (State : Type) where
  conversations : List String := []
  directory : String → ArchiveDirectory := fun _ => { content := fun _ => [] }
  checkpoint : String → Option (List Nat) := fun _ => none
  writer : Option (ArchiveWriter State) := none
  archived : List (List Nat) := []
  result : Option (Except ArchiveError Unit) := none

/-- The file of a conversation that its writer has not written yet. -/
def ArchiveWorld.torn {State : Type} (w : ArchiveWorld State) (conversation_id : String) :
    Option ArchiveName :=
  match w.writer with
  | some x => if x.conversation_id = conversation_id then x.stage.torn else none
  | none   => none

/-- The calls of the writers. -/
inductive ArchiveCall (State : Type) where
  /-- The runtime saves a checkpoint. -/
  | save (conversation_id : String) (data : List Nat)
  /-- `archive` is called for a compaction. -/
  | begin (state : State) (source_checkpoint_digest workspace_scope_digest : String)
  /-- `archive_workspace_session` is called. -/
  | begin_session (conversation_id expected_checkpoint_digest workspace_scope_digest : String)
  | make_directory
  | scan
  | reconcile
  | create (suffix : String) (inode : Nat)
  | write (written : Nat)
  | fsync_temp
  | link
  | unlink_temp
  | fsync_directory
  | verify
  | cleanup
  | fsync_cleanup
  | read_back
  | retire
  /-- The process of the writer is stopped. -/
  | stop

/-! ### Steps -/

section Steps

variable {State : Type} [DecidableEq State]

/-- `LocalCheckpointStore.load`. -/
def load_checkpoint (codec : StateCodec State) (checkpoint : Option (List Nat)) :
    Except ArchiveError (LoadedSnapshot State) := do
  let data ← expect checkpoint (.checkpoint_missing "checkpoint is missing")
  let state ← expect (codec.decode data) (.value_error "checkpoint is malformed")
  .ok { state, token := data_token data }

/-- What `archive` asks of its arguments, and the text it writes. -/
def check_archive (codec : StateCodec State) (state : State)
    (source_checkpoint_digest workspace_scope_digest : String) : Except ArchiveError (List Nat) := do
  validate_conversation_id (codec.conversation_id state)
  validate_scope_digest workspace_scope_digest
  validate_digest_token source_checkpoint_digest
  let binding ← expect (codec.workspace_scope_digest state)
    (.error "archived state must carry a workspace binding")
  refuse (binding ≠ workspace_scope_digest)
    (.error "archived state is not bound to the requested workspace scope")
  let data := codec.encode state
  refuse (data_token data ≠ source_checkpoint_digest)
    (.conflict "source checkpoint digest does not match the encoded archived state")
  .ok data

/-- The snapshot `archive_workspace_session` archives. -/
def check_session (codec : StateCodec State) (checkpoint : Option (List Nat))
    (conversation_id expected_checkpoint_digest : String) :
    Except ArchiveError (LoadedSnapshot State) := do
  let current ← load_checkpoint codec checkpoint
  refuse (codec.conversation_id current.state ≠ conversation_id)
    (.value_error "conversation does not exist")
  refuse (current.token ≠ expected_checkpoint_digest)
    (.value_error "conversation changed after preview")
  refuse (codec.archive_eligible current.state = false)
    (.value_error "only a terminal conversation can be archived")
  .ok current

/-- The temporary files for a digest, in the order of the directory. -/
def temps_for (d : ArchiveDirectory) (digest : String) : List ArchiveName :=
  (d.entries.map Prod.fst).filter fun n => n.is_temp && n.digest = digest

/-- The check of one residual temporary file. -/
def check_residual (limits : ArchiveLimits) (d : ArchiveDirectory) (digest : String)
    (data : List Nat) (temp : ArchiveName) : Except ArchiveError Unit := do
  let i ← open_entry d temp
  let temp_info ← validate_links d i [1, 2]
  let content ← read_fd_all d i limits.max_state_bytes
  refuse (content ≠ data) (.conflict "archive temp holds content for a different checkpoint")
  if temp_info.nlink = 2 then do
    let final_info ← inspect_child_archive_file d (.final digest) [2]
    refuse (same_file temp_info final_info = false)
      (.security "archive temp hardlink does not match its published archive")
  else
    .ok ()

/-- `_verify_and_fsync_existing_archive`. -/
def verify_existing (limits : ArchiveLimits) (d : ArchiveDirectory) (digest : String)
    (data : List Nat) : Except ArchiveError Unit := do
  let i ← open_entry d (.final digest)
  let _ ← validate_links d i [1]
  let content ← read_fd_all d i limits.max_state_bytes
  refuse (content ≠ data) (.conflict "archive digest already holds different content")

/-- `retire_archived_snapshot` before it removes the checkpoint. -/
def check_retirement (codec : StateCodec State) (checkpoint : Option (List Nat))
    (snapshot : LoadedSnapshot State) (archive : ArchivedConversation) :
    Except ArchiveError Unit := do
  let current ← load_checkpoint codec checkpoint
  refuse (current ≠ snapshot) (.checkpoint_conflict "snapshot token or revision changed")
  refuse (archive.conversation_id ≠ codec.conversation_id current.state
      ∨ archive.source_checkpoint_digest ≠ snapshot.token
      ∨ codec.workspace_scope_digest current.state ≠ some archive.workspace_scope_digest)
    (.checkpoint_conflict "archive does not bind the current checkpoint")

namespace ArchiveWorld

/-- The writer goes on, in its directory `d`. -/
def advance (w : ArchiveWorld State) (x : ArchiveWriter State) (stage : ArchiveStage)
    (d : ArchiveDirectory) : ArchiveWorld State := { w with
  directory := Function.update w.directory x.conversation_id d
  writer := some { x with stage } }

/-- The archive raises. -/
def fail (w : ArchiveWorld State) (e : ArchiveError) : ArchiveWorld State :=
  { w with writer := none, result := some (.error e) }

/-- The archive returns; a session goes on to read it back. -/
def finish (w : ArchiveWorld State) (x : ArchiveWriter State) : ArchiveWorld State := { w with
  writer := if x.session.isSome then some { x with stage := .returned } else none
  result := some (.ok ()) }

end ArchiveWorld

/-- The call is not the next one of the writer. -/
def out_of_turn : ArchiveError := .error "the writer is not at this call"

/-- One system call of the writer in its directory. -/
def writer_step (limits : ArchiveLimits) (w : ArchiveWorld State) (x : ArchiveWriter State)
    (d : ArchiveDirectory) : ArchiveCall State → Except ArchiveError (ArchiveWorld State)
  | .make_directory =>
    match x.stage with
    | .started => .ok { w.advance x .opened d with
        conversations := if x.conversation_id ∈ w.conversations then w.conversations
          else w.conversations ++ [x.conversation_id] }
    | _ => .error out_of_turn
  | .scan =>
    match x.stage with
    | .opened =>
      if limits.max_state_bytes < x.data.length then
        .ok (w.fail (.error "archive file exceeds configured capacity"))
      else if TEMP_RECONCILE_LIMIT < (temps_for d x.digest).length then
        .ok (w.fail (.error "archive temp reconciliation exceeds its safety bound"))
      else
        .ok (w.advance x (.reconciling (temps_for d x.digest)) d)
    | _ => .error out_of_turn
  | .reconcile =>
    match x.stage with
    | .reconciling []             => .ok (w.advance x (.allocating 0) d)
    | .reconciling (temp :: temps) =>
      match check_residual limits d x.digest x.data temp with
      | .ok ()   => .ok (w.advance x (.reconciling temps) (d.unlink temp))
      | .error e => .ok (w.fail e)
    | _ => .error out_of_turn
  | .create suffix inode =>
    match x.stage with
    | .allocating attempts =>
      if d.inode (.temp x.digest suffix) ≠ none then
        if attempts + 1 = 8 then
          .ok (w.fail (.error "archive temporary name allocation failed"))
        else
          .ok (w.advance x (.allocating (attempts + 1)) d)
      else do
        -- the file system picks an inode that is not in use
        refuse (inode ∈ d.entries.map Prod.snd) out_of_turn
        .ok (w.advance x (.writing (.temp x.digest suffix) inode x.data)
          ((d.write inode []).link (.temp x.digest suffix) inode))
    | _ => .error out_of_turn
  | .write written =>
    match x.stage with
    | .writing temp inode view => do
      refuse (written = 0 ∨ view.length < written) out_of_turn
      .ok (w.advance x (.writing temp inode (view.drop written))
        (d.write inode (d.content inode ++ view.take written)))
    | _ => .error out_of_turn
  | .fsync_temp =>
    match x.stage with
    | .writing temp _ [] => .ok (w.advance x (.synced temp) d)
    | _                  => .error out_of_turn
  | .link =>
    match x.stage with
    | .synced temp =>
      match d.inode (.final x.digest), d.inode temp with
      | none, some i => .ok (w.advance x (.linked temp) (d.link (.final x.digest) i))
      | none, none   => .ok (w.fail (.error "filesystem error during publish archive"))
      | some _, _    => .ok (w.advance x (.existing temp) d)
    | _ => .error out_of_turn
  | .unlink_temp =>
    match x.stage with
    | .linked temp => .ok (w.advance x .unlinked (d.unlink temp))
    | _            => .error out_of_turn
  | .fsync_directory =>
    match x.stage with
    | .unlinked => .ok (w.finish x)
    | _         => .error out_of_turn
  | .verify =>
    match x.stage with
    | .existing temp => .ok (w.advance x (.cleaning temp (verify_existing limits d x.digest x.data)) d)
    | _              => .error out_of_turn
  | .cleanup =>
    match x.stage with
    | .cleaning temp result => .ok (w.advance x (.cleaned result) (d.unlink temp))
    | _                     => .error out_of_turn
  | .fsync_cleanup =>
    match x.stage with
    | .cleaned (.ok ())    => .ok (w.finish x)
    | .cleaned (.error e)  => .ok (w.fail e)
    | _                    => .error out_of_turn
  | _ => .error out_of_turn

/-- One call of `archive_workspace_session` after the archive has returned. -/
def session_end (codec : StateCodec State) (limits : ArchiveLimits) (w : ArchiveWorld State)
    (x : ArchiveWriter State) (current : LoadedSnapshot State) :
    ArchiveCall State → Except ArchiveError (ArchiveWorld State)
  | .read_back =>
    match x.stage with
    | .returned =>
      -- a failed or different read-back ends the session and keeps the checkpoint
      if load_archived codec limits w.conversations w.directory x.record = .ok current then
        .ok { w with writer := some { x with stage := .confirmed } }
      else
        .ok { w with writer := none }
    | _ => .error out_of_turn
  | .retire =>
    match x.stage with
    | .confirmed =>
      match check_retirement codec (w.checkpoint x.conversation_id) current x.record with
      | .ok ()   => .ok { w with
          checkpoint := Function.update w.checkpoint x.conversation_id none
          writer := none }
      | .error _ => .ok { w with writer := none }
    | _ => .error out_of_turn
  | _ => .error out_of_turn

/-- A writer starts. -/
def start_writer (codec : StateCodec State) (w : ArchiveWorld State) (state : State)
    (source_checkpoint_digest workspace_scope_digest : String)
    (session : Option (LoadedSnapshot State)) : Except ArchiveError (ArchiveWorld State) := do
  refuse (w.writer.isSome = true) (.value_error "conversation is currently in use")
  let data ← check_archive codec state source_checkpoint_digest workspace_scope_digest
  .ok { w with
    writer := some {
      conversation_id := codec.conversation_id state
      workspace_scope_digest, data, session
      stage := .started }
    archived := data :: w.archived
    result := none }

/-- One call on the archives of a workspace. -/
def archive_step (codec : StateCodec State) (limits : ArchiveLimits) (w : ArchiveWorld State) :
    ArchiveCall State → Except ArchiveError (ArchiveWorld State)
  | .save conversation_id data => do
    refuse (w.writer.any (fun x => x.conversation_id = conversation_id) = true)
      (.checkpoint_conflict "mutation lease is not held")
    .ok { w with checkpoint := Function.update w.checkpoint conversation_id (some data) }
  | .begin state source_checkpoint_digest workspace_scope_digest =>
    start_writer codec w state source_checkpoint_digest workspace_scope_digest none
  | .begin_session conversation_id expected_checkpoint_digest workspace_scope_digest => do
    let current ← check_session codec (w.checkpoint conversation_id) conversation_id
      expected_checkpoint_digest
    start_writer codec w current.state current.token workspace_scope_digest (some current)
  | .read_back => do
    let x ← expect w.writer out_of_turn
    let current ← expect x.session out_of_turn
    session_end codec limits w x current .read_back
  | .retire => do
    let x ← expect w.writer out_of_turn
    let current ← expect x.session out_of_turn
    session_end codec limits w x current .retire
  | .stop => .ok { w with writer := none }
  | call  => do
    let x ← expect w.writer out_of_turn
    writer_step limits w x (w.directory x.conversation_id) call

/-- The archives of a workspace. -/
def archive_system (codec : StateCodec State) (limits : ArchiveLimits) :
    System ArchiveError (ArchiveWorld State) (ArchiveCall State) where
  step := archive_step codec limits

end Steps
