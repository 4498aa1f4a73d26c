import FirstAgent.Continuity.ArchiveDirectory
import FirstAgent.Contracts.State
import FirstAgent.Framework.LockFile
import FirstAgent.Framework.TransitionSystem

/-! # The Checkpoint Store

    `LocalCheckpointStore` and the sweep of retired locks as their system calls,
    one a step, by any number of processes, with an error or a hard stop possible
    at each of them.  The lock file carries a name that a sweep removes, so a
    process can lock an inode that no longer has the name.

    * **`store_step`**: the next call of one process.
    * **`atomic_step`**: the same store with each call in one piece, which is what
      the callers rely on. -/

open Fallible

/-- The errors of the store; an `OSError` may pass through it. -/
inductive CheckpointError where
  | error (message : String)
  | missing (message : String)
  | malformed (message : String)
  | invariant (message : String)
  | version (message : String)
  | conflict (message : String) (current : Option (LoadedSnapshot ConversationState))
  | security (message : String)
  | capacity (message : String)
  | os_error
  deriving DecidableEq

abbrev StoreResult (α : Type) : Type := Except CheckpointError α

/-- `_encode_state` and `_decode_state`.  A text is one JSON object, so that a text
    cut short is none. -/
structure CheckpointCodec where
  encode : ConversationState → List Nat
  decode : List Nat → StoreResult ConversationState
  torn : ∀ state written rest, encode state = written ++ rest → rest ≠ [] →
    ∃ e, decode written = .error e

/-! ### The checks of the calls -/

section checks

variable (codec : CheckpointCodec) (max_state_bytes : Nat)

/-- `_read_bytes`; a file is its inode and its content. -/
def read_bytes (checkpoint : Option (Nat × List Nat)) : StoreResult (List Nat) := do
  let file ← expect checkpoint (.missing "checkpoint file is missing")
  refuse (max_state_bytes < file.2.length) (.capacity "checkpoint exceeds configured capacity")
  .ok file.2

/-- `LocalCheckpointStore.load`. -/
def load_snapshot (checkpoint : Option (Nat × List Nat)) :
    StoreResult (LoadedSnapshot ConversationState) := do
  let data ← read_bytes max_state_bytes checkpoint
  let state ← codec.decode data
  .ok { state, token := data_token data }

/-- What `compare_and_swap` checks of the bytes it has read, and the bytes it goes on to write. -/
def check_swap (data : List Nat) (snapshot : LoadedSnapshot ConversationState)
    (new_state : ConversationState) : StoreResult (List Nat) := do
  let current ← codec.decode data
  refuse (data_token data ≠ snapshot.token ∨ current.val.revision ≠ snapshot.state.val.revision)
    (.conflict "snapshot token or revision changed" (some { state := current, token := data_token data }))
  refuse (current.val.conversation_id ≠ new_state.val.conversation_id)
    (.conflict "conversation identity cannot change" none)
  refuse (current.val.workspace_binding ≠ none ∧
      new_state.val.workspace_binding ≠ current.val.workspace_binding)
    (.invariant "workspace binding cannot change")
  refuse (max_state_bytes < (codec.encode new_state).length)
    (.capacity "checkpoint exceeds configured capacity")
  .ok (codec.encode new_state)

/-- What `retire_archived_snapshot` checks before it removes the checkpoint. -/
def check_retire (data : List Nat) (snapshot : LoadedSnapshot ConversationState)
    (archive : ArchivedConversation) : StoreResult Unit := do
  let current ← codec.decode data
  refuse (data_token data ≠ snapshot.token ∨ current.val.revision ≠ snapshot.state.val.revision ∨
      current ≠ snapshot.state)
    (.conflict "snapshot token or revision changed" (some { state := current, token := data_token data }))
  refuse (archive.conversation_id ≠ current.val.conversation_id ∨
      archive.source_checkpoint_digest ≠ snapshot.token ∨
      current.val.workspace_binding.map (fun b => b.val.workspace_scope_digest)
        ≠ some archive.workspace_scope_digest)
    (.conflict "archive does not bind the current checkpoint" none)

/-! ### The atomic store -/

/-- A change of the stored text. -/
inductive StoreEvent where
  | created (state : ConversationState)
  | swapped (snapshot : LoadedSnapshot ConversationState) (new_state : ConversationState)
  | retired (snapshot : LoadedSnapshot ConversationState) (archive : ArchivedConversation)

/-- The store as its callers see it: each change is one step on the stored text. -/
def atomic_step : Option (List Nat) → StoreEvent → StoreResult (Option (List Nat))
  | none, .created state =>
    if max_state_bytes < (codec.encode state).length then
      .error (.capacity "initial checkpoint exceeds configured capacity")
    else
      .ok (some (codec.encode state))
  | some _, .created _                   => .error (.conflict "checkpoint already exists" none)
  | none, _                              => .error (.missing "checkpoint file is missing")
  | some data, .swapped snapshot state   =>
    check_swap codec max_state_bytes data snapshot state >>= fun data' => .ok (some data')
  | some data, .retired snapshot archive =>
    check_retire codec data snapshot archive >>= fun _ => .ok none

def atomic_store : System CheckpointError (Option (List Nat)) StoreEvent where
  step := atomic_step codec max_state_bytes

end checks

/-! ### Processes -/

/-- How far a process is with a call on the store. -/
inductive StoreStage where
  | idle
  /-- `try_acquire`, from the open of the lock on. -/
  | acquiring (conversation_id : String)
  /-- It has the lease and no call is going on. -/
  | leased
  /-- `compare_and_swap` has passed its checks. -/
  | swapping (snapshot : LoadedSnapshot ConversationState) (new_state : ConversationState)
      (data : List Nat)
  /-- `view` is left to be written to the temporary file. -/
  | writing (snapshot : LoadedSnapshot ConversationState) (new_state : ConversationState)
      (suffix : String) (written view : List Nat)
  | synced (snapshot : LoadedSnapshot ConversationState) (new_state : ConversationState)
      (suffix : String) (data : List Nat)
  /-- The temporary file has the name of the checkpoint. -/
  | replaced (new_state : ConversationState) (data : List Nat)
  /-- `retire_archived_snapshot` has passed its checks. -/
  | retiring (snapshot : LoadedSnapshot ConversationState) (archive : ArchivedConversation)
  /-- `initialize` has `view` left to write. -/
  | creating (state : ConversationState) (inode : Nat) (view : List Nat)
  /-- `_sweep_retired_locks` at this lock. -/
  | sweeping

/-- A stage of a process with the lease. -/
def StoreStage.has_lease : StoreStage → Bool
  | .leased | .swapping _ _ _ | .writing _ _ _ _ _ | .synced _ _ _ _ | .replaced _ _
  | .retiring _ _ => true
  | _ => false

/-- The files of one checkpoint and the processes; `log` names the changes of the
    stored text so far. -/
structure CheckpointWorld where
  lock : LockFile Nat := {}
  checkpoint : Option (Nat × List Nat) := none
  created : Nat := 0
  temps : List String := []
  stage : Nat → StoreStage := fun _ => .idle
  /-- The last snapshot a process was given, or the error it met. -/
  outcome : Nat → Option (StoreResult (LoadedSnapshot ConversationState)) := fun _ => none
  log : List StoreEvent := []

/-- The process is not at this call. -/
def not_at_call : CheckpointError := .error "the process is not at this call"

namespace CheckpointWorld

section calls

variable (codec : CheckpointCodec) (max_state_bytes : Nat) (w : CheckpointWorld) (p : Nat)

def has_lease : Bool := (w.stage p).has_lease

def advance (stage : StoreStage) : CheckpointWorld :=
  { w with stage := Function.update w.stage p stage }

/-- A call comes to an end with a result. -/
def answer (stage : StoreStage) (result : StoreResult (LoadedSnapshot ConversationState)) :
    CheckpointWorld :=
  { w.advance p stage with outcome := Function.update w.outcome p (some result) }

/-- The file is whole once nothing of it is left to write. -/
def note_created (log : List StoreEvent) (state : ConversationState) (view : List Nat) :
    List StoreEvent :=
  if view = [] then log ++ [.created state] else log

/-- Append to an inode, which may no longer have the name. -/
def append_inode (checkpoint : Option (Nat × List Nat)) (inode : Nat) (bytes : List Nat) :
    Option (Nat × List Nat) :=
  checkpoint.map fun file => if file.1 = inode then (file.1, file.2 ++ bytes) else file

/-- `initialize` up to the open of the new file. -/
def create (state : ConversationState) : StoreResult CheckpointWorld :=
  match w.stage p with
  | .idle =>
    if max_state_bytes < (codec.encode state).length then
      .ok (w.answer p .idle
        (.error (.capacity "initial checkpoint exceeds configured capacity")))
    else
      match w.checkpoint with
      | some _ => .ok (w.answer p .idle (.error (.conflict "checkpoint already exists" none)))
      | none   => .ok { w.advance p (.creating state w.created (codec.encode state)) with
          checkpoint := some (w.created, [])
          created := w.created + 1
          log := note_created w.log state (codec.encode state) }
  | _ => .error not_at_call

/-- One turn of the write loop of `initialize`. -/
def write_new (n : Nat) : StoreResult CheckpointWorld :=
  match w.stage p with
  | .creating state inode view =>
    if n = 0 ∨ view.length < n then
      .error not_at_call
    else
      .ok { w.advance p (.creating state inode (view.drop n)) with
        checkpoint := append_inode w.checkpoint inode (view.take n)
        log := note_created w.log state (view.drop n) }
  | _ => .error not_at_call

/-- `initialize` returns. -/
def finish_new : StoreResult CheckpointWorld :=
  match w.stage p with
  | .creating _ _ [] => .ok (w.advance p .idle)
  | _                => .error not_at_call

/-- `try_acquire` opens the lock. -/
def open_lock (conversation_id : String) : StoreResult CheckpointWorld :=
  match w.stage p with
  | .idle => .ok { w.advance p (.acquiring conversation_id) with lock := w.lock.open_or_create p }
  | _     => .error not_at_call

/-- The process goes on with the lock, or gives up when it was closed. -/
def settle (lock : LockFile Nat) : CheckpointWorld :=
  { (if lock.phase p = .closed then w.advance p .idle else w) with lock }

/-- `flock` in `try_acquire` and in the sweep. -/
def flock : StoreResult CheckpointWorld :=
  match w.stage p, w.lock.phase p with
  | .acquiring _, .opened _ => .ok (w.settle p (w.lock.try_lock p))
  | .sweeping, .opened _    => .ok (w.settle p (w.lock.try_lock p))
  | _, _                    => .error not_at_call

/-- The look whether the name still stands for the locked inode. -/
def check_lock : StoreResult CheckpointWorld :=
  match w.stage p, w.lock.phase p with
  | .acquiring _, .locked _ => .ok (w.settle p (w.lock.check_name p))
  | .sweeping, .locked _    => .ok (w.settle p (w.lock.check_name p))
  | _, _                    => .error not_at_call

/-- `try_acquire` reads the checkpoint under the lock. -/
def read_lock : StoreResult CheckpointWorld :=
  match w.stage p, w.lock.phase p with
  | .acquiring conversation_id, .held _ =>
    match load_snapshot codec max_state_bytes w.checkpoint with
    | .ok snapshot =>
      if snapshot.state.val.conversation_id = conversation_id then
        .ok (w.advance p .leased)
      else
        .ok { w.advance p .idle with lock := w.lock.close p }
    | .error e => .ok { w.answer p .idle (.error e) with lock := w.lock.close p }
  | _, _ => .error not_at_call

/-- `_LocalLease.release`, and the end of a sweep. -/
def release : StoreResult CheckpointWorld :=
  match w.stage p with
  | .leased   => .ok { w.advance p .idle with lock := w.lock.close p }
  | .sweeping => .ok { w.advance p .idle with lock := w.lock.close p }
  | _         => .error not_at_call

/-- `compare_and_swap` up to its checks. -/
def compare_and_swap (snapshot : LoadedSnapshot ConversationState)
    (new_state : ConversationState) : StoreResult CheckpointWorld :=
  match w.stage p with
  | .leased =>
    match read_bytes max_state_bytes w.checkpoint >>=
        fun data => check_swap codec max_state_bytes data snapshot new_state with
    | .ok data => .ok (w.advance p (.swapping snapshot new_state data))
    | .error e => .ok (w.answer p .leased (.error e))
  | _ => .error not_at_call

/-- A name that is taken is removed like one's own. -/
def create_temp (suffix : String) : StoreResult CheckpointWorld :=
  match w.stage p with
  | .swapping snapshot new_state data =>
    if suffix ∈ w.temps then
      .ok { w.answer p .leased (.error .os_error) with temps := w.temps.erase suffix }
    else
      .ok { w.advance p (.writing snapshot new_state suffix [] data) with
        temps := suffix :: w.temps }
  | _ => .error not_at_call

/-- One turn of `_write_all`. -/
def write_temp (n : Nat) : StoreResult CheckpointWorld :=
  match w.stage p with
  | .writing snapshot new_state suffix written view =>
    if n = 0 ∨ view.length < n then
      .error not_at_call
    else
      .ok (w.advance p
        (.writing snapshot new_state suffix (written ++ view.take n) (view.drop n)))
  | _ => .error not_at_call

def fsync_temp : StoreResult CheckpointWorld :=
  match w.stage p with
  | .writing snapshot new_state suffix written [] =>
    .ok (w.advance p (.synced snapshot new_state suffix written))
  | _ => .error not_at_call

/-- `os.replace`. -/
def replace : StoreResult CheckpointWorld :=
  match w.stage p with
  | .synced snapshot new_state suffix data =>
    .ok { w.advance p (.replaced new_state data) with
      checkpoint := some (w.created, data)
      created := w.created + 1
      temps := w.temps.erase suffix
      log := w.log ++ [.swapped snapshot new_state] }
  | _ => .error not_at_call

/-- `compare_and_swap` returns. -/
def fsync_directory : StoreResult CheckpointWorld :=
  match w.stage p with
  | .replaced new_state data =>
    .ok (w.answer p .leased (.ok { state := new_state, token := data_token data }))
  | _ => .error not_at_call

/-- `retire_archived_snapshot` up to its checks. -/
def retire (snapshot : LoadedSnapshot ConversationState) (archive : ArchivedConversation) :
    StoreResult CheckpointWorld :=
  match w.stage p with
  | .leased =>
    match read_bytes max_state_bytes w.checkpoint >>=
        fun data => check_retire codec data snapshot archive with
    | .ok ()   => .ok (w.advance p (.retiring snapshot archive))
    | .error e => .ok (w.answer p .leased (.error e))
  | _ => .error not_at_call

/-- `os.unlink` of the checkpoint. -/
def unlink_checkpoint : StoreResult CheckpointWorld :=
  match w.stage p with
  | .retiring snapshot archive =>
    .ok { w.advance p .leased with
      checkpoint := none
      log := w.log ++ [.retired snapshot archive] }
  | _ => .error not_at_call

/-- An `OSError` in the middle of a call. -/
def raise : StoreResult CheckpointWorld :=
  match w.stage p with
  | .swapping _ _ _            => .ok (w.answer p .leased (.error .os_error))
  | .writing _ _ suffix _ _    =>
    .ok { w.answer p .leased (.error .os_error) with temps := w.temps.erase suffix }
  | .synced _ _ suffix _       =>
    .ok { w.answer p .leased (.error .os_error) with temps := w.temps.erase suffix }
  | .replaced _ _              => .ok (w.answer p .leased (.error .os_error))
  | .retiring _ _              => .ok (w.answer p .leased (.error .os_error))
  | .creating _ _ _            => .ok (w.answer p .idle (.error .os_error))
  | .acquiring _               => .ok { w.answer p .idle (.error .os_error) with
      lock := w.lock.close p }
  | _                          => .error not_at_call

/-- The sweep opens a lock that is there. -/
def open_sweep : StoreResult CheckpointWorld :=
  match w.stage p with
  | .idle => .ok ((w.advance p .sweeping).settle p (w.lock.open_existing p))
  | _     => .error not_at_call

/-- The sweep removes the lock it has locked and looked at. -/
def unlink_lock : StoreResult CheckpointWorld :=
  match w.stage p, w.lock.phase p with
  | .sweeping, .held _ => .ok { w with lock := w.lock.unlink p }
  | _, _               => .error not_at_call

/-- The process is killed: its files are closed, a temporary file stays. -/
def stop : CheckpointWorld := { w.advance p .idle with lock := w.lock.close p }

end calls

end CheckpointWorld

/-! ### The system -/

/-- The calls of the processes. -/
inductive StoreCall where
  | create (state : ConversationState)
  | write_new (n : Nat)
  | finish_new
  | open_lock (conversation_id : String)
  | flock
  | check_lock
  | read_lock
  | release
  | compare_and_swap (snapshot : LoadedSnapshot ConversationState) (new_state : ConversationState)
  | create_temp (suffix : String)
  | write_temp (n : Nat)
  | fsync_temp
  | replace
  | fsync_directory
  | retire (snapshot : LoadedSnapshot ConversationState) (archive : ArchivedConversation)
  | unlink_checkpoint
  | raise
  | open_sweep
  | unlink_lock
  | stop

/-- The next call of a process. -/
def store_step (codec : CheckpointCodec) (max_state_bytes : Nat) (w : CheckpointWorld) :
    Nat × StoreCall → StoreResult CheckpointWorld
  | (p, .create state)                => w.create codec max_state_bytes p state
  | (p, .write_new n)                 => w.write_new p n
  | (p, .finish_new)                  => w.finish_new p
  | (p, .open_lock conversation_id)   => w.open_lock p conversation_id
  | (p, .flock)                       => w.flock p
  | (p, .check_lock)                  => w.check_lock p
  | (p, .read_lock)                   => w.read_lock codec max_state_bytes p
  | (p, .release)                     => w.release p
  | (p, .compare_and_swap snap state) => w.compare_and_swap codec max_state_bytes p snap state
  | (p, .create_temp suffix)          => w.create_temp p suffix
  | (p, .write_temp n)                => w.write_temp p n
  | (p, .fsync_temp)                  => w.fsync_temp p
  | (p, .replace)                     => w.replace p
  | (p, .fsync_directory)             => w.fsync_directory p
  | (p, .retire snap archive)         => w.retire codec max_state_bytes p snap archive
  | (p, .unlink_checkpoint)           => w.unlink_checkpoint p
  | (p, .raise)                       => w.raise p
  | (p, .open_sweep)                  => w.open_sweep p
  | (p, .unlink_lock)                 => w.unlink_lock p
  | (p, .stop)                        => .ok (w.stop p)

/-- The processes on one checkpoint. -/
def checkpoint_store (codec : CheckpointCodec) (max_state_bytes : Nat) :
    System CheckpointError CheckpointWorld (Nat × StoreCall) where
  step := store_step codec max_state_bytes
