import FirstAgent.Framework.TransitionSystem
import FirstAgent.Memory.Records

/-! # The Memory Store

    The mutations of a memory store on a view of its records, and the store as
    its instances drive it: each checks its own view, compares the revision on
    disk under the lock, and replaces the document by a temporary file, one
    system call a step, with a hard stop possible before each of them. -/

open Fallible

/-! ### Mutations -/

def MAX_CONTENT_CHARS : Nat := 20000

def MAX_RECORDS : Nat := 1000

/-- The mutations of a store, with the id and the time they draw. -/
inductive MemoryOperation where
  | remember (record_id content : String)
      (source_fact_id origin admission_binding_digest : Option String) (now : String)
  | update (record_id content : String) (expected_record_revision : Int)
      (expected_content_digest : String)
      (source_fact_id origin admission_binding_digest : Option String) (now : String)
  | forget (record_id : String) (expected_record_revision : Int) (expected_content_digest : String)
  deriving Repr, DecidableEq

/-- `_validate_content`. -/
def validate_content (content : String) : Except MemoryError Unit := do
  refuse (PyText.is_blank content = true) (.store "memory content must be a non-empty string")
  refuse (MAX_CONTENT_CHARS < content.toList.length)
    (.store "memory content exceeds the size limit")

/-- The record a mutation expects. -/
def MemoryView.existing (v : MemoryView) (record_id : String) (expected_record_revision : Int)
    (expected_content_digest : String) : Except MemoryError MemoryRecord := do
  let r ← expect (v.get record_id) (.cas_mismatch "record does not exist")
  refuse (r.val.revision ≠ expected_record_revision) (.cas_mismatch "record revision mismatch")
  refuse (r.val.content_digest ≠ expected_content_digest)
    (.cas_mismatch "record content digest mismatch")
  .ok r

/-- `given or kept`. -/
def given_or (given kept : Option String) : Option String :=
  if given.any (· ≠ "") then given else kept

namespace MemoryOperation

/-- The record a mutation puts or removes. -/
def record_id : MemoryOperation → String
  | .remember record_id .. => record_id
  | .update record_id ..   => record_id
  | .forget record_id ..   => record_id

/-- What a mutation asks of its content before it takes the lock. -/
def check_content : MemoryOperation → Except MemoryError Unit
  | .remember _ content _ _ _ _   => validate_content content
  | .update _ content _ _ _ _ _ _ => validate_content content
  | .forget ..                    => .ok ()

/-- The view a mutation commits. -/
def apply (header : MemoryHeader) (v : MemoryView) :
    MemoryOperation → Except MemoryError MemoryView
  | .remember record_id content source_fact_id origin admission_binding_digest now => do
    refuse (MAX_RECORDS ≤ v.records.length) (.store "memory store is full")
    let record ← Checked.make {
      record_id
      workspace_scope_digest := header.workspace_scope_digest
      content
      content_digest := content_digest content
      created_at := now
      updated_at := now
      revision := v.revision + 1
      source_fact_id, origin, admission_binding_digest }
    .ok { revision := v.revision + 1, records := KeyedStore.put record_key record v.records }
  | .update record_id content expected_record_revision expected_content_digest source_fact_id
      origin admission_binding_digest now => do
    let r ← v.existing record_id expected_record_revision expected_content_digest
    let updated ← Checked.make { r.val with
      content
      content_digest := content_digest content
      updated_at := now
      revision := v.revision + 1
      source_fact_id := given_or source_fact_id r.val.source_fact_id
      origin := given_or origin r.val.origin
      admission_binding_digest :=
        given_or admission_binding_digest r.val.admission_binding_digest }
    .ok { revision := v.revision + 1, records := KeyedStore.put record_key updated v.records }
  | .forget record_id expected_record_revision expected_content_digest => do
    let _ ← v.existing record_id expected_record_revision expected_content_digest
    .ok {
      revision := v.revision + 1
      records := KeyedStore.remove record_key record_id v.records }

end MemoryOperation

/-- A store and its mutations, one whole mutation a step. -/
def memory_machine (header : MemoryHeader) : System MemoryError MemoryView MemoryOperation where
  step v operation := do
    operation.check_content
    operation.apply header v

/-! ### Preferences -/

def ACTIVE_ORIGIN : String := "owner_preference:active"

def FORGOTTEN_ORIGIN : String := "owner_preference:forgotten"

/-- `origin.startswith(_ACTIVE_ORIGIN)`. -/
def is_active_origin (origin : String) : Bool := PyText.startswith origin ACTIVE_ORIGIN

/-- `_is_active`. -/
def is_active (r : MemoryRecord) : Bool := r.val.origin.any is_active_origin

/-- The mutation of `confirm`. -/
def confirm (record_id content source_fact_id admission_digest now : String) : MemoryOperation :=
  .remember record_id content (some source_fact_id) (some ACTIVE_ORIGIN) (some admission_digest) now

/-- The calls that look at a preference and update it in a second section. -/
inductive PreferenceCall where
  | correct (preference_id content source_fact_id admission_digest now : String)
  | forget (preference_id now : String)
  deriving Repr, DecidableEq

namespace PreferenceCall

def preference_id : PreferenceCall → String
  | .correct preference_id _ _ _ _ => preference_id
  | .forget preference_id _        => preference_id

/-- The update of a call that found its preference. -/
def operation (existing : MemoryRecord) : PreferenceCall → MemoryOperation
  | .correct preference_id content source_fact_id admission_digest now =>
    .update preference_id content existing.val.revision existing.val.content_digest
      (some source_fact_id)
      (some (ACTIVE_ORIGIN ++ ":supersedes:" ++ existing.val.record_id ++ "@" ++
        toString existing.val.revision))
      (some admission_digest) now
  | .forget preference_id now =>
    .update preference_id existing.val.content existing.val.revision existing.val.content_digest
      none (some FORGOTTEN_ORIGIN) none now

end PreferenceCall

/-- The active record of a preference. -/
def find_preference (v : MemoryView) (preference_id : String) : Except MemoryError MemoryRecord := do
  let existing ← expect (v.get preference_id) (.value_error "preference does not exist")
  refuse (is_active existing = false) (.value_error "preference does not exist")
  .ok existing

/-! ### The driven store -/

/-- An instance: its cached view, and the update of the preference call it is
    in. -/
structure MemoryClient where
  view : MemoryView
  pending : Option (PreferenceCall × MemoryOperation) := none

/-- How far the holder of the lock is, with the view it commits and its text. -/
inductive CommitStage where
  | locked
  | decided (updated : MemoryView) (document : JsonDict)
  | opened (updated : MemoryView) (document : JsonDict)
  | written (updated : MemoryView) (document : JsonDict)
  | replaced (updated : MemoryView)

structure MemoryHolder where
  client : Nat
  operation : MemoryOperation
  stage : CommitStage

/-- The document, the temporary file (torn until it is written), the instances
    and the lock; `log` names the mutations committed so far, and `forgotten`
    the records they forgot. -/
structure MemoryWorld where
  disk : JsonDict
  temp : Option (Option JsonDict) := none
  clients : Nat → Option MemoryClient := fun _ => none
  holder : Option MemoryHolder := none
  log : List MemoryOperation := []
  forgotten : List String := []

/-- Replace one instance. -/
def set_client (clients : Nat → Option MemoryClient) (client : Nat) (x : Option MemoryClient) :
    Nat → Option MemoryClient := fun i => if i = client then x else clients i

/-- What a mutation decides under the lock: the view it commits and its text. -/
def decide_commit (header : MemoryHeader) (disk : JsonDict) (view : MemoryView)
    (operation : MemoryOperation) : Except MemoryError (MemoryView × JsonDict) := do
  let updated ← operation.apply header view
  let on_disk ← expect (plain_int (disk.get "revision")) (.store "memory store is malformed")
  refuse (on_disk ≠ view.revision) (.cas_mismatch "store revision changed")
  let document ← serialize header updated
  .ok (updated, document)

/-- `snapshot` of the preferences; `newest_first` orders records by time and
    id. -/
def preference_snapshot (newest_first : MemoryRecord → MemoryRecord → Bool)
    (header : MemoryHeader) (disk : JsonDict) : Except MemoryError (List MemoryRecord) := do
  let v ← read_document header disk
  .ok ((v.records.mergeSort newest_first).filter is_active)

/-- What a committed mutation forgets: the record it removes, or the preference
    of the call it is the update of. -/
def forgets (pending : Option (PreferenceCall × MemoryOperation)) :
    MemoryOperation → List String
  | .forget record_id _ _ => [record_id]
  | _ => match pending with
    | some (.forget preference_id _, _) => [preference_id]
    | _                                 => []

/-- The system calls of the instances. -/
inductive MemoryCall where
  | load (client : Nat)
  | snapshot (client : Nat)
  /-- The first section of `correct` and `forget` of a preference. -/
  | look (client : Nat) (call : PreferenceCall)
  /-- A preference call ends before its second section: the lock stays busy, or
      the content is refused. -/
  | give_up (client : Nat)
  | lock (client : Nat) (operation : MemoryOperation)
  | decide
  | open_temp
  | write_temp
  | replace
  | finish
  /-- The process of an instance is stopped. -/
  | stop (client : Nat)

/-- One system call on the store. -/
def memory_step (header : MemoryHeader) (w : MemoryWorld) :
    MemoryCall → Except MemoryError MemoryWorld
  | .load client => do
    refuse (w.holder.isSome = true) (.store "memory store lock deadline exceeded")
    refuse ((w.clients client).isSome = true) (.store "the instance exists")
    let view ← read_document header w.disk
    .ok { w with clients := set_client w.clients client (some { view }) }
  | .snapshot client => do
    refuse (w.holder.isSome = true) (.store "memory store lock deadline exceeded")
    let c ← expect (w.clients client) (.store "no instance")
    refuse (c.pending.isSome = true) (.store "the instance is in a call")
    let view ← read_document header w.disk
    .ok { w with clients := set_client w.clients client (some { c with view }) }
  | .look client call => do
    refuse (w.holder.isSome = true) (.store "memory store lock deadline exceeded")
    let c ← expect (w.clients client) (.store "no instance")
    refuse (c.pending.isSome = true) (.store "the instance is in a call")
    let view ← read_document header w.disk
    -- a preference that is not found ends the call with the new view
    let pending := match find_preference view call.preference_id with
      | .ok existing => some (call, call.operation existing)
      | .error _     => none
    .ok { w with clients := set_client w.clients client (some { view, pending }) }
  | .give_up client => do
    let c ← expect (w.clients client) (.store "no instance")
    refuse (w.holder.any (·.client = client) = true) (.store "the instance has the lock")
    .ok { w with clients := set_client w.clients client (some { c with pending := none }) }
  | .lock client operation => do
    let c ← expect (w.clients client) (.store "no instance")
    refuse (c.pending.any (·.2 ≠ operation) = true) (.store "the instance is in a call")
    operation.check_content
    refuse (w.holder.isSome = true) (.store "memory store lock deadline exceeded")
    .ok { w with holder := some { client, operation, stage := .locked } }
  | .decide => do
    let h ← expect w.holder (.store "no lock")
    let c ← expect (w.clients h.client) (.store "no instance")
    match h.stage with
    | .locked =>
      match decide_commit header w.disk c.view h.operation with
      | .ok (updated, document) =>
        .ok { w with holder := some { h with stage := .decided updated document } }
      -- the error is raised and the lock released
      | .error _ => .ok { w with
          clients := set_client w.clients h.client (some { c with pending := none })
          holder := none }
    | _ => .error (.store "the mutation has decided")
  | .open_temp => do
    let h ← expect w.holder (.store "no lock")
    match h.stage with
    | .decided updated document => .ok { w with
        temp := some none
        holder := some { h with stage := .opened updated document } }
    | _ => .error (.store "the mutation is not at its temporary file")
  | .write_temp => do
    let h ← expect w.holder (.store "no lock")
    match h.stage with
    | .opened updated document => .ok { w with
        temp := some (some document)
        holder := some { h with stage := .written updated document } }
    | _ => .error (.store "the mutation is not at its write")
  | .replace => do
    let h ← expect w.holder (.store "no lock")
    let c ← expect (w.clients h.client) (.store "no instance")
    match h.stage, w.temp with
    | .written updated _, some (some document) => .ok { w with
        disk := document
        temp := none
        holder := some { h with stage := .replaced updated }
        log := w.log ++ [h.operation]
        forgotten := forgets c.pending h.operation ++ w.forgotten }
    | _, _ => .error (.store "the mutation is not at its replacement")
  | .finish => do
    let h ← expect w.holder (.store "no lock")
    match h.stage with
    | .replaced updated => .ok { w with
        clients := set_client w.clients h.client (some { view := updated })
        holder := none }
    | _ => .error (.store "the mutation is not replaced")
  | .stop client => .ok { w with
      clients := set_client w.clients client none
      holder := w.holder.filter (·.client ≠ client) }

/-- The instances of a store on one path. -/
def memory_system (header : MemoryHeader) : System MemoryError MemoryWorld MemoryCall where
  step := memory_step header

/-! ### What a mutation commits -/

section Machine

variable {header : MemoryHeader} {v v' : MemoryView} {operation : MemoryOperation}
  {r : MemoryRecord} {record_id : String}

/-- What each mutation commits. -/
theorem memory_apply_ok (h : operation.apply header v = .ok v') :
    v'.revision = v.revision + 1 ∧
    ((∃ content source origin admission now, ∃ record : MemoryRecord,
        operation = .remember (record_key record) content source origin admission now ∧
        record.val.workspace_scope_digest = header.workspace_scope_digest ∧
        record.val.content_digest = content_digest record.val.content ∧
        record.val.origin = origin ∧
        v'.records = KeyedStore.put record_key record v.records) ∨
      (∃ content revision digest source origin admission now, ∃ r updated : MemoryRecord,
        operation =
          .update (record_key updated) content revision digest source origin admission now ∧
        v.get (record_key updated) = some r ∧
        updated.val.workspace_scope_digest = r.val.workspace_scope_digest ∧
        updated.val.content_digest = content_digest updated.val.content ∧
        updated.val.origin = given_or origin r.val.origin ∧
        v'.records = KeyedStore.put record_key updated v.records) ∨
      ∃ record_id revision digest, operation = .forget record_id revision digest ∧
        v'.records = KeyedStore.remove record_key record_id v.records) := by
  cases operation with
  | remember record_id content source origin admission now =>
    simp only [MemoryOperation.apply, bind_eq_ok, refuse_eq_ok, Checked.make_eq_ok, ok_eq_ok] at h
    obtain ⟨_, _, record, hrecord, rfl⟩ := h
    refine ⟨rfl, .inl ⟨content, source, origin, admission, now, record, ?_, ?_, ?_, ?_, rfl⟩⟩
    all_goals simp [record_key, hrecord]
  | update record_id content revision digest source origin admission now =>
    simp only [MemoryOperation.apply, MemoryView.existing, bind_eq_ok, expect_eq_ok, refuse_eq_ok,
      Checked.make_eq_ok, ok_eq_ok] at h
    obtain ⟨r, ⟨found, hfound, _, _, _, _, hr⟩, updated, hupdated, rfl⟩ := h
    subst hr
    have hkey : record_key updated = record_id := by
      rw [← KeyedStore.find_key hfound]
      simp [record_key, hupdated]
    refine ⟨rfl, .inr (.inl ⟨content, revision, digest, source, origin, admission, now, found,
      updated, ?_, ?_, ?_, ?_, ?_, rfl⟩)⟩
    · rw [hkey]
    · rw [hkey]
      exact hfound
    all_goals simp [hupdated]
  | forget record_id revision digest =>
    simp only [MemoryOperation.apply, bind_eq_ok, ok_eq_ok] at h
    obtain ⟨_, _, rfl⟩ := h
    exact ⟨rfl, .inr (.inr ⟨record_id, revision, digest, rfl, rfl⟩)⟩

/-- Every mutation commits a view that can be written and read back. -/
theorem memory_apply_sound (hv : v.Sound header) (h : operation.apply header v = .ok v') :
    v'.Sound header := by
  obtain ⟨_, ⟨_, _, _, _, _, record, _, hscope, hdigest, _, hrecords⟩ |
    ⟨_, _, _, _, _, _, _, r, updated, _, hfound, hscope, hdigest, _, hrecords⟩ |
    ⟨record_id, _, _, _, hrecords⟩⟩ := memory_apply_ok h
  · refine { ordered := ?_, scope := ?_, digest := ?_ }
    · rw [hrecords]
      exact KeyedStore.ordered_put hv.ordered record
    · intro x hx
      rw [hrecords] at hx
      rcases KeyedStore.mem_put hx with rfl | hx
      · exact hscope
      · exact hv.scope x hx
    · intro x hx
      rw [hrecords] at hx
      rcases KeyedStore.mem_put hx with rfl | hx
      · exact hdigest
      · exact hv.digest x hx
  · refine { ordered := ?_, scope := ?_, digest := ?_ }
    · rw [hrecords]
      exact KeyedStore.ordered_put hv.ordered updated
    · intro x hx
      rw [hrecords] at hx
      rcases KeyedStore.mem_put hx with rfl | hx
      · exact hscope.trans (hv.scope r (KeyedStore.find_mem hfound))
      · exact hv.scope x hx
    · intro x hx
      rw [hrecords] at hx
      rcases KeyedStore.mem_put hx with rfl | hx
      · exact hdigest
      · exact hv.digest x hx
  · refine { ordered := ?_, scope := ?_, digest := ?_ }
    · rw [hrecords]
      exact KeyedStore.ordered_remove hv.ordered record_id
    · intro x hx
      rw [hrecords] at hx
      exact hv.scope x (List.mem_filter.mp hx).1
    · intro x hx
      rw [hrecords] at hx
      exact hv.digest x (List.mem_filter.mp hx).1

/-- Where a record of the committed view comes from. -/
theorem memory_apply_get (hv : v.Sound header) (h : operation.apply header v = .ok v')
    (hr : v'.get record_id = some r) :
    (operation.record_id ≠ record_id ∧ v.get record_id = some r) ∨
      (∃ content source origin admission now,
        operation = .remember record_id content source origin admission now ∧
        r.val.origin = origin) ∨
      ∃ content revision digest source origin admission now, ∃ existing : MemoryRecord,
        operation = .update record_id content revision digest source origin admission now ∧
        v.get record_id = some existing ∧ r.val.origin = given_or origin existing.val.origin := by
  unfold MemoryView.get at hr
  obtain ⟨_, ⟨content, source, origin, admission, now, record, rfl, _, _, horigin,
      hrecords⟩ |
    ⟨content, revision, digest, source, origin, admission, now, existing, updated, rfl,
      hfound, _, _, horigin, hrecords⟩ |
    ⟨forgotten_id, _, _, rfl, hrecords⟩⟩ := memory_apply_ok h
  · rw [hrecords, KeyedStore.find_put hv.ordered] at hr
    split at hr
    · next hkey =>
      obtain rfl := Option.some.inj hr
      subst hkey
      exact .inr (.inl ⟨content, source, origin, admission, now, rfl, horigin⟩)
    · next hkey => exact .inl ⟨fun heq => hkey heq.symm, hr⟩
  · rw [hrecords, KeyedStore.find_put hv.ordered] at hr
    split at hr
    · next hkey =>
      obtain rfl := Option.some.inj hr
      subst hkey
      exact .inr (.inr ⟨content, revision, digest, source, origin, admission, now, existing,
        rfl, hfound, horigin⟩)
    · next hkey => exact .inl ⟨fun heq => hkey heq.symm, hr⟩
  · rw [hrecords, KeyedStore.find_remove] at hr
    split at hr
    · cases hr
    · next hkey => exact .inl ⟨fun heq => hkey heq.symm, hr⟩

end Machine
