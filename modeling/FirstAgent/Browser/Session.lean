import FirstAgent.Framework.TransitionSystem
import FirstAgent.Python.JsonDump

/-! # Browser Sessions

    The record of a browser session, the closed contract its ledger is decoded
    under, and the mutations of the session store as functions on records. -/

open Fallible

/-! ### Records -/

inductive SessionPhase where
  | opening | active | action_prepared | executing | result_observed | closed
  deriving Repr, DecidableEq

inductive SessionActionOutcome where
  | applied | not_executed | unknown
  deriving Repr, DecidableEq

def SessionPhase.value : SessionPhase → String
  | .opening         => "opening"
  | .active          => "active"
  | .action_prepared => "action_prepared"
  | .executing       => "executing"
  | .result_observed => "result_observed"
  | .closed          => "closed"

def SessionActionOutcome.value : SessionActionOutcome → String
  | .applied      => "applied"
  | .not_executed => "not_executed"
  | .unknown      => "unknown"

/-- `SessionPhase(value)`. -/
def SessionPhase.of_value (value : Json) : Option SessionPhase :=
  [.opening, .active, .action_prepared, .executing, .result_observed, .closed].find? fun phase =>
    value = .str phase.value

/-- `SessionActionOutcome(value)`. -/
def SessionActionOutcome.of_value (value : Json) : Option SessionActionOutcome :=
  [.applied, .not_executed, .unknown].find? fun outcome => value = .str outcome.value

/-- `BrowserSessionRecordV1`; a client may hold any. -/
structure BrowserSessionRecordV1 where
  session_id : String
  spec_digest : String
  profile_ref : Option String
  profile_revision : Option Int
  browser_identity_digest : String
  phase : SessionPhase
  observation_digest : Option String
  last_action_digest : Option String
  last_action_outcome : Option SessionActionOutcome
  action_count : Int
  deriving Repr, DecidableEq

/-- The errors of the session store. -/
inductive SessionError where
  | integrity (message : String)
  | not_found (message : String)
  | phase_conflict (message : String)
  | observation_binding (message : String)
  | profile_drift (message : String)
  deriving Repr, DecidableEq

/-! ### The closed contract -/

/-- An opaque id: the name of its kind and sixteen hex digits. -/
def is_opaque_id (kind s : String) : Bool :=
  PyText.startswith s kind &&
    PyText.is_lower_hex (String.ofList (s.toList.drop kind.toList.length)) 16

/-- `SESSION_ID_PATTERN.fullmatch`. -/
def is_session_id (s : String) : Bool := is_opaque_id "session-" s

/-- `PROFILE_ID_PATTERN.fullmatch`. -/
def is_profile_id (s : String) : Bool := is_opaque_id "profile-" s

def LEDGER_KEYS : List String := [
  "session_id", "spec_digest", "profile_ref", "profile_revision", "browser_identity_digest",
  "phase", "observation_digest", "last_action_digest", "last_action_outcome", "action_count"]

/-- `_require_digest`, with the digest it accepts. -/
def require_digest (value : Json) (field : String) : Except SessionError String := do
  let digest ← expect value.str? (.integrity (field ++ " must be 64 lowercase hex chars"))
  refuse (PyText.is_lower_hex digest 64 = false)
    (.integrity (field ++ " must be 64 lowercase hex chars"))
  .ok digest

/-- `_require_digest(nullable=True)`. -/
def require_nullable_digest (value : Json) (field : String) :
    Except SessionError (Option String) :=
  if value = .null then .ok none else do
    let digest ← require_digest value field
    .ok (some digest)

/-- An opaque profile id or null. -/
def require_profile_ref (value : Json) : Except SessionError (Option String) :=
  if value = .null then .ok none else do
    let profile_ref ← expect value.str? (.integrity "profile_ref must be an opaque id or null")
    refuse (is_profile_id profile_ref = false)
      (.integrity "profile_ref must be an opaque id or null")
    .ok (some profile_ref)

/-- `type(value) is int`. -/
def exact_int : Json → Option Int
  | .int n => some n
  | _      => none

/-- A positive revision or null. -/
def require_profile_revision (value : Json) : Except SessionError (Option Int) :=
  if value = .null then .ok none else do
    let revision ← expect (exact_int value)
      (.integrity "profile_revision must be a positive int or null")
    refuse (revision ≤ 0) (.integrity "profile_revision must be a positive int or null")
    .ok (some revision)

def require_outcome (value : Json) : Except SessionError (Option SessionActionOutcome) :=
  if value = .null then .ok none else do
    let outcome ← expect (SessionActionOutcome.of_value value)
      (.integrity "outcome must be an exact member")
    .ok (some outcome)

/-- `_verify_phase_shape`. -/
def verify_phase_shape (r : BrowserSessionRecordV1) : Except SessionError Unit :=
  match r.phase with
  | .opening =>
    refuse (r.observation_digest ≠ none ∨ r.last_action_digest ≠ none
        ∨ r.last_action_outcome ≠ none ∨ r.action_count ≠ 0)
      (.integrity "OPENING must carry no action/observation data")
  | .active =>
    refuse (r.last_action_digest ≠ none ∨ r.last_action_outcome ≠ none ∨ r.action_count ≠ 0)
      (.integrity "ACTIVE must carry no action data")
  | .action_prepared | .executing =>
    refuse (r.last_action_digest = none ∨ r.last_action_outcome ≠ none ∨ r.action_count ≤ 0
        ∨ r.observation_digest = none)
      (.integrity "prepared/executing must bind action and current observation")
  | .result_observed =>
    refuse (r.last_action_digest = none ∨ r.last_action_outcome = none ∨ r.action_count ≤ 0
        ∨ r.observation_digest = none)
      (.integrity "result_observed must bind action and outcome")
  | .closed =>
    refuse (¬ (r.last_action_digest = none ∧ r.last_action_outcome = none ∧ r.action_count = 0)
        ∧ ¬ (r.last_action_digest ≠ none ∧ r.last_action_outcome ≠ none ∧ 0 < r.action_count
          ∧ r.observation_digest ≠ none))
      (.integrity "closed ledger must match a legal source shape")

/-- `_decode_ledger` and `_record_from_payload`. -/
def decode_ledger (payload : Json) : Except SessionError BrowserSessionRecordV1 := do
  let d ← expect payload.obj? (.integrity "ledger keys are not the closed contract")
  refuse (¬ (d.keys.Perm LEDGER_KEYS)) (.integrity "ledger keys are not the closed contract")
  let session_id ← expect (d.get "session_id").str? (.integrity "session_id must be a string")
  refuse (is_session_id session_id = false) (.integrity "session_id is not an opaque id")
  let spec_digest ← require_digest (d.get "spec_digest") "spec_digest"
  let browser_identity_digest ←
    require_digest (d.get "browser_identity_digest") "browser_identity_digest"
  let observation_digest ←
    require_nullable_digest (d.get "observation_digest") "observation_digest"
  let last_action_digest ←
    require_nullable_digest (d.get "last_action_digest") "last_action_digest"
  let profile_ref ← require_profile_ref (d.get "profile_ref")
  let profile_revision ← require_profile_revision (d.get "profile_revision")
  refuse (profile_ref.isNone ≠ profile_revision.isNone)
    (.integrity "profile binding must be null-paired or complete")
  let action_count ← expect (exact_int (d.get "action_count"))
    (.integrity "action_count must be a non-negative int")
  refuse (action_count < 0) (.integrity "action_count must be a non-negative int")
  let phase ← expect (SessionPhase.of_value (d.get "phase"))
    (.integrity "phase must be an exact member")
  let last_action_outcome ← require_outcome (d.get "last_action_outcome")
  let r : BrowserSessionRecordV1 := {
    session_id, spec_digest, profile_ref, profile_revision, browser_identity_digest, phase
    observation_digest, last_action_digest, last_action_outcome, action_count }
  verify_phase_shape r
  .ok r

/-- The ledger of a record. -/
def BrowserSessionRecordV1.payload (r : BrowserSessionRecordV1) : JsonDict := JsonDict.of [
  ("session_id", .str r.session_id),
  ("spec_digest", .str r.spec_digest),
  ("profile_ref", .opt_str r.profile_ref),
  ("profile_revision", .opt_int r.profile_revision),
  ("browser_identity_digest", .str r.browser_identity_digest),
  ("phase", .str r.phase.value),
  ("observation_digest", .opt_str r.observation_digest),
  ("last_action_digest", .opt_str r.last_action_digest),
  ("last_action_outcome", .opt_str (r.last_action_outcome.map SessionActionOutcome.value)),
  ("action_count", .int r.action_count)]

/-- What the contract asks of a record. -/
structure BrowserSessionRecordV1.Legal (r : BrowserSessionRecordV1) : Prop where
  session_id : is_session_id r.session_id = true
  spec_digest : PyText.is_lower_hex r.spec_digest 64 = true
  browser_identity_digest : PyText.is_lower_hex r.browser_identity_digest 64 = true
  observation_digest : ∀ d, r.observation_digest = some d → PyText.is_lower_hex d 64 = true
  last_action_digest : ∀ d, r.last_action_digest = some d → PyText.is_lower_hex d 64 = true
  profile_ref : ∀ p, r.profile_ref = some p → is_profile_id p = true
  profile_revision : ∀ n, r.profile_revision = some n → 0 < n
  paired : r.profile_ref.isNone = r.profile_revision.isNone
  action_count : 0 ≤ r.action_count
  shape : verify_phase_shape r = .ok ()

section Decode

variable {r : BrowserSessionRecordV1}

theorem phase_of_value (phase : SessionPhase) :
    SessionPhase.of_value (.str phase.value) = some phase := by
  cases phase <;> decide

theorem require_digest_str {digest field d : String} :
    require_digest (.str digest) field = .ok d ↔
      PyText.is_lower_hex digest 64 = true ∧ digest = d := by
  simp [require_digest, bind_eq_ok, expect_eq_ok, refuse_eq_ok, Json.str?]

theorem require_nullable_digest_opt {digest d : Option String} {field : String} :
    require_nullable_digest (.opt_str digest) field = .ok d ↔
      (∀ s, digest = some s → PyText.is_lower_hex s 64 = true) ∧ digest = d := by
  cases digest with
  | none => simp [require_nullable_digest, Json.opt_str]
  | some s =>
    simp [require_nullable_digest, Json.opt_str, bind_eq_ok, require_digest_str]

theorem require_profile_ref_opt {profile_ref p : Option String} :
    require_profile_ref (.opt_str profile_ref) = .ok p ↔
      (∀ s, profile_ref = some s → is_profile_id s = true) ∧ profile_ref = p := by
  cases profile_ref with
  | none => simp [require_profile_ref, Json.opt_str]
  | some s =>
    simp [require_profile_ref, Json.opt_str, Json.str?, bind_eq_ok, expect_eq_ok, refuse_eq_ok]

theorem require_profile_revision_opt {revision n : Option Int} :
    require_profile_revision (.opt_int revision) = .ok n ↔
      (∀ i, revision = some i → 0 < i) ∧ revision = n := by
  cases revision with
  | none => simp [require_profile_revision, Json.opt_int]
  | some i =>
    simp [require_profile_revision, Json.opt_int, exact_int, bind_eq_ok, expect_eq_ok,
      refuse_eq_ok]

theorem require_outcome_opt (outcome : Option SessionActionOutcome) :
    require_outcome (.opt_str (outcome.map SessionActionOutcome.value)) = .ok outcome := by
  cases outcome with
  | none => rfl
  | some o => cases o <;> rfl

/-- What a ledger says under a key. -/
theorem payload_get (k : String) : r.payload.get k = (Json.lookup k [
    ("session_id", .str r.session_id), ("spec_digest", .str r.spec_digest),
    ("profile_ref", .opt_str r.profile_ref), ("profile_revision", .opt_int r.profile_revision),
    ("browser_identity_digest", .str r.browser_identity_digest), ("phase", .str r.phase.value),
    ("observation_digest", .opt_str r.observation_digest),
    ("last_action_digest", .opt_str r.last_action_digest),
    ("last_action_outcome", .opt_str (r.last_action_outcome.map SessionActionOutcome.value)),
    ("action_count", .int r.action_count)]).freeze :=
  JsonDict.get_of_nodup (by simp) k

/-- A ledger is decoded to its record, and only where the record is legal. -/
theorem decode_payload {r' : BrowserSessionRecordV1} :
    decode_ledger (.dict r.payload) = .ok r' ↔ r' = r ∧ r.Legal := by
  have hkeys : r.payload.keys.Perm LEDGER_KEYS := JsonDict.keys_of_nodup (by simp)
  have hsession : (r.payload.get "session_id").str? = some r.session_id := by
    simp [payload_get, Json.lookup]
  have hspec : r.payload.get "spec_digest" = .str r.spec_digest := by
    simp [payload_get, Json.lookup]
  have hidentity : r.payload.get "browser_identity_digest" = .str r.browser_identity_digest := by
    simp [payload_get, Json.lookup]
  have hobservation : r.payload.get "observation_digest" = .opt_str r.observation_digest := by
    simp [payload_get, Json.lookup]
  have haction : r.payload.get "last_action_digest" = .opt_str r.last_action_digest := by
    simp [payload_get, Json.lookup]
  have hprofile : r.payload.get "profile_ref" = .opt_str r.profile_ref := by
    simp [payload_get, Json.lookup]
  have hrevision : r.payload.get "profile_revision" = .opt_int r.profile_revision := by
    simp [payload_get, Json.lookup]
  have hcount : exact_int (r.payload.get "action_count") = some r.action_count := by
    simp [payload_get, Json.lookup, exact_int]
  have hphase : SessionPhase.of_value (r.payload.get "phase") = some r.phase := by
    rw [← phase_of_value r.phase]
    simp [payload_get, Json.lookup]
  have houtcome : require_outcome (r.payload.get "last_action_outcome") =
      .ok r.last_action_outcome := by
    rw [← require_outcome_opt r.last_action_outcome]
    simp [payload_get, Json.lookup]
  simp only [decode_ledger, Json.obj?_dict, bind_eq_ok, expect_eq_ok, refuse_eq_ok,
    Option.some.injEq, exists_eq_left', exists_const, hkeys, not_true_eq_false, not_false_eq_true,
    true_and, hsession, hspec, hidentity, hobservation, haction, hprofile, hrevision, hcount,
    hphase, houtcome, ok_eq_ok]
  simp only [require_digest_str, require_nullable_digest_opt, require_profile_ref_opt,
    require_profile_revision_opt]
  constructor
  · rintro ⟨hid, _, ⟨hspec, rfl⟩, _, ⟨hidentity, rfl⟩, _, ⟨hobservation, rfl⟩, _, ⟨haction, rfl⟩, _,
      ⟨hprofile, rfl⟩, _, ⟨hrevision, rfl⟩, hpaired, hnatural, _, hshape, rfl⟩
    refine ⟨rfl, ?_⟩
    exact {
      session_id := by simpa using hid
      spec_digest := hspec
      browser_identity_digest := hidentity
      observation_digest := hobservation
      last_action_digest := haction
      profile_ref := hprofile
      profile_revision := hrevision
      paired := by simpa using hpaired
      action_count := by omega
      shape := hshape }
  · rintro ⟨rfl, h⟩
    refine ⟨by simp [h.session_id], _, ⟨h.spec_digest, rfl⟩, _,
      ⟨h.browser_identity_digest, rfl⟩, _, ⟨h.observation_digest, rfl⟩, _,
      ⟨h.last_action_digest, rfl⟩, _, ⟨h.profile_ref, rfl⟩, _, ⟨h.profile_revision, rfl⟩,
      by simp [h.paired], ?_, (), h.shape, rfl⟩
    have hcount := h.action_count
    omega

end Decode

/-! ### Mutations -/

/-- `_verify_record`. -/
def verify_record (record current : BrowserSessionRecordV1) : Except SessionError Unit := do
  refuse (record.session_id ≠ current.session_id ∨ record.spec_digest ≠ current.spec_digest
      ∨ record.profile_ref ≠ current.profile_ref
      ∨ record.profile_revision ≠ current.profile_revision
      ∨ record.browser_identity_digest ≠ current.browser_identity_digest)
    (.integrity "session record does not match stored identity")
  refuse (record.phase ≠ current.phase) (.phase_conflict "session record phase is stale")
  refuse (record.observation_digest ≠ current.observation_digest
      ∨ record.last_action_digest ≠ current.last_action_digest
      ∨ record.last_action_outcome ≠ current.last_action_outcome
      ∨ record.action_count ≠ current.action_count)
    (.integrity "session record data is stale")

def ALLOWED_TRANSITIONS : List (SessionPhase × SessionPhase) := [
  (.opening, .active), (.active, .action_prepared), (.result_observed, .action_prepared),
  (.action_prepared, .executing), (.executing, .result_observed), (.active, .closed),
  (.result_observed, .closed)]

def MECHANICAL_CAS_TRANSITIONS : List (SessionPhase × SessionPhase) := [
  (.opening, .active), (.action_prepared, .executing)]

/-- The mutations of a session, with their arguments. -/
inductive SessionMutation where
  | compare_and_swap (new_phase : SessionPhase)
  | record_observation (observation_digest : String)
  | begin_action (action_digest observation_digest : String)
  | record_result (outcome : SessionActionOutcome)
  | close
  deriving Repr, DecidableEq

namespace SessionMutation

/-- What a mutation asks of its arguments before it opens the ledger. -/
def check_arguments : SessionMutation → Except SessionError Unit
  | .record_observation observation_digest => do
    let _ ← require_digest (.str observation_digest) "observation_digest"
  | .begin_action action_digest observation_digest => do
    let _ ← require_digest (.str action_digest) "action_digest"
    let _ ← require_digest (.str observation_digest) "observation_digest"
  | _ => .ok ()

/-- The `apply` of a mutation. -/
def apply (current : BrowserSessionRecordV1) :
    SessionMutation → Except SessionError BrowserSessionRecordV1
  | .compare_and_swap new_phase => do
    refuse ((current.phase, new_phase) ∉ MECHANICAL_CAS_TRANSITIONS)
      (.phase_conflict ("CAS only performs mechanical transitions; " ++ current.phase.value ++
        " -> " ++ new_phase.value ++ " needs a domain-specific API"))
    .ok { current with phase := new_phase }
  | .record_observation observation_digest => do
    refuse (current.phase ≠ .active ∧ current.phase ≠ .result_observed)
      (.phase_conflict "observation requires an active session")
    .ok { current with observation_digest := some observation_digest }
  | .begin_action action_digest observation_digest => do
    refuse (current.phase ≠ .active ∧ current.phase ≠ .result_observed)
      (.phase_conflict "action requires a settled session")
    refuse (some observation_digest ≠ current.observation_digest)
      (.observation_binding "action must bind the current observation digest")
    .ok { current with
      phase := .action_prepared
      last_action_digest := some action_digest
      last_action_outcome := none
      action_count := current.action_count + 1 }
  | .record_result outcome => do
    refuse (current.phase ≠ .executing) (.phase_conflict "result requires an EXECUTING session")
    .ok { current with phase := .result_observed, last_action_outcome := some outcome }
  | .close => do
    refuse ((current.phase, SessionPhase.closed) ∉ ALLOWED_TRANSITIONS)
      (.phase_conflict "session cannot close from this phase")
    .ok { current with phase := .closed }

def begins : SessionMutation → Bool
  | .begin_action .. => true
  | _                => false

/-- The mutation lets a begun action execute. -/
def executes : SessionMutation → Bool
  | .compare_and_swap .executing => true
  | _                            => false

def settles : SessionMutation → Bool
  | .record_result _ => true
  | _                => false

/-- The digest of the last observation among the mutations. -/
def last_observation (log : List SessionMutation) : Option String :=
  log.foldl (fun o m => match m with
    | .record_observation observation_digest => some observation_digest
    | _ => o) none

end SessionMutation

/-- A session and the mutations applied to it, one whole mutation a step. -/
def session_machine : System SessionError BrowserSessionRecordV1 SessionMutation where
  step r m := do
    m.check_arguments
    m.apply r

/-! ### What the mutations keep -/

/-- Where a session stands: how many actions were begun, let execute and
    settled. -/
def Standing (r : BrowserSessionRecordV1) (begun executed settled : Nat) : Prop :=
  match r.phase with
  | .opening | .active         => begun = 0 ∧ executed = 0 ∧ settled = 0
  | .action_prepared           => begun = executed + 1 ∧ settled = executed
  | .executing                 => begun = executed ∧ executed = settled + 1
  | .result_observed | .closed => begun = executed ∧ settled = executed

/-- What is known of a session behind the mutations of its log. -/
structure Followed (log : List SessionMutation) (r : BrowserSessionRecordV1) : Prop where
  legal : r.Legal
  counted : r.action_count = (log.countP SessionMutation.begins : Nat)
  standing : Standing r (log.countP SessionMutation.begins) (log.countP SessionMutation.executes)
    (log.countP SessionMutation.settles)
  observed : r.observation_digest = SessionMutation.last_observation log

section Steps

variable {r r' : BrowserSessionRecordV1} {m : SessionMutation} {log : List SessionMutation}

theorem last_observation_append :
    SessionMutation.last_observation (log ++ [m]) = match m with
      | .record_observation observation_digest => some observation_digest
      | _ => SessionMutation.last_observation log := by
  simp only [SessionMutation.last_observation, List.foldl_append, List.foldl_cons, List.foldl_nil]

/-- What each mutation does and from where. -/
theorem apply_ok (h : m.apply r = .ok r') :
    (m = .compare_and_swap .active ∧ r.phase = .opening ∧ r' = { r with phase := .active }) ∨
    (m = .compare_and_swap .executing ∧ r.phase = .action_prepared ∧
      r' = { r with phase := .executing }) ∨
    (∃ o, m = .record_observation o ∧ (r.phase = .active ∨ r.phase = .result_observed) ∧
      r' = { r with observation_digest := some o }) ∨
    (∃ a o, m = .begin_action a o ∧ (r.phase = .active ∨ r.phase = .result_observed) ∧
      r.observation_digest = some o ∧
      r' = { r with
        phase := .action_prepared
        last_action_digest := some a
        last_action_outcome := none
        action_count := r.action_count + 1 }) ∨
    (∃ outcome, m = .record_result outcome ∧ r.phase = .executing ∧
      r' = { r with phase := .result_observed, last_action_outcome := some outcome }) ∨
    (m = .close ∧ (r.phase = .active ∨ r.phase = .result_observed) ∧
      r' = { r with phase := .closed }) := by
  cases m with
  | compare_and_swap new_phase =>
    simp only [SessionMutation.apply, bind_eq_ok, refuse_eq_ok, ok_eq_ok, not_not] at h
    obtain ⟨_, hmem, rfl⟩ := h
    simp only [MECHANICAL_CAS_TRANSITIONS, List.mem_cons, Prod.mk.injEq, List.not_mem_nil,
      or_false] at hmem
    rcases hmem with ⟨hphase, rfl⟩ | ⟨hphase, rfl⟩
    · exact .inl ⟨rfl, hphase, rfl⟩
    · exact .inr (.inl ⟨rfl, hphase, rfl⟩)
  | record_observation o =>
    simp only [SessionMutation.apply, bind_eq_ok, refuse_eq_ok, ok_eq_ok, not_and_or,
      not_not] at h
    obtain ⟨_, hphase, rfl⟩ := h
    exact .inr (.inr (.inl ⟨o, rfl, hphase, rfl⟩))
  | begin_action a o =>
    simp only [SessionMutation.apply, bind_eq_ok, refuse_eq_ok, ok_eq_ok, not_and_or,
      not_not] at h
    obtain ⟨_, hphase, _, hbound, rfl⟩ := h
    exact .inr (.inr (.inr (.inl ⟨a, o, rfl, hphase, hbound.symm, rfl⟩)))
  | record_result outcome =>
    simp only [SessionMutation.apply, bind_eq_ok, refuse_eq_ok, ok_eq_ok, not_not] at h
    obtain ⟨_, hphase, rfl⟩ := h
    exact .inr (.inr (.inr (.inr (.inl ⟨outcome, rfl, hphase, rfl⟩))))
  | close =>
    simp only [SessionMutation.apply, bind_eq_ok, refuse_eq_ok, ok_eq_ok, not_not] at h
    obtain ⟨_, hmem, rfl⟩ := h
    simp only [ALLOWED_TRANSITIONS, List.mem_cons, Prod.mk.injEq, List.not_mem_nil, or_false,
      reduceCtorEq, and_false, and_true, false_or] at hmem
    exact .inr (.inr (.inr (.inr (.inr ⟨rfl, hmem, rfl⟩))))

/-- The digests a mutation brings are checked before. -/
theorem check_arguments_ok (h : m.check_arguments = .ok ()) :
    (∀ o, m = .record_observation o → PyText.is_lower_hex o 64 = true) ∧
      ∀ a o, m = .begin_action a o →
        PyText.is_lower_hex a 64 = true ∧ PyText.is_lower_hex o 64 = true := by
  cases m with
  | record_observation o =>
    simp only [SessionMutation.check_arguments, bind_eq_ok, pure_eq_ok, and_true,
      require_digest, expect_eq_ok, refuse_eq_ok, Json.str?, ok_eq_ok, Option.some.injEq] at h
    refine ⟨?_, fun _ _ heq => by cases heq⟩
    rintro _ ⟨⟩
    simpa using h
  | begin_action a o =>
    simp only [SessionMutation.check_arguments, bind_eq_ok, pure_eq_ok, and_true,
      require_digest, expect_eq_ok, refuse_eq_ok, Json.str?, ok_eq_ok, Option.some.injEq] at h
    refine ⟨fun _ heq => (by cases heq), ?_⟩
    rintro _ _ ⟨⟩
    simpa using h
  | compare_and_swap _ => exact ⟨fun _ heq => (by cases heq), fun _ _ heq => by cases heq⟩
  | record_result _ => exact ⟨fun _ heq => (by cases heq), fun _ _ heq => by cases heq⟩
  | close => exact ⟨fun _ heq => (by cases heq), fun _ _ heq => by cases heq⟩

/-- Every mutation keeps the record legal. -/
theorem apply_legal (hr : r.Legal) (hargs : m.check_arguments = .ok ()) (h : m.apply r = .ok r') :
    r'.Legal := by
  obtain ⟨hobserve, hbegin⟩ := check_arguments_ok hargs
  have hshape := hr.shape
  have hcount := hr.action_count
  rcases apply_ok h with ⟨_, hphase, rfl⟩ | ⟨_, hphase, rfl⟩ | ⟨o, rfl, hphase, rfl⟩ |
    ⟨a, o, rfl, hphase, hbound, rfl⟩ | ⟨outcome, _, hphase, rfl⟩ | ⟨_, hphase, rfl⟩
  · refine { hr with shape := ?_ }
    simp_all [verify_phase_shape, refuse_eq_ok]
  · refine { hr with shape := ?_ }
    simp_all [verify_phase_shape, refuse_eq_ok]
  · refine { hr with observation_digest := ?_, shape := ?_ }
    · rintro _ ⟨⟩
      exact hobserve o rfl
    · rcases hphase with hphase | hphase <;> simp_all [verify_phase_shape, refuse_eq_ok]
  · refine { hr with last_action_digest := ?_, action_count := ?_, shape := ?_ }
    · rintro _ ⟨⟩
      exact (hbegin a o rfl).1
    · show 0 ≤ r.action_count + 1
      omega
    · have hpositive : ¬ r.action_count + 1 ≤ 0 := by omega
      simp [verify_phase_shape, refuse_eq_ok, hbound, hpositive]
  · refine { hr with shape := ?_ }
    simp_all [verify_phase_shape, refuse_eq_ok]
  · refine { hr with shape := ?_ }
    rcases hphase with hphase | hphase <;> simp_all [verify_phase_shape, refuse_eq_ok]

/-- What is known of a session is known behind its next mutation. -/
theorem followed_step (hr : Followed log r) (h : session_machine.step r m = .ok r') :
    Followed (log ++ [m]) r' := by
  simp only [session_machine, bind_eq_ok] at h
  obtain ⟨_, hargs, happly⟩ := h
  have hcounted := hr.counted
  have hstanding := hr.standing
  have hobserved := hr.observed
  have hlegal := apply_legal hr.legal hargs happly
  rcases apply_ok happly with ⟨rfl, hphase, rfl⟩ | ⟨rfl, hphase, rfl⟩ | ⟨o, rfl, hphase, rfl⟩ |
    ⟨a, o, rfl, hphase, hbound, rfl⟩ | ⟨outcome, rfl, hphase, rfl⟩ | ⟨rfl, hphase, rfl⟩
  · refine { legal := hlegal, counted := ?_, standing := ?_, observed := ?_ }
    · simpa [SessionMutation.begins] using hcounted
    · simpa [Standing, hphase, SessionMutation.begins, SessionMutation.executes,
        SessionMutation.settles] using hstanding
    · simpa [last_observation_append] using hobserved
  · refine { legal := hlegal, counted := ?_, standing := ?_, observed := ?_ }
    · simpa [SessionMutation.begins] using hcounted
    · simp only [Standing, hphase] at hstanding
      simp [Standing, SessionMutation.begins, SessionMutation.executes, SessionMutation.settles]
      omega
    · simpa [last_observation_append] using hobserved
  · refine { legal := hlegal, counted := ?_, standing := ?_, observed := ?_ }
    · simpa [SessionMutation.begins] using hcounted
    · rcases hphase with hphase | hphase <;>
        simpa [Standing, hphase, SessionMutation.begins, SessionMutation.executes,
          SessionMutation.settles] using hstanding
    · simp [last_observation_append]
  · refine { legal := hlegal, counted := ?_, standing := ?_, observed := ?_ }
    · simp [SessionMutation.begins, hcounted]
    · have heven : log.countP SessionMutation.begins = log.countP SessionMutation.executes ∧
          log.countP SessionMutation.settles = log.countP SessionMutation.executes := by
        rcases hphase with hphase | hphase <;> simp only [Standing, hphase] at hstanding <;> omega
      simp [Standing, SessionMutation.begins, SessionMutation.executes, SessionMutation.settles]
      omega
    · simpa [last_observation_append] using hobserved
  · refine { legal := hlegal, counted := ?_, standing := ?_, observed := ?_ }
    · simpa [SessionMutation.begins] using hcounted
    · simp only [Standing, hphase] at hstanding
      simp [Standing, SessionMutation.begins, SessionMutation.executes, SessionMutation.settles]
      omega
    · simpa [last_observation_append] using hobserved
  · refine { legal := hlegal, counted := ?_, standing := ?_, observed := ?_ }
    · simpa [SessionMutation.begins] using hcounted
    · rcases hphase with hphase | hphase <;> simp only [Standing, hphase] at hstanding <;>
        simp [Standing, SessionMutation.begins, SessionMutation.executes,
          SessionMutation.settles] <;> omega
    · simpa [last_observation_append] using hobserved

end Steps

/-! ### Runs of mutations -/

/-- A record as `begin` builds it. -/
structure Opens (first : BrowserSessionRecordV1) : Prop where
  legal : first.Legal
  opening : first.phase = .opening

/-- The mutations of one session are single-flight. -/
structure SingleFlight (log : List SessionMutation) : Prop where
  /-- An action is bound to the observation that is current when it begins. -/
  bound : ∀ before a o after, log = before ++ .begin_action a o :: after →
    SessionMutation.last_observation before = some o
  /-- Until the next action begins, an action executes and settles once at most. -/
  once : ∀ before a o during after, log = before ++ .begin_action a o :: (during ++ after) →
    during.countP SessionMutation.begins = 0 →
    during.countP SessionMutation.executes ≤ 1 ∧ during.countP SessionMutation.settles ≤ 1
  /-- When the next action begins, the one before has executed and settled. -/
  settled : ∀ before a o during a' o' after,
    log = before ++ .begin_action a o :: (during ++ .begin_action a' o' :: after) →
    during.countP SessionMutation.begins = 0 →
    during.countP SessionMutation.executes = 1 ∧ during.countP SessionMutation.settles = 1
  /-- An executing action is settled before anything else is written. -/
  executing : ∀ before m after, log = before ++ .compare_and_swap .executing :: m :: after →
    m.settles = true
  /-- Behind a close nothing is written. -/
  closed : ∀ before after, log = before ++ .close :: after → after = []

/-- No mutation, nothing to promise. -/
theorem single_flight_nil : SingleFlight [] where
  bound before _ _ _ h := by cases before <;> cases h
  once before _ _ _ _ h := by cases before <;> cases h
  settled before _ _ _ _ _ _ h := by cases before <;> cases h
  executing before _ _ h := by cases before <;> cases h
  closed before _ h := by cases before <;> cases h

section Runs

variable {first r : BrowserSessionRecordV1} {log : List SessionMutation}

theorem followed_run (hfirst : Opens first) (hrun : session_machine.run first log = .ok r) :
    Followed log r := by
  have hshape := hfirst.legal.shape
  simp only [verify_phase_shape, hfirst.opening, refuse_eq_ok, not_or, not_not] at hshape
  obtain ⟨hobservation, _, _, hcount⟩ := hshape
  have hstart : Followed [] first := by
    refine { legal := hfirst.legal, counted := by simpa using hcount, standing := ?_
             observed := hobservation }
    simp [Standing, hfirst.opening]
  exact System.run_history (P := fun pre r => Followed pre r)
    (fun _ _ _ _ hr h => followed_step hr h) [] hstart hrun

/-- An action begins where all before have settled. -/
theorem begin_even {a o : String} {before after : List SessionMutation} (hfirst : Opens first)
    (hrun : session_machine.run first (before ++ .begin_action a o :: after) = .ok r) :
    before.countP SessionMutation.executes = before.countP SessionMutation.begins ∧
      before.countP SessionMutation.settles = before.countP SessionMutation.begins ∧
      SessionMutation.last_observation before = some o := by
  obtain ⟨t, ht, hrest⟩ := System.run_append.mp hrun
  obtain ⟨t', hstep, _⟩ := System.run_cons.mp hrest
  have hfollowed := followed_run hfirst ht
  have hstanding := hfollowed.standing
  simp only [session_machine, bind_eq_ok] at hstep
  obtain ⟨_, _, happly⟩ := hstep
  rcases apply_ok happly with ⟨h, _⟩ | ⟨h, _⟩ | ⟨_, h, _⟩ | ⟨_, _, h, hphase, hbound, _⟩ |
    ⟨_, h, _⟩ | ⟨h, _⟩
  · cases h
  · cases h
  · cases h
  · cases h
    rw [hfollowed.observed] at hbound
    rcases hphase with hphase | hphase <;> simp only [Standing, hphase] at hstanding
    · exact ⟨by omega, by omega, hbound⟩
    · exact ⟨by omega, by omega, hbound⟩
  · cases h
  · cases h

/-- No more actions settle than execute, and no more execute than begin. -/
theorem followed_le (h : Followed log r) :
    log.countP SessionMutation.executes ≤ log.countP SessionMutation.begins ∧
      log.countP SessionMutation.settles ≤ log.countP SessionMutation.executes := by
  have hstanding := h.standing
  cases hphase : r.phase <;> simp only [Standing, hphase] at hstanding <;> omega

/-- The step behind a mutation, and the record it is taken from. -/
theorem run_next {before after : List SessionMutation} {m n : SessionMutation}
    (hrun : session_machine.run first (before ++ m :: n :: after) = .ok r) :
    ∃ t u v, m.apply t = .ok u ∧ n.apply u = .ok v := by
  obtain ⟨t, _, hrest⟩ := System.run_append.mp hrun
  obtain ⟨u, hm, hrest⟩ := System.run_cons.mp hrest
  obtain ⟨v, hn, _⟩ := System.run_cons.mp hrest
  simp only [session_machine, bind_eq_ok] at hm hn
  obtain ⟨_, _, hm⟩ := hm
  obtain ⟨_, _, hn⟩ := hn
  exact ⟨t, u, v, hm, hn⟩

theorem apply_phase_executing {r r' : BrowserSessionRecordV1}
    (h : (SessionMutation.compare_and_swap .executing).apply r = .ok r') :
    r'.phase = .executing := by
  simp only [SessionMutation.apply, bind_eq_ok, ok_eq_ok] at h
  obtain ⟨_, _, rfl⟩ := h
  rfl

theorem apply_phase_closed {r r' : BrowserSessionRecordV1}
    (h : SessionMutation.close.apply r = .ok r') : r'.phase = .closed := by
  simp only [SessionMutation.apply, bind_eq_ok, ok_eq_ok] at h
  obtain ⟨_, _, rfl⟩ := h
  rfl

/-- Only a result is written to an executing session. -/
theorem executing_settles {r r' : BrowserSessionRecordV1} {m : SessionMutation}
    (hphase : r.phase = .executing) (h : m.apply r = .ok r') : m.settles = true := by
  rcases apply_ok h with ⟨_, h, _⟩ | ⟨_, h, _⟩ | ⟨_, _, h, _⟩ | ⟨_, _, _, h, _⟩ | ⟨_, rfl, _⟩ |
    ⟨_, h, _⟩
  case inr.inr.inr.inr.inl => rfl
  all_goals simp [hphase] at h

/-- Nothing is written to a closed session. -/
theorem closed_refuses {r r' : BrowserSessionRecordV1} {m : SessionMutation}
    (hphase : r.phase = .closed) : m.apply r ≠ .ok r' := by
  intro h
  rcases apply_ok h with ⟨_, h, _⟩ | ⟨_, h, _⟩ | ⟨_, _, h, _⟩ | ⟨_, _, _, h, _⟩ | ⟨_, _, h, _⟩ |
    ⟨_, h, _⟩
  all_goals simp [hphase] at h

/-- In every run of mutations the session is single-flight. -/
theorem single_flight (hfirst : Opens first) (hrun : session_machine.run first log = .ok r) :
    SingleFlight log where
  bound before a o after hlog := by
    subst hlog
    exact (begin_even hfirst hrun).2.2
  once before a o during after hlog hnone := by
    subst hlog
    obtain ⟨hexecuted, hsettled, _⟩ := begin_even hfirst hrun
    have hsplit : before ++ SessionMutation.begin_action a o :: (during ++ after) =
        (before ++ .begin_action a o :: during) ++ after := by simp
    rw [hsplit] at hrun
    obtain ⟨t, ht, _⟩ := System.run_append.mp hrun
    have hle := followed_le (followed_run hfirst ht)
    simp only [List.countP_append, List.countP_cons, SessionMutation.begins,
      SessionMutation.executes, SessionMutation.settles, hnone] at hle
    simp at hle
    omega
  settled before a o during a' o' after hlog hnone := by
    subst hlog
    obtain ⟨hexecuted, hsettled, _⟩ := begin_even hfirst hrun
    have hsplit : before ++ SessionMutation.begin_action a o ::
        (during ++ .begin_action a' o' :: after) =
          (before ++ .begin_action a o :: during) ++ .begin_action a' o' :: after := by simp
    rw [hsplit] at hrun
    obtain ⟨hexecuted', hsettled', _⟩ := begin_even hfirst hrun
    simp only [List.countP_append, List.countP_cons, SessionMutation.begins,
      SessionMutation.executes, SessionMutation.settles, hnone] at hexecuted' hsettled'
    simp at hexecuted' hsettled'
    omega
  executing before m after hlog := by
    subst hlog
    obtain ⟨t, u, v, hm, hn⟩ := run_next hrun
    exact executing_settles (apply_phase_executing hm) hn
  closed before after hlog := by
    subst hlog
    cases after with
    | nil => rfl
    | cons m after =>
      obtain ⟨t, u, v, hm, hn⟩ := run_next hrun
      exact absurd hn (closed_refuses (apply_phase_closed hm))

end Runs
