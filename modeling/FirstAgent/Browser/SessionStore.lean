import FirstAgent.Browser.Session

/-! # The Browser Session Ledger

    The store of one session as its clients drive it: one system call a step,
    the ledger rewritten in place under the file lock, and a hard stop of a
    client possible before each of its calls.  A stop between the truncation
    and the write leaves a ledger that is decoded no more, so the ledger is
    crash-atomic where no client is stopped there. -/

open Fallible

/-! ### The files of a session -/

/-- The content of a ledger: an emptied file, or the text of a dict. -/
inductive LedgerFile where
  | torn
  | whole (payload : JsonDict)
  deriving Repr, DecidableEq

def MAX_LEDGER_BYTES : Nat := 16 * 1024

/-- `json.dumps(payload, sort_keys=True)` of a dict of plain values. -/
def ledger_text (payload : JsonDict) : String :=
  "\x7b" ++ ", ".intercalate (payload.members.map fun m =>
    (Json.str m.1).dumps ++ ": " ++ m.2.dumps) ++ "\x7d"

/-- `_read_bounded_json` and `_decode_ledger`. -/
def LedgerFile.read : LedgerFile → Except SessionError BrowserSessionRecordV1
  | .torn          => .error (.integrity "ledger is not valid JSON")
  | .whole payload => do
    refuse (MAX_LEDGER_BYTES < (ledger_text payload).utf8ByteSize)
      (.integrity "ledger exceeds the bounded size")
    decode_ledger (.dict payload)

/-- How far a client is in `begin`. -/
inductive BeginStage where
  | directory_made | ledger_created | ledger_written
  deriving Repr, DecidableEq

/-- How far the holder of the lock is in `_mutate`, with the record it read and
    the record it writes. -/
inductive RewriteStage where
  | locked
  | decided (before after : BrowserSessionRecordV1)
  | truncated (before after : BrowserSessionRecordV1)
  | written (before after : BrowserSessionRecordV1)
  deriving Repr, DecidableEq

/-- A call of a mutation. -/
structure SessionRequest where
  record : BrowserSessionRecordV1
  mutation : SessionMutation
  expected_profile_revision : Option Int
  deriving Repr, DecidableEq

/-- The directory of a session and the clients at work in it; `log` names the
    mutations written so far. -/
structure SessionWorld where
  directory : Bool := false
  ledger : Option LedgerFile := none
  starter : Option (BrowserSessionRecordV1 × BeginStage) := none
  holder : Option (SessionRequest × RewriteStage) := none
  log : List SessionMutation := []
  deriving Repr, DecidableEq

/-- `load`. -/
def SessionWorld.load (w : SessionWorld) : Except SessionError BrowserSessionRecordV1 := do
  let file ← expect w.ledger (.not_found "ledger missing")
  file.read

/-! ### Calls -/

/-- The arguments of `begin`. -/
structure SessionStart where
  spec_digest : String
  profile_ref : Option String
  profile_revision : Option Int
  browser_identity_digest : String
  deriving Repr, DecidableEq

/-- A profile and its revision are given together. -/
def SessionStart.check_profile (start : SessionStart) : Except SessionError Unit :=
  match start.profile_ref with
  | none =>
    refuse (start.profile_revision ≠ none)
      (.integrity "public-read session must not carry a profile revision")
  | some profile_ref => do
    refuse (is_profile_id profile_ref = false)
      (.integrity "profile_ref must be an opaque canonical id")
    refuse (start.profile_revision.all (· ≤ 0))
      (.integrity "site-bound session requires a positive profile revision")

/-- The record `begin` writes, with its checks. -/
def SessionStart.record (start : SessionStart) (session_id : String) :
    Except SessionError BrowserSessionRecordV1 := do
  let _ ← require_digest (.str start.browser_identity_digest) "browser_identity_digest"
  start.check_profile
  refuse (is_session_id session_id = false) (.not_found "session does not exist")
  let r : BrowserSessionRecordV1 := {
    session_id
    spec_digest := start.spec_digest
    profile_ref := start.profile_ref
    profile_revision := start.profile_revision
    browser_identity_digest := start.browser_identity_digest
    phase := .opening
    observation_digest := none
    last_action_digest := none
    last_action_outcome := none
    action_count := 0 }
  decode_ledger (.dict r.payload)

/-- What `_mutate` decides under the lock: the record it read and the record it
    will write. -/
def SessionRequest.decide (request : SessionRequest) (file : LedgerFile) :
    Except SessionError (BrowserSessionRecordV1 × BrowserSessionRecordV1) := do
  let current ← file.read
  verify_record request.record current
  refuse (request.expected_profile_revision ≠ current.profile_revision)
    (.profile_drift "profile revision drifted; session authority is void")
  let updated ← request.mutation.apply current
  .ok (current, updated)

/-- The system calls of the clients. -/
inductive SessionCall where
  /-- `begin`: make the directory, create the ledger, write it, return. -/
  | make_directory (start : SessionStart)
  | create_ledger
  | write_first
  | finish_begin
  | stop_begin
  /-- A mutation: lock, read and decide, truncate, write, return. -/
  | lock (request : SessionRequest)
  | decide
  | truncate
  | write
  | finish
  | stop
  deriving Repr, DecidableEq

/-- One system call in the directory of a session. -/
def session_step (session_id : String) (w : SessionWorld) :
    SessionCall → Except SessionError SessionWorld
  | .make_directory start => do
    let r ← start.record session_id
    refuse (w.directory = true) (.integrity "cannot create session directory")
    .ok { w with directory := true, starter := some (r, .directory_made) }
  | .create_ledger =>
    match w.starter with
    | some (r, .directory_made) => do
      refuse (w.ledger ≠ none) (.integrity "cannot create ledger")
      .ok { w with ledger := some .torn, starter := some (r, .ledger_created) }
    | _ => .error (.not_found "no begin is at its ledger")
  | .write_first =>
    match w.starter with
    | some (r, .ledger_created) =>
      .ok { w with ledger := some (.whole r.payload), starter := some (r, .ledger_written) }
    | _ => .error (.not_found "no begin is at its write")
  | .finish_begin =>
    match w.starter with
    | some (_, .ledger_written) => .ok { w with starter := none }
    | _ => .error (.not_found "no begin has written")
  | .stop_begin => .ok { w with starter := none }
  | .lock request => do
    request.mutation.check_arguments
    refuse (request.record.session_id ≠ session_id) (.not_found "the record is of another session")
    refuse (w.ledger = none) (.integrity "ledger not updatable")
    -- the call waits while another client holds the lock
    refuse (w.holder ≠ none) (.integrity "ledger cannot be locked")
    .ok { w with holder := some (request, .locked) }
  | .decide =>
    match w.holder, w.ledger with
    | some (request, .locked), some file =>
      match request.decide file with
      | .ok (current, updated) => .ok { w with holder := some (request, .decided current updated) }
      -- the error is raised and the lock released
      | .error _ => .ok { w with holder := none }
    | _, _ => .error (.not_found "no mutation has the lock")
  | .truncate =>
    match w.holder with
    | some (request, .decided current updated) =>
      .ok { w with ledger := some .torn, holder := some (request, .truncated current updated) }
    | _ => .error (.not_found "no mutation has decided")
  | .write =>
    match w.holder with
    | some (request, .truncated current updated) => .ok { w with
        ledger := some (.whole updated.payload)
        holder := some (request, .written current updated)
        log := w.log ++ [request.mutation] }
    | _ => .error (.not_found "no mutation has truncated")
  | .finish =>
    match w.holder with
    | some (_, .written _ _) => .ok { w with holder := none }
    | _ => .error (.not_found "no mutation has written")
  | .stop => .ok { w with holder := none }

/-- The ledger of one session and its clients. -/
def session_system (session_id : String) : System SessionError SessionWorld SessionCall where
  step := session_step session_id

/-! ### Runs that are not stopped inside a rewrite -/

/-- The ledger is emptied and not yet written. -/
def SessionWorld.rewriting (w : SessionWorld) : Bool :=
  (w.starter.any fun s => s.2 = .ledger_created) ||
    w.holder.any fun h => match h.2 with
      | .truncated _ _ => true
      | _              => false

/-- The call stops a client between emptying the ledger and writing it. -/
def interrupts (w : SessionWorld) : SessionCall → Bool
  | .stop_begin => w.starter.any fun s => s.2 = .ledger_created
  | .stop       => w.holder.any fun h => match h.2 with
    | .truncated _ _ => true
    | _              => false
  | _ => false

/-- The text of a record is too long to be read back. -/
def BrowserSessionRecordV1.too_long (r : BrowserSessionRecordV1) : Bool :=
  MAX_LEDGER_BYTES < (ledger_text r.payload).utf8ByteSize

/-- The call writes a text that is too long to be read back. -/
def overflows (w : SessionWorld) : SessionCall → Bool
  | .write_first => w.starter.any fun s => s.1.too_long
  | .write       => w.holder.any fun h => match h.2 with
    | .truncated _ after => after.too_long
    | _                  => false
  | _ => false

/-- What the ledger holds while the lock is at a stage. -/
def StageHolds (r : BrowserSessionRecordV1) (ledger : Option LedgerFile) :
    Option (SessionRequest × RewriteStage) → Prop
  | none => ledger = some (.whole r.payload)
  | some (request, .locked) =>
    request.mutation.check_arguments = .ok () ∧ ledger = some (.whole r.payload)
  | some (request, .decided before after) =>
    before = r ∧ session_machine.step r request.mutation = .ok after ∧
      ledger = some (.whole r.payload)
  | some (request, .truncated before after) =>
    before = r ∧ session_machine.step r request.mutation = .ok after ∧ ledger = some .torn
  | some (request, .written before after) =>
    after = r ∧ session_machine.step before request.mutation = .ok r ∧
      ledger = some (.whole r.payload)

/-- An open session stands where its mutations lead. -/
structure Holds (w : SessionWorld) (first r : BrowserSessionRecordV1) : Prop where
  directory : w.directory = true
  opens : Opens first
  begun : w.starter.all fun s => s.2 = .ledger_written
  fits : r.too_long = false
  log : session_machine.run first w.log = .ok r
  stage : StageHolds r w.ledger w.holder

/-- What holds between two calls: there is no ledger yet, its first text is
    about to be written, or it holds the record its mutations lead to. -/
inductive LedgerInvariant (w : SessionWorld) : Prop where
  | unborn (hledger : w.ledger = none) (hholder : w.holder = none) (hlog : w.log = [])
      (hstarter : ∀ r stage, w.starter = some (r, stage) →
        stage = .directory_made ∧ Opens r ∧ w.directory = true)
  | beginning (r : BrowserSessionRecordV1) (hledger : w.ledger = some .torn)
      (hstarter : w.starter = some (r, .ledger_created)) (hopens : Opens r)
      (hdirectory : w.directory = true) (hlog : w.log = [])
      (hholder : ∀ request stage, w.holder = some (request, stage) →
        stage = .locked ∧ request.mutation.check_arguments = .ok ())
  | holding (first r : BrowserSessionRecordV1) (hholds : Holds w first r)

section Steps

variable {session_id : String} {w w' : SessionWorld} {start : SessionStart}
  {request : SessionRequest} {r before after : BrowserSessionRecordV1}

theorem read_whole :
    (LedgerFile.whole r.payload).read = .ok before ↔
      before = r ∧ r.Legal ∧ r.too_long = false := by
  simp only [LedgerFile.read, bind_eq_ok, refuse_eq_ok, decode_payload,
    BrowserSessionRecordV1.too_long, decide_eq_false_iff_not]
  constructor
  · rintro ⟨_, hfits, heq, hlegal⟩
    exact ⟨heq, hlegal, hfits⟩
  · rintro ⟨heq, hlegal, hfits⟩
    exact ⟨(), hfits, heq, hlegal⟩

/-- `begin` builds the record of an opening session. -/
theorem start_opens (h : start.record session_id = .ok r) : Opens r := by
  simp only [SessionStart.record, bind_eq_ok] at h
  obtain ⟨_, _, _, _, _, _, h⟩ := h
  obtain ⟨rfl, hlegal⟩ := decode_payload.mp h
  exact ⟨hlegal, rfl⟩

/-- A mutation is decided on the record in the ledger. -/
theorem decide_ok (hargs : request.mutation.check_arguments = .ok ())
    (h : request.decide (.whole r.payload) = .ok (before, after)) :
    before = r ∧ session_machine.step r request.mutation = .ok after := by
  simp only [SessionRequest.decide, bind_eq_ok, ok_eq_ok, Prod.mk.injEq] at h
  obtain ⟨current, hread, _, _, _, _, updated, happly, rfl, rfl⟩ := h
  obtain ⟨rfl, _, _⟩ := read_whole.mp hread
  refine ⟨rfl, ?_⟩
  simp only [session_machine, bind_eq_ok]
  exact ⟨(), hargs, happly⟩

/-- An emptied ledger decides nothing. -/
theorem decide_torn {pair : BrowserSessionRecordV1 × BrowserSessionRecordV1} :
    request.decide .torn ≠ .ok pair := by
  intro h
  simp only [SessionRequest.decide, LedgerFile.read, bind_eq_ok, error_ne_ok] at h
  obtain ⟨_, hfalse, _⟩ := h
  exact hfalse

-- the equations of the step are made once, ahead of the lemmas that read them
attribute [local simp] session_step in
theorem make_directory_invariant (hw : LedgerInvariant w)
    (h : session_step session_id w (.make_directory start) = .ok w') : LedgerInvariant w' := by
  simp only [session_step, bind_eq_ok, refuse_eq_ok, ok_eq_ok] at h
  obtain ⟨r, hr, _, hfresh, rfl⟩ := h
  cases hw with
  | unborn hledger hholder hlog _ =>
    refine .unborn hledger hholder hlog ?_
    rintro _ _ ⟨⟩
    exact ⟨rfl, start_opens hr, rfl⟩
  | beginning _ _ _ _ hdirectory _ _ => exact absurd hdirectory hfresh
  | holding _ _ hholds => exact absurd hholds.directory hfresh

theorem create_ledger_invariant (hw : LedgerInvariant w)
    (h : session_step session_id w .create_ledger = .ok w') : LedgerInvariant w' := by
  simp only [session_step] at h
  split at h
  · next r hstarter =>
    simp only [bind_eq_ok, refuse_eq_ok, ok_eq_ok, not_not] at h
    obtain ⟨_, hnone, rfl⟩ := h
    cases hw with
    | unborn _ hholder hlog hbegun =>
      obtain ⟨_, hopens, hdirectory⟩ := hbegun r _ hstarter
      refine .beginning r rfl rfl hopens hdirectory hlog ?_
      intro request stage hheld
      rw [hholder] at hheld
      cases hheld
    | beginning _ hledger _ _ _ _ _ =>
      rw [hledger] at hnone
      cases hnone
    | holding _ _ hholds =>
      have hall := hholds.begun
      rw [hstarter] at hall
      cases hall
  · cases h

/-- The first text opens the session. -/
theorem write_first_invariant (hw : LedgerInvariant w)
    (hfits : overflows w .write_first = false)
    (h : session_step session_id w .write_first = .ok w') : LedgerInvariant w' := by
  simp only [session_step] at h
  split at h
  · next r hstarter =>
    obtain rfl := ok_eq_ok.mp h
    have hshort : r.too_long = false := by
      simpa [overflows, hstarter] using hfits
    cases hw with
    | unborn hledger _ _ hbegun =>
      obtain ⟨hstage, _⟩ := hbegun r _ hstarter
      cases hstage
    | beginning r' _ hbegun hopens hdirectory hlog hholder =>
      rw [hstarter] at hbegun
      cases hbegun
      refine .holding r r { directory := hdirectory, opens := hopens, begun := rfl
                            fits := hshort, log := ?_, stage := ?_ }
      · show session_machine.run r w.log = .ok r
        rw [hlog]
        exact System.run_nil.mpr rfl
      · show StageHolds r (some (.whole r.payload)) w.holder
        cases hheld : w.holder with
        | none => rfl
        | some held =>
          obtain ⟨request, stage⟩ := held
          obtain ⟨rfl, hargs⟩ := hholder request stage hheld
          exact ⟨hargs, rfl⟩
    | holding _ _ hholds =>
      have hall := hholds.begun
      rw [hstarter] at hall
      cases hall
  · cases h

theorem finish_begin_invariant (hw : LedgerInvariant w)
    (h : session_step session_id w .finish_begin = .ok w') : LedgerInvariant w' := by
  simp only [session_step] at h
  split at h
  · next r hstarter =>
    obtain rfl := ok_eq_ok.mp h
    cases hw with
    | unborn hledger hholder hlog hbegun =>
      exact .unborn hledger hholder hlog fun _ _ heq => by cases heq
    | beginning _ _ hbegun _ _ _ _ =>
      rw [hstarter] at hbegun
      cases hbegun
    | holding first r hholds => exact .holding first r { hholds with begun := rfl }
  · cases h

theorem stop_begin_invariant (hw : LedgerInvariant w)
    (hstop : interrupts w .stop_begin = false)
    (h : session_step session_id w .stop_begin = .ok w') : LedgerInvariant w' := by
  obtain rfl := ok_eq_ok.mp h
  cases hw with
  | unborn hledger hholder hlog _ => exact .unborn hledger hholder hlog fun _ _ heq => by cases heq
  | beginning _ _ hbegun _ _ _ _ => simp [interrupts, hbegun] at hstop
  | holding first r hholds => exact .holding first r { hholds with begun := rfl }

theorem lock_invariant (hw : LedgerInvariant w)
    (h : session_step session_id w (.lock request) = .ok w') : LedgerInvariant w' := by
  simp only [session_step, bind_eq_ok, refuse_eq_ok, ok_eq_ok, not_not] at h
  obtain ⟨_, hargs, _, _, _, hledger', _, hfree, rfl⟩ := h
  cases hw with
  | unborn hledger _ _ _ => exact absurd hledger hledger'
  | beginning r hledger hbegun hopens hdirectory hlog _ =>
    refine .beginning r hledger hbegun hopens hdirectory hlog ?_
    rintro _ _ ⟨⟩
    exact ⟨rfl, hargs⟩
  | holding first r hholds =>
    have hstage := hholds.stage
    rw [hfree] at hstage
    exact .holding first r { hholds with stage := ⟨hargs, hstage⟩ }

theorem decide_invariant (hw : LedgerInvariant w)
    (h : session_step session_id w .decide = .ok w') : LedgerInvariant w' := by
  simp only [session_step] at h
  split at h
  · next request file hheld hledger' =>
    cases hw with
    | unborn hledger _ _ _ =>
      rw [hledger] at hledger'
      cases hledger'
    | beginning r hledger hbegun hopens hdirectory hlog hholder =>
      obtain rfl : file = .torn := Option.some.inj (hledger'.symm.trans hledger)
      split at h
      · next hdecided => exact absurd hdecided decide_torn
      · obtain rfl := ok_eq_ok.mp h
        exact .beginning r hledger hbegun hopens hdirectory hlog fun _ _ heq => by cases heq
    | holding first r hholds =>
      have hstage := hholds.stage
      rw [hheld] at hstage
      obtain ⟨hargs, hledger⟩ := hstage
      obtain rfl : file = .whole r.payload := Option.some.inj (hledger'.symm.trans hledger)
      split at h
      · next current updated hdecided =>
        obtain rfl := ok_eq_ok.mp h
        obtain ⟨hcurrent, hstep⟩ := decide_ok hargs hdecided
        exact .holding first r { hholds with stage := ⟨hcurrent, hstep, hledger⟩ }
      · obtain rfl := ok_eq_ok.mp h
        exact .holding first r { hholds with stage := hledger }
  · cases h

theorem truncate_invariant (hw : LedgerInvariant w)
    (h : session_step session_id w .truncate = .ok w') : LedgerInvariant w' := by
  simp only [session_step] at h
  split at h
  · next request current updated hheld =>
    obtain rfl := ok_eq_ok.mp h
    cases hw with
    | unborn _ hholder _ _ =>
      rw [hholder] at hheld
      cases hheld
    | beginning _ _ _ _ _ _ hholder =>
      obtain ⟨hstage, _⟩ := hholder request _ hheld
      cases hstage
    | holding first r hholds =>
      have hstage := hholds.stage
      rw [hheld] at hstage
      obtain ⟨hcurrent, hstep, _⟩ := hstage
      exact .holding first r { hholds with stage := ⟨hcurrent, hstep, rfl⟩ }
  · cases h

/-- A written mutation is the next of the log. -/
theorem write_invariant (hw : LedgerInvariant w)
    (hfits : overflows w .write = false)
    (h : session_step session_id w .write = .ok w') : LedgerInvariant w' := by
  simp only [session_step] at h
  split at h
  · next request current updated hheld =>
    obtain rfl := ok_eq_ok.mp h
    have hshort : updated.too_long = false := by
      simpa [overflows, hheld] using hfits
    cases hw with
    | unborn _ hholder _ _ =>
      rw [hholder] at hheld
      cases hheld
    | beginning _ _ _ _ _ _ hholder =>
      obtain ⟨hstage, _⟩ := hholder request _ hheld
      cases hstage
    | holding first r hholds =>
      have hstage := hholds.stage
      rw [hheld] at hstage
      obtain ⟨rfl, hstep, _⟩ := hstage
      refine .holding first updated { hholds with
        fits := hshort
        log := System.run_append.mpr ⟨current, hholds.log, ?_⟩
        stage := ⟨rfl, hstep, rfl⟩ }
      exact System.run_cons.mpr ⟨updated, hstep, System.run_nil.mpr rfl⟩
  · cases h

theorem finish_invariant (hw : LedgerInvariant w)
    (h : session_step session_id w .finish = .ok w') : LedgerInvariant w' := by
  simp only [session_step] at h
  split at h
  · next request current updated hheld =>
    obtain rfl := ok_eq_ok.mp h
    cases hw with
    | unborn hledger hholder hlog hbegun => exact .unborn hledger rfl hlog hbegun
    | beginning _ _ _ _ _ _ hholder =>
      obtain ⟨hstage, _⟩ := hholder request _ hheld
      cases hstage
    | holding first r hholds =>
      have hstage := hholds.stage
      rw [hheld] at hstage
      exact .holding first r { hholds with stage := hstage.2.2 }
  · cases h

/-- A stop outside a rewrite leaves the ledger as it is. -/
theorem stop_invariant (hw : LedgerInvariant w)
    (hstop : interrupts w .stop = false)
    (h : session_step session_id w .stop = .ok w') : LedgerInvariant w' := by
  obtain rfl := ok_eq_ok.mp h
  cases hw with
  | unborn hledger _ hlog hbegun => exact .unborn hledger rfl hlog hbegun
  | beginning r hledger hbegun hopens hdirectory hlog _ =>
    exact .beginning r hledger hbegun hopens hdirectory hlog fun _ _ heq => by cases heq
  | holding first r hholds =>
    refine .holding first r { hholds with stage := ?_ }
    show w.ledger = some (.whole r.payload)
    have hstage := hholds.stage
    cases hheld : w.holder with
    | none =>
      rw [hheld] at hstage
      exact hstage
    | some held =>
      obtain ⟨request, stage⟩ := held
      rw [hheld] at hstage
      cases stage with
      | locked => exact hstage.2
      | decided before after => exact hstage.2.2
      | truncated before after => simp [interrupts, hheld] at hstop
      | written before after => exact hstage.2.2

/-- A call that neither stops a client inside a rewrite nor writes too long a
    text keeps the invariant. -/
theorem invariant_step {l : SessionCall} (hw : LedgerInvariant w)
    (hcall : interrupts w l = false ∧ overflows w l = false)
    (h : session_step session_id w l = .ok w') : LedgerInvariant w' := by
  obtain ⟨hstop, hfits⟩ := hcall
  cases l with
  | make_directory _ => exact make_directory_invariant hw h
  | create_ledger => exact create_ledger_invariant hw h
  | write_first => exact write_first_invariant hw hfits h
  | finish_begin => exact finish_begin_invariant hw h
  | stop_begin => exact stop_begin_invariant hw hstop h
  | lock _ => exact lock_invariant hw h
  | decide => exact decide_invariant hw h
  | truncate => exact truncate_invariant hw h
  | write => exact write_invariant hw hfits h
  | finish => exact finish_invariant hw h
  | stop => exact stop_invariant hw hstop h

end Steps

/-! ### Every run -/

/-- What is promised of a session ledger. -/
structure SafeLedger (session_id : String) (w : SessionWorld) : Prop where
  /-- Out of a rewrite the ledger is decoded to the record its mutations lead to. -/
  decodes : w.ledger ≠ none → w.rewriting = false →
    ∃ first r, Opens first ∧ session_machine.run first w.log = .ok r ∧ w.load = .ok r
  /-- A mutation at work leaves the record it read or the record it writes. -/
  atomic : ∀ request stage, w.holder = some (request, stage) → stage ≠ .locked →
    w.rewriting = false → ∃ before after, request.mutation.apply before = .ok after ∧
      (stage = .decided before after ∧ w.load = .ok before ∨
        stage = .written before after ∧ w.load = .ok after)
  counted : ∀ r, w.load = .ok r → r.action_count = (w.log.countP SessionMutation.begins : Nat)
  single_flight : SingleFlight w.log
  /-- Only a result is written over an executing ledger. -/
  executing : ∀ r, w.load = .ok r → r.phase = .executing → ∀ l w',
    session_step session_id w l = .ok w' → w'.ledger = w.ledger ∨
      ∃ request stage, w.holder = some (request, stage) ∧ request.mutation.settles = true
  /-- A closed ledger stays. -/
  closed : ∀ r, w.load = .ok r → r.phase = .closed → ∀ l w',
    session_step session_id w l = .ok w' → w'.ledger = w.ledger

section Runs

variable {session_id : String} {w w' : SessionWorld} {first r : BrowserSessionRecordV1}
  {calls : List SessionCall}

theorem Holds.load_eq (h : Holds w first r) (hledger : w.ledger = some (.whole r.payload)) :
    w.load = .ok r := by
  have hlegal := (followed_run h.opens h.log).legal
  simp only [SessionWorld.load, hledger, bind_eq_ok, expect_eq_ok]
  exact ⟨_, rfl, read_whole.mpr ⟨rfl, hlegal, h.fits⟩⟩

/-- A ledger that loads holds the record its mutations lead to. -/
theorem invariant_load (hw : LedgerInvariant w) {current : BrowserSessionRecordV1}
    (hload : w.load = .ok current) :
    ∃ first, Holds w first current ∧ w.ledger = some (.whole current.payload) := by
  simp only [SessionWorld.load, bind_eq_ok, expect_eq_ok] at hload
  obtain ⟨file, hfile, hread⟩ := hload
  cases hw with
  | unborn hledger _ _ _ =>
    rw [hledger] at hfile
    cases hfile
  | beginning _ hledger _ _ _ _ _ =>
    rw [hledger] at hfile
    obtain rfl := Option.some.inj hfile
    cases hread
  | holding first r hholds =>
    have hwhole : file = .torn ∨ file = .whole r.payload := by
      have hstage := hholds.stage
      rw [hfile] at hstage
      cases hheld : w.holder with
      | none =>
        rw [hheld] at hstage
        exact .inr (Option.some.inj hstage)
      | some held =>
        obtain ⟨request, stage⟩ := held
        rw [hheld] at hstage
        cases stage with
        | locked => exact .inr (Option.some.inj hstage.2)
        | decided before after => exact .inr (Option.some.inj hstage.2.2)
        | truncated before after => exact .inl (Option.some.inj hstage.2.2)
        | written before after => exact .inr (Option.some.inj hstage.2.2)
    rcases hwhole with rfl | rfl
    · cases hread
    · obtain ⟨rfl, _, _⟩ := read_whole.mp hread
      exact ⟨first, hholds, hfile⟩

/-- A call that changes a ledger that loads is the truncation of a decided
    mutation. -/
theorem ledger_step (hw : LedgerInvariant w) (hload : w.load = .ok r) {l : SessionCall}
    (h : session_step session_id w l = .ok w') :
    w'.ledger = w.ledger ∨ ∃ request after, w.holder = some (request, .decided r after) ∧
      request.mutation.apply r = .ok after := by
  obtain ⟨first, hholds, hledger⟩ := invariant_load hw hload
  have hbegun := hholds.begun
  have hstage := hholds.stage
  cases l with
  | make_directory start =>
    simp only [session_step, bind_eq_ok, refuse_eq_ok, ok_eq_ok] at h
    obtain ⟨_, _, _, _, rfl⟩ := h
    exact .inl rfl
  | create_ledger =>
    simp only [session_step] at h
    split at h
    · next hstarter =>
      rw [hstarter] at hbegun
      cases hbegun
    · cases h
  | write_first =>
    simp only [session_step] at h
    split at h
    · next hstarter =>
      rw [hstarter] at hbegun
      cases hbegun
    · cases h
  | finish_begin =>
    simp only [session_step] at h
    split at h
    · obtain rfl := ok_eq_ok.mp h
      exact .inl rfl
    · cases h
  | stop_begin =>
    obtain rfl := ok_eq_ok.mp h
    exact .inl rfl
  | lock request =>
    simp only [session_step, bind_eq_ok, refuse_eq_ok, ok_eq_ok] at h
    obtain ⟨_, _, _, _, _, _, _, _, rfl⟩ := h
    exact .inl rfl
  | decide =>
    simp only [session_step] at h
    split at h
    · split at h
      · obtain rfl := ok_eq_ok.mp h
        exact .inl rfl
      · obtain rfl := ok_eq_ok.mp h
        exact .inl rfl
    · cases h
  | truncate =>
    simp only [session_step] at h
    split at h
    · next request current updated hheld =>
      rw [hheld] at hstage
      obtain ⟨rfl, hstep, _⟩ := hstage
      simp only [session_machine, bind_eq_ok] at hstep
      obtain ⟨_, _, happly⟩ := hstep
      exact .inr ⟨request, updated, hheld, happly⟩
    · cases h
  | write =>
    simp only [session_step] at h
    split at h
    · next request current updated hheld =>
      -- an emptied ledger does not load
      rw [hheld, hledger] at hstage
      cases hstage.2.2
    · cases h
  | finish =>
    simp only [session_step] at h
    split at h
    · obtain rfl := ok_eq_ok.mp h
      exact .inl rfl
    · cases h
  | stop =>
    obtain rfl := ok_eq_ok.mp h
    exact .inl rfl

/-- What the invariant promises. -/
theorem invariant_safe (hw : LedgerInvariant w) : SafeLedger session_id w where
  decodes hledger hrewriting := by
    cases hw with
    | unborn hnone _ _ _ => exact absurd hnone hledger
    | beginning r _ hstarter _ _ _ _ => simp [SessionWorld.rewriting, hstarter] at hrewriting
    | holding first r hholds =>
      refine ⟨first, r, hholds.opens, hholds.log, hholds.load_eq ?_⟩
      have hstage := hholds.stage
      -- the ledger is torn only between the truncation and the write
      cases hheld : w.holder with
      | none =>
        rw [hheld] at hstage
        exact hstage
      | some held =>
        obtain ⟨request, stage⟩ := held
        rw [hheld] at hstage
        cases stage with
        | locked => exact hstage.2
        | decided before after => exact hstage.2.2
        | truncated before after => simp [SessionWorld.rewriting, hheld] at hrewriting
        | written before after => exact hstage.2.2
  atomic request stage hheld hlocked hrewriting := by
    cases hw with
    | unborn _ hnone _ _ =>
      rw [hnone] at hheld
      cases hheld
    | beginning _ _ _ _ _ _ hholder => exact absurd (hholder request stage hheld).1 hlocked
    | holding first r hholds =>
      have hstage := hholds.stage
      rw [hheld] at hstage
      cases stage with
      | locked => exact absurd rfl hlocked
      | decided before after =>
        obtain ⟨rfl, hstep, hledger⟩ := hstage
        simp only [session_machine, bind_eq_ok] at hstep
        obtain ⟨_, _, happly⟩ := hstep
        exact ⟨before, after, happly, .inl ⟨rfl, hholds.load_eq hledger⟩⟩
      | truncated before after => simp [SessionWorld.rewriting, hheld] at hrewriting
      | written before after =>
        obtain ⟨rfl, hstep, hledger⟩ := hstage
        simp only [session_machine, bind_eq_ok] at hstep
        obtain ⟨_, _, happly⟩ := hstep
        exact ⟨before, after, happly, .inr ⟨rfl, hholds.load_eq hledger⟩⟩
  counted r hload := by
    obtain ⟨first, hholds, _⟩ := invariant_load hw hload
    exact (followed_run hholds.opens hholds.log).counted
  single_flight := by
    cases hw with
    | unborn _ _ hlog _ =>
      rw [hlog]
      exact single_flight_nil
    | beginning _ _ _ _ _ hlog _ =>
      rw [hlog]
      exact single_flight_nil
    | holding first r hholds => exact single_flight hholds.opens hholds.log
  executing r hload hphase l w' h := by
    rcases ledger_step hw hload h with hsame | ⟨request, after, hheld, happly⟩
    · exact .inl hsame
    · exact .inr ⟨request, _, hheld, executing_settles hphase happly⟩
  closed r hload hphase l w' h := by
    rcases ledger_step hw hload h with hsame | ⟨request, after, _, happly⟩
    · exact hsame
    · exact absurd happly (closed_refuses hphase)

/-- Where no client is stopped inside a rewrite, and no text is too long to be
    read back, the session ledger is safe in every state. -/
theorem session_ledger_safe (session_id : String)
    (hcalls : (session_system session_id).Along
      (fun w l => interrupts w l = false ∧ overflows w l = false) {} calls)
    (hrun : (session_system session_id).run {} calls = .ok w) : SafeLedger session_id w := by
  have hstart : LedgerInvariant {} := .unborn rfl rfl rfl fun _ _ heq => by cases heq
  have hsteps : ∀ s l s', LedgerInvariant s → interrupts s l = false ∧ overflows s l = false →
      (session_system session_id).step s l = .ok s' → LedgerInvariant s' := by
    intro s l s' hs hcall h
    exact invariant_step hs hcall h
  exact invariant_safe (System.run_invariant_along hsteps hstart hcalls hrun)

end Runs

/-! ### Calls that are not stopped -/

section Whole

variable {session_id : String} {start : SessionStart} {request : SessionRequest}
  {r updated : BrowserSessionRecordV1}

/-- A session that nobody works on. -/
def SessionWorld.at_rest (r : BrowserSessionRecordV1) (log : List SessionMutation) :
    SessionWorld where
  directory := true
  ledger := some (.whole r.payload)
  log := log

def begin_calls (start : SessionStart) : List SessionCall := [
  .make_directory start, .create_ledger, .write_first, .finish_begin]

/-- The calls of a mutation up to its decision. -/
def decide_calls (request : SessionRequest) : List SessionCall := [.lock request, .decide]

def rewrite_calls : List SessionCall := [.truncate, .write, .finish]

theorem begin_run (hr : start.record session_id = .ok r) (hfits : r.too_long = false) :
    (session_system session_id).run {} (begin_calls start) = .ok (.at_rest r []) ∧
      (session_system session_id).Along
        (fun w l => interrupts w l = false ∧ overflows w l = false) {} (begin_calls start) := by
  have hbegun : (session_system session_id).step {} (.make_directory start) =
      .ok { directory := true, starter := some (r, .directory_made) } := by
    simp [session_system, session_step, hr, bind_eq_ok, refuse_eq_ok]
  constructor
  · exact System.run_cons.mpr ⟨_, hbegun, rfl⟩
  · refine .cons ⟨rfl, rfl⟩ hbegun (.cons ⟨rfl, rfl⟩ rfl (.cons ⟨rfl, ?_⟩ rfl
      (.cons ⟨rfl, rfl⟩ rfl trivial)))
    simpa [overflows] using hfits

theorem decide_run {log : List SessionMutation}
    (hargs : request.mutation.check_arguments = .ok ())
    (hid : request.record.session_id = session_id)
    (hdecide : request.decide (.whole r.payload) = .ok (r, updated)) :
    (session_system session_id).run (.at_rest r log) (decide_calls request) =
        .ok { SessionWorld.at_rest r log with holder := some (request, .decided r updated) } ∧
      (session_system session_id).Along
        (fun w l => interrupts w l = false ∧ overflows w l = false) (.at_rest r log)
        (decide_calls request) := by
  have hlocked : (session_system session_id).step (.at_rest r log) (.lock request) =
      .ok { SessionWorld.at_rest r log with holder := some (request, .locked) } := by
    simp [session_system, session_step, hargs, hid, SessionWorld.at_rest, bind_eq_ok,
      refuse_eq_ok]
  have hdecided : (session_system session_id).step
      { SessionWorld.at_rest r log with holder := some (request, .locked) } .decide =
      .ok { SessionWorld.at_rest r log with holder := some (request, .decided r updated) } := by
    simp [session_system, session_step, SessionWorld.at_rest, hdecide]
  constructor
  · exact System.run_cons.mpr ⟨_, hlocked, System.run_cons.mpr ⟨_, hdecided, System.run_nil.mpr rfl⟩⟩
  · exact .cons ⟨rfl, rfl⟩ hlocked (.cons ⟨rfl, rfl⟩ hdecided trivial)

theorem rewrite_run {log : List SessionMutation} (hfits : updated.too_long = false) :
    (session_system session_id).run
        { SessionWorld.at_rest r log with holder := some (request, .decided r updated) }
        rewrite_calls = .ok (.at_rest updated (log ++ [request.mutation])) ∧
      (session_system session_id).Along
        (fun w l => interrupts w l = false ∧ overflows w l = false)
        { SessionWorld.at_rest r log with holder := some (request, .decided r updated) }
        rewrite_calls := by
  constructor
  · rfl
  · refine .cons ⟨rfl, rfl⟩ rfl (.cons ⟨rfl, ?_⟩ rfl (.cons ⟨rfl, rfl⟩ rfl trivial))
    simpa [overflows] using hfits

end Whole

/-! ### A session that is activated, and one that is stopped -/

section Fixed

def public_start : SessionStart where
  spec_digest := "59b774a5253e2bc8e357bdfc95e4f7a4b214734f6da65a9f53b40711a10ba16b"
  profile_ref := none
  profile_revision := none
  browser_identity_digest := "59b774a5253e2bc8e357bdfc95e4f7a4b214734f6da65a9f53b40711a10ba16b"

def public_session : BrowserSessionRecordV1 where
  session_id := "session-0123456789abcdef"
  spec_digest := public_start.spec_digest
  profile_ref := none
  profile_revision := none
  browser_identity_digest := public_start.browser_identity_digest
  phase := .opening
  observation_digest := none
  last_action_digest := none
  last_action_outcome := none
  action_count := 0

def active_session : BrowserSessionRecordV1 := { public_session with phase := .active }

def activation : SessionRequest := ⟨public_session, .compare_and_swap .active, none⟩

theorem public_legal : public_session.Legal where
  session_id := by decide +kernel
  spec_digest := by decide +kernel
  browser_identity_digest := by decide +kernel
  observation_digest := nofun
  last_action_digest := nofun
  profile_ref := nofun
  profile_revision := nofun
  paired := rfl
  action_count := Int.le_refl 0
  shape := rfl

theorem public_fits : public_session.too_long = false := by
  decide +kernel

theorem active_fits : active_session.too_long = false := by
  decide +kernel

theorem public_record : public_start.record "session-0123456789abcdef" = .ok public_session := by
  have hidentity : require_digest (.str public_start.browser_identity_digest)
      "browser_identity_digest" = .ok public_start.browser_identity_digest :=
    require_digest_str.mpr ⟨public_legal.browser_identity_digest, rfl⟩
  have hprofile : public_start.check_profile = .ok () := rfl
  have hid : is_session_id "session-0123456789abcdef" = true := public_legal.session_id
  simp only [SessionStart.record, hidentity, bind_eq_ok, refuse_eq_ok]
  exact ⟨_, rfl, (), hprofile, (), by simp [hid], decode_payload.mpr ⟨rfl, public_legal⟩⟩

theorem activation_decided :
    activation.decide (.whole public_session.payload) = .ok (public_session, active_session) := by
  have hread : (LedgerFile.whole public_session.payload).read = .ok public_session :=
    read_whole.mpr ⟨rfl, public_legal, public_fits⟩
  have hverified : verify_record public_session public_session = .ok () := by
    simp [verify_record, bind_eq_ok, refuse_eq_ok]
  simp only [SessionRequest.decide, hread, bind_eq_ok, refuse_eq_ok]
  exact ⟨_, rfl, (), hverified, (), by simp [activation, public_session], active_session, rfl, rfl⟩

/-- The session is begun, and a client has decided to activate it. -/
def activating_calls : List SessionCall := begin_calls public_start ++ decide_calls activation

theorem activating_run :
    (session_system "session-0123456789abcdef").run {} activating_calls =
        .ok { SessionWorld.at_rest public_session [] with
          holder := some (activation, .decided public_session active_session) } ∧
      (session_system "session-0123456789abcdef").Along
        (fun w l => interrupts w l = false ∧ overflows w l = false) {} activating_calls := by
  obtain ⟨hbegun, hquiet⟩ := begin_run public_record public_fits
  obtain ⟨hdecided, hquiet'⟩ := @decide_run "session-0123456789abcdef" activation public_session
    active_session [] rfl rfl activation_decided
  exact ⟨System.run_append.mpr ⟨_, hbegun, hdecided⟩, hquiet.append hbegun hquiet'⟩

theorem activated_session_safe : ∃ w,
    (session_system "session-0123456789abcdef").run {} (activating_calls ++ rewrite_calls) =
      .ok w ∧
    SafeLedger "session-0123456789abcdef" w := by
  obtain ⟨hrun, hquiet⟩ := activating_run
  obtain ⟨hwritten, hquiet'⟩ := @rewrite_run "session-0123456789abcdef" activation public_session
    active_session [] active_fits
  have hwhole := System.run_append.mpr ⟨_, hrun, hwritten⟩
  exact ⟨_, hwhole, session_ledger_safe _ (hquiet.append hrun hquiet') hwhole⟩

/-- A client that is stopped behind its truncation leaves a ledger that no
    load decodes. -/
theorem stopped_rewrite_tears : ∃ w,
    (session_system "session-0123456789abcdef").run {}
      (activating_calls ++ [.truncate, .stop]) = .ok w ∧
    w.ledger ≠ none ∧ w.rewriting = false ∧ (∀ r, w.load ≠ .ok r) ∧
    ¬ SafeLedger "session-0123456789abcdef" w := by
  obtain ⟨hrun, _⟩ := activating_run
  have hstopped : (session_system "session-0123456789abcdef").run {}
      (activating_calls ++ [.truncate, .stop]) =
        .ok { SessionWorld.at_rest public_session [] with ledger := some .torn } :=
    System.run_append.mpr ⟨_, hrun, rfl⟩
  have hload : ∀ r, ({ SessionWorld.at_rest public_session [] with
      ledger := some .torn } : SessionWorld).load ≠ .ok r := by
    intro r h
    simp only [SessionWorld.load, bind_eq_ok, expect_eq_ok] at h
    obtain ⟨_, hfile, hread⟩ := h
    obtain rfl := Option.some.inj hfile
    cases hread
  refine ⟨_, hstopped, Option.some_ne_none _, rfl, hload, fun hsafe => ?_⟩
  obtain ⟨_, r, _, _, hr⟩ := hsafe.decodes (Option.some_ne_none _) rfl
  exact hload r hr

end Fixed
