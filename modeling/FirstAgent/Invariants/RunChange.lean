import FirstAgent.State.System

/-! # What a Transition Does to the Run

    Every transition is one of a few changes to the fact log and to the core
    of the active run: its batch, its cursor and what it is waiting for.  The
    invariants about batches, executing calls and provider calls are proved
    from these changes, one case each. -/

open Fallible

/-! ### The core of a run -/

/-- What is tracked of a run. -/
structure RunCore where
  tool_calls : List ToolCall := []
  batch_cursor : Nat := 0
  executing_intent : Option ExecutingIntentRecord := none
  provider_call_intent : Option ProviderCallIntentV1 := none
  persisted_model_response : Option PersistedModelResponseV1 := none
  deriving DecidableEq

namespace RunCore

def call_ids (r : RunCore) : List String := r.tool_calls.map fun c => c.val.tool_call_id

def has_more (r : RunCore) : Bool := r.batch_cursor + 1 < r.tool_calls.length

/-- The current call is answered. -/
def advance (r : RunCore) : RunCore :=
  { r with
    tool_calls := if r.has_more then r.tool_calls else []
    batch_cursor := r.batch_cursor + 1
    executing_intent := none }

end RunCore

def ActiveRunFields.core (r : ActiveRunFields) : RunCore where
  tool_calls := r.tool_calls
  batch_cursor := r.batch_cursor
  executing_intent := r.executing_intent
  provider_call_intent := r.provider_call_intent
  persisted_model_response := r.persisted_model_response

/-- What the invariants of a run look at: the facts and the core of the
    active run. -/
structure RunLog where
  facts : List ConversationFact
  core : Option RunCore

def ConversationState.run_log (s : ConversationState) : RunLog where
  facts := s.val.facts
  core := s.val.active_run.map fun r => r.val.core

/-- A fact that is neither a batch nor a result. -/
def ConversationFact.is_note (f : ConversationFact) : Prop :=
  f.val.kind ≠ .tool_calls ∧ f.val.kind ≠ .tool_result

/-! ### Labels -/

namespace Transition

/-- The label resolves the unknown outcome of an executing call. -/
def resolves (i : ExecutingIntentRecord) : Transition → Bool
  | .record_tool_result _ digest => digest = i.val.intent_digest
  | .accept_action _ action _ _ =>
    match action.body with
    | .resolve_unknown_tool_outcome _ digest _ => digest = i.val.intent_digest
    | .recover_unknown_observation a => a.val.intent_digest = i.val.intent_digest
    | _ => false
  | _ => false

/-- The label is the exact abandonment of a provider call. -/
def abandons (i : ProviderCallIntentV1) : Transition → Bool
  | .accept_action _ action _ _ =>
    match action.body with
    | .abandon_unknown_model_outcome a =>
      a.val.provider_call_intent_digest = i.val.intent_digest
    | _ => false
  | _ => false

/-- The label ends the run without looking at the provider boundary. -/
def drops_run : Transition → Bool
  | .accept_action _ action _ _ =>
    match action.body with
    | .pause_goal _ | .cancel_goal _ => true
    | _ => false
  | .pause_goal .. | .cancel_goal .. | .apply_control_request _ | .accept_blocked_claim _ => true
  | .complete_run .. | .end_run .. | .fail_run .. => true
  | _ => false

/-- The label submits a message. -/
def submits : Transition → Bool
  | .accept_action _ action _ _ =>
    match action.body with
    | .submit_message .. => true
    | _ => false
  | _ => false

def appends_policy : Transition → Bool
  | .append_policy_result .. => true
  | _ => false

def compacts : Transition → Bool
  | .apply_compaction_summary .. => true
  | _ => false

/-- The label starts an operator's call outside an accepted action. -/
def starts_operator_tool : Transition → Bool
  | .start_operator_tool _ => true
  | _ => false

/-- The label announces a batch. -/
def starts_batch : Transition → Bool
  | .accept_action _ action _ _ =>
    match action.body with
    | .execute_operator_tool _ => true
    | _ => false
  | .start_operator_tool _ | .start_tool_batch .. => true
  | _ => false

/-- The call a label marks as executing. -/
def marked_call : Transition → Option String
  | .mark_executing r => some r.intent.tool_call_id
  | _ => none

end Transition

/-! ### Changes -/

/-- A batch fact announces exactly these calls. -/
def Announces (batch : ConversationFact) (calls : List ToolCall) : Prop :=
  batch.val.kind = .tool_calls ∧
    batch.batch_call_ids = some (calls.map fun c => c.val.tool_call_id)

/-- The facts answer these calls, in order. -/
def Answers (facts : List ConversationFact) (calls : List ToolCall) : Prop :=
  facts.map ConversationFact.result_call_id = calls.map fun c => some c.val.tool_call_id

/-- A message would replace a run that awaits approval without correcting the
    Goal. -/
def message_discards (s : ConversationState) : Bool :=
  !is_correction s && s.val.active_run.any fun r => r.val.status = .awaiting_approval

/-- What a transition may do to the log and the core of the run; `discards`
    says whether a message would discard the run. -/
inductive RunChange (l : Transition) (discards : Bool) (s s' : RunLog) : Prop where
  /-- Notes are added; during a batch only policy results are. -/
  | note (notes : List ConversationFact) (hnotes : ∀ f ∈ notes, f.is_note)
      (hfacts : s'.facts = s.facts ++ notes) (hcore : s'.core = s.core)
      (hlabel : notes = [] ∨ s.core = none ∨ l.appends_policy = true)
  /-- A run begins. -/
  | fresh (notes : List ConversationFact) (hnotes : ∀ f ∈ notes, f.is_note)
      (hfacts : s'.facts = s.facts ++ notes) (hnone : s.core = none)
      (hcore : s'.core = some {})
  /-- The run waits for a provider response. -/
  | begin_call (core : RunCore) (i : ProviderCallIntentV1) (hfacts : s'.facts = s.facts)
      (hbefore : s.core = some core) (hidle : core.provider_call_intent = none)
      (hcore : s'.core = some { core with
        provider_call_intent := some i
        persisted_model_response := none })
  /-- The provider response is stored. -/
  | respond (core : RunCore) (r : PersistedModelResponseV1)
      (hfacts : s'.facts = s.facts) (hbefore : s.core = some core)
      (hlabel : l = .record_provider_response r)
      (hcore : s'.core = some { core with persisted_model_response := some r })
  /-- A stored response is dropped; the outcome stays open. -/
  | reject (core : RunCore) (hfacts : s'.facts = s.facts)
      (hbefore : s.core = some core)
      (hcore : s'.core = some { core with persisted_model_response := none })
  /-- The stored response is used. -/
  | consume (core : RunCore) (hfacts : s'.facts = s.facts)
      (hbefore : s.core = some core) (hstored : core.persisted_model_response ≠ none)
      (hlabel : l = .consume_provider_response)
      (hcore : s'.core = some { core with
        provider_call_intent := none
        persisted_model_response := none })
  /-- A batch is announced; only a bare operator start may overwrite one. -/
  | start (core : RunCore) (calls : List ToolCall) (batch : ConversationFact)
      (hannounces : Announces batch calls) (hcalls : calls ≠ [])
      (hfacts : s'.facts = s.facts ++ [batch]) (hbefore : s.core = some core)
      (hintent : core.executing_intent = none) (hidle : core.provider_call_intent = none)
      (hstarts : l.starts_batch = true)
      (hlabel : core.tool_calls = [] ∨ l.starts_operator_tool = true)
      (hcore : s'.core = some { core with tool_calls := calls, batch_cursor := 0 })
  /-- The current call begins to execute. -/
  | mark (core : RunCore) (i : ExecutingIntentRecord) (hfacts : s'.facts = s.facts)
      (hbefore : s.core = some core) (hidle : core.executing_intent = none)
      (hcall : core.call_ids[core.batch_cursor]? = some i.val.tool_call_id)
      (hlabel : l.marked_call = some i.val.tool_call_id)
      (hcore : s'.core = some { core with executing_intent := some i })
  /-- The current call is answered. -/
  | answer (core : RunCore) (call : ToolCall) (result : ConversationFact)
      (hresult : Answers [result] [call]) (hfacts : s'.facts = s.facts ++ [result])
      (hbefore : s.core = some core) (hcall : core.tool_calls[core.batch_cursor]? = some call)
      (hlabel : ∀ i, core.executing_intent = some i → l.resolves i = true)
      (hcore : s'.core = some core.advance)
  /-- The run is dropped, and a new one may begin; its unstarted calls are
      answered first. -/
  | close (core : RunCore) (suffix notes : List ConversationFact)
      (hsuffix : Answers suffix (core.tool_calls.drop core.batch_cursor))
      (hnotes : ∀ f ∈ notes, f.is_note)
      (hfacts : s'.facts = s.facts ++ suffix ++ notes) (hbefore : s.core = some core)
      (hknown : core.executing_intent = none)
      (hlabel : ∀ i, core.provider_call_intent = some i →
        l.drops_run = true ∨ l.abandons i = true)
      (hcore : s'.core = none ∨ s'.core = some {})
  /-- A message replaces a run that awaits approval and answers none of its
      calls. -/
  | discard (core : RunCore) (notes : List ConversationFact) (hnotes : ∀ f ∈ notes, f.is_note)
      (hfacts : s'.facts = s.facts ++ notes) (hbefore : s.core = some core)
      (hknown : core.executing_intent = none) (hidle : core.provider_call_intent = none)
      (hlabel : l.submits = true) (hmessage : discards = true)
      (hcore : s'.core = some {})
  /-- A summary replaces facts. -/
  | compact (hlabel : l.compacts = true) (hcore : s'.core = s.core)

namespace RunChange

variable {l : Transition} {discards : Bool} {s s' : RunLog}

/-- Neither the facts nor the core change. -/
theorem keep (hfacts : s'.facts = s.facts) (hcore : s'.core = s.core) :
    RunChange l discards s s' :=
  .note [] (by simp) (by simpa using hfacts) hcore (.inl rfl)

end RunChange

/-! ### Each transition is one change -/

/-- The transition between two states is one change of the run. -/
abbrev ChangesRun (l : Transition) (s s' : ConversationState) : Prop :=
  RunChange l (message_discards s) s.run_log s'.run_log

section Transitions

variable {rules : TextRules} {l : Transition} {s s' : ConversationState}

@[simp] theorem run_log_facts : s.run_log.facts = s.val.facts := rfl

theorem run_log_core {active : ActiveRun} (h : s.val.active_run = some active) :
    s.run_log.core = some active.val.core := by
  simp [ConversationState.run_log, h]

theorem run_log_core_none (h : s.val.active_run = none) : s.run_log.core = none := by
  simp [ConversationState.run_log, h]

/-- Only the run changes, and its core does not. -/
theorem adjust_run {active : ActiveRun} (hactive : s.val.active_run = some active)
    (active' : ActiveRun) (hactive' : s'.val.active_run = some active')
    (hfacts : s'.val.facts = s.val.facts) (hcore : active'.val.core = active.val.core) : ChangesRun l s s' :=
  .keep hfacts (by rw [run_log_core hactive, run_log_core hactive', hcore])

/-- The run and the facts stay. -/
theorem keep_run (hfacts : s'.val.facts = s.val.facts)
    (hactive : s'.val.active_run = s.val.active_run) : ChangesRun l s s' :=
  .keep hfacts (by simp [ConversationState.run_log, hactive])

theorem admission_step.run_change (h : admission_step s s') :
    ChangesRun l s s' := by
  rcases h with rfl | ⟨_, _, _, _, _, _, _, h⟩
  · exact keep_run rfl rfl
  · exact keep_run (by rw [h]) (by rw [h])

/-- Outside the provider boundary no call is held. -/
theorem no_provider_call (active : ActiveRun) (h₁ : active.val.status ≠ .model_executing)
    (h₂ : active.val.status ≠ .model_outcome_unknown) :
    active.val.provider_call_intent = none ∧ active.val.persisted_model_response = none := by
  have hc := active.checks.2.2.2
  cases hstatus : active.val.status <;>
    simp_all [ActiveRunFields.check_provider, Py.refuse_value_eq_ok]

/-- Without an unknown effect no call is executing, and the unstarted calls
    are all from the cursor on. -/
theorem unstarted_of_known {active : ActiveRun} (hactive : s.val.active_run = some active)
    (hknown : has_unknown_effect s = false) :
    active.val.executing_intent = none ∧
      unstarted_calls s 0 = active.val.tool_calls.drop active.val.batch_cursor := by
  have hphase : active.val.phase ≠ .executing := by
    intro hphase
    simp [has_unknown_effect, hactive, hphase] at hknown
  cases hp : active.val.phase with
  | model =>
    obtain ⟨hcalls, hintent⟩ := ActiveRun.of_model_phase hp
    exact ⟨hintent, by simp [unstarted_calls, hactive, hp, hcalls]⟩
  | tool => exact ⟨(ActiveRun.of_tool_phase hp).2, by simp [unstarted_calls, hactive, hp]⟩
  | executing => exact absurd hp hphase

/-- The run ends with its unstarted calls answered. -/
theorem close_run {active : ActiveRun} {suffix notes : List ConversationFact}
    (hactive : s.val.active_run = some active) (hknown : has_unknown_effect s = false)
    (hsuffix : suffix.map ConversationFact.result_call_id =
      (unstarted_calls s 0).map fun c => some c.val.tool_call_id)
    (hnotes : ∀ f ∈ notes, f.is_note) (hfacts : s'.val.facts = s.val.facts ++ suffix ++ notes)
    (hnone : s'.val.active_run = none)
    (hlabel : ∀ i, active.val.provider_call_intent = some i →
      l.drops_run = true ∨ l.abandons i = true) :
    ChangesRun l s s' := by
  obtain ⟨hintent, hunstarted⟩ := unstarted_of_known hactive hknown
  rw [hunstarted] at hsuffix
  exact .close active.val.core suffix notes hsuffix hnotes hfacts (run_log_core hactive) hintent
    hlabel (.inl (run_log_core_none hnone))

theorem note_of_kind {f : ConversationFact} {kind : FactKind} (h : f.val.kind = kind)
    (hcalls : kind ≠ .tool_calls) (hresult : kind ≠ .tool_result) : f.is_note :=
  ⟨h ▸ hcalls, h ▸ hresult⟩

theorem notes_singleton {f : ConversationFact} (h : f.is_note) : ∀ g ∈ [f], g.is_note := by
  simpa using h

/-- A stop of the run, if there is one, with its unstarted calls answered. -/
theorem stop_run {suffix : List ConversationFact} (hclose : ClosesRun s suffix)
    (hfacts : s'.val.facts = s.val.facts ++ suffix) (hnone : s'.val.active_run = none)
    (hl : l.drops_run = true) : ChangesRun l s s' := by
  cases hactive : s.val.active_run with
  | none =>
    have hempty := hclose.answered
    simp only [unstarted_calls, hactive, List.map_nil, List.map_eq_nil_iff] at hempty
    exact keep_run (by rw [hfacts, hempty, List.append_nil]) (by rw [hnone, hactive])
  | some active =>
    exact close_run hactive hclose.known hclose.answered (List.forall_mem_nil _)
      (by rw [hfacts, List.append_nil]) hnone fun _ _ => .inl hl

/-! ### Goal controls -/

theorem pause_goal_run_change {goal_id : String} {revision : Int}
    (h : pause_goal s goal_id revision = .ok s') (hl : l.drops_run = true) :
    ChangesRun l s s' := by
  obtain ⟨_, _, _, _, _, hclose, _, h⟩ := pause_goal_ok h
  exact stop_run hclose (by rw [h]) (by rw [h]) hl

theorem cancel_goal_run_change {goal_id : String} {revision : Int}
    (h : cancel_goal s goal_id revision = .ok s') (hl : l.drops_run = true) :
    ChangesRun l s s' := by
  obtain ⟨_, _, _, _, _, hclose, _, h⟩ := cancel_goal_ok h
  exact stop_run hclose (by rw [h]) (by rw [h]) hl

theorem apply_control_request_run_change {request : ControlInboxRequest}
    (h : apply_control_request s request = .ok s') (hl : l.drops_run = true) :
    ChangesRun l s s' := by
  obtain ⟨goal, active, updated, receipts, _, hactive, hknown, hupdated, h⟩ :=
    apply_control_request_ok h
  have hchange : ChangesRun l s updated := by
    split at hupdated
    · exact pause_goal_run_change hupdated hl
    · exact cancel_goal_run_change hupdated hl
    · obtain ⟨_, suffix, correction, _, hsuffix, hcorrection, _, hu⟩ := correct_goal_ok hupdated
      exact close_run hactive hknown hsuffix
        (notes_singleton (note_of_kind hcorrection (by decide) (by decide))) (by rw [hu])
        (by rw [hu]) fun _ _ => .inl hl
  rwa [ChangesRun, show s'.run_log = updated.run_log by simp [ConversationState.run_log, h]]

theorem accept_blocked_claim_run_change {claim : BlockedClaim}
    (h : accept_blocked_claim s claim = .ok s') (hl : l.drops_run = true) :
    ChangesRun l s s' := by
  obtain ⟨_, _, active, fact, _, _, _, hknown, hactive, hphase, hfact, _, h⟩ :=
    accept_blocked_claim_ok h
  exact close_run hactive hknown
    (show ([] : List ConversationFact).map _ = _ by simp [unstarted_calls, hactive, hphase])
    (notes_singleton (note_of_kind hfact (by decide) (by decide))) (by simp [h]) (by rw [h])
    fun _ _ => .inl hl

/-! ### Consent -/

/-- A continued run keeps its core; a stopped one begins anew. -/
theorem continue_run {goal : Option GoalFrame} {active' : ActiveRun}
    (hcontinues : ContinuesRun s goal active') (hfacts : s'.val.facts = s.val.facts)
    (hactive' : s'.val.active_run = some active') : ChangesRun l s s' := by
  rcases hcontinues with ⟨hnone, _, _, hfresh⟩ | ⟨active, hactive, _, _, hcore⟩
  · refine .fresh [] (by simp) (by simpa using hfacts) (run_log_core_none hnone) ?_
    rw [run_log_core hactive', hfresh]
    rfl
  · exact adjust_run hactive _ hactive' hfacts (by rw [hcore]; rfl)

theorem revoke_provider_consent_run_change (h : revoke_provider_consent s = .ok s') :
    ChangesRun l s s' := by
  obtain ⟨active', _, ⟨hnone, rfl⟩ | ⟨active, a, hactive, rfl, hrelease⟩, h⟩ :=
    revoke_provider_consent_ok h
  · exact keep_run (by rw [h]) (by rw [h, hnone])
  · refine adjust_run hactive a (by rw [h]) (by rw [h]) ?_
    rcases release_disclosure_ok hrelease with rfl | ⟨_, ha⟩
    · rfl
    · rw [ha]
      rfl

theorem begin_browser_takeover_run_change {request : BrowserTakeoverRequestV1}
    (h : begin_browser_takeover s request = .ok s') : ChangesRun l s s' := by
  obtain ⟨_, active', _, _, _, ⟨hnone, rfl⟩ | ⟨active, a, hactive, rfl, ha⟩, h⟩ :=
    begin_browser_takeover_ok h
  · exact keep_run (by rw [h]) (by rw [h, hnone])
  · exact adjust_run hactive a (by rw [h]) (by rw [h]) (by rw [ha]; rfl)

theorem ensure_run_started_run_change {started_at : String}
    (h : ensure_run_started s started_at = .ok s') : ChangesRun l s s' := by
  rcases ensure_run_started_ok h with rfl | ⟨active, active', hactive, hactive', h⟩
  · exact keep_run rfl rfl
  · exact adjust_run hactive active' (by rw [h]) (by rw [h]) (by rw [hactive']; rfl)

/-! ### The end of a run -/

theorem complete_run_run_change {message : Option String}
    {continuation : Option ProviderContinuationV1}
    (h : complete_run s message continuation = .ok s') (hl : l.drops_run = true) :
    ChangesRun l s s' := by
  obtain ⟨active, suffix, assistant, _, hactive, ⟨hknown, hanswered⟩, hassistant, h⟩ :=
    complete_run_ok h
  exact close_run hactive hknown hanswered
    (fun f hf => note_of_kind (hassistant f hf) (by decide) (by decide)) (by rw [h]) (by rw [h])
    fun _ _ => .inl hl

theorem end_run_run_change {status : RunStatus} {code message : String}
    (h : end_run s status code message = .ok s')
    (hl : ∀ active i, s.val.active_run = some active → active.val.provider_call_intent = some i →
      l.drops_run = true ∨ l.abandons i = true) : ChangesRun l s s' := by
  obtain ⟨active, suffix, _, hactive, ⟨hknown, hanswered⟩, h⟩ := end_run_ok h
  exact close_run hactive hknown hanswered (List.forall_mem_nil _) (by simp [h]) (by rw [h])
    fun i hi => hl active i hactive hi

/-! ### The provider boundary -/

theorem begin_provider_call_run_change {intent : ProviderCallIntentV1} {input_tokens : Int}
    (h : begin_provider_call s intent input_tokens = .ok s') : ChangesRun l s s' := by
  obtain ⟨active, active', hactive, hstatus, _, hactive', h⟩ := begin_provider_call_ok h
  obtain ⟨hidle, _⟩ := no_provider_call active (by rw [hstatus]; decide)
    (by rw [hstatus]; decide)
  refine .begin_call active.val.core intent (by simp [ConversationState.run_log, h])
    (run_log_core hactive) hidle ?_
  rw [run_log_core (show s'.val.active_run = some active' by rw [h]), hactive']
  rfl

theorem record_provider_response_run_change {response : PersistedModelResponseV1}
    (h : record_provider_response s response = .ok s')
    (hl : l = .record_provider_response response) : ChangesRun l s s' := by
  obtain ⟨active, active', _, hactive, hactive', h⟩ := record_provider_response_ok h
  refine .respond active.val.core response (by simp [ConversationState.run_log, h])
    (run_log_core hactive) hl ?_
  rw [run_log_core (show s'.val.active_run = some active' by rw [h]), hactive']
  rfl

theorem consume_provider_response_run_change (h : consume_provider_response s = .ok s')
    (hl : l = .consume_provider_response) : ChangesRun l s s' := by
  obtain ⟨active, active', hactive, _, hstored, hactive', h⟩ := consume_provider_response_ok h
  refine .consume active.val.core (by simp [ConversationState.run_log, h])
    (run_log_core hactive) hstored hl ?_
  rw [run_log_core (show s'.val.active_run = some active' by rw [h]), hactive']
  rfl

theorem mark_model_outcome_unknown_run_change (h : mark_model_outcome_unknown s = .ok s') :
    ChangesRun l s s' := by
  obtain ⟨active, active', hactive, hactive', h⟩ := mark_model_outcome_unknown_ok h
  exact adjust_run hactive active' (by rw [h]) (by rw [h]) (by rw [hactive']; rfl)

theorem reject_persisted_response_run_change (h : reject_persisted_response s = .ok s') :
    ChangesRun l s s' := by
  obtain ⟨active, active', hactive, hactive', h⟩ := reject_persisted_response_ok h
  refine .reject active.val.core (by simp [ConversationState.run_log, h])
    (run_log_core hactive) ?_
  rw [run_log_core (show s'.val.active_run = some active' by rw [h]), hactive']
  rfl

/-! ### Tool batches -/

theorem calls_ne_nil {batch : ConversationFact} {calls : List ToolCall}
    (h : batch.batch_call_ids = some (calls.map fun c => c.val.tool_call_id)) : calls ≠ [] := by
  rintro rfl
  exact (ConversationFact.batch_call_ids_valid h).1 rfl

theorem start_tool_batch_run_change {calls : List ToolCall} {preamble : Option String}
    {continuation : Option ProviderContinuationV1}
    (h : start_tool_batch s calls preamble continuation = .ok s') (hl : l.starts_batch = true) :
    ChangesRun l s s' := by
  obtain ⟨active, active', batch, hactive, hstatus, hphase, hkind, hids, hactive', h⟩ :=
    start_tool_batch_ok h
  obtain ⟨hcalls, hintent⟩ := ActiveRun.of_model_phase hphase
  obtain ⟨hidle, _⟩ := no_provider_call active (by rw [hstatus]; decide)
    (by rw [hstatus]; decide)
  rw [ActiveRunFields.call_ids, hactive'] at hids
  refine .start active.val.core calls batch ⟨hkind, hids⟩ (calls_ne_nil hids)
    (by simp [ConversationState.run_log, h]) (run_log_core hactive) hintent hidle hl
    (.inl hcalls) ?_
  rw [run_log_core (show s'.val.active_run = some active' by rw [h]), hactive']
  rfl

theorem start_operator_tool_run_change {action : ExecuteOperatorTool}
    (h : start_operator_tool s action = .ok s') (hl : l.starts_batch = true)
    (hbare : l.starts_operator_tool = true ∨
      ∀ active, s.val.active_run = some active → active.val.phase = .model) :
    ChangesRun l s s' := by
  obtain ⟨active, active', batch, call, hactive, hkind, hids, hactive', h⟩ :=
    start_operator_tool_ok h
  have htool : active'.val.phase = .tool := by rw [hactive']
  have hintent : active.val.executing_intent = none := by
    have := (ActiveRun.of_tool_phase htool).2
    rwa [hactive'] at this
  have hidle : active.val.provider_call_intent = none := by
    by_contra hne
    have hsame : active'.val.provider_call_intent ≠ none := by rwa [hactive']
    have := (ActiveRun.of_provider_call hsame).2
    rw [htool] at this
    cases this
  rw [ActiveRunFields.call_ids, hactive'] at hids
  refine .start active.val.core [call] batch ⟨hkind, hids⟩ (by simp)
    (by simp [ConversationState.run_log, h]) (run_log_core hactive) hintent hidle hl ?_ ?_
  · rcases hbare with hbare | hmodel
    · exact .inr hbare
    · exact .inl (ActiveRun.of_model_phase (hmodel active hactive)).1
  · rw [run_log_core (show s'.val.active_run = some active' by rw [h]), hactive']
    rfl

theorem core_advance {r : ActiveRunFields} : r.advance.core = r.core.advance := rfl

theorem record_nonexecuted_tool_result_run_change {result : ConversationFact}
    (h : record_nonexecuted_tool_result s result = .ok s') : ChangesRun l s s' := by
  obtain ⟨active, active', call, hactive, _, hphase, hcall, hresult, hactive', h⟩ :=
    record_nonexecuted_tool_result_ok h
  have hintent := (ActiveRun.of_tool_phase hphase).2
  refine .answer active.val.core call result (by simp [Answers, hresult])
    (by simp [ConversationState.run_log, h]) (run_log_core hactive) hcall ?_ ?_
  · intro i hi
    rw [ActiveRunFields.core, hintent] at hi
    cases hi
  · rw [run_log_core (show s'.val.active_run = some active' by rw [h]), hactive']
    rfl

theorem record_tool_result_run_change {result : ConversationFact} {digest : String}
    (h : record_tool_result s result digest = .ok s')
    (hl : l = .record_tool_result result digest) : ChangesRun l s s' := by
  obtain ⟨active, active', intent, call, recorded, _, hactive, hintent, hdigest, hcall, hrecorded,
    hactive', h⟩ := record_tool_result_ok h
  refine .answer active.val.core call recorded (by simp [Answers, hrecorded])
    (by simp [ConversationState.run_log, h]) (run_log_core hactive) hcall ?_ ?_
  · intro i hi
    obtain rfl := Option.some.inj (hintent.symm.trans hi)
    simp [hl, Transition.resolves, hdigest]
  · rw [run_log_core (show s'.val.active_run = some active' by rw [h]), hactive']
    rfl

theorem current_call_id {r : ActiveRunFields} {call_id : String}
    (h : r.current_call_is call_id = true) : r.core.call_ids[r.batch_cursor]? = some call_id := by
  simp only [ActiveRunFields.current_call_is, ActiveRunFields.current_call,
    Option.any_eq_true, decide_eq_true_eq] at h
  obtain ⟨c, hc, rfl⟩ := h
  simp [RunCore.call_ids, ActiveRunFields.core, hc]

theorem mark_executing_run_change {r : ExecutionRequest} (h : mark_executing s r = .ok s')
    (hl : l = .mark_executing r) : ChangesRun l s s' := by
  obtain ⟨active, active', record, _, _, _, _, hactive, _, _, hidle, hcall, hrecord, hactive', _,
    _, h⟩ := mark_executing_ok h
  refine .mark active.val.core record (by simp [ConversationState.run_log, h])
    (run_log_core hactive) hidle ?_ ?_ ?_
  · rw [hrecord]
    exact current_call_id hcall
  · simp [hl, Transition.marked_call, hrecord]
  · rw [run_log_core (show s'.val.active_run = some active' by rw [h]), hactive']
    rfl

theorem append_policy_result_run_change {code message : String}
    (h : append_policy_result s code message = .ok s') (hl : l.appends_policy = true) :
    ChangesRun l s s' := by
  obtain ⟨_, fact, _, hfact, h⟩ := append_policy_result_ok h
  exact .note [fact] (notes_singleton (note_of_kind hfact (by decide) (by decide)))
    (by simp [ConversationState.run_log, h]) (by simp [ConversationState.run_log, h])
    (.inr (.inr hl))

theorem apply_compaction_summary_run_change {summary : ConversationSummaryV1}
    {removable : List String} {scope : Option ProviderConsentScopeV1}
    (h : apply_compaction_summary s summary removable scope = .ok s') (hl : l.compacts = true) :
    ChangesRun l s s' := by
  obtain ⟨_, _, _, _, _, _, _, _, h⟩ := apply_compaction_summary_ok h
  exact .compact hl (by simp [ConversationState.run_log, h])

end Transitions
