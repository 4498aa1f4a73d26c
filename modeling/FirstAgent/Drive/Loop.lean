import FirstAgent.Framework.Streak
import FirstAgent.State.System

/-! # The Drive Loop

    One invocation drives the active run: at the head of the loop it takes a
    tool result, a compaction batch or an answer of the model, and either comes
    back to the head or returns.  An iteration that comes back is a step of
    the loop; what an invocation does on its way out is `leave`, and the
    conversation goes on between invocations.

    Two repair counters live in the loop only.  When an invocation enters the
    loop they are rebuilt from the policy results of the run. -/

open Fallible

/-! ### The counters, rebuilt -/

/-- `_INVALID_REPAIR_POLICY_CODES`. -/
def INVALID_REPAIR_POLICY_CODES : List String := [
  "invalid_provider_response",
  "invalid_model_output",
  "invalid_model_control",
  "invalid_goal_proposal",
  "invalid_goal_delta",
  "unadvertised_tool",
  "paused_goal_requires_resume",
  "explicit_non_prose_outcome_requires_goal",
  "active_goal_requires_control"]

/-- `_STALL_TRANSPARENT_POLICY_CODES`. -/
def STALL_TRANSPARENT_POLICY_CODES : List String := [
  "provider_transient_retry",
  "no_progress_replan_required"]

/-- A policy result of this run: the kind, and an id under the run's stem. -/
def is_policy_of (run_id : String) (f : ConversationFact) : Bool :=
  PyText.startswith f.val.fact_id ("run:" ++ run_id ++ ":policy:") &&
    f.val.kind = .policy_result

/-- What a policy code says about the repairs that are in a row. -/
def code_verdict (code : Json) : Verdict :=
  if code.str?.any INVALID_REPAIR_POLICY_CODES.contains then .counts
  else if code.str?.any STALL_TRANSPARENT_POLICY_CODES.contains then .passes
  else .breaks

/-- The same for a fact; anything but a policy result of the run breaks the row. -/
def repair_verdict (run_id : String) (f : ConversationFact) : Py Verdict :=
  if is_policy_of run_id f = false then pure .breaks
  else do
    (f.val.content.get "code").require_hashable
    pure (code_verdict (f.val.content.get "code"))

/-- `_run_invalid_repairs`. -/
def run_invalid_repairs (s : ConversationState) : Py Nat :=
  match s.val.active_run with
  | none        => pure 0
  | some active => streak (repair_verdict active.val.run_id) s.val.facts.reverse

/-- A recorded retry of this run. -/
def is_transient_retry_of (run_id : String) (f : ConversationFact) : Bool :=
  is_policy_of run_id f && f.val.content.get "code" = .str "provider_transient_retry"

/-- `_run_transient_retries`. -/
def run_transient_retries (s : ConversationState) : Nat :=
  match s.val.active_run with
  | none        => 0
  | some active => s.val.facts.countP (is_transient_retry_of active.val.run_id)

/-! ### The loop head -/

/-- The limits of an invocation on repairs. -/
structure InvocationLimits where
  max_invalid_repairs : Nat := 1
  max_retryable_provider_retries : Nat := 0

/-- What the loop holds at its head. -/
structure DriveLoop where
  state : ConversationState
  invalid_repairs : Nat
  retryable_provider_retries : Nat

/-- The counters of an invocation that enters the loop. -/
def drive_entry (s : ConversationState) : Py DriveLoop := do
  let invalid_repairs ← run_invalid_repairs s
  pure {
    state := s
    invalid_repairs := invalid_repairs
    retryable_provider_retries := run_transient_retries s }

/-! ### What an iteration meets -/

namespace Transition

/-- What is saved around one provider call: the consent it spends, the attempt
    and, in the background, its intent and its response. -/
def is_attempt : Transition → Bool
  | .invalidate_provider_consent | .charge_consent_grant | .consume_disclosure_receipt _ => true
  | .record_foreground_model_attempt _ | .begin_provider_call .. => true
  | .record_provider_response _ | .consume_provider_response => true
  | _ => false

/-- The criteria a tool result may bring with it. -/
def is_receipt_admission : Transition → Bool
  | .admit_process_receipt_criterion .. | .admit_sandbox_receipt_criterion .. => true
  | .admit_governed_tool_receipt_criterion .. | .admit_web_source_criterion .. => true
  | _ => false

/-- Only the loop appends policy results and compacts. -/
def is_loop_only : Transition → Bool
  | .append_policy_result .. | .apply_compaction_summary .. => true
  | _ => false

end Transition

/-- The result of the current call. -/
inductive CallOutcome where
  /-- A duplicate, or refused before it started. -/
  | not_executed (result : ConversationFact)
  /-- Executed: what is saved before the effect, the result, and the criteria
      it is evidence for. -/
  | executed (takeover : Option BrowserTakeoverRequestV1) (request : ExecutionRequest)
      (result : ConversationFact) (admissions : List Transition)

namespace CallOutcome

def admissions : CallOutcome → List Transition
  | .not_executed _     => []
  | .executed _ _ _ ts  => ts

/-- The transitions of the result, in the order they are saved. -/
def saves : CallOutcome → List Transition
  | .not_executed result => [.record_nonexecuted_tool_result result]
  | .executed takeover request result admissions =>
    (takeover.toList.map fun t => .begin_browser_takeover t) ++
      [.mark_executing request, .record_tool_result result request.intent.intent_digest] ++
      admissions

end CallOutcome

/-- An answer that is refused before anything is tried with it. -/
inductive UntriedAnswer where
  /-- A control of a kind the context does not offer. -/
  | unavailable_control
  | paused_goal
  /-- Neither text nor a tool call. -/
  | empty_output
  /-- Final text where the outcome is not text. -/
  | prose_for_outcome
  /-- Final text while the Goal is open. -/
  | prose_for_goal
  deriving Repr, DecidableEq

def UntriedAnswer.code : UntriedAnswer → String
  | .unavailable_control => "invalid_model_control"
  | .paused_goal         => "paused_goal_requires_resume"
  | .empty_output        => "invalid_model_output"
  | .prose_for_outcome   => "explicit_non_prose_outcome_requires_goal"
  | .prose_for_goal      => "active_goal_requires_control"

/-- A control whose reducer decides. -/
inductive TriedControl where
  | clarification_request (request : ClarificationRequest)
  | begin_answer (request : BeginAnswer)
  | goal_proposal (proposal : GoalDraftProposal) (bootstrap : Option GoalBootstrap)
      (admitted_at : String)
  | goal_progress (progress : GoalProgress)
  | goal_delta_proposal (proposal : GoalDeltaProposal)
  | blocked_claim (claim : BlockedClaim)

namespace TriedControl

/-- The code of a rejected control. -/
def code : TriedControl → String
  | .goal_proposal ..       => "invalid_goal_proposal"
  | .goal_delta_proposal .. => "invalid_goal_delta"
  | _                       => "invalid_model_control"

/-- An accepted control of this kind comes back to the head of the loop; the
    others complete the run. -/
def continues : TriedControl → Bool
  | .clarification_request _ | .blocked_claim _ => false
  | _                                           => true

def accept (rules : TextRules) (s : ConversationState) : TriedControl → Py ConversationState
  | .clarification_request request => accept_clarification_request s request
  | .begin_answer request => accept_begin_answer s request
  | .goal_proposal proposal bootstrap admitted_at =>
    accept_goal_draft_proposal rules s proposal bootstrap admitted_at
  | .goal_progress progress => record_goal_progress s progress
  | .goal_delta_proposal proposal => accept_goal_delta_proposal rules s proposal
  | .blocked_claim claim => accept_blocked_claim s claim

end TriedControl

/-- Feedback that is no repair. -/
inductive Feedback where
  | clarification_requires_discovery
  | blocked_claim_not_verified
  | completion_evidence_available
  deriving Repr, DecidableEq

def Feedback.code : Feedback → String
  | .clarification_requires_discovery => "clarification_requires_discovery"
  | .blocked_claim_not_verified       => "blocked_claim_not_verified"
  | .completion_evidence_available    => "completion_evidence_available"

/-- What the loop makes of an answer of the model, up to the texts it writes
    back.  `derived` is what the evidence registry found for a completion
    claim, without the records that are stored already. -/
inductive ModelAnswer where
  | untried (answer : UntriedAnswer)
  | tried (control : TriedControl)
  /-- Progress that is not offered, or that no product action stands behind. -/
  | stalled_progress
  | noop_goal_delta (proposal : GoalDeltaProposal)
  | feedback (feedback : Feedback)
  | completion_claim (claim : CompletionClaim) (derived : Option (List EvidenceRecord))
  | unadvertised_tool
  | tool_batch (calls : List ToolCall) (preamble : Option String)
      (continuation : Option ProviderContinuationV1)

/-- One way through the loop that comes back to its head. -/
inductive DriveStep where
  /-- A call is answered; after the last one the loop may ask for a new plan. -/
  | tool_result (outcome : CallOutcome) (replan : Option String)
  | compaction (attempt : List Transition) (summary : ConversationSummaryV1)
      (removable_fact_ids : List String) (source_scope : Option ProviderConsentScopeV1)
  /-- `InvalidProviderResponseError`. -/
  | invalid_response (attempt : List Transition) (message : String)
  /-- `RetryableProviderError` of a kind that is safe to retry. -/
  | transient_failure (attempt : List Transition) (message : String)
  | answered (attempt : List Transition) (answer : ModelAnswer) (message : String)

/-! ### The iterations -/

/-- `except ValueError`. -/
def PyError.is_value_error : PyError → Bool
  | .value_error _ | .goal_revision_conflict _ | .compaction_ineligible_history _ => true
  | .type_error _ | .overflow_error _                                             => false

/-- The loop would not come back to its head. -/
def not_continued : PyError := .value_error "the invocation returns"

/-- The transitions of a provider call. -/
def make_attempt (rules : TextRules) (s : ConversationState) (attempt : List Transition) :
    Py ConversationState := do
  refuse (attempt.all Transition.is_attempt = false) not_continued
  (conversation_system rules).run s attempt

/-- A policy result for the model; the counters stay. -/
def give_feedback (l : DriveLoop) (code message : String) : Py DriveLoop := do
  let s ← append_policy_result l.state code message
  pure { l with state := s }

/-- One repair of the allowance; without allowance the run fails. -/
def repair (limits : InvocationLimits) (l : DriveLoop) (code message : String) :
    Py DriveLoop := do
  refuse (limits.max_invalid_repairs ≤ l.invalid_repairs) not_continued
  give_feedback { l with invalid_repairs := l.invalid_repairs + 1 } code message

/-- Save what the reducer returns, or repair what it rejects. -/
def try_reducer (limits : InvocationLimits) (l : DriveLoop) (code message : String)
    (accepted : ConversationState → Py DriveLoop) : Py ConversationState → Py DriveLoop
  | .ok s    => accepted s
  | .error e => if e.is_value_error then repair limits l code message else .error e

/-- The reducers of a completion claim; each is saved before the next.  A
    verified claim completes the run. -/
def claim_completion (rules : TextRules) (limits : InvocationLimits) (l : DriveLoop)
    (claim : CompletionClaim) (records : List EvidenceRecord) (message : String) : Py DriveLoop :=
  let code := "invalid_model_control"
  try_reducer limits l code message (fun s₁ =>
      let l₁ := { l with state := s₁ }
      try_reducer limits l₁ code message (fun s₂ =>
          let l₂ := { l with state := s₂ }
          try_reducer limits l₂ code message (fun _ => .error not_continued)
            (verify_goal_completion rules s₂))
        (record_completion_claim s₁ claim))
    (if records = [] then pure l.state else record_evidence l.state records)

/-- What follows a usable answer. -/
def take_answer (rules : TextRules) (limits : InvocationLimits) (l : DriveLoop)
    (message : String) : ModelAnswer → Py DriveLoop
  | .untried answer => repair limits l answer.code message
  | .tried control =>
    try_reducer limits l control.code message (fun s => do
        refuse (control.continues = false) not_continued
        pure { l with state := s, invalid_repairs := 0 })
      (control.accept rules l.state)
  | .stalled_progress => give_feedback l "no_progress_replan_required" message
  | .noop_goal_delta proposal =>
    try_reducer limits l "invalid_goal_delta" message
      (fun s => give_feedback { l with state := s } "no_progress_replan_required" message)
      (acknowledge_noop_goal_delta l.state proposal)
  | .feedback feedback => give_feedback l feedback.code message
  | .completion_claim _ none => give_feedback l "completion_not_verified" message
  | .completion_claim claim (some records) =>
    claim_completion rules limits l claim records message
  | .unadvertised_tool => give_feedback l "unadvertised_tool" message
  | .tool_batch calls preamble continuation => do
    let s ← start_tool_batch l.state calls preamble continuation
    pure { l with state := s, invalid_repairs := 0 }

/-- The call is the last one of its batch. -/
def tool_batch_is_complete (active : ActiveRun) : Bool :=
  active.val.batch_cursor + 1 = active.val.tool_calls.length

/-- The phase an iteration begins in. -/
def require_phase (s : ConversationState) (phase : ContinuationPhase) : Py ActiveRun := do
  let active ← expect s.val.active_run not_continued
  refuse (active.val.phase ≠ phase) not_continued
  pure active

/-- The body of the loop. -/
def drive_step (rules : TextRules) (limits : InvocationLimits) (l : DriveLoop) :
    DriveStep → Py DriveLoop
  | .tool_result outcome replan => do
    let active ← require_phase l.state .tool
    refuse (outcome.admissions.all Transition.is_receipt_admission = false) not_continued
    let s ← (conversation_system rules).run l.state outcome.saves
    match replan with
    | none         => pure { l with state := s }
    | some message => do
      refuse (tool_batch_is_complete active = false) not_continued
      give_feedback { l with state := s } "no_progress_replan_required" message
  | .compaction attempt summary removable_fact_ids source_scope => do
    let _ ← require_phase l.state .model
    let s ← make_attempt rules l.state attempt
    let s ← apply_compaction_summary s summary removable_fact_ids source_scope
    pure { l with state := s }
  | .invalid_response attempt message => do
    let _ ← require_phase l.state .model
    let s ← make_attempt rules l.state attempt
    repair limits { l with state := s } "invalid_provider_response" message
  | .transient_failure attempt message => do
    let _ ← require_phase l.state .model
    let s ← make_attempt rules l.state attempt
    refuse (limits.max_retryable_provider_retries ≤ l.retryable_provider_retries) not_continued
    give_feedback { l with
      state := s
      retryable_provider_retries := l.retryable_provider_retries + 1 }
      "provider_transient_retry" message
  | .answered attempt answer message => do
    let _ ← require_phase l.state .model
    let s ← make_attempt rules l.state attempt
    -- a usable answer sets the retries of the loop back
    take_answer rules limits { l with state := s, retryable_provider_retries := 0 } message answer

/-! ### Invocations -/

/-- A conversation between invocations, or driven by one. -/
inductive Invocation where
  | idle (s : ConversationState)
  | driving (l : DriveLoop)

inductive InvocationStep where
  /-- A transition outside the loop: an action, its result, the claim of the
      run. -/
  | between (t : Transition)
  | enter
  | iterate (step : DriveStep)
  /-- The invocation returns or is lost; what it saves on its way out. -/
  | leave (saves : List Transition)

def invocation_step (rules : TextRules) (limits : InvocationLimits) :
    Invocation → InvocationStep → Py Invocation
  | .idle s, .between t => do
    refuse (t.is_loop_only = true) not_continued
    let s ← transition_step rules s t
    pure (.idle s)
  | .idle s, .enter => do
    let l ← drive_entry s
    pure (.driving l)
  | .driving l, .iterate step => do
    let l ← drive_step rules limits l step
    pure (.driving l)
  | .driving l, .leave saves => do
    refuse (saves.any Transition.is_loop_only = true) not_continued
    let s ← (conversation_system rules).run l.state saves
    pure (.idle s)
  | _, _ => .error not_continued

/-- A conversation with its invocations. -/
def drive_system (rules : TextRules) (limits : InvocationLimits) :
    System PyError Invocation InvocationStep where
  step := invocation_step rules limits
