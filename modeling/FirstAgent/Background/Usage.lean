import FirstAgent.Invariants.RunSteps

/-! # What a Background Run Has Used

    The budgets of an occurrence are counted on its active run.  A transition
    leaves the counters as they are, ends the run with them, starts a run
    with none, or charges one call or one execution. -/

open Fallible

/-! ### Counters -/

/-- The counters the budgets are tested on. -/
structure RunUsage where
  model_calls : Nat := 0
  input_tokens : Nat := 0
  tool_calls : Nat := 0
  sandbox_commands : Nat := 0
  browser_actions : Nat := 0
  deriving Repr, DecidableEq

def ActiveRunFields.usage (r : ActiveRunFields) : RunUsage where
  model_calls := r.model_calls_used
  input_tokens := r.input_tokens_used
  tool_calls := r.tool_calls_used
  sandbox_commands := r.sandbox_commands_used
  browser_actions := r.browser_actions_used

/-- The budgets of the occurrence and what its run has used of them. -/
structure Spending where
  binding : Option BackgroundOccurrenceBindingV1
  usage : Option RunUsage

def ConversationState.spending (s : ConversationState) : Spending where
  binding := s.val.background_occurrence_binding
  usage := s.val.active_run.map fun r => r.val.usage

/-- The counters once a provider call is charged. -/
def RunUsage.call (u : RunUsage) (input_tokens : Int) : RunUsage :=
  { u with
    model_calls := u.model_calls + 1
    input_tokens := u.input_tokens + input_tokens.toNat }

/-- The counters once a call of this authority executes. -/
def RunUsage.execute (u : RunUsage) (authority : ExecutionAuthorityClass) : RunUsage :=
  { u with
    tool_calls := u.tool_calls + 1
    sandbox_commands := u.sandbox_commands + (decide (authority = .isolated_sandbox)).toNat
    browser_actions := u.browser_actions + (decide (authority = .browser_session)).toNat }

/-- The counters once a label is taken. -/
def RunUsage.charged (u : RunUsage) : Transition → RunUsage
  | .begin_provider_call _ input_tokens => u.call input_tokens
  | .mark_executing r                   => u.execute r.intent.execution_authority
  | _                                   => u

/-! ### Labels -/

namespace Transition

/-- The label charges a provider call. -/
def calls_provider : Transition → Bool
  | .begin_provider_call .. => true
  | _                       => false

/-- The label executes a tool call. -/
def executes : Transition → Bool
  | .mark_executing _ => true
  | _                 => false

/-- The label executes a tool call of this authority. -/
def executes_with (authority : ExecutionAuthorityClass) : Transition → Bool
  | .mark_executing r => r.intent.execution_authority = authority
  | _                 => false

/-- The input tokens a label charges. -/
def input_tokens : Transition → Nat
  | .begin_provider_call _ input_tokens => input_tokens.toNat
  | _                                   => 0

/-- The budget ordinal of an execution of this class. -/
def budget_ordinal (action_class : String) : Transition → Option Int
  | .mark_executing r => r.background_action_authority.bind fun a =>
    if a.val.action_class = action_class then some a.val.budget_ordinal else none
  | _ => none

/-- The label spends from a budget. -/
def spends (l : Transition) : Bool := l.calls_provider || l.executes

end Transition

/-- The step starts a run with fresh counters: a message, or a disclosure
    decision where the run was stopped. -/
def starts_run (s : ConversationState) : Transition → Bool
  | .accept_action _ action _ _ =>
    match action.body with
    | .submit_message .. => true
    | .acknowledge_provider_disclosure _ => s.val.active_run.isNone
    | .grant_provider_consent _ => s.val.active_run.isNone
    | .grant_provider_workspace_read_consent _ => s.val.active_run.isNone
    | _ => false
  | .acknowledge_provider_disclosure .. => s.val.active_run.isNone
  | .grant_provider_consent .. => s.val.active_run.isNone
  | .grant_provider_workspace_read_consent .. => s.val.active_run.isNone
  | _ => false

/-! ### Changes -/

/-- The execution is inside the budgets the counters leave, and a background
    authority carries the next number of its class. -/
def WithinBudgets (binding : BackgroundOccurrenceBindingV1) (u : RunUsage)
    (r : ExecutionRequest) : Prop :=
  (u.tool_calls : Int) < binding.val.tool_call_limit ∧
  (r.intent.execution_authority = .isolated_sandbox →
    (u.sandbox_commands : Int) < binding.val.sandbox_command_limit) ∧
  (r.intent.execution_authority = .browser_session →
    (u.browser_actions : Int) < binding.val.browser_action_limit) ∧
  ∀ a, r.background_action_authority = some a →
    (r.intent.execution_authority = .isolated_sandbox ∧ a.val.action_class = "sandbox_confined" ∧
      a.val.budget_ordinal = (u.sandbox_commands + 1 : Nat)) ∨
    (r.intent.execution_authority = .browser_session ∧
      a.val.action_class = "browser_public_observe" ∧
      a.val.budget_ordinal = (u.browser_actions + 1 : Nat))

/-- What a transition that spends nothing may do to the counters. -/
inductive UsageChange (starts : Bool) (v v' : Spending) : Prop where
  | keep (hview : v' = v)
  | stop (hview : v' = { v with usage := none })
  | start (hstarts : starts = true) (hbinding : v'.binding = v.binding)
      (husage : v'.usage = some {})
  /-- Without budgets only the foreground counts. -/
  | foreground (hbinding : v.binding = none) (hafter : v'.binding = none)

/-- The change a step makes. -/
def ChangesUsage (l : Transition) (s s' : ConversationState) : Prop :=
  UsageChange (starts_run s l) s.spending s'.spending

section Changes

variable {rules : TextRules} {l : Transition} {s s' : ConversationState} {starts : Bool}
  {active active' : ActiveRun}

theorem spending_of (hbinding : s'.val.background_occurrence_binding =
      s.val.background_occurrence_binding) (hrun : s'.val.active_run = s.val.active_run) :
    UsageChange starts s.spending s'.spending :=
  .keep (by simp [ConversationState.spending, hbinding, hrun])

/-- The run changes, but not its counters. -/
theorem spending_run (hactive : s.val.active_run = some active)
    (hbinding : s'.val.background_occurrence_binding = s.val.background_occurrence_binding)
    (hactive' : s'.val.active_run = some active') (husage : active'.val.usage = active.val.usage) :
    UsageChange starts s.spending s'.spending :=
  .keep (by simp [ConversationState.spending, hbinding, hactive, hactive', husage])

theorem spending_stop (hbinding : s'.val.background_occurrence_binding =
      s.val.background_occurrence_binding) (hrun : s'.val.active_run = none) :
    UsageChange starts s.spending s'.spending :=
  .stop (by simp [ConversationState.spending, hbinding, hrun])

theorem admission_step.usage_change (h : admission_step s s') :
    UsageChange starts s.spending s'.spending := by
  rcases h with rfl | ⟨_, _, _, _, _, _, _, h⟩
  · exact .keep rfl
  · exact spending_of (by rw [h]) (by rw [h])

/-- A continued run keeps its counters; a stopped one begins anew. -/
theorem continue_usage_change {goal : Option GoalFrame}
    (hcontinues : ContinuesRun s goal active')
    (hstarts : s.val.active_run = none → starts = true)
    (hbinding : s'.val.background_occurrence_binding = s.val.background_occurrence_binding)
    (hactive' : s'.val.active_run = some active') :
    UsageChange starts s.spending s'.spending := by
  rcases hcontinues with ⟨hnone, _, _, hfresh⟩ | ⟨active, hactive, _, _, hrun⟩
  · refine .start (hstarts hnone) hbinding ?_
    simp [ConversationState.spending, hactive', hfresh, ActiveRunFields.usage]
  · exact spending_run hactive hbinding hactive' (by rw [hrun]; rfl)

theorem pause_goal_usage_change {goal_id : String} {revision : Int}
    (h : pause_goal s goal_id revision = .ok s') : UsageChange starts s.spending s'.spending := by
  obtain ⟨_, _, _, _, _, _, _, h⟩ := pause_goal_ok h
  exact spending_stop (by rw [h]) (by rw [h])

theorem cancel_goal_usage_change {goal_id : String} {revision : Int}
    (h : cancel_goal s goal_id revision = .ok s') :
    UsageChange starts s.spending s'.spending := by
  obtain ⟨_, _, _, _, _, _, _, h⟩ := cancel_goal_ok h
  exact spending_stop (by rw [h]) (by rw [h])

theorem apply_control_request_usage_change {request : ControlInboxRequest}
    (h : apply_control_request s request = .ok s') :
    UsageChange starts s.spending s'.spending := by
  obtain ⟨_, _, updated, _, _, _, _, hupdated, h⟩ := apply_control_request_ok h
  have hview : s'.spending = updated.spending := by simp [ConversationState.spending, h]
  rw [hview]
  split at hupdated
  · exact pause_goal_usage_change hupdated
  · exact cancel_goal_usage_change hupdated
  · obtain ⟨_, _, _, _, _, _, _, hu⟩ := correct_goal_ok hupdated
    exact spending_stop (by rw [hu]) (by rw [hu])

theorem revoke_provider_consent_usage_change (h : revoke_provider_consent s = .ok s') :
    UsageChange starts s.spending s'.spending := by
  obtain ⟨active', _, ⟨hnone, rfl⟩ | ⟨active, a, hactive, rfl, hrelease⟩, h⟩ :=
    revoke_provider_consent_ok h
  · exact spending_of (by rw [h]) (by rw [h, hnone])
  · refine spending_run hactive (by rw [h]) (show s'.val.active_run = some a by rw [h]) ?_
    rcases release_disclosure_ok hrelease with rfl | ⟨_, ha⟩
    · rfl
    · rw [ha]
      rfl

theorem begin_browser_takeover_usage_change {request : BrowserTakeoverRequestV1}
    (h : begin_browser_takeover s request = .ok s') :
    UsageChange starts s.spending s'.spending := by
  obtain ⟨_, active', _, _, _, ⟨hnone, rfl⟩ | ⟨active, a, hactive, rfl, ha⟩, h⟩ :=
    begin_browser_takeover_ok h
  · exact spending_of (by rw [h]) (by rw [h, hnone])
  · exact spending_run hactive (by rw [h]) (show s'.val.active_run = some a by rw [h])
      (by rw [ha]; rfl)

theorem end_run_usage_change {status : RunStatus} {code message : String}
    (h : end_run s status code message = .ok s') :
    UsageChange starts s.spending s'.spending := by
  obtain ⟨_, _, _, _, _, h⟩ := end_run_ok h
  exact spending_stop (by rw [h]) (by rw [h])

theorem start_operator_tool_usage_change {action : ExecuteOperatorTool}
    (h : start_operator_tool s action = .ok s') :
    UsageChange starts s.spending s'.spending := by
  obtain ⟨active, active', _, _, hactive, _, _, hactive', h⟩ := start_operator_tool_ok h
  exact spending_run hactive (by rw [h]) (show s'.val.active_run = some active' by rw [h])
    (by rw [hactive']; rfl)

theorem approve_request_usage_change {pending : ApprovalRequest} {seq : Int} {digest : String}
    {a : ResolveApproval} (hactive : s.val.active_run = some active)
    (h : approve_request rules s active pending seq digest a = .ok s') :
    UsageChange starts s.spending s'.spending := by
  obtain ⟨active', t₁, t₂, _, _, ⟨_, _, hactive'⟩, ⟨_, _, s₁, h₁, hs₁⟩, h₂, h₃⟩ :=
    approve_request_ok h
  have hstep : ∀ {t u : ConversationState}, admission_step t u → u.spending = t.spending := by
    rintro t u (rfl | ⟨_, _, _, _, _, _, _, hu⟩)
    · rfl
    · simp [ConversationState.spending, hu]
  have hmint : t₂.spending = t₁.spending := by
    rcases h₂ with ⟨_, _, h₂⟩ | ⟨_, _, _, _, _, _, h₂⟩ <;> simp [ConversationState.spending, h₂]
  refine .keep ?_
  rw [hstep h₃, hmint, hstep h₁]
  simp [ConversationState.spending, hs₁, hactive, hactive', ActiveRunFields.usage]

/-! ### What is charged -/

/-- A provider call is charged to the run. -/
theorem begin_provider_call_charges {intent : ProviderCallIntentV1} {input_tokens : Int}
    (h : begin_provider_call s intent input_tokens = .ok s') :
    ∃ u, s.spending.usage = some u ∧
      s'.spending = { s.spending with usage := some (u.call input_tokens) } := by
  obtain ⟨active, active', hactive, _, _, hactive', h⟩ := begin_provider_call_ok h
  refine ⟨active.val.usage, ?_, ?_⟩
  · simp [ConversationState.spending, hactive]
  · simp [ConversationState.spending, h, hactive', ActiveRunFields.usage, RunUsage.call]

theorem check_background_ok {r : ExecutionRequest} {binding : BackgroundOccurrenceBindingV1}
    (hbinding : s.val.background_occurrence_binding = some binding)
    (h : check_background s active r = .ok ()) : WithinBudgets binding active.val.usage r := by
  simp only [check_background, hbinding, bind_eq_ok, Py.refuse_value_eq_ok, not_le] at h
  obtain ⟨_, htools, _, hclass, hauthority⟩ := h
  refine ⟨htools, ?_, ?_, ?_⟩
  · intro hsandbox
    simp only [hsandbox, background_budget, Option.any_some, decide_eq_true_eq, not_le] at hclass
    exact hclass
  · intro hbrowser
    simp only [hbrowser, background_budget, Option.any_some, decide_eq_true_eq, not_le] at hclass
    exact hclass
  · intro a ha
    simp only [ha, Option.any_some, Bool.not_eq_true', Bool.not_eq_false] at hauthority
    cases hkind : r.intent.execution_authority <;>
      simp only [hkind, background_budget, background_authority_binds, Option.any_some,
        Option.any_none, Bool.and_eq_true, decide_eq_true_eq, Bool.false_eq_true] at hauthority
    case isolated_sandbox => exact .inl ⟨rfl, hauthority.1.2, hauthority.2⟩
    case browser_session => exact .inr ⟨rfl, hauthority.1.2, hauthority.2⟩

/-- An execution of an occurrence is inside the budgets and charged to the
    run. -/
theorem mark_executing_charges {r : ExecutionRequest} {binding : BackgroundOccurrenceBindingV1}
    (hbinding : s.val.background_occurrence_binding = some binding)
    (h : mark_executing s r = .ok s') :
    ∃ u, s.spending.usage = some u ∧ WithinBudgets binding u r ∧
      s'.spending = { s.spending with
        usage := some (u.execute r.intent.execution_authority) } := by
  obtain ⟨active, active', record, _, _, _, _, hactive, _, _, _, _, hrecord, hactive', _, _,
    hs'⟩ := mark_executing_ok h
  simp only [mark_executing, require_run, bind_eq_ok, Py.expect_value_eq_ok] at h
  obtain ⟨_, _, run, hrun, _, _, _, _, _, hbackground, _⟩ := h
  obtain rfl : active = run := Option.some.inj (hactive.symm.trans hrun)
  refine ⟨active.val.usage, ?_, check_background_ok hbinding hbackground, ?_⟩
  · simp [ConversationState.spending, hactive]
  · simp [ConversationState.spending, hs', hactive', executing_run, hbinding,
      ActiveRunFields.usage, RunUsage.execute, hrecord]

/-! ### Actions -/

theorem apply_action_usage_change {clock : String} {action : RuntimeAction}
    {max_replay_records : Int} {now : Option String}
    (h : apply_action rules clock s action now = .ok s') :
    ChangesUsage (.accept_action clock action max_replay_records now) s s' := by
  unfold apply_action at h
  unfold ChangesUsage
  cases hbody : action.body <;>
    simp only [hbody, bind_eq_ok, Py.expect_value_eq_ok, Checked.make_eq_ok, pure_eq_ok,
      revoke_process_authority] at h
  case acknowledge_provider_disclosure =>
    obtain ⟨_, active', _, hcontinues, h⟩ := acknowledge_provider_disclosure_ok h
    refine continue_usage_change hcontinues ?_ (by rw [h]) (by rw [h])
    intro hnone
    simp [starts_run, hbody, hnone]
  case grant_provider_consent =>
    obtain ⟨_, active', _, hcontinues, h⟩ := grant_provider_consent_ok h
    refine continue_usage_change hcontinues ?_ (by rw [h]) (by rw [h])
    intro hnone
    simp [starts_run, hbody, hnone]
  case grant_provider_workspace_read_consent =>
    obtain ⟨_, active', _, hcontinues, h⟩ := grant_provider_workspace_read_consent_ok h
    refine continue_usage_change hcontinues ?_ (by rw [h]) (by rw [h])
    intro hnone
    simp [starts_run, hbody, hnone]
  case revoke_provider_consent => exact revoke_provider_consent_usage_change h
  case submit_message =>
    obtain ⟨_, _, active', _, _, hactive', h⟩ := submit_message_ok h
    refine .start (by simp [starts_run, hbody]) (by simp [ConversationState.spending, h]) ?_
    simp [ConversationState.spending, h, hactive', ActiveRunFields.usage]
  case resolve_approval =>
    obtain ⟨active, hactive, h⟩ := h
    simp only [resolve_approval, bind_eq_ok, Py.expect_value_eq_ok, ite_eq_ok] at h
    obtain ⟨pending, _, ⟨_, h⟩ | ⟨_, h⟩⟩ := h
    · exact approve_request_usage_change hactive h
    · obtain ⟨_, _, _, _, _, h⟩ := decline_request_ok h
      exact spending_stop (by rw [h]) (by rw [h])
  case resolve_unknown_tool_outcome =>
    obtain ⟨active, hactive, h⟩ := h
    obtain ⟨_, _, active', _, _, hactive', h⟩ := resolve_unknown_tool_outcome_ok h
    exact spending_run hactive (by rw [h]) (show s'.val.active_run = some active' by rw [h])
      (by rw [hactive']; rfl)
  case recover_unknown_observation =>
    obtain ⟨active, hactive, h⟩ := h
    obtain ⟨_, _, active', _, _, hactive', h⟩ := recover_unknown_observation_ok h
    exact spending_run hactive (by rw [h]) (show s'.val.active_run = some active' by rw [h])
      (by rw [hactive']; rfl)
  case abandon_unknown_model_outcome => exact end_run_usage_change h
  case resume =>
    obtain ⟨active, hactive, h⟩ := h
    rcases resume_run_ok h with rfl | ⟨active', hactive', h⟩
    · exact .keep rfl
    · exact spending_run hactive (by rw [h]) (show s'.val.active_run = some active' by rw [h])
        (by rw [hactive']; rfl)
  case cancel_run =>
    obtain ⟨_, _, h⟩ := h
    obtain ⟨_, _, _, h⟩ := cancel_run_ok h
    exact spending_stop (by rw [h]) (by rw [h])
  case select_goal =>
    obtain ⟨_, _, h⟩ := h
    cases h
  case pause_goal => exact pause_goal_usage_change h
  case resume_goal =>
    obtain ⟨_, _, _, _, _, h⟩ := resume_goal_ok h
    exact spending_of (by rw [h]) (by rw [h])
  case cancel_goal => exact cancel_goal_usage_change h
  case confirm_criterion =>
    obtain ⟨_, _, _, h⟩ := confirm_criterion_ok h
    exact spending_of (by rw [h]) (by rw [h])
  case revoke_process_authority => exact spending_of (by rw [h]) (by rw [h])
  case revoke_goal_target_authority => exact spending_of (by rw [h]) (by rw [h])
  case complete_browser_takeover =>
    obtain ⟨_, h, rfl⟩ := h
    have h := complete_browser_takeover_ok h
    exact spending_of (by rw [h]) (by rw [h])
  case cancel_browser_takeover =>
    have h := cancel_browser_takeover_ok h
    exact spending_of (by rw [h]) (by rw [h])
  case execute_operator_tool => exact start_operator_tool_usage_change h

/-- Healing and counting an action leave the run to the action itself. -/
theorem accept_action_usage_change {clock : String} {action : RuntimeAction}
    {max_replay_records : Int} {now : Option String}
    {healed with_replay applied : ConversationState}
    (ha : Accepts rules clock s action max_replay_records now healed with_replay applied s') :
    ChangesUsage (.accept_action clock action max_replay_records now) s s' := by
  obtain ⟨_, _, hhealed⟩ := close_orphaned_tool_batches_ok ha.heals
  obtain ⟨_, _, _, _, _, hwith⟩ := append_replay_record_ok ha.records
  have hchange : ChangesUsage (.accept_action clock action max_replay_records now) with_replay
      applied := apply_action_usage_change ha.applies
  have hbefore : with_replay.spending = s.spending := by
    simp [ConversationState.spending, hwith, hhealed]
  have hafter : s'.spending = applied.spending := by
    simp [ConversationState.spending, ha.result]
  have hstarts : starts_run with_replay (.accept_action clock action max_replay_records now) =
      starts_run s (.accept_action clock action max_replay_records now) := by
    simp [starts_run, hwith, hhealed]
  unfold ChangesUsage at hchange ⊢
  rw [hbefore, hstarts] at hchange
  rw [hafter]
  exact hchange

/-! ### Steps -/

/-- What a transition that spends nothing does to the counters. -/
theorem transition_usage_change (h : transition_step rules s l = .ok s')
    (hfree : l.spends = false) : ChangesUsage l s s' := by
  unfold ChangesUsage
  cases l
  case accept_action =>
    obtain ⟨_, _, _, ha⟩ := accept_action_step_ok h
    exact accept_action_usage_change ha
  all_goals simp only [transition_step, bind_eq_ok, pure_eq_ok] at h
  case finalize_action =>
    obtain ⟨_, _, ⟨_, rfl⟩ | ⟨_, _, _, _, _, _, h⟩⟩ := finalize_action_ok h
    · exact .keep rfl
    · exact spending_of (by rw [h]) (by rw [h])
  case create_goal =>
    obtain ⟨_, h⟩ := create_goal_ok h
    exact spending_of (by rw [h]) (by rw [h])
  case accept_clarification_request =>
    obtain ⟨_, h⟩ := accept_clarification_request_ok h
    exact spending_of (by rw [h]) (by rw [h])
  case accept_begin_answer =>
    obtain ⟨_, h⟩ := accept_begin_answer_ok h
    exact spending_of (by rw [h]) (by rw [h])
  case accept_goal_proposal =>
    obtain ⟨_, _, h⟩ := accept_goal_proposal_ok h
    exact spending_of (by rw [h]) (by rw [h])
  case accept_goal_draft_proposal =>
    obtain ⟨_, _, _, h⟩ := accept_goal_draft_proposal_ok h
    exact spending_of (by rw [h]) (by rw [h])
  case record_goal_progress =>
    obtain ⟨_, _, _, _, _, _, _, h⟩ := record_goal_progress_ok h
    exact spending_of (by rw [h]) (by rw [h])
  case apply_goal_delta =>
    obtain ⟨_, _, _, _, _, _, _, _, _, h⟩ := apply_goal_delta_ok h
    exact spending_of (by rw [h]) (by rw [h])
  case accept_goal_delta_proposal =>
    obtain ⟨_, _, _, _, _, _, _, _, h⟩ := accept_goal_delta_proposal_ok h
    exact spending_of (by rw [h]) (by rw [h])
  case acknowledge_noop_goal_delta =>
    obtain ⟨_, _, _, _, _, _, h⟩ := acknowledge_noop_goal_delta_ok h
    exact spending_of (by rw [h]) (by rw [h])
  case accept_blocked_claim =>
    obtain ⟨_, _, _, _, _, _, _, _, _, _, _, _, h⟩ := accept_blocked_claim_ok h
    exact spending_stop (by rw [h]) (by rw [h])
  case pause_goal => exact pause_goal_usage_change h
  case resume_goal =>
    obtain ⟨_, _, _, _, _, h⟩ := resume_goal_ok h
    exact spending_of (by rw [h]) (by rw [h])
  case cancel_goal => exact cancel_goal_usage_change h
  case apply_control_request => exact apply_control_request_usage_change h
  case pause_for_provider_disclosure =>
    obtain ⟨_, _, active', hactive, _, _, hactive', h⟩ := pause_for_provider_disclosure_ok h
    exact spending_run hactive (by rw [h]) (show s'.val.active_run = some active' by rw [h])
      (by rw [hactive']; rfl)
  case acknowledge_provider_disclosure =>
    obtain ⟨_, active', _, hcontinues, h⟩ := acknowledge_provider_disclosure_ok h
    exact continue_usage_change hcontinues (fun hnone => by simp [starts_run, hnone]) (by rw [h])
      (by rw [h])
  case grant_provider_consent =>
    obtain ⟨_, active', _, hcontinues, h⟩ := grant_provider_consent_ok h
    exact continue_usage_change hcontinues (fun hnone => by simp [starts_run, hnone]) (by rw [h])
      (by rw [h])
  case grant_provider_workspace_read_consent =>
    obtain ⟨_, active', _, hcontinues, h⟩ := grant_provider_workspace_read_consent_ok h
    exact continue_usage_change hcontinues (fun hnone => by simp [starts_run, hnone]) (by rw [h])
      (by rw [h])
  case revoke_provider_consent => exact revoke_provider_consent_usage_change h
  case record_completion_claim =>
    obtain ⟨_, h⟩ := record_completion_claim_ok h
    exact spending_of (by rw [h]) (by rw [h])
  case record_evidence =>
    rcases record_evidence_ok h with rfl | h
    · exact .keep rfl
    · exact spending_of (by rw [h]) (by rw [h])
  case verify_goal_completion =>
    obtain ⟨_, _, _, _, _, _, h⟩ := verify_goal_completion_ok h
    exact spending_of (by rw [h]) (by rw [h])
  case begin_browser_takeover => exact begin_browser_takeover_usage_change h
  case complete_browser_takeover =>
    obtain ⟨_, h, rfl⟩ := h
    have h := complete_browser_takeover_ok h
    exact spending_of (by rw [h]) (by rw [h])
  case cancel_browser_takeover =>
    have h := cancel_browser_takeover_ok h
    exact spending_of (by rw [h]) (by rw [h])
  case admit_process_receipt_criterion =>
    exact (admit_process_receipt_criterion_ok h).usage_change
  case admit_sandbox_receipt_criterion =>
    exact (admit_sandbox_receipt_criterion_ok h).usage_change
  case admit_governed_tool_receipt_criterion =>
    exact (admit_governed_tool_receipt_criterion_ok h).usage_change
  case admit_web_source_criterion => exact (admit_web_source_criterion_ok h).usage_change
  case claim_run =>
    obtain ⟨_, active', hactive, _, hactive', h⟩ := claim_run_ok h
    exact spending_run hactive (by rw [h]) (show s'.val.active_run = some active' by rw [h])
      (by rw [hactive']; rfl)
  case reclaim_background_run =>
    obtain ⟨_, active', hactive, hactive', h⟩ := reclaim_background_run_ok h
    exact spending_run hactive (by rw [h]) (show s'.val.active_run = some active' by rw [h])
      (by rw [hactive']; rfl)
  case ensure_run_started =>
    rcases ensure_run_started_ok h with rfl | ⟨_, active', hactive, hactive', h⟩
    · exact .keep rfl
    · exact spending_run hactive (by rw [h]) (show s'.val.active_run = some active' by rw [h])
        (by rw [hactive']; rfl)
  case complete_run =>
    obtain ⟨_, _, _, _, _, _, _, h⟩ := complete_run_ok h
    exact spending_stop (by rw [h]) (by rw [h])
  case end_run => exact end_run_usage_change h
  case fail_run => exact end_run_usage_change h
  case pause_for_limit =>
    obtain ⟨_, active', hactive, _, hactive', h⟩ := pause_run_ok h
    exact spending_run hactive (by rw [h]) (show s'.val.active_run = some active' by rw [h])
      (by rw [hactive']; rfl)
  case pause_for_retryable =>
    obtain ⟨_, active', hactive, _, hactive', h⟩ := pause_run_ok h
    exact spending_run hactive (by rw [h]) (show s'.val.active_run = some active' by rw [h])
      (by rw [hactive']; rfl)
  case begin_provider_call => cases hfree
  case record_foreground_model_attempt =>
    have hbinding : s.val.background_occurrence_binding = none := by
      simp only [record_foreground_model_attempt, require_run, bind_eq_ok, Py.expect_value_eq_ok,
        Py.refuse_value_eq_ok, not_or, not_not] at h
      obtain ⟨_, _, _, ⟨hnone, _⟩, _⟩ := h
      exact hnone
    obtain ⟨_, _, _, _, h⟩ := record_foreground_model_attempt_ok h
    exact .foreground hbinding (by simp [ConversationState.spending, h, hbinding])
  case record_provider_response =>
    obtain ⟨_, active', _, hactive, hactive', h⟩ := record_provider_response_ok h
    exact spending_run hactive (by rw [h]) (show s'.val.active_run = some active' by rw [h])
      (by rw [hactive']; rfl)
  case consume_provider_response =>
    obtain ⟨_, active', hactive, _, _, hactive', h⟩ := consume_provider_response_ok h
    exact spending_run hactive (by rw [h]) (show s'.val.active_run = some active' by rw [h])
      (by rw [hactive']; rfl)
  case mark_model_outcome_unknown =>
    obtain ⟨_, active', hactive, hactive', h⟩ := mark_model_outcome_unknown_ok h
    exact spending_run hactive (by rw [h]) (show s'.val.active_run = some active' by rw [h])
      (by rw [hactive']; rfl)
  case reject_persisted_response =>
    obtain ⟨_, active', hactive, hactive', h⟩ := reject_persisted_response_ok h
    exact spending_run hactive (by rw [h]) (show s'.val.active_run = some active' by rw [h])
      (by rw [hactive']; rfl)
  case charge_consent_grant =>
    obtain ⟨_, h⟩ := charge_consent_grant_ok h
    exact spending_of (by rw [h]) (by rw [h])
  case consume_disclosure_receipt =>
    obtain ⟨_, h⟩ := consume_disclosure_receipt_ok h
    exact spending_of (by rw [h]) (by rw [h])
  case invalidate_provider_consent =>
    rcases invalidate_provider_consent_ok h with rfl | ⟨_, h⟩
    · exact .keep rfl
    · exact spending_of (by rw [h]) (by rw [h])
  case start_operator_tool => exact start_operator_tool_usage_change h
  case release_operator_tool =>
    obtain ⟨_, active', hactive, hactive', h⟩ := release_operator_tool_ok h
    exact spending_run hactive (by rw [h]) (show s'.val.active_run = some active' by rw [h])
      (by rw [hactive']; rfl)
  case start_tool_batch =>
    obtain ⟨_, active', _, hactive, _, _, _, _, hactive', h⟩ := start_tool_batch_ok h
    exact spending_run hactive (by rw [h]) (show s'.val.active_run = some active' by rw [h])
      (by rw [hactive']; rfl)
  case record_nonexecuted_tool_result =>
    obtain ⟨_, active', _, hactive, _, _, _, _, hactive', h⟩ :=
      record_nonexecuted_tool_result_ok h
    exact spending_run hactive (by rw [h]) (show s'.val.active_run = some active' by rw [h])
      (by rw [hactive']; rfl)
  case pause_for_approval =>
    obtain ⟨_, active', hactive, _, hactive', h⟩ := pause_for_approval_ok h
    exact spending_run hactive (by rw [h]) (show s'.val.active_run = some active' by rw [h])
      (by rw [hactive']; rfl)
  case mark_executing => cases hfree
  case record_tool_result =>
    obtain ⟨_, active', _, _, _, _, hactive, _, _, _, _, hactive', h⟩ := record_tool_result_ok h
    exact spending_run hactive (by rw [h]) (show s'.val.active_run = some active' by rw [h])
      (by rw [hactive']; rfl)
  case pause_for_recovery =>
    obtain ⟨_, active', hactive, _, hactive', h⟩ := pause_for_recovery_ok h
    exact spending_run hactive (by rw [h]) (show s'.val.active_run = some active' by rw [h])
      (by rw [hactive']; rfl)
  case append_policy_result =>
    obtain ⟨hrun, _, _, _, h⟩ := append_policy_result_ok h
    exact spending_of (by rw [h]) (by rw [h])
  case apply_compaction_summary =>
    obtain ⟨_, _, _, _, _, _, _, _, h⟩ := apply_compaction_summary_ok h
    exact spending_of (by rw [h]) (by rw [h])
  case adopt_workspace_binding =>
    have h := adopt_workspace_binding_ok h
    exact spending_of (by rw [h]) (by rw [h])

end Changes
