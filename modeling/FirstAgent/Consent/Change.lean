import FirstAgent.Invariants.Effects
import FirstAgent.Invariants.Healing

/-! # What a Transition May Do to the Consent

    The consent of a conversation is its grant, the disclosure request that
    waits for the user and the receipt of the user's answer.  Every transition
    but an acknowledgement and the minting of a grant keeps it, asks again or
    ends the grant; and no transition but a compaction forgets a fact. -/

open Fallible

/-- The consent of a conversation and the next action it accepts. -/
structure ConsentView where
  next_action_seq : Int
  grant : Option ProviderConsentGrantV1
  request : Option DisclosureRequest
  receipt : Option DisclosureReceipt

def ConversationState.consent (s : ConversationState) : ConsentView where
  next_action_seq := s.val.next_action_seq
  grant := s.val.provider_consent_grant
  request := s.val.provider_disclosure_request
  receipt := s.val.provider_disclosure_receipt

/-! ### Labels -/

namespace Transition

/-- An action of the user acknowledges a disclosure. -/
def acknowledges : Transition → Bool
  | .accept_action _ action _ _ =>
    match action.body with
    | .acknowledge_provider_disclosure _ => true
    | _ => false
  | _ => false

/-- An action of the user grants a consent. -/
def mints : Transition → Bool
  | .accept_action _ action _ _ =>
    match action.body with
    | .grant_provider_consent _ | .grant_provider_workspace_read_consent _ => true
    | _ => false
  | _ => false

/-- A grant is revoked or invalidated. -/
def ends_grant : Transition → Bool
  | .accept_action _ action _ _ =>
    match action.body with
    | .revoke_provider_consent => true
    | _ => false
  | .revoke_provider_consent | .invalidate_provider_consent => true
  | _ => false

/-- The user says something new. -/
def new_user_message : Transition → Bool
  | .accept_action _ action _ _ =>
    match action.body with
    | .submit_message .. | .confirm_criterion _ => true
    | _ => false
  | _ => false

/-- What runs beside a dispatch.  Acknowledging and granting are actions; the
    pieces of a charge happen within it; a compaction forgets messages. -/
def beside_dispatch : Transition → Bool
  | .acknowledge_provider_disclosure .. | .grant_provider_consent ..
  | .grant_provider_workspace_read_consent .. | .charge_consent_grant
  | .consume_disclosure_receipt _ | .apply_compaction_summary .. => false
  | _ => true

end Transition

/-! ### Changes -/

/-- What a transition may do to the consent. -/
inductive ConsentChange (l : Transition) (v v' : ConsentView) : Prop where
  | keep (hview : v' = v)
  /-- A disclosure is asked for; the last answer is dropped. -/
  | ask (request : DisclosureRequest)
      (hview : v' = { v with request := some request, receipt := none })
  /-- The user acknowledges the pending request. -/
  | acknowledge (receipt : Option DisclosureReceipt) (hlabel : l.acknowledges = true)
      (hview : v' = { v with receipt := receipt })
  /-- The user grants a consent. -/
  | mint (grant : Option ProviderConsentGrantV1) (hlabel : l.mints = true)
      (hview : v' = { v with grant := grant, request := none, receipt := none })
  /-- The grant ends for good. -/
  | close (grant grant' : ProviderConsentGrantV1) (status : ProviderConsentGrantStatus)
      (digest : String) (hbefore : v.grant = some grant) (hended : status ≠ .active)
      (hgrant : grant'.val = { grant.val with status := status, grant_digest := digest })
      (hview : v' = { v with grant := some grant', request := none, receipt := none })

theorem ProviderConsentGrantV1.with_status_ok {g g' : ProviderConsentGrantV1}
    {status : ProviderConsentGrantStatus} (h : g.with_status status = .ok g') :
    ∃ digest, g'.val = { g.val with status := status, grant_digest := digest } := by
  simp only [with_status, create, Checked.make_eq_ok] at h
  exact ⟨_, h⟩

section Transitions

variable {rules : TextRules} {l : Transition} {s s' : ConversationState}

theorem revoke_provider_consent_change (h : revoke_provider_consent s = .ok s') :
    ConsentChange l s.consent s'.consent := by
  simp only [revoke_provider_consent, bind_eq_ok, Py.expect_value_eq_ok, Checked.make_eq_ok] at h
  obtain ⟨grant, hgrant, _, _, grant', hgrant', h⟩ := h
  obtain ⟨digest, hval⟩ := ProviderConsentGrantV1.with_status_ok hgrant'
  exact .close grant grant' .revoked digest hgrant (by decide) hval
    (by simp [ConversationState.consent, h])

theorem invalidate_provider_consent_change (h : invalidate_provider_consent s = .ok s') :
    ConsentChange l s.consent s'.consent := by
  unfold invalidate_provider_consent at h
  split at h
  · obtain rfl := pure_eq_ok.mp h
    exact .keep rfl
  · next grant hgrant =>
    simp only [ite_eq_ok, pure_eq_ok, bind_eq_ok, Checked.make_eq_ok] at h
    rcases h with ⟨_, rfl⟩ | ⟨_, grant', hgrant', h⟩
    · exact .keep rfl
    · obtain ⟨digest, hval⟩ := ProviderConsentGrantV1.with_status_ok hgrant'
      exact .close grant grant' .invalidated digest hgrant (by decide) hval
        (by simp [ConversationState.consent, h])

theorem admission_step.consent (h : admission_step s s') : s'.consent = s.consent := by
  rcases h with rfl | ⟨_, _, _, _, _, _, _, h⟩
  · rfl
  · simp [ConversationState.consent, h]

theorem approve_request_consent {active : ActiveRun} {pending : ApprovalRequest} {seq : Int}
    {digest : String} {a : ResolveApproval}
    (h : approve_request rules s active pending seq digest a = .ok s') :
    s'.consent = s.consent := by
  obtain ⟨_, t₁, t₂, _, _, _, ⟨_, _, s₁, h₁, hs₁⟩, h₂, h₃⟩ := approve_request_ok h
  have ht₁ : t₁.consent = s.consent := by
    rw [h₁.consent]
    simp [ConversationState.consent, hs₁]
  rw [h₃.consent, ← ht₁]
  rcases h₂ with ⟨_, _, h₂⟩ | ⟨_, _, _, _, _, _, h₂⟩ <;> simp [ConversationState.consent, h₂]

theorem apply_control_request_consent {request : ControlInboxRequest}
    (h : apply_control_request s request = .ok s') : s'.consent = s.consent := by
  obtain ⟨_, _, updated, _, _, _, _, hupdated, h⟩ := apply_control_request_ok h
  have hview : s'.consent = updated.consent := by simp [ConversationState.consent, h]
  rw [hview]
  split at hupdated
  · obtain ⟨_, _, _, _, _, _, _, h⟩ := pause_goal_ok hupdated
    simp [ConversationState.consent, h]
  · obtain ⟨_, _, _, _, _, _, _, h⟩ := cancel_goal_ok hupdated
    simp [ConversationState.consent, h]
  · obtain ⟨_, _, _, _, _, _, _, h⟩ := correct_goal_ok hupdated
    simp [ConversationState.consent, h]

/-- An action changes the consent only where the user decides about it. -/
theorem apply_action_consent_change {clock : String} {action : RuntimeAction}
    {max_replay_records : Int} {now : Option String}
    (h : apply_action rules clock s action now = .ok s') :
    ConsentChange (.accept_action clock action max_replay_records now) s.consent s'.consent := by
  unfold apply_action at h
  cases hbody : action.body <;>
    simp only [hbody, bind_eq_ok, Py.expect_value_eq_ok, Checked.make_eq_ok, pure_eq_ok,
      revoke_process_authority] at h
  case acknowledge_provider_disclosure =>
    obtain ⟨_, _, receipt, _, h⟩ := acknowledge_provider_disclosure_ok h
    exact .acknowledge receipt (by simp [Transition.acknowledges, hbody])
      (by simp [ConversationState.consent, h])
  case grant_provider_consent =>
    obtain ⟨_, _, grant, _, h⟩ := grant_provider_consent_ok h
    exact .mint grant (by simp [Transition.mints, hbody]) (by simp [ConversationState.consent, h])
  case grant_provider_workspace_read_consent =>
    obtain ⟨_, _, grant, _, h⟩ := grant_provider_workspace_read_consent_ok h
    exact .mint grant (by simp [Transition.mints, hbody]) (by simp [ConversationState.consent, h])
  case revoke_provider_consent => exact revoke_provider_consent_change h
  case submit_message =>
    obtain ⟨_, _, _, _, _, _, h⟩ := submit_message_ok h
    exact .keep (by simp [ConversationState.consent, h])
  case resolve_approval =>
    obtain ⟨active, _, h⟩ := h
    simp only [resolve_approval, bind_eq_ok, Py.expect_value_eq_ok, ite_eq_ok] at h
    obtain ⟨pending, _, ⟨_, h⟩ | ⟨_, h⟩⟩ := h
    · exact .keep (approve_request_consent h)
    · obtain ⟨_, _, _, _, _, h⟩ := decline_request_ok h
      exact .keep (by simp [ConversationState.consent, h])
  case resolve_unknown_tool_outcome =>
    obtain ⟨_, _, h⟩ := h
    obtain ⟨_, _, _, _, _, _, h⟩ := resolve_unknown_tool_outcome_ok h
    exact .keep (by simp [ConversationState.consent, h])
  case recover_unknown_observation =>
    obtain ⟨_, _, h⟩ := h
    obtain ⟨_, _, _, _, _, _, h⟩ := recover_unknown_observation_ok h
    exact .keep (by simp [ConversationState.consent, h])
  case abandon_unknown_model_outcome =>
    obtain ⟨_, _, _, _, _, h⟩ := end_run_ok h
    exact .keep (by simp [ConversationState.consent, h])
  case resume =>
    obtain ⟨_, _, h⟩ := h
    rcases resume_run_ok h with rfl | ⟨_, _, h⟩
    · exact .keep rfl
    · exact .keep (by simp [ConversationState.consent, h])
  case cancel_run =>
    obtain ⟨_, _, h⟩ := h
    obtain ⟨_, _, _, h⟩ := cancel_run_ok h
    exact .keep (by simp [ConversationState.consent, h])
  case select_goal =>
    obtain ⟨_, _, h⟩ := h
    cases h
  case pause_goal =>
    obtain ⟨_, _, _, _, _, _, _, h⟩ := pause_goal_ok h
    exact .keep (by simp [ConversationState.consent, h])
  case resume_goal =>
    obtain ⟨_, _, _, _, _, h⟩ := resume_goal_ok h
    exact .keep (by simp [ConversationState.consent, h])
  case cancel_goal =>
    obtain ⟨_, _, _, _, _, _, _, h⟩ := cancel_goal_ok h
    exact .keep (by simp [ConversationState.consent, h])
  case confirm_criterion =>
    obtain ⟨_, _, _, h⟩ := confirm_criterion_ok h
    exact .keep (by simp [ConversationState.consent, h])
  case revoke_process_authority => exact .keep (by simp [ConversationState.consent, h])
  case revoke_goal_target_authority => exact .keep (by simp [ConversationState.consent, h])
  case complete_browser_takeover =>
    obtain ⟨_, h, rfl⟩ := h
    exact .keep (by simp [ConversationState.consent, complete_browser_takeover_ok h])
  case cancel_browser_takeover =>
    exact .keep (by simp [ConversationState.consent, cancel_browser_takeover_ok h])
  case execute_operator_tool =>
    obtain ⟨_, _, _, _, _, _, _, _, h⟩ := start_operator_tool_ok h
    exact .keep (by simp [ConversationState.consent, h])

/-- An accepted action is counted, and then changes the consent. -/
theorem accept_action_consent_change {clock : String} {action : RuntimeAction}
    {max_replay_records : Int} {now : Option String}
    {healed with_replay applied : ConversationState}
    (ha : Accepts rules clock s action max_replay_records now healed with_replay applied s') :
    action.action_seq = s.val.next_action_seq ∧
      ConsentChange (.accept_action clock action max_replay_records now)
        { s.consent with next_action_seq := s.val.next_action_seq + 1 } s'.consent := by
  obtain ⟨_, _, hhealed⟩ := close_orphaned_tool_batches_ok ha.heals
  obtain ⟨_, _, _, _, _, hwith⟩ := append_replay_record_ok ha.records
  have hchange : ConsentChange (.accept_action clock action max_replay_records now)
      with_replay.consent applied.consent := apply_action_consent_change ha.applies
  have hbefore : with_replay.consent =
      { s.consent with next_action_seq := s.val.next_action_seq + 1 } := by
    simp [ConversationState.consent, hwith, hhealed]
  have hafter : s'.consent = applied.consent := by simp [ConversationState.consent, ha.result]
  rw [hbefore, ← hafter] at hchange
  exact ⟨ha.next, hchange⟩

/-- Every other transition that runs beside a dispatch. -/
theorem runtime_step_consent_change (h : transition_step rules s l = .ok s')
    (haction : ∀ clock action max_replay_records now,
      l ≠ .accept_action clock action max_replay_records now)
    (hl : l.beside_dispatch = true) : ConsentChange l s.consent s'.consent := by
  cases l <;> simp only [transition_step, bind_eq_ok, pure_eq_ok] at h
  case accept_action => exact absurd rfl (haction _ _ _ _)
  case acknowledge_provider_disclosure => cases hl
  case grant_provider_consent => cases hl
  case grant_provider_workspace_read_consent => cases hl
  case charge_consent_grant => cases hl
  case consume_disclosure_receipt => cases hl
  case apply_compaction_summary => cases hl
  case pause_for_provider_disclosure request =>
    obtain ⟨_, _, _, _, _, _, _, h⟩ := pause_for_provider_disclosure_ok h
    exact .ask request (by simp [ConversationState.consent, h])
  case revoke_provider_consent => exact revoke_provider_consent_change h
  case invalidate_provider_consent => exact invalidate_provider_consent_change h
  case apply_control_request => exact .keep (apply_control_request_consent h)
  case finalize_action =>
    obtain ⟨_, _, ⟨_, rfl⟩ | ⟨_, _, _, _, _, _, h⟩⟩ := finalize_action_ok h
    · exact .keep rfl
    · exact .keep (by simp [ConversationState.consent, h])
  case create_goal =>
    obtain ⟨_, h⟩ := create_goal_ok h
    exact .keep (by simp [ConversationState.consent, h])
  case accept_clarification_request =>
    obtain ⟨_, h⟩ := accept_clarification_request_ok h
    exact .keep (by simp [ConversationState.consent, h])
  case accept_begin_answer =>
    obtain ⟨_, h⟩ := accept_begin_answer_ok h
    exact .keep (by simp [ConversationState.consent, h])
  case accept_goal_proposal =>
    obtain ⟨_, _, h⟩ := accept_goal_proposal_ok h
    exact .keep (by simp [ConversationState.consent, h])
  case accept_goal_draft_proposal =>
    obtain ⟨_, _, _, h⟩ := accept_goal_draft_proposal_ok h
    exact .keep (by simp [ConversationState.consent, h])
  case record_goal_progress =>
    obtain ⟨_, _, _, _, _, _, _, h⟩ := record_goal_progress_ok h
    exact .keep (by simp [ConversationState.consent, h])
  case apply_goal_delta =>
    obtain ⟨_, _, _, _, _, _, _, _, _, h⟩ := apply_goal_delta_ok h
    exact .keep (by simp [ConversationState.consent, h])
  case accept_goal_delta_proposal =>
    obtain ⟨_, _, _, _, _, _, _, _, h⟩ := accept_goal_delta_proposal_ok h
    exact .keep (by simp [ConversationState.consent, h])
  case acknowledge_noop_goal_delta =>
    obtain ⟨_, _, _, _, _, _, h⟩ := acknowledge_noop_goal_delta_ok h
    exact .keep (by simp [ConversationState.consent, h])
  case accept_blocked_claim =>
    obtain ⟨_, _, _, _, _, _, h⟩ := accept_blocked_claim_ok h
    exact .keep (by simp [ConversationState.consent, h])
  case pause_goal =>
    obtain ⟨_, _, _, _, _, _, _, h⟩ := pause_goal_ok h
    exact .keep (by simp [ConversationState.consent, h])
  case resume_goal =>
    obtain ⟨_, _, _, _, _, h⟩ := resume_goal_ok h
    exact .keep (by simp [ConversationState.consent, h])
  case cancel_goal =>
    obtain ⟨_, _, _, _, _, _, _, h⟩ := cancel_goal_ok h
    exact .keep (by simp [ConversationState.consent, h])
  case record_completion_claim =>
    obtain ⟨_, h⟩ := record_completion_claim_ok h
    exact .keep (by simp [ConversationState.consent, h])
  case record_evidence =>
    rcases record_evidence_ok h with rfl | h
    · exact .keep rfl
    · exact .keep (by simp [ConversationState.consent, h])
  case verify_goal_completion =>
    obtain ⟨_, _, _, _, _, _, h⟩ := verify_goal_completion_ok h
    exact .keep (by simp [ConversationState.consent, h])
  case begin_browser_takeover =>
    obtain ⟨_, _, _, _, h⟩ := begin_browser_takeover_ok h
    exact .keep (by simp [ConversationState.consent, h])
  case complete_browser_takeover =>
    obtain ⟨_, h, rfl⟩ := h
    exact .keep (by simp [ConversationState.consent, complete_browser_takeover_ok h])
  case cancel_browser_takeover =>
    exact .keep (by simp [ConversationState.consent, cancel_browser_takeover_ok h])
  case admit_process_receipt_criterion =>
    exact .keep (admit_process_receipt_criterion_ok h).consent
  case admit_sandbox_receipt_criterion =>
    exact .keep (admit_sandbox_receipt_criterion_ok h).consent
  case admit_governed_tool_receipt_criterion =>
    exact .keep (admit_governed_tool_receipt_criterion_ok h).consent
  case admit_web_source_criterion => exact .keep (admit_web_source_criterion_ok h).consent
  case claim_run =>
    obtain ⟨_, _, _, _, _, h⟩ := claim_run_ok h
    exact .keep (by simp [ConversationState.consent, h])
  case reclaim_background_run =>
    obtain ⟨_, _, _, _, h⟩ := reclaim_background_run_ok h
    exact .keep (by simp [ConversationState.consent, h])
  case ensure_run_started =>
    rcases ensure_run_started_ok h with rfl | ⟨_, _, _, _, h⟩
    · exact .keep rfl
    · exact .keep (by simp [ConversationState.consent, h])
  case complete_run =>
    obtain ⟨_, _, _, _, _, _, h⟩ := complete_run_ok h
    exact .keep (by simp [ConversationState.consent, h])
  case end_run =>
    obtain ⟨_, _, _, _, _, h⟩ := end_run_ok h
    exact .keep (by simp [ConversationState.consent, h])
  case fail_run =>
    obtain ⟨_, _, _, _, _, h⟩ := end_run_ok h
    exact .keep (by simp [ConversationState.consent, h])
  case pause_for_limit =>
    obtain ⟨_, _, _, _, _, h⟩ := pause_run_ok h
    exact .keep (by simp [ConversationState.consent, h])
  case pause_for_retryable =>
    obtain ⟨_, _, _, _, _, h⟩ := pause_run_ok h
    exact .keep (by simp [ConversationState.consent, h])
  case begin_provider_call =>
    obtain ⟨_, _, _, _, _, h⟩ := begin_provider_call_ok h
    exact .keep (by simp [ConversationState.consent, h])
  case record_foreground_model_attempt =>
    obtain ⟨_, _, _, _, h⟩ := record_foreground_model_attempt_ok h
    exact .keep (by simp [ConversationState.consent, h])
  case record_provider_response =>
    obtain ⟨_, _, _, _, h⟩ := record_provider_response_ok h
    exact .keep (by simp [ConversationState.consent, h])
  case consume_provider_response =>
    obtain ⟨_, _, _, _, h⟩ := consume_provider_response_ok h
    exact .keep (by simp [ConversationState.consent, h])
  case mark_model_outcome_unknown =>
    obtain ⟨_, _, _, _, h⟩ := mark_model_outcome_unknown_ok h
    exact .keep (by simp [ConversationState.consent, h])
  case reject_persisted_response =>
    obtain ⟨_, _, _, _, h⟩ := reject_persisted_response_ok h
    exact .keep (by simp [ConversationState.consent, h])
  case start_operator_tool =>
    obtain ⟨_, _, _, _, _, _, _, _, h⟩ := start_operator_tool_ok h
    exact .keep (by simp [ConversationState.consent, h])
  case release_operator_tool =>
    obtain ⟨_, _, _, _, h⟩ := release_operator_tool_ok h
    exact .keep (by simp [ConversationState.consent, h])
  case start_tool_batch =>
    obtain ⟨_, _, _, _, h⟩ := start_tool_batch_ok h
    exact .keep (by simp [ConversationState.consent, h])
  case record_nonexecuted_tool_result =>
    obtain ⟨_, _, _, _, h⟩ := record_nonexecuted_tool_result_ok h
    exact .keep (by simp [ConversationState.consent, h])
  case pause_for_approval =>
    obtain ⟨_, _, _, _, _, h⟩ := pause_for_approval_ok h
    exact .keep (by simp [ConversationState.consent, h])
  case mark_executing =>
    obtain ⟨_, _, _, _, _, _, _, _, _, _, _, _, _, _, _, _, h⟩ := mark_executing_ok h
    exact .keep (by simp [ConversationState.consent, h])
  case record_tool_result =>
    obtain ⟨_, _, _, _, _, _, _, _, _, _, _, _, h⟩ := record_tool_result_ok h
    exact .keep (by simp [ConversationState.consent, h])
  case pause_for_recovery =>
    obtain ⟨_, _, _, _, _, h⟩ := pause_for_recovery_ok h
    exact .keep (by simp [ConversationState.consent, h])
  case append_policy_result =>
    obtain ⟨_, _, h⟩ := append_policy_result_ok h
    exact .keep (by simp [ConversationState.consent, h])
  case adopt_workspace_binding =>
    exact .keep (by simp [ConversationState.consent, adopt_workspace_binding_ok h])

/-- Beside a dispatch the consent changes as above; an accepted action takes
    the next number first. -/
theorem transition_consent_change (h : transition_step rules s l = .ok s')
    (hl : l.beside_dispatch = true) :
    ConsentChange l s.consent s'.consent ∨
      ConsentChange l { s.consent with next_action_seq := s.val.next_action_seq + 1 }
        s'.consent := by
  by_cases haction : ∃ clock action max_replay_records now,
      l = .accept_action clock action max_replay_records now
  · obtain ⟨clock, action, max_replay_records, now, rfl⟩ := haction
    obtain ⟨healed, _, _, ha⟩ := accept_action_step_ok h
    exact .inr (accept_action_consent_change ha).2
  · exact .inl (runtime_step_consent_change h (fun clock action max_replay_records now heq =>
      haction ⟨clock, action, max_replay_records, now, heq⟩) hl)

end Transitions

/-! ### The log keeps its facts -/

section Facts

variable {rules : TextRules} {l : Transition} {s s' : ConversationState}

/-- Without compaction no fact is forgotten. -/
theorem facts_kept (h : transition_step rules s l = .ok s') (hl : l.compacts = false) :
    s.val.facts ⊆ s'.val.facts := by
  obtain ⟨t, hheals, _, hchange⟩ := transition_run_change h
  obtain ⟨added, hadded⟩ := hchange.grows hl
  intro f hf
  have hadded : s'.val.facts = t.val.facts ++ added := hadded
  rw [hadded]
  exact List.mem_append_left added (hheals.pads.subset hf)

end Facts
