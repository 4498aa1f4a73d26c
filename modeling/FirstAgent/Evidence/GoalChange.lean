import FirstAgent.Evidence.Criteria
import FirstAgent.Invariants.Healing

/-! # What a Transition May Do to the Goal

    A conversation gets its Goal once.  After that a transition restates the
    Goal (its status, its progress and its sources), opens its next revision
    and drops all evidence, or admits criteria.  Evidence is recorded by its
    own transition and by a confirmation of the user, and only a verification
    makes a Goal verified. -/

open Fallible

namespace Transition

/-- The user confirms a criterion. -/
def confirms : Transition → Bool
  | .accept_action _ action _ _ =>
    match action.body with
    | .confirm_criterion _ => true
    | _ => false
  | _ => false

/-- A Goal is created with the criteria it has. -/
def creates_goal : Transition → Bool
  | .create_goal _ => true
  | _ => false

end Transition

/-- The criterion a retrieved source is admitted for. -/
structure AdmittedFromWeb (receipt : SourceReceiptV1) (c : AdmittedCriterion) : Prop where
  kind : c.val.oracle_kind = .web_source_receipt
  predicate : c.val.predicate = JsonDict.of [
    ("receipt_digest", .str receipt.receipt_digest),
    ("source_kind", .str receipt.source_kind.value)]

/-- What a transition may do to the Goal and its evidence. -/
inductive GoalChange (l : Transition) (v v' : GoalLog) : Prop where
  | keep (hview : v' = v)
  | install (goal : GoalFrame) (hbefore : v.goal = none) (hready : goal.val.status = .goal_ready)
      (hlabel : l.creates_goal = true ∨ goal.val.admitted_criteria = [])
      (hview : v' = { v with goal := some goal })
  /-- A finished Goal keeps its status. -/
  | restate (goal goal' : GoalFrame) (status : GoalStatus) (sources : List String)
      (summary next_step : Option String) (hbefore : v.goal = some goal)
      (hstatus : status = goal.val.status ∨
        goal.val.status.is_terminal = false ∧ status ≠ .verified_done)
      (hgoal : goal'.val = { goal.val with
        status := status
        created_from_fact_ids := sources
        progress_summary := summary
        next_step := next_step })
      (hview : v' = { v with goal := some goal' })
  /-- The next revision has no evidence. -/
  | revise (goal goal' : GoalFrame) (hbefore : v.goal = some goal)
      (hid : goal'.val.goal_id = goal.val.goal_id)
      (hrevision : goal'.val.revision = goal.val.revision + 1)
      (hopen : goal'.val.status.is_terminal = false)
      (hadmitted : goal'.val.admitted_criteria ⊆ goal.val.admitted_criteria)
      (hview : v' = { goal := some goal', evidence := [] })
  | admit_criteria (hsteps : Relation.ReflTransGen CriterionStep v v')
  /-- The Web criteria are put in place, and the evidence stays. -/
  | admit_web (tool_call_id : String) (action_seq : Int) (goal goal' : GoalFrame)
      (receipt : SourceReceiptV1) (admitted : List AdmittedCriterion)
      (hlabel : l = .admit_web_source_criterion tool_call_id action_seq)
      (hbefore : v.goal = some goal)
      (hadmitted : ∀ c ∈ admitted, AdmittedFromWeb receipt c)
      (hgoal : goal'.val = { goal.val with
        admitted_criteria := (goal.val.admitted_criteria.filter fun c =>
          c.val.criterion_id ∉ criterion_ids admitted) ++ admitted })
      (hview : v' = { v with goal := some goal' })
  | confirm (goal : GoalFrame) (added : List EvidenceRecord) (hlabel : l.confirms = true)
      (hbefore : v.goal = some goal)
      (hadded : ∀ r ∈ added, ∃ c ∈ goal.val.admitted_criteria, ∃ fact,
        confirmation_evidence goal c fact = .ok r)
      (hview : v' = { v with evidence := v.evidence ++ added })
  | record (records : List EvidenceRecord) (hlabel : l = .record_evidence records)
      (hview : v' = { v with evidence := records.foldl merge_record v.evidence })
  | verify (goal goal' : GoalFrame) (hlabel : l = .verify_goal_completion)
      (hbefore : v.goal = some goal) (hopen : goal.val.status.is_executable = true)
      (hgoal : goal'.val = { goal.val with status := .verified_done, next_step := none })
      (hview : v' = { v with goal := some goal' })

section Goals

variable {rules : TextRules} {l : Transition} {s s' : ConversationState} {goal : GoalFrame}

/-! ### Installing a Goal -/

theorem require_new_goal_ok (h : require_new_goal s goal = .ok ()) :
    s.val.goal = none ∧ goal.val.status = .goal_ready := by
  simp only [require_new_goal, bind_eq_ok, Py.refuse_value_eq_ok, not_not] at h
  obtain ⟨_, hnone, _, hready, _⟩ := h
  exact ⟨hnone, hready⟩

theorem create_goal_change (h : create_goal s goal = .ok s') :
    GoalChange (.create_goal goal) s.goal_log s'.goal_log := by
  obtain ⟨hnone, hs'⟩ := create_goal_ok h
  simp only [create_goal, bind_eq_ok] at h
  obtain ⟨_, hnew, _⟩ := h
  exact .install goal hnone (require_new_goal_ok hnew).2 (.inl rfl)
    (by simp [ConversationState.goal_log, hs'])

theorem accept_goal_proposal_change {proposal : GoalProposal} {bootstrap : Option GoalBootstrap}
    (h : accept_goal_proposal s proposal bootstrap = .ok s') :
    GoalChange l s.goal_log s'.goal_log := by
  obtain ⟨_, hnone, hs'⟩ := accept_goal_proposal_ok h
  simp only [accept_goal_proposal, bind_eq_ok, Py.refuse_value_eq_ok, not_not] at h
  obtain ⟨_, _, _, _, _, _, _, _, _, _, _, _, _, hbare, _, hnew, _⟩ := h
  exact .install proposal.goal_frame hnone (require_new_goal_ok hnew).2 (.inr hbare)
    (by simp [ConversationState.goal_log, hs'])

/-! ### Restating and revising it -/

/-- A status set under a condition restates the Goal. -/
theorem set_goal_status_change {status : GoalStatus} {when_ : GoalStatus → Bool}
    {goal : Option GoalFrame} (h : set_goal_status status when_ s.val.goal = .ok goal)
    (hwhen : ∀ old, when_ old = true → old.is_terminal = false) (hstatus : status ≠ .verified_done)
    (hview : s'.goal_log = { s.goal_log with goal := goal }) :
    GoalChange l s.goal_log s'.goal_log := by
  rcases set_goal_status_ok h with rfl | ⟨g, g', hg, rfl, hw, hg'⟩
  · exact .keep hview
  · exact .restate g g' status g.val.created_from_fact_ids g.val.progress_summary g.val.next_step
      hg (.inr ⟨hwhen _ hw, hstatus⟩) hg' hview

theorem continues_run_change {goal : Option GoalFrame} {active' : ActiveRun}
    (h : ContinuesRun s goal active')
    (hview : s'.goal_log = { s.goal_log with goal := goal }) :
    GoalChange l s.goal_log s'.goal_log := by
  rcases h with ⟨_, rfl, _⟩ | ⟨_, _, _, hstatus, _⟩
  · exact .keep hview
  · refine set_goal_status_change hstatus ?_ (by decide) hview
    intro old hold
    have : old = .needs_authority := by simpa using hold
    rw [this]
    rfl

theorem pause_goal_change {goal_id : String} {revision : Int}
    (h : pause_goal s goal_id revision = .ok s') : GoalChange l s.goal_log s'.goal_log := by
  obtain ⟨g, g', _, hg, hopen, _, hg', h⟩ := pause_goal_ok h
  exact .restate g g' .paused g.val.created_from_fact_ids g.val.progress_summary g.val.next_step hg
    (.inr ⟨hopen, by decide⟩) hg' (by simp [ConversationState.goal_log, h])

theorem resume_goal_change {goal_id : String} {revision : Int}
    (h : resume_goal s goal_id revision = .ok s') : GoalChange l s.goal_log s'.goal_log := by
  obtain ⟨g, g', hg, hstatus, hg', h⟩ := resume_goal_ok h
  have hopen : g.val.status.is_terminal = false := by
    rcases hstatus with hstatus | hstatus <;> rw [hstatus] <;> rfl
  exact .restate g g' .goal_ready g.val.created_from_fact_ids g.val.progress_summary
    g.val.next_step hg (.inr ⟨hopen, by decide⟩) hg' (by simp [ConversationState.goal_log, h])

theorem cancel_goal_change {goal_id : String} {revision : Int}
    (h : cancel_goal s goal_id revision = .ok s') : GoalChange l s.goal_log s'.goal_log := by
  obtain ⟨g, g', _, hg, hopen, _, hg', h⟩ := cancel_goal_ok h
  exact .restate g g' .cancelled g.val.created_from_fact_ids g.val.progress_summary none hg
    (.inr ⟨hopen, by decide⟩) hg' (by simp [ConversationState.goal_log, h])

theorem correct_goal_change {request : ControlInboxRequest} {active : ActiveRun}
    (hgoal : s.val.goal = some goal) (h : correct_goal s request goal active = .ok s') :
    GoalChange l s.goal_log s'.goal_log := by
  obtain ⟨g', _, _, _, _, _, hg', h⟩ := correct_goal_ok h
  refine .revise goal g' hgoal ?_ ?_ ?_ ?_ (by simp [ConversationState.goal_log, h]) <;>
    simp [hg', GoalStatus.is_terminal]

theorem apply_control_request_change {request : ControlInboxRequest}
    (h : apply_control_request s request = .ok s') : GoalChange l s.goal_log s'.goal_log := by
  obtain ⟨goal, active, updated, _, hgoal, _, _, hupdated, h⟩ := apply_control_request_ok h
  have hview : s'.goal_log = updated.goal_log := by simp [ConversationState.goal_log, h]
  rw [hview]
  split at hupdated
  · exact pause_goal_change hupdated
  · exact cancel_goal_change hupdated
  · exact correct_goal_change hgoal hupdated

/-- What is kept of the criteria was admitted. -/
theorem keep_admitted_subset {goal goal' : GoalFrame} {keep : AdmittedCriterion → Bool}
    (h : GoalDelta.keep_admitted goal keep = .ok goal') :
    goal'.val.admitted_criteria ⊆ goal.val.admitted_criteria := by
  rw [Checked.make_eq_ok.mp h]
  intro c hc
  exact (List.mem_filter.mp hc).1

/-- A delta admits nothing. -/
theorem apply_goal_delta_admitted {delta : GoalDelta} (h : apply_goal_delta s delta = .ok s') :
    ∀ goal goal', s.val.goal = some goal → s'.val.goal = some goal' →
      goal'.val.admitted_criteria ⊆ goal.val.admitted_criteria := by
  simp only [apply_goal_delta, bind_eq_ok, require_goal_revision_ok, Checked.make_eq_ok] at h
  obtain ⟨g, ⟨hg, _, _⟩, g₀, h₀, g₁, h₁, g₂, h₂, g₃, h₃, h⟩ := h
  intro goal goal' hgoal hgoal'
  rw [hg] at hgoal
  cases hgoal
  rw [h] at hgoal'
  cases hgoal'
  have hupdated : g₀.val.admitted_criteria ⊆ g.val.admitted_criteria := by
    simp only [GoalDelta.updated_goal, bind_eq_ok, Checked.make_eq_ok] at h₀
    obtain ⟨_, _, _, _, _, _, _, _, _, _, _, _, _, _, admitted, hadmitted, _, _, h₀⟩ := h₀
    rw [h₀]
    simp only [GoalDelta.updated_admitted_criteria, ite_eq_ok, bind_eq_ok, pure_eq_ok]
      at hadmitted
    rcases hadmitted with ⟨_, _, _, _, _, rfl⟩ | ⟨_, rfl⟩
    · exact List.nil_subset _
    · exact List.Subset.refl _
  have hreceipts : g₁.val.admitted_criteria ⊆ g₀.val.admitted_criteria := keep_admitted_subset h₁
  have hweb : g₂.val.admitted_criteria ⊆ g₁.val.admitted_criteria := by
    rcases ite_eq_ok.mp h₂ with ⟨_, h₂⟩ | ⟨_, h₂⟩
    · exact keep_admitted_subset h₂
    · rw [pure_eq_ok.mp h₂]
      exact List.Subset.refl _
  have hreplaced : g₃.val.admitted_criteria ⊆ g₂.val.admitted_criteria := by
    rcases ite_eq_ok.mp h₃ with ⟨_, h₃⟩ | ⟨_, h₃⟩
    · exact keep_admitted_subset h₃
    · rw [pure_eq_ok.mp h₃]
      exact List.Subset.refl _
  exact fun c hc => hupdated (hreceipts (hweb (hreplaced hc)))

theorem apply_goal_delta_change {delta : GoalDelta} (h : apply_goal_delta s delta = .ok s') :
    GoalChange l s.goal_log s'.goal_log := by
  obtain ⟨g, g', hg, _, _, hid, hrevision, _, hopen, hs'⟩ := apply_goal_delta_ok h
  exact .revise g g' hg hid hrevision hopen (apply_goal_delta_admitted h g g' hg (by rw [hs']))
    (by simp [ConversationState.goal_log, hs'])

/-- The lower bounds of a correction admit nothing. -/
theorem apply_correction_lower_bounds_admitted {goal' : GoalFrame} {correction : ConversationFact}
    (h : apply_correction_lower_bounds rules goal correction = .ok goal') :
    goal'.val.admitted_criteria ⊆ goal.val.admitted_criteria := by
  simp only [apply_correction_lower_bounds, ite_eq_ok, pure_eq_ok, bind_eq_ok,
    Checked.make_eq_ok] at h
  rcases h with ⟨-, rfl⟩ | ⟨-, ⟨-, rfl⟩ | ⟨-, _, -, _, -, h⟩⟩
  · exact List.Subset.refl _
  · exact List.Subset.refl _
  · rw [h]
    intro c hc
    exact (List.mem_filter.mp hc).1

theorem accept_goal_delta_proposal_change {proposal : GoalDeltaProposal}
    (h : accept_goal_delta_proposal rules s proposal = .ok s') :
    GoalChange l s.goal_log s'.goal_log := by
  obtain ⟨g, g', _, hg, hid, hrevision, _, hopen, hs'⟩ := accept_goal_delta_proposal_ok h
  refine .revise g g' hg hid hrevision hopen ?_ (by simp [ConversationState.goal_log, hs'])
  simp only [accept_goal_delta_proposal, bind_eq_ok, Py.expect_value_eq_ok,
    Checked.make_eq_ok] at h
  obtain ⟨_, _, _, _, _, _, correction, _, u, hu, g₁, hg₁, g₂, hg₂, _, _, g₃, hg₃, v, hv, _, _,
    h⟩ := h
  have hg₃ := Checked.make_eq_ok.mp hg₃
  have hsame : g₃ = g' := by
    have hafter : s'.val.goal = some g₃ := by rw [h, hv]
    rw [hs'] at hafter
    exact (Option.some.inj hafter).symm
  intro c hc
  rw [← hsame, hg₃] at hc
  exact apply_goal_delta_admitted hu g g₁ hg hg₁ (apply_correction_lower_bounds_admitted hg₂ hc)

/-! ### Admissions -/

/-- An admission that only looks at the Goal keeps the rest of the view. -/
theorem approve_request_change {active : ActiveRun} {pending : ApprovalRequest} {seq : Int}
    {digest : String} {a : ResolveApproval}
    (h : approve_request rules s active pending seq digest a = .ok s') : CriterionSteps s s' := by
  simp only [approve_request, bind_eq_ok, Checked.make_eq_ok] at h
  obtain ⟨active', _, s₁, hs₁, s₂, hs₂, s₃, hs₃, t₁, ht₁, u, hu, t₂, ht₂, u₁, hu₁, u₂, hu₂, u₃,
    hu₃, u₄, hu₄, h⟩ := h
  obtain ⟨_, hs₂⟩ := mint_process_authority_lease_ok hs₂
  obtain ⟨_, hs₃⟩ := mint_sandbox_authority_lease_ok hs₃
  obtain ⟨_, ht₂⟩ := mint_goal_target_authorization_ok ht₂
  have hminted : s₃.goal_log = s.goal_log := by
    simp [ConversationState.goal_log, hs₃, hs₂, hs₁]
  have hbrowser : t₂.goal_log = t₁.goal_log := by
    rcases mint_browser_authority_lease_ok hu with ⟨_, rfl⟩ | ⟨_, _, _, _, _, hu⟩
    · simp [ConversationState.goal_log, ht₂]
    · simp [ConversationState.goal_log, ht₂, hu]
  have hsandbox := admit_approved_read_only_validation_criterion_step ht₁
  have hartifact := admit_process_artifact_criterion_step hu₁
  unfold CriterionSteps at hsandbox hartifact
  rw [hminted] at hsandbox
  rw [hbrowser] at hartifact
  exact hsandbox.trans <| hartifact.trans <|
    (admit_approved_process_receipt_criterion_step hu₂).trans <|
    (add_approved_governed_tool_requirement_step hu₃).trans <|
    (admit_approved_file_criterion_step hu₄).trans (admit_approved_research_criterion_step h)

theorem admit_web_source_criterion_change {tool_call_id : String} {action_seq : Int}
    (h : admit_web_source_criterion s tool_call_id action_seq = .ok s') :
    GoalChange (.admit_web_source_criterion tool_call_id action_seq) s.goal_log s'.goal_log := by
  unfold admit_web_source_criterion at h
  split at h
  · next goal raw hgoal _ =>
    dsimp only at h
    split at h
    · rw [pure_eq_ok.mp h]
      exact .keep rfl
    · obtain ⟨_, _, h⟩ := bind_eq_ok.mp h
      split at h
      · next receipt _ source _ _ =>
        simp only [install_criteria, bind_eq_ok, Checked.make_eq_ok] at h
        obtain ⟨admitted, hadmitted, goal', hgoal', hs'⟩ := h
        have hids := mapM_admitted_ids hadmitted
        refine .admit_web tool_call_id action_seq goal goal' receipt admitted rfl hgoal ?_ ?_ ?_
        · intro c hc
          obtain ⟨p, _, hp⟩ := mapM_admitted hadmitted c hc
          obtain ⟨_, hkind, hpredicate, _⟩ := admit_criterion_ok hp
          exact ⟨hkind, hpredicate⟩
        · rw [hgoal', hids]
        · simp [ConversationState.goal_log, hs']
      · rw [pure_eq_ok.mp h]
        exact .keep rfl
  · rw [pure_eq_ok.mp h]
    exact .keep rfl

/-! ### Actions -/

theorem confirm_criterion_change {a : ConfirmCriterion} {action_seq : Int}
    (hlabel : l.confirms = true) (h : confirm_criterion s action_seq a = .ok s') :
    GoalChange l s.goal_log s'.goal_log := by
  simp only [confirm_criterion, bind_eq_ok, Py.expect_value_eq_ok, Checked.make_eq_ok] at h
  obtain ⟨goal, hgoal, fact, _, added, hadded, hs'⟩ := h
  refine .confirm goal added hlabel hgoal ?_ (by simp [ConversationState.goal_log, hs'])
  intro r hr
  rcases ite_eq_ok.mp hadded with ⟨_, hadded⟩ | ⟨_, hadded⟩
  · simp only [bind_eq_ok, Py.expect_value_eq_ok, pure_eq_ok] at hadded
    obtain ⟨c, hc, record, hrecord, rfl⟩ := hadded
    obtain rfl := List.mem_singleton.mp hr
    exact ⟨c, List.mem_of_find?_eq_some hc, fact, hrecord⟩
  · rw [← pure_eq_ok.mp hadded] at hr
    cases hr

/-- What an action does to the Goal. -/
theorem apply_action_goal_change {clock : String} {action : RuntimeAction}
    {max_replay_records : Int} {now : Option String}
    (h : apply_action rules clock s action now = .ok s') :
    GoalChange (.accept_action clock action max_replay_records now) s.goal_log s'.goal_log := by
  unfold apply_action at h
  cases hbody : action.body <;>
    simp only [hbody, bind_eq_ok, Py.expect_value_eq_ok, Checked.make_eq_ok, pure_eq_ok,
      revoke_process_authority] at h
  case acknowledge_provider_disclosure =>
    obtain ⟨_, _, _, hrun, h⟩ := acknowledge_provider_disclosure_ok h
    exact continues_run_change hrun (by simp [ConversationState.goal_log, h])
  case grant_provider_consent =>
    obtain ⟨_, _, _, hrun, h⟩ := grant_provider_consent_ok h
    exact continues_run_change hrun (by simp [ConversationState.goal_log, h])
  case grant_provider_workspace_read_consent =>
    obtain ⟨_, _, _, hrun, h⟩ := grant_provider_workspace_read_consent_ok h
    exact continues_run_change hrun (by simp [ConversationState.goal_log, h])
  case revoke_provider_consent =>
    obtain ⟨_, _, _, h⟩ := revoke_provider_consent_ok h
    exact .keep (by simp [ConversationState.goal_log, h])
  case submit_message =>
    obtain ⟨_, _, _, _, _, _, h⟩ := submit_message_ok h
    exact .keep (by simp [ConversationState.goal_log, h])
  case resolve_approval =>
    obtain ⟨active, _, h⟩ := h
    simp only [resolve_approval, bind_eq_ok, Py.expect_value_eq_ok, ite_eq_ok] at h
    obtain ⟨pending, _, ⟨_, h⟩ | ⟨_, h⟩⟩ := h
    · exact .admit_criteria (approve_request_change h)
    · obtain ⟨_, _, _, _, _, h⟩ := decline_request_ok h
      exact .keep (by simp [ConversationState.goal_log, h])
  case resolve_unknown_tool_outcome =>
    obtain ⟨_, _, h⟩ := h
    obtain ⟨_, _, _, _, _, _, h⟩ := resolve_unknown_tool_outcome_ok h
    exact .keep (by simp [ConversationState.goal_log, h])
  case recover_unknown_observation =>
    obtain ⟨_, _, h⟩ := h
    obtain ⟨_, _, _, _, _, _, h⟩ := recover_unknown_observation_ok h
    exact .keep (by simp [ConversationState.goal_log, h])
  case abandon_unknown_model_outcome =>
    obtain ⟨_, _, _, _, _, h⟩ := end_run_ok h
    exact .keep (by simp [ConversationState.goal_log, h])
  case resume =>
    obtain ⟨_, _, h⟩ := h
    rcases resume_run_ok h with rfl | ⟨_, _, h⟩
    · exact .keep rfl
    · exact .keep (by simp [ConversationState.goal_log, h])
  case cancel_run =>
    obtain ⟨_, _, h⟩ := h
    obtain ⟨_, _, _, h⟩ := cancel_run_ok h
    exact .keep (by simp [ConversationState.goal_log, h])
  case select_goal =>
    obtain ⟨_, _, h⟩ := h
    cases h
  case pause_goal => exact pause_goal_change h
  case resume_goal => exact resume_goal_change h
  case cancel_goal => exact cancel_goal_change h
  case confirm_criterion =>
    exact confirm_criterion_change (by simp [Transition.confirms, hbody]) h
  case revoke_process_authority => exact .keep (by simp [ConversationState.goal_log, h])
  case revoke_goal_target_authority => exact .keep (by simp [ConversationState.goal_log, h])
  case complete_browser_takeover =>
    obtain ⟨_, h, rfl⟩ := h
    exact .keep (by simp [ConversationState.goal_log, complete_browser_takeover_ok h])
  case cancel_browser_takeover =>
    exact .keep (by simp [ConversationState.goal_log, cancel_browser_takeover_ok h])
  case execute_operator_tool =>
    obtain ⟨_, _, _, _, _, _, _, _, h⟩ := start_operator_tool_ok h
    exact .keep (by simp [ConversationState.goal_log, h])

/-- Healing and counting an action leave the Goal to the action itself. -/
theorem accept_action_goal_change {clock : String} {action : RuntimeAction}
    {max_replay_records : Int} {now : Option String}
    {healed with_replay applied : ConversationState}
    (ha : Accepts rules clock s action max_replay_records now healed with_replay applied s') :
    GoalChange (.accept_action clock action max_replay_records now) s.goal_log s'.goal_log := by
  obtain ⟨_, _, hhealed⟩ := close_orphaned_tool_batches_ok ha.heals
  obtain ⟨_, _, _, _, _, hwith⟩ := append_replay_record_ok ha.records
  have hchange : GoalChange (.accept_action clock action max_replay_records now)
      with_replay.goal_log applied.goal_log := apply_action_goal_change ha.applies
  have hbefore : with_replay.goal_log = s.goal_log := by
    simp [ConversationState.goal_log, hwith, hhealed]
  have hafter : s'.goal_log = applied.goal_log := by
    simp [ConversationState.goal_log, ha.result]
  rwa [hbefore, ← hafter] at hchange

/-! ### Every transition -/

theorem transition_goal_change (h : transition_step rules s l = .ok s') :
    GoalChange l s.goal_log s'.goal_log := by
  have hstep := h
  cases l <;> simp only [transition_step, bind_eq_ok, pure_eq_ok] at h
  case accept_action =>
    obtain ⟨_, _, _, ha⟩ := accept_action_step_ok hstep
    exact accept_action_goal_change ha
  case finalize_action =>
    obtain ⟨_, _, ⟨_, rfl⟩ | ⟨_, _, _, _, _, _, h⟩⟩ := finalize_action_ok h
    · exact .keep rfl
    · exact .keep (by simp [ConversationState.goal_log, h])
  case create_goal => exact create_goal_change h
  case accept_goal_proposal => exact accept_goal_proposal_change h
  case accept_goal_draft_proposal =>
    simp only [accept_goal_draft_proposal, bind_eq_ok] at h
    obtain ⟨_, _, _, _, h⟩ := h
    exact accept_goal_proposal_change h
  case accept_clarification_request =>
    obtain ⟨_, h⟩ := accept_clarification_request_ok h
    exact .keep (by simp [ConversationState.goal_log, h])
  case accept_begin_answer =>
    obtain ⟨_, h⟩ := accept_begin_answer_ok h
    exact .keep (by simp [ConversationState.goal_log, h])
  case record_goal_progress progress =>
    obtain ⟨g, g', _, hg, hopen, _, hg', h⟩ := record_goal_progress_ok h
    exact .restate g g' .executing g.val.created_from_fact_ids (some progress.val.summary)
      (some progress.val.next_step) hg (.inr ⟨hopen, by decide⟩) hg'
      (by simp [ConversationState.goal_log, h])
  case apply_goal_delta => exact apply_goal_delta_change h
  case accept_goal_delta_proposal => exact accept_goal_delta_proposal_change h
  case acknowledge_noop_goal_delta =>
    obtain ⟨g, g', sources, _, hg, hg', h⟩ := acknowledge_noop_goal_delta_ok h
    exact .restate g g' g.val.status sources g.val.progress_summary g.val.next_step hg (.inl rfl)
      hg' (by simp [ConversationState.goal_log, h])
  case accept_blocked_claim claim =>
    obtain ⟨g, g', _, _, _, hg, hopen, _, _, _, _, hg', h⟩ := accept_blocked_claim_ok h
    exact .restate g g' .blocked g.val.created_from_fact_ids g.val.progress_summary
      (some claim.val.resume_condition) hg (.inr ⟨hopen, by decide⟩) hg'
      (by simp [ConversationState.goal_log, h])
  case pause_goal => exact pause_goal_change h
  case resume_goal => exact resume_goal_change h
  case cancel_goal => exact cancel_goal_change h
  case apply_control_request => exact apply_control_request_change h
  case pause_for_provider_disclosure =>
    obtain ⟨_, _, _, _, _, hstatus, _, h⟩ := pause_for_provider_disclosure_ok h
    refine set_goal_status_change hstatus ?_ (by decide) (by simp [ConversationState.goal_log, h])
    intro old hold
    simpa using hold
  case acknowledge_provider_disclosure =>
    obtain ⟨_, _, _, hrun, h⟩ := acknowledge_provider_disclosure_ok h
    exact continues_run_change hrun (by simp [ConversationState.goal_log, h])
  case grant_provider_consent =>
    obtain ⟨_, _, _, hrun, h⟩ := grant_provider_consent_ok h
    exact continues_run_change hrun (by simp [ConversationState.goal_log, h])
  case grant_provider_workspace_read_consent =>
    obtain ⟨_, _, _, hrun, h⟩ := grant_provider_workspace_read_consent_ok h
    exact continues_run_change hrun (by simp [ConversationState.goal_log, h])
  case revoke_provider_consent =>
    obtain ⟨_, _, _, h⟩ := revoke_provider_consent_ok h
    exact .keep (by simp [ConversationState.goal_log, h])
  case record_completion_claim =>
    obtain ⟨_, h⟩ := record_completion_claim_ok h
    exact .keep (by simp [ConversationState.goal_log, h])
  case record_evidence records =>
    rcases record_evidence_ok h with rfl | h
    · exact .keep rfl
    · exact .record records rfl (by simp [ConversationState.goal_log, h])
  case verify_goal_completion =>
    obtain ⟨g, g', hg, hopen, _, hg', h⟩ := verify_goal_completion_ok h
    exact .verify g g' rfl hg hopen hg' (by simp [ConversationState.goal_log, h])
  case begin_browser_takeover =>
    obtain ⟨_, _, _, _, h⟩ := begin_browser_takeover_ok h
    exact .keep (by simp [ConversationState.goal_log, h])
  case complete_browser_takeover =>
    obtain ⟨_, h, rfl⟩ := h
    exact .keep (by simp [ConversationState.goal_log, complete_browser_takeover_ok h])
  case cancel_browser_takeover =>
    exact .keep (by simp [ConversationState.goal_log, cancel_browser_takeover_ok h])
  case admit_process_receipt_criterion =>
    exact .admit_criteria (admit_process_receipt_criterion_step h)
  case admit_sandbox_receipt_criterion =>
    exact .admit_criteria (admit_sandbox_receipt_criterion_step h)
  case admit_governed_tool_receipt_criterion =>
    exact .admit_criteria (admit_governed_tool_receipt_criterion_step h)
  case admit_web_source_criterion => exact admit_web_source_criterion_change h
  case claim_run =>
    obtain ⟨_, _, _, _, _, h⟩ := claim_run_ok h
    exact .keep (by simp [ConversationState.goal_log, h])
  case reclaim_background_run =>
    obtain ⟨_, _, _, _, h⟩ := reclaim_background_run_ok h
    exact .keep (by simp [ConversationState.goal_log, h])
  case ensure_run_started =>
    rcases ensure_run_started_ok h with rfl | ⟨_, _, _, _, h⟩
    · exact .keep rfl
    · exact .keep (by simp [ConversationState.goal_log, h])
  case complete_run =>
    obtain ⟨_, _, _, _, _, _, h⟩ := complete_run_ok h
    exact .keep (by simp [ConversationState.goal_log, h])
  case end_run =>
    obtain ⟨_, _, _, _, _, h⟩ := end_run_ok h
    exact .keep (by simp [ConversationState.goal_log, h])
  case fail_run =>
    obtain ⟨_, _, _, _, _, h⟩ := end_run_ok h
    exact .keep (by simp [ConversationState.goal_log, h])
  case pause_for_limit =>
    obtain ⟨_, _, _, _, _, h⟩ := pause_run_ok h
    exact .keep (by simp [ConversationState.goal_log, h])
  case pause_for_retryable =>
    obtain ⟨_, _, _, _, _, h⟩ := pause_run_ok h
    exact .keep (by simp [ConversationState.goal_log, h])
  case begin_provider_call =>
    obtain ⟨_, _, _, _, _, h⟩ := begin_provider_call_ok h
    exact .keep (by simp [ConversationState.goal_log, h])
  case record_foreground_model_attempt =>
    obtain ⟨_, _, _, _, h⟩ := record_foreground_model_attempt_ok h
    exact .keep (by simp [ConversationState.goal_log, h])
  case record_provider_response =>
    obtain ⟨_, _, _, _, h⟩ := record_provider_response_ok h
    exact .keep (by simp [ConversationState.goal_log, h])
  case consume_provider_response =>
    obtain ⟨_, _, _, _, h⟩ := consume_provider_response_ok h
    exact .keep (by simp [ConversationState.goal_log, h])
  case mark_model_outcome_unknown =>
    obtain ⟨_, _, _, _, h⟩ := mark_model_outcome_unknown_ok h
    exact .keep (by simp [ConversationState.goal_log, h])
  case reject_persisted_response =>
    obtain ⟨_, _, _, _, h⟩ := reject_persisted_response_ok h
    exact .keep (by simp [ConversationState.goal_log, h])
  case charge_consent_grant =>
    obtain ⟨_, h⟩ := charge_consent_grant_ok h
    exact .keep (by simp [ConversationState.goal_log, h])
  case consume_disclosure_receipt =>
    obtain ⟨_, h⟩ := consume_disclosure_receipt_ok h
    exact .keep (by simp [ConversationState.goal_log, h])
  case invalidate_provider_consent =>
    rcases invalidate_provider_consent_ok h with rfl | ⟨_, h⟩
    · exact .keep rfl
    · exact .keep (by simp [ConversationState.goal_log, h])
  case start_operator_tool =>
    obtain ⟨_, _, _, _, _, _, _, _, h⟩ := start_operator_tool_ok h
    exact .keep (by simp [ConversationState.goal_log, h])
  case release_operator_tool =>
    obtain ⟨_, _, _, _, h⟩ := release_operator_tool_ok h
    exact .keep (by simp [ConversationState.goal_log, h])
  case start_tool_batch =>
    obtain ⟨_, _, _, _, h⟩ := start_tool_batch_ok h
    exact .keep (by simp [ConversationState.goal_log, h])
  case record_nonexecuted_tool_result =>
    obtain ⟨_, _, _, _, h⟩ := record_nonexecuted_tool_result_ok h
    exact .keep (by simp [ConversationState.goal_log, h])
  case pause_for_approval =>
    obtain ⟨_, _, _, _, _, h⟩ := pause_for_approval_ok h
    exact .keep (by simp [ConversationState.goal_log, h])
  case mark_executing =>
    obtain ⟨_, _, _, _, _, _, _, _, _, _, _, _, _, _, _, _, h⟩ := mark_executing_ok h
    exact .keep (by simp [ConversationState.goal_log, h])
  case record_tool_result =>
    obtain ⟨_, _, _, _, _, _, _, _, _, _, _, _, h⟩ := record_tool_result_ok h
    exact .keep (by simp [ConversationState.goal_log, h])
  case pause_for_recovery =>
    obtain ⟨_, _, _, _, _, h⟩ := pause_for_recovery_ok h
    exact .keep (by simp [ConversationState.goal_log, h])
  case append_policy_result =>
    obtain ⟨_, _, h⟩ := append_policy_result_ok h
    exact .keep (by simp [ConversationState.goal_log, h])
  case apply_compaction_summary =>
    obtain ⟨_, _, _, _, _, _, _, _, h⟩ := apply_compaction_summary_ok h
    exact .keep (by simp [ConversationState.goal_log, h])
  case adopt_workspace_binding =>
    exact .keep (by simp [ConversationState.goal_log, adopt_workspace_binding_ok h])

end Goals
