import FirstAgent.Invariants.RunChange

/-! # Every Step Is One Change of the Run

    The changes the actions make, and with them the change of every label.  An
    accepted action changes the state with its orphans closed. -/

open Fallible

section Actions

variable {rules : TextRules} {l : Transition} {s s' : ConversationState} {action_seq : Int}

/-! ### Messages -/

/-- A message starts a run where there is none, and otherwise replaces a run
    that awaits approval; only a correction answers the calls it withdraws. -/
theorem submit_message_run_change {run_id message : String}
    (h : submit_message s action_seq run_id message = .ok s') (hl : l.submits = true)
    (hawaiting : ∀ active, s.val.active_run = some active →
      active.val.status = .awaiting_approval) : ChangesRun l s s' := by
  obtain ⟨withdrawn, fact, active', hfact, hwithdrawn, hactive', h⟩ := submit_message_ok h
  have hnote : ∀ f ∈ [fact], f.is_note :=
    notes_singleton (note_of_kind hfact (by decide) (by decide))
  have hcore' : s'.run_log.core = some {} := by
    rw [run_log_core (show s'.val.active_run = some active' by rw [h]), hactive']
    rfl
  cases hactive : s.val.active_run with
  | none =>
    have hnone : withdrawn = [] := by
      have : withdrawn_calls s = [] := by simp [withdrawn_calls, hactive]
      simpa [this] using hwithdrawn
    exact .fresh [fact] hnote (by simp [h, hnone]) (run_log_core_none hactive) hcore'
  | some active =>
    have hstatus := hawaiting active hactive
    have hintent := (ActiveRun.of_tool_phase (ActiveRun.of_awaiting_approval hstatus).1).2
    obtain ⟨hidle, _⟩ := no_provider_call active (by rw [hstatus]; decide)
      (by rw [hstatus]; decide)
    cases hcorrection : is_correction s with
    | true =>
      have hcalls : withdrawn_calls s =
          active.val.tool_calls.drop active.val.batch_cursor := by
        simp [withdrawn_calls, hcorrection, hactive]
      rw [hcalls] at hwithdrawn
      refine .close active.val.core withdrawn [fact] hwithdrawn hnote (by simp [h])
        (run_log_core hactive) hintent ?_ (.inr hcore')
      intro i hi
      rw [ActiveRunFields.core, hidle] at hi
      cases hi
    | false =>
      have hnone : withdrawn = [] := by
        have : withdrawn_calls s = [] := by simp [withdrawn_calls, hcorrection]
        simpa [this] using hwithdrawn
      exact .discard active.val.core [fact] hnote (by simp [h, hnone]) (run_log_core hactive)
        hintent hidle hl (by simp [message_discards, hcorrection, hactive, hstatus]) hcore'

/-! ### Approvals and recovery -/

theorem approve_request_run_change {active : ActiveRun} {pending : ApprovalRequest}
    {digest : String} {a : ResolveApproval} (hactive : s.val.active_run = some active)
    (h : approve_request rules s active pending action_seq digest a = .ok s') :
    ChangesRun l s s' := by
  obtain ⟨active', t₁, t₂, _, _, ⟨_, _, hactive'⟩, ⟨_, _, s₁, h₁, hs₁⟩, h₂, h₃⟩ :=
    approve_request_ok h
  have hrun : ∀ {t u : ConversationState}, admission_step t u →
      u.val.facts = t.val.facts ∧ u.val.active_run = t.val.active_run := by
    rintro t u (rfl | ⟨_, _, _, _, _, _, _, hu⟩)
    · exact ⟨rfl, rfl⟩
    · exact ⟨by rw [hu], by rw [hu]⟩
  have hmint : t₂.val.facts = t₁.val.facts ∧ t₂.val.active_run = t₁.val.active_run := by
    rcases h₂ with ⟨_, _, h₂⟩ | ⟨_, _, _, _, _, _, h₂⟩ <;> exact ⟨by rw [h₂], by rw [h₂]⟩
  refine adjust_run hactive active' ?_ ?_ (by rw [hactive']; rfl)
  · rw [(hrun h₃).2, hmint.2, (hrun h₁).2, hs₁]
  · rw [(hrun h₃).1, hmint.1, (hrun h₁).1, hs₁]

/-- The call an awaiting run holds a request for. -/
theorem pending_call {active : ActiveRun} {pending : ApprovalRequest}
    (hstatus : active.val.status = .awaiting_approval)
    (hpending : pending_approval active = some pending) :
    ∃ call, active.val.tool_calls[active.val.batch_cursor]? = some call ∧
      call.val.tool_call_id = pending.val.tool_call_id := by
  obtain ⟨_, p, hp, hcall⟩ := ActiveRun.of_awaiting_approval hstatus
  rw [pending_approval, hp] at hpending
  cases hpending
  simpa [ActiveRunFields.current_call_is, ActiveRunFields.current_call, Option.any_eq_true]
    using hcall

theorem decline_request_run_change {active : ActiveRun} {pending : ApprovalRequest}
    (hactive : s.val.active_run = some active)
    (hstatus : active.val.status = .awaiting_approval)
    (hpending : pending_approval active = some pending)
    (h : decline_request s active pending action_seq = .ok s') : ChangesRun l s s' := by
  obtain ⟨rejection, suffix, _, hrejection, hsuffix, h⟩ := decline_request_ok h
  obtain ⟨call, hcall, hid⟩ := pending_call hstatus hpending
  have htool := (ActiveRun.of_awaiting_approval hstatus).1
  obtain ⟨hidle, _⟩ := no_provider_call active (by rw [hstatus]; decide)
    (by rw [hstatus]; decide)
  refine .close active.val.core (rejection :: suffix) [] ?_ (by simp) (by simp [h])
    (run_log_core hactive) (ActiveRun.of_tool_phase htool).2 ?_
    (.inl (run_log_core_none (by rw [h])))
  · obtain ⟨hlt, rfl⟩ := List.getElem?_eq_some_iff.mp hcall
    have hdrop : active.val.core.tool_calls.drop active.val.core.batch_cursor = _ :=
      List.drop_eq_getElem_cons hlt
    rw [Answers, hdrop, List.map_cons, List.map_cons, hrejection, hid, hsuffix]
    simp [unstarted_calls, hactive, htool]
  · intro i hi
    rw [ActiveRunFields.core, hidle] at hi
    cases hi

theorem resolve_unknown_tool_outcome_run_change {active : ActiveRun}
    {resolution : RecoveryResolution} (hactive : s.val.active_run = some active)
    (hstatus : active.val.status = .awaiting_recovery)
    (h : resolve_unknown_tool_outcome s active action_seq resolution = .ok s')
    (hl : ∀ i, active.val.executing_intent = some i → l.resolves i = true) :
    ChangesRun l s s' := by
  obtain ⟨pending, fact, active', hpending, hfact, hactive', h⟩ :=
    resolve_unknown_tool_outcome_ok h
  obtain ⟨hphase, p, i, hp, hi, hid, _⟩ := ActiveRun.of_awaiting_recovery hstatus
  obtain ⟨call, _, hcall, hi', hcallid⟩ := ActiveRun.of_executing_phase hphase
  rw [hi] at hi'
  cases hi'
  rw [pending_recovery, hp] at hpending
  cases hpending
  refine .answer active.val.core call fact (by simp [Answers, hfact, hid, hcallid])
    (by simp [h]) (run_log_core hactive) hcall hl ?_
  rw [run_log_core (show s'.val.active_run = some active' by rw [h]), hactive']
  rfl

theorem recover_unknown_observation_run_change {active : ActiveRun}
    (hactive : s.val.active_run = some active)
    (h : recover_unknown_observation s active action_seq = .ok s')
    (hl : ∀ i, active.val.executing_intent = some i → l.resolves i = true) :
    ChangesRun l s s' := by
  obtain ⟨intent, fact, active', hintent, hfact, hactive', h⟩ := recover_unknown_observation_ok h
  obtain ⟨call, i, hcall, hi, hid⟩ :=
    ActiveRun.of_executing_phase (ActiveRun.phase_of_intent hintent)
  obtain rfl := Option.some.inj (hintent.symm.trans hi)
  refine .answer active.val.core call fact (by simp [Answers, hfact, hid]) (by simp [h])
    (run_log_core hactive) hcall hl ?_
  rw [run_log_core (show s'.val.active_run = some active' by rw [h]), hactive']
  rfl

theorem resume_run_run_change {active : ActiveRun} (hactive : s.val.active_run = some active)
    (h : resume_run s active = .ok s') : ChangesRun l s s' := by
  rcases resume_run_ok h with rfl | ⟨active', hactive', h⟩
  · exact keep_run rfl rfl
  · exact adjust_run hactive active' (by rw [h]) (by rw [h]) (by rw [hactive']; rfl)

theorem cancel_run_run_change {active : ActiveRun} (hactive : s.val.active_run = some active)
    (hlegal : cancel_run_is_legal active = .ok ()) (h : cancel_run s active = .ok s') :
    ChangesRun l s s' := by
  simp only [cancel_run_is_legal, bind_eq_ok, refuse_eq_ok, not_and, Bool.not_eq_false] at hlegal
  obtain ⟨_, hphase, hstatus⟩ := hlegal
  have hresumable : active.val.status ≠ .model_executing ∧
      active.val.status ≠ .model_outcome_unknown ∧ active.val.status ≠ .awaiting_recovery := by
    refine ⟨?_, ?_, ?_⟩ <;> rintro hs <;> simp [hs, ActiveRunStatus.is_resumable] at hstatus
  have hidle : active.val.phase ≠ .executing := by
    simp only [ActiveRunStatus.is_resumable, Bool.or_eq_true, decide_eq_true_eq] at hstatus
    rcases hstatus with ((hs | hs) | hs) | hs
    · exact hphase hs
    · rw [(ActiveRun.of_awaiting_approval hs).1]
      decide
    · exact ActiveRun.of_paused (.inl hs)
    · exact ActiveRun.of_paused (.inr hs)
  have hknown : has_unknown_effect s = false := by
    simp [has_unknown_effect, hactive, hidle, hresumable.2.2]
  obtain ⟨suffix, _, hsuffix, h⟩ := cancel_run_ok h
  refine close_run hactive hknown hsuffix (List.forall_mem_nil _) (by simp [h]) (by rw [h]) ?_
  intro i hi
  rw [(no_provider_call active hresumable.1 hresumable.2.1).1] at hi
  cases hi

/-! ### Actions -/

/-- A legal action makes one change; the state it is applied to has the run
    its legality was tested on. -/
theorem apply_action_run_change {clock : String} {action : RuntimeAction}
    {max_replay_records : Int} {now : Option String} {t : ConversationState}
    (hlegal : action_is_legal s action.body = .ok ()) (hrun : t.val.active_run = s.val.active_run)
    (h : apply_action rules clock t action now = .ok s') :
    ChangesRun (.accept_action clock action max_replay_records now) t s' := by
  unfold apply_action at h
  cases hbody : action.body <;>
    simp only [hbody, bind_eq_ok, Py.expect_value_eq_ok, Checked.make_eq_ok, pure_eq_ok,
      revoke_process_authority] at h <;>
    simp only [hbody, action_is_legal, run_action_is_legal, bind_eq_ok, expect_eq_ok,
      ← hrun] at hlegal
  case submit_message =>
    simp only [submit_message_is_legal, bind_eq_ok, refuse_eq_ok, hrun.symm] at hlegal
    refine submit_message_run_change h (by simp [Transition.submits, hbody]) ?_
    intro active hactive
    simpa [hactive] using hlegal.choose_spec.1
  case resolve_approval =>
    obtain ⟨active, hactive, h⟩ := h
    obtain ⟨_, hactive', hlegal⟩ := hlegal
    cases hactive.symm.trans hactive'
    simp only [resolve_approval_is_legal, bind_eq_ok, refuse_eq_ok, not_not] at hlegal
    obtain ⟨_, hstatus, _⟩ := hlegal
    simp only [resolve_approval, bind_eq_ok, Py.expect_value_eq_ok, ite_eq_ok] at h
    obtain ⟨pending, hpending, ⟨_, h⟩ | ⟨_, h⟩⟩ := h
    · exact approve_request_run_change hactive h
    · exact decline_request_run_change hactive hstatus hpending h
  case resolve_unknown_tool_outcome =>
    obtain ⟨active, hactive, h⟩ := h
    obtain ⟨_, hactive', hlegal⟩ := hlegal
    cases hactive.symm.trans hactive'
    simp only [resolve_unknown_is_legal, bind_eq_ok, refuse_eq_ok, expect_eq_ok, not_or,
      not_not] at hlegal
    obtain ⟨_, hstatus, pending, hpending, _, ⟨_, hdigest⟩, _⟩ := hlegal
    refine resolve_unknown_tool_outcome_run_change hactive hstatus h ?_
    intro i hi
    obtain ⟨_, p, i', hp, hi', _, hbinds⟩ := ActiveRun.of_awaiting_recovery hstatus
    obtain rfl := Option.some.inj (hi.symm.trans hi')
    rw [pending_recovery, hp] at hpending
    cases hpending
    simp [Transition.resolves, hbody, hdigest, hbinds]
  case recover_unknown_observation =>
    obtain ⟨active, hactive, h⟩ := h
    obtain ⟨_, hactive', hlegal⟩ := hlegal
    cases hactive.symm.trans hactive'
    simp only [recover_observation_is_legal, bind_eq_ok, refuse_eq_ok, expect_eq_ok, not_or,
      not_not] at hlegal
    obtain ⟨i, hi, _, _, _, hdigest⟩ := hlegal
    refine recover_unknown_observation_run_change hactive h ?_
    intro i' hi'
    obtain rfl := Option.some.inj (hi.symm.trans hi')
    simp [Transition.resolves, hbody, hdigest]
  case abandon_unknown_model_outcome =>
    refine end_run_run_change h ?_
    intro active i hactive hi
    simp only [abandon_is_legal, bind_eq_ok, expect_eq_ok, refuse_eq_ok, ← hrun, not_or,
      not_not] at hlegal
    obtain ⟨_, _, _, hactive', i', hi', _, _, _, hdigest⟩ := hlegal
    cases hactive.symm.trans hactive'
    obtain rfl := Option.some.inj (hi.symm.trans hi')
    exact .inr (by simp [Transition.abandons, hbody, hdigest])
  case resume =>
    obtain ⟨active, hactive, h⟩ := h
    exact resume_run_run_change hactive h
  case cancel_run =>
    obtain ⟨active, hactive, h⟩ := h
    obtain ⟨_, hactive', hlegal⟩ := hlegal
    cases hactive.symm.trans hactive'
    exact cancel_run_run_change hactive hlegal h
  case acknowledge_provider_disclosure =>
    obtain ⟨_, active', _, hcontinues, h⟩ := acknowledge_provider_disclosure_ok h
    exact continue_run hcontinues (by rw [h]) (by rw [h])
  case grant_provider_consent =>
    obtain ⟨_, active', _, hcontinues, h⟩ := grant_provider_consent_ok h
    exact continue_run hcontinues (by rw [h]) (by rw [h])
  case grant_provider_workspace_read_consent =>
    obtain ⟨_, active', _, hcontinues, h⟩ := grant_provider_workspace_read_consent_ok h
    exact continue_run hcontinues (by rw [h]) (by rw [h])
  case revoke_provider_consent => exact revoke_provider_consent_run_change h
  case select_goal =>
    obtain ⟨_, _, h⟩ := h
    cases h
  case pause_goal =>
    exact pause_goal_run_change h (by simp [Transition.drops_run, hbody])
  case resume_goal =>
    obtain ⟨_, _, _, _, _, h⟩ := resume_goal_ok h
    exact keep_run (by rw [h]) (by rw [h])
  case cancel_goal =>
    exact cancel_goal_run_change h (by simp [Transition.drops_run, hbody])
  case confirm_criterion =>
    obtain ⟨fact, _, hfact, h⟩ := confirm_criterion_ok h
    simp only [confirm_criterion_is_legal, bind_eq_ok, expect_eq_ok, refuse_eq_ok, not_or,
      not_not, ← hrun] at hlegal
    obtain ⟨_, _, _, ⟨_, _, hnone⟩, _⟩ := hlegal
    exact .note [fact] (notes_singleton (note_of_kind hfact (by decide) (by decide)))
      (by simp [h]) (by simp [ConversationState.run_log, h])
      (.inr (.inl (run_log_core_none hnone)))
  case revoke_process_authority => exact keep_run (by rw [h]) (by rw [h])
  case revoke_goal_target_authority => exact keep_run (by rw [h]) (by rw [h])
  case complete_browser_takeover =>
    obtain ⟨_, h, rfl⟩ := h
    have h := complete_browser_takeover_ok h
    exact keep_run (by rw [h]) (by rw [h])
  case cancel_browser_takeover =>
    have h := cancel_browser_takeover_ok h
    exact keep_run (by rw [h]) (by rw [h])
  case execute_operator_tool =>
    simp only [operator_tool_is_legal, bind_eq_ok, expect_eq_ok, refuse_eq_ok, not_or, not_not,
      ← hrun] at hlegal
    obtain ⟨_, _, _, _, _, _, active, hactive, _, hphase, _⟩ := hlegal
    refine start_operator_tool_run_change h (by simp [Transition.starts_batch, hbody]) (.inr ?_)
    intro active' hactive'
    cases hactive.symm.trans hactive'
    exact hphase

end Actions

/-! ### Steps -/

section Steps

variable {rules : TextRules} {l : Transition} {s s' t : ConversationState}

/-- The state a step changes: an accepted action has its orphans closed. -/
def Heals (s t : ConversationState) : Prop :=
  t = s ∨ ∃ action_seq, close_orphaned_tool_batches s action_seq (live_call_ids s) = .ok (some t)

theorem Heals.core (h : Heals s t) : t.run_log.core = s.run_log.core := by
  rcases h with rfl | ⟨_, h⟩
  · rfl
  · obtain ⟨_, _, h⟩ := close_orphaned_tool_batches_ok h
    simp [ConversationState.run_log, h]

theorem accept_action_run_change {clock : String} {action : RuntimeAction}
    {max_replay_records : Int} {now : Option String}
    {healed with_replay applied : ConversationState}
    (ha : Accepts rules clock s action max_replay_records now healed with_replay applied s') :
    ChangesRun (.accept_action clock action max_replay_records now) healed s' := by
  obtain ⟨_, _, hhealed⟩ := close_orphaned_tool_batches_ok ha.heals
  obtain ⟨_, _, _, _, _, hwith⟩ := append_replay_record_ok ha.records
  have hchange : ChangesRun (.accept_action clock action max_replay_records now)
      with_replay applied :=
    apply_action_run_change ha.legal (by rw [hwith, hhealed]) ha.applies
  have hbefore : with_replay.run_log = healed.run_log := by
    simp [ConversationState.run_log, hwith]
  have hdiscards : message_discards with_replay = message_discards healed := by
    simp [message_discards, is_correction, hwith]
  have hafter : s'.run_log = applied.run_log := by
    simp [ConversationState.run_log, ha.result]
  rwa [ChangesRun, hbefore, hdiscards, ← hafter] at hchange

/-- Every other label changes the state itself. -/
theorem runtime_step_run_change (h : transition_step rules s l = .ok s')
    (haction : ∀ clock action max_replay_records now,
      l ≠ .accept_action clock action max_replay_records now) : ChangesRun l s s' := by
  cases l <;> simp only [transition_step, bind_eq_ok, pure_eq_ok] at h
  case accept_action => exact absurd rfl (haction _ _ _ _)
  case finalize_action =>
    obtain ⟨_, _, ⟨_, rfl⟩ | ⟨_, _, _, _, _, _, h⟩⟩ := finalize_action_ok h
    · exact keep_run rfl rfl
    · exact keep_run (by rw [h]) (by rw [h])
  case create_goal =>
    obtain ⟨_, h⟩ := create_goal_ok h
    exact keep_run (by rw [h]) (by rw [h])
  case accept_clarification_request =>
    obtain ⟨_, h⟩ := accept_clarification_request_ok h
    exact keep_run (by rw [h]) (by rw [h])
  case accept_begin_answer =>
    obtain ⟨_, h⟩ := accept_begin_answer_ok h
    exact keep_run (by rw [h]) (by rw [h])
  case accept_goal_proposal =>
    obtain ⟨_, _, h⟩ := accept_goal_proposal_ok h
    exact keep_run (by rw [h]) (by rw [h])
  case accept_goal_draft_proposal =>
    obtain ⟨_, _, _, h⟩ := accept_goal_draft_proposal_ok h
    exact keep_run (by rw [h]) (by rw [h])
  case record_goal_progress =>
    obtain ⟨_, _, _, _, _, _, _, h⟩ := record_goal_progress_ok h
    exact keep_run (by rw [h]) (by rw [h])
  case apply_goal_delta =>
    obtain ⟨_, _, _, _, _, _, _, _, _, h⟩ := apply_goal_delta_ok h
    exact keep_run (by rw [h]) (by rw [h])
  case accept_goal_delta_proposal =>
    obtain ⟨_, _, _, _, _, _, _, _, h⟩ := accept_goal_delta_proposal_ok h
    exact keep_run (by rw [h]) (by rw [h])
  case acknowledge_noop_goal_delta =>
    obtain ⟨_, _, _, _, _, _, h⟩ := acknowledge_noop_goal_delta_ok h
    exact keep_run (by rw [h]) (by rw [h])
  case accept_blocked_claim => exact accept_blocked_claim_run_change h rfl
  case pause_goal => exact pause_goal_run_change h rfl
  case resume_goal =>
    obtain ⟨_, _, _, _, _, h⟩ := resume_goal_ok h
    exact keep_run (by rw [h]) (by rw [h])
  case cancel_goal => exact cancel_goal_run_change h rfl
  case apply_control_request => exact apply_control_request_run_change h rfl
  case pause_for_provider_disclosure =>
    obtain ⟨_, _, active', hactive, _, _, hactive', h⟩ := pause_for_provider_disclosure_ok h
    exact adjust_run hactive active' (by rw [h]) (by rw [h]) (by rw [hactive']; rfl)
  case acknowledge_provider_disclosure =>
    obtain ⟨_, active', _, hcontinues, h⟩ := acknowledge_provider_disclosure_ok h
    exact continue_run hcontinues (by rw [h]) (by rw [h])
  case grant_provider_consent =>
    obtain ⟨_, active', _, hcontinues, h⟩ := grant_provider_consent_ok h
    exact continue_run hcontinues (by rw [h]) (by rw [h])
  case grant_provider_workspace_read_consent =>
    obtain ⟨_, active', _, hcontinues, h⟩ := grant_provider_workspace_read_consent_ok h
    exact continue_run hcontinues (by rw [h]) (by rw [h])
  case revoke_provider_consent => exact revoke_provider_consent_run_change h
  case record_completion_claim =>
    obtain ⟨_, h⟩ := record_completion_claim_ok h
    exact keep_run (by rw [h]) (by rw [h])
  case record_evidence =>
    rcases record_evidence_ok h with rfl | h
    · exact keep_run rfl rfl
    · exact keep_run (by rw [h]) (by rw [h])
  case verify_goal_completion =>
    obtain ⟨_, _, _, _, _, _, h⟩ := verify_goal_completion_ok h
    exact keep_run (by rw [h]) (by rw [h])
  case begin_browser_takeover => exact begin_browser_takeover_run_change h
  case complete_browser_takeover =>
    obtain ⟨_, h, rfl⟩ := h
    have h := complete_browser_takeover_ok h
    exact keep_run (by rw [h]) (by rw [h])
  case cancel_browser_takeover =>
    have h := cancel_browser_takeover_ok h
    exact keep_run (by rw [h]) (by rw [h])
  case admit_process_receipt_criterion =>
    exact (admit_process_receipt_criterion_ok h).run_change
  case admit_sandbox_receipt_criterion =>
    exact (admit_sandbox_receipt_criterion_ok h).run_change
  case admit_governed_tool_receipt_criterion =>
    exact (admit_governed_tool_receipt_criterion_ok h).run_change
  case admit_web_source_criterion => exact (admit_web_source_criterion_ok h).run_change
  case claim_run =>
    obtain ⟨_, active', hactive, _, hactive', h⟩ := claim_run_ok h
    exact adjust_run hactive active' (by rw [h]) (by rw [h]) (by rw [hactive']; rfl)
  case reclaim_background_run =>
    obtain ⟨_, active', hactive, hactive', h⟩ := reclaim_background_run_ok h
    exact adjust_run hactive active' (by rw [h]) (by rw [h]) (by rw [hactive']; rfl)
  case ensure_run_started => exact ensure_run_started_run_change h
  case complete_run => exact complete_run_run_change h rfl
  case end_run => exact end_run_run_change h fun _ _ _ _ => .inl rfl
  case fail_run => exact end_run_run_change h fun _ _ _ _ => .inl rfl
  case pause_for_limit =>
    obtain ⟨_, active', hactive, _, hactive', h⟩ := pause_run_ok h
    exact adjust_run hactive active' (by rw [h]) (by rw [h]) (by rw [hactive']; rfl)
  case pause_for_retryable =>
    obtain ⟨_, active', hactive, _, hactive', h⟩ := pause_run_ok h
    exact adjust_run hactive active' (by rw [h]) (by rw [h]) (by rw [hactive']; rfl)
  case begin_provider_call => exact begin_provider_call_run_change h
  case record_foreground_model_attempt =>
    obtain ⟨_, active', hactive, hactive', h⟩ := record_foreground_model_attempt_ok h
    exact adjust_run hactive active' (by rw [h]) (by rw [h]) (by rw [hactive']; rfl)
  case record_provider_response => exact record_provider_response_run_change h rfl
  case consume_provider_response => exact consume_provider_response_run_change h rfl
  case mark_model_outcome_unknown => exact mark_model_outcome_unknown_run_change h
  case reject_persisted_response => exact reject_persisted_response_run_change h
  case charge_consent_grant =>
    obtain ⟨_, h⟩ := charge_consent_grant_ok h
    exact keep_run (by rw [h]) (by rw [h])
  case consume_disclosure_receipt =>
    obtain ⟨_, h⟩ := consume_disclosure_receipt_ok h
    exact keep_run (by rw [h]) (by rw [h])
  case invalidate_provider_consent =>
    rcases invalidate_provider_consent_ok h with rfl | ⟨_, h⟩
    · exact keep_run rfl rfl
    · exact keep_run (by rw [h]) (by rw [h])
  case start_operator_tool => exact start_operator_tool_run_change h rfl (.inl rfl)
  case release_operator_tool =>
    obtain ⟨_, active', hactive, hactive', h⟩ := release_operator_tool_ok h
    exact adjust_run hactive active' (by rw [h]) (by rw [h]) (by rw [hactive']; rfl)
  case start_tool_batch => exact start_tool_batch_run_change h rfl
  case record_nonexecuted_tool_result => exact record_nonexecuted_tool_result_run_change h
  case pause_for_approval =>
    obtain ⟨_, active', hactive, _, hactive', h⟩ := pause_for_approval_ok h
    exact adjust_run hactive active' (by rw [h]) (by rw [h]) (by rw [hactive']; rfl)
  case mark_executing => exact mark_executing_run_change h rfl
  case record_tool_result => exact record_tool_result_run_change h rfl
  case pause_for_recovery =>
    obtain ⟨_, active', hactive, _, hactive', h⟩ := pause_for_recovery_ok h
    exact adjust_run hactive active' (by rw [h]) (by rw [h]) (by rw [hactive']; rfl)
  case append_policy_result => exact append_policy_result_run_change h rfl
  case apply_compaction_summary => exact apply_compaction_summary_run_change h rfl
  case adopt_workspace_binding =>
    have h := adopt_workspace_binding_ok h
    exact keep_run (by rw [h]) (by rw [h])

/-- Every step is one change of the run, of the state or of the state with its
    orphans closed. -/
theorem transition_run_change (h : transition_step rules s l = .ok s') :
    ∃ t, Heals s t ∧ message_discards t = message_discards s ∧ ChangesRun l t s' := by
  by_cases haction : ∃ clock action max_replay_records now,
      l = .accept_action clock action max_replay_records now
  · obtain ⟨clock, action, max_replay_records, now, rfl⟩ := haction
    obtain ⟨healed, _, _, ha⟩ := accept_action_step_ok h
    obtain ⟨_, _, hhealed⟩ := close_orphaned_tool_batches_ok ha.heals
    exact ⟨healed, .inr ⟨_, ha.heals⟩, by simp [message_discards, is_correction, hhealed],
      accept_action_run_change ha⟩
  · exact ⟨s, .inl rfl, rfl, runtime_step_run_change h fun clock action max_replay_records now hl =>
      haction ⟨clock, action, max_replay_records, now, hl⟩⟩

end Steps
