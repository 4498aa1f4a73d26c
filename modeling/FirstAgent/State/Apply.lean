import FirstAgent.State.Admission
import FirstAgent.State.Legality
import FirstAgent.State.Runs

/-! # Applying Actions

    `_apply_action`: the state an accepted action leaves, before the revision
    is set.  What the action finds in the wrong shape it raises on; legality
    has ruled that out. -/

open Fallible

/-! ### Messages -/

/-- The message is a correction of the Goal: the Goal is neither paused nor
    terminal, and no run is past its approval. -/
def is_correction (s : ConversationState) : Bool :=
  (s.val.goal.any fun g => g.val.status ≠ .paused && !g.val.status.is_terminal) &&
    s.val.active_run.all fun r => r.val.status = .awaiting_approval

/-- The calls a correction withdraws: the current one and those after it. -/
def withdrawn_calls (s : ConversationState) : List ToolCall :=
  if is_correction s then
    match s.val.active_run with
    | none        => []
    | some active => active.val.tool_calls.drop active.val.batch_cursor
  else []

def withdrawn_facts (s : ConversationState) (action_seq : Int) : Py (List ConversationFact) :=
  (withdrawn_calls s).mapM fun c => superseded_tool_result_fact
    ("action:" ++ toString action_seq ++ ":superseded-tool:" ++ c.val.tool_call_id)
    c.val.tool_call_id "Tool call was not executed because the user corrected the Goal."
    (s.val.active_run.map fun r => r.val.invocation_origin.value)

def user_message_fact (s : ConversationState) (action_seq : Int) (message : String) :
    Py ConversationFact :=
  Checked.make {
    fact_id := "action:" ++ toString action_seq ++ ":user"
    kind := .user_message
    content := JsonDict.of (("text", .str message) ::
      if is_correction s then [("control", .str "goal_correction")] else []) }

/-- A message that is no correction replaces an awaiting run without answering
    the calls it holds. -/
def submit_message (s : ConversationState) (action_seq : Int) (run_id message : String) :
    Py ConversationState := do
  let withdrawn ← withdrawn_facts s action_seq
  let fact ← user_message_fact s action_seq message
  let active ← Checked.make { run_id := run_id }
  let terminal_goal := s.val.goal.any fun g => g.val.status.is_terminal
  Checked.make { s.val with
    facts := s.val.facts ++ withdrawn ++ [fact]
    active_run := some active
    completion_claim := if terminal_goal then s.val.completion_claim else none
    interaction_state := .idle }

/-! ### Criterion confirmation -/

/-- The evidence a confirmation is. -/
def confirmation_evidence (goal : GoalFrame) (c : AdmittedCriterion) (fact : ConversationFact) :
    Py EvidenceRecord :=
  Checked.make {
    evidence_id := "evidence:" ++ goal.val.goal_id ++ ":" ++ toString goal.val.revision ++ ":" ++
      c.val.criterion_id
    goal_id := goal.val.goal_id
    goal_revision := goal.val.revision
    criterion_id := c.val.criterion_id
    oracle_kind := c.val.oracle_kind
    predicate_digest := canonical_json_digest (.dict c.val.predicate)
    source_fact_ids := [fact.val.fact_id]
    source_digest := canonical_json_digest (.arr [fact.asdict])
    oracle_identity := "user-confirmation:v1"
    passed := true
    observed_at := "operator-confirmed" }

def confirm_criterion (s : ConversationState) (action_seq : Int) (a : ConfirmCriterion) :
    Py ConversationState := do
  let goal ← Py.expect_value s.val.goal "criterion confirmation requires a goal"
  let fact ← Checked.make {
    fact_id := "action:" ++ toString action_seq ++ ":criterion-confirmation"
    kind := .user_message
    content := JsonDict.of [
      ("criterion_id", .str a.val.criterion_id), ("confirmed", .bool a.val.confirmed)] }
  let evidence ← (if a.val.confirmed then do
      let c ← Py.expect_value (confirmed_criterion goal a.val.criterion_id)
        "criterion confirmation requires a criterion"
      pure [← confirmation_evidence goal c fact]
    else pure [])
  Checked.make { s.val with
    facts := s.val.facts ++ [fact]
    evidence_records := s.val.evidence_records ++ evidence }

/-! ### Approvals -/

/-- The run an approval continues. -/
def approved_run (active : ActiveRun) (pending : ApprovalRequest) : Py ActiveRun := do
  let grant ← Checked.make {
    request_id := pending.val.request_id
    binding_digest := pending.val.binding_digest
    approval_basis_revision := pending.val.approval_basis_revision }
  Checked.make { active.val with
    status := .runnable
    phase := .tool
    pending_request := none
    approval_grant := some grant
    approved_request_ids := active.val.approved_request_ids ++ [pending.val.request_id] }

/-- An approval continues the run, mints what the request carries and admits
    the criteria the approved effect stands for. -/
def approve_request (rules : TextRules) (s : ConversationState) (active : ActiveRun)
    (pending : ApprovalRequest) (action_seq : Int) (action_digest : String) (a : ResolveApproval) :
    Py ConversationState := do
  let updated ← approved_run active pending
  let s ← Checked.make { s.val with active_run := some updated }
  let s ← mint_process_authority_lease s pending a.val.approved_at
  let s ← mint_sandbox_authority_lease s pending a.val.approved_at
  let s ← admit_approved_read_only_validation_criterion rules s pending
  let s ← mint_browser_authority_lease s pending a.val.approved_at
  let s ← mint_goal_target_authorization s pending a action_digest active
  let s ← admit_process_artifact_criterion s pending action_seq a
  let s ← admit_approved_process_receipt_criterion rules s pending action_seq a
  let s ← add_approved_governed_tool_requirement s pending active
  let s ← admit_approved_file_criterion s action_seq active
  admit_approved_research_criterion s action_seq active

/-- The origin member of the result of an operator's call. -/
def origin_members (active : ActiveRun) : List (String × Json) :=
  if active.val.invocation_origin = .operator then
    [("invocation_origin", .str InvocationOrigin.operator.value)]
  else []

def rejection_text (pending : ApprovalRequest) : String :=
  match pending.val.browser_action_candidate with
  | none           => "User rejected the requested tool action."
  | some candidate => "The requested browser " ++ candidate.val.consequence ++ " action was not " ++
      "run because you declined approval. No browser effect was executed."

def rejection_fact (action_seq : Int) (active : ActiveRun) (pending : ApprovalRequest) :
    Py ConversationFact :=
  Checked.make {
    fact_id := "action:" ++ toString action_seq ++ ":rejection"
    kind := .tool_result
    content := JsonDict.of ([
      ("tool_call_id", .str pending.val.tool_call_id),
      ("text", .str (rejection_text pending)),
      ("is_error", .bool true),
      ("executed", .bool false),
      ("rejected", .bool true)] ++ origin_members active) }

/-- A declined approval ends the run; the calls after it are answered too. -/
def decline_request (s : ConversationState) (active : ActiveRun) (pending : ApprovalRequest)
    (action_seq : Int) : Py ConversationState := do
  let rejection ← rejection_fact action_seq active pending
  let closed_suffix ← unstarted_batch_suffix_facts s
    ("Tool call was not executed because the run stopped at a declined " ++
      "approval before this call started.") 1
  Checked.make { s.val with
    active_run := none
    facts := s.val.facts ++ rejection :: closed_suffix
    last_safe_result := some {
      status := .cancelled
      run_id := some active.val.run_id
      message := some ("The requested action was declined and this run stopped without " ++
        "executing it. The goal remains available for a new instruction.")
      error_code := some "approval_declined" } }

def resolve_approval (rules : TextRules) (s : ConversationState) (active : ActiveRun)
    (action_seq : Int) (action_digest : String) (a : ResolveApproval) : Py ConversationState := do
  let pending ← Py.expect_value (pending_approval active) "approval request required"
  if a.val.approved then approve_request rules s active pending action_seq action_digest a
  else decline_request s active pending action_seq

/-! ### Recovery -/

def recovery_fact (action_seq : Int) (active : ActiveRun) (pending : RecoveryRequest)
    (resolution : RecoveryResolution) : Py ConversationFact :=
  let succeeded := resolution = .mark_succeeded
  Checked.make {
    fact_id := "action:" ++ toString action_seq ++ ":recovery"
    kind := .tool_result
    content := JsonDict.of ([
      ("tool_call_id", .str pending.val.tool_call_id),
      ("text", .str (if succeeded then "Operator classified the previous tool effect as succeeded."
        else "Operator classified the previous tool effect as failed.")),
      ("is_error", .bool (!succeeded)),
      ("synthetic", .bool true),
      ("unknown_outcome", .bool true)] ++
      (active.val.executing_intent.toList.map fun i =>
        ("side_effect", .str i.val.side_effect.value)) ++ origin_members active) }

def resolve_unknown_tool_outcome (s : ConversationState) (active : ActiveRun) (action_seq : Int)
    (resolution : RecoveryResolution) : Py ConversationState := do
  let pending ← Py.expect_value (pending_recovery active) "recovery request required"
  let synthetic ← recovery_fact action_seq active pending resolution
  let updated ← Checked.make { active.val.advance with
    status := .runnable
    pending_request := none }
  Checked.make { s.val with
    active_run := some updated
    facts := s.val.facts ++ [synthetic] }

def observation_fact (action_seq : Int) (active : ActiveRun) (intent : ExecutingIntentRecord) :
    Py ConversationFact :=
  Checked.make {
    fact_id := "action:" ++ toString action_seq ++ ":observation-unknown"
    kind := .tool_result
    content := JsonDict.of ([
      ("tool_call_id", .str intent.val.tool_call_id),
      ("text", .str ("The public-network observation outcome is unknown; the previous " ++
        "request will not be retried automatically.")),
      ("is_error", .bool true),
      ("executed", .bool true),
      ("metadata", .dict <| JsonDict.of [
        ("code", .str "observation_unknown"),
        ("observation_outcome", .str "observation_unknown"),
        ("source_receipts", .arr [])])] ++ origin_members active) }

def recover_unknown_observation (s : ConversationState) (active : ActiveRun) (action_seq : Int) :
    Py ConversationState := do
  let required := "PUBLIC_NETWORK executing intent required"
  let intent ← Py.expect_value active.val.executing_intent required
  Py.refuse_value (intent.val.egress ≠ .public_network) required
  let observation ← observation_fact action_seq active intent
  let updated ← Checked.make { active.val.advance with
    status := .runnable
    pending_request := none
    approval_grant := none
    owner_invocation_id := none }
  Checked.make { s.val with
    active_run := some updated
    facts := s.val.facts ++ [observation] }

/-! ### Resuming and cancelling a run -/

def resume_run (s : ConversationState) (active : ActiveRun) : Py ConversationState :=
  if active.val.status = .awaiting_approval ∨ active.val.status = .awaiting_recovery then pure s
  else do
    let updated ← Checked.make { active.val with
      status := .runnable
      owner_invocation_id := none }
    Checked.make { s.val with active_run := some updated }

def cancel_run (s : ConversationState) (active : ActiveRun) : Py ConversationState := do
  let closed_suffix ← unstarted_batch_suffix_facts s
    "Tool call was not executed because the run was cancelled before this call started."
  Checked.make { s.val with
    facts := s.val.facts ++ closed_suffix
    active_run := none
    last_safe_result := some { status := .cancelled, run_id := some active.val.run_id } }

/-! ### Dispatch -/

/-- The leases a revocation leaves. -/
def revoke_process_authority (s : ConversationState) (lease_id : Option String) :
    Py ConversationState :=
  Checked.make { s.val with
    process_leases := match lease_id with
      | none    => []
      | some id => s.val.process_leases.filter fun l => l.val.lease_id ≠ id }

/-- `_apply_action`; `clock` is the text of `datetime.now(UTC)`. -/
def apply_action (rules : TextRules) (clock : String) (s : ConversationState)
    (action : RuntimeAction) (now : Option String) : Py ConversationState :=
  let seq := action.action_seq
  let consent_now := (now.filter fun t => t ≠ "").getD clock
  let active := Py.expect_value s.val.active_run "active run required"
  match action.body with
  | .execute_operator_tool a => start_operator_tool s a
  | .acknowledge_provider_disclosure a => acknowledge_provider_disclosure s seq a now
  | .grant_provider_consent a => grant_provider_consent s seq a consent_now
  | .grant_provider_workspace_read_consent a =>
    grant_provider_workspace_read_consent s seq a consent_now
  | .revoke_provider_consent => revoke_provider_consent s
  | .confirm_criterion a => confirm_criterion s seq a
  | .submit_message run_id message => submit_message s seq run_id message
  | .pause_goal a => pause_goal s a.val.goal_id a.val.goal_revision
  | .resume_goal a => resume_goal s a.val.goal_id a.val.goal_revision
  | .cancel_goal a => cancel_goal s a.val.goal_id a.val.goal_revision
  | .complete_browser_takeover a => do pure (← complete_browser_takeover s a).1
  | .cancel_browser_takeover a => cancel_browser_takeover s a.val.request_id
  | .revoke_process_authority lease_id => revoke_process_authority s lease_id
  | .revoke_goal_target_authority => Checked.make { s.val with goal_authorizations := [] }
  | .abandon_unknown_model_outcome _ =>
    end_run s .failed_fatal "model_outcome_abandoned"
      "Unknown provider outcome was abandoned for this occurrence."
  | .resolve_approval a => do
    resolve_approval rules s (← active) seq (canonical_action_digest action) a
  | .resolve_unknown_tool_outcome _ _ resolution => do
    resolve_unknown_tool_outcome s (← active) seq resolution
  | .recover_unknown_observation _ => do recover_unknown_observation s (← active) seq
  | .resume => do resume_run s (← active)
  | .cancel_run => do cancel_run s (← active)
  | .select_goal _ => do
    let _ ← active
    .error (.type_error "unsupported action: SelectGoal")

/-! ### What the actions leave -/

section Effects

variable {rules : TextRules} {s s' : ConversationState} {active : ActiveRun} {action_seq : Int}

theorem withdrawn_facts_ok {fs : List ConversationFact}
    (h : withdrawn_facts s action_seq = .ok fs) :
    fs.map ConversationFact.result_call_id =
      (withdrawn_calls s).map fun c => some c.val.tool_call_id := by
  unfold withdrawn_facts at h
  generalize withdrawn_calls s = calls at h ⊢
  induction calls generalizing fs with
  | nil =>
    obtain rfl := pure_eq_ok.mp h
    rfl
  | cons c calls ih =>
    simp only [List.mapM_cons, bind_eq_ok, pure_eq_ok] at h
    obtain ⟨f, hf, rest, hrest, rfl⟩ := h
    simp only [List.map_cons, superseded_tool_result_fact_ok hf, ih hrest]

theorem submit_message_ok {run_id message : String}
    (h : submit_message s action_seq run_id message = .ok s') :
    ∃ withdrawn fact active', fact.val.kind = .user_message ∧
      (withdrawn.map ConversationFact.result_call_id =
        (withdrawn_calls s).map fun c => some c.val.tool_call_id) ∧
      active'.val = { run_id := run_id } ∧
      s'.val = { s.val with
        facts := s.val.facts ++ withdrawn ++ [fact]
        active_run := some active'
        completion_claim := if s.val.goal.any fun g => g.val.status.is_terminal then
          s.val.completion_claim else none
        interaction_state := .idle } := by
  simp only [submit_message, bind_eq_ok, Checked.make_eq_ok] at h
  obtain ⟨withdrawn, hwithdrawn, fact, hfact, active', hactive', h⟩ := h
  refine ⟨withdrawn, fact, active', ?_, withdrawn_facts_ok hwithdrawn, hactive', h⟩
  rw [Checked.make_eq_ok.mp hfact]

theorem confirm_criterion_ok {a : ConfirmCriterion}
    (h : confirm_criterion s action_seq a = .ok s') :
    ∃ fact evidence, fact.val.kind = .user_message ∧ s'.val = { s.val with
      facts := s.val.facts ++ [fact]
      evidence_records := evidence } := by
  simp only [confirm_criterion, bind_eq_ok, Checked.make_eq_ok] at h
  obtain ⟨_, _, fact, hfact, _, _, h⟩ := h
  exact ⟨fact, _, by rw [hfact], h⟩

/-- An approval continues the run; besides, only the Goal's criteria and the
    authority stores change. -/
theorem approve_request_ok {pending : ApprovalRequest} {digest : String} {a : ResolveApproval}
    (h : approve_request rules s active pending action_seq digest a = .ok s') :
    ∃ (active' : ActiveRun) (t₁ t₂ : ConversationState),
      active'.val.status = .runnable ∧ active'.val.phase = .tool ∧
      (∃ grant approved, active'.val = { active.val with
        status := .runnable
        phase := .tool
        pending_request := none
        approval_grant := some grant
        approved_request_ids := approved }) ∧
      (∃ process_leases sandbox_leases s₁, admission_step
        s₁ t₁ ∧ s₁.val = { s.val with
          active_run := some active'
          process_leases := process_leases
          sandbox_leases := sandbox_leases }) ∧
      ((pending.val.browser_action_candidate = none ∧ ∃ authorizations,
          t₂.val = { t₁.val with goal_authorizations := authorizations }) ∨
        ∃ candidate lease authorizations,
          pending.val.browser_action_candidate = some candidate ∧
          lease.val.goal_id = candidate.val.goal_id ∧
          lease.val.goal_revision = candidate.val.goal_revision ∧
          t₂.val = { t₁.val with
            browser_leases := t₁.val.browser_leases ++ [lease]
            goal_authorizations := authorizations }) ∧
      admission_step t₂ s' := by
  simp only [approve_request, approved_run, bind_eq_ok, Checked.make_eq_ok] at h
  obtain ⟨active', ⟨grant, _, hactive'⟩, s₁, hs₁, s₂, hs₂, s₃, hs₃, t₁, ht₁, u, hu, t₂, ht₂,
    u₁, hu₁, u₂, hu₂, u₃, hu₃, u₄, hu₄, h⟩ := h
  obtain ⟨process_leases, hs₂⟩ := mint_process_authority_lease_ok hs₂
  obtain ⟨sandbox_leases, hs₃⟩ := mint_sandbox_authority_lease_ok hs₃
  obtain ⟨authorizations, ht₂⟩ := mint_goal_target_authorization_ok ht₂
  refine ⟨active', t₁, t₂, by rw [hactive'], by rw [hactive'], ⟨grant, _, hactive'⟩,
    ⟨process_leases, sandbox_leases, s₃, admit_approved_read_only_validation_criterion_ok ht₁,
      by rw [hs₃, hs₂, hs₁]⟩, ?_, ?_⟩
  · rcases mint_browser_authority_lease_ok hu with ⟨hnone, rfl⟩ | ⟨c, l, hc, hid, hrev, hu⟩
    · exact .inl ⟨hnone, authorizations, ht₂⟩
    · exact .inr ⟨c, l, authorizations, hc, hid, hrev, by rw [ht₂, hu]⟩
  · exact (admit_process_artifact_criterion_ok hu₁).trans <|
      (admit_approved_process_receipt_criterion_ok hu₂).trans <|
      (add_approved_governed_tool_requirement_ok hu₃).trans <|
      (admit_approved_file_criterion_ok hu₄).trans (admit_approved_research_criterion_ok h)

/-- An origin member does not hide the call id of a result. -/
theorem result_of_members {f : ConversationFact} {call_id : String}
    {rest : List (String × Json)} (hkind : f.val.kind = .tool_result)
    (hcontent : f.val.content = JsonDict.of (("tool_call_id", .str call_id) :: rest))
    (hrest : Json.has_key "tool_call_id" rest = false) : f.result_call_id = some call_id := by
  rw [ConversationFact.result_call_id_eq_some, hcontent, JsonDict.get_of_cons, if_pos ⟨rfl, hrest⟩]
  exact ⟨hkind, by simp⟩

theorem has_key_origin_members (k : String) (hk : "invocation_origin" ≠ k) :
    Json.has_key k (origin_members active) = false := by
  unfold origin_members
  split <;> simp [Json.has_key, hk]

theorem rejection_fact_ok {pending : ApprovalRequest} {f : ConversationFact}
    (h : rejection_fact action_seq active pending = .ok f) :
    f.result_call_id = some pending.val.tool_call_id := by
  have hf := Checked.make_eq_ok.mp h
  refine result_of_members (by rw [hf]) (by rw [hf]; rfl) ?_
  simp [Json.has_key, has_key_origin_members]

theorem recovery_fact_ok {pending : RecoveryRequest} {resolution : RecoveryResolution}
    {f : ConversationFact} (h : recovery_fact action_seq active pending resolution = .ok f) :
    f.result_call_id = some pending.val.tool_call_id := by
  simp only [recovery_fact, Checked.make_eq_ok] at h
  refine result_of_members (by rw [h]) (by rw [h]; rfl) ?_
  cases active.val.executing_intent <;>
    simp [Json.has_key, has_key_origin_members]

theorem observation_fact_ok {intent : ExecutingIntentRecord} {f : ConversationFact}
    (h : observation_fact action_seq active intent = .ok f) :
    f.result_call_id = some intent.val.tool_call_id := by
  have hf := Checked.make_eq_ok.mp h
  refine result_of_members (by rw [hf]) (by rw [hf]; rfl) ?_
  simp [Json.has_key, has_key_origin_members]

theorem decline_request_ok {pending : ApprovalRequest}
    (h : decline_request s active pending action_seq = .ok s') :
    ∃ rejection suffix result, rejection.result_call_id = some pending.val.tool_call_id ∧
      (suffix.map ConversationFact.result_call_id =
        (unstarted_calls s 1).map fun c => some c.val.tool_call_id) ∧
      s'.val = { s.val with
        active_run := none
        facts := s.val.facts ++ rejection :: suffix
        last_safe_result := result } := by
  simp only [decline_request, bind_eq_ok, Checked.make_eq_ok] at h
  obtain ⟨rejection, hrejection, suffix, hsuffix, h⟩ := h
  exact ⟨rejection, suffix, _, rejection_fact_ok hrejection,
    unstarted_batch_suffix_facts_ok hsuffix, h⟩

theorem resolve_unknown_tool_outcome_ok {resolution : RecoveryResolution}
    (h : resolve_unknown_tool_outcome s active action_seq resolution = .ok s') :
    ∃ pending fact active', pending_recovery active = some pending ∧
      fact.result_call_id = some pending.val.tool_call_id ∧
      active'.val = { active.val.advance with
        status := .runnable
        pending_request := none } ∧
      s'.val = { s.val with
        active_run := some active'
        facts := s.val.facts ++ [fact] } := by
  simp only [resolve_unknown_tool_outcome, bind_eq_ok, Py.expect_value_eq_ok,
    Checked.make_eq_ok] at h
  obtain ⟨pending, hpending, fact, hfact, active', hactive', h⟩ := h
  exact ⟨pending, fact, active', hpending, recovery_fact_ok hfact, hactive', h⟩

theorem recover_unknown_observation_ok
    (h : recover_unknown_observation s active action_seq = .ok s') :
    ∃ intent fact active', active.val.executing_intent = some intent ∧
      fact.result_call_id = some intent.val.tool_call_id ∧
      active'.val = { active.val.advance with
        status := .runnable
        pending_request := none
        approval_grant := none
        owner_invocation_id := none } ∧
      s'.val = { s.val with
        active_run := some active'
        facts := s.val.facts ++ [fact] } := by
  simp only [recover_unknown_observation, bind_eq_ok, Py.expect_value_eq_ok,
    Checked.make_eq_ok] at h
  obtain ⟨intent, hintent, _, _, fact, hfact, active', hactive', h⟩ := h
  exact ⟨intent, fact, active', hintent, observation_fact_ok hfact, hactive', h⟩

theorem resume_run_ok (h : resume_run s active = .ok s') :
    s' = s ∨ ∃ active', active'.val = { active.val with
        status := .runnable
        owner_invocation_id := none } ∧
      s'.val = { s.val with active_run := some active' } := by
  simp only [resume_run, ite_eq_ok, pure_eq_ok, bind_eq_ok, Checked.make_eq_ok] at h
  rcases h with ⟨_, rfl⟩ | ⟨_, active', hactive', h⟩
  · exact .inl rfl
  · exact .inr ⟨active', hactive', h⟩

theorem cancel_run_ok (h : cancel_run s active = .ok s') :
    ∃ suffix result,
      (suffix.map ConversationFact.result_call_id =
        (unstarted_calls s 0).map fun c => some c.val.tool_call_id) ∧
      s'.val = { s.val with
        facts := s.val.facts ++ suffix
        active_run := none
        last_safe_result := result } := by
  simp only [cancel_run, bind_eq_ok, Checked.make_eq_ok] at h
  obtain ⟨suffix, hsuffix, h⟩ := h
  exact ⟨suffix, _, unstarted_batch_suffix_facts_ok hsuffix, h⟩

end Effects
