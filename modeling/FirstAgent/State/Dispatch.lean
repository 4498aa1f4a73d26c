import FirstAgent.State.Runs

/-! # Transitions of the Loop

    What the runtime loop changes itself: the start time of a run, the
    workspace binding of an old conversation, a persisted response it cannot
    use, and the consent an admitted provider dispatch is charged to.  Each
    charge is a transition here; when a dispatch is admitted is another matter. -/

open Fallible

/-- `_ensure_run_started`. -/
def ensure_run_started (s : ConversationState) (started_at : String) : Py ConversationState :=
  match s.val.active_run with
  | none        => pure s
  | some active =>
    if active.val.run_started_at ≠ none then pure s
    else do
      let _ ← Py.expect_value (PyDateTime.fromisoformat (PyText.replace started_at "Z" "+00:00"))
        "run_time_factory must return zoned RFC3339"
      let active ← Checked.make { active.val with run_started_at := some started_at }
      Checked.make { s.val with active_run := some active }

/-- `_ensure_workspace_binding`: an unbound conversation with a Goal of this
    workspace adopts the binding. -/
def adopt_workspace_binding (s : ConversationState) (expected : ConversationWorkspaceBindingV1) :
    Py ConversationState := do
  Py.refuse_value (s.val.workspace_binding ≠ none) "workspace_binding_mismatch"
  let goal ← Py.expect_value s.val.goal "legacy_workspace_unbound"
  Py.refuse_value (goal.val.workspace_identity_digest ≠ expected.val.workspace_identity_digest)
    "workspace_binding_mismatch"
  Checked.make { s.val with workspace_binding := some expected }

/-- A persisted response that does not answer the call is dropped and the
    outcome is unknown. -/
def reject_persisted_response (s : ConversationState) : Py ConversationState := do
  let active ← require_run s "active run required"
  let active ← Checked.make { active.val with persisted_model_response := none }
  mark_model_outcome_unknown (← Checked.make { s.val with active_run := some active })

/-- `ProviderConsentGrantV1.with_use`. -/
def ProviderConsentGrantV1.with_use (g : ProviderConsentGrantV1) : Py ProviderConsentGrantV1 := do
  Py.refuse_value (g.val.status ≠ .active) "provider consent grant is not active"
  create { g.val with uses_consumed := g.val.uses_consumed + 1 }

def charge_consent_grant (s : ConversationState) : Py ConversationState := do
  let grant ← Py.expect_value s.val.provider_consent_grant
    "provider consent grant is no longer usable"
  Checked.make { s.val with provider_consent_grant := some (← grant.with_use) }

/-- Only a receipt of the second version is consumed. -/
def consume_disclosure_receipt (s : ConversationState) (now : String) : Py ConversationState :=
  let unusable := "provider disclosure receipt is no longer usable"
  match s.val.provider_disclosure_receipt with
  | some (.v2 receipt) => do
    Py.refuse_value (receipt.val.consumed_at ≠ none) unusable
    let receipt ← Checked.make { receipt.val with consumed_at := some now }
    Checked.make { s.val with provider_disclosure_receipt := some (.v2 receipt) }
  | _ => .error (.value_error unusable)

def invalidate_provider_consent (s : ConversationState) : Py ConversationState :=
  match s.val.provider_consent_grant with
  | none       => pure s
  | some grant =>
    if grant.val.status ≠ .active then pure s
    else do
      Checked.make { s.val with
        provider_consent_grant := some (← grant.with_status .invalidated)
        provider_disclosure_request := none
        provider_disclosure_receipt := none }

/-! ### What they leave -/

section Effects

variable {s s' : ConversationState}

theorem ensure_run_started_ok {started_at : String}
    (h : ensure_run_started s started_at = .ok s') :
    s' = s ∨ ∃ active active', s.val.active_run = some active ∧
      active'.val = { active.val with run_started_at := some started_at } ∧
      s'.val = { s.val with active_run := some active' } := by
  unfold ensure_run_started at h
  split at h
  · exact .inl (pure_eq_ok.mp h).symm
  · next active hactive =>
    simp only [ite_eq_ok, pure_eq_ok, bind_eq_ok, Checked.make_eq_ok] at h
    rcases h with ⟨_, rfl⟩ | ⟨_, _, _, active', hactive', h⟩
    · exact .inl rfl
    · exact .inr ⟨active, active', hactive, hactive', h⟩

theorem adopt_workspace_binding_ok {expected : ConversationWorkspaceBindingV1}
    (h : adopt_workspace_binding s expected = .ok s') :
    s'.val = { s.val with workspace_binding := some expected } := by
  simp only [adopt_workspace_binding, bind_eq_ok, Checked.make_eq_ok] at h
  obtain ⟨_, _, _, _, _, _, h⟩ := h
  exact h

theorem reject_persisted_response_ok (h : reject_persisted_response s = .ok s') :
    ∃ active active', s.val.active_run = some active ∧
      active'.val = { active.val with
        status := .model_outcome_unknown
        persisted_model_response := none
        owner_invocation_id := none } ∧
      s'.val = { s.val with revision := s.val.revision + 1, active_run := some active' } := by
  simp only [reject_persisted_response, require_run, bind_eq_ok, Py.expect_value_eq_ok,
    Checked.make_eq_ok] at h
  obtain ⟨active, hactive, dropped, hdropped, t, ht, h⟩ := h
  obtain ⟨a, active', ha, hactive', h⟩ := mark_model_outcome_unknown_ok h
  rw [ht] at ha
  cases ha
  exact ⟨active, active', hactive, by rw [hactive', hdropped], by rw [h, ht]⟩

theorem charge_consent_grant_ok (h : charge_consent_grant s = .ok s') :
    ∃ grant, s'.val = { s.val with provider_consent_grant := grant } := by
  simp only [charge_consent_grant, bind_eq_ok, Checked.make_eq_ok] at h
  obtain ⟨_, _, _, _, h⟩ := h
  exact ⟨_, h⟩

theorem consume_disclosure_receipt_ok {now : String}
    (h : consume_disclosure_receipt s now = .ok s') :
    ∃ receipt, s'.val = { s.val with provider_disclosure_receipt := receipt } := by
  unfold consume_disclosure_receipt at h
  dsimp only at h
  split at h
  · simp only [bind_eq_ok, Checked.make_eq_ok] at h
    obtain ⟨_, _, _, _, h⟩ := h
    exact ⟨_, h⟩
  · cases h

theorem invalidate_provider_consent_ok (h : invalidate_provider_consent s = .ok s') :
    s' = s ∨ ∃ grant, s'.val = { s.val with
      provider_consent_grant := grant
      provider_disclosure_request := none
      provider_disclosure_receipt := none } := by
  unfold invalidate_provider_consent at h
  split at h
  · exact .inl (pure_eq_ok.mp h).symm
  · simp only [ite_eq_ok, pure_eq_ok, bind_eq_ok, Checked.make_eq_ok] at h
    rcases h with ⟨_, rfl⟩ | ⟨_, _, _, h⟩
    · exact .inl rfl
    · exact .inr ⟨_, h⟩

end Effects
