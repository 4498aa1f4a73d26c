import FirstAgent.Invariants.Batches

/-! # Provider Calls Are Kept

    A background run that waits for its provider keeps the call until the
    matching response is stored and used, or the call is abandoned by name.
    The transitions that stop a run look for an unknown effect only, so they
    must not be taken while a call is open. -/

open Fallible

/-! ### The open call -/

/-- The run waits for the provider call `i`. -/
def ConversationState.awaits (s : ConversationState) (i : ProviderCallIntentV1) : Prop :=
  ∃ active, s.val.active_run = some active ∧ active.val.provider_call_intent = some i

/-- The labels taken so far recorded the response the run holds. -/
def Recorded (labels : List Transition) (core : Option RunCore) : Prop :=
  ∀ c r, core = some c → c.persisted_model_response = some r →
    .record_provider_response r ∈ labels

/-- The step does not end a run that waits for its provider. -/
def KeepsProviderCall (s : ConversationState) (l : Transition) : Prop :=
  l.drops_run = true → ∀ active, s.val.active_run = some active →
    active.val.provider_call_intent = none

instance {s : ConversationState} {l : Transition} : Decidable (KeepsProviderCall s l) :=
  decidable_of_iff (l.drops_run = true → s.val.active_run.all fun r =>
      r.val.provider_call_intent = none) <| by
    unfold KeepsProviderCall
    cases s.val.active_run <;> simp

/-! ### One change -/

section Changes

variable {rules : TextRules} {l : Transition} {discards : Bool} {s s' : RunLog}
  {i : ProviderCallIntentV1} {labels : List Transition}

/-- A change keeps the open call unless it stops the run, abandons the call or
    uses the stored response. -/
theorem RunChange.keeps_call (h : RunChange l discards s s') {core : RunCore}
    (hcore : s.core = some core) (hi : core.provider_call_intent = some i)
    (hkeeps : l.drops_run = false) :
    (∃ core', s'.core = some core' ∧ core'.provider_call_intent = some i) ∨
      l.abandons i = true ∨
      l = .consume_provider_response ∧ core.persisted_model_response ≠ none := by
  have same : ∀ c, s.core = some c → c = core := fun c hc =>
    Option.some.inj (hc.symm.trans hcore)
  have busy : ∀ c, s.core = some c → c.provider_call_intent ≠ none := by
    intro c hc
    rw [same c hc, hi]
    exact Option.some_ne_none i
  cases h with
  | note notes _ _ hcore' _ => exact .inl ⟨core, hcore'.trans hcore, hi⟩
  | fresh notes _ _ hnone _ =>
    rw [hnone] at hcore
    cases hcore
  | begin_call c j _ hbefore hidle _ => exact absurd hidle (busy c hbefore)
  | respond c r _ hbefore _ hcore' =>
    exact .inl ⟨_, hcore', by rw [same c hbefore]; exact hi⟩
  | reject c _ hbefore hcore' => exact .inl ⟨_, hcore', by rw [same c hbefore]; exact hi⟩
  | consume c _ hbefore hstored hlabel _ => exact .inr (.inr ⟨hlabel, same c hbefore ▸ hstored⟩)
  | start c calls batch _ _ _ hbefore _ hidle _ _ _ => exact absurd hidle (busy c hbefore)
  | mark c j _ hbefore _ _ _ hcore' => exact .inl ⟨_, hcore', by rw [same c hbefore]; exact hi⟩
  | answer c call result _ _ hbefore _ _ hcore' =>
    exact .inl ⟨_, hcore', by rw [same c hbefore]; exact hi⟩
  | close c suffix notes _ _ _ hbefore _ hlabel _ =>
    rcases hlabel i (by rw [same c hbefore]; exact hi) with hdrops | habandons
    · rw [hkeeps] at hdrops
      cases hdrops
    · exact .inr (.inl habandons)
  | discard c notes _ _ hbefore _ hidle _ _ _ => exact absurd hidle (busy c hbefore)
  | compact _ hcore' => exact .inl ⟨core, hcore'.trans hcore, hi⟩

/-- A stored response was recorded by a label. -/
theorem RunChange.recorded (h : RunChange l discards s s') (hs : Recorded labels s.core) :
    Recorded (labels ++ [l]) s'.core := by
  have kept : ∀ c c' r, s.core = some c → s'.core = some c' →
      c'.persisted_model_response = c.persisted_model_response →
      c'.persisted_model_response = some r → .record_provider_response r ∈ labels ++ [l] := by
    intro c c' r hc _ hsame hr
    exact List.mem_append_left _ (hs c r hc (hsame ▸ hr))
  intro c' r hc' hr
  cases h with
  | note notes _ _ hcore _ => exact kept c' c' r (hcore.symm.trans hc') hc' rfl hr
  | fresh notes _ _ _ hcore =>
    obtain rfl := Option.some.inj (hcore.symm.trans hc')
    cases hr
  | begin_call c i _ _ _ hcore =>
    obtain rfl := Option.some.inj (hcore.symm.trans hc')
    cases hr
  | respond c response _ _ hlabel hcore =>
    obtain rfl := Option.some.inj (hcore.symm.trans hc')
    obtain rfl := Option.some.inj hr
    simp [hlabel]
  | reject c _ _ hcore =>
    obtain rfl := Option.some.inj (hcore.symm.trans hc')
    cases hr
  | consume c _ _ _ _ hcore =>
    obtain rfl := Option.some.inj (hcore.symm.trans hc')
    cases hr
  | start c calls batch _ _ _ hbefore _ _ _ _ hcore =>
    obtain rfl := Option.some.inj (hcore.symm.trans hc')
    exact kept c _ r hbefore hcore rfl hr
  | mark c i _ hbefore _ _ _ hcore =>
    obtain rfl := Option.some.inj (hcore.symm.trans hc')
    exact kept c _ r hbefore hcore rfl hr
  | answer c call result _ _ hbefore _ _ hcore =>
    obtain rfl := Option.some.inj (hcore.symm.trans hc')
    exact kept c _ r hbefore hcore rfl hr
  | close c suffix notes _ _ _ _ _ _ hcore =>
    rcases hcore with hcore | hcore <;> rw [hcore] at hc'
    · cases hc'
    · obtain rfl := Option.some.inj hc'
      cases hr
  | discard c notes _ _ _ _ _ _ _ hcore =>
    obtain rfl := Option.some.inj (hcore.symm.trans hc')
    cases hr
  | compact _ hcore => exact kept c' c' r (hcore.symm.trans hc') hc' rfl hr

end Changes

/-! ### Runs -/

section Runs

variable {rules : TextRules} {l : Transition} {s s' : ConversationState}
  {i : ProviderCallIntentV1}

theorem awaits_core (h : s.awaits i) :
    ∃ core, s.run_log.core = some core ∧ core.provider_call_intent = some i := by
  obtain ⟨active, hactive, hi⟩ := h
  exact ⟨active.val.core, run_log_core hactive, hi⟩

theorem core_awaits {core : RunCore} (hcore : s.run_log.core = some core)
    (hi : core.provider_call_intent = some i) : s.awaits i := by
  simp only [ConversationState.run_log, Option.map_eq_some_iff] at hcore
  obtain ⟨active, hactive, rfl⟩ := hcore
  exact ⟨active, hactive, hi⟩

/-- A stored response answers the open call. -/
theorem response_matches {core : RunCore} {r : PersistedModelResponseV1}
    (hcore : s.run_log.core = some core) (hi : core.provider_call_intent = some i)
    (hr : core.persisted_model_response = some r) :
    r.val.request_digest = i.val.request_digest := by
  simp only [ConversationState.run_log, Option.map_eq_some_iff] at hcore
  obtain ⟨active, _, rfl⟩ := hcore
  have hheld : active.val.provider_call_intent = some i := hi
  have hstored : active.val.persisted_model_response = some r := hr
  have hc := active.checks.2.2.2
  cases hstatus : active.val.status <;>
    simp_all [ActiveRunFields.check_provider, Py.refuse_value_eq_ok,
      ActiveRunFields.binds_response]

/-- A step keeps the open call unless it abandons it or uses its response. -/
theorem awaits_step (h : transition_step rules s l = .ok s') (hs : s.awaits i)
    (hkeeps : KeepsProviderCall s l) :
    s'.awaits i ∨ l.abandons i = true ∨
      l = .consume_provider_response ∧ ∃ core r, s.run_log.core = some core ∧
        core.persisted_model_response = some r ∧ r.val.request_digest = i.val.request_digest := by
  obtain ⟨active, hactive, hi⟩ := hs
  have hdrops : l.drops_run = false := by
    by_contra hne
    have hnone := hkeeps (by simpa using hne) active hactive
    rw [hi] at hnone
    cases hnone
  obtain ⟨t, hheals, _, hchange⟩ := transition_run_change h
  have hcore : t.run_log.core = some active.val.core := hheals.core.trans (run_log_core hactive)
  rcases hchange.keeps_call hcore hi hdrops with ⟨core', hcore', hi'⟩ | habandons | ⟨rfl, hstored⟩
  · exact .inl (core_awaits hcore' hi')
  · exact .inr (.inl habandons)
  · obtain ⟨r, hr⟩ := Option.ne_none_iff_exists'.mp hstored
    exact .inr (.inr ⟨rfl, active.val.core, r, run_log_core hactive, hr,
      response_matches (run_log_core hactive) hi hr⟩)

theorem begin_provider_call_awaits {input_tokens : Int}
    (h : begin_provider_call s i input_tokens = .ok s') :
    s'.awaits i ∧ ∀ core, s'.run_log.core = some core → core.persisted_model_response = none := by
  obtain ⟨active, active', hactive, _, _, hactive', h⟩ := begin_provider_call_ok h
  have hrun : s'.val.active_run = some active' := by rw [h]
  refine ⟨⟨active', hrun, by rw [hactive']⟩, fun core hcore => ?_⟩
  obtain rfl := Option.some.inj ((run_log_core hrun).symm.trans hcore)
  rw [ActiveRunFields.core, hactive']

/-- In every run whose steps do not stop a run with an open call, a call once
    begun is held until it is abandoned by name, or the matching response was
    recorded and is used. -/
theorem provider_calls_kept (rules : TextRules) {s₀ s s' : ConversationState}
    {before after : List Transition} {input_tokens : Int}
    (hbegin : (conversation_system rules).run s₀
      (before ++ [.begin_provider_call i input_tokens]) = .ok s)
    (hkeeps : (conversation_system rules).Along KeepsProviderCall s after)
    (hrun : (conversation_system rules).run s after = .ok s') :
    s'.awaits i ∨ ∃ kept l rest t, after = kept ++ l :: rest ∧
      (conversation_system rules).run s kept = .ok t ∧ t.awaits i ∧
      (l.abandons i = true ∨ l = .consume_provider_response ∧ ∃ r : PersistedModelResponseV1,
        .record_provider_response r ∈ kept ∧ r.val.request_digest = i.val.request_digest) := by
  obtain ⟨t, _, hlast⟩ := System.run_append.mp hbegin
  obtain ⟨s₁, hstep, hnil⟩ := System.run_cons.mp hlast
  rw [System.run_nil.mp hnil] at hstep
  obtain ⟨hawaits, hfresh⟩ := begin_provider_call_awaits
    (show begin_provider_call t i input_tokens = .ok s from hstep)
  have hrecorded : Recorded [] s.run_log.core := by
    intro c r hc hr
    rw [hfresh c hc] at hr
    cases hr
  rcases System.run_until
      (P := fun labels (t : ConversationState) => t.awaits i ∧ Recorded labels t.run_log.core)
      (C := KeepsProviderCall)
      (R := fun (t : ConversationState) l => l.abandons i = true ∨
        l = .consume_provider_response ∧ ∃ core r, t.run_log.core = some core ∧
          core.persisted_model_response = some r ∧ r.val.request_digest = i.val.request_digest)
      (fun labels t l t' hP hC ht => by
        rcases awaits_step ht hP.1 hC with hkept | hreleased
        · obtain ⟨u, hheals, _, hchange⟩ := transition_run_change ht
          exact .inl ⟨hkept, hchange.recorded (hheals.core.symm ▸ hP.2)⟩
        · exact .inr hreleased)
      [] ⟨hawaits, hrecorded⟩ hkeeps hrun with h | ⟨kept, l, rest, t, rfl, ht, hP, hR⟩
  · exact .inl h.1
  · refine .inr ⟨kept, l, rest, t, rfl, ht, hP.1, hR.imp id ?_⟩
    rintro ⟨hlabel, core, r, hcore, hr, hmatch⟩
    exact ⟨hlabel, r, hP.2 core r hcore hr, hmatch⟩

end Runs

/-! ### A call that is kept, and a call that a goal control drops -/

section Fixed

def occurrence_binding : BackgroundOccurrenceBindingV1 where
  val := {
    automation_id := "automation"
    automation_revision := 1
    occurrence_id := "occurrence"
    occurrence_index := 0
    scheduled_for_utc := "2025-01-01T00:00:00Z"
    definition_digest := "59b774a5253e2bc8e357bdfc95e4f7a4b214734f6da65a9f53b40711a10ba16b"
    grant_digest := "59b774a5253e2bc8e357bdfc95e4f7a4b214734f6da65a9f53b40711a10ba16b"
    claim_authority_digest := "59b774a5253e2bc8e357bdfc95e4f7a4b214734f6da65a9f53b40711a10ba16b"
    claim_capability_digest := "59b774a5253e2bc8e357bdfc95e4f7a4b214734f6da65a9f53b40711a10ba16b"
    checkpoint_identity_digest := "59b774a5253e2bc8e357bdfc95e4f7a4b214734f6da65a9f53b40711a10ba16b"
    deadline_utc := "2025-01-01T01:00:00Z"
    model_call_limit := 2
    tool_call_limit := 2
    sandbox_command_limit := 0
    browser_action_limit := 0
    max_input_tokens := 1000
    max_output_tokens := 1000
    binding_digest := "10ebe51602a4be408ec1a797d322f68dfe832c35b934e0434103a5c8e876fcdb" }
  valid := by
    rw [BackgroundOccurrenceBindingFields.post_init,
      BackgroundOccurrenceBindingFields.expected_digest, canonical_json_digest_eq]
    decide +kernel

def first_call : ProviderCallIntentV1 where
  val := {
    action_seq := 1
    provider_call_index := 1
    context_digest := "59b774a5253e2bc8e357bdfc95e4f7a4b214734f6da65a9f53b40711a10ba16b"
    request_digest := "504a843ea6cea2a2c771ac99d60d40da2c13b9e7669b3293b0356c1e525d938d"
    disclosure_digest := none
    occurrence_binding_digest := "10ebe51602a4be408ec1a797d322f68dfe832c35b934e0434103a5c8e876fcdb"
    intent_digest := "3f3a17295dd22c74ec450c0216831c50e85207b7e02b91e9914078a47ab52c13" }
  valid := by
    rw [ProviderCallIntentFields.post_init, ProviderCallIntentFields.expected_intent_digest,
      ProviderCallIntentFields.expected_request_digest, canonical_json_digest_eq,
      canonical_json_digest_eq]
    decide +kernel

def occurrence_goal : GoalFrame :=
  ⟨{ goal_id := "goal", revision := 1, created_from_fact_ids := ["action:1:user"]
     workspace_identity_digest := "digest", user_outcome := "an outcome"
     beneficiary := "the user", targets := ["target"], scope := ["scope"], non_goals := []
     assumptions := []
     proposed_criteria := [⟨{ criterion_id := "criterion", description := "a criterion" }, by decide⟩]
     admitted_criteria := [], authority_snapshot := "snapshot", status := .goal_ready
     created_at := "2025-01-01T00:00:00Z", updated_at := "2025-01-01T00:00:00Z" }, by decide⟩

/-- The conversation of one occurrence. -/
def occurrence_conversation : ConversationState :=
  ⟨{ ConversationState.fresh.val with background_occurrence_binding := some occurrence_binding },
    by decide +kernel⟩

/-- The run has a Goal and is about to call its provider. -/
def calling_steps : List Transition := [
  submit_step 1 0 "run-1", .claim_run "invocation", .create_goal occurrence_goal]

/-- The user pauses the Goal. -/
def pause_action : RuntimeAction where
  conversation_id := "conversation"
  action_seq := 2
  expected_revision := 4
  body := .pause_goal ⟨{ goal_id := "goal", goal_revision := 1 }, by decide⟩

theorem unknown_call_kept : ∃ s s',
    (conversation_system .silent).run occurrence_conversation
      (calling_steps ++ [.begin_provider_call first_call 10]) = .ok s ∧
    (conversation_system .silent).run s [.mark_model_outcome_unknown] = .ok s' ∧
    s'.awaits first_call := by
  have hruns : succeeds ((conversation_system .silent).run occurrence_conversation
      (calling_steps ++ [.begin_provider_call first_call 10])) (fun s =>
        succeeds ((conversation_system .silent).run s [.mark_model_outcome_unknown])
          fun _ => true) = true := by
    decide +kernel
  obtain ⟨s, hs, h⟩ := succeeds_iff.mp hruns
  obtain ⟨s', hs', _⟩ := succeeds_iff.mp h
  refine ⟨s, s', hs, hs', ?_⟩
  have halong : (conversation_system .silent).Along KeepsProviderCall s
      [.mark_model_outcome_unknown] := by
    refine ⟨fun hdrops => ?_, fun _ _ => trivial⟩
    cases hdrops
  rcases provider_calls_kept .silent hs halong hs' with h | ⟨kept, l, rest, t, hsplit, _, _, hl⟩
  · exact h
  · obtain rfl : l = .mark_model_outcome_unknown := by
      have hmem : l ∈ [Transition.mark_model_outcome_unknown] := by simp [hsplit]
      simpa using hmem
    rcases hl with habandons | ⟨hlabel, _⟩
    · cases habandons
    · cases hlabel

/-- Pausing the Goal is accepted while the provider call is open and drops the
    run that holds it. -/
theorem paused_goal_drops_call : ∃ s s',
    (conversation_system .silent).run occurrence_conversation
      (calling_steps ++ [.begin_provider_call first_call 10]) = .ok s ∧
    s.awaits first_call ∧
    (conversation_system .silent).run s [.accept_action "" pause_action 64 none] = .ok s' ∧
    s'.val.active_run = none ∧ ¬ s'.awaits first_call := by
  have hruns : succeeds ((conversation_system .silent).run occurrence_conversation
      (calling_steps ++ [.begin_provider_call first_call 10])) (fun s =>
        (s.val.active_run.any fun r => r.val.provider_call_intent = some first_call) &&
        succeeds ((conversation_system .silent).run s [.accept_action "" pause_action 64 none])
          fun s' => s'.val.active_run.isNone) = true := by
    decide +kernel
  obtain ⟨s, hs, h⟩ := succeeds_iff.mp hruns
  obtain ⟨hopen, h⟩ := (Bool.and_eq_true _ _).mp h
  obtain ⟨s', hs', hnone⟩ := succeeds_iff.mp h
  obtain ⟨active, hactive, hi⟩ := (Option.any_eq_true _ _).mp hopen
  have hdropped : s'.val.active_run = none := Option.isNone_iff_eq_none.mp hnone
  refine ⟨s, s', hs, ⟨active, hactive, of_decide_eq_true hi⟩, hs', hdropped, ?_⟩
  rintro ⟨held, hheld, _⟩
  rw [hdropped] at hheld
  cases hheld

end Fixed
