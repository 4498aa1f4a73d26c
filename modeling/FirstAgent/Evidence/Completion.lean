import FirstAgent.Evidence.Records
import FirstAgent.Invariants.Effects

/-! # The Completion of a Goal

    The loop answers a completion claim of the model in three saves: the
    evidence that is derived for it, the claim, and the verification.  The
    evidence registry, the reducers and the control advertisement each check a
    part of what a verified Goal stands for.

    * **`verified_done_sound`**: what holds in every state in which the path
      leaves a verified Goal, and for which requirements nobody checks that
      they were admitted.

    Strategy: invert the path once (`Completes`), and show along every run that
    a stored record is found under the id of its criterion (`EvidenceKeyed`),
    so that a criterion has one record. -/

open Fallible

/-! ### The path of a claim -/

/-- `goal_correction_pending`: a correction of the user the Goal has not taken
    up. -/
def goal_correction_pending (s : ConversationState) : Bool :=
  s.val.goal.any fun goal => s.val.facts.any fun f =>
    f.val.kind = .user_message && f.val.content.get "control" = .str "goal_correction" &&
      f.val.fact_id ∉ goal.val.created_from_fact_ids

/-- The control schema of the context offers `completion_claim`. -/
def advertises_completion_claim (s : ConversationState) : Bool :=
  (s.val.goal.any fun goal => goal.val.status ≠ .paused) && !goal_correction_pending s

/-- The derived records that are not stored as they are. -/
def pending_records (s : ConversationState) (records : List EvidenceRecord) :
    List EvidenceRecord :=
  records.filter fun r => stored_record s r.val.evidence_id ≠ some r

/-- A control that is not advertised is answered before it is handled. -/
def save_evidence (s : ConversationState) (claim : CompletionClaim) (observed_at : String) :
    Py ConversationState := do
  Py.refuse_value (advertises_completion_claim s = false) "control is not advertised"
  let records ← derive_evidence s claim observed_at
  let pending := pending_records s records
  if pending = [] then pure s else record_evidence s pending

def save_claim (s : ConversationState) (claim : CompletionClaim) (observed_at : String) :
    Py ConversationState := do
  let s ← save_evidence s claim observed_at
  record_completion_claim s claim

def save_completion (rules : TextRules) (s : ConversationState) (claim : CompletionClaim)
    (observed_at : String) : Py ConversationState := do
  let s ← save_claim s claim observed_at
  verify_goal_completion rules s

/-- The reducers of the path. -/
def Transition.completes : Transition → Bool
  | .record_evidence _ | .record_completion_claim _ | .verify_goal_completion => true
  | _ => false

/-- What the loop saves: the result of a transition, or the path of a claim up
    to one of its saves. -/
inductive LoopStep where
  | transition (l : Transition)
  | evidence (claim : CompletionClaim) (observed_at : String)
  | claim (claim : CompletionClaim) (observed_at : String)
  | completion (claim : CompletionClaim) (observed_at : String)

/-- Only the path of a claim calls its reducers. -/
def loop_step (rules : TextRules) (s : ConversationState) : LoopStep → Py ConversationState
  | .transition l => do
    Py.refuse_value l.completes "completion is reduced on the path of a claim"
    transition_step rules s l
  | .evidence claim observed_at => save_evidence s claim observed_at
  | .claim claim observed_at => save_claim s claim observed_at
  | .completion claim observed_at => save_completion rules s claim observed_at

/-- A conversation as the loop drives it. -/
def loop_system (rules : TextRules) : System PyError ConversationState LoopStep where
  step := loop_step rules

/-! ### What a verified Goal stands for -/

/-- The Goal has an admitted mandatory criterion with the id and the oracle. -/
def GoalFrame.requires (goal : GoalFrame) (criterion_id : String)
    (oracle_kind : EvidenceOracleKind) : Prop :=
  ∃ c ∈ goal.mandatory, c.val.criterion_id = criterion_id ∧ c.val.oracle_kind = oracle_kind

/-- A Goal that is proven done. -/
structure ProvenDone (rules : TextRules) (s : ConversationState) (goal : GoalFrame)
    (claim : CompletionClaim) : Prop where
  requirements : ∀ p ∈ goal.val.proposed_criteria, ∃ oracle_kind,
    p.val.oracle_kind = some oracle_kind ∧ goal.requires p.val.criterion_id oracle_kind
  evidence : ∀ c ∈ goal.mandatory, ∃ r ∈ s.val.evidence_records,
    (∀ x ∈ s.val.evidence_records, x.binds goal c ↔ x = r) ∧ r.val.passed = true ∧
      derives s goal c r
  deliverables : ∀ path ∈ authoritative_deliverable_file_paths rules s, ∃ c ∈ goal.mandatory,
    c.val.oracle_kind = .filesystem_digest ∧ c.val.predicate.get "path" = .str path
  sources_cited : ∀ f ∈ s.val.facts, f.val.kind = .user_message →
    f.val.fact_id ∈ goal.val.created_from_fact_ids →
      ∃ r ∈ claim.val.requirement_coverage, f.val.fact_id ∈ r.val.source_fact_ids
  criteria_bound : ∀ c ∈ goal.mandatory,
    ∃ r ∈ claim.val.requirement_coverage, c.val.criterion_id ∈ r.val.criterion_ids
  resources_closed : active_task_resources s.val.facts = .ok ⟨[], []⟩
  no_takeover : s.val.browser_takeover_pending = none
  no_unknown_effect : has_unknown_effect s = false
  no_correction : goal_correction_pending s = false

/-! ### The path, inverted -/

section Path

variable {rules : TextRules} {s s' : ConversationState} {claim : CompletionClaim}
  {observed_at : String} {goal : GoalFrame}

/-- What the evidence save leaves: every derived record is stored, and besides
    only records with other ids are kept. -/
theorem save_evidence_ok (h : save_evidence s claim observed_at = .ok s') :
    ∃ goal records, s.val.goal = some goal ∧ goal_correction_pending s = false ∧
      check_claim s goal claim = .ok () ∧
      List.Forall₂ (fun c r => derive_record s goal observed_at c = .ok r)
        goal.mandatory records ∧
      (∀ x, x ∈ s'.val.evidence_records ↔ x ∈ records ∨
        x ∈ s.val.evidence_records ∧ ∀ r ∈ records, x.val.evidence_id ≠ r.val.evidence_id) ∧
      ∃ revision evidence, s'.val = { s.val with
        revision := revision
        evidence_records := evidence } := by
  simp only [save_evidence, bind_eq_ok, Py.refuse_value_eq_ok] at h
  obtain ⟨_, hadvertised, records, hderived, h⟩ := h
  obtain ⟨goal, hgoal, hclaim, hrecords⟩ := derive_evidence_ok hderived
  have hcorrection : goal_correction_pending s = false := by
    simp only [advertises_completion_claim, Bool.not_eq_false, Bool.and_eq_true,
      Bool.not_eq_true'] at hadvertised
    exact hadvertised.2
  have hnodup : (records.map fun r => r.val.evidence_id).Nodup := by
    rw [derived_ids hrecords]
    exact goal.evidence_ids_nodup
  -- a derived record that is not pending is stored as it is
  have hstored : ∀ r ∈ records, r ∉ pending_records s records → r ∈ s.val.evidence_records := by
    intro r hr hnot
    by_contra hmissing
    refine hnot (List.mem_filter.mpr ⟨hr, ?_⟩)
    simp only [ne_eq, decide_eq_true_eq]
    intro hsome
    exact hmissing (stored_record_some hsome).1
  have hunique : ∀ r ∈ records, ∀ x ∈ records, x.val.evidence_id = r.val.evidence_id → x = r :=
    fun r hr x hx hid => List.inj_on_of_nodup_map hnodup hx hr hid
  have hfinal : ∀ x, (x ∈ pending_records s records ∨ x ∈ s.val.evidence_records ∧
      ∀ r ∈ pending_records s records, x.val.evidence_id ≠ r.val.evidence_id) ↔
      (x ∈ records ∨ x ∈ s.val.evidence_records ∧
        ∀ r ∈ records, x.val.evidence_id ≠ r.val.evidence_id) := by
    intro x
    constructor
    · rintro (hx | ⟨hx, hother⟩)
      · exact .inl (List.mem_filter.mp hx).1
      · by_cases hclash : ∃ r ∈ records, x.val.evidence_id = r.val.evidence_id
        · obtain ⟨r, hr, hid⟩ := hclash
          have hkept : r ∈ s.val.evidence_records :=
            hstored r hr fun hpending => hother r hpending hid
          rw [evidence_eq_of_id hx hkept hid]
          exact .inl hr
        · push Not at hclash
          exact .inr ⟨hx, hclash⟩
    · rintro (hx | ⟨hx, hother⟩)
      · by_cases hpending : x ∈ pending_records s records
        · exact .inl hpending
        · refine .inr ⟨hstored x hx hpending, ?_⟩
          intro r hr hid
          have heq := hunique r (List.mem_filter.mp hr).1 x hx hid
          exact hpending (heq ▸ hr)
      · exact .inr ⟨hx, fun r hr => hother r (List.mem_filter.mp hr).1⟩
  refine ⟨goal, records, hgoal, hcorrection, hclaim, hrecords, ?_⟩
  rcases ite_eq_ok.mp h with ⟨hnone, h⟩ | ⟨_, h⟩
  · obtain rfl := pure_eq_ok.mp h
    refine ⟨fun x => ?_, _, _, rfl⟩
    rw [← hfinal x, hnone]
    simp
  · have hpending : ((pending_records s records).map fun r => r.val.evidence_id).Nodup :=
      hnodup.sublist (List.filter_sublist.map _)
    simp only [record_evidence, bind_eq_ok, ite_eq_ok, pure_eq_ok, Checked.make_eq_ok] at h
    obtain ⟨_, _, _, _, _, _, ⟨hsame, rfl⟩ | ⟨_, h⟩⟩ := h
    · refine ⟨fun x => ?_, _, _, rfl⟩
      rw [← hfinal x, ← mem_recorded hpending, hsame]
    · refine ⟨fun x => ?_, _, _, h⟩
      rw [← hfinal x, ← mem_recorded hpending, h]

/-- What the claim save adds: the claim and its receipt. -/
theorem save_claim_ok (h : save_claim s claim observed_at = .ok s') :
    ∃ saved, save_evidence s claim observed_at = .ok saved ∧
      ∃ receipts, s'.val = { saved.val with
        revision := saved.val.revision + 1
        completion_claim := some claim
        control_receipts := receipts } := by
  simp only [save_claim, bind_eq_ok] at h
  obtain ⟨saved, hsaved, h⟩ := h
  exact ⟨saved, hsaved, record_completion_claim_ok h⟩

theorem require_closed_eq_ok {r : ActiveTaskResources} :
    r.require_closed = .ok () ↔ r = ⟨[], []⟩ := by
  obtain ⟨sessions, processes⟩ := r
  by_cases hs : sessions = [] <;> by_cases hp : processes = [] <;>
    simp [ActiveTaskResources.require_closed, Py.refuse_value_eq_ok, hs, hp]

theorem requirements_admitted_iff {oracle_kind : EvidenceOracleKind}
    {same : ProposedCriterion → AdmittedCriterion → Bool}
    (h : requirements_admitted goal goal.mandatory oracle_kind same = true) :
    ∀ p ∈ goal.val.proposed_criteria, p.val.oracle_kind = some oracle_kind →
      goal.requires p.val.criterion_id oracle_kind := by
  intro p hp hkind
  simp only [requirements_admitted, List.all_eq_true, List.mem_filter, List.any_eq_true,
    Bool.and_eq_true, decide_eq_true_eq, and_imp] at h
  obtain ⟨c, hc, ⟨hid, hk⟩, _⟩ := h p hp hkind
  exact ⟨c, hc, hid, hk⟩

end Path

/-! ### The verification, inverted -/

section Verification

variable {rules : TextRules} {s s' : ConversationState} {claim : CompletionClaim}
  {goal : GoalFrame}

theorem mem_insert_sorted {a x : String} {xs : List String} :
    x ∈ PyText.insert_sorted a xs ↔ x = a ∨ x ∈ xs := by
  induction xs with
  | nil => simp [PyText.insert_sorted]
  | cons b xs ih =>
    unfold PyText.insert_sorted
    by_cases hlt : a < b
    · simp [hlt]
    · by_cases heq : a = b
      · simp [heq]
      · simp only [hlt, heq, if_false, List.mem_cons, ih]
        exact or_left_comm

theorem mem_sorted_set {xs : List String} {x : String} : x ∈ PyText.sorted_set xs ↔ x ∈ xs := by
  induction xs with
  | nil => simp [PyText.sorted_set]
  | cons a xs ih =>
    have hcons : PyText.sorted_set (a :: xs) = PyText.insert_sorted a (PyText.sorted_set xs) := rfl
    rw [hcons, mem_insert_sorted, ih, List.mem_cons]

/-- What the coverage of a claim covers. -/
theorem require_requirement_coverage_ok
    (h : require_requirement_coverage s claim goal goal.mandatory = .ok ()) :
    (∀ f ∈ s.val.facts, f.val.kind = .user_message →
      f.val.fact_id ∈ goal.val.created_from_fact_ids →
        ∃ r ∈ claim.val.requirement_coverage, f.val.fact_id ∈ r.val.source_fact_ids) ∧
      ∀ c ∈ goal.mandatory,
        ∃ r ∈ claim.val.requirement_coverage, c.val.criterion_id ∈ r.val.criterion_ids := by
  simp only [require_requirement_coverage, bind_eq_ok, Py.refuse_value_eq_ok, not_not] at h
  obtain ⟨_, _, _, _, _, hcited, _, _, _, _, hcovered⟩ := h
  constructor
  · intro f hf hkind hsource
    by_contra hnone
    have hmem : f.val.fact_id ∈ ([] : List String) := by
      rw [← hcited, List.mem_filter]
      refine ⟨List.mem_map.mpr ⟨f, List.mem_filter.mpr ⟨hf, by simp [hkind, hsource]⟩, rfl⟩, ?_⟩
      simp only [decide_eq_true_eq, List.mem_flatMap]
      exact hnone
    cases hmem
  · intro c hc
    by_contra hnone
    have hmem : c.val.criterion_id ∈ ([] : List String) := by
      rw [← hcovered, List.mem_filter]
      refine ⟨List.mem_map.mpr ⟨c, hc, rfl⟩, ?_⟩
      simp only [decide_eq_true_eq, List.mem_flatMap]
      exact hnone
    cases hmem

/-- No deliverable of the user's text is missing. -/
theorem missing_deliverables_nil (h : missing_deliverables rules s goal.mandatory = []) :
    ∀ path ∈ authoritative_deliverable_file_paths rules s, ∃ c ∈ goal.mandatory,
      c.val.oracle_kind = .filesystem_digest ∧ c.val.predicate.get "path" = .str path := by
  intro path hpath
  by_contra hnone
  have hmem : path ∈ missing_deliverables rules s goal.mandatory := by
    unfold missing_deliverables
    rw [mem_sorted_set, List.mem_filter]
    refine ⟨hpath, ?_⟩
    simp only [decide_eq_true_eq, List.mem_filterMap, not_exists, not_and]
    intro c hc
    split
    · next hkind =>
      intro hstr
      exact hnone ⟨c, hc, hkind, Json.str?_eq_some.mp hstr⟩
    · simp
  rw [h] at hmem
  cases hmem

/-- What a verification checked. -/
structure Verifies (rules : TextRules) (s s' : ConversationState) (goal goal' : GoalFrame)
    (claim : CompletionClaim) : Prop where
  goal_before : s.val.goal = some goal
  claimed : s.val.completion_claim = some claim
  known : has_unknown_effect s = false
  no_takeover : s.val.browser_takeover_pending = none
  resources_closed : active_task_resources s.val.facts = .ok ⟨[], []⟩
  typed : ∀ p ∈ goal.val.proposed_criteria, p.val.oracle_kind ≠ none
  artifacts : ∀ p ∈ goal.val.proposed_criteria, p.val.oracle_kind = some .filesystem_digest →
    goal.requires p.val.criterion_id .filesystem_digest
  processes : ∀ p ∈ goal.val.proposed_criteria, p.val.oracle_kind = some .tool_receipt →
    goal.requires p.val.criterion_id .tool_receipt
  coverage : require_requirement_coverage s claim goal goal.mandatory = .ok ()
  deliverables : missing_deliverables rules s goal.mandatory = []
  goal_after : goal'.val = { goal.val with status := .verified_done, next_step := none }
  result : s'.val = { s.val with
    revision := s.val.revision + 1
    goal := some goal'
    goal_authorizations := []
    process_leases := []
    sandbox_leases := []
    browser_leases := []
    browser_takeover_pending := none }

theorem verify_goal_completion_verifies (h : verify_goal_completion rules s = .ok s') :
    ∃ goal goal' claim, Verifies rules s s' goal goal' claim := by
  simp only [verify_goal_completion, bind_eq_ok, Py.expect_value_eq_ok, Py.refuse_value_eq_ok,
    Checked.make_eq_ok, not_not] at h
  obtain ⟨goal, hgoal, claim, hclaim, _, hknown, _, _, _, _, _, htakeover, resources, hresources,
    _, hclosed, _, _, _, htyped, _, hfiles, _, hprocesses, _, hcoverage, _, hdeliverables, _, _,
    goal', hgoal', hs'⟩ := h
  refine ⟨goal, goal', claim, hgoal, hclaim, by simpa using hknown, htakeover, ?_, ?_, ?_, ?_,
    hcoverage, hdeliverables, hgoal', hs'⟩
  · rw [hresources, require_closed_eq_ok.mp hclosed]
  · intro p hp hnone
    exact htyped (List.any_eq_true.mpr ⟨p, hp, by simpa using hnone⟩)
  · exact requirements_admitted_iff (eq_true_of_ne_false hfiles)
  · exact requirements_admitted_iff (eq_true_of_ne_false hprocesses)

end Verification

/-! ### One record for each criterion -/

section Runs

variable {rules : TextRules} {l : Transition} {s s' : ConversationState}

/-- Every stored record is found under the id of its criterion. -/
def EvidenceKeyed (s : ConversationState) : Prop :=
  ∀ r ∈ s.val.evidence_records, r.keyed

theorem criterion_step_evidence {v v' : GoalLog} (h : CriterionStep v v') :
    v'.evidence ⊆ v.evidence := by
  cases h with
  | propose _ _ _ _ _ hview => rw [hview]; exact List.Subset.refl _
  | append _ _ _ _ _ _ hview => rw [hview]; exact List.Subset.refl _
  | supersede _ _ _ _ _ _ _ _ _ hview =>
    rw [hview]
    intro r hr
    exact (List.mem_filter.mp hr).1

/-- Admissions record nothing. -/
theorem criterion_steps_evidence {v v' : GoalLog} (h : Relation.ReflTransGen CriterionStep v v') :
    v'.evidence ⊆ v.evidence := by
  induction h with
  | refl => exact List.Subset.refl _
  | tail _ hstep ih => exact fun r hr => ih (criterion_step_evidence hstep hr)

theorem confirmation_evidence_keyed {goal : GoalFrame} {c : AdmittedCriterion}
    {fact : ConversationFact} {r : EvidenceRecord} (h : confirmation_evidence goal c fact = .ok r) :
    r.keyed := by
  unfold EvidenceRecord.keyed
  rw [Checked.make_eq_ok.mp h]
  simp [closed_evidence_id, String.append_assoc]

/-- Besides the path of a claim, only a confirmation records evidence. -/
theorem transition_keyed (hl : l.completes = false) (h : transition_step rules s l = .ok s')
    (hkeyed : EvidenceKeyed s) : EvidenceKeyed s' := by
  have hchange := transition_goal_change h
  suffices hevidence : ∀ r ∈ s'.goal_log.evidence, r ∈ s.goal_log.evidence ∨ r.keyed by
    intro r hr
    rcases hevidence r hr with hold | hnew
    · exact hkeyed r hold
    · exact hnew
  intro r hr
  cases hchange with
  | keep hview =>
    rw [hview] at hr
    exact .inl hr
  | install _ _ _ _ hview =>
    rw [hview] at hr
    exact .inl hr
  | restate _ _ _ _ _ _ _ _ _ hview =>
    rw [hview] at hr
    exact .inl hr
  | revise _ _ _ _ _ _ _ hview =>
    rw [hview] at hr
    cases hr
  | admit_criteria hsteps => exact .inl (criterion_steps_evidence hsteps hr)
  | admit_web _ _ _ _ _ _ _ _ _ _ hview =>
    rw [hview] at hr
    exact .inl hr
  | confirm goal added _ _ hadded hview =>
    rw [hview] at hr
    rcases List.mem_append.mp hr with hr | hr
    · exact .inl hr
    · obtain ⟨c, _, fact, hfact⟩ := hadded r hr
      exact .inr (confirmation_evidence_keyed hfact)
  | record _ hlabel => rw [hlabel] at hl; cases hl
  | verify _ _ hlabel => rw [hlabel] at hl; cases hl

variable {claim : CompletionClaim} {observed_at : String}

theorem save_evidence_keyed (h : save_evidence s claim observed_at = .ok s')
    (hkeyed : EvidenceKeyed s) : EvidenceKeyed s' := by
  obtain ⟨goal, records, _, _, _, hrecords, hevidence, _⟩ := save_evidence_ok h
  intro r hr
  rcases (hevidence r).mp hr with hr | ⟨hr, _⟩
  · obtain ⟨c, _, hc⟩ := forall₂_of_mem_right hrecords r hr
    exact (derive_record_ok hc).keyed
  · exact hkeyed r hr

theorem save_claim_keyed (h : save_claim s claim observed_at = .ok s')
    (hkeyed : EvidenceKeyed s) : EvidenceKeyed s' := by
  obtain ⟨saved, hsaved, _, hs'⟩ := save_claim_ok h
  intro r hr
  rw [hs'] at hr
  exact save_evidence_keyed hsaved hkeyed r hr

theorem loop_step_keyed {step : LoopStep} (h : loop_step rules s step = .ok s')
    (hkeyed : EvidenceKeyed s) : EvidenceKeyed s' := by
  cases step with
  | transition l =>
    simp only [loop_step, bind_eq_ok, Py.refuse_value_eq_ok] at h
    obtain ⟨_, hl, h⟩ := h
    exact transition_keyed (by simpa using hl) h hkeyed
  | evidence => exact save_evidence_keyed h hkeyed
  | claim => exact save_claim_keyed h hkeyed
  | completion =>
    simp only [loop_step, save_completion, bind_eq_ok] at h
    obtain ⟨saved, hsaved, h⟩ := h
    obtain ⟨_, _, _, hverifies⟩ := verify_goal_completion_verifies h
    intro r hr
    rw [hverifies.result] at hr
    exact save_claim_keyed hsaved hkeyed r hr

theorem loop_run_keyed {start : ConversationState} {steps : List LoopStep}
    (hstart : start.val.evidence_records = []) (h : (loop_system rules).run start steps = .ok s) :
    EvidenceKeyed s := by
  have hstep : ∀ s step s', EvidenceKeyed s → (loop_system rules).step s step = .ok s' →
      EvidenceKeyed s' := by
    intro s step s' hkeyed h
    have h : loop_step rules s step = .ok s' := h
    exact loop_step_keyed h hkeyed
  refine System.run_invariant hstep ?_ h
  intro r hr
  rw [hstart] at hr
  cases hr

end Runs

/-! ### Completion -/

section Soundness

variable {rules : TextRules} {s s' : ConversationState} {claim : CompletionClaim}
  {observed_at : String} {goal : GoalFrame}

/-- The oracles whose requirements nobody checks. -/
def unchecked_oracles : List EvidenceOracleKind :=
  [.user_confirmation, .research_provenance, .browser_readback]

/-- The requirements with these oracles were admitted. -/
def unchecked_requirements_admitted (goal : GoalFrame) : Prop :=
  ∀ p ∈ goal.val.proposed_criteria, ∀ oracle_kind ∈ unchecked_oracles,
    p.val.oracle_kind = some oracle_kind → goal.requires p.val.criterion_id oracle_kind

/-- The derivation checks the Web requirements. -/
theorem check_claim_web (h : check_claim s goal claim = .ok ()) :
    ∀ p ∈ goal.val.proposed_criteria, p.val.oracle_kind = some .web_source_receipt →
      goal.requires p.val.criterion_id .web_source_receipt := by
  simp only [check_claim, bind_eq_ok, Py.refuse_value_eq_ok, not_not] at h
  obtain ⟨_, _, _, _, _, hweb, _⟩ := h
  intro p hp hkind
  have hmem : p.val.criterion_id ∈ web_requirement_ids goal :=
    List.mem_map.mpr ⟨p, List.mem_filter.mpr ⟨hp, by simpa using hkind⟩, rfl⟩
  obtain ⟨c, hc, hid⟩ := List.mem_map.mp (hweb hmem)
  obtain ⟨hc, horacle⟩ := List.mem_filter.mp hc
  exact ⟨c, hc, hid, by simpa using horacle⟩

/-- A path that went through: the records it derived are stored, and what was
    verified is the Goal it started from. -/
structure Completes (rules : TextRules) (s claimed s' : ConversationState)
    (goal goal' : GoalFrame) (claim : CompletionClaim) (observed_at : String)
    (records : List EvidenceRecord) : Prop where
  uncorrected : goal_correction_pending s = false
  checked : check_claim s goal claim = .ok ()
  derived : List.Forall₂ (fun c r => derive_record s goal observed_at c = .ok r)
    goal.mandatory records
  recorded : ∀ r ∈ records, r ∈ s'.val.evidence_records
  keyed : EvidenceKeyed s'
  conversation : claimed.val.conversation_id = s.val.conversation_id
  facts : claimed.val.facts = s.val.facts
  goal_kept : claimed.val.goal = s.val.goal
  verifies : Verifies rules claimed s' goal goal' claim

theorem save_completion_completes (hkeyed : EvidenceKeyed s)
    (h : save_completion rules s claim observed_at = .ok s') :
    ∃ claimed goal goal' records,
      Completes rules s claimed s' goal goal' claim observed_at records := by
  simp only [save_completion, bind_eq_ok] at h
  obtain ⟨claimed, hclaimed, h⟩ := h
  have hkeyed : EvidenceKeyed claimed := save_claim_keyed hclaimed hkeyed
  obtain ⟨saved, hsaved, receipts, hclaimed⟩ := save_claim_ok hclaimed
  obtain ⟨goal, records, hgoal, hcorrection, hclaim, hrecords, hevidence, revision, evidence,
    hafter⟩ := save_evidence_ok hsaved
  obtain ⟨verified, goal', claim', v⟩ := verify_goal_completion_verifies h
  have hkept : claimed.val.goal = s.val.goal := by simp [hclaimed, hafter]
  have hsame : verified = goal := by
    have hbefore := v.goal_before
    rw [hkept, hgoal] at hbefore
    exact (Option.some.inj hbefore).symm
  have hclaimed' : claim' = claim := by
    have hbefore := v.claimed
    rw [hclaimed] at hbefore
    exact (Option.some.inj hbefore).symm
  rw [hsame, hclaimed'] at v
  refine ⟨claimed, goal, goal', records, hcorrection, hclaim, hrecords, ?_, ?_, ?_, ?_, hkept, v⟩
  · intro r hr
    have hstored : r ∈ saved.val.evidence_records := (hevidence r).mpr (.inl hr)
    simpa [v.result, hclaimed] using hstored
  · intro r hr
    rw [v.result] at hr
    exact hkeyed r hr
  · simp [hclaimed, hafter]
  · simp [hclaimed, hafter]

section Completed

variable {claimed : ConversationState} {goal' : GoalFrame} {records : List EvidenceRecord}

/-- The verified Goal is the one the path started from, restated. -/
theorem Completes.same_goal
    (w : Completes rules s claimed s' goal goal' claim observed_at records) :
    SameGoal goal goal' ∧ goal'.mandatory = goal.mandatory ∧
      goal'.val.proposed_criteria = goal.val.proposed_criteria := by
  have hgoal := w.verifies.goal_after
  refine ⟨⟨?_, ?_, ?_⟩, ?_, ?_⟩ <;> simp [hgoal, GoalFrame.mandatory]

/-- Every mandatory criterion has one record, and its oracle computes it. -/
theorem Completes.evidence
    (w : Completes rules s claimed s' goal goal' claim observed_at records) :
    ∀ c ∈ goal'.mandatory, ∃ r ∈ s'.val.evidence_records,
      (∀ x ∈ s'.val.evidence_records, x.binds goal' c ↔ x = r) ∧ r.val.passed = true ∧
        derives s' goal' c r := by
  obtain ⟨hsame, hmandatory, _⟩ := w.same_goal
  have hfacts : s'.val.facts = s.val.facts := by rw [w.verifies.result, w.facts]
  have hconversation : s'.val.conversation_id = s.val.conversation_id := by
    rw [w.verifies.result, w.conversation]
  intro c hc
  obtain ⟨r, hr, hderived⟩ := forall₂_of_mem_left w.derived c (hmandatory ▸ hc)
  have hderives : derives s' goal' c r := by
    obtain ⟨checked_at, proof, hproof, hrecord⟩ := derive_record_ok hderived
    refine ⟨checked_at, proof, ?_, ?_⟩
    · rw [hsame.same_prove_criterion hfacts hconversation, hproof]
    · rw [hrecord]
      simp [record_fields, hsame.same_evidence_id, hsame.goal_id, hsame.revision]
  refine ⟨r, w.recorded r hr, ?_, hderives.passed, hderives⟩
  intro x hx
  constructor
  · intro hbinds
    refine evidence_eq_of_id hx (w.recorded r hr) ?_
    rw [(w.keyed x hx).evidence_id hbinds, hderives.evidence_id]
  · rintro rfl
    exact hderives.binds

/-- The requirements somebody checks were admitted. -/
theorem Completes.requirements
    (w : Completes rules s claimed s' goal goal' claim observed_at records)
    (hunchecked : unchecked_requirements_admitted goal) :
    ∀ p ∈ goal.val.proposed_criteria, ∃ oracle_kind,
      p.val.oracle_kind = some oracle_kind ∧ goal.requires p.val.criterion_id oracle_kind := by
  intro p hp
  cases hkind : p.val.oracle_kind with
  | none => exact absurd hkind (w.verifies.typed p hp)
  | some oracle_kind =>
    refine ⟨oracle_kind, rfl, ?_⟩
    cases oracle_kind with
    | filesystem_digest => exact w.verifies.artifacts p hp hkind
    | tool_receipt => exact w.verifies.processes p hp hkind
    | web_source_receipt => exact check_claim_web w.checked p hp hkind
    | user_confirmation => exact hunchecked p hp _ (by simp [unchecked_oracles]) hkind
    | research_provenance => exact hunchecked p hp _ (by simp [unchecked_oracles]) hkind
    | browser_readback => exact hunchecked p hp _ (by simp [unchecked_oracles]) hkind

/-- The path leaves a Goal that is proven done exactly when the requirements
    nobody checks were admitted. -/
theorem Completes.proven_done_iff
    (w : Completes rules s claimed s' goal goal' claim observed_at records) :
    ProvenDone rules s' goal' claim ↔ unchecked_requirements_admitted goal := by
  obtain ⟨hsame, hmandatory, hproposed⟩ := w.same_goal
  have v := w.verifies
  have hrequires : ∀ id kind, goal'.requires id kind ↔ goal.requires id kind := by
    intro id kind
    simp [GoalFrame.requires, hmandatory]
  have hsources : goal'.val.created_from_fact_ids = goal.val.created_from_fact_ids := by
    rw [v.goal_after]
  have hfacts : s'.val.facts = claimed.val.facts := by rw [v.result]
  constructor
  · intro done p hp oracle_kind _ hkind
    obtain ⟨kind, hp', hrequired⟩ := done.requirements p (hproposed ▸ hp)
    rw [hkind] at hp'
    rw [← Option.some.inj hp'] at hrequired
    exact (hrequires _ _).mp hrequired
  · intro hunchecked
    obtain ⟨hcited, hbound⟩ := require_requirement_coverage_ok v.coverage
    have hpaths : authoritative_deliverable_file_paths rules s' =
        authoritative_deliverable_file_paths rules claimed := by
      simp [authoritative_deliverable_file_paths, goal_source_facts, v.result, v.goal_before,
        hsources]
    refine {
      requirements := ?_
      evidence := w.evidence
      deliverables := ?_
      sources_cited := ?_
      criteria_bound := by rwa [hmandatory]
      resources_closed := by rw [hfacts]; exact v.resources_closed
      no_takeover := by rw [v.result]
      no_unknown_effect := ?_
      no_correction := ?_ }
    · intro p hp
      obtain ⟨kind, hkind, hrequired⟩ := w.requirements hunchecked p (hproposed ▸ hp)
      exact ⟨kind, hkind, (hrequires _ _).mpr hrequired⟩
    · rw [hpaths, hmandatory]
      exact missing_deliverables_nil v.deliverables
    · rw [hfacts, hsources]
      exact hcited
    · have hknown := v.known
      simpa [has_unknown_effect, v.result] using hknown
    · have hcorrection := w.uncorrected
      simpa [goal_correction_pending, v.result, w.facts, ← w.goal_kept, v.goal_before,
        hsources] using hcorrection

end Completed

/-! ### Runs -/

theorem criterion_step_status {v v' : GoalLog} {goal goal' : GoalFrame} (h : CriterionStep v v')
    (hgoal : v.goal = some goal) (hgoal' : v'.goal = some goal') :
    goal'.val.status = goal.val.status := by
  cases h with
  | propose g g' _ hbefore hg hview | append g g' _ _ hbefore hg hview
  | supersede g g' _ _ _ _ _ hbefore hg hview =>
    rw [hview] at hgoal'
    obtain rfl := Option.some.inj hgoal'
    rw [hbefore] at hgoal
    obtain rfl := Option.some.inj hgoal
    rw [hg]

/-- Admissions need a Goal and keep its status. -/
theorem criterion_steps_status {v v' : GoalLog} {goal' : GoalFrame}
    (h : Relation.ReflTransGen CriterionStep v v') (hgoal' : v'.goal = some goal') :
    ∃ goal, v.goal = some goal ∧ goal'.val.status = goal.val.status := by
  induction h generalizing goal' with
  | refl => exact ⟨goal', hgoal', rfl⟩
  | tail _ hstep ih =>
    obtain ⟨between, hbetween⟩ : ∃ between, _ = some between := by
      cases hstep with
      | propose g _ _ hbefore | append g _ _ _ hbefore
      | supersede g _ _ _ _ _ _ hbefore => exact ⟨g, hbefore⟩
    obtain ⟨goal, hgoal, hstatus⟩ := ih hbetween
    exact ⟨goal, hgoal, (criterion_step_status hstep hbetween hgoal').trans hstatus⟩

/-- A transition outside the path of a claim verifies no Goal. -/
theorem transition_verifies_nothing {l : Transition} {goal' : GoalFrame}
    (hl : l.completes = false) (h : transition_step rules s l = .ok s')
    (hgoal' : s'.val.goal = some goal') (hdone : goal'.val.status = .verified_done) :
    ∃ goal, s.val.goal = some goal ∧ goal.val.status = .verified_done := by
  have hafter : s'.goal_log.goal = some goal' := hgoal'
  suffices hbefore : ∃ goal, s.goal_log.goal = some goal ∧ goal.val.status = .verified_done from
    hbefore
  cases transition_goal_change h with
  | keep hview =>
    rw [hview] at hafter
    exact ⟨goal', hafter, hdone⟩
  | install g _ hready _ hview =>
    rw [hview] at hafter
    obtain rfl := Option.some.inj hafter
    rw [hready] at hdone
    cases hdone
  | restate g g' status _ _ _ hbefore hstatus hg hview =>
    rw [hview] at hafter
    obtain rfl := Option.some.inj hafter
    have hset : status = .verified_done := by simpa [hg] using hdone
    rcases hstatus with hsame | ⟨_, hother⟩
    · exact ⟨g, hbefore, by rw [← hsame, hset]⟩
    · exact absurd hset hother
  | revise _ g' _ _ _ hopen _ hview =>
    rw [hview] at hafter
    obtain rfl := Option.some.inj hafter
    rw [hdone] at hopen
    cases hopen
  | admit_criteria hsteps =>
    obtain ⟨goal, hgoal, hstatus⟩ := criterion_steps_status hsteps hafter
    exact ⟨goal, hgoal, by rw [← hstatus, hdone]⟩
  | admit_web _ _ g g' _ _ _ hbefore _ hg hview =>
    rw [hview] at hafter
    obtain rfl := Option.some.inj hafter
    exact ⟨g, hbefore, by simpa [hg] using hdone⟩
  | confirm g _ _ _ _ hview =>
    rw [hview] at hafter
    exact ⟨goal', hafter, hdone⟩
  | record _ hlabel => rw [hlabel] at hl; cases hl
  | verify _ _ hlabel => rw [hlabel] at hl; cases hl

/-- Only the whole path of a claim verifies a Goal. -/
theorem loop_step_verifies {step : LoopStep} {goal' : GoalFrame}
    (h : loop_step rules s step = .ok s') (hgoal' : s'.val.goal = some goal')
    (hdone : goal'.val.status = .verified_done)
    (hbefore : ∀ goal, s.val.goal = some goal → goal.val.status ≠ .verified_done) :
    ∃ claim observed_at, step = .completion claim observed_at := by
  cases step with
  | transition l =>
    simp only [loop_step, bind_eq_ok, Py.refuse_value_eq_ok] at h
    obtain ⟨_, hl, h⟩ := h
    obtain ⟨goal, hgoal, hstatus⟩ :=
      transition_verifies_nothing (by simpa using hl) h hgoal' hdone
    exact absurd hstatus (hbefore goal hgoal)
  | evidence claim observed_at =>
    obtain ⟨_, _, _, _, _, _, _, _, _, hs'⟩ := save_evidence_ok h
    rw [hs'] at hgoal'
    exact absurd hdone (hbefore goal' hgoal')
  | claim claim observed_at =>
    obtain ⟨saved, hsaved, _, hs'⟩ := save_claim_ok h
    obtain ⟨_, _, _, _, _, _, _, _, _, hkept⟩ := save_evidence_ok hsaved
    rw [hs', hkept] at hgoal'
    exact absurd hdone (hbefore goal' hgoal')
  | completion claim observed_at => exact ⟨claim, observed_at, rfl⟩

/-- In every run, a step that makes a Goal verified is the path of a claim, and
    the Goal is proven done exactly when its requirements of user confirmation,
    research provenance and browser read-back were admitted. -/
theorem verified_done_sound {conversation_id : String}
    {workspace_binding : Option ConversationWorkspaceBindingV1}
    {background_occurrence_binding : Option BackgroundOccurrenceBindingV1}
    {start : ConversationState} {steps : List LoopStep} {step : LoopStep} {goal' : GoalFrame}
    (hstart : ConversationState.new conversation_id workspace_binding
      background_occurrence_binding = .ok start)
    (hrun : (loop_system rules).run start steps = .ok s)
    (hstep : loop_step rules s step = .ok s') (hgoal' : s'.val.goal = some goal')
    (hdone : goal'.val.status = .verified_done)
    (hbefore : ∀ goal, s.val.goal = some goal → goal.val.status ≠ .verified_done) :
    ∃ claim observed_at goal, step = .completion claim observed_at ∧ s.val.goal = some goal ∧
      (ProvenDone rules s' goal' claim ↔ unchecked_requirements_admitted goal) := by
  obtain ⟨claim, observed_at, rfl⟩ := loop_step_verifies hstep hgoal' hdone hbefore
  have hempty : start.val.evidence_records = [] := by rw [Checked.make_eq_ok.mp hstart]
  -- from a new conversation on, every record carries its key
  have hkeyed : EvidenceKeyed s := loop_run_keyed hempty hrun
  have hpath : save_completion rules s claim observed_at = .ok s' := hstep
  obtain ⟨claimed, goal, verified, records, w⟩ := save_completion_completes hkeyed hpath
  have hsame : verified = goal' := by
    have hafter := hgoal'
    rw [w.verifies.result] at hafter
    exact Option.some.inj hafter
  rw [hsame] at w
  have hgoal : s.val.goal = some goal := by rw [← w.goal_kept, w.verifies.goal_before]
  exact ⟨claim, observed_at, goal, rfl, hgoal, w.proven_done_iff⟩

end Soundness

/-! ### A requirement nobody admitted -/

section Valid

variable {s : ConversationState} {goal : GoalFrame} {claim : CompletionClaim}

/-- New evidence of the current revision leaves a valid state. -/
theorem recorded_valid (records : List EvidenceRecord) (hgoal : s.val.goal = some goal)
    (hopen : goal.val.status ≠ .verified_done) (hclaim : s.val.completion_claim = none)
    (hnodup : (records.map fun r => r.val.evidence_id).Nodup)
    (hcurrent : ∀ r ∈ records,
      r.val.goal_id = goal.val.goal_id ∧ r.val.goal_revision = goal.val.revision) :
    ∃ t : ConversationState, t.val = { s.val with
      revision := s.val.revision + 1
      evidence_records := records } := by
  refine ⟨⟨_, ?_⟩, rfl⟩
  have h := s.valid
  simp only [ConversationStateFields.post_init, ConversationStateFields.check_sequences, hgoal,
    ConversationStateFields.check_goal, bind_eq_ok, Py.refuse_value_eq_ok, if_neg hopen] at h ⊢
  obtain ⟨_, ⟨_, h₁, _, h₂, _, h₃, _, h₄, _, h₅, _, h₆, _, h₇, _, h₈, _⟩, _,
    ⟨_, g₁, _, g₂, _, g₃, _, g₄, _⟩, hprovider⟩ := h
  have hrevision : ¬ s.val.revision + 1 < 0 := by omega
  refine ⟨(), ⟨(), h₁, (), hrevision, (), h₃, (), h₄, (), h₅, (), h₆, (), h₇, (), h₈, ?_⟩, (),
    ⟨(), g₁, (), g₂, (), g₃, (), g₄, (), ?_, (), ?_, trivial⟩, hprovider⟩
  · rw [not_not]
    exact hnodup
  · rintro ⟨r, hr, hstale⟩
    obtain ⟨hid, hrevision⟩ := hcurrent r hr
    rcases hstale with hstale | hstale
    · exact hstale hid
    · exact hstale hrevision
  · simp [hclaim]

/-- A claim of the current revision on stored evidence leaves a valid state. -/
theorem claimed_valid (receipt : ControlReceipt) (hgoal : s.val.goal = some goal)
    (hopen : goal.val.status ≠ .verified_done)
    (hunused : receipt.val.correlation_id ∉
      s.val.control_receipts.map fun r => r.val.correlation_id)
    (hcurrent : claim.val.goal_id = goal.val.goal_id ∧ claim.val.goal_revision = goal.val.revision)
    (hrefs : claim.val.criterion_evidence_refs ⊆ s.val.evidence_ids) :
    ∃ t : ConversationState, t.val = { s.val with
      revision := s.val.revision + 1
      completion_claim := some claim
      control_receipts := s.val.control_receipts ++ [receipt] } := by
  refine ⟨⟨_, ?_⟩, rfl⟩
  have h := s.valid
  simp only [ConversationStateFields.post_init, ConversationStateFields.check_sequences, hgoal,
    ConversationStateFields.check_goal, ConversationStateFields.check_provider, bind_eq_ok,
    Py.refuse_value_eq_ok, if_neg hopen] at h ⊢
  obtain ⟨_, ⟨_, h₁, _, h₂, _, h₃, _, h₄, _, h₅, _, h₆, _, h₇, _, h₈, h₉⟩, _,
    ⟨_, g₁, _, g₂, _, g₃, _, g₄, _, g₅, _⟩, _, p₁, _, p₂, _, p₃, _, p₄, _, p₅, _, p₆,
    hreceipts⟩ := h
  have hrevision : ¬ s.val.revision + 1 < 0 := by omega
  refine ⟨(), ⟨(), h₁, (), hrevision, (), h₃, (), h₄, (), h₅, (), h₆, (), h₇, (), h₈, h₉⟩, (),
    ⟨(), g₁, (), g₂, (), g₃, (), g₄, (), g₅, (), ?_, trivial⟩, (), p₁, (), p₂, (), p₃, (), p₄, (),
    p₅, (), p₆, ?_⟩
  · obtain ⟨hid, hrevision⟩ := hcurrent
    simp only [Option.any_some, hid, hrevision]
    have hstored : ∀ e ∈ claim.val.criterion_evidence_refs, e ∈ s.val.evidence_ids :=
      fun e he => hrefs he
    simpa [ConversationStateFields.evidence_ids] using hstored
  · rw [not_not] at hreceipts ⊢
    rw [List.map_append, List.nodup_append]
    refine ⟨hreceipts, List.nodup_singleton _, ?_⟩
    intro a ha b hb heq
    rw [List.map_singleton, List.mem_singleton] at hb
    exact hunused (by rw [← hb, ← heq]; exact ha)

/-- A verified Goal with proven criteria and no authority is a valid state. -/
theorem verified_valid (goal' : GoalFrame) (hgoal : s.val.goal = some goal)
    (hopen : goal.val.status ≠ .verified_done)
    (hgoal' : goal'.val = { goal.val with status := .verified_done, next_step := none })
    (hknown : has_unknown_effect s = false) (hclaim : s.val.completion_claim = some claim)
    (hmandatory : goal.mandatory ≠ [])
    (hproven : ∀ c ∈ goal.mandatory, s.val.criterion_verified claim c = true) :
    ∃ t : ConversationState, t.val = { s.val with
      revision := s.val.revision + 1
      goal := some goal'
      goal_authorizations := []
      process_leases := []
      sandbox_leases := []
      browser_leases := []
      browser_takeover_pending := none } := by
  refine ⟨⟨_, ?_⟩, rfl⟩
  have h := s.valid
  have hdone : goal'.val.status = .verified_done := by rw [hgoal']
  simp only [ConversationStateFields.post_init, ConversationStateFields.check_sequences, hgoal,
    ConversationStateFields.check_goal, bind_eq_ok, Py.refuse_value_eq_ok, if_neg hopen,
    if_pos hdone] at h ⊢
  obtain ⟨_, ⟨_, h₁, _, h₂, _, h₃, _, h₄, _, h₅, _, h₆, _, h₇, _, h₈, h₉⟩, _,
    ⟨_, g₁, _, g₂, _, g₃, _, g₄, _, g₅, _, g₆, _⟩, hprovider⟩ := h
  have hrevision : ¬ s.val.revision + 1 < 0 := by omega
  -- the leases are gone, and the checks of the Goal are left
  refine ⟨(), ⟨(), h₁, (), hrevision, (), h₃, (), h₄, (), h₅, (), h₆, (), h₇, (), h₈, h₉⟩, (),
    ⟨(), ?_, (), ?_, (), ?_, (), ?_, (), ?_, (), ?_, ?_⟩, hprovider⟩
  · simp [ConversationStateFields.validate_process_leases, ConversationStateFields.validate_leases]
    decide
  · simp [ConversationStateFields.validate_sandbox_leases, ConversationStateFields.validate_leases]
    decide
  · simpa [hgoal'] using g₃
  · simp
  · simpa [hgoal'] using g₅
  · simpa [hgoal', ConversationStateFields.evidence_ids] using g₆
  · simp only [ConversationStateFields.check_verified_done, bind_eq_ok, Py.expect_value_eq_ok,
      Py.refuse_value_eq_ok, hclaim, Option.some.injEq, exists_eq_left']
    have hsame : (goal'.val.admitted_criteria.filter fun c => c.val.mandatory) =
        goal.mandatory := by
      rw [hgoal']
      rfl
    rw [hsame]
    refine ⟨(), ?_, ?_⟩
    · simpa [has_unknown_effect] using hknown
    · rintro (hnone | hany)
      · exact hmandatory hnone
      · obtain ⟨c, hc, hnot⟩ := List.any_eq_true.mp hany
        have hno : s.val.criterion_verified claim c = false := (Bool.not_eq_true' _).mp hnot
        rw [hproven c hc] at hno
        cases hno

end Valid

def written_criterion : AdmittedCriterion :=
  ⟨{ criterion_id := "written", description := "the file is written"
     source_fact_id := "action:1:user", oracle_kind := .tool_receipt
     predicate := JsonDict.of [("receipt_digest", .str "receipt")]
     required_evidence_class := "tool_receipt", admission_digest := "admission" }, by decide⟩

/-- The user is asked to review the outcome, but only a receipt was admitted. -/
def reviewed_goal : GoalFrame :=
  ⟨{ goal_id := "goal", revision := 1, created_from_fact_ids := ["action:1:user"]
     workspace_identity_digest := "digest", user_outcome := "an outcome"
     beneficiary := "the user", targets := ["target"], scope := ["scope"], non_goals := []
     assumptions := []
     proposed_criteria := [
       ⟨{ criterion_id := "review", description := "the user reviews it"
          oracle_kind := some .user_confirmation }, by decide⟩]
     admitted_criteria := [written_criterion]
     authority_snapshot := "snapshot", status := .goal_ready
     created_at := "2025-01-01T00:00:00Z", updated_at := "2025-01-01T00:00:00Z" }, by decide⟩

def written_result : ConversationFact :=
  ⟨{ fact_id := "run:run-1:tool-result:call-1:6", kind := .tool_result
     content := JsonDict.of [
       ("tool_call_id", .str "call-1"), ("text", .str "written"), ("is_error", .bool false),
       ("executed", .bool true),
       ("metadata", .dict (JsonDict.of [("receipt_digest", .str "receipt")]))] }, by decide⟩

/-- The only tool of the run writes the file. -/
def written_steps : List LoopStep := [
  .transition (submit_step 1 0 "run-1"), .transition (.claim_run "invocation"),
  .transition (.create_goal reviewed_goal),
  .transition (.start_tool_batch [write_call] none none),
  .transition (.mark_executing write_execution),
  .transition (.record_tool_result written_result "intent")]

def written_claim : CompletionClaim :=
  ⟨{ correlation_id := "completion", goal_id := "goal", goal_revision := 1
     criterion_evidence_refs := ["evidence:goal:1:written"]
     requirement_coverage := [
       ⟨{ requirement_id := "requirement", requirement := "the file is written"
          source_fact_ids := ["action:1:user"], status := "satisfied"
          criterion_ids := ["written"] }, by decide⟩] }, by decide⟩


def written_at : String := "2025-01-01T00:00:00Z"

def written_record : EvidenceRecord where
  val := record_fields reviewed_goal written_criterion written_at
    ⟨[written_result], "tool-receipt:v1"⟩
  valid := by
    have hid : reviewed_goal.evidence_id written_criterion = "evidence:goal:1:written" := by decide
    simp [EvidenceRecordFields.post_init, record_fields, source_digest, hid,
      canonical_json_digest_ne_empty, bind_eq_ok, Py.refuse_value_eq_ok, Py.any_empty]
    decide

/-- What the path of the claim looks at. -/
structure ReadyToClaim (s : ConversationState) : Prop where
  goal : s.val.goal = some reviewed_goal
  no_evidence : s.val.evidence_records = []
  no_claim : s.val.completion_claim = none
  no_receipt : s.val.control_receipts = []
  known : has_unknown_effect s = false
  no_takeover : s.val.browser_takeover_pending = none
  advertised : advertises_completion_claim s = true
  resources_closed : active_task_resources s.val.facts = .ok ⟨[], []⟩
  checked : check_claim s reviewed_goal written_claim = .ok ()
  proof : tool_receipt s.val.facts reviewed_goal written_criterion.val.predicate =
    .ok ⟨[written_result], "tool-receipt:v1"⟩
  coverage : require_requirement_coverage s written_claim reviewed_goal reviewed_goal.mandatory =
    .ok ()
  deliverables : missing_deliverables .silent s reviewed_goal.mandatory = []

theorem written_ready : ∃ s, (loop_system .silent).run .fresh written_steps = .ok s ∧
    ReadyToClaim s := by
  have hruns : succeeds ((loop_system .silent).run .fresh written_steps) (fun s =>
      s.val.goal = some reviewed_goal && s.val.evidence_records = [] &&
      s.val.completion_claim = none && s.val.control_receipts = [] &&
      has_unknown_effect s = false && s.val.browser_takeover_pending = none &&
      advertises_completion_claim s &&
      (succeeds (active_task_resources s.val.facts) fun r => r = ⟨[], []⟩) &&
      (succeeds (check_claim s reviewed_goal written_claim) fun _ => true) &&
      (succeeds (tool_receipt s.val.facts reviewed_goal written_criterion.val.predicate)
        fun p => p.source = [written_result] && p.oracle_identity = "tool-receipt:v1") &&
      (succeeds
        (require_requirement_coverage s written_claim reviewed_goal reviewed_goal.mandatory)
        fun _ => true) &&
      missing_deliverables .silent s reviewed_goal.mandatory = []) = true := by
    decide +kernel
  obtain ⟨s, hs, h⟩ := succeeds_iff.mp hruns
  simp only [Bool.and_eq_true, decide_eq_true_eq] at h
  obtain ⟨⟨⟨⟨⟨⟨⟨⟨⟨⟨⟨h₁, h₂⟩, h₃⟩, h₄⟩, h₅⟩, h₆⟩, h₇⟩, h₈⟩, h₉⟩, h₁₀⟩, h₁₁⟩, h₁₂⟩ := h
  obtain ⟨r, hr, heq⟩ := succeeds_iff.mp h₈
  obtain ⟨_, hclaim, _⟩ := succeeds_iff.mp h₉
  obtain ⟨⟨source, identity⟩, hp, hproof⟩ := succeeds_iff.mp h₁₀
  obtain ⟨_, hcoverage, _⟩ := succeeds_iff.mp h₁₁
  simp only [Bool.and_eq_true, decide_eq_true_eq] at heq hproof
  obtain ⟨rfl, rfl⟩ := hproof
  rw [heq] at hr
  exact ⟨s, hs, h₁, h₂, h₃, h₄, h₅, h₆, h₇, hr, hclaim, hp, hcoverage, h₁₂⟩

theorem reviewed_goal_open : reviewed_goal.val.status ≠ .verified_done := by decide

theorem reviewed_goal_mandatory : reviewed_goal.mandatory = [written_criterion] := by decide

section Written

variable {s : ConversationState}

theorem ReadyToClaim.derives_record (w : ReadyToClaim s) :
    derive_evidence s written_claim written_at = .ok [written_record] := by
  have hrecord : derive_record s reviewed_goal written_at written_criterion =
      .ok written_record := by
    have hnone : stored_record s (reviewed_goal.evidence_id written_criterion) = none := by
      simp [stored_record, w.no_evidence]
    have hprove : prove_criterion s reviewed_goal written_criterion written_at =
        .ok ⟨[written_result], "tool-receipt:v1"⟩ := w.proof
    rw [derive_record, hnone]
    simp only [bind_eq_ok]
    exact ⟨_, hprove, Checked.make_eq_ok.mpr rfl⟩
  simp only [derive_evidence, bind_eq_ok, Py.expect_value_eq_ok]
  refine ⟨reviewed_goal, w.goal, (), w.checked, ?_⟩
  rw [reviewed_goal_mandatory]
  simp only [List.mapM_cons, List.mapM_nil, bind_eq_ok, pure_eq_ok]
  exact ⟨written_record, hrecord, [], rfl, rfl⟩

theorem ReadyToClaim.saves_evidence (w : ReadyToClaim s) : ∃ t,
    save_evidence s written_claim written_at = .ok t ∧ t.val = { s.val with
      revision := s.val.revision + 1
      evidence_records := [written_record] } := by
  obtain ⟨t, ht⟩ := recorded_valid [written_record] w.goal reviewed_goal_open w.no_claim (by simp)
    (by simp [written_record, record_fields])
  refine ⟨t, ?_, ht⟩
  have hpending : pending_records s [written_record] = [written_record] := by
    simp [pending_records, stored_record, w.no_evidence]
  have hbinds : evidence_binds reviewed_goal written_record = true := by
    have hfind : (reviewed_goal.val.admitted_criteria.reverse.find? fun c =>
        c.val.criterion_id = written_record.val.criterion_id) = some written_criterion := by
      decide +kernel
    simp only [evidence_binds, hfind]
    simp [written_record, record_fields]
  have hmerged : [written_record].foldl merge_record s.val.evidence_records =
      [written_record] := by
    simp [w.no_evidence, merge_record]
  simp only [save_evidence, bind_eq_ok, Py.refuse_value_eq_ok]
  refine ⟨(), by simp [w.advertised], [written_record], w.derives_record, ?_⟩
  rw [hpending, if_neg (by simp)]
  simp only [record_evidence, bind_eq_ok, Py.expect_value_eq_ok, Py.refuse_value_eq_ok]
  refine ⟨reviewed_goal, w.goal, (), by simp, (), by simp [hbinds], ?_⟩
  rw [hmerged, if_neg (by simp [w.no_evidence])]
  exact Checked.make_eq_ok.mpr ht

theorem ReadyToClaim.saves_claim (w : ReadyToClaim s) : ∃ u receipts,
    save_claim s written_claim written_at = .ok u ∧ u.val = { s.val with
      revision := s.val.revision + 1 + 1
      evidence_records := [written_record]
      completion_claim := some written_claim
      control_receipts := receipts } := by
  obtain ⟨t, hsaved, ht⟩ := w.saves_evidence
  have hgoal : t.val.goal = some reviewed_goal := by rw [ht, w.goal]
  have hreceipts : t.val.control_receipts = [] := by rw [ht, w.no_receipt]
  have hids : t.val.evidence_ids = ["evidence:goal:1:written"] := by
    have hid : written_record.val.evidence_id = "evidence:goal:1:written" := by decide
    simp [ConversationStateFields.evidence_ids, ht, hid]
  have hrevision : 0 ≤ s.val.revision := by
    have h := s.valid
    simp only [ConversationStateFields.post_init, ConversationStateFields.check_sequences,
      bind_eq_ok, Py.refuse_value_eq_ok] at h
    obtain ⟨_, ⟨_, _, _, hrevision, _⟩, _⟩ := h
    omega
  have hrefs : written_claim.val.criterion_evidence_refs ⊆ t.val.evidence_ids := by
    rw [hids]
    decide
  have hreceipt : ∃ receipt, ControlReceipt.create {
      correlation_id := written_claim.val.correlation_id
      control_kind := "completion_claim"
      goal_id := some reviewed_goal.val.goal_id
      goal_revision := some reviewed_goal.val.revision
      accepted_state_revision := t.val.revision + 1
      payload_digest := canonical_json_digest <| .dict <| JsonDict.of [
        ("goal_id", .str written_claim.val.goal_id),
        ("goal_revision", .int written_claim.val.goal_revision),
        ("criterion_evidence_refs", .strs written_claim.val.criterion_evidence_refs),
        ("requirement_coverage",
          .arr (written_claim.val.requirement_coverage.map RequirementCoverage.asdict))] } =
      .ok receipt := by
    refine ⟨⟨_, ?_⟩, Checked.make_eq_ok.mpr rfl⟩
    have hnonneg : ¬ t.val.revision + 1 < 0 := by
      rw [ht]
      show ¬ s.val.revision + 1 + 1 < 0
      omega
    simp [ControlReceiptFields.post_init, ControlReceiptFields.expected_digest, bind_eq_ok,
      Py.refuse_value_eq_ok, canonical_json_digest_ne_empty, hnonneg]
    decide
  obtain ⟨receipt, hreceipt⟩ := hreceipt
  obtain ⟨u, hu⟩ := @claimed_valid t reviewed_goal written_claim receipt hgoal reviewed_goal_open
    (by simp [hreceipts]) ⟨rfl, rfl⟩ hrefs
  refine ⟨u, [receipt], ?_, ?_⟩
  · simp only [save_claim, bind_eq_ok, record_completion_claim, Py.refuse_value_eq_ok]
    refine ⟨t, hsaved, reviewed_goal, ?_, (), by decide, (), ?_, (), not_not.mpr hrefs, receipt,
      hreceipt, Checked.make_eq_ok.mpr hu⟩
    · exact require_goal_revision_ok.mpr ⟨hgoal, rfl, rfl⟩
    · simp [require_unused_correlation, hreceipts, Py.refuse_value_eq_ok]
  · simp [hu, ht, w.no_receipt]

/-- The path of the claim goes through. -/
theorem ReadyToClaim.saves_completion (w : ReadyToClaim s) : ∃ s' goal',
    save_completion .silent s written_claim written_at = .ok s' ∧
    s'.val.goal = some goal' ∧ goal'.val =
      { reviewed_goal.val with status := .verified_done, next_step := none } := by
  obtain ⟨u, receipts, hclaimed, hu⟩ := w.saves_claim
  have hgoal : u.val.goal = some reviewed_goal := by rw [hu, w.goal]
  have hknown : has_unknown_effect u = false := by
    have h := w.known
    simpa [has_unknown_effect, hu] using h
  have hfound : u.val.claimed_record written_claim written_criterion.val.criterion_id =
      some written_record := by
    have hstored : u.val.evidence_records = [written_record] := by rw [hu]
    rw [ConversationStateFields.claimed_record, hstored]
    decide +kernel
  have hproven : ∀ c ∈ reviewed_goal.mandatory,
      u.val.criterion_verified written_claim c = true := by
    intro c hc
    rw [reviewed_goal_mandatory, List.mem_singleton] at hc
    rw [hc, ConversationStateFields.criterion_verified, hfound]
    simp [written_record, record_fields]
  have hproves : evidence_proves u written_claim reviewed_goal reviewed_goal.mandatory = true := by
    rw [evidence_proves, List.all_eq_true]
    intro c hc
    rw [hproven c hc]
    rw [reviewed_goal_mandatory, List.mem_singleton] at hc
    rw [hc, hfound]
    simp [written_record, record_fields]
  obtain ⟨goal', hgoal'⟩ : ∃ goal' : GoalFrame, goal'.val =
      { reviewed_goal.val with status := .verified_done, next_step := none } :=
    ⟨⟨_, by decide⟩, rfl⟩
  obtain ⟨s', hs'⟩ := @verified_valid u reviewed_goal written_claim goal' hgoal reviewed_goal_open
    hgoal' hknown (by rw [hu]) (by rw [reviewed_goal_mandatory]; simp) hproven
  refine ⟨s', goal', ?_, by rw [hs'], hgoal'⟩
  simp only [save_completion, bind_eq_ok]
  refine ⟨u, hclaimed, ?_⟩
  have hfacts : u.val.facts = s.val.facts := by rw [hu]
  have htakeover : u.val.browser_takeover_pending = none := by rw [hu, w.no_takeover]
  have hcoverage : require_requirement_coverage u written_claim reviewed_goal
      reviewed_goal.mandatory = .ok () := by
    have h := w.coverage
    unfold require_requirement_coverage at h ⊢
    rw [hfacts]
    exact h
  have hdeliverables : missing_deliverables .silent u reviewed_goal.mandatory = [] := by
    have h := w.deliverables
    simp only [missing_deliverables, authoritative_deliverable_file_paths, goal_source_facts,
      hfacts, hgoal, w.goal] at h ⊢
    exact h
  simp only [verify_goal_completion, bind_eq_ok, Py.expect_value_eq_ok, Py.refuse_value_eq_ok]
  refine ⟨reviewed_goal, hgoal, written_claim, by rw [hu], (), by simp [hknown], (), by decide, (),
    by decide, (), by simp [htakeover], ⟨[], []⟩, by rw [hfacts]; exact w.resources_closed, (),
    by decide, (), by decide, (), by decide, (), by decide +kernel, (), by decide +kernel, (),
    hcoverage, (), not_not.mpr hdeliverables, (), ne_false_of_eq_true hproves, goal',
    Checked.make_eq_ok.mpr hgoal',
    Checked.make_eq_ok.mpr hs'⟩

end Written

/-- A Goal is verified although the review of the user was never admitted. -/
theorem unreviewed_goal_verified : ∃ s s' goal',
    (loop_system .silent).run .fresh written_steps = .ok s ∧
    loop_step .silent s (.completion written_claim written_at) = .ok s' ∧
    s.val.goal = some reviewed_goal ∧ s'.val.goal = some goal' ∧
    goal'.val.status = .verified_done ∧ ¬ ProvenDone .silent s' goal' written_claim := by
  obtain ⟨s, hs, w⟩ := written_ready
  obtain ⟨s', goal', hstep, hafter, hgoal'⟩ := w.saves_completion
  refine ⟨s, s', goal', hs, hstep, w.goal, hafter, by rw [hgoal'], ?_⟩
  intro done
  have hreview : ∃ p ∈ goal'.val.proposed_criteria, p.val.criterion_id = "review" := by
    rw [hgoal']
    decide
  obtain ⟨p, hp, hid⟩ := hreview
  obtain ⟨_, _, c, hc, hcid, _⟩ := done.requirements p hp
  have hmandatory : goal'.mandatory = [written_criterion] := by
    rw [← reviewed_goal_mandatory]
    simp [GoalFrame.mandatory, hgoal']
  rw [hmandatory, List.mem_singleton] at hc
  rw [hc, hid] at hcid
  exact absurd hcid (by decide)

/-- The run of the theorem, on the same path. -/
theorem unreviewed_goal_sound : ∃ s s' goal' claim observed_at goal,
    (loop_system .silent).run .fresh written_steps = .ok s ∧
    loop_step .silent s (.completion claim observed_at) = .ok s' ∧ s.val.goal = some goal ∧
    (ProvenDone .silent s' goal' claim ↔ unchecked_requirements_admitted goal) := by
  obtain ⟨s, hs, w⟩ := written_ready
  obtain ⟨s', goal', hstep, hafter, hgoal'⟩ := w.saves_completion
  have hbefore : ∀ goal, s.val.goal = some goal → goal.val.status ≠ .verified_done := by
    intro goal hgoal
    rw [w.goal] at hgoal
    rw [← Option.some.inj hgoal]
    exact reviewed_goal_open
  obtain ⟨claim, observed_at, goal, heq, hgoal, hiff⟩ :=
    @verified_done_sound .silent s s' _ _ _ _ written_steps
      (.completion written_claim written_at) goal' ConversationState.new_fresh hs hstep hafter
      (by rw [hgoal']) hbefore
  cases heq
  exact ⟨s, s', goal', _, _, goal, hs, hstep, hgoal, hiff⟩
