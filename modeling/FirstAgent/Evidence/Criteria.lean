import FirstAgent.State.Apply
import Mathlib.Data.List.Nodup
import Mathlib.Logic.Relation

/-! # What an Admission Does to Criteria and Evidence

    An admission appends criteria of a closed set of shapes.  Where it puts one
    in the place of another, the evidence for the old one is dropped with it.
    The admission of a Web source is the exception: it puts its criteria in
    place and keeps the evidence. -/

open Fallible

/-! ### Admitted predicates -/

/-- The predicates the Runtime admits. -/
inductive AdmittedAs (c : AdmittedCriterion) : Prop where
  | file (path sha : String) (hkind : c.val.oracle_kind = .filesystem_digest)
      (hpredicate : c.val.predicate = JsonDict.of [("path", .str path), ("sha256", .str sha)])
  /-- Admitted research pins no age. -/
  | research (hkind : c.val.oracle_kind = .research_provenance)
      (hpredicate : c.val.predicate.get "maximum_age_seconds" = .null)
  | receipt (receipt_kind : String) (hkind : c.val.oracle_kind = .tool_receipt)
      (hpredicate : c.val.predicate.get "receipt_kind" = .str receipt_kind)
  | governed (receipt_digest : String) (hkind : c.val.oracle_kind = .tool_receipt)
      (hpredicate : c.val.predicate = JsonDict.of [("receipt_digest", .str receipt_digest)])

/-- An admitted criterion is the one that was asked for. -/
theorem admit_criterion_ok {a : Admission} {goal : GoalFrame} {source : ConversationFact}
    {c : AdmittedCriterion} (h : a.admit_criterion goal source = .ok c) :
    c.val.criterion_id = a.criterion_id ∧ c.val.oracle_kind = a.oracle_kind ∧
      c.val.predicate = a.predicate ∧ c.val.mandatory = true :=
  CriterionAdmissionBinding.create_admit_ok h

/-! ### Criteria have unique ids -/

theorem GoalFrame.admitted_nodup (goal : GoalFrame) : goal.val.admitted_ids.Nodup := by
  have h := goal.valid
  simp only [GoalFrameFields.post_init, bind_eq_ok, Py.refuse_value_eq_ok] at h
  obtain ⟨_, _, _, _, _, _, _, _, _, _, _, _, _, _, h⟩ := h
  by_cases hall : (goal.val.proposed_ids ++ goal.val.admitted_ids).Nodup
  · exact (List.nodup_append.mp hall).2.1
  · by_contra hdup
    exact h ⟨hall, .inr hdup⟩

/-- A criterion of the Goal is determined by its id. -/
theorem GoalFrame.admitted_eq {goal : GoalFrame} {c c' : AdmittedCriterion}
    (hc : c ∈ goal.val.admitted_criteria) (hc' : c' ∈ goal.val.admitted_criteria)
    (hid : c.val.criterion_id = c'.val.criterion_id) : c = c' :=
  List.inj_on_of_nodup_map goal.admitted_nodup hc hc' hid

/-! ### One admission -/

/-- The ids of some criteria. -/
def criterion_ids (criteria : List AdmittedCriterion) : List String :=
  criteria.map fun c => c.val.criterion_id

/-- The Goal of a conversation and the evidence for it. -/
structure GoalLog where
  goal : Option GoalFrame
  evidence : List EvidenceRecord

def ConversationState.goal_log (s : ConversationState) : GoalLog where
  goal := s.val.goal
  evidence := s.val.evidence_records

/-- An admission, as the evidence sees it. -/
inductive CriterionStep (v v' : GoalLog) : Prop where
  /-- A requirement is proposed. -/
  | propose (goal goal' : GoalFrame) (proposed : List ProposedCriterion)
      (hbefore : v.goal = some goal)
      (hgoal : goal'.val = { goal.val with proposed_criteria := proposed })
      (hview : v' = { v with goal := some goal' })
  | append (goal goal' : GoalFrame) (c : AdmittedCriterion) (hadmitted : AdmittedAs c)
      (hbefore : v.goal = some goal)
      (hgoal : goal'.val =
        { goal.val with admitted_criteria := goal.val.admitted_criteria ++ [c] })
      (hview : v' = { v with goal := some goal' })
  /-- Criteria are dropped with their evidence, and new ones admitted: a new one
      has a fresh id or the id of a dropped one. -/
  | supersede (goal goal' : GoalFrame) (proposed : List ProposedCriterion) (dropped : List String)
      (added : List AdmittedCriterion) (hadmitted : ∀ c ∈ added, AdmittedAs c)
      (hdropped : ∀ c ∈ goal.val.admitted_criteria,
        c.val.criterion_id ∈ criterion_ids added → c.val.criterion_id ∈ dropped)
      (hbefore : v.goal = some goal)
      (hgoal : goal'.val = { goal.val with
        proposed_criteria := proposed
        admitted_criteria :=
          (goal.val.admitted_criteria.filter fun c => c.val.criterion_id ∉ dropped) ++ added })
      (hview : v' = {
        goal := some goal'
        evidence := v.evidence.filter fun r => r.val.criterion_id ∉ dropped })

/-- Admissions one after the other. -/
abbrev CriterionSteps (s s' : ConversationState) : Prop :=
  Relation.ReflTransGen CriterionStep s.goal_log s'.goal_log

section Admissions

variable {rules : TextRules} {s s' : ConversationState} {goal : GoalFrame}
  {pending : ApprovalRequest} {action : ResolveApproval} {active : ActiveRun} {action_seq : Int}

theorem pure_criterion_step (h : (pure s : Py ConversationState) = .ok s') :
    CriterionSteps s s' := by
  obtain rfl := pure_eq_ok.mp h
  exact .refl

theorem append_criterion_step {c : AdmittedCriterion} (hgoal : s.val.goal = some goal)
    (hadmitted : AdmittedAs c)
    (h : append_criterion s goal c = .ok s') : CriterionSteps s s' := by
  simp only [append_criterion, install_criteria, bind_eq_ok, Checked.make_eq_ok] at h
  obtain ⟨goal', hgoal', hs'⟩ := h
  exact .single (.append goal goal' c hadmitted hgoal hgoal'
    (by simp [ConversationState.goal_log, hs']))

theorem supersede_criterion_step {c : AdmittedCriterion} (hgoal : s.val.goal = some goal)
    (hadmitted : AdmittedAs c) (h : supersede_criterion s goal c = .ok s') :
    CriterionSteps s s' := by
  simp only [supersede_criterion, install_criteria, bind_eq_ok, Checked.make_eq_ok] at h
  obtain ⟨goal', hgoal', hs'⟩ := h
  refine .single <|
    .supersede goal goal' goal.val.proposed_criteria [c.val.criterion_id] [c] ?_ ?_ hgoal ?_ ?_
  · intro d hd
    rw [List.mem_singleton.mp hd]
    exact hadmitted
  · intro d _ hd
    simpa [criterion_ids] using hd
  · rw [hgoal']
    simp
  · simp [ConversationState.goal_log, hs']

/-- A file criterion of an approval has the shape of a file criterion. -/
theorem file_admitted {a : Admission} {source : ConversationFact} {c : AdmittedCriterion}
    {path sha : String} (h : a.admit_criterion goal source = .ok c)
    (hkind : a.oracle_kind = .filesystem_digest)
    (hpredicate : a.predicate = JsonDict.of [("path", .str path), ("sha256", .str sha)]) :
    AdmittedAs c := by
  obtain ⟨_, hk, hp, _⟩ := admit_criterion_ok h
  exact .file path sha (hk.trans hkind) (hp.trans hpredicate)

/-- A receipt criterion names the kind of its receipt. -/
theorem receipt_admitted (receipt_kind : String) {a : Admission} {source : ConversationFact}
    {c : AdmittedCriterion} (h : a.admit_criterion goal source = .ok c)
    (hkind : a.oracle_kind = .tool_receipt)
    (hpredicate : a.predicate.get "receipt_kind" = .str receipt_kind) : AdmittedAs c := by
  obtain ⟨_, hk, hp, _⟩ := admit_criterion_ok h
  exact .receipt receipt_kind (hk.trans hkind) (by rw [hp, hpredicate])

/-- Admissions one after the other have the ids that were asked for. -/
theorem mapM_admitted_ids {α : Type} {items : List α} {admission : α → Admission}
    {source : ConversationFact} {cs : List AdmittedCriterion}
    (h : items.mapM (fun x => (admission x).admit_criterion goal source) = .ok cs) :
    criterion_ids cs = items.map (fun x => (admission x).criterion_id) := by
  induction items generalizing cs with
  | nil =>
    simp only [List.mapM_nil, pure_eq_ok] at h
    rw [← h]
    rfl
  | cons x items ih =>
    simp only [List.mapM_cons, bind_eq_ok, pure_eq_ok] at h
    obtain ⟨c, hc, cs', hcs', rfl⟩ := h
    simp only [criterion_ids, List.map_cons, List.cons.injEq]
    exact ⟨(admit_criterion_ok hc).1, ih hcs'⟩

/-- Each of them is one of those admissions. -/
theorem mapM_admitted {α : Type} {items : List α} {admission : α → Admission}
    {source : ConversationFact} {cs : List AdmittedCriterion}
    (h : items.mapM (fun x => (admission x).admit_criterion goal source) = .ok cs) :
    ∀ c ∈ cs, ∃ x ∈ items, (admission x).admit_criterion goal source = .ok c := by
  induction items generalizing cs with
  | nil =>
    simp only [List.mapM_nil, pure_eq_ok] at h
    simp [← h]
  | cons x items ih =>
    simp only [List.mapM_cons, bind_eq_ok, pure_eq_ok] at h
    obtain ⟨c, hc, cs', hcs', rfl⟩ := h
    intro d hd
    rcases List.mem_cons.mp hd with rfl | hd
    · exact ⟨x, List.mem_cons_self, hc⟩
    · obtain ⟨y, hy, hok⟩ := ih hcs' d hd
      exact ⟨y, List.mem_cons_of_mem _ hy, hok⟩

/-- The test a fallible filter makes, once it succeeded. -/
def Py.test {α : Type} (p : α → Py Bool) (x : α) : Bool :=
  match p x with
  | .ok b    => b
  | .error _ => false

/-- A fallible filter that succeeds is the filter of its test. -/
theorem filterM_eq_ok {α : Type} {p : α → Py Bool} {xs ys : List α}
    (h : xs.filterM p = .ok ys) : ys = xs.filter (Py.test p) := by
  have aux : ∀ (xs acc zs : List α), xs.filterAuxM p acc = .ok zs →
      zs = (xs.filter (Py.test p)).reverse ++ acc := by
    intro xs
    induction xs with
    | nil =>
      intro acc zs hzs
      rw [List.filterAuxM, pure_eq_ok] at hzs
      simp [hzs]
    | cons x xs ih =>
      intro acc zs hzs
      simp only [List.filterAuxM, bind_eq_ok] at hzs
      obtain ⟨b, hb, hzs⟩ := hzs
      have htest : Py.test p x = b := by simp [Py.test, hb]
      rw [ih _ _ hzs, List.filter_cons, htest]
      cases b <;> simp
  simp only [List.filterM, bind_eq_ok, pure_eq_ok] at h
  obtain ⟨zs, hzs, rfl⟩ := h
  rw [aux xs [] zs hzs]
  simp

theorem admit_approved_file_criterion_step
    (h : admit_approved_file_criterion s action_seq active = .ok s') : CriterionSteps s s' := by
  unfold admit_approved_file_criterion at h
  split at h
  · next goal call pending hgoal _ _ =>
    split at h
    · next path digest _ _ =>
      split at h
      · exact pure_criterion_step h
      · simp only [bind_eq_ok, ite_eq_ok] at h
        obtain ⟨source, _,
          ⟨_, h⟩ | ⟨_, added, hadded, superseded, hsuperseded, proposed, _, h⟩⟩ := h
        · exact pure_criterion_step h
        · simp only [install_criteria, bind_eq_ok, Checked.make_eq_ok] at h
          obtain ⟨goal', hgoal', hs'⟩ := h
          refine .single <| .supersede goal goal' proposed
            (superseded.map fun c => c.val.criterion_id) added ?_ ?_ hgoal hgoal'
            (by simp only [ConversationState.goal_log, hs'])
          · intro c hc
            obtain ⟨x, _, hx⟩ := mapM_admitted hadded c hc
            exact file_admitted hx rfl rfl
          · intro c hc hid
            rw [mapM_admitted_ids hadded] at hid
            -- a criterion with the id of a new one is superseded by the write
            rw [filterM_eq_ok hsuperseded]
            refine List.mem_map.mpr ⟨c, List.mem_filter.mpr ⟨hc, ?_⟩, rfl⟩
            unfold Py.test superseded_by_write
            rw [if_pos]
            · rfl
            · rw [Bool.or_eq_true]
              exact .inl (List.contains_iff_mem.mpr hid)
    · exact pure_criterion_step h
  · exact pure_criterion_step h

theorem admit_approved_research_criterion_step
    (h : admit_approved_research_criterion s action_seq active = .ok s') :
    CriterionSteps s s' := by
  unfold admit_approved_research_criterion at h
  split at h
  · next goal call pending hgoal _ _ =>
    split at h
    · split at h
      · exact pure_criterion_step h
      · simp only [bind_eq_ok] at h
        obtain ⟨manifest, _, h⟩ := h
        split at h
        · exact pure_criterion_step h
        · simp only [bind_eq_ok] at h
          obtain ⟨source, _, c, hc, h⟩ := h
          obtain ⟨_, hkind, hpredicate, _⟩ := admit_criterion_ok hc
          refine supersede_criterion_step hgoal (.research hkind ?_) h
          rw [hpredicate]
          simp [JsonDict.get_of_cons, Json.has_key]
    · exact pure_criterion_step h
  · exact pure_criterion_step h

theorem admit_approved_read_only_validation_criterion_step
    (h : admit_approved_read_only_validation_criterion rules s pending = .ok s') :
    CriterionSteps s s' := by
  unfold admit_approved_read_only_validation_criterion at h
  split at h
  · next candidate goal call _ hgoal _ =>
    split at h
    · exact pure_criterion_step h
    · simp only [bind_eq_ok, ite_eq_ok] at h
      obtain ⟨_, _, ⟨_, h⟩ | ⟨_, source, _, c, hc, h⟩⟩ := h
      · exact pure_criterion_step h
      · exact append_criterion_step hgoal (receipt_admitted "native_sandbox_v1" hc rfl
          (by simp [JsonDict.get_of_cons, Json.has_key])) h
  · exact pure_criterion_step h

theorem admit_approved_process_receipt_criterion_step
    (h : admit_approved_process_receipt_criterion rules s pending action_seq action = .ok s') :
    CriterionSteps s s' := by
  unfold admit_approved_process_receipt_criterion at h
  split at h
  · next goal candidate call hgoal _ _ =>
    split at h
    · exact pure_criterion_step h
    · simp only [bind_eq_ok, ite_eq_ok] at h
      obtain ⟨_, _, _, _, ⟨_, h⟩ | ⟨_, _, _, ⟨_, h⟩ | ⟨_, source, _, c, hc, hstep⟩⟩⟩ := h
      · exact pure_criterion_step h
      · exact pure_criterion_step h
      · have hadmitted : AdmittedAs c := receipt_admitted "process_v1" hc rfl
          (by simp [JsonDict.get_of_cons, Json.has_key])
        rcases hstep with ⟨_, h⟩ | ⟨_, h⟩
        · exact append_criterion_step hgoal hadmitted h
        · exact supersede_criterion_step hgoal hadmitted h
  · exact pure_criterion_step h

theorem add_approved_governed_tool_requirement_step
    (h : add_approved_governed_tool_requirement s pending active = .ok s') :
    CriterionSteps s s' := by
  unfold add_approved_governed_tool_requirement at h
  split at h
  · next goal call hgoal _ =>
    dsimp only at h
    split at h
    · exact pure_criterion_step h
    · simp only [install_criteria, bind_eq_ok, Checked.make_eq_ok] at h
      obtain ⟨_, _, goal', hgoal', hs'⟩ := h
      exact .single (.propose goal goal' _ hgoal hgoal'
        (by simp [ConversationState.goal_log, hs']))
  · exact pure_criterion_step h

theorem admit_process_artifact_criterion_step
    (h : admit_process_artifact_criterion s pending action_seq action = .ok s') :
    CriterionSteps s s' := by
  unfold admit_process_artifact_criterion at h
  split at h
  · exact pure_criterion_step h
  · next goal hgoal =>
    simp only [bind_eq_ok, ite_eq_ok] at h
    obtain ⟨_, _, ⟨_, _, _, h⟩ | ⟨_, artifact, _, h⟩⟩ := h
    · exact pure_criterion_step h
    · split at h
      · exact pure_criterion_step h
      · simp only [bind_eq_ok, ite_eq_ok] at h
        obtain ⟨_, h⟩ | ⟨_, source, _, c, hc, h⟩ := h
        · exact pure_criterion_step h
        · exact append_criterion_step hgoal (file_admitted hc rfl rfl) h

/-! ### Receipts of finished calls -/

theorem admit_process_receipt_criterion_step
    {tool_call_id receipt_digest command_fingerprint : String}
    (h : admit_process_receipt_criterion s tool_call_id receipt_digest command_fingerprint
      action_seq = .ok s') : CriterionSteps s s' := by
  unfold admit_process_receipt_criterion at h
  split at h
  · exact pure_criterion_step h
  · next goal hgoal =>
    dsimp only at h
    split at h
    · exact pure_criterion_step h
    · split at h
      · exact pure_criterion_step h
      · obtain ⟨c, hc, h⟩ := bind_eq_ok.mp h
        exact append_criterion_step hgoal (receipt_admitted "process_v1" hc rfl
          (by simp [JsonDict.get_of_cons, Json.has_key])) h

theorem admit_sandbox_receipt_criterion_step
    {tool_call_id receipt_digest command_fingerprint policy_digest mode network : String}
    (h : admit_sandbox_receipt_criterion s tool_call_id receipt_digest command_fingerprint
      policy_digest mode network action_seq = .ok s') : CriterionSteps s s' := by
  unfold admit_sandbox_receipt_criterion at h
  split at h
  · exact pure_criterion_step h
  · next goal hgoal =>
    dsimp only at h
    split at h
    · exact pure_criterion_step h
    · split at h
      · exact pure_criterion_step h
      · obtain ⟨c, hc, h⟩ := bind_eq_ok.mp h
        exact append_criterion_step hgoal (receipt_admitted "native_sandbox_v1" hc rfl
          (by simp [JsonDict.get_of_cons, Json.has_key])) h

theorem admit_governed_tool_receipt_criterion_step
    {tool_call_id tool_name receipt_digest : String}
    (h : admit_governed_tool_receipt_criterion s tool_call_id tool_name receipt_digest
      action_seq = .ok s') : CriterionSteps s s' := by
  unfold admit_governed_tool_receipt_criterion at h
  split at h
  · exact pure_criterion_step h
  · next goal hgoal =>
    dsimp only at h
    split at h
    · exact pure_criterion_step h
    · split at h
      · exact pure_criterion_step h
      · obtain ⟨c, hc, h⟩ := bind_eq_ok.mp h
        obtain ⟨_, hkind, hpredicate, _⟩ := admit_criterion_ok hc
        exact append_criterion_step hgoal (.governed receipt_digest hkind hpredicate) h

end Admissions
