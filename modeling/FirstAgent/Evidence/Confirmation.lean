import FirstAgent.Evidence.Records

/-! # The Word of the User

    A criterion of user confirmation is confirmed or refused by actions, any
    number of times and over several revisions of the Goal.  Claimed: each of
    these actions is accepted, and the registry proves the criterion exactly
    when the last word at the current revision was a confirmation.

    The registry asks for any confirmation in the log, so a refusal and a new
    revision take nothing back; and a second confirmation at one revision is
    a second record under the id of the first, which no state admits. -/

open Fallible

/-! ### The sequence -/

namespace Transition

/-- What the action says about the criterion. -/
def word (criterion_id : String) : Transition → Option Bool
  | .accept_action _ action _ _ =>
    match action.body with
    | .confirm_criterion a =>
      if a.val.criterion_id = criterion_id then some a.val.confirmed else none
    | _ => none
  | _ => none

/-- A delta opens the next revision of the Goal. -/
def is_delta : Transition → Bool
  | .apply_goal_delta _           => true
  | .accept_goal_delta_proposal _ => true
  | _                             => false

end Transition

/-- The last word at the current revision; `before` is the last one before the
    sequence. -/
def last_word (criterion_id : String) : (before : Option Bool) → List Transition → Option Bool
  | before, []      => before
  | before, l :: ls =>
    last_word criterion_id (if l.is_delta then none else (l.word criterion_id).or before) ls

/-- The Goal has the criterion. -/
def Admits (c : AdmittedCriterion) (s : ConversationState) : Prop :=
  ∃ goal, s.val.goal = some goal ∧ c ∈ goal.val.admitted_criteria

/-- The action is the next one, was sent to this state and is legal in it. -/
structure Submitted (s : ConversationState) (action : RuntimeAction) : Prop where
  conversation : action.conversation_id = s.val.conversation_id
  next : action.action_seq = s.val.next_action_seq
  expected : action.expected_revision = s.val.revision
  legal : action_is_legal s action.body = .ok ()

/-- A step of the sequence: a legal confirmation, a delta that keeps the
    criterion, or the result of an earlier action. -/
inductive ConfirmationStep (rules : TextRules) (c : AdmittedCriterion) (s : ConversationState) :
    Transition → Prop where
  | confirm (clock : String) (action : RuntimeAction) (max_replay_records : Int)
      (now : Option String) (a : ConfirmCriterion) (hbody : action.body = .confirm_criterion a)
      (hlimit : 1 ≤ max_replay_records) (hsent : Submitted s action) :
      ConfirmationStep rules c s (.accept_action clock action max_replay_records now)
  | delta (l : Transition) (s' : ConversationState) (hdelta : l.is_delta = true)
      (hstep : transition_step rules s l = .ok s') (hkeeps : Admits c s') :
      ConfirmationStep rules c s l
  | finalize (action_seq : Int) (result : RecordedRunResult) (max_replay_records : Int)
      (s' : ConversationState)
      (hstep : finalize_action s action_seq result max_replay_records = .ok s') :
      ConfirmationStep rules c s (.finalize_action action_seq result max_replay_records)

/-- The registry derives a passing record for the criterion. -/
def Proves (s : ConversationState) (c : AdmittedCriterion) (observed_at : String) : Prop :=
  ∃ goal r, s.val.goal = some goal ∧ derive_record s goal observed_at c = .ok r ∧
    r.val.criterion_id = c.val.criterion_id ∧ r.val.passed = true

/-! ### The conditions -/

/-- The id of the fact a confirmation is recorded as. -/
def confirmation_fact_id (action_seq : Int) : String :=
  "action:" ++ toString action_seq ++ ":criterion-confirmation"

/-- Nothing stands in the way of the action: orphaned batches can be closed,
    the replay window has room, the id of its fact is unused, and a criterion
    that is confirmed has no record at this revision yet. -/
structure Acceptable (s : ConversationState) (action : RuntimeAction) (a : ConfirmCriterion)
    (max_replay_records : Int) (healed with_replay : ConversationState) : Prop where
  heals : close_orphaned_tool_batches s action.action_seq (live_call_ids s) = .ok (some healed)
  records : append_replay_record healed action.action_seq (canonical_action_digest action)
    max_replay_records = .ok (some with_replay)
  unused : confirmation_fact_id action.action_seq ∉ healed.val.fact_ids
  unrecorded : a.val.confirmed = true →
    closed_evidence_id a.val.goal_id a.val.goal_revision a.val.criterion_id ∉ s.val.evidence_ids

/-- The condition on the state before a confirmation. -/
def accepts_word (s : ConversationState) : Transition → Prop
  | .accept_action _ action max_replay_records _ =>
    ∀ a, action.body = .confirm_criterion a → ∃ healed with_replay,
      Acceptable s action a max_replay_records healed with_replay
  | _ => True

/-- The confirmation the oracle takes: the latest in the log. -/
def latest_confirmation (s : ConversationState) (c : AdmittedCriterion) :
    Option ConversationFact :=
  (s.val.facts.filter (confirms_criterion c.val.criterion_id)).getLast?

/-- The log has a confirmation, and a stored record of it is the record of
    this fact. -/
def Confirmed (s : ConversationState) (c : AdmittedCriterion) : Prop :=
  ∃ goal f, s.val.goal = some goal ∧ latest_confirmation s c = some f ∧
    ∀ r, stored_record s (goal.evidence_id c) = some r →
      r.val.source_fact_ids = [f.val.fact_id] →
      r.val = record_fields goal c r.val.observed_at ⟨[f], "user-confirmation:v1"⟩

/-- No confirmation is left behind the last word.  When the last word is a
    confirmation, it is in the sequence or counts in the state before.
    Otherwise the sequence confirms nothing, the state before does not count
    as confirmed and, with a new revision in the sequence, its log holds no
    confirmation at all. -/
def NothingStale (before : Option Bool) (s : ConversationState) (c : AdmittedCriterion)
    (ls : List Transition) : Prop :=
  if last_word c.val.criterion_id before ls = some true then
    (∃ l ∈ ls, l.word c.val.criterion_id = some true) ∨ Confirmed s c
  else
    (∀ l ∈ ls, l.word c.val.criterion_id ≠ some true) ∧ ¬ Confirmed s c ∧
      ((∃ l ∈ ls, l.is_delta = true) → latest_confirmation s c = none)

/-! ### What the registry accepts -/

section Oracle

variable {s s' : ConversationState} {c : AdmittedCriterion} {goal : GoalFrame}
  {f : ConversationFact} {observed_at : String}

theorem user_confirmation_ok {p : OracleProof} :
    user_confirmation s.val.facts c.val.criterion_id = .ok p ↔
      ∃ f, latest_confirmation s c = some f ∧ p = ⟨[f], "user-confirmation:v1"⟩ := by
  simp only [user_confirmation, first_source, List.head?_reverse, bind_eq_ok,
    Py.expect_value_eq_ok, pure_eq_ok, latest_confirmation]
  constructor
  · rintro ⟨f, hf, rfl⟩
    exact ⟨f, hf, rfl⟩
  · rintro ⟨f, hf, rfl⟩
    exact ⟨f, hf, rfl⟩

theorem AdmittedCriterion.criterion_id_ne (c : AdmittedCriterion) : c.val.criterion_id ≠ "" := by
  refine Checked.of_check (P := fun f => f.criterion_id ≠ "") (fun f hf => ?_) c
  simp only [AdmittedCriterionFields.post_init, bind_eq_ok, Py.refuse_value_eq_ok, not_or] at hf
  obtain ⟨_, ⟨hnames, _⟩, _⟩ := hf
  intro hempty
  exact hnames (by simp [Py.any_empty, hempty])

theorem GoalFrame.identity (goal : GoalFrame) : goal.val.goal_id ≠ "" ∧ 1 ≤ goal.val.revision := by
  refine Checked.of_check (P := fun g => g.goal_id ≠ "" ∧ 1 ≤ g.revision) (fun g hg => ?_) goal
  simp only [GoalFrameFields.post_init, bind_eq_ok, Py.refuse_value_eq_ok, not_or] at hg
  obtain ⟨_, ⟨hnames, _⟩, _, hrevision, _⟩ := hg
  refine ⟨?_, by omega⟩
  intro hempty
  exact hnames (by simp [Py.any_empty, hempty])

theorem ConversationFact.fact_id_ne (f : ConversationFact) : f.val.fact_id ≠ "" := by
  refine Checked.of_check (P := fun f => f.fact_id ≠ "") (fun f hf => ?_) f
  simpa only [ConversationFactFields.post_init, Py.refuse_value_eq_ok] using hf

theorem EvidenceRecord.observed_at_ne (r : EvidenceRecord) : r.val.observed_at ≠ "" := by
  refine Checked.of_check (P := fun r => r.observed_at ≠ "") (fun r hr => ?_) r
  simp only [EvidenceRecordFields.post_init, bind_eq_ok, Py.refuse_value_eq_ok] at hr
  obtain ⟨_, hnames, _⟩ := hr
  intro hempty
  exact hnames (by simp [Py.any_empty, hempty])

theorem GoalFrame.evidence_id_ne (goal : GoalFrame) (c : AdmittedCriterion) :
    goal.evidence_id c ≠ "" := by
  unfold GoalFrame.evidence_id closed_evidence_id
  intro h
  have hlength := congrArg (fun s => s.toList.length) h
  simp [String.toList_append] at hlength

/-- One confirmation is enough for a record. -/
theorem confirmed_record (goal : GoalFrame) (c : AdmittedCriterion) (f : ConversationFact)
    (hobserved : observed_at ≠ "") : ∃ r : EvidenceRecord,
      r.val = record_fields goal c observed_at ⟨[f], "user-confirmation:v1"⟩ := by
  refine ⟨⟨_, ?_⟩, rfl⟩
  obtain ⟨hid, hrevision⟩ := goal.identity
  have hearly : ¬ goal.val.revision < 1 := by omega
  simp [EvidenceRecordFields.post_init, source_digest, bind_eq_ok, Py.refuse_value_eq_ok,
    Py.any_empty, canonical_json_digest_ne_empty, goal.evidence_id_ne c, c.criterion_id_ne,
    f.fact_id_ne, hobserved, hid, hearly]

/-- The registry proves a criterion of user confirmation exactly when it is
    confirmed. -/
theorem proves_iff_confirmed (hkind : c.val.oracle_kind = .user_confirmation)
    (hobserved : observed_at ≠ "") : Proves s c observed_at ↔ Confirmed s c := by
  have hproof : ∀ goal at_ p, prove_criterion s goal c at_ = .ok p ↔
      ∃ f, latest_confirmation s c = some f ∧ p = ⟨[f], "user-confirmation:v1"⟩ := by
    intro goal at_ p
    rw [prove_criterion, hkind]
    exact user_confirmation_ok
  constructor
  · rintro ⟨goal, r, hgoal, hderive, _, _⟩
    unfold derive_record at hderive
    split at hderive
    · next hstored =>
      simp only [bind_eq_ok, hproof, Checked.make_eq_ok] at hderive
      obtain ⟨_, ⟨f, hf, _⟩, _⟩ := hderive
      refine ⟨goal, f, hgoal, hf, ?_⟩
      intro r hr
      rw [hstored] at hr
      cases hr
    · next existing hstored =>
      simp only [bind_eq_ok, hproof, Checked.make_eq_ok] at hderive
      obtain ⟨_, ⟨f, hf, rfl⟩, derived, hderived, hrefresh⟩ := hderive
      refine ⟨goal, f, hgoal, hf, ?_⟩
      intro r hr hids
      rw [hstored] at hr
      cases hr
      unfold refresh_record at hrefresh
      rcases ite_eq_ok.mp hrefresh with ⟨heq, _⟩ | ⟨_, hrefused⟩
      · rw [← hderived, heq]
      · -- the stored record has the source of the derived one
        simp only [bind_eq_ok, Py.refuse_value_eq_ok] at hrefused
        obtain ⟨_, hdiffer, _⟩ := hrefused
        refine absurd ?_ hdiffer
        rw [hids, hderived]
        rfl
  · rintro ⟨goal, f, hgoal, hf, hmatches⟩
    cases hstored : stored_record s (goal.evidence_id c) with
    | none =>
      obtain ⟨r, hr⟩ := confirmed_record goal c f hobserved
      refine ⟨goal, r, hgoal, ?_, by rw [hr]; rfl, by rw [hr]; rfl⟩
      rw [derive_record, hstored]
      simp only [bind_eq_ok, hproof, Checked.make_eq_ok]
      exact ⟨_, ⟨f, hf, rfl⟩, hr⟩
    | some existing =>
      obtain ⟨derived, hderived⟩ := confirmed_record goal c f existing.observed_at_ne
      obtain ⟨refreshed, hrefreshed⟩ := confirmed_record goal c f hobserved
      have hderive : ∀ r, refresh_record existing derived observed_at = .ok r →
          derive_record s goal observed_at c = .ok r := by
        intro r hr
        rw [derive_record, hstored]
        simp only [bind_eq_ok, hproof, Checked.make_eq_ok]
        exact ⟨_, ⟨f, hf, rfl⟩, derived, hderived, hr⟩
      by_cases hsame : existing.val.source_fact_ids = [f.val.fact_id]
      · -- the record of this fact is returned as it is
        have heq : existing = derived := by
          apply Checked.ext
          rw [hderived]
          exact hmatches existing hstored hsame
        refine ⟨goal, derived, hgoal, hderive derived ?_, by rw [hderived]; rfl,
          by rw [hderived]; rfl⟩
        rw [refresh_record, if_pos heq]
        rfl
      · -- a record of an earlier confirmation is refreshed
        refine ⟨goal, refreshed, hgoal, hderive refreshed ?_, by rw [hrefreshed]; rfl,
          by rw [hrefreshed]; rfl⟩
        have hne : existing ≠ derived := by
          rintro rfl
          exact hsame (by rw [hderived]; rfl)
        rw [refresh_record, if_neg hne]
        simp only [bind_eq_ok, Py.refuse_value_eq_ok, Checked.make_eq_ok]
        refine ⟨(), ?_, by rw [hrefreshed, hderived]; rfl⟩
        rw [hderived]
        exact hsame

end Oracle

/-! ### A word -/

/-- What an accepted word leaves: its fact, and the record of a confirmation. -/
structure WordRecorded (s s' : ConversationState) (a : ConfirmCriterion) (goal : GoalFrame)
    (fact : ConversationFact) (padded : List ConversationFact) : Prop where
  before : s.val.goal = some goal
  after : s'.val.goal = some goal
  pads : Padded IsSuperseded s.val.facts padded
  facts : s'.val.facts = padded ++ [fact]
  kind : fact.val.kind = .user_message
  content : fact.val.content = JsonDict.of [
    ("criterion_id", .str a.val.criterion_id), ("confirmed", .bool a.val.confirmed)]
  refused : a.val.confirmed = false → s'.val.evidence_records = s.val.evidence_records
  confirmed : a.val.confirmed = true → ∃ c r,
    confirmed_criterion goal a.val.criterion_id = some c ∧
    confirmation_evidence goal c fact = .ok r ∧
    s'.val.evidence_records = s.val.evidence_records ++ [r]

section Words

variable {rules : TextRules} {clock : String} {s s' healed with_replay applied : ConversationState}
  {action : RuntimeAction} {max_replay_records : Int} {now : Option String} {a : ConfirmCriterion}
  {goal : GoalFrame} {c : AdmittedCriterion}

theorem confirm_criterion_is_legal_ok (h : confirm_criterion_is_legal s a = .ok ()) :
    ∃ goal c, s.val.goal = some goal ∧ goal.val.goal_id = a.val.goal_id ∧
      goal.val.revision = a.val.goal_revision ∧
      confirmed_criterion goal a.val.criterion_id = some c := by
  simp only [confirm_criterion_is_legal, bind_eq_ok, expect_eq_ok, refuse_eq_ok, not_or,
    not_not] at h
  obtain ⟨goal, hgoal, _, ⟨hid, hrevision, _⟩, c, hc, _⟩ := h
  exact ⟨goal, c, hgoal, hid, hrevision, hc⟩

theorem confirmed_criterion_some {criterion_id : String}
    (h : confirmed_criterion goal criterion_id = some c) :
    c ∈ goal.val.admitted_criteria ∧ c.val.criterion_id = criterion_id :=
  ⟨List.mem_of_find?_eq_some h, by simpa using List.find?_some h⟩

/-- The record of a word has the id the acceptance test looks for. -/
theorem confirmation_evidence_id {fact : ConversationFact} {r : EvidenceRecord}
    (h : confirmation_evidence goal c fact = .ok r) : r.val.evidence_id = goal.evidence_id c := by
  rw [Checked.make_eq_ok.mp h]
  rfl

theorem Accepts.word_recorded
    (h : Accepts rules clock s action max_replay_records now healed with_replay applied s')
    (hbody : action.body = .confirm_criterion a) : ∃ goal fact padded,
      WordRecorded s s' a goal fact padded ∧
      fact.val.fact_id = confirmation_fact_id action.action_seq ∧
      padded = healed.val.facts := by
  obtain ⟨healed_facts, _, hhealed⟩ := close_orphaned_tool_batches_ok h.heals
  obtain ⟨_, _, _, _, _, hwith⟩ := append_replay_record_ok h.records
  have happly : confirm_criterion with_replay action.action_seq a = .ok applied := by
    have happlies := h.applies
    simp only [apply_action, hbody] at happlies
    exact happlies
  have hpads : Padded IsSuperseded s.val.facts healed.val.facts :=
    Heals.pads (.inr ⟨action.action_seq, h.heals⟩)
  have hgoals : with_replay.val.goal = s.val.goal := by rw [hwith, hhealed]
  have hrecords : with_replay.val.evidence_records = s.val.evidence_records := by
    rw [hwith, hhealed]
  have hfacts : with_replay.val.facts = healed.val.facts := by rw [hwith]
  simp only [confirm_criterion, bind_eq_ok, Py.expect_value_eq_ok, Checked.make_eq_ok] at happly
  obtain ⟨goal, hgoal, fact, hfact, evidence, hevidence, happlied⟩ := happly
  refine ⟨goal, fact, healed.val.facts, ?_, by rw [hfact]; rfl, rfl⟩
  refine {
    before := by rw [← hgoals, hgoal]
    after := by rw [h.result, happlied]; exact hgoal
    pads := hpads
    facts := by rw [h.result, happlied, hfacts]
    kind := by rw [hfact]
    content := by rw [hfact]
    refused := ?_
    confirmed := ?_ }
  · intro hrefused
    rw [if_neg (by simp [hrefused])] at hevidence
    rw [h.result, happlied, ← pure_eq_ok.mp hevidence, hrecords, List.append_nil]
  · intro hconfirmed
    rw [if_pos hconfirmed] at hevidence
    simp only [bind_eq_ok, Py.expect_value_eq_ok, pure_eq_ok] at hevidence
    obtain ⟨c, hc, r, hr, rfl⟩ := hevidence
    exact ⟨c, r, hc, hr, by rw [h.result, happlied, hrecords]⟩

/-! ### Which words are accepted -/

/-- Another revision number leaves a valid state. -/
theorem revised_valid (s : ConversationState) {revision : Int} (h : 0 ≤ revision) :
    ∃ t : ConversationState, t.val = { s.val with revision := revision } := by
  refine ⟨⟨_, ?_⟩, rfl⟩
  have hvalid := s.valid
  simp only [ConversationStateFields.post_init, ConversationStateFields.check_sequences,
    bind_eq_ok, Py.refuse_value_eq_ok] at hvalid ⊢
  obtain ⟨_, ⟨_, h₁, _, _, hrest⟩, hgoal⟩ := hvalid
  have hrevision : ¬ revision < 0 := by omega
  exact ⟨(), ⟨(), h₁, (), hrevision, hrest⟩, hgoal⟩

/-- A claim finds the records it found before a record it does not name. -/
theorem claimed_record_append {fields : ConversationStateFields} {claim : CompletionClaim}
    {r : EvidenceRecord} (h : r.val.evidence_id ∉ claim.val.criterion_evidence_refs)
    (facts : List ConversationFact) (criterion_id : String) :
    ConversationStateFields.claimed_record { fields with
      facts := facts
      evidence_records := fields.evidence_records ++ [r] } claim criterion_id =
    fields.claimed_record claim criterion_id := by
  simp [ConversationStateFields.claimed_record, h]

/-- A new fact and a new record of the current revision leave a valid state. -/
theorem word_valid {fact : ConversationFact} {evidence : List EvidenceRecord}
    (hgoal : s.val.goal = some goal) (hunused : fact.val.fact_id ∉ s.val.fact_ids)
    (hevidence : evidence = [] ∨ ∃ r, evidence = [r] ∧ r.val.evidence_id ∉ s.val.evidence_ids ∧
      r.val.goal_id = goal.val.goal_id ∧ r.val.goal_revision = goal.val.revision) :
    ∃ t : ConversationState, t.val = { s.val with
      facts := s.val.facts ++ [fact]
      evidence_records := s.val.evidence_records ++ evidence } := by
  refine ⟨⟨_, ?_⟩, rfl⟩
  have h := s.valid
  simp only [ConversationStateFields.post_init, ConversationStateFields.check_sequences, hgoal,
    ConversationStateFields.check_goal, ConversationStateFields.check_provider, bind_eq_ok,
    Py.refuse_value_eq_ok] at h ⊢
  obtain ⟨_, ⟨_, h₁, _, h₂, _, h₃, _, h₄, _, h₅, _, h₆, _, h₇, _, h₈, h₉⟩, _,
    ⟨_, g₁, _, g₂, _, g₃, _, g₄, _, g₅, _, g₆, hdone⟩, _, p₁, _, p₂, _, p₃, _, p₄, _, p₅, _, p₆,
    p₇⟩ := h
  rw [not_not] at h₅ h₉
  -- the checks that see the new fact or the new record are left
  refine ⟨(), ⟨(), h₁, (), h₂, (), h₃, (), h₄, (), ?_, (), h₆, (), h₇, (), h₈, ?_⟩, (),
    ⟨(), g₁, (), g₂, (), g₃, (), g₄, (), ?_, (), ?_, ?_⟩, (), p₁, (), p₂, (), p₃, (), p₄, (), p₅,
    (), ?_, p₇⟩
  · rw [not_not]
    simp only [ConversationStateFields.fact_ids, List.map_append, List.map_cons, List.map_nil]
    refine List.nodup_append.mpr ⟨h₅, List.nodup_singleton _, ?_⟩
    intro x hx y hy heq
    rw [List.mem_singleton] at hy
    exact hunused (by rw [← hy, ← heq]; exact hx)
  · rw [not_not]
    rcases hevidence with rfl | ⟨r, rfl, hfresh, _⟩
    · simp only [List.append_nil]
      exact h₉
    · simp only [ConversationStateFields.evidence_ids, List.map_append, List.map_cons,
        List.map_nil]
      refine List.nodup_append.mpr ⟨h₉, List.nodup_singleton _, ?_⟩
      intro x hx y hy heq
      rw [List.mem_singleton] at hy
      exact hfresh (by rw [← hy, ← heq]; exact hx)
  · -- the new record is of the current revision
    rintro ⟨r', hr', hstale⟩
    rcases List.mem_append.mp hr' with hold | hnew
    · exact g₅ ⟨r', hold, hstale⟩
    · rcases hevidence with rfl | ⟨r, rfl, _, hid, hrevision⟩
      · cases hnew
      · rw [List.mem_singleton] at hnew
        subst hnew
        rcases hstale with hstale | hstale
        · exact hstale hid
        · exact hstale hrevision
  · -- what the claim names was stored before
    intro hstale
    apply g₆
    cases hclaim : s.val.completion_claim with
    | none => simp [hclaim] at hstale
    | some claim =>
      simp only [hclaim, Option.any_some, Bool.or_eq_true, Bool.not_eq_true'] at hstale ⊢
      rcases hstale with hstale | hstale
      · exact .inl hstale
      · refine .inr ?_
        rw [List.all_eq_false] at hstale ⊢
        obtain ⟨e, he, hmissing⟩ := hstale
        refine ⟨e, he, ?_⟩
        intro hstored
        apply hmissing
        simp only [ConversationStateFields.evidence_ids, List.contains_iff_mem, List.map_append,
          List.mem_append] at hstored ⊢
        exact .inl hstored
  · -- a verified Goal keeps the evidence of its claim
    rcases ite_eq_ok.mp hdone with ⟨hverified, hdone⟩ | ⟨hopen, _⟩
    · rw [if_pos hverified]
      simp only [ConversationStateFields.check_verified_done, bind_eq_ok, Py.expect_value_eq_ok,
        Py.refuse_value_eq_ok] at hdone ⊢
      obtain ⟨claim, hclaim, _, hknown, hproven⟩ := hdone
      have hsame : ∀ x : AdmittedCriterion, ConversationStateFields.criterion_verified { s.val with
          facts := s.val.facts ++ [fact]
          evidence_records := s.val.evidence_records ++ evidence } claim x =
          s.val.criterion_verified claim x := by
        intro x
        rcases hevidence with rfl | ⟨r, rfl, hfresh, _⟩
        · simp only [List.append_nil]
          rfl
        · have hunnamed : r.val.evidence_id ∉ claim.val.criterion_evidence_refs := by
            intro hnamed
            have hstored : claim.val.criterion_evidence_refs ⊆ s.val.evidence_ids := by
              simp only [hclaim, Option.any_some, Bool.or_eq_true, Bool.not_eq_true', not_or,
                Bool.not_eq_false, List.all_eq_true, List.contains_iff_mem] at g₆
              exact fun e he => g₆.2 e he
            exact hfresh (hstored hnamed)
          simp only [ConversationStateFields.criterion_verified,
            claimed_record_append hunnamed]
      refine ⟨claim, hclaim, (), hknown, ?_⟩
      rintro (hnone | hany)
      · exact hproven (.inl hnone)
      · obtain ⟨x, hx, hnot⟩ := List.any_eq_true.mp hany
        exact hproven (.inr (List.any_eq_true.mpr
          ⟨x, hx, (congrArg Bool.not (hsame x)).symm.trans hnot⟩))
    · rw [if_neg hopen]
  · intro hlost
    apply p₆
    rw [List.any_eq_true] at hlost ⊢
    obtain ⟨b, hb, hlost⟩ := hlost
    refine ⟨b, hb, ?_⟩
    simp only [ConversationStateFields.is_summary_fact, List.any_append, Bool.not_or,
      Bool.and_eq_true] at hlost ⊢
    exact hlost.1

theorem accept_action_of_submitted (h : Submitted s action) :
    accept_action rules clock s action max_replay_records now =
      accept_fresh rules clock s action max_replay_records now := by
  have hvalid := s.valid
  simp only [ConversationStateFields.post_init, ConversationStateFields.check_sequences, bind_eq_ok,
    Py.refuse_value_eq_ok] at hvalid
  obtain ⟨_, ⟨_, _, _, _, _, hnext, _, hfloor, _, _, _, _, _, _, _, hwindow, _⟩, _⟩ := hvalid
  -- the next sequence number has no replay record
  have hunused : find_replay s action.action_seq = none := by
    unfold find_replay
    rw [List.find?_eq_none]
    intro r hr heq
    have hseq : r.val.action_seq = action.action_seq := by simpa using heq
    exact hwindow ⟨r.val.action_seq, List.mem_map_of_mem hr, .inr (by rw [hseq, h.next])⟩
  have hfirst : ¬ action.action_seq < 1 := by
    rw [h.next]
    exact hnext
  have hbelow : ¬ action.action_seq < s.val.replay_floor := by
    rw [h.next]
    intro hbelow
    exact hfloor (.inr hbelow)
  rw [accept_action, if_neg (not_not.mpr h.conversation), if_neg hfirst]
  simp only [hunused]
  rw [if_neg hbelow, if_neg (by rw [h.next]; omega), if_neg (by rw [h.next]; omega),
    if_neg (not_not.mpr h.expected)]
  simp only [h.legal]

/-- The reducer takes a word whose fact and record are new. -/
theorem confirm_criterion_succeeds {action_seq : Int} (hgoal : s.val.goal = some goal)
    (hc : confirmed_criterion goal a.val.criterion_id = some c)
    (hunused : confirmation_fact_id action_seq ∉ s.val.fact_ids)
    (hunrecorded : a.val.confirmed = true → goal.evidence_id c ∉ s.val.evidence_ids) :
    ∃ s', confirm_criterion s action_seq a = .ok s' := by
  obtain ⟨fact, hfact⟩ : ∃ fact : ConversationFact, fact.val = {
      fact_id := confirmation_fact_id action_seq
      kind := .user_message
      content := JsonDict.of [
        ("criterion_id", .str a.val.criterion_id), ("confirmed", .bool a.val.confirmed)] } := by
    refine ⟨⟨_, ?_⟩, rfl⟩
    simp [ConversationFactFields.post_init, confirmation_fact_id, Py.refuse_value_eq_ok]
  have hfresh : fact.val.fact_id ∉ s.val.fact_ids := by
    rw [hfact]
    exact hunused
  by_cases hconfirmed : a.val.confirmed = true
  · obtain ⟨r, hr⟩ := @confirmed_record "operator-confirmed" goal c fact (by decide)
    have hrecord : ∃ r', [r] = [r'] ∧ r'.val.evidence_id ∉ s.val.evidence_ids ∧
        r'.val.goal_id = goal.val.goal_id ∧ r'.val.goal_revision = goal.val.revision :=
      ⟨r, rfl, by rw [hr]; exact hunrecorded hconfirmed, by rw [hr]; rfl, by rw [hr]; rfl⟩
    obtain ⟨s', hs'⟩ := word_valid hgoal hfresh (.inr hrecord)
    refine ⟨s', ?_⟩
    have hevidence : confirmation_evidence goal c fact = .ok r := Checked.make_eq_ok.mpr hr
    simp only [confirm_criterion, bind_eq_ok, Py.expect_value_eq_ok, Checked.make_eq_ok]
    refine ⟨goal, hgoal, fact, hfact, [r], ?_, hs'⟩
    rw [if_pos hconfirmed]
    simp only [bind_eq_ok, Py.expect_value_eq_ok, pure_eq_ok]
    exact ⟨c, hc, r, hevidence, rfl⟩
  · obtain ⟨s', hs'⟩ := @word_valid s goal fact [] hgoal hfresh (.inl rfl)
    refine ⟨s', ?_⟩
    simp only [confirm_criterion, bind_eq_ok, Py.expect_value_eq_ok, Checked.make_eq_ok]
    refine ⟨goal, hgoal, fact, hfact, [], ?_, hs'⟩
    rw [if_neg hconfirmed]
    rfl

/-- A legal word is accepted exactly when nothing stands in its way. -/
theorem word_accepted_iff (hbody : action.body = .confirm_criterion a)
    (hsent : Submitted s action) :
    (∃ s', transition_step rules s (.accept_action clock action max_replay_records now) =
      .ok s') ↔ ∃ healed with_replay,
        Acceptable s action a max_replay_records healed with_replay := by
  have hlegal : confirm_criterion_is_legal s a = .ok () := by
    have h := hsent.legal
    rw [hbody] at h
    exact h
  obtain ⟨goal, c, hgoal, hid, hrevision, hc⟩ := confirm_criterion_is_legal_ok hlegal
  have hcid : c.val.criterion_id = a.val.criterion_id := (confirmed_criterion_some hc).2
  have hevidence_id : goal.evidence_id c =
      closed_evidence_id a.val.goal_id a.val.goal_revision a.val.criterion_id := by
    rw [GoalFrame.evidence_id, hid, hrevision, hcid]
  constructor
  · rintro ⟨s', hstep⟩
    obtain ⟨healed, with_replay, applied, haccepts⟩ := accept_action_step_ok hstep
    obtain ⟨goal', fact, _, w, hfact, rfl⟩ := haccepts.word_recorded hbody
    refine ⟨healed, with_replay, haccepts.heals, haccepts.records, ?_, ?_⟩
    · -- the accepted state is valid, so the new fact has its id alone
      have hnodup : s'.val.fact_ids.Nodup := fact_ids_nodup s'
      rw [ConversationStateFields.fact_ids, w.facts, List.map_append] at hnodup
      intro hused
      refine (List.nodup_append.mp hnodup).2.2 _ hused fact.val.fact_id ?_ hfact.symm
      exact List.mem_map_of_mem (List.mem_singleton_self fact)
    · intro hconfirmed hused
      obtain ⟨c', r, hc', hr, hrecords⟩ := w.confirmed hconfirmed
      have hgoals : goal' = goal := by
        have h := w.before
        rw [hgoal] at h
        exact (Option.some.inj h).symm
      rw [hgoals, hc] at hc'
      obtain rfl := Option.some.inj hc'
      -- and the new record has its own
      have hnodup : s'.val.evidence_ids.Nodup := evidence_ids_nodup s'
      rw [ConversationStateFields.evidence_ids, hrecords, List.map_append] at hnodup
      refine (List.nodup_append.mp hnodup).2.2 _ hused r.val.evidence_id ?_ ?_
      · exact List.mem_map_of_mem (List.mem_singleton_self r)
      · rw [confirmation_evidence_id hr, hgoals, hevidence_id]
  · rintro ⟨healed, with_replay, w⟩
    obtain ⟨_, _, hhealed⟩ := close_orphaned_tool_batches_ok w.heals
    obtain ⟨_, _, _, _, _, hwith⟩ := append_replay_record_ok w.records
    have hgoals : with_replay.val.goal = some goal := by rw [hwith, hhealed, hgoal]
    -- healing and the replay record leave the Goal and the evidence
    have happlied : ∃ applied, confirm_criterion with_replay action.action_seq a = .ok applied := by
      apply confirm_criterion_succeeds hgoals hc
      · rw [ConversationStateFields.fact_ids, hwith]
        exact w.unused
      · intro hconfirmed
        rw [hevidence_id, ConversationStateFields.evidence_ids, hwith, hhealed]
        exact w.unrecorded hconfirmed
    obtain ⟨applied, happlied⟩ := happlied
    have hnonneg : 0 ≤ healed.val.revision + 1 := by
      have hvalid := healed.valid
      simp only [ConversationStateFields.post_init, ConversationStateFields.check_sequences,
        bind_eq_ok, Py.refuse_value_eq_ok] at hvalid
      obtain ⟨_, ⟨_, _, _, hrevision, _⟩, _⟩ := hvalid
      omega
    obtain ⟨s', hs'⟩ := revised_valid applied hnonneg
    refine ⟨s', ?_⟩
    have happlies : apply_action rules clock with_replay action now = .ok applied := by
      rw [apply_action, hbody]
      exact happlied
    have haccepted : accept_action rules clock s action max_replay_records now =
        .ok { disposition := .accepted, state := s' } := by
      rw [accept_action_of_submitted hsent, accept_fresh]
      simp only [bind_eq_ok]
      refine ⟨some healed, w.heals, ?_⟩
      simp only [bind_eq_ok]
      refine ⟨some with_replay, w.records, ?_⟩
      simp only [bind_eq_ok, Checked.make_eq_ok]
      exact ⟨applied, happlies, s', hs', rfl⟩
    simp only [transition_step, bind_eq_ok, Py.refuse_value_eq_ok]
    exact ⟨_, haccepted, (), by simp, rfl⟩

end Words

/-! ### What a step does to the confirmations -/

/-- After a confirmation the criterion is confirmed; a delta drops the record
    and leaves the log; any other step changes nothing. -/
structure WordStep (c : AdmittedCriterion) (l : Transition) (s t : ConversationState) : Prop where
  admits : Admits c t
  latest : latest_confirmation t c ≠ none ↔
    l.word c.val.criterion_id = some true ∨ latest_confirmation s c ≠ none
  confirmed : Confirmed t c ↔ l.word c.val.criterion_id = some true ∨
    if l.is_delta then latest_confirmation s c ≠ none else Confirmed s c

section Steps

variable {rules : TextRules} {c : AdmittedCriterion} {l : Transition} {s t : ConversationState}
  {a : ConfirmCriterion} {goal : GoalFrame} {fact : ConversationFact}
  {padded : List ConversationFact}

theorem Confirmed.latest (h : Confirmed s c) : latest_confirmation s c ≠ none := by
  obtain ⟨_, f, _, hf, _⟩ := h
  simp [hf]

theorem confirms_criterion_word (w : WordRecorded s t a goal fact padded) :
    confirms_criterion c.val.criterion_id fact =
      (a.val.criterion_id = c.val.criterion_id && a.val.confirmed) := by
  simp [confirms_criterion, w.kind, w.content, JsonDict.get_of_cons, Json.has_key]

/-- The confirmations of the healed log are those of the log. -/
theorem padded_confirmations {facts : List ConversationFact} (criterion_id : String)
    (h : Padded IsSuperseded facts padded) :
    padded.filter (confirms_criterion criterion_id) =
      facts.filter (confirms_criterion criterion_id) := by
  apply h.filter_eq
  intro f hf
  simp [confirms_criterion, hf.kind]

theorem WordRecorded.latest (w : WordRecorded s t a goal fact padded) :
    latest_confirmation t c = if confirms_criterion c.val.criterion_id fact then some fact
      else latest_confirmation s c := by
  rw [latest_confirmation, w.facts, List.filter_append, padded_confirmations _ w.pads]
  by_cases hfact : confirms_criterion c.val.criterion_id fact = true
  · simp [hfact]
  · rw [if_neg hfact]
    simp [hfact, latest_confirmation]

/-- A record of another criterion does not hide the record of this one. -/
theorem stored_record_append {r : EvidenceRecord} {id : String}
    (hrecords : t.val.evidence_records = s.val.evidence_records ++ [r])
    (hother : r.val.evidence_id ≠ id) : stored_record t id = stored_record s id := by
  simp [stored_record, hrecords, hother]

/-- A confirmation confirms its criterion. -/
theorem WordRecorded.confirms (w : WordRecorded s t a goal fact padded)
    (hc : c ∈ goal.val.admitted_criteria) (hid : a.val.criterion_id = c.val.criterion_id)
    (hconfirmed : a.val.confirmed = true) : Confirmed t c := by
  have hfact : confirms_criterion c.val.criterion_id fact = true := by
    rw [confirms_criterion_word w, hid, hconfirmed]
    simp
  obtain ⟨c', r, hc', hr, hrecords⟩ := w.confirmed hconfirmed
  obtain ⟨hadmitted, hid'⟩ := confirmed_criterion_some hc'
  obtain rfl : c' = c := GoalFrame.admitted_eq hadmitted hc (by rw [hid', hid])
  refine ⟨goal, fact, w.after, by rw [w.latest, if_pos hfact], ?_⟩
  intro stored hstored _
  -- the record of the confirmation is the only one under its id
  have hmem : r ∈ t.val.evidence_records := by
    rw [hrecords]
    exact List.mem_append_right _ (List.mem_singleton_self r)
  have hfound := stored_record_of_mem hmem
  rw [confirmation_evidence_id hr, hstored] at hfound
  obtain rfl := Option.some.inj hfound
  rw [Checked.make_eq_ok.mp hr]
  rfl

/-- A refusal, or a word on another criterion, leaves the criterion as it was. -/
theorem WordRecorded.keeps (w : WordRecorded s t a goal fact padded)
    (hother : ¬ (a.val.criterion_id = c.val.criterion_id ∧ a.val.confirmed = true)) :
    latest_confirmation t c = latest_confirmation s c ∧ (Confirmed t c ↔ Confirmed s c) := by
  have hfact : ¬ confirms_criterion c.val.criterion_id fact = true := by
    rw [confirms_criterion_word w]
    simpa using hother
  have hlatest : latest_confirmation t c = latest_confirmation s c := by
    rw [w.latest, if_neg hfact]
  have hstored : stored_record t (goal.evidence_id c) = stored_record s (goal.evidence_id c) := by
    -- a refusal adds no record, a confirmation that of its own criterion
    by_cases hconfirmed : a.val.confirmed = true
    · obtain ⟨c', r, hc', hr, hrecords⟩ := w.confirmed hconfirmed
      apply stored_record_append hrecords
      rw [confirmation_evidence_id hr]
      intro hids
      have hsame : c'.val.criterion_id = c.val.criterion_id := closed_evidence_id_inj hids
      rw [(confirmed_criterion_some hc').2] at hsame
      exact hother ⟨hsame, hconfirmed⟩
    · unfold stored_record
      rw [w.refused (by simpa using hconfirmed)]
  refine ⟨hlatest, ?_⟩
  unfold Confirmed
  rw [w.before, w.after, hlatest]
  constructor
  · rintro ⟨g, f, hg, hf, hr⟩
    obtain rfl := Option.some.inj hg
    exact ⟨goal, f, rfl, hf, by rw [← hstored]; exact hr⟩
  · rintro ⟨g, f, hg, hf, hr⟩
    obtain rfl := Option.some.inj hg
    exact ⟨goal, f, rfl, hf, by rw [hstored]; exact hr⟩

theorem word_of_body {clock : String} {action : RuntimeAction} {max_replay_records : Int}
    {now : Option String} (hbody : action.body = .confirm_criterion a) :
    (Transition.accept_action clock action max_replay_records now).word c.val.criterion_id =
      if a.val.criterion_id = c.val.criterion_id then some a.val.confirmed else none := by
  simp [Transition.word, hbody]

theorem WordRecorded.step {clock : String} {action : RuntimeAction} {max_replay_records : Int}
    {now : Option String} (hbody : action.body = .confirm_criterion a)
    (w : WordRecorded s t a goal fact padded) (hadmits : Admits c s) :
    WordStep c (.accept_action clock action max_replay_records now) s t := by
  obtain ⟨goal', hgoal, hc⟩ := hadmits
  obtain rfl : goal = goal' := by
    rw [w.before] at hgoal
    exact Option.some.inj hgoal
  have hword : (Transition.accept_action clock action max_replay_records now).word
      c.val.criterion_id = some true ↔
        a.val.criterion_id = c.val.criterion_id ∧ a.val.confirmed = true := by
    rw [word_of_body hbody]
    by_cases hid : a.val.criterion_id = c.val.criterion_id <;> simp [hid]
  by_cases hconfirms : a.val.criterion_id = c.val.criterion_id ∧ a.val.confirmed = true
  · have hafter : Confirmed t c := w.confirms hc hconfirms.1 hconfirms.2
    exact ⟨⟨goal, w.after, hc⟩, iff_of_true hafter.latest (.inl (hword.mpr hconfirms)),
      iff_of_true hafter (.inl (hword.mpr hconfirms))⟩
  · obtain ⟨hlatest, hsame⟩ := w.keeps hconfirms
    have hnoword := mt hword.mp hconfirms
    refine ⟨⟨goal, w.after, hc⟩, ?_, ?_⟩
    · rw [hlatest]
      simp [hnoword]
    · rw [hsame]
      simp [hnoword, Transition.is_delta]

/-- A delta that keeps the criterion drops all evidence and no fact. -/
theorem delta_step (hdelta : l.is_delta = true) (hstep : transition_step rules s l = .ok t)
    (hkeeps : Admits c t) : WordStep c l s t := by
  have hleaves : t.val.facts = s.val.facts ∧ t.val.evidence_records = [] := by
    cases l with
    | apply_goal_delta delta =>
      obtain ⟨_, _, _, _, _, _, _, _, _, h⟩ := apply_goal_delta_ok hstep
      exact ⟨by rw [h], by rw [h]⟩
    | accept_goal_delta_proposal proposal =>
      obtain ⟨_, _, _, _, _, _, _, _, h⟩ := accept_goal_delta_proposal_ok hstep
      exact ⟨by rw [h], by rw [h]⟩
    | _ => cases hdelta
  obtain ⟨hfacts, hrecords⟩ := hleaves
  have hnoword : l.word c.val.criterion_id = none := by
    cases l <;> first | rfl | cases hdelta
  have hlatest : latest_confirmation t c = latest_confirmation s c := by
    rw [latest_confirmation, hfacts, latest_confirmation]
  refine ⟨hkeeps, by simp [hlatest, hnoword], ?_⟩
  rw [hnoword, if_pos hdelta]
  simp only [reduceCtorEq, false_or]
  constructor
  · intro h
    rw [← hlatest]
    exact h.latest
  · intro hsome
    obtain ⟨f, hf⟩ := Option.ne_none_iff_exists'.mp hsome
    obtain ⟨goal, hgoal, _⟩ := hkeeps
    refine ⟨goal, f, hgoal, by rw [hlatest, hf], ?_⟩
    intro r hr
    simp [stored_record, hrecords] at hr

/-- The result of an earlier action changes no fact and no evidence. -/
theorem finalize_word_step {action_seq : Int} {result : RecordedRunResult}
    {max_replay_records : Int} (hadmits : Admits c s)
    (hstep : finalize_action s action_seq result max_replay_records = .ok t) :
    WordStep c (.finalize_action action_seq result max_replay_records) s t := by
  have hleaves : t.val.facts = s.val.facts ∧ t.val.evidence_records = s.val.evidence_records ∧
      t.val.goal = s.val.goal := by
    obtain ⟨_, _, ⟨_, rfl⟩ | ⟨_, _, _, _, _, _, h⟩⟩ := finalize_action_ok hstep
    · exact ⟨rfl, rfl, rfl⟩
    · exact ⟨by rw [h], by rw [h], by rw [h]⟩
  obtain ⟨hfacts, hrecords, hgoal⟩ := hleaves
  have hlatest : latest_confirmation t c = latest_confirmation s c := by
    rw [latest_confirmation, hfacts, latest_confirmation]
  have hstored : stored_record t = stored_record s := by
    funext id
    unfold stored_record
    rw [hrecords]
  refine ⟨?_, by simp [hlatest, Transition.word], ?_⟩
  · unfold Admits
    rw [hgoal]
    exact hadmits
  · simp only [Transition.word, Transition.is_delta, reduceCtorEq, false_or, Confirmed, hgoal,
      hlatest, hstored]
    simp

theorem confirmation_step (hadmits : Admits c s) (hlegal : ConfirmationStep rules c s l)
    (hstep : transition_step rules s l = .ok t) : WordStep c l s t := by
  cases hlegal with
  | confirm clock action max_replay_records now a hbody _ _ =>
    obtain ⟨healed, with_replay, applied, haccepts⟩ := accept_action_step_ok hstep
    obtain ⟨goal, fact, padded, w, _, _⟩ := haccepts.word_recorded hbody
    exact w.step hbody hadmits
  | delta _ s' hdelta hstep' hkeeps =>
    rw [hstep] at hstep'
    cases hstep'
    exact delta_step hdelta hstep hkeeps
  | finalize action_seq result max_replay_records s' hstep' =>
    exact finalize_word_step hadmits hstep

end Steps

/-! ### Whole sequences -/

section Sequences

variable {rules : TextRules} {c : AdmittedCriterion} {s s' : ConversationState}
  {ls : List Transition}

/-- The sequence runs exactly when nothing stands in the way of its words. -/
theorem sequence_runs_iff
    (hlegal : (conversation_system rules).Along (ConfirmationStep rules c) s ls) :
    (∃ s', (conversation_system rules).run s ls = .ok s') ↔
      (conversation_system rules).Along accepts_word s ls := by
  induction ls generalizing s with
  | nil => exact iff_of_true ⟨s, System.run_nil.mpr rfl⟩ trivial
  | cons l ls ih =>
    have hstep : (∃ t, transition_step rules s l = .ok t) ↔ accepts_word s l := by
      cases hlegal.1 with
      | confirm clock action max_replay_records now a hbody hlimit hsent =>
        rw [word_accepted_iff hbody hsent]
        simp [accepts_word, hbody]
      | delta _ t hdelta hstep hkeeps =>
        refine iff_of_true ⟨t, hstep⟩ ?_
        cases l <;> trivial
      | finalize action_seq result max_replay_records t hstep =>
        exact iff_of_true ⟨t, hstep⟩ trivial
    constructor
    · rintro ⟨s', hrun⟩
      obtain ⟨t, ht, hrest⟩ := System.run_cons.mp hrun
      refine ⟨hstep.mp ⟨t, ht⟩, ?_⟩
      intro u hu
      rw [ht] at hu
      cases hu
      exact (ih (hlegal.2 t ht)).mp ⟨s', hrest⟩
    · rintro ⟨hword, hrest⟩
      obtain ⟨t, ht⟩ := hstep.mpr hword
      obtain ⟨s', hs'⟩ := (ih (hlegal.2 t ht)).mpr (hrest t ht)
      exact ⟨s', System.run_cons.mpr ⟨t, ht, hs'⟩⟩

/-- After the sequence the criterion is confirmed when the sequence confirms
    it, or else when its log or, with no new revision, its record did before. -/
theorem sequence_confirmed_iff (hadmits : Admits c s)
    (hlegal : (conversation_system rules).Along (ConfirmationStep rules c) s ls)
    (hrun : (conversation_system rules).run s ls = .ok s') :
    Confirmed s' c ↔ (∃ l ∈ ls, l.word c.val.criterion_id = some true) ∨
      if ∃ l ∈ ls, l.is_delta = true then latest_confirmation s c ≠ none else Confirmed s c := by
  induction ls generalizing s with
  | nil =>
    obtain rfl := System.run_nil.mp hrun
    simp
  | cons l ls ih =>
    obtain ⟨t, ht, hrest⟩ := System.run_cons.mp hrun
    have w : WordStep c l s t := confirmation_step hadmits hlegal.1 ht
    rw [ih w.admits (hlegal.2 t ht) hrest, w.latest, w.confirmed]
    have hlatest : Confirmed s c → latest_confirmation s c ≠ none := Confirmed.latest
    simp only [List.exists_mem_cons_iff]
    by_cases hword : l.word c.val.criterion_id = some true
    · simp [hword]
    · by_cases hdeltas : ∃ l ∈ ls, l.is_delta = true
      · simp [hword, hdeltas]
      · by_cases hdelta : l.is_delta = true <;> simp [hword, hdeltas, hdelta]

/-- The last word is a confirmation of the sequence or, when the sequence
    neither confirms nor refuses nor revises, the one before it. -/
theorem last_word_confirmed {criterion_id : String} {before : Option Bool}
    (h : last_word criterion_id before ls = some true)
    (hnone : ¬ ∃ l ∈ ls, l.word criterion_id = some true) :
    before = some true ∧ ¬ ∃ l ∈ ls, l.is_delta = true := by
  induction ls generalizing before with
  | nil => exact ⟨h, by simp⟩
  | cons l ls ih =>
    simp only [List.exists_mem_cons_iff, not_or] at hnone ⊢
    obtain ⟨hbefore, hdeltas⟩ := ih h hnone.2
    by_cases hdelta : l.is_delta = true
    · rw [if_pos hdelta] at hbefore
      cases hbefore
    · rw [if_neg hdelta] at hbefore
      cases hword : l.word criterion_id with
      | none =>
        rw [hword, Option.none_or] at hbefore
        exact ⟨hbefore, hdelta, hdeltas⟩
      | some b =>
        rw [hword, Option.some_or] at hbefore
        rw [hbefore] at hword
        exact absurd hword hnone.1

/-- In a sequence of legal confirmations and refusals, mixed with deltas that
    keep the criterion, every word is accepted and the registry ends up
    proving the criterion exactly when the last word at the current revision
    is a confirmation, if and only if nothing stands in the way of a word and
    no confirmation is left behind the last one. -/
theorem confirmation_follows_last_word {before : Option Bool} {observed_at : String}
    (hkind : c.val.oracle_kind = .user_confirmation) (hadmits : Admits c s)
    (hobserved : observed_at ≠ "")
    (hlegal : (conversation_system rules).Along (ConfirmationStep rules c) s ls) :
    (∃ s', (conversation_system rules).run s ls = .ok s' ∧
      (Proves s' c observed_at ↔ last_word c.val.criterion_id before ls = some true)) ↔
    (conversation_system rules).Along accepts_word s ls ∧ NothingStale before s c ls := by
  rw [← sequence_runs_iff hlegal]
  have hiff : ∀ s', (conversation_system rules).run s ls = .ok s' →
      ((Proves s' c observed_at ↔ last_word c.val.criterion_id before ls = some true) ↔
        NothingStale before s c ls) := by
    intro s' hrun
    rw [proves_iff_confirmed hkind hobserved, sequence_confirmed_iff hadmits hlegal hrun]
    unfold NothingStale
    by_cases hlast : last_word c.val.criterion_id before ls = some true
    · rw [if_pos hlast, iff_true_right hlast]
      by_cases hword : ∃ l ∈ ls, l.word c.val.criterion_id = some true
      · simp [hword]
      · obtain ⟨_, hdeltas⟩ := last_word_confirmed hlast hword
        rw [if_neg hdeltas]
    · rw [if_neg hlast, iff_false_right hlast, not_or]
      have hlatest : Confirmed s c → latest_confirmation s c ≠ none := Confirmed.latest
      have hwords : (¬ ∃ l ∈ ls, l.word c.val.criterion_id = some true) ↔
          ∀ l ∈ ls, l.word c.val.criterion_id ≠ some true := by
        push Not
        rfl
      rw [hwords]
      by_cases hdeltas : ∃ l ∈ ls, l.is_delta = true
      · rw [if_pos hdeltas]
        constructor
        · rintro ⟨hw, hnone⟩
          exact ⟨hw, fun h => hnone (hlatest h), fun _ => not_not.mp hnone⟩
        · rintro ⟨hw, _, hnone⟩
          exact ⟨hw, not_not.mpr (hnone hdeltas)⟩
      · rw [if_neg hdeltas]
        constructor
        · rintro ⟨hw, hnot⟩
          exact ⟨hw, hnot, fun h => absurd h hdeltas⟩
        · rintro ⟨hw, hnot, _⟩
          exact ⟨hw, hnot⟩
  constructor
  · rintro ⟨s', hrun, h⟩
    exact ⟨⟨s', hrun⟩, (hiff s' hrun).mp h⟩
  · rintro ⟨⟨s', hrun⟩, h⟩
    exact ⟨s', hrun, (hiff s' hrun).mpr h⟩

end Sequences

/-! ### A refusal that takes nothing back -/

def review_criterion : AdmittedCriterion :=
  ⟨{ criterion_id := "review", description := "the user reviews it"
     source_fact_id := "action:1:user", oracle_kind := .user_confirmation
     predicate := JsonDict.of [("confirmed", .bool true)]
     required_evidence_class := "user_confirmation", admission_digest := "admission" }, by decide⟩

/-- The second revision of the Goal keeps the criterion. -/
def revised_goal : GoalFrame :=
  ⟨{ goal_id := "goal", revision := 2, created_from_fact_ids := ["action:1:user"]
     workspace_identity_digest := "digest", user_outcome := "an outcome"
     beneficiary := "the user", targets := ["target"], scope := ["scope"], non_goals := []
     assumptions := [], proposed_criteria := [], admitted_criteria := [review_criterion]
     authority_snapshot := "snapshot", status := .goal_ready
     created_at := "2025-01-01T00:00:00Z", updated_at := "2025-01-01T00:00:00Z" }, by decide⟩

def request_fact : ConversationFact :=
  ⟨{ fact_id := "action:1:user", kind := .user_message
     content := JsonDict.of [("text", .str "hello")] }, by decide⟩

/-- The user confirmed the criterion at the first revision. -/
def confirmed_fact : ConversationFact :=
  ⟨{ fact_id := "action:2:criterion-confirmation", kind := .user_message
     content := JsonDict.of [("criterion_id", .str "review"), ("confirmed", .bool true)] },
   by decide⟩

def revised_state : ConversationState :=
  ⟨{ conversation_id := "conversation", revision := 6, next_action_seq := 3, replay_floor := 3
     facts := [request_fact, confirmed_fact], goal := some revised_goal }, by decide⟩

/-- At the second revision the user refuses it. -/
def refusal : ConfirmCriterion :=
  ⟨{ goal_id := "goal", goal_revision := 2, criterion_id := "review"
     admission_binding_digest := "admission", confirmed := false }, by decide⟩

def refusal_action : RuntimeAction where
  conversation_id := "conversation"
  action_seq := 3
  expected_revision := 6
  body := .confirm_criterion refusal

def refusal_steps : List Transition := [.accept_action "" refusal_action 8 none]

theorem refusal_submitted : Submitted revised_state refusal_action :=
  ⟨rfl, rfl, rfl, by decide⟩

theorem refusal_legal : (conversation_system .silent).Along
    (ConfirmationStep .silent review_criterion) revised_state refusal_steps :=
  ⟨.confirm "" refusal_action 8 none refusal rfl (by decide) refusal_submitted, fun _ _ => trivial⟩

theorem revised_state_admits : Admits review_criterion revised_state :=
  ⟨revised_goal, rfl, by decide⟩

/-- The only word at the second revision is a refusal, and the registry still
    proves the criterion. -/
theorem refused_criterion_proven : ∃ s',
    (conversation_system .silent).Along (ConfirmationStep .silent review_criterion)
      revised_state refusal_steps ∧
    (conversation_system .silent).run revised_state refusal_steps = .ok s' ∧
    last_word "review" none refusal_steps = some false ∧
    Proves s' review_criterion "2025-01-01T00:00:00Z" := by
  have hruns : succeeds ((conversation_system .silent).run revised_state refusal_steps) (fun s =>
      s.val.goal = some revised_goal && s.val.evidence_records = [] &&
      latest_confirmation s review_criterion = some confirmed_fact) = true := by
    decide +kernel
  obtain ⟨s', hrun, h⟩ := succeeds_iff.mp hruns
  simp only [Bool.and_eq_true, decide_eq_true_eq] at h
  obtain ⟨⟨hgoal, hrecords⟩, hlatest⟩ := h
  refine ⟨s', refusal_legal, hrun, by decide, ?_⟩
  rw [proves_iff_confirmed (by decide) (by decide)]
  refine ⟨revised_goal, confirmed_fact, hgoal, hlatest, ?_⟩
  intro r hr
  simp [stored_record, hrecords] at hr

/-- The theorem at the same sequence. -/
theorem refusal_follows_last_word :
    (∃ s', (conversation_system .silent).run revised_state refusal_steps = .ok s' ∧
      (Proves s' review_criterion "2025-01-01T00:00:00Z" ↔
        last_word "review" none refusal_steps = some true)) ↔
    (conversation_system .silent).Along accepts_word revised_state refusal_steps ∧
      NothingStale none revised_state review_criterion refusal_steps :=
  confirmation_follows_last_word (by decide) revised_state_admits (by decide) refusal_legal
