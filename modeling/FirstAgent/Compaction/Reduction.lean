import FirstAgent.Compaction.Turns
import FirstAgent.State.Resources

/-! # Compaction

    A selected union of closed turns, with the old summary or without it, is
    replaced by one summary fact.  Turns a Goal, a piece of evidence or an open
    resource rests on are protected. -/

open Fallible

/-! ### Summaries -/

def CONVERSATION_SUMMARY_OBJECTIVE_LIMIT : Nat := 2000
def CONVERSATION_SUMMARY_ITEM_TEXT_LIMIT : Nat := 1000
def CONVERSATION_SUMMARY_ITEM_COUNT_LIMIT : Nat := 16

structure ConversationSummaryFields where
  objective : String
  constraints : List String
  decisions : List String
  completed : List String
  open_items : List String
  key_references : List String
  source_checkpoint_digest : String
  source_fact_ids_digest : String
  deriving Repr, DecidableEq

namespace ConversationSummaryFields

/-- `_CONVERSATION_SUMMARY_LIST_FIELDS`. -/
def list_fields (c : ConversationSummaryFields) : List (String × List String) := [
  ("constraints", c.constraints), ("decisions", c.decisions), ("completed", c.completed),
  ("open_items", c.open_items), ("key_references", c.key_references)]

/-- Non-empty text within a limit. -/
def bounded_text (limit : Nat) (text : String) : Bool :=
  !PyText.is_blank text && text.toList.length ≤ limit

def check_items (name : String) (items : List String) : Py Unit := do
  Py.refuse_value (CONVERSATION_SUMMARY_ITEM_COUNT_LIMIT < items.length)
    ("conversation summary " ++ name ++ " exceeds the 16-item limit")
  Py.refuse_value (items.any fun i => !bounded_text CONVERSATION_SUMMARY_ITEM_TEXT_LIMIT i)
    ("conversation summary " ++ name ++ " items must be non-empty text within the " ++
      "1000-character limit")

def check_digest (name digest : String) : Py Unit :=
  Py.refuse_value (PyText.is_lower_hex digest 64 = false)
    ("conversation summary " ++ name ++ " must be a sha256 digest")

def post_init (c : ConversationSummaryFields) : Py Unit := do
  Py.refuse_value (bounded_text CONVERSATION_SUMMARY_OBJECTIVE_LIMIT c.objective = false)
    "conversation summary objective must be non-empty text within the 2000-character limit"
  c.list_fields.forM fun (name, items) => check_items name items
  check_digest "source_checkpoint_digest" c.source_checkpoint_digest
  check_digest "source_fact_ids_digest" c.source_fact_ids_digest

def to_content (c : ConversationSummaryFields) : JsonDict :=
  JsonDict.of <| [("objective", .str c.objective)] ++
    (c.list_fields.map fun (name, items) => (name, .strs items)) ++ [
    ("source_checkpoint_digest", .str c.source_checkpoint_digest),
    ("source_fact_ids_digest", .str c.source_fact_ids_digest)]

end ConversationSummaryFields

/-- The closed content of a summary fact. -/
abbrev ConversationSummaryV1 : Type := Checked ConversationSummaryFields.post_init

/-! ### Protected facts -/

/-- The facts the Goal or an open resource rests on, and those the evidence
    rests on. -/
structure ProtectedFacts where
  goal_source_ids : List String
  evidence_source_ids : List String
  deriving Repr, DecidableEq

def protected_compaction_fact_ids (s : ConversationState) : Py ProtectedFacts := do
  let resources ← active_task_resources s.val.facts
  pure {
    goal_source_ids := (s.val.goal.toList.flatMap fun g => g.val.created_from_fact_ids) ++
      resources.owner_fact_ids
    evidence_source_ids := s.val.evidence_records.flatMap fun r => r.val.source_fact_ids }

/-! ### The removal check -/

/-- One closed turn: selected as a whole and unprotected, or not at all. -/
def check_turn (selected : List String) (ids : ProtectedFacts) (turn_ids : List String) :
    Py Unit := do
  if turn_ids.any selected.contains then do
    Py.refuse_value (¬ turn_ids ⊆ selected) "removable facts must cover whole closed turns"
    Py.refuse_value (turn_ids.any ids.goal_source_ids.contains)
      "removable facts must not include goal or active-resource owner turns"
    Py.refuse_value (turn_ids.any ids.evidence_source_ids.contains)
      "removable facts must not include evidence source turns"
  else pure ()

/-- The closed turns a selection touches. -/
def selected_turns (selected : List String) (turns : CompactionTurns) : List (List String) :=
  turns.closed_turn_ids.filter fun turn_ids => turn_ids.any selected.contains

/-- The facts of a removable selection, in the order of the conversation. -/
def validate_compaction_removal (s : ConversationState) (removable_fact_ids : List String) :
    Py (List ConversationFact) := do
  Py.refuse_value (removable_fact_ids = []) "removable fact ids must not be empty"
  Py.refuse_value (¬ removable_fact_ids.Nodup) "removable fact ids must not contain duplicates"
  Py.refuse_value (¬ removable_fact_ids ⊆ s.val.fact_ids)
    "removable fact ids must exist in conversation state"
  let turns ← parse_compaction_turns s.val.facts
  Py.refuse_value (turns.open_turn_ids.any removable_fact_ids.contains)
    "unclosed trailing turn is not removable"
  let ids ← protected_compaction_fact_ids s
  turns.closed_turn_ids.forM (check_turn removable_fact_ids ids)
  let chosen := selected_turns removable_fact_ids turns
  Py.refuse_value (chosen = []) "removable facts must include at least one closed turn"
  Py.refuse_value (¬ removable_fact_ids ⊆ turns.summary_id.toList ++ chosen.flatten)
    "removable facts must equal whole closed turns plus at most the summary"
  pure (s.val.facts.filter fun f => removable_fact_ids.contains f.val.fact_id)

/-! ### Applying a summary -/

/-- `_context_summary_fact_id`. -/
def context_summary_fact_id (summary : ConversationSummaryV1) : String :=
  "fact:context-summary:" ++ PyText.take
    (canonical_json_digest (.arr [.str summary.val.source_checkpoint_digest,
      .str summary.val.source_fact_ids_digest])) 16

/-- The first selected fact gives its place to the replacement; the others are
    dropped. -/
def replace_selected (selected : ConversationFact → Bool) (replacement : ConversationFact) :
    (inserted : Bool) → List ConversationFact → List ConversationFact
  | _, []            => []
  | inserted, f :: fs =>
    if selected f = false then f :: replace_selected selected replacement inserted fs
    else if inserted then replace_selected selected replacement true fs
    else replacement :: replace_selected selected replacement true fs

/-- The source boundary of a summary. -/
def summary_boundary (fact_id : String) : (source_scope : Option ProviderConsentScopeV1) →
    Py ProviderSummarySourceBoundaryV1
  | none       => ProviderSummarySourceBoundaryV1.create fact_id ["conversation_summary"] [] false
  | some scope => ProviderSummarySourceBoundaryV1.create fact_id
      ("conversation_summary" :: scope.val.data_classes) scope.val.sources
      scope.val.routine_compatible

def apply_compaction_summary (s : ConversationState) (summary : ConversationSummaryV1)
    (removable_fact_ids : List String) (source_scope : Option ProviderConsentScopeV1) :
    Py ConversationState := do
  let removable ← validate_compaction_removal s removable_fact_ids
  let selected_ids := removable.map fun f => f.val.fact_id
  Py.refuse_value
    (summary.val.source_fact_ids_digest ≠ canonical_json_digest (.strs selected_ids))
    "conversation summary does not bind the removable facts in state order"
  let fact_id := context_summary_fact_id summary
  Py.refuse_value
    (s.val.facts.any fun f => !selected_ids.contains f.val.fact_id && f.val.fact_id = fact_id)
    "context summary fact_id collides with retained facts"
  let summary_fact ← Checked.make {
    fact_id := fact_id
    kind := .context_summary
    content := summary.val.to_content }
  let boundary ← summary_boundary fact_id source_scope
  Checked.make { s.val with
    revision := s.val.revision + 1
    facts := replace_selected (fun f => selected_ids.contains f.val.fact_id) summary_fact false
      s.val.facts
    summary_source_boundaries := (s.val.summary_source_boundaries.filter fun b =>
      !selected_ids.contains b.val.summary_fact_id) ++ [boundary] }

/-! ### What compaction changes -/

section Effects

variable {s s' : ConversationState} {removable_fact_ids : List String}

theorem replace_selected_congr {p q : ConversationFact → Bool} {replacement : ConversationFact}
    (inserted : Bool) {fs : List ConversationFact} (h : ∀ f ∈ fs, p f = q f) :
    replace_selected p replacement inserted fs = replace_selected q replacement inserted fs := by
  induction fs generalizing inserted with
  | nil => rfl
  | cons f fs ih =>
    have hf := h f List.mem_cons_self
    have hfs := fun inserted => ih inserted fun g hg => h g (List.mem_cons_of_mem _ hg)
    simp only [replace_selected, hf, hfs]

/-- What the removal check establishes. -/
structure Removable (s : ConversationState) (removable_fact_ids : List String)
    (turns : CompactionTurns) (ids : ProtectedFacts) : Prop where
  exist : removable_fact_ids ⊆ s.val.fact_ids
  parsed : parse_compaction_turns s.val.facts = .ok turns
  keeps_open : ∀ i ∈ turns.open_turn_ids, i ∉ removable_fact_ids
  protects : protected_compaction_fact_ids s = .ok ids
  whole : ∀ turn_ids ∈ turns.closed_turn_ids, check_turn removable_fact_ids ids turn_ids = .ok ()
  some_turn : selected_turns removable_fact_ids turns ≠ []
  covered : removable_fact_ids ⊆
    turns.summary_id.toList ++ (selected_turns removable_fact_ids turns).flatten

theorem validate_compaction_removal_ok {removable : List ConversationFact}
    (h : validate_compaction_removal s removable_fact_ids = .ok removable) :
    removable = (s.val.facts.filter fun f => removable_fact_ids.contains f.val.fact_id) ∧
      ∃ turns ids, Removable s removable_fact_ids turns ids := by
  simp only [validate_compaction_removal, bind_eq_ok, Py.refuse_value_eq_ok, forM_eq_ok,
    pure_eq_ok, not_not] at h
  obtain ⟨_, _, _, _, _, hexist, turns, hturns, _, hopen, ids, hids, _, hwhole, _, hsome, _,
    hcovered, rfl⟩ := h
  refine ⟨rfl, turns, ids, hexist, hturns, ?_, hids, hwhole, hsome, hcovered⟩
  intro i hi hmem
  exact hopen (List.any_eq_true.mpr ⟨i, hi, by simpa using hmem⟩)

/-- The selection of an accepted removal, as a test of facts. -/
def is_selected (removable_fact_ids : List String) (f : ConversationFact) : Bool :=
  removable_fact_ids.contains f.val.fact_id

theorem apply_compaction_summary_ok {summary : ConversationSummaryV1}
    {source_scope : Option ProviderConsentScopeV1}
    (h : apply_compaction_summary s summary removable_fact_ids source_scope = .ok s') :
    ∃ turns ids summary_fact boundaries, Removable s removable_fact_ids turns ids ∧
      summary_fact.val.kind = .context_summary ∧
      summary_fact.val.fact_id = context_summary_fact_id summary ∧
      (∀ f ∈ s.val.facts, is_selected removable_fact_ids f = false →
        f.val.fact_id ≠ summary_fact.val.fact_id) ∧
      s'.val = { s.val with
        revision := s.val.revision + 1
        facts := replace_selected (is_selected removable_fact_ids) summary_fact false s.val.facts
        summary_source_boundaries := boundaries } := by
  simp only [apply_compaction_summary, bind_eq_ok, Py.refuse_value_eq_ok, Checked.make_eq_ok] at h
  obtain ⟨removable, hvalid, _, _, _, hfresh, summary_fact, hfact, boundary, _, h⟩ := h
  obtain ⟨rfl, turns, ids, hremovable⟩ := validate_compaction_removal_ok hvalid
  have hselected : ∀ f ∈ s.val.facts,
      (((s.val.facts.filter fun f => removable_fact_ids.contains f.val.fact_id).map
        fun f => f.val.fact_id).contains f.val.fact_id) = is_selected removable_fact_ids f := by
    intro f hf
    rw [Bool.eq_iff_iff]
    simp only [List.contains_iff_mem, List.mem_map, List.mem_filter, is_selected]
    constructor
    · rintro ⟨g, ⟨_, hg⟩, hid⟩
      rwa [← hid]
    · exact fun hmem => ⟨f, ⟨hf, hmem⟩, rfl⟩
  refine ⟨turns, ids, summary_fact, s'.val.summary_source_boundaries, hremovable, by rw [hfact],
    by rw [hfact], ?_, ?_⟩
  · intro f hf hkeep hid
    refine hfresh (List.any_eq_true.mpr ⟨f, hf, ?_⟩)
    rw [hselected f hf, hkeep]
    simp [hid, hfact]
  · rw [h, replace_selected_congr _ hselected]

end Effects
