import FirstAgent.Evidence.Derive

/-! # What the Evidence of a Goal Depends On

    An oracle reads the facts, and of the Goal its id, its revision and its
    targets.  A Goal that is only restated has the evidence it had. -/

open Fallible

/-- Two frames of one Goal revision. -/
structure SameGoal (goal goal' : GoalFrame) : Prop where
  goal_id : goal'.val.goal_id = goal.val.goal_id
  revision : goal'.val.revision = goal.val.revision
  targets : goal'.val.targets = goal.val.targets

namespace SameGoal

variable {goal goal' : GoalFrame}

theorem refl : SameGoal goal goal := ⟨rfl, rfl, rfl⟩

theorem same_evidence_id (h : SameGoal goal goal') : goal'.evidence_id = goal.evidence_id := by
  funext c
  simp [GoalFrame.evidence_id, h.goal_id, h.revision]

/-! ### One oracle after the other -/

theorem same_filesystem_digest (h : SameGoal goal goal') (facts : List ConversationFact)
    (predicate : JsonDict) :
    filesystem_digest facts goal' predicate = filesystem_digest facts goal predicate := by
  have hproves : excerpt_proves goal' = excerpt_proves goal := by
    funext path digest r
    simp [excerpt_proves, h.goal_id, h.revision]
  have hfile : proves_file facts goal' = proves_file facts goal := by
    funext path digest p
    simp [proves_file, hproves]
  simp [filesystem_digest, hfile]

theorem same_process_tool_receipt (h : SameGoal goal goal') (facts : List ConversationFact)
    (predicate : JsonDict) :
    process_tool_receipt facts goal' predicate = process_tool_receipt facts goal predicate := by
  have hmatches : process_receipt_matches goal' = process_receipt_matches goal := by
    funext predicate r raw
    simp [process_receipt_matches, h.goal_id, h.revision]
  have hcarries : carries_process_receipt goal' = carries_process_receipt goal := by
    funext predicate f
    simp [carries_process_receipt, hmatches]
  simp [process_tool_receipt, hcarries]

theorem same_native_sandbox_tool_receipt (h : SameGoal goal goal') (facts : List ConversationFact)
    (predicate : JsonDict) :
    native_sandbox_tool_receipt facts goal' predicate =
      native_sandbox_tool_receipt facts goal predicate := by
  have hmatches : sandbox_receipt_matches goal' = sandbox_receipt_matches goal := by
    funext predicate r
    simp [sandbox_receipt_matches, h.goal_id, h.revision]
  have hcarries : carries_sandbox_receipt goal' = carries_sandbox_receipt goal := by
    funext predicate f
    simp [carries_sandbox_receipt, hmatches]
  simp [native_sandbox_tool_receipt, hcarries]

theorem same_tool_receipt (h : SameGoal goal goal') (facts : List ConversationFact)
    (predicate : JsonDict) :
    tool_receipt facts goal' predicate = tool_receipt facts goal predicate := by
  simp [tool_receipt, h.same_process_tool_receipt, h.same_native_sandbox_tool_receipt]

theorem same_web_source_receipt (h : SameGoal goal goal') (facts : List ConversationFact)
    (predicate : JsonDict) :
    web_source_receipt facts goal' predicate = web_source_receipt facts goal predicate := by
  have hproves : web_source_proves goal' = web_source_proves goal := by
    funext predicate r
    simp [web_source_proves, h.goal_id, h.revision]
  have hcarries : carries_web_source goal' = carries_web_source goal := by
    funext predicate f
    simp [carries_web_source, hproves]
  simp [web_source_receipt, hcarries]

theorem same_browser_readback (h : SameGoal goal goal') (facts : List ConversationFact)
    (predicate : JsonDict) :
    browser_readback facts goal' predicate = browser_readback facts goal predicate := by
  have hidentity : same_browser_identity goal' = same_browser_identity goal := by
    funext predicate m
    simp [same_browser_identity, h.goal_id, h.revision]
  have hreceipt : is_browser_receipt goal' = is_browser_receipt goal := by
    funext predicate f
    simp [is_browser_receipt, hidentity]
  have hobservation : is_browser_observation goal' = is_browser_observation goal := by
    funext predicate f
    simp [is_browser_observation, hidentity]
  simp [browser_readback, hreceipt, hobservation]

theorem same_research_provenance (h : SameGoal goal goal') {s s' : ConversationState}
    (hfacts : s'.val.facts = s.val.facts)
    (hconversation : s'.val.conversation_id = s.val.conversation_id) (predicate : JsonDict)
    (observed_at : String) :
    research_provenance s' goal' predicate observed_at =
      research_provenance s goal predicate observed_at := by
  have hread : read_research_predicate goal' = read_research_predicate goal := by
    funext predicate
    simp [read_research_predicate, h.targets]
  have hmanifest : bound_manifest goal' = bound_manifest goal := by
    funext r raw
    simp [bound_manifest, h.goal_id, h.revision]
  have hcited : ∀ id, cited_receipt id goal' = cited_receipt id goal := by
    intro id
    funext artifact receipts citation
    simp [cited_receipt, h.goal_id, h.revision]
  simp [research_provenance, hread, hmanifest, hcited, hfacts, hconversation]

/-- The facts, the conversation and the Goal revision decide what is proved. -/
theorem same_prove_criterion (h : SameGoal goal goal') {s s' : ConversationState}
    (hfacts : s'.val.facts = s.val.facts)
    (hconversation : s'.val.conversation_id = s.val.conversation_id) (c : AdmittedCriterion)
    (observed_at : String) :
    prove_criterion s' goal' c observed_at = prove_criterion s goal c observed_at := by
  unfold prove_criterion
  cases c.val.oracle_kind with
  | filesystem_digest => simp [hfacts, h.same_filesystem_digest]
  | tool_receipt => simp [hfacts, h.same_tool_receipt]
  | user_confirmation => simp [hfacts]
  | research_provenance => simp [h.same_research_provenance hfacts hconversation]
  | web_source_receipt => simp [hfacts, h.same_web_source_receipt]
  | browser_readback => simp [hfacts, h.same_browser_readback]

end SameGoal
