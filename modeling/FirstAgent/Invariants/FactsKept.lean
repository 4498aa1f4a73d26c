import FirstAgent.Evidence.Confirmation
import FirstAgent.Invariants.Effects
import FirstAgent.Invariants.Healing

/-! # What the Log of Facts Keeps

    The facts of a conversation are its memory.  A transition appends facts,
    healing puts results between them, and a compaction replaces the facts it
    names by a summary.  Nothing else takes a fact out or moves one.

    * **`log_keeps_facts`**: what a run keeps of the facts, and which facts the
      compactions on the way could name.

    Strategy: one transition keeps a sublist (`log_step_keeps_facts`); sublists
    compose once the ids of all compactions are filtered out. -/

open Fallible

/-- The facts a compaction names. -/
def Transition.compacted_ids : Transition → List String
  | .apply_compaction_summary _ removable_fact_ids _ => removable_fact_ids
  | _ => []

/-- The facts none of these ids names. -/
def facts_outside (ids : List String) (facts : List ConversationFact) : List ConversationFact :=
  facts.filter fun f => f.val.fact_id ∉ ids

/-- What a run does to the facts it starts with. -/
structure FactsKept (rules : TextRules) (s s' : ConversationState) (ls : List Transition) :
    Prop where
  /-- The facts no compaction names stay, in their order. -/
  kept : (facts_outside (ls.flatMap Transition.compacted_ids) s.val.facts).Sublist s'.val.facts
  /-- A compaction names whole closed turns that nothing rests on, or the old summary. -/
  removable : ∀ before summary removable_fact_ids source_scope after u,
    ls = before ++ .apply_compaction_summary summary removable_fact_ids source_scope :: after →
    (conversation_system rules).run s before = .ok u →
    ∃ turns ids, Removable u removable_fact_ids turns ids

section Steps

variable {rules : TextRules} {s s' : ConversationState} {l : Transition} {ls : List Transition}
  {ids ids' : List String} {facts facts' : List ConversationFact}

theorem facts_outside_nil : facts_outside [] facts = facts := by
  simp [facts_outside]

theorem facts_outside_append :
    facts_outside (ids ++ ids') facts = facts_outside ids' (facts_outside ids facts) := by
  unfold facts_outside
  rw [List.filter_filter]
  congr 1
  funext f
  rw [Bool.eq_iff_iff]
  simp [and_comm]

theorem facts_outside_sublist (h : facts.Sublist facts') :
    (facts_outside ids facts).Sublist (facts_outside ids facts') :=
  h.filter _

/-- Padding moves nothing. -/
theorem padded_sublist {p : ConversationFact → Prop} (h : Padded p facts facts') :
    facts.Sublist facts' := by
  induction h with
  | nil => exact .slnil
  | keep f _ ih => exact ih.cons_cons f
  | pad f _ _ ih => exact ih.cons f

/-- A replacement moves none of the facts that are not selected. -/
theorem replace_selected_sublist {summary : ConversationFact} (inserted : Bool) :
    (facts_outside ids facts).Sublist (replace_selected (is_selected ids) summary inserted facts) := by
  induction facts generalizing inserted with
  | nil => exact List.Sublist.slnil
  | cons f facts ih =>
    unfold facts_outside at ih ⊢
    unfold replace_selected
    -- a selected fact gives way to the summary or to nothing
    by_cases hmem : f.val.fact_id ∈ ids
    · have hselected : is_selected ids f = true := List.contains_iff_mem.mpr hmem
      rw [List.filter_cons_of_neg (by simpa using hmem), if_neg (by simp [hselected])]
      cases inserted with
      | true => exact ih true
      | false => exact (ih true).cons summary
    · have hselected : is_selected ids f = false := by
        simpa [is_selected] using hmem
      rw [List.filter_cons_of_pos (by simpa using hmem), if_pos hselected]
      exact (ih inserted).cons_cons f

theorem not_compacts_ids (h : l.compacts = false) : l.compacted_ids = [] := by
  cases l with
  | apply_compaction_summary _ _ _ => cases h
  | _ => rfl

/-- A transition keeps the facts its compaction does not name. -/
theorem log_step_keeps_facts (h : transition_step rules s l = .ok s') :
    (facts_outside l.compacted_ids s.val.facts).Sublist s'.val.facts := by
  by_cases hcompacts : l.compacts = true
  · cases l with
    | apply_compaction_summary summary removable_fact_ids source_scope =>
      obtain ⟨_, _, _, _, _, _, _, _, hs'⟩ := apply_compaction_summary_ok h
      rw [hs']
      exact replace_selected_sublist false
    | _ => cases hcompacts
  · have hcompacts : l.compacts = false := by simpa using hcompacts
    -- the transition heals the open turn before it appends
    obtain ⟨t, hheals, _, hchange⟩ := transition_run_change h
    obtain ⟨added, hadded⟩ := hchange.grows hcompacts
    rw [not_compacts_ids hcompacts, facts_outside_nil]
    have hhealed : s.val.facts.Sublist t.val.facts := padded_sublist hheals.pads
    have hgrown : t.val.facts.Sublist s'.val.facts := by
      have hfacts : s'.val.facts = t.val.facts ++ added := hadded
      rw [hfacts]
      exact List.sublist_append_left _ _
    exact hhealed.trans hgrown

/-- **The log keeps its facts**: over every run the facts that no compaction of the run names
    stay in the log, in their order; and each compaction names facts of whole closed turns
    that neither the Goal nor its evidence nor an open resource rests on, or the summary
    before it. -/
theorem log_keeps_facts (hrun : (conversation_system rules).run s ls = .ok s') :
    FactsKept rules s s' ls := by
  refine ⟨?_, ?_⟩
  · induction ls generalizing s with
    | nil =>
      obtain rfl := System.run_nil.mp hrun
      rw [List.flatMap_nil, facts_outside_nil]
    | cons l ls ih =>
      obtain ⟨t, ht, hrest⟩ := System.run_cons.mp hrun
      have hstep : (facts_outside l.compacted_ids s.val.facts).Sublist t.val.facts :=
        log_step_keeps_facts ht
      rw [List.flatMap_cons, facts_outside_append]
      exact (facts_outside_sublist hstep).trans (ih hrest)
  · intro before summary removable_fact_ids source_scope after u hls hbefore
    rw [hls] at hrun
    obtain ⟨v, hv, hrest⟩ := System.run_append.mp hrun
    obtain rfl := ok_eq_ok.mp (hbefore.symm.trans hv)
    obtain ⟨t, ht, _⟩ := System.run_cons.mp hrest
    obtain ⟨turns, ids, _, _, hremovable, _⟩ := apply_compaction_summary_ok ht
    exact ⟨turns, ids, hremovable⟩

end Steps

/-- A Goal that is paused and cancelled leaves the log as it is. -/
theorem cancelled_goal_facts : ∃ s',
    (conversation_system .silent).run revised_state
      [.pause_goal "goal" 2, .cancel_goal "goal" 2] = .ok s' ∧
    s'.val.facts = [request_fact, confirmed_fact] ∧
    FactsKept .silent revised_state s' [.pause_goal "goal" 2, .cancel_goal "goal" 2] := by
  have hruns : succeeds ((conversation_system .silent).run revised_state
      [.pause_goal "goal" 2, .cancel_goal "goal" 2])
      (fun s => s.val.facts = [request_fact, confirmed_fact]) = true := by
    decide +kernel
  obtain ⟨s', hrun, hfacts⟩ := succeeds_iff.mp hruns
  exact ⟨s', hrun, of_decide_eq_true hfacts, log_keeps_facts hrun⟩
