import FirstAgent.Framework.Streak
import FirstAgent.Invariants.RunSteps

/-! # What Healing Adds

    An accepted action first answers the calls of orphaned batches.  The log
    it continues with is the old log with superseded results put in: nothing
    is dropped or moved. -/

open Fallible

/-- A result of a call that never started. -/
structure IsSuperseded (f : ConversationFact) : Prop where
  kind : f.val.kind = .tool_result
  not_executed : f.val.content.get "executed" = .bool false
  known : f.val.content.get "unknown_outcome" = .null

theorem superseded_fact {fact_id call_id text : String} {origin : Option String}
    {f : ConversationFact} (h : superseded_tool_result_fact fact_id call_id text origin = .ok f) :
    IsSuperseded f := by
  have hf := Checked.make_eq_ok.mp h
  refine ⟨by rw [hf], ?_, ?_⟩
  all_goals
    rw [hf]
    dsimp only
    split <;> rw [JsonDict.get_of_nodup (by simp)] <;> simp [Json.lookup]

theorem healed_facts_superseded {action_seq : Int} {batch : ConversationFact}
    {reserved missing : List String} {healed : List ConversationFact × List String}
    (h : healed_facts action_seq batch reserved missing = .ok healed) :
    ∀ f ∈ healed.1, IsSuperseded f := by
  induction missing generalizing reserved healed with
  | nil =>
    obtain rfl := pure_eq_ok.mp h
    simp
  | cons call_id missing ih =>
    simp only [healed_facts, bind_eq_ok, pure_eq_ok] at h
    obtain ⟨fact, hfact, rest, hrest, rfl⟩ := h
    intro f hf
    rcases List.mem_cons.mp hf with rfl | hf
    · exact superseded_fact hfact
    · exact ih hrest f hf

theorem close_batch_superseded {action_seq : Int} {live reserved : List String}
    {batch : ConversationFact} {following : List ConversationFact} {covered : Nat}
    {healed : List ConversationFact} {reserved' : List String}
    (h : close_batch action_seq live reserved batch following =
      .ok (some (covered, healed, reserved'))) : ∀ f ∈ healed, IsSuperseded f := by
  unfold close_batch at h
  cases hids : batch.batch_call_ids with
  | none =>
    simp only [hids, pure_eq_ok, Option.some.injEq, Prod.mk.injEq] at h
    obtain ⟨_, rfl, _⟩ := h
    simp
  | some expected =>
    simp only [hids, ite_eq_ok, pure_eq_ok, bind_eq_ok, Option.some.injEq, Prod.mk.injEq,
      reduceCtorEq, and_false, false_or] at h
    rcases h with ⟨_, _, rfl, _⟩ | ⟨_, ⟨_, _, rfl, _⟩ | ⟨_, _, out, hout, _, h⟩⟩
    · simp
    · simp
    · obtain ⟨rfl, _⟩ : out.1 = healed ∧ out.2 = reserved' := by simpa [Prod.ext_iff] using h
      exact healed_facts_superseded hout

/-- Closing batches puts superseded results in. -/
theorem close_batches_pads {action_seq : Int} {live reserved : List String} {skip : Nat}
    {pending facts facts' : List ConversationFact} (hpending : ∀ f ∈ pending, IsSuperseded f)
    (h : close_batches action_seq live skip pending reserved facts = .ok (some facts')) :
    Padded IsSuperseded facts facts' := by
  induction facts generalizing skip pending reserved facts' with
  | nil =>
    obtain rfl : pending = facts' := by
      cases skip <;> simpa [close_batches, pure_eq_ok] using h
    exact .all hpending
  | cons f fs ih =>
    cases skip with
    | succ skip =>
      simp only [close_batches, bind_eq_ok, pure_eq_ok] at h
      obtain ⟨rest, hrest, h⟩ := h
      obtain ⟨fs', rfl, rfl⟩ := Option.map_eq_some_iff.mp h
      exact .keep f (ih hpending hrest)
    | zero =>
      simp only [close_batches, ite_eq_ok, bind_eq_ok, pure_eq_ok] at h
      obtain ⟨_, closed, hclosed, h⟩ | ⟨_, rest, hrest, h⟩ := h
      · cases closed with
        | none => cases pure_eq_ok.mp h
        | some closed =>
          simp only [bind_eq_ok, pure_eq_ok] at h
          obtain ⟨rest, hrest, h⟩ := h
          obtain ⟨fs', rfl, rfl⟩ := Option.map_eq_some_iff.mp h
          exact .front hpending (.keep f (ih (close_batch_superseded hclosed) hrest))
      · obtain ⟨fs', rfl, rfl⟩ := Option.map_eq_some_iff.mp h
        exact .front hpending (.keep f (ih (List.forall_mem_nil _) hrest))

/-- Healing pads the log. -/
theorem Heals.pads {s t : ConversationState} (h : Heals s t) :
    Padded IsSuperseded s.val.facts t.val.facts := by
  rcases h with rfl | ⟨_, h⟩
  · exact .refl _
  · obtain ⟨_, hclosed, h⟩ := close_orphaned_tool_batches_ok h
    rw [h]
    exact close_batches_pads (List.forall_mem_nil _) hclosed
