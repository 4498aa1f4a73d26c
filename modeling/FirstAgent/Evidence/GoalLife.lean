import FirstAgent.Evidence.Confirmation

/-! # The Life of a Goal

    A conversation gets its Goal once.  From then on the Goal keeps its id and
    its revision never falls; a finished revision keeps its status, so that
    only the next revision is open again; and a revision is verified by a
    verification of an executable Goal of that revision, and by nothing else.

    * **`goal_life`**: what a run makes of the Goal it starts with.

    Strategy: `GoalStep` says what one transition makes of a Goal, read off the
    ways a transition may change it (`GoalChange`).  Finished revisions compose
    because `Later` is transitive. -/

open Fallible

/-! ### Later Goals -/

/-- A later state of the same Goal. -/
structure GoalFrame.Later (goal goal' : GoalFrame) : Prop where
  same_goal : goal'.val.goal_id = goal.val.goal_id
  revision : goal.val.revision ≤ goal'.val.revision
  /-- A finished revision keeps its status. -/
  finished : goal'.val.revision = goal.val.revision → goal.val.status.is_terminal = true →
    goal'.val.status = goal.val.status

/-- What one transition makes of a Goal. -/
structure GoalStep (l : Transition) (goal goal' : GoalFrame) : Prop where
  later : goal.Later goal'
  bounded : goal'.val.revision ≤ goal.val.revision + 1
  verified : goal'.val.status = .verified_done →
    goal'.val.revision = goal.val.revision ∧ (goal.val.status = .verified_done ∨
      l = .verify_goal_completion ∧ goal.val.status.is_executable = true)

/-- Where a Goal was verified in a run: the Goal before it was executable. -/
def VerifiedIn (rules : TextRules) (s s' : ConversationState) (ls : List Transition)
    (goal' : GoalFrame) : Prop :=
  ∃ before after u u' goal, ls = before ++ .verify_goal_completion :: after ∧
    (conversation_system rules).run s before = .ok u ∧
    transition_step rules u .verify_goal_completion = .ok u' ∧
    (conversation_system rules).run u' after = .ok s' ∧ u.val.goal = some goal ∧
    goal.val.status.is_executable = true ∧ goal.val.revision = goal'.val.revision

/-- What a run makes of a Goal. -/
structure GoalLife (rules : TextRules) (s s' : ConversationState) (ls : List Transition)
    (goal goal' : GoalFrame) : Prop where
  later : goal.Later goal'
  bounded : goal'.val.revision ≤ goal.val.revision + ls.length
  verified : goal'.val.status = .verified_done →
    goal'.val.revision = goal.val.revision ∧ goal.val.status = .verified_done ∨
      VerifiedIn rules s s' ls goal'

section Steps

variable {rules : TextRules} {s s' : ConversationState} {l : Transition}
  {goal goal' goal'' : GoalFrame} {v v' : GoalLog}

theorem GoalFrame.Later.refl (goal : GoalFrame) : goal.Later goal :=
  ⟨rfl, Int.le_refl _, fun _ _ => rfl⟩

theorem GoalFrame.Later.trans (h : goal.Later goal') (h' : goal'.Later goal'') :
    goal.Later goal'' := by
  have hlow := h.revision
  have hhigh := h'.revision
  refine ⟨h'.same_goal.trans h.same_goal, by omega, ?_⟩
  intro hsame hterminal
  -- the revision between them is the same one
  have hfirst : goal'.val.revision = goal.val.revision := by omega
  have hsecond : goal''.val.revision = goal'.val.revision := by omega
  have hkept : goal'.val.status = goal.val.status := h.finished hfirst hterminal
  have hterminal' : goal'.val.status.is_terminal = true := by
    rw [hkept]
    exact hterminal
  exact (h'.finished hsecond hterminal').trans hkept

/-- A Goal that keeps its id, its revision and its status. -/
theorem goal_step_of_same (hid : goal'.val.goal_id = goal.val.goal_id)
    (hrevision : goal'.val.revision = goal.val.revision)
    (hstatus : goal'.val.status = goal.val.status) : GoalStep l goal goal' where
  later := ⟨hid, by omega, fun _ _ => hstatus⟩
  bounded := by omega
  verified := by
    intro hdone
    exact ⟨hrevision, .inl (by rw [← hstatus, hdone])⟩

theorem criterion_step_same (h : CriterionStep v v') (hgoal : v.goal = some goal) :
    ∃ goal', v'.goal = some goal' ∧ goal'.val.goal_id = goal.val.goal_id ∧
      goal'.val.revision = goal.val.revision ∧ goal'.val.status = goal.val.status := by
  cases h with
  | propose g g' _ hbefore hg hview | append g g' _ _ hbefore hg hview
  | supersede g g' _ _ _ _ _ hbefore hg hview =>
    obtain rfl := Option.some.inj (hgoal.symm.trans hbefore)
    exact ⟨g', by rw [hview], by rw [hg], by rw [hg], by rw [hg]⟩

/-- Admissions keep the Goal's id, revision and status. -/
theorem criterion_steps_same (h : Relation.ReflTransGen CriterionStep v v')
    (hgoal : v.goal = some goal) :
    ∃ goal', v'.goal = some goal' ∧ goal'.val.goal_id = goal.val.goal_id ∧
      goal'.val.revision = goal.val.revision ∧ goal'.val.status = goal.val.status := by
  induction h with
  | refl => exact ⟨goal, hgoal, rfl, rfl, rfl⟩
  | tail _ hstep ih =>
    obtain ⟨between, hbetween, hid, hrevision, hstatus⟩ := ih
    obtain ⟨goal', hgoal', hid', hrevision', hstatus'⟩ := criterion_step_same hstep hbetween
    exact ⟨goal', hgoal', hid'.trans hid, hrevision'.trans hrevision, hstatus'.trans hstatus⟩

/-- What a change of the view makes of a Goal that is there. -/
theorem GoalChange.goal_step (h : GoalChange l v v') (hgoal : v.goal = some goal) :
    ∃ goal', v'.goal = some goal' ∧ GoalStep l goal goal' := by
  cases h with
  | keep hview =>
    rw [hview]
    exact ⟨goal, hgoal, goal_step_of_same rfl rfl rfl⟩
  | install _ hnone =>
    rw [hgoal] at hnone
    cases hnone
  | restate g g' status _ _ _ hbefore hstatus hg hview =>
    obtain rfl := Option.some.inj (hgoal.symm.trans hbefore)
    refine ⟨g', by rw [hview], ?_⟩
    rcases hstatus with hsame | ⟨hopen, hunverified⟩
    · exact goal_step_of_same (by rw [hg]) (by rw [hg]) (by rw [hg]; exact hsame)
    · have hset : g'.val.status = status := by rw [hg]
      refine ⟨⟨by rw [hg], by rw [hg], ?_⟩, by rw [hg]; dsimp only; omega, ?_⟩
      · intro _ hterminal
        rw [hopen] at hterminal
        cases hterminal
      · intro hdone
        exact absurd (hset.symm.trans hdone) hunverified
  | revise g g' hbefore hid hrevision hopen _ hview =>
    obtain rfl := Option.some.inj (hgoal.symm.trans hbefore)
    refine ⟨g', by rw [hview], ⟨hid, by omega, by omega⟩, by omega, ?_⟩
    intro hdone
    rw [hdone] at hopen
    cases hopen
  | admit_criteria hsteps =>
    obtain ⟨g', hg', hid, hrevision, hstatus⟩ := criterion_steps_same hsteps hgoal
    exact ⟨g', hg', goal_step_of_same hid hrevision hstatus⟩
  | admit_web _ _ g g' _ _ _ hbefore _ hg hview =>
    obtain rfl := Option.some.inj (hgoal.symm.trans hbefore)
    exact ⟨g', by rw [hview], goal_step_of_same (by rw [hg]) (by rw [hg]) (by rw [hg])⟩
  | confirm g _ _ _ _ hview =>
    rw [hview]
    exact ⟨goal, hgoal, goal_step_of_same rfl rfl rfl⟩
  | record _ _ hview =>
    rw [hview]
    exact ⟨goal, hgoal, goal_step_of_same rfl rfl rfl⟩
  | verify g g' hlabel hbefore hexecutable hg hview =>
    obtain rfl := Option.some.inj (hgoal.symm.trans hbefore)
    refine ⟨g', by rw [hview], ⟨by rw [hg], by rw [hg], ?_⟩, by rw [hg]; dsimp only; omega, ?_⟩
    · -- a Goal that can be verified is not finished
      intro _ hterminal
      rcases GoalStatus.is_terminal_iff.mp hterminal with hdone | hcancelled
      · rw [hdone] at hexecutable
        cases hexecutable
      · rw [hcancelled] at hexecutable
        cases hexecutable
    · intro _
      exact ⟨by rw [hg], .inr ⟨hlabel, hexecutable⟩⟩

theorem transition_goal_step (h : transition_step rules s l = .ok s')
    (hgoal : s.val.goal = some goal) :
    ∃ goal', s'.val.goal = some goal' ∧ GoalStep l goal goal' :=
  (transition_goal_change h).goal_step hgoal

end Steps

/-! ### Whole runs -/

section Runs

variable {rules : TextRules} {s t s' : ConversationState} {l : Transition} {ls : List Transition}
  {goal goal₁ goal' : GoalFrame}

/-- A verification in the rest of a run is one in the run. -/
theorem VerifiedIn.cons (ht : transition_step rules s l = .ok t)
    (h : VerifiedIn rules t s' ls goal') : VerifiedIn rules s s' (l :: ls) goal' := by
  obtain ⟨before, after, u, u', g, hls, hbefore, hstep, hafter, hrest⟩ := h
  refine ⟨l :: before, after, u, u', g, by rw [hls]; rfl, ?_, hstep, hafter, hrest⟩
  exact System.run_cons.mpr ⟨t, ht, hbefore⟩

/-- A step in front of a life. -/
theorem GoalLife.cons (ht : transition_step rules s l = .ok t) (hgoal : s.val.goal = some goal)
    (hrun : (conversation_system rules).run t ls = .ok s') (hstep : GoalStep l goal goal₁)
    (h : GoalLife rules t s' ls goal₁ goal') : GoalLife rules s s' (l :: ls) goal goal' where
  later := hstep.later.trans h.later
  bounded := by
    have hfirst := hstep.bounded
    have hrest := h.bounded
    rw [List.length_cons]
    omega
  verified := by
    intro hdone
    rcases h.verified hdone with ⟨hrevision, hdone₁⟩ | hlater
    · obtain ⟨hsame, hbefore | ⟨hlabel, hexecutable⟩⟩ := hstep.verified hdone₁
      · exact .inl ⟨hrevision.trans hsame, hbefore⟩
      · subst hlabel
        refine .inr ⟨[], ls, s, t, goal, rfl, System.run_nil.mpr rfl, ht, hrun, hgoal,
          hexecutable, ?_⟩
        rw [hrevision, hsame]
    · exact .inr (hlater.cons ht)

/-- **The life of a Goal**: whatever transitions a conversation takes, its Goal
    keeps its id, no transition raises the revision by more than one and none
    lowers it, a finished revision keeps its status, and a verified revision
    was verified before the run or by a verification in it, of an executable
    Goal of this revision. -/
theorem goal_life (hrun : (conversation_system rules).run s ls = .ok s')
    (hgoal : s.val.goal = some goal) :
    ∃ goal', s'.val.goal = some goal' ∧ GoalLife rules s s' ls goal goal' := by
  induction ls generalizing s goal with
  | nil =>
    obtain rfl := System.run_nil.mp hrun
    refine ⟨goal, hgoal, .refl goal, by simp, ?_⟩
    intro hdone
    exact .inl ⟨rfl, hdone⟩
  | cons l ls ih =>
    obtain ⟨t, ht, hrest⟩ := System.run_cons.mp hrun
    obtain ⟨goal₁, hgoal₁, hstep⟩ := transition_goal_step ht hgoal
    obtain ⟨goal', hgoal', hlife⟩ := ih hrest hgoal₁
    exact ⟨goal', hgoal', hlife.cons ht hgoal hrest hstep⟩

end Runs

/-- A Goal that is paused and then cancelled is finished at its revision. -/
theorem cancelled_goal_life : ∃ s' goal',
    (conversation_system .silent).run revised_state
      [.pause_goal "goal" 2, .cancel_goal "goal" 2] = .ok s' ∧
    s'.val.goal = some goal' ∧ goal'.val.status = .cancelled ∧
    GoalLife .silent revised_state s' [.pause_goal "goal" 2, .cancel_goal "goal" 2]
      revised_goal goal' := by
  have hruns : succeeds ((conversation_system .silent).run revised_state
      [.pause_goal "goal" 2, .cancel_goal "goal" 2])
      (fun s => s.val.goal.any fun g => g.val.status = .cancelled) = true := by
    decide +kernel
  obtain ⟨s', hrun, hcancelled⟩ := succeeds_iff.mp hruns
  have hgoal : revised_state.val.goal = some revised_goal := rfl
  obtain ⟨goal', hgoal', hlife⟩ := goal_life hrun hgoal
  refine ⟨s', goal', hrun, hgoal', ?_, hlife⟩
  rw [hgoal'] at hcancelled
  simpa using hcancelled
