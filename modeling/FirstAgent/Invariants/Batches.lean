import FirstAgent.Framework.BatchLog
import FirstAgent.Invariants.RunSteps

/-! # Tool Batches Are Closed

    The fact log is a request log: batches are announced, their calls are
    answered right behind them, and the batch of the active run is the live
    one.  A run that is dropped answers its unstarted calls in the same step,
    except where a plain message discards a run that awaits approval. -/

open Fallible BatchLog

/-! ### The log of a conversation -/

/-- A fact as an entry of the request log. -/
def log_entry (f : ConversationFact) : Entry String :=
  match f.val.kind with
  | .tool_calls  => match f.batch_call_ids with
    | some ids => .batch ids
    | none     => .malformed
  | .tool_result => match f.result_call_id with
    | some call_id => .result call_id
    | none         => .malformed
  | _            => .note

/-- The batch a run holds. -/
def RunCore.live (r : RunCore) : Option (Live String) :=
  if r.tool_calls = [] then none else some ⟨r.call_ids, r.batch_cursor⟩

def RunLog.live (s : RunLog) : Option (Live String) := s.core.bind RunCore.live

/-- Every batch is answered, the live one up to the cursor. -/
def RunLog.sound (s : RunLog) : Prop := Sound s.live (s.facts.map log_entry)

section Entries

variable {f : ConversationFact}

theorem log_entry_batch {ids : List String} :
    log_entry f = .batch ids ↔ f.val.kind = .tool_calls ∧ f.batch_call_ids = some ids := by
  unfold log_entry
  cases hkind : f.val.kind <;> simp
  case tool_calls => cases f.batch_call_ids <;> simp
  case tool_result => cases f.result_call_id <;> simp

theorem log_entry_result {call_id : String} :
    log_entry f = .result call_id ↔ f.result_call_id = some call_id := by
  unfold log_entry
  cases hkind : f.val.kind
  case tool_calls =>
    cases f.batch_call_ids <;> simp [ConversationFact.result_call_id, hkind]
  case tool_result => cases f.result_call_id <;> simp
  all_goals simp [ConversationFact.result_call_id, hkind]

theorem log_entry_note (h : f.is_note) : log_entry f = .note := by
  unfold log_entry
  obtain ⟨hcalls, hresult⟩ := h
  cases hkind : f.val.kind <;> simp_all

theorem notes_entries {notes : List ConversationFact} (h : ∀ f ∈ notes, f.is_note) :
    Notes (notes.map log_entry) := by
  intro e he
  obtain ⟨f, hf, rfl⟩ := List.mem_map.mp he
  exact log_entry_note (h f hf)

/-- Facts that answer calls are their results. -/
theorem answers_entries {facts : List ConversationFact} {calls : List ToolCall}
    (h : Answers facts calls) :
    facts.map log_entry = (calls.map fun c => c.val.tool_call_id).map .result := by
  induction facts generalizing calls with
  | nil =>
    have : calls = [] := by simpa [Answers] using h.symm
    simp [this]
  | cons f facts ih =>
    cases calls with
    | nil => simp [Answers] at h
    | cons c calls =>
      simp only [Answers, List.map_cons, List.cons.injEq] at h
      rw [List.map_cons, ih h.2, log_entry_result.mpr h.1]
      rfl

end Entries

/-! ### One change keeps the log sound -/

/-- The steps under which a change keeps the log sound. -/
structure KeepsBatches (l : Transition) (discards : Bool) (live : Option (Live String)) :
    Prop where
  no_compaction : l.compacts = false
  no_policy : l.appends_policy = true → live = none
  no_overwrite : l.starts_operator_tool = true → live = none
  no_discard : l.submits = true → discards = false

theorem RunChange.sound {l : Transition} {discards : Bool} {s s' : RunLog}
    (h : RunChange l discards s s') (hs : s.sound)
    (hl : KeepsBatches l discards s.live) : s'.sound := by
  unfold RunLog.sound RunLog.live at *
  cases h with
  | note notes hnotes hfacts hcore hlabel =>
    rw [hfacts, hcore, List.map_append]
    rcases hlabel with rfl | hnone | hpolicy
    · simpa using hs
    · rw [hnone] at hs ⊢
      exact Sound.note hs (notes_entries hnotes)
    · rw [hl.no_policy hpolicy] at hs ⊢
      exact Sound.note hs (notes_entries hnotes)
  | fresh notes hnotes hfacts hnone hcore =>
    rw [hnone] at hs
    rw [hfacts, hcore, List.map_append]
    exact Sound.note hs (notes_entries hnotes)
  | begin_call core i hfacts hbefore _ hcore =>
    rw [hbefore] at hs
    rw [hfacts, hcore]
    exact hs
  | respond core r hfacts hbefore _ hcore =>
    rw [hbefore] at hs
    rw [hfacts, hcore]
    exact hs
  | reject core hfacts hbefore hcore =>
    rw [hbefore] at hs
    rw [hfacts, hcore]
    exact hs
  | consume core hfacts hbefore _ _ hcore =>
    rw [hbefore] at hs
    rw [hfacts, hcore]
    exact hs
  | start core calls batch hannounces hcalls hfacts hbefore _ _ _ hlabel hcore =>
    have hnone : s.core.bind RunCore.live = none := by
      rcases hlabel with hidle | hbare
      · simp [hbefore, RunCore.live, hidle]
      · exact hl.no_overwrite hbare
    rw [hnone] at hs
    rw [hfacts, hcore, List.map_append, List.map_singleton, log_entry_batch.mpr hannounces]
    simp only [Option.bind_some, RunCore.live, hcalls, if_false]
    exact Sound.start hs (by simpa [RunCore.call_ids] using hcalls)
  | mark core i hfacts hbefore _ _ _ hcore =>
    rw [hbefore] at hs
    rw [hfacts, hcore]
    exact hs
  | answer core call result hresult hfacts hbefore hcall _ hcore =>
    have hne : core.tool_calls ≠ [] := by
      intro hnil
      simp [hnil] at hcall
    have hid : core.call_ids[core.batch_cursor]? = some call.val.tool_call_id := by
      simp [RunCore.call_ids, hcall]
    have hlen : core.call_ids.length = core.tool_calls.length := by simp [RunCore.call_ids]
    rw [hbefore] at hs
    simp only [Option.bind_some, RunCore.live, hne, if_false] at hs
    rw [hfacts, hcore, List.map_append, answers_entries hresult]
    simp only [Option.bind_some, RunCore.live, RunCore.advance, RunCore.has_more]
    by_cases hmore : core.batch_cursor + 1 < core.tool_calls.length
    · simp only [hmore, decide_true, if_true, hne, if_false]
      exact hs.answer hid (by simpa [hlen] using hmore)
    · simp only [hmore, decide_false, Bool.false_eq_true, if_false, if_true]
      exact hs.answer_last hid (by simp only [hlen]; omega)
  | close core suffix notes hsuffix hnotes hfacts hbefore _ _ hcore =>
    have hnone : s'.core.bind RunCore.live = none := by
      rcases hcore with hcore | hcore <;> rw [hcore] <;> rfl
    rw [hnone, hfacts, List.map_append, List.map_append, answers_entries hsuffix, List.map_drop]
    rw [hbefore] at hs
    refine Sound.note ?_ (notes_entries hnotes)
    by_cases hne : core.tool_calls = []
    · simp only [Option.bind_some, RunCore.live, hne, if_true] at hs
      simpa [hne] using hs
    · simp only [Option.bind_some, RunCore.live, hne, if_false] at hs
      exact hs.close
  | discard core notes _ _ _ _ _ hsubmits hdiscards _ =>
    rw [hl.no_discard hsubmits] at hdiscards
    cases hdiscards
  | compact hcompacts _ =>
    rw [hl.no_compaction] at hcompacts
    cases hcompacts

/-! ### A sound log needs no healing -/

section Healing

variable {action_seq : Int} {live reserved : List String}

/-- Every batch is answered or belongs to the live calls. -/
def Settled (live : List String) (facts : List ConversationFact) : Prop :=
  ∀ pre ids post, facts.map log_entry = pre ++ .batch ids :: post →
    leading post = ids ∨ ∃ i ∈ ids, i ∈ live

theorem Settled.tail {f : ConversationFact} {facts : List ConversationFact}
    (h : Settled live (f :: facts)) : Settled live facts :=
  fun pre ids post hsplit => h (log_entry f :: pre) ids post (by simp [hsplit])

/-- Results that answer expected calls, each once, are all covering. -/
theorem covering_results_leading (expected covered : List String)
    {facts : List ConversationFact} (hsub : leading (facts.map log_entry) ⊆ expected)
    (hnodup : (leading (facts.map log_entry)).Nodup)
    (hfresh : ∀ i ∈ leading (facts.map log_entry), i ∉ covered) :
    ∀ i ∈ leading (facts.map log_entry),
      some i ∈ (covering_results expected covered facts).map ConversationFact.result_call_id := by
  induction facts generalizing covered with
  | nil => simp [leading]
  | cons f facts ih =>
    intro i hi
    rw [List.map_cons] at hi hsub hnodup hfresh
    cases hentry : log_entry f <;> simp only [hentry, leading] at hi hsub hnodup hfresh
    case result call_id =>
      have hid := log_entry_result.mp hentry
      rw [List.nodup_cons] at hnodup
      have hcovers : call_id ∈ expected ∧ call_id ∉ covered :=
        ⟨hsub List.mem_cons_self, hfresh call_id List.mem_cons_self⟩
      simp only [covering_results, hid, hcovers, if_true, not_false_eq_true, and_self,
        List.map_cons]
      rcases List.mem_cons.mp hi with rfl | hi
      · exact List.mem_cons_self
      · refine List.mem_cons_of_mem _ (ih _ (fun j hj => hsub (List.mem_cons_of_mem _ hj)) hnodup.2
          ?_ i hi)
        intro j hj hmem
        rcases List.mem_cons.mp hmem with rfl | hmem
        · exact hnodup.1 hj
        · exact hfresh j (List.mem_cons_of_mem _ hj) hmem
    all_goals cases hi

/-- A settled batch gets no results. -/
theorem close_batch_settled (action_seq : Int) (reserved : List String)
    {f : ConversationFact} {facts : List ConversationFact}
    (hkind : f.val.kind = .tool_calls) (h : Settled live (f :: facts)) :
    ∃ n, close_batch action_seq live reserved f facts = .ok (some (n, [], reserved)) := by
  unfold close_batch
  cases hids : f.batch_call_ids with
  | none => exact ⟨0, rfl⟩
  | some expected =>
    dsimp only
    split
    · exact ⟨0, rfl⟩
    next hlive =>
    obtain ⟨_, hnodup⟩ := ConversationFact.batch_call_ids_valid hids
    have hleading : leading (facts.map log_entry) = expected := by
      rcases h [] expected (facts.map log_entry) (by
        rw [List.map_cons, log_entry_batch.mpr ⟨hkind, hids⟩]
        rfl) with hleading | ⟨i, hi, hmem⟩
      · exact hleading
      · exact absurd (List.any_eq_true.mpr ⟨i, hi, by simpa using hmem⟩) hlive
    have hcovered := covering_results_leading expected [] (fun _ hi => hleading ▸ hi)
      (by rwa [hleading]) (by simp)
    rw [hleading] at hcovered
    have hmissing : (expected.filter fun i =>
        some i ∉ (covering_results expected [] facts).map ConversationFact.result_call_id) = [] := by
      rw [List.filter_eq_nil_iff]
      intro i hi
      simpa using hcovered i hi
    rw [if_pos hmissing]
    exact ⟨_, rfl⟩

/-- Settled facts are left as they are. -/
theorem close_batches_settled {facts : List ConversationFact} (h : Settled live facts)
    (skip : Nat) : close_batches action_seq live skip [] reserved facts = .ok (some facts) := by
  induction facts generalizing skip with
  | nil => cases skip <;> rfl
  | cons f facts ih =>
    cases skip with
    | succ skip =>
      rw [close_batches, ih h.tail skip]
      rfl
    | zero =>
      rw [close_batches]
      split
      · next hkind =>
        obtain ⟨n, hn⟩ := close_batch_settled action_seq reserved hkind h
        rw [hn]
        simp only [bind, Except.bind]
        rw [ih h.tail n]
        rfl
      · rw [ih h.tail 0]
        rfl

variable {s t : ConversationState}

theorem live_call_ids_eq (s : ConversationState) :
    live_call_ids s = (s.run_log.live.map Live.ids).getD [] := by
  unfold live_call_ids RunLog.live ConversationState.run_log
  cases s.val.active_run with
  | none => rfl
  | some active =>
    simp only [Option.map_some, Option.bind_some, RunCore.live, RunCore.call_ids,
      ActiveRunFields.core, ActiveRunFields.call_ids]
    split
    · next hnil => simp [hnil]
    · rfl

theorem sound_settled (h : s.run_log.sound) : Settled (live_call_ids s) s.val.facts := by
  intro pre ids post hsplit
  rcases Sound.at_batch h hsplit with hleading | ⟨l, hlive, rfl, _⟩
  · exact .inl hleading
  · right
    have hlen : l.cursor < l.ids.length := by
      rw [RunLog.sound, hlive] at h
      exact h.1
    obtain ⟨i, hi⟩ := List.exists_mem_of_length_pos (l := l.ids) (by omega)
    exact ⟨i, hi, by simpa [live_call_ids_eq, hlive] using hi⟩

/-- The orphan check passes on a sound log and changes nothing. -/
theorem close_orphaned_of_sound (h : s.run_log.sound) (action_seq : Int) :
    close_orphaned_tool_batches s action_seq (live_call_ids s) = .ok (some s) := by
  unfold close_orphaned_tool_batches
  rw [close_batches_settled (sound_settled h)]
  simp [bind, Except.bind, pure, Except.pure]

theorem Heals.eq_of_sound (h : Heals s t) (hs : s.run_log.sound) : t = s := by
  rcases h with rfl | ⟨action_seq, h⟩
  · rfl
  · rw [close_orphaned_of_sound hs action_seq] at h
    exact (Option.some.inj (Except.ok.inj h)).symm

end Healing

/-! ### No action is refused for an orphan -/

section Refusals

variable {rules : TextRules} {s : ConversationState} {clock : String} {action : RuntimeAction}
  {max_replay_records : Int} {now : Option String} {t : ActionTransition}

def unprovable_tool_batch_outcome : String := "unprovable_tool_batch_outcome"

theorem action_is_legal_reason {body : ActionBody} :
    action_is_legal s body ≠ .error unprovable_tool_batch_outcome := by
  intro h
  cases body <;>
    simp [action_is_legal, run_action_is_legal, submit_message_is_legal, resolve_approval_is_legal,
      resolve_unknown_is_legal, recover_observation_is_legal, abandon_is_legal, resume_is_legal,
      cancel_run_is_legal, consent_is_legal, goal_control_is_legal, confirm_criterion_is_legal,
      takeover_is_legal, operator_tool_is_legal, bind_eq_error, refuse_eq_error, expect_eq_error,
      unprovable_tool_batch_outcome] at h

/-- Where the orphan check passes, nothing is refused for an orphan. -/
theorem accept_action_reason
    (hclosed : close_orphaned_tool_batches s action.action_seq (live_call_ids s) = .ok (some s))
    (h : accept_action rules clock s action max_replay_records now = .ok t) :
    t.reason ≠ some unprovable_tool_batch_outcome := by
  unfold accept_action at h
  split at h
  · obtain rfl := pure_eq_ok.mp h
    simp [conflict, unprovable_tool_batch_outcome]
  split at h
  · obtain rfl := pure_eq_ok.mp h
    simp [conflict, unprovable_tool_batch_outcome]
  split at h
  · split at h
    · obtain rfl := pure_eq_ok.mp h
      simp [conflict, unprovable_tool_batch_outcome]
    split at h
    · obtain rfl := pure_eq_ok.mp h
      simp [conflict, unprovable_tool_batch_outcome]
    · obtain rfl := pure_eq_ok.mp h
      simp
  split at h
  · obtain rfl := pure_eq_ok.mp h
    simp [conflict, unprovable_tool_batch_outcome]
  split at h
  · obtain rfl := pure_eq_ok.mp h
    simp [conflict, unprovable_tool_batch_outcome]
  split at h
  · obtain rfl := pure_eq_ok.mp h
    simp [conflict, unprovable_tool_batch_outcome]
  split at h
  · obtain rfl := pure_eq_ok.mp h
    simp [conflict, unprovable_tool_batch_outcome]
  split at h
  · next reason hillegal =>
    obtain rfl := pure_eq_ok.mp h
    simp only [conflict, ne_eq, Option.some.injEq]
    rintro rfl
    exact action_is_legal_reason hillegal
  · rw [accept_fresh, hclosed] at h
    simp only [bind_eq_ok, ok_eq_ok, exists_eq_left'] at h
    obtain ⟨recorded, _, h⟩ := h
    split at h
    · obtain rfl := pure_eq_ok.mp h
      simp [conflict, unprovable_tool_batch_outcome]
    · simp only [bind_eq_ok, pure_eq_ok] at h
      obtain ⟨_, _, _, _, rfl⟩ := h
      simp

end Refusals

/-! ### Runs -/

/-- The results directly behind a fact, by the calls they answer. -/
def results_behind (post : List ConversationFact) : List (Option String) :=
  (post.takeWhile fun f => f.val.kind = .tool_result).map ConversationFact.result_call_id

/-- The run is in the middle of a batch. -/
def has_live_batch (s : ConversationState) : Bool :=
  s.val.active_run.any fun r => r.val.tool_calls ≠ []

/-- Behind a batch stands exactly one result for each of its calls, in order;
    or the batch is the last one and the run's, and the results are those before
    the cursor. -/
def AnsweredBehind (s : ConversationState) (post : List ConversationFact) (ids : List String) :
    Prop :=
  results_behind post = ids.map some ∨ ∃ active, s.val.active_run = some active ∧
    active.val.tool_calls ≠ [] ∧ active.val.call_ids = ids ∧
    (∀ f ∈ post, f.val.kind ≠ .tool_calls) ∧
    results_behind post = (ids.take active.val.batch_cursor).map some

/-- Every batch is answered directly behind it, and the batch of a run is in
    the log. -/
structure BatchesClosed (s : ConversationState) : Prop where
  answered : ∀ pre batch post, s.val.facts = pre ++ batch :: post →
    batch.val.kind = .tool_calls →
    ∃ ids, batch.batch_call_ids = some ids ∧ AnsweredBehind s post ids
  live : ∀ active, s.val.active_run = some active → active.val.tool_calls ≠ [] →
    ∃ pre batch post, s.val.facts = pre ++ batch :: post ∧ batch.val.kind = .tool_calls ∧
      batch.batch_call_ids = some active.val.call_ids ∧
      (∀ f ∈ post, f.val.kind ≠ .tool_calls) ∧
      results_behind post = (active.val.call_ids.take active.val.batch_cursor).map some

/-- The steps that keep batches closed.  Besides compaction and policy results
    in the middle of a batch, two are left out: a message that discards a run
    that awaits approval, and a bare operator call in the middle of a batch. -/
structure ClosesBatches (s : ConversationState) (l : Transition) : Prop where
  no_compaction : l.compacts = false
  no_policy : l.appends_policy = true → has_live_batch s = false
  no_overwrite : l.starts_operator_tool = true → has_live_batch s = false
  no_discard : l.submits = true → message_discards s = false

instance {s : ConversationState} {l : Transition} : Decidable (ClosesBatches s l) :=
  decidable_of_iff
    (l.compacts = false ∧ (l.appends_policy = true → has_live_batch s = false) ∧
      (l.starts_operator_tool = true → has_live_batch s = false) ∧
      (l.submits = true → message_discards s = false))
    ⟨fun ⟨h₁, h₂, h₃, h₄⟩ => ⟨h₁, h₂, h₃, h₄⟩, fun ⟨h₁, h₂, h₃, h₄⟩ => ⟨h₁, h₂, h₃, h₄⟩⟩

section Runs

variable {rules : TextRules} {s s' : ConversationState} {l : Transition}

theorem live_none_of_has_live_batch (h : has_live_batch s = false) : s.run_log.live = none := by
  unfold RunLog.live ConversationState.run_log
  cases hactive : s.val.active_run with
  | none => rfl
  | some active =>
    simp only [has_live_batch, hactive, Option.any_some, ne_eq, decide_not,
      Bool.not_eq_eq_eq_not, Bool.not_false, decide_eq_true_eq] at h
    simp [RunCore.live, ActiveRunFields.core, h]

/-- A step that closes batches keeps the log sound. -/
theorem sound_step (h : transition_step rules s l = .ok s') (hs : s.run_log.sound)
    (hl : ClosesBatches s l) : s'.run_log.sound := by
  obtain ⟨t, hheals, _, hchange⟩ := transition_run_change h
  obtain rfl := hheals.eq_of_sound hs
  refine hchange.sound hs {
    no_compaction := hl.no_compaction
    no_policy := fun h => live_none_of_has_live_batch (hl.no_policy h)
    no_overwrite := fun h => live_none_of_has_live_batch (hl.no_overwrite h)
    no_discard := hl.no_discard }

theorem results_behind_entries {post : List ConversationFact}
    (h : .malformed ∉ post.map log_entry) :
    results_behind post = (leading (post.map log_entry)).map some := by
  induction post with
  | nil => rfl
  | cons f post ih =>
    rw [List.map_cons, List.mem_cons, not_or] at h
    have ih := ih h.2
    unfold results_behind at ih ⊢
    by_cases hkind : f.val.kind = .tool_result
    · cases hid : f.result_call_id with
      | none =>
        refine absurd ?_ h.1
        simp [log_entry, hkind, hid]
      | some call_id =>
        rw [List.takeWhile_cons_of_pos (by simp [hkind]), List.map_cons, List.map_cons, ih, hid,
          log_entry_result.mpr hid]
        rfl
    · rw [List.takeWhile_cons_of_neg (by simp [hkind]), List.map_cons]
      cases hentry : log_entry f with
      | result call_id =>
        exact absurd (ConversationFact.result_call_id_eq_some.mp
          (log_entry_result.mp hentry)).1 hkind
      | _ => rfl

/-- The live batch is the run's. -/
theorem live_of_run {live : Live String} (h : s.run_log.live = some live) :
    ∃ active, s.val.active_run = some active ∧ active.val.tool_calls ≠ [] ∧
      live = ⟨active.val.call_ids, active.val.batch_cursor⟩ := by
  unfold RunLog.live ConversationState.run_log at h
  cases hactive : s.val.active_run with
  | none => simp [hactive] at h
  | some active =>
    simp only [hactive, Option.map_some, Option.bind_some, RunCore.live, ActiveRunFields.core,
      Option.ite_none_left_eq_some, Option.some.injEq] at h
    exact ⟨active, rfl, h.1, h.2.symm⟩

theorem run_of_live {active : ActiveRun} (hactive : s.val.active_run = some active)
    (hcalls : active.val.tool_calls ≠ []) :
    s.run_log.live = some ⟨active.val.call_ids, active.val.batch_cursor⟩ := by
  simp [RunLog.live, ConversationState.run_log, hactive, RunCore.live, ActiveRunFields.core,
    hcalls, RunCore.call_ids, ActiveRunFields.call_ids]

/-- Facts that are results, behind the live batch. -/
theorem results_of_entries {post : List ConversationFact} {ids : List String}
    (h : post.map log_entry = ids.map .result) :
    (∀ f ∈ post, f.val.kind ≠ .tool_calls) ∧ results_behind post = ids.map some := by
  constructor
  · intro f hf hkind
    have hmem : log_entry f ∈ ids.map Entry.result := h ▸ List.mem_map_of_mem hf
    obtain ⟨call_id, _, hentry⟩ := List.mem_map.mp hmem
    have := (ConversationFact.result_call_id_eq_some.mp (log_entry_result.mp hentry.symm)).1
    rw [hkind] at this
    cases this
  · rw [results_behind_entries (by simp [h]), h, leading_results]

/-- A sound log is closed in the terms of its facts. -/
theorem sound_closed (h : s.run_log.sound) : BatchesClosed s := by
  have hmalformed : .malformed ∉ s.val.facts.map log_entry := Sound.not_malformed h
  constructor
  · intro pre batch post hsplit hkind
    rw [hsplit, List.map_append, List.map_cons, List.mem_append, List.mem_cons, not_or,
      not_or] at hmalformed
    obtain ⟨_, hbatch, hpost⟩ := hmalformed
    cases hids : batch.batch_call_ids with
    | none =>
      refine absurd ?_ hbatch
      simp [log_entry, hkind, hids]
    | some ids =>
      refine ⟨ids, rfl, ?_⟩
      have hentries : s.run_log.facts.map log_entry =
          pre.map log_entry ++ .batch ids :: post.map log_entry := by
        rw [run_log_facts, hsplit, List.map_append, List.map_cons,
          log_entry_batch.mpr ⟨hkind, hids⟩]
      rcases Sound.at_batch h hentries with hleading | ⟨live, hlive, rfl, hresults⟩
      · left
        rw [results_behind_entries hpost, hleading]
      · right
        obtain ⟨active, hactive, hcalls, rfl⟩ := live_of_run hlive
        obtain ⟨hlast, hbehind⟩ := results_of_entries hresults
        exact ⟨active, hactive, hcalls, rfl, hlast, hbehind⟩
  · intro active hactive hcalls
    rw [RunLog.sound, run_of_live hactive hcalls] at h
    obtain ⟨_, front, _, hentries⟩ := h
    obtain ⟨pre, rest, hsplit, _, hrest⟩ := List.map_eq_append_iff.mp hentries
    obtain ⟨batch, post, rfl, hbatch, hpost⟩ := List.map_eq_cons_iff.mp hrest
    obtain ⟨hkind, hids⟩ := log_entry_batch.mp hbatch
    obtain ⟨hlast, hbehind⟩ := results_of_entries hpost
    exact ⟨pre, batch, post, hsplit, hkind, hids, hlast, hbehind⟩

theorem sound_of_new {conversation_id : String} {s₀ : ConversationState}
    {workspace : Option ConversationWorkspaceBindingV1}
    {background : Option BackgroundOccurrenceBindingV1}
    (h : ConversationState.new conversation_id workspace background = .ok s₀) :
    s₀.run_log.sound := by
  have hval := Checked.make_eq_ok.mp h
  simp [RunLog.sound, RunLog.live, ConversationState.run_log, hval, Sound, Answered]

/-- In every run whose steps close batches, every batch is closed in the state
    reached, and no action is refused there for an orphan. -/
theorem tool_batches_closed (rules : TextRules) {conversation_id : String}
    {workspace : Option ConversationWorkspaceBindingV1}
    {background : Option BackgroundOccurrenceBindingV1} {s₀ s : ConversationState}
    (hs₀ : ConversationState.new conversation_id workspace background = .ok s₀)
    {steps : List Transition} (hsteps : (conversation_system rules).Along ClosesBatches s₀ steps)
    (hrun : (conversation_system rules).run s₀ steps = .ok s) :
    BatchesClosed s ∧ ∀ clock action max_replay_records now t,
      accept_action rules clock s action max_replay_records now = .ok t →
      t.reason ≠ some unprovable_tool_batch_outcome := by
  have hsound : s.run_log.sound :=
    System.run_invariant_along (I := fun s => s.run_log.sound)
      (fun _ _ _ hs hl h => sound_step h hs hl) (sound_of_new hs₀) hsteps hrun
  exact ⟨sound_closed hsound, fun _ _ _ _ _ h =>
    accept_action_reason (close_orphaned_of_sound hsound _) h⟩

end Runs

/-! ### A message that orphans a batch -/

section Orphan

/-- A message to a conversation. -/
def message_action (action_seq expected_revision : Int) (run_id : String) : RuntimeAction where
  conversation_id := "conversation"
  action_seq := action_seq
  expected_revision := expected_revision
  body := .submit_message run_id "hello"

def submit_step (action_seq expected_revision : Int) (run_id : String) : Transition :=
  .accept_action "" (message_action action_seq expected_revision run_id) 64 none

def write_call : ToolCall :=
  ⟨{ tool_call_id := "call-1", name := "write_file", arguments := JsonDict.of [] }, by decide⟩

def write_request : ApprovalRequest :=
  ⟨{ request_id := "request-1", run_id := "run-1", tool_call_id := "call-1"
     binding_digest := "digest", preview := "write a file" }, by decide⟩

/-- A batch is started and awaits approval. -/
def awaiting_steps : List Transition := [
  submit_step 1 0 "run-1", .claim_run "invocation", .start_tool_batch [write_call] none none,
  .pause_for_approval write_request]

/-- The batch is closed up to its first call. -/
theorem awaiting_batch_closed : ∃ s,
    (conversation_system .silent).run .fresh awaiting_steps = .ok s ∧ BatchesClosed s := by
  have hruns : succeeds ((conversation_system .silent).run .fresh awaiting_steps)
      (fun _ => true) = true := by decide +kernel
  have halong : (conversation_system .silent).check_along (fun s l => ClosesBatches s l) .fresh
      awaiting_steps = true := by decide +kernel
  obtain ⟨s, hs, _⟩ := succeeds_iff.mp hruns
  exact ⟨s, hs, (tool_batches_closed .silent ConversationState.new_fresh
    (System.along_of_check halong) hs).1⟩

/-- The next message discards the run. -/
def orphaning_steps : List Transition := awaiting_steps ++ [submit_step 2 4 "run-2"]

/-- A message to a run that awaits approval ends its batch without results. -/
theorem orphaned_batch : ∃ t s first batch last,
    (conversation_system .silent).run .fresh awaiting_steps = .ok t ∧ has_live_batch t = true ∧
    (conversation_system .silent).run t [submit_step 2 4 "run-2"] = .ok s ∧
    s.val.facts = [first, batch, last] ∧ first.val.kind = .user_message ∧
    batch.val.kind = .tool_calls ∧ last.val.kind = .user_message ∧ has_live_batch s = false ∧
    s.val.next_action_seq = 3 ∧
    close_orphaned_tool_batches s 3 (live_call_ids s) = .ok none ∧
    ∃ refused, accept_action .silent "" s {
        conversation_id := "conversation", action_seq := 3, expected_revision := 5
        body := .cancel_run } 64 none = .ok refused ∧
      refused.reason = some unprovable_tool_batch_outcome := by
  have hcheck : succeeds ((conversation_system .silent).run .fresh awaiting_steps) (fun t =>
      has_live_batch t &&
      succeeds ((conversation_system .silent).run t [submit_step 2 4 "run-2"]) fun s =>
        s.val.facts.map (fun f => f.val.kind) = [.user_message, .tool_calls, .user_message] &&
        !has_live_batch s && s.val.next_action_seq = 3 &&
        (succeeds (close_orphaned_tool_batches s 3 (live_call_ids s)) fun t => t.isNone) &&
        succeeds (accept_action .silent "" s {
            conversation_id := "conversation", action_seq := 3, expected_revision := 5
            body := .cancel_run } 64 none) fun refused =>
          refused.reason = some unprovable_tool_batch_outcome) = true := by
    decide +kernel
  obtain ⟨t, ht, h⟩ := succeeds_iff.mp hcheck
  obtain ⟨hlive, h⟩ := (Bool.and_eq_true _ _).mp h
  obtain ⟨s, hs, h⟩ := succeeds_iff.mp h
  simp only [Bool.and_eq_true, decide_eq_true_eq, Bool.not_eq_true'] at h
  obtain ⟨⟨⟨⟨hkinds, hidle⟩, hseq⟩, hopen⟩, hnext⟩ := h
  obtain ⟨found, hfound, hnone⟩ := succeeds_iff.mp hopen
  obtain ⟨refused, hrefused, hreason⟩ := succeeds_iff.mp hnext
  obtain ⟨first, rest, hfacts, hfirst, hrest⟩ := List.map_eq_cons_iff.mp hkinds
  obtain ⟨batch, rest, rfl, hbatch, hrest⟩ := List.map_eq_cons_iff.mp hrest
  obtain ⟨last, rest, rfl, hlast, hnil⟩ := List.map_eq_cons_iff.mp hrest
  obtain rfl := List.map_eq_nil_iff.mp hnil
  rw [Option.isNone_iff_eq_none.mp hnone] at hfound
  exact ⟨t, s, first, batch, last, ht, hlive, hs, hfacts, hfirst, hbatch, hlast, hidle, hseq,
    hfound, refused, hrefused, by simpa using hreason⟩

/-- Nothing but a message stands behind the orphaned batch. -/
theorem not_answered_behind {s : ConversationState} {last : ConversationFact} {ids : List String}
    (hids : ids ≠ []) (hlast : last.val.kind = .user_message) (hidle : has_live_batch s = false) :
    ¬ AnsweredBehind s [last] ids := by
  have hnone : results_behind [last] = [] := by simp [results_behind, hlast]
  rintro (hall | ⟨active, hactive, hcalls, _⟩)
  · rw [hnone, eq_comm, List.map_eq_nil_iff] at hall
    exact hids hall
  · simp [has_live_batch, hactive, hcalls] at hidle

/-- A plain message to a run that awaits approval leaves its batch without
    results, and no action is accepted any more. -/
theorem message_orphans_batch : ∃ s,
    (conversation_system .silent).run .fresh orphaning_steps = .ok s ∧ ¬ BatchesClosed s ∧
    (∀ clock action max_replay_records now t,
      accept_action .silent clock s action max_replay_records now = .ok t →
      t.disposition ≠ .accepted) ∧
    ∃ t, accept_action .silent "" s {
        conversation_id := "conversation", action_seq := 3, expected_revision := 5
        body := .cancel_run } 64 none = .ok t ∧
      t.reason = some unprovable_tool_batch_outcome := by
  obtain ⟨t, s, first, batch, last, ht, _, hs, hfacts, _, hbatch, hlast, hidle, hseq, hopen,
    hrefused⟩ := orphaned_batch
  refine ⟨s, System.run_append.mpr ⟨t, ht, hs⟩, fun hclosed => ?_, ?_, hrefused⟩
  · obtain ⟨ids, hids, hbehind⟩ := hclosed.answered [first] batch [last] hfacts hbatch
    exact not_answered_behind (ConversationFact.batch_call_ids_valid hids).1 hlast hidle hbehind
  · intro clock action max_replay_records now t ht haccepted
    rcases accept_action_ok ht with ⟨hd, _⟩ | ⟨hd, _⟩ | ⟨_, _, _, _, ha⟩
    · rw [haccepted] at hd
      cases hd
    · rw [haccepted] at hd
      cases hd
    · have := ha.heals
      rw [ha.next, hseq, hopen] at this
      cases this

end Orphan
