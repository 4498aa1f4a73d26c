import FirstAgent.Invariants.Batches

/-! # Unknown Effects Are Kept and No Call Executes Twice

    Once a call is marked as executing, its intent stays with the run until a
    step resolves it.  The ids marked during one batch therefore sit at
    different places of the batch, each before the cursor or at it. -/

open Fallible

/-! ### The executing intent -/

/-- The run executes `i` as the call at `cursor` of the batch `ids`. -/
def RunLog.executes (s : RunLog) (i : ExecutingIntentRecord) (ids : List String) (cursor : Nat) :
    Prop :=
  ∃ core, s.core = some core ∧ core.executing_intent = some i ∧ core.call_ids = ids ∧
    core.batch_cursor = cursor ∧ ids[cursor]? = some i.val.tool_call_id

/-- The call at `cursor` is answered with one result and nothing executes. -/
def RunLog.resolved (s : RunLog) (i : ExecutingIntentRecord) (cursor : Nat) : Prop :=
  ∃ core front result, s.core = some core ∧ core.executing_intent = none ∧
    core.batch_cursor = cursor + 1 ∧ s.facts = front ++ [result] ∧
    result.result_call_id = some i.val.tool_call_id

section Intent

variable {rules : TextRules} {l : Transition} {discards : Bool} {s s' : RunLog}
  {i : ExecutingIntentRecord} {ids : List String} {cursor : Nat}

/-- The intent moves along with a core that keeps the batch. -/
theorem RunLog.executes.keep {core core' : RunCore} (h : s.executes i ids cursor)
    (hbefore : s.core = some core) (hcore : s'.core = some core')
    (hintent : core'.executing_intent = core.executing_intent)
    (hcalls : core'.tool_calls = core.tool_calls)
    (hcursor : core'.batch_cursor = core.batch_cursor) : s'.executes i ids cursor := by
  obtain ⟨_, hheld, hi, hids, hat, hcall⟩ := h
  obtain rfl := Option.some.inj (hbefore.symm.trans hheld)
  exact ⟨core', hcore, hintent.trans hi, by rw [← hids, RunCore.call_ids, hcalls, RunCore.call_ids],
    hcursor.trans hat, hcall⟩

/-- A change keeps the executing intent or resolves it. -/
theorem RunChange.executes (h : RunChange l discards s s') (hs : s.executes i ids cursor) :
    s'.executes i ids cursor ∨ l.resolves i = true ∧ s'.resolved i cursor := by
  have held := hs
  obtain ⟨core, hheld, hi, hids, hat, hcall⟩ := hs
  have hbusy : ∀ c, s.core = some c → c.executing_intent ≠ none := by
    intro c hc
    obtain rfl := Option.some.inj (hheld.symm.trans hc)
    simp [hi]
  cases h with
  | note notes _ _ hcore _ => exact .inl (held.keep hheld (hcore.trans hheld) rfl rfl rfl)
  | fresh notes _ _ hnone _ =>
    rw [hnone] at hheld
    cases hheld
  | begin_call core i _ hbefore _ hcore => exact .inl (held.keep hbefore hcore rfl rfl rfl)
  | respond core r _ hbefore _ hcore => exact .inl (held.keep hbefore hcore rfl rfl rfl)
  | reject core _ hbefore hcore => exact .inl (held.keep hbefore hcore rfl rfl rfl)
  | consume core _ hbefore _ _ hcore => exact .inl (held.keep hbefore hcore rfl rfl rfl)
  | start core calls batch _ _ _ hbefore hintent _ _ _ _ =>
    exact absurd hintent (hbusy core hbefore)
  | mark core j _ hbefore hidle _ _ _ => exact absurd hidle (hbusy core hbefore)
  | answer core call result hresult hfacts hbefore hat' hlabel hcore =>
    obtain rfl := Option.some.inj (hbefore.symm.trans hheld)
    refine .inr ⟨hlabel i hi, core.advance, s.facts, result, hcore, rfl,
      by rw [← hat]; rfl, hfacts, ?_⟩
    have hid : core.call_ids[core.batch_cursor]? = some call.val.tool_call_id := by
      simp [RunCore.call_ids, hat']
    rw [hids, hat, hcall] at hid
    rw [Option.some.inj hid]
    simpa [Answers] using hresult
  | close core suffix notes _ _ _ hbefore hknown _ _ => exact absurd hknown (hbusy core hbefore)
  | discard core notes _ _ hbefore hknown _ _ _ _ => exact absurd hknown (hbusy core hbefore)
  | compact _ hcore => exact .inl (held.keep hheld (hcore.trans hheld) rfl rfl rfl)

end Intent

/-! ### The calls marked during a batch -/

/-- Of the batch `ids`, exactly `marked` have begun to execute: each once, and
    while the run holds the batch, none behind the cursor. -/
structure MarkedOf (ids marked : List String) (core : Option RunCore) : Prop where
  once : marked.Nodup
  started : ∀ c, core = some c → c.tool_calls ≠ [] → c.call_ids = ids ∧
    marked ⊆ ids.take (if c.executing_intent = none then c.batch_cursor else c.batch_cursor + 1)

section Marks

variable {rules : TextRules} {l : Transition} {discards : Bool} {s s' : RunLog}
  {ids marked : List String}

/-- A core without calls has no batch to mark. -/
theorem MarkedOf.idle {core : Option RunCore} (hmarked : marked.Nodup)
    (h : ∀ c, core = some c → c.tool_calls = []) : MarkedOf ids marked core :=
  ⟨hmarked, fun c hc hne => absurd (h c hc) hne⟩

theorem MarkedOf.keep {core core' : RunCore} (h : MarkedOf ids marked (some core))
    (hintent : core'.executing_intent = core.executing_intent)
    (hcalls : core'.tool_calls = core.tool_calls)
    (hcursor : core'.batch_cursor = core.batch_cursor) : MarkedOf ids marked (some core') := by
  refine ⟨h.once, fun c hc hne => ?_⟩
  obtain rfl := Option.some.inj hc
  rw [hcalls] at hne
  rw [RunCore.call_ids, hcalls, hintent, hcursor]
  exact h.started core rfl hne

/-- A call is marked for the first time: it is the one at the cursor. -/
theorem MarkedOf.mark {core : RunCore} {i : ExecutingIntentRecord}
    (h : MarkedOf ids marked (some core)) (hnodup : ids.Nodup)
    (hidle : core.executing_intent = none)
    (hcall : core.call_ids[core.batch_cursor]? = some i.val.tool_call_id) :
    MarkedOf ids (marked ++ [i.val.tool_call_id])
      (some { core with executing_intent := some i }) := by
  have hne : core.tool_calls ≠ [] := by
    intro hnil
    simp [RunCore.call_ids, hnil] at hcall
  obtain ⟨hids, hbefore⟩ := h.started core rfl hne
  simp only [hidle, if_true] at hbefore
  rw [hids] at hcall
  obtain ⟨hlt, hat⟩ := List.getElem?_eq_some_iff.mp hcall
  have hnew : i.val.tool_call_id ∉ ids.take core.batch_cursor := by
    intro hmem
    obtain ⟨j, hj, hjat⟩ := List.mem_take_iff_getElem.mp hmem
    have := (List.getElem_inj hnodup).mp (hjat.trans hat.symm)
    omega
  constructor
  · rw [List.nodup_append]
    refine ⟨h.once, by simp, ?_⟩
    intro a ha b hb hab
    rw [List.mem_singleton.mp hb] at hab
    exact hnew (hab ▸ hbefore ha)
  · intro c hc _
    obtain rfl := Option.some.inj hc
    refine ⟨hids, ?_⟩
    rw [if_neg (by simp), List.take_add_one, hcall]
    exact List.append_subset.mpr ⟨fun a ha => List.mem_append_left _ (hbefore ha),
      fun a ha => List.mem_append_right _ (by simpa using ha)⟩

/-- A change that starts no batch and marks no call. -/
theorem RunChange.marked_of (h : RunChange l discards s s') (hs : MarkedOf ids marked s.core)
    (hstart : l.starts_batch = false) (hmark : l.marked_call = none) :
    MarkedOf ids marked s'.core := by
  cases h with
  | note notes _ _ hcore _ => exact hcore ▸ hs
  | fresh notes _ _ _ hcore =>
    exact hcore ▸ MarkedOf.idle hs.once fun c hc => by rw [← Option.some.inj hc]
  | begin_call core i _ hbefore _ hcore => exact hcore ▸ (hbefore ▸ hs).keep rfl rfl rfl
  | respond core r _ hbefore _ hcore => exact hcore ▸ (hbefore ▸ hs).keep rfl rfl rfl
  | reject core _ hbefore hcore => exact hcore ▸ (hbefore ▸ hs).keep rfl rfl rfl
  | consume core _ hbefore _ _ hcore => exact hcore ▸ (hbefore ▸ hs).keep rfl rfl rfl
  | start core calls batch _ _ _ _ _ _ hstarts _ _ =>
    rw [hstart] at hstarts
    cases hstarts
  | mark core i _ _ _ _ hlabel _ =>
    rw [hmark] at hlabel
    cases hlabel
  | answer core call result _ _ hbefore _ _ hcore =>
    refine ⟨hs.once, fun c hc hne => ?_⟩
    obtain rfl := Option.some.inj (hcore.symm.trans hc)
    by_cases hmore : core.has_more = true
    · have hadvance : core.advance.tool_calls = core.tool_calls := by
        simp [RunCore.advance, hmore]
      rw [hadvance] at hne
      obtain ⟨hids, hbehind⟩ := hs.started core hbefore hne
      refine ⟨by rw [RunCore.call_ids, hadvance, ← hids, RunCore.call_ids], ?_⟩
      simp only [RunCore.advance, if_true]
      refine fun a ha => List.take_subset_take_left _ ?_ (hbehind ha)
      split <;> omega
    · simp [RunCore.advance, hmore] at hne
  | close core suffix notes _ _ _ _ _ _ hcore =>
    refine MarkedOf.idle hs.once fun c hc => ?_
    rcases hcore with hcore | hcore <;> rw [hcore] at hc
    · cases hc
    · rw [← Option.some.inj hc]
  | discard core notes _ _ _ _ _ _ _ hcore =>
    exact hcore ▸ MarkedOf.idle hs.once fun c hc => by rw [← Option.some.inj hc]
  | compact _ hcore => exact hcore ▸ hs

end Marks

/-! ### Runs -/

section Runs

variable {rules : TextRules} {l : Transition} {s s' : ConversationState}
  {i : ExecutingIntentRecord} {ids marked : List String} {cursor : Nat}

/-- Only an idle run starts to execute, and what is marked is the current
    call. -/
theorem mark_executing_core {r : ExecutionRequest}
    (h : transition_step rules s (.mark_executing r) = .ok s') :
    ∃ core record, s.run_log.core = some core ∧ core.executing_intent = none ∧
      core.call_ids[core.batch_cursor]? = some record.val.tool_call_id ∧ record.val = r.intent ∧
      s'.run_log.core = some { core with executing_intent := some record } := by
  obtain ⟨active, active', record, _, _, _, _, hactive, _, _, hidle, hcall, hrecord, hactive', _,
    _, h⟩ := mark_executing_ok h
  refine ⟨active.val.core, record, run_log_core hactive, hidle, ?_, hrecord, ?_⟩
  · rw [hrecord]
    exact current_call_id hcall
  · rw [run_log_core (show s'.val.active_run = some active' by rw [h]), hactive']
    rfl

/-- A step keeps the executing intent or resolves it. -/
theorem executes_step (h : transition_step rules s l = .ok s')
    (hs : s.run_log.executes i ids cursor) :
    s'.run_log.executes i ids cursor ∨ l.resolves i = true ∧ s'.run_log.resolved i cursor := by
  obtain ⟨t, hheals, _, hchange⟩ := transition_run_change h
  obtain ⟨core, hcore, hheld⟩ := hs
  exact hchange.executes ⟨core, hheals.core.trans hcore, hheld⟩

/-- A step that starts no batch marks the next call or none. -/
theorem marked_step (h : transition_step rules s l = .ok s') (hnodup : ids.Nodup)
    (hs : MarkedOf ids marked s.run_log.core) (hstart : l.starts_batch = false) :
    MarkedOf ids (marked ++ l.marked_call.toList) s'.run_log.core := by
  cases hmark : l.marked_call with
  | none =>
    obtain ⟨t, hheals, _, hchange⟩ := transition_run_change h
    rw [Option.toList_none, List.append_nil]
    exact hchange.marked_of (hheals.core.symm ▸ hs) hstart hmark
  | some call_id =>
    obtain ⟨r, rfl⟩ : ∃ r, l = .mark_executing r := by
      cases l <;> simp_all [Transition.marked_call]
    obtain ⟨core, record, hcore, hidle, hcall, hrecord, hcore'⟩ := mark_executing_core h
    simp only [Transition.marked_call, Option.some.injEq, ← hrecord] at hmark
    rw [hcore', Option.toList_some, ← hmark]
    exact (hcore ▸ hs).mark hnodup hidle hcall

theorem filterMap_snoc {α β : Type} (f : α → Option β) (xs : List α) (x : α) :
    (xs ++ [x]).filterMap f = xs.filterMap f ++ (f x).toList := by
  cases hx : f x <;> simp [hx]

/-- Whatever a run holds, no call is marked twice until a batch starts. -/
theorem marked_once {steps : List Transition}
    (hrun : (conversation_system rules).run s steps = .ok s')
    (hstart : ∀ m ∈ steps, m.starts_batch = false) :
    (steps.filterMap Transition.marked_call).Nodup := by
  have hmarked : ∃ ids, ids.Nodup ∧ MarkedOf ids [] s.run_log.core := by
    cases hactive : s.val.active_run with
    | none => exact ⟨[], List.nodup_nil, List.nodup_nil, by simp [run_log_core_none hactive]⟩
    | some active =>
      refine ⟨active.val.call_ids, active.call_ids_nodup, List.nodup_nil, fun c hc _ => ?_⟩
      obtain rfl := Option.some.inj ((run_log_core hactive).symm.trans hc)
      exact ⟨rfl, List.nil_subset _⟩
  obtain ⟨ids, hnodup, hmarked⟩ := hmarked
  rcases System.run_until
      (P := fun pre (t : ConversationState) =>
        MarkedOf ids (pre.filterMap Transition.marked_call) t.run_log.core)
      (C := fun _ m => m.starts_batch = false) (R := fun _ _ => False)
      (fun pre t m t' hP hC ht => .inl (by
        rw [filterMap_snoc]
        exact marked_step ht hnodup hP hC)) [] hmarked (System.along_of_forall hstart) hrun with h | ⟨_, _, _, _, _, _, _, h⟩
  · simpa using h.once
  · exact h.elim

/-! ### The batch of a run is answered -/

/-- The batch is in the log and answered. -/
def BatchAnswered (s : ConversationState) (ids : List String) : Prop :=
  ∃ pre batch post, s.val.facts = pre ++ batch :: post ∧ batch.val.kind = .tool_calls ∧
    batch.batch_call_ids = some ids ∧ AnsweredBehind s post ids

/-- Without compaction the log only grows. -/
theorem RunChange.grows {discards : Bool} {s s' : RunLog} (h : RunChange l discards s s')
    (hl : l.compacts = false) : ∃ added, s'.facts = s.facts ++ added := by
  cases h with
  | note notes _ hfacts _ _ => exact ⟨notes, hfacts⟩
  | fresh notes _ hfacts _ _ => exact ⟨notes, hfacts⟩
  | begin_call _ _ hfacts _ _ _ => exact ⟨[], by simpa using hfacts⟩
  | respond _ _ hfacts _ _ _ => exact ⟨[], by simpa using hfacts⟩
  | reject _ hfacts _ _ => exact ⟨[], by simpa using hfacts⟩
  | consume _ hfacts _ _ _ _ => exact ⟨[], by simpa using hfacts⟩
  | start _ _ batch _ _ hfacts _ _ _ _ _ _ => exact ⟨[batch], hfacts⟩
  | mark _ _ hfacts _ _ _ _ _ => exact ⟨[], by simpa using hfacts⟩
  | answer _ _ result _ hfacts _ _ _ _ => exact ⟨[result], hfacts⟩
  | close _ suffix notes _ _ hfacts _ _ _ _ =>
    exact ⟨suffix ++ notes, by rw [hfacts, List.append_assoc]⟩
  | discard _ notes _ hfacts _ _ _ _ _ _ => exact ⟨notes, hfacts⟩
  | compact hcompacts _ =>
    rw [hl] at hcompacts
    cases hcompacts

theorem grows_step (h : transition_step rules s l = .ok s') (hs : s.run_log.sound)
    (hl : ClosesBatches s l) : ∃ added, s'.val.facts = s.val.facts ++ added := by
  obtain ⟨t, hheals, _, hchange⟩ := transition_run_change h
  obtain rfl := hheals.eq_of_sound hs
  exact hchange.grows hl.no_compaction

/-- The batch a run holds stays in the log and is answered. -/
theorem batch_answered {active : ActiveRun} {steps : List Transition} (hs : s.run_log.sound)
    (hactive : s.val.active_run = some active) (hcalls : active.val.tool_calls ≠ [])
    (hsteps : (conversation_system rules).Along ClosesBatches s steps)
    (hrun : (conversation_system rules).run s steps = .ok s') :
    BatchAnswered s' active.val.call_ids := by
  obtain ⟨pre, batch, post, hfacts, hkind, hids, _⟩ := (sound_closed hs).live active hactive hcalls
  have hkept : s'.run_log.sound ∧ ∃ post, s'.val.facts = pre ++ batch :: post := by
    refine System.run_invariant_along
      (I := fun t => t.run_log.sound ∧ ∃ post, t.val.facts = pre ++ batch :: post)
      ?_ ⟨hs, post, hfacts⟩ hsteps hrun
    rintro t m t' ⟨ht, post, hpost⟩ hm hstep
    obtain ⟨added, hadded⟩ := grows_step hstep ht hm
    exact ⟨sound_step hstep ht hm, post ++ added, by simp [hadded, hpost]⟩
  obtain ⟨hsound, post', hfacts'⟩ := hkept
  obtain ⟨ids, hids', hanswered⟩ := (sound_closed hsound).answered pre batch post' hfacts' hkind
  obtain rfl := Option.some.inj (hids.symm.trans hids')
  exact ⟨pre, batch, post', hfacts', hkind, hids, hanswered⟩

/-- In every run, an intent once marked stays with the run until a step
    resolves it and advances the cursor; no call of a batch is marked twice;
    and where steps close batches, every batch of a run is answered. -/
theorem unknown_effects_kept (rules : TextRules) {conversation_id : String}
    {workspace : Option ConversationWorkspaceBindingV1}
    {background : Option BackgroundOccurrenceBindingV1} {s₀ : ConversationState}
    (hs₀ : ConversationState.new conversation_id workspace background = .ok s₀) :
    (∀ before r after s s',
      (conversation_system rules).run s₀ (before ++ [.mark_executing r]) = .ok s →
      (conversation_system rules).run s after = .ok s' →
      ∃ i ids cursor, i.val = r.intent ∧ s.run_log.executes i ids cursor ∧
        (s'.run_log.executes i ids cursor ∨ ∃ kept l rest t t', after = kept ++ l :: rest ∧
          (conversation_system rules).run s kept = .ok t ∧ t.run_log.executes i ids cursor ∧
          l.resolves i = true ∧ transition_step rules t l = .ok t' ∧
          t'.run_log.resolved i cursor)) ∧
    (∀ before l mid s, l.starts_batch = true → (∀ m ∈ mid, m.starts_batch = false) →
      (conversation_system rules).run s₀ (before ++ l :: mid) = .ok s →
      (mid.filterMap Transition.marked_call).Nodup) ∧
    (∀ before after s s' active,
      (conversation_system rules).Along ClosesBatches s₀ (before ++ after) →
      (conversation_system rules).run s₀ before = .ok s → s.val.active_run = some active →
      active.val.tool_calls ≠ [] → (conversation_system rules).run s after = .ok s' →
      BatchAnswered s' active.val.call_ids) := by
  refine ⟨?_, ?_, ?_⟩
  · intro before r after s s' hs hs'
    obtain ⟨t, _, hmark⟩ := System.run_append.mp hs
    obtain ⟨s₁, hstep, hnil⟩ := System.run_cons.mp hmark
    rw [System.run_nil.mp hnil] at hstep
    obtain ⟨core, i, _, _, hcall, hi, hcore⟩ :=
      mark_executing_core (show transition_step rules t _ = .ok s from hstep)
    have hexecutes : s.run_log.executes i core.call_ids core.batch_cursor :=
      ⟨_, hcore, rfl, rfl, rfl, hcall⟩
    refine ⟨i, core.call_ids, core.batch_cursor, hi, hexecutes, ?_⟩
    rcases System.run_until
        (P := fun _ (t : ConversationState) => t.run_log.executes i core.call_ids core.batch_cursor)
        (C := fun _ _ => True)
        (R := fun t l => l.resolves i = true ∧ ∃ t', transition_step rules t l = .ok t' ∧
          t'.run_log.resolved i core.batch_cursor)
        (fun _ t l t' hP _ ht => (executes_step ht hP).imp id fun h => ⟨h.1, t', ht, h.2⟩)
        [] hexecutes System.along_true hs' with
      h | ⟨kept, l, rest, t, rfl, ht, hP, hl, t', ht', h⟩
    · exact .inl h
    · exact .inr ⟨kept, l, rest, t, t', rfl, ht, hP, hl, ht', h⟩
  · intro before l mid s _ hmid hs
    obtain ⟨t, _, hl⟩ := System.run_append.mp hs
    obtain ⟨u, _, hmids⟩ := System.run_cons.mp hl
    exact marked_once hmids hmid
  · intro before after s s' active halong hs hactive hcalls hs'
    have hsound : s.run_log.sound :=
      System.run_invariant_along (I := fun s => s.run_log.sound)
        (fun _ _ _ hs hl h => sound_step h hs hl) (sound_of_new hs₀) halong.append_left hs
    exact batch_answered hsound hactive hcalls (halong.append_right hs) hs'

end Runs

/-! ### A call that executes, and a batch that is not answered -/

section Fixed

/-- The call of `write_call` executes in the process of the runtime. -/
def write_execution : ExecutionRequest where
  intent := {
    tool_call_id := "call-1", intent_digest := "intent", idempotency_key := "key"
    execution_authority := .in_process, request_identity := "key" }

/-- A batch is started and its call executes. -/
def executing_steps : List Transition := [
  submit_step 1 0 "run-1", .claim_run "invocation", .start_tool_batch [write_call] none none,
  .mark_executing write_execution]

/-- The call executes until a step resolves it, and only once. -/
theorem executing_call_kept : ∃ s i ids cursor,
    (conversation_system .silent).run .fresh executing_steps = .ok s ∧
    i.val = write_execution.intent ∧ s.run_log.executes i ids cursor ∧
    (([.mark_executing write_execution] : List Transition).filterMap
      Transition.marked_call).Nodup := by
  have hruns : succeeds ((conversation_system .silent).run .fresh executing_steps)
      (fun _ => true) = true := by decide +kernel
  obtain ⟨s, hs, _⟩ := succeeds_iff.mp hruns
  obtain ⟨hkept, honce, _⟩ := unknown_effects_kept .silent ConversationState.new_fresh
  obtain ⟨i, ids, cursor, hi, hexecutes, _⟩ := hkept
    [submit_step 1 0 "run-1", .claim_run "invocation", .start_tool_batch [write_call] none none]
    write_execution [] s s hs (System.run_nil.mpr rfl)
  exact ⟨s, i, ids, cursor, hs, hi, hexecutes,
    honce [submit_step 1 0 "run-1", .claim_run "invocation"] (.start_tool_batch [write_call] none none)
      [.mark_executing write_execution] s rfl (by simp [Transition.starts_batch]) hs⟩

/-- The call of a batch that awaits approval gets no result when a plain
    message replaces the run. -/
theorem discarded_call_unanswered : ∃ s s' active,
    (conversation_system .silent).run .fresh awaiting_steps = .ok s ∧
    s.val.active_run = some active ∧ active.val.tool_calls ≠ [] ∧
    (conversation_system .silent).run s [submit_step 2 4 "run-2"] = .ok s' ∧
    has_live_batch s' = false ∧ ¬ BatchAnswered s' active.val.call_ids := by
  obtain ⟨s, s', first, batch, last, hs, hlive, hs', hfacts, hfirst, _, hlast, hidle, _⟩ :=
    orphaned_batch
  obtain ⟨active, hactive, hcalls⟩ := (Option.any_eq_true _ _).mp hlive
  refine ⟨s, s', active, hs, hactive, by simpa using hcalls, hs', hidle, ?_⟩
  rintro ⟨pre, found, post, hsplit, hkind, hids, hbehind⟩
  rw [hfacts] at hsplit
  rcases pre with _ | ⟨_, _ | ⟨_, pre⟩⟩
  · simp only [List.nil_append, List.cons.injEq] at hsplit
    rw [← hsplit.1, hfirst] at hkind
    cases hkind
  · simp only [List.cons_append, List.nil_append, List.cons.injEq] at hsplit
    rw [← hsplit.2.2] at hbehind
    exact not_answered_behind (ConversationFact.batch_call_ids_valid hids).1 hlast hidle hbehind
  · simp only [List.cons_append, List.cons.injEq] at hsplit
    have hmem : found ∈ [last] := by simp [hsplit.2.2]
    rw [List.mem_singleton.mp hmem, hlast] at hkind
    cases hkind

end Fixed
