import FirstAgent.Compaction.Closure
import FirstAgent.Drive.Loop
import FirstAgent.Invariants.Batches
import FirstAgent.Invariants.Healing

/-! # The Repair Allowances across Invocations

    At its head the loop holds two counters; an invocation that enters the
    loop rebuilds them from the facts.  This module compares the two along
    every run of invocations.

    The counters agree as long as the run keeps away from four branches: a
    usable answer after a recorded retry, an accepted control or feedback
    after an unresolved repair, and a tool that is not offered. -/

open Fallible Segments

/-! ### What the counters are read from -/

/-- The id of the active run and its batch. -/
def ConversationState.run_key (s : ConversationState) : Option (String × List ToolCall) :=
  s.val.active_run.map fun r => (r.val.run_id, r.val.tool_calls)

theorem run_invalid_repairs_eq (s : ConversationState) :
    run_invalid_repairs s = s.run_key.elim (.ok 0) fun key =>
      streak (repair_verdict key.1) s.val.facts.reverse := by
  unfold run_invalid_repairs ConversationState.run_key
  cases s.val.active_run <;> rfl

theorem run_transient_retries_eq (s : ConversationState) :
    run_transient_retries s = s.run_key.elim 0 fun key =>
      s.val.facts.countP (is_transient_retry_of key.1) := by
  unfold run_transient_retries ConversationState.run_key
  cases s.val.active_run <;> rfl

/-- The live counters are the ones an entry would rebuild. -/
structure DriveLoop.Tracked (l : DriveLoop) : Prop where
  invalid : run_invalid_repairs l.state = .ok l.invalid_repairs
  transient : run_transient_retries l.state = l.retryable_provider_retries

theorem DriveLoop.Tracked.entry {s : ConversationState} {l : DriveLoop}
    (h : drive_entry s = .ok l) : l.state = s ∧ l.Tracked := by
  simp only [drive_entry, bind_eq_ok, pure_eq_ok] at h
  obtain ⟨n, hn, rfl⟩ := h
  exact ⟨rfl, hn, rfl⟩

/-- Neither the facts nor the run's id and batch change. -/
structure SameTally (s s' : ConversationState) : Prop where
  facts : s'.val.facts = s.val.facts
  run_key : s'.run_key = s.run_key

namespace SameTally

variable {s t u : ConversationState}

theorem refl (s : ConversationState) : SameTally s s := ⟨rfl, rfl⟩

theorem trans (h : SameTally s t) (h' : SameTally t u) : SameTally s u :=
  ⟨h'.facts.trans h.facts, h'.run_key.trans h.run_key⟩

theorem invalid (h : SameTally s t) : run_invalid_repairs t = run_invalid_repairs s := by
  rw [run_invalid_repairs_eq, run_invalid_repairs_eq, h.facts, h.run_key]

theorem transient (h : SameTally s t) : run_transient_retries t = run_transient_retries s := by
  rw [run_transient_retries_eq, run_transient_retries_eq, h.facts, h.run_key]

theorem of_run (hfacts : t.val.facts = s.val.facts) (hrun : t.val.active_run = s.val.active_run) :
    SameTally s t :=
  ⟨hfacts, by rw [ConversationState.run_key, hrun]; rfl⟩

theorem of_runs {active active' : ActiveRun} (hfacts : t.val.facts = s.val.facts)
    (hactive : s.val.active_run = some active) (hactive' : t.val.active_run = some active')
    (hid : active'.val.run_id = active.val.run_id)
    (hcalls : active'.val.tool_calls = active.val.tool_calls) : SameTally s t :=
  ⟨hfacts, by simp [ConversationState.run_key, hactive, hactive', hid, hcalls]⟩

end SameTally

/-! ### Provider calls -/

section Attempts

variable {rules : TextRules} {s s' : ConversationState} {t : Transition}

theorem attempt_keeps (ht : t.is_attempt = true) (h : transition_step rules s t = .ok s') :
    SameTally s s' := by
  cases t <;> simp only [Transition.is_attempt, Bool.false_eq_true] at ht
  case begin_provider_call =>
    obtain ⟨_, active', hactive, _, _, hactive', h⟩ := begin_provider_call_ok h
    exact .of_runs (by rw [h]) hactive (by rw [h]) (by rw [hactive']) (by rw [hactive'])
  case record_foreground_model_attempt =>
    obtain ⟨_, active', hactive, hactive', h⟩ := record_foreground_model_attempt_ok h
    exact .of_runs (by rw [h]) hactive (by rw [h]) (by rw [hactive']) (by rw [hactive'])
  case record_provider_response =>
    obtain ⟨_, active', _, hactive, hactive', h⟩ := record_provider_response_ok h
    exact .of_runs (by rw [h]) hactive (by rw [h]) (by rw [hactive']) (by rw [hactive'])
  case consume_provider_response =>
    obtain ⟨_, active', hactive, _, _, hactive', h⟩ := consume_provider_response_ok h
    exact .of_runs (by rw [h]) hactive (by rw [h]) (by rw [hactive']) (by rw [hactive'])
  case charge_consent_grant =>
    obtain ⟨_, h⟩ := charge_consent_grant_ok h
    exact .of_run (by rw [h]) (by rw [h])
  case consume_disclosure_receipt =>
    obtain ⟨_, h⟩ := consume_disclosure_receipt_ok h
    exact .of_run (by rw [h]) (by rw [h])
  case invalidate_provider_consent =>
    rcases invalidate_provider_consent_ok h with rfl | ⟨_, h⟩
    · exact .refl _
    · exact .of_run (by rw [h]) (by rw [h])

theorem make_attempt_keeps {attempt : List Transition}
    (h : make_attempt rules s attempt = .ok s') : SameTally s s' := by
  simp only [make_attempt, bind_eq_ok, refuse_eq_ok, Bool.not_eq_false] at h
  obtain ⟨_, hall, hrun⟩ := h
  refine System.run_invariant_along (C := fun _ t => t.is_attempt = true) ?_ (.refl s)
    (System.along_of_forall fun t ht => List.all_eq_true.mp hall t ht) hrun
  exact fun _ t _ hs ht hstep => hs.trans (attempt_keeps ht hstep)

end Attempts

/-! ### Policy results -/

section Policies

variable {s s' : ConversationState} {code message : String} {f : ConversationFact}

theorem repair_verdict_of_kind (run_id : String) (h : f.val.kind ≠ .policy_result) :
    repair_verdict run_id f = .ok .breaks := by
  simp [repair_verdict, is_policy_of, h, pure, Except.pure]

theorem repair_verdict_of_code {run_id : String} (hcode : f.val.content.get "code" = .str code) :
    repair_verdict run_id f =
      .ok (if is_policy_of run_id f = true then code_verdict (.str code) else .breaks) := by
  cases hp : is_policy_of run_id f <;>
    simp [repair_verdict, hp, hcode, Json.require_hashable, pure, Except.pure, bind, Except.bind]

/-- A policy result of the active run is appended. -/
theorem append_policy_result_fact (h : append_policy_result s code message = .ok s') :
    ∃ active f, s.val.active_run = some active ∧ s'.val.active_run = some active ∧
      s'.val.facts = s.val.facts ++ [f] ∧ f.val.kind = .policy_result ∧
      is_policy_of active.val.run_id f = true ∧ f.val.content.get "code" = .str code := by
  simp only [append_policy_result, require_run, bind_eq_ok, Py.expect_value_eq_ok,
    Checked.make_eq_ok] at h
  obtain ⟨active, hactive, f, hf, h⟩ := h
  refine ⟨active, f, hactive, by rw [h, hactive], by rw [h], by rw [hf], ?_, ?_⟩
  · simp [is_policy_of, hf, PyText.startswith_append]
  · rw [hf, JsonDict.get_of_nodup (by simp)]
    simp [Json.lookup]

/-- What a policy result does to the rebuilt counters. -/
theorem policy_counters (h : append_policy_result s code message = .ok s') {n : Nat}
    (hn : run_invalid_repairs s = .ok n) :
    run_invalid_repairs s' = .ok (match code_verdict (.str code) with
      | .counts => n + 1
      | .passes => n
      | .breaks => 0) ∧
    run_transient_retries s' =
      run_transient_retries s + if code = "provider_transient_retry" then 1 else 0 := by
  obtain ⟨active, f, hactive, hactive', hfacts, _, hpolicy, hcode⟩ := append_policy_result_fact h
  have hverdict : repair_verdict active.val.run_id f = .ok (code_verdict (.str code)) := by
    rw [repair_verdict_of_code hcode, if_pos hpolicy]
  constructor
  · simp only [run_invalid_repairs, hactive] at hn
    simp only [run_invalid_repairs, hactive', hfacts, List.reverse_append, List.reverse_singleton,
      List.singleton_append]
    cases hv : code_verdict (.str code) with
    | counts => exact streak_counts (hverdict.trans (by rw [hv])) hn
    | passes => exact (streak_passes (hverdict.trans (by rw [hv]))).trans hn
    | breaks => exact streak_breaks (hverdict.trans (by rw [hv]))
  · simp [run_transient_retries, hactive, hactive', hfacts, List.countP_append,
      List.countP_cons, is_transient_retry_of, hpolicy, hcode]

end Policies

/-! ### The log while a batch is open -/

/-- No repair is counted, whoever asks. -/
def Unrepaired (facts : List ConversationFact) : Prop :=
  ∀ run_id, streak (repair_verdict run_id) facts.reverse = .ok 0

namespace Unrepaired

variable {facts facts' : List ConversationFact} {f : ConversationFact}

theorem of_last (h : f.val.kind ≠ .policy_result) : Unrepaired (facts ++ [f]) := by
  intro run_id
  rw [List.reverse_append]
  exact streak_breaks (repair_verdict_of_kind run_id h)

/-- Facts that are no policy results start no streak. -/
theorem pad (h : Unrepaired facts)
    (hpad : Padded (fun f => f.val.kind ≠ .policy_result) facts facts') : Unrepaired facts' :=
  fun run_id => streak_of_padded (fun _ hf => repair_verdict_of_kind run_id hf) hpad.reverse
    (h run_id)

/-- Nor does feedback that passes. -/
theorem passing {code : String} (h : Unrepaired facts)
    (hcode : f.val.content.get "code" = .str code) (hpass : code_verdict (.str code) = .passes) :
    Unrepaired (facts ++ [f]) := by
  intro run_id
  rw [List.reverse_append, List.reverse_singleton, List.singleton_append]
  have hverdict : repair_verdict run_id f = _ := repair_verdict_of_code hcode
  by_cases hp : is_policy_of run_id f = true
  · rw [if_pos hp, hpass] at hverdict
    rw [streak_passes hverdict]
    exact h run_id
  · rw [if_neg hp] at hverdict
    exact streak_breaks hverdict

end Unrepaired

/-- While a batch is open no repair is counted. -/
def BatchUnrepaired (log : RunLog) : Prop :=
  ∀ core, log.core = some core → core.tool_calls ≠ [] → Unrepaired log.facts

section OpenBatch

variable {rules : TextRules} {l : Transition} {discards : Bool} {log log' : RunLog}
  {s s' t : ConversationState}

theorem kind_of_answers {results : List ConversationFact} {calls : List ToolCall}
    (h : Answers results calls) : ∀ f ∈ results, f.val.kind ≠ .policy_result := by
  intro f hf hkind
  have hmem : f.result_call_id ∈ calls.map fun c => some c.val.tool_call_id :=
    h ▸ List.mem_map_of_mem hf
  obtain ⟨c, _, hc⟩ := List.mem_map.mp hmem
  have hresult := (ConversationFact.result_call_id_eq_some.mp hc.symm).1
  rw [hkind] at hresult
  cases hresult

/-- A change the loop has no part in keeps an open batch unrepaired. -/
theorem RunChange.unrepaired (h : RunChange l discards log log') (hl : l.is_loop_only = false)
    (hs : BatchUnrepaired log) : BatchUnrepaired log' := by
  intro core' hcore' hopen
  cases h with
  | note notes hnotes hfacts hcore hlabel =>
    rw [hcore] at hcore'
    rcases hlabel with rfl | hnone | hpolicy
    · rw [hfacts, List.append_nil]
      exact hs core' hcore' hopen
    · rw [hnone] at hcore'
      cases hcore'
    · cases l <;> simp [Transition.appends_policy, Transition.is_loop_only] at hpolicy hl
  | fresh _ _ _ _ hcore =>
    rw [hcore] at hcore'
    cases hcore'
    exact absurd rfl hopen
  | begin_call core _ hfacts hbefore _ hcore
  | respond core _ hfacts hbefore _ hcore
  | reject core hfacts hbefore hcore
  | consume core hfacts hbefore _ _ hcore
  | mark core _ hfacts hbefore _ _ _ hcore =>
    rw [hcore] at hcore'
    cases hcore'
    rw [hfacts]
    exact hs core hbefore hopen
  | start core _ batch hannounces _ hfacts =>
    rw [hfacts]
    exact .of_last (by rw [hannounces.1]; exact FactKind.noConfusion)
  | answer core call result hresult hfacts =>
    rw [hfacts]
    exact .of_last (kind_of_answers hresult result List.mem_cons_self)
  | close _ _ _ _ _ _ _ _ _ hcore =>
    rcases hcore with hcore | hcore
    · rw [hcore] at hcore'
      cases hcore'
    · rw [hcore] at hcore'
      cases hcore'
      exact absurd rfl hopen
  | discard _ _ _ _ _ _ _ _ _ hcore =>
    rw [hcore] at hcore'
    cases hcore'
    exact absurd rfl hopen
  | compact hcompacts =>
    cases l <;> simp [Transition.compacts, Transition.is_loop_only] at hcompacts hl

theorem transition_unrepaired (h : transition_step rules s l = .ok s')
    (hl : l.is_loop_only = false) (hs : BatchUnrepaired s.run_log) :
    BatchUnrepaired s'.run_log := by
  obtain ⟨t, hheals, _, hchange⟩ := transition_run_change h
  refine hchange.unrepaired hl fun core hcore hopen => ?_
  rw [hheals.core] at hcore
  refine (hs core hcore hopen).pad (hheals.pads.mono fun f hf hkind => ?_)
  rw [hf.kind] at hkind
  cases hkind

theorem saves_unrepaired {saves : List Transition}
    (hsaves : ∀ t ∈ saves, t.is_loop_only = false)
    (h : (conversation_system rules).run s saves = .ok s') (hs : BatchUnrepaired s.run_log) :
    BatchUnrepaired s'.run_log :=
  System.run_invariant_along (C := fun _ t => t.is_loop_only = false)
    (I := fun s => BatchUnrepaired s.run_log)
    (fun _ _ _ hs hl hstep => transition_unrepaired hstep hl hs) hs
    (System.along_of_forall hsaves) h

end OpenBatch

/-! ### Tool results -/

/-- Only results are added, and the run stays. -/
structure AddsResults (s s' : ConversationState) : Prop where
  facts : ∃ results : List ConversationFact,
    s'.val.facts = s.val.facts ++ results ∧ ∀ f ∈ results, f.val.kind = .tool_result
  run_id : s'.run_key.map Prod.fst = s.run_key.map Prod.fst

namespace AddsResults

variable {s t u : ConversationState}

theorem trans (h : AddsResults s t) (h' : AddsResults t u) : AddsResults s u := by
  obtain ⟨rs, hrs, hkind⟩ := h.facts
  obtain ⟨rs', hrs', hkind'⟩ := h'.facts
  refine ⟨⟨rs ++ rs', by rw [hrs', hrs, List.append_assoc], ?_⟩, h'.run_id.trans h.run_id⟩
  intro f hf
  exact (List.mem_append.mp hf).elim (hkind f) (hkind' f)

theorem of_same (hfacts : t.val.facts = s.val.facts)
    (hrun : t.run_key.map Prod.fst = s.run_key.map Prod.fst) : AddsResults s t :=
  ⟨⟨[], by rw [hfacts, List.append_nil], List.forall_mem_nil _⟩, hrun⟩

theorem refl (s : ConversationState) : AddsResults s s := of_same rfl rfl

/-- One result, after which the cursor of the run moves on. -/
theorem of_result {active active' : ActiveRun} {result : ConversationFact} {call_id : String}
    (hresult : result.result_call_id = some call_id)
    (hfacts : t.val.facts = s.val.facts ++ [result])
    (hactive : s.val.active_run = some active) (hactive' : t.val.active_run = some active')
    (hid : active'.val.run_id = active.val.run_id) : AddsResults s t := by
  refine ⟨⟨[result], hfacts, ?_⟩, by simp [ConversationState.run_key, hactive, hactive', hid]⟩
  simpa using (ConversationFact.result_call_id_eq_some.mp hresult).1

/-- Results are no retries. -/
theorem transient (h : AddsResults s t) : run_transient_retries t = run_transient_retries s := by
  obtain ⟨rs, hrs, hkind⟩ := h.facts
  have hnone : ∀ run_id, rs.countP (is_transient_retry_of run_id) = 0 := by
    intro run_id
    refine List.countP_eq_zero.mpr fun f hf => ?_
    simp [is_transient_retry_of, is_policy_of, hkind f hf]
  rw [run_transient_retries_eq, run_transient_retries_eq, hrs]
  have hid := h.run_id
  cases hs : s.run_key <;> cases ht : t.run_key <;> rw [hs, ht] at hid
  · rfl
  · cases hid
  · cases hid
  · have hid := Option.some.inj hid
    simp only [Option.elim_some, List.countP_append, hnone, Nat.add_zero, hid]

end AddsResults

section ToolResults

variable {rules : TextRules} {s s' : ConversationState} {t : Transition}

theorem admission_step.adds_results (h : admission_step s s') : AddsResults s s' := by
  rcases h with rfl | ⟨_, _, _, _, _, _, _, h⟩
  · exact .refl _
  · exact .of_same (by rw [h]) (by simp [ConversationState.run_key, h])

/-- The transitions of a call outcome. -/
def Transition.is_call_save : Transition → Bool
  | .record_nonexecuted_tool_result _ | .begin_browser_takeover _ | .mark_executing _ => true
  | .record_tool_result .. => true
  | t => t.is_receipt_admission

theorem call_save_adds_results (ht : t.is_call_save = true)
    (h : transition_step rules s t = .ok s') : AddsResults s s' := by
  cases t <;> simp only [Transition.is_call_save, Transition.is_receipt_admission,
    Bool.false_eq_true] at ht
  case record_nonexecuted_tool_result =>
    obtain ⟨_, _, _, hactive, _, _, _, hresult, hactive', h⟩ := record_nonexecuted_tool_result_ok h
    exact .of_result hresult (by rw [h]) hactive (by rw [h]) (by rw [hactive']; rfl)
  case record_tool_result =>
    obtain ⟨_, _, _, _, _, _, hactive, _, _, _, hresult, hactive', h⟩ := record_tool_result_ok h
    exact .of_result hresult (by rw [h]) hactive (by rw [h]) (by rw [hactive']; rfl)
  case begin_browser_takeover =>
    obtain ⟨_, _, _, _, _, hrun, h⟩ := begin_browser_takeover_ok h
    refine .of_same (by rw [h]) ?_
    rcases hrun with ⟨hnone, rfl⟩ | ⟨active, a, hactive, rfl, ha⟩
    · simp [ConversationState.run_key, h, hnone]
    · simp [ConversationState.run_key, h, hactive, ha]
  case mark_executing =>
    obtain ⟨_, _, _, _, _, _, _, hactive, _, _, _, _, _, hactive', _, _, h⟩ := mark_executing_ok h
    refine .of_same (by rw [h]) ?_
    simp [ConversationState.run_key, h, hactive, hactive', executing_run]
  case admit_process_receipt_criterion =>
    exact (admit_process_receipt_criterion_ok h).adds_results
  case admit_sandbox_receipt_criterion =>
    exact (admit_sandbox_receipt_criterion_ok h).adds_results
  case admit_governed_tool_receipt_criterion =>
    exact (admit_governed_tool_receipt_criterion_ok h).adds_results
  case admit_web_source_criterion => exact (admit_web_source_criterion_ok h).adds_results

theorem call_saves {outcome : CallOutcome}
    (h : outcome.admissions.all Transition.is_receipt_admission = true) :
    ∀ t ∈ outcome.saves, t.is_call_save = true ∧ t.is_loop_only = false := by
  intro t ht
  cases outcome with
  | not_executed result =>
    obtain rfl := List.mem_singleton.mp ht
    exact ⟨rfl, rfl⟩
  | executed takeover request result admissions =>
    simp only [CallOutcome.saves, List.mem_append, List.mem_map, Option.mem_toList, List.mem_cons,
      List.not_mem_nil, or_false] at ht
    rcases ht with (⟨_, _, rfl⟩ | rfl | rfl) | ht
    · exact ⟨rfl, rfl⟩
    · exact ⟨rfl, rfl⟩
    · exact ⟨rfl, rfl⟩
    · have := List.all_eq_true.mp h t ht
      cases t <;> simp_all [Transition.is_call_save, Transition.is_receipt_admission,
        Transition.is_loop_only]

theorem call_outcome_adds_results {outcome : CallOutcome}
    (hadmissions : outcome.admissions.all Transition.is_receipt_admission = true)
    (h : (conversation_system rules).run s outcome.saves = .ok s') : AddsResults s s' := by
  refine System.run_invariant_along (C := fun _ t => t.is_call_save = true) ?_ (.refl s)
    (System.along_of_forall fun t ht => (call_saves hadmissions t ht).1) h
  exact fun _ _ _ hs ht hstep => hs.trans (call_save_adds_results ht hstep)

end ToolResults

/-! ### Compaction -/

section Compactions

variable {s s' : ConversationState} {removable : List String}

/-- A removal takes a recorded retry of the active run. -/
def removes_retry (s : ConversationState) (removable_fact_ids : List String) : Bool :=
  s.val.active_run.any fun active => s.val.facts.any fun f =>
    removable_fact_ids.contains f.val.fact_id && is_transient_retry_of active.val.run_id f

/-- A policy result leads to no boundary, and none stands behind one. -/
theorem scan_fact_kind {mode mode' : TurnMode} {f : ConversationFact} {item : Option TurnItem}
    (h : scan_fact mode f = .ok (mode', item)) (hmode : mode = .boundary ∨ mode' = .boundary) :
    f.val.kind ≠ .policy_result := by
  intro hkind
  cases mode with
  | boundary => simp [scan_fact, hkind] at h
  | turn turn_ids =>
    simp only [scan_fact, scan_turn, hkind, pure_eq_ok, Prod.mk.injEq] at h
    simp [← h.1] at hmode
  | results turn_ids expected covered =>
    simp only [scan_fact, scan_turn, hkind, reduceCtorEq, if_false, bind_eq_ok, pure_eq_ok,
      Prod.mk.injEq] at h
    obtain ⟨_, _, rfl, _⟩ := h
    simp at hmode

/-- A chunk ends in a fact that is no policy result. -/
theorem chunk_last {c : TurnChunk} (h : turn_scanner.Reads c) :
    ∃ init f, c.entries = init ++ [f] ∧ f.val.kind ≠ .policy_result := by
  rcases List.eq_nil_or_concat' c.entries with hnil | ⟨init, f, hlast⟩
  · rw [Scanner.Reads, hnil] at h
    simp [Scanner.run, pure_eq_ok] at h
  · refine ⟨init, f, hlast, ?_⟩
    rw [Scanner.Reads, hlast] at h
    obtain ⟨mode, _, _, _, hf, _⟩ := Scanner.run_append.mp h
    obtain ⟨item, hstep, _⟩ := Scanner.run_singleton.mp hf
    exact scan_fact_kind hstep (.inr rfl)

/-- Closed chunks count no repair. -/
theorem chunks_unrepaired {cs : List TurnChunk} (h : ∀ c ∈ cs, turn_scanner.Reads c) :
    Unrepaired (cs.flatMap Chunk.entries) := by
  rcases List.eq_nil_or_concat' cs with rfl | ⟨init, c, rfl⟩
  · exact fun _ => rfl
  · obtain ⟨entries, f, hentries, hf⟩ := chunk_last (h c (by simp))
    rw [List.flatMap_append, List.flatMap_singleton, hentries, ← List.append_assoc]
    exact .of_last hf

/-- The repairs of a parsed log are those of its open turn. -/
theorem streak_of_chunks {cs : List TurnChunk} {tail : List ConversationFact} {mode : TurnMode}
    (hreads : ∀ c ∈ cs, turn_scanner.Reads c)
    (htail : turn_scanner.run .boundary tail = .ok (mode, [])) (run_id : String) :
    streak (repair_verdict run_id) (cs.flatMap Chunk.entries ++ tail).reverse =
      streak (repair_verdict run_id) tail.reverse := by
  cases tail with
  | nil =>
    rw [List.append_nil]
    exact chunks_unrepaired hreads run_id
  | cons f fs =>
    obtain ⟨mode', item, _, hstep, _⟩ := Scanner.run_cons.mp htail
    have hkind : f.val.kind ≠ .policy_result := @scan_fact_kind .boundary _ _ _ hstep (.inl rfl)
    have hf := repair_verdict_of_kind run_id hkind
    -- the first fact of the open turn ends the streak
    have hbreak : ∃ a ∈ (f :: fs).reverse, repair_verdict run_id a = .ok .breaks :=
      ⟨f, List.mem_reverse.mpr List.mem_cons_self, hf⟩
    rw [List.reverse_append, ← List.append_nil (f :: fs).reverse, List.append_assoc]
    exact streak_append_of_break hbreak

theorem countP_replace_selected {p sel : ConversationFact → Bool} {r : ConversationFact}
    (hr : p r = false) (inserted : Bool) (fs : List ConversationFact) :
    (replace_selected sel r inserted fs).countP p = (fs.filter fun f => !sel f).countP p := by
  induction fs generalizing inserted with
  | nil => rfl
  | cons f fs ih =>
    cases hf : sel f <;> cases inserted <;>
      simp [replace_selected, hf, ih, List.countP_cons, hr]

/-- A compaction takes the repairs of no run, and only the retries it removes. -/
theorem compaction_counters {summary : ConversationSummaryV1}
    {source_scope : Option ProviderConsentScopeV1}
    (h : apply_compaction_summary s summary removable source_scope = .ok s')
    (hkeep : removes_retry s removable = false) :
    run_invalid_repairs s' = run_invalid_repairs s ∧
      run_transient_retries s' = run_transient_retries s ∧ s'.run_key = s.run_key := by
  obtain ⟨turns, ids, r, _, hremovable, hkind, _, _, h⟩ := apply_compaction_summary_ok h
  have hkey : s'.run_key = s.run_key := by rw [ConversationState.run_key, h]; rfl
  refine ⟨?_, ?_, hkey⟩
  · obtain ⟨cs, tail, mode, hchunks⟩ := chunked_of_parse hremovable.parsed
    obtain ⟨before, after, hkept, hfacts⟩ := compacted_chunks hremovable hchunks r
    have hreads : ∀ c ∈ before ++ summary_chunk r :: after, turn_scanner.Reads c := by
      intro c hc
      rcases List.mem_append.mp hc with hc | hc
      · exact hchunks.reads c (List.mem_of_mem_filter (hkept ▸ List.mem_append_left after hc))
      rcases List.mem_cons.mp hc with rfl | hc
      · exact reads_summary hkind
      · exact hchunks.reads c (List.mem_of_mem_filter (hkept ▸ List.mem_append_right before hc))
    -- closed chunks count no repair, and the open turn stays
    rw [run_invalid_repairs_eq, run_invalid_repairs_eq, hkey]
    congr 1
    funext key
    rw [h, hfacts, hchunks.facts, streak_of_chunks hreads hchunks.open_turn,
      streak_of_chunks hchunks.reads hchunks.open_turn]
  · unfold run_transient_retries
    rw [h]
    unfold removes_retry at hkeep
    cases hactive : s.val.active_run with
    | none => rfl
    | some active =>
      dsimp only
      rw [countP_replace_selected (by simp [is_transient_retry_of, is_policy_of, hkind]),
        List.countP_filter]
      simp only [hactive, Option.any_some, List.any_eq_false, Bool.and_eq_true, not_and,
        Bool.not_eq_true] at hkeep
      refine List.countP_congr fun f hf => ?_
      have hretry := hkeep f hf
      cases hsel : is_selected removable f <;>
        simp_all [is_selected]

end Compactions

/-! ### The iterations -/

section Iterations

variable {rules : TextRules} {limits : InvocationLimits} {l l' : DriveLoop} {code message : String}

/-- No batch is open. -/
def NoBatch (s : ConversationState) : Prop := ∀ key, s.run_key = some key → key.2 = []

theorem NoBatch.unrepaired {s : ConversationState} (h : NoBatch s) : BatchUnrepaired s.run_log := by
  intro core hcore hopen
  cases hactive : s.val.active_run with
  | none => simp [ConversationState.run_log, hactive] at hcore
  | some active =>
    obtain rfl := Option.some.inj ((run_log_core hactive).symm.trans hcore)
    exact absurd (h (active.val.run_id, active.val.tool_calls)
      (by simp [ConversationState.run_key, hactive])) hopen

theorem NoBatch.same {s s' : ConversationState} (h : NoBatch s) (hs : SameTally s s') :
    NoBatch s' := fun key hkey => h key (hs.run_key ▸ hkey)

theorem require_phase_ok {s : ConversationState} {phase : ContinuationPhase} {active : ActiveRun}
    (h : require_phase s phase = .ok active) :
    s.val.active_run = some active ∧ active.val.phase = phase := by
  simp only [require_phase, bind_eq_ok, expect_eq_ok, refuse_eq_ok, not_not, pure_eq_ok] at h
  obtain ⟨active, hactive, _, hphase, rfl⟩ := h
  exact ⟨hactive, hphase⟩

theorem no_batch_of_model {s : ConversationState} {active : ActiveRun}
    (hactive : s.val.active_run = some active) (hphase : active.val.phase = .model) :
    NoBatch s := by
  intro key hkey
  obtain rfl : (active.val.run_id, active.val.tool_calls) = key := by
    simpa [ConversationState.run_key, hactive] using hkey
  exact (ActiveRun.of_model_phase hphase).1

/-- Every repair code counts and none is a retry. -/
theorem repair_codes : ∀ code ∈ INVALID_REPAIR_POLICY_CODES,
    code_verdict (.str code) = .counts ∧ code ≠ "provider_transient_retry" := by
  decide

theorem UntriedAnswer.code_mem (a : UntriedAnswer) : a.code ∈ INVALID_REPAIR_POLICY_CODES := by
  cases a <;> decide

theorem TriedControl.code_mem (c : TriedControl) : c.code ∈ INVALID_REPAIR_POLICY_CODES := by
  cases c <;> simp [TriedControl.code, INVALID_REPAIR_POLICY_CODES]

theorem give_feedback_ok (h : give_feedback l code message = .ok l') :
    append_policy_result l.state code message = .ok l'.state ∧
      l'.invalid_repairs = l.invalid_repairs ∧
      l'.retryable_provider_retries = l.retryable_provider_retries := by
  simp only [give_feedback, bind_eq_ok, pure_eq_ok] at h
  obtain ⟨s, hs, rfl⟩ := h
  exact ⟨hs, rfl, rfl⟩

theorem NoBatch.policy {s s' : ConversationState} (h : NoBatch s)
    (hs : append_policy_result s code message = .ok s') : NoBatch s' := by
  obtain ⟨active, _, hactive, hactive', _⟩ := append_policy_result_fact hs
  intro key hkey
  exact h key (by rw [← hkey]; simp [ConversationState.run_key, hactive, hactive'])

/-- What holds at the head after an answer. -/
structure DriveLoop.Kept (l : DriveLoop) : Prop where
  tracked : l.Tracked
  batch : BatchUnrepaired l.state.run_log

/-- A repair is counted in the loop and in the log. -/
theorem repair_kept (h : repair limits l code message = .ok l')
    (hcode : code ∈ INVALID_REPAIR_POLICY_CODES) (ht : l.Tracked) (hno : NoBatch l.state) :
    l'.Kept := by
  simp only [repair, bind_eq_ok, refuse_eq_ok] at h
  obtain ⟨_, _, h⟩ := h
  obtain ⟨hs, hinvalid, hretries⟩ := give_feedback_ok h
  obtain ⟨hcounts, hretry⟩ := repair_codes code hcode
  obtain ⟨hn, hr⟩ := policy_counters hs ht.invalid
  refine ⟨⟨?_, ?_⟩, (hno.policy hs).unrepaired⟩
  · rw [hn, hcounts, hinvalid]
  · rw [hr, if_neg hretry, hretries]
    exact ht.transient

/-- Feedback that passes leaves both. -/
theorem passing_kept (h : give_feedback l code message = .ok l')
    (hpass : code_verdict (.str code) = .passes) (hretry : code ≠ "provider_transient_retry")
    (ht : l.Tracked) (hno : NoBatch l.state) : l'.Kept := by
  obtain ⟨hs, hinvalid, hretries⟩ := give_feedback_ok h
  obtain ⟨hn, hr⟩ := policy_counters hs ht.invalid
  refine ⟨⟨?_, ?_⟩, (hno.policy hs).unrepaired⟩
  · rw [hn, hpass, hinvalid]
  · rw [hr, if_neg hretry, hretries]
    exact ht.transient

/-- Feedback that breaks the row leaves the counter of a loop that has none. -/
theorem breaking_kept (h : give_feedback l code message = .ok l')
    (hbreak : code_verdict (.str code) = .breaks) (hretry : code ≠ "provider_transient_retry")
    (ht : l.Tracked) (hno : NoBatch l.state) (hzero : l.invalid_repairs = 0) : l'.Kept := by
  obtain ⟨hs, hinvalid, hretries⟩ := give_feedback_ok h
  obtain ⟨hn, hr⟩ := policy_counters hs ht.invalid
  refine ⟨⟨?_, ?_⟩, (hno.policy hs).unrepaired⟩
  · rw [hn, hbreak, hinvalid, hzero]
  · rw [hr, if_neg hretry, hretries]
    exact ht.transient

theorem DriveLoop.Tracked.same {s : ConversationState} (ht : l.Tracked)
    (hs : SameTally l.state s) : { l with state := s }.Tracked :=
  ⟨hs.invalid.trans ht.invalid, hs.transient.trans ht.transient⟩

theorem try_reducer_ok {accepted : ConversationState → Py DriveLoop}
    {result : Py ConversationState}
    (h : try_reducer limits l code message accepted result = .ok l') :
    (∃ s, result = .ok s ∧ accepted s = .ok l') ∨ repair limits l code message = .ok l' := by
  cases result with
  | ok s => exact .inl ⟨s, rfl, h⟩
  | error e =>
    rcases ite_eq_ok.mp h with ⟨_, h⟩ | ⟨_, h⟩
    · exact .inr h
    · cases h

/-- An accepted control that comes back to the head touches no fact. -/
theorem accept_keeps {c : TriedControl} {s s' : ConversationState} (hc : c.continues = true)
    (h : c.accept rules s = .ok s') : SameTally s s' := by
  cases c <;> simp only [TriedControl.continues, Bool.false_eq_true] at hc <;>
    simp only [TriedControl.accept] at h
  case begin_answer =>
    obtain ⟨_, h⟩ := accept_begin_answer_ok h
    exact .of_run (by rw [h]) (by rw [h])
  case goal_proposal =>
    obtain ⟨_, _, _, h⟩ := accept_goal_draft_proposal_ok h
    exact .of_run (by rw [h]) (by rw [h])
  case goal_progress =>
    obtain ⟨_, _, _, _, _, _, _, h⟩ := record_goal_progress_ok h
    exact .of_run (by rw [h]) (by rw [h])
  case goal_delta_proposal =>
    obtain ⟨_, _, _, _, _, _, _, _, h⟩ := accept_goal_delta_proposal_ok h
    exact .of_run (by rw [h]) (by rw [h])

theorem claim_completion_kept {claim : CompletionClaim} {records : List EvidenceRecord}
    (h : claim_completion rules limits l claim records message = .ok l') (ht : l.Tracked)
    (hno : NoBatch l.state) : l'.Kept := by
  have hcode : "invalid_model_control" ∈ INVALID_REPAIR_POLICY_CODES := by decide
  -- records, claim and completion: each is accepted or answered by a repair
  rcases try_reducer_ok h with ⟨s₁, h₁, h⟩ | h
  swap
  · exact repair_kept h hcode ht hno
  have hs₁ : SameTally l.state s₁ := by
    rcases ite_eq_ok.mp h₁ with ⟨_, h₁⟩ | ⟨_, h₁⟩
    · obtain rfl := pure_eq_ok.mp h₁
      exact .refl _
    · rcases record_evidence_ok h₁ with rfl | h₁
      · exact .refl _
      · exact .of_run (by rw [h₁]) (by rw [h₁])
  rcases try_reducer_ok h with ⟨s₂, h₂, h⟩ | h
  swap
  · exact repair_kept h hcode (ht.same hs₁) (hno.same hs₁)
  have hs₂ : SameTally l.state s₂ := by
    obtain ⟨_, h₂⟩ := record_completion_claim_ok h₂
    exact hs₁.trans (.of_run (by rw [h₂]) (by rw [h₂]))
  rcases try_reducer_ok h with ⟨_, _, h⟩ | h
  · cases h
  · exact repair_kept h hcode (ht.same hs₂) (hno.same hs₂)

/-- The answer sets the live repairs back, or breaks the row in the log. -/
def ModelAnswer.forgets_repairs (rules : TextRules) (s : ConversationState) : ModelAnswer → Bool
  | .tried control                         => succeeds (control.accept rules s) fun _ => true
  | .feedback _ | .completion_claim _ none => true
  | _                                      => false

def ModelAnswer.is_unadvertised : ModelAnswer → Bool
  | .unadvertised_tool => true
  | _                  => false

theorem take_answer_kept {answer : ModelAnswer}
    (h : take_answer rules limits l message answer = .ok l') (ht : l.Tracked)
    (hno : NoBatch l.state) (hadvertised : answer.is_unadvertised = false)
    (hforgets : answer.forgets_repairs rules l.state = true → l.invalid_repairs = 0) :
    l'.Kept := by
  cases answer with
  | untried answer => exact repair_kept h answer.code_mem ht hno
  | tried control =>
    rcases try_reducer_ok h with ⟨s, hs, h⟩ | h
    · simp only [bind_eq_ok, refuse_eq_ok, Bool.not_eq_false, pure_eq_ok] at h
      obtain ⟨_, hcontinues, rfl⟩ := h
      have hsame := accept_keeps hcontinues hs
      have hzero := hforgets (succeeds_iff.mpr ⟨s, hs, rfl⟩)
      refine ⟨⟨?_, hsame.transient.trans ht.transient⟩, (hno.same hsame).unrepaired⟩
      exact hsame.invalid.trans (hzero ▸ ht.invalid)
    · exact repair_kept h control.code_mem ht hno
  | stalled_progress => exact passing_kept h rfl (by decide) ht hno
  | noop_goal_delta proposal =>
    rcases try_reducer_ok h with ⟨s, hs, h⟩ | h
    · obtain ⟨_, _, _, _, _, _, hs⟩ := acknowledge_noop_goal_delta_ok hs
      have hsame : SameTally l.state s := .of_run (by rw [hs]) (by rw [hs])
      exact passing_kept h rfl (by decide) (ht.same hsame) (hno.same hsame)
    · exact repair_kept h (by decide) ht hno
  | feedback feedback =>
    refine breaking_kept h ?_ ?_ ht hno (hforgets rfl) <;> cases feedback <;> decide
  | completion_claim claim derived =>
    cases derived with
    | none => exact breaking_kept h (by decide) (by decide) ht hno (hforgets rfl)
    | some records => exact claim_completion_kept h ht hno
  | unadvertised_tool => cases hadvertised
  | tool_batch calls preamble continuation =>
    simp only [take_answer, bind_eq_ok, pure_eq_ok] at h
    obtain ⟨s, hs, rfl⟩ := h
    obtain ⟨active, active', batch, hactive, _, _, hkind, _, hactive', hs⟩ := start_tool_batch_ok hs
    -- the batch is the last fact, and no repair stands behind it
    have hlog : Unrepaired s.val.facts := by
      rw [hs]
      exact .of_last (by rw [hkind]; exact FactKind.noConfusion)
    have hrun : s.val.active_run = some active' := by rw [hs]
    refine ⟨⟨?_, ?_⟩, fun _ _ _ => hlog⟩
    · simp only [run_invalid_repairs, hrun]
      exact hlog _
    · rw [← ht.transient]
      simp [run_transient_retries, hactive, hactive', hs, List.countP_append,
        is_transient_retry_of, is_policy_of, hkind]

/-- What a step may not do for the counters to agree: meet a usable answer
    after a recorded retry, forget an unresolved repair, call a tool that is
    not offered, or compact a recorded retry away. -/
def DriveStep.keeps_allowance (rules : TextRules) (l : DriveLoop) : DriveStep → Bool
  | .answered attempt answer _ =>
    l.retryable_provider_retries = 0 && !answer.is_unadvertised &&
      (l.invalid_repairs = 0 || !succeeds (make_attempt rules l.state attempt) fun s =>
        answer.forgets_repairs rules s)
  | .compaction _ _ removable_fact_ids _ => !removes_retry l.state removable_fact_ids
  | _ => true

theorem removes_retry_eq (s : ConversationState) (removable : List String) :
    removes_retry s removable = s.run_key.any fun key => s.val.facts.any fun f =>
      removable.contains f.val.fact_id && is_transient_retry_of key.1 f := by
  unfold removes_retry ConversationState.run_key
  cases s.val.active_run <;> rfl

/-- A tool result finds no repair and leaves none. -/
theorem tool_result_kept {outcome : CallOutcome} {replan : Option String}
    (h : drive_step rules limits l (.tool_result outcome replan) = .ok l') (hl : l.Kept) :
    l'.Kept := by
  simp only [drive_step, bind_eq_ok, refuse_eq_ok, Bool.not_eq_false] at h
  obtain ⟨active, hphase, _, hadmissions, s, hs, h⟩ := h
  obtain ⟨hactive, hphase⟩ := require_phase_ok hphase
  have hsaves := call_saves hadmissions
  have hadds := call_outcome_adds_results hadmissions hs
  have hopen : active.val.tool_calls ≠ [] := by
    obtain ⟨⟨c, hc⟩, _⟩ := ActiveRun.of_tool_phase hphase
    intro hnil
    simp [ActiveRunFields.current_call, hnil] at hc
  -- a batch is open, so no repair was counted since it came
  have hquiet : Unrepaired l.state.val.facts := hl.batch _ (run_log_core hactive) hopen
  have hquiet' : Unrepaired s.val.facts := by
    obtain ⟨rs, hrs, hkind⟩ := hadds.facts
    rw [hrs]
    refine hquiet.pad (.back _ fun f hf => ?_)
    rw [hkind f hf]
    exact FactKind.noConfusion
  have hzero : l.invalid_repairs = 0 := by
    have := hl.tracked.invalid
    simp only [run_invalid_repairs, hactive] at this
    exact (ok_eq_ok.mp (this.symm.trans (hquiet _)))
  have hs_tracked : { l with state := s }.Tracked := by
    refine ⟨?_, hadds.transient.trans hl.tracked.transient⟩
    rw [run_invalid_repairs_eq]
    cases s.run_key with
    | none => exact congrArg _ hzero.symm
    | some key =>
      rw [Option.elim_some, hquiet' key.1]
      exact congrArg _ hzero.symm
  cases replan with
  | none =>
    obtain rfl := pure_eq_ok.mp h
    exact ⟨hs_tracked, fun _ _ _ => hquiet'⟩
  | some message =>
    simp only [bind_eq_ok, refuse_eq_ok] at h
    obtain ⟨_, _, h⟩ := h
    obtain ⟨happend, hinvalid, hretries⟩ := give_feedback_ok h
    obtain ⟨hn, hr⟩ := policy_counters happend hs_tracked.invalid
    obtain ⟨_, f, _, _, hfacts, _, _, hcode⟩ := append_policy_result_fact happend
    refine ⟨⟨?_, ?_⟩, fun _ _ _ => ?_⟩
    · rw [hn, hinvalid]
      rfl
    · rw [hr, hretries]
      exact hs_tracked.transient
    · change Unrepaired l'.state.val.facts
      rw [hfacts]
      exact hquiet'.passing hcode rfl

/-- Every step back to the head keeps the counters together. -/
theorem drive_step_kept {step : DriveStep} (h : drive_step rules limits l step = .ok l')
    (hstep : step.keeps_allowance rules l = true) (hl : l.Kept) : l'.Kept := by
  cases step with
  | tool_result outcome replan => exact tool_result_kept h hl
  | compaction attempt summary removable source_scope =>
    simp only [drive_step, bind_eq_ok, pure_eq_ok] at h
    obtain ⟨active, hphase, s, hs, t, ht, rfl⟩ := h
    obtain ⟨hactive, hphase⟩ := require_phase_ok hphase
    have hsame := make_attempt_keeps hs
    have hkeep : removes_retry s removable = false := by
      rw [removes_retry_eq, hsame.facts, hsame.run_key, ← removes_retry_eq]
      simpa [DriveStep.keeps_allowance] using hstep
    obtain ⟨hinvalid, htransient, hkey⟩ := compaction_counters ht hkeep
    have hno := (no_batch_of_model hactive hphase).same hsame
    refine ⟨⟨?_, ?_⟩, NoBatch.unrepaired fun key hkey' => hno key (hkey ▸ hkey')⟩
    · exact hinvalid.trans (hsame.invalid.trans hl.tracked.invalid)
    · exact htransient.trans (hsame.transient.trans hl.tracked.transient)
  | invalid_response attempt message =>
    simp only [drive_step, bind_eq_ok] at h
    obtain ⟨active, hphase, s, hs, h⟩ := h
    obtain ⟨hactive, hphase⟩ := require_phase_ok hphase
    have hsame := make_attempt_keeps hs
    exact repair_kept h (by decide) (hl.tracked.same hsame)
      ((no_batch_of_model hactive hphase).same hsame)
  | transient_failure attempt message =>
    simp only [drive_step, bind_eq_ok] at h
    obtain ⟨active, hphase, s, hs, _, _, h⟩ := h
    obtain ⟨hactive, hphase⟩ := require_phase_ok hphase
    have hsame := make_attempt_keeps hs
    obtain ⟨happend, hinvalid, hretries⟩ := give_feedback_ok h
    obtain ⟨hn, hr⟩ := policy_counters happend (hsame.invalid.trans hl.tracked.invalid)
    refine ⟨⟨?_, ?_⟩, (((no_batch_of_model hactive hphase).same hsame).policy happend).unrepaired⟩
    · rw [hn, hinvalid]
      rfl
    · rw [hr, hretries]
      exact congrArg (· + 1) (hsame.transient.trans hl.tracked.transient)
  | answered attempt answer message =>
    simp only [drive_step, bind_eq_ok] at h
    obtain ⟨active, hphase, s, hs, h⟩ := h
    obtain ⟨hactive, hphase⟩ := require_phase_ok hphase
    have hsame := make_attempt_keeps hs
    simp only [DriveStep.keeps_allowance, Bool.and_eq_true, decide_eq_true_eq,
      Bool.not_eq_true', Bool.or_eq_true] at hstep
    obtain ⟨⟨hretries, hadvertised⟩, hforgets⟩ := hstep
    -- a usable answer sets the live retries back, and there were none
    have htracked : DriveLoop.Tracked { l with state := s, retryable_provider_retries := 0 } :=
      ⟨hsame.invalid.trans hl.tracked.invalid,
        (hsame.transient.trans hl.tracked.transient).trans hretries⟩
    refine take_answer_kept h htracked ((no_batch_of_model hactive hphase).same hsame) hadvertised
      fun hanswer => hforgets.resolve_right ?_
    exact Bool.not_eq_false _ ▸ succeeds_iff.mpr ⟨s, hs, hanswer⟩

end Iterations

/-! ### Runs of invocations -/

section Runs

variable {rules : TextRules} {limits : InvocationLimits}

def InvocationStep.keeps_allowance (rules : TextRules) : Invocation → InvocationStep → Bool
  | .driving l, .iterate step => step.keeps_allowance rules l
  | _, _                      => true

/-- The invariant of invocations: the loop is kept, and between invocations an
    open batch is unrepaired. -/
def Invocation.Kept : Invocation → Prop
  | .idle s    => BatchUnrepaired s.run_log
  | .driving l => l.Kept

theorem invocation_step_kept {i i' : Invocation} {t : InvocationStep}
    (h : invocation_step rules limits i t = .ok i') (ht : t.keeps_allowance rules i = true)
    (hi : i.Kept) : i'.Kept := by
  cases i with
  | idle s =>
    cases t with
    | between t =>
      simp only [invocation_step, bind_eq_ok, refuse_eq_ok, Bool.not_eq_true, pure_eq_ok] at h
      obtain ⟨_, hl, s', hs', rfl⟩ := h
      exact transition_unrepaired hs' hl hi
    | enter =>
      simp only [invocation_step, bind_eq_ok, pure_eq_ok] at h
      obtain ⟨l, hl, rfl⟩ := h
      obtain ⟨rfl, htracked⟩ := DriveLoop.Tracked.entry hl
      exact ⟨htracked, hi⟩
    | iterate step => cases h
    | leave saves => cases h
  | driving l =>
    cases t with
    | iterate step =>
      simp only [invocation_step, bind_eq_ok, pure_eq_ok] at h
      obtain ⟨l', hl', rfl⟩ := h
      exact drive_step_kept hl' ht hi
    | leave saves =>
      simp only [invocation_step, bind_eq_ok, refuse_eq_ok, Bool.not_eq_true, pure_eq_ok] at h
      obtain ⟨_, hsaves, s, hs, rfl⟩ := h
      have hloop : ∀ t ∈ saves, t.is_loop_only = false := by simpa using hsaves
      exact saves_unrepaired hloop hs hi.batch
    | between t => cases h
    | enter => cases h

/-- The counters depend on the facts and the id of the run. -/
theorem counters_congr {s s' : ConversationState} (hfacts : s'.val.facts = s.val.facts)
    (hid : (s'.val.active_run.map fun r => r.val.run_id) =
      (s.val.active_run.map fun r => r.val.run_id)) :
    run_invalid_repairs s' = run_invalid_repairs s ∧
      run_transient_retries s' = run_transient_retries s := by
  unfold run_invalid_repairs run_transient_retries
  cases hs : s.val.active_run <;> cases hs' : s'.val.active_run <;> rw [hs, hs'] at hid
  · exact ⟨rfl, rfl⟩
  · cases hid
  · cases hid
  · simp only [hfacts, Option.some.inj hid, and_self]

/-- At every head of the loop the rebuilt counters are the live ones, so an
    invocation that enters the loop where another one stood, with the same
    facts and the same run, has its counters. -/
theorem repair_allowances_kept (rules : TextRules) (limits : InvocationLimits)
    {s₀ : ConversationState} {steps : List InvocationStep} {l : DriveLoop}
    (hidle : s₀.val.active_run = none)
    (hsteps : (drive_system rules limits).Along
      (fun i t => t.keeps_allowance rules i = true) (.idle s₀) steps)
    (hrun : (drive_system rules limits).run (.idle s₀) steps = .ok (.driving l)) :
    run_invalid_repairs l.state = .ok l.invalid_repairs ∧
    run_transient_retries l.state = l.retryable_provider_retries ∧
    ∀ s : ConversationState, s.val.facts = l.state.val.facts →
      (s.val.active_run.map fun r => r.val.run_id) =
        (l.state.val.active_run.map fun r => r.val.run_id) →
      drive_entry s = .ok { l with state := s } := by
  have hstart : Invocation.Kept (.idle s₀) := by
    intro core hcore
    rw [run_log_core_none hidle] at hcore
    cases hcore
  have hkept : Invocation.Kept (.driving l) :=
    System.run_invariant_along (I := Invocation.Kept)
      (fun _ _ _ hi ht h => invocation_step_kept h ht hi) hstart hsteps hrun
  obtain ⟨hinvalid, htransient⟩ := hkept.tracked
  refine ⟨hinvalid, htransient, fun s hfacts hid => ?_⟩
  obtain ⟨hrepairs, hretries⟩ := counters_congr hfacts hid
  rw [hinvalid] at hrepairs
  rw [htransient] at hretries
  simp [drive_entry, hrepairs, hretries, bind, Except.bind, pure, Except.pure]

end Runs

/-! ### A retry the loop forgets -/

section ForgottenRetry

def retry_limits : InvocationLimits where
  max_retryable_provider_retries := 1

def attempt_steps : List Transition := [.record_foreground_model_attempt 1]

/-- A message is taken and an invocation enters the loop. -/
def entering_steps : List InvocationStep := [
  .between (submit_step 1 0 "run-1"), .between (.claim_run "invocation-1"), .enter]

/-- A retry and a repair, a pause at a limit, and a second invocation. -/
def resumed_steps : List InvocationStep := entering_steps ++ [
  .iterate (.transient_failure attempt_steps "retry"),
  .iterate (.invalid_response attempt_steps "again"),
  .leave [.pause_for_limit],
  .between (.accept_action "" {
      conversation_id := "conversation", action_seq := 2, expected_revision := 7
      body := .resume } 64 none),
  .between (.claim_run "invocation-2"), .enter]

/-- The second invocation has the allowance the first one left. -/
theorem allowance_resumed : ∃ l,
    (drive_system .silent retry_limits).run (.idle .fresh) resumed_steps = .ok (.driving l) ∧
    l.invalid_repairs = 1 ∧ l.retryable_provider_retries = 1 ∧
    run_invalid_repairs l.state = .ok l.invalid_repairs := by
  have hruns : succeeds ((drive_system .silent retry_limits).run (.idle .fresh) resumed_steps)
      (fun i => match i with
        | .driving l => l.invalid_repairs = 1 && l.retryable_provider_retries = 1
        | .idle _    => false) = true := by decide +kernel
  have hkeeps : ∀ t ∈ resumed_steps, ∀ i, t.keeps_allowance .silent i = true := by
    intro t ht i
    simp only [resumed_steps, entering_steps, List.cons_append, List.nil_append, List.mem_cons,
      List.not_mem_nil, or_false] at ht
    rcases ht with rfl | rfl | rfl | rfl | rfl | rfl | rfl | rfl | rfl <;> cases i <;> rfl
  obtain ⟨i, hi, hcounters⟩ := succeeds_iff.mp hruns
  cases i with
  | idle s => cases hcounters
  | driving l =>
    simp only [Bool.and_eq_true, decide_eq_true_eq] at hcounters
    have hkept := repair_allowances_kept .silent retry_limits rfl
      (System.along_of_always hkeeps) hi
    exact ⟨l, hi, hcounters.1, hcounters.2, hkept.1⟩

/-- A retry, and an answer that is not accepted. -/
def forgetting_steps : List InvocationStep := entering_steps ++ [
  .iterate (.transient_failure attempt_steps "retry"),
  .iterate (.answered attempt_steps (.untried .empty_output) "again")]

/-- The usable answer sets the live retries back; a rebuilt loop has used the
    allowance up. -/
theorem retry_forgotten : ∃ l,
    (drive_system .silent retry_limits).run (.idle .fresh) forgetting_steps = .ok (.driving l) ∧
    l.retryable_provider_retries = 0 ∧ run_transient_retries l.state = 1 := by
  have hruns : succeeds ((drive_system .silent retry_limits).run (.idle .fresh) forgetting_steps)
      (fun i => match i with
        | .driving l => l.retryable_provider_retries = 0 && run_transient_retries l.state = 1
        | .idle _    => false) = true := by decide +kernel
  obtain ⟨i, hi, hcounters⟩ := succeeds_iff.mp hruns
  cases i with
  | idle s => cases hcounters
  | driving l =>
    simp only [Bool.and_eq_true, decide_eq_true_eq] at hcounters
    exact ⟨l, hi, hcounters⟩

end ForgottenRetry
