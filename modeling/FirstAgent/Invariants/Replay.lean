import FirstAgent.Framework.ReplayLog
import FirstAgent.State.Accept

/-! # At-Most-Once Application of Actions

    The replay window of a state represents an at-most-once log of everything
    ever accepted.  Accepting appends to the log, finalizing stores a result in
    it, eviction forgets a finished front, and resubmissions are answered from
    it. -/

open Fallible ReplayLog

/-! ### The window of a state -/

/-- The part of a state resubmissions are answered from. -/
structure ReplayWindow where
  conversation_id : String
  next_action_seq : Int
  replay_floor : Int
  replay_records : List ReplayRecord

def ConversationStateFields.replay_window (s : ConversationStateFields) : ReplayWindow :=
  ⟨s.conversation_id, s.next_action_seq, s.replay_floor, s.replay_records⟩

theorem admission_step.replay_window {s s' : ConversationState} (h : admission_step s s') :
    s'.val.replay_window = s.val.replay_window := by
  rcases h with rfl | ⟨_, _, _, _, _, _, _, h⟩
  · rfl
  · rw [h]
    rfl

theorem approve_request_replay_window {rules : TextRules} {s s' : ConversationState}
    {active : ActiveRun} {pending : ApprovalRequest} {seq : Int} {digest : String}
    {a : ResolveApproval} (h : approve_request rules s active pending seq digest a = .ok s') :
    s'.val.replay_window = s.val.replay_window := by
  obtain ⟨_, t₁, t₂, _, _, _, ⟨_, _, s₁, h₁, hs₁⟩, h₂, h₃⟩ := approve_request_ok h
  have ht₁ : t₁.val.replay_window = s.val.replay_window := by
    rw [h₁.replay_window, hs₁]
    rfl
  rw [h₃.replay_window, ← ht₁]
  rcases h₂ with ⟨_, _, h₂⟩ | ⟨_, _, _, _, _, _, h₂⟩ <;> rw [h₂] <;> rfl

/-- No action touches the replay window. -/
theorem apply_action_replay_window {rules : TextRules} {clock : String} {s s' : ConversationState}
    {action : RuntimeAction} {now : Option String}
    (h : apply_action rules clock s action now = .ok s') :
    s'.val.replay_window = s.val.replay_window := by
  unfold apply_action at h
  cases hbody : action.body <;>
    simp only [hbody, bind_eq_ok, Py.expect_value_eq_ok, Checked.make_eq_ok, pure_eq_ok,
      revoke_process_authority] at h
  case submit_message =>
    obtain ⟨_, _, _, _, _, _, h⟩ := submit_message_ok h
    rw [h]; rfl
  case resolve_approval =>
    obtain ⟨active, _, h⟩ := h
    simp only [resolve_approval, bind_eq_ok, Py.expect_value_eq_ok, ite_eq_ok] at h
    obtain ⟨pending, _, ⟨_, h⟩ | ⟨_, h⟩⟩ := h
    · exact approve_request_replay_window h
    · obtain ⟨_, _, _, _, _, h⟩ := decline_request_ok h
      rw [h]; rfl
  case resolve_unknown_tool_outcome =>
    obtain ⟨_, _, h⟩ := h
    obtain ⟨_, _, _, _, _, _, h⟩ := resolve_unknown_tool_outcome_ok h
    rw [h]; rfl
  case recover_unknown_observation =>
    obtain ⟨_, _, h⟩ := h
    obtain ⟨_, _, _, _, _, _, h⟩ := recover_unknown_observation_ok h
    rw [h]; rfl
  case abandon_unknown_model_outcome =>
    obtain ⟨_, _, _, _, _, h⟩ := end_run_ok h
    rw [h]; rfl
  case resume =>
    obtain ⟨_, _, h⟩ := h
    rcases resume_run_ok h with rfl | ⟨_, _, h⟩
    · rfl
    · rw [h]; rfl
  case cancel_run =>
    obtain ⟨_, _, h⟩ := h
    obtain ⟨_, _, _, h⟩ := cancel_run_ok h
    rw [h]; rfl
  case acknowledge_provider_disclosure =>
    obtain ⟨_, _, _, _, h⟩ := acknowledge_provider_disclosure_ok h
    rw [h]; rfl
  case grant_provider_consent =>
    obtain ⟨_, _, _, _, h⟩ := grant_provider_consent_ok h
    rw [h]; rfl
  case grant_provider_workspace_read_consent =>
    obtain ⟨_, _, _, _, h⟩ := grant_provider_workspace_read_consent_ok h
    rw [h]; rfl
  case revoke_provider_consent =>
    obtain ⟨_, _, _, h⟩ := revoke_provider_consent_ok h
    rw [h]; rfl
  case select_goal =>
    obtain ⟨_, _, h⟩ := h
    cases h
  case pause_goal =>
    obtain ⟨_, _, _, _, _, _, _, h⟩ := pause_goal_ok h
    rw [h]; rfl
  case resume_goal =>
    obtain ⟨_, _, _, _, _, h⟩ := resume_goal_ok h
    rw [h]; rfl
  case cancel_goal =>
    obtain ⟨_, _, _, _, _, _, _, h⟩ := cancel_goal_ok h
    rw [h]; rfl
  case confirm_criterion =>
    obtain ⟨_, _, _, h⟩ := confirm_criterion_ok h
    rw [h]; rfl
  case revoke_process_authority =>
    rw [h]; rfl
  case revoke_goal_target_authority =>
    rw [h]; rfl
  case complete_browser_takeover =>
    obtain ⟨_, h, rfl⟩ := h
    rw [complete_browser_takeover_ok h]; rfl
  case cancel_browser_takeover =>
    rw [cancel_browser_takeover_ok h]; rfl
  case execute_operator_tool =>
    obtain ⟨_, _, _, _, _, _, _, _, h⟩ := start_operator_tool_ok h
    rw [h]; rfl

/-! ### The log behind a window -/

def record_seq (r : ReplayRecord) : Int := r.val.action_seq

def record_entry (r : ReplayRecord) : Entry String RecordedRunResult :=
  ⟨r.val.action_digest, r.val.result⟩

/-- An accepted action as its record shows it. -/
def digest_entry (e : Entry RuntimeAction RecordedRunResult) : Entry String RecordedRunResult :=
  ⟨canonical_action_digest e.request, e.result⟩

/-- The window holds what the log retains, under consecutive numbers. -/
structure Represents (w : ReplayWindow) (log : Log RuntimeAction RecordedRunResult) : Prop where
  next : w.next_action_seq = log.entries.length + 1
  floor : w.replay_floor = log.forgotten + 1
  numbered : Numbered record_seq w.replay_floor w.replay_records
  retained : w.replay_records.map record_entry = log.retained.map digest_entry

section Windows

variable {w : ReplayWindow} {log : Log RuntimeAction RecordedRunResult}

theorem Represents.length (h : Represents w log) :
    w.replay_records.length = log.retained.length := by
  have := congrArg List.length h.retained
  simpa using this

/-- The record at a position shows the entry behind the forgotten front. -/
theorem Represents.entry_at (h : Represents w log) {i : Nat} (hi : i < w.replay_records.length) :
    ∃ e, log.entries[log.forgotten + i]? = some e ∧
      record_seq w.replay_records[i] = ((log.forgotten + i : Nat) : Int) + 1 ∧
      record_entry w.replay_records[i] = digest_entry e := by
  have hi' : log.forgotten + i < log.entries.length := by
    have := h.length
    have := log.retained_length
    omega
  refine ⟨log.entries[log.forgotten + i], List.getElem?_eq_getElem hi', ?_, ?_⟩
  · rw [h.numbered.getElem hi, h.floor]
    push_cast
    omega
  · have := List.getElem_of_eq h.retained (i := i) (by simpa using hi)
    simpa [Log.retained] using this

/-- Records kept after a front of finished ones represent the log that forgot
    them. -/
theorem Represents.forget (h : Represents w log) {k : Nat} (hk : k ≤ w.replay_records.length)
    (hfinished : ∀ r ∈ w.replay_records.take k, r.val.result ≠ none) :
    ∃ log' : Log RuntimeAction RecordedRunResult, log'.entries = log.entries ∧
      Represents { w with
        replay_floor := w.replay_floor + k
        replay_records := w.replay_records.drop k } log' := by
  have hlen := h.length
  have hdone : ∀ e ∈ log.retained.take k, e.result ≠ none := by
    intro e he
    have hmem : digest_entry e ∈ (w.replay_records.take k).map record_entry := by
      rw [List.map_take, h.retained, ← List.map_take]
      exact List.mem_map_of_mem he
    obtain ⟨r, hr, hre⟩ := List.mem_map.mp hmem
    have : r.val.result = e.result := congrArg Entry.result hre
    rw [← this]
    exact hfinished r hr
  refine ⟨log.forget k (by omega) hdone, rfl, ?_⟩
  exact {
    next := h.next
    floor := by
      have := h.floor
      simp only [Log.forget]
      push_cast
      omega
    numbered := h.numbered.drop k
    retained := by
      rw [Log.retained_forget, List.map_drop, List.map_drop, h.retained] }

/-- Appending the record of the next action represents accepting it. -/
theorem Represents.accept (h : Represents w log) (action : RuntimeAction)
    (record : ReplayRecord) (hrecord : record.val =
      { action_seq := w.next_action_seq, action_digest := canonical_action_digest action }) :
    Represents { w with
      next_action_seq := w.next_action_seq + 1
      replay_records := w.replay_records ++ [record] } (log.accept action) where
  next := by
    have := h.next
    simp only [Log.accept, List.length_append, List.length_singleton]
    push_cast
    omega
  floor := h.floor
  numbered := by
    refine h.numbered.append ?_
    have hnext := h.next
    have hfloor := h.floor
    have hlen := h.length
    have := log.retained_length
    simp only [record_seq, hrecord]
    omega
  retained := by
    rw [Log.retained_accept, List.map_append, List.map_append, h.retained]
    simp [record_entry, digest_entry, hrecord]

/-- Storing a result in the record of a number represents finishing it. -/
theorem Represents.finish (h : Represents w log) {front back : List ReplayRecord}
    {r r' : ReplayRecord} {result : RecordedRunResult}
    (hrecords : w.replay_records = front ++ r :: back)
    (hr' : r'.val = { r.val with result := some result }) :
    Represents { w with replay_records := front ++ r' :: back }
      (log.finish (log.forgotten + front.length) result) where
  next := by simpa [Log.finish] using h.next
  floor := h.floor
  numbered := by
    refine h.numbered.congr ?_
    simp [hrecords, record_seq, hr']
  retained := by
    have hmodify : (front ++ r' :: back).map record_entry =
        (w.replay_records.map record_entry).modify front.length
          fun e => { e with result := some result } := by
      rw [hrecords, List.map_append, List.map_cons, List.map_append, List.map_cons,
        ← List.length_map (f := record_entry), modify_front_length]
      simp [record_entry, hr']
    rw [hmodify, h.retained, Log.retained_finish]
    refine List.ext_getElem (by simp) fun i hi _ => ?_
    simp only [List.getElem_modify, List.getElem_map]
    split <;> rfl

end Windows

/-! ### Eviction -/

theorem evict_for_append_ok {max_replay_records floor floor' : Int}
    {records records' : List ReplayRecord} (hnum : Numbered record_seq floor records)
    (h : evict_for_append max_replay_records floor records = some (floor', records')) :
    ∃ k ≤ records.length, records' = records.drop k ∧ floor' = floor + k ∧
      ∀ r ∈ records.take k, r.val.result ≠ none := by
  induction records generalizing floor with
  | nil =>
    simp only [evict_for_append, Option.ite_none_right_eq_some, Option.some.injEq,
      Prod.mk.injEq] at h
    obtain ⟨_, rfl, rfl⟩ := h
    exact ⟨0, Nat.le_refl _, rfl, by simp, by simp⟩
  | cons r records ih =>
    obtain ⟨hr, hnum⟩ := hnum
    have hseq : r.val.action_seq = floor := hr
    rw [evict_for_append, hseq, show max floor (floor + 1) = floor + 1 by omega] at h
    split at h
    · simp only [Option.some.injEq, Prod.mk.injEq] at h
      obtain ⟨rfl, rfl⟩ := h
      exact ⟨0, Nat.zero_le _, rfl, by simp, by simp⟩
    split at h
    · cases h
    next hresult =>
    obtain ⟨k, hk, rfl, rfl, hfinished⟩ := ih hnum h
    refine ⟨k + 1, by simpa using hk, rfl, by push_cast; omega, ?_⟩
    simpa using ⟨hresult, hfinished⟩

theorem evict_finished_ok {max_replay_records floor floor' : Int}
    {records records' : List ReplayRecord} (hnum : Numbered record_seq floor records)
    (h : evict_finished max_replay_records floor records = .ok (floor', records')) :
    ∃ k ≤ records.length, records' = records.drop k ∧ floor' = floor + k ∧
      ∀ r ∈ records.take k, r.val.result ≠ none := by
  induction records generalizing floor with
  | nil =>
    simp only [evict_finished, pure_eq_ok, Prod.mk.injEq] at h
    obtain ⟨rfl, rfl⟩ := h
    exact ⟨0, Nat.le_refl _, rfl, by simp, by simp⟩
  | cons r records ih =>
    obtain ⟨hr, hnum⟩ := hnum
    have hseq : r.val.action_seq = floor := hr
    rw [evict_finished, hseq, show max floor (floor + 1) = floor + 1 by omega] at h
    simp only [ite_eq_ok, pure_eq_ok, bind_eq_ok, Py.refuse_value_eq_ok, Prod.mk.injEq] at h
    rcases h with ⟨_, rfl, rfl⟩ | ⟨_, _, hresult, h⟩
    · exact ⟨0, Nat.zero_le _, rfl, by simp, by simp⟩
    · obtain ⟨k, hk, rfl, rfl, hfinished⟩ := ih hnum h
      refine ⟨k + 1, by simpa using hk, rfl, by push_cast; omega, ?_⟩
      simpa using ⟨hresult, hfinished⟩

/-! ### Sessions -/

/-- A call of the program that answers actions. -/
inductive Call where
  | accept (clock : String) (action : RuntimeAction) (max_replay_records : Int)
      (now : Option String)
  | finalize (action_seq : Int) (result : RecordedRunResult) (max_replay_records : Int)

/-- A stored state with the history it does not hold: every action ever
    accepted, in order, with the result it was finalized with. -/
structure Session where
  state : ConversationState
  ledger : List (Entry RuntimeAction RecordedRunResult) := []

namespace Session

def action_seq (e : Entry RuntimeAction RecordedRunResult) : Int := e.request.action_seq

def record_finalized (n : Int) (result : RecordedRunResult)
    (e : Entry RuntimeAction RecordedRunResult) : Entry RuntimeAction RecordedRunResult :=
  if action_seq e = n then { e with result := some result } else e

/-- Take a call; one that raises leaves the stored state. -/
def step (rules : TextRules) (h : Session) : Call → Session
  | .accept clock action max_replay_records now =>
    match accept_action rules clock h.state action max_replay_records now with
    | .error _ => h
    | .ok t    => {
        state := t.state
        ledger := if t.disposition = .accepted then h.ledger ++ [⟨action, none⟩] else h.ledger }
  | .finalize n result max_replay_records =>
    match finalize_action h.state n result max_replay_records with
    | .error _ => h
    | .ok s'   => { state := s', ledger := h.ledger.map (record_finalized n result) }

def run (rules : TextRules) (h : Session) (calls : List Call) : Session :=
  calls.foldl (step rules) h

/-- The stored state represents the ledger, which numbers the actions of the
    conversation from one. -/
structure Consistent (conversation_id : String) (h : Session) : Prop where
  conversation : h.state.val.conversation_id = conversation_id
  addressed : ∀ e ∈ h.ledger, e.request.conversation_id = conversation_id
  numbered : Numbered action_seq 1 h.ledger
  represents : ∃ log : Log RuntimeAction RecordedRunResult, log.entries = h.ledger ∧
    Represents h.state.val.replay_window log

section Consistency

variable {rules : TextRules} {conversation_id : String} {h : Session}

theorem Consistent.start {s : ConversationState} {workspace : Option ConversationWorkspaceBindingV1}
    {background : Option BackgroundOccurrenceBindingV1}
    (hs : ConversationState.new conversation_id workspace background = .ok s) :
    Consistent conversation_id { state := s } := by
  have hval := Checked.make_eq_ok.mp hs
  exact {
    conversation := by rw [hval]
    addressed := by simp
    numbered := trivial
    represents := ⟨.empty, rfl, {
      next := by rw [hval]; rfl
      floor := by rw [hval]; rfl
      numbered := by rw [hval]; trivial
      retained := by rw [hval]; rfl }⟩ }

/-- A state with the same window is as consistent. -/
theorem Consistent.congr (hc : Consistent conversation_id h) {s : ConversationState}
    (hs : s.val.replay_window = h.state.val.replay_window) :
    Consistent conversation_id { h with state := s } where
  conversation := (congrArg ReplayWindow.conversation_id hs).trans hc.conversation
  addressed := hc.addressed
  numbered := hc.numbered
  represents := by
    obtain ⟨log, hlog, hrep⟩ := hc.represents
    exact ⟨log, hlog, hs ▸ hrep⟩

/-- Accepting the next action appends it to the ledger. -/
theorem Consistent.accepted (hc : Consistent conversation_id h) {clock : String}
    {action : RuntimeAction} {max_replay_records : Int} {now : Option String}
    {healed with_replay applied s' : ConversationState}
    (ha : Accepts rules clock h.state action max_replay_records now healed with_replay applied s') :
    Consistent conversation_id { state := s', ledger := h.ledger ++ [⟨action, none⟩] } := by
  obtain ⟨log, hlog, hrep⟩ := hc.represents
  obtain ⟨_, _, hhealed⟩ := close_orphaned_tool_batches_ok ha.heals
  obtain ⟨floor, records, record, hevict, hrecord, hwith⟩ := append_replay_record_ok ha.records
  rw [hhealed] at hevict hwith
  have hwindow : s'.val.replay_window =
      ⟨h.state.val.conversation_id, h.state.val.next_action_seq + 1, floor,
        records ++ [record]⟩ := by
    rw [ha.result]
    exact (apply_action_replay_window ha.applies).trans (by rw [hwith]; rfl)
  obtain ⟨k, hk, rfl, rfl, hfinished⟩ := evict_for_append_ok hrep.numbered hevict
  obtain ⟨log', hlog', hrep'⟩ := hrep.forget hk hfinished
  have haccept := hrep'.accept action record
    (hrecord.trans (by rw [ha.next]; rfl))
  have hnext : action.action_seq = 1 + h.ledger.length := by
    rw [ha.next, ← hlog]
    have := hrep.next
    simp only [ConversationStateFields.replay_window] at this
    omega
  exact {
    conversation := (congrArg ReplayWindow.conversation_id hwindow).trans hc.conversation
    addressed := by
      intro e he
      rcases List.mem_append.mp he with he | he
      · exact hc.addressed e he
      · obtain rfl := List.mem_singleton.mp he
        exact ha.conversation.trans hc.conversation
    numbered := hc.numbered.append hnext
    represents := by
      refine ⟨log'.accept action, ?_, hwindow ▸ haccept⟩
      rw [Log.entries_accept, hlog', hlog] }

/-- Finalizing puts the result into the record of the number and forgets a
    finished front. -/
theorem finalize_action_records {s s' : ConversationState} {n : Int} {result : RecordedRunResult}
    {max_replay_records : Int}
    (hnum : Numbered record_seq s.val.replay_floor s.val.replay_records)
    (hf : finalize_action s n result max_replay_records = .ok s') :
    ∃ front r r' back k, s.val.replay_records = front ++ r :: back ∧ r.val.action_seq = n ∧
      r'.val = { r.val with result := some result } ∧ k ≤ (front ++ r' :: back).length ∧
      (∀ x ∈ (front ++ r' :: back).take k, x.val.result ≠ none) ∧
      s'.val.replay_window = { s.val.replay_window with
        replay_floor := s.val.replay_floor + (k : Int)
        replay_records := (front ++ r' :: back).drop k } := by
  obtain ⟨record, hfind, ⟨hresult, rfl⟩ | ⟨_, records, floor, kept, hset, hevict, hs'⟩⟩ :=
    finalize_action_ok hf
  · obtain ⟨front, back, hsplit⟩ := List.append_of_mem (List.mem_of_find?_eq_some hfind)
    refine ⟨front, record, record, back, 0, hsplit, ?_, ?_, Nat.zero_le _, by simp, ?_⟩
    · simpa using List.find?_some hfind
    · rw [← hresult]
    · simp [ConversationStateFields.replay_window, hsplit]
  · rcases set_result_ok hset with ⟨_, hne⟩ | ⟨front, r, r', back, hsplit, rfl, hr, hr'⟩
    · refine absurd ?_ (hne record (List.mem_of_find?_eq_some hfind))
      simpa using List.find?_some hfind
    · have hnum' : Numbered record_seq s.val.replay_floor (front ++ r' :: back) := by
        refine hnum.congr ?_
        simp [hsplit, record_seq, hr']
      obtain ⟨k, hk, rfl, rfl, hfinished⟩ := evict_finished_ok hnum' hevict
      exact ⟨front, r, r', back, k, hsplit, hr, hr', hk, hfinished, by rw [hs']; rfl⟩

/-- Finalizing stores the result in the ledger. -/
theorem Consistent.finalized (hc : Consistent conversation_id h) {n : Int}
    {result : RecordedRunResult} {max_replay_records : Int} {s' : ConversationState}
    (hf : finalize_action h.state n result max_replay_records = .ok s') :
    Consistent conversation_id
      { state := s', ledger := h.ledger.map (record_finalized n result) } := by
  obtain ⟨log, hlog, hrep⟩ := hc.represents
  obtain ⟨front, r, r', back, k, hsplit, hr, hr', hk, hfinished, hwindow⟩ :=
    finalize_action_records hrep.numbered hf
  obtain ⟨log', hlog', hrep'⟩ := (hrep.finish hsplit hr').forget hk hfinished
  have hn : n = h.state.val.replay_floor + (front.length : Int) := by
    rw [← hr]
    have hnum := hrep.numbered
    simp only [ConversationStateFields.replay_window, hsplit] at hnum
    exact hnum.split
  have hfloor : h.state.val.replay_floor = log.forgotten + 1 := hrep.floor
  have hmodify := hc.numbered.map_ite_eq_modify (n := n) (by omega)
    fun e => { e with result := some result }
  rw [show (n - 1).toNat = log.forgotten + front.length by omega] at hmodify
  exact {
    conversation := (congrArg ReplayWindow.conversation_id hwindow).trans hc.conversation
    addressed := by
      intro e he
      obtain ⟨e₀, he₀, rfl⟩ := List.mem_map.mp he
      unfold record_finalized
      split <;> exact hc.addressed e₀ he₀
    numbered := by
      refine hc.numbered.congr ?_
      rw [List.map_map]
      refine List.map_congr_left fun e _ => ?_
      simp only [Function.comp, record_finalized]
      split <;> rfl
    represents := by
      refine ⟨log', ?_, hwindow ▸ hrep'⟩
      rw [hlog', Log.entries_finish, hlog]
      exact hmodify.symm }

/-- Every call keeps the stored state and the ledger consistent. -/
theorem Consistent.step (hc : Consistent conversation_id h) (call : Call) :
    Consistent conversation_id (h.step rules call) := by
  cases call with
  | accept clock action max_replay_records now =>
    simp only [Session.step]
    split
    · exact hc
    next t ht =>
    rcases accept_action_ok ht with ⟨hd, _, hstate⟩ | ⟨hd, hstate⟩ | ⟨hd, _, _, _, haccepts⟩
    · rw [if_neg (by simp [hd])]
      refine hc.congr ?_
      rcases hstate with hstate | hstate
      · rw [hstate]
      · obtain ⟨_, _, hval⟩ := close_orphaned_tool_batches_ok hstate
        rw [hval]
        rfl
    · rw [if_neg (by simp [hd])]
      exact hc.congr (by rw [hstate])
    · rw [if_pos hd]
      exact hc.accepted haccepts
  | finalize n result max_replay_records =>
    simp only [Session.step]
    split
    · exact hc
    next s' hs' => exact hc.finalized hs'

theorem Consistent.run (hc : Consistent conversation_id h) (calls : List Call) :
    Consistent conversation_id (h.run rules calls) := by
  induction calls generalizing h with
  | nil => exact hc
  | cons call calls ih => exact ih (hc.step call)

/-! ### What the window says about the ledger -/

/-- A retained record shows an accepted action and its result. -/
theorem Consistent.entry_of_record (hc : Consistent conversation_id h) {r : ReplayRecord}
    (hr : r ∈ h.state.val.replay_records) :
    ∃ e ∈ h.ledger, action_seq e = r.val.action_seq ∧ digest_entry e = record_entry r := by
  obtain ⟨log, hlog, hrep⟩ := hc.represents
  obtain ⟨i, hi, rfl⟩ := List.getElem_of_mem hr
  obtain ⟨e, he, hseq, hentry⟩ := hrep.entry_at hi
  rw [hlog] at he
  obtain ⟨hlt, rfl⟩ := List.getElem?_eq_some_iff.mp he
  refine ⟨_, List.getElem_mem hlt, ?_, hentry.symm⟩
  rw [hc.numbered.getElem hlt]
  exact (Int.add_comm _ _).trans hseq.symm

/-- An accepted action is finalized or still has its record. -/
theorem Consistent.finalized_or_retained (hc : Consistent conversation_id h)
    {e : Entry RuntimeAction RecordedRunResult} (he : e ∈ h.ledger) :
    e.result ≠ none ∨ ∃ r ∈ h.state.val.replay_records,
      r.val.action_seq = action_seq e ∧ digest_entry e = record_entry r := by
  obtain ⟨log, hlog, hrep⟩ := hc.represents
  obtain ⟨j, hj, rfl⟩ := List.getElem_of_mem he
  have hget : log.entries[j]? = some h.ledger[j] := by
    rw [hlog]
    exact List.getElem?_eq_getElem hj
  by_cases hlt : j < log.forgotten
  · exact .inl (log.finished_of_forgotten hget hlt)
  · right
    have hi : j - log.forgotten < h.state.val.replay_records.length := by
      have := hrep.length
      have := log.retained_length
      have := congrArg List.length hlog
      simp only [ConversationStateFields.replay_window] at *
      omega
    obtain ⟨e, hat, hseq, hentry⟩ := hrep.entry_at hi
    rw [show log.forgotten + (j - log.forgotten) = j by omega] at hat hseq
    obtain rfl := Option.some.inj (hget.symm.trans hat)
    refine ⟨_, List.getElem_mem hi, ?_, hentry.symm⟩
    rw [hc.numbered.getElem hj]
    exact hseq.trans (Int.add_comm _ _)

/-- The retained numbers are exactly those from the floor on. -/
theorem Consistent.window (hc : Consistent conversation_id h) :
    h.state.val.next_action_seq = h.ledger.length + 1 ∧
    1 ≤ h.state.val.replay_floor ∧ h.state.val.replay_floor ≤ h.state.val.next_action_seq ∧
    h.state.val.replay_sequences =
      (List.range (h.state.val.next_action_seq - h.state.val.replay_floor).toNat).map
        fun i : Nat => h.state.val.replay_floor + i := by
  obtain ⟨log, hlog, hrep⟩ := hc.represents
  have hnext : h.state.val.next_action_seq = log.entries.length + 1 := hrep.next
  have hfloor : h.state.val.replay_floor = log.forgotten + 1 := hrep.floor
  have hlength : h.state.val.replay_records.length = log.retained.length := hrep.length
  have hretained := log.retained_length
  refine ⟨by rw [hnext, hlog], by omega, by omega, ?_⟩
  have hseqs : h.state.val.replay_sequences = _ := hrep.numbered.map_seq
  rw [hseqs, show (h.state.val.next_action_seq - h.state.val.replay_floor).toNat =
    h.state.val.replay_records.length by omega]
  rfl

/-! ### Resubmissions -/

/-- The history answers the action with a result: its number is retained, and
    what was accepted under it has the digest and was finalized. -/
def answers (h : Session) (action : RuntimeAction) (result : RecordedRunResult) : Prop :=
  action.conversation_id = h.state.val.conversation_id ∧
  action.action_seq ∈ h.state.val.replay_sequences ∧
  ∃ e ∈ h.ledger, action_seq e = action.action_seq ∧
    canonical_action_digest e.request = canonical_action_digest action ∧ e.result = some result

/-- With its record found, an action has the answers the record gives. -/
theorem Consistent.answers_iff (hc : Consistent conversation_id h) {action : RuntimeAction}
    {r : ReplayRecord} (hr : r ∈ h.state.val.replay_records)
    (hseq : r.val.action_seq = action.action_seq)
    (hconv : action.conversation_id = h.state.val.conversation_id) {result : RecordedRunResult} :
    h.answers action result ↔
      r.val.action_digest = canonical_action_digest action ∧ r.val.result = some result := by
  obtain ⟨e, he, heseq, hentry⟩ := hc.entry_of_record hr
  have hdigest : canonical_action_digest e.request = r.val.action_digest :=
    congrArg Entry.request hentry
  have hresult : e.result = r.val.result := congrArg Entry.result hentry
  constructor
  · rintro ⟨_, _, e', he', hseq', hdigest', hresult'⟩
    obtain rfl := hc.numbered.eq_of_seq he he' (by rw [heseq, hseq, hseq'])
    exact ⟨hdigest.symm.trans hdigest', hresult.symm.trans hresult'⟩
  · rintro ⟨hd, hres⟩
    refine ⟨hconv, List.mem_map.mpr ⟨r, hr, hseq⟩, e, he, heseq.trans hseq, ?_, ?_⟩
    · rw [hdigest, hd]
    · rw [hresult, hres]

/-- An accepted number is never applied again: the state stays, and the answer
    is the finalized result or a conflict. -/
theorem Consistent.resubmitted (hc : Consistent conversation_id h) {action : RuntimeAction}
    (hold : action.action_seq ∈ h.ledger.map action_seq) (clock : String)
    (max_replay_records : Int) (now : Option String) :
    ∃ t, accept_action rules clock h.state action max_replay_records now = .ok t ∧
      t.state = h.state ∧
      ((t.disposition = .replayed ∧
          ∃ result, h.answers action result ∧ t.recorded_result = some result) ∨
        (t.disposition = .conflict ∧ t.recorded_result = none ∧
          ∀ result, ¬ h.answers action result)) := by
  have hrange : 1 ≤ action.action_seq ∧ action.action_seq < h.state.val.next_action_seq := by
    obtain ⟨e, he, hseq⟩ := List.mem_map.mp hold
    obtain ⟨j, hj, rfl⟩ := List.getElem_of_mem he
    have := hc.numbered.getElem hj
    have := hc.window.1
    omega
  unfold accept_action
  by_cases hconv : action.conversation_id = h.state.val.conversation_id
  · rw [if_neg (not_not.mpr hconv), if_neg (by omega)]
    cases hfind : find_replay h.state action.action_seq with
    | none =>
      have hgone : action.action_seq ∉ h.state.val.replay_sequences := by
        intro hmem
        obtain ⟨r, hr, hseq⟩ := List.mem_map.mp hmem
        exact (List.find?_eq_none.mp hfind) r hr (by simpa using hseq)
      have hexpired : action.action_seq < h.state.val.replay_floor := by
        by_contra hle
        refine hgone ?_
        rw [hc.window.2.2.2]
        refine List.mem_map.mpr
          ⟨(action.action_seq - h.state.val.replay_floor).toNat, ?_, by omega⟩
        rw [List.mem_range]
        omega
      refine ⟨conflict h.state "action_sequence_expired", if_pos hexpired, rfl,
        .inr ⟨rfl, rfl, ?_⟩⟩
      exact fun _ hanswers => hgone hanswers.2.1
    | some r =>
      have hr := List.mem_of_find?_eq_some hfind
      have hseq : r.val.action_seq = action.action_seq := by simpa using List.find?_some hfind
      dsimp only
      by_cases hdigest : r.val.action_digest = canonical_action_digest action
      · rw [if_neg (not_not.mpr hdigest)]
        cases hresult : r.val.result with
        | none =>
          refine ⟨_, rfl, rfl, .inr ⟨rfl, rfl, fun result => ?_⟩⟩
          rw [hc.answers_iff hr hseq hconv, hresult]
          simp
        | some result =>
          refine ⟨_, rfl, rfl, .inl ⟨rfl, result, ?_, rfl⟩⟩
          rw [hc.answers_iff hr hseq hconv]
          exact ⟨hdigest, hresult⟩
      · rw [if_pos hdigest]
        refine ⟨_, rfl, rfl, .inr ⟨rfl, rfl, fun result => ?_⟩⟩
        rw [hc.answers_iff hr hseq hconv]
        exact fun hanswers => hdigest hanswers.1
  · rw [if_pos hconv]
    exact ⟨_, rfl, rfl, .inr ⟨rfl, rfl, fun _ hanswers => hconv hanswers.1⟩⟩

/-- An unfinished record leaves the window only by being finalized. -/
theorem Consistent.unfinished_kept (hc : Consistent conversation_id h) (call : Call)
    {r : ReplayRecord} (hr : r ∈ h.state.val.replay_records) (hnone : r.val.result = none) :
    r ∈ (h.step rules call).state.val.replay_records ∨
      ∃ result max_replay_records, call = .finalize r.val.action_seq result max_replay_records := by
  obtain ⟨e, he, hseq, hentry⟩ := hc.entry_of_record hr
  have hresult : e.result = none := (congrArg Entry.result hentry).trans hnone
  have hkept : e ∈ (h.step rules call).ledger → r ∈ (h.step rules call).state.val.replay_records := by
    intro he'
    rcases (hc.step call).finalized_or_retained he' with hdone | ⟨r', hr', hseq', hentry'⟩
    · exact absurd hresult hdone
    · have hsame : r = r' := by
        refine Checked.ext ?_
        have hview := hentry.symm.trans hentry'
        have hdigest : r.val.action_digest = r'.val.action_digest := congrArg Entry.request hview
        have hres : r.val.result = r'.val.result := congrArg Entry.result hview
        cases hrv : r.val
        cases hrv' : r'.val
        simp_all
      rwa [hsame]
  cases call with
  | accept clock action max_replay_records now =>
    refine .inl (hkept ?_)
    simp only [Session.step]
    split
    · exact he
    · dsimp only
      split
      · exact List.mem_append_left _ he
      · exact he
  | finalize n result max_replay_records =>
    by_cases hn : action_seq e = n
    · exact .inr ⟨result, max_replay_records, by rw [← hseq, hn]⟩
    · refine .inl (hkept ?_)
      simp only [Session.step]
      split
      · exact he
      · exact List.mem_map.mpr ⟨e, he, by simp [record_finalized, hn]⟩

end Consistency

/-- Every action is applied at most once, whatever is submitted, resubmitted
    and finalized with whatever capacity: accepted numbers count from one, the
    window is contiguous and drops no unfinished record, and an accepted number
    is answered from the window without changing the state. -/
theorem actions_applied_at_most_once (rules : TextRules) {conversation_id : String}
    {workspace : Option ConversationWorkspaceBindingV1}
    {background : Option BackgroundOccurrenceBindingV1} {s₀ : ConversationState}
    (hs₀ : ConversationState.new conversation_id workspace background = .ok s₀)
    (calls : List Call) :
    let h := run rules { state := s₀ } calls
    (h.ledger.map action_seq = (List.range h.ledger.length).map fun i : Nat => 1 + (i : Int)) ∧
    (h.state.val.next_action_seq = h.ledger.length + 1 ∧
      1 ≤ h.state.val.replay_floor ∧ h.state.val.replay_floor ≤ h.state.val.next_action_seq ∧
      h.state.val.replay_sequences =
        (List.range (h.state.val.next_action_seq - h.state.val.replay_floor).toNat).map
          fun i : Nat => h.state.val.replay_floor + i) ∧
    (∀ e ∈ h.ledger, e.result = none → ∃ r ∈ h.state.val.replay_records,
      r.val.action_seq = action_seq e ∧ r.val.result = none) ∧
    (∀ call, ∀ r ∈ h.state.val.replay_records, r.val.result = none →
      r ∈ (h.step rules call).state.val.replay_records ∨
        ∃ result max_replay_records,
          call = .finalize r.val.action_seq result max_replay_records) ∧
    (∀ clock action max_replay_records now, action.action_seq ∈ h.ledger.map action_seq →
      ∃ t, accept_action rules clock h.state action max_replay_records now = .ok t ∧
        t.state = h.state ∧
        ((t.disposition = .replayed ∧
            ∃ result, h.answers action result ∧ t.recorded_result = some result) ∨
          (t.disposition = .conflict ∧ t.recorded_result = none ∧
            ∀ result, ¬ h.answers action result))) := by
  intro h
  have hc : Consistent conversation_id h := (Consistent.start hs₀).run calls
  refine ⟨hc.numbered.map_seq, hc.window, fun e he hnone => ?_,
    fun call r hr hnone => hc.unfinished_kept call hr hnone,
    fun clock action max_replay_records now hold =>
      hc.resubmitted hold clock max_replay_records now⟩
  rcases hc.finalized_or_retained he with hdone | ⟨r, hr, hseq, hentry⟩
  · exact absurd hnone hdone
  · exact ⟨r, hr, hseq, (congrArg Entry.result hentry).symm.trans hnone⟩

/-- A message submitted twice and finalized is accepted once. -/
theorem message_applied_at_most_once :
    let message : RuntimeAction := {
      conversation_id := "conversation", action_seq := 1, expected_revision := 0
      body := .submit_message "run" "hello" }
    let h := run .silent { state := .fresh } [.accept "" message 1 none, .accept "" message 1 none,
      .finalize 1 { status := .completed } 1]
    h.ledger.map action_seq = (List.range h.ledger.length).map fun i : Nat => 1 + (i : Int) :=
  (actions_applied_at_most_once .silent ConversationState.new_fresh _).1

end Session
