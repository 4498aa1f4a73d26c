import FirstAgent.State.Apply

/-! # Accepting and Finalizing Actions

    The replay window, the completion of provable orphaned batches, and
    `accept_action` and `finalize_action` over them. -/

open Fallible

/-! ### The replay window -/

/-- `_find_replay`. -/
def find_replay (s : ConversationState) (action_seq : Int) : Option ReplayRecord :=
  s.val.replay_records.find? fun r => r.val.action_seq = action_seq

/-- Evict finished records from the front until one more fits; an unfinished
    one blocks. -/
def evict_for_append (max_replay_records : Int) :
    (floor : Int) → List ReplayRecord → Option (Int × List ReplayRecord)
  | floor, []      => if 0 < max_replay_records then some (floor, []) else none
  | floor, r :: rs =>
    if (rs.length : Int) + 1 < max_replay_records then some (floor, r :: rs)
    else if r.val.result = none then none
    else evict_for_append max_replay_records (max floor (r.val.action_seq + 1)) rs

/-- `_append_replay_record`. -/
def append_replay_record (s : ConversationState) (action_seq : Int) (action_digest : String)
    (max_replay_records : Int) : Py (Option ConversationState) := do
  Py.refuse_value (max_replay_records < 1) "max_replay_records must be positive"
  match evict_for_append max_replay_records s.val.replay_floor s.val.replay_records with
  | none                  => pure none
  | some (floor, records) => do
    let record ← Checked.make { action_seq := action_seq, action_digest := action_digest }
    let s ← Checked.make { s.val with
      next_action_seq := s.val.next_action_seq + 1
      replay_floor := floor
      replay_records := records ++ [record] }
    pure (some s)

/-- Evict records from the front until at most `max_replay_records` are left;
    evicting an unfinished one raises. -/
def evict_finished (max_replay_records : Int) :
    (floor : Int) → List ReplayRecord → Py (Int × List ReplayRecord)
  | floor, []      => pure (floor, [])
  | floor, r :: rs =>
    if (rs.length : Int) + 1 ≤ max_replay_records then pure (floor, r :: rs)
    else do
      Py.refuse_value (r.val.result = none) "cannot evict an unfinished replay record"
      evict_finished max_replay_records (max floor (r.val.action_seq + 1)) rs

/-- Put the result into the first record of the sequence number. -/
def set_result (action_seq : Int) (result : RecordedRunResult) :
    List ReplayRecord → Py (List ReplayRecord)
  | []      => pure []
  | r :: rs =>
    if r.val.action_seq = action_seq then do
      pure ((← Checked.make { r.val with result := some result }) :: rs)
    else do pure (r :: (← set_result action_seq result rs))

def finalize_action (s : ConversationState) (action_seq : Int) (result : RecordedRunResult)
    (max_replay_records : Int) : Py ConversationState := do
  Py.refuse_value (max_replay_records < 1) "max_replay_records must be positive"
  let record ← Py.expect_value (find_replay s action_seq) "action replay record not found"
  if record.val.result = some result then pure s
  else do
    Py.refuse_value (record.val.result ≠ none)
      "action already finalized with a different result"
    let records ← set_result action_seq result s.val.replay_records
    let evicted ← evict_finished max_replay_records s.val.replay_floor records
    Checked.make { s.val with
      revision := s.val.revision + 1
      replay_floor := evicted.1
      replay_records := evicted.2
      last_safe_result := some result }

/-! ### Orphaned batches -/

/-- The results directly behind a batch that answer its calls, each once. -/
def covering_results (expected : List String) : (covered : List String) →
    List ConversationFact → List ConversationFact
  | _, []            => []
  | covered, f :: fs =>
    match f.result_call_id with
    | some call_id =>
      if call_id ∈ expected ∧ call_id ∉ covered then
        f :: covering_results expected (call_id :: covered) fs
      else []
    | none => []

/-- The last covering result is a user's rejection and says nothing else. -/
def is_strict_rejection (f : ConversationFact) : Bool :=
  f.val.content.get "rejected" = .bool true && f.val.content.get "executed" = .bool false &&
    f.val.content.get "is_error" = .bool true && !(f.val.content.get "unknown_outcome").truthy

/-- The suffix of a batch provably never started: the results are an exact
    prefix that stops at a rejection. -/
def suffix_never_started (expected : List String) (covering : List ConversationFact) : Bool :=
  (covering.getLast?.any is_strict_rejection) &&
    (covering.map ConversationFact.result_call_id).isPrefixOf (expected.map some)

/-- `text.rsplit(":", 1)[-1]`. -/
def last_segment (text : String) : String := (PyText.split text ':').getLastD text

/-- One superseded result for each missing call. -/
def healed_facts (action_seq : Int) (batch : ConversationFact) :
    (reserved : List String) → (missing : List String) → Py (List ConversationFact × List String)
  | reserved, []                 => pure ([], reserved)
  | reserved, call_id :: missing => do
    let base := "action:" ++ toString action_seq ++ ":superseded-tool:" ++ call_id
    let fact_id := if base ∈ reserved then base ++ ":" ++ last_segment batch.val.fact_id else base
    let fact ← superseded_tool_result_fact fact_id call_id
      "Tool call was not executed; its run was superseded before a result was recorded."
      (batch.val.content.get "invocation_origin").str?
    let rest ← healed_facts action_seq batch (fact_id :: reserved) missing
    pure (fact :: rest.1, rest.2)

/-- What to do about a batch followed by these facts: how many facts answer it
    already and the results to add behind them; `none` when its outcome cannot
    be proved. -/
def close_batch (action_seq : Int) (live_call_ids reserved : List String)
    (batch : ConversationFact) (following : List ConversationFact) :
    Py (Option (Nat × List ConversationFact × List String)) :=
  match batch.batch_call_ids with
  | none          => pure (some (0, [], reserved))
  | some expected =>
    if expected.any fun i => live_call_ids.contains i then pure (some (0, [], reserved))
    else
      let covering := covering_results expected [] following
      let missing := expected.filter fun i => some i ∉ covering.map ConversationFact.result_call_id
      if missing = [] then pure (some (covering.length, [], reserved))
      else if (following[covering.length]?.any fun f => f.val.kind = .tool_result)
          ∨ suffix_never_started expected covering = false then pure none
      else do
        let healed ← healed_facts action_seq batch reserved missing
        pure (some (covering.length, healed))

/-- The facts with every provable orphan closed: `pending` is added after
    `skip` more facts. -/
def close_batches (action_seq : Int) (live_call_ids : List String) :
    (skip : Nat) → (pending : List ConversationFact) → (reserved : List String) →
    List ConversationFact → Py (Option (List ConversationFact))
  | _, pending, _, []                     => pure (some pending)
  | skip + 1, pending, reserved, f :: fs => do
    let rest ← close_batches action_seq live_call_ids skip pending reserved fs
    pure (rest.map fun fs' => f :: fs')
  | 0, pending, reserved, f :: fs         => do
    if f.val.kind = .tool_calls then
      match ← close_batch action_seq live_call_ids reserved f fs with
      | none                                => pure none
      | some (covered, healed, reserved') => do
        let rest ← close_batches action_seq live_call_ids covered healed reserved' fs
        pure (rest.map fun fs' => pending ++ f :: fs')
    else do
      let rest ← close_batches action_seq live_call_ids 0 [] reserved fs
      pure (rest.map fun fs' => pending ++ f :: fs')

/-- `_close_orphaned_tool_batches`. -/
def close_orphaned_tool_batches (s : ConversationState) (action_seq : Int)
    (live_call_ids : List String) : Py (Option ConversationState) := do
  match ← close_batches action_seq live_call_ids 0 [] s.val.fact_ids s.val.facts with
  | none       => pure none
  | some facts =>
    if facts = s.val.facts then pure (some s)
    else do pure (some (← Checked.make { s.val with facts := facts }))

/-! ### Accepting -/

/-- `_conflict`. -/
def conflict (s : ConversationState) (reason : String) : ActionTransition :=
  { disposition := .conflict, state := s, reason := some reason }

/-- The ids of the calls the live run answers for. -/
def live_call_ids (s : ConversationState) : List String :=
  match s.val.active_run with
  | none        => []
  | some active => active.val.call_ids

/-- `accept_action` past its admission tests. -/
def accept_fresh (rules : TextRules) (clock : String) (s : ConversationState)
    (action : RuntimeAction) (max_replay_records : Int) (now : Option String) :
    Py ActionTransition := do
  match ← close_orphaned_tool_batches s action.action_seq (live_call_ids s) with
  | none        => pure (conflict s "unprovable_tool_batch_outcome")
  | some healed =>
    match ← append_replay_record healed action.action_seq (canonical_action_digest action)
        max_replay_records with
    | none             => pure (conflict healed "replay_capacity_exhausted")
    | some with_replay => do
      let applied ← apply_action rules clock with_replay action now
      let accepted ← Checked.make { applied.val with revision := healed.val.revision + 1 }
      pure { disposition := .accepted, state := accepted }

/-- `accept_action` on a state. -/
def accept_action (rules : TextRules) (clock : String) (s : ConversationState)
    (action : RuntimeAction) (max_replay_records : Int) (now : Option String) :
    Py ActionTransition :=
  if action.conversation_id ≠ s.val.conversation_id then
    pure (conflict s "conversation_mismatch")
  else if action.action_seq < 1 then pure (conflict s "invalid_action_sequence")
  else match find_replay s action.action_seq with
    | some replay =>
      if replay.val.action_digest ≠ canonical_action_digest action then
        pure (conflict s "action_digest_mismatch")
      else match replay.val.result with
        | none        => pure (conflict s "action_in_progress")
        | some result => pure {
            disposition := .replayed, state := s, recorded_result := some result }
    | none =>
      if action.action_seq < s.val.replay_floor then pure (conflict s "action_sequence_expired")
      else if action.action_seq < s.val.next_action_seq then
        pure (conflict s "action_result_unavailable")
      else if s.val.next_action_seq < action.action_seq then
        pure (conflict s "action_sequence_gap")
      else if action.expected_revision ≠ s.val.revision then
        pure (conflict s "revision_mismatch")
      else match action_is_legal s action.body with
        | .error reason => pure (conflict s reason)
        | .ok ()        => accept_fresh rules clock s action max_replay_records now

/-- `accept_action` without a stored state starts a new conversation. -/
def accept_first_action (rules : TextRules) (clock : String) (s : Option ConversationState)
    (action : RuntimeAction) (max_replay_records : Int) (now : Option String) :
    Py ActionTransition :=
  match s with
  | some s => accept_action rules clock s action max_replay_records now
  | none   => do
    accept_action rules clock (← ConversationState.new action.conversation_id) action
      max_replay_records now

/-! ### What accepting leaves -/

section Effects

variable {rules : TextRules} {clock : String} {s s' : ConversationState} {action : RuntimeAction}
  {max_replay_records : Int} {now : Option String} {t : ActionTransition}

theorem close_orphaned_tool_batches_ok {action_seq : Int} {live : List String}
    (h : close_orphaned_tool_batches s action_seq live = .ok (some s')) :
    ∃ facts, close_batches action_seq live 0 [] s.val.fact_ids s.val.facts = .ok (some facts) ∧
      s'.val = { s.val with facts := facts } := by
  simp only [close_orphaned_tool_batches, bind_eq_ok] at h
  obtain ⟨found, hfound, h⟩ := h
  cases found with
  | none => simp [pure_eq_ok] at h
  | some facts =>
    simp only [ite_eq_ok, pure_eq_ok, bind_eq_ok, Checked.make_eq_ok, Option.some.injEq] at h
    rcases h with ⟨hfacts, rfl⟩ | ⟨_, _, hval, rfl⟩
    · exact ⟨facts, hfound, by rw [hfacts]⟩
    · exact ⟨facts, hfound, hval⟩

theorem append_replay_record_ok {action_seq : Int} {action_digest : String}
    (h : append_replay_record s action_seq action_digest max_replay_records = .ok (some s')) :
    ∃ floor records record,
      evict_for_append max_replay_records s.val.replay_floor s.val.replay_records =
        some (floor, records) ∧
      record.val = { action_seq := action_seq, action_digest := action_digest } ∧
      s'.val = { s.val with
        next_action_seq := s.val.next_action_seq + 1
        replay_floor := floor
        replay_records := records ++ [record] } := by
  simp only [append_replay_record, bind_eq_ok] at h
  obtain ⟨_, _, h⟩ := h
  split at h
  · simp [pure_eq_ok] at h
  · next floor records hevict =>
    simp only [bind_eq_ok, Checked.make_eq_ok, pure_eq_ok, Option.some.injEq] at h
    obtain ⟨record, hrecord, _, hval, rfl⟩ := h
    exact ⟨floor, records, record, hevict, hrecord, hval⟩

/-- An accepted action is the next one, is legal, and is applied to the state
    with its orphans closed and its replay record appended. -/
structure Accepts (rules : TextRules) (clock : String) (s : ConversationState)
    (action : RuntimeAction) (max_replay_records : Int) (now : Option String)
    (healed with_replay applied s' : ConversationState) : Prop where
  conversation : action.conversation_id = s.val.conversation_id
  next : action.action_seq = s.val.next_action_seq
  expected : action.expected_revision = s.val.revision
  unused : find_replay s action.action_seq = none
  legal : action_is_legal s action.body = .ok ()
  heals : close_orphaned_tool_batches s action.action_seq (live_call_ids s) = .ok (some healed)
  records : append_replay_record healed action.action_seq (canonical_action_digest action)
    max_replay_records = .ok (some with_replay)
  applies : apply_action rules clock with_replay action now = .ok applied
  result : s'.val = { applied.val with revision := healed.val.revision + 1 }

theorem accept_fresh_ok (h : accept_fresh rules clock s action max_replay_records now = .ok t) :
    (t.disposition = .conflict ∧ t.recorded_result = none ∧
      (t.state = s ∨ close_orphaned_tool_batches s action.action_seq (live_call_ids s) =
        .ok (some t.state))) ∨
    ∃ healed with_replay applied, t.disposition = .accepted ∧
      close_orphaned_tool_batches s action.action_seq (live_call_ids s) = .ok (some healed) ∧
      append_replay_record healed action.action_seq (canonical_action_digest action)
        max_replay_records = .ok (some with_replay) ∧
      apply_action rules clock with_replay action now = .ok applied ∧
      t.state.val = { applied.val with revision := healed.val.revision + 1 } := by
  simp only [accept_fresh, bind_eq_ok] at h
  obtain ⟨found, hfound, h⟩ := h
  cases found with
  | none =>
    obtain rfl := pure_eq_ok.mp h
    exact .inl ⟨rfl, rfl, .inl rfl⟩
  | some healed =>
    simp only [bind_eq_ok] at h
    obtain ⟨recorded, hrecorded, h⟩ := h
    cases recorded with
    | none =>
      obtain rfl := pure_eq_ok.mp h
      exact .inl ⟨rfl, rfl, .inr hfound⟩
    | some with_replay =>
      simp only [bind_eq_ok, Checked.make_eq_ok, pure_eq_ok] at h
      obtain ⟨applied, happlied, accepted, haccepted, rfl⟩ := h
      exact .inr ⟨healed, with_replay, applied, rfl, hfound, hrecorded, happlied, haccepted⟩

/-- What an action is answered with: a refusal that at most closes orphans, a
    recorded result, or a state the action was applied to. -/
theorem accept_action_ok (h : accept_action rules clock s action max_replay_records now = .ok t) :
    (t.disposition = .conflict ∧ t.recorded_result = none ∧
      (t.state = s ∨ close_orphaned_tool_batches s action.action_seq (live_call_ids s) =
        .ok (some t.state))) ∨
    (t.disposition = .replayed ∧ t.state = s) ∨
    (t.disposition = .accepted ∧ ∃ healed with_replay applied,
      Accepts rules clock s action max_replay_records now healed with_replay applied t.state) := by
  unfold accept_action at h
  split at h
  · obtain rfl := pure_eq_ok.mp h
    exact .inl ⟨rfl, rfl, .inl rfl⟩
  next hconversation =>
  split at h
  · obtain rfl := pure_eq_ok.mp h
    exact .inl ⟨rfl, rfl, .inl rfl⟩
  split at h
  · split at h
    · obtain rfl := pure_eq_ok.mp h
      exact .inl ⟨rfl, rfl, .inl rfl⟩
    split at h
    · obtain rfl := pure_eq_ok.mp h
      exact .inl ⟨rfl, rfl, .inl rfl⟩
    · obtain rfl := pure_eq_ok.mp h
      exact .inr (.inl ⟨rfl, rfl⟩)
  next hunused =>
  split at h
  · obtain rfl := pure_eq_ok.mp h
    exact .inl ⟨rfl, rfl, .inl rfl⟩
  split at h
  · obtain rfl := pure_eq_ok.mp h
    exact .inl ⟨rfl, rfl, .inl rfl⟩
  next hlow =>
  split at h
  · obtain rfl := pure_eq_ok.mp h
    exact .inl ⟨rfl, rfl, .inl rfl⟩
  next hhigh =>
  split at h
  · obtain rfl := pure_eq_ok.mp h
    exact .inl ⟨rfl, rfl, .inl rfl⟩
  next hexpected =>
  split at h
  · obtain rfl := pure_eq_ok.mp h
    exact .inl ⟨rfl, rfl, .inl rfl⟩
  next hlegal =>
  rcases accept_fresh_ok h with hconflict | ⟨healed, with_replay, applied, hd, hh, hr, ha, hs⟩
  · exact .inl hconflict
  · exact .inr (.inr ⟨hd, healed, with_replay, applied, {
      conversation := not_not.mp hconversation
      next := by omega
      expected := not_not.mp hexpected
      unused := hunused
      legal := hlegal
      heals := hh
      records := hr
      applies := ha
      result := hs }⟩)

theorem set_result_ok {action_seq : Int} {result : RecordedRunResult}
    {records records' : List ReplayRecord}
    (h : set_result action_seq result records = .ok records') :
    records' = records ∧ (∀ r ∈ records, r.val.action_seq ≠ action_seq) ∨
    ∃ front r r' back, records = front ++ r :: back ∧ records' = front ++ r' :: back ∧
      r.val.action_seq = action_seq ∧ r'.val = { r.val with result := some result } := by
  induction records generalizing records' with
  | nil =>
    obtain rfl := pure_eq_ok.mp h
    exact .inl ⟨rfl, by simp⟩
  | cons x records ih =>
    simp only [set_result, ite_eq_ok, bind_eq_ok, Checked.make_eq_ok, pure_eq_ok] at h
    rcases h with ⟨hx, r', hr', rfl⟩ | ⟨hx, rest, hrest, rfl⟩
    · exact .inr ⟨[], x, r', records, rfl, rfl, hx, hr'⟩
    · rcases ih hrest with ⟨rfl, hne⟩ | ⟨front, r, r', back, rfl, rfl, hr, hr'⟩
      · refine .inl ⟨rfl, ?_⟩
        intro r hr
        rcases List.mem_cons.mp hr with rfl | hr
        · exact hx
        · exact hne r hr
      · exact .inr ⟨x :: front, r, r', back, rfl, rfl, hr, hr'⟩

/-- Finalizing stores the result once and then only evicts. -/
theorem finalize_action_ok {action_seq : Int} {result : RecordedRunResult}
    (h : finalize_action s action_seq result max_replay_records = .ok s') :
    ∃ record, find_replay s action_seq = some record ∧
      ((record.val.result = some result ∧ s' = s) ∨
        (record.val.result = none ∧ ∃ records floor kept,
          set_result action_seq result s.val.replay_records = .ok records ∧
          evict_finished max_replay_records s.val.replay_floor records = .ok (floor, kept) ∧
          s'.val = { s.val with
            revision := s.val.revision + 1
            replay_floor := floor
            replay_records := kept
            last_safe_result := some result })) := by
  simp only [finalize_action, bind_eq_ok, Py.refuse_value_eq_ok, Py.expect_value_eq_ok, ite_eq_ok,
    pure_eq_ok, Checked.make_eq_ok, not_not] at h
  obtain ⟨_, _, record, hrecord, ⟨hresult, rfl⟩ | ⟨_, _, hnone, records, hrecords, ⟨floor, kept⟩,
    hevicted, h⟩⟩ := h
  · exact ⟨record, hrecord, .inl ⟨hresult, rfl⟩⟩
  · exact ⟨record, hrecord, .inr ⟨hnone, records, floor, kept, hrecords, hevicted, h⟩⟩

end Effects
