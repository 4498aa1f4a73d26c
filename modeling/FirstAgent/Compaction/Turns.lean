import FirstAgent.Framework.Segments
import FirstAgent.Contracts.State

/-! # The Turn Grammar

    Compaction reads a conversation as closed turns: a user message, policy
    results and answered tool batches, and an assistant message.  At most one
    summary stands between turns, and the last turn may be open. -/

open Fallible

/-! ### Scanning turns -/

/-- Where the scanner stands: between turns, in a turn with these fact ids, or
    among the results of a batch of that turn. -/
inductive TurnMode where
  | boundary
  | turn (turn_ids : List String)
  | results (turn_ids expected covered : List String)
  deriving Repr, DecidableEq

/-- What stands between boundaries. -/
inductive TurnItem where
  | summary (fact_id : String)
  | turn (turn_ids : List String)
  deriving Repr, DecidableEq

/-- The ids of a batch; a later entry is read only when the earlier are valid. -/
def expected_call_ids : (expected : List String) → List Json → Py (List String)
  | expected, []           => pure expected
  | expected, call :: rest => do
    let call_id ← Py.expect_value (raw_call_id call)
      "tool call batch entries must carry string tool_call_id"
    Py.refuse_value (call_id ∈ expected) "tool_call_id must be unique within a batch"
    expected_call_ids (expected ++ [call_id]) rest

def not_closed_turns : String := "conversation facts must decompose into closed turns"

/-- One fact inside a turn, past the results of a batch. -/
def scan_turn (turn_ids : List String) (f : ConversationFact) :
    Py (TurnMode × Option TurnItem) :=
  let turn_ids := turn_ids ++ [f.val.fact_id]
  match f.val.kind with
  | .assistant_message => pure (.boundary, some (.turn turn_ids))
  | .policy_result => pure (.turn turn_ids, none)
  | .tool_calls => do
    let calls ← Py.expect_value ((f.val.content.get "calls").arr?.filter fun c => c ≠ [])
      "tool call fact must contain a non-empty calls list"
    let expected ← expected_call_ids [] calls
    pure (.results turn_ids expected [], none)
  | .user_message => .error <| .compaction_ineligible_history
      ("new user boundary precedes ASSISTANT_MESSAGE termination; " ++
        "history is legitimately non-compactable")
  | _ => .error (.value_error not_closed_turns)

/-- The results of a batch answer every call. -/
def require_covered (expected covered : List String) : Py Unit :=
  Py.refuse_value (¬ expected ⊆ covered) "tool batch and its results cannot be split"

def scan_fact : TurnMode → ConversationFact → Py (TurnMode × Option TurnItem)
  | .boundary, f =>
    match f.val.kind with
    | .context_summary => pure (.boundary, some (.summary f.val.fact_id))
    | .user_message    => pure (.turn [f.val.fact_id], none)
    | _                => .error (.value_error not_closed_turns)
  | .turn turn_ids, f => scan_turn turn_ids f
  | .results turn_ids expected covered, f =>
    if f.val.kind = .tool_result then do
      let call_id ← Py.expect_value (f.val.content.get "tool_call_id").str?
        "tool result must bind a string tool_call_id"
      Py.refuse_value (call_id ∉ expected ∨ call_id ∈ covered)
        "tool result must exactly cover the preceding batch"
      pure (.results (turn_ids ++ [f.val.fact_id]) expected (call_id :: covered), none)
    else do
      require_covered expected covered
      scan_turn turn_ids f

/-! ### Parsing -/

/-- The parsed conversation: `(summary_id, closed_turn_ids, open_turn_ids)`. -/
structure CompactionTurns where
  summary_id : Option String := none
  closed_turn_ids : List (List String) := []
  open_turn_ids : List String := []
  deriving Repr, DecidableEq

namespace CompactionTurns

/-- Add an item; a second summary is refused. -/
def push (t : CompactionTurns) : Option TurnItem → Py CompactionTurns
  | none                    => pure t
  | some (.summary fact_id) => do
    Py.refuse_value (t.summary_id ≠ none) "conversation allows at most one CONTEXT_SUMMARY"
    pure { t with summary_id := some fact_id }
  | some (.turn turn_ids)   =>
    pure { t with closed_turn_ids := t.closed_turn_ids ++ [turn_ids] }

/-- The facts ended in this mode: what is unfinished is the open turn. -/
def finish (t : CompactionTurns) : TurnMode → Py CompactionTurns
  | .boundary                          => pure t
  | .turn turn_ids                     => pure { t with open_turn_ids := turn_ids }
  | .results turn_ids expected covered => do
    require_covered expected covered
    pure { t with open_turn_ids := turn_ids }

end CompactionTurns

def parse_from (t : CompactionTurns) : TurnMode → List ConversationFact → Py CompactionTurns
  | mode, []      => t.finish mode
  | mode, f :: fs => do
    let (mode, item) ← scan_fact mode f
    parse_from (← t.push item) mode fs

def parse_compaction_turns (facts : List ConversationFact) : Py CompactionTurns :=
  parse_from {} .boundary facts

/-! ### The turns of a parsed conversation -/

theorem scan_turn_returns {turn_ids : List String} {f : ConversationFact} {mode : TurnMode}
    {item : TurnItem} (h : scan_turn turn_ids f = .ok (mode, some item)) : mode = .boundary := by
  unfold scan_turn at h
  cases hkind : f.val.kind <;>
    simp only [hkind, pure_eq_ok, bind_eq_ok, Prod.mk.injEq] at h
  case assistant_message => exact h.1.symm
  case policy_result => cases h.2
  case tool_calls =>
    obtain ⟨_, _, _, _, _, hnone⟩ := h
    cases hnone
  all_goals cases h

theorem scan_fact_returns {mode mode' : TurnMode} {f : ConversationFact} {item : TurnItem}
    (h : scan_fact mode f = .ok (mode', some item)) : mode' = .boundary := by
  cases mode with
  | boundary =>
    simp only [scan_fact] at h
    split at h <;> simp_all [pure_eq_ok]
  | turn turn_ids => exact scan_turn_returns h
  | results turn_ids expected covered =>
    simp only [scan_fact, ite_eq_ok, bind_eq_ok, pure_eq_ok, Prod.mk.injEq] at h
    rcases h with ⟨_, _, _, _, _, _, hnone⟩ | ⟨_, _, _, h⟩
    · cases hnone
    · exact scan_turn_returns h

/-- The scanner of turns. -/
def turn_scanner : Segments.Scanner PyError ConversationFact TurnMode TurnItem where
  boundary := .boundary
  step := scan_fact
  returns := scan_fact_returns

/-- The ids a mode has read since the boundary. -/
def TurnMode.ids : TurnMode → List String
  | .boundary             => []
  | .turn turn_ids        => turn_ids
  | .results turn_ids _ _ => turn_ids

def TurnItem.ids : TurnItem → List String
  | .summary fact_id => [fact_id]
  | .turn turn_ids   => turn_ids

theorem scan_turn_ids {turn_ids : List String} {f : ConversationFact} {mode : TurnMode}
    {item : Option TurnItem} (h : scan_turn turn_ids f = .ok (mode, item)) :
    item.toList.flatMap TurnItem.ids ++ mode.ids = turn_ids ++ [f.val.fact_id] := by
  unfold scan_turn at h
  cases hkind : f.val.kind <;> simp only [hkind, pure_eq_ok, bind_eq_ok, Prod.mk.injEq] at h
  case assistant_message =>
    obtain ⟨rfl, rfl⟩ := h
    simp [TurnItem.ids, TurnMode.ids]
  case policy_result =>
    obtain ⟨rfl, rfl⟩ := h
    simp [TurnMode.ids]
  case tool_calls =>
    obtain ⟨_, _, _, _, rfl, rfl⟩ := h
    simp [TurnMode.ids]
  all_goals cases h

theorem scan_fact_ids {mode mode' : TurnMode} {f : ConversationFact} {item : Option TurnItem}
    (h : scan_fact mode f = .ok (mode', item)) :
    item.toList.flatMap TurnItem.ids ++ mode'.ids = mode.ids ++ [f.val.fact_id] := by
  cases mode with
  | boundary =>
    simp only [scan_fact] at h
    split at h
    · simp only [pure_eq_ok, Prod.mk.injEq] at h
      obtain ⟨rfl, rfl⟩ := h
      simp [TurnItem.ids, TurnMode.ids]
    · simp only [pure_eq_ok, Prod.mk.injEq] at h
      obtain ⟨rfl, rfl⟩ := h
      simp [TurnMode.ids]
    · cases h
  | turn turn_ids => exact scan_turn_ids h
  | results turn_ids expected covered =>
    simp only [scan_fact, ite_eq_ok, bind_eq_ok, pure_eq_ok, Prod.mk.injEq] at h
    rcases h with ⟨_, _, _, _, _, rfl, rfl⟩ | ⟨_, _, _, h⟩
    · simp [TurnMode.ids]
    · exact scan_turn_ids h

/-- The items and the unfinished turn hold the ids of the facts, in order. -/
theorem turn_scanner_ids {mode mode' : TurnMode} {facts : List ConversationFact}
    {items : List TurnItem} (h : turn_scanner.run mode facts = .ok (mode', items)) :
    items.flatMap TurnItem.ids ++ mode'.ids =
      mode.ids ++ facts.map fun f => f.val.fact_id := by
  induction facts generalizing mode items with
  | nil =>
    simp only [Segments.Scanner.run, pure_eq_ok, Prod.mk.injEq] at h
    obtain ⟨rfl, rfl⟩ := h
    simp
  | cons f facts ih =>
    obtain ⟨mode₁, item, rest, hstep, hrun, rfl⟩ := Segments.Scanner.run_cons.mp h
    rw [List.flatMap_append, List.append_assoc, ih hrun, ← List.append_assoc,
      scan_fact_ids hstep, List.append_assoc]
    rfl

/-- The items of a parsed conversation, pushed in order. -/
def CompactionTurns.push_all (t : CompactionTurns) (items : List TurnItem) : Py CompactionTurns :=
  items.foldlM (fun t item => t.push (some item)) t

theorem parse_from_eq_ok {t t' : CompactionTurns} {mode : TurnMode}
    {facts : List ConversationFact} :
    parse_from t mode facts = .ok t' ↔ ∃ mode' items t₁,
      turn_scanner.run mode facts = .ok (mode', items) ∧
      t.push_all items = .ok t₁ ∧ t₁.finish mode' = .ok t' := by
  induction facts generalizing t mode with
  | nil =>
    simp only [parse_from, Segments.Scanner.run, pure_eq_ok, Prod.mk.injEq]
    constructor
    · intro h
      exact ⟨mode, [], t, ⟨rfl, rfl⟩, rfl, h⟩
    · rintro ⟨_, _, _, ⟨rfl, rfl⟩, ht, h⟩
      obtain rfl := pure_eq_ok.mp ht
      exact h
  | cons f facts ih =>
    simp only [parse_from, bind_eq_ok, Prod.exists, ih, Segments.Scanner.run_cons]
    constructor
    · rintro ⟨mode₁, item, hstep, u, hu, mode', rest, t₁, hrun, hpush, hfinish⟩
      refine ⟨mode', _, t₁, ⟨mode₁, item, rest, hstep, hrun, rfl⟩, ?_, hfinish⟩
      cases item with
      | none =>
        obtain rfl := pure_eq_ok.mp hu
        exact hpush
      | some item =>
        simp only [CompactionTurns.push_all, Option.toList_some, List.singleton_append,
          List.foldlM_cons, bind_eq_ok]
        exact ⟨u, hu, hpush⟩
    · rintro ⟨mode', _, t₁, ⟨mode₁, item, rest, hstep, hrun, rfl⟩, hpush, hfinish⟩
      cases item with
      | none => exact ⟨mode₁, none, hstep, t, rfl, mode', rest, t₁, hrun, hpush, hfinish⟩
      | some item =>
        simp only [CompactionTurns.push_all, Option.toList_some, List.singleton_append,
          List.foldlM_cons, bind_eq_ok] at hpush
        obtain ⟨u, hu, hpush⟩ := hpush
        exact ⟨mode₁, some item, hstep, u, hu, mode', rest, t₁, hrun, hpush, hfinish⟩

/-! ### What parsing accepts -/

/-- The ids of the summaries among the items. -/
def summary_ids : List TurnItem → List String
  | []                       => []
  | .summary fact_id :: rest => fact_id :: summary_ids rest
  | .turn _ :: rest          => summary_ids rest

/-- The turns among the items. -/
def turn_lists : List TurnItem → List (List String)
  | []                     => []
  | .summary _ :: rest     => turn_lists rest
  | .turn turn_ids :: rest => turn_ids :: turn_lists rest

@[simp] theorem summary_ids_append (items items' : List TurnItem) :
    summary_ids (items ++ items') = summary_ids items ++ summary_ids items' := by
  induction items with
  | nil => rfl
  | cons item items ih => cases item <;> simp [summary_ids, ih]

@[simp] theorem turn_lists_append (items items' : List TurnItem) :
    turn_lists (items ++ items') = turn_lists items ++ turn_lists items' := by
  induction items with
  | nil => rfl
  | cons item items ih => cases item <;> simp [turn_lists, ih]

/-- A conversation may end in this mode: no batch is half answered. -/
def TurnMode.complete : TurnMode → Prop
  | .results _ expected covered => expected ⊆ covered
  | _                           => True

/-- Items are pushed unless there are two summaries. -/
theorem push_all_eq_ok {t t' : CompactionTurns} {items : List TurnItem} :
    t.push_all items = .ok t' ↔
      (t.summary_id.toList ++ summary_ids items).length ≤ 1 ∧
      t' = { t with
        summary_id := (t.summary_id.toList ++ summary_ids items).head?
        closed_turn_ids := t.closed_turn_ids ++ turn_lists items } := by
  induction items generalizing t with
  | nil =>
    obtain ⟨summary_id, closed, open_ids⟩ := t
    rw [CompactionTurns.push_all, List.foldlM_nil, pure_eq_ok]
    cases summary_id <;> simp [summary_ids, turn_lists, eq_comm]
  | cons item items ih =>
    rw [CompactionTurns.push_all, List.foldlM_cons]
    simp only [bind_eq_ok]
    cases item with
    | summary fact_id =>
      simp only [CompactionTurns.push, bind_eq_ok, Py.refuse_value_eq_ok, pure_eq_ok, not_not]
      constructor
      · rintro ⟨_, ⟨_, hnone, rfl⟩, hrest⟩
        obtain ⟨hlen, rfl⟩ := ih.mp hrest
        simpa [hnone, summary_ids, turn_lists] using hlen
      · rintro ⟨hlen, rfl⟩
        have hnone : t.summary_id = none := by
          cases hsummary : t.summary_id with
          | none => rfl
          | some _ => simp [hsummary, summary_ids] at hlen
        refine ⟨_, ⟨(), hnone, rfl⟩, ih.mpr ⟨?_, ?_⟩⟩
        · simpa [hnone, summary_ids] using hlen
        · simp [hnone, summary_ids, turn_lists]
    | turn turn_ids =>
      simp only [CompactionTurns.push, pure_eq_ok, exists_eq_left']
      exact ih.trans (by simp [summary_ids, turn_lists])

theorem finish_eq_ok {t t' : CompactionTurns} {mode : TurnMode} (ht : t.open_turn_ids = []) :
    t.finish mode = .ok t' ↔ mode.complete ∧ t' = { t with open_turn_ids := mode.ids } := by
  cases mode with
  | boundary =>
    simp only [CompactionTurns.finish, pure_eq_ok, TurnMode.complete, TurnMode.ids, ← ht, true_and]
    exact eq_comm
  | turn turn_ids =>
    simp only [CompactionTurns.finish, pure_eq_ok, TurnMode.complete, TurnMode.ids, true_and]
    exact eq_comm
  | results turn_ids expected covered =>
    simp only [CompactionTurns.finish, require_covered, bind_eq_ok, Py.refuse_value_eq_ok, not_not,
      pure_eq_ok, TurnMode.complete, TurnMode.ids]
    constructor
    · rintro ⟨_, hcovered, rfl⟩
      exact ⟨hcovered, rfl⟩
    · rintro ⟨hcovered, rfl⟩
      exact ⟨(), hcovered, rfl⟩

/-- A conversation parses when it is scanned to at most one summary and no
    half answered batch. -/
theorem parse_compaction_turns_eq_ok {facts : List ConversationFact} {turns : CompactionTurns} :
    parse_compaction_turns facts = .ok turns ↔ ∃ mode items,
      turn_scanner.run .boundary facts = .ok (mode, items) ∧ (summary_ids items).length ≤ 1 ∧
      mode.complete ∧ turns = ⟨(summary_ids items).head?, turn_lists items, mode.ids⟩ := by
  rw [parse_compaction_turns, parse_from_eq_ok]
  constructor
  · rintro ⟨mode, items, t, hrun, hpush, hfinish⟩
    obtain ⟨hlen, rfl⟩ := push_all_eq_ok.mp hpush
    obtain ⟨hcomplete, rfl⟩ := (finish_eq_ok rfl).mp hfinish
    exact ⟨mode, items, hrun, hlen, hcomplete, rfl⟩
  · rintro ⟨mode, items, hrun, hlen, hcomplete, rfl⟩
    exact ⟨mode, items, _, hrun, push_all_eq_ok.mpr ⟨hlen, rfl⟩,
      (finish_eq_ok rfl).mpr ⟨hcomplete, rfl⟩⟩
