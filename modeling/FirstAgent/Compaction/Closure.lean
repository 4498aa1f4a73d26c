import FirstAgent.Compaction.Reduction

/-! # Compaction Is Closed under Iteration

    A parsed conversation is a sequence of chunks, its turns and its summary,
    with an open turn at the end.  An accepted removal selects whole chunks,
    so what is left, with the new summary in the place of the first selected
    chunk, is a sequence of chunks again. -/

open Fallible Segments

abbrev TurnChunk : Type := Chunk ConversationFact TurnItem

/-! ### Replacing the selected facts -/

section Replacing

variable {p : ConversationFact → Bool} {r f : ConversationFact} {fs gs : List ConversationFact}

theorem replace_selected_inserted :
    replace_selected p r true fs = fs.filter fun f => !p f := by
  induction fs with
  | nil => rfl
  | cons f fs ih => cases hf : p f <;> simp [replace_selected, hf, ih]

theorem replace_selected_append (h : ∀ f ∈ fs, p f = false) :
    replace_selected p r false (fs ++ gs) = fs ++ replace_selected p r false gs := by
  induction fs with
  | nil => rfl
  | cons f fs ih =>
    have hf := h f List.mem_cons_self
    simp [replace_selected, hf, ih fun g hg => h g (List.mem_cons_of_mem _ hg)]

theorem replace_selected_at (h : p f = true) :
    replace_selected p r false (f :: fs) = r :: fs.filter fun f => !p f := by
  simp [replace_selected, h, replace_selected_inserted]

end Replacing

/-! ### Chunks of a parsed conversation -/

/-- A conversation in chunks, with the facts of the open turn behind them. -/
structure Chunked (facts : List ConversationFact) (turns : CompactionTurns)
    (cs : List TurnChunk) (tail : List ConversationFact) (mode : TurnMode) : Prop where
  facts : facts = cs.flatMap Chunk.entries ++ tail
  reads : ∀ c ∈ cs, turn_scanner.Reads c
  open_turn : turn_scanner.run .boundary tail = .ok (mode, [])
  complete : mode.complete
  one_summary : (summary_ids (cs.map Chunk.item)).length ≤ 1
  turns : turns = ⟨(summary_ids (cs.map Chunk.item)).head?, turn_lists (cs.map Chunk.item), mode.ids⟩

section Chunks

variable {facts : List ConversationFact} {turns : CompactionTurns} {cs : List TurnChunk}
  {tail : List ConversationFact} {mode : TurnMode} {c : TurnChunk}

theorem chunked_of_parse (h : parse_compaction_turns facts = .ok turns) :
    ∃ cs tail mode, Chunked facts turns cs tail mode := by
  obtain ⟨mode, items, hrun, hone, hcomplete, hturns⟩ := parse_compaction_turns_eq_ok.mp h
  obtain ⟨cs, tail, hfacts, rfl, hreads, htail⟩ := Scanner.run_decomposes (g := turn_scanner) hrun
  exact ⟨cs, tail, mode, hfacts, hreads, htail, hcomplete, hone, hturns⟩

/-- Chunks are parsed unless there are two summaries among them. -/
theorem parse_of_chunks (hreads : ∀ c ∈ cs, turn_scanner.Reads c)
    (htail : turn_scanner.run .boundary tail = .ok (mode, [])) (hcomplete : mode.complete) :
    parse_compaction_turns (cs.flatMap Chunk.entries ++ tail) = .ok turns ↔
      (summary_ids (cs.map Chunk.item)).length ≤ 1 ∧
      turns = ⟨(summary_ids (cs.map Chunk.item)).head?, turn_lists (cs.map Chunk.item),
        mode.ids⟩ := by
  have hrun := Scanner.run_chunks (g := turn_scanner) hreads htail
  rw [parse_compaction_turns_eq_ok]
  constructor
  · rintro ⟨mode', items, hrun', hone, _, rfl⟩
    have hsame := Except.ok.inj (hrun'.symm.trans hrun)
    simp only [Prod.mk.injEq] at hsame
    obtain ⟨rfl, rfl⟩ := hsame
    exact ⟨hone, rfl⟩
  · rintro ⟨hone, rfl⟩
    exact ⟨mode, _, hrun, hone, hcomplete, rfl⟩

/-- The facts of a chunk have the ids of its item. -/
theorem reads_ids (h : turn_scanner.Reads c) :
    c.entries.map (fun f => f.val.fact_id) = c.item.ids := by
  have := turn_scanner_ids h
  simpa [turn_scanner, TurnMode.ids] using this.symm

theorem open_turn_ids (h : turn_scanner.run .boundary tail = .ok (mode, [])) :
    tail.map (fun f => f.val.fact_id) = mode.ids := by
  have := turn_scanner_ids h
  simpa [TurnMode.ids] using this.symm

theorem mem_turn_lists {items : List TurnItem} {turn_ids : List String} :
    turn_ids ∈ turn_lists items ↔ .turn turn_ids ∈ items := by
  induction items with
  | nil => simp [turn_lists]
  | cons item items ih => cases item <;> simp [turn_lists, ih]

theorem mem_summary_ids {items : List TurnItem} {fact_id : String} :
    fact_id ∈ summary_ids items ↔ .summary fact_id ∈ items := by
  induction items with
  | nil => simp [summary_ids]
  | cons item items ih => cases item <;> simp [summary_ids, ih]

end Chunks

/-! ### A selection takes whole chunks -/

/-- The selection touches an item. -/
def TurnItem.touched (removable : List String) (item : TurnItem) : Bool :=
  item.ids.any removable.contains

@[simp] theorem touched_of_summary (removable : List String) (fact_id : String) :
    (TurnItem.summary fact_id).touched removable = removable.contains fact_id := by
  simp [TurnItem.touched, TurnItem.ids]

@[simp] theorem touched_of_turn (removable turn_ids : List String) :
    (TurnItem.turn turn_ids).touched removable = turn_ids.any removable.contains := rfl

section Selection

variable {s : ConversationState} {removable : List String} {turns : CompactionTurns}
  {ids : ProtectedFacts} {cs : List TurnChunk} {tail : List ConversationFact} {mode : TurnMode}
  {c : TurnChunk}

theorem touched_turn {turn_ids : List String} (h : Removable s removable turns ids)
    (hturn : turn_ids ∈ turns.closed_turn_ids)
    (htouched : turn_ids.any removable.contains = true) :
    turn_ids ⊆ removable ∧ (∀ i ∈ turn_ids, i ∉ ids.goal_source_ids) ∧
      ∀ i ∈ turn_ids, i ∉ ids.evidence_source_ids := by
  have hcheck := h.whole turn_ids hturn
  simp only [check_turn, htouched, if_true, bind_eq_ok, Py.refuse_value_eq_ok, not_not,
    List.any_eq_true, List.contains_iff_mem, not_exists, not_and] at hcheck
  obtain ⟨_, hwhole, _, hgoal, hevidence⟩ := hcheck
  exact ⟨hwhole, hgoal, hevidence⟩

/-- The facts of a chunk are selected together. -/
theorem chunk_uniform (h : Removable s removable turns ids)
    (hchunks : Chunked s.val.facts turns cs tail mode) (hc : c ∈ cs) :
    ∀ f ∈ c.entries, is_selected removable f = c.item.touched removable := by
  intro f hf
  have hids := reads_ids (hchunks.reads c hc)
  have hmem : f.val.fact_id ∈ c.item.ids := hids ▸ List.mem_map_of_mem hf
  cases hitem : c.item with
  | summary fact_id =>
    rw [hitem, TurnItem.ids, List.mem_singleton] at hmem
    simp [is_selected, TurnItem.touched, TurnItem.ids, hmem]
  | turn turn_ids =>
    rw [hitem, TurnItem.ids] at hmem
    have hturn : turn_ids ∈ turns.closed_turn_ids := by
      rw [hchunks.turns]
      exact mem_turn_lists.mpr (hitem ▸ List.mem_map_of_mem hc)
    rw [TurnItem.touched, TurnItem.ids, Bool.eq_iff_iff]
    constructor
    · intro hselected
      exact List.any_eq_true.mpr ⟨_, hmem, hselected⟩
    · intro htouched
      have hwhole := (touched_turn h hturn htouched).1
      exact List.contains_iff_mem.mpr (hwhole hmem)

theorem open_turn_kept (h : Removable s removable turns ids)
    (hchunks : Chunked s.val.facts turns cs tail mode) :
    ∀ f ∈ tail, is_selected removable f = false := by
  intro f hf
  have hmem : f.val.fact_id ∈ turns.open_turn_ids := by
    rw [hchunks.turns]
    exact open_turn_ids hchunks.open_turn ▸ List.mem_map_of_mem hf
  simpa [is_selected] using h.keeps_open _ hmem

/-- Some chunk is touched. -/
theorem exists_touched (h : Removable s removable turns ids)
    (hchunks : Chunked s.val.facts turns cs tail mode) :
    ∃ c ∈ cs, c.item.touched removable = true := by
  obtain ⟨turn_ids, hmem⟩ := List.exists_mem_of_ne_nil _ h.some_turn
  obtain ⟨hturn, htouched⟩ := List.mem_filter.mp hmem
  rw [hchunks.turns, mem_turn_lists] at hturn
  obtain ⟨c, hc, hitem⟩ := List.mem_map.mp hturn
  exact ⟨c, hc, by rw [hitem]; exact htouched⟩

/-- The chunk of a summary fact. -/
def summary_chunk (r : ConversationFact) : TurnChunk := ⟨[r], .summary r.val.fact_id⟩

theorem reads_summary {r : ConversationFact} (h : r.val.kind = .context_summary) :
    turn_scanner.Reads (summary_chunk r) := by
  refine Scanner.run_singleton.mpr ⟨some (.summary r.val.fact_id), ?_, rfl⟩
  simp [turn_scanner, scan_fact, h, pure, Except.pure]

/-- Compaction puts the summary in the place of the first touched chunk and
    drops the other touched ones. -/
theorem compacted_chunks (h : Removable s removable turns ids)
    (hchunks : Chunked s.val.facts turns cs tail mode) (r : ConversationFact) :
    ∃ before after, cs.filter (fun c => !c.item.touched removable) = before ++ after ∧
      replace_selected (is_selected removable) r false s.val.facts =
        (before ++ summary_chunk r :: after).flatMap Chunk.entries ++ tail := by
  obtain ⟨c, hc, htouched⟩ := exists_touched h hchunks
  have hfind : (cs.find? fun c => c.item.touched removable).isSome :=
    List.find?_isSome.mpr ⟨c, hc, htouched⟩
  obtain ⟨first, hfirst⟩ := Option.isSome_iff_exists.mp hfind
  obtain ⟨hsel, before, after, hsplit, hbefore⟩ := List.find?_eq_some_iff_append.mp hfirst
  have huniform := fun c hc => chunk_uniform (c := c) h hchunks hc
  have hkept : cs.filter (fun c => !c.item.touched removable) =
      before ++ after.filter fun c => !c.item.touched removable := by
    rw [hsplit, List.filter_append, List.filter_eq_self.mpr hbefore,
      List.filter_cons_of_neg (by simpa using hsel)]
  refine ⟨before, after.filter fun c => !c.item.touched removable, hkept, ?_⟩
  have hfront : ∀ f ∈ before.flatMap Chunk.entries, is_selected removable f = false := by
    intro f hf
    obtain ⟨c, hc, hf⟩ := List.mem_flatMap.mp hf
    rw [huniform c (by simp [hsplit, hc]) f hf]
    simpa using hbefore c hc
  have hgone : first.entries.filter (fun f => !is_selected removable f) = [] := by
    refine List.filter_eq_nil_iff.mpr fun f hf => ?_
    rw [huniform first (by simp [hsplit]) f hf, hsel]
    exact Bool.false_ne_true
  have hrest : (after.flatMap Chunk.entries).filter (fun f => !is_selected removable f) =
      (after.filter fun c => !c.item.touched removable).flatMap Chunk.entries := by
    refine filter_entries fun c hc f hf => ?_
    rw [huniform c (by simp [hsplit, hc]) f hf]
  have htail : tail.filter (fun f => !is_selected removable f) = tail :=
    List.filter_eq_self.mpr fun f hf => by rw [open_turn_kept h hchunks f hf]; rfl
  -- a touched chunk has a first fact, and the summary takes its place
  obtain ⟨f, fs, hentries⟩ : ∃ f fs, first.entries = f :: fs := by
    cases hentries : first.entries with
    | cons f fs => exact ⟨f, fs, rfl⟩
    | nil =>
      have hids := reads_ids (hchunks.reads first (by simp [hsplit]))
      rw [hentries] at hids
      simp [TurnItem.touched, ← hids] at hsel
  have hf : is_selected removable f = true := by
    rw [huniform first (by simp [hsplit]) f (by simp [hentries]), hsel]
  rw [hentries, List.filter_cons_of_neg (by simp [hf])] at hgone
  rw [hchunks.facts, hsplit, List.flatMap_append, List.flatMap_cons, hentries, List.append_assoc,
    replace_selected_append hfront, List.append_assoc, List.cons_append, replace_selected_at hf,
    List.filter_append, List.filter_append, hgone, hrest, htail]
  simp [summary_chunk]

end Selection

/-! ### What compaction leaves -/

/-- The facts of `s'` are the retained facts of `s` in their order with one
    summary among them, every protected fact is retained, and they parse to
    the turns that were not selected and the one summary. -/
structure ClosedCompaction (s s' : ConversationState) (removable : List String)
    (turns : CompactionTurns) (ids : ProtectedFacts) (summary_id : String) : Prop where
  retained : ∃ before summary_fact after,
    s'.val.facts = before ++ summary_fact :: after ∧
    before ++ after = s.val.facts.filter (fun f => !is_selected removable f) ∧
    summary_fact.val.kind = .context_summary ∧ summary_fact.val.fact_id = summary_id
  protected_kept : ∀ f ∈ s.val.facts,
    f.val.fact_id ∈ ids.goal_source_ids ++ ids.evidence_source_ids →
    is_selected removable f = false
  parsed : parse_compaction_turns s'.val.facts = .ok {
    summary_id := some summary_id
    closed_turn_ids := turns.closed_turn_ids.filter fun t => !t.any removable.contains
    open_turn_ids := turns.open_turn_ids }

/-- A summary that stands in the conversation is selected and no Goal and no
    evidence rests on it. -/
def SummaryReplaced (removable : List String) (turns : CompactionTurns) (ids : ProtectedFacts) :
    Prop :=
  ∀ i, turns.summary_id = some i →
    i ∈ removable ∧ i ∉ ids.goal_source_ids ++ ids.evidence_source_ids

section Closed

variable {s s' : ConversationState} {removable : List String} {turns : CompactionTurns}
  {ids : ProtectedFacts} {cs : List TurnChunk} {tail : List ConversationFact} {mode : TurnMode}

theorem filter_untouched_turns (items : List TurnItem) :
    turn_lists (items.filter fun i => !i.touched removable) =
      (turn_lists items).filter fun t => !t.any removable.contains := by
  induction items with
  | nil => rfl
  | cons item items ih =>
    cases item with
    | summary fact_id =>
      by_cases h : fact_id ∈ removable <;>
        simp [turn_lists, h, ← ih]
    | turn turn_ids =>
      cases h : turn_ids.any removable.contains <;> simp [turn_lists, h, ← ih]

theorem filter_untouched_summaries (items : List TurnItem) :
    summary_ids (items.filter fun i => !i.touched removable) =
      (summary_ids items).filter fun i => !removable.contains i := by
  induction items with
  | nil => rfl
  | cons item items ih =>
    cases item with
    | summary fact_id =>
      by_cases h : fact_id ∈ removable <;>
        simp [summary_ids, h, ih]
    | turn turn_ids =>
      cases h : turn_ids.any removable.contains <;> simp [summary_ids, h, ih]

/-- The facts with their selected ones replaced, split at the summary. -/
theorem replace_selected_split {p : ConversationFact → Bool} {r : ConversationFact}
    {fs : List ConversationFact} (h : ∃ f ∈ fs, p f = true) :
    ∃ before after, replace_selected p r false fs = before ++ r :: after ∧
      before ++ after = fs.filter fun f => !p f := by
  obtain ⟨f, hf⟩ := Option.isSome_iff_exists.mp (List.find?_isSome.mpr h)
  obtain ⟨hp, before, after, rfl, hbefore⟩ := List.find?_eq_some_iff_append.mp hf
  have hfront : ∀ f ∈ before, p f = false := fun f hf => by simpa using hbefore f hf
  refine ⟨before, after.filter fun f => !p f, ?_, ?_⟩
  · rw [replace_selected_append hfront, replace_selected_at hp]
  · rw [List.filter_append, List.filter_eq_self.mpr hbefore,
      List.filter_cons_of_neg (by simpa using hp)]

/-- The chunks left by compaction parse when the old summary is gone. -/
theorem compacted_parse (h : Removable s removable turns ids) {r : ConversationFact}
    (hr : r.val.kind = .context_summary) {turns' : CompactionTurns} :
    parse_compaction_turns (replace_selected (is_selected removable) r false s.val.facts) =
        .ok turns' ↔
      (∀ i, turns.summary_id = some i → i ∈ removable) ∧ turns' = {
        summary_id := some r.val.fact_id
        closed_turn_ids := turns.closed_turn_ids.filter fun t => !t.any removable.contains
        open_turn_ids := turns.open_turn_ids } := by
  obtain ⟨cs, tail, mode, hchunks⟩ := chunked_of_parse h.parsed
  obtain ⟨before, after, hkept, hreplaced⟩ := compacted_chunks h hchunks r
  have hreads : ∀ c ∈ before ++ summary_chunk r :: after, turn_scanner.Reads c := by
    intro c hc
    have hsplit : c = summary_chunk r ∨ c ∈ before ++ after := by
      simp only [List.mem_append, List.mem_cons] at hc ⊢
      tauto
    rcases hsplit with rfl | hc
    · exact reads_summary hr
    · rw [← hkept] at hc
      exact hchunks.reads c (List.mem_filter.mp hc).1
  have hitems : (before ++ after).map Chunk.item =
      (cs.map Chunk.item).filter fun i => !i.touched removable := by
    rw [← hkept, List.filter_map]
    rfl
  have hturns : turn_lists ((before ++ summary_chunk r :: after).map Chunk.item) =
      turns.closed_turn_ids.filter fun t => !t.any removable.contains := by
    rw [hchunks.turns, ← filter_untouched_turns, ← hitems]
    simp [summary_chunk, turn_lists]
  have hsummaries : (summary_ids (before.map Chunk.item)) ++ summary_ids (after.map Chunk.item) =
      (summary_ids (cs.map Chunk.item)).filter fun i => !removable.contains i := by
    rw [← filter_untouched_summaries, ← hitems]
    simp
  have hone := hchunks.one_summary
  rw [hreplaced, parse_of_chunks hreads hchunks.open_turn hchunks.complete, hturns]
  simp only [List.map_append, List.map_cons, summary_chunk, summary_ids_append, summary_ids]
  have hsummary : turns.summary_id = (summary_ids (cs.map Chunk.item)).head? := by
    rw [hchunks.turns]
  have hopen : turns.open_turn_ids = mode.ids := by rw [hchunks.turns]
  rw [hsummary, hopen]
  constructor
  · rintro ⟨hlen, rfl⟩
    have hnone : summary_ids (before.map Chunk.item) ++ summary_ids (after.map Chunk.item) = [] := by
      rw [List.length_append, List.length_cons] at hlen
      exact List.eq_nil_of_length_eq_zero (by rw [List.length_append]; omega)
    obtain ⟨hfront, _⟩ := List.append_eq_nil_iff.mp hnone
    refine ⟨fun i hi => ?_, by rw [hfront]; rfl⟩
    have hmem : i ∈ summary_ids (cs.map Chunk.item) := List.mem_of_head? hi
    rw [hsummaries, List.filter_eq_nil_iff] at hnone
    simpa using hnone i hmem
  · rintro ⟨hselected, rfl⟩
    have hnone : summary_ids (before.map Chunk.item) ++ summary_ids (after.map Chunk.item) = [] := by
      rw [hsummaries, List.filter_eq_nil_iff]
      intro i hi
      cases hlist : summary_ids (cs.map Chunk.item) with
      | nil =>
        rw [hlist] at hi
        cases hi
      | cons j rest =>
        have hrest : rest = [] := by
          rw [hlist, List.length_cons] at hone
          exact List.eq_nil_of_length_eq_zero (by omega)
        rw [hlist, hrest, List.mem_singleton] at hi
        simpa [hi] using hselected j (by rw [hlist]; rfl)
    obtain ⟨hfront, hback⟩ := List.append_eq_nil_iff.mp hnone
    rw [hfront, hback]
    exact ⟨by simp, rfl⟩

/-- A protected fact is selected only as the old summary. -/
theorem protected_unselected (h : Removable s removable turns ids)
    (hsummary : ∀ i, turns.summary_id = some i →
      i ∉ ids.goal_source_ids ++ ids.evidence_source_ids) {f : ConversationFact}
    (hprotected : f.val.fact_id ∈ ids.goal_source_ids ++ ids.evidence_source_ids) :
    is_selected removable f = false := by
  by_contra hselected
  have hmem : f.val.fact_id ∈ removable := by simpa [is_selected] using hselected
  rcases List.mem_append.mp (h.covered hmem) with hold | hturn
  · exact hsummary _ (by simpa using hold) hprotected
  · obtain ⟨turn_ids, hchosen, hin⟩ := List.mem_flatten.mp hturn
    obtain ⟨hclosed, htouched⟩ := List.mem_filter.mp hchosen
    obtain ⟨_, hgoal, hevidence⟩ := touched_turn h hclosed htouched
    rcases List.mem_append.mp hprotected with hp | hp
    · exact hgoal _ hin hp
    · exact hevidence _ hin hp

/-- An accepted compaction leaves a conversation that parses, with every
    protected fact, exactly when the old summary, if there is one, is replaced
    and protects nothing. -/
theorem compaction_closed_iff {summary : ConversationSummaryV1}
    {source_scope : Option ProviderConsentScopeV1}
    (hturns : parse_compaction_turns s.val.facts = .ok turns)
    (hids : protected_compaction_fact_ids s = .ok ids)
    (h : apply_compaction_summary s summary removable source_scope = .ok s') :
    ClosedCompaction s s' removable turns ids (context_summary_fact_id summary) ↔
      SummaryReplaced removable turns ids := by
  obtain ⟨turns₁, ids₁, r, _, hrem, hkind, hfact_id, _, h⟩ := apply_compaction_summary_ok h
  obtain rfl := Except.ok.inj (hrem.parsed.symm.trans hturns)
  obtain rfl := Except.ok.inj (hrem.protects.symm.trans hids)
  have hfacts : s'.val.facts =
      replace_selected (is_selected removable) r false s.val.facts := by rw [h]
  constructor
  · intro hclosed i hi
    have hparsed := hclosed.parsed
    rw [hfacts, compacted_parse hrem hkind] at hparsed
    refine ⟨hparsed.1 i hi, fun hprotected => ?_⟩
    have hexists : i ∈ s.val.fact_ids := hrem.exist (hparsed.1 i hi)
    obtain ⟨f, hf, rfl⟩ := List.mem_map.mp hexists
    have hkept := hclosed.protected_kept f hf hprotected
    simp [is_selected, hparsed.1 _ hi] at hkept
  · intro hreplaced
    obtain ⟨turn_ids, hchosen⟩ := List.exists_mem_of_ne_nil _ hrem.some_turn
    obtain ⟨cs, tail, mode, hchunks⟩ := chunked_of_parse hrem.parsed
    obtain ⟨c, hc, htouched⟩ := exists_touched hrem hchunks
    have hselected : ∃ f ∈ s.val.facts, is_selected removable f = true := by
      obtain ⟨i, hi, hcontains⟩ := List.any_eq_true.mp htouched
      obtain ⟨f, hf, rfl⟩ := List.mem_map.mp (reads_ids (hchunks.reads c hc) ▸ hi)
      refine ⟨f, ?_, hcontains⟩
      rw [hchunks.facts]
      exact List.mem_append_left _ (List.mem_flatMap.mpr ⟨c, hc, hf⟩)
    obtain ⟨before, after, hsplit, hkept⟩ := replace_selected_split (r := r) hselected
    exact {
      retained := ⟨before, r, after, by rw [hfacts, hsplit], hkept, hkind, hfact_id⟩
      protected_kept := fun f _ hprotected =>
        protected_unselected hrem (fun i hi => (hreplaced i hi).2) hprotected
      parsed := by
        rw [hfacts, compacted_parse hrem hkind, hfact_id]
        exact ⟨fun i hi => (hreplaced i hi).1, rfl⟩ }

end Closed

/-! ### An old summary replaced, and one left in place -/

section Fixed

def plain_fact (fact_id : String) (kind : FactKind) (h : fact_id ≠ "") : ConversationFact where
  val := { fact_id := fact_id, kind := kind, content := JsonDict.of [("text", .str "text")] }
  valid := by simp [ConversationFactFields.post_init, Py.refuse_value, Fallible.refuse, h]

/-- An earlier summary and one closed turn. -/
def summarized_turn : ConversationState where
  val := { ConversationState.fresh.val with
    facts := [plain_fact "fact:summary" .context_summary (by decide),
      plain_fact "fact:user" .user_message (by decide),
      plain_fact "fact:assistant" .assistant_message (by decide)] }
  valid := by decide +kernel

/-- A summary that binds its source facts by this digest. -/
def turn_summary (source_fact_ids_digest : String) : ConversationSummaryFields where
  objective := "a turn"
  constraints := []
  decisions := []
  completed := []
  open_items := []
  key_references := []
  source_checkpoint_digest := "59b774a5253e2bc8e357bdfc95e4f7a4b214734f6da65a9f53b40711a10ba16b"
  source_fact_ids_digest := source_fact_ids_digest

def whole_summary : ConversationSummaryV1 where
  val := turn_summary "149920a44dbfd2c2a910bede764d3cc2268e97ae71d63b0aa22fa6bcd872842a"
  valid := by decide +kernel

def turn_only_summary : ConversationSummaryV1 where
  val := turn_summary "cec6cc5d4bdee238aa55a4e206f485557d8540968f148b9f0e1d338a0ccf9d50"
  valid := by decide +kernel

/-- Replacing the turn together with the old summary leaves one summary. -/
theorem old_summary_replaced : ∃ s' turns ids,
    apply_compaction_summary summarized_turn whole_summary
      ["fact:summary", "fact:user", "fact:assistant"] none = .ok s' ∧
    ClosedCompaction summarized_turn s' ["fact:summary", "fact:user", "fact:assistant"] turns ids
      (context_summary_fact_id whole_summary) := by
  have hturns : succeeds (parse_compaction_turns summarized_turn.val.facts) (fun turns =>
      turns.summary_id = some "fact:summary") = true := by decide +kernel
  have hids : succeeds (protected_compaction_fact_ids summarized_turn) (fun ids =>
      ids = ⟨[], []⟩) = true := by decide +kernel
  have happly : succeeds (apply_compaction_summary summarized_turn whole_summary
      ["fact:summary", "fact:user", "fact:assistant"] none) (fun _ => true) = true := by
    decide +kernel
  obtain ⟨turns, hturns, hold⟩ := succeeds_iff.mp hturns
  obtain ⟨ids, hids, hnone⟩ := succeeds_iff.mp hids
  obtain ⟨s', hs', _⟩ := succeeds_iff.mp happly
  refine ⟨s', turns, ids, hs', (compaction_closed_iff hturns hids hs').mpr ?_⟩
  rintro i hi
  rw [of_decide_eq_true hold] at hi
  simp [← Option.some.inj hi, of_decide_eq_true hnone]

/-- Replacing the turn alone is accepted and leaves two summaries, so that the
    facts do not parse any more. -/
theorem two_summaries_left : ∃ s',
    (∃ turns, parse_compaction_turns summarized_turn.val.facts = .ok turns) ∧
    apply_compaction_summary summarized_turn turn_only_summary ["fact:user", "fact:assistant"]
      none = .ok s' ∧
    ∀ turns, parse_compaction_turns s'.val.facts ≠ .ok turns := by
  have hturns : succeeds (parse_compaction_turns summarized_turn.val.facts) (fun _ => true) =
      true := by decide +kernel
  have happly : succeeds (apply_compaction_summary summarized_turn turn_only_summary
      ["fact:user", "fact:assistant"] none) (fun s' =>
        s'.val.facts.map (fun f => f.val.kind) = [.context_summary, .context_summary]) = true := by
    decide +kernel
  obtain ⟨turns, hturns, _⟩ := succeeds_iff.mp hturns
  obtain ⟨s', hs', hkinds⟩ := succeeds_iff.mp happly
  refine ⟨s', ⟨turns, hturns⟩, hs', fun turns' hturns' => ?_⟩
  obtain ⟨first, rest, hfacts, hfirst, hrest⟩ := List.map_eq_cons_iff.mp (of_decide_eq_true hkinds)
  obtain ⟨second, rest, rfl, hsecond, hnil⟩ := List.map_eq_cons_iff.mp hrest
  obtain rfl := List.map_eq_nil_iff.mp hnil
  have hchunks := (@parse_of_chunks turns' [summary_chunk first, summary_chunk second] [] .boundary
    (by simp [reads_summary hfirst, reads_summary hsecond])
    rfl trivial).mp (by simpa [summary_chunk, hfacts] using hturns')
  exact absurd hchunks.1 (by simp [summary_chunk, summary_ids])

end Fixed
