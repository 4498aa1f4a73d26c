import FirstAgent.Automation.Occurrences

/-! # Runs of the Reconciler

    What each step of the reconciler does, and what holds across its restarts:
    an occurrence is executed at most once, after it was marked running, and
    not at all when it was claimed for being late, unless the wake that claimed
    it ends before its outcome is recorded. -/

open Fallible Controlled

/-! ### The moves -/

/-- Mutations that end the business of a wake. -/
def AutomationMutation.settles : AutomationMutation → Bool
  | .start_purge_object _ _ | .record_purge_progress _ _ _ | .finish_purge _ _
  | .record_occurrence_outcome _ _ _ => true
  | _ => false

/-- What a label does. -/
inductive ReconcilerMove (st : ReconcilerState) : ReconcilerLabel → ReconcilerState → Prop where
  | stay (l : ReconcilerLabel) : ReconcilerMove st l st
  | sleep (l : ReconcilerLabel)
      (hskip : ∀ a, st.point = .skipping a → l = .stop ∨
        ∃ token e, l = .skip token ∧
          record_result st.snapshot token a (misfire_result a) = .error e) :
      ReconcilerMove st l { st with point := .asleep }
  | control (token : String) (m : AutomationMutation) (s' : AutomationSnapshotV1)
      (hm : m.is_control = true) (h : Handles st.snapshot m s') :
      ReconcilerMove st (.control token m) { st with snapshot := s' }
  | wake (host : ReconcilerHost) (tokens : ClaimTokens) (now : UtcTime) (p : ReconcilePoint)
      (hpoint : st.point = .asleep) (h : reconcile host tokens now st.snapshot = .ok p) :
      ReconcilerMove st (.wake host tokens now) { st with point := p }
  | claim (token : String) (a : BackgroundOccurrenceAuthorityV1) (kind : ScheduleDecisionKind)
      (s' : AutomationSnapshotV1) (hpoint : st.point = .claiming a kind)
      (h : Handles st.snapshot (.claim_occurrence a) s') :
      ReconcilerMove st (.claim token) { st with
        snapshot := s'
        point := ReconcilerState.claimed_point a kind
        claims := st.claims ++ [⟨a, kind⟩] }
  | skip (token : String) (a : BackgroundOccurrenceAuthorityV1) (summary : OccurrenceSummaryV1)
      (s' : AutomationSnapshotV1) (hpoint : st.point = .skipping a)
      (hstatus : summary.val.status = .misfire_skipped)
      (h : Handles st.snapshot (.record_occurrence_outcome a.val.automation_id
        a.val.authority_digest summary) s') :
      ReconcilerMove st (.skip token) { st with snapshot := s', point := .asleep }
  | prepare (a : BackgroundOccurrenceAuthorityV1) (hpoint : st.point = .preparing a) :
      ReconcilerMove st .prepare { st with point := .supervising a }
  | on_ready (token process : String) (a : BackgroundOccurrenceAuthorityV1)
      (s' : AutomationSnapshotV1) (hpoint : st.point = .supervising a)
      (h : Handles st.snapshot
        (.mark_dispatched a.val.automation_id a.val.authority_digest process) s') :
      ReconcilerMove st (.on_ready token process) { st with
        snapshot := s'
        point := .dispatched a (start_permit a process) }
  | on_started (token process permit : String) (a : BackgroundOccurrenceAuthorityV1)
      (s' : AutomationSnapshotV1) (hpoint : st.point = .dispatched a permit)
      (h : Handles st.snapshot
        (.mark_running a.val.automation_id a.val.authority_digest process) s') :
      ReconcilerMove st (.on_started token process permit) { st with
        snapshot := s'
        point := .started a
        running := st.running ++ [a] }
  | execute (a : BackgroundOccurrenceAuthorityV1) (hpoint : st.point = .started a) :
      ReconcilerMove st .execute { st with
        point := .executed a
        executed := st.executed ++ [a] }
  | settle (l : ReconcilerLabel) (m : AutomationMutation) (s' : AutomationSnapshotV1)
      (hpoint : ∀ a, st.point ≠ .skipping a) (hm : m.settles = true)
      (h : Handles st.snapshot m s') :
      ReconcilerMove st l { st with snapshot := s', point := .asleep }

section Moves

variable {s s' : AutomationSnapshotV1} {a : BackgroundOccurrenceAuthorityV1} {token : String}
  {result : Py OccurrenceExecutionResultV1} {st st' : ReconcilerState} {l : ReconcilerLabel}

/-- What is recorded is one outcome with the status of the result. -/
theorem record_result_handles (h : record_result s token a result = .ok s') :
    ∃ r summary, result = .ok r ∧ summary.val.status = r.val.status ∧
      Handles s (.record_occurrence_outcome a.val.automation_id a.val.authority_digest summary) s' := by
  simp only [record_result, bind_eq_ok, construct_eq_ok] at h
  obtain ⟨r, hr, summary, hsummary, h⟩ := h
  simp only [result_summary, Checked.make_eq_ok] at hsummary
  exact ⟨r, summary, hr, by rw [hsummary], handles_of_send h⟩

theorem misfire_result_status {r : OccurrenceExecutionResultV1} (h : misfire_result a = .ok r) :
    r.val.status = .misfire_skipped := by
  simp only [misfire_result, unknown_result, Checked.make_eq_ok] at h
  rw [h]

/-- A purge call sends one mutation, or finds nothing it may do. -/
theorem reconcile_purge_handles {delete : PurgeOwnedObjectV1 → PurgeCleanupOutcome} {now : UtcTime}
    {record : AutomationRecordV1} {code : PurgeCode}
    (h : reconcile_purge delete token now s record = .ok (code, s')) :
    s' = s ∨ ∃ m : AutomationMutation, m.settles = true ∧ Handles s m s' := by
  simp only [reconcile_purge, bind_eq_ok, asserted_eq_ok] at h
  obtain ⟨manifest, _, h⟩ := h
  split at h
  · simp only [pure_eq_ok, Prod.mk.injEq] at h
    exact .inl h.2.symm
  · right
    cases hactive : record.val.purge_active_object_id with
    | some active =>
      simp only [hactive, bind_eq_ok, asserted_eq_ok, pure_eq_ok, Prod.mk.injEq] at h
      obtain ⟨expected, _, t, hsend, _, rfl⟩ := h
      exact ⟨_, rfl, handles_of_send hsend⟩
    | none =>
      simp only [hactive] at h
      split at h
      all_goals
        simp only [bind_eq_ok, pure_eq_ok, Prod.mk.injEq] at h
        obtain ⟨t, hsend, _, rfl⟩ := h
        exact ⟨_, rfl, handles_of_send hsend⟩

-- the equations of the step are made once, ahead of the lemmas that read them
attribute [local simp] ReconcilerState.step in
/-- Every label that applies is one move. -/
theorem step_move (h : st.step l = .ok st') : ReconcilerMove st l st' := by
  cases l with
  | control token m =>
    simp only [ReconcilerState.step, ite_eq_ok] at h
    obtain ⟨hm, h⟩ | ⟨_, h⟩ := h
    · obtain rfl := ok_eq_ok.mp h
      unfold ReconcilerState.or_stay
      split
      · rename_i s' hsend
        exact .control token m s' hm (handles_of_send hsend)
      · exact .stay _
    · cases h
  | stop =>
    obtain rfl := ok_eq_ok.mp h
    exact .sleep .stop fun _ _ => .inl rfl
  | wake host tokens now =>
    simp only [ReconcilerState.step] at h
    split at h
    · rename_i hpoint
      obtain rfl := ok_eq_ok.mp h
      -- a wake that raises goes back to sleep
      cases hp : reconcile host tokens now st.snapshot with
      | ok p => exact .wake host tokens now p hpoint hp
      | error e =>
        refine .sleep _ fun a ha => ?_
        rw [hpoint] at ha
        cases ha
    · cases h
  | claim token =>
    simp only [ReconcilerState.step] at h
    split at h
    · rename_i a kind hpoint
      obtain rfl := ok_eq_ok.mp h
      unfold ReconcilerState.or_asleep
      split
      · rename_i s' hsend
        exact .claim token a kind s' hpoint (handles_of_send hsend)
      · refine .sleep _ fun b hb => ?_
        rw [hpoint] at hb
        cases hb
    · cases h
  | skip token =>
    simp only [ReconcilerState.step] at h
    split at h
    · rename_i a hpoint
      obtain rfl := ok_eq_ok.mp h
      unfold ReconcilerState.or_asleep
      split
      · rename_i s' hrecord
        obtain ⟨r, summary, hr, hstatus, hhandles⟩ := record_result_handles hrecord
        rw [misfire_result_status hr] at hstatus
        exact .skip token a summary s' hpoint hstatus hhandles
      · -- the result is not recorded, and the late claim stays open
        rename_i e hrecord
        refine .sleep _ fun b hb => .inr ⟨token, e, rfl, ?_⟩
        obtain rfl : a = b := by simpa [hpoint] using hb
        exact hrecord
    · cases h
  | prepare =>
    simp only [ReconcilerState.step] at h
    split at h
    · rename_i a hpoint
      obtain rfl := ok_eq_ok.mp h
      exact .prepare a hpoint
    · cases h
  | on_ready token process =>
    simp only [ReconcilerState.step] at h
    split at h
    · rename_i a hpoint
      obtain rfl := ok_eq_ok.mp h
      unfold ReconcilerState.or_stay
      split
      · rename_i s' hsend
        exact .on_ready token process a s' hpoint (handles_of_send hsend)
      · exact .stay _
    · cases h
  | on_started token process permit =>
    simp only [ReconcilerState.step] at h
    split at h
    · rename_i a expected hpoint
      rw [ite_eq_ok] at h
      -- another permit than the one of `on_ready` starts nothing
      obtain ⟨_, h⟩ | ⟨hpermit, h⟩ := h
      · obtain rfl := ok_eq_ok.mp h
        exact .stay _
      · obtain rfl := not_not.mp hpermit
        obtain rfl := ok_eq_ok.mp h
        unfold ReconcilerState.or_stay
        split
        · rename_i s' hsend
          exact .on_started token process permit a s' hpoint (handles_of_send hsend)
        · exact .stay _
    · cases h
  | execute =>
    simp only [ReconcilerState.step] at h
    split at h
    · rename_i a hpoint
      obtain rfl := ok_eq_ok.mp h
      exact .execute a hpoint
    · cases h
  | finish token result report =>
    simp only [ReconcilerState.step] at h
    split at h
    · rename_i a hpoint
      have hskip : ∀ b, st.point ≠ .skipping b := by
        rintro b hb
        rw [hb] at hpoint
        cases hpoint
      obtain rfl := ok_eq_ok.mp h
      unfold ReconcilerState.or_asleep
      split
      · rename_i s' hrecord
        obtain ⟨_, summary, _, _, hhandles⟩ := record_result_handles hrecord
        exact .settle _ _ s' hskip rfl hhandles
      · exact .sleep _ fun b hb => absurd hb (hskip b)
    · cases h
  | recover token recovered report =>
    simp only [ReconcilerState.step] at h
    split at h
    · rename_i a recovery hpoint
      have hskip : ∀ b, st.point ≠ .skipping b := by simp [hpoint]
      obtain rfl := ok_eq_ok.mp h
      unfold ReconcilerState.or_asleep
      split
      · rename_i s' hrecord
        obtain ⟨_, summary, _, _, hhandles⟩ := record_result_handles hrecord
        exact .settle _ _ s' hskip rfl hhandles
      · exact .sleep _ fun b hb => absurd hb (hskip b)
    · cases h
  | purge token delete =>
    simp only [ReconcilerState.step] at h
    split at h
    · rename_i record now hpoint
      have hskip : ∀ b, st.point ≠ .skipping b := by simp [hpoint]
      obtain rfl := ok_eq_ok.mp h
      cases hcall : reconcile_purge delete token now st.snapshot record with
      | error _ => exact .sleep _ fun b hb => absurd hb (hskip b)
      | ok call =>
        -- the purge sends one mutation, or nothing changes
        rcases reconcile_purge_handles hcall with hsame | ⟨m, hm, hhandles⟩
        · simp only [ReconcilerState.or_asleep, Functor.map, Except.map, hsame]
          exact .sleep _ fun b hb => absurd hb (hskip b)
        · exact .settle _ m _ hskip hm hhandles
    · cases h

end Moves

/-! ### The late occurrence -/

section Late

variable {s : AutomationSnapshotV1} {r : AutomationRecordV1} {a : BackgroundOccurrenceAuthorityV1}
  {token : String}

/-- A claimed occurrence is recorded as late while there is room. -/
theorem misfire_recorded (hr : find_record s a.val.automation_id = some r) (hclaiming : r.Claiming)
    (hclaim : r.val.active_claim = some a) (hphase : r.val.active_claim_phase = some .claimed)
    (hroom : r.val.terminal_history.length < 128) (hrevision : s.val.revision < 2 ^ 63 - 1)
    (hlength : 16 ≤ token.toList.length) (hfresh : token ≠ s.val.snapshot_token) :
    ∃ s', record_result s token a (misfire_result a) = .ok s' := by
  obtain ⟨_, hid, _, ⟨t, ht⟩, hdefinition, hcheckpoint, _⟩ := authority_checks a
  have hcode : PyText.is_opaque_id "misfire_skipped" = true := by decide
  have hresult : OccurrenceExecutionResultFields.post_init {
      status := .misfire_skipped
      checkpoint_identity_digest := a.val.checkpoint_identity
      error_code := some "misfire_skipped" } = .ok () := by
    simp [OccurrenceExecutionResultFields.post_init, Py.require_hex64, Py.require_hex64_or_none,
      bind_eq_ok, Py.refuse_value_eq_ok, OccurrenceControlStatus.is_result,
      OccurrenceControlStatus.is_unresolved, hcheckpoint, hcode]
  have hsummary : OccurrenceSummaryFields.post_init {
      occurrence_id := a.val.occurrence_id
      status := .misfire_skipped
      scheduled_for_utc := a.val.scheduled_for_utc
      definition_digest := a.val.definition_digest
      checkpoint_identity_digest := a.val.checkpoint_identity
      result_digest := none
      replayed := false
      error_code := .str "misfire_skipped" } = .ok () := by
    simp only [OccurrenceSummaryFields.post_init, Py.require_opaque_id, Py.require_hex64,
      Py.require_hex64_or_none, bind_eq_ok, Py.refuse_value_eq_ok, Bool.not_eq_false, exists_const,
      Option.elim_none, and_true]
    exact ⟨hid, t, ht, hdefinition, hcheckpoint⟩
  obtain ⟨s', hs'⟩ := summary_accepted ⟨_, hsummary⟩ hr hclaiming hclaim hphase
    (by simp [summary_matches]) rfl hroom hrevision hlength hfresh
  refine ⟨s', ?_⟩
  simp only [record_result, bind_eq_ok, construct_eq_ok]
  exact ⟨⟨_, hresult⟩, Checked.make_eq_ok.mpr rfl, ⟨_, hsummary⟩, Checked.make_eq_ok.mpr rfl, hs'⟩

end Late

/-! ### What holds in every run -/

/-- What the point of a wake says about its claim. -/
def ReconcilePoint.Holds (p : ReconcilePoint) (s : AutomationSnapshotV1) : Prop :=
  match p with
  | .skipping a | .preparing a | .supervising a => HoldsClaim s a .claimed
  | .dispatched a _ => HoldsClaim s a .dispatched
  | .started a => HoldsClaim s a .running
  | _ => True

/-- The claims made so far. -/
def ReconcilerState.authorities (st : ReconcilerState) : List BackgroundOccurrenceAuthorityV1 :=
  st.claims.map OccurrenceClaim.authority

/-- A proposal takes an id no claim of the run bears. -/
def FreshProposal (st : ReconcilerState) : ReconcilerLabel → Prop
  | .control _ (.create_proposal body) =>
    ∀ a ∈ st.authorities, a.val.automation_id ≠ body.val.automation_id
  | _ => True

/-- Executions follow marks, and marks follow claims. -/
structure ReconcilerState.Ordered (st : ReconcilerState) : Prop where
  recorded : ClaimsRecorded st.snapshot st.authorities
  point : st.point.Holds st.snapshot
  running : ∀ a ∈ st.running, a ∈ st.authorities ∧ ClaimStarted st.snapshot a
  executed : ∀ a ∈ st.executed, a ∈ st.running
  once : st.executed.Nodup
  started : ∀ a, st.point = .started a → a ∈ st.running ∧ a ∉ st.executed

section Runs

variable {st st' : ReconcilerState} {l : ReconcilerLabel} {m : AutomationMutation}
  {s s' : AutomationSnapshotV1} {past : List BackgroundOccurrenceAuthorityV1}

/-- A wake that finds a claim to start finds it claimed. -/
theorem reconcile_holds {host : ReconcilerHost} {tokens : ClaimTokens} {now : UtcTime}
    {p : ReconcilePoint} (hs : ClaimsRecorded s past) (h : reconcile host tokens now s = .ok p) :
    p.Holds s ∧ ∀ a, p ≠ .started a := by
  unfold reconcile at h
  split at h
  · rename_i record hfind
    have hr := find_record_of_mem (List.mem_of_find?_eq_some hfind)
    simp only [reconcile_active, bind_eq_ok, asserted_eq_ok, ite_eq_ok, pure_eq_ok] at h
    obtain ⟨authority, hclaim, phase, hphase, h⟩ := h
    have hid := (hs.active _ record authority hr hclaim).2
    rcases h with ⟨_, rfl⟩ | ⟨_, h⟩
    · exact ⟨trivial, by simp⟩
    · cases phase with
      | claimed =>
        simp only [bind_eq_ok, pure_eq_ok] at h
        obtain ⟨unavailable, _, rfl⟩ := h
        split
        · exact ⟨trivial, by simp⟩
        · exact ⟨⟨record, hid ▸ hr, hclaim, hphase⟩, by simp⟩
      | running =>
        simp only [bind_eq_ok, pure_eq_ok] at h
        obtain ⟨unavailable, _, rfl⟩ := h
        split <;> exact ⟨trivial, by simp⟩
      | _ =>
        obtain rfl := pure_eq_ok.mp h
        exact ⟨trivial, by simp⟩
  · split at h
    · obtain rfl := pure_eq_ok.mp h
      exact ⟨trivial, by simp⟩
    · simp only [bind_eq_ok] at h
      obtain ⟨candidates, _, h⟩ := h
      split at h
      · obtain rfl := pure_eq_ok.mp h
        exact ⟨trivial, by simp⟩
      · simp only [bind_eq_ok, ite_eq_ok, pure_eq_ok] at h
        obtain ⟨unavailable, _, ⟨_, rfl⟩ | ⟨_, _, _, _, _, _, _, rfl⟩⟩ := h
        · exact ⟨trivial, by simp⟩
        · exact ⟨trivial, by simp⟩

/-- A mutation that makes no claim keeps the account and the marks. -/
theorem ReconcilerState.Ordered.handled (hst : st.Ordered) (h : Handles st.snapshot m s')
    (hm : m.claims = []) (hproposal : ∀ body, m = .create_proposal body →
      ∀ a ∈ st.authorities, a.val.automation_id ≠ body.val.automation_id) :
    ClaimsRecorded s' st.authorities ∧ ∀ a ∈ st.running, a ∈ st.authorities ∧ ClaimStarted s' a := by
  constructor
  · have hrecorded := hst.recorded.step h hproposal
    rwa [hm, List.append_nil] at hrecorded
  · intro a ha
    obtain ⟨hmem, hstarted⟩ := hst.running a ha
    refine ⟨hmem, hstarted.step h ?_⟩
    rintro rfl
    cases hm

theorem settles_claims (hm : m.settles = true) :
    m.claims = [] ∧ ∀ body, m ≠ .create_proposal body := by
  cases m <;> simp_all [AutomationMutation.settles, AutomationMutation.claims]

/-- Every move keeps the order. -/
theorem ReconcilerMove.ordered (h : ReconcilerMove st l st') (hst : st.Ordered)
    (hproposal : FreshProposal st l) : st'.Ordered := by
  cases h with
  | stay => exact hst
  | sleep _ _ =>
    exact { hst with point := trivial, started := by simp }
  | control token m s' hm h =>
    have hclaims : m.claims = [] := by
      cases m <;> first | rfl | cases hm
    obtain ⟨hrecorded, hrunning⟩ := hst.handled h hclaims (by
      rintro body rfl
      exact hproposal)
    refine { hst with recorded := hrecorded, running := hrunning, point := ?_ }
    have hpoint := hst.point
    cases hp : st.point with
    | skipping a | preparing a | supervising a | dispatched a _ | started a =>
      rw [hp] at hpoint
      exact HoldsClaim.control hpoint h hm
    | _ => trivial
  | wake host tokens now p hpoint h =>
    obtain ⟨hholds, hstarted⟩ := reconcile_holds hst.recorded h
    exact { hst with point := hholds, started := fun a ha => absurd ha (hstarted a) }
  | claim token a kind s' hpoint h =>
    have hrecorded := hst.recorded.step h (by simp)
    have hnew := hst.recorded.claim_new h
    obtain ⟨r, hr, hclaim, hphase, _⟩ := claimed_record h
    have hauthorities : (st.claims ++ [OccurrenceClaim.mk a kind]).map OccurrenceClaim.authority =
        st.authorities ++ [a] := by
      simp [ReconcilerState.authorities]
    refine { hst with
      recorded := ?_
      point := ?_
      running := fun b hb => ?_
      started := fun b hb => ?_ }
    · show ClaimsRecorded s' ((st.claims ++ [OccurrenceClaim.mk a kind]).map OccurrenceClaim.authority)
      rw [hauthorities]
      exact hrecorded
    · simp only [ReconcilerState.claimed_point]
      split <;> exact ⟨r, hr, hclaim, hphase⟩
    · obtain ⟨hmem, hstarted⟩ := hst.running b hb
      refine ⟨?_, hstarted.step h ?_⟩
      · show b ∈ (st.claims ++ [OccurrenceClaim.mk a kind]).map OccurrenceClaim.authority
        rw [hauthorities]
        exact List.mem_append_left _ hmem
      · rintro heq
        cases heq
        exact hnew hmem
    · simp only [ReconcilerState.claimed_point] at hb
      split at hb <;> cases hb
  | skip token a summary s' hpoint _ h =>
    obtain ⟨hrecorded, hrunning⟩ := hst.handled h rfl (by simp)
    exact { hst with
      recorded := hrecorded, running := hrunning, point := trivial, started := by simp }
  | prepare a hpoint =>
    have hholds := hst.point
    rw [hpoint] at hholds
    exact { hst with point := hholds, started := by simp }
  | on_ready token process a s' hpoint h =>
    obtain ⟨hrecorded, hrunning⟩ := hst.handled h rfl (by simp)
    have hholds := hst.point
    rw [hpoint] at hholds
    exact { hst with
      recorded := hrecorded
      running := hrunning
      point := HoldsClaim.dispatched hholds h
      started := by simp }
  | on_started token process permit a s' hpoint h =>
    obtain ⟨hrecorded, hrunning⟩ := hst.handled h rfl (by simp)
    have hholds := hst.point
    rw [hpoint] at hholds
    have hnow : HoldsClaim s' a .running := HoldsClaim.running hholds h
    -- a claim still to be started was not marked before
    have hunmarked : a ∉ st.running := fun ha =>
      (hst.running a ha).2.not_held (.inr rfl) hholds
    refine { hst with
      recorded := hrecorded
      running := fun b hb => ?_
      executed := fun b hb => List.mem_append_left _ (hst.executed b hb)
      point := hnow
      started := fun b hb => ?_ }
    · rcases List.mem_append.mp hb with hold | hlast
      · exact hrunning b hold
      · obtain rfl := List.mem_singleton.mp hlast
        obtain ⟨r, hr, hclaim, _⟩ := hnow
        exact ⟨(hrecorded.active _ r b hr hclaim).1, HoldsClaim.started ⟨r, hr, hclaim, ‹_›⟩⟩
    · obtain rfl : a = b := by simpa using hb
      exact ⟨List.mem_append_right _ (List.mem_singleton_self _),
        fun hexecuted => hunmarked (hst.executed a hexecuted)⟩
  | execute a hpoint =>
    obtain ⟨hrunning, hnew⟩ := hst.started a hpoint
    refine { hst with
      point := trivial
      executed := fun b hb => ?_
      once := ?_
      started := by simp }
    · rcases List.mem_append.mp hb with hold | hlast
      · exact hst.executed b hold
      · exact List.mem_singleton.mp hlast ▸ hrunning
    · exact List.nodup_append.mpr ⟨hst.once, List.nodup_singleton a, by
        rintro b hb c hc rfl
        exact hnew (List.mem_singleton.mp hc ▸ hb)⟩
  | settle _ m s' _ hm h =>
    obtain ⟨hclaims, hcreate⟩ := settles_claims hm
    obtain ⟨hrecorded, hrunning⟩ := hst.handled h hclaims fun body hbody =>
      absurd hbody (hcreate body)
    exact { hst with
      recorded := hrecorded, running := hrunning, point := trivial, started := by simp }

/-! ### Late occurrences are not executed -/

/-- The wake that claims a late occurrence goes on to record it: the process
    does not stop in between, and there is room for the outcome. -/
def Unbroken (st : ReconcilerState) : ReconcilerLabel → Prop
  | .stop => ∀ a, st.point ≠ .skipping a
  | .skip token => ∀ a r, st.point = .skipping a →
      find_record st.snapshot a.val.automation_id = some r →
      r.val.terminal_history.length < 128 ∧ st.snapshot.val.revision < 2 ^ 63 - 1 ∧
        16 ≤ token.toList.length ∧ token ≠ st.snapshot.val.snapshot_token
  | _ => True

/-- A claim of a late occurrence is about to be recorded, or closed, and was
    never marked running. -/
def ReconcilerState.Skips (st : ReconcilerState) : Prop :=
  ∀ c ∈ st.claims, c.kind = .misfire_skipped → c.authority ∉ st.running ∧
    (st.point = .skipping c.authority ∨ ClaimClosed st.snapshot c.authority)

/-- A closed claim of the past stays closed. -/
theorem closed_handled {a : BackgroundOccurrenceAuthorityV1} (hclosed : ClaimClosed st.snapshot a)
    (h : Handles st.snapshot m s') (hm : a ∉ m.claims) : ClaimClosed s' a := by
  refine hclosed.step h ?_
  rintro rfl
  exact hm (List.mem_singleton_self a)

theorem ReconcilerMove.skips (h : ReconcilerMove st l st') (hst : st.Ordered) (hskips : st.Skips)
    (hunbroken : Unbroken st l) : st'.Skips := by
  intro c hc hkind
  -- where the point is not at a late claim, all of them are closed
  have closed (hold : c ∈ st.claims) (hpoint : ∀ a, st.point ≠ .skipping a) :
      ClaimClosed st.snapshot c.authority :=
    (hskips c hold hkind).2.resolve_left (hpoint _)
  cases h with
  | stay => exact hskips c hc hkind
  | sleep _ hskip =>
    obtain ⟨hrunning, hpoint | hclosed⟩ := hskips c hc hkind
    · rcases hskip _ hpoint with rfl | ⟨token, e, rfl, hrefused⟩
      · exact absurd hpoint (hunbroken _)
      · have hholds := hst.point
        rw [hpoint] at hholds
        obtain ⟨r, hr, hclaim, hphase⟩ := hholds
        obtain ⟨hroom, hrevision, hlength, hfresh⟩ := hunbroken _ r hpoint hr
        obtain ⟨s', hs'⟩ := misfire_recorded hr (hst.recorded.claiming _ r hr) hclaim hphase hroom
          hrevision hlength hfresh
        rw [hrefused] at hs'
        cases hs'
    · exact ⟨hrunning, .inr hclosed⟩
  | control token m s' hm h =>
    obtain ⟨hrunning, hpoint | hclosed⟩ := hskips c hc hkind
    · exact ⟨hrunning, .inl hpoint⟩
    · refine ⟨hrunning, .inr (closed_handled hclosed h ?_)⟩
      cases m <;> first | exact List.not_mem_nil | cases hm
  | wake host tokens now p hpoint h =>
    exact ⟨(hskips c hc hkind).1, .inr (closed hc (by simp [hpoint]))⟩
  | claim token a kind s' hpoint h =>
    have hnew := hst.recorded.claim_new h
    rcases List.mem_append.mp hc with hold | hlast
    · refine ⟨(hskips c hold hkind).1, .inr (closed_handled (closed hold (by simp [hpoint])) h ?_)⟩
      intro hmem
      have hmem : c.authority = a := List.mem_singleton.mp hmem
      exact hnew (hmem ▸ List.mem_map_of_mem hold)
    · obtain rfl := List.mem_singleton.mp hlast
      refine ⟨fun hmarked => hnew (hst.running a hmarked).1, .inl ?_⟩
      exact if_pos hkind
  | skip token a summary s' hpoint hstatus h =>
    obtain ⟨hrunning, hat | hclosed⟩ := hskips c hc hkind
    · obtain rfl : a = c.authority := by simpa [hpoint] using hat
      have hholds := hst.point
      rw [hpoint] at hholds
      exact ⟨hrunning, .inr (outcome_closes hholds h (by rw [hstatus]; rfl))⟩
    · exact ⟨hrunning, .inr (closed_handled hclosed h List.not_mem_nil)⟩
  | prepare a hpoint =>
    exact ⟨(hskips c hc hkind).1, .inr (closed hc (by simp [hpoint]))⟩
  | on_ready token process a s' hpoint h =>
    exact ⟨(hskips c hc hkind).1,
      .inr (closed_handled (closed hc (by simp [hpoint])) h List.not_mem_nil)⟩
  | on_started token process permit a s' hpoint h =>
    have hclosed := closed hc (by simp [hpoint])
    refine ⟨fun hmarked => ?_, .inr (closed_handled hclosed h List.not_mem_nil)⟩
    rcases List.mem_append.mp hmarked with hold | hlast
    · exact (hskips c hc hkind).1 hold
    · -- the claim that is marked is open, the late ones are closed
      have hholds := hst.point
      rw [hpoint, ← List.mem_singleton.mp hlast] at hholds
      exact HoldsClaim.not_closed hholds hclosed
  | execute a hpoint =>
    exact ⟨(hskips c hc hkind).1, .inr (closed hc (by simp [hpoint]))⟩
  | settle _ m s' hpoint hm h =>
    refine ⟨(hskips c hc hkind).1, .inr (closed_handled (closed hc hpoint) h ?_)⟩
    rw [(settles_claims hm).1]
    exact List.not_mem_nil

end Runs

/-! ### Runs -/

section Reachable

variable {s₀ : AutomationSnapshotV1} {st : ReconcilerState} {ls : List ReconcilerLabel}

theorem ordered_initial (h : s₀.val.is_empty) : (ReconcilerState.initial s₀).Ordered where
  recorded := recorded_of_empty h
  point := trivial
  running := by simp [ReconcilerState.initial]
  executed := by simp [ReconcilerState.initial]
  once := .nil
  started := by simp [ReconcilerState.initial]

theorem reachable_ordered (hempty : s₀.val.is_empty)
    (hfresh : reconciler_system.Along FreshProposal (.initial s₀) ls)
    (hrun : reconciler_system.run (.initial s₀) ls = .ok st) : st.Ordered :=
  System.run_invariant_along (I := ReconcilerState.Ordered)
    (fun _ _ _ hst hproposal h => (step_move h).ordered hst hproposal)
    (ordered_initial hempty) hfresh hrun

theorem reachable_skips (hempty : s₀.val.is_empty)
    (hfresh : reconciler_system.Along FreshProposal (.initial s₀) ls)
    (hunbroken : reconciler_system.Along Unbroken (.initial s₀) ls)
    (hrun : reconciler_system.run (.initial s₀) ls = .ok st) : st.Skips := by
  have hboth : st.Ordered ∧ st.Skips := by
    refine System.run_invariant_along (C := fun st l => FreshProposal st l ∧ Unbroken st l)
      (I := fun st => st.Ordered ∧ st.Skips) ?_ ⟨ordered_initial hempty, ?_⟩
      (hfresh.and hunbroken) hrun
    · rintro st l st' ⟨hst, hskips⟩ ⟨hproposal, hbroken⟩ h
      exact ⟨(step_move h).ordered hst hproposal, (step_move h).skips hst hskips hbroken⟩
    · intro c hc
      cases hc
  exact hboth.2

/-- **Occurrences run once**: in every run of the reconciler, with its restarts
    and its users, in which proposals take ids no claim bears and the digests
    of the claimed occurrences do not collide, no occurrence is executed twice
    and each is executed after it was durably marked running; and if no wake
    breaks off between a late claim and its outcome, no late occurrence is
    executed. -/
theorem occurrences_run_once (hempty : s₀.val.is_empty)
    (hfresh : reconciler_system.Along FreshProposal (.initial s₀) ls)
    (hrun : reconciler_system.run (.initial s₀) ls = .ok st)
    (hdigests : ∀ a ∈ st.authorities, ∀ b ∈ st.authorities,
      canonical_json_digest (.dict (occurrence_fields a)) =
        canonical_json_digest (.dict (occurrence_fields b)) →
      occurrence_fields a = occurrence_fields b) :
    (st.executed.map fun a => a.val.occurrence_id).Nodup ∧
    (∀ a ∈ st.executed, a ∈ st.running) ∧
    (∀ a, st.point = .started a → HoldsClaim st.snapshot a .running) ∧
    (reconciler_system.Along Unbroken (.initial s₀) ls → ∀ c ∈ st.claims,
      c.kind = .misfire_skipped → ∀ a ∈ st.executed,
        a.val.occurrence_id ≠ c.authority.val.occurrence_id) := by
  have hst := reachable_ordered hempty hfresh hrun
  have hrecorded := hst.recorded
  have hclaimed (a : BackgroundOccurrenceAuthorityV1) (ha : a ∈ st.executed) : a ∈ st.authorities :=
    (hst.running a (hst.executed a ha)).1
  -- an occurrence id names one claim
  have hunique (a b : BackgroundOccurrenceAuthorityV1) (ha : a ∈ st.authorities)
      (hb : b ∈ st.authorities) (h : a.val.occurrence_id = b.val.occurrence_id) : a = b := by
    rw [hrecorded.identity a ha, hrecorded.identity b hb] at h
    exact hrecorded.claim_unique ha hb (hdigests a ha b hb h)
  refine ⟨?_, hst.executed, fun a ha => ?_, fun hunbroken c hc hkind a ha heq => ?_⟩
  · exact hst.once.map_on fun a ha b hb h => hunique a b (hclaimed a ha) (hclaimed b hb) h
  · have hholds := hst.point
    rwa [ha] at hholds
  · obtain rfl := hunique a c.authority (hclaimed a ha) (List.mem_map_of_mem hc) heq
    have hskips := reachable_skips hempty hfresh hunbroken hrun
    exact (hskips c hc hkind).1 (hst.executed _ ha)

end Reachable

/-! ### An occurrence that runs, and a late one that does -/

section Execution

variable {st : ReconcilerState} {s s' : AutomationSnapshotV1} {a : BackgroundOccurrenceAuthorityV1}
  {token token' process : String} {action : AutomationMutationV1}

theorem send_of_handle (h : handle s action = .ok s') :
    send s action.val.next_snapshot_token action.val.mutation = .ok s' := by
  have htoken := (handle_eq_ok.mp h).1
  simp only [send, bind_eq_ok, construct_eq_ok, Checked.make_eq_ok]
  exact ⟨action, by rw [← htoken], h⟩

theorem send_of_numbered {n : Nat} {m : AutomationMutation}
    {hm : AutomationMutationFields.post_init ⟨numbered_token n, numbered_token (n + 1), m⟩ = .ok ()}
    (h : handle s (numbered n m hm) = .ok s') : send s (numbered_token (n + 1)) m = .ok s' := by
  have hsend := send_of_handle h
  exact hsend

/-- A mutation sent by a user. -/
def control_label (action : AutomationMutationV1) : ReconcilerLabel :=
  .control action.val.next_snapshot_token action.val.mutation

/-- What users send is a run of the controller. -/
theorem control_run {actions : List AutomationMutationV1}
    (hcontrol : ∀ action ∈ actions, action.val.mutation.is_control = true)
    (hrun : automation_system.run st.snapshot actions = .ok s') :
    reconciler_system.run st (actions.map control_label) = .ok { st with snapshot := s' } := by
  induction actions generalizing st with
  | nil =>
    obtain rfl := System.run_nil.mp hrun
    rfl
  | cons action actions ih =>
    obtain ⟨t, ht, hrest⟩ := System.run_cons.mp hrun
    -- what a user sends moves the snapshot and leaves the point
    have hstep : st.step (control_label action) = .ok { st with snapshot := t } := by
      simp [ReconcilerState.step, control_label, ReconcilerState.or_stay,
        hcontrol action List.mem_cons_self, send_of_handle ht]
    exact System.run_cons.mpr ⟨_, hstep,
      ih (fun b hb => hcontrol b (List.mem_cons_of_mem _ hb)) hrest⟩

/-- The labels that take a prepared occurrence to its execution. -/
def executing_labels (a : BackgroundOccurrenceAuthorityV1) (token token' process : String) :
    List ReconcilerLabel :=
  [.prepare, .on_ready token process, .on_started token' process (start_permit a process), .execute]

/-- A prepared occurrence is executed when both its marks are taken. -/
theorem prepared_run {t : AutomationSnapshotV1} (hpoint : st.point = .preparing a)
    (hready : send st.snapshot token (.mark_dispatched a.val.automation_id a.val.authority_digest
      process) = .ok t)
    (hstarted : send t token' (.mark_running a.val.automation_id a.val.authority_digest process) =
      .ok s') :
    reconciler_system.run st (executing_labels a token token' process) =
      .ok ⟨s', .executed a, st.claims, st.running ++ [a], st.executed ++ [a]⟩ := by
  have hprepare : st.step .prepare = .ok { st with point := .supervising a } := by
    simp [ReconcilerState.step, hpoint]
  refine System.run_cons.mpr ⟨_, hprepare, System.run_cons.mpr
    ⟨⟨t, .dispatched a (start_permit a process), st.claims, st.running, st.executed⟩, ?_,
      System.run_cons.mpr ⟨⟨s', .started a, st.claims, st.running ++ [a], st.executed⟩, ?_,
        System.run_cons.mpr ⟨_, rfl, System.run_nil.mpr rfl⟩⟩⟩⟩
  · simp [reconciler_system, ReconcilerState.step, ReconcilerState.or_stay, hready]
  · simp [reconciler_system, ReconcilerState.step, ReconcilerState.or_stay, hstarted]

end Execution

section Fixed

def approved_record : AutomationRecordV1 where
  val := {
    definition := some hourly_definition
    status := .active
    next_occurrence_index := 0
    terminal_occurrence_count := 0
    needs_human_reason := .null
    active_claim := none
    terminal_history := [] }
  valid := by decide +kernel

def approved_snapshot : AutomationSnapshotV1 where
  val := {
    revision := 2
    snapshot_token := numbered_token 2
    records := [approved_record]
    tombstones := [] }
  valid := by decide +kernel

theorem approved_steps_run :
    automation_system.run empty_snapshot approved_steps = .ok approved_snapshot := by
  have hruns : succeeds (automation_system.run empty_snapshot approved_steps)
      (fun s => s = approved_snapshot) = true := by
    decide +kernel
  obtain ⟨s, hs, h⟩ := succeeds_iff.mp hruns
  rw [hs, of_decide_eq_true h]

theorem first_identity :
    occurrence_identity hourly_definition 0 "2026-01-01T00:00:00Z" =
      .ok "4215e7a5d2e6c1fb1bcd6e22cd818c6aa80fa9e57dad7ced83156897f54b67f6" := by
  rw [occurrence_identity, canonical_json_digest_eq]
  decide +kernel

/-- The claim of the first occurrence when it is late. -/
def late_claim : BackgroundOccurrenceAuthorityV1 where
  val := { first_claim.val with
    checkpoint_identity := "cffd9c4ec631aac23e79d3dc439e2ea51663c73a4ad83b5915a9fe8854d577fd"
    raw_capability := "cffd9c4ec631aac23e79d3dc439e2ea51663c73a4ad83b5915a9fe8854d577fd"
    authority_digest := "8ec94a76b48ea663046c9646eec2151e00c8f8018eae79b50be7bf1e53a97370" }
  valid := by
    rw [BackgroundOccurrenceAuthorityFields.post_init,
      BackgroundOccurrenceAuthorityFields.expected_digest, canonical_json_digest_eq,
      canonical_json_digest_eq]
    decide +kernel

theorem late_identity :
    inert_identity "4215e7a5d2e6c1fb1bcd6e22cd818c6aa80fa9e57dad7ced83156897f54b67f6" =
      "cffd9c4ec631aac23e79d3dc439e2ea51663c73a4ad83b5915a9fe8854d577fd" := by
  rw [inert_identity, canonical_json_digest_eq]
  decide +kernel

/-- The constructor fills in the digest of an authority. -/
theorem authority_of_fields {a : BackgroundOccurrenceAuthorityV1}
    {fields : BackgroundOccurrenceAuthorityFields}
    (h : fields = { a.val with authority_digest := "" }) :
    BackgroundOccurrenceAuthorityV1.create fields = .ok a := by
  have hvalid := a.valid
  simp only [BackgroundOccurrenceAuthorityFields.post_init, bind_eq_ok, Py.refuse_value_eq_ok,
    not_not] at hvalid
  obtain ⟨_, _, _, _, _, _, _, _, _, _, _, _, _, _, _, _, _, _, _, _, _, _, hdigest⟩ := hvalid
  -- the last check of an authority says what its digest is
  have hfilled : { a.val with authority_digest := a.val.expected_digest } = a.val := by
    rw [← hdigest]
  rw [BackgroundOccurrenceAuthorityV1.create, Checked.make_eq_ok, h]
  exact hfilled.symm

theorem due_claim_drawn : reconcile_authority drawn_tokens approved_record 0 "2026-01-01T00:00:00Z"
    true = .ok first_claim := by
  have hscheduled : parse_canonical_utc "2026-01-01T00:00:00Z" "scheduled_for_utc" =
      .ok (new_year 0) := by
    decide +kernel
  have hdeadline : occurrence_deadline hourly_definition (new_year 0) =
      .ok "2026-01-01T00:10:00Z" := by
    decide +kernel
  simp only [reconcile_authority, bind_eq_ok, asserted_eq_ok, construct_eq_ok]
  exact ⟨hourly_definition, rfl, new_year 0, hscheduled, _, first_identity, _, hdeadline,
    authority_of_fields rfl⟩

theorem late_claim_drawn : reconcile_authority drawn_tokens approved_record 0 "2026-01-01T00:00:00Z"
    false = .ok late_claim := by
  have hscheduled : parse_canonical_utc "2026-01-01T00:00:00Z" "scheduled_for_utc" =
      .ok (new_year 0) := by
    decide +kernel
  have hdeadline : occurrence_deadline hourly_definition (new_year 0) =
      .ok "2026-01-01T00:10:00Z" := by
    decide +kernel
  simp only [reconcile_authority, bind_eq_ok, asserted_eq_ok, construct_eq_ok]
  refine ⟨hourly_definition, rfl, new_year 0, hscheduled, _, first_identity, _, hdeadline,
    authority_of_fields ?_⟩
  simp only [Bool.false_eq_true, if_false, late_identity]
  rfl

/-- The wake of the reconciler once the automation is approved. -/
theorem approved_wake {now : UtcTime} {decision : ScheduleDecisionV1}
    {a : BackgroundOccurrenceAuthorityV1} {executes : Bool}
    (hdecision : resolve_schedule hourly_definition approved_record now = .ok decision)
    (hkind : decision.val.kind.is_occurrence = true)
    (hindex : decision.val.occurrence_index = some 0)
    (hslot : decision.val.scheduled_for_utc = some "2026-01-01T00:00:00Z")
    (hexecutes : decide (decision.val.kind = .due) = executes)
    (hdrawn : reconcile_authority drawn_tokens approved_record 0 "2026-01-01T00:00:00Z" executes =
      .ok a) :
    reconcile {} drawn_tokens now approved_snapshot = .ok (.claiming a decision.val.kind) := by
  -- no claim is open and nothing is to be purged, so the schedule decides
  have hactive : (approved_snapshot.val.records.find? fun r => r.val.active_claim.isSome) = none :=
    rfl
  have hpurge : (approved_snapshot.val.records.find? fun r => r.val.status = .purge_pending) =
      none := rfl
  have hcandidate : schedule_candidate now approved_record = .ok (some ⟨"2026-01-01T00:00:00Z",
      approved_record.automation_id, approved_record, decision⟩) := by
    have hdefinition : approved_record.val.definition = some hourly_definition := rfl
    simp only [schedule_candidate, hdefinition, bind_eq_ok]
    refine ⟨decision, hdecision, ?_⟩
    rw [if_pos hkind]
    simp only [bind_eq_ok, asserted_eq_ok, pure_eq_ok]
    exact ⟨_, hslot, rfl⟩
  have hcandidates : approved_snapshot.val.records.mapM (schedule_candidate now) =
      .ok [some ⟨"2026-01-01T00:00:00Z", approved_record.automation_id, approved_record,
        decision⟩] := by
    show List.mapM (schedule_candidate now) [approved_record] = _
    simp only [List.mapM_cons, List.mapM_nil, hcandidate]
    rfl
  have havailable : configuration_reason {} approved_record = .ok none := by
    decide +kernel
  simp only [reconcile, hactive, hpurge, bind_eq_ok]
  refine ⟨_, hcandidates, ?_⟩
  have hearliest : earliest_candidate (List.reduceOption [some (ScheduleCandidate.mk
      "2026-01-01T00:00:00Z" approved_record.automation_id approved_record decision)]) =
      some ⟨"2026-01-01T00:00:00Z", approved_record.automation_id, approved_record, decision⟩ :=
    rfl
  rw [hearliest]
  simp only [bind_eq_ok]
  refine ⟨none, havailable, ?_⟩
  simp only [Option.isSome_none, Bool.false_eq_true, if_false, bind_eq_ok, asserted_eq_ok,
    pure_eq_ok]
  exact ⟨0, hindex, _, hslot, a, by rw [hexecutes]; exact hdrawn, rfl⟩

/-- The controller takes the claim the reconciler drew. -/
theorem drawn_run {a : BackgroundOccurrenceAuthorityV1} {kind : ScheduleDecisionKind}
    {now : UtcTime} {s' : AutomationSnapshotV1} {p : ReconcilePoint}
    (hwake : reconcile {} drawn_tokens now approved_snapshot = .ok (.claiming a kind))
    (hclaim : send approved_snapshot (numbered_token 3) (.claim_occurrence a) = .ok s')
    (hpoint : ReconcilerState.claimed_point a kind = p) :
    reconciler_system.run (.initial empty_snapshot) (approved_steps.map control_label ++
      [.wake {} drawn_tokens now, .claim (numbered_token 3)]) =
      .ok ⟨s', p, [⟨a, kind⟩], [], []⟩ := by
  have hcontrol : ∀ action ∈ approved_steps, action.val.mutation.is_control = true := by
    simp [approved_steps, numbered, AutomationMutation.is_control]
  have hcontrols : reconciler_system.run (.initial empty_snapshot)
      (approved_steps.map control_label) = .ok ⟨approved_snapshot, .asleep, [], [], []⟩ :=
    control_run hcontrol approved_steps_run
  have hdrawn : reconciler_system.step ⟨approved_snapshot, .asleep, [], [], []⟩
      (.wake {} drawn_tokens now) = .ok ⟨approved_snapshot, .claiming a kind, [], [], []⟩ := by
    simp [reconciler_system, ReconcilerState.step, hwake, Except.toOption]
  have hclaimed : reconciler_system.step ⟨approved_snapshot, .claiming a kind, [], [], []⟩
      (.claim (numbered_token 3)) = .ok ⟨s', p, [⟨a, kind⟩], [], []⟩ := by
    simp [reconciler_system, ReconcilerState.step, ReconcilerState.or_asleep, hclaim, hpoint]
  exact System.run_append.mpr ⟨_, hcontrols, System.run_cons.mpr ⟨_, hdrawn, System.run_cons.mpr
    ⟨_, hclaimed, System.run_nil.mpr rfl⟩⟩⟩

/-- The labels of an occurrence in time. -/
def due_labels : List ReconcilerLabel :=
  approved_steps.map control_label ++ [.wake {} drawn_tokens (new_year 30),
    .claim (numbered_token 3)] ++
  executing_labels first_claim (numbered_token 4) (numbered_token 5) preview_digest

/-- The claim and the marks of the controller's run, as they are sent. -/
theorem running_marks : ∃ claimed dispatched,
    send approved_snapshot (numbered_token 3) (.claim_occurrence first_claim) = .ok claimed ∧
    send claimed (numbered_token 4) (.mark_dispatched "hourly" first_claim.val.authority_digest
      preview_digest) = .ok dispatched ∧
    send dispatched (numbered_token 5) (.mark_running "hourly" first_claim.val.authority_digest
      preview_digest) = .ok running_snapshot := by
  have hsteps : running_steps = approved_steps ++ [
      numbered 2 (.claim_occurrence first_claim),
      numbered 3 (.mark_dispatched "hourly" first_claim.val.authority_digest preview_digest),
      numbered 4 (.mark_running "hourly" first_claim.val.authority_digest preview_digest)] := rfl
  have hrun := running_steps_run
  rw [hsteps] at hrun
  -- the run up to the approval ends in the snapshot the claim is sent to
  obtain ⟨t, ht, hrun⟩ := System.run_append.mp hrun
  have hsame : approved_snapshot = t := ok_eq_ok.mp (approved_steps_run.symm.trans ht)
  subst hsame
  obtain ⟨claimed, hclaim, hrun⟩ := System.run_cons.mp hrun
  obtain ⟨dispatched, hready, hrun⟩ := System.run_cons.mp hrun
  obtain ⟨running, hstarted, hrun⟩ := System.run_cons.mp hrun
  have hend : running = running_snapshot := System.run_nil.mp hrun
  subst hend
  exact ⟨claimed, dispatched, send_of_numbered hclaim, send_of_numbered hready,
    send_of_numbered hstarted⟩

theorem due_labels_run : reconciler_system.run (.initial empty_snapshot) due_labels =
    .ok ⟨running_snapshot, .executed first_claim, [⟨first_claim, .due⟩], [first_claim],
      [first_claim]⟩ := by
  have hcheck : succeeds (resolve_schedule hourly_definition approved_record (new_year 30))
      (fun decision => decision.val.kind = .due && decision.val.occurrence_index = some 0 &&
        decision.val.scheduled_for_utc = some "2026-01-01T00:00:00Z") = true := by
    decide +kernel
  obtain ⟨decision, hdecision, hcheck⟩ := succeeds_iff.mp hcheck
  simp only [Bool.and_eq_true, decide_eq_true_eq] at hcheck
  obtain ⟨⟨hkind, hindex⟩, hslot⟩ := hcheck
  have hoccurrence : decision.val.kind.is_occurrence = true := by
    rw [hkind]
    rfl
  have hwake := approved_wake hdecision hoccurrence hindex hslot (decide_eq_true hkind)
    due_claim_drawn
  rw [hkind] at hwake
  obtain ⟨claimed, dispatched, hclaim, hready, hstarted⟩ := running_marks
  have hdrawn := drawn_run (p := .preparing first_claim) hwake hclaim rfl
  have hpoint : (ReconcilerState.mk claimed (.preparing first_claim) [⟨first_claim, .due⟩] []
      []).point = .preparing first_claim := rfl
  have hexecute := prepared_run hpoint hready hstarted
  exact System.run_append.mpr ⟨_, hdrawn, hexecute⟩

/-- The first occurrence is claimed in time, marked and executed. -/
theorem due_occurrence_executed :
    ∃ st, reconciler_system.run (.initial empty_snapshot) due_labels = .ok st ∧
      st.executed = [first_claim] ∧
      (st.executed.map fun a => a.val.occurrence_id).Nodup ∧
      (∀ a ∈ st.executed, a ∈ st.running) ∧
      (∀ a, st.point = .started a → HoldsClaim st.snapshot a .running) ∧
      ∀ c ∈ st.claims, c.kind = .misfire_skipped → ∀ a ∈ st.executed,
        a.val.occurrence_id ≠ c.authority.val.occurrence_id := by
  -- the one proposal is made before there are claims, and no wake breaks off
  have hfresh : reconciler_system.Along FreshProposal (.initial empty_snapshot) due_labels := by
    refine ⟨fun a ha => absurd ha List.not_mem_nil, fun st hst => ?_⟩
    refine (System.along_of_forall (C := fun l => ∀ token body,
      l ≠ .control token (.create_proposal body)) ?_).mono ?_
    · intro l hl token body heq
      subst heq
      simp [executing_labels, control_label, numbered] at hl
    · intro st l hl
      unfold FreshProposal
      split
      · rename_i token body
        exact absurd rfl (hl token body)
      · trivial
  have hunbroken : reconciler_system.Along Unbroken (.initial empty_snapshot) due_labels := by
    refine (System.along_of_forall (C := fun l => l ≠ .stop ∧ ∀ token, l ≠ .skip token) ?_).mono ?_
    · intro l hl
      constructor
      · rintro rfl
        simp [due_labels, executing_labels, approved_steps, control_label] at hl
      · rintro token rfl
        simp [due_labels, executing_labels, approved_steps, control_label] at hl
    · intro st l hl
      unfold Unbroken
      split
      · exact absurd rfl hl.1
      · exact absurd rfl (hl.2 _)
      · trivial
  have hone : ∀ a ∈ [first_claim], ∀ b ∈ [first_claim],
      canonical_json_digest (.dict (occurrence_fields a)) =
        canonical_json_digest (.dict (occurrence_fields b)) →
      occurrence_fields a = occurrence_fields b := by
    intro a ha b hb _
    rw [List.mem_singleton.mp ha, List.mem_singleton.mp hb]
  obtain ⟨honce, hmarked, hheld, hlate⟩ :=
    occurrences_run_once ⟨rfl, rfl⟩ hfresh due_labels_run hone
  exact ⟨_, due_labels_run, rfl, honce, hmarked, hheld, hlate hunbroken⟩

/-- The store when a wake broke off behind the claim of the late occurrence. -/
def late_record : AutomationRecordV1 where
  val := { approved_record.val with
    active_claim := some late_claim
    active_claim_phase := some .claimed
    active_claim_definition := some hourly_definition }
  valid := by decide +kernel

def late_snapshot : AutomationSnapshotV1 where
  val := {
    revision := 3
    snapshot_token := numbered_token 3
    records := [late_record]
    tombstones := [] }
  valid := by decide +kernel

theorem late_claim_taken :
    send approved_snapshot (numbered_token 3) (.claim_occurrence late_claim) = .ok late_snapshot := by
  have hscheduled : parse_canonical_utc "2026-01-01T00:00:00Z" "scheduled_for_utc" =
      .ok (new_year 0) := by
    decide +kernel
  have hdeadline : occurrence_deadline hourly_definition (new_year 0) =
      .ok "2026-01-01T00:10:00Z" := by
    decide +kernel
  have hreplaced : succeeds (replace_record approved_snapshot late_record (numbered_token 3))
      (fun s => s = late_snapshot) = true := by
    decide +kernel
  obtain ⟨s, hs, heq⟩ := succeeds_iff.mp hreplaced
  rw [of_decide_eq_true heq] at hs
  refine send_eq_ok.mpr ⟨rfl, by decide +kernel, by decide +kernel, ?_⟩
  simp only [reduce, claim_occurrence, bind_eq_ok, require_record_eq_ok, refuse_transition_eq_ok,
    asserted_eq_ok, construct_eq_ok, Checked.make_eq_ok, not_or, not_not]
  exact ⟨approved_record, by decide +kernel, (), rfl, (), ⟨by decide +kernel, by decide +kernel⟩,
    hourly_definition, rfl, (), ⟨rfl, rfl, rfl⟩, (), rfl, _, first_identity, (), rfl, new_year 0,
    hscheduled, _, hdeadline, (), rfl, late_record, rfl, hs⟩

/-- The labels of a late occurrence whose wake breaks off. -/
def late_labels : List ReconcilerLabel :=
  approved_steps.map control_label ++ [.wake {} drawn_tokens (new_year 90),
    .claim (numbered_token 3)] ++
  ([.stop, .wake {} drawn_tokens (new_year 120)] ++
    executing_labels late_claim (numbered_token 4) (numbered_token 5) preview_digest)

/-- The next wake executes the late occurrence. -/
theorem late_occurrence_executed :
    ∃ st, reconciler_system.run (.initial empty_snapshot) late_labels = .ok st ∧
      st.claims = [⟨late_claim, .misfire_skipped⟩] ∧ st.executed = [late_claim] := by
  have hcheck : succeeds (resolve_schedule hourly_definition approved_record (new_year 90))
      (fun decision => decision.val.kind = .misfire_skipped &&
        decision.val.occurrence_index = some 0 &&
        decision.val.scheduled_for_utc = some "2026-01-01T00:00:00Z") = true := by
    decide +kernel
  obtain ⟨decision, hdecision, hcheck⟩ := succeeds_iff.mp hcheck
  simp only [Bool.and_eq_true, decide_eq_true_eq] at hcheck
  obtain ⟨⟨hkind, hindex⟩, hslot⟩ := hcheck
  have hoccurrence : decision.val.kind.is_occurrence = true := by
    rw [hkind]
    rfl
  have hwake := approved_wake hdecision hoccurrence hindex hslot
    (decide_eq_false (by rw [hkind]; decide)) late_claim_drawn
  rw [hkind] at hwake
  have hdrawn := drawn_run (p := .skipping late_claim) hwake late_claim_taken rfl
  -- the process stops, and the next wake finds a claim like any other
  have hfound : succeeds (reconcile {} drawn_tokens (new_year 120) late_snapshot)
      (fun p => p = .preparing late_claim) = true := by
    decide +kernel
  obtain ⟨p, hp, heq⟩ := succeeds_iff.mp hfound
  rw [of_decide_eq_true heq] at hp
  have hmarks : succeeds (send late_snapshot (numbered_token 4) (.mark_dispatched "hourly"
      late_claim.val.authority_digest preview_digest)) (fun t => succeeds (send t (numbered_token 5)
        (.mark_running "hourly" late_claim.val.authority_digest preview_digest))
        fun _ => true) = true := by
    decide +kernel
  obtain ⟨dispatched, hready, hmarks⟩ := succeeds_iff.mp hmarks
  obtain ⟨running, hstarted, _⟩ := succeeds_iff.mp hmarks
  have hrestart : reconciler_system.run
      ⟨late_snapshot, .skipping late_claim, [⟨late_claim, .misfire_skipped⟩], [], []⟩
      [.stop, .wake {} drawn_tokens (new_year 120)] =
      .ok ⟨late_snapshot, .preparing late_claim, [⟨late_claim, .misfire_skipped⟩], [], []⟩ := by
    refine System.run_cons.mpr ⟨_, rfl, System.run_cons.mpr ⟨_, ?_, System.run_nil.mpr rfl⟩⟩
    simp [reconciler_system, ReconcilerState.step, hp, Except.toOption]
  have hpoint : (ReconcilerState.mk late_snapshot (.preparing late_claim)
      [⟨late_claim, .misfire_skipped⟩] [] []).point = .preparing late_claim := rfl
  have hexecute := prepared_run hpoint hready hstarted
  exact ⟨_, System.run_append.mpr ⟨_, hdrawn, System.run_append.mpr ⟨_, hrestart, hexecute⟩⟩, rfl,
    rfl⟩

end Fixed
