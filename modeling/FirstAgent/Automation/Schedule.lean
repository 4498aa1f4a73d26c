import FirstAgent.Automation.PurgeSteps

/-! # The Schedule

    Which occurrence of an automation is due at a time: a pure computation on
    the approved definition, the record's cursor and the clock.  A schedule
    that catches up on the latest slot alone reports the slots in between as
    superseded and decides for the latest, while the controller claims the
    cursor's; the two agree when no slot after the cursor's is due yet. -/

open Fallible Controlled

/-! ### Decisions -/

structure ScheduleDecisionFields where
  kind : ScheduleDecisionKind
  occurrence_index : Option Int := none
  scheduled_for_utc : Option String := none
  superseded_indexes : List Int := []
  deriving Repr, DecidableEq

/-- The decision is for an occurrence. -/
def ScheduleDecisionKind.is_occurrence : ScheduleDecisionKind → Bool
  | .due | .misfire_skipped => true
  | _ => false

def ScheduleDecisionFields.post_init (d : ScheduleDecisionFields) : Py Unit := do
  if d.kind.is_occurrence then
    let index ← Py.expect_value d.occurrence_index "due/misfire decision requires an occurrence"
    let scheduled ← Py.expect_value d.scheduled_for_utc
      "due/misfire decision requires an occurrence"
    Py.require_nonnegative_int index "occurrence_index" 127
    let _ ← parse_canonical_utc scheduled "scheduled_for_utc"
    pure ()
  else
    Py.refuse_value (d.occurrence_index.isSome ∨ d.scheduled_for_utc.isSome)
      "non-occurrence decision must not carry an occurrence"
  Py.refuse_value (d.superseded_indexes.any (· < 0)) "superseded_indexes must be non-negative ints"

abbrev ScheduleDecisionV1 : Type := Checked ScheduleDecisionFields.post_init

/-- `_decision_for_slot`. -/
def decision_for_slot (index : Int) (scheduled now : UtcTime) (grace_seconds : Int)
    (superseded : List Int) : Py ScheduleDecisionV1 := do
  if now.seconds < scheduled.seconds then Checked.make { kind := .not_due }
  else
    let latest ← scheduled.add grace_seconds.toNat
    Checked.make {
      kind := if now.seconds ≤ latest.seconds then .due else .misfire_skipped
      occurrence_index := some index
      scheduled_for_utc := some (format_canonical_utc scheduled)
      superseded_indexes := superseded }

/-- `range(low, high)`. -/
def int_range (low high : Int) : List Int := (List.range (high - low).toNat).map fun k => low + k

/-- The slots of an active record: the part of `resolve_schedule` behind its
    status checks. -/
def resolve_slots (definition : AutomationDefinitionV1) (cursor : Int) (now : UtcTime) :
    Controlled ScheduleDecisionV1 := do
  let schedule := definition.val.body.val.schedule.val
  let anchor ← construct <| parse_canonical_utc schedule.anchor_utc "anchor_utc"
  if schedule.kind = .once_utc then
    construct <| decision_for_slot 0 anchor now schedule.misfire_grace_seconds []
  else
    let interval ← asserted schedule.interval_seconds
    let next_slot ← construct <| anchor.add (cursor * interval).toNat
    if now.seconds < next_slot.seconds then construct <| Checked.make { kind := .not_due }
    else if schedule.catch_up = .none then
      construct <| decision_for_slot cursor next_slot now schedule.misfire_grace_seconds []
    else
      let elapsed_seconds : Int := now.seconds - anchor.seconds
      let latest_index := min (elapsed_seconds / interval) (definition.val.body.val.max_occurrences - 1)
      let latest_slot ← construct <| anchor.add (latest_index * interval).toNat
      construct <| decision_for_slot latest_index latest_slot now schedule.misfire_grace_seconds
        (int_range cursor latest_index)

def resolve_schedule (definition : AutomationDefinitionV1) (record : AutomationRecordV1)
    (now : UtcTime) : Controlled ScheduleDecisionV1 := do
  construct <| Py.refuse_value
    (record.val.definition.all fun d => d.val.definition_digest ≠ definition.val.definition_digest)
    "record and definition identity mismatch"
  let decide_without (kind : ScheduleDecisionKind) : Controlled ScheduleDecisionV1 :=
    construct <| Checked.make { kind := kind }
  if record.val.needs_human_reason ≠ .null then decide_without .needs_human
  else if record.val.status = .paused then decide_without .paused
  else if record.val.status = .cancel_pending then decide_without .cancel_pending
  else if record.val.status = .canceled ∨ record.val.status = .purged then
    decide_without .canceled
  else if record.val.status ≠ .active ∨ record.val.active_claim.isSome then
    decide_without .not_due
  else if definition.val.body.val.max_occurrences ≤ record.val.next_occurrence_index then
    decide_without .max_reached
  else
    let expires ← construct <|
      parse_canonical_utc definition.val.body.val.expires_at_utc "expires_at_utc"
    if expires.seconds < now.seconds then decide_without .expired
    else resolve_slots definition record.val.next_occurrence_index now

/-! ### The slots -/

section Slots

variable {d : AutomationDefinitionV1} {r : AutomationRecordV1} {now slot : UtcTime}
  {decision : ScheduleDecisionV1} {i cursor grace : Int} {superseded : List Int}

/-- The first slot, in seconds. -/
def anchor_seconds (d : AutomationDefinitionV1) : Int :=
  (UtcTime.parse d.val.body.val.schedule.val.anchor_utc).elim 0 fun t => t.seconds

/-- The `k`-th slot, in seconds. -/
def slot_seconds (d : AutomationDefinitionV1) (k : Int) : Int :=
  anchor_seconds d + k * d.val.body.val.schedule.val.interval_seconds.getD 0

/-- No slot after the cursor's is due, or the schedule does not look for one. -/
def SingleSlot (d : AutomationDefinitionV1) (r : AutomationRecordV1) (now : UtcTime) : Prop :=
  d.val.body.val.schedule.val.kind = .once_utc ∨ d.val.body.val.schedule.val.catch_up = .none ∨
    now.seconds < slot_seconds d (r.val.next_occurrence_index + 1) ∨
    r.val.next_occurrence_index + 1 = d.val.body.val.max_occurrences

/-- A decision for a slot is for that slot, once it has come. -/
theorem decision_for_slot_ok
    (h : decision_for_slot i slot now grace superseded = .ok decision)
    (hkind : decision.val.kind.is_occurrence = true) :
    decision.val.occurrence_index = some i ∧
      decision.val.scheduled_for_utc = some (format_canonical_utc slot) := by
  unfold decision_for_slot at h
  split at h
  · rw [Checked.make_eq_ok.mp h] at hkind
    cases hkind
  · simp only [bind_eq_ok, Checked.make_eq_ok] at h
    obtain ⟨_, _, h⟩ := h
    rw [h]
    exact ⟨rfl, rfl⟩

/-- What the constructor of a body checks, as far as claims rest on it. -/
theorem body_checks (b : AutomationDefinitionBodyV1) :
    PyText.is_opaque_id b.val.automation_id = true ∧
    (1 ≤ b.val.revision ∧ b.val.revision ≤ 2 ^ 31 - 1) ∧
    (1 ≤ b.val.max_occurrences ∧ b.val.max_occurrences ≤ 128) ∧
    (b.val.schedule.val.kind = .once_utc → b.val.max_occurrences = 1) := by
  have hbody := b.valid
  simp only [AutomationDefinitionBodyFields.post_init, Py.require_positive_int, Py.require_opaque_id,
    bind_eq_ok, Py.refuse_value_eq_ok, not_or, not_lt, exists_const, not_and, not_not,
    Bool.not_eq_false] at hbody
  obtain ⟨hid_ok, hrevision, _, _, _, _, _, _, _, _, _, _, _, _, _, _, _, _, _, _, _, _, _,
    hmax, honce, _⟩ := hbody
  exact ⟨hid_ok, hrevision, hmax, honce⟩

/-- A schedule has an anchor, and an interval unless it is for one time. -/
theorem schedule_checks (schedule : AutomationScheduleV1) :
    (∃ anchor, UtcTime.parse schedule.val.anchor_utc = some anchor ∧
      31525372800 ≤ anchor.seconds) ∧
    (schedule.val.kind ≠ .once_utc → ∃ n, schedule.val.interval_seconds = some n ∧ 60 ≤ n) := by
  have hschedule := schedule.valid
  simp only [AutomationScheduleFields.post_init, bind_eq_ok, parse_canonical_utc,
    Py.expect_value_eq_ok, ite_eq_ok, Py.refuse_value_eq_ok] at hschedule
  obtain ⟨anchor, hanchor, _, _, hkind⟩ := hschedule
  refine ⟨⟨anchor, hanchor, UtcTime.parse_year hanchor⟩, fun hfixed => ?_⟩
  rcases hkind with ⟨honce, _⟩ | ⟨_, _, hinterval, _⟩
  · exact absurd honce hfixed
  · cases hn : schedule.val.interval_seconds with
    | none => simp [hn] at hinterval
    | some n =>
      refine ⟨n, rfl, ?_⟩
      by_contra hlow
      simp [hn, not_le.mp hlow] at hinterval

/-- The decision of an active record is for the cursor's slot, or for a later
    one that is due as well. -/
theorem resolve_slots_ok (h : resolve_slots d cursor now = .ok decision)
    (hkind : decision.val.kind.is_occurrence = true) (hlow : 0 ≤ cursor)
    (hhigh : cursor < d.val.body.val.max_occurrences) :
    ∃ k slot, decision.val.occurrence_index = some k ∧
      decision.val.scheduled_for_utc = some (format_canonical_utc slot) ∧
      31525372800 ≤ slot.seconds ∧ slot.seconds = slot_seconds d k ∧ 0 ≤ k ∧
      k < d.val.body.val.max_occurrences ∧
      (k = cursor ↔ d.val.body.val.schedule.val.kind = .once_utc ∨
        d.val.body.val.schedule.val.catch_up = .none ∨
        now.seconds < slot_seconds d (cursor + 1) ∨ cursor + 1 = d.val.body.val.max_occurrences) := by
  obtain ⟨⟨anchor, hanchor, hyear⟩, hinterval⟩ := schedule_checks d.val.body.val.schedule
  obtain ⟨_, _, _, honce⟩ := body_checks d.val.body
  have hanchor_seconds : anchor_seconds d = anchor.seconds := by simp [anchor_seconds, hanchor]
  simp only [resolve_slots, bind_eq_ok, construct_eq_ok, parse_canonical_utc,
    Py.expect_value_eq_ok, hanchor, Option.some.injEq, exists_eq_left'] at h
  by_cases hkind_once : d.val.body.val.schedule.val.kind = .once_utc
  · -- the only slot
    rw [if_pos hkind_once, construct_eq_ok] at h
    obtain ⟨hindex, hslot⟩ := decision_for_slot_ok h hkind
    have hmax := honce hkind_once
    refine ⟨0, anchor, hindex, hslot, hyear, by simp [slot_seconds, hanchor_seconds], le_refl _,
      by omega, ?_⟩
    constructor
    · exact fun _ => .inl hkind_once
    · exact fun _ => by omega
  · rw [if_neg hkind_once] at h
    obtain ⟨n, hn, hn60⟩ := hinterval hkind_once
    simp only [bind_eq_ok, asserted_eq_ok, hn, Option.some.injEq, exists_eq_left', construct_eq_ok,
      UtcTime.add_eq_ok] at h
    obtain ⟨next_slot, hnext, h⟩ := h
    have hslots (k : Int) : slot_seconds d k = anchor.seconds + k * n := by
      simp [slot_seconds, hanchor_seconds, hn]
    have hcursor : 0 ≤ cursor * n := Int.mul_nonneg hlow (by omega)
    have hnext : (next_slot.seconds : Int) = anchor.seconds + cursor * n := by
      rw [hnext]
      push_cast
      omega
    by_cases hearly : now.seconds < next_slot.seconds
    · rw [if_pos hearly, construct_eq_ok, Checked.make_eq_ok] at h
      rw [h] at hkind
      cases hkind
    · rw [if_neg hearly] at h
      by_cases hrule : d.val.body.val.schedule.val.catch_up = .none
      · -- the cursor's slot, however late
        rw [if_pos hrule, construct_eq_ok] at h
        obtain ⟨hindex, hslot⟩ := decision_for_slot_ok h hkind
        refine ⟨cursor, next_slot, hindex, hslot, by omega, by rw [hslots, hnext], hlow, hhigh, ?_⟩
        exact ⟨fun _ => .inr (.inl hrule), fun _ => rfl⟩
      · -- the latest slot that has come
        rw [if_neg hrule] at h
        simp only [bind_eq_ok, construct_eq_ok, UtcTime.add_eq_ok] at h
        obtain ⟨latest, hlatest, h⟩ := h
        obtain ⟨hindex, hslot⟩ := decision_for_slot_ok h hkind
        generalize helapsed : (now.seconds : Int) - anchor.seconds = elapsed at *
        have hn0 : (0 : Int) < n := by omega
        have hreached : cursor ≤ elapsed / n := by
          rw [Int.le_ediv_iff_mul_le hn0]
          omega
        have hpast : elapsed / n < cursor + 1 ↔ elapsed < (cursor + 1) * n :=
          Int.ediv_lt_iff_lt_mul hn0
        generalize elapsed / n = q at *
        generalize hk : min q (d.val.body.val.max_occurrences - 1) = k at *
        have hkcursor : cursor ≤ k := by omega
        have hkn : 0 ≤ k * n := Int.mul_nonneg (by omega) (by omega)
        refine ⟨k, latest, hindex, hslot, by omega, ?_, by omega, by omega, ?_⟩
        · rw [hslots, hlatest]
          push_cast
          omega
        · rw [hslots]
          constructor
          · intro heq
            by_cases hlast : cursor + 1 = d.val.body.val.max_occurrences
            · exact .inr (.inr (.inr hlast))
            · have := hpast.mp (by omega)
              exact .inr (.inr (.inl (by omega)))
          · rintro (h | h | h | h)
            · exact absurd h hkind_once
            · exact absurd h hrule
            · have := hpast.mpr (by omega)
              omega
            · omega

/-- A decision for an occurrence is about an active record with slots left. -/
theorem resolve_schedule_ok (h : resolve_schedule d r now = .ok decision)
    (hkind : decision.val.kind.is_occurrence = true) :
    r.val.status = .active ∧ r.val.active_claim = none ∧
      r.val.next_occurrence_index < d.val.body.val.max_occurrences ∧
      resolve_slots d r.val.next_occurrence_index now = .ok decision := by
  simp only [resolve_schedule, bind_eq_ok, construct_eq_ok] at h
  obtain ⟨_, _, h⟩ := h
  -- a branch without an occurrence decides otherwise
  have without {kind : ScheduleDecisionKind} (hnot : kind.is_occurrence = false)
      (h : Checked.make { kind := kind } = .ok decision) : False := by
    rw [Checked.make_eq_ok.mp h, hnot] at hkind
    cases hkind
  simp only [ite_eq_ok, construct_eq_ok, bind_eq_ok] at h
  rcases h with ⟨_, h⟩ | ⟨_, ⟨_, h⟩ | ⟨_, ⟨_, h⟩ | ⟨_, ⟨_, h⟩ | ⟨_, ⟨_, h⟩ | ⟨hactive, h⟩⟩⟩⟩⟩
  · exact (without rfl h).elim
  · exact (without rfl h).elim
  · exact (without rfl h).elim
  · exact (without rfl h).elim
  · exact (without rfl h).elim
  · rw [not_or, not_not] at hactive
    rcases h with ⟨_, h⟩ | ⟨hmore, _, _, ⟨_, h⟩ | ⟨_, h⟩⟩
    · exact (without rfl h).elim
    · exact (without rfl h).elim
    · exact ⟨hactive.1, by simpa using hactive.2, not_le.mp hmore, h⟩

end Slots
