import FirstAgent.Memory.Store

/-! # Runs of the Memory Store

    Over every interleaving of the instances and every stop, the document is
    the serialization of the records the committed mutations lead to, and an
    instance whose cached view has the revision on disk has those records
    cached.  A forgotten record stays inactive as long as no mutation of the
    store itself gives it an active origin. -/

open Fallible

/-! ### The committed records -/

/-- A cached view is behind the committed records, or is them. -/
structure Behind (v cur : MemoryView) : Prop where
  revision_le : v.revision ≤ cur.revision
  same : v.revision = cur.revision → v = cur

/-- The update of a preference call is the one of an active record of the view
    its instance looked at. -/
def Looked (c : MemoryClient) : Prop :=
  ∀ call operation, c.pending = some (call, operation) →
    ∃ existing, find_preference c.view call.preference_id = .ok existing ∧
      operation = call.operation existing

/-- The holder commits `updated`, and `document` is its text. -/
structure Decided (header : MemoryHeader) (cur : MemoryView) (c : MemoryClient)
    (operation : MemoryOperation) (updated : MemoryView) (document : JsonDict) : Prop where
  view : c.view = cur
  step : (memory_machine header).step cur operation = .ok updated
  text : serialize header updated = .ok document

/-- What holds of the holder of the lock at a stage. -/
def CommitHolds (header : MemoryHeader) (cur : MemoryView) (w : MemoryWorld) (c : MemoryClient)
    (operation : MemoryOperation) : CommitStage → Prop
  | .locked                    => True
  | .decided updated document  => Decided header cur c operation updated document
  | .opened updated document   => Decided header cur c operation updated document
  | .written updated document  =>
    Decided header cur c operation updated document ∧ w.temp = some (some document)
  | .replaced updated          => updated = cur ∧ ∃ ops, w.log = ops ++ [operation]

/-- The holder of the lock is an instance at a mutation that can be asked for. -/
structure Holding (header : MemoryHeader) (cur : MemoryView) (w : MemoryWorld)
    (h : MemoryHolder) (c : MemoryClient) : Prop where
  client : w.clients h.client = some c
  asked : h.operation.check_content = .ok ()
  pending : ∀ call operation, c.pending = some (call, operation) → operation = h.operation
  stage : CommitHolds header cur w c h.operation h.stage

/-- The committed records are `cur`. -/
structure Current (header : MemoryHeader) (w : MemoryWorld) (cur : MemoryView) : Prop where
  sound : cur.Sound header
  disk : serialize header cur = .ok w.disk
  log : (memory_machine header).run { revision := 0, records := [] } w.log = .ok cur
  revision : cur.revision = w.log.length
  behind : ∀ client c, w.clients client = some c → Behind c.view cur
  looked : ∀ client c, w.clients client = some c → Looked c
  holding : ∀ h, w.holder = some h → ∃ c, Holding header cur w h c

section Steps

variable {header : MemoryHeader} {w w' : MemoryWorld} {cur : MemoryView}
  {clients : Nat → Option MemoryClient} {client i : Nat} {x : Option MemoryClient}
  {c c' : MemoryClient} {call : PreferenceCall} {operation : MemoryOperation}

@[simp] theorem set_client_self : set_client clients client x client = x := if_pos rfl

theorem set_client_other (h : i ≠ client) : set_client clients client x i = clients i := if_neg h

/-- An instance after another was replaced. -/
theorem set_client_cases (h : set_client clients client x i = some c) :
    (i = client ∧ x = some c) ∨ (i ≠ client ∧ clients i = some c) := by
  by_cases hi : i = client
  · subst hi
    rw [set_client_self] at h
    exact .inl ⟨rfl, h⟩
  · rw [set_client_other hi] at h
    exact .inr ⟨hi, h⟩

theorem behind_refl : Behind cur cur := { revision_le := le_rfl, same := fun _ => rfl }

theorem looked_none (h : c.pending = none) : Looked c := by
  intro call operation hpending
  rw [h] at hpending
  cases hpending

/-- The document is read as the committed records. -/
theorem Current.read (h : Current header w cur) : read_document header w.disk = .ok cur :=
  read_serialized h.sound h.disk

/-- A mutation with all its checks raises the revision by one. -/
theorem machine_revision {v v' : MemoryView}
    (h : (memory_machine header).step v operation = .ok v') : v'.revision = v.revision + 1 := by
  simp only [memory_machine, bind_eq_ok] at h
  obtain ⟨_, _, happly⟩ := h
  exact (memory_apply_ok happly).1

/-- The revision in a document is the one of its records. -/
theorem disk_revision {document : JsonDict} (h : serialize header cur = .ok document) :
    plain_int (document.get "revision") = some cur.revision := by
  simp only [serialize, bind_eq_ok, refuse_eq_ok, ok_eq_ok] at h
  obtain ⟨_, _, rfl⟩ := h
  rw [memory_document_get]
  simp [Json.lookup, plain_int]

/-- Replacing an instance that does not hold the lock. -/
theorem Current.set_other (hw : Current header w cur)
    (hheld : ∀ h, w.holder = some h → h.client ≠ client)
    (hbehind : ∀ c, x = some c → Behind c.view cur) (hlooked : ∀ c, x = some c → Looked c) :
    Current header { w with clients := set_client w.clients client x } cur := by
  refine { hw with behind := ?_, looked := ?_, holding := ?_ }
  · intro i c hc
    rcases set_client_cases hc with ⟨_, hx⟩ | ⟨_, hc⟩
    · exact hbehind c hx
    · exact hw.behind i c hc
  · intro i c hc
    rcases set_client_cases hc with ⟨_, hx⟩ | ⟨_, hc⟩
    · exact hlooked c hx
    · exact hw.looked i c hc
  · intro h hholder
    obtain ⟨c, hc⟩ := hw.holding h hholder
    exact ⟨c, { hc with client := (set_client_other (hheld h hholder)).trans hc.client }⟩

/-- No one holds a free lock. -/
theorem free_lock (hfree : w.holder = none) : ∀ h, w.holder = some h → h.client ≠ client := by
  intro h hheld
  cases hfree.symm.trans hheld

-- the equations of the step are made once, ahead of the lemmas that read them
attribute [local simp] memory_step in
theorem load_current (hw : Current header w cur)
    (h : memory_step header w (.load client) = .ok w') : Current header w' cur := by
  simp only [memory_step, bind_eq_ok, refuse_eq_ok, ok_eq_ok, Bool.not_eq_true,
    Option.isSome_eq_false_iff, Option.isNone_iff_eq_none] at h
  obtain ⟨_, hfree, _, _, view, hview, rfl⟩ := h
  obtain rfl := ok_eq_ok.mp (hw.read.symm.trans hview)
  refine hw.set_other (free_lock hfree) ?_ ?_
  · rintro _ ⟨⟩
    exact behind_refl
  · rintro _ ⟨⟩
    exact looked_none rfl

theorem snapshot_current (hw : Current header w cur)
    (h : memory_step header w (.snapshot client) = .ok w') : Current header w' cur := by
  simp only [memory_step, bind_eq_ok, refuse_eq_ok, expect_eq_ok, ok_eq_ok, Bool.not_eq_true,
    Option.isSome_eq_false_iff, Option.isNone_iff_eq_none] at h
  obtain ⟨_, hfree, c, _, _, hpending, view, hview, rfl⟩ := h
  obtain rfl := ok_eq_ok.mp (hw.read.symm.trans hview)
  refine hw.set_other (free_lock hfree) ?_ ?_
  · rintro _ ⟨⟩
    exact behind_refl
  · rintro _ ⟨⟩
    exact looked_none hpending

theorem look_current (hw : Current header w cur)
    (h : memory_step header w (.look client call) = .ok w') : Current header w' cur := by
  simp only [memory_step, bind_eq_ok, refuse_eq_ok, expect_eq_ok, ok_eq_ok, Bool.not_eq_true,
    Option.isSome_eq_false_iff, Option.isNone_iff_eq_none] at h
  obtain ⟨_, hfree, c, _, _, _, view, hview, rfl⟩ := h
  obtain rfl := ok_eq_ok.mp (hw.read.symm.trans hview)
  refine hw.set_other (free_lock hfree) ?_ ?_
  · rintro _ ⟨⟩
    exact behind_refl
  · rintro _ ⟨⟩ call' operation' hpending
    split at hpending
    · next existing hfound =>
      obtain ⟨rfl, rfl⟩ := Prod.mk.inj (Option.some.inj hpending)
      exact ⟨existing, hfound, rfl⟩
    · cases hpending

theorem give_up_current (hw : Current header w cur)
    (h : memory_step header w (.give_up client) = .ok w') : Current header w' cur := by
  simp only [memory_step, bind_eq_ok, refuse_eq_ok, expect_eq_ok, ok_eq_ok] at h
  obtain ⟨c, hc, _, hheld, rfl⟩ := h
  refine hw.set_other ?_ ?_ ?_
  · intro h hholder hclient
    exact hheld (by simp [hholder, hclient])
  · rintro _ ⟨⟩
    exact hw.behind client c hc
  · rintro _ ⟨⟩
    exact looked_none rfl

theorem lock_current (hw : Current header w cur)
    (h : memory_step header w (.lock client operation) = .ok w') : Current header w' cur := by
  simp only [memory_step, bind_eq_ok, refuse_eq_ok, expect_eq_ok, ok_eq_ok] at h
  obtain ⟨c, hc, _, hpending, _, hasked, _, _, rfl⟩ := h
  refine { hw with holding := ?_ }
  rintro _ ⟨⟩
  refine ⟨c, { client := hc, asked := hasked, pending := ?_, stage := trivial }⟩
  intro call operation' heq
  by_contra hne
  exact hpending (by simp [heq, hne])

/-- A mutation is decided on the committed records only. -/
theorem decide_current_ok {updated : MemoryView} {document : JsonDict}
    (hw : Current header w cur) (hbehind : Behind c.view cur)
    (hasked : operation.check_content = .ok ())
    (h : decide_commit header w.disk c.view operation = .ok (updated, document)) :
    Decided header cur c operation updated document := by
  simp only [decide_commit, bind_eq_ok, expect_eq_ok, refuse_eq_ok, ok_eq_ok, Prod.mk.injEq,
    not_not] at h
  obtain ⟨updated, happly, on_disk, hrevision, _, heq, document, htext, rfl, rfl⟩ := h
  have hview : c.view = cur := by
    refine hbehind.same ?_
    rw [← heq]
    exact Option.some.inj (hrevision.symm.trans (disk_revision hw.disk))
  rw [hview] at happly
  refine { view := hview, step := ?_, text := htext }
  simp only [memory_machine, bind_eq_ok]
  exact ⟨(), hasked, happly⟩

theorem decide_current (hw : Current header w cur)
    (h : memory_step header w .decide = .ok w') : Current header w' cur := by
  simp only [memory_step, bind_eq_ok, expect_eq_ok] at h
  obtain ⟨held, hheld, c, hc, h⟩ := h
  obtain ⟨c', hholds⟩ := hw.holding held hheld
  obtain rfl := Option.some.inj (hc.symm.trans hholds.client)
  split at h
  · split at h
    · next updated document hdecided =>
      obtain rfl := ok_eq_ok.mp h
      have hcommit := decide_current_ok hw (hw.behind held.client c hc) hholds.asked hdecided
      refine { hw with holding := ?_ }
      rintro _ ⟨⟩
      exact ⟨c, { hholds with stage := hcommit }⟩
    · obtain rfl := ok_eq_ok.mp h
      -- the refused instance drops its call and the lock
      have hreleased : Current header { w with holder := none } cur :=
        { hw with holding := fun _ heq => by cases heq }
      refine hreleased.set_other (free_lock rfl) ?_ ?_
      · rintro _ ⟨⟩
        exact hw.behind held.client c hc
      · rintro _ ⟨⟩
        exact looked_none rfl
  · cases h

theorem open_temp_current (hw : Current header w cur)
    (h : memory_step header w .open_temp = .ok w') : Current header w' cur := by
  simp only [memory_step, bind_eq_ok, expect_eq_ok] at h
  obtain ⟨held, hheld, h⟩ := h
  obtain ⟨c, hholds⟩ := hw.holding held hheld
  split at h
  · next updated document hstage =>
    obtain rfl := ok_eq_ok.mp h
    have hdecided := hholds.stage
    rw [hstage] at hdecided
    refine { hw with holding := ?_ }
    rintro _ ⟨⟩
    exact ⟨c, { hholds with stage := hdecided }⟩
  · cases h

theorem write_temp_current (hw : Current header w cur)
    (h : memory_step header w .write_temp = .ok w') : Current header w' cur := by
  simp only [memory_step, bind_eq_ok, expect_eq_ok] at h
  obtain ⟨held, hheld, h⟩ := h
  obtain ⟨c, hholds⟩ := hw.holding held hheld
  split at h
  · next updated document hstage =>
    obtain rfl := ok_eq_ok.mp h
    have hdecided := hholds.stage
    rw [hstage] at hdecided
    refine { hw with holding := ?_ }
    rintro _ ⟨⟩
    exact ⟨c, { hholds with stage := ⟨hdecided, rfl⟩ }⟩
  · cases h

/-- The store after the replacement. -/
def committed (w : MemoryWorld) (client : Nat) (c : MemoryClient) (operation : MemoryOperation)
    (updated : MemoryView) (document : JsonDict) : MemoryWorld := { w with
  disk := document
  temp := none
  holder := some { client, operation, stage := .replaced updated }
  log := w.log ++ [operation]
  forgotten := forgets c.pending operation ++ w.forgotten }

/-- The records of the holder are the committed ones after its replacement. -/
theorem committed_current {updated : MemoryView} {document : JsonDict} (hw : Current header w cur)
    (hc : w.clients client = some c) (hasked : operation.check_content = .ok ())
    (hpending : ∀ call operation', c.pending = some (call, operation') → operation' = operation)
    (hstep : (memory_machine header).step cur operation = .ok updated)
    (htext : serialize header updated = .ok document) :
    Current header (committed w client c operation updated document) updated := by
  have hrevision := machine_revision hstep
  have hsound : updated.Sound header := by
    simp only [memory_machine, bind_eq_ok] at hstep
    obtain ⟨_, _, happly⟩ := hstep
    exact memory_apply_sound hw.sound happly
  refine { sound := hsound, disk := htext, log := ?_, revision := ?_, behind := ?_
           looked := hw.looked, holding := ?_ }
  · exact System.run_append.mpr ⟨cur, hw.log, System.run_cons.mpr
      ⟨updated, hstep, System.run_nil.mpr rfl⟩⟩
  · simp [committed, hrevision, hw.revision]
  · intro i ci hci
    have hbehind := hw.behind i ci hci
    have hle := hbehind.revision_le
    exact { revision_le := by omega, same := fun heq => by omega }
  · rintro _ ⟨⟩
    exact ⟨c, { client := hc, asked := hasked, pending := hpending, stage := ⟨rfl, w.log, rfl⟩ }⟩

/-- The replacement commits the mutation of the holder on the committed
    records. -/
theorem replace_current (hw : Current header w cur)
    (h : memory_step header w .replace = .ok w') :
    ∃ held c updated, w.holder = some held ∧ Holding header cur w held c ∧ c.view = cur ∧
      (memory_machine header).step cur held.operation = .ok updated ∧
      w'.log = w.log ++ [held.operation] ∧
      w'.forgotten = forgets c.pending held.operation ++ w.forgotten ∧
      w'.clients = w.clients ∧ w'.holder = some { held with stage := .replaced updated } ∧
      Current header w' updated := by
  simp only [memory_step, bind_eq_ok, expect_eq_ok] at h
  obtain ⟨held, hheld, c, hc, h⟩ := h
  obtain ⟨c', hholds⟩ := hw.holding held hheld
  obtain rfl := Option.some.inj (hc.symm.trans hholds.client)
  split at h
  · next updated document document' hstage htemp =>
    obtain rfl := ok_eq_ok.mp h
    have hdecided := hholds.stage
    rw [hstage] at hdecided
    obtain ⟨hdecided, hwritten⟩ := hdecided
    obtain rfl : document' = document :=
      Option.some.inj (Option.some.inj (htemp.symm.trans hwritten))
    have hstep := hdecided.step
    exact ⟨held, c, updated, hheld, hholds, hdecided.view, hstep, rfl, rfl, rfl, rfl,
      committed_current hw hc hholds.asked hholds.pending hstep hdecided.text⟩
  · cases h

/-- An instance that returns has the committed records cached. -/
theorem finish_current (hw : Current header w cur)
    (h : memory_step header w .finish = .ok w') : Current header w' cur := by
  simp only [memory_step, bind_eq_ok, expect_eq_ok] at h
  obtain ⟨held, hheld, h⟩ := h
  obtain ⟨c, hholds⟩ := hw.holding held hheld
  split at h
  · next updated hstage =>
    obtain rfl := ok_eq_ok.mp h
    have hreplaced := hholds.stage
    rw [hstage] at hreplaced
    obtain ⟨rfl, _⟩ := hreplaced
    have hreleased : Current header { w with holder := none } updated :=
      { hw with holding := fun _ heq => by cases heq }
    refine hreleased.set_other (free_lock rfl) ?_ ?_
    · rintro _ ⟨⟩
      exact behind_refl
    · rintro _ ⟨⟩
      exact looked_none rfl
  · cases h

/-- A stop leaves the document to the other instances. -/
theorem stop_current (hw : Current header w cur)
    (h : memory_step header w (.stop client) = .ok w') : Current header w' cur := by
  obtain rfl := ok_eq_ok.mp h
  have hreleased : Current header { w with holder := w.holder.filter (·.client ≠ client) } cur := by
    refine { hw with holding := ?_ }
    intro held hheld
    obtain ⟨hheld, _⟩ := Option.filter_eq_some_iff.mp hheld
    obtain ⟨c, hc⟩ := hw.holding held hheld
    exact ⟨c, { hc with }⟩
  refine hreleased.set_other ?_ ?_ ?_
  · intro held hheld
    obtain ⟨_, hother⟩ := Option.filter_eq_some_iff.mp hheld
    simpa using hother
  · rintro _ ⟨⟩
  · rintro _ ⟨⟩

/-- Every call but the replacement leaves the committed records. -/
theorem current_step {l : MemoryCall} (hw : Current header w cur) (hl : l ≠ .replace)
    (h : memory_step header w l = .ok w') : Current header w' cur := by
  cases l with
  | load _ => exact load_current hw h
  | snapshot _ => exact snapshot_current hw h
  | look _ _ => exact look_current hw h
  | give_up _ => exact give_up_current hw h
  | lock _ _ => exact lock_current hw h
  | decide => exact decide_current hw h
  | open_temp => exact open_temp_current hw h
  | write_temp => exact write_temp_current hw h
  | replace => exact absurd rfl hl
  | finish => exact finish_current hw h
  | stop _ => exact stop_current hw h

end Steps

/-! ### Forgetting -/

/-- The mutation gives a forgotten record an active origin. -/
def MemoryOperation.revives (forgotten : List String) : MemoryOperation → Bool
  | .remember record_id _ _ origin _ _   => record_id ∈ forgotten && origin.any is_active_origin
  | .update record_id _ _ _ _ origin _ _ => record_id ∈ forgotten && origin.any is_active_origin
  | .forget ..                           => false

/-- The call is a mutation of the store itself, in no preference call, that
    revives a forgotten record. -/
def revives (w : MemoryWorld) : MemoryCall → Bool
  | .lock client operation =>
    (w.clients client).any (fun c => c.pending = none) && operation.revives w.forgotten
  | _ => false

/-- The forgotten records are inactive, and the holder revives none. -/
structure Forgets (w : MemoryWorld) (cur : MemoryView) : Prop where
  inactive : ∀ record_id ∈ w.forgotten, ∀ r, cur.get record_id = some r → is_active r = false
  quiet : ∀ h c, w.holder = some h → w.clients h.client = some c → c.pending = none →
    h.operation.revives w.forgotten = false

section Forgetting

variable {header : MemoryHeader} {w w' : MemoryWorld} {cur updated : MemoryView}
  {c : MemoryClient} {operation : MemoryOperation} {record_id : String} {r : MemoryRecord}
  {pending : Option (PreferenceCall × MemoryOperation)} {forgotten : List String}

/-- A preference that is found is active. -/
theorem find_preference_ok (h : find_preference cur record_id = .ok r) :
    cur.get record_id = some r ∧ is_active r = true := by
  simp only [find_preference, bind_eq_ok, expect_eq_ok, refuse_eq_ok, ok_eq_ok,
    Bool.not_eq_false] at h
  obtain ⟨_, hfound, _, hactive, rfl⟩ := h
  exact ⟨hfound, hactive⟩

/-- What is forgotten is the record of the mutation. -/
theorem mem_forgets (hlooked : ∀ call operation', pending = some (call, operation') →
      operation' = operation ∧ ∃ existing, operation' = call.operation existing)
    (h : record_id ∈ forgets pending operation) : operation.record_id = record_id := by
  have hcall : ∀ preference_id now operation', pending = some (.forget preference_id now, operation') →
      operation.record_id = preference_id := by
    intro preference_id now operation' hpending
    obtain ⟨rfl, existing, rfl⟩ := hlooked _ _ hpending
    rfl
  cases operation with
  | remember _ _ _ _ _ _ =>
    simp only [forgets] at h
    split at h
    · next preference_id now operation' =>
      rw [List.mem_singleton.mp h]
      exact hcall _ _ _ rfl
    · cases h
  | update _ _ _ _ _ _ _ _ =>
    simp only [forgets] at h
    split at h
    · next preference_id now operation' =>
      rw [List.mem_singleton.mp h]
      exact hcall _ _ _ rfl
    · cases h
  | forget _ _ _ => exact (List.mem_singleton.mp h).symm

/-- An origin that is kept unless an inactive one is given stays inactive. -/
theorem given_or_inactive {given kept : Option String} (hgiven : given.any is_active_origin = false)
    (hkept : kept.any is_active_origin = false) :
    (given_or given kept).any is_active_origin = false := by
  unfold given_or
  split
  · exact hgiven
  · exact hkept

/-- The update of a forgotten preference leaves it inactive. -/
theorem given_forgotten (kept : Option String) :
    (given_or (some FORGOTTEN_ORIGIN) kept).any is_active_origin = false := by
  have hgiven : given_or (some FORGOTTEN_ORIGIN) kept = some FORGOTTEN_ORIGIN := rfl
  rw [hgiven]
  decide

/-- A committed mutation leaves the forgotten records inactive. -/
theorem forgets_apply (hsound : cur.Sound header)
    (hinactive : ∀ record_id ∈ w.forgotten, ∀ r, cur.get record_id = some r → is_active r = false)
    (hquiet : c.pending = none → operation.revives w.forgotten = false)
    (hview : c.view = cur) (hlooked : Looked c)
    (hpending : ∀ call operation', c.pending = some (call, operation') → operation' = operation)
    (happly : operation.apply header cur = .ok updated)
    (hmem : record_id ∈ forgets c.pending operation ++ w.forgotten)
    (hr : updated.get record_id = some r) : is_active r = false := by
  have hcall : ∀ call operation', c.pending = some (call, operation') → operation' = operation ∧
      ∃ existing, operation' = call.operation existing := by
    intro call operation' heq
    obtain ⟨existing, _, hoperation⟩ := hlooked call operation' heq
    exact ⟨hpending call operation' heq, existing, hoperation⟩
  rcases memory_apply_get hsound happly hr with ⟨hother, hkept⟩ |
    ⟨content, source, origin, admission, now, rfl, horigin⟩ |
    ⟨content, revision, digest, source, origin, admission, now, existing, rfl, hfound, horigin⟩
  · -- another record is as it was
    rcases List.mem_append.mp hmem with hnew | hold
    · exact absurd (mem_forgets hcall hnew) hother
    · exact hinactive record_id hold r hkept
  · -- a remembered record is in no preference call
    have hnone : c.pending = none := by
      refine Option.eq_none_iff_forall_ne_some.mpr ?_
      rintro ⟨call, operation'⟩ heq
      obtain ⟨hsame, existing, hoperation⟩ := hcall call operation' heq
      cases call with
      | correct _ _ _ _ _ => cases hsame.symm.trans hoperation
      | forget _ _ => cases hsame.symm.trans hoperation
    have hold : record_id ∈ w.forgotten := by
      rw [hnone] at hmem
      simpa [forgets] using hmem
    have hrevives := hquiet hnone
    simp only [MemoryOperation.revives, hold, decide_true, Bool.true_and] at hrevives
    show r.val.origin.any is_active_origin = false
    rw [horigin]
    exact hrevives
  · show r.val.origin.any is_active_origin = false
    rw [horigin]
    cases hcase : c.pending with
    | none =>
      have hold : record_id ∈ w.forgotten := by
        rw [hcase] at hmem
        simpa [forgets] using hmem
      have hrevives := hquiet hcase
      simp only [MemoryOperation.revives, hold, decide_true, Bool.true_and] at hrevives
      exact given_or_inactive hrevives (hinactive record_id hold existing hfound)
    | some entry =>
      obtain ⟨call, operation'⟩ := entry
      obtain ⟨found, hpreference, hoperation⟩ := hlooked call operation' hcase
      have hsame := hpending call operation' hcase
      rw [hview] at hpreference
      obtain ⟨hactual, hactive⟩ := find_preference_ok hpreference
      cases call with
      | correct preference_id content' source' admission' now' =>
        -- a corrected preference was active, so it was not forgotten
        obtain ⟨rfl, _⟩ := MemoryOperation.update.inj (hsame.symm.trans hoperation)
        have hold : record_id ∈ w.forgotten := by
          rw [hcase] at hmem
          simpa [forgets] using hmem
        have hfalse := hinactive record_id hold found hactual
        rw [hactive] at hfalse
        cases hfalse
      | forget preference_id now' =>
        obtain ⟨_, _, _, _, _, rfl, _⟩ :=
          MemoryOperation.update.inj (hsame.symm.trans hoperation)
        exact given_forgotten _

/-- A call that revives no forgotten record keeps the forgotten inactive. -/
theorem forgets_step {l : MemoryCall} (hforgets : Forgets w cur)
    (hl : l ≠ .replace) (hquiet : revives w l = false)
    (h : memory_step header w l = .ok w') : Forgets w' cur := by
  cases l with
  | load client =>
    simp only [memory_step, bind_eq_ok, refuse_eq_ok, ok_eq_ok, Bool.not_eq_true,
      Option.isSome_eq_false_iff, Option.isNone_iff_eq_none] at h
    obtain ⟨_, hfree, _, _, _, _, rfl⟩ := h
    exact { inactive := hforgets.inactive, quiet := fun h c hheld => by cases hfree.symm.trans hheld }
  | snapshot client =>
    simp only [memory_step, bind_eq_ok, refuse_eq_ok, expect_eq_ok, ok_eq_ok, Bool.not_eq_true,
      Option.isSome_eq_false_iff, Option.isNone_iff_eq_none] at h
    obtain ⟨_, hfree, _, _, _, _, _, _, rfl⟩ := h
    exact { inactive := hforgets.inactive, quiet := fun h c hheld => by cases hfree.symm.trans hheld }
  | look client call =>
    simp only [memory_step, bind_eq_ok, refuse_eq_ok, expect_eq_ok, ok_eq_ok, Bool.not_eq_true,
      Option.isSome_eq_false_iff, Option.isNone_iff_eq_none] at h
    obtain ⟨_, hfree, _, _, _, _, _, _, rfl⟩ := h
    exact { inactive := hforgets.inactive, quiet := fun h c hheld => by cases hfree.symm.trans hheld }
  | give_up client =>
    simp only [memory_step, bind_eq_ok, refuse_eq_ok, expect_eq_ok, ok_eq_ok] at h
    obtain ⟨c, hc, _, hfree, rfl⟩ := h
    refine { inactive := hforgets.inactive, quiet := ?_ }
    intro held c' hheld hc' hpending
    rcases set_client_cases hc' with ⟨hclient, _⟩ | ⟨_, hc'⟩
    · have hbusy : w.holder.any (·.client = client) = true := by
        rw [show w.holder = some held from hheld]
        exact decide_eq_true hclient
      exact absurd hbusy hfree
    · exact hforgets.quiet held c' hheld hc' hpending
  | lock client operation =>
    simp only [memory_step, bind_eq_ok, refuse_eq_ok, expect_eq_ok, ok_eq_ok] at h
    obtain ⟨c, hc, _, _, _, _, _, _, rfl⟩ := h
    refine { inactive := hforgets.inactive, quiet := ?_ }
    rintro _ c' ⟨⟩ hc' hpending
    obtain rfl := Option.some.inj (hc.symm.trans hc')
    -- the label revives nothing, so neither does the operation it locks for
    simpa [revives, hc, hpending] using hquiet
  | decide =>
    simp only [memory_step, bind_eq_ok, expect_eq_ok] at h
    obtain ⟨held, hheld, c, hc, h⟩ := h
    split at h
    · split at h
      · obtain rfl := ok_eq_ok.mp h
        refine { inactive := hforgets.inactive, quiet := ?_ }
        rintro _ c' ⟨⟩ hc' hpending
        exact hforgets.quiet held c' hheld hc' hpending
      · obtain rfl := ok_eq_ok.mp h
        exact { inactive := hforgets.inactive, quiet := fun _ _ heq => by cases heq }
    · cases h
  | open_temp =>
    simp only [memory_step, bind_eq_ok, expect_eq_ok] at h
    obtain ⟨held, hheld, h⟩ := h
    split at h
    · obtain rfl := ok_eq_ok.mp h
      refine { inactive := hforgets.inactive, quiet := ?_ }
      rintro _ c' ⟨⟩ hc' hpending
      exact hforgets.quiet held c' hheld hc' hpending
    · cases h
  | write_temp =>
    simp only [memory_step, bind_eq_ok, expect_eq_ok] at h
    obtain ⟨held, hheld, h⟩ := h
    split at h
    · obtain rfl := ok_eq_ok.mp h
      refine { inactive := hforgets.inactive, quiet := ?_ }
      rintro _ c' ⟨⟩ hc' hpending
      exact hforgets.quiet held c' hheld hc' hpending
    · cases h
  | replace => exact absurd rfl hl
  | finish =>
    simp only [memory_step, bind_eq_ok, expect_eq_ok] at h
    obtain ⟨held, hheld, h⟩ := h
    split at h
    · obtain rfl := ok_eq_ok.mp h
      exact { inactive := hforgets.inactive, quiet := fun _ _ heq => by cases heq }
    · cases h
  | stop client =>
    obtain rfl := ok_eq_ok.mp h
    refine { inactive := hforgets.inactive, quiet := ?_ }
    intro held c' hheld hc' hpending
    -- the lock is that of another instance, which stays as it is
    obtain ⟨hheld, hother⟩ := Option.filter_eq_some_iff.mp hheld
    rcases set_client_cases hc' with ⟨_, hnone⟩ | ⟨_, hc'⟩
    · cases hnone
    · exact hforgets.quiet held c' hheld hc' hpending

/-- So does the replacement. -/
theorem forgets_replace (hw : Current header w cur) (hforgets : Forgets w cur)
    (h : memory_step header w .replace = .ok w') :
    ∃ updated, Current header w' updated ∧ Forgets w' updated := by
  obtain ⟨held, c, updated, hheld, hholds, hview, hstep, _, hforgotten, hclients, hholder, hw'⟩ :=
    replace_current hw h
  simp only [memory_machine, bind_eq_ok] at hstep
  obtain ⟨_, _, happly⟩ := hstep
  have hlooked := hw.looked held.client c hholds.client
  refine ⟨updated, hw', { inactive := ?_, quiet := ?_ }⟩
  · intro record_id hmem r hr
    rw [hforgotten] at hmem
    exact forgets_apply hw.sound hforgets.inactive
      (hforgets.quiet held c hheld hholds.client) hview hlooked hholds.pending happly hmem hr
  · intro held' c' hheld' hc' hpending
    rw [hholder] at hheld'
    obtain rfl := Option.some.inj hheld'
    rw [hclients] at hc'
    obtain rfl := Option.some.inj (hholds.client.symm.trans hc')
    have hquiet := hforgets.quiet held c hheld hholds.client hpending
    show held.operation.revives w'.forgotten = false
    rw [hforgotten, hpending]
    -- without a preference call only a removal forgets
    cases hoperation : held.operation with
    | remember _ _ _ _ _ _ =>
      rw [hoperation] at hquiet
      exact hquiet
    | update _ _ _ _ _ _ _ _ =>
      rw [hoperation] at hquiet
      exact hquiet
    | forget _ _ _ => rfl

end Forgetting

/-! ### Every run -/

/-- What is promised of a memory store. -/
structure MemorySafe (header : MemoryHeader) (w : MemoryWorld) : Prop where
  /-- The document loads, as the records its mutations lead to. -/
  loads : ∃ v, read_document header w.disk = .ok v ∧ v.revision = w.log.length ∧
    (memory_machine header).run { revision := 0, records := [] } w.log = .ok v
  /-- Only the replacement of the document changes it. -/
  unchanged : ∀ l w', memory_step header w l = .ok w' → l ≠ .replace →
    w'.disk = w.disk ∧ w'.log = w.log
  /-- The replacement applies the mutation that holds the lock to exactly the
      records of the document. -/
  replaces : ∀ w', memory_step header w .replace = .ok w' →
    ∃ held v v', w.holder = some held ∧ read_document header w.disk = .ok v ∧
      (memory_machine header).step v held.operation = .ok v' ∧ v'.revision = v.revision + 1 ∧
      read_document header w'.disk = .ok v' ∧ w'.log = w.log ++ [held.operation]
  /-- A mutation that returns was committed. -/
  returns : ∀ w', memory_step header w .finish = .ok w' →
    ∃ held ops, w.holder = some held ∧ w.log = ops ++ [held.operation]
  /-- Loading and looking give an instance the records of the document. -/
  views : ∀ client call l w', l = .load client ∨ l = .snapshot client ∨ l = .look client call →
    memory_step header w l = .ok w' →
    ∃ c, w'.clients client = some c ∧ read_document header w.disk = .ok c.view

section Runs

variable {header : MemoryHeader} {w w' : MemoryWorld} {cur : MemoryView} {document : JsonDict}
  {calls : List MemoryCall}

theorem current_start (hcreated : serialize header { revision := 0, records := [] } = .ok document) :
    Current header { disk := document } { revision := 0, records := [] } where
  sound := { ordered := List.Pairwise.nil, scope := by simp, digest := by simp }
  disk := hcreated
  log := System.run_nil.mpr rfl
  revision := rfl
  behind _ _ h := by cases h
  looked _ _ h := by cases h
  holding _ h := by cases h

/-- The committed records after any run. -/
theorem current_run (hcreated : serialize header { revision := 0, records := [] } = .ok document)
    (hrun : (memory_system header).run { disk := document } calls = .ok w) :
    ∃ cur, Current header w cur := by
  have hstep : ∀ w l w', (∃ cur, Current header w cur) →
      (memory_system header).step w l = .ok w' → ∃ cur, Current header w' cur := by
    rintro w l w' ⟨cur, hw⟩ h
    -- only the replacement changes the committed records
    by_cases hl : l = .replace
    · subst hl
      obtain ⟨_, _, updated, _, _, _, _, _, _, _, _, hw'⟩ := replace_current hw h
      exact ⟨updated, hw'⟩
    · exact ⟨cur, current_step hw hl h⟩
  exact System.run_invariant hstep ⟨_, current_start hcreated⟩ hrun

/-- Only a replacement writes the document. -/
theorem step_disk {l : MemoryCall} (hl : l ≠ .replace) (h : memory_step header w l = .ok w') :
    w'.disk = w.disk ∧ w'.log = w.log := by
  cases l with
  | replace => exact absurd rfl hl
  | decide =>
    simp only [memory_step, bind_eq_ok, expect_eq_ok] at h
    obtain ⟨_, _, _, _, h⟩ := h
    split at h
    · split at h
      all_goals
        obtain rfl := ok_eq_ok.mp h
        exact ⟨rfl, rfl⟩
    · cases h
  | open_temp =>
    simp only [memory_step, bind_eq_ok, expect_eq_ok] at h
    obtain ⟨_, _, h⟩ := h
    split at h
    · obtain rfl := ok_eq_ok.mp h
      exact ⟨rfl, rfl⟩
    · cases h
  | write_temp =>
    simp only [memory_step, bind_eq_ok, expect_eq_ok] at h
    obtain ⟨_, _, h⟩ := h
    split at h
    · obtain rfl := ok_eq_ok.mp h
      exact ⟨rfl, rfl⟩
    · cases h
  | finish =>
    simp only [memory_step, bind_eq_ok, expect_eq_ok] at h
    obtain ⟨_, _, h⟩ := h
    split at h
    · obtain rfl := ok_eq_ok.mp h
      exact ⟨rfl, rfl⟩
    · cases h
  | load _ =>
    simp only [memory_step, bind_eq_ok, ok_eq_ok] at h
    obtain ⟨_, _, _, _, _, _, rfl⟩ := h
    exact ⟨rfl, rfl⟩
  | snapshot _ =>
    simp only [memory_step, bind_eq_ok, ok_eq_ok] at h
    obtain ⟨_, _, _, _, _, _, _, _, rfl⟩ := h
    exact ⟨rfl, rfl⟩
  | look _ _ =>
    simp only [memory_step, bind_eq_ok, ok_eq_ok] at h
    obtain ⟨_, _, _, _, _, _, _, _, rfl⟩ := h
    exact ⟨rfl, rfl⟩
  | give_up _ =>
    simp only [memory_step, bind_eq_ok, ok_eq_ok] at h
    obtain ⟨_, _, _, _, rfl⟩ := h
    exact ⟨rfl, rfl⟩
  | lock _ _ =>
    simp only [memory_step, bind_eq_ok, ok_eq_ok] at h
    obtain ⟨_, _, _, _, _, _, _, _, rfl⟩ := h
    exact ⟨rfl, rfl⟩
  | stop _ =>
    obtain rfl := ok_eq_ok.mp h
    exact ⟨rfl, rfl⟩

/-- An instance that loads or looks reads the document. -/
theorem step_views {client : Nat} {call : PreferenceCall} {l : MemoryCall}
    (hl : l = .load client ∨ l = .snapshot client ∨ l = .look client call)
    (h : memory_step header w l = .ok w') :
    ∃ c, w'.clients client = some c ∧ read_document header w.disk = .ok c.view := by
  rcases hl with rfl | rfl | rfl
  · simp only [memory_step, bind_eq_ok, ok_eq_ok] at h
    obtain ⟨_, _, _, _, view, hview, rfl⟩ := h
    exact ⟨_, set_client_self, hview⟩
  · simp only [memory_step, bind_eq_ok, ok_eq_ok] at h
    obtain ⟨_, _, _, _, _, _, view, hview, rfl⟩ := h
    exact ⟨_, set_client_self, hview⟩
  · simp only [memory_step, bind_eq_ok, ok_eq_ok] at h
    obtain ⟨_, _, _, _, _, _, view, hview, rfl⟩ := h
    exact ⟨_, set_client_self, hview⟩

theorem Current.safe (hw : Current header w cur) : MemorySafe header w where
  loads := ⟨cur, hw.read, hw.revision, hw.log⟩
  unchanged _ _ h hl := step_disk hl h
  replaces w' h := by
    obtain ⟨held, _, updated, hheld, _, _, hstep, hlog, _, _, _, hw'⟩ := replace_current hw h
    exact ⟨held, cur, updated, hheld, hw.read, hstep, machine_revision hstep, hw'.read, hlog⟩
  returns w' h := by
    simp only [memory_step, bind_eq_ok, expect_eq_ok] at h
    obtain ⟨held, hheld, h⟩ := h
    obtain ⟨c, hholds⟩ := hw.holding held hheld
    split at h
    · next updated hstage =>
      have hreplaced := hholds.stage
      rw [hstage] at hreplaced
      obtain ⟨_, ops, hlog⟩ := hreplaced
      exact ⟨held, ops, hheld, hlog⟩
    · cases h
  views _ _ _ _ hl h := step_views hl h

/-- The forgotten records after a run that revives none. -/
theorem forgets_run (hcreated : serialize header { revision := 0, records := [] } = .ok document)
    (hquiet : (memory_system header).Along (fun w l => revives w l = false)
      { disk := document } calls)
    (hrun : (memory_system header).run { disk := document } calls = .ok w) :
    ∃ cur, Current header w cur ∧ Forgets w cur := by
  have hstep : ∀ w l w', (∃ cur, Current header w cur ∧ Forgets w cur) → revives w l = false →
      (memory_system header).step w l = .ok w' → ∃ cur, Current header w' cur ∧ Forgets w' cur := by
    rintro w l w' ⟨cur, hw, hforgets⟩ hl h
    by_cases hreplace : l = .replace
    · subst hreplace
      exact forgets_replace hw hforgets h
    · exact ⟨cur, current_step hw hreplace h, forgets_step hforgets hreplace hl h⟩
  have hstart : Forgets { disk := document } { revision := 0, records := [] } :=
    { inactive := by simp, quiet := fun _ _ h => by cases h }
  exact System.run_invariant_along hstep ⟨_, current_start hcreated, hstart⟩ hquiet hrun

end Runs

/-- **Every run of a memory store is safe**, and as long as no mutation of the
    store itself revives a forgotten record, no snapshot of the preferences
    returns one. -/
theorem memory_store_safe (header : MemoryHeader) (newest_first : MemoryRecord → MemoryRecord → Bool)
    (document : JsonDict) (calls : List MemoryCall) (w : MemoryWorld)
    (hcreated : serialize header { revision := 0, records := [] } = .ok document)
    (hrun : (memory_system header).run { disk := document } calls = .ok w) :
    MemorySafe header w ∧
    ((memory_system header).Along (fun w l => revives w l = false) { disk := document } calls →
      ∃ records, preference_snapshot newest_first header w.disk = .ok records ∧
        ∀ r ∈ records, record_key r ∉ w.forgotten) := by
  refine ⟨?_, fun hquiet => ?_⟩
  · obtain ⟨cur, hw⟩ := current_run hcreated hrun
    exact hw.safe
  · obtain ⟨cur, hw, hforgets⟩ := forgets_run hcreated hquiet hrun
    refine ⟨(cur.records.mergeSort newest_first).filter is_active, ?_, ?_⟩
    · simp only [preference_snapshot, bind_eq_ok]
      exact ⟨cur, hw.read, rfl⟩
    · intro r hr hforgotten
      obtain ⟨hmem, hactive⟩ := List.mem_filter.mp hr
      -- the record is found under its key, and what is forgotten there is inactive
      have hfound : cur.get (record_key r) = some r :=
        KeyedStore.find_of_mem hw.sound.ordered (List.mem_mergeSort.mp hmem)
      have hinactive := hforgets.inactive _ hforgotten r hfound
      rw [hactive] at hinactive
      cases hinactive

/-! ### A mutation that is not stopped -/

/-- The calls of a mutation up to its replacement. -/
def commit_calls (client : Nat) (operation : MemoryOperation) : List MemoryCall :=
  [.lock client operation, .decide, .open_temp, .write_temp, .replace]

/-- A mutation on the committed records that is not stopped is committed. -/
theorem commit_run {header : MemoryHeader} {w : MemoryWorld} {cur updated : MemoryView}
    {client : Nat} {c : MemoryClient} {operation : MemoryOperation} {document : JsonDict}
    (hw : Current header w cur) (hfree : w.holder = none) (hc : w.clients client = some c)
    (hview : c.view = cur)
    (hpending : ∀ call operation', c.pending = some (call, operation') → operation' = operation)
    (hstep : (memory_machine header).step cur operation = .ok updated)
    (htext : serialize header updated = .ok document) :
    (memory_system header).run w (commit_calls client operation) =
      .ok (committed w client c operation updated document) := by
  simp only [memory_machine, bind_eq_ok] at hstep
  obtain ⟨_, hasked, happly⟩ := hstep
  -- the cached view is the committed one, so the revisions agree
  have hdecide : decide_commit header w.disk c.view operation = .ok (updated, document) := by
    simp only [decide_commit, bind_eq_ok, expect_eq_ok, refuse_eq_ok, not_not]
    rw [hview]
    exact ⟨updated, happly, cur.revision, disk_revision hw.disk, (), rfl, document, htext, rfl⟩
  -- a preference call that is pending asks for this mutation
  have hcall : ¬ c.pending.any (·.2 ≠ operation) = true := by
    cases hcase : c.pending with
    | none => simp
    | some entry => simp [hpending entry.1 entry.2 hcase]
  have hlock : (memory_system header).step w (.lock client operation) =
      .ok { w with holder := some { client, operation, stage := .locked } } := by
    show memory_step header w (.lock client operation) = _
    simp only [memory_step, bind_eq_ok, expect_eq_ok, refuse_eq_ok, hfree]
    exact ⟨c, hc, (), hcall, (), hasked, (), by simp, trivial⟩
  have hdecided : (memory_system header).step
      { w with holder := some { client, operation, stage := .locked } } .decide =
      .ok { w with holder := some { client, operation, stage := .decided updated document } } := by
    show memory_step header _ .decide = _
    simp only [memory_step, bind_eq_ok, expect_eq_ok]
    refine ⟨_, rfl, c, hc, ?_⟩
    simp only [hdecide]
  have hreplace : (memory_system header).step { w with
      temp := some (some document)
      holder := some { client, operation, stage := .written updated document } } .replace =
      .ok (committed w client c operation updated document) := by
    show memory_step header _ .replace = _
    simp only [memory_step, bind_eq_ok, expect_eq_ok]
    exact ⟨_, rfl, c, hc, rfl⟩
  refine System.run_cons.mpr ⟨_, hlock, System.run_cons.mpr ⟨_, hdecided, ?_⟩⟩
  refine System.run_cons.mpr ⟨_, rfl, System.run_cons.mpr ⟨_, rfl, ?_⟩⟩
  exact System.run_cons.mpr ⟨_, hreplace, System.run_nil.mpr rfl⟩

/-- An instance at rest with the committed records cached. -/
structure AtRest (header : MemoryHeader) (client : Nat) (w : MemoryWorld) (cur : MemoryView) :
    Prop where
  current : Current header w cur
  free : w.holder = none
  client_view : w.clients client = some { view := cur }

section Uninterrupted

variable {header : MemoryHeader} {w : MemoryWorld} {cur updated : MemoryView} {client : Nat}
  {operation : MemoryOperation} {call : PreferenceCall} {existing : MemoryRecord}
  {document : JsonDict}

/-- A mutation of an instance with the committed records cached returns. -/
theorem return_run {c : MemoryClient} (hw : Current header w cur) (hfree : w.holder = none)
    (hc : w.clients client = some c) (hview : c.view = cur)
    (hpending : ∀ call operation', c.pending = some (call, operation') → operation' = operation)
    (hstep : (memory_machine header).step cur operation = .ok updated)
    (htext : serialize header updated = .ok document) :
    ∃ w', (memory_system header).run w (commit_calls client operation ++ [.finish]) = .ok w' ∧
      AtRest header client w' updated ∧
      w'.forgotten = forgets c.pending operation ++ w.forgotten := by
  have hcommit := commit_run hw hfree hc hview hpending hstep htext
  have hasked : operation.check_content = .ok () := by
    simp only [memory_machine, bind_eq_ok] at hstep
    exact hstep.choose_spec.1
  have hcommitted := committed_current hw hc hasked hpending hstep htext
  have hfinish : (memory_system header).step (committed w client c operation updated document)
      .finish = .ok { committed w client c operation updated document with
        clients := set_client w.clients client (some { view := updated })
        holder := none } := rfl
  refine ⟨_, System.run_append.mpr ⟨_, hcommit, System.run_cons.mpr
    ⟨_, hfinish, System.run_nil.mpr rfl⟩⟩, ?_, rfl⟩
  exact { current := finish_current hcommitted hfinish, free := rfl, client_view := set_client_self }

/-- An instance at rest commits a mutation of the store itself. -/
theorem mutation_run (hw : AtRest header client w cur)
    (hstep : (memory_machine header).step cur operation = .ok updated)
    (htext : serialize header updated = .ok document) :
    ∃ w', (memory_system header).run w (commit_calls client operation ++ [.finish]) = .ok w' ∧
      AtRest header client w' updated ∧ w'.forgotten = forgets none operation ++ w.forgotten :=
  return_run hw.current hw.free hw.client_view rfl (fun _ _ heq => by cases heq) hstep htext

/-- An instance at rest commits the update of a preference it finds. -/
theorem preference_run (hw : AtRest header client w cur)
    (hfound : find_preference cur call.preference_id = .ok existing)
    (hstep : (memory_machine header).step cur (call.operation existing) = .ok updated)
    (htext : serialize header updated = .ok document) :
    ∃ w', (memory_system header).run w
        (.look client call :: (commit_calls client (call.operation existing) ++ [.finish])) = .ok w' ∧
      AtRest header client w' updated ∧
      w'.forgotten = forgets (some (call, call.operation existing)) (call.operation existing) ++
        w.forgotten := by
  have hlook : (memory_system header).step w (.look client call) = .ok { w with
      clients := set_client w.clients client
        (some { view := cur, pending := some (call, call.operation existing) }) } := by
    show memory_step header w (.look client call) = _
    simp only [memory_step, bind_eq_ok, expect_eq_ok, refuse_eq_ok, hw.free]
    refine ⟨(), by simp, _, hw.client_view, (), by simp, cur, hw.current.read, ?_⟩
    simp only [hfound]
  obtain ⟨w', hrun, hrest, hforgotten⟩ := return_run (look_current hw.current hlook) hw.free
    set_client_self rfl
    (fun _ _ heq => (Prod.mk.inj (Option.some.inj heq)).2.symm) hstep htext
  exact ⟨w', System.run_cons.mpr ⟨_, hlook, hrun⟩, hrest, hforgotten⟩

/-- The first instance of a new store is at rest. -/
theorem load_run (hcreated : serialize header { revision := 0, records := [] } = .ok document) :
    ∃ w, (memory_system header).run { disk := document } [.load client] = .ok w ∧
      AtRest header client w { revision := 0, records := [] } ∧ w.forgotten = [] := by
  have hstart := current_start hcreated
  have hload : (memory_system header).step { disk := document } (.load client) = .ok {
      disk := document
      clients := set_client (fun _ => none) client
        (some { view := { revision := 0, records := [] } }) } := by
    show memory_step header _ (.load client) = _
    simp only [memory_step, bind_eq_ok, refuse_eq_ok]
    exact ⟨(), by simp, (), by simp, _, hstart.read, rfl⟩
  refine ⟨_, System.run_cons.mpr ⟨_, hload, System.run_nil.mpr rfl⟩, ?_, rfl⟩
  exact { current := load_current hstart hload, free := rfl, client_view := by simp }

end Uninterrupted

/-! ### A forgotten preference that returns -/

def owner_profile : ProviderTrustProfile :=
  ⟨{ profile_id := "p", provider_family := "owner_preferences", destination := "local-owner-store" },
    rfl⟩

def owner_header : MemoryHeader := { workspace_scope_digest := "owner", profile := owner_profile }

/-- The preference under test, at a revision and with an origin. -/
def tabs_record (revision : Nat) (origin : String) : MemoryRecordFields := {
  record_id := "r"
  workspace_scope_digest := "owner"
  content := "tabs"
  content_digest := content_digest "tabs"
  created_at := "1.0"
  updated_at := toString revision ++ ".0"
  revision
  source_fact_id := some "fact"
  origin := some origin
  admission_binding_digest := some "admission" }

def confirmed : MemoryRecord := ⟨tabs_record 1 ACTIVE_ORIGIN, rfl⟩

def disabled : MemoryRecord := ⟨tabs_record 2 FORGOTTEN_ORIGIN, rfl⟩

def revived : MemoryRecord := ⟨tabs_record 3 ACTIVE_ORIGIN, rfl⟩

def confirmation : MemoryOperation := confirm "r" "tabs" "fact" "admission" "1.0"

def disabling : MemoryOperation := (PreferenceCall.forget "r" "2.0").operation confirmed

def revival : MemoryOperation :=
  .update "r" "tabs" 2 (content_digest "tabs") none (some ACTIVE_ORIGIN) none "3.0"

def owner_view (revision : Int) (records : List MemoryRecord) : MemoryView := { revision, records }

def owner_document (v : MemoryView) : JsonDict := memory_document owner_header v

/-- A short document is written. -/
theorem owner_text {v : MemoryView}
    (hfits : String.utf8Len (Json.dict (owner_document v)).text_chars ≤ MAX_STORE_BYTES) :
    serialize owner_header v = .ok (owner_document v) := by
  refine bind_eq_ok.mpr ⟨(), refuse_eq_ok.mpr ?_, rfl⟩
  rw [Json.text, String.utf8ByteSize_ofList]
  exact Nat.not_lt.mpr hfits

/-- The calls of a mutation revive nothing when its lock does not. -/
theorem commit_quiet {header : MemoryHeader} {w : MemoryWorld} {client : Nat}
    {operation : MemoryOperation} (h : revives w (.lock client operation) = false) :
    (memory_system header).Along (fun w l => revives w l = false) w
      (commit_calls client operation ++ [.finish]) := by
  refine ⟨h, fun _ _ => System.along_of_always ?_⟩
  intro l hl w'
  have hlabel : l = .decide ∨ l = .open_temp ∨ l = .write_temp ∨ l = .replace ∨ l = .finish := by
    simpa using hl
  rcases hlabel with rfl | rfl | rfl | rfl | rfl
  all_goals rfl

/-- The calls that confirm a preference and forget it. -/
def forgetting_calls : List MemoryCall :=
  [.load 0] ++ ((commit_calls 0 confirmation ++ [.finish]) ++
    .look 0 (.forget "r" "2.0") :: (commit_calls 0 disabling ++ [.finish]))

theorem forgotten_run : ∃ w, (memory_system owner_header).run
      { disk := owner_document (owner_view 0 []) } forgetting_calls = .ok w ∧
    (memory_system owner_header).Along (fun w l => revives w l = false)
      { disk := owner_document (owner_view 0 []) } forgetting_calls ∧
    AtRest owner_header 0 w (owner_view 2 [disabled]) ∧ w.forgotten = ["r"] := by
  have hempty : serialize owner_header (owner_view 0 []) = .ok (owner_document (owner_view 0 [])) :=
    owner_text (by decide +kernel)
  obtain ⟨w₁, hload, hrest₁, hforgotten₁⟩ := @load_run owner_header 0 _ hempty
  have hconfirm : (memory_machine owner_header).step (owner_view 0 []) confirmation =
      .ok (owner_view 1 [confirmed]) := by
    decide +kernel
  obtain ⟨w₂, hrun₂, hrest₂, hforgotten₂⟩ :=
    mutation_run hrest₁ hconfirm (owner_text (by decide +kernel))
  have hdisable : (memory_machine owner_header).step (owner_view 1 [confirmed]) disabling =
      .ok (owner_view 2 [disabled]) := by
    decide +kernel
  have hfound : find_preference (owner_view 1 [confirmed])
      (PreferenceCall.forget "r" "2.0").preference_id = .ok confirmed := by
    decide +kernel
  obtain ⟨w₃, hrun₃, hrest₃, hforgotten₃⟩ :=
    preference_run hrest₂ hfound hdisable (owner_text (by decide +kernel))
  refine ⟨w₃, ?_, ?_, hrest₃, ?_⟩
  · exact System.run_append.mpr ⟨w₁, hload, System.run_append.mpr ⟨w₂, hrun₂, hrun₃⟩⟩
  · -- nothing is forgotten yet when the preference is confirmed
    have hconfirming : revives w₁ (.lock 0 confirmation) = false := by
      simp [revives, confirmation, confirm, MemoryOperation.revives, hforgotten₁]
    -- an inactive origin revives nothing
    have hdisabling : ∀ w, revives w (.lock 0 disabling) = false := by
      intro w
      have hinactive : (some FORGOTTEN_ORIGIN).any is_active_origin = false := by
        decide
      simp [revives, disabling, PreferenceCall.operation, MemoryOperation.revives, hinactive]
    refine System.Along.append (System.along_of_always ?_) hload
      (System.Along.append (commit_quiet hconfirming) hrun₂
        ⟨rfl, fun w _ => commit_quiet (hdisabling w)⟩)
    intro l hl w
    obtain rfl := List.mem_singleton.mp hl
    rfl
  · rw [hforgotten₃, hforgotten₂, hforgotten₁]
    rfl

/-- An update of the store itself that is stopped after its replacement changes
    the document, and gives a forgotten preference back to the snapshots. -/
theorem stopped_update_revives :
    ∃ w w' records,
      (memory_system owner_header).run { disk := owner_document (owner_view 0 []) }
        forgetting_calls = .ok w ∧
      w.holder = none ∧ w.forgotten = ["r"] ∧
      (memory_system owner_header).run w (commit_calls 0 revival ++ [.stop 0]) = .ok w' ∧
      w'.disk ≠ w.disk ∧
      preference_snapshot (fun _ _ => true) owner_header w'.disk = .ok records ∧
      ∃ r ∈ records, record_key r = "r" := by
  obtain ⟨w, hrun, _, hrest, hforgotten⟩ := forgotten_run
  have hrevive : (memory_machine owner_header).step (owner_view 2 [disabled]) revival =
      .ok (owner_view 3 [revived]) := by
    decide +kernel
  have htext : serialize owner_header (owner_view 3 [revived]) =
      .ok (owner_document (owner_view 3 [revived])) :=
    owner_text (by decide +kernel)
  have hcommit := commit_run hrest.current hrest.free hrest.client_view rfl
    (fun _ _ heq => by cases heq) hrevive htext
  have hasked : revival.check_content = .ok () := by
    decide +kernel
  have hcurrent := committed_current hrest.current hrest.client_view hasked
    (fun _ _ heq => by cases heq) hrevive htext
  refine ⟨w, _, [revived], hrun, hrest.free, hforgotten, System.run_append.mpr ⟨_, hcommit,
    System.run_cons.mpr ⟨_, rfl, System.run_nil.mpr rfl⟩⟩, ?_, ?_, ?_⟩
  · -- the document has another revision
    intro heq
    have hafter := disk_revision hcurrent.disk
    have hbefore := disk_revision hrest.current.disk
    rw [← show _ = w.disk from heq] at hbefore
    exact absurd (hafter.symm.trans hbefore) (by decide)
  · have hsorted : (owner_view 3 [revived]).records.mergeSort (fun _ _ => true) = [revived] :=
      List.mergeSort_singleton _
    simp only [preference_snapshot, bind_eq_ok]
    refine ⟨_, hcurrent.read, ?_⟩
    rw [hsorted]
    rfl
  · exact ⟨revived, List.mem_singleton_self _, rfl⟩

/-- A preference that is confirmed and forgotten is out of the snapshots. -/
theorem forgotten_store_safe :
    ∃ w, w.forgotten = ["r"] ∧ MemorySafe owner_header w ∧
      ∃ records, preference_snapshot (fun _ _ => true) owner_header w.disk = .ok records ∧
        ∀ r ∈ records, record_key r ∉ w.forgotten := by
  obtain ⟨w, hrun, hquiet, _, hforgotten⟩ := forgotten_run
  obtain ⟨hsafe, hforgets⟩ := memory_store_safe owner_header (fun _ _ => true)
    (owner_document (owner_view 0 [])) _ w (owner_text (by decide +kernel)) hrun
  exact ⟨w, hforgotten, hsafe, hforgets hquiet⟩
