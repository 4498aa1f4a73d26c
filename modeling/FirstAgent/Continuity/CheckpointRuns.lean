import FirstAgent.Continuity.Checkpoint

/-! # Runs of the Checkpoint Store

    Over every interleaving of the processes, every error and every hard stop, the
    file is what the changes noted so far make of it one after the other, each in
    one piece: the store refines the atomic one.  At most one process has the
    lease, also while locks are swept.

    * **`StoreHolds`**: the invariant, with what each stage knows of the file.
    * **`StoreHolds.quiet`**: a step that leaves the file alone.
    * **`store_safe`**: what holds in every state a run reaches. -/

open Fallible

/-! ### The invariant -/

/-- A text that is not written to its end. -/
def Torn (codec : CheckpointCodec) (written : List Nat) : Prop :=
  ∃ state rest, rest ≠ [] ∧ codec.encode state = written ++ rest

/-- The file has the content of the atomic store; it may be torn before its creation
    is noted. -/
def Shows (codec : CheckpointCodec) (checkpoint : Option (Nat × List Nat)) :
    Option (List Nat) → Prop
  | some data => ∃ inode, checkpoint = some (inode, data)
  | none      => ∀ file, checkpoint = some file → Torn codec file.2

/-- A change that applies to the file as it is. -/
def Planned (codec : CheckpointCodec) (max_state_bytes : Nat) (w : CheckpointWorld)
    (event : StoreEvent) : Prop :=
  ∃ file content, w.checkpoint = some file ∧
    atomic_step codec max_state_bytes (some file.2) event = .ok content

/-- What a process at a stage knows of the file. -/
def StoreStageHolds (codec : CheckpointCodec) (max_state_bytes : Nat) (w : CheckpointWorld) :
    StoreStage → Prop
  | .swapping snapshot new_state data             =>
    Planned codec max_state_bytes w (.swapped snapshot new_state) ∧ data = codec.encode new_state
  | .writing snapshot new_state _ written view    =>
    Planned codec max_state_bytes w (.swapped snapshot new_state) ∧
      written ++ view = codec.encode new_state
  | .synced snapshot new_state _ data             =>
    Planned codec max_state_bytes w (.swapped snapshot new_state) ∧ data = codec.encode new_state
  | .replaced new_state data                      =>
    (∃ snapshot, .swapped snapshot new_state ∈ w.log) ∧ data = codec.encode new_state
  | .retiring snapshot archive                    =>
    Planned codec max_state_bytes w (.retired snapshot archive)
  | .creating state inode view                    =>
    view ≠ [] → (codec.encode state).length ≤ max_state_bytes ∧
      (atomic_store codec max_state_bytes).run none w.log = .ok none ∧
      ∃ written, w.checkpoint = some (inode, written) ∧ codec.encode state = written ++ view
  | _                                             => True

/-- The lock of a process at a stage. -/
def PhaseFits (phase : LockPhase) : StoreStage → Prop
  | .idle           => phase = .closed
  | .creating _ _ _ => phase = .closed
  | .acquiring _    => True
  | .sweeping       => True
  | _               => ∃ inode, phase = .held inode

/-- `initialize` is not done with its file. -/
def StoreStage.is_creating : StoreStage → Bool
  | .creating _ _ view => view ≠ []
  | _                  => false

/-- A snapshot that `compare_and_swap` returns is one it has written. -/
def LoadAnswered (codec : CheckpointCodec) (log : List StoreEvent)
    (snap : LoadedSnapshot ConversationState) : Prop :=
  (∃ snapshot, .swapped snapshot snap.state ∈ log) ∧ snap.token = data_token (codec.encode snap.state)

structure StoreHolds (codec : CheckpointCodec) (max_state_bytes : Nat) (w : CheckpointWorld) :
    Prop where
  lock : w.lock.Sound
  fits : ∀ p, PhaseFits (w.lock.phase p) (w.stage p)
  stages : ∀ p, StoreStageHolds codec max_state_bytes w (w.stage p)
  creator : ∀ p q, (w.stage p).is_creating = true → (w.stage q).is_creating = true → p = q
  published : ∃ content, (atomic_store codec max_state_bytes).run none w.log = .ok content ∧
    Shows codec w.checkpoint content
  answered : ∀ p snap, w.outcome p = some (.ok snap) → LoadAnswered codec w.log snap

section invariant

variable {codec : CheckpointCodec} {max_state_bytes : Nat} {w w' : CheckpointWorld} {p q : Nat}
  {event : StoreEvent} {stage : StoreStage}

/-- A torn text is not decoded. -/
theorem torn_not_decoded {written : List Nat} {state : ConversationState}
    (h : codec.decode written = .ok state) : ¬ Torn codec written := by
  rintro ⟨whole, rest, hrest, htext⟩
  obtain ⟨e, he⟩ := codec.torn whole written rest htext hrest
  rw [he] at h
  cases h

/-- A change that applies to a text has decoded it. -/
theorem atomic_step_decodes {data : List Nat} {content : Option (List Nat)}
    (h : atomic_step codec max_state_bytes (some data) event = .ok content) : ¬ Torn codec data := by
  cases event with
  | created state => cases h
  | swapped snapshot state =>
    simp only [atomic_step, check_swap, bind_eq_ok] at h
    obtain ⟨_, ⟨_, hdecode, _⟩, _⟩ := h
    exact torn_not_decoded hdecode
  | retired snapshot archive =>
    simp only [atomic_step, check_retire, bind_eq_ok] at h
    obtain ⟨_, ⟨_, hdecode, _⟩, _⟩ := h
    exact torn_not_decoded hdecode

/-- The file a change applies to is the content of the atomic store. -/
theorem StoreHolds.content (hw : StoreHolds codec max_state_bytes w)
    (hplanned : Planned codec max_state_bytes w event) :
    ∃ file content, w.checkpoint = some file ∧
      (atomic_store codec max_state_bytes).run none w.log = .ok (some file.2) ∧
      atomic_step codec max_state_bytes (some file.2) event = .ok content := by
  obtain ⟨file, content, hfile, hstep⟩ := hplanned
  obtain ⟨shown, hrun, hshows⟩ := hw.published
  cases shown with
  | none => exact absurd (hshows file hfile) (atomic_step_decodes hstep)
  | some data =>
    obtain ⟨inode, hsame⟩ := hshows
    rw [hfile] at hsame
    cases hsame
    exact ⟨_, content, hfile, hrun, hstep⟩

/-- A creation that is going on leaves no change that applies. -/
theorem StoreHolds.not_creating (hw : StoreHolds codec max_state_bytes w)
    (hplanned : Planned codec max_state_bytes w event) {state : ConversationState} {inode : Nat}
    {view : List Nat} (hstage : w.stage q = .creating state inode view) : view = [] := by
  by_contra hview
  have hstages := hw.stages q
  rw [hstage] at hstages
  obtain ⟨-, -, written, hwritten, htext⟩ := hstages hview
  obtain ⟨file, content, hfile, -, hstep⟩ := hw.content hplanned
  rw [hfile] at hwritten
  cases hwritten
  exact atomic_step_decodes hstep ⟨state, view, hview, htext⟩

/-- A process with the lease holds the lock. -/
theorem StoreHolds.held (hw : StoreHolds codec max_state_bytes w) (h : w.has_lease p = true) :
    ∃ inode, w.lock.phase p = .held inode := by
  have hfits := hw.fits p
  unfold CheckpointWorld.has_lease at h
  cases hstage : w.stage p <;> rw [hstage] at h hfits <;> first | exact hfits | cases h

/-- At most one process has the lease. -/
theorem StoreHolds.exclusive (hw : StoreHolds codec max_state_bytes w)
    (hp : w.has_lease p = true) (hq : w.has_lease q = true) : p = q := by
  obtain ⟨i, hi⟩ := hw.held hp
  obtain ⟨j, hj⟩ := hw.held hq
  exact hw.lock.exclusive hi hj

/-! ### Steps that leave the file alone -/

/-- What a stage knows is about the file and the log. -/
theorem StoreStageHolds.same (hcheckpoint : w'.checkpoint = w.checkpoint)
    (hlog : w'.log = w.log) (h : StoreStageHolds codec max_state_bytes w stage) :
    StoreStageHolds codec max_state_bytes w' stage := by
  have hplan : ∀ e, Planned codec max_state_bytes w e → Planned codec max_state_bytes w' e := by
    rintro e ⟨file, content, hfile, hstep⟩
    exact ⟨file, content, hcheckpoint.trans hfile, hstep⟩
  cases stage with
  | swapping => exact ⟨hplan _ h.1, h.2⟩
  | writing => exact ⟨hplan _ h.1, h.2⟩
  | synced => exact ⟨hplan _ h.1, h.2⟩
  | replaced =>
    obtain ⟨⟨snapshot, hmem⟩, hdata⟩ := h
    exact ⟨⟨snapshot, hlog ▸ hmem⟩, hdata⟩
  | retiring => exact hplan _ h
  | creating state inode view =>
    intro hview
    obtain ⟨hfits, hrun, written, hwritten, htext⟩ := h hview
    rw [hlog]
    exact ⟨hfits, hrun, written, hcheckpoint.trans hwritten, htext⟩
  | idle => trivial
  | acquiring => trivial
  | leased => trivial
  | sweeping => trivial

/-- A step of one process that changes neither the file nor the log. -/
theorem StoreHolds.quiet (hw : StoreHolds codec max_state_bytes w) (p : Nat)
    (hcheckpoint : w'.checkpoint = w.checkpoint) (hlog : w'.log = w.log) (hsound : w'.lock.Sound)
    (hstage : ∀ q, q ≠ p → w'.stage q = w.stage q)
    (hphase : ∀ q, q ≠ p → w'.lock.phase q = w.lock.phase q)
    (hfits : PhaseFits (w'.lock.phase p) (w'.stage p))
    (hmine : StoreStageHolds codec max_state_bytes w (w'.stage p))
    (hcreating : (w'.stage p).is_creating = true → (w.stage p).is_creating = true)
    (hanswer : ∀ q snap, w'.outcome q = some (.ok snap) →
      w.outcome q = some (.ok snap) ∨ LoadAnswered codec w.log snap) :
    StoreHolds codec max_state_bytes w' := by
  refine { lock := hsound, fits := ?_, stages := ?_, creator := ?_, published := ?_, answered := ?_ }
  · intro q
    by_cases hq : q = p
    · rw [hq]
      exact hfits
    · rw [hphase q hq, hstage q hq]
      exact hw.fits q
  · intro q
    refine StoreStageHolds.same hcheckpoint hlog ?_
    by_cases hq : q = p
    · rw [hq]
      exact hmine
    · rw [hstage q hq]
      exact hw.stages q
  · have hold : ∀ q, (w'.stage q).is_creating = true → (w.stage q).is_creating = true := by
      intro q hq
      by_cases hqp : q = p
      · rw [hqp] at hq ⊢
        exact hcreating hq
      · rw [hstage q hqp] at hq
        exact hq
    exact fun q r hq hr => hw.creator q r (hold q hq) (hold r hr)
  · rw [hlog, hcheckpoint]
    exact hw.published
  · intro q snap hout
    rw [hlog]
    rcases hanswer q snap hout with hold | hnew
    · exact hw.answered q snap hold
    · exact hnew

/-- The process goes to a stage that fits its lock and knows the file as well. -/
theorem StoreHolds.advance (hw : StoreHolds codec max_state_bytes w) (stage : StoreStage)
    (hfits : PhaseFits (w.lock.phase p) stage) (hmine : StoreStageHolds codec max_state_bytes w stage)
    (hnew : stage.is_creating = false) : StoreHolds codec max_state_bytes (w.advance p stage) := by
  have hself : (w.advance p stage).stage p = stage := Function.update_self ..
  refine hw.quiet p rfl rfl hw.lock (fun q hq => Function.update_of_ne hq ..) (fun q hq => rfl)
    ?_ ?_ ?_ fun q snap hout => .inl hout
  · rw [hself]
    exact hfits
  · rw [hself]
    exact hmine
  · rw [hself, hnew]
    exact fun h => Bool.noConfusion h

/-- An error is no snapshot. -/
theorem error_answers (e : CheckpointError) {log : List StoreEvent} :
    ∀ snap, (.error e : StoreResult (LoadedSnapshot ConversationState)) = .ok snap →
      LoadAnswered codec log snap := by
  intro snap heq
  cases heq

/-- A process is given a result. -/
theorem StoreHolds.record (hw : StoreHolds codec max_state_bytes w)
    {result : StoreResult (LoadedSnapshot ConversationState)}
    (hresult : ∀ snap, result = .ok snap → LoadAnswered codec w.log snap) :
    StoreHolds codec max_state_bytes
      { w with outcome := Function.update w.outcome p (some result) } := by
  refine { hw with stages := ?_, answered := ?_ }
  · intro q
    exact StoreStageHolds.same rfl rfl (hw.stages q)
  · intro q snap hout
    have hout : Function.update w.outcome p (some result) q = some (.ok snap) := hout
    by_cases hq : q = p
    · rw [hq, Function.update_self] at hout
      exact hresult snap (Option.some.inj hout)
    · rw [Function.update_of_ne hq] at hout
      exact hw.answered q snap hout

/-- The call of a process ends with a result. -/
theorem StoreHolds.answer (hw : StoreHolds codec max_state_bytes w) (stage : StoreStage)
    {result : StoreResult (LoadedSnapshot ConversationState)}
    (hfits : PhaseFits (w.lock.phase p) stage) (hmine : StoreStageHolds codec max_state_bytes w stage)
    (hnew : stage.is_creating = false)
    (hresult : ∀ snap, result = .ok snap → LoadAnswered codec w.log snap) :
    StoreHolds codec max_state_bytes (w.answer p stage result) :=
  (hw.advance stage hfits hmine hnew).record hresult

/-- The names of the temporary files play no part. -/
theorem StoreHolds.temps (hw : StoreHolds codec max_state_bytes w) (temps : List String) :
    StoreHolds codec max_state_bytes { w with temps } := by
  refine { hw with stages := ?_ }
  intro q
  exact StoreStageHolds.same rfl rfl (hw.stages q)

/-- A step on the lock by a process at a stage without the lease. -/
theorem StoreHolds.relock (hw : StoreHolds codec max_state_bytes w) {lock : LockFile Nat}
    (hsound : lock.Sound) (hphase : ∀ q, q ≠ p → lock.phase q = w.lock.phase q)
    (hfits : PhaseFits (lock.phase p) (w.stage p)) :
    StoreHolds codec max_state_bytes { w with lock } :=
  hw.quiet p rfl rfl hsound (fun _ _ => rfl) hphase hfits (hw.stages p) (fun h => h)
    fun _ _ hout => .inl hout

/-- The process closes the lock and is idle. -/
theorem StoreHolds.close (hw : StoreHolds codec max_state_bytes w) :
    StoreHolds codec max_state_bytes { w.advance p .idle with lock := w.lock.close p } := by
  have hself : (w.advance p .idle).stage p = .idle := Function.update_self ..
  refine hw.quiet p rfl rfl hw.lock.close (fun q hq => Function.update_of_ne hq ..)
    (fun q hq => LockFile.close_other hq) ?_ ?_ ?_ fun q snap hout => .inl hout
  · show PhaseFits ((w.lock.close p).phase p) ((w.advance p .idle).stage p)
    rw [hself]
    exact LockFile.close_self
  · show StoreStageHolds codec max_state_bytes w ((w.advance p .idle).stage p)
    rw [hself]
    trivial
  · show ((w.advance p .idle).stage p).is_creating = true → _
    rw [hself]
    exact fun h => Bool.noConfusion h

/-- A process on its way to the lock, or sweeping it. -/
def StoreStage.on_the_way : StoreStage → Bool
  | .acquiring _ => true
  | .sweeping    => true
  | _            => false

/-- The process goes on with another phase of the lock, or gives up. -/
theorem StoreHolds.settle (hw : StoreHolds codec max_state_bytes w) {lock : LockFile Nat}
    (hsound : lock.Sound) (hphase : ∀ q, q ≠ p → lock.phase q = w.lock.phase q)
    (hway : (w.stage p).on_the_way = true) :
    StoreHolds codec max_state_bytes (w.settle p lock) := by
  have hany : ∀ phase, PhaseFits phase (w.stage p) := by
    intro phase
    cases hstage : w.stage p <;> rw [hstage] at hway <;> trivial
  unfold CheckpointWorld.settle
  by_cases hclosed : lock.phase p = .closed
  · rw [if_pos hclosed]
    have hself : (w.advance p .idle).stage p = .idle := Function.update_self ..
    refine hw.quiet p rfl rfl hsound (fun q hq => Function.update_of_ne hq ..) hphase ?_ ?_
      ?_ fun q snap hout => .inl hout
    · show PhaseFits (lock.phase p) ((w.advance p .idle).stage p)
      rw [hself]
      exact hclosed
    · show StoreStageHolds codec max_state_bytes w ((w.advance p .idle).stage p)
      rw [hself]
      trivial
    · show ((w.advance p .idle).stage p).is_creating = true → _
      rw [hself]
      exact fun h => Bool.noConfusion h
  · rw [if_neg hclosed]
    exact hw.relock hsound hphase (hany _)

/-! ### Steps that change the file -/

/-- A noted change makes the log of the atomic store one longer. -/
theorem run_snoc {log : List StoreEvent} {content content' : Option (List Nat)}
    (hrun : (atomic_store codec max_state_bytes).run none log = .ok content)
    (hstep : atomic_step codec max_state_bytes content event = .ok content') :
    (atomic_store codec max_state_bytes).run none (log ++ [event]) = .ok content' :=
  System.run_append.mpr ⟨content, hrun, System.run_cons.mpr ⟨content', hstep, System.run_nil.mpr rfl⟩⟩

theorem LoadAnswered.mono {log log' : List StoreEvent} {snap : LoadedSnapshot ConversationState}
    (h : LoadAnswered codec log snap) (hlog : ∀ e ∈ log, e ∈ log') : LoadAnswered codec log' snap := by
  obtain ⟨⟨snapshot, hmem⟩, htoken⟩ := h
  exact ⟨⟨snapshot, hlog _ hmem⟩, htoken⟩

/-- While a process with the lease is about to change the file, the others know nothing
    of the file. -/
theorem StoreHolds.others (hw : StoreHolds codec max_state_bytes w) (hlease : w.has_lease p = true)
    (hplanned : Planned codec max_state_bytes w event) (hq : q ≠ p) :
    StoreStageHolds codec max_state_bytes w' (w.stage q) := by
  have hnone : w.has_lease q ≠ true := fun h => hq (hw.exclusive h hlease)
  unfold CheckpointWorld.has_lease at hnone
  cases hstage : w.stage q with
  | creating state inode view =>
    intro hview
    exact absurd (hw.not_creating hplanned hstage) hview
  | idle => trivial
  | acquiring => trivial
  | leased => trivial
  | sweeping => trivial
  | swapping => exact absurd (by rw [hstage]; rfl) hnone
  | writing => exact absurd (by rw [hstage]; rfl) hnone
  | synced => exact absurd (by rw [hstage]; rfl) hnone
  | replaced => exact absurd (by rw [hstage]; rfl) hnone
  | retiring => exact absurd (by rw [hstage]; rfl) hnone

/-- The process with the lease carries out the change it has planned. -/
theorem StoreHolds.publish (hw : StoreHolds codec max_state_bytes w) (hlease : w.has_lease p = true)
    (hplanned : Planned codec max_state_bytes w event) (stage : StoreStage)
    (hstage : stage.has_lease = true) (content : Option (List Nat))
    (hstep : ∀ data content', atomic_step codec max_state_bytes (some data) event = .ok content' →
      content' = content)
    (hlock : w'.lock = w.lock) (hstages : w'.stage = Function.update w.stage p stage)
    (hlog : w'.log = w.log ++ [event]) (houtcome : w'.outcome = w.outcome)
    (hshows : Shows codec w'.checkpoint content)
    (hmine : StoreStageHolds codec max_state_bytes w' stage) : StoreHolds codec max_state_bytes w' := by
  obtain ⟨file, content', hfile, hrun, happly⟩ := hw.content hplanned
  obtain rfl := hstep _ _ happly
  have hself : w'.stage p = stage := by
    rw [hstages]
    exact Function.update_self ..
  have hother : ∀ q, q ≠ p → w'.stage q = w.stage q := by
    intro q hq
    rw [hstages]
    exact Function.update_of_ne hq ..
  have hcreating : ∀ q, (w'.stage q).is_creating = false := by
    intro q
    by_cases hq : q = p
    · rw [hq, hself]
      cases stage <;> first | rfl | cases hstage
    · rw [hother q hq]
      cases hold : w.stage q with
      | creating state inode view =>
        rw [hw.not_creating hplanned hold]
        rfl
      | _ => rfl
  refine { lock := hlock ▸ hw.lock, fits := ?_, stages := ?_, creator := ?_, published := ?_,
           answered := ?_ }
  · intro q
    rw [hlock]
    by_cases hq : q = p
    · rw [hq, hself]
      have hheld := hw.held hlease
      cases stage <;> first | exact hheld | cases hstage
    · rw [hother q hq]
      exact hw.fits q
  · intro q
    by_cases hq : q = p
    · rw [hq, hself]
      exact hmine
    · rw [hother q hq]
      exact hw.others hlease hplanned hq
  · intro q r hq
    rw [hcreating q] at hq
    cases hq
  · rw [hlog]
    exact ⟨_, run_snoc hrun happly, hshows⟩
  · intro q snap hout
    rw [houtcome] at hout
    rw [hlog]
    exact (hw.answered q snap hout).mono fun e he => List.mem_append_left _ he

/-- What an applied exchange leaves. -/
theorem atomic_swapped {data : List Nat} {content : Option (List Nat)}
    {snapshot : LoadedSnapshot ConversationState} {new_state : ConversationState}
    (h : atomic_step codec max_state_bytes (some data) (.swapped snapshot new_state) = .ok content) :
    content = some (codec.encode new_state) := by
  simp only [atomic_step, check_swap, bind_eq_ok, ok_eq_ok] at h
  obtain ⟨_, ⟨_, _, _, _, _, _, _, _, _, _, rfl⟩, rfl⟩ := h
  rfl

theorem atomic_retired {data : List Nat} {content : Option (List Nat)}
    {snapshot : LoadedSnapshot ConversationState} {archive : ArchivedConversation}
    (h : atomic_step codec max_state_bytes (some data) (.retired snapshot archive) = .ok content) :
    content = none := by
  simp only [atomic_step, bind_eq_ok, ok_eq_ok] at h
  obtain ⟨_, _, rfl⟩ := h
  rfl

/-- Without a file no stage knows anything of it. -/
theorem StoreHolds.missing (hw : StoreHolds codec max_state_bytes w) (hnone : w.checkpoint = none)
    (hlog : ∀ e ∈ w.log, e ∈ w'.log) (q : Nat) : StoreStageHolds codec max_state_bytes w' (w.stage q) := by
  have hplan : ∀ e, ¬ Planned codec max_state_bytes w e := by
    rintro e ⟨file, _, hfile, _⟩
    rw [hnone] at hfile
    cases hfile
  have hknown := hw.stages q
  cases hstage : w.stage q with
  | creating state inode view =>
    rw [hstage] at hknown
    intro hview
    obtain ⟨-, -, written, hwritten, -⟩ := hknown hview
    rw [hnone] at hwritten
    cases hwritten
  | replaced new_state data =>
    rw [hstage] at hknown
    obtain ⟨⟨snapshot, hmem⟩, hdata⟩ := hknown
    exact ⟨⟨snapshot, hlog _ hmem⟩, hdata⟩
  | swapping =>
    rw [hstage] at hknown
    exact absurd hknown.1 (hplan _)
  | writing =>
    rw [hstage] at hknown
    exact absurd hknown.1 (hplan _)
  | synced =>
    rw [hstage] at hknown
    exact absurd hknown.1 (hplan _)
  | retiring =>
    rw [hstage] at hknown
    exact absurd hknown (hplan _)
  | idle => trivial
  | acquiring => trivial
  | leased => trivial
  | sweeping => trivial

/-- Without a file no process is at its creation. -/
theorem StoreHolds.no_creator (hw : StoreHolds codec max_state_bytes w)
    (hnone : w.checkpoint = none) (q : Nat) : (w.stage q).is_creating = false := by
  have hknown := hw.stages q
  cases hstage : w.stage q with
  | creating state inode view =>
    rw [hstage] at hknown
    by_contra hcreating
    have hview : view ≠ [] := by simpa [StoreStage.is_creating] using hcreating
    obtain ⟨-, -, written, hwritten, -⟩ := hknown hview
    rw [hnone] at hwritten
    cases hwritten
  | _ => rfl

/-- The stored text of an atomic creation. -/
theorem atomic_created {state : ConversationState}
    (h : (codec.encode state).length ≤ max_state_bytes) :
    atomic_step codec max_state_bytes none (.created state) = .ok (some (codec.encode state)) := by
  simp only [atomic_step]
  rw [if_neg (by omega)]

/-- A file that is written on by `initialize`, from the open on. -/
theorem StoreHolds.grow (hw : StoreHolds codec max_state_bytes w) (written : List Nat)
    {state : ConversationState} {inode : Nat} {view : List Nat}
    (hrun : (atomic_store codec max_state_bytes).run none w.log = .ok none)
    (hfits : (codec.encode state).length ≤ max_state_bytes)
    (htext : codec.encode state = written ++ view) (hclosed : w.lock.phase p = .closed)
    (hothers : ∀ q, q ≠ p → ∀ w'', (∀ e ∈ w.log, e ∈ w''.log) →
      StoreStageHolds codec max_state_bytes w'' (w.stage q))
    (hsingle : ∀ q, q ≠ p → (w.stage q).is_creating = false)
    (hlock : w'.lock = w.lock)
    (hstages : w'.stage = Function.update w.stage p (.creating state inode view))
    (hfile : w'.checkpoint = some (inode, written))
    (hlog : w'.log = CheckpointWorld.note_created w.log state view)
    (houtcome : w'.outcome = w.outcome) : StoreHolds codec max_state_bytes w' := by
  have hself : w'.stage p = .creating state inode view := by
    rw [hstages]
    exact Function.update_self ..
  have hother : ∀ q, q ≠ p → w'.stage q = w.stage q := by
    intro q hq
    rw [hstages]
    exact Function.update_of_ne hq ..
  -- the creation is noted once its last byte is in the file
  have hgrows : ∀ e ∈ w.log, e ∈ w'.log := by
    intro e he
    rw [hlog]
    unfold CheckpointWorld.note_created
    split
    · exact List.mem_append_left _ he
    · exact he
  refine { lock := hlock ▸ hw.lock, fits := ?_, stages := ?_, creator := ?_, published := ?_,
           answered := ?_ }
  · intro q
    rw [hlock]
    by_cases hq : q = p
    · rw [hq, hself]
      exact hclosed
    · rw [hother q hq]
      exact hw.fits q
  · intro q
    by_cases hq : q = p
    · rw [hq, hself]
      intro hview
      have hsame : w'.log = w.log := by
        rw [hlog]
        exact if_neg hview
      rw [hsame]
      exact ⟨hfits, hrun, written, hfile, htext⟩
    · rw [hother q hq]
      exact hothers q hq w' hgrows
  · intro q r hq hr
    -- no other process is at a creation
    have hmine : ∀ q, (w'.stage q).is_creating = true → q = p := by
      intro q hq
      by_contra hne
      rw [hother q hne, hsingle q hne] at hq
      cases hq
    rw [hmine q hq, hmine r hr]
  · -- the whole text is the content of the atomic store, a part of it is torn
    rw [hlog, hfile]
    unfold CheckpointWorld.note_created
    split
    · next hview =>
      rw [hview, List.append_nil] at htext
      refine ⟨some (codec.encode state), run_snoc hrun (atomic_created hfits), inode, ?_⟩
      rw [htext]
    · next hview =>
      refine ⟨none, hrun, ?_⟩
      rintro _ ⟨⟩
      exact ⟨state, view, hview, htext⟩
  · intro q snap hout
    rw [houtcome] at hout
    exact (hw.answered q snap hout).mono hgrows

end invariant

/-! ### Call by call -/

section calls

variable {codec : CheckpointCodec} {max_state_bytes : Nat} {w w' : CheckpointWorld} {p q : Nat}

theorem create_holds {state : ConversationState} (hw : StoreHolds codec max_state_bytes w)
    (h : w.create codec max_state_bytes p state = .ok w') : StoreHolds codec max_state_bytes w' := by
  unfold CheckpointWorld.create at h
  split at h
  case h_2 => cases h
  next hidle =>
  have hclosed : w.lock.phase p = .closed := by
    have hfits := hw.fits p
    rw [hidle] at hfits
    exact hfits
  split at h
  · cases h
    exact hw.answer .idle hclosed trivial rfl (error_answers _)
  next hlong =>
  split at h
  · cases h
    exact hw.answer .idle hclosed trivial rfl (error_answers _)
  next hnone =>
  cases h
  -- there is no file, so the atomic store is empty
  obtain ⟨content, hrun, hshows⟩ := hw.published
  cases content with
  | some data =>
    obtain ⟨inode, hfile⟩ := hshows
    rw [hnone] at hfile
    cases hfile
  | none =>
    exact hw.grow [] hrun (Nat.le_of_not_lt hlong) (List.nil_append _).symm hclosed
      (fun q _ _ hlog => hw.missing hnone hlog q) (fun q _ => hw.no_creator hnone q)
      rfl rfl rfl rfl rfl

theorem write_new_holds {n : Nat} (hw : StoreHolds codec max_state_bytes w)
    (h : w.write_new p n = .ok w') : StoreHolds codec max_state_bytes w' := by
  unfold CheckpointWorld.write_new at h
  split at h
  case h_2 => cases h
  next state inode view hstage =>
  split at h
  · cases h
  next hcount =>
  cases h
  have hview : view ≠ [] := by
    intro hnil
    rw [hnil] at hcount
    simp only [List.length_nil] at hcount
    omega
  have hknown := hw.stages p
  rw [hstage] at hknown
  obtain ⟨hfits, hrun, written, hfile, htext⟩ := hknown hview
  have hclosed : w.lock.phase p = .closed := by
    have hphase := hw.fits p
    rw [hstage] at hphase
    exact hphase
  have hmine : (w.stage p).is_creating = true := by
    rw [hstage]
    exact decide_eq_true hview
  -- no change applies to the file while it is torn
  have hplan : ∀ e, ¬ Planned codec max_state_bytes w e := by
    intro e hplanned
    exact hview (hw.not_creating hplanned hstage)
  have hsingle : ∀ q, q ≠ p → (w.stage q).is_creating = false := by
    intro q hq
    rw [← Bool.not_eq_true]
    exact fun hcreating => hq (hw.creator q p hcreating hmine)
  refine hw.grow (written ++ view.take n) hrun hfits ?_ hclosed ?_ hsingle rfl rfl ?_
    rfl rfl
  · rw [htext, List.append_assoc, List.take_append_drop]
  · intro q hq w'' hlog
    have hother := hw.stages q
    cases hold : w.stage q with
    | creating state' inode' view' =>
      intro hview'
      have hnot := hsingle q hq
      rw [hold] at hnot
      exact absurd (of_decide_eq_false hnot) (not_not_intro hview')
    | replaced new_state data =>
      rw [hold] at hother
      obtain ⟨⟨snapshot, hmem⟩, hdata⟩ := hother
      exact ⟨⟨snapshot, hlog _ hmem⟩, hdata⟩
    | swapping =>
      rw [hold] at hother
      exact absurd hother.1 (hplan _)
    | writing =>
      rw [hold] at hother
      exact absurd hother.1 (hplan _)
    | synced =>
      rw [hold] at hother
      exact absurd hother.1 (hplan _)
    | retiring =>
      rw [hold] at hother
      exact absurd hother (hplan _)
    | idle => trivial
    | acquiring => trivial
    | leased => trivial
    | sweeping => trivial
  · show CheckpointWorld.append_inode w.checkpoint inode (view.take n) = _
    rw [hfile]
    simp [CheckpointWorld.append_inode]

/-- The way to the lease, and out of it. -/
theorem finish_new_holds (hw : StoreHolds codec max_state_bytes w)
    (h : w.finish_new p = .ok w') : StoreHolds codec max_state_bytes w' := by
  unfold CheckpointWorld.finish_new at h
  split at h
  case h_2 => cases h
  next hstage =>
  cases h
  have hfits := hw.fits p
  rw [hstage] at hfits
  exact hw.advance .idle hfits trivial rfl

theorem open_lock_holds {conversation_id : String} (hw : StoreHolds codec max_state_bytes w)
    (h : w.open_lock p conversation_id = .ok w') : StoreHolds codec max_state_bytes w' := by
  unfold CheckpointWorld.open_lock at h
  split at h
  case h_2 => cases h
  next hidle =>
  cases h
  have hclosed := hw.fits p
  rw [hidle] at hclosed
  have hself : (w.advance p (.acquiring conversation_id)).stage p = .acquiring conversation_id :=
    Function.update_self ..
  refine hw.quiet p rfl rfl (hw.lock.open_or_create hclosed)
    (fun q hq => Function.update_of_ne hq ..) (fun q hq => LockFile.open_or_create_other hq)
    ?_ ?_ ?_ fun q snap hout => .inl hout
  · show PhaseFits _ ((w.advance p (.acquiring conversation_id)).stage p)
    rw [hself]
    trivial
  · show StoreStageHolds codec max_state_bytes w ((w.advance p (.acquiring conversation_id)).stage p)
    rw [hself]
    trivial
  · show ((w.advance p (.acquiring conversation_id)).stage p).is_creating = true → _
    rw [hself]
    exact fun heq => Bool.noConfusion heq

theorem flock_holds (hw : StoreHolds codec max_state_bytes w)
    (h : w.flock p = .ok w') : StoreHolds codec max_state_bytes w' := by
  unfold CheckpointWorld.flock at h
  split at h
  case h_3 => cases h
  all_goals
    next hstage hphase =>
    cases h
    exact hw.settle hw.lock.try_lock (fun q hq => LockFile.try_lock_other hq) (by rw [hstage]; rfl)

theorem check_lock_holds (hw : StoreHolds codec max_state_bytes w)
    (h : w.check_lock p = .ok w') : StoreHolds codec max_state_bytes w' := by
  unfold CheckpointWorld.check_lock at h
  split at h
  case h_3 => cases h
  all_goals
    next hstage hphase =>
    cases h
    exact hw.settle hw.lock.check_name (fun q hq => LockFile.check_name_other hq)
      (by rw [hstage]; rfl)

theorem read_lock_holds (hw : StoreHolds codec max_state_bytes w)
    (h : w.read_lock codec max_state_bytes p = .ok w') : StoreHolds codec max_state_bytes w' := by
  unfold CheckpointWorld.read_lock at h
  split at h
  case h_2 => cases h
  next conversation_id inode hstage hphase =>
  split at h
  · split at h
    · cases h
      exact hw.advance .leased ⟨inode, hphase⟩ trivial rfl
    · cases h
      exact hw.close
  · cases h
    exact hw.close.record (error_answers _)

theorem release_holds (hw : StoreHolds codec max_state_bytes w)
    (h : w.release p = .ok w') : StoreHolds codec max_state_bytes w' := by
  unfold CheckpointWorld.release at h
  split at h
  case h_3 => cases h
  all_goals
    cases h
    exact hw.close

theorem stop_holds (hw : StoreHolds codec max_state_bytes w) :
    StoreHolds codec max_state_bytes (w.stop p) := hw.close

theorem open_sweep_holds (hw : StoreHolds codec max_state_bytes w)
    (h : w.open_sweep p = .ok w') : StoreHolds codec max_state_bytes w' := by
  unfold CheckpointWorld.open_sweep at h
  split at h
  case h_2 => cases h
  next hidle =>
  cases h
  have hclosed := hw.fits p
  rw [hidle] at hclosed
  have hself : (w.advance p .sweeping).stage p = .sweeping := Function.update_self ..
  have hsweeping : StoreHolds codec max_state_bytes (w.advance p .sweeping) :=
    hw.advance .sweeping trivial trivial rfl
  exact hsweeping.settle (hw.lock.open_existing hclosed)
    (fun q hq => LockFile.open_existing_other hq) (by rw [hself]; rfl)

theorem unlink_lock_holds (hw : StoreHolds codec max_state_bytes w)
    (h : w.unlink_lock p = .ok w') : StoreHolds codec max_state_bytes w' := by
  unfold CheckpointWorld.unlink_lock at h
  split at h
  case h_2 => cases h
  next hstage hphase =>
  cases h
  refine hw.relock hw.lock.unlink (fun q hq => LockFile.unlink_other hq) ?_
  rw [hstage]
  trivial

/-! The calls under the lease. -/

/-- The lock of a process with the lease, at any other stage of the lease. -/
theorem StoreHolds.lease_fits {stage : StoreStage} (hw : StoreHolds codec max_state_bytes w)
    (hlease : w.has_lease p = true) (hstage : stage.has_lease = true) :
    PhaseFits (w.lock.phase p) stage := by
  have hheld := hw.held hlease
  cases stage <;> first | exact hheld | cases hstage

theorem compare_and_swap_holds {snapshot : LoadedSnapshot ConversationState}
    {new_state : ConversationState} (hw : StoreHolds codec max_state_bytes w)
    (h : w.compare_and_swap codec max_state_bytes p snapshot new_state = .ok w') :
    StoreHolds codec max_state_bytes w' := by
  unfold CheckpointWorld.compare_and_swap at h
  split at h
  case h_2 => cases h
  next hstage =>
  have hlease : w.has_lease p = true := by
    unfold CheckpointWorld.has_lease
    rw [hstage]
    rfl
  split at h
  · next data hcheck =>
    cases h
    obtain ⟨text, hread, hswap⟩ := bind_eq_ok.mp hcheck
    simp only [read_bytes, bind_eq_ok, expect_eq_ok, refuse_eq_ok, ok_eq_ok] at hread
    obtain ⟨file, hfile, _, _, rfl⟩ := hread
    -- what is planned applies to the text the check has read
    have happly : atomic_step codec max_state_bytes (some file.2) (.swapped snapshot new_state)
        = .ok (some data) := bind_eq_ok.mpr ⟨data, hswap, rfl⟩
    refine hw.advance (.swapping snapshot new_state data) (hw.lease_fits hlease rfl)
      ⟨⟨file, _, hfile, happly⟩, ?_⟩ rfl
    exact Option.some.inj (atomic_swapped happly)
  · cases h
    exact hw.answer .leased (hw.lease_fits hlease rfl) trivial rfl (error_answers _)

theorem create_temp_holds {suffix : String} (hw : StoreHolds codec max_state_bytes w)
    (h : w.create_temp p suffix = .ok w') : StoreHolds codec max_state_bytes w' := by
  unfold CheckpointWorld.create_temp at h
  split at h
  case h_2 => cases h
  next snapshot new_state data hstage =>
  have hlease : w.has_lease p = true := by
    unfold CheckpointWorld.has_lease
    rw [hstage]
    rfl
  have hknown := hw.stages p
  rw [hstage] at hknown
  -- a name that is taken fails, and the lease is kept
  split at h
  · cases h
    exact (hw.answer .leased (hw.lease_fits hlease rfl) trivial rfl
      (error_answers .os_error)).temps _
  · cases h
    have hopened := hw.advance (.writing snapshot new_state suffix [] data)
      (hw.lease_fits hlease rfl) ⟨hknown.1, hknown.2⟩ rfl
    exact hopened.temps _

theorem write_temp_holds {n : Nat} (hw : StoreHolds codec max_state_bytes w)
    (h : w.write_temp p n = .ok w') : StoreHolds codec max_state_bytes w' := by
  unfold CheckpointWorld.write_temp at h
  split at h
  case h_2 => cases h
  next snapshot new_state suffix written view hstage =>
  have hlease : w.has_lease p = true := by
    unfold CheckpointWorld.has_lease
    rw [hstage]
    rfl
  have hknown := hw.stages p
  rw [hstage] at hknown
  split at h
  · cases h
  · cases h
    refine hw.advance _ (hw.lease_fits hlease rfl) ⟨hknown.1, ?_⟩ rfl
    -- what is written and what is left still make the text
    rw [List.append_assoc, List.take_append_drop]
    exact hknown.2

theorem fsync_temp_holds (hw : StoreHolds codec max_state_bytes w)
    (h : w.fsync_temp p = .ok w') : StoreHolds codec max_state_bytes w' := by
  unfold CheckpointWorld.fsync_temp at h
  split at h
  case h_2 => cases h
  next snapshot new_state suffix written hstage =>
  cases h
  have hlease : w.has_lease p = true := by
    unfold CheckpointWorld.has_lease
    rw [hstage]
    rfl
  have hknown := hw.stages p
  rw [hstage] at hknown
  refine hw.advance _ (hw.lease_fits hlease rfl) ⟨hknown.1, ?_⟩ rfl
  rw [← hknown.2, List.append_nil]

theorem replace_holds (hw : StoreHolds codec max_state_bytes w)
    (h : w.replace p = .ok w') : StoreHolds codec max_state_bytes w' := by
  unfold CheckpointWorld.replace at h
  split at h
  case h_2 => cases h
  next snapshot new_state suffix data hstage =>
  cases h
  have hlease : w.has_lease p = true := by
    unfold CheckpointWorld.has_lease
    rw [hstage]
    rfl
  have hknown := hw.stages p
  rw [hstage] at hknown
  obtain ⟨hplanned, hdata⟩ := hknown
  -- `os.replace` publishes the whole text at once
  refine hw.publish hlease hplanned (.replaced new_state data) rfl (some data) ?_ rfl rfl rfl rfl ⟨_, rfl⟩ ⟨⟨snapshot, ?_⟩, hdata⟩
  · intro text content' happly
    rw [hdata]
    exact atomic_swapped happly
  · exact List.mem_append_right _ (List.mem_singleton_self _)

theorem fsync_directory_holds (hw : StoreHolds codec max_state_bytes w)
    (h : w.fsync_directory p = .ok w') : StoreHolds codec max_state_bytes w' := by
  unfold CheckpointWorld.fsync_directory at h
  split at h
  case h_2 => cases h
  next new_state data hstage =>
  cases h
  have hlease : w.has_lease p = true := by
    unfold CheckpointWorld.has_lease
    rw [hstage]
    rfl
  have hknown := hw.stages p
  rw [hstage] at hknown
  obtain ⟨hmem, hdata⟩ := hknown
  refine hw.answer .leased (hw.lease_fits hlease rfl) trivial rfl ?_
  rintro _ ⟨⟩
  exact ⟨hmem, by rw [hdata]⟩

theorem retire_holds_lease {snapshot : LoadedSnapshot ConversationState}
    {archive : ArchivedConversation} (hw : StoreHolds codec max_state_bytes w)
    (h : w.retire codec max_state_bytes p snapshot archive = .ok w') :
    StoreHolds codec max_state_bytes w' := by
  unfold CheckpointWorld.retire at h
  split at h
  case h_2 => cases h
  next hstage =>
  have hlease : w.has_lease p = true := by
    unfold CheckpointWorld.has_lease
    rw [hstage]
    rfl
  split at h
  · next hcheck =>
    cases h
    obtain ⟨text, hread, hretire⟩ := bind_eq_ok.mp hcheck
    simp only [read_bytes, bind_eq_ok, expect_eq_ok, refuse_eq_ok, ok_eq_ok] at hread
    obtain ⟨file, hfile, _, _, rfl⟩ := hread
    have happly : atomic_step codec max_state_bytes (some file.2) (.retired snapshot archive)
        = .ok none := bind_eq_ok.mpr ⟨(), hretire, rfl⟩
    exact hw.advance (.retiring snapshot archive) (hw.lease_fits hlease rfl)
      ⟨file, _, hfile, happly⟩ rfl
  · cases h
    exact hw.answer .leased (hw.lease_fits hlease rfl) trivial rfl (error_answers _)

theorem unlink_checkpoint_holds (hw : StoreHolds codec max_state_bytes w)
    (h : w.unlink_checkpoint p = .ok w') : StoreHolds codec max_state_bytes w' := by
  unfold CheckpointWorld.unlink_checkpoint at h
  split at h
  case h_2 => cases h
  next snapshot archive hstage =>
  cases h
  have hlease : w.has_lease p = true := by
    unfold CheckpointWorld.has_lease
    rw [hstage]
    rfl
  have hplanned := hw.stages p
  rw [hstage] at hplanned
  -- the file is gone, and the atomic store is empty
  refine hw.publish hlease hplanned .leased rfl none ?_ rfl rfl rfl rfl
    ?_ trivial
  · exact fun text content' happly => atomic_retired happly
  · rintro _ ⟨⟩

theorem raise_holds (hw : StoreHolds codec max_state_bytes w)
    (h : w.raise p = .ok w') : StoreHolds codec max_state_bytes w' := by
  have herror := @error_answers codec .os_error w.log
  have hfits := hw.fits p
  unfold CheckpointWorld.raise at h
  -- whichever call fails, the process answers with the error
  split at h
  case h_8 => cases h
  all_goals
    rename_i hstage
    cases h
    rw [hstage] at hfits
  · exact hw.answer .leased hfits trivial rfl herror
  · exact (hw.answer .leased hfits trivial rfl herror).temps _
  · exact (hw.answer .leased hfits trivial rfl herror).temps _
  · exact hw.answer .leased hfits trivial rfl herror
  · exact hw.answer .leased hfits trivial rfl herror
  · exact hw.answer .idle hfits trivial rfl herror
  · exact hw.close.record herror

/-- The invariant, whichever call comes next. -/
theorem store_step_holds {call : Nat × StoreCall} (hw : StoreHolds codec max_state_bytes w)
    (h : store_step codec max_state_bytes w call = .ok w') : StoreHolds codec max_state_bytes w' := by
  obtain ⟨p, call⟩ := call
  cases call with
  | create state => exact create_holds hw h
  | write_new n => exact write_new_holds hw h
  | finish_new => exact finish_new_holds hw h
  | open_lock conversation_id => exact open_lock_holds hw h
  | flock => exact flock_holds hw h
  | check_lock => exact check_lock_holds hw h
  | read_lock => exact read_lock_holds hw h
  | release => exact release_holds hw h
  | compare_and_swap snapshot new_state => exact compare_and_swap_holds hw h
  | create_temp suffix => exact create_temp_holds hw h
  | write_temp n => exact write_temp_holds hw h
  | fsync_temp => exact fsync_temp_holds hw h
  | replace => exact replace_holds hw h
  | fsync_directory => exact fsync_directory_holds hw h
  | retire snapshot archive => exact retire_holds_lease hw h
  | unlink_checkpoint => exact unlink_checkpoint_holds hw h
  | raise => exact raise_holds hw h
  | open_sweep => exact open_sweep_holds hw h
  | unlink_lock => exact unlink_lock_holds hw h
  | stop =>
    cases h
    exact stop_holds hw

end calls

/-! ### A store with a new conversation -/

/-- The text of a conversation nothing happened in: `schema_version` 2 and a `state` of
    `conversation_id` "conversation", `interaction_state` "idle", counters and empty fields. -/
@[irreducible] def fresh_text : List Nat :=
  [123, 34, 115, 99, 104, 101, 109, 97, 95, 118, 101, 114, 115, 105, 111, 110, 34, 58, 50, 44,
   34, 115, 116, 97, 116, 101, 34, 58, 123, 34, 97, 99, 116, 105, 118, 101, 95, 114, 117, 110,
   34, 58, 110, 117, 108, 108, 44, 34, 98, 114, 111, 119, 115, 101, 114, 95, 108, 101, 97, 115,
   101, 115, 34, 58, 91, 93, 44, 34, 98, 114, 111, 119, 115, 101, 114, 95, 116, 97, 107, 101,
   111, 118, 101, 114, 95, 112, 101, 110, 100, 105, 110, 103, 34, 58, 110, 117, 108, 108, 44, 34,
   99, 111, 109, 112, 108, 101, 116, 105, 111, 110, 95, 99, 108, 97, 105, 109, 34, 58, 110, 117,
   108, 108, 44, 34, 99, 111, 110, 116, 114, 111, 108, 95, 114, 101, 99, 101, 105, 112, 116, 115,
   34, 58, 91, 93, 44, 34, 99, 111, 110, 118, 101, 114, 115, 97, 116, 105, 111, 110, 95, 105,
   100, 34, 58, 34, 99, 111, 110, 118, 101, 114, 115, 97, 116, 105, 111, 110, 34, 44, 34, 101,
   118, 105, 100, 101, 110, 99, 101, 95, 114, 101, 99, 111, 114, 100, 115, 34, 58, 91, 93, 44,
   34, 102, 97, 99, 116, 115, 34, 58, 91, 93, 44, 34, 103, 111, 97, 108, 34, 58, 110, 117, 108,
   108, 44, 34, 103, 111, 97, 108, 95, 97, 117, 116, 104, 111, 114, 105, 122, 97, 116, 105, 111,
   110, 115, 34, 58, 91, 93, 44, 34, 105, 110, 116, 101, 114, 97, 99, 116, 105, 111, 110, 95,
   115, 116, 97, 116, 101, 34, 58, 34, 105, 100, 108, 101, 34, 44, 34, 108, 97, 115, 116, 95,
   115, 97, 102, 101, 95, 114, 101, 115, 117, 108, 116, 34, 58, 110, 117, 108, 108, 44, 34, 110,
   101, 120, 116, 95, 97, 99, 116, 105, 111, 110, 95, 115, 101, 113, 34, 58, 49, 44, 34, 112,
   114, 111, 99, 101, 115, 115, 95, 108, 101, 97, 115, 101, 115, 34, 58, 91, 93, 44, 34, 112,
   114, 111, 118, 105, 100, 101, 114, 95, 100, 105, 115, 99, 108, 111, 115, 117, 114, 101, 95,
   114, 101, 99, 101, 105, 112, 116, 34, 58, 110, 117, 108, 108, 44, 34, 112, 114, 111, 118, 105,
   100, 101, 114, 95, 100, 105, 115, 99, 108, 111, 115, 117, 114, 101, 95, 114, 101, 113, 117,
   101, 115, 116, 34, 58, 110, 117, 108, 108, 44, 34, 114, 101, 112, 108, 97, 121, 95, 102, 108,
   111, 111, 114, 34, 58, 49, 44, 34, 114, 101, 112, 108, 97, 121, 95, 114, 101, 99, 111, 114,
   100, 115, 34, 58, 91, 93, 44, 34, 114, 101, 118, 105, 115, 105, 111, 110, 34, 58, 48, 44, 34,
   115, 97, 110, 100, 98, 111, 120, 95, 108, 101, 97, 115, 101, 115, 34, 58, 91, 93, 125, 125]

/-- The codec at a conversation nothing happened in. -/
def fresh_codec : CheckpointCodec where
  encode := fun _ => fresh_text
  decode := fun data => if data = fresh_text then .ok ConversationState.fresh
    else .error (.malformed "checkpoint is not valid UTF-8 JSON")
  torn := by
    intro state written rest htext hrest
    have hlength := congrArg List.length htext
    have hpositive := List.length_pos_of_ne_nil hrest
    rw [List.length_append] at hlength
    refine ⟨_, if_neg ?_⟩
    intro hwhole
    rw [hwhole] at hlength
    omega

/-! ### Runs -/

section runs

variable {codec : CheckpointCodec} {max_state_bytes : Nat} {w : CheckpointWorld}
  {calls : List (Nat × StoreCall)}

theorem store_start : StoreHolds codec max_state_bytes {} where
  lock := LockFile.sound_closed (fun _ => rfl) (fun _ => rfl)
  fits := fun _ => rfl
  stages := fun _ => trivial
  creator := fun _ _ h => Bool.noConfusion h
  published := ⟨none, System.run_nil.mpr rfl, fun _ h => by cases h⟩
  answered := fun _ _ h => by cases h

theorem store_run_holds (hrun : (checkpoint_store codec max_state_bytes).run {} calls = .ok w) :
    StoreHolds codec max_state_bytes w :=
  System.run_invariant (I := StoreHolds codec max_state_bytes)
    (fun _ _ _ hw h => store_step_holds hw h) store_start hrun

/-- What the callers of the store rely on. -/
structure StoreSafe (codec : CheckpointCodec) (max_state_bytes : Nat) (w : CheckpointWorld) :
    Prop where
  /-- At most one process has the lease. -/
  exclusive : ∀ p q, w.has_lease p = true → w.has_lease q = true → p = q
  /-- The lock of a lease still has the name: no sweep has removed it. -/
  lock_kept : ∀ p, w.has_lease p = true →
    ∃ inode, w.lock.phase p = .held inode ∧ w.lock.name = some inode
  /-- The changes so far, each in one piece and in this order, make the file. -/
  refined : ∃ content, (atomic_store codec max_state_bytes).run none w.log = .ok content ∧
    Shows codec w.checkpoint content
  /-- What is loaded is the text after these changes. -/
  loaded : ∀ snap, load_snapshot codec max_state_bytes w.checkpoint = .ok snap → ∃ data,
    (atomic_store codec max_state_bytes).run none w.log = .ok (some data) ∧
      codec.decode data = .ok snap.state ∧ snap.token = data_token data
  /-- An exchange replaced the text its snapshot names: no exchange before it is lost. -/
  follows : ∀ earlier snapshot new_state later,
    w.log = earlier ++ .swapped snapshot new_state :: later → ∃ data,
      (atomic_store codec max_state_bytes).run none earlier = .ok (some data) ∧
        data_token data = snapshot.token
  /-- A snapshot that is returned was written. -/
  answered : ∀ p snap, w.outcome p = some (.ok snap) → LoadAnswered codec w.log snap

/-- What is loaded is not torn, so it is the content of the atomic store. -/
theorem StoreHolds.load (hw : StoreHolds codec max_state_bytes w)
    {snap : LoadedSnapshot ConversationState}
    (h : load_snapshot codec max_state_bytes w.checkpoint = .ok snap) : ∃ data,
    (atomic_store codec max_state_bytes).run none w.log = .ok (some data) ∧
      codec.decode data = .ok snap.state ∧ snap.token = data_token data := by
  simp only [load_snapshot, read_bytes, bind_eq_ok, expect_eq_ok, refuse_eq_ok, ok_eq_ok] at h
  obtain ⟨_, ⟨file, hfile, _, _, rfl⟩, state, hdecode, rfl⟩ := h
  obtain ⟨content, hrun, hshows⟩ := hw.published
  -- a text that decodes is not a torn one
  cases content with
  | none => exact absurd (hshows file hfile) (torn_not_decoded hdecode)
  | some data =>
    obtain ⟨inode, hsame⟩ := hshows
    rw [hfile] at hsame
    cases hsame
    exact ⟨data, hrun, hdecode, rfl⟩

/-- The text before an exchange that applies is the one its snapshot names. -/
theorem atomic_follows {log earlier later : List StoreEvent} {content : Option (List Nat)}
    {snapshot : LoadedSnapshot ConversationState} {new_state : ConversationState}
    (hrun : (atomic_store codec max_state_bytes).run none log = .ok content)
    (hlog : log = earlier ++ .swapped snapshot new_state :: later) : ∃ data,
    (atomic_store codec max_state_bytes).run none earlier = .ok (some data) ∧
      data_token data = snapshot.token := by
  rw [hlog] at hrun
  obtain ⟨before, hearlier, hrest⟩ := System.run_append.mp hrun
  obtain ⟨after, hstep, -⟩ := System.run_cons.mp hrest
  have hstep : atomic_step codec max_state_bytes before (.swapped snapshot new_state) = .ok after :=
    hstep
  cases before with
  | none => cases hstep
  | some data =>
    refine ⟨data, hearlier, ?_⟩
    simp only [atomic_step, check_swap, bind_eq_ok, refuse_eq_ok] at hstep
    obtain ⟨_, ⟨current, _, _, hsame, _⟩, _⟩ := hstep
    -- an exchange is refused when the text has another token
    by_contra hne
    exact hsame (.inl hne)

/-- In every run of any number of processes that acquire, write, retire, sweep, fail and
    are killed, the store is the atomic one. -/
theorem store_safe (hrun : (checkpoint_store codec max_state_bytes).run {} calls = .ok w) :
    StoreSafe codec max_state_bytes w := by
  have hw := store_run_holds hrun
  refine { exclusive := ?_, lock_kept := ?_, refined := hw.published, loaded := ?_, follows := ?_,
           answered := hw.answered }
  · intro p q hp hq
    exact hw.exclusive hp hq
  · intro p hp
    obtain ⟨inode, hheld⟩ := hw.held hp
    exact ⟨inode, hheld, hw.lock.name p inode hheld⟩
  · intro snap hload
    exact hw.load hload
  · intro earlier snapshot new_state later hlog
    obtain ⟨content, hpublished, -⟩ := hw.published
    exact atomic_follows hpublished hlog

/-- A lease whose process is killed, a sweep of its lock while another process waits on the old
    inode, and the lease of that process on the new one. -/
theorem swept_store_safe : ∃ w, (checkpoint_store fresh_codec 8388608).run {}
    [(0, .create ConversationState.fresh), (0, .write_new 100), (0, .write_new 380), (0, .finish_new),
      (1, .open_lock "conversation"), (1, .flock), (1, .check_lock), (1, .read_lock),
      (2, .open_lock "conversation"), (1, .stop), (3, .open_sweep), (3, .flock), (3, .check_lock),
      (3, .unlink_lock), (3, .release), (2, .flock), (2, .check_lock),
      (2, .open_lock "conversation"), (2, .flock), (2, .check_lock), (2, .read_lock)] = .ok w ∧
    w.has_lease 2 = true ∧ StoreSafe fresh_codec 8388608 w := by
  have hrun : Fallible.succeeds ((checkpoint_store fresh_codec 8388608).run {}
      [(0, .create ConversationState.fresh), (0, .write_new 100), (0, .write_new 380),
        (0, .finish_new), (1, .open_lock "conversation"), (1, .flock), (1, .check_lock),
        (1, .read_lock), (2, .open_lock "conversation"), (1, .stop), (3, .open_sweep), (3, .flock),
        (3, .check_lock), (3, .unlink_lock), (3, .release), (2, .flock), (2, .check_lock),
        (2, .open_lock "conversation"), (2, .flock), (2, .check_lock), (2, .read_lock)])
      (fun w => w.has_lease 2) = true := by
    decide +kernel
  obtain ⟨w, hw, hlease⟩ := Fallible.succeeds_iff.mp hrun
  exact ⟨w, hw, hlease, store_safe hw⟩

/-- Once every process has its lock closed, whether it gave it back or was killed, a process
    that asks for the stored conversation is given the lease. -/
theorem lease_regained {p : Nat} {snap : LoadedSnapshot ConversationState}
    (hrun : (checkpoint_store codec max_state_bytes).run {} calls = .ok w)
    (hclosed : ∀ q, w.lock.phase q = .closed) (hidle : w.stage p = .idle)
    (hload : load_snapshot codec max_state_bytes w.checkpoint = .ok snap) :
    ∃ w', (checkpoint_store codec max_state_bytes).run w
        [(p, .open_lock snap.state.val.conversation_id), (p, .flock), (p, .check_lock),
          (p, .read_lock)] = .ok w' ∧ w'.has_lease p = true := by
  have hw := store_run_holds hrun
  obtain ⟨i, hopened, hname, hholder⟩ := @LockFile.open_or_create_self Nat _ w.lock p
  have hfree : (w.lock.open_or_create p).holder i = none := by
    rw [hholder]
    exact hw.lock.free hclosed i
  obtain ⟨hlocked, hkept⟩ := LockFile.try_lock_free hopened hfree
  have hheld : (((w.lock.open_or_create p).try_lock p).check_name p).phase p = .held i :=
    LockFile.check_name_found hlocked (hkept.trans hname)
  -- the lock goes from phase to phase, the rest of the world waits
  let at_lock (lock : LockFile Nat) : CheckpointWorld :=
    { w.advance p (.acquiring snap.state.val.conversation_id) with lock }
  have hstage : ∀ lock, (at_lock lock).stage p = .acquiring snap.state.val.conversation_id :=
    fun _ => Function.update_self ..
  have hgoes : ∀ lock lock' : LockFile Nat, lock'.phase p ≠ .closed →
      (at_lock lock).settle p lock' = at_lock lock' := by
    intro lock lock' hphase
    unfold CheckpointWorld.settle
    rw [if_neg hphase]
  have hopen : store_step codec max_state_bytes w (p, .open_lock snap.state.val.conversation_id)
      = .ok (at_lock (w.lock.open_or_create p)) := by
    simp only [store_step, CheckpointWorld.open_lock, hidle, at_lock]
  have hflock : store_step codec max_state_bytes (at_lock (w.lock.open_or_create p)) (p, .flock)
      = .ok (at_lock ((w.lock.open_or_create p).try_lock p)) := by
    have hphase : (at_lock (w.lock.open_or_create p)).lock.phase p = .opened i := hopened
    simp only [store_step, CheckpointWorld.flock, hstage, hphase]
    exact congrArg Except.ok (hgoes _ _ (by rw [hlocked]; exact fun heq => by cases heq))
  have hcheck : store_step codec max_state_bytes
      (at_lock ((w.lock.open_or_create p).try_lock p)) (p, .check_lock)
      = .ok (at_lock (((w.lock.open_or_create p).try_lock p).check_name p)) := by
    have hphase : (at_lock ((w.lock.open_or_create p).try_lock p)).lock.phase p = .locked i :=
      hlocked
    simp only [store_step, CheckpointWorld.check_lock, hstage, hphase]
    exact congrArg Except.ok (hgoes _ _ (by rw [hheld]; exact fun heq => by cases heq))
  have hread : store_step codec max_state_bytes
      (at_lock (((w.lock.open_or_create p).try_lock p).check_name p)) (p, .read_lock)
      = .ok ((at_lock (((w.lock.open_or_create p).try_lock p).check_name p)).advance p .leased) := by
    have hphase : (at_lock (((w.lock.open_or_create p).try_lock p).check_name p)).lock.phase p
        = .held i := hheld
    have hfile : (at_lock (((w.lock.open_or_create p).try_lock p).check_name p)).checkpoint
        = w.checkpoint := rfl
    simp only [store_step, CheckpointWorld.read_lock, hstage, hphase, hfile, hload, if_true]
  refine ⟨_, System.run_cons.mpr ⟨_, hopen, System.run_cons.mpr ⟨_, hflock, System.run_cons.mpr
    ⟨_, hcheck, System.run_cons.mpr ⟨_, hread, System.run_nil.mpr rfl⟩⟩⟩⟩, ?_⟩
  have hleased : ((at_lock (((w.lock.open_or_create p).try_lock p).check_name p)).advance p
      .leased).stage p = .leased := Function.update_self ..
  unfold CheckpointWorld.has_lease
  rw [hleased]
  rfl

/-- A process makes a conversation and returns: the files are closed, the change is noted and
    the conversation can be loaded. -/
theorem fresh_created : ∃ w, (checkpoint_store fresh_codec 8388608).run {}
      [(0, .create ConversationState.fresh), (0, .write_new 480), (0, .finish_new)] = .ok w ∧
    w.log = [.created ConversationState.fresh] ∧ (∀ q, w.lock.phase q = .closed) ∧
    w.stage 1 = .idle ∧ load_snapshot fresh_codec 8388608 w.checkpoint
      = .ok { state := ConversationState.fresh, token := data_token fresh_text } := by
  have hlength : fresh_text.length = 480 := by decide +kernel
  have hne : fresh_text ≠ [] := by
    intro hnil
    rw [hnil] at hlength
    cases hlength
  let opened : CheckpointWorld :=
    { ({} : CheckpointWorld).advance 0 (.creating ConversationState.fresh 0 fresh_text) with
      checkpoint := some (0, []), created := 1 }
  let written : CheckpointWorld :=
    { opened.advance 0 (.creating ConversationState.fresh 0 []) with
      checkpoint := some (0, fresh_text), log := [.created ConversationState.fresh] }
  have hcreate : store_step fresh_codec 8388608 {} (0, .create ConversationState.fresh)
      = .ok opened := by
    have hfits : ¬ 8388608 < (fresh_codec.encode ConversationState.fresh).length := by
      show ¬ 8388608 < fresh_text.length
      omega
    simp only [store_step, CheckpointWorld.create, if_neg hfits, CheckpointWorld.note_created]
    rw [if_neg (show fresh_codec.encode ConversationState.fresh ≠ [] from hne)]
    rfl
  have hwrite : store_step fresh_codec 8388608 opened (0, .write_new 480) = .ok written := by
    have hstage : opened.stage 0 = .creating ConversationState.fresh 0 fresh_text := rfl
    simp only [store_step, CheckpointWorld.write_new, hstage]
    rw [if_neg (by omega), List.drop_of_length_le (by omega), List.take_of_length_le (by omega)]
    rfl
  have hrun : (checkpoint_store fresh_codec 8388608).run {}
      [(0, .create ConversationState.fresh), (0, .write_new 480), (0, .finish_new)]
      = .ok (written.advance 0 .idle) :=
    System.run_cons.mpr ⟨_, hcreate, System.run_cons.mpr ⟨_, hwrite, System.run_cons.mpr
      ⟨_, rfl, System.run_nil.mpr rfl⟩⟩⟩
  have hload : load_snapshot fresh_codec 8388608 (written.advance 0 .idle).checkpoint
      = .ok { state := ConversationState.fresh, token := data_token fresh_text } := by
    have hfits : ¬ 8388608 < fresh_text.length := by omega
    show load_snapshot fresh_codec 8388608 (some (0, fresh_text)) = _
    simp [load_snapshot, read_bytes, fresh_codec, expect, refuse, hfits, bind, Except.bind]
  exact ⟨_, hrun, rfl, fun _ => rfl, rfl, hload⟩

/-- The lease on a conversation that was made. -/
theorem fresh_lease : ∃ w w', (checkpoint_store fresh_codec 8388608).run {}
      [(0, .create ConversationState.fresh), (0, .write_new 480), (0, .finish_new)] = .ok w ∧
    (checkpoint_store fresh_codec 8388608).run w
      [(1, .open_lock "conversation"), (1, .flock), (1, .check_lock), (1, .read_lock)] = .ok w' ∧
    w'.has_lease 1 = true := by
  obtain ⟨w, hrun, -, hclosed, hidle, hload⟩ := fresh_created
  obtain ⟨w', hlease⟩ := lease_regained hrun hclosed hidle hload
  exact ⟨w, w', hrun, hlease⟩

end runs
