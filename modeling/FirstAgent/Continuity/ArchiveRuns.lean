import Mathlib.Data.Fintype.EquivFin
import FirstAgent.Continuity.Archive

/-! # Runs of the Archive

    As long as no writer is stopped inside its write loop, every directory
    stays tidy: whatever a stop leaves behind, a later archive of the same
    state reconciles it and ends with one single-link archive, and the listing
    accepts it. -/

open Fallible

/-! ### Stages of a tidy directory -/

/-- No temporary file for the digest. -/
def NoTemps (d : ArchiveDirectory) (digest : String) : Prop :=
  ∀ suffix i, (.temp digest suffix, i) ∉ d.entries

/-- The archive of the digest is there. -/
def HasFinal (d : ArchiveDirectory) (digest : String) : Prop :=
  ∃ i, (.final digest, i) ∈ d.entries

/-- The temporary file of a writer, with its inode to itself. -/
structure Temp (d : ArchiveDirectory) (digest : String) (temp : ArchiveName) (i : Nat) : Prop where
  is_temp : temp.is_temp = true
  digest : temp.digest = digest
  mem : (temp, i) ∈ d.entries
  alone : ∀ n, (n, i) ∈ d.entries → n = temp

/-- What a directory holds for the writer of a text at a stage. -/
def AtStage (data : List Nat) (d : ArchiveDirectory) : ArchiveStage → Prop
  | .started                => True
  | .opened                 => True
  | .reconciling temps      => temps.Nodup ∧ ∀ n, n ∈ temps ↔
    n.is_temp = true ∧ n.digest = data_digest data ∧ ∃ i, (n, i) ∈ d.entries
  | .allocating _           => NoTemps d (data_digest data)
  | .writing temp i view    => Temp d (data_digest data) temp i ∧ d.content i ++ view = data
  | .synced temp            => ∃ i, Temp d (data_digest data) temp i
  | .linked temp            => temp.is_temp = true ∧ temp.digest = data_digest data ∧
    ∃ i, (temp, i) ∈ d.entries ∧ (.final (data_digest data), i) ∈ d.entries
  | .unlinked               => NoTemps d (data_digest data) ∧ HasFinal d (data_digest data)
  | .existing temp          => (∃ i, Temp d (data_digest data) temp i) ∧ HasFinal d (data_digest data)
  | .cleaning temp result   =>
    result = .ok () ∧ (∃ i, Temp d (data_digest data) temp i) ∧ HasFinal d (data_digest data)
  | .cleaned result         =>
    result = .ok () ∧ NoTemps d (data_digest data) ∧ HasFinal d (data_digest data)
  | .returned               => NoTemps d (data_digest data) ∧ HasFinal d (data_digest data)
  | .confirmed              => NoTemps d (data_digest data) ∧ HasFinal d (data_digest data)

/-- The stages of `archive` itself. -/
def ArchiveStage.working : ArchiveStage → Bool
  | .returned  => false
  | .confirmed => false
  | _          => true

/-- The stages before the capacity of the text is checked. -/
def ArchiveStage.early : ArchiveStage → Bool
  | .started => true
  | .opened  => true
  | _        => false

section Tidy

variable {limits : ArchiveLimits} {archived archived' : List (List Nat)} {torn torn' : Option ArchiveName}
  {d : ArchiveDirectory} {temp : ArchiveName} {g suffix : String} {i : Nat} {data : List Nat}

theorem Tidy.mono (h : Tidy limits archived torn d) (hsub : ∀ x ∈ archived, x ∈ archived') :
    Tidy limits archived' torn d :=
  { h with whole := fun n i hn ht =>
      { h.whole n i hn ht with archived := hsub _ (h.whole n i hn ht).archived } }

/-- A removed name leaves a tidy directory. -/
theorem Tidy.unlink (h : Tidy limits archived torn d) (name : ArchiveName) :
    Tidy limits archived torn (d.unlink name) where
  distinct := h.distinct.unlink
  shared n m i hn hm :=
    h.shared n m i (LinkedDirectory.mem_unlink.mp hn).1 (LinkedDirectory.mem_unlink.mp hm).1
  single n m i j hn hm :=
    h.single n m i j (LinkedDirectory.mem_unlink.mp hn).1 (LinkedDirectory.mem_unlink.mp hm).1
  whole n i hn ht := h.whole n i (LinkedDirectory.mem_unlink.mp hn).1 ht

/-- A write to a file with its inode to itself. -/
theorem Tidy.write {b : List Nat} (h : Tidy limits archived torn d) (hmem : (temp, i) ∈ d.entries)
    (halone : ∀ n, (n, i) ∈ d.entries → n = temp) (htorn : torn = none ∨ torn = some temp)
    (hwhole : torn' = some temp ∨ (torn' = none ∧ Whole limits archived temp.digest b)) :
    Tidy limits archived torn' (d.write i b) := by
  refine { distinct := h.distinct, shared := h.shared, single := h.single, whole := ?_ }
  intro n j hn ht
  by_cases hj : j = i
  · subst hj
    obtain rfl := halone n hn
    rw [LinkedDirectory.write_content_self]
    rcases hwhole with rfl | ⟨_, hwhole⟩
    · exact absurd rfl ht
    · exact hwhole
  · rw [LinkedDirectory.write_content_other hj]
    refine h.whole n j hn ?_
    -- the other files were whole before
    rcases htorn with rfl | rfl
    · simp
    · rintro ⟨⟩
      exact hj (h.distinct.inode_eq hn hmem)

/-- A new temporary file, empty. -/
theorem Tidy.create (h : Tidy limits archived none d) (hfree : NoTemps d g)
    (hinode : i ∉ d.entries.map Prod.snd)
    (hwhole : torn' = some (.temp g suffix) ∨ (torn' = none ∧ Whole limits archived g [])) :
    Tidy limits archived torn' ((d.write i []).link (.temp g suffix) i) := by
  have hunused : ∀ n, (n, i) ∉ d.entries := fun n hn => hinode (List.mem_map.mpr ⟨_, hn, rfl⟩)
  refine { distinct := ?_, shared := ?_, single := ?_, whole := ?_ }
  · refine LinkedDirectory.Distinct.link h.distinct ?_
    refine LinkedDirectory.inode_eq_none.mpr ?_
    rintro ⟨n, j⟩ hn rfl
    exact hfree suffix j hn
  · intro n m j hn₀ hm₀
    rcases LinkedDirectory.mem_link.mp hn₀ with hn | hn <;>
      rcases LinkedDirectory.mem_link.mp hm₀ with hm | hm
    · exact h.shared n m j hn hm
    · obtain ⟨rfl, rfl⟩ := Prod.mk.inj hm
      exact absurd hn (hunused n)
    · obtain ⟨rfl, rfl⟩ := Prod.mk.inj hn
      exact absurd hm (hunused m)
    · rw [(Prod.mk.inj hn).1, (Prod.mk.inj hm).1]
  · intro n m j k hn₀ hm₀ hnt hmt hdigest
    rcases LinkedDirectory.mem_link.mp hn₀ with hn | hn <;>
      rcases LinkedDirectory.mem_link.mp hm₀ with hm | hm
    · exact h.single n m j k hn hm hnt hmt hdigest
    · obtain ⟨rfl, rfl⟩ := Prod.mk.inj hm
      cases n with
      | final _ => cases hnt
      | temp g' s =>
        obtain rfl : g' = g := hdigest
        exact absurd hn (hfree s j)
    · obtain ⟨rfl, rfl⟩ := Prod.mk.inj hn
      cases m with
      | final _ => cases hmt
      | temp g' s =>
        obtain rfl : g = g' := hdigest
        exact absurd hm (hfree s k)
    · rw [(Prod.mk.inj hn).1, (Prod.mk.inj hm).1]
  · intro n j hn₀ ht
    rw [LinkedDirectory.link_content]
    rcases LinkedDirectory.mem_link.mp hn₀ with hn | hn
    · have hj : j ≠ i := by
        rintro rfl
        exact hunused n hn
      rw [LinkedDirectory.write_content_other hj]
      exact h.whole n j hn (by simp)
    · obtain ⟨rfl, rfl⟩ := Prod.mk.inj hn
      rw [LinkedDirectory.write_content_self]
      rcases hwhole with rfl | ⟨_, hwhole⟩
      · exact absurd rfl ht
      · exact hwhole

/-- The publication of a whole temporary file. -/
theorem Tidy.publish (h : Tidy limits archived none d) (htemp : Temp d g temp i)
    (hfree : d.inode (.final g) = none) : Tidy limits archived none (d.link (.final g) i) := by
  have hnofinal := LinkedDirectory.inode_eq_none.mp hfree
  refine { distinct := h.distinct.link hfree, shared := ?_, single := ?_, whole := ?_ }
  · intro n m j hn₀ hm₀
    rcases LinkedDirectory.mem_link.mp hn₀ with hn | hn <;>
      rcases LinkedDirectory.mem_link.mp hm₀ with hm | hm
    · exact h.shared n m j hn hm
    · obtain ⟨rfl, rfl⟩ := Prod.mk.inj hm
      rw [htemp.alone n hn, htemp.digest]
      rfl
    · obtain ⟨rfl, rfl⟩ := Prod.mk.inj hn
      rw [htemp.alone m hm, htemp.digest]
      rfl
    · rw [(Prod.mk.inj hn).1, (Prod.mk.inj hm).1]
  · intro n m j k hn₀ hm₀ hnt hmt hdigest
    rcases LinkedDirectory.mem_link.mp hn₀ with hn | hn
    · rcases LinkedDirectory.mem_link.mp hm₀ with hm | hm
      · exact h.single n m j k hn hm hnt hmt hdigest
      · obtain ⟨rfl, rfl⟩ := Prod.mk.inj hm
        cases hmt
    · obtain ⟨rfl, rfl⟩ := Prod.mk.inj hn
      cases hnt
  · intro n j hn₀ ht
    rcases LinkedDirectory.mem_link.mp hn₀ with hn | hn
    · exact h.whole n j hn ht
    · obtain ⟨rfl, rfl⟩ := Prod.mk.inj hn
      have hwhole := h.whole temp j htemp.mem (by simp)
      rw [htemp.digest] at hwhole
      exact hwhole

/-- Removing the one temporary file of a digest leaves none. -/
theorem Tidy.no_temps (h : Tidy limits archived torn d) {j : Nat} (htemp : temp.is_temp = true)
    (hdigest : temp.digest = g) (hmem : (temp, j) ∈ d.entries) : NoTemps (d.unlink temp) g := by
  intro s i hs
  obtain ⟨hs, hne⟩ := LinkedDirectory.mem_unlink.mp hs
  exact hne (h.single _ _ i j hs hmem rfl htemp hdigest.symm)

/-- Removing a temporary file keeps the archive. -/
theorem HasFinal.unlink (h : HasFinal d g) (htemp : temp.is_temp = true) :
    HasFinal (d.unlink temp) g := by
  obtain ⟨i, hi⟩ := h
  refine ⟨i, LinkedDirectory.mem_unlink.mpr ⟨hi, ?_⟩⟩
  rintro rfl
  cases htemp

end Tidy

/-! ### The invariant -/

/-- What holds of the writer. -/
structure WriterHolds {State : Type} (limits : ArchiveLimits) (w : ArchiveWorld State)
    (x : ArchiveWriter State) : Prop where
  id : is_conversation_id x.conversation_id = true
  archived : x.data ∈ w.archived
  fits : x.stage.early = true ∨ x.data.length ≤ limits.max_state_bytes
  stage : AtStage x.data (w.directory x.conversation_id) x.stage

/-- No two archived texts share a digest. -/
def Apart (archived : List (List Nat)) : Prop :=
  ∀ x ∈ archived, ∀ y ∈ archived, data_digest x = data_digest y → x = y

/-- Every directory is tidy, but for the file in the write loop. -/
structure ArchiveHolds {State : Type} (codec : StateCodec State) (limits : ArchiveLimits)
    (w : ArchiveWorld State) : Prop where
  ids : ∀ c ∈ w.conversations, is_conversation_id c = true
  apart : Apart w.archived
  tidy : ∀ c, Tidy limits w.archived (w.torn c) (w.directory c)
  writer : ∀ x, w.writer = some x → WriterHolds limits w x
  confirmed : ∀ x current, w.writer = some x → x.stage = .confirmed → x.session = some current →
    load_archived codec limits w.conversations w.directory x.record = .ok current

/-- The archive of a writer is published: one single-link file, and no
    temporary file for its digest. -/
def Published {State : Type} (w : ArchiveWorld State) (x : ArchiveWriter State) : Prop :=
  NoTemps (w.directory x.conversation_id) x.digest ∧
    ∃ i, (w.directory x.conversation_id).inode (.final x.digest) = some i ∧
      (w.directory x.conversation_id).nlink i = 1 ∧
      (w.directory x.conversation_id).content i = x.data

/-- How much a writer has left to do in its directory. -/
def stage_work (data : List Nat) (d : ArchiveDirectory) : ArchiveStage → Nat
  | .started           => data.length + d.entries.length + 20
  | .opened            => data.length + d.entries.length + 19
  | .reconciling temps => data.length + temps.length + 18
  | .allocating _      => data.length + 16
  | .writing _ _ view  => view.length + 10
  | .synced _          => 9
  | .linked _          => 8
  | .existing _        => 8
  | .unlinked          => 7
  | .cleaning _ _      => 7
  | .cleaned _         => 6
  | .returned          => 0
  | .confirmed         => 0

/-- The writer went on, with less to do. -/
def GoesOn {State : Type} (w w' : ArchiveWorld State) (x : ArchiveWriter State) : Prop :=
  ∃ stage, w'.writer = some { x with stage } ∧ stage.working = true ∧ w'.result = w.result ∧
    stage_work x.data (w'.directory x.conversation_id) stage <
      stage_work x.data (w.directory x.conversation_id) x.stage

/-- The archive returned. -/
def Returns {State : Type} (w' : ArchiveWorld State) (x : ArchiveWriter State) : Prop :=
  w'.result = some (.ok ()) ∧ Published w' x ∧
    w'.writer = if x.session.isSome then some { x with stage := .returned } else none

section Steps

variable {State : Type} {codec : StateCodec State} {limits : ArchiveLimits}
  {w w' : ArchiveWorld State} {x : ArchiveWriter State} {stage : ArchiveStage} {d : ArchiveDirectory}

@[simp] theorem advance_directory_self :
    (w.advance x stage d).directory x.conversation_id = d := Function.update_self ..

theorem advance_directory_other {c : String} (hc : c ≠ x.conversation_id) :
    (w.advance x stage d).directory c = w.directory c := Function.update_of_ne hc ..

@[simp] theorem advance_archived : (w.advance x stage d).archived = w.archived := rfl

theorem torn_self (hx : w.writer = some x) : w.torn x.conversation_id = x.stage.torn := by
  simp [ArchiveWorld.torn, hx]

theorem torn_other {c : String} (hx : w.writer = some x) (hc : c ≠ x.conversation_id) :
    w.torn c = none := by
  simp [ArchiveWorld.torn, hx, Ne.symm hc]

theorem ArchiveHolds.tidy_writer (hw : ArchiveHolds codec limits w) (hx : w.writer = some x) :
    Tidy limits w.archived x.stage.torn (w.directory x.conversation_id) := by
  have htidy := hw.tidy x.conversation_id
  rw [torn_self hx] at htidy
  exact htidy

/-- A writer goes on in a tidy directory. -/
theorem advance_holds (stage : ArchiveStage) (hw : ArchiveHolds codec limits w) (hx : w.writer = some x)
    (htidy : Tidy limits w.archived stage.torn d) (hat : AtStage x.data d stage)
    (hfits : stage.early = true ∨ x.data.length ≤ limits.max_state_bytes)
    (hstage : stage ≠ .confirmed) : ArchiveHolds codec limits (w.advance x stage d) where
  ids := hw.ids
  apart := hw.apart
  tidy c := by
    by_cases hc : c = x.conversation_id
    · subst hc
      have htorn : (w.advance x stage d).torn x.conversation_id = stage.torn :=
        torn_self (x := { x with stage }) rfl
      rw [htorn, advance_directory_self]
      exact htidy
    · have htorn : (w.advance x stage d).torn c = none :=
        torn_other (x := { x with stage }) rfl hc
      have hold := hw.tidy c
      rw [torn_other hx hc] at hold
      rw [htorn, advance_directory_other hc]
      exact hold
  writer := by
    rintro _ ⟨⟩
    have hwriter := hw.writer x hx
    refine { id := hwriter.id, archived := hwriter.archived, fits := hfits, stage := ?_ }
    rw [show (w.advance x stage d).directory x.conversation_id = d from advance_directory_self]
    exact hat
  confirmed := by
    rintro _ _ ⟨⟩ hconfirmed
    exact absurd hconfirmed hstage

/-- A writer that has written its file leaves. -/
theorem leave_holds (result : Option (Except ArchiveError Unit)) (hw : ArchiveHolds codec limits w)
    (htorn : ∀ x, w.writer = some x → x.stage.torn = none) :
    ArchiveHolds codec limits { w with writer := none, result } where
  ids := hw.ids
  apart := hw.apart
  tidy c := by
    have htidy := hw.tidy c
    have hnone : w.torn c = none := by
      cases hx : w.writer with
      | none => simp [ArchiveWorld.torn, hx]
      | some x =>
        by_cases hc : c = x.conversation_id
        · rw [hc, torn_self hx, htorn x hx]
        · exact torn_other hx hc
    rw [hnone] at htidy
    exact htidy
  writer _ h := by cases h
  confirmed _ _ h := by cases h

/-- A writer whose archive is there returns. -/
theorem finish_holds (hw : ArchiveHolds codec limits w) (hx : w.writer = some x)
    (htorn : x.stage.torn = none) (hfits : x.data.length ≤ limits.max_state_bytes)
    (hfree : NoTemps (w.directory x.conversation_id) x.digest)
    (hfinal : HasFinal (w.directory x.conversation_id) x.digest) :
    ArchiveHolds codec limits (w.finish x) ∧ Returns (w.finish x) x := by
  have htidy := hw.tidy_writer hx
  rw [htorn] at htidy
  obtain ⟨i, hi⟩ := hfinal
  have hpublished : Published (w.finish x) x := by
    have hwhole := htidy.whole _ i hi (by simp)
    refine ⟨hfree, i, LinkedDirectory.inode_of_mem htidy.distinct hi,
      htidy.nlink_final hi hfree, ?_⟩
    exact hw.apart _ hwhole.archived _ (hw.writer x hx).archived hwhole.digest
  refine ⟨?_, rfl, hpublished, rfl⟩
  · cases hsession : x.session with
    | none =>
      have hleft := leave_holds (some (.ok ())) hw (by
        intro y hy
        obtain rfl := Option.some.inj (hx.symm.trans hy)
        exact htorn)
      simpa [ArchiveWorld.finish, hsession] using hleft
    | some current =>
      have hgoes := advance_holds .returned (d := w.directory x.conversation_id) hw hx
        htidy ⟨hfree, i, hi⟩ (.inr hfits) (by simp)
      have hsame : w.finish x =
          { w.advance x .returned (w.directory x.conversation_id) with result := some (.ok ()) } := by
        simp [ArchiveWorld.finish, ArchiveWorld.advance, hsession]
      rw [hsame]
      exact { hgoes with writer := fun y hy => { hgoes.writer y hy with } }

/-! ### Each call of a writer -/

/-- What a call of a writer leads to. -/
def StepHolds (codec : StateCodec State) (limits : ArchiveLimits) (w w' : ArchiveWorld State)
    (x : ArchiveWriter State) : Prop :=
  ArchiveHolds codec limits w' ∧
    (x.data.length ≤ limits.max_state_bytes → GoesOn w w' x ∨ Returns w' x)

/-- A writer that goes on with less to do. -/
theorem advance_step (hw : ArchiveHolds codec limits w) (hx : w.writer = some x)
    (htidy : Tidy limits w.archived stage.torn d) (hat : AtStage x.data d stage)
    (hfits : stage.early = true ∨ x.data.length ≤ limits.max_state_bytes)
    (hstage : stage.working = true)
    (hwork : stage_work x.data d stage <
      stage_work x.data (w.directory x.conversation_id) x.stage) :
    StepHolds codec limits w (w.advance x stage d) x := by
  have hnot : stage ≠ .confirmed := by
    rintro rfl
    cases hstage
  refine ⟨advance_holds stage hw hx htidy hat hfits hnot, fun _ => .inl ⟨stage, rfl, hstage, rfl, ?_⟩⟩
  rw [advance_directory_self]
  exact hwork

/-- A writer past its first stages has room for its text. -/
theorem ArchiveHolds.fits (hw : ArchiveHolds codec limits w) (hx : w.writer = some x)
    (hstage : x.stage = stage) (hearly : stage.early = false) :
    x.data.length ≤ limits.max_state_bytes := by
  rcases (hw.writer x hx).fits with h | h
  · rw [hstage, hearly] at h
    cases h
  · exact h

/-- The stage of the writer, as its directory shows it. -/
theorem ArchiveHolds.at_stage (hw : ArchiveHolds codec limits w) (hx : w.writer = some x)
    (hstage : x.stage = stage) : AtStage x.data (w.directory x.conversation_id) stage := by
  rw [← hstage]
  exact (hw.writer x hx).stage

/-- A directory whose writer has written its file is tidy. -/
theorem ArchiveHolds.tidy_stage (hw : ArchiveHolds codec limits w) (hx : w.writer = some x)
    (hstage : x.stage = stage) (htorn : stage.torn = none) :
    Tidy limits w.archived none (w.directory x.conversation_id) := by
  have htidy := hw.tidy_writer hx
  rw [hstage, htorn] at htidy
  exact htidy

/-- A file for the digest of a writer holds its text. -/
theorem ArchiveHolds.content (hw : ArchiveHolds codec limits w) (hx : w.writer = some x)
    (htidy : Tidy limits w.archived none (w.directory x.conversation_id)) {n : ArchiveName} {i : Nat}
    (hn : (n, i) ∈ (w.directory x.conversation_id).entries) (hdigest : n.digest = x.digest) :
    (w.directory x.conversation_id).content i = x.data := by
  have hwhole := htidy.whole n i hn (by simp)
  exact hw.apart _ hwhole.archived _ (hw.writer x hx).archived (hwhole.digest.trans hdigest)

-- the equations of the step are made once, ahead of the lemmas that read them
attribute [local simp] writer_step in
theorem make_directory_step (hw : ArchiveHolds codec limits w) (hx : w.writer = some x)
    (h : writer_step limits w x (w.directory x.conversation_id) .make_directory = .ok w') :
    StepHolds codec limits w w' x := by
  simp only [writer_step] at h
  split at h
  · next hstage =>
    obtain rfl := ok_eq_ok.mp h
    have htidy := hw.tidy_stage hx hstage rfl
    have hgoes := advance_holds .opened hw hx htidy trivial (.inl rfl) (by simp)
    refine ⟨?_, fun _ => .inl ⟨.opened, rfl, rfl, rfl, ?_⟩⟩
    · refine { hgoes with ids := ?_, writer := ?_, confirmed := ?_ }
      · intro c hc
        simp only at hc
        split at hc
        · exact hw.ids c hc
        · rcases List.mem_append.mp hc with hc | hc
          · exact hw.ids c hc
          · rw [List.mem_singleton.mp hc]
            exact (hw.writer x hx).id
      · intro y hy
        exact { hgoes.writer y hy with }
      · rintro _ _ ⟨⟩ hconfirmed
        cases hconfirmed
    · show stage_work x.data ((w.advance x .opened _).directory x.conversation_id) .opened < _
      rw [advance_directory_self, hstage]
      simp only [stage_work]
      omega
  · cases h

/-- The temporary files for a digest have distinct names. -/
theorem temps_for_at_stage (data : List Nat) (htidy : Tidy limits w.archived none d) :
    AtStage data d (.reconciling (temps_for d (data_digest data))) := by
  refine ⟨List.Nodup.filter _ htidy.distinct, ?_⟩
  intro n
  simp only [temps_for, List.mem_filter, Bool.and_eq_true, decide_eq_true_eq]
  constructor
  · rintro ⟨hn, htemp, hdigest⟩
    obtain ⟨⟨_, i⟩, hi, rfl⟩ := List.mem_map.mp hn
    exact ⟨htemp, hdigest, i, hi⟩
  · rintro ⟨htemp, hdigest, i, hi⟩
    exact ⟨List.mem_map.mpr ⟨_, hi, rfl⟩, htemp, hdigest⟩

/-- A digest has one temporary file at most. -/
theorem temps_length {data : List Nat} {temps : List ArchiveName}
    (htidy : Tidy limits w.archived none d) (hat : AtStage data d (.reconciling temps)) :
    temps.length ≤ 1 := by
  obtain ⟨hnodup, hmem⟩ := hat
  cases temps with
  | nil => exact Nat.zero_le _
  | cons t temps =>
    cases temps with
    | nil => exact le_rfl
    | cons t' temps =>
      obtain ⟨ht, hdigest, i, hi⟩ := (hmem t).mp List.mem_cons_self
      obtain ⟨ht', hdigest', i', hi'⟩ := (hmem t').mp (by simp)
      have hsame := htidy.single t t' i i' hi hi' ht ht' (hdigest.trans hdigest'.symm)
      exact absurd hsame (by simp only [List.nodup_cons, List.mem_cons, not_or] at hnodup; exact hnodup.1.1)

theorem scan_step (hw : ArchiveHolds codec limits w) (hx : w.writer = some x)
    (h : writer_step limits w x (w.directory x.conversation_id) .scan = .ok w') :
    StepHolds codec limits w w' x := by
  simp only [writer_step] at h
  split at h
  · next hstage =>
    have htidy := hw.tidy_stage hx hstage rfl
    have hat := temps_for_at_stage x.data htidy
    have hshort := temps_length htidy hat
    split at h
    · -- a text that is too long is refused
      next hlong =>
      obtain rfl := ok_eq_ok.mp h
      refine ⟨leave_holds _ hw ?_, fun hfits => absurd hfits (Nat.not_le.mpr hlong)⟩
      intro y hy
      obtain rfl := Option.some.inj (hx.symm.trans hy)
      rw [hstage]
      rfl
    · next hfits =>
      split at h
      · next hmany =>
        have hbound : TEMP_RECONCILE_LIMIT = 64 := rfl
        simp only [ArchiveWriter.digest] at hmany
        omega
      · obtain rfl := ok_eq_ok.mp h
        refine advance_step hw hx htidy hat (.inr (Nat.not_lt.mp hfits)) rfl ?_
        have hlength : (temps_for (w.directory x.conversation_id) (data_digest x.data)).length ≤
            (w.directory x.conversation_id).entries.length := by
          exact (List.length_filter_le _ _).trans (List.length_map _).le
        rw [hstage]
        simp only [stage_work, ArchiveWriter.digest]
        omega
  · cases h

/-- A residual temporary file of a tidy directory passes its check. -/
theorem residual_ok (hw : ArchiveHolds codec limits w) (hx : w.writer = some x)
    (htidy : Tidy limits w.archived none (w.directory x.conversation_id)) {temp : ArchiveName}
    {i : Nat} (htemp : temp.is_temp = true) (hdigest : temp.digest = x.digest)
    (hi : (temp, i) ∈ (w.directory x.conversation_id).entries) :
    check_residual limits (w.directory x.conversation_id) x.digest x.data temp = .ok () := by
  have hfits := (htidy.whole temp i hi (by simp)).fits
  have hcontent := hw.content hx htidy hi hdigest
  simp only [check_residual, open_entry, validate_links, read_fd_all, bind_eq_ok, expect_eq_ok,
    refuse_eq_ok, ok_eq_ok]
  refine ⟨i, LinkedDirectory.inode_of_mem htidy.distinct hi, _, ⟨(), ?_, rfl⟩, _,
    ⟨(), Nat.not_lt.mpr hfits, rfl⟩, (), not_not.mpr hcontent, ?_⟩
  · rcases htidy.nlink hi with ⟨hone, _⟩ | ⟨htwo, _⟩
    · simp [hone]
    · simp [htwo]
  · rcases htidy.nlink hi with ⟨hone, _⟩ | ⟨htwo, m, hm, hkind, hmdigest⟩
    · rw [if_neg (by simp [hone])]
    · -- the second name is the archive
      rw [if_pos htwo]
      have hfinal : m = .final x.digest := by
        cases m with
        | final g => rw [show g = x.digest from hmdigest.trans hdigest]
        | temp _ _ => exact absurd htemp.symm hkind
      subst hfinal
      simp only [inspect_child_archive_file, open_entry, validate_links, bind_eq_ok, expect_eq_ok,
        refuse_eq_ok, ok_eq_ok]
      refine ⟨_, ⟨i, LinkedDirectory.inode_of_mem htidy.distinct hm, (), ?_, rfl⟩, ?_⟩
      · simp [htwo]
      · simp [same_file]

theorem reconcile_step (hw : ArchiveHolds codec limits w) (hx : w.writer = some x)
    (h : writer_step limits w x (w.directory x.conversation_id) .reconcile = .ok w') :
    StepHolds codec limits w w' x := by
  simp only [writer_step] at h
  split at h
  · next hstage =>
    obtain rfl := ok_eq_ok.mp h
    have htidy := hw.tidy_stage hx hstage rfl
    obtain ⟨_, hmem⟩ := hw.at_stage hx hstage
    refine advance_step hw hx htidy ?_ (.inr (hw.fits hx hstage rfl)) rfl ?_
    · intro s i hs
      exact List.not_mem_nil ((hmem _).mpr ⟨rfl, rfl, i, hs⟩)
    · rw [hstage]
      simp only [stage_work, List.length_nil]
      omega
  · next temp temps hstage =>
    have htidy := hw.tidy_stage hx hstage rfl
    obtain ⟨hnodup, hmem⟩ := hw.at_stage hx hstage
    obtain ⟨htemp, hdigest, i, hi⟩ := (hmem temp).mp List.mem_cons_self
    have hok := residual_ok hw hx htidy htemp hdigest hi
    split at h
    · obtain rfl := ok_eq_ok.mp h
      obtain ⟨hfresh, hrest⟩ := List.nodup_cons.mp hnodup
      refine advance_step hw hx (htidy.unlink temp) ⟨hrest, ?_⟩ (.inr (hw.fits hx hstage rfl))
        rfl ?_
      · intro n
        constructor
        · intro hn
          obtain ⟨hnt, hnd, j, hj⟩ := (hmem n).mp (List.mem_cons_of_mem _ hn)
          refine ⟨hnt, hnd, j, LinkedDirectory.mem_unlink.mpr ⟨hj, ?_⟩⟩
          rintro rfl
          exact hfresh hn
        · rintro ⟨hnt, hnd, j, hj⟩
          obtain ⟨hj, hne⟩ := LinkedDirectory.mem_unlink.mp hj
          rcases List.mem_cons.mp ((hmem n).mpr ⟨hnt, hnd, j, hj⟩) with heq | hn
          · exact absurd heq hne
          · exact hn
      · rw [hstage]
        simp only [stage_work, List.length_cons]
        omega
    · next hfailed =>
      rw [hok] at hfailed
      cases hfailed
  · cases h

theorem create_step {suffix : String} {inode : Nat} (hw : ArchiveHolds codec limits w)
    (hx : w.writer = some x)
    (h : writer_step limits w x (w.directory x.conversation_id) (.create suffix inode) = .ok w') :
    StepHolds codec limits w w' x := by
  simp only [writer_step] at h
  split at h
  · next attempts hstage =>
    have htidy := hw.tidy_stage hx hstage rfl
    have hfree : NoTemps (w.directory x.conversation_id) x.digest := hw.at_stage hx hstage
    have hfits := hw.fits hx hstage rfl
    split at h
    · next hexists =>
      -- no temporary file for the digest is left
      refine absurd (LinkedDirectory.inode_eq_none.mpr ?_) hexists
      rintro ⟨_, j⟩ hj rfl
      exact hfree suffix j hj
    · simp only [bind_eq_ok, refuse_eq_ok, ok_eq_ok] at h
      obtain ⟨_, hinode, rfl⟩ := h
      have hunused : ∀ n, (n, inode) ∉ (w.directory x.conversation_id).entries :=
        fun n hn => hinode (List.mem_map.mpr ⟨_, hn, rfl⟩)
      refine advance_step hw hx (htidy.create hfree hinode ?_) ?_ (.inr hfits) rfl ?_
      · by_cases hempty : x.data = []
        · refine .inr ⟨if_pos hempty, ?_⟩
          refine { archived := ?_, digest := ?_, fits := Nat.zero_le _ }
          · rw [← hempty]
            exact (hw.writer x hx).archived
          · rw [← hempty]
            rfl
        · exact .inl (if_neg hempty)
      · refine ⟨{ is_temp := rfl, digest := rfl, mem := ?_, alone := ?_ }, ?_⟩
        · exact LinkedDirectory.mem_link.mpr (.inr rfl)
        · intro n hn
          rcases LinkedDirectory.mem_link.mp hn with hn | hn
          · exact absurd hn (hunused n)
          · exact (Prod.mk.inj hn).1
        · rw [LinkedDirectory.link_content, LinkedDirectory.write_content_self]
          rfl
      · rw [hstage]
        simp only [stage_work]
        omega
  · cases h

theorem write_step {written : Nat} (hw : ArchiveHolds codec limits w) (hx : w.writer = some x)
    (h : writer_step limits w x (w.directory x.conversation_id) (.write written) = .ok w') :
    StepHolds codec limits w w' x := by
  simp only [writer_step] at h
  split at h
  · next temp inode view hstage =>
    simp only [bind_eq_ok, refuse_eq_ok, ok_eq_ok, not_or] at h
    obtain ⟨_, ⟨hpositive, hwithin⟩, rfl⟩ := h
    have htidy := hw.tidy_writer hx
    rw [hstage] at htidy
    obtain ⟨htemp, hview⟩ := hw.at_stage hx hstage
    -- the file, the bytes of this call and the rest make the text
    have hwritten : (w.directory x.conversation_id).content inode ++ view.take written ++
        view.drop written = x.data := by
      rw [List.append_assoc, List.take_append_drop]
      exact hview
    -- the file is torn until its last byte is in it
    refine advance_step hw hx (htidy.write htemp.mem htemp.alone ?_ ?_) ?_
      (.inr (hw.fits hx hstage rfl)) rfl ?_
    · by_cases hempty : view = []
      · exact .inl (if_pos hempty)
      · exact .inr (if_neg hempty)
    · by_cases hdone : view.drop written = []
      · refine .inr ⟨if_pos hdone, ?_⟩
        rw [hdone, List.append_nil] at hwritten
        rw [hwritten, htemp.digest]
        exact { archived := (hw.writer x hx).archived, digest := rfl, fits := hw.fits hx hstage rfl }
      · exact .inl (if_neg hdone)
    · refine ⟨{ is_temp := htemp.is_temp, digest := htemp.digest, mem := htemp.mem
                alone := htemp.alone }, ?_⟩
      rw [LinkedDirectory.write_content_self]
      exact hwritten
    · rw [hstage]
      simp only [stage_work, List.length_drop]
      omega
  · cases h

theorem fsync_temp_step (hw : ArchiveHolds codec limits w) (hx : w.writer = some x)
    (h : writer_step limits w x (w.directory x.conversation_id) .fsync_temp = .ok w') :
    StepHolds codec limits w w' x := by
  simp only [writer_step] at h
  split at h
  · next temp inode hstage =>
    obtain rfl := ok_eq_ok.mp h
    have htidy := hw.tidy_stage hx hstage rfl
    obtain ⟨htemp, _⟩ := hw.at_stage hx hstage
    refine advance_step hw hx htidy ⟨inode, htemp⟩ (.inr (hw.fits hx hstage rfl)) rfl ?_
    rw [hstage]
    simp only [stage_work, List.length_nil]
    omega
  · cases h

theorem link_step (hw : ArchiveHolds codec limits w) (hx : w.writer = some x)
    (h : writer_step limits w x (w.directory x.conversation_id) .link = .ok w') :
    StepHolds codec limits w w' x := by
  simp only [writer_step] at h
  split at h
  · next temp hstage =>
    have htidy := hw.tidy_stage hx hstage rfl
    obtain ⟨i, htemp⟩ := hw.at_stage hx hstage
    have hfits := hw.fits hx hstage rfl
    have hinode := LinkedDirectory.inode_of_mem htidy.distinct htemp.mem
    -- the name of the archive is free, or `link` finds it taken
    split at h
    · next j hfree hj =>
      obtain rfl := ok_eq_ok.mp h
      obtain rfl := Option.some.inj (hinode.symm.trans hj)
      refine advance_step hw hx (htidy.publish htemp hfree) ?_ (.inr hfits) rfl ?_
      · exact ⟨htemp.is_temp, htemp.digest, i, LinkedDirectory.mem_link.mpr (.inl htemp.mem),
          LinkedDirectory.mem_link.mpr (.inr rfl)⟩
      · rw [hstage]
        simp [stage_work]
    · next hnone => cases hinode.symm.trans hnone
    · next j hexists =>
      obtain rfl := ok_eq_ok.mp h
      refine advance_step hw hx htidy ⟨⟨i, htemp⟩, j, LinkedDirectory.mem_of_inode hexists⟩
        (.inr hfits) rfl ?_
      rw [hstage]
      simp [stage_work]
  · cases h

theorem unlink_temp_step (hw : ArchiveHolds codec limits w) (hx : w.writer = some x)
    (h : writer_step limits w x (w.directory x.conversation_id) .unlink_temp = .ok w') :
    StepHolds codec limits w w' x := by
  simp only [writer_step] at h
  split at h
  · next temp hstage =>
    obtain rfl := ok_eq_ok.mp h
    have htidy := hw.tidy_stage hx hstage rfl
    obtain ⟨htemp, hdigest, i, hi, hfinal⟩ := hw.at_stage hx hstage
    refine advance_step hw hx (htidy.unlink temp) ⟨htidy.no_temps htemp hdigest hi, ?_⟩
      (.inr (hw.fits hx hstage rfl)) rfl ?_
    · exact HasFinal.unlink ⟨i, hfinal⟩ htemp
    · rw [hstage]
      simp [stage_work]
  · cases h

theorem fsync_directory_step (hw : ArchiveHolds codec limits w) (hx : w.writer = some x)
    (h : writer_step limits w x (w.directory x.conversation_id) .fsync_directory = .ok w') :
    StepHolds codec limits w w' x := by
  simp only [writer_step] at h
  split at h
  · next hstage =>
    obtain rfl := ok_eq_ok.mp h
    obtain ⟨hfree, hfinal⟩ := hw.at_stage hx hstage
    have hfinish := finish_holds hw hx (by rw [hstage]; rfl) (hw.fits hx hstage rfl) hfree hfinal
    exact ⟨hfinish.1, fun _ => .inr hfinish.2⟩
  · cases h

theorem verify_step (hw : ArchiveHolds codec limits w) (hx : w.writer = some x)
    (h : writer_step limits w x (w.directory x.conversation_id) .verify = .ok w') :
    StepHolds codec limits w w' x := by
  simp only [writer_step] at h
  split at h
  · next temp hstage =>
    obtain rfl := ok_eq_ok.mp h
    have htidy := hw.tidy_stage hx hstage rfl
    obtain ⟨⟨i, htemp⟩, j, hj⟩ := hw.at_stage hx hstage
    have hok : verify_existing limits (w.directory x.conversation_id) x.digest x.data = .ok () := by
      -- the temporary file has its own inode, so the archive has one link
      have hone : (w.directory x.conversation_id).nlink j = 1 := by
        rcases htidy.nlink hj with ⟨hone, _⟩ | ⟨_, m, hm, hkind, hmdigest⟩
        · exact hone
        · have hmtemp : m = temp := by
            refine htidy.same_name hm htemp.mem ?_ (hmdigest.trans htemp.digest.symm)
            rw [htemp.is_temp]
            simpa using hkind
          rw [hmtemp] at hm
          have hij := htidy.distinct.inode_eq hm htemp.mem
          rw [hij] at hj
          have hfalse := congrArg ArchiveName.is_temp (htemp.alone _ hj)
          rw [htemp.is_temp] at hfalse
          cases hfalse
      have hfits := (htidy.whole _ j hj (by simp)).fits
      simp only [verify_existing, open_entry, validate_links, read_fd_all, bind_eq_ok, expect_eq_ok,
        refuse_eq_ok, ok_eq_ok]
      exact ⟨j, LinkedDirectory.inode_of_mem htidy.distinct hj, _, ⟨(), by simp [hone], rfl⟩, _,
        ⟨(), Nat.not_lt.mpr hfits, rfl⟩, not_not.mpr (hw.content hx htidy hj rfl)⟩
    refine advance_step hw hx htidy ⟨hok, ⟨i, htemp⟩, j, hj⟩ (.inr (hw.fits hx hstage rfl))
      rfl ?_
    rw [hstage]
    simp [stage_work]
  · cases h

theorem cleanup_step (hw : ArchiveHolds codec limits w) (hx : w.writer = some x)
    (h : writer_step limits w x (w.directory x.conversation_id) .cleanup = .ok w') :
    StepHolds codec limits w w' x := by
  simp only [writer_step] at h
  split at h
  · next temp result hstage =>
    obtain rfl := ok_eq_ok.mp h
    have htidy := hw.tidy_stage hx hstage rfl
    obtain ⟨hok, ⟨i, htemp⟩, hfinal⟩ := hw.at_stage hx hstage
    refine advance_step hw hx (htidy.unlink temp)
      ⟨hok, htidy.no_temps htemp.is_temp htemp.digest htemp.mem, hfinal.unlink htemp.is_temp⟩
      (.inr (hw.fits hx hstage rfl)) rfl ?_
    rw [hstage]
    simp [stage_work]
  · cases h

theorem fsync_cleanup_step (hw : ArchiveHolds codec limits w) (hx : w.writer = some x)
    (h : writer_step limits w x (w.directory x.conversation_id) .fsync_cleanup = .ok w') :
    StepHolds codec limits w w' x := by
  simp only [writer_step] at h
  split at h
  · next hstage =>
    obtain rfl := ok_eq_ok.mp h
    obtain ⟨_, hfree, hfinal⟩ := hw.at_stage hx hstage
    have hfinish := finish_holds hw hx (by rw [hstage]; rfl) (hw.fits hx hstage rfl) hfree hfinal
    exact ⟨hfinish.1, fun _ => .inr hfinish.2⟩
  · next e hstage =>
    obtain ⟨hfalse, _⟩ := hw.at_stage hx hstage
    cases hfalse
  · cases h

end Steps

/-! ### Every call -/

/-- The calls of `archive` itself. -/
def ArchiveCall.works {State : Type} : ArchiveCall State → Bool
  | .make_directory | .scan | .reconcile | .create _ _ | .write _ | .fsync_temp | .link
  | .unlink_temp | .fsync_directory | .verify | .cleanup | .fsync_cleanup => true
  | _ => false

/-- The call stops the writer inside its write loop. -/
def stops_in_write {State : Type} (w : ArchiveWorld State) : ArchiveCall State → Bool
  | .stop => w.writer.any fun x => x.stage.torn.isSome
  | _     => false

/-- The call archives a text that shares its digest with another one. -/
def collides {State : Type} (codec : StateCodec State) (w : ArchiveWorld State) :
    ArchiveCall State → Bool
  | .begin state _ _ => w.archived.any fun data =>
    data_digest data = data_digest (codec.encode state) && data ≠ codec.encode state
  | .begin_session conversation_id _ _ =>
    ((w.checkpoint conversation_id).bind codec.decode).any fun state => w.archived.any fun data =>
      data_digest data = data_digest (codec.encode state) && data ≠ codec.encode state
  | _ => false

section Runs

variable {State : Type} {codec : StateCodec State} {limits : ArchiveLimits}
  {w w' : ArchiveWorld State} {x : ArchiveWriter State} {l : ArchiveCall State}

/-- What a started writer is. -/
theorem start_ok {state : State} {token scope : String} {session : Option (LoadedSnapshot State)}
    (h : start_writer codec w state token scope session = .ok w') :
    w.writer = none ∧ validate_conversation_id (codec.conversation_id state) = .ok () ∧
      data_token (codec.encode state) = token ∧ w' = { w with
        writer := some {
          conversation_id := codec.conversation_id state, workspace_scope_digest := scope
          data := codec.encode state, session, stage := .started }
        archived := codec.encode state :: w.archived
        result := none } := by
  simp only [start_writer, check_archive, bind_eq_ok, refuse_eq_ok, expect_eq_ok, ok_eq_ok,
    Bool.not_eq_true, Option.isSome_eq_false_iff, Option.isNone_iff_eq_none, not_not] at h
  obtain ⟨_, hfree, _, ⟨_, hid, _, _, _, _, _, _, _, _, _, htoken, rfl⟩, rfl⟩ := h
  exact ⟨hfree, hid, htoken, rfl⟩

/-- A started writer keeps the invariant. -/
theorem start_holds {state : State} {token scope : String}
    {session : Option (LoadedSnapshot State)} (hw : ArchiveHolds codec limits w)
    (hapart : ∀ data ∈ w.archived, data_digest data = data_digest (codec.encode state) →
      data = codec.encode state)
    (h : start_writer codec w state token scope session = .ok w') :
    ArchiveHolds codec limits w' := by
  obtain ⟨hfree, hid, _, rfl⟩ := start_ok h
  have hnone : ∀ c, w.torn c = none := by
    intro c
    simp [ArchiveWorld.torn, hfree]
  refine { ids := hw.ids, apart := ?_, tidy := ?_, writer := ?_, confirmed := ?_ }
  · intro a ha b hb hsame
    -- the new text shares its digest with no other text
    rcases List.mem_cons.mp ha with rfl | ha <;> rcases List.mem_cons.mp hb with rfl | hb
    · rfl
    · exact (hapart b hb hsame.symm).symm
    · exact hapart a ha hsame
    · exact hw.apart a ha b hb hsame
  · intro c
    have htidy := hw.tidy c
    rw [hnone] at htidy
    have hstill : ∀ y : ArchiveWriter State, y.stage = .started →
        (if y.conversation_id = c then y.stage.torn else none) = none := by
      intro y hy
      rw [hy]
      simp [ArchiveStage.torn]
    show Tidy limits _ (if _ then _ else _) _
    rw [hstill _ rfl]
    exact htidy.mono fun _ hx => List.mem_cons_of_mem _ hx
  · rintro _ ⟨⟩
    refine { id := ?_, archived := List.mem_cons_self, fits := .inl rfl, stage := trivial }
    simpa [validate_conversation_id, refuse_eq_ok] using hid
  · rintro _ _ ⟨⟩ hconfirmed
    cases hconfirmed

/-- Outside of `archive` itself none of its calls is accepted. -/
theorem works_stage (hl : l.works = true)
    (h : writer_step limits w x (w.directory x.conversation_id) l = .ok w') :
    x.stage.working = true := by
  cases hstage : x.stage with
  | returned => cases l <;> simp [writer_step, hstage] at h
  | confirmed => cases l <;> simp [writer_step, hstage] at h
  | _ => rfl

variable [DecidableEq State]

/-- A call of the archive is a call of its writer. -/
theorem works_step (hl : l.works = true) (h : archive_step codec limits w l = .ok w') :
    ∃ x, w.writer = some x ∧
      writer_step limits w x (w.directory x.conversation_id) l = .ok w' := by
  cases l with
  | save _ _ => cases hl
  | begin _ _ _ => cases hl
  | begin_session _ _ _ => cases hl
  | read_back => cases hl
  | retire => cases hl
  | stop => cases hl
  | _ =>
    simp only [archive_step, bind_eq_ok, expect_eq_ok] at h
    exact h

/-- The calls of the archive keep the directories tidy. -/
theorem works_holds (hw : ArchiveHolds codec limits w) (hl : l.works = true)
    (h : archive_step codec limits w l = .ok w') :
    ∃ x, w.writer = some x ∧ StepHolds codec limits w w' x := by
  obtain ⟨x, hx, hstep⟩ := works_step hl h
  refine ⟨x, hx, ?_⟩
  cases l with
  | make_directory => exact make_directory_step hw hx hstep
  | scan => exact scan_step hw hx hstep
  | reconcile => exact reconcile_step hw hx hstep
  | create _ _ => exact create_step hw hx hstep
  | write _ => exact write_step hw hx hstep
  | fsync_temp => exact fsync_temp_step hw hx hstep
  | link => exact link_step hw hx hstep
  | unlink_temp => exact unlink_temp_step hw hx hstep
  | fsync_directory => exact fsync_directory_step hw hx hstep
  | verify => exact verify_step hw hx hstep
  | cleanup => exact cleanup_step hw hx hstep
  | fsync_cleanup => exact fsync_cleanup_step hw hx hstep
  | save _ _ => cases hl
  | begin _ _ _ => cases hl
  | begin_session _ _ _ => cases hl
  | read_back => cases hl
  | retire => cases hl
  | stop => cases hl

theorem read_back_holds (hw : ArchiveHolds codec limits w)
    (h : archive_step codec limits w .read_back = .ok w') : ArchiveHolds codec limits w' := by
  simp only [archive_step, bind_eq_ok, expect_eq_ok] at h
  obtain ⟨x, hx, current, hsession, h⟩ := h
  simp only [session_end] at h
  split at h
  · next hstage =>
    have hwriter := hw.writer x hx
    have hfits := hw.fits hx hstage rfl
    split at h
    · next hloaded =>
      obtain rfl := ok_eq_ok.mp h
      refine { ids := hw.ids, apart := hw.apart, tidy := ?_, writer := ?_, confirmed := ?_ }
      · intro c
        have htidy := hw.tidy c
        have hsame : w.torn c = none := by
          simp [ArchiveWorld.torn, hx, hstage, ArchiveStage.torn]
        rw [hsame] at htidy
        simpa [ArchiveWorld.torn, ArchiveStage.torn] using htidy
      · rintro _ ⟨⟩
        have hat := hwriter.stage
        rw [hstage] at hat
        exact { id := hwriter.id, archived := hwriter.archived
                fits := .inr hfits, stage := hat }
      · rintro _ current' ⟨⟩ _ hsession'
        obtain rfl := Option.some.inj (hsession.symm.trans hsession')
        exact hloaded
    · obtain rfl := ok_eq_ok.mp h
      refine leave_holds w.result hw ?_
      intro y hy
      obtain rfl := Option.some.inj (hx.symm.trans hy)
      rw [hstage]
      rfl
  · cases h

theorem retire_holds (hw : ArchiveHolds codec limits w)
    (h : archive_step codec limits w .retire = .ok w') : ArchiveHolds codec limits w' := by
  simp only [archive_step, bind_eq_ok, expect_eq_ok] at h
  obtain ⟨x, hx, current, _, h⟩ := h
  simp only [session_end] at h
  split at h
  · next hstage =>
    have hleft := leave_holds w.result hw (by
      intro y hy
      obtain rfl := Option.some.inj (hx.symm.trans hy)
      rw [hstage]
      rfl)
    split at h
    · obtain rfl := ok_eq_ok.mp h
      exact { hleft with writer := fun _ heq => by cases heq }
    · obtain rfl := ok_eq_ok.mp h
      exact hleft
  · cases h

/-- A call that neither stops a writer inside its write loop nor archives a
    colliding text keeps the directories tidy. -/
theorem archive_holds (hw : ArchiveHolds codec limits w) (hstop : stops_in_write w l = false)
    (hapart : collides codec w l = false) (h : archive_step codec limits w l = .ok w') :
    ArchiveHolds codec limits w' := by
  by_cases hworks : l.works = true
  · obtain ⟨x, _, hstep, _⟩ := works_holds hw hworks h
    exact hstep
  · cases l with
    | save c data =>
      simp only [archive_step, bind_eq_ok, ok_eq_ok] at h
      obtain ⟨_, _, rfl⟩ := h
      exact { hw with writer := fun y hy => { hw.writer y hy with } }
    | begin state token scope =>
      -- no archived text collides with the new one
      refine start_holds hw ?_ h
      intro data hdata hsame
      have hnot := List.any_eq_false.mp hapart data hdata
      simpa [hsame] using hnot
    | begin_session c token scope =>
      simp only [archive_step, check_session, load_checkpoint, bind_eq_ok, expect_eq_ok,
        refuse_eq_ok, ok_eq_ok] at h
      obtain ⟨current, ⟨_, ⟨data, hdata, state, hstate, rfl⟩, _, _, _, _, _, _, rfl⟩, h⟩ := h
      refine start_holds hw ?_ h
      intro other hother hsame
      simp only [collides, hdata, Option.bind_some, hstate, Option.any_some] at hapart
      have hnot := List.any_eq_false.mp hapart other hother
      simpa [hsame] using hnot
    | read_back => exact read_back_holds hw h
    | retire => exact retire_holds hw h
    | stop =>
      obtain rfl := ok_eq_ok.mp h
      refine leave_holds w.result hw ?_
      intro y hy
      simpa [stops_in_write, hy] using hstop
    | _ => exact absurd rfl hworks

/-! ### An archive that is not stopped -/

/-- An archive that is not stopped is still at work with less to do, or has
    returned. -/
theorem works_run {ls : List (ArchiveCall State)} (hw : ArchiveHolds codec limits w)
    (hx : w.writer = some x) (hworking : x.stage.working = true)
    (hfits : x.data.length ≤ limits.max_state_bytes) (hls : ∀ m ∈ ls, m.works = true)
    (hrun : (archive_system codec limits).run w ls = .ok w') :
    ls.length ≤ stage_work x.data (w.directory x.conversation_id) x.stage ∧
    ArchiveHolds codec limits w' ∧
    ((∃ stage, w'.writer = some { x with stage } ∧ stage.working = true ∧ w'.result = w.result) ∨
      Returns w' x) := by
  -- each call leaves less work, until the archive returns
  induction ls generalizing w x with
  | nil =>
    obtain rfl := System.run_nil.mp hrun
    exact ⟨Nat.zero_le _, hw, .inl ⟨x.stage, hx, hworking, rfl⟩⟩
  | cons m ls ih =>
    obtain ⟨w₁, hstep, hrest⟩ := System.run_cons.mp hrun
    have hm := hls m List.mem_cons_self
    have hrestworks := fun n hn => hls n (List.mem_cons_of_mem _ hn)
    obtain ⟨y, hy, hw₁, hgoes⟩ := works_holds hw hm hstep
    obtain rfl := Option.some.inj (hx.symm.trans hy)
    rcases hgoes hfits with ⟨stage, hwriter, hstage, hresult, hless⟩ | hreturns
    · -- the rest of the run does less
      obtain ⟨hlength, hw', hend⟩ :=
        ih (x := { x with stage }) hw₁ hwriter hstage hfits hrestworks hrest
      refine ⟨?_, hw', ?_⟩
      · simp only [List.length_cons]
        simp only at hlength
        omega
      · rcases hend with ⟨stage', hwriter', hstage', hresult'⟩ | hreturns
        · exact .inl ⟨stage', hwriter', hstage', hresult'.trans hresult⟩
        · exact .inr hreturns
    · -- an archive that has returned takes no call
      cases ls with
      | nil =>
        obtain rfl := System.run_nil.mp hrest
        refine ⟨?_, hw₁, .inr hreturns⟩
        cases hcase : x.stage <;> simp [stage_work] <;> simp [hcase, ArchiveStage.working] at hworking
      | cons n ls =>
        obtain ⟨_, hn, _⟩ := System.run_cons.mp hrest
        obtain ⟨y, hy, hwritten⟩ := works_step (hrestworks n List.mem_cons_self) hn
        have hworking' := works_stage (hrestworks n List.mem_cons_self) hwritten
        rw [hreturns.2.2] at hy
        split at hy
        · obtain rfl := Option.some.inj hy
          cases hworking'
        · cases hy

/-- A directory has inodes that are not in use. -/
theorem unused_inode (d : ArchiveDirectory) : ∃ i, i ∉ d.entries.map Prod.snd := by
  obtain ⟨i, hi⟩ := Infinite.exists_notMem_finset (d.entries.map Prod.snd).toFinset
  exact ⟨i, fun hmem => hi (List.mem_toFinset.mpr hmem)⟩

/-- A writer at work has a next call. -/
theorem works_progress (hw : ArchiveHolds codec limits w) (hx : w.writer = some x)
    (hworking : x.stage.working = true) :
    ∃ m w'', m.works = true ∧ archive_step codec limits w m = .ok w'' := by
  have hstep : ∀ m, m.works = true →
      succeeds (writer_step limits w x (w.directory x.conversation_id) m) (fun _ => true) = true →
      ∃ m w'', m.works = true ∧ archive_step codec limits w m = .ok w'' := by
    intro m hm h
    obtain ⟨w'', h, _⟩ := succeeds_iff.mp h
    refine ⟨m, w'', hm, ?_⟩
    cases m with
    | save _ _ => cases hm
    | begin _ _ _ => cases hm
    | begin_session _ _ _ => cases hm
    | read_back => cases hm
    | retire => cases hm
    | stop => cases hm
    | _ =>
      simp only [archive_step, bind_eq_ok, expect_eq_ok]
      exact ⟨x, hx, h⟩
  -- every stage takes the call that `archive` makes next
  cases hstage : x.stage with
  | started => exact hstep .make_directory rfl (by simp [writer_step, hstage, Fallible.succeeds])
  | opened =>
    by_cases hlong : limits.max_state_bytes < x.data.length
    · exact hstep .scan rfl (by simp [writer_step, hstage, if_pos hlong, Fallible.succeeds])
    · by_cases hmany : TEMP_RECONCILE_LIMIT <
          (temps_for (w.directory x.conversation_id) x.digest).length
      · exact hstep .scan rfl (by simp [writer_step, hstage, if_neg hlong, if_pos hmany, Fallible.succeeds])
      · exact hstep .scan rfl (by simp [writer_step, hstage, if_neg hlong, if_neg hmany, Fallible.succeeds])
  | reconciling temps =>
    cases temps with
    | nil => exact hstep .reconcile rfl (by simp [writer_step, hstage, Fallible.succeeds])
    | cons temp temps =>
      cases hcheck : check_residual limits (w.directory x.conversation_id) x.digest x.data temp with
      | ok _ => exact hstep .reconcile rfl (by simp [writer_step, hstage, hcheck, Fallible.succeeds])
      | error e => exact hstep .reconcile rfl (by simp [writer_step, hstage, hcheck, Fallible.succeeds])
  | allocating attempts =>
    obtain ⟨i, hi⟩ := unused_inode (w.directory x.conversation_id)
    -- reconciliation left no temporary name of this digest
    have hfree : NoTemps (w.directory x.conversation_id) x.digest := hw.at_stage hx hstage
    have hnone : (w.directory x.conversation_id).inode (.temp x.digest "") = none := by
      refine LinkedDirectory.inode_eq_none.mpr ?_
      rintro ⟨_, j⟩ hj rfl
      exact hfree "" j hj
    have haccepted : refuse (i ∈ (w.directory x.conversation_id).entries.map Prod.snd)
        out_of_turn = .ok () := refuse_eq_ok.mpr hi
    refine hstep (.create "" i) rfl ?_
    simp only [writer_step, hstage, hnone, haccepted]
    rfl
  | writing temp inode view =>
    cases view with
    | nil => exact hstep .fsync_temp rfl (by simp [writer_step, hstage, Fallible.succeeds])
    | cons b view =>
      have haccepted : refuse (1 = 0 ∨ (b :: view).length < 1) out_of_turn = .ok () :=
        refuse_eq_ok.mpr (by simp)
      refine hstep (.write 1) rfl ?_
      simp only [writer_step, hstage, haccepted]
      rfl
  | synced temp =>
    obtain ⟨i, htemp⟩ := hw.at_stage hx hstage
    have hinode := LinkedDirectory.inode_of_mem (hw.tidy_stage hx hstage rfl).distinct htemp.mem
    cases hfinal : (w.directory x.conversation_id).inode (.final x.digest) with
    | none => exact hstep .link rfl (by simp [writer_step, hstage, hfinal, hinode, Fallible.succeeds])
    | some _ => exact hstep .link rfl (by simp [writer_step, hstage, hfinal, Fallible.succeeds])
  | linked temp => exact hstep .unlink_temp rfl (by simp [writer_step, hstage, Fallible.succeeds])
  | unlinked => exact hstep .fsync_directory rfl (by simp [writer_step, hstage, Fallible.succeeds])
  | existing temp => exact hstep .verify rfl (by simp [writer_step, hstage, Fallible.succeeds])
  | cleaning temp result => exact hstep .cleanup rfl (by simp [writer_step, hstage, Fallible.succeeds])
  | cleaned result =>
    cases result with
    | ok _ => exact hstep .fsync_cleanup rfl (by simp [writer_step, hstage, Fallible.succeeds])
    | error e => exact hstep .fsync_cleanup rfl (by simp [writer_step, hstage, Fallible.succeeds])
  | returned =>
    rw [hstage] at hworking
    cases hworking
  | confirmed =>
    rw [hstage] at hworking
    cases hworking

end Runs

/-! ### Every run -/

/-- What is promised of the archives of a workspace. -/
structure ArchiveSafe {State : Type} [DecidableEq State] (codec : StateCodec State)
    (limits : ArchiveLimits) (w : ArchiveWorld State) : Prop where
  /-- An archive holds the text of its digest. -/
  named : ∀ c digest i, (.final digest, i) ∈ (w.directory c).entries →
    data_digest ((w.directory c).content i) = digest
  /-- With no writer at work, an archive that is not stopped ends, and ends with
      one single-link file and no temporary file for its digest. -/
  recovers : w.writer = none → ∀ state token scope, collides codec w (.begin state token scope) = false →
    check_archive codec state token scope = .ok (codec.encode state) →
    (codec.encode state).length ≤ limits.max_state_bytes →
    ∃ w₁ bound, archive_step codec limits w (.begin state token scope) = .ok w₁ ∧
      ∀ ls w', (∀ m ∈ ls, m.works = true) → (archive_system codec limits).run w₁ ls = .ok w' →
        ls.length ≤ bound ∧
        ((w'.result = none ∧ ∃ m w'', m.works = true ∧ archive_step codec limits w' m = .ok w'') ∨
          (w'.result = some (.ok ()) ∧ w'.writer = none ∧
            NoTemps (w'.directory (codec.conversation_id state)) (data_digest (codec.encode state)) ∧
            ∃ i, (w'.directory (codec.conversation_id state)).inode
                (.final (data_digest (codec.encode state))) = some i ∧
              (w'.directory (codec.conversation_id state)).nlink i = 1 ∧
              (w'.directory (codec.conversation_id state)).content i = codec.encode state))
  /-- Out of a write loop and within its bounds, the listing does not raise. -/
  lists : ∀ scope, validate_scope_digest scope = .ok () → (∀ c, w.torn c = none) →
    (∀ c ∈ w.conversations, temp_count (w.directory c) ≤ TEMP_RECONCILE_LIMIT) →
    (w.conversations.map fun c => archive_count (w.directory c)).sum ≤ limits.max_archives →
    ∃ records, list_archived limits scope w.conversations w.directory = .ok records ∧
      ∀ r, r ∈ records ↔ ∃ c ∈ w.conversations, ∃ digest i,
        (.final digest, i) ∈ (w.directory c).entries ∧
        r = { conversation_id := c, workspace_scope_digest := scope
              source_checkpoint_digest := "sha256:" ++ digest }
  /-- A checkpoint is only removed when its archive is read back as it. -/
  retires : ∀ l w' c, archive_step codec limits w l = .ok w' → w.checkpoint c ≠ none →
    w'.checkpoint c = none → ∃ snapshot record, load_checkpoint codec (w.checkpoint c) = .ok snapshot ∧
      record.conversation_id = c ∧ record.source_checkpoint_digest = snapshot.token ∧
      load_archived codec limits w'.conversations w'.directory record = .ok snapshot

section Safe

variable {State : Type} {codec : StateCodec State} {limits : ArchiveLimits}
  {w w' : ArchiveWorld State} {x : ArchiveWriter State} {l : ArchiveCall State}

/-- The archive leaves the checkpoints. -/
theorem writer_checkpoint (h : writer_step limits w x (w.directory x.conversation_id) l = .ok w') :
    w'.checkpoint = w.checkpoint := by
  cases l with
  | create suffix inode =>
    simp only [writer_step] at h
    split at h
    · split at h
      · split at h
        · obtain rfl := ok_eq_ok.mp h
          rfl
        · obtain rfl := ok_eq_ok.mp h
          rfl
      · simp only [bind_eq_ok, ok_eq_ok] at h
        obtain ⟨_, _, rfl⟩ := h
        rfl
    · cases h
  | write written =>
    simp only [writer_step] at h
    split at h
    · simp only [bind_eq_ok, ok_eq_ok] at h
      obtain ⟨_, _, rfl⟩ := h
      rfl
    · cases h
  | _ =>
    simp only [writer_step] at h
    repeat' split at h
    all_goals first | (obtain rfl := ok_eq_ok.mp h; rfl) | cases h

variable [DecidableEq State]

/-- Only `retire` removes a checkpoint. -/
theorem checkpoint_step {c : String} (h : archive_step codec limits w l = .ok w')
    (hthere : w.checkpoint c ≠ none) (hgone : w'.checkpoint c = none) : l = .retire := by
  by_cases hworks : l.works = true
  · obtain ⟨x, _, hstep⟩ := works_step hworks h
    rw [writer_checkpoint hstep] at hgone
    exact absurd hgone hthere
  · cases l with
    | retire => rfl
    | save c' data =>
      simp only [archive_step, bind_eq_ok, ok_eq_ok] at h
      obtain ⟨_, _, rfl⟩ := h
      -- a save leaves a checkpoint where it saves
      by_cases hc : c = c'
      · subst hc
        simp at hgone
      · simp only [Function.update_of_ne hc] at hgone
        exact absurd hgone hthere
    | begin state token scope =>
      obtain ⟨_, _, _, rfl⟩ := start_ok h
      exact absurd hgone hthere
    | begin_session c' token scope =>
      simp only [archive_step, bind_eq_ok] at h
      obtain ⟨_, _, h⟩ := h
      obtain ⟨_, _, _, rfl⟩ := start_ok h
      exact absurd hgone hthere
    | read_back =>
      simp only [archive_step, session_end, bind_eq_ok, expect_eq_ok] at h
      obtain ⟨_, _, _, _, h⟩ := h
      split at h
      · split at h
        · obtain rfl := ok_eq_ok.mp h
          exact absurd hgone hthere
        · obtain rfl := ok_eq_ok.mp h
          exact absurd hgone hthere
      · cases h
    | stop =>
      obtain rfl := ok_eq_ok.mp h
      exact absurd hgone hthere
    | _ => exact absurd rfl hworks

/-- What is removed was read back. -/
theorem retire_safe {c : String} (hw : ArchiveHolds codec limits w)
    (h : archive_step codec limits w .retire = .ok w') (hthere : w.checkpoint c ≠ none)
    (hgone : w'.checkpoint c = none) :
    ∃ snapshot record, load_checkpoint codec (w.checkpoint c) = .ok snapshot ∧
      record.conversation_id = c ∧ record.source_checkpoint_digest = snapshot.token ∧
      load_archived codec limits w'.conversations w'.directory record = .ok snapshot := by
  simp only [archive_step, session_end, bind_eq_ok, expect_eq_ok] at h
  obtain ⟨x, hx, current, hsession, h⟩ := h
  split at h
  · next hstage =>
    split at h
    · next hcheck =>
      obtain rfl := ok_eq_ok.mp h
      -- only the writer's own checkpoint is removed
      have hc : c = x.conversation_id := by
        by_contra hne
        simp only [Function.update_of_ne hne] at hgone
        exact hthere hgone
      subst hc
      simp only [check_retirement, bind_eq_ok, refuse_eq_ok, not_or, not_not] at hcheck
      obtain ⟨snapshot, hsnapshot, _, rfl, _, htoken, _⟩ := hcheck
      exact ⟨snapshot, x.record, hsnapshot, rfl, htoken, hw.confirmed x _ hx hstage hsession⟩
    · obtain rfl := ok_eq_ok.mp h
      exact absurd hgone hthere
  · cases h

theorem ArchiveHolds.safe (hw : ArchiveHolds codec limits w) : ArchiveSafe codec limits w where
  named c digest i hi := by
    refine ((hw.tidy c).whole _ i hi ?_).digest
    -- an archive is never the file in the write loop
    cases hx : w.writer with
    | none => simp [ArchiveWorld.torn, hx]
    | some x =>
      by_cases hc : c = x.conversation_id
      · rw [hc, torn_self hx]
        intro htorn
        have hat := (hw.writer x hx).stage
        cases hstage : x.stage with
        | writing temp inode view =>
          rw [hstage] at htorn hat
          simp only [ArchiveStage.torn] at htorn
          split at htorn
          · cases htorn
          · have htemp := hat.1.is_temp
            rw [Option.some.inj htorn] at htemp
            cases htemp
        | _ =>
          rw [hstage] at htorn
          cases htorn
      · rw [torn_other hx hc]
        simp
  recovers hfree state token scope hcollides hcheck hfits := by
    have hbegin : archive_step codec limits w (.begin state token scope) = .ok { w with
        writer := some {
          conversation_id := codec.conversation_id state, workspace_scope_digest := scope
          data := codec.encode state, session := none, stage := .started }
        archived := codec.encode state :: w.archived
        result := none } := by
      simp only [archive_step, start_writer, hcheck, hfree, bind_eq_ok, refuse_eq_ok, ok_eq_ok]
      exact ⟨(), by simp, _, rfl, rfl⟩
    have hw₁ := archive_holds hw rfl hcollides hbegin
    refine ⟨_, stage_work (codec.encode state) (w.directory (codec.conversation_id state)) .started,
      hbegin, fun ls w' hls hrun => ?_⟩
    obtain ⟨hlength, hw', hend⟩ := works_run hw₁ rfl rfl hfits hls hrun
    refine ⟨hlength, ?_⟩
    rcases hend with ⟨stage, hwriter, hworking, hresult⟩ | ⟨hresult, hpublished, hleft⟩
    · exact .inl ⟨hresult, works_progress hw' hwriter hworking⟩
    · exact .inr ⟨hresult, hleft, hpublished⟩
  lists scope hscope hwritten htemps harchives := by
    have htidy : ∀ c ∈ w.conversations, Tidy limits w.archived none (w.directory c) := by
      intro c _
      have hc := hw.tidy c
      rw [hwritten c] at hc
      exact hc
    exact list_archived_ok hscope hw.ids htidy htemps harchives
  retires l w' c h hthere hgone := by
    obtain rfl := checkpoint_step h hthere hgone
    exact retire_safe hw h hthere hgone

end Safe

/-- **Every run of the archives of a workspace is safe** when no writer is
    stopped inside its write loop and no two archived texts share a digest. -/
theorem archive_runs_safe {State : Type} [DecidableEq State] (codec : StateCodec State)
    (limits : ArchiveLimits) (calls : List (ArchiveCall State)) (w : ArchiveWorld State)
    (hwritten : (archive_system codec limits).Along (fun w l => stops_in_write w l = false) {} calls)
    (hapart : (archive_system codec limits).Along (fun w l => collides codec w l = false) {} calls)
    (hrun : (archive_system codec limits).run {} calls = .ok w) : ArchiveSafe codec limits w := by
  have hstart : ArchiveHolds codec limits ({} : ArchiveWorld State) :=
    { ids := by simp, apart := by simp [Apart], tidy := fun _ => empty_tidy
      writer := fun _ h => (by cases h), confirmed := fun _ _ h => (by cases h) }
  have hstep : ∀ w l w', ArchiveHolds codec limits w →
      (stops_in_write w l = false ∧ collides codec w l = false) →
      (archive_system codec limits).step w l = .ok w' → ArchiveHolds codec limits w' := by
    intro w l w' hw hl h
    exact archive_holds hw hl.1 hl.2 h
  exact (System.run_invariant_along hstep hstart (hwritten.and hapart) hrun).safe

/-! ### A stop inside the write loop -/

/-- States named by their text, in one conversation. -/
def text_codec : StateCodec (List Nat) where
  encode state := state
  decode data := some data
  conversation_id _ := "00000000-0000-4000-8000-000000000000"
  workspace_scope_digest _ := some
    "0000000000000000000000000000000000000000000000000000000000000000"
  archive_eligible _ := true

def archive_limits : ArchiveLimits := { max_state_bytes := 4000000, max_archives := 256 }

/-- The text of an empty object. -/
def object_text : List Nat := [123, 125]

def archive_object : ArchiveCall (List Nat) :=
  .begin object_text (data_token object_text)
    "0000000000000000000000000000000000000000000000000000000000000000"

/-- The calls up to the first written byte, and the stop. -/
def stopped_calls : List (ArchiveCall (List Nat)) :=
  [archive_object, .make_directory, .scan, .reconcile, .create "s" 0, .write 1, .stop]

/-- The archive of the same state after the stop. -/
def retried_calls : List (ArchiveCall (List Nat)) :=
  [archive_object, .make_directory, .scan, .reconcile]

/-- A stop inside the write loop leaves a file that the listing and the next
    archive of the state take for a conflict. -/
theorem stopped_write_conflicts :
    ∃ w w', (archive_system text_codec archive_limits).run {} stopped_calls = .ok w ∧
      list_archived archive_limits
          "0000000000000000000000000000000000000000000000000000000000000000"
          w.conversations w.directory =
        .error (.conflict "archive temp content does not match its digest identity") ∧
      (archive_system text_codec archive_limits).run w retried_calls = .ok w' ∧
      w'.writer.isNone = true ∧ w'.result =
        some (.error (.conflict "archive temp holds content for a different checkpoint")) := by
  have hruns : succeeds ((archive_system text_codec archive_limits).run {} stopped_calls) (fun w =>
      decide (list_archived archive_limits
          "0000000000000000000000000000000000000000000000000000000000000000"
          w.conversations w.directory =
        .error (.conflict "archive temp content does not match its digest identity")) &&
      succeeds ((archive_system text_codec archive_limits).run w retried_calls) fun w' =>
        w'.writer.isNone && decide (w'.result =
          some (.error (.conflict "archive temp holds content for a different checkpoint")))) =
      true := by
    decide +kernel
  obtain ⟨w, hrun, hw⟩ := succeeds_iff.mp hruns
  simp only [Bool.and_eq_true, decide_eq_true_eq] at hw
  obtain ⟨hlisted, hretried⟩ := hw
  obtain ⟨w', hrun', hw'⟩ := succeeds_iff.mp hretried
  simp only [Bool.and_eq_true, decide_eq_true_eq] at hw'
  exact ⟨w, w', hrun, hlisted, hrun', hw'⟩

/-- An archive that is not stopped. -/
def archived_calls : List (ArchiveCall (List Nat)) :=
  [archive_object, .make_directory, .scan, .reconcile, .create "s" 0, .write 1, .write 1, .fsync_temp,
    .link, .unlink_temp, .fsync_directory]

/-- After an archive that is not stopped the archives are safe. -/
theorem archived_object_safe :
    ∃ w, (archive_system text_codec archive_limits).run {} archived_calls = .ok w ∧
      w.result = some (.ok ()) ∧ ArchiveSafe text_codec archive_limits w := by
  have hruns : succeeds ((archive_system text_codec archive_limits).run {} archived_calls)
      (fun w => decide (w.result = some (.ok ()))) = true := by
    decide +kernel
  obtain ⟨w, hrun, hresult⟩ := succeeds_iff.mp hruns
  have hwritten : ∀ l ∈ archived_calls, ∀ w : ArchiveWorld (List Nat), stops_in_write w l = false := by
    simp [archived_calls, archive_object, stops_in_write]
  have hapart : (archive_system text_codec archive_limits).Along
      (fun w l => collides text_codec w l = false) {} archived_calls :=
    System.along_of_check (by decide +kernel)
  exact ⟨w, hrun, of_decide_eq_true hresult,
    archive_runs_safe text_codec archive_limits archived_calls w
      (System.along_of_always hwritten) hapart hrun⟩
