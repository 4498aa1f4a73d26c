import Mathlib.Logic.Function.Basic

/-! # Lock Files

    A lock file is a name and an advisory lock on the inode the name stands for.
    A process opens the name, locks the inode it got, and only then looks whether
    the name still stands for that inode; whoever removes the name has locked it
    and looked in the same way.  Inodes are numbered in the order they are made,
    so no number is given twice.

    * **`Sound.exclusive`**: at most one process has looked and found its inode.
    * **`Sound.name`**: as long as it is locked, the name stands for that inode.
    * One rule **`Sound.…`** for each call, and one frame lemma for the others.
    * **`Sound.free`**: nothing is locked once every process has closed the file. -/

/-- How far a process is with the lock file. -/
inductive LockPhase where
  | closed
  | opened (inode : Nat)
  /-- The inode is locked, under whatever name. -/
  | locked (inode : Nat)
  /-- The inode is locked, and the name stood for it since. -/
  | held (inode : Nat)
  deriving Repr, DecidableEq

/-- The inode that is locked in a phase. -/
def LockPhase.lock : LockPhase → Option Nat
  | .locked inode => some inode
  | .held inode   => some inode
  | _             => none

/-- A lock file with the processes that have opened it. -/
structure LockFile (κ : Type) where
  /-- The inode the name stands for. -/
  name : Option Nat := none
  /-- How many inodes were made for the name. -/
  created : Nat := 0
  phase : κ → LockPhase := fun _ => .closed
  /-- Who has locked an inode. -/
  holder : Nat → Option κ := fun _ => none

namespace LockFile

variable {κ : Type} [DecidableEq κ]

def set (t : LockFile κ) (p : κ) (phase : LockPhase) : LockFile κ :=
  { t with phase := Function.update t.phase p phase }

/-- Open the name; it is made when it is missing. -/
def open_or_create (t : LockFile κ) (p : κ) : LockFile κ :=
  match t.name with
  | some i => t.set p (.opened i)
  | none   => { t.set p (.opened t.created) with name := some t.created, created := t.created + 1 }

/-- Open the name if it is there. -/
def open_existing (t : LockFile κ) (p : κ) : LockFile κ :=
  match t.name with
  | some i => t.set p (.opened i)
  | none   => t

/-- Close the file; the lock goes with it. -/
def close (t : LockFile κ) (p : κ) : LockFile κ := { t.set p .closed with
  holder := match (t.phase p).lock with
    | some i => Function.update t.holder i none
    | none   => t.holder }

/-- Lock the open inode, or close the file when another process has it locked. -/
def try_lock (t : LockFile κ) (p : κ) : LockFile κ :=
  match t.phase p with
  | .opened i =>
    match t.holder i with
    | none   => { t.set p (.locked i) with holder := Function.update t.holder i (some p) }
    | some _ => t.set p .closed
  | _ => t

/-- Look whether the name stands for the locked inode, and close the file otherwise. -/
def check_name (t : LockFile κ) (p : κ) : LockFile κ :=
  match t.phase p with
  | .locked i => if t.name = some i then t.set p (.held i) else t.close p
  | _         => t

/-- Remove the name, once it was looked at. -/
def unlink (t : LockFile κ) (p : κ) : LockFile κ :=
  match t.phase p with
  | .held i => { t.set p (.locked i) with name := none }
  | _       => t

/-- Locks and phases agree, and the name stands for what is held under it. -/
structure Sound (t : LockFile κ) : Prop where
  locks : ∀ p i, t.holder i = some p ↔ (t.phase p).lock = some i
  name : ∀ p i, t.phase p = .held i → t.name = some i

variable {t : LockFile κ} {p q : κ} {i j : Nat} {phase : LockPhase}

omit [DecidableEq κ] in
/-- No two processes hold the lock. -/
theorem Sound.exclusive (h : t.Sound) (hp : t.phase p = .held i) (hq : t.phase q = .held j) :
    p = q := by
  have hij : i = j := Option.some.inj ((h.name p i hp).symm.trans (h.name q j hq))
  have hholder : t.holder i = some p := (h.locks p i).mpr (by rw [hp]; rfl)
  have hother : t.holder i = some q := (h.locks q i).mpr (by rw [hq, hij]; rfl)
  exact Option.some.inj (hholder.symm.trans hother)

omit [DecidableEq κ] in
/-- A file no process has open. -/
theorem sound_closed (hphase : ∀ p, t.phase p = .closed) (hholder : ∀ i, t.holder i = none) :
    t.Sound := by
  constructor
  · intro p i
    rw [hholder, hphase]
    simp [LockPhase.lock]
  · intro p i hp
    rw [hphase] at hp
    cases hp

/-! ### What a call does to the phases -/

theorem set_phase_self : (t.set p phase).phase p = phase := Function.update_self ..

theorem set_phase_other (h : q ≠ p) : (t.set p phase).phase q = t.phase q :=
  Function.update_of_ne h ..

theorem open_or_create_other (h : q ≠ p) : (t.open_or_create p).phase q = t.phase q := by
  unfold open_or_create
  split <;> exact set_phase_other h

theorem open_existing_other (h : q ≠ p) : (t.open_existing p).phase q = t.phase q := by
  unfold open_existing
  split
  · exact set_phase_other h
  · rfl

theorem close_self : (t.close p).phase p = .closed := set_phase_self

theorem close_other (h : q ≠ p) : (t.close p).phase q = t.phase q := set_phase_other h

theorem try_lock_other (h : q ≠ p) : (t.try_lock p).phase q = t.phase q := by
  unfold try_lock
  split
  · split <;> exact set_phase_other h
  · rfl

theorem check_name_other (h : q ≠ p) : (t.check_name p).phase q = t.phase q := by
  unfold check_name
  split
  · split
    · exact set_phase_other h
    · exact close_other h
  · rfl

theorem unlink_other (h : q ≠ p) : (t.unlink p).phase q = t.phase q := by
  unfold unlink
  split
  · exact set_phase_other h
  · rfl

/-! ### Soundness, call by call -/

/-- A process without a lock goes to a phase without one. -/
theorem Sound.set_unlocked (h : t.Sound) (hp : (t.phase p).lock = none) (hnew : phase.lock = none) :
    (t.set p phase).Sound := by
  have hnot : ∀ i, phase ≠ .held i := by
    intro i heq
    rw [heq] at hnew
    cases hnew
  constructor
  · intro q i
    show t.holder i = some q ↔ _
    by_cases hq : q = p
    · rw [hq, set_phase_self, h.locks p i, hp, hnew]
    · rw [set_phase_other hq, h.locks q i]
  · intro q i hheld
    by_cases hq : q = p
    · rw [hq, set_phase_self] at hheld
      exact absurd hheld (hnot i)
    · rw [set_phase_other hq] at hheld
      exact h.name q i hheld

omit [DecidableEq κ] in
/-- Making the name that is missing. -/
theorem Sound.create (h : t.Sound) (hname : t.name = none) (i created : Nat) :
    { t with name := some i, created := created }.Sound := by
  refine ⟨h.locks, ?_⟩
  intro q j hheld
  have hstood := h.name q j hheld
  rw [hname] at hstood
  cases hstood

theorem Sound.open_or_create (h : t.Sound) (hp : t.phase p = .closed) :
    (t.open_or_create p).Sound := by
  have hfree : (t.phase p).lock = none := by rw [hp]; rfl
  unfold LockFile.open_or_create
  split
  · exact h.set_unlocked hfree rfl
  · next hname => exact (h.set_unlocked hfree rfl).create hname _ _

theorem Sound.open_existing (h : t.Sound) (hp : t.phase p = .closed) :
    (t.open_existing p).Sound := by
  unfold LockFile.open_existing
  split
  · exact h.set_unlocked (by rw [hp]; rfl) rfl
  · exact h

theorem Sound.close (h : t.Sound) : (t.close p).Sound := by
  constructor
  · intro q i
    by_cases hq : q = p
    · rw [hq, close_self]
      simp only [LockPhase.lock, reduceCtorEq, iff_false]
      unfold LockFile.close
      intro hholder
      cases hlock : (t.phase p).lock with
      | none =>
        simp only [hlock] at hholder
        rw [(h.locks p i).mp hholder] at hlock
        cases hlock
      | some j =>
        simp only [hlock] at hholder
        by_cases hij : i = j
        · rw [hij, Function.update_self] at hholder
          cases hholder
        · rw [Function.update_of_ne hij, h.locks p i, hlock] at hholder
          exact hij (Option.some.inj hholder).symm
    · rw [close_other hq, ← h.locks q i]
      unfold LockFile.close
      cases hlock : (t.phase p).lock with
      | none => rfl
      | some j =>
        by_cases hij : i = j
        · -- the inode that is given back was not the other one's
          have hmine : t.holder i = some p := (h.locks p i).mpr (by rw [hlock, hij])
          rw [hmine, hij]
          simp only [Function.update_self, reduceCtorEq, false_iff]
          exact fun heq => hq (Option.some.inj heq).symm
        · simp only [Function.update_of_ne hij]
  · intro q i hheld
    by_cases hq : q = p
    · rw [hq, close_self] at hheld
      cases hheld
    · rw [close_other hq] at hheld
      exact h.name q i hheld

theorem Sound.try_lock (h : t.Sound) : (t.try_lock p).Sound := by
  unfold LockFile.try_lock
  split
  case h_2 => exact h
  next i hopened =>
  have hfree : (t.phase p).lock = none := by rw [hopened]; rfl
  split
  case h_2 => exact h.set_unlocked hfree rfl
  next hholder =>
  constructor
  · intro q j
    show Function.update t.holder i (some p) j = some q ↔ _
    by_cases hq : q = p
    · rw [hq, set_phase_self]
      by_cases hj : j = i
      · simp [hj, LockPhase.lock]
      · rw [Function.update_of_ne hj, h.locks p j, hfree]
        simp only [LockPhase.lock, Option.some.injEq, reduceCtorEq, false_iff]
        exact fun heq => hj heq.symm
    · rw [set_phase_other hq, ← h.locks q j]
      by_cases hj : j = i
      · rw [hj, Function.update_self, hholder]
        simp only [Option.some.injEq, reduceCtorEq, iff_false]
        exact fun heq => hq heq.symm
      · rw [Function.update_of_ne hj]
  · intro q j hheld
    show t.name = some j
    by_cases hq : q = p
    · rw [hq, set_phase_self] at hheld
      cases hheld
    · rw [set_phase_other hq] at hheld
      exact h.name q j hheld

/-- A process with a lock goes to another phase with it. -/
theorem Sound.set_locked (h : t.Sound) (hp : (t.phase p).lock = some i) (hnew : phase.lock = some i)
    (hheld : ∀ j, phase = .held j → t.name = some j) : (t.set p phase).Sound := by
  constructor
  · intro q j
    show t.holder j = some q ↔ _
    by_cases hq : q = p
    · rw [hq, set_phase_self, h.locks p j, hp, hnew]
    · rw [set_phase_other hq, h.locks q j]
  · intro q j hphase
    show t.name = some j
    by_cases hq : q = p
    · rw [hq, set_phase_self] at hphase
      exact hheld j hphase
    · rw [set_phase_other hq] at hphase
      exact h.name q j hphase

theorem Sound.check_name (h : t.Sound) : (t.check_name p).Sound := by
  unfold LockFile.check_name
  split
  case h_2 => exact h
  next i hlocked =>
  split
  · next hname =>
    refine h.set_locked (by rw [hlocked]; rfl) rfl ?_
    rintro j ⟨⟩
    exact hname
  · exact h.close

theorem Sound.unlink (h : t.Sound) : (t.unlink p).Sound := by
  unfold LockFile.unlink
  split
  case h_2 => exact h
  next i hheld =>
  have hset : (t.set p (.locked i)).Sound :=
    h.set_locked (by rw [hheld]; rfl) rfl (fun j heq => by cases heq)
  refine ⟨hset.locks, ?_⟩
  intro q j hother
  have hother : (t.set p (.locked i)).phase q = .held j := hother
  -- a second holder would stand under the name that is removed
  by_cases hq : q = p
  · rw [hq, set_phase_self] at hother
    cases hother
  · rw [set_phase_other hq] at hother
    exact absurd (h.exclusive hother hheld) hq

/-! ### Taking a lock that is free -/

theorem open_or_create_self : ∃ i, (t.open_or_create p).phase p = .opened i ∧
    (t.open_or_create p).name = some i ∧ (t.open_or_create p).holder = t.holder := by
  unfold open_or_create
  split
  · next i hname => exact ⟨i, set_phase_self, hname, rfl⟩
  · exact ⟨t.created, set_phase_self, rfl, rfl⟩

theorem try_lock_free (hp : t.phase p = .opened i) (hfree : t.holder i = none) :
    (t.try_lock p).phase p = .locked i ∧ (t.try_lock p).name = t.name := by
  unfold try_lock
  simp only [hp, hfree]
  exact ⟨set_phase_self, rfl⟩

theorem check_name_found (hp : t.phase p = .locked i) (hname : t.name = some i) :
    (t.check_name p).phase p = .held i := by
  unfold check_name
  simp only [hp, hname, if_true]
  exact set_phase_self

omit [DecidableEq κ] in
/-- Nothing is locked while every process has the file closed. -/
theorem Sound.free (h : t.Sound) (hclosed : ∀ p, t.phase p = .closed) (i : Nat) :
    t.holder i = none := by
  cases hholder : t.holder i with
  | none => rfl
  | some p =>
    have hlock := (h.locks p i).mp hholder
    rw [hclosed p] at hlock
    cases hlock

end LockFile
