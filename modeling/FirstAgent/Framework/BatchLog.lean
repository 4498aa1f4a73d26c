import Mathlib.Data.List.Basic

/-! # Request Logs

    A log of batches of requests and of their results.  A batch is announced,
    its requests are answered one by one right behind it, and other entries
    stand between batches.  At most one batch is live: announced and answered
    up to a cursor.

    `Sound live log` is the invariant; the rules below say which appends keep
    it: notes between batches, announcing a batch, answering the request at
    the cursor, and closing a live batch by answering all the rest at once. -/

namespace BatchLog

variable {ι : Type}

/-- What an entry of the log is. -/
inductive Entry (ι : Type) where
  | batch (ids : List ι)
  | result (id : ι)
  | note
  | malformed
  deriving Repr, DecidableEq

/-- An announced batch and how many of its requests are answered. -/
structure Live (ι : Type) where
  ids : List ι
  cursor : Nat
  deriving Repr, DecidableEq

/-- The results at the front of a log. -/
def leading : List (Entry ι) → List ι
  | .result i :: log => i :: leading log
  | _                => []

/-- Every batch is followed by exactly its results. -/
def Answered : List (Entry ι) → Prop
  | []                => True
  | .batch ids :: log => leading log = ids ∧ Answered log
  | .malformed :: _   => False
  | .result _ :: log  => Answered log
  | .note :: log      => Answered log

/-- Every batch is followed by exactly its results, the live one by those
    before its cursor. -/
def Sound : Option (Live ι) → List (Entry ι) → Prop
  | none, log   => Answered log
  | some l, log => l.cursor < l.ids.length ∧ ∃ front, Answered front ∧
      log = front ++ .batch l.ids :: (l.ids.take l.cursor).map .result

/-- Entries that are neither batches nor results. -/
def Notes (log : List (Entry ι)) : Prop := ∀ e ∈ log, e = .note

/-! ### Appending -/

/-- The log does not begin with a result. -/
def Separated (log : List (Entry ι)) : Prop := leading log = []

theorem separated_batch (ids : List ι) (log : List (Entry ι)) : Separated (.batch ids :: log) := rfl

theorem leading_append {front log : List (Entry ι)} (h : Separated log) :
    leading (front ++ log) = leading front := by
  induction front with
  | nil => exact h
  | cons e front ih => cases e <;> simp [leading, ih]

theorem answered_append {front log : List (Entry ι)} (h : Separated log) :
    Answered (front ++ log) ↔ Answered front ∧ Answered log := by
  induction front with
  | nil => simp [Answered]
  | cons e front ih =>
    cases e <;> simp [Answered, ih, leading_append h, and_assoc]

theorem Notes.separated {log : List (Entry ι)} (h : Notes log) : Separated log := by
  cases log with
  | nil => rfl
  | cons e log =>
    obtain rfl := h e List.mem_cons_self
    rfl

theorem Notes.answered {log : List (Entry ι)} (h : Notes log) : Answered log := by
  induction log with
  | nil => trivial
  | cons e log ih =>
    obtain rfl := h e List.mem_cons_self
    exact ih fun e he => h e (List.mem_cons_of_mem _ he)

@[simp] theorem leading_results (ids : List ι) : leading (ids.map Entry.result) = ids := by
  induction ids with
  | nil => rfl
  | cons i ids ih => simp [leading, ih]

theorem answered_results (ids : List ι) : Answered (ids.map Entry.result) := by
  induction ids with
  | nil => trivial
  | cons i ids ih => simpa [Answered] using ih

/-- A batch with all its results is answered. -/
theorem answered_batch {front : List (Entry ι)} (h : Answered front) (ids : List ι) :
    Answered (front ++ .batch ids :: ids.map .result) := by
  exact (answered_append (separated_batch _ _)).mpr ⟨h, leading_results ids, answered_results ids⟩

/-! ### The steps of a log -/

section Steps

variable {live : Live ι} {log : List (Entry ι)}

theorem Sound.note {notes : List (Entry ι)} (h : Sound none log) (hn : Notes notes) :
    Sound none (log ++ notes) :=
  (answered_append hn.separated).mpr ⟨h, hn.answered⟩

theorem Sound.start {ids : List ι} (h : Sound none log) (hids : ids ≠ []) :
    Sound (some ⟨ids, 0⟩) (log ++ [.batch ids]) :=
  ⟨List.length_pos_of_ne_nil hids, log, h, by simp⟩

/-- Answering the request at the cursor moves the cursor. -/
theorem Sound.answer {id : ι} (h : Sound (some live) log) (hid : live.ids[live.cursor]? = some id)
    (hmore : live.cursor + 1 < live.ids.length) :
    Sound (some { live with cursor := live.cursor + 1 }) (log ++ [.result id]) := by
  obtain ⟨_, front, hfront, rfl⟩ := h
  refine ⟨hmore, front, hfront, ?_⟩
  simp [List.take_add_one, hid]

/-- Answering all the rest ends the batch. -/
theorem Sound.close (h : Sound (some live) log) :
    Sound none (log ++ (live.ids.drop live.cursor).map .result) := by
  obtain ⟨_, front, hfront, rfl⟩ := h
  have hall : (live.ids.take live.cursor).map Entry.result ++
      (live.ids.drop live.cursor).map Entry.result = live.ids.map Entry.result := by
    rw [← List.map_append, List.take_append_drop]
  rw [Sound, List.append_assoc, List.cons_append, hall]
  exact answered_batch hfront live.ids

/-- Answering the last request ends the batch. -/
theorem Sound.answer_last {id : ι} (h : Sound (some live) log)
    (hid : live.ids[live.cursor]? = some id) (hlast : live.ids.length ≤ live.cursor + 1) :
    Sound none (log ++ [.result id]) := by
  have hrest : live.ids.drop live.cursor = [id] := by
    obtain ⟨hlt, rfl⟩ := List.getElem?_eq_some_iff.mp hid
    rw [List.drop_eq_getElem_cons hlt, List.drop_of_length_le hlast]
  have := h.close
  rwa [hrest] at this

end Steps

/-! ### Reading a sound log -/

theorem batch_not_mem_results (ids ids' : List ι) : .batch ids ∉ ids'.map Entry.result := by
  simp

/-- A batch of a sound log has all its results, or it is the live one and
    nothing but the results before the cursor follows it. -/
theorem Sound.at_batch {live : Option (Live ι)} {log pre post : List (Entry ι)} {ids : List ι}
    (h : Sound live log) (hsplit : log = pre ++ .batch ids :: post) :
    leading post = ids ∨
      ∃ l, live = some l ∧ ids = l.ids ∧ post = (l.ids.take l.cursor).map .result := by
  cases live with
  | none =>
    rw [Sound, hsplit, answered_append (separated_batch _ _)] at h
    exact .inl h.2.1
  | some l =>
    obtain ⟨_, front, hfront, rfl⟩ := h
    rcases List.append_eq_append_iff.mp hsplit with ⟨x, rfl, hx⟩ | ⟨x, rfl, hx⟩
    · cases x with
      | nil =>
        simp only [List.nil_append, List.cons.injEq, Entry.batch.injEq] at hx
        obtain ⟨rfl, rfl⟩ := hx
        exact .inr ⟨l, rfl, rfl, rfl⟩
      | cons e x =>
        simp only [List.cons_append, List.cons.injEq] at hx
        obtain ⟨_, hx⟩ := hx
        refine absurd ?_ (batch_not_mem_results ids (l.ids.take l.cursor))
        rw [hx]
        simp
    · cases x with
      | nil =>
        simp only [List.nil_append, List.cons.injEq, Entry.batch.injEq] at hx
        obtain ⟨rfl, rfl⟩ := hx
        exact .inr ⟨l, rfl, rfl, rfl⟩
      | cons e x =>
        simp only [List.cons_append, List.cons.injEq] at hx
        obtain ⟨rfl, rfl⟩ := hx
        rw [answered_append (separated_batch _ _)] at hfront
        exact .inl ((leading_append (separated_batch _ _)).trans hfront.2.1)

/-- A sound log holds no malformed entry. -/
theorem Sound.not_malformed {live : Option (Live ι)} {log : List (Entry ι)}
    (h : Sound live log) : .malformed ∉ log := by
  have hanswered : ∀ {log : List (Entry ι)}, Answered log → .malformed ∉ log := by
    intro log h
    induction log with
    | nil => simp
    | cons e log ih => cases e <;> simp_all [Answered]
  cases live with
  | none => exact hanswered h
  | some l =>
    obtain ⟨_, front, hfront, rfl⟩ := h
    intro hmem
    rcases List.mem_append.mp hmem with hmem | hmem
    · exact hanswered hfront hmem
    · simp only [List.mem_cons, reduceCtorEq, List.mem_map, and_false, exists_false,
        or_self] at hmem

end BatchLog
