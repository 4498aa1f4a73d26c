import Mathlib.Data.List.Basic

/-! # At-Most-Once Logs

    A component that numbers the requests it accepts `1, 2, 3, …`, applies
    each once, and remembers a bounded window of them to answer resubmissions.

    `Log` is the abstract view: every request ever accepted, of which a
    finished front is forgotten.  `Numbered` is the concrete one: a list of
    records that carries consecutive numbers. -/

namespace ReplayLog

variable {D R ρ : Type}

/-! ### The abstract log -/

/-- An accepted request and, once it is finished, its result. -/
structure Entry (D R : Type) where
  request : D
  result : Option R

/-- Everything ever accepted, in order, of which a finished front is
    forgotten. -/
structure Log (D R : Type) where
  entries : List (Entry D R)
  forgotten : Nat
  forgotten_le : forgotten ≤ entries.length
  forgotten_finished : ∀ e ∈ entries.take forgotten, e.result ≠ none

namespace Log

def empty : Log D R := ⟨[], 0, Nat.le_refl 0, by simp⟩

/-- What the log still remembers. -/
def retained (log : Log D R) : List (Entry D R) := log.entries.drop log.forgotten

theorem retained_length (log : Log D R) :
    log.retained.length + log.forgotten = log.entries.length := by
  have := log.forgotten_le
  simp only [retained, List.length_drop]
  omega

/-- Accept the next request. -/
def accept (log : Log D R) (d : D) : Log D R where
  entries := log.entries ++ [⟨d, none⟩]
  forgotten := log.forgotten
  forgotten_le := by
    have := log.forgotten_le
    simp only [List.length_append]
    omega
  forgotten_finished := by
    rw [List.take_append_of_le_length log.forgotten_le]
    exact log.forgotten_finished

/-- Forget `k` more requests, all finished. -/
def forget (log : Log D R) (k : Nat) (hk : k ≤ log.retained.length)
    (hfinished : ∀ e ∈ log.retained.take k, e.result ≠ none) : Log D R where
  entries := log.entries
  forgotten := log.forgotten + k
  forgotten_le := by
    have := log.retained_length
    omega
  forgotten_finished := by
    intro e he
    rw [List.take_add] at he
    rcases List.mem_append.mp he with he | he
    · exact log.forgotten_finished e he
    · exact hfinished e he

/-- Record the result of the request at position `i`. -/
def finish (log : Log D R) (i : Nat) (r : R) : Log D R where
  entries := log.entries.modify i fun e => { e with result := some r }
  forgotten := log.forgotten
  forgotten_le := by simpa using log.forgotten_le
  forgotten_finished := by
    intro e he
    obtain ⟨j, hj, rfl⟩ := List.mem_take_iff_getElem.mp he
    rw [List.getElem_modify]
    split
    · simp
    · refine log.forgotten_finished _ (List.mem_take_iff_getElem.mpr ⟨j, ?_, rfl⟩)
      simpa using hj

@[simp] theorem entries_accept (log : Log D R) (d : D) :
    (log.accept d).entries = log.entries ++ [⟨d, none⟩] := rfl

@[simp] theorem entries_finish (log : Log D R) (i : Nat) (r : R) :
    (log.finish i r).entries = log.entries.modify i fun e => { e with result := some r } := rfl

theorem retained_accept (log : Log D R) (d : D) :
    (log.accept d).retained = log.retained ++ [⟨d, none⟩] := by
  simp only [retained, accept]
  exact List.drop_append_of_le_length log.forgotten_le

theorem retained_forget (log : Log D R) (k : Nat) (hk hfinished) :
    (log.forget k hk hfinished).retained = log.retained.drop k := by
  simp only [retained, forget, List.drop_drop]

theorem retained_finish (log : Log D R) (i : Nat) (r : R) :
    (log.finish (log.forgotten + i) r).retained =
      log.retained.modify i fun e => { e with result := some r } := by
  simp only [retained, finish]
  rw [List.drop_modify_of_ge] <;> simp

/-- What is no longer remembered is finished. -/
theorem finished_of_forgotten (log : Log D R) {i : Nat} {e : Entry D R}
    (h : log.entries[i]? = some e) (hi : i < log.forgotten) : e.result ≠ none := by
  refine log.forgotten_finished e (List.mem_of_getElem? (i := i) ?_)
  rw [List.getElem?_take_of_lt hi]
  exact h

end Log

/-! ### Numbered records -/

theorem modify_front_length (front : List ρ) (r : ρ) (back : List ρ) (f : ρ → ρ) :
    (front ++ r :: back).modify front.length f = front ++ f r :: back := by
  induction front with
  | nil => rfl
  | cons x front ih => simp [ih]

section Numbered

variable {seq : ρ → Int}

/-- The records are numbered consecutively from the floor. -/
def Numbered (seq : ρ → Int) : (floor : Int) → List ρ → Prop
  | _, []          => True
  | floor, r :: rs => seq r = floor ∧ Numbered seq (floor + 1) rs

theorem Numbered.getElem {floor : Int} {rs : List ρ} (h : Numbered seq floor rs) {i : Nat}
    (hi : i < rs.length) : seq rs[i] = floor + i := by
  induction rs generalizing floor i with
  | nil => cases hi
  | cons r rs ih =>
    cases i with
    | zero => simpa using h.1
    | succ i =>
      have := ih h.2 (i := i) (by simpa using hi)
      simp only [List.getElem_cons_succ, this]
      omega

theorem Numbered.split {floor : Int} {front back : List ρ} {r : ρ}
    (h : Numbered seq floor (front ++ r :: back)) : seq r = floor + front.length := by
  have := h.getElem (i := front.length) (by simp)
  simpa using this

/-- A number belongs to one record. -/
theorem Numbered.eq_of_seq {floor : Int} {rs : List ρ} (h : Numbered seq floor rs) {r r' : ρ}
    (hr : r ∈ rs) (hr' : r' ∈ rs) (heq : seq r = seq r') : r = r' := by
  obtain ⟨i, hi, rfl⟩ := List.getElem_of_mem hr
  obtain ⟨j, hj, rfl⟩ := List.getElem_of_mem hr'
  rw [h.getElem hi, h.getElem hj] at heq
  obtain rfl : i = j := by omega
  rfl

theorem Numbered.map_seq {floor : Int} {rs : List ρ} (h : Numbered seq floor rs) :
    rs.map seq = (List.range rs.length).map fun i : Nat => floor + i := by
  refine List.ext_getElem (by simp) fun i hi _ => ?_
  simp only [List.getElem_map, List.getElem_range]
  exact h.getElem (by simpa using hi)

theorem Numbered.append {floor : Int} {rs : List ρ} {r : ρ} (h : Numbered seq floor rs)
    (hr : seq r = floor + rs.length) : Numbered seq floor (rs ++ [r]) := by
  induction rs generalizing floor with
  | nil => exact ⟨by simpa using hr, trivial⟩
  | cons x rs ih =>
    refine ⟨h.1, ih h.2 ?_⟩
    rw [hr, List.length_cons]
    push_cast
    omega

theorem Numbered.drop {floor : Int} {rs : List ρ} (h : Numbered seq floor rs) (k : Nat) :
    Numbered seq (floor + k) (rs.drop k) := by
  induction k generalizing floor rs with
  | zero => simpa using h
  | succ k ih =>
    cases rs with
    | nil => trivial
    | cons r rs =>
      have := ih h.2
      rwa [List.drop_succ_cons, show floor + ((k + 1 : Nat) : Int) = floor + 1 + (k : Int) by omega]

/-- Numbers are kept by every update of the records that keeps them. -/
theorem Numbered.congr {floor : Int} {rs rs' : List ρ} (h : Numbered seq floor rs)
    (heq : rs'.map seq = rs.map seq) : Numbered seq floor rs' := by
  induction rs generalizing floor rs' with
  | nil =>
    obtain rfl := List.map_eq_nil_iff.mp (heq.trans rfl)
    trivial
  | cons r rs ih =>
    obtain ⟨r', rs'', rfl, hr, hrs⟩ := List.map_eq_cons_iff.mp (heq.trans (List.map_cons ..))
    exact ⟨hr.trans h.1, ih h.2 hrs⟩

/-- The record with a number sits at its distance from the floor. -/
theorem Numbered.find? [DecidableEq ρ] {floor : Int} {rs : List ρ} (h : Numbered seq floor rs)
    {n : Int} {r : ρ} :
    rs.find? (fun r => seq r = n) = some r ↔ floor ≤ n ∧ rs[(n - floor).toNat]? = some r := by
  induction rs generalizing floor with
  | nil => simp
  | cons x rs ih =>
    rw [List.find?_cons]
    by_cases hx : seq x = n
    · have hn : (n - floor).toNat = 0 := by have := h.1; omega
      have hle : floor ≤ n := by have := h.1; omega
      simp [hx, hn, hle]
    · have hne : n ≠ floor := fun hn => hx (h.1.trans hn.symm)
      simp only [hx, decide_false, ih h.2]
      constructor
      · rintro ⟨hle, hr⟩
        refine ⟨by omega, ?_⟩
        rwa [show (n - floor).toNat = (n - (floor + 1)).toNat + 1 by omega,
          List.getElem?_cons_succ]
      · rintro ⟨hle, hr⟩
        refine ⟨by omega, ?_⟩
        rwa [show (n - floor).toNat = (n - (floor + 1)).toNat + 1 by omega,
          List.getElem?_cons_succ] at hr

/-- Updating the record with a number updates it at its position. -/
theorem Numbered.map_ite_eq_modify {floor n : Int} {rs : List ρ} (h : Numbered seq floor rs)
    (hn : floor ≤ n) (f : ρ → ρ) :
    rs.map (fun r => if seq r = n then f r else r) = rs.modify (n - floor).toNat f := by
  refine List.ext_getElem (by simp) fun i hi _ => ?_
  have hseq := h.getElem (i := i) (by simpa using hi)
  simp only [List.getElem_map, List.getElem_modify, hseq]
  by_cases heq : floor + (i : Int) = n
  · rw [if_pos heq, if_pos (by omega)]
  · rw [if_neg heq, if_neg (by omega)]

end Numbered

end ReplayLog
