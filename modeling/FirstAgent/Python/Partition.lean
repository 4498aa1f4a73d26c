import FirstAgent.Python.IntText

/-! # Partitions of a Text

    `str.partition`, `str.rpartition` and `re.split` on one-character
    separators.  A part is a piece of the text (`List.Sublist`), and it is the
    whole text only when no separator was met. -/

namespace PyText

/-! ### Partition -/

/-- `text.partition(sep)`: the text before the first separator, whether there is
    one, and the text behind it. -/
def partition (sep : Char) : List Char → List Char × Bool × List Char
  | []      => ([], false, [])
  | c :: cs =>
    if c = sep then ([], true, cs)
    else (c :: (partition sep cs).1, (partition sep cs).2)

/-- `text.rpartition(sep)`: the same at the last separator; without one the whole
    text stands behind. -/
def rpartition (sep : Char) (cs : List Char) : List Char × Bool × List Char :=
  match partition sep cs.reverse with
  | (_, false, _)          => ([], false, cs)
  | (after, true, before) => (before.reverse, true, after.reverse)

variable {sep : Char} {cs : List Char}

/-- A test of each character of a given text, run over the text. -/
theorem forall_mem_of_all {p : Char → Prop} [DecidablePred p]
    (h : cs.all (fun c => decide (p c)) = true) : ∀ c ∈ cs, p c := by
  intro c hc
  exact of_decide_eq_true (List.all_eq_true.mp h c hc)

theorem partition_of_not_mem (h : sep ∉ cs) : partition sep cs = (cs, false, []) := by
  induction cs with
  | nil => rfl
  | cons c cs ih =>
    have hc : c ≠ sep := fun heq => h (heq ▸ List.mem_cons_self)
    have hrest := ih fun hmem => h (List.mem_cons_of_mem _ hmem)
    simp only [partition, if_neg hc, hrest]

theorem partition_append {before : List Char} (h : sep ∉ before) (after : List Char) :
    partition sep (before ++ sep :: after) = (before, true, after) := by
  induction before with
  | nil => simp [partition]
  | cons c before ih =>
    have hc : c ≠ sep := fun heq => h (heq ▸ List.mem_cons_self)
    have hrest := ih fun hmem => h (List.mem_cons_of_mem _ hmem)
    simp only [List.cons_append, partition, if_neg hc, hrest]

/-- What a partition can be. -/
theorem partition_cases (sep : Char) (cs : List Char) :
    (sep ∉ cs ∧ partition sep cs = (cs, false, [])) ∨
      ∃ before after, sep ∉ before ∧ cs = before ++ sep :: after ∧
        partition sep cs = (before, true, after) := by
  by_cases hmem : sep ∈ cs
  · obtain ⟨before, after, hcs, hbefore⟩ := List.eq_append_cons_of_mem hmem
    refine .inr ⟨before, after, hbefore, hcs, ?_⟩
    rw [hcs, partition_append hbefore after]
  · exact .inl ⟨hmem, partition_of_not_mem hmem⟩

theorem partition_before_sublist : (partition sep cs).1.Sublist cs := by
  rcases partition_cases sep cs with ⟨-, heq⟩ | ⟨before, after, -, hcs, heq⟩
  · simp only [heq, List.Sublist.refl]
  · rw [heq, hcs]
    exact List.sublist_append_left before (sep :: after)

theorem partition_after_sublist : (partition sep cs).2.2.Sublist cs := by
  rcases partition_cases sep cs with ⟨-, heq⟩ | ⟨before, after, -, hcs, heq⟩
  · rw [heq]
    exact List.nil_sublist cs
  · rw [heq, hcs]
    exact (List.sublist_cons_self sep after).trans (List.sublist_append_right before _)

theorem partition_found : (partition sep cs).2.1 = true ↔ sep ∈ cs := by
  rcases partition_cases sep cs with ⟨hmem, heq⟩ | ⟨before, after, -, hcs, heq⟩
  · simp [heq, hmem]
  · rw [heq, hcs]
    simp

/-- The text before a separator that occurs is shorter than the text. -/
theorem partition_before_lt (h : sep ∈ cs) : (partition sep cs).1.length < cs.length := by
  rcases partition_cases sep cs with ⟨hmem, -⟩ | ⟨before, after, -, hcs, heq⟩
  · exact absurd h hmem
  · rw [heq, hcs]
    simp only [List.length_append, List.length_cons]
    omega

theorem partition_after_lt (h : sep ∈ cs) : (partition sep cs).2.2.length < cs.length := by
  rcases partition_cases sep cs with ⟨hmem, -⟩ | ⟨before, after, -, hcs, heq⟩
  · exact absurd h hmem
  · rw [heq, hcs]
    simp only [List.length_append, List.length_cons]
    omega

/-! ### Partition at the last separator -/

theorem rpartition_of_not_mem (h : sep ∉ cs) : rpartition sep cs = ([], false, cs) := by
  have hrev : sep ∉ cs.reverse := fun hmem => h (List.mem_reverse.mp hmem)
  simp only [rpartition, partition_of_not_mem hrev]

theorem rpartition_found : (rpartition sep cs).2.1 = true ↔ sep ∈ cs := by
  rcases partition_cases sep cs.reverse with ⟨hmem, heq⟩ | ⟨before, after, -, hcs, heq⟩
  · simp only [rpartition, heq, Bool.false_eq_true, false_iff]
    exact fun h => hmem (List.mem_reverse.mpr h)
  · have hin : sep ∈ cs.reverse := by simp [hcs]
    simp only [rpartition, heq, true_iff]
    exact List.mem_reverse.mp hin

theorem rpartition_after_sublist : (rpartition sep cs).2.2.Sublist cs := by
  rcases partition_cases sep cs.reverse with ⟨-, heq⟩ | ⟨before, after, -, hcs, heq⟩
  · simp only [rpartition, heq]
    exact List.Sublist.refl cs
  · have hsub : before.Sublist cs.reverse := by
      rw [hcs]
      exact List.sublist_append_left before (sep :: after)
    simp only [rpartition, heq]
    simpa using List.reverse_sublist.mpr hsub

/-! ### Splits -/

theorem split_chars_of_not_mem (h : sep ∉ cs) : split_chars sep cs = [cs] := by
  induction cs with
  | nil => rfl
  | cons c cs ih =>
    simp only [List.mem_cons, not_or] at h
    rw [split_chars, if_neg (fun heq => h.1 heq.symm), ih h.2]

/-- Joined pieces split again. -/
theorem split_chars_join {parts : List (List Char)} (hne : parts ≠ [])
    (h : ∀ c ∈ parts, sep ∉ c) : split_chars sep (List.intercalate [sep] parts) = parts := by
  induction parts with
  | nil => exact absurd rfl hne
  | cons c parts ih =>
    have hc := h c (List.mem_cons_self ..)
    cases parts with
    | nil => rw [List.intercalate_singleton, split_chars_of_not_mem hc]
    | cons d parts =>
      have hrest := ih (by simp) fun x hx => h x (List.mem_cons_of_mem _ hx)
      rw [List.intercalate_cons_cons, List.append_assoc, List.singleton_append,
        split_chars_append hc, hrest]

/-- `re.split` on a set of one-character separators. -/
def split_where (is_sep : Char → Bool) : List Char → List (List Char)
  | []      => [[]]
  | c :: cs =>
    if is_sep c then [] :: split_where is_sep cs
    else match split_where is_sep cs with
      | []        => [[c]]
      | p :: rest => (c :: p) :: rest

end PyText
