import FirstAgent.Framework.Fallible
import Mathlib.Data.List.Induction

/-! # Segmented Logs

    A one-pass scanner that cuts a log into items.  The scanner is in some
    mode; reading an entry may complete an item, and then it is back at the
    boundary.  Whatever it accepts is a sequence of chunks, one per item,
    followed by an unfinished tail, and chunks can be exchanged freely
    (`run_chunks`), so edits that respect the boundaries keep a log
    well formed. -/

open Fallible

namespace Segments

/-- A scanner of entries `α` with items `β`. -/
structure Scanner (ε α Mode β : Type) where
  boundary : Mode
  step : Mode → α → Except ε (Mode × Option β)
  returns : ∀ {m a m' b}, step m a = .ok (m', some b) → m' = boundary

/-- The entries of one item. -/
structure Chunk (α β : Type) where
  entries : List α
  item : β

namespace Scanner

variable {ε α Mode β : Type} (g : Scanner ε α Mode β)

/-- Scan a log, collecting the items. -/
def run : Mode → List α → Except ε (Mode × List β)
  | m, []      => pure (m, [])
  | m, a :: as => do
    let (m', b) ← g.step m a
    let (m'', bs) ← run m' as
    pure (m'', b.toList ++ bs)

/-- The chunk is what the scanner reads between two boundaries. -/
def Reads (c : Chunk α β) : Prop := g.run g.boundary c.entries = .ok (g.boundary, [c.item])

variable {g}

theorem run_cons {m m'' : Mode} {a : α} {as : List α} {bs : List β} :
    g.run m (a :: as) = .ok (m'', bs) ↔
      ∃ m' b rest, g.step m a = .ok (m', b) ∧ g.run m' as = .ok (m'', rest) ∧
        bs = b.toList ++ rest := by
  simp only [run, bind_eq_ok, pure_eq_ok, Prod.mk.injEq, Prod.exists]
  constructor
  · rintro ⟨m', b, hstep, _, rest, hrun, rfl, rfl⟩
    exact ⟨m', b, rest, hstep, hrun, rfl⟩
  · rintro ⟨m', b, rest, hstep, hrun, rfl⟩
    exact ⟨m', b, hstep, m'', rest, hrun, rfl, rfl⟩

theorem run_append {m m'' : Mode} {as as' : List α} {bs : List β} :
    g.run m (as ++ as') = .ok (m'', bs) ↔
      ∃ m' b b', g.run m as = .ok (m', b) ∧ g.run m' as' = .ok (m'', b') ∧ bs = b ++ b' := by
  induction as generalizing m bs with
  | nil =>
    simp only [List.nil_append, run, pure_eq_ok, Prod.mk.injEq]
    constructor
    · intro h
      exact ⟨m, [], bs, ⟨rfl, rfl⟩, h, rfl⟩
    · rintro ⟨_, _, _, ⟨rfl, rfl⟩, h, rfl⟩
      exact h
  | cons a as ih =>
    simp only [List.cons_append, run_cons, ih]
    constructor
    · rintro ⟨m₁, b, _, hstep, ⟨m₂, b₁, b₂, h₁, h₂, rfl⟩, rfl⟩
      exact ⟨m₂, _, b₂, ⟨m₁, b, b₁, hstep, h₁, rfl⟩, h₂, by simp⟩
    · rintro ⟨m₂, _, b₂, ⟨m₁, b, b₁, hstep, h₁, rfl⟩, h₂, rfl⟩
      exact ⟨m₁, b, _, hstep, ⟨m₂, b₁, b₂, h₁, h₂, rfl⟩, by simp⟩

theorem run_singleton {m m' : Mode} {a : α} {bs : List β} :
    g.run m [a] = .ok (m', bs) ↔ ∃ b, g.step m a = .ok (m', b) ∧ bs = b.toList := by
  rw [run_cons]
  simp only [run, pure_eq_ok, Prod.mk.injEq]
  constructor
  · rintro ⟨_, b, _, hstep, ⟨rfl, rfl⟩, rfl⟩
    exact ⟨b, hstep, List.append_nil _⟩
  · rintro ⟨b, hstep, rfl⟩
    exact ⟨m', b, [], hstep, ⟨rfl, rfl⟩, (List.append_nil _).symm⟩

/-- A log that is scanned decomposes into the chunks of its items and a tail. -/
theorem run_decomposes {as : List α} {m : Mode} {bs : List β}
    (h : g.run g.boundary as = .ok (m, bs)) :
    ∃ (cs : List (Chunk α β)) (tail : List α), as = cs.flatMap Chunk.entries ++ tail ∧
      bs = cs.map Chunk.item ∧ (∀ c ∈ cs, g.Reads c) ∧ g.run g.boundary tail = .ok (m, []) := by
  induction as using List.reverseRecOn generalizing m bs with
  | nil =>
    simp only [run, pure_eq_ok, Prod.mk.injEq] at h
    obtain ⟨rfl, rfl⟩ := h
    exact ⟨[], [], rfl, rfl, by simp, rfl⟩
  | append_singleton as a ih =>
    obtain ⟨m₁, b₁, _, h₁, h₂, rfl⟩ := run_append.mp h
    obtain ⟨b, hstep, rfl⟩ := run_singleton.mp h₂
    obtain ⟨cs, tail, rfl, rfl, hcs, htail⟩ := ih h₁
    have hsnoc : g.run g.boundary (tail ++ [a]) = .ok (m, b.toList) :=
      run_append.mpr ⟨m₁, [], _, htail, h₂, rfl⟩
    cases b with
    | none => exact ⟨cs, tail ++ [a], by simp, by simp, hcs, hsnoc⟩
    | some b =>
      obtain rfl := g.returns hstep
      refine ⟨cs ++ [⟨tail ++ [a], b⟩], [], by simp, by simp, ?_, rfl⟩
      intro c hc
      rcases List.mem_append.mp hc with hc | hc
      · exact hcs c hc
      · obtain rfl := List.mem_singleton.mp hc
        exact hsnoc

/-- Chunks in any order, with a tail, are scanned as their items. -/
theorem run_chunks {cs : List (Chunk α β)} {tail : List α} {m : Mode}
    (hcs : ∀ c ∈ cs, g.Reads c) (htail : g.run g.boundary tail = .ok (m, [])) :
    g.run g.boundary (cs.flatMap Chunk.entries ++ tail) = .ok (m, cs.map Chunk.item) := by
  induction cs with
  | nil => simpa using htail
  | cons c cs ih =>
    rw [List.flatMap_cons, List.append_assoc]
    exact run_append.mpr ⟨g.boundary, [c.item], _, hcs c List.mem_cons_self,
      ih fun c' hc' => hcs c' (List.mem_cons_of_mem _ hc'), rfl⟩

end Scanner

/-- Filtering a log keeps or drops whole chunks when the filter does not tell
    the entries of a chunk apart. -/
theorem filter_entries {α β : Type} {keep : α → Bool} {kept : Chunk α β → Bool}
    {cs : List (Chunk α β)} (h : ∀ c ∈ cs, ∀ a ∈ c.entries, keep a = kept c) :
    (cs.flatMap Chunk.entries).filter keep = (cs.filter kept).flatMap Chunk.entries := by
  induction cs with
  | nil => rfl
  | cons c cs ih =>
    have hc := h c List.mem_cons_self
    have hcs := ih fun c' hc' => h c' (List.mem_cons_of_mem _ hc')
    rw [List.flatMap_cons, List.filter_append, hcs]
    cases hkept : kept c with
    | true =>
      have hall : c.entries.filter keep = c.entries :=
        List.filter_eq_self.mpr fun a ha => by rw [hc a ha, hkept]
      rw [hall, List.filter_cons_of_pos (by simpa using hkept), List.flatMap_cons]
    | false =>
      have hnone : c.entries.filter keep = [] :=
        List.filter_eq_nil_iff.mpr fun a ha => by rw [hc a ha, hkept]; exact Bool.false_ne_true
      rw [hnone, List.filter_cons_of_neg (by simpa using hkept), List.nil_append]

end Segments
