import FirstAgent.Framework.Fallible

/-! # Bounded Walks of a Directory Tree

    A depth-first walk scans a directory, examines its entries one by one and
    enters the directories among them, down to a depth.  Scanning and
    examining change a state that carries the budgets: a state may stop the
    walk of a directory (`halted`) or only the descent (`descends`).

    * **`visit_preserves`**: what scanning and examining preserve in the
      directories the walk can reach, the walk preserves.
    * **`visit_collects`**: a walk that still descends at its end has examined
      every entry of every directory below.
    * **`visit_agrees`**: two roots that scan and open alike are walked alike.
    * **`visit_succeeds`**: the walk fails only where an entry does. -/

open Fallible

variable {ε D E S M : Type}

structure Walk (ε D E S : Type) where
  scan : D → S → S × List E
  /-- The rest of a directory is passed over. -/
  halted : S → Bool
  /-- Directories are entered. -/
  descends : S → Bool
  /-- Examine an entry; the flag leaves the directory. -/
  examine : D → E → S → Except ε (S × Bool)
  is_directory : E → Bool
  enter : D → E → Except ε D
  too_deep : S → S

namespace Walk

variable (w : Walk ε D E S)

/-- The entries of a directory; `below` walks a directory among them, unless
    the depth is used up. -/
def visit_entries (below : Option (D → S → Except ε S)) (d : D) : List E → S → Except ε S
  | [], s      => .ok s
  | e :: es, s =>
    if w.halted s then .ok s
    else do
      let (s, leave) ← w.examine d e s
      if leave then .ok s
      else if w.is_directory e && w.descends s then
        match below with
        | none       => .ok (w.too_deep s)
        | some visit => do
          let child ← w.enter d e
          let s ← visit child s
          visit_entries below d es s
      else visit_entries below d es s

/-- Walk a directory, with so many levels below it. -/
def visit : Nat → D → S → Except ε S
  | 0, d, s     =>
    if w.descends s then w.visit_entries none d (w.scan d s).2 (w.scan d s).1 else .ok s
  | n + 1, d, s =>
    if w.descends s then w.visit_entries (some (visit n)) d (w.scan d s).2 (w.scan d s).1 else .ok s

/-- A scan of the directory may list the entry. -/
def Listed (d : D) (e : E) : Prop := ∃ s, e ∈ (w.scan d s).2

/-- The directories so many levels below a directory. -/
inductive Reaches : Nat → D → D → Prop where
  | here (d : D) : Reaches 0 d d
  | deeper {n : Nat} {d child d' : D} {e : E} (listed : w.Listed d e)
      (directory : w.is_directory e = true) (entered : w.enter d e = .ok child)
      (rest : Reaches n child d') : Reaches (n + 1) d d'

variable {w}

/-! ### One entry -/

/-- The rest of a walk of entries, once the first one was examined. -/
theorem visit_entries_examined {below : Option (D → S → Except ε S)} {d : D} {e : E} {es : List E}
    {s t : S} {leave : Bool} (hhalted : w.halted s = false)
    (hexamine : w.examine d e s = .ok (t, leave)) :
    w.visit_entries below d (e :: es) s =
      if leave then .ok t
      else if w.is_directory e && w.descends t then
        match below with
        | none       => .ok (w.too_deep t)
        | some visit => do
          let child ← w.enter d e
          let u ← visit child t
          w.visit_entries below d es u
      else w.visit_entries below d es t := by
  rw [visit_entries, if_neg (by simp [hhalted]), hexamine]
  rfl

/-- What a walk of entries does with the first one. -/
theorem visit_entries_cons {below : Option (D → S → Except ε S)} {d : D} {e : E} {es : List E}
    {s s' : S} (h : w.visit_entries below d (e :: es) s = .ok s') :
    (w.halted s = true ∧ s' = s) ∨
    (w.halted s = false ∧ ∃ t leave, w.examine d e s = .ok (t, leave) ∧
      ((leave = true ∧ s' = t) ∨
       (leave = false ∧ w.is_directory e = true ∧ w.descends t = true ∧
          ((below = none ∧ s' = w.too_deep t) ∨
           ∃ visit child u, below = some visit ∧ w.enter d e = .ok child ∧ visit child t = .ok u ∧
             w.visit_entries below d es u = .ok s')) ∨
       (leave = false ∧ (w.is_directory e = false ∨ w.descends t = false) ∧
          w.visit_entries below d es t = .ok s'))) := by
  rw [visit_entries] at h
  by_cases hhalted : w.halted s = true
  · rw [if_pos hhalted] at h
    exact Or.inl ⟨hhalted, (ok_eq_ok.mp h).symm⟩
  rw [if_neg hhalted] at h
  obtain ⟨⟨t, leave⟩, hexamine, h⟩ := bind_eq_ok.mp h
  refine Or.inr ⟨by simpa using hhalted, t, leave, hexamine, ?_⟩
  dsimp only at h
  cases leave with
  | true =>
    rw [if_pos rfl] at h
    exact Or.inl ⟨rfl, (ok_eq_ok.mp h).symm⟩
  | false =>
    rw [if_neg (by simp)] at h
    right
    by_cases hdown : (w.is_directory e && w.descends t) = true
    · rw [if_pos hdown] at h
      rw [Bool.and_eq_true] at hdown
      refine Or.inl ⟨rfl, hdown.1, hdown.2, ?_⟩
      cases below with
      | none =>
        exact Or.inl ⟨rfl, (ok_eq_ok.mp h).symm⟩
      | some visit =>
        obtain ⟨child, henter, h⟩ := bind_eq_ok.mp h
        obtain ⟨u, hvisit, h⟩ := bind_eq_ok.mp h
        exact Or.inr ⟨visit, child, u, rfl, henter, hvisit, h⟩
    · rw [if_neg hdown] at h
      refine Or.inr ⟨rfl, ?_, h⟩
      cases hfile : w.is_directory e with
      | false => exact Or.inl rfl
      | true  =>
        right
        simpa [hfile] using hdown

/-- The two depths of a walk as one equation. -/
theorem visit_eq (n : Nat) (d : D) (s : S) :
    w.visit n d s =
      if w.descends s then
        w.visit_entries (match n with | 0 => none | n + 1 => some (w.visit n)) d (w.scan d s).2
          (w.scan d s).1
      else .ok s := by
  cases n <;> rfl

/-! ### Invariants -/

/-- The steps of a walk below a directory preserve an invariant. -/
structure Preserves (w : Walk ε D E S) (n : Nat) (root : D) (I : S → Prop) : Prop where
  scan : ∀ {k d s}, k ≤ n → w.Reaches k root d → w.descends s = true → I s → I (w.scan d s).1
  examine : ∀ {k d e s s' leave}, k ≤ n → w.Reaches k root d → w.Listed d e → w.halted s = false →
    I s → w.examine d e s = .ok (s', leave) → I s'
  too_deep : ∀ {s}, w.descends s = true → I s → I (w.too_deep s)

theorem Preserves.enter {n : Nat} {root child : D} {e : E} {I : S → Prop}
    (h : Preserves w (n + 1) root I) (hlisted : w.Listed root e)
    (hdirectory : w.is_directory e = true) (henter : w.enter root e = .ok child) :
    Preserves w n child I where
  scan := fun hk hreaches =>
    h.scan (Nat.succ_le_succ hk) (.deeper hlisted hdirectory henter hreaches)
  examine := fun hk hreaches =>
    h.examine (Nat.succ_le_succ hk) (.deeper hlisted hdirectory henter hreaches)
  too_deep := h.too_deep

theorem visit_entries_preserves {n : Nat} {root : D} {I : S → Prop}
    {below : Option (D → S → Except ε S)} {es : List E} {s s' : S} (h : Preserves w n root I)
    (hbelow : ∀ visit, below = some visit → ∀ e child s s', w.Listed root e →
      w.is_directory e = true → w.enter root e = .ok child → I s → visit child s = .ok s' → I s')
    (hes : ∀ e ∈ es, w.Listed root e) (hs : I s)
    (hvisit : w.visit_entries below root es s = .ok s') : I s' := by
  induction es generalizing s with
  | nil => exact ok_eq_ok.mp hvisit ▸ hs
  | cons e es ih =>
    have hlisted := hes e (List.mem_cons_self ..)
    have hrest : ∀ e ∈ es, w.Listed root e := fun e he => hes e (List.mem_cons_of_mem _ he)
    obtain ⟨-, rfl⟩ | ⟨hhalted, t, leave, hexamine, hcases⟩ := visit_entries_cons hvisit
    · exact hs
    have ht : I t := h.examine (Nat.zero_le n) (.here root) hlisted hhalted hs hexamine
    obtain ⟨-, rfl⟩ | ⟨-, hdirectory, hdescends, hdown⟩ | ⟨-, -, hnext⟩ := hcases
    · exact ht
    · obtain ⟨-, rfl⟩ | ⟨visit, child, u, hsome, henter, hchild, hnext⟩ := hdown
      · exact h.too_deep hdescends ht
      · exact ih hrest (hbelow visit hsome e child t u hlisted hdirectory henter ht hchild) hnext
    · exact ih hrest ht hnext

/-- What every step preserves, the walk preserves. -/
theorem visit_preserves {n : Nat} {root : D} {I : S → Prop} {s s' : S} (h : Preserves w n root I)
    (hs : I s) (hvisit : w.visit n root s = .ok s') : I s' := by
  induction n generalizing root s s' with
  | zero =>
    rw [visit_eq] at hvisit
    by_cases hdescends : w.descends s = true
    · rw [if_pos hdescends] at hvisit
      exact visit_entries_preserves h (fun visit hnone => by cases hnone) (fun e he => ⟨s, he⟩)
        (h.scan (Nat.le_refl 0) (.here root) hdescends hs) hvisit
    · rw [if_neg hdescends] at hvisit
      exact ok_eq_ok.mp hvisit ▸ hs
  | succ n ih =>
    rw [visit_eq] at hvisit
    by_cases hdescends : w.descends s = true
    · rw [if_pos hdescends] at hvisit
      refine visit_entries_preserves h ?_ (fun e he => ⟨s, he⟩)
        (h.scan (Nat.zero_le _) (.here root) hdescends hs) hvisit
      intro visit hsome e child t u hlisted hdirectory henter ht hchild
      obtain rfl := Option.some.inj hsome
      exact ih (h.enter hlisted hdirectory henter) ht hchild
    · rw [if_neg hdescends] at hvisit
      exact ok_eq_ok.mp hvisit ▸ hs

/-! ### Completeness -/

/-- What a walk to a depth collects from directories that list `full` and
    entries that give `own`. -/
def collect (w : Walk ε D E S) (full : D → List E) (own : D → E → List M) : Nat → D → List M
  | 0, d     => (full d).flatMap (own d)
  | n + 1, d => (full d).flatMap fun e =>
    own d e ++
      match w.is_directory e, w.enter d e with
      | true, .ok child => collect w full own n child
      | _, _            => []

/-- The directories below a directory, at any depth. -/
inductive Within (w : Walk ε D E S) (full : D → List E) : D → D → Prop where
  | here (d : D) : Within w full d d
  | deeper {d child d' : D} {e : E} (listed : e ∈ full d) (directory : w.is_directory e = true)
      (entered : w.enter d e = .ok child) (rest : Within w full child d') : Within w full d d'

/-- As long as the walk descends, a scan is full and an entry gives its own. -/
structure Collects (w : Walk ε D E S) (full : D → List E) (own : D → E → List M)
    (found : S → List M) : Prop where
  scan : ∀ {d s}, w.descends (w.scan d s).1 = true →
    (w.scan d s).2 = full d ∧ found (w.scan d s).1 = found s
  examine : ∀ {d e s s' leave}, w.examine d e s = .ok (s', leave) → w.descends s' = true →
    w.descends s = true ∧ leave = false ∧ found s' = found s ++ own d e
  goes_on : ∀ {s}, w.descends s = true → w.halted s = false
  too_deep : ∀ s, w.descends (w.too_deep s) = false

section
variable {full : D → List E} {own : D → E → List M} {found : S → List M}

theorem mem_collect {n : Nat} {d : D} {m : M} (h : m ∈ w.collect full own n d) :
    ∃ d' e, w.Within full d d' ∧ e ∈ full d' ∧ m ∈ own d' e := by
  induction n generalizing d with
  | zero =>
    obtain ⟨e, he, hm⟩ := List.mem_flatMap.mp h
    exact ⟨d, e, .here d, he, hm⟩
  | succ n ih =>
    obtain ⟨e, he, hm⟩ := List.mem_flatMap.mp h
    obtain hm | hm := List.mem_append.mp hm
    · exact ⟨d, e, .here d, he, hm⟩
    · split at hm
      · next child hdirectory henter =>
        obtain ⟨d', e', hwithin, he', hm'⟩ := ih hm
        exact ⟨d', e', .deeper he hdirectory henter hwithin, he', hm'⟩
      · cases hm

/-- A state that does not descend stays so. -/
theorem visit_entries_stays (h : Collects w full own found)
    {below : Option (D → S → Except ε S)} {d : D} {es : List E} {s s' : S}
    (hs : w.descends s = false) (hvisit : w.visit_entries below d es s = .ok s') :
    w.descends s' = false := by
  induction es generalizing s with
  | nil => exact ok_eq_ok.mp hvisit ▸ hs
  | cons e es ih =>
    obtain ⟨-, rfl⟩ | ⟨-, t, leave, hexamine, hcases⟩ := visit_entries_cons hvisit
    · exact hs
    have ht : w.descends t = false := by
      cases ht : w.descends t with
      | false => rfl
      | true  => exact absurd (h.examine hexamine ht).1 (by simp [hs])
    obtain ⟨-, rfl⟩ | ⟨-, -, hdescends, -⟩ | ⟨-, -, hnext⟩ := hcases
    · exact ht
    · rw [ht] at hdescends
      cases hdescends
    · exact ih ht hnext

/-- One directory of a walk that still descends: every entry was examined, and
    every directory among them walked. -/
theorem visit_entries_collects (h : Collects w full own found) (inside : D → List M)
    {below : Option (D → S → Except ε S)} {d : D} {es : List E} {s s' : S}
    (hbelow : ∀ visit, below = some visit → ∀ child s s', visit child s = .ok s' →
      w.descends s' = true → w.descends s = true ∧ found s' = found s ++ inside child)
    (hvisit : w.visit_entries below d es s = .ok s') (hs' : w.descends s' = true) :
    w.descends s = true ∧
      found s' = found s ++ (es.flatMap fun e => own d e ++
        match w.is_directory e, w.enter d e with
        | true, .ok child => inside child
        | _, _            => []) ∧
      ∀ e ∈ es, w.is_directory e = true →
        ∃ visit child, below = some visit ∧ w.enter d e = .ok child ∧
          ∃ t u, visit child t = .ok u ∧ w.descends u = true := by
  induction es generalizing s with
  | nil =>
    obtain rfl := ok_eq_ok.mp hvisit
    exact ⟨hs', by simp, fun e he => absurd he List.not_mem_nil⟩
  | cons e es ih =>
    obtain ⟨hhalted, rfl⟩ | ⟨-, t, leave, hexamine, hcases⟩ := visit_entries_cons hvisit
    · rw [h.goes_on hs'] at hhalted
      cases hhalted
    obtain ⟨rfl, rfl⟩ | ⟨rfl, hdirectory, hdescends, hdown⟩ | ⟨rfl, hplain, hnext⟩ := hcases
    · have hleave := (h.examine hexamine hs').2.1
      cases hleave
    · obtain ⟨-, rfl⟩ | ⟨visit, child, u, hsome, henter, hchild, hnext⟩ := hdown
      · rw [h.too_deep] at hs'
        cases hs'
      · obtain ⟨hu, hfound, hall⟩ := ih hnext
        obtain ⟨ht, hinside⟩ := hbelow visit hsome child t u hchild hu
        obtain ⟨hs, -, hown⟩ := h.examine hexamine ht
        refine ⟨hs, ?_, ?_⟩
        · rw [hfound, hinside, hown, List.flatMap_cons, hdirectory, henter]
          simp only [List.append_assoc]
        · intro e' he' hdirectory'
          obtain rfl | he' := List.mem_cons.mp he'
          · exact ⟨visit, child, hsome, henter, t, u, hchild, hu⟩
          · exact hall e' he' hdirectory'
    · obtain ⟨ht, hfound, hall⟩ := ih hnext
      obtain ⟨hs, -, hown⟩ := h.examine hexamine ht
      have hfile : w.is_directory e = false := by
        obtain hfile | hstuck := hplain
        · exact hfile
        · rw [ht] at hstuck
          cases hstuck
      refine ⟨hs, ?_, ?_⟩
      · rw [hfound, hown, List.flatMap_cons, hfile]
        simp only [List.append_nil, List.append_assoc]
      · intro e' he' hdirectory'
        obtain rfl | he' := List.mem_cons.mp he'
        · rw [hfile] at hdirectory'
          cases hdirectory'
        · exact hall e' he' hdirectory'

/-- A walk that still descends at its end has collected everything below. -/
theorem visit_collects (h : Collects w full own found) {n : Nat} {d : D} {s s' : S}
    (hvisit : w.visit n d s = .ok s') (hs' : w.descends s' = true) :
    w.descends s = true ∧ found s' = found s ++ w.collect full own n d ∧
      ∀ m, m ∈ w.collect full own n d ↔
        ∃ d' e, w.Within full d d' ∧ e ∈ full d' ∧ m ∈ own d' e := by
  induction n generalizing d s s' with
  | zero =>
    rw [visit_eq] at hvisit
    by_cases hdescends : w.descends s = true
    · rw [if_pos hdescends] at hvisit
      obtain ⟨hscan, hfound, hall⟩ := visit_entries_collects h (fun _ => [])
        (fun visit hnone => by cases hnone) hvisit hs'
      obtain ⟨hfull, hkept⟩ := h.scan hscan
      rw [hfull] at hfound hall
      refine ⟨hdescends, ?_, fun m => ⟨mem_collect, ?_⟩⟩
      · rw [hfound, hkept, collect]
        congr 2
        funext e
        split <;> simp
      · rintro ⟨d', e, hwithin, he, hm⟩
        cases hwithin with
        | here => exact List.mem_flatMap.mpr ⟨e, he, hm⟩
        | deeper listed directory entered rest =>
          obtain ⟨visit, -, hnone, -⟩ := hall _ listed directory
          cases hnone
    · rw [if_neg hdescends] at hvisit
      obtain rfl := ok_eq_ok.mp hvisit
      exact absurd hs' hdescends
  | succ n ih =>
    rw [visit_eq] at hvisit
    by_cases hdescends : w.descends s = true
    · rw [if_pos hdescends] at hvisit
      obtain ⟨hscan, hfound, hall⟩ := visit_entries_collects h
        (fun child => w.collect full own n child)
        (fun visit hsome child t u hchild hu => by
          obtain rfl := Option.some.inj hsome
          obtain ⟨ht, hgrown, -⟩ := ih hchild hu
          exact ⟨ht, hgrown⟩) hvisit hs'
      obtain ⟨hfull, hkept⟩ := h.scan hscan
      rw [hfull] at hfound hall
      refine ⟨hdescends, by rw [hfound, hkept]; rfl, fun m => ⟨mem_collect, ?_⟩⟩
      rintro ⟨d', e, hwithin, he, hm⟩
      cases hwithin with
      | here => exact List.mem_flatMap.mpr ⟨e, he, List.mem_append_left _ hm⟩
      | deeper listed directory entered rest =>
        obtain ⟨visit, child, hsome, henter, t, u, hchild, hu⟩ := hall _ listed directory
        obtain rfl := Option.some.inj hsome
        obtain rfl := ok_eq_ok.mp (entered.symm.trans henter)
        have hinside := ((ih hchild hu).2.2 m).mpr ⟨d', e, rest, he, hm⟩
        refine List.mem_flatMap.mpr ⟨_, listed, List.mem_append_right _ ?_⟩
        rw [directory, henter]
        exact hinside
    · rw [if_neg hdescends] at hvisit
      obtain rfl := ok_eq_ok.mp hvisit
      exact absurd hs' hdescends

end

/-! ### Walks that agree -/

/-- Related directories scan and open alike unless the state is `cut`, and a
    cut state stays cut. -/
structure Agrees (w : Walk ε D E S) (R : D → D → Prop) (cut : S → Prop) : Prop where
  scan : ∀ {d d' s}, R d d' → w.descends s = true → ¬ cut (w.scan d s).1 →
    w.scan d' s = w.scan d s
  examine : ∀ {d d' s} e, R d d' → w.examine d' e s = w.examine d e s
  enter : ∀ {d d' e child}, R d d' → w.enter d e = .ok child →
    ∃ child', w.enter d' e = .ok child' ∧ R child child'
  scan_cut : ∀ {d s}, cut s → cut (w.scan d s).1
  examine_cut : ∀ {d e s s' leave}, w.examine d e s = .ok (s', leave) → cut s → cut s'
  too_deep_cut : ∀ {s}, cut s → cut (w.too_deep s)

theorem Agrees.preserves {R : D → D → Prop} {cut : S → Prop} (h : Agrees w R cut) (n : Nat)
    (root : D) : Preserves w n root cut where
  scan := fun _ _ _ hs => h.scan_cut hs
  examine := fun _ _ _ _ hs hexamine => h.examine_cut hexamine hs
  too_deep := fun _ hs => h.too_deep_cut hs

theorem visit_entries_agrees {R : D → D → Prop} {cut : S → Prop} (h : Agrees w R cut)
    {below : Option (D → S → Except ε S)} {d d' : D} {es : List E} {s s' : S} (hd : R d d')
    (hbelow : ∀ visit, below = some visit → ∀ child child' s s', R child child' →
      visit child s = .ok s' → (cut s → cut s') ∧ (¬ cut s' → visit child' s = .ok s'))
    (hvisit : w.visit_entries below d es s = .ok s') :
    (cut s → cut s') ∧ (¬ cut s' → w.visit_entries below d' es s = .ok s') := by
  induction es generalizing s with
  | nil =>
    obtain rfl := ok_eq_ok.mp hvisit
    exact ⟨id, fun _ => rfl⟩
  | cons e es ih =>
    obtain ⟨hhalted, rfl⟩ | ⟨hhalted, t, leave, hexamine, hcases⟩ := visit_entries_cons hvisit
    · refine ⟨id, fun _ => ?_⟩
      rw [visit_entries, if_pos hhalted]
    have hsame : w.examine d' e s = .ok (t, leave) := (h.examine e hd).trans hexamine
    rw [visit_entries_examined hhalted hsame]
    obtain ⟨rfl, rfl⟩ | ⟨rfl, hdirectory, hdescends, hdown⟩ | ⟨rfl, hplain, hnext⟩ := hcases
    · exact ⟨h.examine_cut hexamine, fun _ => rfl⟩
    · rw [if_neg (by simp), if_pos (by simp [hdirectory, hdescends])]
      obtain ⟨rfl, rfl⟩ | ⟨visit, child, u, rfl, henter, hchild, hnext⟩ := hdown
      · exact ⟨fun hs => h.too_deep_cut (h.examine_cut hexamine hs), fun _ => rfl⟩
      · obtain ⟨child', henter', hR⟩ := h.enter hd henter
        obtain ⟨hchild_cut, hchild_same⟩ := hbelow visit rfl child child' t u hR hchild
        obtain ⟨hnext_cut, hnext_same⟩ := ih hnext
        refine ⟨fun hs => hnext_cut (hchild_cut (h.examine_cut hexamine hs)), fun hs' => ?_⟩
        have hu : ¬ cut u := fun hu => hs' (hnext_cut hu)
        exact bind_eq_ok.mpr ⟨child', henter', bind_eq_ok.mpr ⟨u, hchild_same hu, hnext_same hs'⟩⟩
    · obtain ⟨hnext_cut, hnext_same⟩ := ih hnext
      refine ⟨fun hs => hnext_cut (h.examine_cut hexamine hs), fun hs' => ?_⟩
      rw [if_neg (by simp), if_neg]
      · exact hnext_same hs'
      · obtain hfile | hstuck := hplain
        · simp [hfile]
        · simp [hstuck]

/-- Related roots are walked alike, unless the walk ends cut. -/
theorem visit_agrees {R : D → D → Prop} {cut : S → Prop} (h : Agrees w R cut) {n : Nat} {d d' : D}
    {s s' : S} (hd : R d d') (hvisit : w.visit n d s = .ok s') (hs' : ¬ cut s') :
    w.visit n d' s = .ok s' := by
  induction n generalizing d d' s s' with
  | zero =>
    rw [visit_eq] at hvisit ⊢
    by_cases hdescends : w.descends s = true
    · rw [if_pos hdescends] at hvisit ⊢
      obtain ⟨hcut, hsame⟩ := visit_entries_agrees h hd (fun visit hnone => by cases hnone) hvisit
      rw [h.scan hd hdescends fun hscan => hs' (hcut hscan)]
      exact hsame hs'
    · rw [if_neg hdescends] at hvisit ⊢
      exact hvisit
  | succ n ih =>
    rw [visit_eq] at hvisit ⊢
    by_cases hdescends : w.descends s = true
    · rw [if_pos hdescends] at hvisit ⊢
      obtain ⟨hcut, hsame⟩ := visit_entries_agrees h hd (fun visit hsome child child' t u hR hchild => by
        obtain rfl := Option.some.inj hsome
        exact ⟨fun ht => visit_preserves (h.preserves n child) ht hchild, ih hR hchild⟩) hvisit
      rw [h.scan hd hdescends fun hscan => hs' (hcut hscan)]
      exact hsame hs'
    · rw [if_neg hdescends] at hvisit ⊢
      exact hvisit

/-! ### Walks that do not fail -/

/-- No entry below a directory fails to be examined or entered. -/
structure Opens (w : Walk ε D E S) (root : D) : Prop where
  examine : ∀ {k d e} s, w.Reaches k root d → w.Listed d e → ∃ r, w.examine d e s = .ok r
  enter : ∀ {k d e}, w.Reaches k root d → w.Listed d e → w.is_directory e = true →
    ∃ child, w.enter d e = .ok child

theorem visit_entries_succeeds {root : D} {below : Option (D → S → Except ε S)} {es : List E}
    (h : Opens w root) (hes : ∀ e ∈ es, w.Listed root e)
    (hbelow : ∀ visit, below = some visit → ∀ e child, w.Listed root e → w.is_directory e = true →
      w.enter root e = .ok child → ∀ s, ∃ s', visit child s = .ok s') (s : S) :
    ∃ s', w.visit_entries below root es s = .ok s' := by
  induction es generalizing s with
  | nil => exact ⟨s, rfl⟩
  | cons e es ih =>
    have hlisted := hes e (List.mem_cons_self ..)
    have hrest := ih fun e he => hes e (List.mem_cons_of_mem _ he)
    obtain ⟨⟨t, leave⟩, hexamine⟩ := h.examine s (.here root) hlisted
    by_cases hhalted : w.halted s = true
    · rw [visit_entries, if_pos hhalted]
      exact ⟨s, rfl⟩
    rw [visit_entries_examined (by simpa using hhalted) hexamine]
    cases leave with
    | true => exact ⟨t, rfl⟩
    | false =>
      rw [if_neg (by simp)]
      by_cases hdown : (w.is_directory e && w.descends t) = true
      · rw [if_pos hdown]
        rw [Bool.and_eq_true] at hdown
        cases below with
        | none => exact ⟨_, rfl⟩
        | some visit =>
          obtain ⟨child, henter⟩ := h.enter (.here root) hlisted hdown.1
          obtain ⟨u, hchild⟩ := hbelow visit rfl e child hlisted hdown.1 henter t
          obtain ⟨s', hs'⟩ := hrest u
          exact ⟨s', bind_eq_ok.mpr ⟨child, henter, bind_eq_ok.mpr ⟨u, hchild, hs'⟩⟩⟩
      · rw [if_neg hdown]
        exact hrest t

/-- A walk fails only where an entry does. -/
theorem visit_succeeds {n : Nat} {root : D} (h : Opens w root) (s : S) :
    ∃ s', w.visit n root s = .ok s' := by
  induction n generalizing root s with
  | zero =>
    rw [visit_eq]
    by_cases hdescends : w.descends s = true
    · rw [if_pos hdescends]
      exact visit_entries_succeeds h (fun e he => ⟨s, he⟩) (fun visit hnone => by cases hnone) _
    · rw [if_neg hdescends]
      exact ⟨s, rfl⟩
  | succ n ih =>
    rw [visit_eq]
    by_cases hdescends : w.descends s = true
    · rw [if_pos hdescends]
      refine visit_entries_succeeds h (fun e he => ⟨s, he⟩) ?_ _
      intro visit hsome e child hlisted hdirectory henter t
      obtain rfl := Option.some.inj hsome
      refine ih ⟨fun s hreaches => h.examine s (.deeper hlisted hdirectory henter hreaches),
        fun hreaches => h.enter (.deeper hlisted hdirectory henter hreaches)⟩ t
    · rw [if_neg hdescends]
      exact ⟨s, rfl⟩

end Walk
