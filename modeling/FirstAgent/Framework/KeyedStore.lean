import Mathlib.Data.List.Sort
import Mathlib.Data.String.Basic

/-! # Keyed Stores

    A store is a list of items in the order of their keys, no key twice.  The
    operations are those of a program that keeps such a list: look an item up,
    put a new item in place of the one under its key, add an item and sort,
    remove the item under a key, and put an item under its key.

    * **`find_replace`**, **`find_sort_append`**, **`find_remove`**: what each
      operation does to the item under a key, and that it leaves the others.
    * **`ordered_replace`**, **`ordered_sort_append`**, **`ordered_remove`**:
      each operation keeps the store in order. -/

namespace KeyedStore

variable {α κ : Type} [LinearOrder κ] (key : α → κ)

/-- The item under a key. -/
def find (k : κ) (items : List α) : Option α := items.find? fun x => key x = k

/-- Put an item in place of the one under its key. -/
def replace (x : α) (items : List α) : List α :=
  items.map fun y => if key y = key x then x else y

/-- Sort by key; items under one key keep their order. -/
def sort (items : List α) : List α := items.insertionSort fun x y => key x ≤ key y

/-- Remove the item under a key. -/
def remove (k : κ) (items : List α) : List α := items.filter fun x => key x ≠ k

/-- Put an item under its key, whether or not the key is there. -/
def put (x : α) (items : List α) : List α := sort key (remove key (key x) items ++ [x])

/-- The keys increase. -/
def Ordered (items : List α) : Prop := (items.map key).Pairwise (· < ·)

variable {key}

/-! ### Looking up -/

theorem find_key {k : κ} {items : List α} {x : α} (h : find key k items = some x) :
    key x = k := by
  simpa using List.find?_some h

theorem find_mem {k : κ} {items : List α} {x : α} (h : find key k items = some x) :
    x ∈ items :=
  List.mem_of_find?_eq_some h

theorem find_cons (k : κ) (z : α) (zs : List α) :
    find key k (z :: zs) = if key z = k then some z else find key k zs := by
  by_cases h : key z = k <;> simp [find, h]

theorem find_none {k : κ} {items : List α} :
    find key k items = none ↔ ∀ x ∈ items, key x ≠ k := by
  simp [find]

theorem Ordered.pairwise {items : List α} (h : Ordered key items) :
    items.Pairwise fun x y => key x < key y :=
  List.pairwise_map.mp h

theorem Ordered.nodup {items : List α} (h : Ordered key items) : (items.map key).Nodup :=
  List.Pairwise.imp (fun h => ne_of_lt h) h

/-- In a store, the item under a key is the only one. -/
theorem find_of_mem {items : List α} {x : α} (h : Ordered key items) (hx : x ∈ items) :
    find key (key x) items = some x := by
  cases hfound : find key (key x) items with
  | none => exact absurd rfl (find_none.mp hfound x hx)
  | some y =>
    have hsame : y = x :=
      List.inj_on_of_nodup_map h.nodup (find_mem hfound) hx (find_key hfound)
    rw [hsame]

/-! ### Sorting -/

/-- Sorting leaves a store alone. -/
theorem sort_of_ordered {items : List α} (h : Ordered key items) : sort key items = items :=
  List.Pairwise.insertionSort_eq (h.pairwise.imp le_of_lt)

theorem mem_sort {items : List α} {x : α} : x ∈ sort key items ↔ x ∈ items :=
  List.mem_insertionSort _

theorem sort_perm (items : List α) : (sort key items).Perm items :=
  List.perm_insertionSort _ items

/-- Items with different keys are in order once sorted. -/
theorem ordered_sort {items : List α} (h : (items.map key).Nodup) :
    Ordered key (sort key items) := by
  have hle : (sort key items).Pairwise fun x y => key x ≤ key y :=
    List.pairwise_insertionSort (fun x y => key x ≤ key y) items
  have hne : ((sort key items).map key).Nodup := ((sort_perm items).map key).nodup_iff.mpr h
  refine List.pairwise_map.mpr (hle.imp₂ (fun x y hxy hneq => lt_of_le_of_ne hxy hneq) ?_)
  exact List.pairwise_map.mp hne

/-- Looking up does not depend on the order. -/
theorem find_perm {items items' : List α} (hperm : items.Perm items')
    (h : (items.map key).Nodup) (k : κ) : find key k items = find key k items' := by
  have h' : (items'.map key).Nodup := (hperm.map key).nodup_iff.mp h
  cases hfound : find key k items with
  | none =>
    refine (find_none.mpr fun x hx => ?_).symm
    exact find_none.mp hfound x (hperm.mem_iff.mpr hx)
  | some x =>
    cases hfound' : find key k items' with
    | none => exact absurd (find_key hfound) (find_none.mp hfound' x (hperm.mem_iff.mp (find_mem hfound)))
    | some y =>
      have hsame : x = y := List.inj_on_of_nodup_map h' (hperm.mem_iff.mp (find_mem hfound))
        (find_mem hfound') ((find_key hfound).trans (find_key hfound').symm)
      rw [hsame]

/-! ### Replacing -/

theorem map_key_replace (x : α) (items : List α) :
    (replace key x items).map key = items.map key := by
  rw [replace, List.map_map]
  refine List.map_congr_left fun y _ => ?_
  by_cases h : key y = key x <;> simp [h]

theorem ordered_replace {x : α} {items : List α} (h : Ordered key items) :
    Ordered key (replace key x items) := by
  rw [Ordered, map_key_replace]
  exact h

theorem replace_cons (x z : α) (zs : List α) :
    replace key x (z :: zs) = (if key z = key x then x else z) :: replace key x zs := rfl

theorem find_replace_other {x : α} {k : κ} (hk : k ≠ key x) (items : List α) :
    find key k (replace key x items) = find key k items := by
  induction items with
  | nil => rfl
  | cons z zs ih =>
    rw [replace_cons, find_cons, find_cons, ih]
    by_cases hz : key z = key x
    · have hzk : ¬ key z = k := fun h => hk (h.symm.trans hz)
      rw [if_pos hz, if_neg hk.symm, if_neg hzk]
    · rw [if_neg hz]

/-- A replaced item is found under its key, the others as before. -/
theorem find_replace {x y : α} {items : List α} (hy : find key (key x) items = some y) (k : κ) :
    find key k (replace key x items) = if k = key x then some x else find key k items := by
  by_cases hk : k = key x
  · subst hk
    rw [if_pos rfl]
    induction items with
    | nil => cases hy
    | cons z zs ih =>
      rw [find_cons] at hy
      rw [replace_cons, find_cons]
      by_cases hz : key z = key x
      · rw [if_pos hz, if_pos rfl]
      · rw [if_neg hz, if_neg hz]
        exact ih (by rwa [if_neg hz] at hy)
  · rw [if_neg hk, find_replace_other hk]

theorem mem_replace {x y : α} {items : List α} (h : y ∈ replace key x items) :
    y = x ∨ y ∈ items := by
  obtain ⟨z, hz, rfl⟩ := List.mem_map.mp h
  by_cases hkey : key z = key x
  · simp [hkey]
  · right
    simpa [hkey] using hz

/-- A replacement that meets `p` only where the item before did adds no item
    that meets `p`. -/
theorem countP_replace_le (p : α → Bool) {x : α} {items : List α}
    (h : ∀ y ∈ items, key y = key x → p x = true → p y = true) :
    (replace key x items).countP p ≤ items.countP p := by
  rw [replace, List.countP_map]
  refine List.countP_mono_left fun y hy hp => ?_
  by_cases hkey : key y = key x
  · simp only [Function.comp, hkey, if_true] at hp
    exact h y hy hkey hp
  · simpa [hkey] using hp

/-! ### Adding and removing -/

theorem nodup_append {x : α} {items : List α} (h : Ordered key items)
    (hx : find key (key x) items = none) : ((items ++ [x]).map key).Nodup := by
  rw [List.map_append, List.nodup_append]
  refine ⟨h.nodup, List.nodup_singleton _, ?_⟩
  intro a ha b hb hab
  obtain ⟨y, hy, rfl⟩ := List.mem_map.mp ha
  obtain rfl := List.mem_singleton.mp hb
  exact find_none.mp hx y hy hab

theorem ordered_sort_append {x : α} {items : List α} (h : Ordered key items)
    (hx : find key (key x) items = none) : Ordered key (sort key (items ++ [x])) :=
  ordered_sort (nodup_append h hx)

/-- An added item is found under its key, the others as before. -/
theorem find_sort_append {x : α} {items : List α} (h : Ordered key items)
    (hx : find key (key x) items = none) (k : κ) :
    find key k (sort key (items ++ [x])) = if k = key x then some x else find key k items := by
  rw [find_perm (sort_perm _) (((sort_perm _).map key).nodup_iff.mpr (nodup_append h hx))]
  by_cases hk : k = key x
  · subst hk
    have hnone : items.find? (fun y => decide (key y = key x)) = none := hx
    simp [find, List.find?_append, hnone]
  · have hne : ¬ key x = k := fun h => hk h.symm
    simp [find, List.find?_append, hk, hne]

theorem ordered_remove {items : List α} (h : Ordered key items) (k : κ) :
    Ordered key (remove key k items) := by
  refine List.pairwise_map.mpr ?_
  exact h.pairwise.filter _

/-- A removed item is not found, the others as before. -/
theorem find_remove (items : List α) (j k : κ) :
    find key j (remove key k items) = if j = k then none else find key j items := by
  by_cases hj : j = k
  · subst hj
    rw [if_pos rfl]
    refine find_none.mpr fun x hx => ?_
    simpa [remove] using (List.mem_filter.mp hx).2
  · rw [if_neg hj, find, remove, List.find?_filter, find]
    congr 1
    funext x
    by_cases hx : key x = j
    · simp [hx, hj]
    · simp [hx]

/-! ### Putting -/

theorem ordered_put {items : List α} (h : Ordered key items) (x : α) :
    Ordered key (put key x items) := by
  have hfree : find key (key x) (remove key (key x) items) = none := by
    rw [find_remove, if_pos rfl]
  exact ordered_sort_append (ordered_remove h (key x)) hfree

/-- A put item is found under its key, the others as before. -/
theorem find_put {items : List α} (h : Ordered key items) (x : α) (k : κ) :
    find key k (put key x items) = if k = key x then some x else find key k items := by
  have hfree : find key (key x) (remove key (key x) items) = none := by
    rw [find_remove, if_pos rfl]
  rw [put, find_sort_append (ordered_remove h (key x)) hfree]
  by_cases hk : k = key x
  · rw [if_pos hk, if_pos hk]
  · rw [if_neg hk, if_neg hk, find_remove, if_neg hk]

theorem mem_put {x y : α} {items : List α} (h : y ∈ put key x items) : y = x ∨ y ∈ items := by
  rcases List.mem_append.mp (mem_sort.mp h) with hy | hy
  · exact .inr (List.mem_filter.mp hy).1
  · exact .inl (List.mem_singleton.mp hy)

end KeyedStore
