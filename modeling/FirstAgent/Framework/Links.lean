import Mathlib.Data.List.Nodup
import Mathlib.Data.List.Perm.Basic

/-! # Directories with Hard Links

    A directory gives names to inodes, and an inode keeps its content under all
    of its names.  The operations are the ones that change names (link,
    unlink) and the one that changes a content (write); the link count of an
    inode is the number of its names.

    * **`nlink_one`**, **`nlink_two`**: the link count of an inode whose names
      are known.
    * **`mem_link`**, **`mem_unlink`**: the names after a link or an unlink. -/

/-- Names with their inodes, and the contents by inode number. -/
structure LinkedDirectory (ν β : Type) where
  entries : List (ν × Nat) := []
  content : Nat → β

namespace LinkedDirectory

variable {ν β : Type}

/-- The link count of an inode. -/
def nlink (d : LinkedDirectory ν β) (i : Nat) : Nat := (d.entries.filter fun e => e.2 = i).length

/-- Give an inode one more name. -/
def link (d : LinkedDirectory ν β) (name : ν) (i : Nat) : LinkedDirectory ν β :=
  { d with entries := d.entries ++ [(name, i)] }

/-- Set the content of an inode. -/
def write (d : LinkedDirectory ν β) (i : Nat) (b : β) : LinkedDirectory ν β :=
  { d with content := fun j => if j = i then b else d.content j }

/-- No name stands twice. -/
def Distinct (d : LinkedDirectory ν β) : Prop := (d.entries.map Prod.fst).Nodup

variable {d : LinkedDirectory ν β} {name : ν} {i j : Nat} {e : ν × Nat} {b : β}

/-- A name has one inode. -/
theorem Distinct.inode_eq (h : d.Distinct) (hi : (name, i) ∈ d.entries)
    (hj : (name, j) ∈ d.entries) : i = j :=
  congrArg Prod.snd (List.inj_on_of_nodup_map h hi hj rfl)

/-! ### Link counts -/

/-- An inode with one name. -/
theorem nlink_one (h : d.Distinct) (hmem : (name, i) ∈ d.entries)
    (honly : ∀ n, (n, i) ∈ d.entries → n = name) : d.nlink i = 1 := by
  have hperm : (d.entries.filter fun e => e.2 = i).Perm [(name, i)] := by
    refine (List.perm_ext_iff_of_nodup (h.of_map.filter _) (List.nodup_singleton _)).mpr ?_
    rintro ⟨n, j⟩
    simp only [List.mem_filter, List.mem_singleton, decide_eq_true_eq, Prod.mk.injEq]
    constructor
    · rintro ⟨hn, rfl⟩
      exact ⟨honly n hn, rfl⟩
    · rintro ⟨rfl, rfl⟩
      exact ⟨hmem, rfl⟩
  simpa [nlink] using hperm.length_eq

/-- An inode with two names. -/
theorem nlink_two {other : ν} (h : d.Distinct) (hmem : (name, i) ∈ d.entries)
    (hother : (other, i) ∈ d.entries) (hne : name ≠ other)
    (honly : ∀ n, (n, i) ∈ d.entries → n = name ∨ n = other) : d.nlink i = 2 := by
  have hperm : (d.entries.filter fun e => e.2 = i).Perm [(name, i), (other, i)] := by
    refine (List.perm_ext_iff_of_nodup (h.of_map.filter _) (by simp [hne])).mpr ?_
    rintro ⟨n, j⟩
    simp only [List.mem_filter, List.mem_cons, List.not_mem_nil, or_false, decide_eq_true_eq,
      Prod.mk.injEq]
    constructor
    · rintro ⟨hn, rfl⟩
      rcases honly n hn with rfl | rfl
      · exact .inl ⟨rfl, rfl⟩
      · exact .inr ⟨rfl, rfl⟩
    · rintro (⟨rfl, rfl⟩ | ⟨rfl, rfl⟩)
      · exact ⟨hmem, rfl⟩
      · exact ⟨hother, rfl⟩
  simpa [nlink] using hperm.length_eq

/-! ### Links and writes -/

theorem mem_link : e ∈ (d.link name i).entries ↔ e ∈ d.entries ∨ e = (name, i) := by
  simp [link]

@[simp] theorem link_content : (d.link name i).content = d.content := rfl

@[simp] theorem write_entries : (d.write i b).entries = d.entries := rfl

theorem write_content_self : (d.write i b).content i = b := if_pos rfl

theorem write_content_other (h : j ≠ i) : (d.write i b).content j = d.content j := if_neg h

/-! ### Looking up and removing -/

variable [DecidableEq ν]

/-- The inode of a name. -/
def inode (d : LinkedDirectory ν β) (name : ν) : Option Nat :=
  (d.entries.find? fun e => e.1 = name).map Prod.snd

/-- Remove a name. -/
def unlink (d : LinkedDirectory ν β) (name : ν) : LinkedDirectory ν β :=
  { d with entries := d.entries.filter fun e => e.1 ≠ name }

theorem inode_eq_none : d.inode name = none ↔ ∀ e ∈ d.entries, e.1 ≠ name := by
  simp [inode]

theorem mem_of_inode (h : d.inode name = some i) : (name, i) ∈ d.entries := by
  unfold inode at h
  obtain ⟨e, hfound, rfl⟩ := Option.map_eq_some_iff.mp h
  have hname : e.1 = name := by
    simpa using List.find?_some hfound
  rw [← hname]
  exact List.mem_of_find?_eq_some hfound

/-- The inode of a name is the one it is given. -/
theorem inode_of_mem (h : d.Distinct) (hmem : (name, i) ∈ d.entries) : d.inode name = some i := by
  cases hfound : d.inode name with
  | none => exact absurd rfl (inode_eq_none.mp hfound _ hmem)
  | some j =>
    have hsame := h.inode_eq (mem_of_inode hfound) hmem
    rw [hsame]

theorem mem_unlink : e ∈ (d.unlink name).entries ↔ e ∈ d.entries ∧ e.1 ≠ name := by
  simp [unlink]

@[simp] theorem unlink_content : (d.unlink name).content = d.content := rfl

/-- A new name keeps the names apart. -/
theorem Distinct.link (h : d.Distinct) (hfree : d.inode name = none) : (d.link name i).Distinct := by
  have hfresh := inode_eq_none.mp hfree
  unfold Distinct LinkedDirectory.link
  rw [List.map_append, List.nodup_append]
  refine ⟨h, by simp, ?_⟩
  intro n hn m hm
  obtain ⟨e, he, rfl⟩ := List.mem_map.mp hn
  obtain rfl : m = name := by simpa using hm
  exact hfresh e he

theorem Distinct.unlink (h : d.Distinct) : (d.unlink name).Distinct :=
  List.Nodup.sublist (List.Sublist.map _ List.filter_sublist) h

end LinkedDirectory
