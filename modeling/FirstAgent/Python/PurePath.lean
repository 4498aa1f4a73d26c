import FirstAgent.Python.Text

/-! # POSIX Paths

    `PurePosixPath` as a root and its parts, and the absolute paths
    `os.path.realpath` returns: names without `.`, `..` or empty parts.  A
    path lies inside another exactly when its text continues the other's at a
    slash (`inside_iff`). -/

/-- `PurePosixPath`: the root (`""`, `"/"` or `"//"`) and the parts. -/
structure PurePath where
  root : List Char
  parts : List (List Char)
  deriving DecidableEq, Repr

namespace PurePath

/-- Two leading slashes are a root of their own; three or more are one. -/
def split_root (cs : List Char) : List Char :=
  match (cs.takeWhile fun c => c = '/').length with
  | 0 => []
  | 2 => ['/', '/']
  | _ => ['/']

/-- `Path(text)`: empty parts and `.` are dropped. -/
def of_text (cs : List Char) : PurePath :=
  { root := split_root cs
    parts := (PyText.split_chars '/' cs).filter fun part => part ≠ [] && part ≠ ['.'] }

def is_absolute (p : PurePath) : Bool := p.root ≠ []

/-- `p / q`. -/
def join (p q : PurePath) : PurePath :=
  if q.is_absolute then q else { root := p.root, parts := p.parts ++ q.parts }

/-- `str(p)`. -/
def chars (p : PurePath) : List Char :=
  if p.root = [] ∧ p.parts = [] then ['.'] else p.root ++ List.intercalate ['/'] p.parts

end PurePath

/-- A name between two slashes. -/
def is_name (c : List Char) : Bool :=
  c ≠ [] && c ≠ ['.'] && c ≠ ['.', '.'] && !c.contains '/'

theorem no_slash_of_is_name {c : List Char} (h : is_name c = true) : '/' ∉ c := by
  simp only [is_name, Bool.and_eq_true, Bool.not_eq_true', List.contains_eq_mem,
    decide_eq_false_iff_not] at h
  exact h.2

/-- An absolute path in normal form. -/
structure AbsPath where
  names : List (List Char)
  valid : ∀ c ∈ names, is_name c = true

namespace AbsPath

@[ext] theorem ext {p q : AbsPath} (h : p.names = q.names) : p = q := by
  cases p
  cases q
  cases h
  rfl

instance : DecidableEq AbsPath := fun p q =>
  if h : p.names = q.names then isTrue (ext h) else isFalse fun h' => h (h' ▸ rfl)

/-- `str(p)`. -/
def chars (p : AbsPath) : List Char :=
  if p.names = [] then ['/'] else p.names.flatMap fun c => '/' :: c

/-- The path as a `PurePath`. -/
def to_pure (p : AbsPath) : PurePath := { root := ['/'], parts := p.names }

/-- `p` is `root` or lies below it. -/
def inside (root p : AbsPath) : Prop := root.names <+: p.names

instance (root p : AbsPath) : Decidable (inside root p) :=
  inferInstanceAs (Decidable (root.names <+: p.names))

/-! ### Insideness of texts -/

/-- The text of a directory up to the slash before its entries. -/
def closed (names : List (List Char)) : List Char := '/' :: names.flatMap fun c => c ++ ['/']

/-- A name ends at its first slash. -/
theorem append_slash_inj {c d xs ys : List Char} (hc : '/' ∉ c) (hd : '/' ∉ d)
    (h : c ++ '/' :: xs = d ++ '/' :: ys) : c = d ∧ xs = ys := by
  induction c generalizing d with
  | nil =>
    cases d with
    | nil => exact ⟨rfl, (List.cons.inj h).2⟩
    | cons e d =>
      have he : '/' = e := (List.cons.inj h).1
      exact absurd (he ▸ List.mem_cons_self) hd
  | cons b c ih =>
    cases d with
    | nil =>
      have hb : b = '/' := (List.cons.inj h).1
      exact absurd (hb ▸ List.mem_cons_self) hc
    | cons e d =>
      obtain ⟨rfl, hrest⟩ := List.cons.inj h
      obtain ⟨rfl, rfl⟩ := ih (fun hm => hc (List.mem_cons_of_mem _ hm))
        (fun hm => hd (List.mem_cons_of_mem _ hm)) hrest
      exact ⟨rfl, rfl⟩

theorem flatMap_slash_prefix {r p : List (List Char)} (hr : ∀ c ∈ r, '/' ∉ c)
    (hp : ∀ c ∈ p, '/' ∉ c) :
    (r.flatMap fun c => c ++ ['/']) <+: (p.flatMap fun c => c ++ ['/']) ↔ r <+: p := by
  constructor
  · intro h
    induction r generalizing p with
    | nil => exact List.nil_prefix
    | cons c r ih =>
      obtain ⟨t, ht⟩ := h
      cases p with
      | nil => simp at ht
      | cons d p =>
        simp only [List.flatMap_cons, List.append_assoc, List.singleton_append] at ht
        obtain ⟨rfl, hrest⟩ := append_slash_inj (hr c List.mem_cons_self)
          (hp d List.mem_cons_self) ht
        have hbelow := ih (fun e he => hr e (List.mem_cons_of_mem c he))
          (fun e he => hp e (List.mem_cons_of_mem c he)) ⟨t, hrest⟩
        obtain ⟨u, hu⟩ := hbelow
        exact ⟨u, by rw [List.cons_append, hu]⟩
  · rintro ⟨t, rfl⟩
    exact ⟨t.flatMap fun c => c ++ ['/'], by rw [List.flatMap_append]⟩

theorem closed_prefix {r p : AbsPath} : closed r.names <+: closed p.names ↔ inside r p := by
  unfold closed inside
  rw [List.cons_prefix_cons, flatMap_slash_prefix
    (fun c hc => no_slash_of_is_name (r.valid c hc))
    (fun c hc => no_slash_of_is_name (p.valid c hc))]
  exact and_iff_right rfl

theorem closed_root {p : AbsPath} (h : p.names = []) : closed p.names = p.chars := by
  simp [closed, chars, h]

theorem closed_of_ne {p : AbsPath} (h : p.names ≠ []) : closed p.names = p.chars ++ ['/'] := by
  have hshift : ∀ names : List (List Char),
      '/' :: (names.flatMap fun c => c ++ ['/']) = (names.flatMap fun c => '/' :: c) ++ ['/'] := by
    intro names
    induction names with
    | nil => rfl
    | cons c names ih =>
      rw [List.flatMap_cons, List.flatMap_cons, List.cons_append, List.cons_append,
        List.append_assoc, List.append_assoc, ← ih]
      rfl
  unfold closed chars
  rw [if_neg h]
  exact hshift p.names

/-- A text at or below a directory: the directory itself, or its text up to a
    slash and more. -/
def below (root text : List Char) : Prop :=
  text = root ∨ (if root.getLast? = some '/' then root else root ++ ['/']) <+: text

/-- The text of a path other than the root ends in a name. -/
theorem getLast?_chars {p : AbsPath} (h : p.names ≠ []) : p.chars.getLast? ≠ some '/' := by
  obtain ⟨names, c, hnames⟩ : ∃ names c, p.names = names ++ [c] :=
    ⟨p.names.dropLast, p.names.getLast h, (List.dropLast_concat_getLast h).symm⟩
  have hname := p.valid c (by rw [hnames]; exact List.mem_append_right _ List.mem_cons_self)
  have hslash := no_slash_of_is_name hname
  have hc : c ≠ [] := by
    rintro rfl
    simp [is_name] at hname
  unfold chars
  rw [if_neg h, hnames, List.flatMap_append, List.flatMap_singleton, List.getLast?_append,
    List.getLast?_cons, List.getLast?_eq_some_getLast hc]
  intro hlast
  simp only [Option.getD_some, Option.some_or, Option.some.injEq] at hlast
  exact hslash (hlast ▸ List.getLast_mem hc)

/-- Insideness of paths is that of their texts. -/
theorem inside_iff {r p : AbsPath} : below r.chars p.chars ↔ inside r p := by
  rw [← closed_prefix]
  have hroot : (if r.chars.getLast? = some '/' then r.chars else r.chars ++ ['/']) =
      closed r.names := by
    by_cases hr : r.names = []
    · rw [closed_root hr, if_pos (by simp [chars, hr])]
    · rw [closed_of_ne hr, if_neg (getLast?_chars hr)]
  unfold below
  rw [hroot]
  by_cases hp : p.names = []
  · -- the root lies inside itself only
    rw [closed_root hp]
    constructor
    · rintro (heq | hbelow)
      · by_cases hr : r.names = []
        · simp only [closed_root hr, heq, List.prefix_rfl]
        · exact absurd (by rw [← heq]; simp [chars, hp]) (getLast?_chars hr)
      · exact hbelow
    · exact Or.inr
  · rw [closed_of_ne hp, List.prefix_concat_iff]
    constructor
    · rintro (heq | hbelow)
      · by_cases hr : r.names = []
        · exact absurd (by rw [heq]; simp [chars, hr]) (getLast?_chars hp)
        · exact Or.inl (by rw [closed_of_ne hr, heq])
      · exact Or.inr hbelow
    · rintro (heq | hbelow)
      · by_cases hr : r.names = []
        · rw [closed_root hr] at heq
          have hlength := congrArg List.length heq
          simp only [chars, hr, if_true, List.length_append, List.length_singleton] at hlength
          rw [if_neg hp] at hlength
          cases hnames : p.names with
          | nil => exact absurd hnames hp
          | cons c names => simp [hnames] at hlength
        · rw [closed_of_ne hr] at heq
          exact Or.inl (List.append_cancel_right heq).symm
      · exact Or.inr hbelow

end AbsPath
