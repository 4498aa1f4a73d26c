import FirstAgent.Sandbox.Policy
import FirstAgent.Sandbox.Seatbelt
import Mathlib.Data.List.Infix

/-! # Sensitive Filenames

    `_fnmatch_to_regex` writes a filename pattern as an expression that is
    anchored to one segment of a path.  Read back, the expressions of the
    sensitive patterns find exactly the paths whose last name matches one of
    them under `fnmatch` (`finds_sensitive_path`). -/

namespace Sandbox

/-! ### Filename patterns -/

/-- `fnmatch` for patterns of `*`, `?` and fixed characters. -/
def fnmatch : (pattern name : List Char) → Bool
  | [], name           => name.isEmpty
  | c :: pattern, name =>
    if c = '*' then name.tails.any fun rest => fnmatch pattern rest
    else match name with
      | []        => false
      | d :: name => (c = '?' || c = d) && fnmatch pattern name

/-- The last name of the path matches a sensitive pattern. -/
def sensitive (p : AbsPath) : Prop :=
  ∃ name, p.names.getLast? = some name ∧
    ∃ pattern ∈ sensitive_filename_patterns, fnmatch pattern name = true

/-- No wildcard. -/
def fixed (core : List Char) : Prop := '*' ∉ core ∧ '?' ∉ core

theorem fnmatch_fixed {core name : List Char} (h : fixed core) :
    fnmatch core name = true ↔ name = core := by
  induction core generalizing name with
  | nil => simp [fnmatch]
  | cons c core ih =>
    have hc : c ≠ '*' := fun heq => h.1 (heq ▸ List.mem_cons_self)
    have hq : c ≠ '?' := fun heq => h.2 (heq ▸ List.mem_cons_self)
    have hrest : fixed core := ⟨fun hm => h.1 (List.mem_cons_of_mem c hm),
      fun hm => h.2 (List.mem_cons_of_mem c hm)⟩
    cases name with
    | nil => simp [fnmatch, hc]
    | cons d name =>
      have hname := @ih name hrest
      simp only [fnmatch, hc, hq, if_false, decide_false, Bool.false_or, Bool.and_eq_true,
        decide_eq_true_eq, hname, List.cons.injEq]
      exact and_congr_left fun _ => eq_comm

theorem fnmatch_suffix {core name : List Char} (h : fixed core) :
    fnmatch ('*' :: core) name = true ↔ core <:+ name := by
  unfold fnmatch
  rw [if_pos rfl, List.any_eq_true]
  constructor
  · rintro ⟨rest, hrest, hmatch⟩
    rw [← (fnmatch_fixed h).mp hmatch]
    exact (List.mem_tails rest name).mp hrest
  · intro hsuffix
    exact ⟨core, (List.mem_tails core name).mpr hsuffix, (fnmatch_fixed h).mpr rfl⟩

theorem fnmatch_prefix {core name : List Char} (h : fixed core) :
    fnmatch (core ++ ['*']) name = true ↔ core <+: name := by
  induction core generalizing name with
  | nil =>
    simp only [List.nil_append, fnmatch, if_true, List.any_eq_true, List.nil_prefix, iff_true]
    exact ⟨[], (List.mem_tails [] name).mpr List.nil_suffix, rfl⟩
  | cons c core ih =>
    have hc : c ≠ '*' := fun heq => h.1 (heq ▸ List.mem_cons_self)
    have hq : c ≠ '?' := fun heq => h.2 (heq ▸ List.mem_cons_self)
    have hrest : fixed core := ⟨fun hm => h.1 (List.mem_cons_of_mem c hm),
      fun hm => h.2 (List.mem_cons_of_mem c hm)⟩
    cases name with
    | nil => simp [fnmatch, hc]
    | cons d name =>
      have hname := @ih name hrest
      simp [fnmatch, hc, hq, hname]

/-! ### Segment expressions -/

open Regex

/-- `(^|/)`. -/
def segment_start : Regex := .alt (seq_all [.start]) (seq_all [.char '/'])

/-- `[^/]*`. -/
def segment_rest : Regex := .star (.none_of ['/'])

/-- A body between the start and the end of the last segment. -/
def segment (body : List Regex) : Regex := seq_all (segment_start :: body ++ [.stop])

/-- A body that matches no slash and looks at nothing around it. -/
structure Plain (body : List Regex) (accepts : List Char → Prop) : Prop where
  matches_iff : ∀ b m a, Matches (seq_all body) b m a ↔ accepts m
  no_slash : ∀ m, accepts m → '/' ∉ m

theorem matches_segment_start {b m a : List Char} :
    Matches segment_start b m a ↔ (b = [] ∧ m = []) ∨ m = ['/'] := by
  unfold segment_start
  rw [matches_alt, matches_seq_all_cons, matches_seq_all_cons]
  constructor
  · rintro (⟨m₁, m₂, rfl, hstart, hnil⟩ | ⟨m₁, m₂, rfl, hchar, hnil⟩)
    · obtain ⟨rfl, rfl⟩ := matches_start.mp hstart
      exact Or.inl ⟨rfl, by rw [matches_seq_all_nil.mp hnil]; rfl⟩
    · rw [matches_seq_all_nil.mp hnil, matches_char.mp hchar]
      exact Or.inr rfl
  · rintro (⟨rfl, rfl⟩ | rfl)
    · exact Or.inl ⟨[], [], rfl, .start, .empty⟩
    · exact Or.inr ⟨['/'], [], rfl, .char, .empty⟩

/-- A segment expression finds exactly the paths whose last name its body
    accepts. -/
theorem finds_segment {body : List Regex} {accepts : List Char → Prop} (h : Plain body accepts)
    {dir name : List Char} (hname : '/' ∉ name) :
    (segment body).finds (dir ++ '/' :: name) ↔ accepts name := by
  unfold segment finds
  constructor
  · rintro ⟨b, m, a, htext, hmatch⟩
    obtain ⟨m₁, m₂, rfl, hbody, hstop⟩ := matches_seq_all_append.mp hmatch
    obtain ⟨m₃, _, rfl, hend, hnil⟩ := matches_seq_all_cons.mp hstop
    obtain ⟨hafter, rfl⟩ := matches_stop.mp hend
    rw [matches_seq_all_nil.mp hnil, List.nil_append] at hafter
    subst hafter
    obtain ⟨s, m₄, rfl, hstart, hrest⟩ := matches_seq_all_cons.mp hbody
    have haccepts : accepts m₄ := (h.matches_iff _ _ _).mp hrest
    have hslash := h.no_slash m₄ haccepts
    rw [matches_seq_all_nil.mp hnil] at htext
    simp only [List.append_nil] at htext
    rcases matches_segment_start.mp hstart with ⟨rfl, rfl⟩ | rfl
    · -- the whole text would be one name
      rw [List.nil_append, List.nil_append] at htext
      exact absurd (htext ▸ List.mem_append_right dir List.mem_cons_self) hslash
    · rw [List.singleton_append] at htext
      -- read from the end, both names stop at the first slash
      have hback : name.reverse ++ '/' :: dir.reverse = m₄.reverse ++ '/' :: b.reverse := by
        simpa using congrArg List.reverse htext
      have hsplit := AbsPath.append_slash_inj (by simpa using hname) (by simpa using hslash) hback
      rw [List.reverse_inj.mp hsplit.1]
      exact haccepts
  · intro haccepts
    refine ⟨dir, '/' :: name, [], by simp, ?_⟩
    refine matches_seq_all_append.mpr ⟨'/' :: name, [], by simp, ?_, ?_⟩
    · exact matches_seq_all_cons.mpr ⟨['/'], name, rfl, matches_segment_start.mpr (Or.inr rfl),
        (h.matches_iff _ _ _).mpr haccepts⟩
    · exact matches_seq_all_cons.mpr ⟨[], [], rfl, .stop, .empty⟩

/-- A fixed name. -/
theorem plain_exact {core : List Char} (h : '/' ∉ core) :
    Plain (core.map .char) fun m => m = core where
  matches_iff _ _ _ := matches_chars
  no_slash _ hm := hm ▸ h

/-- Any name with a fixed end. -/
theorem plain_suffix {core : List Char} (h : '/' ∉ core) :
    Plain (segment_rest :: core.map .char) fun m => core <:+ m ∧ '/' ∉ m where
  matches_iff b m a := by
    rw [matches_seq_all_cons]
    constructor
    · rintro ⟨m₁, m₂, rfl, hrest, hcore⟩
      have hfree := matches_star_none_of.mp hrest
      rw [matches_chars.mp hcore]
      refine ⟨List.suffix_append m₁ core, fun hm => ?_⟩
      rcases List.mem_append.mp hm with hm | hm
      · exact hfree '/' hm List.mem_cons_self
      · exact h hm
    · rintro ⟨⟨m₁, rfl⟩, hfree⟩
      refine ⟨m₁, core, rfl, matches_star_none_of.mpr ?_, matches_chars.mpr rfl⟩
      intro c hc hslash
      rw [List.mem_singleton.mp hslash] at hc
      exact hfree (List.mem_append_left core hc)
  no_slash _ hm := hm.2

/-- A fixed name, or that name with a dot and anything after it. -/
theorem plain_dotted {core : List Char} (h : '/' ∉ core) :
    Plain (core.map .char ++ [.alt (seq_all [.char '.', segment_rest]) .empty])
      fun m => m = core ∨ (core ++ ['.'] <+: m ∧ '/' ∉ m) where
  matches_iff b m a := by
    rw [matches_seq_all_append]
    constructor
    · rintro ⟨m₁, m₂, rfl, hcore, htail⟩
      rw [matches_chars.mp hcore]
      obtain ⟨m₃, _, rfl, halt, hnil⟩ := matches_seq_all_cons.mp htail
      rw [matches_seq_all_nil.mp hnil, List.append_nil]
      rcases matches_alt.mp halt with hdot | hempty
      · obtain ⟨d, m₄, rfl, hchar, hmore⟩ := matches_seq_all_cons.mp hdot
        obtain ⟨m₅, _, rfl, hrest, hnil'⟩ := matches_seq_all_cons.mp hmore
        rw [matches_seq_all_nil.mp hnil', List.append_nil, matches_char.mp hchar]
        have hfree := matches_star_none_of.mp hrest
        refine Or.inr ⟨⟨m₅, by simp⟩, fun hm => ?_⟩
        rcases List.mem_append.mp hm with hm | hm
        · exact h hm
        · rcases List.mem_cons.mp hm with hm | hm
          · cases hm
          · exact hfree '/' hm List.mem_cons_self
      · rw [matches_empty.mp hempty, List.append_nil]
        exact Or.inl rfl
    · rintro (rfl | ⟨⟨m₁, rfl⟩, hfree⟩)
      · exact ⟨m, [], by simp, matches_chars.mpr rfl, matches_seq_all_cons.mpr
          ⟨[], [], rfl, .alt_right .empty, .empty⟩⟩
      · refine ⟨core, '.' :: m₁, by simp, matches_chars.mpr rfl, matches_seq_all_cons.mpr
          ⟨'.' :: m₁, [], by simp, .alt_left ?_, .empty⟩⟩
        refine matches_seq_all_cons.mpr ⟨['.'], m₁, rfl, .char, matches_seq_all_cons.mpr
          ⟨m₁, [], by simp, matches_star_none_of.mpr ?_, .empty⟩⟩
        intro c hc hslash
        rw [List.mem_singleton.mp hslash] at hc
        exact hfree (List.mem_append_right _ hc)
  no_slash m hm := by
    rcases hm with rfl | hm
    · exact h
    · exact hm.2

/-! ### The sensitive patterns -/

/-- The pattern shapes `_fnmatch_to_regex` knows. -/
inductive Shape where
  | exact (core : List Char)
  | dotted (core : List Char)
  | suffix (core : List Char)
  deriving DecidableEq

namespace Shape

def core : Shape → List Char
  | .exact core  => core
  | .dotted core => core
  | .suffix core => core

/-- The pattern itself. -/
def pattern : Shape → List Char
  | .exact core  => core
  | .dotted core => (core ++ ['.']) ++ ['*']
  | .suffix core => '*' :: core

/-- Its expression. -/
def regex : Shape → Regex
  | .exact core  => segment (core.map .char)
  | .dotted core => segment (core.map .char ++ [.alt (seq_all [.char '.', segment_rest]) .empty])
  | .suffix core => segment (segment_rest :: core.map .char)

/-- A core of fixed characters within one name. -/
def plain (s : Shape) : Bool := !s.core.contains '*' && !s.core.contains '?' && !s.core.contains '/'

/-- An expression finds what its pattern matches; after a core a dot is
    optional, so the core alone is found too. -/
theorem finds_iff {s : Shape} (h : s.plain = true) {dir name : List Char} (hname : '/' ∉ name) :
    s.regex.finds (dir ++ '/' :: name) ↔
      fnmatch s.pattern name = true ∨ (s = .dotted name) := by
  simp only [plain, Bool.and_eq_true, Bool.not_eq_true', List.contains_eq_mem,
    decide_eq_false_iff_not] at h
  obtain ⟨⟨hstar, hquery⟩, hslash⟩ := h
  cases s with
  | exact core =>
    dsimp only [Shape.core] at hstar hquery hslash
    rw [regex, pattern, finds_segment (plain_exact hslash) hname, fnmatch_fixed ⟨hstar, hquery⟩]
    simp
  | suffix core =>
    dsimp only [Shape.core] at hstar hquery hslash
    rw [regex, pattern, finds_segment (plain_suffix hslash) hname, fnmatch_suffix ⟨hstar, hquery⟩]
    simp [hname]
  | dotted core =>
    dsimp only [Shape.core] at hstar hquery hslash
    have hdot : fixed (core ++ ['.']) := by
      refine ⟨fun hm => ?_, fun hm => ?_⟩
      · rcases List.mem_append.mp hm with hm | hm
        · exact hstar hm
        · exact absurd (List.mem_singleton.mp hm) (by decide)
      · rcases List.mem_append.mp hm with hm | hm
        · exact hquery hm
        · exact absurd (List.mem_singleton.mp hm) (by decide)
    rw [regex, pattern, finds_segment (plain_dotted hslash) hname, fnmatch_prefix hdot]
    constructor
    · rintro (rfl | ⟨hbegins, -⟩)
      · exact Or.inr rfl
      · exact Or.inl hbegins
    · rintro (hbegins | heq)
      · exact Or.inr ⟨hbegins, hname⟩
      · cases heq
        exact Or.inl rfl

end Shape

/-- The shapes of `SENSITIVE_FILENAME_PATTERNS`, in their order. -/
def sensitive_shapes : List Shape :=
  [.exact ".env".toList, .dotted ".env".toList, .suffix ".pem".toList, .suffix ".key".toList,
    .suffix ".p12".toList, .suffix ".pfx".toList]

theorem sensitive_filename_patterns_eq :
    sensitive_filename_patterns = sensitive_shapes.map Shape.pattern := by
  decide +kernel

/-- What `_fnmatch_to_regex` writes is the expression of the shape. -/
theorem read_fnmatch_to_regex :
    ∀ s ∈ sensitive_shapes, Regex.read (fnmatch_to_regex s.pattern) = some s.regex := by
  decide +kernel

/-- The expressions together find the paths whose last name matches one of the
    patterns: a core that `core.*` lets through is a pattern itself. -/
theorem finds_sensitive {dir name : List Char} (hname : '/' ∉ name) :
    (∃ s ∈ sensitive_shapes, s.regex.finds (dir ++ '/' :: name)) ↔
      ∃ pattern ∈ sensitive_filename_patterns, fnmatch pattern name = true := by
  have hplain : ∀ s ∈ sensitive_shapes, s.plain = true := by decide +kernel
  have hcores : ∀ s ∈ sensitive_shapes, s = .dotted s.core → .exact s.core ∈ sensitive_shapes := by
    decide +kernel
  rw [sensitive_filename_patterns_eq]
  constructor
  · rintro ⟨s, hs, hfinds⟩
    rcases (Shape.finds_iff (hplain s hs) hname).mp hfinds with hmatch | rfl
    · exact ⟨s.pattern, List.mem_map_of_mem hs, hmatch⟩
    · have hexact := hcores _ hs rfl
      have hfixed := hplain _ hexact
      simp only [Shape.plain, Bool.and_eq_true, Bool.not_eq_true', List.contains_eq_mem,
        decide_eq_false_iff_not] at hfixed
      exact ⟨name, List.mem_map.mpr ⟨_, hexact, rfl⟩, (fnmatch_fixed hfixed.1).mpr rfl⟩
  · rintro ⟨pattern, hpattern, hmatch⟩
    obtain ⟨s, hs, rfl⟩ := List.mem_map.mp hpattern
    exact ⟨s, hs, (Shape.finds_iff (hplain s hs) hname).mpr (Or.inl hmatch)⟩

/-- The text of a path splits before its last name. -/
theorem chars_split (p : AbsPath) :
    ∃ dir, p.chars = dir ++ '/' :: p.names.getLast?.getD [] ∧ '/' ∉ p.names.getLast?.getD [] := by
  by_cases hp : p.names = []
  · exact ⟨[], by simp [AbsPath.chars, hp], by simp [hp]⟩
  · have hlast := List.getLast?_eq_some_getLast hp
    refine ⟨p.names.dropLast.flatMap fun c => '/' :: c, ?_, ?_⟩
    · rw [hlast, Option.getD_some, AbsPath.chars, if_neg hp]
      conv_lhs => rw [← List.dropLast_concat_getLast hp]
      rw [List.flatMap_append, List.flatMap_singleton]
    · rw [hlast, Option.getD_some]
      exact no_slash_of_is_name (p.valid _ (List.getLast_mem hp))

/-- The expressions find the sensitive paths. -/
theorem finds_sensitive_path (p : AbsPath) :
    (∃ s ∈ sensitive_shapes, s.regex.finds p.chars) ↔ sensitive p := by
  obtain ⟨dir, hchars, hname⟩ := chars_split p
  rw [hchars, finds_sensitive hname]
  unfold sensitive
  cases hlast : p.names.getLast? with
  | none =>
    -- the root has no name, and no pattern matches the empty one
    have hempty : ¬ ∃ pattern ∈ sensitive_filename_patterns, fnmatch pattern [] = true := by
      decide +kernel
    simpa using hempty
  | some name => simp

end Sandbox
