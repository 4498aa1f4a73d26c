import FirstAgent.Sandbox.Patterns
import Mathlib.Data.List.Forall2

/-! # The Meaning of a Compiled Profile

    What `compile_seatbelt_profile` writes is read back as the clauses of the
    policy (`policy_clauses`), and these clauses allow exactly what the policy
    says: the deny clauses stand last, so an access is denied when one of them
    applies, and otherwise decided by the clauses before them. -/

open Fallible
open Layers

namespace Sandbox

open Seatbelt

/-! ### The clauses of a policy -/

def allow_write (root : AbsPath) : Clause := .rule true .file_write (.subpath root.chars)

def deny_write (root : AbsPath) : Clause := .rule false .file_write (.subpath root.chars)

def deny_read (root : AbsPath) : Clause := .rule false .file_read (.subpath root.chars)

def deny_shape (s : Shape) : List Clause :=
  [.rule false .file_read (.regex s.regex), .rule false .file_write (.regex s.regex)]

/-- The clauses before any exception. -/
def base_clauses : List Clause :=
  [.version "1".toList, .default true, .rule false .file_write .any]

def allow_clauses (policy : SandboxPolicyV1) : List Clause :=
  .rule true .file_write (.literal "/dev/null".toList) :: policy.writable_roots.map allow_write

def deny_clauses (policy : SandboxPolicyV1) : List Clause :=
  policy.git_metadata_roots.map deny_write ++ policy.unreadable_roots.map deny_read ++
    policy.unreadable_roots.map deny_write ++ sensitive_shapes.flatMap deny_shape ++
    if policy.network = .off then [.rule false .network .any] else []

/-- The clauses a confined policy stands for. -/
def policy_clauses (policy : SandboxPolicyV1) : List Clause :=
  base_clauses ++ allow_clauses policy ++ deny_clauses policy

/-! ### Reading clauses back -/

/-- A line that is read as one clause. -/
def Reads (line : List Char) (c : Clause) : Prop :=
  ∃ node, pipe lex nest (.between, []) (line ++ ['\n']) = .ok ((.between, []), [node]) ∧
    read_clause node = some c

theorem incremental_lex : Incremental lex := incremental_feed _

theorem incremental_lines : Incremental (pipe lex nest) :=
  incremental_pipe incremental_lex (incremental_feed _)

/-- Every line with its line end. -/
theorem join_lines_eq {lines : List (List Char)} (h : lines ≠ []) :
    join_lines lines = lines.flatMap fun line => line ++ ['\n'] := by
  unfold join_lines
  induction lines with
  | nil => exact absurd rfl h
  | cons line lines ih =>
    cases lines with
    | nil => simp [List.intercalate]
    | cons next lines =>
      rw [List.flatMap_cons, ← ih (by simp)]
      simp [List.intercalate]

/-- Lines that read as clauses make a profile of these clauses. -/
theorem read_lines {lines : List (List Char)} {clauses : List Clause}
    (h : List.Forall₂ Reads lines clauses) :
    read_profile (join_lines lines) = some clauses := by
  by_cases hlines : lines = []
  · subst hlines
    cases h
    rfl
  have hrun : ∃ nodes, pipe lex nest (.between, []) (lines.flatMap fun line => line ++ ['\n']) =
      .ok ((.between, []), nodes) ∧ nodes.mapM read_clause = some clauses := by
    clear hlines
    induction h with
    | nil => exact ⟨[], rfl, rfl⟩
    | cons hline _ ih =>
      obtain ⟨node, hnode, hclause⟩ := hline
      obtain ⟨nodes, hnodes, hclauses⟩ := ih
      refine ⟨node :: nodes, ?_, ?_⟩
      · rw [List.flatMap_cons, incremental_lines, hnode]
        change (pipe lex nest (.between, []) _ >>= _) = _
        rw [hnodes]
        rfl
      · rw [List.mapM_cons, hclause, hclauses]
        rfl
  obtain ⟨nodes, hnodes, hclauses⟩ := hrun
  unfold read_profile
  rw [join_lines_eq hlines, hnodes]
  exact hclauses

/-- A path that `escape_seatbelt_path` lets through. -/
def writable_text (value : List Char) : Prop :=
  '\x00' ∉ value ∧ '\n' ∉ value ∧ '\r' ∉ value ∧ '"' ∉ value ∧ '\\' ∉ value

theorem escape_seatbelt_path_eq_ok {value out : List Char} :
    escape_seatbelt_path value = .ok out ↔ writable_text value ∧ value = out := by
  simp only [escape_seatbelt_path, bind_eq_ok, refuse_eq_ok, pure_eq_ok, not_or]
  constructor
  · rintro ⟨_, ⟨h0, hn, hr⟩, _, ⟨hq, hb⟩, rfl⟩
    exact ⟨⟨h0, hn, hr, hq, hb⟩, rfl⟩
  · rintro ⟨⟨h0, hn, hr, hq, hb⟩, rfl⟩
    exact ⟨(), ⟨h0, hn, hr⟩, (), ⟨hq, hb⟩, rfl⟩

/-- A string is read up to its closing quote, whatever else it holds. -/
theorem lex_string {cs acc : List Char} (h : '"' ∉ cs) :
    lex (.string acc) cs = .ok (.string (acc ++ cs), []) := by
  induction cs generalizing acc with
  | nil =>
    rw [List.append_nil]
    rfl
  | cons c cs ih =>
    have hc : c ≠ '"' := fun heq => h (heq ▸ List.mem_cons_self)
    have hrest : '"' ∉ cs := fun hm => h (List.mem_cons_of_mem c hm)
    have hchar : lex_char (.string acc) c = .ok (.string (acc ++ [c]), []) :=
      congrArg Except.ok (if_neg hc)
    unfold lex at ih ⊢
    rw [feed, hchar]
    change (feed lex_char (.string (acc ++ [c])) cs >>= _) = _
    rw [ih hrest, List.append_assoc]
    rfl

/-- The line of a clause about one path. -/
theorem reads_path (clause : List Char → Clause) {head : String} {path line : List Char}
    {open_tokens : List Token} {close : List Char → Node}
    (hhead : lex .between head.toList = .ok (.string [], open_tokens))
    (hnest : ∀ path, nest [] (open_tokens ++ [.string path, .right, .right]) =
      .ok ([], [close path]))
    (hclause : ∀ path, read_clause (close path) = some (clause path))
    (h : path_clause head path = .ok line) :
    Reads line (clause path) := by
  simp only [path_clause, bind_eq_ok, pure_eq_ok, escape_seatbelt_path_eq_ok] at h
  obtain ⟨value, ⟨hvalue, rfl⟩, rfl⟩ := h
  refine ⟨close path, pipe_eq_ok.mpr ⟨open_tokens ++ [.string path, .right, .right], ?_,
    hnest path⟩, hclause path⟩
  have hend : lex (.string path) ("\"))".toList ++ ['\n']) =
      .ok (.between, [.string path, .right, .right]) := rfl
  rw [List.append_assoc, incremental_lex, incremental_lex, hhead]
  change ((lex (.string []) path >>= _) >>= _) = _
  rw [lex_string hvalue.2.2.2.1]
  change (lex (.string path) ("\"))".toList ++ ['\n']) >>=
    fun p => pure (p.1, (open_tokens ++ []) ++ p.2)) = _
  rw [hend, List.append_nil]
  rfl

/-- The same for the text of an expression. -/
theorem lex_pattern {cs acc : List Char} (h : '"' ∉ cs) :
    lex (.pattern acc) cs = .ok (.pattern (acc ++ cs), []) := by
  induction cs generalizing acc with
  | nil =>
    rw [List.append_nil]
    rfl
  | cons c cs ih =>
    have hc : c ≠ '"' := fun heq => h (heq ▸ List.mem_cons_self)
    have hrest : '"' ∉ cs := fun hm => h (List.mem_cons_of_mem c hm)
    have hchar : lex_char (.pattern acc) c = .ok (.pattern (acc ++ [c]), []) :=
      congrArg Except.ok (if_neg hc)
    unfold lex at ih ⊢
    rw [feed, hchar]
    change (feed lex_char (.pattern (acc ++ [c])) cs >>= _) = _
    rw [ih hrest, List.append_assoc]
    rfl

/-- The line of a clause about an expression. -/
theorem reads_regex {head operation : String} {text : List Char} {r : Regex} {op : Operation}
    (hhead : lex .between head.toList = .ok (.pattern [], [.left, .atom "deny".toList,
      .atom operation.toList, .left, .atom "regex".toList]))
    (hop : read_operation operation.toList = some op) (htext : '"' ∉ text)
    (hr : Regex.read text = some r) :
    Reads (head.toList ++ text ++ "\"))".toList) (.rule false op (.regex r)) := by
  have hend : lex (.pattern text) ("\"))".toList ++ ['\n']) =
      .ok (.between, [.pattern text, .right, .right]) := rfl
  refine ⟨.list [.leaf (.atom "deny".toList), .leaf (.atom operation.toList),
    .list [.leaf (.atom "regex".toList), .leaf (.pattern text)]],
    pipe_eq_ok.mpr ⟨[.left, .atom "deny".toList, .atom operation.toList, .left,
      .atom "regex".toList, .pattern text, .right, .right], ?_, rfl⟩, ?_⟩
  · rw [List.append_assoc, List.append_assoc, incremental_lex, hhead]
    change (lex (.pattern []) (text ++ ("\"))".toList ++ ['\n'])) >>= _) = _
    rw [incremental_lex, lex_pattern htext]
    change ((lex (.pattern text) ("\"))".toList ++ ['\n']) >>= fun p => pure (p.1, [] ++ p.2)) >>=
      _) = _
    rw [hend]
    rfl
  · have hfilter : read_filter (.list [.leaf (.atom "regex".toList), .leaf (.pattern text)]) =
        some (.regex r) := by
      change (if "regex".toList = "regex".toList then (Regex.read text).map Filter.regex
        else none) = _
      rw [if_pos rfl, hr]
      rfl
    change ((read_operation operation.toList).bind fun op =>
      (read_filter (.list [.leaf (.atom "regex".toList), .leaf (.pattern text)])).bind fun filter =>
        some (Clause.rule false op filter)) = _
    rw [hop, hfilter]
    rfl

theorem reads_sensitive :
    List.Forall₂ Reads sensitive_pattern_clauses (sensitive_shapes.flatMap deny_shape) := by
  have hquotes : ∀ s ∈ sensitive_shapes, '"' ∉ fnmatch_to_regex s.pattern := by decide +kernel
  have hlines : ∀ shapes : List Shape, (∀ s ∈ shapes, s ∈ sensitive_shapes) →
      List.Forall₂ Reads
        ((shapes.map Shape.pattern).flatMap fun pattern =>
          ["(deny file-read* (regex #\"".toList ++ fnmatch_to_regex pattern ++ "\"))".toList,
            "(deny file-write* (regex #\"".toList ++ fnmatch_to_regex pattern ++ "\"))".toList])
        (shapes.flatMap deny_shape) := by
    intro shapes hshapes
    induction shapes with
    | nil => exact .nil
    | cons s shapes ih =>
      have hs := hshapes s List.mem_cons_self
      have hread := read_fnmatch_to_regex s hs
      have hquote := hquotes s hs
      have hrest := ih fun t ht => hshapes t (List.mem_cons_of_mem s ht)
      exact .cons (@reads_regex _ "file-read*" _ _ _ rfl rfl hquote hread)
        (.cons (@reads_regex _ "file-write*" _ _ _ rfl rfl hquote hread) hrest)
  unfold sensitive_pattern_clauses
  rw [sensitive_filename_patterns_eq]
  exact hlines sensitive_shapes fun s hs => hs

/-- The lines of a list of roots. -/
theorem reads_roots {f : AbsPath → Except SandboxError (List Char)} {clause : AbsPath → Clause}
    (hline : ∀ root line, f root = .ok line → Reads line (clause root)) {roots : List AbsPath}
    {lines : List (List Char)} (h : roots.mapM f = .ok lines) :
    List.Forall₂ Reads lines (roots.map clause) := by
  induction roots generalizing lines with
  | nil =>
    obtain rfl := pure_eq_ok.mp h
    exact .nil
  | cons root roots ih =>
    rw [List.mapM_cons] at h
    obtain ⟨line, hroot, h⟩ := bind_eq_ok.mp h
    obtain ⟨rest, hrest, h⟩ := bind_eq_ok.mp h
    obtain rfl := pure_eq_ok.mp h
    exact .cons (hline root line hroot) (ih hrest)

theorem reads_append {lines lines' : List (List Char)} {clauses clauses' : List Clause}
    (h : List.Forall₂ Reads lines clauses) (h' : List.Forall₂ Reads lines' clauses') :
    List.Forall₂ Reads (lines ++ lines') (clauses ++ clauses') :=
  List.rel_append h h'

/-- The profile of a confined policy is read back as the clauses of the policy. -/
theorem read_compiled {policy : SandboxPolicyV1} {text : List Char}
    (hmode : policy.mode ≠ .danger_full_access)
    (h : compile_seatbelt_profile policy = .ok text) :
    read_profile text = some (policy_clauses policy) := by
  unfold compile_seatbelt_profile at h
  rw [if_neg hmode] at h
  simp only [bind_eq_ok, pure_eq_ok] at h
  obtain ⟨backend, hbackend, writable, hwritable, git, hgit, unreadable, hunreadable, unwritable,
    hunwritable, rfl⟩ := h
  have hliteral : ∀ path line, path_clause "(allow file-write* (literal \"" path = .ok line →
      Reads line (.rule true .file_write (.literal path)) := fun path line =>
    reads_path (fun path => .rule true .file_write (.literal path)) rfl (fun _ => rfl) fun _ => rfl
  have hallow : ∀ root line, allow_write_subpath (AbsPath.chars root) = .ok line →
      Reads line (allow_write root) := fun root line =>
    reads_path (fun path => .rule true .file_write (.subpath path)) rfl (fun _ => rfl) fun _ => rfl
  have hdenywrite : ∀ root line, deny_write_subpath (AbsPath.chars root) = .ok line →
      Reads line (deny_write root) := fun root line =>
    reads_path (fun path => .rule false .file_write (.subpath path)) rfl (fun _ => rfl) fun _ => rfl
  have hdenyread : ∀ root line, deny_read_subpath (AbsPath.chars root) = .ok line →
      Reads line (deny_read root) := fun root line =>
    reads_path (fun path => .rule false .file_read (.subpath path)) rfl (fun _ => rfl) fun _ => rfl
  have hbase : List.Forall₂ Reads ["(version 1)".toList, "(allow default)".toList,
      "(deny file-write*)".toList] base_clauses :=
    .cons ⟨_, rfl, rfl⟩ (.cons ⟨_, rfl, rfl⟩ (.cons ⟨_, rfl, rfl⟩ .nil))
  have hnetwork : List.Forall₂ Reads
      (if policy.network = .off then ["(deny network*)".toList] else [])
      (if policy.network = .off then [Clause.rule false .network .any] else []) := by
    by_cases hoff : policy.network = .off
    · rw [if_pos hoff, if_pos hoff]
      exact .cons ⟨_, rfl, rfl⟩ .nil
    · rw [if_neg hoff, if_neg hoff]
      exact .nil
  have hbackends : List.Forall₂ Reads backend [.rule true .file_write (.literal "/dev/null".toList)] := by
    simp only [allow_backend_literals, List.mapM_cons, List.mapM_nil, bind_eq_ok,
      pure_eq_ok] at hbackend
    obtain ⟨line, hline, _, rfl, rfl⟩ := hbackend
    exact .cons (hliteral _ line hline) .nil
  have hlines := reads_append (reads_append (reads_append (reads_append (reads_append (reads_append
    (reads_append hbase hbackends) (reads_roots hallow hwritable)) (reads_roots hdenywrite hgit))
    (reads_roots hdenyread hunreadable)) (reads_roots hdenywrite hunwritable)) reads_sensitive)
    hnetwork
  have hshape : policy_clauses policy = base_clauses ++
      ([.rule true .file_write (.literal "/dev/null".toList)] ++
        policy.writable_roots.map allow_write) ++ deny_clauses policy := rfl
  rw [hshape]
  unfold deny_clauses
  simp only [← List.append_assoc]
  exact read_lines hlines

/-! ### Decisions -/

/-- The clauses behind decide when one of them applies. -/
theorem allows_append {cs ds : List Clause} {access : Access} :
    allows (cs ++ ds) access ↔
      allows ds access ∨ (allows cs access ∧ ∀ d ∈ ds, ¬ d.applies access) := by
  induction cs with
  | nil => simp [allows]
  | cons c cs ih =>
    rw [List.cons_append, allows, allows, ih]
    simp only [List.mem_append, or_imp, forall_and]
    tauto

/-- Clauses that allow, when one of them applies. -/
theorem allows_of_allow {cs : List Clause} (h : ∀ c ∈ cs, c.effect = true) {access : Access} :
    allows cs access ↔ ∃ c ∈ cs, c.applies access := by
  induction cs with
  | nil => simp [allows]
  | cons c cs ih =>
    rw [allows, ih fun d hd => h d (List.mem_cons_of_mem c hd)]
    simp only [h c List.mem_cons_self, true_and, List.mem_cons, exists_eq_or_imp]
    constructor
    · rintro (hrest | ⟨hc, -⟩)
      · exact Or.inr hrest
      · exact Or.inl hc
    · rintro (hc | hrest)
      · by_cases hrest : ∃ d ∈ cs, d.applies access
        · exact Or.inl hrest
        · exact Or.inr ⟨hc, fun d hd happ => hrest ⟨d, hd, happ⟩⟩
      · exact Or.inl hrest

/-- Clauses that deny allow nothing. -/
theorem not_allows_of_deny {cs : List Clause} (h : ∀ c ∈ cs, c.effect = false)
    {access : Access} : ¬ allows cs access := by
  induction cs with
  | nil => exact fun hallows => hallows
  | cons c cs ih =>
    rintro (hrest | ⟨hc, -⟩)
    · exact ih (fun d hd => h d (List.mem_cons_of_mem c hd)) hrest
    · rw [h c List.mem_cons_self] at hc
      cases hc

/-- The exceptions to the base: an allow clause, and no deny clause. -/
theorem allows_policy_clauses (policy : SandboxPolicyV1) (access : Access) :
    allows (policy_clauses policy) access ↔
      ((∃ c ∈ allow_clauses policy, c.applies access) ∨ access.operation ≠ .file_write) ∧
        ∀ d ∈ deny_clauses policy, ¬ d.applies access := by
  have hallow : ∀ c ∈ allow_clauses policy, c.effect = true := by
    intro c hc
    rcases List.mem_cons.mp hc with rfl | hc
    · rfl
    · obtain ⟨root, -, rfl⟩ := List.mem_map.mp hc
      rfl
  have hdeny : ∀ c ∈ deny_clauses policy, c.effect = false := by
    intro c hc
    simp only [deny_clauses, List.mem_append, List.mem_map, List.mem_flatMap] at hc
    rcases hc with (((⟨root, -, rfl⟩ | ⟨root, -, rfl⟩) | ⟨root, -, rfl⟩) | ⟨s, -, hc⟩) | hc
    · rfl
    · rfl
    · rfl
    · simp only [deny_shape, List.mem_cons, List.not_mem_nil, or_false] at hc
      rcases hc with rfl | rfl <;> rfl
    · split at hc
      · rw [List.mem_singleton.mp hc]
        rfl
      · cases hc
  have hbase : allows base_clauses access ↔ access.operation ≠ .file_write := by
    obtain ⟨operation, path⟩ := access
    cases operation <;>
      simp [base_clauses, allows, Clause.applies, Clause.effect, Filter.accepts]
  have hwriteonly : (∃ c ∈ allow_clauses policy, c.applies access) →
      access.operation = .file_write := by
    rintro ⟨c, hc, happ⟩
    rcases List.mem_cons.mp hc with rfl | hc
    · exact happ.1.symm
    · obtain ⟨root, -, rfl⟩ := List.mem_map.mp hc
      exact happ.1.symm
  unfold policy_clauses
  rw [allows_append, allows_append, allows_of_allow hallow, hbase]
  constructor
  · rintro (hd | ⟨hc | ⟨hop, -⟩, hd⟩)
    · exact absurd hd (not_allows_of_deny hdeny)
    · exact ⟨Or.inl hc, hd⟩
    · exact ⟨Or.inr hop, hd⟩
  · rintro ⟨hc | hop, hd⟩
    · exact Or.inr ⟨Or.inl hc, hd⟩
    · exact Or.inr ⟨Or.inr ⟨hop, fun c hc happ => hop (hwriteonly ⟨c, hc, happ⟩)⟩, hd⟩

/-- The deny clauses that apply to an access. -/
theorem deny_clauses_apply (policy : SandboxPolicyV1) (operation : Operation) (p : AbsPath) :
    (∃ d ∈ deny_clauses policy, d.applies { operation, path := p.chars }) ↔
      (operation = .file_write ∧ ∃ root ∈ policy.git_metadata_roots, root.inside p) ∨
        (operation ≠ .network ∧
          ((∃ root ∈ policy.unreadable_roots, root.inside p) ∨ sensitive p)) ∨
        (operation = .network ∧ policy.network = .off) := by
  have hroots : ∀ (roots : List AbsPath) (op : Operation),
      (∃ d ∈ roots.map fun root => Clause.rule false op (.subpath root.chars),
        d.applies { operation, path := p.chars }) ↔
      op = operation ∧ ∃ root ∈ roots, root.inside p := by
    intro roots op
    simp only [List.mem_map, exists_exists_and_eq_and, Clause.applies, Filter.accepts,
      AbsPath.inside_iff]
    constructor
    · rintro ⟨root, hroot, hop, hinside⟩
      exact ⟨hop, root, hroot, hinside⟩
    · rintro ⟨hop, root, hroot, hinside⟩
      exact ⟨root, hroot, hop, hinside⟩
  have hshapes : (∃ d ∈ sensitive_shapes.flatMap deny_shape,
      d.applies { operation, path := p.chars }) ↔ operation ≠ .network ∧ sensitive p := by
    rw [← finds_sensitive_path]
    simp only [List.mem_flatMap, deny_shape, List.mem_cons, List.not_mem_nil, or_false]
    constructor
    · rintro ⟨d, ⟨s, hs, rfl | rfl⟩, hop, hfinds⟩
      · exact ⟨fun heq => (by cases hop.trans heq), s, hs, hfinds⟩
      · exact ⟨fun heq => (by cases hop.trans heq), s, hs, hfinds⟩
    · rintro ⟨hop, s, hs, hfinds⟩
      cases operation with
      | file_read  => exact ⟨_, ⟨s, hs, Or.inl rfl⟩, rfl, hfinds⟩
      | file_write => exact ⟨_, ⟨s, hs, Or.inr rfl⟩, rfl, hfinds⟩
      | network    => exact absurd rfl hop
  have hnetwork : (∃ d ∈ (if policy.network = .off then [Clause.rule false .network .any] else []),
      d.applies { operation, path := p.chars }) ↔ operation = .network ∧ policy.network = .off := by
    by_cases hoff : policy.network = .off
    · simp [hoff, Clause.applies, Filter.accepts, eq_comm]
    · simp [hoff]
  have happend : ∀ cs ds : List Clause,
      (∃ d ∈ cs ++ ds, d.applies { operation, path := p.chars }) ↔
        (∃ d ∈ cs, d.applies { operation, path := p.chars }) ∨
          ∃ d ∈ ds, d.applies { operation, path := p.chars } := by
    intro cs ds
    simp only [List.mem_append, or_and_right, exists_or]
  unfold deny_clauses
  rw [happend, happend, happend, happend, hshapes, hnetwork]
  unfold deny_write deny_read
  rw [hroots, hroots, hroots]
  cases operation <;> simp [or_assoc]

/-- The allow clauses that apply to a write. -/
theorem allow_clauses_apply (policy : SandboxPolicyV1) (p : AbsPath) :
    (∃ c ∈ allow_clauses policy, c.applies { operation := .file_write, path := p.chars }) ↔
      p.chars = "/dev/null".toList ∨ ∃ root ∈ policy.writable_roots, root.inside p := by
  unfold allow_clauses allow_write
  simp only [List.mem_cons, List.mem_map, exists_eq_or_imp, exists_exists_and_eq_and,
    Clause.applies, Filter.accepts, true_and, AbsPath.inside_iff]

/-! ### The compiled profile -/

/-- A policy that is built keeps the mode and the network it was asked for. -/
theorem build_sandbox_policy_eq_ok {fs : Filesystem} {mode : SandboxMode}
    {network : SandboxNetworkMode} {workspace temp_root state_root home : List Char}
    {private_roots : List (List Char)} {policy : SandboxPolicyV1}
    (h : build_sandbox_policy fs mode network workspace temp_root state_root home private_roots =
      .ok policy) :
    policy.mode = mode ∧ policy.network = network := by
  simp only [build_sandbox_policy, bind_eq_ok, pure_eq_ok] at h
  obtain ⟨_, -, _, -, _, -, _, -, _, -, _, -, _, -, rfl⟩ := h
  exact ⟨rfl, rfl⟩

/-- What a profile allows. -/
def permits (clauses : List Clause) (operation : Operation) (p : AbsPath) : Prop :=
  allows clauses { operation, path := p.chars }

/-- A list of clauses is written when each of them is. -/
theorem mapM_path_clause {head : String} {roots : List AbsPath} :
    (∃ lines, roots.mapM (fun root => path_clause head root.chars) = .ok lines) ↔
      ∀ root ∈ roots, writable_text root.chars := by
  have hone : ∀ path, (∃ line, path_clause head path = .ok line) ↔ writable_text path := by
    intro path
    simp only [path_clause, bind_eq_ok, pure_eq_ok, escape_seatbelt_path_eq_ok]
    constructor
    · rintro ⟨_, _, ⟨hpath, -⟩, -⟩
      exact hpath
    · intro hpath
      exact ⟨_, path, ⟨hpath, rfl⟩, rfl⟩
  induction roots with
  | nil => exact ⟨fun _ root hroot => (by cases hroot), fun _ => ⟨[], rfl⟩⟩
  | cons root roots ih =>
    simp only [List.mapM_cons, bind_eq_ok, pure_eq_ok, List.mem_cons, forall_eq_or_imp]
    constructor
    · rintro ⟨_, line, hline, lines, hlines, -⟩
      exact ⟨(hone root.chars).mp ⟨line, hline⟩, ih.mp ⟨lines, hlines⟩⟩
    · rintro ⟨hroot, hroots⟩
      obtain ⟨line, hline⟩ := (hone root.chars).mpr hroot
      obtain ⟨lines, hlines⟩ := ih.mpr hroots
      exact ⟨_, line, hline, lines, hlines, rfl⟩

/-- A confined policy has a profile unless one of its roots cannot be written
    between quotes. -/
theorem compile_succeeds {policy : SandboxPolicyV1} (hmode : policy.mode ≠ .danger_full_access) :
    (∃ text, compile_seatbelt_profile policy = .ok text) ↔
      ∀ root ∈ policy.writable_roots ++ policy.git_metadata_roots ++ policy.unreadable_roots,
        writable_text root.chars := by
  have hbackend : ∃ lines, allow_backend_literals = .ok lines := by
    have hruns : Fallible.succeeds allow_backend_literals (fun _ => true) = true := by
      decide +kernel
    obtain ⟨lines, hlines, -⟩ := Fallible.succeeds_iff.mp hruns
    exact ⟨lines, hlines⟩
  unfold compile_seatbelt_profile
  rw [if_neg hmode]
  simp only [bind_eq_ok, pure_eq_ok, List.mem_append, or_imp, forall_and]
  constructor
  · rintro ⟨_, _, -, writable, hwritable, git, hgit, unreadable, hunreadable, -⟩
    exact ⟨⟨mapM_path_clause.mp ⟨writable, hwritable⟩, mapM_path_clause.mp ⟨git, hgit⟩⟩,
      mapM_path_clause.mp ⟨unreadable, hunreadable⟩⟩
  · rintro ⟨⟨hwritable, hgit⟩, hunreadable⟩
    obtain ⟨backend, hbackend⟩ := hbackend
    obtain ⟨writable, hwritable⟩ := mapM_path_clause.mpr hwritable
    obtain ⟨git, hgit⟩ := mapM_path_clause.mpr hgit
    obtain ⟨unread, hunread⟩ := mapM_path_clause.mpr hunreadable
    obtain ⟨unwritten, hunwritten⟩ := mapM_path_clause.mpr hunreadable
    exact ⟨_, backend, hbackend, writable, hwritable, git, hgit, unread, hunread, unwritten,
      hunwritten, rfl⟩

/-- A compiled profile means its policy.  It is written unless a root holds a
    quote, a backslash or a control character; its text is read back as the
    clauses of the policy, and these allow writing what is `/dev/null` or
    inside a writable root and neither inside a git metadata or unreadable root
    nor sensitive; they deny reading what is inside an unreadable root or
    sensitive; and they deny the network when it is off. -/
theorem compiled_profile_means_policy (fs : Filesystem) (mode : SandboxMode)
    (network : SandboxNetworkMode) (workspace temp_root state_root home : List Char)
    (private_roots : List (List Char)) (policy : SandboxPolicyV1)
    (hbuild : build_sandbox_policy fs mode network workspace temp_root state_root home
      private_roots = .ok policy)
    (hmode : mode ≠ .danger_full_access) :
    ((∃ text, compile_seatbelt_profile policy = .ok text) ↔
      ∀ root ∈ policy.writable_roots ++ policy.git_metadata_roots ++ policy.unreadable_roots,
        writable_text root.chars) ∧
      (∀ text, compile_seatbelt_profile policy = .ok text →
        read_profile text = some (policy_clauses policy)) ∧
      ∀ p : AbsPath,
        (permits (policy_clauses policy) .file_write p ↔
          (p.chars = "/dev/null".toList ∨ ∃ root ∈ policy.writable_roots, root.inside p) ∧
            ¬ (∃ root ∈ policy.git_metadata_roots ++ policy.unreadable_roots, root.inside p) ∧
            ¬ sensitive p) ∧
        (¬ permits (policy_clauses policy) .file_read p ↔
          (∃ root ∈ policy.unreadable_roots, root.inside p) ∨ sensitive p) ∧
        (¬ permits (policy_clauses policy) .network p ↔ network = .off) := by
  obtain ⟨hsame, hnet⟩ := build_sandbox_policy_eq_ok hbuild
  refine ⟨compile_succeeds (hsame ▸ hmode), fun text => read_compiled (hsame ▸ hmode),
    fun p => ?_⟩
  have hdeny := fun operation => deny_clauses_apply policy operation p
  have hdenied : ∀ operation, (∀ d ∈ deny_clauses policy,
      ¬ d.applies { operation, path := p.chars }) ↔
        ¬ ∃ d ∈ deny_clauses policy, d.applies { operation, path := p.chars } := by
    intro operation
    simp only [not_exists, not_and]
  unfold permits
  refine ⟨?_, ?_, ?_⟩
  · rw [allows_policy_clauses, hdenied, hdeny, allow_clauses_apply]
    simp only [List.mem_append, or_and_right, exists_or]
    simp
    tauto
  · rw [allows_policy_clauses, hdenied, hdeny]
    generalize (∃ root ∈ policy.unreadable_roots, root.inside p) = unreadable
    simp
    tauto
  · rw [allows_policy_clauses, hdenied, hdeny]
    simp [hnet]

/-- A filesystem of real directories, all in normal form. -/
def plain_directories : Filesystem where
  resolve_strict p := if h : ∀ c ∈ p.parts, is_name c = true then some ⟨p.parts, h⟩ else none
  resolve p := if h : ∀ c ∈ p.parts, is_name c = true then some ⟨p.parts, h⟩ else none
  lstat _ := .other
  there _ := some false
  is_dir _ := some true
  is_file _ := some false
  read_bytes _ := none

/-- The key file of a workspace: its profile denies to read it, although it
    lies in a writable root. -/
theorem compiled_profile_denies_key :
    ∃ policy text clauses, ∃ p : AbsPath,
      build_sandbox_policy plain_directories .workspace_write .off "/w".toList "/t".toList
          "/s".toList "/h".toList [] = .ok policy ∧
        compile_seatbelt_profile policy = .ok text ∧ read_profile text = some clauses ∧
        (∃ root ∈ policy.writable_roots, root.inside p) ∧
        ¬ permits clauses .file_read p ∧ ¬ permits clauses .network p := by
  have hruns : Fallible.succeeds (build_sandbox_policy plain_directories .workspace_write .off
      "/w".toList "/t".toList "/s".toList "/h".toList []) (fun policy =>
        Fallible.succeeds (compile_seatbelt_profile policy) (fun _ => true) &&
          policy.writable_roots.any fun root => root.names = ["w".toList]) = true := by
    decide +kernel
  obtain ⟨policy, hbuild, hpolicy⟩ := Fallible.succeeds_iff.mp hruns
  obtain ⟨hcompile, hroots⟩ := Bool.and_eq_true_iff.mp hpolicy
  obtain ⟨text, htext, -⟩ := Fallible.succeeds_iff.mp hcompile
  obtain ⟨root, hroot, hnames⟩ := List.any_eq_true.mp hroots
  obtain ⟨-, hread, hmeans⟩ := compiled_profile_means_policy plain_directories .workspace_write
    .off "/w".toList "/t".toList "/s".toList "/h".toList [] policy hbuild (by decide)
  let key : AbsPath := ⟨["w".toList, "a.pem".toList], by decide⟩
  have hsensitive : sensitive key := ⟨"a.pem".toList, rfl, "*.pem".toList, by decide, by decide⟩
  refine ⟨policy, text, _, key, hbuild, htext, hread text htext, ⟨root, hroot, ?_⟩, ?_, ?_⟩
  · unfold AbsPath.inside
    rw [of_decide_eq_true hnames]
    exact ⟨["a.pem".toList], rfl⟩
  · exact (hmeans key).2.1.mpr (Or.inr hsensitive)
  · exact (hmeans key).2.2.mpr rfl

end Sandbox
