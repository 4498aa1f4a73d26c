/-! # Regular Expressions with Anchors

    Syntax, matching and reading of extended regular expressions.  Matching is
    relative to the text around the match, which is what the anchors `^` and
    `$` look at: `Matches r before mid after`.  `finds` looks for a match
    anywhere in a text. -/

inductive Regex where
  | empty
  | start
  | stop
  | char (c : Char)
  | none_of (cs : List Char)
  | seq (r s : Regex)
  | alt (r s : Regex)
  | star (r : Regex)
  deriving DecidableEq, Repr

namespace Regex

/-- `r` matches `mid`, found between `before` and `after`. -/
inductive Matches : Regex → List Char → List Char → List Char → Prop where
  | empty {b a} : Matches .empty b [] a
  | start {a} : Matches .start [] [] a
  | stop {b} : Matches .stop b [] []
  | char {c b a} : Matches (.char c) b [c] a
  | none_of {cs c b a} : c ∉ cs → Matches (.none_of cs) b [c] a
  | seq {r s b m m' a} :
      Matches r b m (m' ++ a) → Matches s (b ++ m) m' a → Matches (.seq r s) b (m ++ m') a
  | alt_left {r s b m a} : Matches r b m a → Matches (.alt r s) b m a
  | alt_right {r s b m a} : Matches s b m a → Matches (.alt r s) b m a
  | star_nil {r b a} : Matches (.star r) b [] a
  | star_cons {r b m m' a} :
      Matches r b m (m' ++ a) → Matches (.star r) (b ++ m) m' a →
        Matches (.star r) b (m ++ m') a

/-- A match anywhere in the text. -/
def finds (r : Regex) (text : List Char) : Prop :=
  ∃ b m a, text = b ++ m ++ a ∧ Matches r b m a

/-- A sequence of expressions. -/
def seq_all (rs : List Regex) : Regex := rs.foldr .seq .empty

/-! ### Inversion -/

variable {r s : Regex} {b m a : List Char}

theorem matches_empty : Matches .empty b m a ↔ m = [] := by
  constructor
  · rintro ⟨⟩
    rfl
  · rintro rfl
    exact .empty

theorem matches_start : Matches .start b m a ↔ b = [] ∧ m = [] := by
  constructor
  · rintro ⟨⟩
    exact ⟨rfl, rfl⟩
  · rintro ⟨rfl, rfl⟩
    exact .start

theorem matches_stop : Matches .stop b m a ↔ a = [] ∧ m = [] := by
  constructor
  · rintro ⟨⟩
    exact ⟨rfl, rfl⟩
  · rintro ⟨rfl, rfl⟩
    exact .stop

theorem matches_char {c : Char} : Matches (.char c) b m a ↔ m = [c] := by
  constructor
  · rintro ⟨⟩
    rfl
  · rintro rfl
    exact .char

theorem matches_seq :
    Matches (.seq r s) b m a ↔
      ∃ m₁ m₂, m = m₁ ++ m₂ ∧ Matches r b m₁ (m₂ ++ a) ∧ Matches s (b ++ m₁) m₂ a := by
  constructor
  · rintro ⟨⟩
    next m₁ m₂ hr hs => exact ⟨m₁, m₂, rfl, hr, hs⟩
  · rintro ⟨m₁, m₂, rfl, hr, hs⟩
    exact .seq hr hs

theorem matches_alt : Matches (.alt r s) b m a ↔ Matches r b m a ∨ Matches s b m a := by
  constructor
  · rintro ⟨⟩
    next hr => exact Or.inl hr
    next hs => exact Or.inr hs
  · rintro (hr | hs)
    · exact .alt_left hr
    · exact .alt_right hs

/-- Any number of characters outside a set. -/
theorem matches_star_none_of {cs : List Char} :
    Matches (.star (.none_of cs)) b m a ↔ ∀ c ∈ m, c ∉ cs := by
  constructor
  · intro h
    generalize hr : Regex.star (.none_of cs) = r at h
    induction h with
    | star_nil => exact fun c hc => by cases hc
    | star_cons hfirst _ _ ih =>
      cases hr
      cases hfirst with
      | none_of hc =>
        intro c hmem
        rcases List.mem_cons.mp hmem with rfl | hmem
        · exact hc
        · exact ih rfl c hmem
    | _ => cases hr
  · intro h
    induction m generalizing b with
    | nil => exact .star_nil
    | cons c m ih =>
      have hfirst : Matches (.none_of cs) b [c] (m ++ a) := .none_of (h c List.mem_cons_self)
      exact .star_cons hfirst (ih fun d hd => h d (List.mem_cons_of_mem c hd))

theorem matches_seq_all_nil : Matches (seq_all []) b m a ↔ m = [] := matches_empty

theorem matches_seq_all_cons {rs : List Regex} :
    Matches (seq_all (r :: rs)) b m a ↔
      ∃ m₁ m₂, m = m₁ ++ m₂ ∧ Matches r b m₁ (m₂ ++ a) ∧ Matches (seq_all rs) (b ++ m₁) m₂ a :=
  matches_seq

theorem matches_seq_all_append {rs ss : List Regex} :
    Matches (seq_all (rs ++ ss)) b m a ↔
      ∃ m₁ m₂, m = m₁ ++ m₂ ∧ Matches (seq_all rs) b m₁ (m₂ ++ a) ∧
        Matches (seq_all ss) (b ++ m₁) m₂ a := by
  induction rs generalizing b m with
  | nil =>
    simp only [List.nil_append, matches_seq_all_nil]
    constructor
    · intro h
      exact ⟨[], m, rfl, rfl, by rwa [List.append_nil]⟩
    · rintro ⟨_, m₂, rfl, rfl, h⟩
      rwa [List.append_nil] at h
  | cons r rs ih =>
    rw [List.cons_append]
    constructor
    · intro h
      obtain ⟨m₁, _, rfl, hr, hrest⟩ := matches_seq_all_cons.mp h
      obtain ⟨m₂, m₃, rfl, hrs, hss⟩ := ih.mp hrest
      refine ⟨m₁ ++ m₂, m₃, by rw [List.append_assoc], ?_, by rwa [← List.append_assoc]⟩
      exact matches_seq_all_cons.mpr ⟨m₁, m₂, rfl, by rwa [← List.append_assoc], hrs⟩
    · rintro ⟨_, m₃, rfl, h, hss⟩
      obtain ⟨m₁, m₂, rfl, hr, hrs⟩ := matches_seq_all_cons.mp h
      refine matches_seq_all_cons.mpr ⟨m₁, m₂ ++ m₃, by rw [List.append_assoc],
        by rwa [List.append_assoc], ih.mpr ⟨m₂, m₃, rfl, hrs, by rwa [List.append_assoc]⟩⟩

/-- A fixed text. -/
theorem matches_chars {cs : List Char} : Matches (seq_all (cs.map .char)) b m a ↔ m = cs := by
  induction cs generalizing b m with
  | nil => exact matches_seq_all_nil
  | cons c cs ih =>
    rw [List.map_cons, matches_seq_all_cons]
    constructor
    · rintro ⟨_, _, rfl, hc, hcs⟩
      rw [matches_char.mp hc, ih.mp hcs]
      rfl
    · rintro rfl
      exact ⟨[c], cs, rfl, .char, ih.mpr rfl⟩

/-! ### Reading -/

/-- `*` and `?` after an expression. -/
def read_postfix (r : Regex) : List Char → Option (Regex × List Char)
  | '*' :: cs => some (.star r, cs)
  | '?' :: cs => some (.alt r .empty, cs)
  | '+' :: _  => none
  | '\x7b' :: _ => none
  | cs        => some (r, cs)

mutual

/-- `branch|branch|…`. -/
def read_alt : (fuel : Nat) → List Char → Option (Regex × List Char)
  | 0, _         => none
  | fuel + 1, cs => do
    let (rs, rest) ← read_branch fuel cs
    match rest with
    | '|' :: rest => do
      let (s, rest) ← read_alt fuel rest
      some (.alt (seq_all rs) s, rest)
    | rest => some (seq_all rs, rest)

/-- The expressions of a branch, up to `|`, `)` or the end. -/
def read_branch : (fuel : Nat) → List Char → Option (List Regex × List Char)
  | 0, _         => none
  | fuel + 1, cs =>
    match cs with
    | []        => some ([], [])
    | '|' :: cs => some ([], '|' :: cs)
    | ')' :: cs => some ([], ')' :: cs)
    | c :: cs   => do
      let (r, rest) ← read_atom fuel c cs
      let (r, rest) ← read_postfix r rest
      let (rs, rest) ← read_branch fuel rest
      some (r :: rs, rest)

/-- One expression that begins with `c`. -/
def read_atom : (fuel : Nat) → Char → List Char → Option (Regex × List Char)
  | 0, _, _         => none
  | fuel + 1, c, cs =>
    if c = '(' then do
      let (r, rest) ← read_alt fuel cs
      match rest with
      | ')' :: rest => some (r, rest)
      | _           => none
    else if c = '^' then some (.start, cs)
    else if c = '$' then some (.stop, cs)
    else if c = '\\' then cs.head?.map fun c => (.char c, cs.tail)
    else if c = '[' then
      match cs with
      | '^' :: cs =>
        let set := cs.takeWhile fun c => c ≠ ']'
        if set.length < cs.length then some (.none_of set, cs.drop (set.length + 1)) else none
      | _ => none
    else if c = '*' ∨ c = '?' ∨ c = '+' ∨ c = '.' then none
    else some (.char c, cs)

end

/-- The expression a text denotes; `none` outside the dialect read here. -/
def read (cs : List Char) : Option Regex :=
  match read_alt (3 * cs.length + 3) cs with
  | some (r, []) => some r
  | _            => none

example : read "(^|/)[^/]*\\.pem$".toList =
    some (seq_all [.alt (seq_all [.start]) (seq_all [.char '/']), .star (.none_of ['/']),
      .char '.', .char 'p', .char 'e', .char 'm', .stop]) := by
  decide +kernel

end Regex
