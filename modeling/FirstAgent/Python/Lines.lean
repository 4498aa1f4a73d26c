import FirstAgent.Python.Text

/-! # Lines and Representations of a Text

    `text.splitlines()`, with and without the line ends, and `repr(text)`. -/

namespace PyText

/-! ### Lines -/

/-- The line boundaries of `str.splitlines`. -/
def is_line_end (c : Char) : Bool :=
  c ∈ ['\n', '\r', Char.ofNat 0x0B, Char.ofNat 0x0C, Char.ofNat 0x1C, Char.ofNat 0x1D,
    Char.ofNat 0x1E, Char.ofNat 0x85, Char.ofNat 0x2028, Char.ofNat 0x2029]

/-- The lines of a text, each with the end it has in the text. -/
def lines : List Char → List (List Char × List Char)
  | []                => []
  | '\r' :: '\n' :: cs => ([], ['\r', '\n']) :: lines cs
  | c :: cs           =>
    if is_line_end c then ([], [c]) :: lines cs
    else
      match lines cs with
      | []                     => [([c], [])]
      | (line, ending) :: rest => (c :: line, ending) :: rest

/-- `text.splitlines()`. -/
def splitlines (cs : List Char) : List (List Char) := (lines cs).map Prod.fst

/-- `text.splitlines(keepends=True)`. -/
def splitlines_keepends (cs : List Char) : List (List Char) :=
  (lines cs).map fun l => l.1 ++ l.2

/-- The end of a line: none, a carriage return with a line feed, or one
    boundary. -/
def LineEnd (ending : List Char) : Prop :=
  ending = [] ∨ ending = ['\r', '\n'] ∨ ∃ c, is_line_end c = true ∧ ending = [c]

/-- A line has no boundary inside, and ends in one or with the text. -/
theorem lines_plain {cs : List Char} {l : List Char × List Char} (h : l ∈ lines cs) :
    (∀ c ∈ l.1, is_line_end c = false) ∧ LineEnd l.2 := by
  fun_induction lines cs generalizing l with
  | case1 => cases h
  | case2 cs ih =>
    obtain rfl | h := List.mem_cons.mp h
    · exact ⟨fun c hc => absurd hc List.not_mem_nil, Or.inr (Or.inl rfl)⟩
    · exact ih h
  | case3 c cs hne hend ih =>
    obtain rfl | h := List.mem_cons.mp h
    · exact ⟨fun c hc => absurd hc List.not_mem_nil, Or.inr (Or.inr ⟨c, hend, rfl⟩)⟩
    · exact ih h
  | case4 c cs hne hend hlast ih =>
    obtain rfl := List.mem_singleton.mp h
    refine ⟨fun d hd => ?_, Or.inl rfl⟩
    obtain rfl := List.mem_singleton.mp hd
    simpa using hend
  | case5 c cs hne hend line ending rest hlines ih =>
    rw [hlines] at ih
    obtain rfl | h := List.mem_cons.mp h
    · obtain ⟨hplain, hending⟩ := ih (List.mem_cons_self ..)
      refine ⟨fun d hd => ?_, hending⟩
      obtain rfl | hd := List.mem_cons.mp hd
      · simpa using hend
      · exact hplain d hd
    · exact ih (List.mem_cons_of_mem _ h)

/-- The lines with their ends are the text. -/
theorem lines_flatten (cs : List Char) : (splitlines_keepends cs).flatten = cs := by
  unfold splitlines_keepends
  fun_induction lines cs with
  | case1 => rfl
  | case2 cs ih => simp [ih]
  | case3 c cs hne hend ih => simp [ih]
  | case4 c cs hne hend hlast ih =>
    rw [hlast] at ih
    simp [← ih]
  | case5 c cs hne hend line ending rest hlines ih =>
    rw [hlines] at ih
    simp [← ih]

/-! ### Representations -/

/-- A number in lower hexadecimal digits, padded to a width. -/
def hex_digits (width n : Nat) : List Char :=
  let digits := Nat.toDigits 16 n
  List.replicate (width - digits.length) '0' ++ digits

/-- One code point inside `repr(text)`. -/
def repr_char (isprintable : Char → Bool) (quote c : Char) : List Char :=
  if c = quote ∨ c = '\\' then ['\\', c]
  else if c = '\t' then ['\\', 't']
  else if c = '\n' then ['\\', 'n']
  else if c = '\r' then ['\\', 'r']
  else if isprintable c then [c]
  else if c.toNat ≤ 0xFF then ['\\', 'x'] ++ hex_digits 2 c.toNat
  else if c.toNat ≤ 0xFFFF then ['\\', 'u'] ++ hex_digits 4 c.toNat
  else ['\\', 'U'] ++ hex_digits 8 c.toNat

/-- `repr(text)`. -/
def repr (isprintable : Char → Bool) (s : String) : String :=
  let cs := s.toList
  -- double quotes (34) only around a text with single ones (39) and none of its own
  let quote := if Char.ofNat 39 ∈ cs ∧ Char.ofNat 34 ∉ cs then Char.ofNat 34 else Char.ofNat 39
  String.ofList ([quote] ++ cs.flatMap (repr_char isprintable quote) ++ [quote])

end PyText
