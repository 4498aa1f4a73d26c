import FirstAgent.Framework.Fallible

/-! # Python Exceptions and Text

    The exceptions the runtime raises and the `str` operations its contracts
    rest on: blank tests (`not s.strip()`), `split`, `casefold`, lower-case
    hex and the closed path shapes.  Python text is a sequence of code points
    without lone surrogates, which is what `String` is. -/

/-- The exceptions raised by the runtime, with their message. -/
inductive PyError where
  | value_error (message : String)
  /-- `GoalRevisionConflictError`, a subclass of `ValueError`. -/
  | goal_revision_conflict (message : String)
  /-- `CompactionIneligibleHistoryError`, a subclass of `ValueError`. -/
  | compaction_ineligible_history (message : String)
  | type_error (message : String)
  | overflow_error (message : String)
  deriving Repr, DecidableEq

/-- A computation that may raise. -/
abbrev Py (α : Type) : Type := Except PyError α

namespace Py

/-- `raise ValueError(message)` when `bad` holds. -/
def refuse_value (bad : Prop) [Decidable bad] (message : String) : Py Unit :=
  Fallible.refuse bad (.value_error message)

/-- Unwrap an optional value or `raise ValueError(message)`. -/
def expect_value {α : Type} (o : Option α) (message : String) : Py α :=
  Fallible.expect o (.value_error message)

theorem refuse_value_eq_ok {bad : Prop} [Decidable bad] {m : String} {u : Unit} :
    refuse_value bad m = .ok u ↔ ¬ bad :=
  Fallible.refuse_eq_ok

theorem expect_value_eq_ok {α : Type} {o : Option α} {m : String} {a : α} :
    expect_value o m = .ok a ↔ o = some a :=
  Fallible.expect_eq_ok

end Py

namespace PyText

/-! ### Blank text -/

/-- `str.isspace` of one code point. -/
def is_space (c : Char) : Bool :=
  let n := c.toNat
  (9 ≤ n && n ≤ 13) || (28 ≤ n && n ≤ 32) || n == 0x85 || n == 0xA0 || n == 0x1680 ||
    (0x2000 ≤ n && n ≤ 0x200A) || n == 0x2028 || n == 0x2029 || n == 0x202F || n == 0x205F ||
    n == 0x3000

/-- `not s.strip()`: the text is empty or all white space. -/
def is_blank (s : String) : Bool :=
  s.toList.all is_space

/-- `s.strip()`. -/
def strip (s : String) : String :=
  String.ofList ((s.toList.dropWhile is_space).reverse.dropWhile is_space).reverse

/-! ### Splitting -/

/-- `s.split(sep)` on code points, for a one-character separator. -/
def split_chars (sep : Char) : List Char → List (List Char)
  | []      => [[]]
  | c :: cs =>
    if c = sep then [] :: split_chars sep cs
    else match split_chars sep cs with
      | []        => [[c]]
      | p :: rest => (c :: p) :: rest

/-- `s.split(sep)`. -/
def split (s : String) (sep : Char) : List String :=
  (split_chars sep s.toList).map String.ofList

/-- `sub in s`. -/
def contains_chars (sub : List Char) : List Char → Bool
  | []      => sub.isEmpty
  | c :: cs => sub.isPrefixOf (c :: cs) || contains_chars sub cs

/-- `sub in s`. -/
def contains (s sub : String) : Bool :=
  contains_chars sub.toList s.toList

/-- `s.startswith(p)`. -/
def startswith (s p : String) : Bool :=
  p.toList.isPrefixOf s.toList

/-- `s.endswith(p)`. -/
def endswith (s p : String) : Bool :=
  p.toList.isSuffixOf s.toList

/-- `s[:n]`. -/
def take (s : String) (n : Nat) : String :=
  String.ofList (s.toList.take n)

theorem startswith_append (p s : String) : startswith (p ++ s) p = true := by
  simp [startswith]

/-! ### Case folding

    Only the foldings that can meet an ASCII name are listed: a code point
    outside the table never folds to ASCII text, so comparing with an ASCII
    name treats it as itself. -/

/-- `str.casefold` of one code point, as far as its image holds ASCII letters. -/
def casefold_char (c : Char) : List Char :=
  let n := c.toNat
  if 65 ≤ n && n ≤ 90 then [Char.ofNat (n + 32)]
  else if n == 0xDF || n == 0x1E9E then ['s', 's']
  else if n == 0x130 then ['i', Char.ofNat 0x307]
  else if n == 0x149 then [Char.ofNat 0x2BC, 'n']
  else if n == 0x17F then ['s']
  else if n == 0x1F0 then ['j', Char.ofNat 0x30C]
  else if n == 0x1E96 then ['h', Char.ofNat 0x331]
  else if n == 0x1E97 then ['t', Char.ofNat 0x308]
  else if n == 0x1E98 then ['w', Char.ofNat 0x30A]
  else if n == 0x1E99 then ['y', Char.ofNat 0x30A]
  else if n == 0x1E9A then ['a', Char.ofNat 0x2BE]
  else if n == 0x212A then ['k']
  else if n == 0xFB00 then ['f', 'f']
  else if n == 0xFB01 then ['f', 'i']
  else if n == 0xFB02 then ['f', 'l']
  else if n == 0xFB03 then ['f', 'f', 'i']
  else if n == 0xFB04 then ['f', 'f', 'l']
  else if n == 0xFB05 || n == 0xFB06 then ['s', 't']
  else [c]

/-- `s.casefold()`. -/
def casefold (s : String) : String :=
  String.ofList (s.toList.flatMap casefold_char)

/-! ### Closed shapes -/

/-- `_is_lower_hex(value, length=n)`. -/
def is_lower_hex (s : String) (length : Nat) : Bool :=
  s.toList.length == length && s.toList.all fun c => "0123456789abcdef".toList.contains c

/-- `_is_safe_relative_artifact_path`. -/
def is_safe_relative_artifact_path (s : String) : Bool :=
  s ≠ "" && s.toList.length ≤ 1000 && !startswith s "/" && !s.toList.contains '\\' &&
    !(s.toList.any fun c => c.toNat < 0x20 || (0x7F ≤ c.toNat && c.toNat ≤ 0x9F)) &&
    (split s '/').all fun part => part ≠ "" && part ≠ "." && part ≠ ".."

/-! ### Ordering -/

/-- `a <= b` on text: code point order. -/
def le (a b : String) : Bool := !decide (b < a)

/-- `tuple(sorted(set(xs))) == xs`: strictly increasing. -/
def sorted_unique : List String → Bool
  | []           => true
  | [_]          => true
  | a :: b :: xs => decide (a < b) && sorted_unique (b :: xs)

/-- Insert a text into a strictly increasing list, dropping a duplicate. -/
def insert_sorted (a : String) : List String → List String
  | []      => [a]
  | b :: xs => if a < b then a :: b :: xs else if a = b then b :: xs else b :: insert_sorted a xs

/-- `tuple(sorted(set(xs)))`. -/
def sorted_set (xs : List String) : List String :=
  xs.foldr insert_sorted []

end PyText
