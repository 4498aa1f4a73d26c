import FirstAgent.Python.DateTime

/-! # Integers in Text

    `int(text)` in base ten: white space around, one sign, digits of any
    decimal block, and single underscores between digits.  The printed form of
    an integer is read back (`int_toString`). -/

namespace PyText

/-! ### Reading -/

/-- White space `int` skips; the ASCII separators are kept as they are. -/
def int_space (c : Char) : Bool := is_space c && !(28 ≤ c.toNat && c.toNat ≤ 31)

/-- The value of a decimal digit. -/
def decimal_value (c : Char) : Option Nat :=
  (decimal_zeros.find? fun z => z ≤ c.toNat && c.toNat ≤ z + 9).map fun z => c.toNat - z

/-- The digits behind the first one; an underscore stands before a digit. -/
def digits_tail : (acc : Nat) → List Char → Option Nat
  | acc, []             => some acc
  | acc, '_' :: c :: cs => (decimal_value c).bind fun d => digits_tail (10 * acc + d) cs
  | acc, c :: cs        => (decimal_value c).bind fun d => digits_tail (10 * acc + d) cs

def unsigned : List Char → Option Nat
  | []      => none
  | c :: cs => (decimal_value c).bind fun d => digits_tail d cs

def strip_int (cs : List Char) : List Char :=
  ((cs.dropWhile int_space).reverse.dropWhile int_space).reverse

/-- `int(text)`; `none` is its `ValueError`. -/
def int? (s : String) : Option Int :=
  match strip_int s.toList with
  | '-' :: cs => (unsigned cs).map fun n => -(n : Int)
  | '+' :: cs => (unsigned cs).map fun n => (n : Int)
  | cs        => (unsigned cs).map fun n => (n : Int)

/-! ### Printed integers -/

/-- An ASCII digit. -/
abbrev is_ascii_digit (c : Char) : Prop := 48 ≤ c.toNat ∧ c.toNat ≤ 57

theorem decimal_value_ascii {c : Char} (h : is_ascii_digit c) :
    decimal_value c = some (c.toNat - 48) := by
  obtain ⟨hlow, hhigh⟩ := h
  have hfirst : (0x30 ≤ c.toNat && c.toNat ≤ 0x30 + 9) = true := by
    simp only [Bool.and_eq_true, decide_eq_true_eq]
    omega
  simp only [decimal_value, decimal_zeros, List.find?_cons, hfirst, Option.map_some]

theorem ascii_digit_not_space {c : Char} (h : is_ascii_digit c) : int_space c = false := by
  obtain ⟨hlow, hhigh⟩ := h
  simp only [int_space, is_space, Bool.and_eq_false_iff, Bool.or_eq_false_iff, beq_eq_false_iff_ne,
    decide_eq_false_iff_not, Bool.not_eq_false']
  left
  omega

theorem ascii_digit_ne {c d : Char} (h : is_ascii_digit c) (hd : ¬ is_ascii_digit d) : c ≠ d := by
  rintro rfl
  exact hd h

/-- Behind a digit, ASCII digits are read as decimal. -/
theorem digits_tail_ascii {cs : List Char} (h : ∀ c ∈ cs, is_ascii_digit c) (acc : Nat) :
    digits_tail acc cs = some (Nat.ofDigitChars 10 cs acc) := by
  induction cs generalizing acc with
  | nil => rfl
  | cons c cs ih =>
    have hc : is_ascii_digit c := h c List.mem_cons_self
    have hne : c ≠ '_' := ascii_digit_ne hc (by decide)
    have hcs : ∀ d ∈ cs, is_ascii_digit d := fun d hd => h d (List.mem_cons_of_mem c hd)
    rw [digits_tail]
    · rw [decimal_value_ascii hc, Option.bind_some, ih hcs, Nat.ofDigitChars_cons]
      rfl
    · intro d ds heq
      exact absurd heq hne

theorem unsigned_ascii {cs : List Char} (hne : cs ≠ []) (h : ∀ c ∈ cs, is_ascii_digit c) :
    unsigned cs = some (Nat.ofDigitChars 10 cs 0) := by
  cases cs with
  | nil => exact absurd rfl hne
  | cons c cs =>
    have hc : is_ascii_digit c := h c List.mem_cons_self
    have hcs : ∀ d ∈ cs, is_ascii_digit d := fun d hd => h d (List.mem_cons_of_mem c hd)
    rw [unsigned, decimal_value_ascii hc, Option.bind_some, digits_tail_ascii hcs,
      Nat.ofDigitChars_cons]
    simp

/-- Text without white space at its ends is not stripped. -/
theorem strip_int_eq {c d : Char} {cs : List Char} (hfirst : int_space c = false)
    (hlast : (c :: cs).getLast? = some d) (hd : int_space d = false) :
    strip_int (c :: cs) = c :: cs := by
  have hreverse : (c :: cs).reverse.dropWhile int_space = (c :: cs).reverse := by
    obtain ⟨ds, hds⟩ : ∃ ds, (c :: cs).reverse = d :: ds := by
      rw [← List.head?_reverse] at hlast
      exact List.head?_eq_some_iff.mp hlast
    rw [hds, List.dropWhile_cons_of_neg (by simp [hd])]
  rw [strip_int, List.dropWhile_cons_of_neg (by simp [hfirst]), hreverse, List.reverse_reverse]

/-- The decimal digits of a number are ASCII digits. -/
theorem toDigits_ascii {n : Nat} {c : Char} (h : c ∈ Nat.toDigits 10 n) : is_ascii_digit c := by
  have hdigit : c.isDigit = true := Nat.isDigit_of_mem_toDigits (by decide) (by decide) h
  simp only [Char.isDigit, Bool.and_eq_true, decide_eq_true_eq] at hdigit
  exact hdigit

theorem strip_digits {cs : List Char} (h : ∀ c ∈ cs, is_ascii_digit c) : strip_int cs = cs := by
  cases cs with
  | nil => rfl
  | cons c cs =>
    have hlast := List.getLast?_eq_some_getLast (List.cons_ne_nil c cs)
    exact strip_int_eq (ascii_digit_not_space (h c List.mem_cons_self)) hlast
      (ascii_digit_not_space (h _ (List.getLast_mem _)))

theorem toDigits_unsigned (n : Nat) : unsigned (Nat.toDigits 10 n) = some n := by
  rw [unsigned_ascii Nat.toDigits_ne_nil fun c hc => toDigits_ascii hc,
    Nat.ofDigitChars_ten_toDigits]

/-- The text of a non-negative integer: its digits. -/
theorem toString_ofNat (n : Nat) : (toString (n : Int)).toList = Nat.toDigits 10 n :=
  Nat.toList_repr

/-- `int(str(n))` is `n`. -/
theorem int_toString (n : Nat) : int? (toString (n : Int)) = some (n : Int) := by
  have hdigits : ∀ c ∈ Nat.toDigits 10 n, is_ascii_digit c := fun c hc => toDigits_ascii hc
  have hunsigned := toDigits_unsigned n
  rw [int?, toString_ofNat, strip_digits hdigits]
  split
  · next cs hcs =>
    exact absurd (hdigits '-' (by rw [hcs]; exact List.mem_cons_self)) (by decide)
  · next cs hcs =>
    exact absurd (hdigits '+' (by rw [hcs]; exact List.mem_cons_self)) (by decide)
  · rw [hunsigned]
    rfl

/-! ### Pieces of a text -/

/-- The pieces before and behind a separator that does not occur before it. -/
theorem split_chars_append {sep : Char} {cs : List Char} (h : sep ∉ cs) (rest : List Char) :
    split_chars sep (cs ++ sep :: rest) = cs :: split_chars sep rest := by
  induction cs with
  | nil => simp [split_chars]
  | cons c cs ih =>
    simp only [List.mem_cons, not_or] at h
    rw [List.cons_append, split_chars, if_neg (fun heq => h.1 heq.symm), ih h.2]

end PyText
