import FirstAgent.Python.Json

/-! # Reading JSON Text

    `json.loads` as a recursive-descent reader over code points.  Every reader
    takes the text in front of it and gives back the value it read with the
    rest of the text; `none` is `JSONDecodeError`.  An escape that denotes a
    lone surrogate has no code point and is not read. -/

namespace Json

/-! ### Tokens -/

/-- Skip `[ \t\n\r]*`. -/
def skip_space (cs : List Char) : List Char :=
  cs.dropWhile fun c => c = ' ' || c = '\t' || c = '\n' || c = '\r'

/-- Read a fixed word. -/
def read_word (word cs : List Char) : Option (List Char) :=
  if word.isPrefixOf cs then some (cs.drop word.length) else none

def digit_value (c : Char) : Option Nat :=
  if 48 ≤ c.toNat && c.toNat ≤ 57 then some (c.toNat - 48) else none

def is_digit (c : Char) : Bool := (digit_value c).isSome

def hex_value (c : Char) : Option Nat :=
  let n := c.toNat
  if 48 ≤ n && n ≤ 57 then some (n - 48)
  else if 97 ≤ n && n ≤ 102 then some (n - 87)
  else if 65 ≤ n && n ≤ 70 then some (n - 55)
  else none

/-- Four hex digits after `\u`. -/
def read_hex4 : List Char → Option (Nat × List Char)
  | a :: b :: c :: d :: rest => do
    let a ← hex_value a
    let b ← hex_value b
    let c ← hex_value c
    let d ← hex_value d
    some (((a * 16 + b) * 16 + c) * 16 + d, rest)
  | _ => none

/-- The code point of an escape after `\u`, joining a surrogate pair. -/
def read_unicode (cs : List Char) : Option (Char × List Char) := do
  let (n, rest) ← read_hex4 cs
  if 0xD800 ≤ n ∧ n ≤ 0xDBFF then
    match rest with
    | '\\' :: 'u' :: rest => do
      let (m, rest) ← read_hex4 rest
      if 0xDC00 ≤ m ∧ m ≤ 0xDFFF then
        some (Char.ofNat (0x10000 + (n - 0xD800) * 1024 + (m - 0xDC00)), rest)
      else none
    | _ => none
  else if 0xDC00 ≤ n ∧ n ≤ 0xDFFF then none
  else some (Char.ofNat n, rest)

/-- The character of a one-letter escape. -/
def simple_escape (c : Char) : Option Char :=
  if c = '"' then some '"'
  else if c = '\\' then some '\\'
  else if c = '/' then some '/'
  else if c = 'b' then some (Char.ofNat 8)
  else if c = 'f' then some (Char.ofNat 12)
  else if c = 'n' then some '\n'
  else if c = 'r' then some '\r'
  else if c = 't' then some '\t'
  else none

/-- The characters of a string up to its closing quote. -/
def read_chars : (fuel : Nat) → List Char → Option (List Char × List Char)
  | 0, _             => none
  | _ + 1, []        => none
  | fuel + 1, c :: cs =>
    if c = '"' then some ([], cs)
    else if c = '\\' then
      match cs with
      | []      => none
      | e :: cs => do
        let (ch, cs) ← (if e = 'u' then read_unicode cs else (simple_escape e).map fun ch => (ch, cs))
        let (rest, cs) ← read_chars fuel cs
        some (ch :: rest, cs)
    else if c.toNat < 32 then none
    else do
      let (rest, cs) ← read_chars fuel cs
      some (c :: rest, cs)

/-- A string, after its opening quote. -/
def read_string (cs : List Char) : Option (String × List Char) := do
  let (chars, rest) ← read_chars (cs.length + 1) cs
  some (String.ofList chars, rest)

/-! ### Numbers -/

/-- The value of a run of digits. -/
def digits_value (cs : List Char) : Nat :=
  cs.foldl (fun n c => 10 * n + (digit_value c).getD 0) 0

/-- The integer part of a number: `0` or digits that do not start with `0`. -/
def read_integer_digits (cs : List Char) : Option (List Char × List Char) :=
  match cs with
  | []      => none
  | c :: cs =>
    if c = '0' then some ([c], cs)
    else if is_digit c then some (c :: cs.takeWhile is_digit, cs.dropWhile is_digit)
    else none

/-- `(\.\d+)?`. -/
def read_fraction (cs : List Char) : List Char × List Char :=
  match cs with
  | '.' :: d :: cs =>
    if is_digit d then ('.' :: d :: cs.takeWhile is_digit, cs.dropWhile is_digit)
    else ([], '.' :: d :: cs)
  | cs => ([], cs)

/-- `([eE][-+]?\d+)?`. -/
def read_exponent (cs : List Char) : List Char × List Char :=
  match cs with
  | e :: rest =>
    if e = 'e' ∨ e = 'E' then
      let (sign, digits) := match rest with
        | '+' :: ds => (['+'], ds)
        | '-' :: ds => (['-'], ds)
        | ds        => ([], ds)
      match digits with
      | d :: ds =>
        if is_digit d then
          (e :: sign ++ d :: ds.takeWhile is_digit, ds.dropWhile is_digit)
        else ([], cs)
      | [] => ([], cs)
    else ([], cs)
  | [] => ([], [])

/-- A number: an integer, or a float named by its text. -/
def read_number (cs : List Char) : Option (Json × List Char) := do
  let (sign, body) := match cs with
    | '-' :: rest => (['-'], rest)
    | cs          => ([], cs)
  let (digits, rest) ← read_integer_digits body
  let (fraction, rest) := read_fraction rest
  let (exponent, rest) := read_exponent rest
  if fraction.isEmpty && exponent.isEmpty then
    let n : Int := digits_value digits
    some (.int (if sign.isEmpty then n else -n), rest)
  else some (.float (String.ofList (sign ++ digits ++ fraction ++ exponent)), rest)

/-! ### Values -/

mutual

/-- A value at the head of the text. -/
def read_value : (fuel : Nat) → List Char → Option (Json × List Char)
  | 0, _              => none
  | _ + 1, []         => none
  | fuel + 1, c :: cs =>
    if c = '"' then (read_string cs).map fun (s, rest) => (.str s, rest)
    else if c = '{' then
      match skip_space cs with
      | '}' :: rest => some (.obj [], rest)
      | cs          => (read_members fuel cs).map fun (ms, rest) => (.obj ms, rest)
    else if c = '[' then
      match skip_space cs with
      | ']' :: rest => some (.arr [], rest)
      | cs          => (read_items fuel cs).map fun (xs, rest) => (.arr xs, rest)
    else if c = 'n' then (read_word "ull".toList cs).map fun rest => (.null, rest)
    else if c = 't' then (read_word "rue".toList cs).map fun rest => (.bool true, rest)
    else if c = 'f' then (read_word "alse".toList cs).map fun rest => (.bool false, rest)
    else if c = 'N' then (read_word "aN".toList cs).map fun rest => (.float "nan", rest)
    else if c = 'I' then (read_word "nfinity".toList cs).map fun rest => (.float "inf", rest)
    else match read_word "-Infinity".toList (c :: cs) with
      | some rest => some (.float "-inf", rest)
      | none      => read_number (c :: cs)

/-- The items of an array up to its closing bracket. -/
def read_items : (fuel : Nat) → List Char → Option (List Json × List Char)
  | 0, _         => none
  | fuel + 1, cs => do
    let (x, rest) ← read_value fuel cs
    match skip_space rest with
    | ']' :: rest => some ([x], rest)
    | ',' :: rest => do
      let (xs, rest) ← read_items fuel (skip_space rest)
      some (x :: xs, rest)
    | _ => none

/-- The members of an object up to its closing brace. -/
def read_members : (fuel : Nat) → List Char → Option (List (String × Json) × List Char)
  | 0, _         => none
  | fuel + 1, cs =>
    match cs with
    | '"' :: cs => do
      let (k, rest) ← read_string cs
      match skip_space rest with
      | ':' :: rest => do
        let (v, rest) ← read_value fuel (skip_space rest)
        match skip_space rest with
        | '}' :: rest => some ([(k, v)], rest)
        | ',' :: rest => do
          let (ms, rest) ← read_members fuel (skip_space rest)
          some ((k, v) :: ms, rest)
        | _ => none
      | _ => none
    | _ => none

end

/-- `json.loads(text)`. -/
def loads (s : String) : Option Json :=
  let cs := s.toList
  match read_value (cs.length + 1) (skip_space cs) with
  | some (j, rest) => if (skip_space rest).isEmpty then some j.freeze else none
  | none           => none

example : loads " [[1, -2, true], \"x\\u00e9\\n\"] " =
    some (.arr [.arr [.int 1, .int (-2), .bool true], .str "xé\n"]) := by
  decide +kernel

end Json
