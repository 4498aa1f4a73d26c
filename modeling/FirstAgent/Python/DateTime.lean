import FirstAgent.Python.Text

/-! # Python Timestamps

    `datetime.fromisoformat`, `isoformat` and the addition of minutes, on the
    proleptic Gregorian calendar, with the two text shapes the contracts
    check before they parse. -/

/-- A `datetime`: wall-clock fields and the UTC offset in microseconds. -/
structure PyDateTime where
  year : Nat
  month : Nat
  day : Nat
  hour : Nat
  minute : Nat
  second : Nat
  microsecond : Nat
  offset : Option Int
  deriving Repr, DecidableEq

namespace PyDateTime

/-! ### Calendar -/

def is_leap (y : Nat) : Bool := y % 4 == 0 && (y % 100 != 0 || y % 400 == 0)

def days_in_month (y m : Nat) : Nat :=
  if m == 2 then (if is_leap y then 29 else 28)
  else if m == 4 || m == 6 || m == 9 || m == 11 then 30 else 31

def days_before_year (y : Nat) : Nat :=
  let p := y - 1
  p * 365 + p / 4 - p / 100 + p / 400

def days_before_month (y m : Nat) : Nat :=
  ((List.range (m - 1)).map fun i => days_in_month y (i + 1)).sum

/-- `date.toordinal()`. -/
def to_ordinal (y m d : Nat) : Nat := days_before_year y + days_before_month y m + d

/-- Walk the months of a year: the month and day of a day number. -/
def month_of (y : Nat) : (fuel m n : Nat) → Nat × Nat
  | 0, m, n        => (m, n)
  | fuel + 1, m, n =>
    if n ≤ days_in_month y m then (m, n) else month_of y fuel (m + 1) (n - days_in_month y m)

/-- `date.fromordinal(n)` as year, month and day. -/
def from_ordinal (n : Nat) : Nat × Nat × Nat :=
  let guess := (n - 1) * 400 / 146097 + 1
  let y := if days_before_year (guess + 1) < n then guess + 1
    else if n ≤ days_before_year guess then guess - 1 else guess
  (y, month_of y 12 1 (n - days_before_year y))

/-! ### Parsing -/

/-- An ASCII digit, as the parser reads it. -/
def digit? (c : Char) : Option Nat :=
  if 48 ≤ c.toNat && c.toNat ≤ 57 then some (c.toNat - 48) else none

/-- `int(text)` on ASCII digits. -/
def number? : List Char → Option Nat
  | [] => none
  | cs => cs.foldl (fun acc c => match acc, digit? c with
      | some n, some d => some (10 * n + d)
      | _, _           => none) (some 0)

/-- `_find_isoformat_datetime_separator`. -/
def separator_index (cs : List Char) : Option Nat :=
  let len := cs.length
  if len == 7 then some 7
  else if cs[4]? == some '-' then
    if cs[5]? == some 'W' then
      if len < 8 then none
      else if len > 8 && cs[8]? == some '-' then
        if len == 9 then none
        else if len > 10 && ((cs[10]?.bind digit?).isSome) then some 8 else some 10
      else some 8
    else some 10
  else if cs[4]? == some 'W' then
    let idx := 7 + ((cs.drop 7).takeWhile fun c => (digit? c).isSome).length
    if idx < 9 then some idx else if idx % 2 == 0 then some 7 else some 8
  else some 8

/-- The first Monday of ISO week one, as a day ordinal. -/
def iso_week1_monday (y : Nat) : Int :=
  let first : Int := to_ordinal y 1 1
  let weekday := (first + 6) % 7
  let monday := first - weekday
  if weekday > 3 then monday + 7 else monday

/-- `_parse_isoformat_date`. -/
def parse_date (cs : List Char) : Option (Nat × Nat × Nat) := do
  let y ← number? (cs.take 4)
  let has_sep := cs[4]? == some '-'
  let pos := if has_sep then 5 else 4
  if cs[pos]? == some 'W' then
    let week ← number? ((cs.drop (pos + 1)).take 2)
    let rest := cs.drop (pos + 3)
    let day ← match rest with
      | []       => some 1
      | c :: ds  =>
        if has_sep then (if c == '-' then number? ds else none) else number? (c :: ds)
    if y < 1 || 9999 < y || week < 1 || 53 < week || day < 1 || 7 < day then none
    else
      let monday := iso_week1_monday y
      let ordinal := monday + (week - 1) * 7 + (day - 1)
      -- week 53 exists only in long years
      if week == 53 && iso_week1_monday (y + 1) ≤ monday + 52 * 7 then none
      else if ordinal < 1 then none
      else some (from_ordinal ordinal.toNat)
  else
    let m ← number? ((cs.drop pos).take 2)
    let pos := pos + 2
    if (cs[pos]? == some '-') != has_sep then none
    else
      let pos := if has_sep then pos + 1 else pos
      let d ← number? (cs.drop pos)
      if y < 1 || 9999 < y || m < 1 || 12 < m || d < 1 || days_in_month y m < d
        || (cs.drop pos).length != 2 then none
      else some (y, m, d)

/-- `_parse_hh_mm_ss_ff`. -/
def parse_clock (cs : List Char) : Option (Nat × Nat × Nat × Nat) := do
  let two := fun (xs : List Char) => if xs.length < 2 then none else number? (xs.take 2)
  let fraction := fun (xs : List Char) => match xs with
    | []      => some 0
    | c :: ds =>
      if c != '.' && c != ',' then none
      else do
        let n ← number? (ds.take 6)
        if (ds.drop 6).all fun c => (digit? c).isSome then
          some (n * 10 ^ (6 - min 6 ds.length))
        else none
  let h ← two cs
  let rest := cs.drop 2
  if rest.isEmpty then some (h, 0, 0, 0)
  else
    let has_sep := rest.head? == some ':'
    let rest := if has_sep then rest.drop 1 else rest
    let m ← two rest
    let rest := rest.drop 2
    if rest.isEmpty then some (h, m, 0, 0)
    else if has_sep && rest.head? != some ':' then none
    else
      let rest := if has_sep then rest.drop 1 else rest
      let s ← two rest
      let f ← fraction (rest.drop 2)
      some (h, m, s, f)

/-- Where the UTC offset of a time text starts. -/
def offset_start (cs : List Char) : Nat :=
  (cs.takeWhile fun c => c != '-' && c != '+' && c != 'Z').length

/-- `_parse_isoformat_time`: clock fields and offset. -/
def parse_time (cs : List Char) : Option ((Nat × Nat × Nat × Nat) × Option Int) := do
  if cs.length < 2 then none
  else
    let at_ := offset_start cs
    let (h, m, s, f) ← parse_clock (cs.take at_)
    if 23 < h || 59 < m || 59 < s then none
    else match cs.drop at_ with
      | []       => some ((h, m, s, f), none)
      | c :: tz  =>
        if c == 'Z' then (if tz.isEmpty then some ((h, m, s, f), some 0) else none)
        else if tz.length == 0 || tz.length == 1 || tz.length == 3 then none
        else do
          let (zh, zm, zs, zf) ← parse_clock tz
          let us : Int := ((zh * 60 + zm) * 60 + zs) * 1000000 + zf
          if 86400000000 ≤ us then none
          else some ((h, m, s, f), some (if c == '-' then -us else us))

/-- `datetime.fromisoformat(text)`; `none` is its `ValueError`. -/
def fromisoformat (s : String) : Option PyDateTime := do
  let cs := s.toList
  if cs.length < 7 then none
  else
    let sep ← separator_index cs
    let (y, m, d) ← parse_date (cs.take sep)
    match cs.drop (sep + 1) with
    | []   => some ⟨y, m, d, 0, 0, 0, 0, none⟩
    | rest => do
      let ((h, mi, sec, us), off) ← parse_time rest
      some ⟨y, m, d, h, mi, sec, us, off⟩

/-! ### Printing and addition -/

/-- Zero-padded decimal text. -/
def padded (width n : Nat) : String :=
  let digits := (toString n).toList
  String.ofList (List.replicate (width - digits.length) '0' ++ digits)

/-- `utcoffset` as `isoformat` prints it. -/
def offset_text (us : Int) : String :=
  let sign := if us < 0 then "-" else "+"
  let n := us.natAbs
  let s := n / 1000000
  let base := sign ++ padded 2 (s / 3600) ++ ":" ++ padded 2 (s / 60 % 60)
  if n % 1000000 != 0 then
    base ++ ":" ++ padded 2 (s % 60) ++ "." ++ padded 6 (n % 1000000)
  else if s % 60 != 0 then base ++ ":" ++ padded 2 (s % 60)
  else base

/-- `value.isoformat()`. -/
def isoformat (t : PyDateTime) : String :=
  padded 4 t.year ++ "-" ++ padded 2 t.month ++ "-" ++ padded 2 t.day ++ "T" ++
    padded 2 t.hour ++ ":" ++ padded 2 t.minute ++ ":" ++ padded 2 t.second ++
    (if t.microsecond != 0 then "." ++ padded 6 t.microsecond else "") ++
    (match t.offset with
      | none    => ""
      | some us => offset_text us)

/-- `value.astimezone(UTC)` for a value with the given UTC offset. -/
def astimezone_utc (t : PyDateTime) (offset : Int) : Py PyDateTime := do
  let clock := (((to_ordinal t.year t.month t.day * 24 + t.hour) * 60 + t.minute) * 60 + t.second)
  let total : Int := clock * 1000000 + t.microsecond - offset
  Fallible.refuse (total < 86400000000) (.overflow_error "date value out of range")
  let n := total.toNat
  let (y, m, d) := from_ordinal (n / 86400000000)
  Fallible.refuse (9999 < y) (.overflow_error "date value out of range")
  let second := n / 1000000
  .ok ⟨y, m, d, second / 3600 % 24, second / 60 % 60, second % 60, n % 1000000, some 0⟩

/-- `value + timedelta(minutes=n)` for a non-negative `n`. -/
def add_minutes (t : PyDateTime) (n : Nat) : Py PyDateTime := do
  let total := (to_ordinal t.year t.month t.day * 24 + t.hour) * 60 + t.minute + n
  let (y, m, d) := from_ordinal (total / 1440)
  Fallible.refuse (9999 < y) (.overflow_error "date value out of range")
  .ok { t with year := y, month := m, day := d, hour := total / 60 % 24, minute := total % 60 }

end PyDateTime

namespace PyText

/-- `s.replace(old, new)` on code points; `skip` counts the code points of a
    match still to be dropped. -/
def replace_chars (old new : List Char) : (skip : Nat) → List Char → List Char
  | _, []             => []
  | n + 1, _ :: cs    => replace_chars old new n cs
  | 0, c :: cs        =>
    if old.isPrefixOf (c :: cs) then new ++ replace_chars old new (old.length - 1) cs
    else c :: replace_chars old new 0 cs

/-- `s.replace(old, new)`. -/
def replace (s old new : String) : String :=
  String.ofList (replace_chars old.toList new.toList 0 s.toList)

/-- The zeros of the decimal digit blocks (`\d` in a `str` pattern). -/
def decimal_zeros : List Nat := [
  0x30, 0x660, 0x6f0, 0x7c0, 0x966, 0x9e6, 0xa66, 0xae6, 0xb66, 0xbe6, 0xc66, 0xce6, 0xd66,
  0xde6, 0xe50, 0xed0, 0xf20, 0x1040, 0x1090, 0x17e0, 0x1810, 0x1946, 0x19d0, 0x1a80, 0x1a90,
  0x1b50, 0x1bb0, 0x1c40, 0x1c50, 0xa620, 0xa8d0, 0xa900, 0xa9d0, 0xa9f0, 0xaa50, 0xabf0,
  0xff10, 0x104a0, 0x10d30, 0x11066, 0x110f0, 0x11136, 0x111d0, 0x112f0, 0x11450, 0x114d0,
  0x11650, 0x116c0, 0x11730, 0x118e0, 0x11950, 0x11c50, 0x11d50, 0x11da0, 0x11f50, 0x16a60,
  0x16ac0, 0x16b50, 0x1d7ce, 0x1d7d8, 0x1d7e2, 0x1d7ec, 0x1d7f6, 0x1e140, 0x1e2f0, 0x1e4f0,
  0x1e950, 0x1fbf0]

/-- `\d` in a `str` pattern. -/
def is_decimal (c : Char) : Bool :=
  decimal_zeros.any fun z => z ≤ c.toNat && c.toNat ≤ z + 9

/-- Match a picture: `d` stands for a decimal digit, anything else for itself. -/
def matches_picture : (picture text : List Char) → Option (List Char)
  | [], cs           => some cs
  | _ :: _, []       => none
  | p :: ps, c :: cs =>
    if (if p = 'd' then is_decimal c else p = c) then matches_picture ps cs else none

/-- `_RFC3339_Z.fullmatch(text)`. -/
def is_rfc3339_z (s : String) : Bool :=
  match matches_picture "dddd-dd-ddTdd:dd:dd".toList s.toList with
  | none      => false
  | some rest =>
    let zone := fun cs => cs == ['Z'] ||
      (cs.head? == some '+' || cs.head? == some '-') &&
        matches_picture "dd:dd".toList (cs.drop 1) == some []
    match rest with
    | '.' :: cs =>
      let n := (cs.takeWhile is_decimal).length
      1 ≤ n && n ≤ 9 && zone (cs.drop n)
    | cs => zone cs

/-- `strptime(text, "%Y-%m-%dT%H:%M:%SZ")` printed by `strftime` gives the text
    back: ASCII digits, a real date, and a year that prints with four digits. -/
def is_canonical_utc (s : String) : Bool :=
  (s.toList.all fun c => c.toNat < 128) &&
    matches_picture "dddd-dd-ddTdd:dd:ddZ".toList s.toList == some [] &&
    s.toList.head? != some '0' && (PyDateTime.fromisoformat s).isSome

end PyText
