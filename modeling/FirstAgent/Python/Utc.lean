import Mathlib.Tactic.IntervalCases
import FirstAgent.Python.DateTime

/-! # Whole-Second UTC Times

    A UTC `datetime` without microseconds is the number of seconds since the
    first day of year 1.  `parse` and `format` are `strptime` and `strftime`
    on `%Y-%m-%dT%H:%M:%SZ`; a text is canonical when printing what it parses
    to gives the text back.

    * **`from_ordinal_spec`**: every day number is the number of its date.
    * **`parse_format`**: a time from year 1000 on is read back from its text. -/

namespace PyDateTime

/-! ### Days and dates -/

theorem days_before_year_eq (y : Nat) : days_before_year y =
    (y - 1) * 365 + (y - 1) / 4 - (y - 1) / 100 + (y - 1) / 400 := rfl

theorem days_before_year_succ (y : Nat) (hy : 1 ≤ y) :
    days_before_year (y + 1) = days_before_year y + if is_leap y then 366 else 365 := by
  obtain ⟨p, rfl⟩ := Nat.exists_eq_add_of_le' hy
  simp only [days_before_year_eq, Nat.add_sub_cancel, Nat.succ_div]
  have hcentury : p / 100 ≤ p := Nat.div_le_self p 100
  generalize p / 4 = fourth, p / 100 = century, p / 400 = cycle at *
  simp only [is_leap, Nat.dvd_iff_mod_eq_zero]
  by_cases h4 : (p + 1) % 4 = 0 <;> by_cases h100 : (p + 1) % 100 = 0 <;>
    by_cases h400 : (p + 1) % 400 = 0 <;> simp [h4, h100, h400] <;> omega

theorem days_before_year_mono {y z : Nat} (hy : 1 ≤ y) (h : y ≤ z) :
    days_before_year y ≤ days_before_year z := by
  induction z, h using Nat.le_induction with
  | base => exact le_rfl
  | succ z hz ih =>
    rw [days_before_year_succ z (by omega)]
    omega

/-- The months of a year in order. -/
theorem days_before_month_succ (y m : Nat) (hm : 1 ≤ m) :
    days_before_month y (m + 1) = days_before_month y m + days_in_month y m := by
  obtain ⟨k, rfl⟩ := Nat.exists_eq_add_of_le' hm
  simp [days_before_month, List.range_succ]

theorem days_before_month_thirteen (y : Nat) :
    days_before_month y 13 = if is_leap y then 366 else 365 := by
  have hmonths : List.range 12 = [0, 1, 2, 3, 4, 5, 6, 7, 8, 9, 10, 11] := by decide
  simp only [days_before_month, Nat.add_one_sub_one, hmonths]
  cases h : is_leap y <;> simp [days_in_month, h]

theorem days_in_month_pos (y m : Nat) : 28 ≤ days_in_month y m := by
  unfold days_in_month
  split
  · split <;> omega
  · split <;> omega

theorem days_in_month_le (y m : Nat) : days_in_month y m ≤ 31 := by
  unfold days_in_month
  split
  · split <;> omega
  · split <;> omega

/-- Walking the months keeps the day number of the year. -/
theorem month_of_spec (y : Nat) : ∀ fuel m n : Nat, 1 ≤ m → 1 ≤ n →
    days_before_month y m + n ≤ days_before_month y (m + fuel) →
    m ≤ (month_of y fuel m n).1 ∧ (month_of y fuel m n).1 < m + fuel ∧
      1 ≤ (month_of y fuel m n).2 ∧
      (month_of y fuel m n).2 ≤ days_in_month y (month_of y fuel m n).1 ∧
      days_before_month y (month_of y fuel m n).1 + (month_of y fuel m n).2 =
        days_before_month y m + n := by
  intro fuel
  induction fuel with
  | zero =>
    intro m n _ hn hle
    simp only [Nat.add_zero] at hle
    omega
  | succ fuel ih =>
    intro m n hm hn hle
    unfold month_of
    by_cases hday : n ≤ days_in_month y m
    · simp only [hday, if_true]
      exact ⟨le_refl m, by omega, hn, trivial, trivial⟩
    · -- the day lies in a later month
      have hsucc := days_before_month_succ y m hm
      simp only [hday, if_false]
      obtain ⟨hge, hlt, hone, hin, heq⟩ := ih (m + 1) (n - days_in_month y m) (by omega) (by omega)
        (by rw [hsucc, show m + 1 + fuel = m + (fuel + 1) by omega]; omega)
      exact ⟨by omega, by omega, hone, hin, by rw [heq, hsucc]; omega⟩

/-- A year has 365.2425 days on average. -/
theorem days_before_year_bounds (p : Nat) : 146097 * p ≤ 400 * days_before_year (p + 1) + 699 ∧
    400 * days_before_year (p + 1) ≤ 146097 * p + 396 := by
  rw [days_before_year_eq, Nat.add_sub_cancel]
  constructor <;> omega

/-- The year of a day number. -/
theorem from_ordinal_year (n : Nat) (hn : 1 ≤ n) :
    1 ≤ (from_ordinal n).1 ∧ days_before_year (from_ordinal n).1 < n ∧
      n ≤ days_before_year ((from_ordinal n).1 + 1) := by
  simp only [from_ordinal]
  generalize hguess : (n - 1) * 400 / 146097 = g
  have hlow : 146097 * g ≤ (n - 1) * 400 := by omega
  have hhigh : (n - 1) * 400 < 146097 * g + 146097 := by omega
  have hbelow : days_before_year (g + 1 - 1) < n ∨ g = 0 := by
    rcases g with _ | p
    · exact .inr rfl
    · have := (days_before_year_bounds p).2
      left
      show days_before_year (p + 1) < n
      omega
  have habove : n ≤ days_before_year (g + 1 + 1 + 1) := by
    have := (days_before_year_bounds (g + 2)).1
    show n ≤ days_before_year (g + 2 + 1)
    omega
  by_cases hnext : days_before_year (g + 1 + 1) < n
  · simp only [hnext, if_true]
    exact ⟨by omega, trivial, habove⟩
  · simp only [hnext, if_false]
    by_cases hprev : n ≤ days_before_year (g + 1)
    · simp only [hprev, if_true]
      rcases hbelow with hbelow | rfl
      · have hg : g ≠ 0 := by
          rintro rfl
          simp [days_before_year] at hprev
          omega
        exact ⟨by omega, hbelow, by rwa [Nat.sub_add_cancel (by omega)]⟩
      · simp [days_before_year] at hprev
        omega
    · simp only [hprev, if_false]
      exact ⟨by omega, by omega, by omega⟩

/-- Every day number is the number of its date, and the date is a date. -/
theorem from_ordinal_spec (n : Nat) (hn : 1 ≤ n) :
    to_ordinal (from_ordinal n).1 (from_ordinal n).2.1 (from_ordinal n).2.2 = n ∧
      1 ≤ (from_ordinal n).2.1 ∧ (from_ordinal n).2.1 ≤ 12 ∧ 1 ≤ (from_ordinal n).2.2 ∧
      (from_ordinal n).2.2 ≤ days_in_month (from_ordinal n).1 (from_ordinal n).2.1 := by
  obtain ⟨hyear, hlt, hle⟩ := from_ordinal_year n hn
  have hdate : (from_ordinal n).2 = month_of (from_ordinal n).1 12 1
      (n - days_before_year (from_ordinal n).1) := rfl
  rw [days_before_year_succ _ hyear, ← days_before_month_thirteen] at hle
  have hfirst : days_before_month (from_ordinal n).1 1 = 0 := rfl
  obtain ⟨hge, hm, hone, hin, heq⟩ := month_of_spec (from_ordinal n).1 12 1
    (n - days_before_year (from_ordinal n).1) le_rfl (by omega) (by
      rw [hfirst, show 1 + 12 = 13 from rfl]
      omega)
  rw [← hdate] at hge hm hone hin heq
  refine ⟨?_, hge, by omega, hone, hin⟩
  unfold to_ordinal
  omega

end PyDateTime

/-! ### Times -/

/-- A UTC time of whole seconds, counted from the first day of year 1; the
    last one is the last second of year 9999. -/
structure UtcTime where
  seconds : Nat
  in_range : seconds < 315537897600

namespace UtcTime

@[ext] theorem ext {a b : UtcTime} (h : a.seconds = b.seconds) : a = b := by
  cases a
  cases b
  cases h
  rfl

instance : DecidableEq UtcTime := fun a b =>
  if h : a.seconds = b.seconds then isTrue (ext h) else isFalse fun h' => h (h' ▸ rfl)

/-- `OverflowError` beyond year 9999. -/
def of_seconds (n : Nat) : Py UtcTime :=
  if h : n < 315537897600 then .ok ⟨n, h⟩
  else .error (.overflow_error "date value out of range")

/-- `t + timedelta(seconds=n)`. -/
def add (t : UtcTime) (n : Nat) : Py UtcTime := of_seconds (t.seconds + n)

theorem of_seconds_eq_ok {n : Nat} {t : UtcTime} : of_seconds n = .ok t ↔ t.seconds = n := by
  unfold of_seconds
  constructor
  · intro h
    split at h <;> cases h
    rfl
  · rintro rfl
    simp [t.in_range]

theorem add_eq_ok {t t' : UtcTime} {n : Nat} : t.add n = .ok t' ↔ t'.seconds = t.seconds + n :=
  of_seconds_eq_ok

/-- Year, month and day. -/
def date (t : UtcTime) : Nat × Nat × Nat := PyDateTime.from_ordinal (t.seconds / 86400 + 1)

/-- `t.strftime("%Y-%m-%dT%H:%M:%SZ")`: the year is not padded. -/
def format (t : UtcTime) : String :=
  String.ofList (
    (toString t.date.1).toList ++ '-' :: (PyDateTime.padded 2 t.date.2.1).toList ++
    '-' :: (PyDateTime.padded 2 t.date.2.2).toList ++
    'T' :: (PyDateTime.padded 2 (t.seconds / 3600 % 24)).toList ++
    ':' :: (PyDateTime.padded 2 (t.seconds / 60 % 60)).toList ++
    ':' :: (PyDateTime.padded 2 (t.seconds % 60)).toList ++ ['Z'])

/-- The time of a calendar date and a clock. -/
def of_fields (d : PyDateTime) : Py UtcTime :=
  of_seconds ((((PyDateTime.to_ordinal d.year d.month d.day - 1) * 24 + d.hour) * 60 + d.minute) * 60
    + d.second)

/-- `strptime` of a text that `strftime` prints again. -/
def parse (s : String) : Option UtcTime := do
  if PyText.is_canonical_utc s then
    let d ← PyDateTime.fromisoformat s
    (of_fields d).toOption
  else none

/-! ### A time is read back from its text -/

section Digits

open PyDateTime

theorem digit_digitChar {n : Nat} (h : n < 10) : digit? (Nat.digitChar n) = some n := by
  interval_cases n <;> rfl

/-- A digit is no other character. -/
theorem digit_ne {c x : Char} {n : Nat} (h : digit? c = some n) (hx : digit? x = none) :
    c ≠ x := by
  rintro rfl
  rw [h] at hx
  cases hx

theorem digit_decimal {c : Char} {n : Nat} (h : digit? c = some n) :
    PyText.is_decimal c = true ∧ c.toNat < 128 := by
  unfold digit? at h
  split at h
  · next hc =>
    simp only [Bool.and_eq_true, decide_eq_true_eq] at hc
    refine ⟨?_, by omega⟩
    simp only [PyText.is_decimal, PyText.decimal_zeros, List.any_cons, Bool.or_eq_true,
      decide_eq_true_eq, Bool.and_eq_true]
    left
    omega
  · cases h

theorem number_two {a b : Char} {x y : Nat} (ha : digit? a = some x) (hb : digit? b = some y) :
    number? [a, b] = some (10 * x + y) := by
  simp [number?, ha, hb]

theorem number_four {a b c d : Char} {w x y z : Nat} (ha : digit? a = some w)
    (hb : digit? b = some x) (hc : digit? c = some y) (hd : digit? d = some z) :
    number? [a, b, c, d] = some (10 * (10 * (10 * w + x) + y) + z) := by
  simp [number?, ha, hb, hc, hd]

/-- The two digits of a number below 100. -/
theorem padded_two {n : Nat} (h : n < 100) :
    (padded 2 n).toList = [Nat.digitChar (n / 10), Nat.digitChar (n % 10)] := by
  have htext : (toString n).toList = Nat.toDigits 10 n := Nat.toList_repr
  unfold padded
  rw [String.toList_ofList, htext]
  by_cases hn : n < 10
  · rw [Nat.toDigits_of_lt_base hn, Nat.div_eq_of_lt hn, Nat.mod_eq_of_lt hn]
    rfl
  · rw [Nat.toDigits_of_base_le (by decide) (by omega), Nat.toDigits_of_lt_base (by omega)]
    rfl

/-- The four digits of a year from 1000 on. -/
theorem year_four {n : Nat} (hlow : 1000 ≤ n) (hhigh : n < 10000) :
    (toString n).toList = [Nat.digitChar (n / 1000), Nat.digitChar (n / 100 % 10),
      Nat.digitChar (n / 10 % 10), Nat.digitChar (n % 10)] := by
  have htext : (toString n).toList = Nat.toDigits 10 n := Nat.toList_repr
  rw [htext, Nat.toDigits_of_base_le (by decide) (by omega),
    Nat.toDigits_of_base_le (by decide) (by omega), Nat.toDigits_of_base_le (by decide) (by omega),
    Nat.toDigits_of_lt_base (by omega)]
  simp [Nat.div_div_eq_div_mul]

/-- The text of nineteen digits and separators. -/
theorem fromisoformat_digits {c1 c2 c3 c4 m1 m2 d1 d2 h1 h2 i1 i2 s1 s2 : Char}
    {y m d h i s : Nat} (hy : number? [c1, c2, c3, c4] = some y) (hm : number? [m1, m2] = some m)
    (hd : number? [d1, d2] = some d) (hh : number? [h1, h2] = some h)
    (hi : number? [i1, i2] = some i) (hs : number? [s1, s2] = some s)
    (hclock : ∀ c ∈ [h1, h2, i1, i2, s1, s2], (digit? c).isSome)
    (hmonth : (digit? m1).isSome) (hyear : 1 ≤ y ∧ y ≤ 9999) (hvalid : 1 ≤ m ∧ m ≤ 12)
    (hday : 1 ≤ d ∧ d ≤ days_in_month y m) (hhour : h ≤ 23) (hminute : i ≤ 59)
    (hsecond : s ≤ 59) :
    fromisoformat (String.ofList [c1, c2, c3, c4, '-', m1, m2, '-', d1, d2, 'T', h1, h2, ':',
      i1, i2, ':', s1, s2, 'Z']) = some ⟨y, m, d, h, i, s, 0, some 0⟩ := by
  have hweek : m1 ≠ 'W' := by
    obtain ⟨x, hx⟩ := Option.isSome_iff_exists.mp hmonth
    exact digit_ne hx (by decide)
  have hplain : ∀ c ∈ [h1, h2, i1, i2, s1, s2], c ≠ '-' ∧ c ≠ '+' ∧ c ≠ 'Z' := by
    intro c hc
    obtain ⟨x, hx⟩ := Option.isSome_iff_exists.mp (hclock c hc)
    exact ⟨digit_ne hx (by decide), digit_ne hx (by decide), digit_ne hx (by decide)⟩
  have hdate : parse_date [c1, c2, c3, c4, '-', m1, m2, '-', d1, d2] = some (y, m, d) := by
    simp only [parse_date, List.take, hy, Option.bind_eq_bind, Option.bind_some]
    simp [hweek, hm, hd]
    omega
  have hoffset : offset_start [h1, h2, ':', i1, i2, ':', s1, s2, 'Z'] = 8 := by
    simp only [List.forall_mem_cons] at hplain
    simp [offset_start, hplain]
  have hclocks : parse_clock [h1, h2, ':', i1, i2, ':', s1, s2] = some (h, i, s, 0) := by
    simp [parse_clock, hh, hi, hs]
  have htime : parse_time [h1, h2, ':', i1, i2, ':', s1, s2, 'Z'] =
      some ((h, i, s, 0), some 0) := by
    simp only [parse_time, hoffset]
    simp [hclocks]
    omega
  simp only [fromisoformat, String.toList_ofList]
  simp [separator_index, hweek, hdate, htime]

/-- Such a text of a date is canonical unless its year starts with a zero. -/
theorem canonical_digits {c1 c2 c3 c4 m1 m2 d1 d2 h1 h2 i1 i2 s1 s2 : Char}
    (hdigits : ∀ c ∈ [c1, c2, c3, c4, m1, m2, d1, d2, h1, h2, i1, i2, s1, s2], (digit? c).isSome)
    (hzero : c1 ≠ '0')
    (hparsed : (fromisoformat (String.ofList [c1, c2, c3, c4, '-', m1, m2, '-', d1, d2, 'T',
      h1, h2, ':', i1, i2, ':', s1, s2, 'Z'])).isSome) :
    PyText.is_canonical_utc (String.ofList [c1, c2, c3, c4, '-', m1, m2, '-', d1, d2, 'T',
      h1, h2, ':', i1, i2, ':', s1, s2, 'Z']) = true := by
  have hdecimal : ∀ c ∈ [c1, c2, c3, c4, m1, m2, d1, d2, h1, h2, i1, i2, s1, s2],
      PyText.is_decimal c = true ∧ c.toNat < 128 := by
    intro c hc
    obtain ⟨n, hn⟩ := Option.isSome_iff_exists.mp (hdigits c hc)
    exact digit_decimal hn
  simp only [List.forall_mem_cons] at hdecimal
  rw [PyText.is_canonical_utc, hparsed]
  simp [PyText.matches_picture, hdecimal, hzero]

/-- A time from year 1000 on is read back from its text. -/
theorem parse_format {t : UtcTime} (h : 31525372800 ≤ t.seconds) : parse t.format = some t := by
  have hrange := t.in_range
  obtain ⟨hyear, hbefore, hafter⟩ := from_ordinal_year (t.seconds / 86400 + 1) (by omega)
  obtain ⟨hordinal, hm1, hm2, hd1, hd2⟩ := from_ordinal_spec (t.seconds / 86400 + 1) (by omega)
  rcases hdate : t.date with ⟨y, m, d⟩
  rw [show from_ordinal (t.seconds / 86400 + 1) = (y, m, d) from hdate] at *
  dsimp only at hyear hbefore hafter hordinal hm1 hm2 hd1 hd2
  have hlow : 1000 ≤ y := by
    by_contra hlt
    have := days_before_year_mono (z := 1000) (Nat.le_add_left 1 y) (by omega)
    have h1000 : days_before_year 1000 = 364877 := by decide
    omega
  have hhigh : y < 10000 := by
    by_contra hge
    have := days_before_year_mono (y := 10000) (by decide) (Nat.le_of_not_lt hge)
    have h10000 : days_before_year 10000 = 3652059 := by decide
    omega
  have hdim : days_in_month y m ≤ 31 := days_in_month_le y m
  have hsome : ∀ n < 10, (digit? (Nat.digitChar n)).isSome := fun n hn => by
    rw [digit_digitChar hn]
    rfl
  have htwo : ∀ n < 100, number? [Nat.digitChar (n / 10), Nat.digitChar (n % 10)] = some n := by
    intro n hn
    rw [number_two (digit_digitChar (by omega)) (digit_digitChar (by omega))]
    congr 1
    omega
  have hfour : number? [Nat.digitChar (y / 1000), Nat.digitChar (y / 100 % 10),
      Nat.digitChar (y / 10 % 10), Nat.digitChar (y % 10)] = some y := by
    rw [number_four (digit_digitChar (by omega)) (digit_digitChar (by omega))
      (digit_digitChar (by omega)) (digit_digitChar (by omega))]
    congr 1
    omega
  have htext : t.format = String.ofList [Nat.digitChar (y / 1000), Nat.digitChar (y / 100 % 10),
      Nat.digitChar (y / 10 % 10), Nat.digitChar (y % 10), '-', Nat.digitChar (m / 10),
      Nat.digitChar (m % 10), '-', Nat.digitChar (d / 10), Nat.digitChar (d % 10), 'T',
      Nat.digitChar (t.seconds / 3600 % 24 / 10), Nat.digitChar (t.seconds / 3600 % 24 % 10), ':',
      Nat.digitChar (t.seconds / 60 % 60 / 10), Nat.digitChar (t.seconds / 60 % 60 % 10), ':',
      Nat.digitChar (t.seconds % 60 / 10), Nat.digitChar (t.seconds % 60 % 10), 'Z'] := by
    simp only [format, hdate]
    rw [year_four hlow hhigh, padded_two (by omega), padded_two (by omega), padded_two (by omega),
      padded_two (by omega), padded_two (by omega)]
    rfl
  have hparsed : fromisoformat t.format = some ⟨y, m, d, t.seconds / 3600 % 24,
      t.seconds / 60 % 60, t.seconds % 60, 0, some 0⟩ := by
    rw [htext]
    refine fromisoformat_digits hfour (htwo m (by omega)) (htwo d (by omega)) (htwo _ (by omega))
      (htwo _ (by omega)) (htwo _ (by omega)) ?_ (hsome _ (by omega)) ⟨by omega, by omega⟩
      ⟨hm1, hm2⟩ ⟨hd1, hd2⟩ (by omega) (by omega) (by omega)
    simp only [List.forall_mem_cons]
    exact ⟨hsome _ (by omega), hsome _ (by omega), hsome _ (by omega), hsome _ (by omega),
      hsome _ (by omega), hsome _ (by omega), List.forall_mem_nil _⟩
  have hcanonical : PyText.is_canonical_utc t.format = true := by
    have hfound : (fromisoformat t.format).isSome := by rw [hparsed]; rfl
    rw [htext] at hfound ⊢
    refine canonical_digits ?_ (fun hzero => ?_) hfound
    · simp only [List.forall_mem_cons]
      exact ⟨hsome _ (by omega), hsome _ (by omega), hsome _ (by omega), hsome _ (by omega),
        hsome _ (by omega), hsome _ (by omega), hsome _ (by omega), hsome _ (by omega),
        hsome _ (by omega), hsome _ (by omega), hsome _ (by omega), hsome _ (by omega),
        hsome _ (by omega), hsome _ (by omega), List.forall_mem_nil _⟩
    · rw [Nat.digitChar_eq_zero] at hzero
      omega
  have hseconds : of_fields ⟨y, m, d, t.seconds / 3600 % 24, t.seconds / 60 % 60,
      t.seconds % 60, 0, some 0⟩ = .ok t := by
    simp only [of_fields, of_seconds_eq_ok, hordinal]
    omega
  simp [parse, hcanonical, hparsed, hseconds, Except.toOption]

/-- A matched picture starts as the picture does. -/
theorem matches_picture_cons {p : Char} {ps cs : List Char} {rest : List Char}
    (h : PyText.matches_picture (p :: ps) cs = some rest) : ∃ c cs', cs = c :: cs' ∧
      (if p = 'd' then PyText.is_decimal c = true else c = p) ∧
      PyText.matches_picture ps cs' = some rest := by
  cases cs with
  | nil => cases h
  | cons c cs' =>
    refine ⟨c, cs', rfl, ?_⟩
    rw [PyText.matches_picture] at h
    by_cases hp : p = 'd'
    · simp only [hp, if_true] at h ⊢
      split at h
      · next hc => exact ⟨hc, h⟩
      · cases h
    · simp only [hp, if_false, decide_eq_true_eq] at h ⊢
      split at h
      · next hc => exact ⟨hc.symm, h⟩
      · cases h

theorem matches_picture_length {ps cs : List Char} (h : PyText.matches_picture ps cs = some []) :
    cs.length = ps.length := by
  induction ps generalizing cs with
  | nil =>
    cases cs with
    | nil => rfl
    | cons _ _ => cases h
  | cons p ps ih =>
    obtain ⟨c, cs', rfl, _, hrest⟩ := matches_picture_cons h
    rw [List.length_cons, List.length_cons, ih hrest]

/-- The year of a four-digit text that does not start with a zero. -/
theorem year_of_digits {c1 c2 c3 c4 : Char} {y : Nat} (h : number? [c1, c2, c3, c4] = some y)
    (hzero : c1 ≠ '0') : 1000 ≤ y := by
  have hdigit : ∀ c n, digit? c = some n → n = c.toNat - 48 ∧ 48 ≤ c.toNat := by
    intro c n hc
    unfold digit? at hc
    split at hc
    · next hrange =>
      simp only [Bool.and_eq_true, decide_eq_true_eq] at hrange
      exact ⟨(Option.some.inj hc).symm, hrange.1⟩
    · cases hc
  simp only [number?, List.foldl] at h
  cases h1 : digit? c1 with
  | none => simp [h1] at h
  | some w =>
    have hfirst : c1.toNat ≠ 48 := fun h48 => hzero (Char.ext (UInt32.ext h48))
    obtain ⟨hw, hlow⟩ := hdigit c1 w h1
    cases h2 : digit? c2 <;> cases h3 : digit? c3 <;> cases h4 : digit? c4 <;>
      simp [h1, h2, h3, h4] at h
    omega

/-- A parsed time lies in year 1000 or later. -/
theorem parse_year {s : String} {t : UtcTime} (h : parse s = some t) :
    31525372800 ≤ t.seconds := by
  simp only [parse, Option.bind_eq_bind] at h
  split at h
  · next hcanonical =>
    obtain ⟨d, hd, ht⟩ := Option.bind_eq_some_iff.mp h
    simp only [PyText.is_canonical_utc, Bool.and_eq_true, beq_iff_eq] at hcanonical
    obtain ⟨⟨⟨hascii, hpicture⟩, hhead⟩, _⟩ := hcanonical
    rw [show "dddd-dd-ddTdd:dd:ddZ".toList = ['d', 'd', 'd', 'd', '-', 'd', 'd', '-', 'd', 'd', 'T',
      'd', 'd', ':', 'd', 'd', ':', 'd', 'd', 'Z'] by decide] at hpicture
    have hlength := matches_picture_length hpicture
    obtain ⟨c1, cs, hcs, _, h2⟩ := matches_picture_cons hpicture
    obtain ⟨c2, cs, rfl, _, h3⟩ := matches_picture_cons h2
    obtain ⟨c3, cs, rfl, _, h4⟩ := matches_picture_cons h3
    obtain ⟨c4, cs, rfl, _, h5⟩ := matches_picture_cons h4
    obtain ⟨c5, cs, rfl, hdash, h6⟩ := matches_picture_cons h5
    obtain ⟨c6, cs, rfl, hmonth, _⟩ := matches_picture_cons h6
    have hdash : c5 = '-' := by simpa using hdash
    subst hdash
    have hweek : c6 ≠ 'W' := by
      rintro rfl
      exact absurd hmonth (by decide)
    rw [hcs] at hlength hhead
    have hsep : separator_index (c1 :: c2 :: c3 :: c4 :: '-' :: c6 :: cs) = some 10 := by
      have hlong : cs.length ≠ 1 := by
        have : cs.length + 6 = 20 := hlength
        omega
      simp [separator_index, hweek, hlong]
    have hrest : 9 < (c1 :: c2 :: c3 :: c4 :: '-' :: c6 :: cs).length := by
      rw [hlength]
      decide
    simp only [fromisoformat, hcs, hsep, Option.bind_eq_bind, Option.bind_some] at hd
    rw [if_neg (by omega)] at hd
    obtain ⟨⟨y, m, day⟩, hdate, hd⟩ := Option.bind_eq_some_iff.mp hd
    have hfields : d.year = y ∧ d.month = m ∧ d.day = day := by
      split at hd
      · cases hd
        exact ⟨rfl, rfl, rfl⟩
      · obtain ⟨_, _, hd⟩ := Option.bind_eq_some_iff.mp hd
        cases hd
        exact ⟨rfl, rfl, rfl⟩
    have hparts : number? [c1, c2, c3, c4] = some y ∧ 1 ≤ day := by
      simp only [parse_date, List.take_succ_cons, List.take_zero, Option.bind_eq_bind] at hdate
      obtain ⟨y', hy', hdate⟩ := Option.bind_eq_some_iff.mp hdate
      simp only [List.getElem?_cons_succ, List.getElem?_cons_zero, beq_self_eq_true, if_true,
        Option.some_beq_some, beq_iff_eq, hweek, if_false] at hdate
      obtain ⟨m', _, hdate⟩ := Option.bind_eq_some_iff.mp hdate
      split at hdate
      · cases hdate
      · obtain ⟨day', _, hdate⟩ := Option.bind_eq_some_iff.mp hdate
        split at hdate
        · cases hdate
        · next hbad =>
          simp only [Option.some.injEq, Prod.mk.injEq] at hdate
          simp only [Bool.or_eq_true, decide_eq_true_eq, not_or, not_lt] at hbad
          obtain ⟨rfl, _, rfl⟩ := hdate
          exact ⟨hy', hbad.1.1.2⟩
    have hyear := year_of_digits hparts.1 (by simpa using hhead)
    have hbefore := days_before_year_mono (by decide) hyear
    have h1000 : days_before_year 1000 = 364877 := by decide
    have hseconds : of_fields d = .ok t := by
      cases hof : of_fields d with
      | error e => simp [hof, Except.toOption] at ht
      | ok t' => simpa [hof, Except.toOption] using ht
    rw [of_fields, of_seconds_eq_ok, hfields.1, hfields.2.1, hfields.2.2, to_ordinal] at hseconds
    omega
  · cases h

end Digits

end UtcTime
