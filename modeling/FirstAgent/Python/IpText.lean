import FirstAgent.Python.IpAddress

/-! # Texts of Internet Addresses

    `IPv4Address.compressed` and `IPv6Address.compressed`: a dotted quad, and
    eight hextets with the longest run of zeros written as `::`.  Here are the
    texts, what a dotted quad is read back as, the run of zeros a text leaves out
    (`compress_hextets_cases`) and the layout it is read with
    (`layout_with_skip`). -/

open PyText

namespace IpAddress

/-! ### Writing -/

/-- The four octets of an IPv4 address. -/
def octets (ip : Nat) : List Nat :=
  [ip / 2 ^ 24 % 256, ip / 2 ^ 16 % 256, ip / 2 ^ 8 % 256, ip % 256]

/-- `IPv4Address._string_from_ip_int`. -/
def v4_text (ip : Nat) : List Char :=
  List.intercalate ['.'] ((octets ip).map (Nat.toDigits 10))

/-- The eight hextets of an IPv6 address. -/
def hextets (ip : Nat) : List Nat :=
  [ip / 2 ^ 112 % 65536, ip / 2 ^ 96 % 65536, ip / 2 ^ 80 % 65536, ip / 2 ^ 64 % 65536,
    ip / 2 ^ 48 % 65536, ip / 2 ^ 32 % 65536, ip / 2 ^ 16 % 65536, ip % 65536]

/-- The run of zeros at hand and the longest one so far. -/
structure ZeroRuns where
  best_start : Nat
  best_len : Nat
  /-- `doublecolon_start`; `none` is its -1. -/
  start : Option Nat
  len : Nat

/-- One step of the loop of `_compress_hextets`. -/
def ZeroRuns.next (s : ZeroRuns) (index : Nat) (hextet : List Char) : ZeroRuns :=
  if hextet = ['0'] then
    let start := s.start.getD index
    if s.best_len < s.len + 1 then
      { best_start := start, best_len := s.len + 1, start := some start, len := s.len + 1 }
    else { s with start := some start, len := s.len + 1 }
  else { s with start := none, len := 0 }

/-- The loop over the hextets from `index` on. -/
def ZeroRuns.scan : ZeroRuns → (index : Nat) → List (List Char) → ZeroRuns
  | s, _, []          => s
  | s, i, h :: rest => (s.next i h).scan (i + 1) rest

/-- `_compress_hextets`. -/
def compress_hextets (parts : List (List Char)) : List (List Char) :=
  let runs := ZeroRuns.scan { best_start := 0, best_len := 0, start := none, len := 0 } 0 parts
  if 1 < runs.best_len then
    let best_end := runs.best_start + runs.best_len
    let padded := if best_end = parts.length then parts ++ [[]] else parts
    let replaced := padded.take runs.best_start ++ [] :: padded.drop best_end
    if runs.best_start = 0 then [] :: replaced else replaced
  else parts

/-- `IPv6Address._string_from_ip_int`. -/
def v6_text (ip : Nat) : List Char :=
  List.intercalate [':'] (compress_hextets ((hextets ip).map hex))

/-- `address.compressed`: the text of the address, with its scope. -/
def compressed : IpAddress → List Char
  | .v4 ip              => v4_text ip
  | .v6 ip none         => v6_text ip
  | .v6 ip (some scope) => if scope = [] then v6_text ip else v6_text ip ++ '%' :: scope

/-! ### Digits -/

theorem parse_octet_digits : ∀ n, n < 256 → parse_octet (Nat.toDigits 10 n) = some n := by
  decide +kernel

theorem hex_value_digitChar : ∀ d, d < 16 → hex_value d.digitChar = some d := by
  decide

/-- The hexadecimal digits of a number have values that make up the number. -/
theorem mapM_hex (n : Nat) :
    ∃ digits, (hex n).mapM hex_value = some digits ∧ join_digits 16 digits = n := by
  induction n using Nat.strongRecOn with
  | _ n ih =>
    by_cases hlt : n < 16
    · refine ⟨[n], ?_, by simp [join_digits]⟩
      rw [hex, Nat.toDigits_of_lt_base hlt]
      simp [hex_value_digitChar n hlt]
    · obtain ⟨digits, hdigits, hjoin⟩ := ih (n / 16) (by omega)
      refine ⟨digits ++ [n % 16], ?_, ?_⟩
      · rw [hex, Nat.toDigits_of_base_le (by decide) (by omega)]
        rw [hex] at hdigits
        simp [List.mapM_append, hdigits, hex_value_digitChar (n % 16) (by omega)]
      · rw [join_digits] at hjoin
        rw [join_digits, List.foldl_append, hjoin]
        simp only [List.foldl_cons, List.foldl_nil]
        omega

theorem hex_ne_nil (n : Nat) : hex n ≠ [] := Nat.toDigits_ne_nil

theorem parse_hextet_hex {n : Nat} (h : n < 65536) : parse_hextet (hex n) = some n := by
  obtain ⟨digits, hdigits, hjoin⟩ := mapM_hex n
  have hlength : (hex n).length ≤ 4 :=
    (Nat.length_toDigits_le_iff (by decide) (by decide)).mpr (by simpa using h)
  have hfits : ¬ (hex n = [] ∨ (hex n).length > 4) := by
    rintro (hnil | hlong)
    · exact hex_ne_nil n hnil
    · omega
  rw [parse_hextet, if_neg hfits, hdigits, Option.map_some, hjoin]

section mapM

variable {α β : Type} {f : α → Option β}

theorem mapM_cons_eq_some {a : α} {as : List α} {bs : List β} :
    (a :: as).mapM f = some bs ↔ ∃ b rest, f a = some b ∧ as.mapM f = some rest ∧ bs = b :: rest := by
  simp only [List.mapM_cons, Option.bind_eq_bind, Option.bind_eq_some_iff, Option.pure_def,
    Option.some_inj]
  constructor
  · rintro ⟨b, hb, rest, hrest, rfl⟩
    exact ⟨b, rest, hb, hrest, rfl⟩
  · rintro ⟨b, rest, hb, hrest, rfl⟩
    exact ⟨b, hb, rest, hrest, rfl⟩

theorem isSome_of_mapM {as : List α} {bs : List β} (h : as.mapM f = some bs) {a : α}
    (ha : a ∈ as) : (f a).isSome = true := by
  induction as generalizing bs with
  | nil => cases ha
  | cons d as ih =>
    obtain ⟨b, rest, hb, hrest, -⟩ := mapM_cons_eq_some.mp h
    rcases List.mem_cons.mp ha with rfl | ha
    · rw [hb]
      rfl
    · exact ih hrest ha

/-- The values of a list, as many as its members and each the value of one. -/
theorem of_mapM {as : List α} {bs : List β} (h : as.mapM f = some bs) :
    bs.length = as.length ∧ ∀ b ∈ bs, ∃ a ∈ as, f a = some b := by
  induction as generalizing bs with
  | nil =>
    cases h
    exact ⟨rfl, fun b hb => by cases hb⟩
  | cons a as ih =>
    obtain ⟨b, rest, hb, hrest, rfl⟩ := mapM_cons_eq_some.mp h
    obtain ⟨hlength, hvalues⟩ := ih hrest
    refine ⟨by simp [hlength], fun v hv => ?_⟩
    rcases List.mem_cons.mp hv with rfl | hv
    · exact ⟨a, List.mem_cons_self, hb⟩
    · obtain ⟨d, hd, hvalue⟩ := hvalues v hv
      exact ⟨d, List.mem_cons_of_mem _ hd, hvalue⟩

end mapM

/-- The digits of a hexadecimal number are in lower case. -/
theorem mem_hex {n : Nat} {c : Char} (h : c ∈ hex n) : c ∈ "0123456789abcdef".toList := by
  have hdigit : ∀ d, d < 16 → d.digitChar ∈ "0123456789abcdef".toList := by decide
  induction n using Nat.strongRecOn with
  | _ n ih =>
    by_cases hlt : n < 16
    · rw [hex, Nat.toDigits_of_lt_base hlt, List.mem_singleton] at h
      rw [h]
      exact hdigit n hlt
    · rw [hex, Nat.toDigits_of_base_le (by decide) (by omega), List.mem_append,
        List.mem_singleton] at h
      rcases h with hfront | rfl
      · exact ih (n / 16) (by omega) hfront
      · exact hdigit (n % 16) (by omega)

theorem mem_intercalate {sep c : Char} {parts : List (List Char)}
    (h : c ∈ List.intercalate [sep] parts) : c = sep ∨ ∃ part ∈ parts, c ∈ part := by
  induction parts with
  | nil => simp at h
  | cons part parts ih =>
    cases parts with
    | nil =>
      rw [List.intercalate_singleton] at h
      exact .inr ⟨part, List.mem_cons_self, h⟩
    | cons next parts =>
      rw [List.intercalate_cons_cons, List.mem_append, List.mem_append, List.mem_singleton] at h
      rcases h with (hpart | hsep) | hrest
      · exact .inr ⟨part, List.mem_cons_self, hpart⟩
      · exact .inl hsep
      · rcases ih hrest with hsep | ⟨p, hp, hc⟩
        · exact .inl hsep
        · exact .inr ⟨p, List.mem_cons_of_mem _ hp, hc⟩

theorem sep_mem_intercalate {sep : Char} {a b : List Char} {parts : List (List Char)} :
    sep ∈ List.intercalate [sep] (a :: b :: parts) := by
  rw [List.intercalate_cons_cons]
  simp

theorem mem_split_chars {sep c : Char} {cs : List Char} (h : c ∈ cs) :
    c = sep ∨ ∃ part ∈ split_chars sep cs, c ∈ part := by
  induction cs with
  | nil => cases h
  | cons d cs ih =>
    by_cases hd : d = sep
    · rw [split_chars, if_pos hd]
      rcases List.mem_cons.mp h with rfl | hc
      · exact .inl hd
      · rcases ih hc with hsep | ⟨part, hpart, hin⟩
        · exact .inl hsep
        · exact .inr ⟨part, List.mem_cons_of_mem _ hpart, hin⟩
    · rw [split_chars, if_neg hd]
      cases hsplit : split_chars sep cs with
      | nil =>
        rcases List.mem_cons.mp h with rfl | hc
        · exact .inr ⟨[c], by simp, by simp⟩
        · rcases ih hc with hsep | ⟨part, hpart, -⟩
          · exact .inl hsep
          · rw [hsplit] at hpart
            cases hpart
      | cons first rest =>
        rcases List.mem_cons.mp h with rfl | hc
        · exact .inr ⟨c :: first, List.mem_cons_self, List.mem_cons_self⟩
        · rcases ih hc with hsep | ⟨part, hpart, hin⟩
          · exact .inl hsep
          · rw [hsplit] at hpart
            rcases List.mem_cons.mp hpart with rfl | hrest
            · exact .inr ⟨d :: part, List.mem_cons_self, List.mem_cons_of_mem _ hin⟩
            · exact .inr ⟨part, List.mem_cons_of_mem _ hrest, hin⟩

/-! ### Dotted quads -/

/-- What is read as a dotted quad holds decimal digits and dots. -/
theorem mem_v4_from_string {cs : List Char} {ip : Nat} (h : v4_from_string cs = some ip) {c : Char}
    (hc : c ∈ cs) : c = '.' ∨ is_ascii_digit c := by
  unfold v4_from_string at h
  dsimp only at h
  split at h
  · cases h
  · obtain ⟨ns, hns, -⟩ := Option.map_eq_some_iff.mp h
    rcases @mem_split_chars '.' c cs hc with hdot | ⟨part, hpart, hin⟩
    · exact .inl hdot
    · have hoctet := isSome_of_mapM hns hpart
      unfold parse_octet at hoctet
      split at hoctet
      · cases hoctet
      · next hdigits =>
          simp only [ascii_digits, Bool.not_eq_true, Bool.not_eq_false', Bool.and_eq_true,
            List.all_eq_true, decide_eq_true_eq] at hdigits
          exact .inr (hdigits.2 c hin)

theorem octets_lt {ip n : Nat} (h : n ∈ octets ip) : n < 256 := by
  simp only [octets, List.mem_cons, List.not_mem_nil, or_false] at h
  rcases h with rfl | rfl | rfl | rfl <;> omega

theorem join_octets {ip : Nat} (h : ip < 2 ^ 32) : join_digits 256 (octets ip) = ip := by
  simp only [join_digits, octets, List.foldl_cons, List.foldl_nil]
  omega

/-- A dotted quad holds decimal digits and dots. -/
theorem mem_v4_text {ip : Nat} {c : Char} (h : c ∈ v4_text ip) : c = '.' ∨ is_ascii_digit c := by
  rcases mem_intercalate h with hdot | ⟨part, hpart, hc⟩
  · exact .inl hdot
  · obtain ⟨n, -, rfl⟩ := List.mem_map.mp hpart
    exact .inr (toDigits_ascii hc)

theorem mapM_octets (ns : List Nat) (h : ∀ n ∈ ns, n < 256) :
    (ns.map (Nat.toDigits 10)).mapM parse_octet = some ns := by
  induction ns with
  | nil => rfl
  | cons n ns ih =>
    have hn := parse_octet_digits n (h n List.mem_cons_self)
    have hns := ih fun m hm => h m (List.mem_cons_of_mem _ hm)
    simp [hn, hns]

theorem v4_from_string_text {ip : Nat} (h : ip < 2 ^ 32) : v4_from_string (v4_text ip) = some ip := by
  have hparts : ∀ part ∈ (octets ip).map (Nat.toDigits 10), '.' ∉ part := by
    intro part hpart hdot
    obtain ⟨n, -, rfl⟩ := List.mem_map.mp hpart
    exact absurd (toDigits_ascii hdot) (by decide)
  have hsplit : split_chars '.' (v4_text ip) = (octets ip).map (Nat.toDigits 10) :=
    split_chars_join (by simp [octets]) hparts
  have hlength : ¬ ((octets ip).map (Nat.toDigits 10)).length ≠ 4 := by simp [octets]
  rw [v4_from_string, hsplit, if_neg hlength, mapM_octets _ fun n hn => octets_lt hn,
    Option.map_some, join_octets h]

/-- The text of an IPv4 address is read back as the address. -/
theorem ip_address_v4_text {ip : Nat} (h : ip < 2 ^ 32) :
    ip_address (v4_text ip) = some (.v4 ip) := by
  have hslash : '/' ∉ v4_text ip := by
    intro hmem
    rcases mem_v4_text hmem with hdot | hdigit
    · cases hdot
    · exact absurd hdigit (by decide)
  rw [ip_address, if_neg hslash, v4_from_string_text h]

/-! ### Runs of zeros -/

/-- What the loop over the first `k` hextets knows: both runs are runs of zeros, the one
    at hand ends at `k`. -/
structure ZeroRuns.Sound (s : ZeroRuns) (parts : List (List Char)) (k : Nat) : Prop where
  best_in : s.best_start + s.best_len ≤ k
  best_zero : ∀ i, s.best_start ≤ i → i < s.best_start + s.best_len → parts[i]? = some ['0']
  current : ∀ st, s.start = some st →
    st + s.len = k ∧ ∀ i, st ≤ i → i < k → parts[i]? = some ['0']
  idle : s.start = none → s.len = 0

variable {parts : List (List Char)}

/-- One hextet keeps both runs. -/
theorem ZeroRuns.next_sound {s : ZeroRuns} {k : Nat} {h : List Char} (hs : s.Sound parts k)
    (hk : parts[k]? = some h) : (s.next k h).Sound parts (k + 1) := by
  unfold ZeroRuns.next
  by_cases hzero : h = ['0']
  · -- the run at hand grows by this hextet, or starts with it
    have hrun : s.start.getD k + s.len = k ∧
        ∀ i, s.start.getD k ≤ i → i < k + 1 → parts[i]? = some ['0'] := by
      cases hstart : s.start with
      | none =>
        have hlen := hs.idle hstart
        refine ⟨by simp [hlen], fun i hlow hhigh => ?_⟩
        have hi : i = k := by
          simp only [Option.getD_none] at hlow
          omega
        rw [hi, hk, hzero]
      | some st =>
        obtain ⟨hend, hzeros⟩ := hs.current st hstart
        refine ⟨hend, fun i hlow hhigh => ?_⟩
        by_cases hi : i = k
        · rw [hi, hk, hzero]
        · exact hzeros i hlow (by omega)
    obtain ⟨hend, hzeros⟩ := hrun
    rw [if_pos hzero]
    dsimp only
    split
    · refine ⟨by dsimp only; omega, ?_, ?_, ?_⟩
      · intro i hlow hhigh
        dsimp only at hlow hhigh
        exact hzeros i hlow (by omega)
      · intro st hst
        cases hst
        exact ⟨by dsimp only; omega, hzeros⟩
      · intro hnone
        cases hnone
    · refine ⟨Nat.le_succ_of_le hs.best_in, hs.best_zero, ?_, ?_⟩
      · intro st hst
        cases hst
        exact ⟨by dsimp only; omega, hzeros⟩
      · intro hnone
        cases hnone
  · rw [if_neg hzero]
    refine ⟨Nat.le_succ_of_le hs.best_in, hs.best_zero, ?_, fun _ => rfl⟩
    intro st hst
    cases hst

theorem ZeroRuns.scan_sound {s : ZeroRuns} {k : Nat} {rest : List (List Char)}
    (hs : s.Sound parts k) (hrest : parts.drop k = rest) (hk : k ≤ parts.length) :
    (s.scan k rest).Sound parts parts.length := by
  induction rest generalizing s k with
  | nil =>
    have hend : k = parts.length := by
      have hle := List.drop_eq_nil_iff.mp hrest
      omega
    rw [ZeroRuns.scan, ← hend]
    exact hs
  | cons h rest ih =>
    have hget : parts[k]? = some h := by
      have hhead := congrArg List.head? hrest
      simpa using hhead
    have hlt : k < parts.length := (List.getElem?_eq_some_iff.mp hget).1
    have hdrop : parts.drop (k + 1) = rest := by
      have htail := congrArg List.tail hrest
      simpa using htail
    exact ih (ZeroRuns.next_sound hs hget) hdrop hlt

/-- The parts of a text in which `::` stands between `hi` and `lo`. -/
def with_skip (hi lo : List (List Char)) : List (List Char) :=
  (if hi = [] then [[]] else hi) ++ [] :: (if lo = [] then [[]] else lo)

/-- A list of hextets is compressed at a run of zeros or not at all. -/
theorem compress_hextets_cases (parts : List (List Char)) :
    compress_hextets parts = parts ∨ ∃ hi lo len, 2 ≤ len ∧
      parts = hi ++ List.replicate len ['0'] ++ lo ∧ compress_hextets parts = with_skip hi lo := by
  have hstart : ZeroRuns.Sound { best_start := 0, best_len := 0, start := none, len := 0 } parts 0 :=
    ⟨Nat.le_refl 0, fun i _ hi => absurd hi (Nat.not_lt_zero i),
      fun _ h => by simp at h, fun _ => rfl⟩
  have hsound := ZeroRuns.scan_sound hstart List.drop_zero (Nat.zero_le _)
  unfold compress_hextets
  generalize ZeroRuns.scan _ 0 parts = runs at hsound
  dsimp only
  by_cases hlen : 1 < runs.best_len
  · right
    rw [if_pos hlen]
    have hin := hsound.best_in
    refine ⟨parts.take runs.best_start, parts.drop (runs.best_start + runs.best_len),
      runs.best_len, hlen, ?_, ?_⟩
    · -- between the two parts kept stand zeros only
      have hzeros : (parts.drop runs.best_start).take runs.best_len
          = List.replicate runs.best_len ['0'] := by
        refine List.ext_getElem? fun i => ?_
        by_cases hi : i < runs.best_len
        · have hget := hsound.best_zero (runs.best_start + i) (by omega) (by omega)
          rw [List.getElem?_take_of_lt hi, List.getElem?_drop, hget, List.getElem?_replicate_of_lt hi]
        · rw [List.getElem?_eq_none (by simp; omega), List.getElem?_eq_none (by simp; omega)]
      rw [← hzeros, ← List.drop_drop, List.append_assoc, List.take_append_drop,
        List.take_append_drop]
    · have hhi : parts.take runs.best_start = [] ↔ runs.best_start = 0 := by
        rw [List.take_eq_nil_iff]
        constructor
        · rintro (hzero | hnil)
          · exact hzero
          · rw [hnil] at hin
            simp only [List.length_nil] at hin
            omega
        · exact .inl
      have hlo : parts.drop (runs.best_start + runs.best_len) = []
          ↔ runs.best_start + runs.best_len = parts.length := by
        rw [List.drop_eq_nil_iff]
        omega
      have hpadded : (if runs.best_start + runs.best_len = parts.length then parts ++ [[]]
          else parts).drop (runs.best_start + runs.best_len)
          = if parts.drop (runs.best_start + runs.best_len) = [] then [[]]
            else parts.drop (runs.best_start + runs.best_len) := by
        by_cases hend : runs.best_start + runs.best_len = parts.length
        · rw [if_pos hend, if_pos (hlo.mpr hend), hend, List.drop_left]
        · rw [if_neg hend, if_neg (mt hlo.mp hend)]
      have htake : (if runs.best_start + runs.best_len = parts.length then parts ++ [[]]
          else parts).take runs.best_start = parts.take runs.best_start := by
        by_cases hend : runs.best_start + runs.best_len = parts.length
        · rw [if_pos hend, List.take_append_of_le_length (by omega)]
        · rw [if_neg hend]
      rw [hpadded, htake, with_skip]
      by_cases hzero : runs.best_start = 0
      · rw [if_pos hzero, if_pos (hhi.mpr hzero), hhi.mpr hzero]
        rfl
      · rw [if_neg hzero, if_neg (mt hhi.mp hzero)]
  · left
    rw [if_neg hlen]

/-! ### Reading the parts -/

theorem with_skip_length (hi lo : List (List Char)) :
    (with_skip hi lo).length = (if hi = [] then 1 else hi.length) +
      ((if lo = [] then 1 else lo.length) + 1) := by
  unfold with_skip
  by_cases hnil : hi = [] <;> by_cases hnil' : lo = [] <;> simp [hnil, hnil'] <;> omega

section reading

variable {hi lo : List (List Char)} (hhi : ∀ part ∈ hi, part ≠ []) (hlo : ∀ part ∈ lo, part ≠ [])
include hhi hlo

/-- The one empty part between the first and the last is where `::` stands. -/
theorem skip_indices_with_skip :
    skip_indices (with_skip hi lo) = [if hi = [] then 1 else hi.length] := by
  have hbefore : (if hi = [] then [[]] else hi : List (List Char)).length
      = if hi = [] then 1 else hi.length := by
    split <;> simp
  have hafter : 0 < (if lo = [] then [[]] else lo : List (List Char)).length := by
    split
    · simp
    · next hne => exact List.length_pos_iff.mpr hne
  have hpos : 0 < if hi = [] then 1 else hi.length := by
    split
    · omega
    · next hne => exact List.length_pos_iff.mpr hne
  have hlength : (with_skip hi lo).length = (if hi = [] then 1 else hi.length) +
      ((if lo = [] then [[]] else lo : List (List Char)).length + 1) := by
    rw [with_skip, List.length_append, List.length_cons, hbefore]
  have hmem : ∀ i, i ∈ skip_indices (with_skip hi lo) ↔ i = if hi = [] then 1 else hi.length := by
    intro i
    simp only [skip_indices, List.mem_filter, List.mem_range, Bool.and_eq_true, decide_eq_true_eq]
    constructor
    · rintro ⟨hi_lt, ⟨hi_pos, hi_end⟩, hempty⟩
      -- a part in front of the gap, or behind it, is empty only at an end of the text
      rcases Nat.lt_trichotomy i (if hi = [] then 1 else hi.length) with hlt | heq | hgt
      · have hne : hi ≠ [] := by
          intro hnil
          rw [if_pos hnil] at hlt
          omega
        rw [if_neg hne] at hlt
        rw [with_skip, if_neg hne, List.getElem?_append_left hlt, List.getElem?_eq_getElem hlt,
          Option.any_some, List.isEmpty_iff] at hempty
        exact absurd hempty (hhi _ (List.getElem_mem hlt))
      · exact heq
      · have hne : lo ≠ [] := by
          intro hnil
          rw [hlength, if_pos hnil] at hi_end
          simp only [List.length_cons, List.length_nil] at hi_end
          omega
        obtain ⟨j, hj⟩ : ∃ j, i = (if hi = [] then 1 else hi.length) + (j + 1) :=
          ⟨i - (if hi = [] then 1 else hi.length) - 1, by omega⟩
        have hjlt : j < lo.length := by
          rw [hlength, if_neg hne] at hi_lt
          omega
        rw [with_skip, List.getElem?_append_right (by rw [hbefore]; omega), hbefore, hj,
          Nat.add_sub_cancel_left, List.getElem?_cons_succ, if_neg hne,
          List.getElem?_eq_getElem hjlt, Option.any_some, List.isEmpty_iff] at hempty
        exact absurd hempty (hlo _ (List.getElem_mem hjlt))
    · rintro rfl
      refine ⟨by omega, ⟨hpos, by omega⟩, ?_⟩
      rw [with_skip, List.getElem?_append_right (Nat.le_of_eq hbefore), hbefore,
        Nat.sub_self, List.getElem?_cons_zero]
      rfl
  have hnodup : (skip_indices (with_skip hi lo)).Nodup := List.nodup_range.filter _
  have hperm : (skip_indices (with_skip hi lo)).Perm [if hi = [] then 1 else hi.length] := by
    refine (List.perm_ext_iff_of_nodup hnodup (by simp)).mpr fun i => ?_
    rw [hmem, List.mem_singleton]
  exact List.perm_singleton.mp hperm

/-- The layout of a text with `::` gives back the parts around it. -/
theorem layout_with_skip (hcount : hi.length + lo.length ≤ 7) :
    layout (with_skip hi lo) = some { parts_hi := hi.length, parts_lo := lo.length } := by
  have hfirst : (with_skip hi lo).head?.any List.isEmpty = decide (hi = []) := by
    unfold with_skip
    cases hi with
    | nil => rfl
    | cons part rest => simp [hhi part List.mem_cons_self]
  have hlast : (with_skip hi lo).getLast?.any List.isEmpty = decide (lo = []) := by
    unfold with_skip
    by_cases hnil : lo = []
    · simp [hnil]
    · have hmem := List.getLast_mem hnil
      rw [if_neg hnil, List.getLast?_append, List.getLast?_cons_of_ne_nil hnil,
        List.getLast?_eq_some_getLast hnil, Option.some_or, Option.any_some, decide_eq_false hnil]
      simpa using hlo _ hmem
  have hlength := with_skip_length hi lo
  rw [layout, skip_indices_with_skip hhi hlo]
  simp only [skipped_layout, hfirst, hlast, hlength, decide_eq_true_eq]
  by_cases hnil : hi = [] <;> by_cases hnil' : lo = [] <;>
    simp [hnil, hnil'] at hcount ⊢ <;> omega

end reading

end IpAddress
