import FirstAgent.Python.Partition
import FirstAgent.Python.Utf8

/-! # The IDNA Codec

    `str.encode("idna")` of the standard library: labels cut at the four dots,
    each one mapped by `nameprep` and, where it stays outside ASCII, written in
    Punycode.  The tables of the Unicode database are the fields of
    `UnicodeData`; nothing here rests on their entries beyond what lower-casing
    does to ASCII text. -/

namespace PyText

/-! ### ASCII text -/

/-- A code point of ASCII. -/
def is_ascii_char (c : Char) : Bool := c.toNat < 128

/-- `str.isascii`. -/
def isascii (cs : List Char) : Bool := cs.all is_ascii_char

/-- `str.lower` of one ASCII code point. -/
def ascii_lower_char (c : Char) : Char :=
  if 65 ≤ c.toNat && c.toNat ≤ 90 then Char.ofNat (c.toNat + 32) else c

/-- `str.lower` on ASCII text. -/
def ascii_lower (cs : List Char) : List Char := cs.map ascii_lower_char

/-! ### Lower case of ASCII text -/

variable {cs ds : List Char}

theorem isascii_iff : isascii cs = true ↔ ∀ c ∈ cs, c.toNat < 128 := by
  simp [isascii, is_ascii_char]

theorem isascii_sublist (h : ds.Sublist cs) (hcs : isascii cs = true) : isascii ds = true := by
  rw [isascii_iff] at hcs ⊢
  exact fun c hc => hcs c (h.subset hc)

theorem isascii_append : isascii (cs ++ ds) = true ↔ isascii cs = true ∧ isascii ds = true := by
  simp [isascii]

theorem ascii_lower_char_cases (c : Char) :
    (65 ≤ c.toNat ∧ c.toNat ≤ 90 ∧ (ascii_lower_char c).toNat = c.toNat + 32) ∨
      (¬ (65 ≤ c.toNat ∧ c.toNat ≤ 90) ∧ ascii_lower_char c = c) := by
  by_cases hupper : 65 ≤ c.toNat ∧ c.toNat ≤ 90
  · left
    refine ⟨hupper.1, hupper.2, ?_⟩
    simp only [ascii_lower_char, hupper, decide_true, Bool.and_self, if_true]
    exact Utf8.Decoder.toNat_ofNat_char (by omega)
  · right
    refine ⟨hupper, ?_⟩
    simp only [ascii_lower_char, Bool.and_eq_true, decide_eq_true_eq, hupper, if_false]

theorem ascii_lower_char_ascii {c : Char} (h : c.toNat < 128) :
    (ascii_lower_char c).toNat < 128 := by
  rcases ascii_lower_char_cases c with ⟨-, hhigh, heq⟩ | ⟨-, heq⟩
  · omega
  · rw [heq]
    exact h

theorem ascii_lower_char_idem (c : Char) :
    ascii_lower_char (ascii_lower_char c) = ascii_lower_char c := by
  rcases ascii_lower_char_cases c with ⟨hlow, hhigh, heq⟩ | ⟨-, heq⟩
  · rcases ascii_lower_char_cases (ascii_lower_char c) with ⟨-, hagain, -⟩ | ⟨-, hsame⟩
    · omega
    · exact hsame
  · rw [heq, heq]

theorem ascii_lower_ascii (h : isascii cs = true) : isascii (ascii_lower cs) = true := by
  rw [isascii_iff] at h ⊢
  intro c hc
  obtain ⟨d, hd, rfl⟩ := List.mem_map.mp hc
  exact ascii_lower_char_ascii (h d hd)

theorem ascii_lower_idem : ascii_lower (ascii_lower cs) = ascii_lower cs := by
  simp only [ascii_lower, List.map_map]
  exact List.map_congr_left fun c _ => ascii_lower_char_idem c

theorem ascii_lower_length : (ascii_lower cs).length = cs.length := by
  simp [ascii_lower]

theorem ascii_lower_append : ascii_lower (cs ++ ds) = ascii_lower cs ++ ascii_lower ds := by
  simp [ascii_lower]

end PyText

namespace Idna

open PyText

/-! ### The Unicode database -/

/-- The tables the codec, `str.lower` and the check of an authority read. -/
structure UnicodeData where
  /-- `str.lower`. -/
  lower : List Char → List Char
  /-- `unicodedata.normalize("NFKC", …)`. -/
  nfkc : List Char → List Char
  /-- The same of `unicodedata.ucd_3_2_0`, which the codec goes by. -/
  nfkc_3_2_0 : List Char → List Char
  /-- `stringprep.in_table_b1`: mapped to nothing. -/
  in_table_b1 : Char → Bool
  /-- `stringprep.map_table_b2`. -/
  map_table_b2 : Char → List Char
  /-- Membership in one of the tables C.1.2 to C.9. -/
  prohibited : Char → Bool
  /-- `stringprep.in_table_d1`: the right-to-left characters. -/
  in_table_d1 : Char → Bool
  /-- `stringprep.in_table_d2`. -/
  in_table_d2 : Char → Bool
  /-- `label.encode("punycode")`. -/
  punycode : List Char → List Char
  lower_ascii : ∀ cs, isascii cs = true → lower cs = ascii_lower cs

variable (data : UnicodeData)

/-! ### Labels -/

/-- The bidirectional check of `nameprep`. -/
def bidi_ok (label : List Char) : Bool :=
  !label.any data.in_table_d1 ||
    (!label.any data.in_table_d2 &&
      label.head?.any data.in_table_d1 && label.getLast?.any data.in_table_d1)

/-- `nameprep`; `none` is its `UnicodeError`. -/
def nameprep (label : List Char) : Option (List Char) :=
  let mapped := label.flatMap fun c => if data.in_table_b1 c then [] else data.map_table_b2 c
  let normal := data.nfkc_3_2_0 mapped
  if normal.any data.prohibited then none
  else if bidi_ok data normal then some normal
  else none

/-- `0 < len(label) < 64`. -/
def label_fits (label : List Char) : Bool := 0 < label.length && label.length < 64

/-- The label, when its length is admitted. -/
def fitted (label : List Char) : Option (List Char) :=
  if label_fits label then some label else none

/-- `sace_prefix`. -/
def ace_marker : List Char := "xn--".toList

/-- `ToASCII`; `none` is its `UnicodeError`. -/
def to_ascii (label : List Char) : Option (List Char) :=
  if isascii label then fitted label
  else
    match nameprep data label with
    | none        => none
    | some mapped =>
      if isascii mapped then fitted mapped
      else if ace_marker.isPrefixOf mapped then none
      else fitted (ace_marker ++ data.punycode mapped)

/-! ### Encoding -/

/-- The four dots of a domain name. -/
def is_dot (c : Char) : Bool :=
  c.toNat == 0x2E || c.toNat == 0x3002 || c.toNat == 0xFF0E || c.toNat == 0xFF61

/-- The lengths the fast path admits: the last label may be empty. -/
def ascii_labels_fit (cs : List Char) : Bool :=
  let labels := split_chars '.' cs
  labels.dropLast.all label_fits && labels.getLast?.all (fun label => label.length < 64)

/-- `result.extend(b'.')` before every label but the first. -/
def join_labels : List (List Char) → List Char :=
  List.foldl (fun result label => if result = [] then label else result ++ '.' :: label) []

/-- The labels without an empty last one, and the dot that stood before it. -/
def trailing_dot (labels : List (List Char)) : List (List Char) × List Char :=
  if labels.getLast? = some [] then (labels.dropLast, ['.']) else (labels, [])

/-- `text.encode("idna").decode("ascii")`; `none` is its `UnicodeError`. -/
def encode (cs : List Char) : Option (List Char) :=
  if cs = [] then some []
  else if isascii cs then if ascii_labels_fit cs then some cs else none
  else
    let (labels, dot) := trailing_dot (split_where is_dot cs)
    match labels.mapM (to_ascii data) with
    | none         => none
    | some encoded =>
      let result := join_labels encoded ++ dot
      if isascii result then some result else none

/-! ### What encoding keeps -/

variable {data} {cs a : List Char}

theorem isascii_nil : isascii [] = true := rfl

/-- Encoded text is ASCII. -/
theorem encode_ascii (h : encode data cs = some a) : isascii a = true := by
  unfold encode at h
  by_cases hnil : cs = []
  · rw [if_pos hnil] at h
    cases h
    exact isascii_nil
  · rw [if_neg hnil] at h
    by_cases hascii : isascii cs = true
    · rw [if_pos hascii] at h
      split at h
      · cases h
        exact hascii
      · cases h
    · rw [if_neg hascii] at h
      dsimp only at h
      split at h
      · cases h
      · split at h
        · next hresult =>
            cases h
            exact hresult
        · cases h

/-- ASCII text is encoded as itself or not at all. -/
theorem encode_of_ascii (hascii : isascii cs = true) :
    encode data cs = some a ↔ a = cs ∧ (cs = [] ∨ ascii_labels_fit cs = true) := by
  unfold encode
  by_cases hnil : cs = []
  · rw [if_pos hnil, Option.some_inj, hnil]
    exact ⟨fun h => ⟨h.symm, .inl rfl⟩, fun h => h.1.symm⟩
  · rw [if_neg hnil, if_pos hascii]
    by_cases hfit : ascii_labels_fit cs = true
    · rw [if_pos hfit, Option.some_inj]
      exact ⟨fun h => ⟨h.symm, .inr hfit⟩, fun h => h.1.symm⟩
    · rw [if_neg hfit]
      simp [hfit, hnil]

/-! ### The tables of the full-width forms -/

/-- NFKC of one of the full-width forms of ASCII. -/
def halfwidth (c : Char) : Char :=
  if 0xFF01 ≤ c.toNat && c.toNat ≤ 0xFF5E then Char.ofNat (c.toNat - 0xFEE0) else c

/-- The tables on ASCII text and the full-width forms without case. -/
def fullwidth_data : UnicodeData where
  lower := ascii_lower
  nfkc := List.map halfwidth
  nfkc_3_2_0 := List.map halfwidth
  in_table_b1 := fun _ => false
  map_table_b2 := fun c => [ascii_lower_char c]
  prohibited := fun _ => false
  in_table_d1 := fun _ => false
  in_table_d2 := fun c => (97 ≤ c.toNat && c.toNat ≤ 122) || (65 ≤ c.toNat && c.toNat ≤ 90)
  punycode := id
  lower_ascii := fun _ _ => rfl

end Idna
