import Mathlib.Data.Char
import FirstAgent.Framework.Layers

/-! # Incremental UTF-8

    `codecs.getincrementaldecoder("utf-8")("strict")` as a machine over bytes.
    The state is the character under way: how many bytes it still owes, the
    range the next one must lie in, and the code point so far.  The ranges
    after a first byte exclude overlong forms, surrogates and code points past
    U+10FFFF, so a complete character is always a code point. -/

namespace Utf8

/-- The character under way. -/
structure Decoder where
  owed : Nat
  low : Nat
  high : Nat
  code : Nat
  deriving DecidableEq, Repr

namespace Decoder

/-- Between two characters. -/
def start : Decoder := { owed := 0, low := 0x80, high := 0xBF, code := 0 }

/-- A character that owes `owed` more bytes, the next one in `low..high`. -/
def await (owed low high code : Nat) : Option (Decoder × List Char) :=
  some ({ owed, low, high, code }, [])

/-- The first byte of a character. -/
def first_byte (n : Nat) : Option (Decoder × List Char) :=
  if n ≤ 0x7F then some (start, [Char.ofNat n])
  else if n < 0xC2 then none
  else if n ≤ 0xDF then await 1 0x80 0xBF (n - 0xC0)
  else if n = 0xE0 then await 2 0xA0 0xBF 0
  else if n = 0xED then await 2 0x80 0x9F 0xD
  else if n ≤ 0xEF then await 2 0x80 0xBF (n - 0xE0)
  else if n = 0xF0 then await 3 0x90 0xBF 0
  else if n ≤ 0xF3 then await 3 0x80 0xBF (n - 0xF0)
  else if n = 0xF4 then await 3 0x80 0x8F 4
  else none

/-- One byte: the state after it and the character it completes. -/
def next_byte (d : Decoder) (b : UInt8) : Option (Decoder × List Char) :=
  let n := b.toNat
  if d.owed = 0 then first_byte n
  else if d.low ≤ n ∧ n ≤ d.high then
    let code := d.code * 64 + (n - 0x80)
    if d.owed = 1 then some (start, [Char.ofNat code]) else await (d.owed - 1) 0x80 0xBF code
  else none

/-- `decode(input)`, raising `e` on ill-formed bytes. -/
def decode {ε : Type} (e : ε) : Layers.Layer ε Decoder UInt8 Char :=
  Layers.feed fun d b => Fallible.expect (d.next_byte b) e

/-- `decode(b"", final=True)` succeeds: no character is under way. -/
def finished (d : Decoder) : Bool := d.owed = 0

theorem incremental_decode {ε : Type} (e : ε) : Layers.Incremental (decode e) :=
  Layers.incremental_feed _

/-! ### Encoded text

    The decoder reads back what the encoder of `String` writes. -/

theorem toNat_byte {n : Nat} (h : n < 256) : (UInt8.ofNat n).toNat = n := by
  rw [UInt8.toNat_ofNat']
  exact Nat.mod_eq_of_lt h

theorem scalar_value (c : Char) :
    c.val.toNat < 0xD800 ∨ 0xDFFF < c.val.toNat ∧ c.val.toNat < 0x110000 := c.valid

theorem next_byte_first {n : Nat} (d : Decoder) (h0 : d.owed = 0) (h : n < 256) :
    next_byte d (UInt8.ofNat n) = first_byte n := by
  simp [next_byte, h0, toNat_byte h]

/-- A continuation byte inside its range completes the character or moves on. -/
theorem next_byte_tail {n owed low high code m : Nat} (hn : n < 256) (ho : owed ≠ 0)
    (hl : low ≤ n) (hh : n ≤ high) (hm : code * 64 + (n - 0x80) = m) :
    next_byte { owed, low, high, code } (UInt8.ofNat n) =
      if owed = 1 then some (start, [Char.ofNat m]) else await (owed - 1) 0x80 0xBF m := by
  simp [next_byte, ho, hl, hh, toNat_byte hn, hm]

/-- The last byte of a character. -/
theorem feed_last {ε : Type} {e : ε} {n low high code m : Nat} (hn : n < 256) (hl : low ≤ n)
    (hh : n ≤ high) (hm : code * 64 + (n - 0x80) = m) :
    decode e { owed := 1, low, high, code } [UInt8.ofNat n] = .ok (start, [Char.ofNat m]) := by
  simp only [decode, Layers.feed]
  rw [next_byte_tail hn (by omega) hl hh hm, if_pos rfl]
  rfl

/-- A continuation byte before the last one. -/
theorem feed_tail {ε : Type} {e : ε} {n owed low high code m : Nat} {bs : List UInt8} (hn : n < 256)
    (ho : 2 ≤ owed) (hl : low ≤ n) (hh : n ≤ high) (hm : code * 64 + (n - 0x80) = m) :
    decode e { owed, low, high, code } (UInt8.ofNat n :: bs) =
      decode e { owed := owed - 1, low := 0x80, high := 0xBF, code := m } bs := by
  simp only [decode, Layers.feed]
  rw [next_byte_tail hn (by omega) hl hh hm, if_neg (by omega)]
  change (Layers.feed _ _ _ >>= _) = _
  simp

/-- The first byte of a longer character. -/
theorem feed_first {ε : Type} {e : ε} {n : Nat} {d : Decoder} {bs : List UInt8} (hn : n < 256)
    (hd : first_byte n = some (d, [])) :
    decode e start (UInt8.ofNat n :: bs) = decode e d bs := by
  simp only [decode, Layers.feed]
  rw [next_byte_first start rfl hn, hd]
  change (Layers.feed _ _ _ >>= _) = _
  simp

/-! The first byte of each kind of character. -/

theorem first_byte_one {n : Nat} (h : n ≤ 0x7F) : first_byte n = some (start, [Char.ofNat n]) :=
  if_pos h

theorem first_byte_two {n : Nat} (h : 0xC2 ≤ n) (h' : n ≤ 0xDF) :
    first_byte n = await 1 0x80 0xBF (n - 0xC0) := by
  have h1 : ¬ n ≤ 0x7F := by omega
  have h2 : ¬ n < 0xC2 := by omega
  simp [first_byte, h1, h2, h']

theorem first_byte_three {n m : Nat} (h : 0xE0 ≤ n) (h' : n ≤ 0xEF) (hm : n = 0xE0 → 0xA0 ≤ m)
    (hm' : n = 0xED → m ≤ 0x9F) (hl : 0x80 ≤ m) (hh : m ≤ 0xBF) :
    ∃ low high, first_byte n = await 2 low high (n - 0xE0) ∧ low ≤ m ∧ m ≤ high := by
  have h1 : ¬ n ≤ 0x7F := by omega
  have h2 : ¬ n < 0xC2 := by omega
  have h3 : ¬ n ≤ 0xDF := by omega
  by_cases he0 : n = 0xE0
  · exact ⟨0xA0, 0xBF, by simp [first_byte, he0], hm he0, hh⟩
  by_cases hed : n = 0xED
  · exact ⟨0x80, 0x9F, by simp [first_byte, hed], hl, hm' hed⟩
  · exact ⟨0x80, 0xBF, by simp [first_byte, h1, h2, h3, he0, hed, h'], hl, hh⟩

theorem first_byte_four {n m : Nat} (h : 0xF0 ≤ n) (h' : n ≤ 0xF4) (hm : n = 0xF0 → 0x90 ≤ m)
    (hm' : n = 0xF4 → m ≤ 0x8F) (hl : 0x80 ≤ m) (hh : m ≤ 0xBF) :
    ∃ low high, first_byte n = await 3 low high (n - 0xF0) ∧ low ≤ m ∧ m ≤ high := by
  have h1 : ¬ n ≤ 0x7F := by omega
  have h2 : ¬ n < 0xC2 := by omega
  have h3 : ¬ n ≤ 0xDF := by omega
  have h4 : ¬ n ≤ 0xEF := by omega
  have h5 : n ≠ 0xE0 := by omega
  have h6 : n ≠ 0xED := by omega
  by_cases hf0 : n = 0xF0
  · exact ⟨0x90, 0xBF, by simp [first_byte, hf0], hm hf0, hh⟩
  by_cases hf4 : n = 0xF4
  · exact ⟨0x80, 0x8F, by simp [first_byte, hf4], hl, hm' hf4⟩
  · have h7 : n ≤ 0xF3 := by omega
    exact ⟨0x80, 0xBF, by simp [first_byte, h1, h2, h3, h4, h5, h6, hf0, h7], hl, hh⟩

/-- A character's own encoding decodes to the character. -/
theorem decode_char {ε : Type} (e : ε) (c : Char) :
    decode e start (String.utf8EncodeChar c) = .ok (start, [c]) := by
  have hv := scalar_value c
  have hc : Char.ofNat c.val.toNat = c := Char.ofNat_toNat c
  unfold String.utf8EncodeChar
  generalize c.val.toNat = v at hv hc
  dsimp only
  by_cases h1 : v ≤ 0x7f
  · rw [if_pos h1, ← hc]
    simp only [decode, Layers.feed]
    rw [next_byte_first start rfl (by omega), first_byte_one h1]
    rfl
  rw [if_neg h1]
  by_cases h2 : v ≤ 0x7ff
  · have hlead := @first_byte_two (v / 64 % 0x20 + 0xc0) (by omega) (by omega)
    rw [if_pos h2, ← hc]
    exact (feed_first (by omega) hlead).trans
      (feed_last (by omega) (by omega) (by omega) (by omega))
  rw [if_neg h2]
  by_cases h3 : v ≤ 0xffff
  · obtain ⟨low, high, hlead, hl, hh⟩ :=
      @first_byte_three (v / 4096 % 0x10 + 0xe0) (v / 64 % 0x40 + 0x80)
        (by omega) (by omega) (by omega) (by omega) (by omega) (by omega)
    have htail : (v / 4096 % 0x10 + 0xe0 - 0xE0) * 64 + (v / 64 % 0x40 + 0x80 - 0x80) = v / 64 := by
      omega
    rw [if_pos h3, ← hc]
    exact (feed_first (by omega) hlead).trans
      ((feed_tail (by omega) (by omega) hl hh htail).trans
        (feed_last (by omega) (by omega) (by omega) (by omega)))
  obtain ⟨low, high, hlead, hl, hh⟩ :=
    @first_byte_four (v / 262144 % 0x08 + 0xf0) (v / 4096 % 0x40 + 0x80)
      (by omega) (by omega) (by omega) (by omega) (by omega) (by omega)
  have htail : (v / 262144 % 0x08 + 0xf0 - 0xF0) * 64 + (v / 4096 % 0x40 + 0x80 - 0x80) =
      v / 4096 := by
    omega
  have htail' : v / 4096 * 64 + (v / 64 % 0x40 + 0x80 - 0x80) = v / 64 := by omega
  rw [if_neg h3, ← hc]
  exact (feed_first (by omega) hlead).trans
    ((feed_tail (by omega) (by omega) hl hh htail).trans
      ((feed_tail (by omega) (by omega) (by omega) (by omega) htail').trans
        (feed_last (by omega) (by omega) (by omega) (by omega))))

/-- Encoded text decodes to the text, with no character under way. -/
theorem decode_encode {ε : Type} (e : ε) (cs : List Char) :
    decode e start (cs.flatMap String.utf8EncodeChar) = .ok (start, cs) := by
  induction cs with
  | nil => rfl
  | cons c cs ih =>
    rw [List.flatMap_cons, incremental_decode, decode_char]
    change (decode e start _ >>= _) = _
    rw [ih]
    rfl

/-! ### Decoded bytes

    Conversely, bytes that decode are the encoding of what they decode to. -/

theorem decode_cons {ε : Type} {e : ε} {d d' : Decoder} {b : UInt8} {bs : List UInt8}
    {cs : List Char} (h : decode e d (b :: bs) = .ok (d', cs)) :
    ∃ d₁ out rest, next_byte d b = some (d₁, out) ∧ decode e d₁ bs = .ok (d', rest) ∧
      cs = out ++ rest := by
  simp only [decode, Layers.feed, Fallible.bind_eq_ok, Fallible.expect_eq_ok, Fallible.pure_eq_ok,
    Prod.exists, Prod.mk.injEq] at h
  obtain ⟨d₁, out, hnext, d₂, rest, hrest, rfl, rfl⟩ := h
  exact ⟨d₁, out, rest, hnext, hrest, rfl⟩

/-- A decoder that owes a byte cannot be at the end. -/
theorem decode_owing {ε : Type} {e : ε} {owed low high code : Nat} {d' : Decoder}
    {bs : List UInt8} {cs : List Char} (hd' : d'.owed = 0)
    (h : decode e { owed := owed + 1, low, high, code } bs = .ok (d', cs)) :
    ∃ b rest, bs = b :: rest ∧ low ≤ b.toNat ∧ b.toNat ≤ high ∧
      if owed = 0 then
        ∃ cs', cs = Char.ofNat (code * 64 + (b.toNat - 0x80)) :: cs' ∧
          decode e start rest = .ok (d', cs')
      else decode e { owed, low := 0x80, high := 0xBF, code := code * 64 + (b.toNat - 0x80) } rest =
        .ok (d', cs) := by
  cases bs with
  | nil =>
    simp only [decode, Layers.feed, Fallible.pure_eq_ok, Prod.mk.injEq] at h
    rw [← h.1] at hd'
    cases hd'
  | cons b rest =>
    obtain ⟨d₁, out, tail, hnext, hrest, rfl⟩ := decode_cons h
    unfold next_byte at hnext
    simp only [Nat.add_eq_zero_iff, Nat.one_ne_zero, and_false, if_false] at hnext
    by_cases hrange : low ≤ b.toNat ∧ b.toNat ≤ high
    · rw [if_pos hrange] at hnext
      refine ⟨b, rest, rfl, hrange.1, hrange.2, ?_⟩
      by_cases howed : owed = 0
      · rw [if_pos howed]
        rw [if_pos (by omega)] at hnext
        obtain ⟨rfl, rfl⟩ := Prod.mk.inj (Option.some.inj hnext)
        exact ⟨tail, rfl, hrest⟩
      · rw [if_neg howed]
        rw [if_neg (by omega), await] at hnext
        obtain ⟨rfl, rfl⟩ := Prod.mk.inj (Option.some.inj hnext)
        exact hrest
    · rw [if_neg hrange] at hnext
      cases hnext

/-- What the first byte of a character may be, and what it leaves to come. -/
theorem first_byte_eq_some {n : Nat} {d : Decoder} {out : List Char}
    (h : first_byte n = some (d, out)) :
    (n ≤ 0x7F ∧ d = start ∧ out = [Char.ofNat n]) ∨
      (out = [] ∧ ∃ low high, 0x80 ≤ low ∧ high ≤ 0xBF ∧
        ((d = { owed := 1, low, high, code := n - 0xC0 } ∧ 0xC2 ≤ n ∧ n ≤ 0xDF) ∨
          (d = { owed := 2, low, high, code := n - 0xE0 } ∧ 0xE0 ≤ n ∧ n ≤ 0xEF ∧
            (n = 0xE0 → 0xA0 ≤ low) ∧ (n = 0xED → high ≤ 0x9F)) ∨
          (d = { owed := 3, low, high, code := n - 0xF0 } ∧ 0xF0 ≤ n ∧ n ≤ 0xF4 ∧
            (n = 0xF0 → 0x90 ≤ low) ∧ (n = 0xF4 → high ≤ 0x8F)))) := by
  have hinj : ∀ {d' : Decoder}, some (d', []) = some (d, out) → d' = d ∧ out = [] := by
    intro d' heq
    obtain ⟨rfl, rfl⟩ := Prod.mk.inj (Option.some.inj heq)
    exact ⟨rfl, rfl⟩
  unfold first_byte await at h
  split at h
  · obtain ⟨rfl, rfl⟩ := Prod.mk.inj (Option.some.inj h)
    exact Or.inl ⟨‹_›, rfl, rfl⟩
  split at h
  · cases h
  right
  split at h
  · obtain ⟨rfl, rfl⟩ := hinj h
    exact ⟨rfl, _, _, by omega, by omega, Or.inl ⟨rfl, by omega, by omega⟩⟩
  split at h
  · next hn =>
    subst hn
    obtain ⟨rfl, rfl⟩ := hinj h
    exact ⟨rfl, 0xA0, 0xBF, by omega, by omega, Or.inr (Or.inl ⟨rfl, by omega⟩)⟩
  split at h
  · next hn =>
    subst hn
    obtain ⟨rfl, rfl⟩ := hinj h
    exact ⟨rfl, 0x80, 0x9F, by omega, by omega, Or.inr (Or.inl ⟨rfl, by omega⟩)⟩
  split at h
  · obtain ⟨rfl, rfl⟩ := hinj h
    exact ⟨rfl, _, _, by omega, by omega, Or.inr (Or.inl ⟨rfl, by omega⟩)⟩
  split at h
  · next hn =>
    subst hn
    obtain ⟨rfl, rfl⟩ := hinj h
    exact ⟨rfl, 0x90, 0xBF, by omega, by omega, Or.inr (Or.inr ⟨rfl, by omega⟩)⟩
  split at h
  · obtain ⟨rfl, rfl⟩ := hinj h
    exact ⟨rfl, _, _, by omega, by omega, Or.inr (Or.inr ⟨rfl, by omega⟩)⟩
  split at h
  · next hn =>
    subst hn
    obtain ⟨rfl, rfl⟩ := hinj h
    exact ⟨rfl, 0x80, 0x8F, by omega, by omega, Or.inr (Or.inr ⟨rfl, by omega⟩)⟩
  · cases h

/-- The code point of a scalar value. -/
theorem toNat_ofNat_char {v : Nat} (h : v < 0xD800 ∨ 0xDFFF < v ∧ v < 0x110000) :
    (Char.ofNat v).val.toNat = v := by
  have hvalid : v.isValidChar := h
  rw [Char.ofNat, dif_pos hvalid]
  rfl

theorem byte_eq {b : UInt8} {n : Nat} (h : b.toNat = n) : UInt8.ofNat n = b := by
  subst h
  exact UInt8.ofNat_toNat

/-- Bytes that decode completely are the encoding of their text. -/
theorem encode_decode {ε : Type} {e : ε} {bs : List UInt8} {d : Decoder} {cs : List Char}
    (hd : d.owed = 0) (h : decode e start bs = .ok (d, cs)) :
    bs = cs.flatMap String.utf8EncodeChar := by
  induction hn : bs.length using Nat.strongRecOn generalizing bs cs with
  | _ n ih =>
    cases bs with
    | nil =>
      simp only [decode, Layers.feed, Fallible.pure_eq_ok, Prod.mk.injEq] at h
      rw [← h.2]
      rfl
    | cons b bs =>
      obtain ⟨d₁, out, tail, hnext, hrest, rfl⟩ := decode_cons h
      have hfirst : first_byte b.toNat = some (d₁, out) := by
        rw [← hnext]
        rfl
      have hb := b.toNat_lt
      rw [List.length_cons] at hn
      rcases first_byte_eq_some hfirst with ⟨hsmall, rfl, rfl⟩ | ⟨rfl, low, high, hlow, hhigh, hkind⟩
      · -- one byte
        rw [ih bs.length (by omega) hrest rfl]
        have hcode := toNat_ofNat_char (v := b.toNat) (by omega)
        simp only [List.singleton_append, List.flatMap_cons, String.utf8EncodeChar, hcode]
        rw [if_pos hsmall, byte_eq rfl]
        rfl
      · rw [List.nil_append]
        rcases hkind with ⟨rfl, h1, h2⟩ | ⟨rfl, h1, h2, hlo, hhi⟩ | ⟨rfl, h1, h2, hlo, hhi⟩
        · obtain ⟨b₂, rest, rfl, hl, hh, hmore⟩ := decode_owing hd hrest
          rw [if_pos rfl] at hmore
          obtain ⟨cs', rfl, hmore⟩ := hmore
          rw [List.length_cons] at hn
          rw [ih rest.length (by omega) hmore rfl]
          have hcode := toNat_ofNat_char (v := (b.toNat - 0xC0) * 64 + (b₂.toNat - 0x80)) (by omega)
          simp only [List.flatMap_cons, String.utf8EncodeChar, hcode]
          rw [if_neg (by omega), if_pos (by omega), byte_eq (b := b) (by omega),
            byte_eq (b := b₂) (by omega)]
          rfl
        · obtain ⟨b₂, rest₂, rfl, hl, hh, hmore⟩ := decode_owing hd hrest
          rw [if_neg (by omega)] at hmore
          obtain ⟨b₃, rest, rfl, hl₃, hh₃, hlast⟩ := decode_owing hd hmore
          rw [if_pos rfl] at hlast
          obtain ⟨cs', rfl, htext⟩ := hlast
          rw [List.length_cons, List.length_cons] at hn
          rw [ih rest.length (by omega) htext rfl]
          have hcode := toNat_ofNat_char
            (v := ((b.toNat - 0xE0) * 64 + (b₂.toNat - 0x80)) * 64 + (b₃.toNat - 0x80)) (by omega)
          simp only [List.flatMap_cons, String.utf8EncodeChar, hcode]
          rw [if_neg (by omega), if_neg (by omega), if_pos (by omega), byte_eq (b := b) (by omega),
            byte_eq (b := b₂) (by omega), byte_eq (b := b₃) (by omega)]
          rfl
        · obtain ⟨b₂, rest₂, rfl, hl, hh, hmore⟩ := decode_owing hd hrest
          rw [if_neg (by omega)] at hmore
          obtain ⟨b₃, rest₃, rfl, hl₃, hh₃, hmore₃⟩ := decode_owing hd hmore
          rw [if_neg (by omega)] at hmore₃
          obtain ⟨b₄, rest, rfl, hl₄, hh₄, hlast⟩ := decode_owing hd hmore₃
          rw [if_pos rfl] at hlast
          obtain ⟨cs', rfl, htext⟩ := hlast
          rw [List.length_cons, List.length_cons, List.length_cons] at hn
          rw [ih rest.length (by omega) htext rfl]
          have hcode := toNat_ofNat_char
            (v := (((b.toNat - 0xF0) * 64 + (b₂.toNat - 0x80)) * 64 + (b₃.toNat - 0x80)) * 64 +
              (b₄.toNat - 0x80)) (by omega)
          simp only [List.flatMap_cons, String.utf8EncodeChar, hcode]
          rw [if_neg (by omega), if_neg (by omega), if_neg (by omega), byte_eq (b := b) (by omega),
            byte_eq (b := b₂) (by omega), byte_eq (b := b₃) (by omega),
            byte_eq (b := b₄) (by omega)]
          rfl

/-- The text of complete, well-formed bytes. -/
def decode_strict (raw : List UInt8) : Option (List Char) :=
  match decode () start raw with
  | .ok (d, cs) => if d.finished then some cs else none
  | .error _    => none

/-- `raw.decode(errors="replace")`: one replacement character for the longest
    part of a sequence that begins well, and the byte after it is read anew. -/
def decode_replace : Decoder → List UInt8 → List Char
  | d, []      => if d.finished then [] else [Char.ofNat 0xFFFD]
  | d, b :: bs =>
    match d.next_byte b with
    | some (d', out) => out ++ decode_replace d' bs
    | none           =>
      if d.finished then Char.ofNat 0xFFFD :: decode_replace start bs
      else
        match start.next_byte b with
        | some (d', out) => Char.ofNat 0xFFFD :: out ++ decode_replace d' bs
        | none           => Char.ofNat 0xFFFD :: Char.ofNat 0xFFFD :: decode_replace start bs

/-- Strict decoding inverts encoding. -/
theorem decode_strict_eq_some {raw : List UInt8} {cs : List Char} :
    decode_strict raw = some cs ↔ raw = cs.flatMap String.utf8EncodeChar := by
  constructor
  · intro h
    unfold decode_strict at h
    split at h
    · next d out hdecode =>
      split at h
      · next hfinished =>
        obtain rfl := Option.some.inj h
        exact encode_decode (of_decide_eq_true hfinished) hdecode
      · cases h
    · cases h
  · rintro rfl
    unfold decode_strict
    rw [decode_encode]
    rfl

-- "é€" cut inside the second character
example : Layers.run (decode ()) start [[0xC3, 0xA9, 0xE2], [0x82], [0xAC]] =
    .ok (start, ['é', '€']) := by
  rfl

end Decoder

end Utf8
