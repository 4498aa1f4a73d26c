import FirstAgent.Python.Json

/-! # SHA-256 and Canonical Digests

    `hashlib.sha256(text.encode("utf-8")).hexdigest()` on 32-bit words kept as
    natural numbers below `2 ^ 32`, and `canonical_json_digest`, the digest
    of the canonical text of a JSON value. -/

namespace Sha256

/-- Reduce to 32 bits. -/
def mask (x : Nat) : Nat := x % 4294967296

/-- Rotate right. -/
def rotr (x n : Nat) : Nat := (x >>> n) ||| mask (x <<< (32 - n))

/-- The round constants. -/
def k : List Nat := [
  0x428a2f98, 0x71374491, 0xb5c0fbcf, 0xe9b5dba5, 0x3956c25b, 0x59f111f1, 0x923f82a4, 0xab1c5ed5,
  0xd807aa98, 0x12835b01, 0x243185be, 0x550c7dc3, 0x72be5d74, 0x80deb1fe, 0x9bdc06a7, 0xc19bf174,
  0xe49b69c1, 0xefbe4786, 0x0fc19dc6, 0x240ca1cc, 0x2de92c6f, 0x4a7484aa, 0x5cb0a9dc, 0x76f988da,
  0x983e5152, 0xa831c66d, 0xb00327c8, 0xbf597fc7, 0xc6e00bf3, 0xd5a79147, 0x06ca6351, 0x14292967,
  0x27b70a85, 0x2e1b2138, 0x4d2c6dfc, 0x53380d13, 0x650a7354, 0x766a0abb, 0x81c2c92e, 0x92722c85,
  0xa2bfe8a1, 0xa81a664b, 0xc24b8b70, 0xc76c51a3, 0xd192e819, 0xd6990624, 0xf40e3585, 0x106aa070,
  0x19a4c116, 0x1e376c08, 0x2748774c, 0x34b0bcb5, 0x391c0cb3, 0x4ed8aa4a, 0x5b9cca4f, 0x682e6ff3,
  0x748f82ee, 0x78a5636f, 0x84c87814, 0x8cc70208, 0x90befffa, 0xa4506ceb, 0xbef9a3f7, 0xc67178f2]

/-- The eight working words. -/
structure Words where
  a : Nat
  b : Nat
  c : Nat
  d : Nat
  e : Nat
  f : Nat
  g : Nat
  h : Nat

/-- The initial hash value. -/
def initial : Words :=
  ⟨0x6a09e667, 0xbb67ae85, 0x3c6ef372, 0xa54ff53a, 0x510e527f, 0x9b05688c, 0x1f83d9ab, 0x5be0cd19⟩

/-- One round, on a round constant and a schedule word. -/
def round (s : Words) (kw : Nat × Nat) : Words :=
  let s1 := rotr s.e 6 ^^^ rotr s.e 11 ^^^ rotr s.e 25
  let ch := (s.e &&& s.f) ^^^ ((4294967295 - s.e) &&& s.g)
  let t1 := mask (s.h + s1 + ch + kw.1 + kw.2)
  let s0 := rotr s.a 2 ^^^ rotr s.a 13 ^^^ rotr s.a 22
  let mj := (s.a &&& s.b) ^^^ (s.a &&& s.c) ^^^ (s.b &&& s.c)
  ⟨mask (t1 + mask (s0 + mj)), s.a, s.b, s.c, mask (s.d + t1), s.e, s.f, s.g⟩

/-- Extend the schedule by `n` words; the newest word comes first. -/
def extend : Nat → List Nat → List Nat
  | 0, w     => w
  | n + 1, w =>
    let w15 := w.getD 14 0
    let w2  := w.getD 1 0
    let s0 := rotr w15 7 ^^^ rotr w15 18 ^^^ (w15 >>> 3)
    let s1 := rotr w2 17 ^^^ rotr w2 19 ^^^ (w2 >>> 10)
    extend n (mask (w.getD 15 0 + s0 + w.getD 6 0 + s1) :: w)

/-- Compress one block of sixteen words. -/
def compress (s : Words) (block : List Nat) : Words :=
  let t := (k.zip (extend 48 block.reverse).reverse).foldl round s
  ⟨mask (s.a + t.a), mask (s.b + t.b), mask (s.c + t.c), mask (s.d + t.d),
    mask (s.e + t.e), mask (s.f + t.f), mask (s.g + t.g), mask (s.h + t.h)⟩

/-- Big-endian words of a byte sequence. -/
def words : List Nat → List Nat
  | a :: b :: c :: d :: rest => (a * 16777216 + b * 65536 + c * 256 + d) :: words rest
  | _                        => []

/-- The message with its padding and length. -/
def pad (m : List Nat) : List Nat :=
  m ++ [0x80] ++ List.replicate ((119 - m.length % 64) % 64) 0 ++
    (List.range 8).reverse.map fun i => ((8 * m.length) >>> (8 * i)) % 256

/-- Compress `n` blocks. -/
def blocks : Nat → List Nat → Words → Words
  | 0, _, s      => s
  | n + 1, ws, s => blocks n (ws.drop 16) (compress s (ws.take 16))

/-- One lower-case hex digit. -/
def hex_digit (n : Nat) : Char := "0123456789abcdef".toList.getD n '0'

/-- The eight hex digits of a word. -/
def hex_word (n : Nat) : List Char :=
  (List.range 8).reverse.map fun i => hex_digit ((n >>> (4 * i)) % 16)

/-- The hex digits of the digest of a byte sequence. -/
def digest (m : List Nat) : List Char :=
  let ws := words (pad m)
  let s := blocks (ws.length / 16) ws initial
  [s.a, s.b, s.c, s.d, s.e, s.f, s.g, s.h].flatMap hex_word

/-- `hashlib.sha256(s.encode("utf-8")).hexdigest()`. -/
def hexdigest (s : String) : String :=
  String.ofList (digest (s.toUTF8.toList.map UInt8.toNat))

theorem hex_digit_mem (n : Nat) : hex_digit n ∈ "0123456789abcdef".toList := by
  unfold hex_digit
  rw [List.getD_eq_getElem?_getD]
  rcases h : "0123456789abcdef".toList[n]? with _ | c
  · decide
  · exact List.mem_of_getElem? h

theorem hex_word_length (n : Nat) : (hex_word n).length = 8 := by
  simp [hex_word]

theorem digest_length (m : List Nat) : (digest m).length = 64 := by
  simp [digest, hex_word_length]

theorem digest_hex (m : List Nat) : ∀ c ∈ digest m, c ∈ "0123456789abcdef".toList := by
  intro c hc
  simp only [digest, List.mem_flatMap] at hc
  obtain ⟨w, -, hw⟩ := hc
  simp only [hex_word, List.mem_map] at hw
  obtain ⟨i, -, rfl⟩ := hw
  exact hex_digit_mem _

/-- A digest is 64 lower-case hex digits. -/
theorem is_lower_hex_hexdigest (s : String) : PyText.is_lower_hex (hexdigest s) 64 = true := by
  have h := digest_hex (s.toUTF8.toList.map UInt8.toNat)
  simp only [PyText.is_lower_hex, hexdigest, String.toList_ofList, digest_length]
  simp only [beq_self_eq_true, Bool.true_and, List.all_eq_true, List.contains_iff_mem]
  exact h

/-- A digest is not empty. -/
theorem hexdigest_ne_empty (s : String) : hexdigest s ≠ "" := by
  intro h
  have hlen := digest_length (s.toUTF8.toList.map UInt8.toNat)
  have hnil : digest (s.toUTF8.toList.map UInt8.toNat) = [] := by
    have := congrArg String.toList h
    simpa [hexdigest] using this
  rw [hnil] at hlen
  cases hlen

example : hexdigest "abc" = "ba7816bf8f01cfea414140de5dae2223b00361a396177a9cb410ff61f20015ad" := by
  decide +kernel

/-! ### Evaluation

    The compression once more in the primitive operations on `Nat`, which the
    kernel evaluates at once, and the bytes of a text in one pass: digests of
    fixed texts are computed with these. -/

namespace Primitive

def rotr (x n : Nat) : Nat :=
  Nat.lor (Nat.shiftRight x n) (Nat.mod (Nat.shiftLeft x (Nat.sub 32 n)) 4294967296)

def round (s : Words) (kw : Nat × Nat) : Words :=
  match s, kw with
  | ⟨a, b, c, d, e, f, g, h⟩, (k, w) =>
    let s1 := Nat.xor (Nat.xor (rotr e 6) (rotr e 11)) (rotr e 25)
    let ch := Nat.xor (Nat.land e f) (Nat.land (Nat.sub 4294967295 e) g)
    let t1 := Nat.mod (Nat.add (Nat.add (Nat.add (Nat.add h s1) ch) k) w) 4294967296
    let s0 := Nat.xor (Nat.xor (rotr a 2) (rotr a 13)) (rotr a 22)
    let mj := Nat.xor (Nat.xor (Nat.land a b) (Nat.land a c)) (Nat.land b c)
    ⟨Nat.mod (Nat.add t1 (Nat.mod (Nat.add s0 mj) 4294967296)) 4294967296, a, b, c,
      Nat.mod (Nat.add d t1) 4294967296, e, f, g⟩

def extend : Nat → List Nat → List Nat
  | 0, w     => w
  | n + 1, w =>
    let w15 := w.getD 14 0
    let w2  := w.getD 1 0
    let s0 := Nat.xor (Nat.xor (rotr w15 7) (rotr w15 18)) (Nat.shiftRight w15 3)
    let s1 := Nat.xor (Nat.xor (rotr w2 17) (rotr w2 19)) (Nat.shiftRight w2 10)
    extend n (Nat.mod (Nat.add (Nat.add (Nat.add (w.getD 15 0) s0) (w.getD 6 0)) s1) 4294967296
      :: w)

def compress (s : Words) (block : List Nat) : Words :=
  let t := (k.zip (extend 48 block.reverse).reverse).foldl round s
  ⟨Nat.mod (Nat.add s.a t.a) 4294967296, Nat.mod (Nat.add s.b t.b) 4294967296,
    Nat.mod (Nat.add s.c t.c) 4294967296, Nat.mod (Nat.add s.d t.d) 4294967296,
    Nat.mod (Nat.add s.e t.e) 4294967296, Nat.mod (Nat.add s.f t.f) 4294967296,
    Nat.mod (Nat.add s.g t.g) 4294967296, Nat.mod (Nat.add s.h t.h) 4294967296⟩

def blocks : Nat → List Nat → Words → Words
  | 0, _, s      => s
  | n + 1, ws, s => blocks n (ws.drop 16) (compress s (ws.take 16))

/-- `Sha256.digest`, on primitive operations. -/
def digest (m : List Nat) : List Char :=
  let ws := words (pad m)
  let s := blocks (ws.length / 16) ws initial
  [s.a, s.b, s.c, s.d, s.e, s.f, s.g, s.h].flatMap hex_word

theorem round_eq : Sha256.round = round := rfl

theorem extend_eq (n : Nat) (w : List Nat) : Sha256.extend n w = extend n w := by
  induction n generalizing w with
  | zero => rfl
  | succ n ih =>
    rw [Sha256.extend, ih]
    rfl

theorem compress_eq (s : Words) (block : List Nat) :
    Sha256.compress s block = compress s block := by
  unfold Sha256.compress compress
  rw [extend_eq, round_eq]
  rfl

theorem blocks_eq (n : Nat) (ws : List Nat) (s : Words) :
    Sha256.blocks n ws s = blocks n ws s := by
  induction n generalizing ws s with
  | zero => rfl
  | succ n ih => rw [Sha256.blocks, ih, compress_eq, blocks]

theorem digest_eq (m : List Nat) : Sha256.digest m = digest m := by
  simp only [Sha256.digest, digest, blocks_eq]

end Primitive

theorem byte_list_loop (bs : ByteArray) (i : Nat) (r : List UInt8) :
    ByteArray.toList.loop bs i r = r.reverse ++ bs.data.toList.drop i := by
  fun_induction ByteArray.toList.loop bs i r with
  | case1 i r hlt ih =>
    have hsize : i < bs.data.toList.length := by simpa using hlt
    have hget : bs.get! i = bs.data.toList[i] := getElem!_pos bs.data i hlt
    rw [ih, List.drop_eq_getElem_cons hsize, hget, List.reverse_cons, List.append_assoc]
    rfl
  | case2 i r hge =>
    have hsize : bs.data.toList.length ≤ i := by simpa using hge
    rw [List.drop_eq_nil_of_le hsize, List.append_nil]

/-- The bytes of a text, character by character. -/
theorem utf8_bytes (cs : List Char) :
    (String.ofList cs).toUTF8.toList = cs.flatMap String.utf8EncodeChar := by
  have h : (String.ofList cs).toUTF8 = (cs.flatMap String.utf8EncodeChar).toByteArray := rfl
  rw [h, ByteArray.toList, byte_list_loop, List.toList_data_toByteArray]
  rfl

theorem hexdigest_ofList (cs : List Char) : hexdigest (String.ofList cs) =
    String.ofList (Primitive.digest ((cs.flatMap String.utf8EncodeChar).map UInt8.toNat)) := by
  rw [hexdigest, utf8_bytes, Primitive.digest_eq]

end Sha256

/-- `canonical_json_digest(value)`. -/
def canonical_json_digest (value : Json) : String :=
  Sha256.hexdigest value.dumps

theorem canonical_json_digest_eq (value : Json) : canonical_json_digest value =
    String.ofList (Sha256.Primitive.digest
      (((Json.dump_chars value).flatMap String.utf8EncodeChar).map UInt8.toNat)) :=
  Sha256.hexdigest_ofList _

theorem canonical_json_digest_ne_empty (value : Json) : canonical_json_digest value ≠ "" :=
  Sha256.hexdigest_ne_empty _

theorem is_lower_hex_canonical_json_digest (value : Json) :
    PyText.is_lower_hex (canonical_json_digest value) 64 = true :=
  Sha256.is_lower_hex_hexdigest _
