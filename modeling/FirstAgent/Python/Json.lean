import Mathlib.Data.String.Basic
import FirstAgent.Python.Text

/-! # JSON Values

    Values of `json`, and objects read as Python dicts.  A `JsonDict` is a
    frozen object (`_freeze_json_dict`): its members stand in key order, the
    one order two equal dicts share, with frozen values.

    A float is named by its `repr`, the text Python prints and reads back as
    that very double. -/

/-- A JSON value. -/
inductive Json where
  | null
  | bool (b : Bool)
  | int (i : Int)
  | float (repr : String)
  | str (s : String)
  | arr (items : List Json)
  | obj (members : List (String × Json))
  deriving Repr

namespace Json

mutual

/-- Equality of values. -/
def decEq : (a b : Json) → Decidable (a = b)
  | .null, b => match b with
    | .null => isTrue rfl
    | .bool _ | .int _ | .float _ | .str _ | .arr _ | .obj _ => isFalse (by simp)
  | .bool x, b => match b with
    | .bool y => if h : x = y then isTrue (by rw [h]) else isFalse (by simpa using h)
    | .null | .int _ | .float _ | .str _ | .arr _ | .obj _ => isFalse (by simp)
  | .int x, b => match b with
    | .int y => if h : x = y then isTrue (by rw [h]) else isFalse (by simpa using h)
    | .null | .bool _ | .float _ | .str _ | .arr _ | .obj _ => isFalse (by simp)
  | .float x, b => match b with
    | .float y => if h : x = y then isTrue (by rw [h]) else isFalse (by simpa using h)
    | .null | .bool _ | .int _ | .str _ | .arr _ | .obj _ => isFalse (by simp)
  | .str x, b => match b with
    | .str y => if h : x = y then isTrue (by rw [h]) else isFalse (by simpa using h)
    | .null | .bool _ | .int _ | .float _ | .arr _ | .obj _ => isFalse (by simp)
  | .arr x, b => match b with
    | .arr y => match decEqItems x y with
      | isTrue h  => isTrue (by rw [h])
      | isFalse h => isFalse (by simpa using h)
    | .null | .bool _ | .int _ | .float _ | .str _ | .obj _ => isFalse (by simp)
  | .obj x, b => match b with
    | .obj y => match decEqMembers x y with
      | isTrue h  => isTrue (by rw [h])
      | isFalse h => isFalse (by simpa using h)
    | .null | .bool _ | .int _ | .float _ | .str _ | .arr _ => isFalse (by simp)

/-- Equality of array items. -/
def decEqItems : (a b : List Json) → Decidable (a = b)
  | [], []           => isTrue rfl
  | [], _ :: _       => isFalse (by simp)
  | _ :: _, []       => isFalse (by simp)
  | x :: xs, y :: ys => match decEq x y with
    | isFalse h => isFalse (by simp [h])
    | isTrue h  => match decEqItems xs ys with
      | isTrue h'  => isTrue (by rw [h, h'])
      | isFalse h' => isFalse (by simp [h'])

/-- Equality of object members. -/
def decEqMembers : (a b : List (String × Json)) → Decidable (a = b)
  | [], []                     => isTrue rfl
  | [], _ :: _                 => isFalse (by simp)
  | _ :: _, []                 => isFalse (by simp)
  | (k, x) :: xs, (l, y) :: ys =>
    if hk : k = l then
      match decEq x y with
      | isFalse h => isFalse (by simp [h])
      | isTrue h  => match decEqMembers xs ys with
        | isTrue h'  => isTrue (by rw [hk, h, h'])
        | isFalse h' => isFalse (by simp [h'])
    else isFalse (by simp [hk])

end

instance : DecidableEq Json := decEq

end Json

/-! ### Frozen values

    `_freeze_json`: every object becomes the one list of members that stands
    for its dict, in key order, a later member replacing an earlier one. -/

namespace Json

/-- `k in members`. -/
def has_key (k : String) : List (String × Json) → Bool
  | []     => false
  | m :: d => m.1 = k || has_key k d

/-- The value of a key; null when it is missing. -/
def lookup (k : String) : List (String × Json) → Json
  | []     => .null
  | m :: d => if m.1 = k then m.2 else lookup k d

/-- Insert a member before the first greater key. -/
def insert (k : String) (v : Json) : List (String × Json) → List (String × Json)
  | []     => [(k, v)]
  | m :: d => if k < m.1 then (k, v) :: m :: d else m :: insert k v d

mutual

/-- `_freeze_json`. -/
def freeze : Json → Json
  | .null    => .null
  | .bool b  => .bool b
  | .int i   => .int i
  | .float r => .float r
  | .str s   => .str s
  | .arr xs  => .arr (freeze_items xs)
  | .obj d   => .obj (freeze_members d)

/-- `_freeze_json` of array items. -/
def freeze_items : List Json → List Json
  | []      => []
  | x :: xs => freeze x :: freeze_items xs

/-- `_freeze_json` of object members. -/
def freeze_members : List (String × Json) → List (String × Json)
  | []          => []
  | (k, v) :: d => if has_key k d then freeze_members d else insert k (freeze v) (freeze_members d)

end

-- the equations of the mutual recursion are made once, ahead of the lemmas that read them
attribute [local simp] freeze in
theorem freeze_items_eq_map (xs : List Json) : freeze_items xs = xs.map freeze := by
  induction xs with
  | nil => rfl
  | cons x xs ih => rw [freeze_items, ih, List.map_cons]

@[simp] theorem freeze_null : freeze .null = .null := by rw [freeze]
@[simp] theorem freeze_bool (b : Bool) : freeze (.bool b) = .bool b := by rw [freeze]
@[simp] theorem freeze_int (i : Int) : freeze (.int i) = .int i := by rw [freeze]
@[simp] theorem freeze_float (r : String) : freeze (.float r) = .float r := by rw [freeze]
@[simp] theorem freeze_str (s : String) : freeze (.str s) = .str s := by rw [freeze]
@[simp] theorem freeze_arr (xs : List Json) : freeze (.arr xs) = .arr (xs.map freeze) := by
  rw [freeze, freeze_items_eq_map]
@[simp] theorem freeze_obj (d : List (String × Json)) :
    freeze (.obj d) = .obj (freeze_members d) := by rw [freeze]

/-! The members of a frozen object have increasing keys and frozen values. -/

theorem has_key_insert {k l : String} {v : Json} {d : List (String × Json)} :
    has_key l (insert k v d) = (decide (k = l) || has_key l d) := by
  induction d with
  | nil => simp [insert, has_key]
  | cons m d ih =>
    unfold insert
    split
    · simp [has_key]
    · simp only [has_key, ih]
      exact Bool.or_left_comm _ _ _

theorem has_key_freeze_members {k : String} {d : List (String × Json)} :
    has_key k (freeze_members d) = has_key k d := by
  induction d with
  | nil => rfl
  | cons m d ih =>
    obtain ⟨l, v⟩ := m
    rw [freeze_members]
    split
    · next h =>
      rw [ih, has_key]
      by_cases hl : l = k
      · subst hl
        simp [h]
      · simp [hl]
    · rw [has_key_insert, ih, has_key]

/-- Keys strictly increase. -/
def increasing (d : List (String × Json)) : Prop := d.Pairwise fun m n => m.1 < n.1

theorem mem_insert {k : String} {v : Json} {m : String × Json} {d : List (String × Json)} :
    m ∈ insert k v d ↔ m = (k, v) ∨ m ∈ d := by
  induction d with
  | nil => simp [insert]
  | cons n d ih =>
    unfold insert
    split
    · simp
    · simp only [List.mem_cons, ih]
      exact or_left_comm

theorem increasing_insert {k : String} {v : Json} {d : List (String × Json)}
    (hd : increasing d) (hk : has_key k d = false) : increasing (insert k v d) := by
  induction d with
  | nil => simp [insert, increasing]
  | cons m d ih =>
    obtain ⟨hm, hd⟩ := List.pairwise_cons.mp hd
    simp only [has_key, Bool.or_eq_false_iff, decide_eq_false_iff_not] at hk
    unfold insert
    split
    · next hlt =>
      refine List.pairwise_cons.mpr ⟨?_, List.pairwise_cons.mpr ⟨hm, hd⟩⟩
      intro n hn
      rcases List.mem_cons.mp hn with rfl | hn
      · exact hlt
      · exact lt_trans hlt (hm n hn)
    · next hlt =>
      refine List.pairwise_cons.mpr ⟨?_, ih hd hk.2⟩
      intro n hn
      rcases mem_insert.mp hn with rfl | hn
      · exact lt_of_le_of_ne (not_lt.mp hlt) hk.1
      · exact hm n hn

theorem increasing_freeze_members (d : List (String × Json)) : increasing (freeze_members d) := by
  induction d with
  | nil => simp [freeze_members, increasing]
  | cons m d ih =>
    obtain ⟨k, v⟩ := m
    rw [freeze_members]
    split
    · exact ih
    · next h => exact increasing_insert ih (by rw [has_key_freeze_members]; simpa using h)

theorem has_key_eq_false {k : String} {d : List (String × Json)} :
    has_key k d = false ↔ ∀ m ∈ d, m.1 ≠ k := by
  induction d with
  | nil => simp [has_key]
  | cons m d ih => simp [has_key, ih]

/-- Increasing members with frozen values are frozen. -/
theorem freeze_members_of_increasing {d : List (String × Json)} (hd : increasing d)
    (hv : ∀ m ∈ d, freeze m.2 = m.2) : freeze_members d = d := by
  induction d with
  | nil => rfl
  | cons m d ih =>
    obtain ⟨hm, hd⟩ := List.pairwise_cons.mp hd
    have hrest := ih hd fun n hn => hv n (List.mem_cons_of_mem _ hn)
    have hfresh : has_key m.1 d = false :=
      has_key_eq_false.mpr fun n hn h => absurd (hm n hn) (by rw [h]; exact lt_irrefl _)
    have hself : freeze m.2 = m.2 := hv m List.mem_cons_self
    obtain ⟨k, v⟩ := m
    rw [freeze_members, if_neg (by simpa using hfresh), hrest]
    simp only at hself
    rw [hself]
    cases d with
    | nil => rfl
    | cons n d => rw [insert, if_pos (hm n List.mem_cons_self)]

mutual

/-- Freezing twice is freezing once. -/
theorem freeze_freeze : ∀ j : Json, freeze (freeze j) = freeze j
  | .null    => by simp
  | .bool _  => by simp
  | .int _   => by simp
  | .float _ => by simp
  | .str _   => by simp
  | .arr xs  => by
    have h := freeze_freeze_items xs
    simp only [freeze_arr, List.map_map]
    congr 1
    exact List.map_congr_left h
  | .obj d   => by
    simp only [freeze_obj]
    congr 1
    exact freeze_members_of_increasing (increasing_freeze_members d) (frozen_values d)

theorem freeze_freeze_items : ∀ xs : List Json, ∀ x ∈ xs, freeze (freeze x) = freeze x
  | [],      _, h => absurd h List.not_mem_nil
  | x :: xs, y, h => by
    rcases List.mem_cons.mp h with hx | h
    · rw [hx]
      exact freeze_freeze x
    · exact freeze_freeze_items xs y h

/-- The values of frozen members are frozen. -/
theorem frozen_values : ∀ d : List (String × Json), ∀ m ∈ freeze_members d, freeze m.2 = m.2
  | [],          m, h => absurd h (by simp [freeze_members])
  | (k, v) :: d, m, h => by
    rw [freeze_members] at h
    split at h
    · exact frozen_values d m h
    · rcases mem_insert.mp h with rfl | h
      · exact freeze_freeze v
      · exact frozen_values d m h

end

theorem freeze_members_freeze_members (d : List (String × Json)) :
    freeze_members (freeze_members d) = freeze_members d :=
  freeze_members_of_increasing (increasing_freeze_members d) (frozen_values d)

theorem lookup_insert {k l : String} {v : Json} {d : List (String × Json)}
    (hk : has_key k d = false) : lookup l (insert k v d) = if k = l then v else lookup l d := by
  induction d with
  | nil => simp [insert, lookup]
  | cons m d ih =>
    simp only [has_key, Bool.or_eq_false_iff, decide_eq_false_iff_not] at hk
    unfold insert
    split
    · simp [lookup]
    · simp only [lookup, ih hk.2]
      by_cases hl : m.1 = l
      · have : ¬ k = l := fun h => hk.1 (hl.trans h.symm)
        simp [hl, this]
      · simp [hl]

end Json

/-! ### Objects as dicts -/

/-- A dict of JSON values: the frozen members of an object. -/
structure JsonDict where
  members : List (String × Json)
  frozen : Json.freeze_members members = members

namespace JsonDict

@[ext] theorem ext {d e : JsonDict} (h : d.members = e.members) : d = e := by
  cases d
  cases e
  cases h
  rfl

instance : DecidableEq JsonDict := fun d e =>
  if h : d.members = e.members then isTrue (ext h) else isFalse fun h' => h (h' ▸ rfl)

instance : Repr JsonDict := ⟨fun d => reprPrec d.members⟩

/-- The dict of a literal: a later member replaces an earlier one. -/
def of (members : List (String × Json)) : JsonDict :=
  ⟨Json.freeze_members members, Json.freeze_members_freeze_members members⟩

/-- `d.get(k)`; `None` when the key is missing. -/
def get (d : JsonDict) (k : String) : Json := Json.lookup k d.members

/-- `k in d`. -/
def has (d : JsonDict) (k : String) : Bool := Json.has_key k d.members

/-- `not d`. -/
def is_empty (d : JsonDict) : Bool := d.members.isEmpty

/-- The keys of a dict. -/
def keys (d : JsonDict) : List String := d.members.map Prod.fst

/-- `{**d, **e}`. -/
def update (d : JsonDict) (members : List (String × Json)) : JsonDict := of (d.members ++ members)

/-- `d.pop(k, None)` as the remaining dict. -/
def erase (d : JsonDict) (k : String) : JsonDict := of (d.members.filter fun m => m.1 ≠ k)

@[simp] theorem get_of_nil (k : String) : (of []).get k = .null := rfl

/-- Reading a literal member by member. -/
@[simp] theorem get_of_cons (k l : String) (v : Json) (ms : List (String × Json)) :
    (of ((k, v) :: ms)).get l =
      if k = l ∧ Json.has_key l ms = false then v.freeze else (of ms).get l := by
  unfold get of
  simp only [Json.freeze_members]
  by_cases hk : Json.has_key k ms
  · rw [if_pos hk]
    by_cases hl : k = l
    · subst hl
      simp [hk]
    · simp [hl]
  · rw [if_neg hk, Json.lookup_insert (by rw [Json.has_key_freeze_members]; simpa using hk)]
    by_cases hl : k = l
    · subst hl
      simp [hk]
    · simp [hl]

/-- Reading a literal that names every key once. -/
theorem get_of_nodup {ms : List (String × Json)} (h : (ms.map Prod.fst).Nodup) (l : String) :
    (of ms).get l = (Json.lookup l ms).freeze := by
  induction ms with
  | nil => rfl
  | cons m ms ih =>
    obtain ⟨k, v⟩ := m
    simp only [List.map_cons, List.nodup_cons] at h
    rw [get_of_cons, Json.lookup]
    by_cases hk : k = l
    · subst hk
      have hkey : Json.has_key k ms = false := Json.has_key_eq_false.mpr fun m hm heq =>
        h.1 (heq ▸ List.mem_map_of_mem hm)
      simp [hkey]
    · simp [hk, ih h.2]

theorem increasing_members (d : JsonDict) : Json.increasing d.members := by
  rw [← d.frozen]
  exact Json.increasing_freeze_members d.members

theorem frozen_values (d : JsonDict) : ∀ m ∈ d.members, m.2.freeze = m.2 := by
  rw [← d.frozen]
  exact Json.frozen_values d.members

/-- Part of a frozen object is frozen. -/
theorem freeze_filter (d : JsonDict) (keep : String × Json → Bool) :
    Json.freeze_members (d.members.filter keep) = d.members.filter keep :=
  Json.freeze_members_of_increasing (d.increasing_members.filter _)
    fun m hm => d.frozen_values m (List.mem_of_mem_filter hm)

/-- Erasing a key leaves the other keys. -/
theorem get_erase_of_ne {d : JsonDict} {k l : String} (h : l ≠ k) :
    (d.erase k).get l = d.get l := by
  have hmembers : (d.erase k).members = d.members.filter fun m => m.1 ≠ k := freeze_filter d _
  unfold get
  rw [hmembers]
  induction d.members with
  | nil => rfl
  | cons m ms ih =>
    by_cases hm : m.1 = k
    · have hl : ¬ m.1 = l := fun hl => h (hl.symm.trans hm)
      simpa [Json.lookup, hm, Ne.symm h] using ih
    · simp only [ne_eq, hm, not_false_eq_true, decide_true, List.filter_cons_of_pos, Json.lookup]
      rw [← ih]

end JsonDict

namespace Json

/-! ### Reading values -/

/-- A dict as a value. -/
def dict (d : JsonDict) : Json := .obj d.members

/-- The text of a string value. -/
def str? : Json → Option String
  | .str s => some s
  | _      => none

/-- The dict of an object. -/
def obj? : Json → Option JsonDict
  | .obj d => some (JsonDict.of d)
  | _      => none

/-- The items of an array. -/
def arr? : Json → Option (List Json)
  | .arr xs => some xs
  | _       => none

/-- `bool(value)`. -/
def truthy : Json → Bool
  | .null    => false
  | .bool b  => b
  | .int i   => i ≠ 0
  | .float r => r ≠ "0.0" && r ≠ "-0.0"
  | .str s   => s ≠ ""
  | .arr xs  => !xs.isEmpty
  | .obj d   => !d.isEmpty

/-- `tuple(value)`. -/
def tuple_items : Json → Py (List Json)
  | .arr xs => .ok xs
  | .str s  => .ok (s.toList.map fun c => .str (String.singleton c))
  | .obj d  => .ok (d.map fun m => .str m.1)
  | _       => .error (.type_error "object is not iterable")

/-- `value in {…}` raises on an unhashable value. -/
def require_hashable : Json → Py Unit
  | .arr _ => .error (.type_error "unhashable type: 'FrozenJSONList'")
  | .obj _ => .error (.type_error "unhashable type: 'FrozenJSONDict'")
  | _      => .ok ()

@[simp] theorem str?_eq_some {j : Json} {s : String} : j.str? = some s ↔ j = .str s := by
  cases j <;> simp [str?]

@[simp] theorem arr?_eq_some {j : Json} {xs : List Json} : j.arr? = some xs ↔ j = .arr xs := by
  cases j <;> simp [arr?]

@[simp] theorem freeze_dict (d : JsonDict) : freeze (dict d) = dict d := by
  rw [dict, freeze_obj, d.frozen]

@[simp] theorem obj?_dict (d : JsonDict) : (dict d).obj? = some d := by
  simp only [dict, obj?, JsonDict.of, d.frozen]

/-- Optional text as a value: `None` is null. -/
def opt_str : Option String → Json
  | some s => .str s
  | none   => .null

/-- Optional integers as a value: `None` is null. -/
def opt_int : Option Int → Json
  | some i => .int i
  | none   => .null

/-- A list of texts as a value. -/
def strs (xs : List String) : Json := .arr (xs.map .str)

@[simp] theorem freeze_opt_str (o : Option String) : freeze (opt_str o) = opt_str o := by
  cases o <;> simp [opt_str]

@[simp] theorem freeze_opt_int (o : Option Int) : freeze (opt_int o) = opt_int o := by
  cases o <;> simp [opt_int]

@[simp] theorem freeze_strs (xs : List String) : freeze (strs xs) = strs xs := by
  simp [strs]

end Json

namespace Json

/-! ### Canonical text

    `json.dumps(value, sort_keys=True, separators=(",", ":"),
    ensure_ascii=False)`. -/

/-- Escape of one code point inside a JSON string. -/
def escape_char (c : Char) : List Char :=
  let n := c.toNat
  if c = '"' then ['\\', '"']
  else if c = '\\' then ['\\', '\\']
  else if n = 10 then ['\\', 'n']
  else if n = 13 then ['\\', 'r']
  else if n = 9 then ['\\', 't']
  else if n = 12 then ['\\', 'f']
  else if n = 8 then ['\\', 'b']
  else if n < 32 then
    ['\\', 'u', '0', '0', (if n < 16 then '0' else '1'),
      "0123456789abcdef".toList.getD (n % 16) '0']
  else [c]

/-- A JSON string literal. -/
def dump_str (s : String) : List Char :=
  '"' :: s.toList.flatMap escape_char ++ ['"']

/-- Insert a rendered member by key. -/
def insert_member (m : String × List Char) : List (String × List Char) → List (String × List Char)
  | []      => [m]
  | x :: xs => if m.1 < x.1 then m :: x :: xs else x :: insert_member m xs

/-- Join rendered parts with commas. -/
def join_commas : List (List Char) → List Char
  | []      => []
  | [x]     => x
  | x :: xs => x ++ ',' :: join_commas xs

mutual

/-- The text of a value. -/
def dump_chars : Json → List Char
  | .null    => ['n', 'u', 'l', 'l']
  | .bool b  => if b then ['t', 'r', 'u', 'e'] else ['f', 'a', 'l', 's', 'e']
  | .int i   => (toString i).toList
  | .float r => r.toList
  | .str s   => dump_str s
  | .arr xs  => '[' :: join_commas (dump_items xs) ++ [']']
  | .obj d   =>
    let members := (dump_members d).foldr insert_member []
    '{' :: join_commas (members.map fun m => dump_str m.1 ++ ':' :: m.2) ++ ['}']

/-- The texts of array items. -/
def dump_items : List Json → List (List Char)
  | []      => []
  | x :: xs => dump_chars x :: dump_items xs

/-- The members of an object with their texts. -/
def dump_members : List (String × Json) → List (String × List Char)
  | []          => []
  | (k, v) :: d => (k, dump_chars v) :: dump_members d

end

/-- The canonical text of a value. -/
def dumps (j : Json) : String := String.ofList (dump_chars j)

end Json
