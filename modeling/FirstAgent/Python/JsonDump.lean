import FirstAgent.Python.Json

/-! # Writing JSON Documents

    `json.dumps(value, sort_keys=True, ensure_ascii=False)` with the default
    separators: the text the stores write and measure, and the keys and
    members of the dict literals they write. -/

namespace Json

/-- `", ".join(parts)`. -/
def join_spaced : List (List Char) → List Char
  | []      => []
  | [x]     => x
  | x :: xs => x ++ ',' :: ' ' :: join_spaced xs

mutual

/-- The text of a value. -/
def text_chars : Json → List Char
  | .arr xs => '[' :: join_spaced (text_items xs) ++ [']']
  | .obj d  =>
    let members := (text_members d).foldr insert_member []
    '{' :: join_spaced (members.map fun m => dump_str m.1 ++ ':' :: ' ' :: m.2) ++ ['}']
  | j       => dump_chars j

/-- The texts of array items. -/
def text_items : List Json → List (List Char)
  | []      => []
  | x :: xs => text_chars x :: text_items xs

/-- The members of an object with their texts. -/
def text_members : List (String × Json) → List (String × List Char)
  | []          => []
  | (k, v) :: d => (k, text_chars v) :: text_members d

end

/-- The text of a value. -/
def text (j : Json) : String := String.ofList (text_chars j)

example : text (.obj [("b", .arr [.int 1, .null]), ("a", .str "x")]) =
    "\x7b\"a\": \"x\", \"b\": [1, null]\x7d" := by
  decide +kernel

end Json

/-! ### Dict literals -/

namespace JsonDict

/-- A literal that names every key once has these keys. -/
theorem keys_of_nodup {ms : List (String × Json)} (h : (ms.map Prod.fst).Nodup) :
    (of ms).keys.Perm (ms.map Prod.fst) := by
  induction ms with
  | nil => exact List.Perm.nil
  | cons m ms ih =>
    obtain ⟨k, v⟩ := m
    obtain ⟨hfresh, hrest⟩ := List.nodup_cons.mp h
    have hkey : Json.has_key k ms = false := by
      refine Json.has_key_eq_false.mpr fun n hn heq => hfresh ?_
      rw [← heq]
      exact List.mem_map.mpr ⟨n, hn, rfl⟩
    have hinsert : ∀ d : List (String × Json),
        ((Json.insert k v.freeze d).map Prod.fst).Perm (k :: d.map Prod.fst) := by
      intro d
      induction d with
      | nil => exact List.Perm.refl _
      | cons n d ihd =>
        unfold Json.insert
        split
        · exact List.Perm.refl _
        · exact (ihd.cons n.1).trans (List.Perm.swap k n.1 _)
    have hmembers : (of ((k, v) :: ms)).members =
        Json.insert k v.freeze (of ms).members := by
      simp [of, Json.freeze_members, hkey]
    have hkeys : (of ((k, v) :: ms)).keys =
        (Json.insert k v.freeze (of ms).members).map Prod.fst := by
      rw [keys, hmembers]
    rw [hkeys]
    exact (hinsert _).trans ((ih hrest).cons k)

/-- A literal with increasing keys and frozen values has these members. -/
theorem members_of_increasing {ms : List (String × Json)} (hkeys : Json.increasing ms)
    (hvalues : ∀ m ∈ ms, m.2.freeze = m.2) : (of ms).members = ms :=
  Json.freeze_members_of_increasing hkeys hvalues

end JsonDict
