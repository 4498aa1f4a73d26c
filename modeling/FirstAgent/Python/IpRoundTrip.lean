import FirstAgent.Python.IpText

/-! # Addresses Written and Read

    The text of an address is read back as the address: `ip_address_v6_text` for
    the eight hextets of an IPv6 address with any scope, `ip_address_compressed`
    for every address that was read from a text. -/

open PyText

namespace IpAddress

/-! ### IPv6 texts -/

theorem hextets_lt {ip n : Nat} (h : n ∈ hextets ip) : n < 65536 := by
  simp only [hextets, List.mem_cons, List.not_mem_nil, or_false] at h
  rcases h with rfl | rfl | rfl | rfl | rfl | rfl | rfl | rfl <;> omega

theorem join_hextets {ip : Nat} (h : ip < 2 ^ 128) : join_digits 65536 (hextets ip) = ip := by
  simp only [join_digits, hextets, List.foldl_cons, List.foldl_nil]
  omega

theorem mapM_hextets (ns : List Nat) (h : ∀ n ∈ ns, n < 65536) :
    (ns.map hex).mapM parse_hextet = some ns := by
  induction ns with
  | nil => rfl
  | cons n ns ih =>
    have hn := parse_hextet_hex (h n List.mem_cons_self)
    have hns := ih fun m hm => h m (List.mem_cons_of_mem _ hm)
    simp [hn, hns]

/-- A part of an IPv6 text: empty, or a hexadecimal number. -/
theorem compress_hextets_parts {ns : List Nat} {part : List Char}
    (h : part ∈ compress_hextets (ns.map hex)) : part = [] ∨ ∃ n, part = hex n := by
  have hhex : ∀ p ∈ ns.map hex, ∃ n, p = hex n := by
    intro p hp
    obtain ⟨n, -, rfl⟩ := List.mem_map.mp hp
    exact ⟨n, rfl⟩
  rcases compress_hextets_cases (ns.map hex) with heq | ⟨hi, lo, len, -, hparts, heq⟩
  · rw [heq] at h
    exact .inr (hhex part h)
  · rw [hparts] at hhex
    rw [heq, with_skip] at h
    simp only [List.mem_append, List.mem_cons] at h
    rcases h with hin | hempty | hin
    · split at hin
      · exact .inl (List.mem_singleton.mp hin)
      · exact .inr (hhex part (by simp [hin]))
    · exact .inl hempty
    · split at hin
      · exact .inl (List.mem_singleton.mp hin)
      · exact .inr (hhex part (by simp [hin]))

/-- An IPv6 text holds hexadecimal digits and colons. -/
theorem mem_v6_text {ip : Nat} {c : Char} (h : c ∈ v6_text ip) :
    c ∈ "0123456789abcdef:".toList := by
  have hdigits : ∀ d ∈ "0123456789abcdef".toList, d ∈ "0123456789abcdef:".toList :=
    forall_mem_of_all (by decide)
  rcases mem_intercalate h with rfl | ⟨part, hpart, hc⟩
  · decide
  · rcases compress_hextets_parts hpart with rfl | ⟨n, rfl⟩
    · cases hc
    · exact hdigits c (mem_hex hc)

/-- The parts around `::`, taken off the two ends. -/
theorem with_skip_shape {hi lo : List (List Char)} (hcount : hi.length + lo.length ≤ 6) :
    (with_skip hi lo).take hi.length = hi ∧
      (with_skip hi lo).drop ((with_skip hi lo).length - lo.length) = lo ∧
      3 ≤ (with_skip hi lo).length ∧ (with_skip hi lo).length ≤ 9 := by
  have hlength := with_skip_length hi lo
  have hhi : 1 ≤ (if hi = [] then 1 else hi.length) ∧
      (if hi = [] then 1 else hi.length) ≤ hi.length + 1 := by
    split
    · omega
    · next hne => exact ⟨List.length_pos_iff.mpr hne, Nat.le_succ _⟩
  have hlo : 1 ≤ (if lo = [] then 1 else lo.length) ∧
      (if lo = [] then 1 else lo.length) ≤ lo.length + 1 := by
    split
    · omega
    · next hne => exact ⟨List.length_pos_iff.mpr hne, Nat.le_succ _⟩
  refine ⟨?_, ?_, ?_, ?_⟩
  · by_cases hnil : hi = []
    · simp [hnil]
    · rw [with_skip, if_neg hnil, List.take_left]
  · by_cases hnil : lo = []
    · rw [hnil, List.length_nil, Nat.sub_zero, List.drop_length]
    · have hsplit : with_skip hi lo = ((if hi = [] then [[]] else hi) ++ [[]]) ++ lo := by
        rw [with_skip, if_neg hnil, List.append_assoc, List.singleton_append]
      rw [hsplit, List.length_append, Nat.add_sub_cancel, List.drop_left]
  · rw [hlength]
    omega
  · rw [hlength]
    omega

/-- The compressed parts of eight hextets are laid out and read as the hextets. -/
theorem read_compressed {ns : List Nat} (hlength : ns.length = 8) (h : ∀ n ∈ ns, n < 65536) :
    let parts := compress_hextets (ns.map hex)
    3 ≤ parts.length ∧ parts.length ≤ 9 ∧
      ∃ l, layout parts = some l ∧ read_hextets parts l = some ns := by
  dsimp only
  have hne : ∀ part ∈ ns.map hex, part ≠ [] := by
    intro part hpart
    obtain ⟨n, -, rfl⟩ := List.mem_map.mp hpart
    exact hex_ne_nil n
  rcases compress_hextets_cases (ns.map hex) with heq | ⟨hi, lo, len, hlen, hparts, heq⟩
  · -- without `::` all eight parts are read
    have hcount : (ns.map hex).length = 8 := by simpa using hlength
    have hskip : skip_indices (ns.map hex) = [] := by
      refine List.filter_eq_nil_iff.mpr fun i hi => ?_
      have hlt := List.mem_range.mp hi
      rw [List.getElem?_eq_getElem hlt, Option.any_some]
      simp [hex_ne_nil]
    have hfirst : (ns.map hex).head?.any List.isEmpty = false := by
      cases hns : ns.map hex with
      | nil => rfl
      | cons part rest => simpa [hns] using hne part (by simp [hns])
    have hlast : (ns.map hex).getLast?.any List.isEmpty = false := by
      have hnil : ns.map hex ≠ [] := by
        intro hnil
        rw [hnil] at hcount
        cases hcount
      rw [List.getLast?_eq_some_getLast hnil]
      simpa using hne _ (List.getLast_mem hnil)
    rw [heq]
    refine ⟨by omega, by omega, { parts_hi := 8, parts_lo := 0 }, ?_, ?_⟩
    · rw [layout, hskip]
      simp only [full_layout, hcount, hfirst, hlast]
      rfl
    · have htake : (ns.map hex).take 8 = ns.map hex := List.take_of_length_le (by omega)
      have hdrop : (ns.map hex).drop ((ns.map hex).length - 0) = [] := List.drop_length
      simp only [read_hextets, htake, hdrop, mapM_hextets ns h]
      simp
  · obtain ⟨hns, los, hns_eq, hmap, hlo⟩ := List.map_eq_append_iff.mp hparts
    obtain ⟨his, zeros, hns_eq', hhi, hzeros⟩ := List.map_eq_append_iff.mp hmap
    have hzero : zeros = List.replicate len 0 := by
      refine List.eq_replicate_iff.mpr ⟨?_, fun n hn => ?_⟩
      · have hcount := congrArg List.length hzeros
        simpa using hcount
      · have hin : hex n ∈ List.replicate len ['0'] := by
          rw [← hzeros]
          exact List.mem_map_of_mem hn
        have hhex := (List.mem_replicate.mp hin).2
        have hlt : n < 65536 := h n (by simp [hns_eq, hns_eq', hn])
        have hread := parse_hextet_hex hlt
        rw [hhex] at hread
        exact (Option.some_inj.mp hread).symm
    have hsum : hi.length + len + lo.length = 8 := by
      have hcount := congrArg List.length hparts
      simp only [List.length_map, List.length_append, List.length_replicate] at hcount
      omega
    have hhi_ne : ∀ part ∈ hi, part ≠ [] := fun part hpart => hne part (by simp [hparts, hpart])
    have hlo_ne : ∀ part ∈ lo, part ≠ [] := fun part hpart => hne part (by simp [hparts, hpart])
    have hshape : (with_skip hi lo).take hi.length = hi ∧
        (with_skip hi lo).drop ((with_skip hi lo).length - lo.length) = lo ∧
        3 ≤ (with_skip hi lo).length ∧ (with_skip hi lo).length ≤ 9 :=
      with_skip_shape (by omega)
    obtain ⟨htake, hdrop, hshort, hlong⟩ := hshape
    rw [heq]
    refine ⟨hshort, hlong, _, layout_with_skip hhi_ne hlo_ne (by omega), ?_⟩
    have hread_hi := mapM_hextets his fun n hn => h n (by simp [hns_eq, hns_eq', hn])
    have hread_lo := mapM_hextets los fun n hn => h n (by simp [hns_eq, hn])
    rw [hhi] at hread_hi
    rw [hlo] at hread_lo
    simp only [read_hextets, htake, hdrop, hread_hi, hread_lo]
    rw [hns_eq, hns_eq', hzero, show 8 - (hi.length + lo.length) = len by omega]

/-- The text of the hextets of an address is read as the address. -/
theorem v6_from_string_text {ip : Nat} (h : ip < 2 ^ 128) : v6_from_string (v6_text ip) = some ip := by
  obtain ⟨hshort, hlong, l, hlayout, hread⟩ :=
    @read_compressed (hextets ip) rfl fun n hn => hextets_lt hn
  have hcolon : ∀ part ∈ compress_hextets ((hextets ip).map hex), ':' ∉ part := by
    intro part hpart hmem
    rcases compress_hextets_parts hpart with rfl | ⟨n, rfl⟩
    · cases hmem
    · exact absurd (mem_hex hmem) (by decide)
  have hne : compress_hextets ((hextets ip).map hex) ≠ [] := by
    intro hnil
    rw [hnil] at hshort
    simp at hshort
  have hsplit : split_chars ':' (v6_text ip) = compress_hextets ((hextets ip).map hex) :=
    split_chars_join hne hcolon
  have hquad : expand_quad (compress_hextets ((hextets ip).map hex))
      = some (compress_hextets ((hextets ip).map hex)) := by
    have hdot : '.' ∉ (compress_hextets ((hextets ip).map hex)).getLast hne := by
      intro hmem
      rcases compress_hextets_parts (List.getLast_mem hne) with hnil | ⟨n, hn⟩
      · rw [hnil] at hmem
        cases hmem
      · rw [hn] at hmem
        exact absurd (mem_hex hmem) (by decide)
    rw [expand_quad, List.getLast?_eq_some_getLast hne]
    dsimp only
    rw [if_neg hdot]
  rw [v6_from_string, hsplit, if_neg (by omega), hquad]
  dsimp only
  rw [if_neg (by omega), hlayout]
  dsimp only
  rw [hread, Option.map_some, join_hextets h]

theorem colon_mem_v6_text (ip : Nat) : ':' ∈ v6_text ip := by
  obtain ⟨hshort, -⟩ := @read_compressed (hextets ip) rfl fun n hn => hextets_lt hn
  unfold v6_text
  cases hparts : compress_hextets ((hextets ip).map hex) with
  | nil =>
    rw [hparts] at hshort
    simp at hshort
  | cons a rest =>
    cases rest with
    | nil =>
      rw [hparts] at hshort
      simp at hshort
    | cons b rest => exact sep_mem_intercalate

/-- A scope `IPv6Address` takes, in a text without `/`. -/
def ScopeOk (scope : Option (List Char)) : Prop :=
  ∀ s, scope = some s → s ≠ [] ∧ '%' ∉ s ∧ '/' ∉ s

/-- The text of an IPv6 address is read back as the address. -/
theorem ip_address_v6_text {ip : Nat} {scope : Option (List Char)} (h : ip < 2 ^ 128)
    (hscope : ScopeOk scope) : ip_address (compressed (.v6 ip scope)) = some (.v6 ip scope) := by
  have hpercent : '%' ∉ v6_text ip := fun hmem => absurd (mem_v6_text hmem) (by decide)
  have hslash : '/' ∉ v6_text ip := fun hmem => absurd (mem_v6_text hmem) (by decide)
  have hnotquad (cs : List Char) (hcs : ':' ∈ cs) : v4_from_string cs = none := by
    cases hquad : v4_from_string cs with
    | none => rfl
    | some ip =>
      rcases mem_v4_from_string hquad hcs with hdot | hdigit
      · cases hdot
      · exact absurd hdigit (by decide)
  cases scope with
  | none =>
    rw [compressed, ip_address, if_neg hslash, hnotquad _ (colon_mem_v6_text ip), v6_address,
      split_scope_id, partition_of_not_mem hpercent]
    simp [v6_from_string_text h]
  | some s =>
    obtain ⟨hne, hnopercent, hnoslash⟩ := hscope s rfl
    have hslash' : '/' ∉ v6_text ip ++ '%' :: s := by simp [hslash, hnoslash]
    rw [compressed, if_neg hne, ip_address, if_neg hslash',
      hnotquad _ (List.mem_append_left _ (colon_mem_v6_text ip)), v6_address, split_scope_id,
      partition_append hpercent]
    simp [v6_from_string_text h, hne, hnopercent]

/-! ### Addresses read from a text -/

theorem foldl_digits_lt {base acc : Nat} {ns : List Nat} (hns : ∀ n ∈ ns, n < base) :
    ns.foldl (fun n d => base * n + d) acc < (acc + 1) * base ^ ns.length := by
  induction ns generalizing acc with
  | nil => simp
  | cons n ns ih =>
    have hn := hns n List.mem_cons_self
    have hrest := @ih (base * acc + n) fun m hm => hns m (List.mem_cons_of_mem _ hm)
    have hstep : base * acc + n + 1 ≤ (acc + 1) * base := by
      rw [Nat.add_mul, Nat.one_mul, Nat.mul_comm acc base]
      omega
    calc (n :: ns).foldl (fun n d => base * n + d) acc
        = ns.foldl (fun n d => base * n + d) (base * acc + n) := rfl
      _ < (base * acc + n + 1) * base ^ ns.length := hrest
      _ ≤ (acc + 1) * base * base ^ ns.length := Nat.mul_le_mul_right _ hstep
      _ = (acc + 1) * base ^ (n :: ns).length := by
        rw [List.length_cons, Nat.pow_succ, Nat.mul_assoc, Nat.mul_comm base]

/-- Digits make up a number of at most that many digits. -/
theorem join_digits_lt {base count : Nat} {ns : List Nat} (hns : ∀ n ∈ ns, n < base)
    (hbase : 0 < base) (hcount : ns.length ≤ count) : join_digits base ns < base ^ count := by
  have hlt := @foldl_digits_lt base 0 ns hns
  rw [Nat.zero_add, Nat.one_mul] at hlt
  exact Nat.lt_of_lt_of_le hlt (Nat.pow_le_pow_right hbase hcount)

theorem v4_from_string_lt {cs : List Char} {ip : Nat} (h : v4_from_string cs = some ip) :
    ip < 2 ^ 32 := by
  unfold v4_from_string at h
  dsimp only at h
  split at h
  · cases h
  · next hcount =>
      obtain ⟨ns, hns, rfl⟩ := Option.map_eq_some_iff.mp h
      obtain ⟨hlength, hvalues⟩ := of_mapM hns
      have hlt : ∀ n ∈ ns, n < 256 := by
        intro n hn
        obtain ⟨octet, -, hoctet⟩ := hvalues n hn
        unfold parse_octet at hoctet
        split at hoctet
        · cases hoctet
        · split at hoctet
          · cases hoctet
          · split at hoctet
            · cases hoctet
            · split at hoctet
              · cases hoctet
              · cases hoctet
                omega
      exact @join_digits_lt 256 4 ns hlt (by decide) (by omega)

theorem hex_value_lt {c : Char} {n : Nat} (h : hex_value c = some n) : n < 16 := by
  unfold hex_value at h
  dsimp only at h
  simp only [Bool.and_eq_true, decide_eq_true_eq] at h
  split at h
  · cases h
    omega
  · split at h
    · cases h
      omega
    · split at h
      · cases h
        omega
      · cases h

theorem parse_hextet_lt {hextet : List Char} {n : Nat} (h : parse_hextet hextet = some n) :
    n < 65536 := by
  unfold parse_hextet at h
  split at h
  · cases h
  · next hfits =>
      obtain ⟨digits, hdigits, rfl⟩ := Option.map_eq_some_iff.mp h
      obtain ⟨hlength, hvalues⟩ := of_mapM hdigits
      have hlt : ∀ d ∈ digits, d < 16 := by
        intro d hd
        obtain ⟨c, -, hc⟩ := hvalues d hd
        exact hex_value_lt hc
      exact @join_digits_lt 16 4 digits hlt (by decide) (by omega)

theorem layout_count {parts : List (List Char)} {l : Layout} (h : layout parts = some l) :
    l.parts_hi + l.parts_lo ≤ 8 := by
  unfold layout at h
  split at h
  · unfold full_layout at h
    split at h
    · cases h
    · split at h
      · cases h
      · cases h
        decide
  · next i _ =>
      unfold skipped_layout at h
      dsimp only at h
      generalize (if parts.head?.any List.isEmpty = true then i - 1 else i) = hi at h
      generalize (if parts.getLast?.any List.isEmpty = true then parts.length - i - 1 - 1
        else parts.length - i - 1) = lo at h
      split at h
      · cases h
      · split at h
        · cases h
        · split at h
          · cases h
          · cases h
            dsimp only
            omega
  · cases h

theorem v6_from_string_lt {cs : List Char} {ip : Nat} (h : v6_from_string cs = some ip) :
    ip < 2 ^ 128 := by
  unfold v6_from_string at h
  dsimp only at h
  split at h
  · cases h
  · split at h
    · cases h
    · next parts _ =>
        split at h
        · cases h
        · split at h
          · cases h
          · next l hlayout =>
              obtain ⟨ns, hns, rfl⟩ := Option.map_eq_some_iff.mp h
              have hcount := layout_count hlayout
              unfold read_hextets at hns
              split at hns
              · next hi lo hhi hlo =>
                  obtain ⟨hlength, hvalues⟩ := of_mapM hhi
                  obtain ⟨hlength', hvalues'⟩ := of_mapM hlo
                  have hlt : ∀ n ∈ ns, n < 65536 := by
                    intro n hn
                    cases hns
                    simp only [List.mem_append, List.mem_replicate] at hn
                    rcases hn with (hn | ⟨-, rfl⟩) | hn
                    · obtain ⟨hextet, -, hread⟩ := hvalues n hn
                      exact parse_hextet_lt hread
                    · decide
                    · obtain ⟨hextet, -, hread⟩ := hvalues' n hn
                      exact parse_hextet_lt hread
                  have hsize : ns.length ≤ 8 := by
                    cases hns
                    simp only [List.length_append, List.length_replicate, hlength, hlength',
                      List.length_take, List.length_drop]
                    omega
                  exact @join_digits_lt 65536 8 ns hlt (by decide) hsize
              · cases hns

theorem ip_address_v4_lt {cs : List Char} {ip : Nat} (h : ip_address cs = some (.v4 ip)) :
    ip < 2 ^ 32 := by
  unfold ip_address at h
  split at h
  · cases h
  · split at h
    · next hquad =>
        cases h
        exact v4_from_string_lt hquad
    · unfold v6_address at h
      split at h
      · cases h
      · obtain ⟨_, -, hv6⟩ := Option.map_eq_some_iff.mp h
        cases hv6

/-- An IPv6 address that was read is within its bits, and its scope can be written. -/
theorem ip_address_v6_ok {cs : List Char} {ip : Nat} {scope : Option (List Char)}
    (h : ip_address cs = some (.v6 ip scope)) : ip < 2 ^ 128 ∧ ScopeOk scope := by
  unfold ip_address at h
  split at h
  · cases h
  · next hslash =>
      split at h
      · cases h
      · unfold v6_address at h
        split at h
        · cases h
        · next addr scope' hsplit =>
            obtain ⟨ip', hip, hv6⟩ := Option.map_eq_some_iff.mp h
            cases hv6
            refine ⟨v6_from_string_lt hip, fun s hs => ?_⟩
            subst hs
            unfold split_scope_id at hsplit
            rcases partition_cases '%' cs with ⟨-, heq⟩ | ⟨before, after, -, hcs, heq⟩
            · rw [heq] at hsplit
              cases hsplit
            · rw [heq] at hsplit
              dsimp only at hsplit
              split at hsplit
              · cases hsplit
              · next hok =>
                  cases hsplit
                  rw [not_or] at hok
                  exact ⟨hok.1, hok.2, fun hmem => hslash (by simp [hcs, hmem])⟩

/-- Reading an address, writing it and reading the text again gives the address. -/
theorem ip_address_compressed {cs : List Char} {a : IpAddress} (h : ip_address cs = some a) :
    ip_address (compressed a) = some a := by
  cases a with
  | v4 ip => exact ip_address_v4_text (ip_address_v4_lt h)
  | v6 ip scope =>
    obtain ⟨hlt, hscope⟩ := ip_address_v6_ok h
    exact ip_address_v6_text hlt hscope

/-! ### Characters of an address text -/

end IpAddress
