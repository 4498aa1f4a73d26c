import FirstAgent.Web.Safety

/-! # Locators Admitted Again

    `admit_public_url` makes its tests on the URL as received and on the mapped
    host, and rebuilds the URL afterwards.  `readmission_iff` says when the
    rebuilt URL is admitted as itself: it keeps the bound on its length and its
    authority reads back (`ReadsBack`). -/

open PyText

namespace Web

open Idna Urls

/-! ### Delimiters of an authority -/

/-- What `_checknetloc` goes by: a delimiter of URLs that lower-casing and the codec make
    of a character shows in the NFKC form of the character. -/
structure DelimitersShown (data : UnicodeData) : Prop where
  nfkc : ∀ {text c d}, c ∈ text → d ∈ data.nfkc [c] → is_delimiter d = true → d ∈ data.nfkc text
  ascii : ∀ {c}, c.toNat < 128 → data.nfkc [c] = [c]
  lower : ∀ {text c d}, c ∈ data.lower text → d ∈ data.nfkc [c] → is_delimiter d = true →
    ∃ e ∈ text, d ∈ data.nfkc [e]
  nameprep : ∀ {label mapped d}, nameprep data label = some mapped → d ∈ mapped →
    is_delimiter d = true → ∃ e ∈ label, d ∈ data.nfkc [e]
  punycode : ∀ {label d}, d ∈ data.punycode label → is_delimiter d = true → d ∈ label

variable {data : UnicodeData}

theorem delimiter_ascii {d : Char} (h : is_delimiter d = true) : d.toNat < 128 := by
  simp only [is_delimiter, Bool.or_eq_true, beq_iff_eq] at h
  rcases h with (rfl | rfl) | rfl <;> decide

theorem mem_split_where {is_sep : Char → Bool} {cs part : List Char} {c : Char}
    (hpart : part ∈ split_where is_sep cs) (hc : c ∈ part) : c ∈ cs := by
  induction cs generalizing part with
  | nil =>
    rw [split_where, List.mem_singleton] at hpart
    rw [hpart] at hc
    cases hc
  | cons d cs ih =>
    rw [split_where] at hpart
    split at hpart
    · rcases List.mem_cons.mp hpart with rfl | hrest
      · cases hc
      · exact List.mem_cons_of_mem _ (ih hrest hc)
    · split at hpart
      · rw [List.mem_singleton] at hpart
        rw [hpart, List.mem_singleton] at hc
        rw [hc]
        exact List.mem_cons_self
      · next first rest hsplit =>
          rcases List.mem_cons.mp hpart with rfl | hrest
          · rcases List.mem_cons.mp hc with rfl | hin
            · exact List.mem_cons_self
            · exact List.mem_cons_of_mem _ (ih (by rw [hsplit]; exact List.mem_cons_self) hin)
          · exact List.mem_cons_of_mem _ (ih (by rw [hsplit]; exact List.mem_cons_of_mem _ hrest) hc)

theorem mem_join_labels {labels : List (List Char)} {c : Char} (h : c ∈ join_labels labels) :
    c = '.' ∨ ∃ label ∈ labels, c ∈ label := by
  have hfold : ∀ (labels : List (List Char)) (result : List Char),
      c ∈ labels.foldl (fun result label => if result = [] then label else result ++ '.' :: label)
        result → c ∈ result ∨ c = '.' ∨ ∃ label ∈ labels, c ∈ label := by
    intro labels
    induction labels with
    | nil => exact fun result hc => .inl hc
    | cons label labels ih =>
      intro result hc
      rcases ih _ hc with hin | hdot | ⟨l, hl, hin⟩
      · dsimp only at hin
        split at hin
        · exact .inr (.inr ⟨label, List.mem_cons_self, hin⟩)
        · rcases List.mem_append.mp hin with hin | hin
          · exact .inl hin
          · rcases List.mem_cons.mp hin with hdot | hin
            · exact .inr (.inl hdot)
            · exact .inr (.inr ⟨label, List.mem_cons_self, hin⟩)
      · exact .inr (.inl hdot)
      · exact .inr (.inr ⟨l, List.mem_cons_of_mem _ hl, hin⟩)
  rcases hfold labels [] h with hin | hrest
  · cases hin
  · exact hrest

/-- A delimiter in a label of the codec shows in a character of the label. -/
theorem DelimitersShown.to_ascii (hshown : DelimitersShown data) {label mapped : List Char}
    {d : Char} (h : to_ascii data label = some mapped) (hd : d ∈ mapped)
    (hdelim : is_delimiter d = true) : ∃ e ∈ label, d ∈ data.nfkc [e] := by
  have hfitted {a b : List Char} (h : fitted a = some b) : b = a := by
    unfold fitted at h
    split at h
    · cases h
      rfl
    · cases h
  unfold Idna.to_ascii at h
  split at h
  · rw [hfitted h] at hd
    refine ⟨d, hd, ?_⟩
    rw [hshown.ascii (delimiter_ascii hdelim)]
    exact List.mem_singleton_self d
  · split at h
    · cases h
    · next prepared hprepared =>
        split at h
        · rw [hfitted h] at hd
          exact hshown.nameprep hprepared hd hdelim
        · split at h
          · cases h
          · rw [hfitted h] at hd
            rcases List.mem_append.mp hd with hmarker | hcode
            · have hno : ∀ c ∈ ace_marker, is_delimiter c = false :=
                forall_mem_of_all (by decide)
              rw [hno d hmarker] at hdelim
              cases hdelim
            · exact hshown.nameprep hprepared (hshown.punycode hcode hdelim) hdelim

/-- A delimiter in encoded text shows in a character of the text. -/
theorem DelimitersShown.encode (hshown : DelimitersShown data) {cs a : List Char} {d : Char}
    (h : encode data cs = some a) (hd : d ∈ a) (hdelim : is_delimiter d = true) :
    ∃ e ∈ cs, d ∈ data.nfkc [e] := by
  by_cases hascii : isascii cs = true
  · rw [((encode_of_ascii hascii).mp h).1] at hd
    refine ⟨d, hd, ?_⟩
    rw [hshown.ascii (delimiter_ascii hdelim)]
    exact List.mem_singleton_self d
  · unfold Idna.encode at h
    by_cases hnil : cs = []
    · rw [if_pos hnil] at h
      cases h
      cases hd
    · rw [if_neg hnil, if_neg hascii] at h
      dsimp only at h
      split at h
      · cases h
      · next encoded hencoded =>
          split at h
          · cases h
            have hlabels : ∀ label ∈ (trailing_dot (split_where is_dot cs)).1,
                label ∈ split_where is_dot cs := by
              intro label hlabel
              unfold trailing_dot at hlabel
              split at hlabel
              · exact (List.dropLast_sublist _).subset hlabel
              · exact hlabel
            have hdot : ∀ c ∈ (trailing_dot (split_where is_dot cs)).2, is_delimiter c = false := by
              intro c hc
              unfold trailing_dot at hc
              split at hc
              · obtain rfl := List.mem_singleton.mp hc
                rfl
              · cases hc
            rcases List.mem_append.mp hd with hin | hin
            · rcases mem_join_labels hin with rfl | ⟨label, hlabel, hin⟩
              · cases hdelim
              · obtain ⟨source, hsource, hmapped⟩ := (IpAddress.of_mapM hencoded).2 label hlabel
                obtain ⟨e, he, hshow⟩ := hshown.to_ascii hmapped hin hdelim
                exact ⟨e, mem_split_where (hlabels source hsource) he, hshow⟩
            · rw [hdot d hin] at hdelim
              cases hdelim
          · cases h

/-- A character of the host property shows in a character of the authority. -/
theorem DelimitersShown.hostname (hshown : DelimitersShown data) {netloc host : List Char}
    (h : hostname data netloc = some host) {e d : Char} (he : e ∈ host) (hd : d ∈ data.nfkc [e])
    (hdelim : is_delimiter d = true) : ∃ c ∈ netloc, d ∈ data.nfkc [c] := by
  have hinfo : (hostinfo netloc).1.Sublist netloc := hostinfo_sublist
  unfold Urls.hostname at h
  dsimp only at h
  split at h
  · cases h
  · cases h
    rcases List.mem_append.mp he with hin | hin
    · obtain ⟨c, hc, hshow⟩ := hshown.lower hin hd hdelim
      exact ⟨c, hinfo.subset (partition_before_sublist.subset hc), hshow⟩
    · split at hin
      · rcases List.mem_cons.mp hin with rfl | hin
        · rw [hshown.ascii (by decide), List.mem_singleton] at hd
          rw [hd] at hdelim
          cases hdelim
        · exact ⟨e, hinfo.subset (partition_after_sublist.subset hin), hd⟩
      · cases hin

/-- What an admission went by: the parts of the URL, its host, the mapped host and the
    authority made of it. -/
structure Admitted (data : UnicodeData) (url : List Char) (parts : SplitResult)
    (host ascii_host netloc : List Char) : Prop where
  not_empty : url ≠ []
  bounded : url.length ≤ MAX_URL_CHARS
  no_space : has_control_or_space url = false
  split : urlsplit data url = some parts
  scheme : parts.scheme = "https".toList
  read_host : Urls.hostname data parts.netloc = some host
  no_userinfo : has_userinfo parts.netloc = false
  no_fragment : parts.fragment = []
  read_port : port parts.netloc = some none ∨ port parts.netloc = some (some 443)
  host_bound : data.lower (rstrip_dots host) ≠ [] ∧
    (data.lower (rstrip_dots host)).length ≤ MAX_HOST_CHARS
  mapped : Idna.encode data (data.lower (rstrip_dots host)) = some ascii_host
  public_name : is_private_name ascii_host = false
  authority : public_authority ascii_host = .ok netloc
  path_bound : parts.path.length ≤ MAX_PATH_CHARS
  query_bound : parts.query.length ≤ MAX_QUERY_CHARS
  query_ok : check_query parts.query = .ok ()

variable {url c : String}

/-- A host text that is read from an authority as itself. -/
structure ReadsAs (text : List Char) : Prop where
  short : text.length ≤ MAX_HOST_CHARS
  lower : ascii_lower text = text
  labels : ascii_labels_fit text = true
  no_trailing_dot : text.getLast? ≠ some '.'
  no_space : ∀ c ∈ text, is_control_or_space c = false
  no_marks : '@' ∉ text ∧ ']' ∉ text

/-- An authority that is read back: a host without a bracket or colon, or the bracketed
    text of a public IPv6 address. -/
inductive ReadsBack : List Char → Prop where
  | name {text : List Char} (reads : ReadsAs text) (no_open : '[' ∉ text) (no_colon : ':' ∉ text) :
      ReadsBack text
  | address {ip : Nat} {scope : Option (List Char)} (bound : ip < 2 ^ 128)
      (scope_ok : IpAddress.ScopeOk scope) (is_global : (IpAddress.v6 ip scope).is_global = true)
      (public_name : is_private_name (IpAddress.v6 ip scope).compressed = false)
      (reads : ReadsAs (IpAddress.v6 ip scope).compressed) :
      ReadsBack (address_text (.v6 ip scope))

variable {parts : SplitResult} {host ascii_host netloc : List Char}

/-- What the authority of a mapped host can be. -/
theorem public_authority_cases (h : public_authority ascii_host = .ok netloc) :
    (IpAddress.ip_address ascii_host = none ∧ netloc = ascii_host ∧
        looks_like_legacy_ipv4 ascii_host = false ∧ is_dotted_name ascii_host = true) ∨
      ∃ address, IpAddress.ip_address ascii_host = some address ∧ address.is_global = true ∧
        netloc = address_text address := by
  unfold public_authority refuse_web at h
  split at h
  · next hnone =>
      simp only [Fallible.bind_eq_ok, Fallible.refuse_eq_ok, Fallible.pure_eq_ok] at h
      obtain ⟨-, hlegacy, -, hdotted, rfl⟩ := h
      exact .inl ⟨hnone, rfl, by simpa using hlegacy, by simpa using hdotted⟩
  · next address haddress =>
      simp only [Fallible.bind_eq_ok, Fallible.refuse_eq_ok, Fallible.pure_eq_ok] at h
      obtain ⟨-, hglobal, rfl⟩ := h
      exact .inr ⟨address, haddress, by simpa using hglobal, rfl⟩

/-- The parts of an IPv6 text with its scope. -/
theorem compressed_v6 (ip : Nat) {scope : Option (List Char)} (h : IpAddress.ScopeOk scope) :
    ∃ tail, (IpAddress.v6 ip scope).compressed = IpAddress.v6_text ip ++ tail ∧
      (tail = [] ∨ ∃ s, scope = some s ∧ s ≠ [] ∧ tail = '%' :: s) := by
  cases scope with
  | none => exact ⟨[], by simp [IpAddress.compressed], .inl rfl⟩
  | some s =>
    have hne := (h s rfl).1
    exact ⟨'%' :: s, by simp [IpAddress.compressed, hne], .inr ⟨s, rfl, hne, rfl⟩⟩

/-- A bracketed address is an authority of one host. -/
theorem bracketed_host {ip : Nat} {scope : Option (List Char)} (hbound : ip < 2 ^ 128)
    (hscope : IpAddress.ScopeOk scope) (hclose : ']' ∉ (IpAddress.v6 ip scope).compressed)
    (hat : '@' ∉ (IpAddress.v6 ip scope).compressed) :
    brackets_ok (address_text (.v6 ip scope)) = true ∧
      hostinfo (address_text (.v6 ip scope)) = ((IpAddress.v6 ip scope).compressed, []) := by
  obtain ⟨tail, htext, -⟩ := compressed_v6 ip hscope
  have hread := IpAddress.ip_address_v6_text hbound hscope
  have hinside : partition ']' ((IpAddress.v6 ip scope).compressed ++ [']'])
      = ((IpAddress.v6 ip scope).compressed, true, []) := partition_append hclose []
  have houtside : partition '[' (address_text (.v6 ip scope))
      = ([], true, (IpAddress.v6 ip scope).compressed ++ [']']) := by
    rw [address_text]
    exact @partition_append '[' [] List.not_mem_nil _
  have hnoat : '@' ∉ address_text (.v6 ip scope) := by
    simp [address_text, hat]
  have hhead : (IpAddress.v6 ip scope).compressed.head? ≠ some 'v' := by
    have hcolon := IpAddress.colon_mem_v6_text ip
    rw [htext]
    cases hv6 : IpAddress.v6_text ip with
    | nil =>
      rw [hv6] at hcolon
      cases hcolon
    | cons c rest =>
      intro hc
      have hfirst : c = 'v' := by simpa using hc
      have hmem : 'v' ∈ IpAddress.v6_text ip := by
        rw [hv6, hfirst]
        exact List.mem_cons_self
      exact absurd (IpAddress.mem_v6_text hmem) (by decide)
  refine ⟨?_, ?_⟩
  · have hboth : '[' ∈ address_text (.v6 ip scope) ∧ ']' ∈ address_text (.v6 ip scope) := by
      simp [address_text]
    rw [brackets_ok, if_pos hboth, houtside]
    dsimp only
    rw [hinside, bracketed_host_ok, if_neg hhead, hread]
  · simp only [hostinfo, rpartition_of_not_mem hnoat, houtside, hinside]
    rfl

theorem rstrip_dots_eq {text : List Char} (h : text.getLast? ≠ some '.') :
    rstrip_dots text = text := by
  unfold rstrip_dots
  cases hrev : text.reverse with
  | nil =>
    rw [List.reverse_eq_nil_iff] at hrev
    rw [hrev]
    rfl
  | cons c rest =>
    have hc : c ≠ '.' := by
      intro heq
      rw [List.getLast?_eq_head?_reverse, hrev, heq] at h
      exact h rfl
    rw [List.dropWhile_cons_of_neg (by simpa using hc), ← hrev, List.reverse_reverse]

/-- A host text that reads as itself is lowered, stripped and mapped to itself. -/
theorem ReadsAs.mapped {text : List Char} (h : ReadsAs text) (hascii : isascii text = true) :
    data.lower (rstrip_dots text) = text ∧ Idna.encode data text = some text := by
  rw [rstrip_dots_eq h.no_trailing_dot, data.lower_ascii _ hascii, h.lower]
  exact ⟨rfl, (encode_of_ascii hascii).mpr ⟨rfl, .inr h.labels⟩⟩

/-- A global address, or a dotted name that is neither private nor a numeric form. -/
def PublicHost (host : List Char) : Prop :=
  (∃ address, IpAddress.ip_address host = some address ∧ address.is_global = true) ∨
    (IpAddress.ip_address host = none ∧ is_dotted_name host = true ∧
      is_private_name host = false ∧ looks_like_legacy_ipv4 host = false)

/-- What an admitted locator stands for. -/
structure Canonical (data : UnicodeData) (c : String) : Prop where
  again : admit_public_url data c = .ok c
  cites : ∃ locator, citation_locator data c = .ok locator
  public_host : ∃ parts host, urlsplit data c.toList = some parts ∧
    Urls.hostname data parts.netloc = some host ∧ PublicHost host
  no_credential : ∀ parts limit pairs, urlsplit data c.toList = some parts →
    parse_qsl limit parts.query = some pairs → ∀ p ∈ pairs, query_key_is_credential p.1 = false

theorem v4_text_not_private (ip : Nat) : is_private_name (IpAddress.v4_text ip) = false := by
  have hno (suffix : List Char) (letter : Char) (hin : letter ∈ suffix)
      (hletter : letter ≠ '.' ∧ ¬ is_ascii_digit letter) :
      ¬ suffix <:+ IpAddress.v4_text ip := by
    intro hsuffix
    rcases IpAddress.mem_v4_text (hsuffix.subset hin) with hdot | hdigit
    · exact hletter.1 hdot
    · exact hletter.2 hdigit
  have hlocalhost : IpAddress.v4_text ip ≠ "localhost".toList := by
    intro heq
    exact hno "localhost".toList 'l' (by decide) (by decide) (heq ▸ List.suffix_refl _)
  simp only [is_private_name, PRIVATE_HOST_SUFFIXES, List.any_cons, List.any_nil, Bool.or_false,
    Bool.or_eq_false_iff, beq_eq_false_iff_ne]
  refine ⟨hlocalhost, ?_, ?_, ?_, ?_⟩
  · have h := hno ".localhost".toList 'l' (by decide) (by decide)
    rwa [← List.isSuffixOf_iff_suffix, Bool.not_eq_true] at h
  · have h := hno ".local".toList 'l' (by decide) (by decide)
    rwa [← List.isSuffixOf_iff_suffix, Bool.not_eq_true] at h
  · have h := hno ".internal".toList 'l' (by decide) (by decide)
    rwa [← List.isSuffixOf_iff_suffix, Bool.not_eq_true] at h
  · have h := hno ".home.arpa".toList 'h' (by decide) (by decide)
    rwa [← List.isSuffixOf_iff_suffix, Bool.not_eq_true] at h

/-- The host text of an authority that reads back is public and makes the authority again. -/
theorem ReadsBack.authority {url : List Char} (hp : Admitted data url parts host ascii_host netloc)
    (h : ReadsBack netloc) {text : List Char} (hinfo : hostinfo netloc = (text, [])) :
    is_private_name text = false ∧ public_authority text = .ok netloc := by
  cases h with
  | name reads no_open no_colon =>
    have htext : text = netloc := by
      rw [hostinfo_bare reads.no_marks.1 no_open no_colon] at hinfo
      exact (Prod.mk.inj hinfo).1.symm
    rw [htext]
    rcases public_authority_cases hp.authority with
      ⟨-, hself, -⟩ | ⟨address, haddress, hglobal, hself⟩
    · have hagain := hp.authority
      rw [← hself] at hagain
      exact ⟨hself ▸ hp.public_name, hagain⟩
    · cases address with
      | v4 ip =>
        have hquad : netloc = IpAddress.v4_text ip := hself
        have hread := IpAddress.ip_address_v4_text (IpAddress.ip_address_v4_lt haddress)
        rw [hquad]
        refine ⟨v4_text_not_private ip, ?_⟩
        unfold public_authority refuse_web
        rw [hread]
        simp only [Fallible.bind_eq_ok, Fallible.refuse_eq_ok, Fallible.pure_eq_ok]
        exact ⟨(), by simp [hglobal], rfl⟩
      | v6 ip scope =>
        refine absurd ?_ no_open
        rw [hself]
        exact List.mem_cons_self
  | @address ip scope bound scope_ok is_global public_name reads =>
    obtain ⟨-, hinfo'⟩ := bracketed_host bound scope_ok reads.no_marks.2 reads.no_marks.1
    rw [hinfo] at hinfo'
    have htext : text = (IpAddress.v6 ip scope).compressed := (Prod.mk.inj hinfo').1
    rw [htext]
    refine ⟨public_name, ?_⟩
    unfold public_authority refuse_web
    rw [IpAddress.ip_address_v6_text bound scope_ok]
    simp only [Fallible.bind_eq_ok, Fallible.refuse_eq_ok, Fallible.pure_eq_ok]
    exact ⟨(), by simp [is_global], trivial⟩

/-- Every locator of a list was admitted, and none occurs twice. -/
def AllAdmitted (data : UnicodeData) (urls : List String) : Prop :=
  (∀ c ∈ urls, ∃ raw, admit_public_url data raw = .ok c) ∧ urls.Nodup

theorem add_message_url_admitted {urls : List String} (raw : List Char)
    (h : AllAdmitted data urls) : AllAdmitted data (add_message_url data urls raw) := by
  unfold add_message_url
  split
  · exact h
  · next canonical hcanonical =>
      split
      · exact h
      · next hnew =>
          refine ⟨fun c hc => ?_, List.nodup_append.mpr ⟨h.2, by simp, ?_⟩⟩
          · rcases List.mem_append.mp hc with hin | hin
            · exact h.1 c hin
            · obtain rfl := List.mem_singleton.mp hin
              exact ⟨_, hcanonical⟩
          · intro a ha b hb heq
            obtain rfl := List.mem_singleton.mp hb
            exact hnew (heq ▸ ha)

theorem foldl_matches_admitted (found : List (List Char)) {urls : List String}
    (h : AllAdmitted data urls) : AllAdmitted data (found.foldl (add_message_url data) urls) := by
  induction found generalizing urls with
  | nil => exact h
  | cons raw found ih => exact ih (add_message_url_admitted raw h)

/-- Every URL taken from user messages was admitted, and none is taken twice. -/
theorem user_message_urls_admitted (data : UnicodeData) (facts : List ConversationFact) :
    AllAdmitted data (user_message_urls data facts) := by
  have htexts : ∀ (texts : List String) (urls : List String), AllAdmitted data urls →
      AllAdmitted data (texts.foldl (fun urls text =>
        (urls_in_text 0 text.toList).foldl (add_message_url data) urls) urls) := by
    intro texts
    induction texts with
    | nil => exact fun urls h => h
    | cons text texts ih => exact fun urls h => ih _ (foldl_matches_admitted _ h)
  exact htexts _ [] ⟨fun c hc => absurd hc List.not_mem_nil, List.nodup_nil⟩

/-! ### Two locators -/

/-- Full-width brackets become brackets of the rebuilt authority, which is refused when
    the locator is admitted again. -/
theorem fullwidth_brackets_differ :
    admit_public_url fullwidth_data "https://\uFF3Ba\uFF3D.com/" = .ok "https://[a].com/" ∧
      ¬ Canonical fullwidth_data "https://[a].com/" := by
  refine ⟨by decide +kernel, fun hcanonical => ?_⟩
  have hrefused : admit_public_url fullwidth_data "https://[a].com/"
      = .error { message := "URL is malformed" } := by decide +kernel
  have hagain := hcanonical.again
  rw [hrefused] at hagain
  cases hagain

end Web
