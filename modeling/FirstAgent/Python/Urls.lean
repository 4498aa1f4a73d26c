import FirstAgent.Python.Idna
import FirstAgent.Python.IpAddress
import Mathlib.Data.List.TakeWhile

/-! # URL Texts

    `urllib.parse`: `urlsplit`, `urlunsplit` and the host, port and user parts
    of an authority.  What a URL assembled from its parts is read back as
    stands at the end:

    * `urlsplit_urlunsplit`: the parts themselves, when the authority holds no
      delimiter;
    * `reads_authority`: in general the authority read is a piece of the one
      written;
    * `reads_bare`: where the host read is as long as the authority written, the
      authority is a bare host. -/

open PyText

namespace Urls

open Idna

variable (data : UnicodeData)

/-! ### Splitting -/

/-- `SplitResult`. -/
structure SplitResult where
  scheme : List Char
  netloc : List Char
  path : List Char
  query : List Char
  fragment : List Char
  deriving DecidableEq

/-- `url.lstrip(_WHATWG_C0_CONTROL_OR_SPACE)`. -/
def lstrip_controls (url : List Char) : List Char := url.dropWhile fun c => c.toNat ≤ 0x20

/-- A character of `_UNSAFE_URL_BYTES_TO_REMOVE`. -/
def is_unsafe_byte (c : Char) : Bool := c == '\t' || c == '\r' || c == '\n'

def remove_unsafe_bytes (url : List Char) : List Char := url.filter fun c => !is_unsafe_byte c

def is_ascii_alpha (c : Char) : Bool :=
  (65 ≤ c.toNat && c.toNat ≤ 90) || (97 ≤ c.toNat && c.toNat ≤ 122)

/-- A character of `scheme_chars`. -/
def is_scheme_char (c : Char) : Bool :=
  is_ascii_alpha c || (48 ≤ c.toNat && c.toNat ≤ 57) || c == '+' || c == '-' || c == '.'

/-- The scheme in lower case and the rest of the URL; without one the scheme is empty. -/
def split_scheme (url : List Char) : List Char × List Char :=
  match partition ':' url with
  | (before, true, rest) =>
    if before.head?.any is_ascii_alpha && before.all is_scheme_char then (ascii_lower before, rest)
    else ([], url)
  | (_, false, _)        => ([], url)

/-- An end of the authority. -/
def is_delimiter (c : Char) : Bool := c == '/' || c == '?' || c == '#'

/-- The authority behind `//`, and the rest. -/
def split_netloc (url : List Char) : List Char × List Char :=
  match url with
  | '/' :: '/' :: rest =>
    (rest.takeWhile fun c => !is_delimiter c, rest.dropWhile fun c => !is_delimiter c)
  | _                  => ([], url)

/-- `re.match(r"\Av[a-fA-F0-9]+\..+\Z", hostname)`. -/
def is_future_address (hostname : List Char) : Bool :=
  match hostname with
  | 'v' :: rest =>
    let version := rest.takeWhile fun c => (IpAddress.hex_value c).isSome
    match rest.dropWhile fun c => (IpAddress.hex_value c).isSome with
    | '.' :: tail => !version.isEmpty && !tail.isEmpty && !tail.contains '\n'
    | _           => false
  | _           => false

/-- `_check_bracketed_host` passes. -/
def bracketed_host_ok (hostname : List Char) : Bool :=
  if hostname.head? = some 'v' then is_future_address hostname
  else
    match IpAddress.ip_address hostname with
    | some (.v6 _ _) => true
    | _              => false

/-- The tests `urlsplit` makes on the brackets of an authority. -/
def brackets_ok (netloc : List Char) : Bool :=
  if '[' ∈ netloc ∧ ']' ∈ netloc then
    bracketed_host_ok (partition ']' (partition '[' netloc).2.2).1
  else decide ('[' ∉ netloc ∧ ']' ∉ netloc)

/-- `_checknetloc` passes: no delimiter appears under NFKC. -/
def netloc_ok (netloc : List Char) : Bool :=
  if isascii netloc then true
  else
    let n := netloc.filter fun c => !(c == '@' || c == ':' || c == '#' || c == '?')
    let netloc2 := data.nfkc n
    n == netloc2 || !netloc2.any fun c => is_delimiter c || c == '@' || c == ':'

/-- `url.split(sep, 1)`: the text before the first separator and the one behind it. -/
def cut (sep : Char) (url : List Char) : List Char × List Char :=
  ((partition sep url).1, (partition sep url).2.2)

/-- The path, query and fragment of the text behind the authority. -/
def split_rest (scheme netloc rest : List Char) : SplitResult :=
  let (rest, fragment) := cut '#' rest
  let (path, query) := cut '?' rest
  { scheme, netloc, path, query, fragment }

/-- `urlsplit(url)`; `none` is its `ValueError`. -/
def urlsplit (url : List Char) : Option SplitResult :=
  let (scheme, rest) := split_scheme (remove_unsafe_bytes (lstrip_controls url))
  let (netloc, rest) := split_netloc rest
  if brackets_ok netloc && netloc_ok data netloc then some (split_rest scheme netloc rest)
  else none

/-! ### Assembling -/

/-- `uses_netloc`. -/
def uses_netloc : List String :=
  ["", "ftp", "http", "gopher", "nntp", "telnet", "imap", "wais", "file", "mms", "https", "shttp",
    "snews", "prospero", "rtsp", "rtsps", "rtspu", "rsync", "svn", "svn+ssh", "sftp", "nfs", "git",
    "git+ssh", "ws", "wss"]

/-- `urlunsplit((scheme, netloc, path, query, fragment))`. -/
def urlunsplit (p : SplitResult) : List Char :=
  let slashed := p.netloc ≠ [] ∨ (p.scheme ≠ [] ∧ String.ofList p.scheme ∈ uses_netloc) ∨
    ['/', '/'].isPrefixOf p.path = true
  let path := if p.path ≠ [] ∧ p.path.head? ≠ some '/' then '/' :: p.path else p.path
  let url := if slashed then '/' :: '/' :: (p.netloc ++ path) else p.path
  let url := if p.scheme ≠ [] then p.scheme ++ ':' :: url else url
  let url := if p.query ≠ [] then url ++ '?' :: p.query else url
  if p.fragment ≠ [] then url ++ '#' :: p.fragment else url

/-! ### The parts of an authority -/

/-- `_hostinfo`: the host and the text of the port. -/
def hostinfo (netloc : List Char) : List Char × List Char :=
  let info := (rpartition '@' netloc).2.2
  match partition '[' info with
  | (_, true, bracketed) =>
    let p := partition ']' bracketed
    (p.1, (partition ':' p.2.2).2.2)
  | (_, false, _)        => cut ':' info

/-- `parts.hostname`; `none` for an empty host. -/
def hostname (netloc : List Char) : Option (List Char) :=
  let host := (hostinfo netloc).1
  if host = [] then none
  else
    let p := partition '%' host
    some (data.lower p.1 ++ (if p.2.1 then '%' :: p.2.2 else []))

/-- `parts.username is not None or parts.password is not None`. -/
def has_userinfo (netloc : List Char) : Bool := (rpartition '@' netloc).2.1

/-- The digits `int` reads at most. -/
def int_max_str_digits : Nat := 4300

/-- `parts.port`; the outer `none` is its `ValueError`. -/
def port (netloc : List Char) : Option (Option Nat) :=
  let text := (hostinfo netloc).2
  if text = [] then some none
  else if !IpAddress.ascii_digits text ∨ text.length > int_max_str_digits then none
  else if IpAddress.decimal text > 65535 then none
  else some (some (IpAddress.decimal text))

/-! ### What splitting gives -/

/-- No character that `urlsplit` removes. -/
abbrev Safe (cs : List Char) : Prop := ∀ c ∈ cs, is_unsafe_byte c = false

/-- A text that ends the authority before it: empty, or started by a delimiter. -/
def Behind (cs : List Char) : Prop := ∀ c, cs.head? = some c → is_delimiter c = true

/-- What holds of the parts of every URL with an authority. -/
structure Parted (p : SplitResult) : Prop where
  path_start : ∀ c, p.path.head? = some c → c = '/'
  path_plain : '?' ∉ p.path ∧ '#' ∉ p.path
  query_plain : '#' ∉ p.query
  path_safe : Safe p.path
  query_safe : Safe p.query
  fragment_safe : Safe p.fragment

variable {data} {url n rest : List Char} {p p' : SplitResult}

theorem remove_unsafe_bytes_safe (url : List Char) : Safe (remove_unsafe_bytes url) := by
  intro c hc
  simpa [remove_unsafe_bytes] using (List.mem_filter.mp hc).2

theorem remove_unsafe_bytes_eq (h : Safe url) : remove_unsafe_bytes url = url :=
  List.filter_eq_self.mpr fun c hc => by simp [h c hc]

theorem remove_unsafe_bytes_append (url rest : List Char) :
    remove_unsafe_bytes (url ++ rest) = remove_unsafe_bytes url ++ remove_unsafe_bytes rest :=
  List.filter_append ..

theorem Safe.sublist {cs ds : List Char} (h : Safe ds) (hsub : cs.Sublist ds) : Safe cs :=
  fun c hc => h c (hsub.subset hc)

theorem Safe.append {cs ds : List Char} (h : Safe cs) (h' : Safe ds) : Safe (cs ++ ds) := by
  intro c hc
  rcases List.mem_append.mp hc with hc | hc
  · exact h c hc
  · exact h' c hc

/-- The part before a cut starts as the text does, and holds no separator. -/
theorem cut_before_head (sep : Char) (cs : List Char) (c : Char)
    (h : (cut sep cs).1.head? = some c) : cs.head? = some c ∧ c ≠ sep := by
  cases cs with
  | nil => simp [cut, partition] at h
  | cons d cs =>
    by_cases hd : d = sep
    · simp [cut, partition, hd] at h
    · simp only [cut, partition, if_neg hd, List.head?_cons, Option.some_inj] at h
      subst h
      exact ⟨rfl, hd⟩

theorem cut_before_plain (sep : Char) (cs : List Char) : sep ∉ (cut sep cs).1 := by
  unfold cut
  rcases partition_cases sep cs with ⟨hmem, heq⟩ | ⟨before, after, hmem, -, heq⟩
  · rw [heq]
    exact hmem
  · rw [heq]
    exact hmem

theorem cut_of_not_mem {sep : Char} {cs : List Char} (h : sep ∉ cs) : cut sep cs = (cs, []) := by
  simp only [cut, partition_of_not_mem h]

theorem cut_append {sep : Char} {before : List Char} (h : sep ∉ before) (after : List Char) :
    cut sep (before ++ sep :: after) = (before, after) := by
  simp only [cut, partition_append h]

/-- The parts of a text behind an authority. -/
theorem split_rest_parted (scheme netloc : List Char) (hbehind : Behind rest) (hsafe : Safe rest) :
    Parted (split_rest scheme netloc rest) := by
  have hfront : (cut '#' rest).1.Sublist rest := partition_before_sublist
  have hpath : (cut '?' (cut '#' rest).1).1.Sublist (cut '#' rest).1 := partition_before_sublist
  have hquery : (cut '?' (cut '#' rest).1).2.Sublist (cut '#' rest).1 := partition_after_sublist
  refine ⟨?_, ⟨cut_before_plain '?' _, ?_⟩, ?_, ?_, ?_, ?_⟩
  · intro c hc
    obtain ⟨hin, hquestion⟩ := cut_before_head '?' _ c hc
    obtain ⟨hstart, hhash⟩ := cut_before_head '#' _ c hin
    have hdelim := hbehind c hstart
    simpa [is_delimiter, hquestion, hhash] using hdelim
  · exact fun hmem => cut_before_plain '#' rest (hpath.subset hmem)
  · exact fun hmem => cut_before_plain '#' rest (hquery.subset hmem)
  · exact hsafe.sublist (hpath.trans hfront)
  · exact hsafe.sublist (hquery.trans hfront)
  · exact hsafe.sublist partition_after_sublist

theorem split_scheme_sublist (url : List Char) : (split_scheme url).2.Sublist url := by
  unfold split_scheme
  rcases partition_cases ':' url with ⟨-, heq⟩ | ⟨before, after, -, hurl, heq⟩
  · simp only [heq, List.Sublist.refl]
  · rw [heq]
    dsimp only
    split
    · rw [hurl]
      exact (List.sublist_cons_self ':' after).trans (List.sublist_append_right before _)
    · exact List.Sublist.refl url

/-- Behind an authority that is not empty stands a text that ended it. -/
theorem split_netloc_behind (h : (split_netloc url).1 ≠ []) : Behind (split_netloc url).2 := by
  unfold split_netloc at h ⊢
  split
  · next rest =>
      intro c hc
      have hhead := List.head?_dropWhile_not (fun c => !is_delimiter c) rest
      rw [hc] at hhead
      simpa using hhead
  · simp at h

theorem split_netloc_sublist (url : List Char) : (split_netloc url).2.Sublist url := by
  unfold split_netloc
  split
  · next rest =>
      have hdrop := List.dropWhile_sublist (fun c => !is_delimiter c) (l := rest)
      exact hdrop.trans ((List.sublist_cons_self _ _).trans (List.sublist_cons_self _ _))
  · exact List.Sublist.refl url

/-- A URL with an authority has its parts in their places. -/
theorem urlsplit_parted (h : urlsplit data url = some p) (hnetloc : p.netloc ≠ []) :
    Parted p ∧ brackets_ok p.netloc = true ∧ netloc_ok data p.netloc = true := by
  unfold urlsplit at h
  dsimp only at h
  split at h
  · next hok =>
      have hp : split_rest _ _ _ = p := Option.some_inj.mp h
      subst hp
      rw [Bool.and_eq_true] at hok
      refine ⟨split_rest_parted _ _ (split_netloc_behind hnetloc) ?_, hok⟩
      have hsub := (split_netloc_sublist _).trans (split_scheme_sublist (remove_unsafe_bytes (lstrip_controls url)))
      exact (remove_unsafe_bytes_safe _).sublist hsub
  · cases h

/-- What a URL text that starts with `https://` is read as. -/
theorem urlsplit_https_eq (rest : List Char) :
    urlsplit data ("https".toList ++ ':' :: '/' :: '/' :: rest) =
      let netloc := (remove_unsafe_bytes rest).takeWhile fun c => !is_delimiter c
      let behind := (remove_unsafe_bytes rest).dropWhile fun c => !is_delimiter c
      if brackets_ok netloc && netloc_ok data netloc then
        some (split_rest "https".toList netloc behind)
      else none := by
  have hclean : remove_unsafe_bytes (lstrip_controls ("https".toList ++ ':' :: '/' :: '/' :: rest))
      = "https".toList ++ ':' :: '/' :: '/' :: remove_unsafe_bytes rest := by
    simp [lstrip_controls, remove_unsafe_bytes, is_unsafe_byte]
  have hscheme : split_scheme ("https".toList ++ ':' :: '/' :: '/' :: remove_unsafe_bytes rest)
      = ("https".toList, '/' :: '/' :: remove_unsafe_bytes rest) := by
    unfold split_scheme
    rw [partition_append (by decide)]
    rfl
  unfold urlsplit
  rw [hclean, hscheme]
  rfl

/-! ### Reading an assembled URL -/

/-- The text of the parts behind the authority. -/
def rest_text (p : SplitResult) : List Char :=
  let front := if p.query ≠ [] then p.path ++ '?' :: p.query else p.path
  if p.fragment ≠ [] then front ++ '#' :: p.fragment else front

theorem urlunsplit_https (hscheme : p.scheme = "https".toList) (hnetloc : p.netloc ≠ [])
    (hp : Parted p) :
    urlunsplit p = "https".toList ++ ':' :: '/' :: '/' :: (p.netloc ++ rest_text p) := by
  have hpath : ¬ (p.path ≠ [] ∧ p.path.head? ≠ some '/') := by
    rintro ⟨hne, hhead⟩
    obtain ⟨c, cs, hcs⟩ := List.exists_cons_of_ne_nil hne
    have hc := hp.path_start c (by rw [hcs]; rfl)
    exact hhead (by rw [hcs, hc]; rfl)
  simp only [urlunsplit, if_pos (Or.inl hnetloc), if_neg hpath, rest_text, hscheme]
  by_cases hquery : p.query = [] <;> by_cases hfragment : p.fragment = [] <;>
    simp [hquery, hfragment]

theorem rest_text_behind (hp : Parted p) : Behind (rest_text p) := by
  intro c hc
  cases hpath : p.path with
  | cons d ds =>
    have hd := hp.path_start d (by rw [hpath]; rfl)
    have hhead : (rest_text p).head? = some d := by
      unfold rest_text
      by_cases hquery : p.query = [] <;> by_cases hfragment : p.fragment = [] <;>
        simp [hquery, hfragment, hpath]
    rw [hhead, Option.some_inj] at hc
    rw [← hc, hd]
    rfl
  | nil =>
    unfold rest_text at hc
    by_cases hquery : p.query = []
    · by_cases hfragment : p.fragment = []
      · simp [hquery, hfragment, hpath] at hc
      · simp only [hquery, hfragment, hpath, ne_eq, not_true_eq_false, not_false_eq_true, if_false,
          if_true, List.nil_append, List.head?_cons, Option.some_inj] at hc
        rw [← hc]
        rfl
    · by_cases hfragment : p.fragment = []
      all_goals
        simp only [hquery, hfragment, hpath, ne_eq, not_true_eq_false, not_false_eq_true, if_false,
          if_true, List.nil_append, List.cons_append, List.head?_cons, Option.some_inj] at hc
        rw [← hc]
        rfl

theorem rest_text_safe (hp : Parted p) : Safe (rest_text p) := by
  have hmark (mark : Char) (hm : is_unsafe_byte mark = false) {cs : List Char} (h : Safe cs) :
      Safe (mark :: cs) := by
    intro c hc
    rcases List.mem_cons.mp hc with rfl | hc
    · exact hm
    · exact h c hc
  have hfront : Safe (if p.query ≠ [] then p.path ++ '?' :: p.query else p.path) := by
    split
    · exact hp.path_safe.append (hmark '?' (by decide) hp.query_safe)
    · exact hp.path_safe
  unfold rest_text
  dsimp only
  split
  · exact hfront.append (hmark '#' (by decide) hp.fragment_safe)
  · exact hfront

/-- The text behind the authority is read back as the parts it was made of. -/
theorem split_rest_text (hp : Parted p) : split_rest p.scheme p.netloc (rest_text p) = p := by
  have hfront : '#' ∉ (if p.query ≠ [] then p.path ++ '?' :: p.query else p.path) := by
    split
    · simp [hp.path_plain.2, hp.query_plain]
    · exact hp.path_plain.2
  have hhash : cut '#' (rest_text p)
      = (if p.query ≠ [] then p.path ++ '?' :: p.query else p.path, p.fragment) := by
    unfold rest_text
    by_cases hfragment : p.fragment = []
    · simp only [hfragment, ne_eq, not_true_eq_false, if_false]
      exact cut_of_not_mem hfront
    · simp only [hfragment, ne_eq, not_false_eq_true, if_true]
      exact cut_append hfront p.fragment
  have hquestion : cut '?' (if p.query ≠ [] then p.path ++ '?' :: p.query else p.path)
      = (p.path, p.query) := by
    by_cases hquery : p.query = []
    · simp only [hquery, ne_eq, not_true_eq_false, if_false]
      exact cut_of_not_mem hp.path_plain.1
    · simp only [hquery, ne_eq, not_false_eq_true, if_true]
      exact cut_append hp.path_plain.1 p.query
  unfold split_rest
  rw [hhash]
  dsimp only
  rw [hquestion]

theorem takeWhile_behind (n : List Char) (hrest : Behind rest) :
    (n ++ rest).takeWhile (fun c => !is_delimiter c) = n.takeWhile fun c => !is_delimiter c := by
  induction n with
  | nil =>
    cases rest with
    | nil => rfl
    | cons c cs => simp [hrest c rfl]
  | cons c cs ih =>
    by_cases hc : is_delimiter c = true
    · simp [hc]
    · simp only [List.cons_append, List.takeWhile_cons, ih]

theorem dropWhile_behind (hn : ∀ c ∈ n, is_delimiter c = false) (hrest : Behind rest) :
    (n ++ rest).dropWhile (fun c => !is_delimiter c) = rest := by
  induction n with
  | nil =>
    cases rest with
    | nil => rfl
    | cons c cs => simp [hrest c rfl]
  | cons c cs ih =>
    have hc := hn c List.mem_cons_self
    have hcs := ih fun d hd => hn d (List.mem_cons_of_mem _ hd)
    simp [hc, hcs]

/-- The authority read from an assembled URL is a piece of the one written. -/
theorem reads_authority (hscheme : p.scheme = "https".toList) (hnetloc : p.netloc ≠ [])
    (hp : Parted p) (h : urlsplit data (urlunsplit p) = some p') :
    p'.scheme = "https".toList ∧ brackets_ok p'.netloc = true ∧
      p'.netloc = (remove_unsafe_bytes p.netloc).takeWhile fun c => !is_delimiter c := by
  rw [urlunsplit_https hscheme hnetloc hp, urlsplit_https_eq, remove_unsafe_bytes_append,
    remove_unsafe_bytes_eq (rest_text_safe hp), takeWhile_behind _ (rest_text_behind hp)] at h
  dsimp only at h
  split at h
  · next hok =>
      have hp' := Option.some_inj.mp h
      rw [Bool.and_eq_true] at hok
      rw [← hp']
      exact ⟨rfl, hok.1, rfl⟩
  · cases h

/-- An authority without delimiters is read back with every part behind it, when it
    passes the tests of an authority. -/
theorem urlsplit_urlunsplit (hscheme : p.scheme = "https".toList) (hnetloc : p.netloc ≠ [])
    (hp : Parted p) (hsafe : Safe p.netloc) (hplain : ∀ c ∈ p.netloc, is_delimiter c = false) :
    urlsplit data (urlunsplit p) =
      if brackets_ok p.netloc && netloc_ok data p.netloc then some p else none := by
  have htake : p.netloc.takeWhile (fun c => !is_delimiter c) = p.netloc :=
    List.takeWhile_eq_self_iff.mpr fun c hc => by simp [hplain c hc]
  rw [urlunsplit_https hscheme hnetloc hp, urlsplit_https_eq, remove_unsafe_bytes_append,
    remove_unsafe_bytes_eq (rest_text_safe hp), remove_unsafe_bytes_eq hsafe,
    takeWhile_behind _ (rest_text_behind hp), dropWhile_behind hplain (rest_text_behind hp), htake]
  simp only [← hscheme, split_rest_text hp]

/-! ### The host of an authority -/

theorem hostinfo_sublist : (hostinfo n).1.Sublist n := by
  have hinfo : (rpartition '@' n).2.2.Sublist n := rpartition_after_sublist
  unfold hostinfo
  dsimp only
  rcases partition_cases '[' (rpartition '@' n).2.2 with ⟨-, heq⟩ | ⟨before, after, -, hcs, heq⟩
  · rw [heq]
    exact partition_before_sublist.trans hinfo
  · have hafter : after.Sublist (rpartition '@' n).2.2 := by
      rw [hcs]
      exact (List.sublist_cons_self '[' after).trans (List.sublist_append_right before _)
    rw [heq]
    exact partition_before_sublist.trans (hafter.trans hinfo)

/-- An authority that is a bare host. -/
theorem hostinfo_bare (hat : '@' ∉ n) (hopen : '[' ∉ n) (hcolon : ':' ∉ n) :
    hostinfo n = (n, []) := by
  simp only [hostinfo, rpartition_of_not_mem hat, partition_of_not_mem hopen, cut_of_not_mem hcolon]

theorem port_bare (hat : '@' ∉ n) (hopen : '[' ∉ n) (hcolon : ':' ∉ n) : port n = some none := by
  simp only [port, hostinfo_bare hat hopen hcolon, if_true]

theorem has_userinfo_iff : has_userinfo n = true ↔ '@' ∈ n := rpartition_found

/-- Where the host takes up the whole authority, there is nothing but a host. -/
theorem hostinfo_whole (huser : '@' ∉ n) (h : (hostinfo n).1.length = n.length) :
    '[' ∉ n ∧ ':' ∉ n ∧ (hostinfo n).1 = n := by
  have hsame : (hostinfo n).1 = n := hostinfo_sublist.eq_of_length h
  have hopen : '[' ∉ n := by
    intro hmem
    rcases partition_cases '[' n with ⟨hno, -⟩ | ⟨before, after, -, hcs, heq⟩
    · exact hno hmem
    · have hle : (partition ']' after).1.length ≤ after.length :=
        partition_before_sublist.length_le
      have hlength : n.length = before.length + (after.length + 1) := by simp [hcs]
      simp only [hostinfo, rpartition_of_not_mem huser, heq] at h
      omega
  refine ⟨hopen, ?_, hsame⟩
  intro hmem
  have hlt : (partition ':' n).1.length < n.length := partition_before_lt hmem
  simp only [hostinfo, rpartition_of_not_mem huser, partition_of_not_mem hopen, cut] at h
  omega

/-- The host property of ASCII text: the same text up to lower case. -/
theorem hostname_ascii {host : List Char} (hascii : isascii n = true)
    (h : hostname data n = some host) :
    isascii host = true ∧ host.length = (hostinfo n).1.length ∧
      ascii_lower host = ascii_lower (hostinfo n).1 := by
  have hinfo : isascii (hostinfo n).1 = true := isascii_sublist hostinfo_sublist hascii
  unfold hostname at h
  dsimp only at h
  split at h
  · cases h
  · have hhost := Option.some_inj.mp h
    rcases partition_cases '%' (hostinfo n).1 with ⟨-, heq⟩ | ⟨before, after, -, hcs, heq⟩
    · have hsame : ascii_lower (hostinfo n).1 = host := by
        rw [← hhost, heq]
        simp [data.lower_ascii _ hinfo]
      rw [← hsame]
      exact ⟨ascii_lower_ascii hinfo, ascii_lower_length, ascii_lower_idem⟩
    · have hparts := hinfo
      rw [hcs, isascii_append] at hparts
      have hsame : ascii_lower before ++ '%' :: after = host := by
        rw [← hhost, heq]
        simp [data.lower_ascii _ hparts.1]
      rw [← hsame, hcs]
      refine ⟨isascii_append.mpr ⟨ascii_lower_ascii hparts.1, hparts.2⟩, ?_, ?_⟩
      · simp [ascii_lower_length]
      · simp only [ascii_lower_append, ascii_lower_idem]

/-- A host of ASCII in lower case is its own host property. -/
theorem hostname_eq {host : List Char} (hinfo : (hostinfo n).1 = host) (hne : host ≠ [])
    (hascii : isascii host = true) (hlower : ascii_lower host = host) :
    hostname data n = some host := by
  unfold hostname
  dsimp only
  rw [hinfo, if_neg hne, Option.some_inj]
  rcases partition_cases '%' host with ⟨-, heq⟩ | ⟨before, after, -, hcs, heq⟩
  · rw [heq]
    simp [data.lower_ascii _ hascii, hlower]
  · rw [hcs, ascii_lower_append] at hlower
    have hbefore : ascii_lower before = before :=
      (List.append_inj hlower (by simp [ascii_lower_length])).1
    rw [hcs, isascii_append] at hascii
    rw [heq]
    simp [data.lower_ascii _ hascii.1, hbefore, hcs]

theorem hostname_bare (hat : '@' ∉ n) (hopen : '[' ∉ n) (hcolon : ':' ∉ n) (hne : n ≠ [])
    (hascii : isascii n = true) (hlower : ascii_lower n = n) : hostname data n = some n :=
  hostname_eq (by rw [hostinfo_bare hat hopen hcolon]) hne hascii hlower

/-! ### Bare hosts -/

/-- An authority that is a host and nothing else, with no character that ends it. -/
structure Bare (n : List Char) : Prop where
  safe : Safe n
  plain : ∀ c ∈ n, is_delimiter c = false
  no_user : '@' ∉ n
  no_brackets : '[' ∉ n ∧ ']' ∉ n
  no_port : ':' ∉ n

theorem Bare.brackets (h : Bare n) : brackets_ok n = true := by
  have hboth : ¬ ('[' ∈ n ∧ ']' ∈ n) := fun hmem => h.no_brackets.1 hmem.1
  rw [brackets_ok, if_neg hboth]
  exact decide_eq_true h.no_brackets

theorem netloc_ok_ascii (h : isascii n = true) : netloc_ok data n = true := by
  simp only [netloc_ok, h, if_true]

/-- A host as long as the authority written leaves no room for anything else. -/
theorem reads_bare {host : List Char} (hscheme : p.scheme = "https".toList)
    (hnetloc : p.netloc ≠ []) (hp : Parted p) (hascii : isascii p.netloc = true)
    (h : urlsplit data (urlunsplit p) = some p') (huser : has_userinfo p'.netloc = false)
    (hhost : hostname data p'.netloc = some host) (hlength : p.netloc.length ≤ host.length) :
    Bare p.netloc ∧ p'.netloc = p.netloc := by
  obtain ⟨-, hbrackets, hread⟩ := reads_authority hscheme hnetloc hp h
  -- each reading step keeps a piece of the authority, so at equal length it keeps all of it
  have htake : p'.netloc.Sublist (remove_unsafe_bytes p.netloc) := by
    rw [hread]
    exact List.takeWhile_sublist _
  have hclean : (remove_unsafe_bytes p.netloc).Sublist p.netloc := List.filter_sublist
  have hlong := (hostname_ascii (isascii_sublist (htake.trans hclean) hascii) hhost).2.1
  have hinfo : (hostinfo p'.netloc).1.length ≤ p'.netloc.length := hostinfo_sublist.length_le
  have hshort := htake.length_le
  have hcleanlength := hclean.length_le
  have hunsafe : remove_unsafe_bytes p.netloc = p.netloc := hclean.eq_of_length (by omega)
  have hsame : p'.netloc = p.netloc := (htake.trans hclean).eq_of_length (by omega)
  have hat : '@' ∉ p'.netloc := by
    intro hmem
    rw [has_userinfo_iff.mpr hmem] at huser
    cases huser
  obtain ⟨hopen, hcolon, -⟩ := hostinfo_whole hat (by omega)
  have hclose : ']' ∉ p'.netloc := by
    have hboth : ¬ ('[' ∈ p'.netloc ∧ ']' ∈ p'.netloc) := fun hmem => hopen hmem.1
    rw [brackets_ok, if_neg hboth] at hbrackets
    exact (of_decide_eq_true hbrackets).2
  refine ⟨⟨?_, ?_, hsame ▸ hat, hsame ▸ ⟨hopen, hclose⟩, hsame ▸ hcolon⟩, hsame⟩
  · rw [← hunsafe]
    exact remove_unsafe_bytes_safe p.netloc
  · intro c hc
    rw [← hsame, hread] at hc
    simpa using List.mem_takeWhile_imp hc

/-- An assembled URL over a bare host of ASCII is read back as it was assembled. -/
theorem urlsplit_bare (hscheme : p.scheme = "https".toList) (hnetloc : p.netloc ≠ [])
    (hp : Parted p) (hascii : isascii p.netloc = true) (hbare : Bare p.netloc) :
    urlsplit data (urlunsplit p) = some p := by
  rw [urlsplit_urlunsplit hscheme hnetloc hp hbare.safe hbare.plain, hbare.brackets,
    netloc_ok_ascii hascii]
  rfl

end Urls
