import FirstAgent.Python.Urls
import FirstAgent.Python.Sha256

/-! # Admission of Browser URLs

    `BrowserURLPolicy`: only HTTPS, a canonical host and resolved answers that
    are all public; a site-bound session also wants the origin in its allowlist.
    The tests of the host (`localhost`, address literals, trailing dot) read the
    host as written, while the URL is rebuilt from the host the IDNA codec makes
    of it.  `admission_stable_iff` says when the rebuilt URL still passes them. -/

open PyText

namespace Browser

open Idna Urls

/-- `BrowserMode`. -/
inductive BrowserMode where
  | public_read_ephemeral
  | site_bound_interactive
  | task_loopback_ephemeral
  deriving Repr, DecidableEq

/-- What `admit` raises: a closed reason, or a `ValueError` of `urlsplit`. -/
inductive UrlError where
  | url_policy_error (reason : String)
  | value_error
  deriving Repr, DecidableEq

abbrev Admission (α : Type) : Type := Except UrlError α

/-- `raise URLPolicyError(reason)` when `bad` holds. -/
def refuse_url (bad : Prop) [Decidable bad] (reason : String) : Admission Unit :=
  Fallible.refuse bad (.url_policy_error reason)

/-- Unwrap, or `raise URLPolicyError(reason)`. -/
def expect_url {α : Type} (o : Option α) (reason : String) : Admission α :=
  Fallible.expect o (.url_policy_error reason)

/-- `AddressResolver`: the answers for a host, or what the lookup raises. -/
structure AddressResolver where
  resolve : String → Admission (List String)

/-- What the policy reads of a `LoopbackOriginBindingV1`. -/
structure LoopbackOriginBindingV1 where
  origin : String
  binding_digest : String

structure AdmittedURLV1 where
  canonical_url : String
  canonical_origin : String
  address_digest : String
  deriving Repr, DecidableEq

/-! ### Hosts and answers -/

/-- `host == "localhost" or host.endswith(".localhost")`. -/
def is_localhost (host : List Char) : Bool :=
  host == "localhost".toList || ".localhost".toList.isSuffixOf host

section hosts

variable (data : UnicodeData)

/-- `_canonical_host`. -/
def canonical_host (host : List Char) : Admission (List Char) := do
  -- a trailing dot is the absolute form of a name, which would pass by the allowlist
  refuse_url (host.getLast? = some '.') "non_canonical_host"
  let canonical ← expect_url (encode data (data.lower host)) "non_canonical_host"
  refuse_url (canonical = []) "non_canonical_host"
  return canonical

/-- `_require_public_address`. -/
def require_public_address (answer : String) : Admission Unit := do
  let address ← expect_url (IpAddress.ip_address answer.toList) "unresolvable_address"
  -- an IPv4-mapped address is judged by its IPv4 address
  let address := address.ipv4_mapped.getD address
  refuse_url (address.is_private ∨ address.is_loopback ∨ address.is_link_local ∨
    address.is_multicast ∨ address.is_unspecified ∨ address.is_reserved ∨ ¬ address.is_global)
    "non_public_address"

/-- `canonical_https_origin`. -/
def canonical_https_origin (value : String) : Admission String := do
  refuse_url (value = "") "non_canonical_origin"
  let parts ← Fallible.expect (urlsplit data value.toList) .value_error
  refuse_url (parts.scheme ≠ "https".toList ∨ has_userinfo parts.netloc ∨ parts.path ≠ [] ∨
    parts.query ≠ [] ∨ parts.fragment ≠ []) "non_canonical_origin"
  let host ← expect_url (hostname data parts.netloc) "non_canonical_origin"
  refuse_url (is_localhost host) "non_canonical_origin"
  refuse_url ((IpAddress.ip_address host).isSome) "non_canonical_origin"
  let port ← expect_url (port parts.netloc) "non_canonical_origin"
  refuse_url (port ≠ none) "non_canonical_origin"
  let host ← canonical_host data host
  let canonical := "https://" ++ String.ofList host
  refuse_url (value ≠ canonical) "non_canonical_origin"
  return canonical

/-- `browser_site_policy_digest`. -/
def browser_site_policy_digest (allowed_origins : List String) : Admission String := do
  refuse_url (allowed_origins = []) "empty_site_policy"
  let canonical ← allowed_origins.mapM (canonical_https_origin data)
  refuse_url (canonical.dedup.length ≠ canonical.length) "duplicate_site_origin"
  return canonical_json_digest
    (.dict (JsonDict.of [("allowed_origins", .arr ((sorted_set canonical).map .str))]))

end hosts

/-! ### Admission -/

/-- `BrowserURLPolicy`, with the Unicode tables of its interpreter. -/
structure BrowserURLPolicy where
  data : UnicodeData
  resolver : AddressResolver

def DEFAULT_HTTPS_PORT : Nat := 443

/-- The identity of the address set of an origin. -/
def address_digest (origin : String) (answers : List String) : String :=
  canonical_json_digest (.dict (JsonDict.of
    [("origin", .str origin), ("addresses", .arr ((sorted_set answers).map .str))]))

/-- `_admit_task_loopback`. -/
def admit_task_loopback (data : UnicodeData) (parts : SplitResult) (allowed_origins : List String)
    (binding : Option LoopbackOriginBindingV1) : Admission AdmittedURLV1 := do
  let binding ← expect_url binding "loopback_binding_required"
  refuse_url (has_userinfo parts.netloc) "userinfo_not_allowed"
  let port ← expect_url (port parts.netloc) "non_canonical_port"
  refuse_url (parts.scheme ≠ "http".toList ∨ hostname data parts.netloc ≠ some "127.0.0.1".toList ∨
    port = none ∨ allowed_origins ≠ [binding.origin]) "origin_not_in_loopback_binding"
  let authority := "127.0.0.1:" ++ toString (port.getD 0)
  let canonical_origin := "http://" ++ authority
  refuse_url (canonical_origin ≠ binding.origin) "origin_not_in_loopback_binding"
  return {
    canonical_url := String.ofList
      (urlunsplit { parts with scheme := "http".toList, netloc := authority.toList })
    canonical_origin
    -- the binding is the only identity of a local address, no resolver is asked
    address_digest := canonical_json_digest (.dict (JsonDict.of
      [("origin", .str canonical_origin),
        ("loopback_binding_digest", .str binding.binding_digest)])) }

/-- What `admit` does for the modes that meet the network. -/
def admit_public (policy : BrowserURLPolicy) (parts : SplitResult) (mode : BrowserMode)
    (allowed_origins : List String) : Admission AdmittedURLV1 := do
  refuse_url (parts.scheme ≠ "https".toList) "scheme_not_https"
  refuse_url (has_userinfo parts.netloc) "userinfo_not_allowed"
  let host ← expect_url (hostname policy.data parts.netloc) "host_required"
  refuse_url (is_localhost host) "localhost_not_allowed"
  refuse_url ((IpAddress.ip_address host).isSome) "ip_literal_not_allowed"
  let canonical ← canonical_host policy.data host
  let port ← expect_url (port parts.netloc) "non_canonical_port"
  refuse_url (port ≠ none ∧ port ≠ some DEFAULT_HTTPS_PORT) "non_default_port"
  let canonical_origin := "https://" ++ String.ofList canonical
  refuse_url (mode = .site_bound_interactive ∧ canonical_origin ∉ allowed_origins)
    "origin_not_in_allowlist"
  let answers ← policy.resolver.resolve (String.ofList canonical)
  refuse_url (answers = []) "no_dns_answer"
  answers.forM require_public_address
  return {
    canonical_url := String.ofList
      (urlunsplit { parts with scheme := "https".toList, netloc := canonical })
    canonical_origin
    address_digest := address_digest canonical_origin answers }

/-- `BrowserURLPolicy.admit`. -/
def BrowserURLPolicy.admit (policy : BrowserURLPolicy) (url : String) (mode : BrowserMode)
    (allowed_origins : List String) (loopback_binding : Option LoopbackOriginBindingV1) :
    Admission AdmittedURLV1 := do
  let parts ← Fallible.expect (urlsplit policy.data url.toList) .value_error
  if mode = .task_loopback_ephemeral then
    admit_task_loopback policy.data parts allowed_origins loopback_binding
  else do
    refuse_url loopback_binding.isSome "unexpected_loopback_binding"
    admit_public policy parts mode allowed_origins

/-! ### What an admission checked -/

/-- `_canonical_host` passed. -/
theorem canonical_host_ok {data : UnicodeData} {host canonical : List Char} :
    canonical_host data host = .ok canonical ↔
      host.getLast? ≠ some '.' ∧ encode data (data.lower host) = some canonical ∧
        canonical ≠ [] := by
  unfold canonical_host refuse_url expect_url
  simp only [Fallible.bind_eq_ok, Fallible.refuse_eq_ok, Fallible.expect_eq_ok,
    Fallible.pure_eq_ok]
  constructor
  · rintro ⟨-, hdot, a, hencode, -, hne, rfl⟩
    exact ⟨hdot, hencode, hne⟩
  · rintro ⟨hdot, hencode, hne⟩
    exact ⟨(), hdot, canonical, hencode, (), hne, rfl⟩

/-- An address the internet routes to one host; an IPv4-mapped one goes by its IPv4. -/
def GlobalUnicast (answer : String) : Prop :=
  ∃ address, IpAddress.ip_address answer.toList = some address ∧
    let address := address.ipv4_mapped.getD address
    address.is_global = true ∧ address.is_private = false ∧ address.is_loopback = false ∧
      address.is_link_local = false ∧ address.is_multicast = false ∧
      address.is_unspecified = false ∧ address.is_reserved = false

theorem require_public_address_ok {answer : String} {u : Unit} :
    require_public_address answer = .ok u ↔ GlobalUnicast answer := by
  unfold require_public_address refuse_url expect_url GlobalUnicast
  simp only [Fallible.bind_eq_ok, Fallible.refuse_eq_ok, Fallible.expect_eq_ok, not_or,
    Bool.not_eq_true, Bool.not_eq_false]
  constructor
  · rintro ⟨address, haddress, hprivate, hloop, hlink, hmulti, hunspec, hreserved, hglobal⟩
    exact ⟨address, haddress, hglobal, hprivate, hloop, hlink, hmulti, hunspec, hreserved⟩
  · rintro ⟨address, haddress, hglobal, hprivate, hloop, hlink, hmulti, hunspec, hreserved⟩
    exact ⟨address, haddress, hprivate, hloop, hlink, hmulti, hunspec, hreserved, hglobal⟩

/-- What a public admission went by: the host as written, the host the codec made
    of it and the answers for that one. -/
structure Passed (policy : BrowserURLPolicy) (parts : SplitResult) (mode : BrowserMode)
    (allowed_origins : List String) (host canonical : List Char) (answers : List String) :
    Prop where
  scheme : parts.scheme = "https".toList
  no_userinfo : has_userinfo parts.netloc = false
  read_host : hostname policy.data parts.netloc = some host
  not_localhost : is_localhost host = false
  not_literal : IpAddress.ip_address host = none
  mapped : canonical_host policy.data host = .ok canonical
  read_port : port parts.netloc = some none ∨ port parts.netloc = some (some DEFAULT_HTTPS_PORT)
  allowed : mode = .site_bound_interactive →
    "https://" ++ String.ofList canonical ∈ allowed_origins
  resolved : policy.resolver.resolve (String.ofList canonical) = .ok answers
  answered : answers ≠ []
  public_answers : ∀ a ∈ answers, GlobalUnicast a

/-- The admitted URL of a canonical host. -/
def admitted (parts : SplitResult) (canonical : List Char) (answers : List String) :
    AdmittedURLV1 :=
  { canonical_url := String.ofList
      (urlunsplit { parts with scheme := "https".toList, netloc := canonical })
    canonical_origin := "https://" ++ String.ofList canonical
    address_digest := address_digest ("https://" ++ String.ofList canonical) answers }

variable {policy : BrowserURLPolicy} {parts : SplitResult} {mode : BrowserMode}
  {allowed_origins : List String} {loopback_binding : Option LoopbackOriginBindingV1}
  {url : String} {r : AdmittedURLV1}

theorem admit_public_ok :
    admit_public policy parts mode allowed_origins = .ok r ↔
      ∃ host canonical answers,
        Passed policy parts mode allowed_origins host canonical answers ∧
          r = admitted parts canonical answers := by
  unfold admit_public refuse_url expect_url
  simp only [Fallible.bind_eq_ok, Fallible.refuse_eq_ok, Fallible.expect_eq_ok,
    Fallible.pure_eq_ok, Fallible.forM_eq_ok, require_public_address_ok]
  constructor
  · rintro ⟨-, hscheme, -, huser, host, hhost, -, hlocal, -, hliteral, canonical, hcanonical, port,
      hport, -, hdefault, -, hallowed, answers, hresolve, -, hanswered, -, hpublic, rfl⟩
    refine ⟨host, canonical, answers, ⟨?_, ?_, hhost, ?_, ?_, hcanonical, ?_, ?_, hresolve,
      hanswered, hpublic⟩, rfl⟩
    · simpa using hscheme
    · simpa using huser
    · simpa using hlocal
    · simpa using hliteral
    · rw [hport, Option.some_inj, Option.some_inj]
      by_cases hnone : port = none
      · exact .inl hnone
      · exact .inr (by_contra fun hne => hdefault ⟨hnone, hne⟩)
    · intro hmode
      by_contra hnot
      exact hallowed ⟨hmode, hnot⟩
  · rintro ⟨host, canonical, answers, hp, rfl⟩
    have hlocal : ¬ is_localhost host = true := by simp [hp.not_localhost]
    have huser : ¬ has_userinfo parts.netloc = true := by simp [hp.no_userinfo]
    have hliteral : ¬ (IpAddress.ip_address host).isSome = true := by simp [hp.not_literal]
    have hallowed : ¬ (mode = .site_bound_interactive ∧
        "https://" ++ String.ofList canonical ∉ allowed_origins) :=
      fun h => h.2 (hp.allowed h.1)
    obtain ⟨port, hport, hdefault⟩ : ∃ port, Urls.port parts.netloc = some port ∧
        ¬ (port ≠ none ∧ port ≠ some DEFAULT_HTTPS_PORT) := by
      rcases hp.read_port with hnone | hsome
      · exact ⟨none, hnone, fun h => h.1 rfl⟩
      · exact ⟨some DEFAULT_HTTPS_PORT, hsome, fun h => h.2 rfl⟩
    exact ⟨(), fun h => h hp.scheme, (), huser, host, hp.read_host, (), hlocal, (), hliteral, canonical,
      hp.mapped, port, hport, (), hdefault, (), hallowed, answers, hp.resolved, (), hp.answered,
      (), hp.public_answers, rfl⟩

/-- A non-loopback admission is a public one over the parts of the URL. -/
theorem admit_ok (hmode : mode ≠ .task_loopback_ephemeral) :
    policy.admit url mode allowed_origins loopback_binding = .ok r ↔
      loopback_binding = none ∧ ∃ parts, urlsplit policy.data url.toList = some parts ∧
        admit_public policy parts mode allowed_origins = .ok r := by
  unfold BrowserURLPolicy.admit refuse_url
  simp only [if_neg hmode, Fallible.bind_eq_ok, Fallible.refuse_eq_ok, Fallible.expect_eq_ok,
    Option.not_isSome_iff_eq_none]
  constructor
  · rintro ⟨parts, hparts, -, hbinding, hadmit⟩
    exact ⟨hbinding, parts, hparts, hadmit⟩
  · rintro ⟨hbinding, parts, hparts, hadmit⟩
    exact ⟨parts, hparts, (), hbinding, hadmit⟩

/-! ### Canonical admissions -/

/-- The host `admit` rebuilds a URL from: the host as written, mapped by the codec. -/
def mapped_host (data : UnicodeData) (url : String) : Option (List Char) :=
  (urlsplit data url.toList).bind fun parts =>
    (hostname data parts.netloc).bind fun host => encode data (data.lower host)

/-- A host that is read from a URL as itself and passes the tests made on hosts as written. -/
structure StandsForItself (host : List Char) : Prop where
  bare : Bare host
  lower : ascii_lower host = host
  labels : ascii_labels_fit host = true
  no_trailing_dot : host.getLast? ≠ some '.'
  not_localhost : is_localhost host = false
  not_literal : IpAddress.ip_address host = none

/-- What an admission stands for: a public host in the URL, public answers for the
    origin, an allowed origin where the session is bound to a site, and the same
    admission when the URL is admitted again. -/
structure Canonical (policy : BrowserURLPolicy) (mode : BrowserMode)
    (allowed_origins : List String) (loopback_binding : Option LoopbackOriginBindingV1)
    (r : AdmittedURLV1) : Prop where
  public_host : ∃ parts host, urlsplit policy.data r.canonical_url.toList = some parts ∧
    hostname policy.data parts.netloc = some host ∧ IpAddress.ip_address host = none ∧
      is_localhost host = false ∧ host.getLast? ≠ some '.'
  public_answers : ∀ host answers, r.canonical_origin = "https://" ++ host →
    policy.resolver.resolve host = .ok answers → ∀ a ∈ answers, GlobalUnicast a
  allowed : mode = .site_bound_interactive → r.canonical_origin ∈ allowed_origins
  again : policy.admit r.canonical_url mode allowed_origins loopback_binding = .ok r

variable {host canonical : List Char} {answers : List String}

theorem origin_inj {a b : List Char}
    (h : "https://" ++ String.ofList a = "https://" ++ String.ofList b) : a = b := by
  have hlists := congrArg String.toList h
  simpa using hlists

/-- The parts the URL of an admission is assembled from. -/
theorem assembled_parts (hparts : urlsplit policy.data url.toList = some parts)
    (hp : Passed policy parts mode allowed_origins host canonical answers) :
    Parted { parts with scheme := "https".toList, netloc := canonical } ∧ canonical ≠ [] ∧
      isascii canonical = true := by
  have hnetloc : parts.netloc ≠ [] := by
    intro hempty
    have hhost := hp.read_host
    rw [hempty] at hhost
    cases hhost
  obtain ⟨-, hencode, hne⟩ := canonical_host_ok.mp hp.mapped
  have hparted := (urlsplit_parted hparts hnetloc).1
  exact ⟨{ hparted with }, hne, encode_ascii hencode⟩

/-- A host that stands for itself is canonical already. -/
theorem StandsForItself.canonical_host (data : UnicodeData) (h : StandsForItself canonical)
    (hascii : isascii canonical = true) (hne : canonical ≠ []) :
    canonical_host data canonical = .ok canonical := by
  refine canonical_host_ok.mpr ⟨h.no_trailing_dot, ?_, hne⟩
  rw [data.lower_ascii _ hascii, h.lower]
  exact (encode_of_ascii hascii).mpr ⟨rfl, .inr h.labels⟩

/-- An admission whose host stands for itself passes again over the URL it made. -/
theorem readmits (hparts : urlsplit policy.data url.toList = some parts)
    (hp : Passed policy parts mode allowed_origins host canonical answers)
    (hself : StandsForItself canonical) :
    urlsplit policy.data (admitted parts canonical answers).canonical_url.toList
        = some { parts with scheme := "https".toList, netloc := canonical } ∧
      Passed policy { parts with scheme := "https".toList, netloc := canonical } mode
        allowed_origins canonical canonical answers := by
  obtain ⟨hparted, hne, hascii⟩ := assembled_parts hparts hp
  have hbare := hself.bare
  refine ⟨?_, ?_⟩
  · rw [admitted, String.toList_ofList]
    exact urlsplit_bare rfl hne hparted hascii hbare
  · exact
      { hp with
        scheme := rfl
        no_userinfo := by
          have hat := mt has_userinfo_iff.mp hbare.no_user
          simpa using hat
        read_host :=
          hostname_bare hbare.no_user hbare.no_brackets.1 hbare.no_port hne hascii hself.lower
        not_localhost := hself.not_localhost
        not_literal := hself.not_literal
        mapped := hself.canonical_host policy.data hascii hne
        read_port := .inl (port_bare hbare.no_user hbare.no_brackets.1 hbare.no_port) }

/-- A host stands for itself when a URL assembled over it is read back with a host that
    passes the tests and is mapped to it. -/
theorem stands_for_itself_of_read {data : UnicodeData} {p p' : SplitResult} {host' : List Char}
    (hscheme : p.scheme = "https".toList) (hne : p.netloc ≠ []) (hparted : Parted p)
    (hascii : isascii p.netloc = true) (hsplit : urlsplit data (urlunsplit p) = some p')
    (huser : has_userinfo p'.netloc = false) (hhost : hostname data p'.netloc = some host')
    (hlocal : is_localhost host' = false) (hliteral : IpAddress.ip_address host' = none)
    (hmapped : canonical_host data host' = .ok p.netloc) : StandsForItself p.netloc := by
  obtain ⟨-, -, hread⟩ := reads_authority hscheme hne hparted hsplit
  have hpiece : p'.netloc.Sublist p.netloc := by
    rw [hread]
    exact (List.takeWhile_sublist _).trans List.filter_sublist
  -- the host read again is ASCII, so the codec leaves its length alone
  obtain ⟨hascii', -, hlower'⟩ := hostname_ascii (isascii_sublist hpiece hascii) hhost
  obtain ⟨hdot, hencode, -⟩ := canonical_host_ok.mp hmapped
  rw [data.lower_ascii _ hascii', encode_of_ascii (ascii_lower_ascii hascii')] at hencode
  obtain ⟨hsame, hfit⟩ := hencode
  have hlength : p.netloc.length ≤ host'.length := by
    rw [hsame, ascii_lower_length]
  obtain ⟨hbare, hnetloc⟩ := reads_bare hscheme hne hparted hascii hsplit huser hhost hlength
  have hinfo : (hostinfo p'.netloc).1 = p.netloc := by
    rw [hnetloc, hostinfo_bare hbare.no_user hbare.no_brackets.1 hbare.no_port]
  have hlower : ascii_lower p.netloc = p.netloc := by
    rw [hinfo, ← hsame] at hlower'
    exact hlower'.symm
  have hself : host' = p.netloc := by
    have hbarehost := @hostname_bare data _ hbare.no_user hbare.no_brackets.1 hbare.no_port
      hne hascii hlower
    rw [hnetloc, hbarehost, Option.some_inj] at hhost
    exact hhost.symm
  rw [hself] at hdot hlocal hliteral hfit
  refine ⟨hbare, hlower, ?_, hdot, hlocal, hliteral⟩
  rcases hfit with hnil | hfit
  · rw [hlower] at hnil
    exact absurd hnil hne
  · rw [hlower] at hfit
    exact hfit

theorem mapped_host_eq (hparts : urlsplit policy.data url.toList = some parts)
    (hp : Passed policy parts mode allowed_origins host canonical answers) :
    mapped_host policy.data url = some canonical := by
  obtain ⟨-, hencode, -⟩ := canonical_host_ok.mp hp.mapped
  simp only [mapped_host, hparts, Option.bind_some, hp.read_host, hencode]

/-- The answers and the allowlist are as an admission found them, whatever the host. -/
theorem admitted_answers (hp : Passed policy parts mode allowed_origins host canonical answers)
    {name : String} {found : List String}
    (horigin : (admitted parts canonical answers).canonical_origin = "https://" ++ name)
    (hfound : policy.resolver.resolve name = .ok found) : ∀ a ∈ found, GlobalUnicast a := by
  have hname : name = String.ofList canonical := by
    have hlists := origin_inj (a := canonical) (b := name.toList) (by simpa [admitted] using horigin)
    rw [hlists, String.ofList_toList]
  rw [hname, hp.resolved] at hfound
  cases hfound
  exact hp.public_answers

/-- An admission whose mapped host stands for itself is canonical. -/
theorem canonical_of_stands_for_itself (hmode : mode ≠ .task_loopback_ephemeral)
    (h : policy.admit url mode allowed_origins loopback_binding = .ok r)
    (hself : ∀ host, mapped_host policy.data url = some host → StandsForItself host) :
    Canonical policy mode allowed_origins loopback_binding r := by
  obtain ⟨hbinding, parts, hparts, hadmit⟩ := (admit_ok hmode).mp h
  obtain ⟨host, canonical, answers, hp, rfl⟩ := admit_public_ok.mp hadmit
  have hstands := hself canonical (mapped_host_eq hparts hp)
  obtain ⟨hparts', hp'⟩ := readmits hparts hp hstands
  refine ⟨⟨_, canonical, hparts', hp'.read_host, hp'.not_literal, hp'.not_localhost,
    hstands.no_trailing_dot⟩, ?_, hp.allowed, ?_⟩
  · exact fun name found horigin hfound => admitted_answers hp horigin hfound
  · exact (admit_ok hmode).mpr ⟨hbinding, _, hparts', admit_public_ok.mpr
      ⟨canonical, canonical, answers, hp', rfl⟩⟩

/-- A browser admission is canonical, and stable under a second one, exactly when the
    host the codec makes of the URL's host stands for itself. -/
theorem admission_stable_iff (hmode : mode ≠ .task_loopback_ephemeral)
    (h : policy.admit url mode allowed_origins loopback_binding = .ok r) :
    Canonical policy mode allowed_origins loopback_binding r ↔
      ∀ host, mapped_host policy.data url = some host → StandsForItself host := by
  refine ⟨?_, canonical_of_stands_for_itself hmode h⟩
  obtain ⟨-, parts, hparts, hadmit⟩ := (admit_ok hmode).mp h
  obtain ⟨host, canonical, answers, hp, rfl⟩ := admit_public_ok.mp hadmit
  rw [mapped_host_eq hparts hp]
  rintro hcanonical mapped hmapped
  cases hmapped
  obtain ⟨-, parts', hparts', hadmit'⟩ := (admit_ok hmode).mp hcanonical.again
  obtain ⟨host', canonical', answers', hp', hsame⟩ := admit_public_ok.mp hadmit'
  have horigin := congrArg AdmittedURLV1.canonical_origin hsame
  have hcanonical' : canonical = canonical' := origin_inj horigin
  subst hcanonical'
  obtain ⟨hparted, hne, hascii⟩ := assembled_parts hparts hp
  rw [admitted, String.toList_ofList] at hparts'
  exact stands_for_itself_of_read rfl hne hparted hascii hparts' hp'.no_userinfo hp'.read_host
    hp'.not_localhost hp'.not_literal hp'.mapped

/-! ### Site policies

    A site policy is checked origin by origin with the tests of the host as written,
    so an origin of a checked policy cannot hide a host that fails them. -/

/-- `canonical_https_origin` returns the origin it was given, over a host that stands
    for itself. -/
theorem canonical_https_origin_ok {data : UnicodeData} {value origin : String}
    (h : canonical_https_origin data value = .ok origin) :
    ∃ host, value = "https://" ++ String.ofList host ∧ origin = value ∧ StandsForItself host := by
  unfold canonical_https_origin refuse_url expect_url at h
  simp only [Fallible.bind_eq_ok, Fallible.refuse_eq_ok, Fallible.expect_eq_ok,
    Fallible.pure_eq_ok, not_or, not_not] at h
  obtain ⟨-, -, parts, hparts, -, ⟨hscheme, huser, -, -, -⟩, host', hhost, -, hlocal, -, hliteral,
    port, -, -, -, host, hmapped, -, hvalue, horigin⟩ := h
  obtain ⟨-, hencode, hne⟩ := canonical_host_ok.mp hmapped
  have hparted : Parted ⟨"https".toList, host, [], [], []⟩ := by
    constructor <;> simp [Safe]
  have hurl : value.toList = urlunsplit ⟨"https".toList, host, [], [], []⟩ := by
    rw [urlunsplit_https rfl hne hparted, hvalue]
    simp [rest_text]
  rw [hurl] at hparts
  refine ⟨host, hvalue, horigin ▸ hvalue.symm, ?_⟩
  exact stands_for_itself_of_read (p := ⟨"https".toList, host, [], [], []⟩) rfl hne hparted
    (encode_ascii hencode) hparts (by simpa using huser) hhost (by simpa using hlocal)
    (by simpa using hliteral) hmapped

/-- Bound to a checked site policy, every admission is canonical. -/
theorem site_bound_canonical
    (hpolicy : ∀ origin ∈ allowed_origins, canonical_https_origin policy.data origin = .ok origin)
    (h : policy.admit url .site_bound_interactive allowed_origins loopback_binding = .ok r) :
    Canonical policy .site_bound_interactive allowed_origins loopback_binding r := by
  have hmode : BrowserMode.site_bound_interactive ≠ .task_loopback_ephemeral := by decide
  obtain ⟨-, parts, hparts, hadmit⟩ := (admit_ok hmode).mp h
  obtain ⟨host, canonical, answers, hp, rfl⟩ := admit_public_ok.mp hadmit
  obtain ⟨site, hsite, -, hself⟩ :=
    canonical_https_origin_ok (hpolicy _ (hp.allowed rfl))
  refine canonical_of_stands_for_itself hmode h ?_
  rw [mapped_host_eq hparts hp]
  intro mapped hmapped
  cases hmapped
  rw [origin_inj hsite]
  exact hself

/-! ### Two hosts -/

/-- One public answer for every name. -/
def public_policy : BrowserURLPolicy where
  data := fullwidth_data
  resolver := { resolve := fun _ => .ok ["8.8.8.8"] }

/-- A plain name stands for itself, and its admission is canonical. -/
theorem plain_name_canonical : ∃ r,
    public_policy.admit "https://Example.com:443/a?b" .public_read_ephemeral [] none = .ok r ∧
      r.canonical_url = "https://example.com/a?b" ∧
      Canonical public_policy .public_read_ephemeral [] none r := by
  have hadmit : Fallible.succeeds
      ( public_policy.admit "https://Example.com:443/a?b" .public_read_ephemeral [] none)
      (fun r => r.canonical_url == "https://example.com/a?b") = true := by
    decide +kernel
  obtain ⟨r, hr, hurl⟩ := Fallible.succeeds_iff.mp hadmit
  have hmapped : mapped_host fullwidth_data "https://Example.com:443/a?b"
      = some "example.com".toList := by decide +kernel
  refine ⟨r, hr, beq_iff_eq.mp hurl, (admission_stable_iff (by decide) hr).mpr ?_⟩
  intro host hhost
  rw [show public_policy.data = fullwidth_data from rfl, hmapped] at hhost
  cases hhost
  refine ⟨⟨forall_mem_of_all (by decide), forall_mem_of_all (by decide), ?_, ?_, ?_⟩,
    ?_, ?_, ?_, ?_, ?_⟩ <;> decide +kernel

/-- An admission bound to the site of that name. -/
theorem plain_site_canonical : ∃ r,
    public_policy.admit "https://Example.com:443/a?b" .site_bound_interactive
        ["https://example.com"] none = .ok r ∧
      Canonical public_policy .site_bound_interactive ["https://example.com"] none r := by
  have hadmit : Fallible.succeeds
      ( public_policy.admit "https://Example.com:443/a?b" .site_bound_interactive
        ["https://example.com"] none)
      (fun r => r.canonical_url == "https://example.com/a?b") = true := by
    decide +kernel
  obtain ⟨r, hr, -⟩ := Fallible.succeeds_iff.mp hadmit
  refine ⟨r, hr, site_bound_canonical ?_ hr⟩
  intro origin horigin
  rw [List.mem_singleton.mp horigin]
  decide +kernel

/-- A full-width digit hides the address literal `8.8.8.8` from the tests of the host
    as written; the URL built from it is refused when it is admitted again. -/
theorem fullwidth_literal_differs : ∃ r,
    public_policy.admit "https://\uFF18.8.8.8/" .public_read_ephemeral [] none = .ok r ∧
      ¬ Canonical public_policy .public_read_ephemeral [] none r := by
  have hadmit : Fallible.succeeds
      ( public_policy.admit "https://\uFF18.8.8.8/" .public_read_ephemeral [] none)
      (fun r => r.canonical_url == "https://8.8.8.8/") = true := by
    decide +kernel
  have hagain : Fallible.succeeds
      ( public_policy.admit "https://8.8.8.8/" .public_read_ephemeral [] none)
      (fun _ => true) = false := by
    decide +kernel
  obtain ⟨r, hr, hurl⟩ := Fallible.succeeds_iff.mp hadmit
  refine ⟨r, hr, fun hcanonical => ?_⟩
  have hok := hcanonical.again
  rw [beq_iff_eq.mp hurl] at hok
  rw [hok] at hagain
  cases hagain

end Browser
