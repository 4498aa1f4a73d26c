import FirstAgent.Python.Urls
import FirstAgent.Python.IpRoundTrip
import FirstAgent.Python.Query
import FirstAgent.Contracts.Run

/-! # Admission of Public URLs

    `agent/web/safety.py`: a URL is admitted as a bounded public HTTPS locator
    and rebuilt from the mapped host, the path and the query.  Credentials in
    the query are recognised by the names of its keys; the URLs of user messages
    pass through the same admission. -/

open PyText

namespace Web

open Idna Urls

/-! ### Bounds and errors -/

def MAX_URL_CHARS : Nat := 3000
def MAX_HOST_CHARS : Nat := 253
def MAX_PATH_CHARS : Nat := 2000
def MAX_QUERY_CHARS : Nat := 1000

/-- `WebUrlError`. -/
structure WebUrlError where
  message : String
  deriving Repr, DecidableEq

abbrev Admission (α : Type) : Type := Except WebUrlError α

/-- `raise WebUrlError(message)` when `bad` holds. -/
def refuse_web (bad : Prop) [Decidable bad] (message : String) : Admission Unit :=
  Fallible.refuse bad { message }

/-- Unwrap, or `raise WebUrlError(message)`. -/
def expect_web {α : Type} (o : Option α) (message : String) : Admission α :=
  Fallible.expect o { message }

/-! ### Character tests -/

/-- A control character or white space. -/
def is_control_or_space (c : Char) : Bool :=
  c.toNat < 0x20 || (0x7F ≤ c.toNat && c.toNat ≤ 0x9F) || is_space c

/-- `_has_control_or_space`. -/
def has_control_or_space (value : List Char) : Bool := value.any is_control_or_space

/-- `host.rstrip(".")`. -/
def rstrip_dots (host : List Char) : List Char := (host.reverse.dropWhile (· == '.')).reverse

/-! ### Hosts -/

/-- `_PRIVATE_HOST_SUFFIXES`. -/
def PRIVATE_HOST_SUFFIXES : List (List Char) :=
  [".localhost".toList, ".local".toList, ".internal".toList, ".home.arpa".toList]

/-- `host == "localhost" or host.endswith(_PRIVATE_HOST_SUFFIXES)`. -/
def is_private_name (host : List Char) : Bool :=
  host == "localhost".toList || PRIVATE_HOST_SUFFIXES.any fun suffix => suffix.isSuffixOf host

/-- `_LEGACY_IPV4_LABEL.fullmatch(label)`. -/
def is_legacy_label (label : List Char) : Bool :=
  IpAddress.ascii_digits label ||
    match label with
    | '0' :: x :: digits =>
      (x == 'x' || x == 'X') && !digits.isEmpty && digits.all fun c => (IpAddress.hex_value c).isSome
    | _                  => false

/-- `_looks_like_legacy_ipv4`. -/
def looks_like_legacy_ipv4 (host : List Char) : Bool :=
  let labels := split_chars '.' host
  1 ≤ labels.length && labels.length ≤ 4 && labels.all is_legacy_label

/-- A name of several labels, none of them empty. -/
def is_dotted_name (host : List Char) : Bool :=
  host.contains '.' && (split_chars '.' host).all fun label => !label.isEmpty

/-- The authority text of an address. -/
def address_text (address : IpAddress) : List Char :=
  match address with
  | .v4 _   => address.compressed
  | .v6 _ _ => '[' :: (address.compressed ++ [']'])

/-- The authority of a mapped host: a public address or a dotted public name. -/
def public_authority (ascii_host : List Char) : Admission (List Char) :=
  match IpAddress.ip_address ascii_host with
  | none         => do
    refuse_web (looks_like_legacy_ipv4 ascii_host) "URL host uses a non-canonical numeric address"
    refuse_web (¬ is_dotted_name ascii_host) "URL host is not a public DNS name"
    return ascii_host
  | some address => do
    refuse_web (¬ address.is_global) "URL address is not globally routable"
    return address_text address

/-! ### Credential keys -/

/-- `_CREDENTIAL_KEY_PARTS`. -/
def CREDENTIAL_KEY_PARTS : List (List (List Char)) :=
  [["key"], ["api", "key"], ["apikey"], ["access", "token"], ["accesstoken"], ["auth"],
    ["authorization"], ["credential"], ["password"], ["secret"], ["session"], ["session", "id"],
    ["sessionid"], ["signature"], ["sig"], ["token"],
    ["x", "amz", "signature"]].map (List.map String.toList)

/-- A character of `[a-z0-9]`. -/
def is_key_char (c : Char) : Bool :=
  (97 ≤ c.toNat && c.toNat ≤ 122) || (48 ≤ c.toNat && c.toNat ≤ 57)

/-- `re.sub(r"[^a-z0-9]+", "_", text)`; `inside` says that the run at hand is replaced already. -/
def collapse : (inside : Bool) → List Char → List Char
  | _, []              => []
  | inside, c :: rest =>
    if is_key_char c then c :: collapse false rest
    else if inside then collapse true rest
    else '_' :: collapse true rest

/-- `text.strip("_")`. -/
def strip_underscores (text : List Char) : List Char :=
  ((text.dropWhile (· == '_')).reverse.dropWhile (· == '_')).reverse

/-- The words of `credential` stand in `parts`, and behind them numbers at most. -/
def names_credential (parts credential : List (List Char)) : Bool :=
  (List.range (parts.length + 1 - credential.length)).any fun index =>
    (parts.drop index).take credential.length == credential &&
      (parts.drop (index + credential.length)).all IpAddress.ascii_digits

/-- `_query_key_is_credential`. -/
def query_key_is_credential (key : List Char) : Bool :=
  let normalized := strip_underscores (collapse false (key.flatMap casefold_char))
  let compact := normalized.filter fun c => c != '_'
  let parts := (split_chars '_' normalized).filter fun part => !part.isEmpty
  "idtokenhint".toList.isSuffixOf compact || "accesstokenhint".toList.isSuffixOf compact ||
    CREDENTIAL_KEY_PARTS.any (names_credential parts)

/-- The query is within its fields and none of its keys names a credential. -/
def check_query (query : List Char) : Admission Unit := do
  let query_pairs ← expect_web (parse_qsl 50 query) "URL query is malformed or oversized"
  refuse_web (query_pairs.any fun p => query_key_is_credential p.1)
    "URL query appears to carry credentials"

/-! ### Admission -/

section admission

variable (data : UnicodeData)

/-- The parts of the rebuilt URL. -/
def rebuilt (parts : SplitResult) (netloc : List Char) : SplitResult :=
  { scheme := "https".toList, netloc
    path := if parts.path = [] then ['/'] else parts.path
    query := parts.query, fragment := [] }

/-- `admit_public_url`. -/
def admit_public_url (raw_url : String) : Admission String := do
  refuse_web (raw_url = "" ∨ raw_url.toList.length > MAX_URL_CHARS ∨
    has_control_or_space raw_url.toList) "URL is empty, oversized, or contains unsafe characters"
  let parts ← expect_web (urlsplit data raw_url.toList) "URL is malformed"
  let port ← expect_web (port parts.netloc) "URL is malformed"
  refuse_web (parts.scheme ≠ "https".toList) "URL must use public HTTPS"
  let host ← expect_web (hostname data parts.netloc) "URL must use public HTTPS"
  refuse_web (has_userinfo parts.netloc) "URL must not contain userinfo"
  refuse_web (parts.fragment ≠ []) "URL must not contain a fragment"
  refuse_web (port ≠ none ∧ port ≠ some 443) "URL port is not admitted"
  let host := data.lower (rstrip_dots host)
  refuse_web (host = [] ∨ host.length > MAX_HOST_CHARS) "URL host is outside its bound"
  let ascii_host ← expect_web (encode data host) "URL host is malformed"
  refuse_web (is_private_name ascii_host) "URL host is not public"
  let netloc ← public_authority ascii_host
  refuse_web (parts.path.length > MAX_PATH_CHARS ∨ parts.query.length > MAX_QUERY_CHARS)
    "URL path or query exceeds its bound"
  check_query parts.query
  return String.ofList (urlunsplit (rebuilt parts netloc))

/-- `citation_locator`. -/
def citation_locator (admitted_url : String) : Admission String := do
  let canonical ← admit_public_url data admitted_url
  let parts ← expect_web (urlsplit data canonical.toList) "URL is malformed"
  return String.ofList (urlunsplit { parts with query := [], fragment := [] })

/-! ### URLs of user messages -/

/-- A character that is neither white space nor an angle bracket nor a quote. -/
def is_message_url_char (c : Char) : Bool :=
  !is_space c && !([60, 62, 34, 39, 96].contains c.toNat)

/-- `_URL_IN_USER_TEXT.findall(text)`; `skip` characters belong to the match before. -/
def urls_in_text : (skip : Nat) → List Char → List (List Char)
  | _, []              => []
  | skip + 1, _ :: cs => urls_in_text skip cs
  | 0, c :: cs         =>
    let run := ((c :: cs).drop 8).takeWhile is_message_url_char
    if "https://".toList.isPrefixOf (c :: cs) && !run.isEmpty then
      ("https://".toList ++ run) :: urls_in_text (7 + run.length) cs
    else urls_in_text 0 cs

/-- `raw.rstrip(_URL_TRAILING_PUNCTUATION)`. -/
def rstrip_punctuation (raw : List Char) : List Char :=
  (raw.reverse.dropWhile fun c => ".,;:!?)]\x7d".toList.contains c).reverse

/-- The loop body of `user_message_urls` for one match. -/
def add_message_url (urls : List String) (raw : List Char) : List String :=
  match admit_public_url data (String.ofList (rstrip_punctuation raw)) with
  | .error _      => urls
  | .ok canonical => if canonical ∈ urls then urls else urls ++ [canonical]

/-- The text of a user message. -/
def message_text (fact : ConversationFact) : Option String :=
  if fact.val.kind = .user_message then (fact.val.content.get "text").str? else none

/-- `user_message_urls`. -/
def user_message_urls (facts : List ConversationFact) : List String :=
  (facts.filterMap message_text).foldl
    (fun urls text => (urls_in_text 0 text.toList).foldl (add_message_url data) urls) []

end admission

end Web
