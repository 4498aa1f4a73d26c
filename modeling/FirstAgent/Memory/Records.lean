import FirstAgent.Framework.Fallible
import FirstAgent.Framework.KeyedStore
import FirstAgent.Python.JsonDump
import FirstAgent.Python.Sha256

/-! # Memory Records and their Document

    The records of a memory store, the document they are written as, and the
    strict reader of the document.  A store's records are kept in the order of
    their ids: the order of the dict they stand for is never observed. -/

open Fallible

/-! ### Contracts -/

/-- The errors of the memory store. -/
inductive MemoryError where
  | store (message : String)
  | cas_mismatch (message : String)
  | capacity (message : String)
  | provider_profile_mismatch (message : String)
  | value_error (message : String)
  deriving Repr, DecidableEq

/-- All three texts are given, or none is. -/
def provenance_complete (source_fact_id origin admission_binding_digest : Option String) : Bool :=
  [source_fact_id, origin, admission_binding_digest].all (·.isNone) ||
    [source_fact_id, origin, admission_binding_digest].all fun v => v.any (· ≠ "")

/-- A record; a time is named by the text of its float. -/
structure MemoryRecordFields where
  record_id : String
  workspace_scope_digest : String
  content : String
  content_digest : String
  created_at : String
  updated_at : String
  revision : Int
  source_fact_id : Option String := none
  origin : Option String := none
  admission_binding_digest : Option String := none
  deriving Repr, DecidableEq

def MemoryRecordFields.post_init (r : MemoryRecordFields) : Except MemoryError Unit := do
  refuse (r.record_id = "" ∨ r.workspace_scope_digest = "")
    (.value_error "record identity fields must not be empty")
  refuse (r.revision < 0) (.value_error "record revision must be non-negative")
  refuse (provenance_complete r.source_fact_id r.origin r.admission_binding_digest = false)
    (.value_error "record provenance must be complete when present")

abbrev MemoryRecord : Type := Checked MemoryRecordFields.post_init

structure ProviderTrustProfileFields where
  profile_id : String
  provider_family : String
  destination : String
  deriving Repr, DecidableEq

def ProviderTrustProfileFields.post_init (p : ProviderTrustProfileFields) :
    Except MemoryError Unit :=
  refuse (p.profile_id = "" ∨ p.provider_family = "" ∨ p.destination = "")
    (.value_error "provider trust profile fields must not be empty")

abbrev ProviderTrustProfile : Type := Checked ProviderTrustProfileFields.post_init

/-- What the header of a document binds. -/
structure MemoryHeader where
  workspace_scope_digest : String
  profile : ProviderTrustProfile

/-- A revision of the store and its records: what a document says, and what an
    instance keeps. -/
structure MemoryView where
  revision : Int
  records : List MemoryRecord
  deriving DecidableEq

def record_key (r : MemoryRecord) : String := r.val.record_id

/-- `records.get(record_id)`. -/
def MemoryView.get (v : MemoryView) (record_id : String) : Option MemoryRecord :=
  KeyedStore.find record_key record_id v.records

/-- `_content_digest`. -/
def content_digest (content : String) : String := Sha256.hexdigest content

/-! ### Writing -/

def MAX_STORE_BYTES : Nat := 32 * 1024 * 1024

def MemoryRecord.document (r : MemoryRecord) : JsonDict := JsonDict.of [
  ("content", .str r.val.content),
  ("content_digest", .str r.val.content_digest),
  ("created_at", .float r.val.created_at),
  ("updated_at", .float r.val.updated_at),
  ("revision", .int r.val.revision),
  ("source_fact_id", .opt_str r.val.source_fact_id),
  ("origin", .opt_str r.val.origin),
  ("admission_binding_digest", .opt_str r.val.admission_binding_digest)]

def ProviderTrustProfile.document (p : ProviderTrustProfile) : JsonDict := JsonDict.of [
  ("profile_id", .str p.val.profile_id),
  ("provider_family", .str p.val.provider_family),
  ("destination", .str p.val.destination)]

def records_document (records : List MemoryRecord) : JsonDict :=
  JsonDict.of (records.map fun r => (record_key r, .dict r.document))

def memory_document (header : MemoryHeader) (v : MemoryView) : JsonDict := JsonDict.of [
  ("version", .int 1),
  ("workspace_scope_digest", .str header.workspace_scope_digest),
  ("provider_profile", .dict header.profile.document),
  ("revision", .int v.revision),
  ("records", .dict (records_document v.records))]

/-- `_serialize`. -/
def serialize (header : MemoryHeader) (v : MemoryView) : Except MemoryError JsonDict := do
  let document := memory_document header v
  refuse (MAX_STORE_BYTES < (Json.dict document).text.utf8ByteSize)
    (.capacity "memory store exceeds the durable size limit")
  .ok document

/-! ### Reading -/

def KNOWN_TOP_LEVEL_KEYS : List String := [
  "version", "workspace_scope_digest", "provider_profile", "revision", "records"]

def KNOWN_PROFILE_KEYS : List String := ["profile_id", "provider_family", "destination"]

def KNOWN_RECORD_KEYS : List String := [
  "content", "content_digest", "created_at", "updated_at", "revision", "source_fact_id", "origin",
  "admission_binding_digest"]

/-- `isinstance(value, int)`, booleans apart. -/
def plain_int : Json → Option Int
  | .int n => some n
  | _      => none

/-- `_is_number`, with the float of the number. -/
def number_text : Json → Option String
  | .float r => some r
  | .int n   => some (toString n ++ ".0")
  | _        => none

/-- A text or null. -/
def text_or_null : Json → Option (Option String)
  | .null  => some none
  | .str s => some (some s)
  | _      => none

def parse_record (header : MemoryHeader) (record_id : String) (raw : Json) :
    Except MemoryError MemoryRecord := do
  let raw ← expect raw.obj? (.store "memory store record is malformed")
  refuse (¬ raw.keys.all (· ∈ KNOWN_RECORD_KEYS)) (.store "memory store record has unknown fields")
  let types : MemoryError := .store "memory store record has invalid types"
  let content ← expect (raw.get "content").str? types
  let digest ← expect (raw.get "content_digest").str? types
  let created_at ← expect (number_text (raw.get "created_at")) types
  let updated_at ← expect (number_text (raw.get "updated_at")) types
  let revision ← expect (plain_int (raw.get "revision")) types
  let provenance : MemoryError := .store "memory store record provenance is malformed"
  let source_fact_id ← expect (text_or_null (raw.get "source_fact_id")) provenance
  let origin ← expect (text_or_null (raw.get "origin")) provenance
  let admission_binding_digest ←
    expect (text_or_null (raw.get "admission_binding_digest")) provenance
  refuse (provenance_complete source_fact_id origin admission_binding_digest = false) provenance
  refuse (content_digest content ≠ digest) (.store "memory store record content digest mismatch")
  Checked.make {
    record_id
    workspace_scope_digest := header.workspace_scope_digest
    content, content_digest := digest, created_at, updated_at, revision
    source_fact_id, origin, admission_binding_digest }

def parse_records (header : MemoryHeader) :
    List (String × Json) → Except MemoryError (List MemoryRecord)
  | []                       => .ok []
  | (record_id, raw) :: rest => do
    let r ← parse_record header record_id raw
    let records ← parse_records header rest
    .ok (r :: records)

/-- The stored profile is well formed and the one of the header. -/
def check_profile (header : MemoryHeader) (stored : Json) : Except MemoryError Unit := do
  let malformed : MemoryError := .store "memory store profile is malformed"
  let d ← expect stored.obj? malformed
  refuse (¬ d.keys.Perm KNOWN_PROFILE_KEYS) malformed
  refuse (KNOWN_PROFILE_KEYS.any fun field => !(d.get field).str?.any (· ≠ "")) malformed
  refuse (d.get "profile_id" ≠ .str header.profile.val.profile_id
      ∨ d.get "provider_family" ≠ .str header.profile.val.provider_family
      ∨ d.get "destination" ≠ .str header.profile.val.destination)
    (.provider_profile_mismatch "memory store provider profile does not match")

/-- `_parse_document`. -/
def parse_document (header : MemoryHeader) (data : JsonDict) : Except MemoryError MemoryView := do
  refuse (¬ data.keys.all (· ∈ KNOWN_TOP_LEVEL_KEYS)) (.store "memory store has unknown fields")
  refuse (plain_int (data.get "version") ≠ some 1) (.store "memory store version is unsupported")
  let scope ← expect (data.get "workspace_scope_digest").str?
    (.store "memory store scope is malformed")
  refuse (scope ≠ header.workspace_scope_digest)
    (.store "memory store scope does not match the workspace")
  check_profile header (data.get "provider_profile")
  let revision ← expect (plain_int (data.get "revision"))
    (.store "memory store revision must be an integer")
  let raw_records ← expect (data.get "records").obj?
    (.store "memory store records are malformed")
  let records ← parse_records header raw_records.members
  .ok { revision, records }

/-- `_read_regular` and `_parse_document`. -/
def read_document (header : MemoryHeader) (data : JsonDict) : Except MemoryError MemoryView := do
  refuse (MAX_STORE_BYTES < (Json.dict data).text.utf8ByteSize)
    (.store "memory store exceeds the size limit")
  parse_document header data

/-! ### What is written is read back -/

/-- The records a document can hold: in order, each of its scope and with the
    digest of its content. -/
structure MemoryView.Sound (v : MemoryView) (header : MemoryHeader) : Prop where
  ordered : KeyedStore.Ordered record_key v.records
  scope : ∀ r ∈ v.records, r.val.workspace_scope_digest = header.workspace_scope_digest
  digest : ∀ r ∈ v.records, r.val.content_digest = content_digest r.val.content

section RoundTrip

variable {header : MemoryHeader} {v : MemoryView} {r : MemoryRecord} {records : List MemoryRecord}

theorem text_or_null_opt (o : Option String) : text_or_null (.opt_str o) = some o := by
  cases o <;> rfl

theorem document_get (k : String) : r.document.get k = (Json.lookup k [
    ("content", .str r.val.content), ("content_digest", .str r.val.content_digest),
    ("created_at", .float r.val.created_at), ("updated_at", .float r.val.updated_at),
    ("revision", .int r.val.revision), ("source_fact_id", .opt_str r.val.source_fact_id),
    ("origin", .opt_str r.val.origin),
    ("admission_binding_digest", .opt_str r.val.admission_binding_digest)]).freeze :=
  JsonDict.get_of_nodup (by simp) k

theorem document_keys : r.document.keys.all (· ∈ KNOWN_RECORD_KEYS) = true := by
  have hkeys : r.document.keys.Perm KNOWN_RECORD_KEYS := JsonDict.keys_of_nodup (by simp)
  rw [List.all_eq_true]
  intro k hk
  exact decide_eq_true (hkeys.mem_iff.mp hk)

/-- A record is read back from its document. -/
theorem parse_record_document
    (hscope : r.val.workspace_scope_digest = header.workspace_scope_digest)
    (hdigest : r.val.content_digest = content_digest r.val.content) :
    parse_record header (record_key r) (.dict r.document) = .ok r := by
  have hvalid := r.valid
  simp only [MemoryRecordFields.post_init, bind_eq_ok, refuse_eq_ok] at hvalid
  obtain ⟨_, _, _, _, hprovenance⟩ := hvalid
  have hcontent : (r.document.get "content").str? = some r.val.content := by
    simp [document_get, Json.lookup]
  have hstored : (r.document.get "content_digest").str? = some r.val.content_digest := by
    simp [document_get, Json.lookup]
  have hcreated : number_text (r.document.get "created_at") = some r.val.created_at := by
    simp [document_get, Json.lookup, number_text]
  have hupdated : number_text (r.document.get "updated_at") = some r.val.updated_at := by
    simp [document_get, Json.lookup, number_text]
  have hrevision : plain_int (r.document.get "revision") = some r.val.revision := by
    simp [document_get, Json.lookup, plain_int]
  have hsource : text_or_null (r.document.get "source_fact_id") = some r.val.source_fact_id := by
    simp [document_get, Json.lookup, text_or_null_opt]
  have horigin : text_or_null (r.document.get "origin") = some r.val.origin := by
    simp [document_get, Json.lookup, text_or_null_opt]
  have hadmission : text_or_null (r.document.get "admission_binding_digest") =
      some r.val.admission_binding_digest := by
    simp [document_get, Json.lookup, text_or_null_opt]
  simp only [parse_record, Json.obj?_dict, bind_eq_ok, expect_eq_ok, refuse_eq_ok, hcontent,
    hstored, hcreated, hupdated, hrevision, hsource, horigin, hadmission, Option.some.injEq,
    exists_eq_left', Checked.make_eq_ok]
  refine ⟨(), by simp [document_keys], (), hprovenance, (), by simp [hdigest], ?_⟩
  rw [← hscope]
  rfl

theorem parse_records_document
    (hscope : ∀ r ∈ records, r.val.workspace_scope_digest = header.workspace_scope_digest)
    (hdigest : ∀ r ∈ records, r.val.content_digest = content_digest r.val.content) :
    parse_records header (records.map fun r => (record_key r, .dict r.document)) = .ok records := by
  induction records with
  | nil => rfl
  | cons r records ih =>
    have hr := parse_record_document (hscope r List.mem_cons_self) (hdigest r List.mem_cons_self)
    have hrest := ih (fun r hr => hscope r (List.mem_cons_of_mem _ hr))
      (fun r hr => hdigest r (List.mem_cons_of_mem _ hr))
    simp only [List.map_cons, parse_records, hr, hrest, bind_eq_ok]
    exact ⟨r, rfl, records, rfl, rfl⟩

/-- The records of a store in order are the members of their document. -/
theorem records_document_members (h : KeyedStore.Ordered record_key records) :
    (records_document records).members =
      records.map fun r => (record_key r, .dict r.document) := by
  refine JsonDict.members_of_increasing ?_ ?_
  · exact List.pairwise_map.mpr h.pairwise
  · intro m hm
    obtain ⟨r, _, rfl⟩ := List.mem_map.mp hm
    exact Json.freeze_dict _

theorem check_profile_document : check_profile header (.dict header.profile.document) = .ok () := by
  have hkeys : header.profile.document.keys.Perm KNOWN_PROFILE_KEYS :=
    JsonDict.keys_of_nodup (by simp)
  have hvalid := header.profile.valid
  simp only [ProviderTrustProfileFields.post_init, refuse_eq_ok, not_or] at hvalid
  obtain ⟨hid, hfamily, hdestination⟩ := hvalid
  have hget : ∀ k, header.profile.document.get k = (Json.lookup k [
      ("profile_id", .str header.profile.val.profile_id),
      ("provider_family", .str header.profile.val.provider_family),
      ("destination", .str header.profile.val.destination)]).freeze := fun k =>
    JsonDict.get_of_nodup (by simp) k
  simp only [check_profile, Json.obj?_dict, bind_eq_ok, expect_eq_ok, refuse_eq_ok,
    Option.some.injEq, exists_eq_left']
  refine ⟨(), by simp [hkeys], (), ?_, ?_⟩
  · have hstr : ∀ s, (Json.str s).str? = some s := fun _ => rfl
    simp [KNOWN_PROFILE_KEYS, hget, Json.lookup, hstr, hid, hfamily, hdestination]
  · simp [hget, Json.lookup]

theorem memory_document_get (k : String) : (memory_document header v).get k = (Json.lookup k [
    ("version", .int 1), ("workspace_scope_digest", .str header.workspace_scope_digest),
    ("provider_profile", .dict header.profile.document), ("revision", .int v.revision),
    ("records", .dict (records_document v.records))]).freeze :=
  JsonDict.get_of_nodup (by simp) k

/-- A sound view is read back from its document. -/
theorem parse_memory_document (h : v.Sound header) :
    parse_document header (memory_document header v) = .ok v := by
  have hkeys : (memory_document header v).keys.Perm KNOWN_TOP_LEVEL_KEYS :=
    JsonDict.keys_of_nodup (by simp)
  have hknown : (memory_document header v).keys.all (· ∈ KNOWN_TOP_LEVEL_KEYS) = true := by
    rw [List.all_eq_true]
    intro k hk
    exact decide_eq_true (hkeys.mem_iff.mp hk)
  have hversion : plain_int ((memory_document header v).get "version") = some 1 := by
    simp [memory_document_get, Json.lookup, plain_int]
  have hscope : ((memory_document header v).get "workspace_scope_digest").str? =
      some header.workspace_scope_digest := by
    simp [memory_document_get, Json.lookup]
  have hprofile : check_profile header ((memory_document header v).get "provider_profile") =
      .ok () := by
    have hstored : (memory_document header v).get "provider_profile" =
        .dict header.profile.document := by
      simp [memory_document_get, Json.lookup]
    rw [hstored]
    exact check_profile_document
  have hrevision : plain_int ((memory_document header v).get "revision") = some v.revision := by
    simp [memory_document_get, Json.lookup, plain_int]
  have hrecords : ((memory_document header v).get "records").obj? =
      some (records_document v.records) := by
    simp [memory_document_get, Json.lookup]
  simp only [parse_document, hknown, hversion, hscope, hrevision, hrecords, bind_eq_ok,
    expect_eq_ok, refuse_eq_ok, Option.some.injEq, exists_eq_left']
  refine ⟨(), by simp, (), by simp, (), by simp, (), hprofile, ?_⟩
  rw [records_document_members h.ordered, parse_records_document h.scope h.digest]
  exact ⟨v.records, rfl, rfl⟩

/-- What `_serialize` writes is read back. -/
theorem read_serialized {document : JsonDict} (h : v.Sound header)
    (hwritten : serialize header v = .ok document) : read_document header document = .ok v := by
  simp only [serialize, bind_eq_ok, refuse_eq_ok, ok_eq_ok] at hwritten
  obtain ⟨_, hfits, rfl⟩ := hwritten
  simp only [read_document, bind_eq_ok, refuse_eq_ok]
  exact ⟨(), hfits, parse_memory_document h⟩

end RoundTrip
