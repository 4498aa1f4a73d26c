import FirstAgent.Contracts.Receipts
import FirstAgent.State.Rules

/-! # Source Projection of Tool Results

    A tool result may carry source receipts.  For one context build every
    result is validated once and projected onto the active Goal: a receipt of
    another Goal revision is dropped, and a result without current receipts
    is omitted. -/

open Fallible

namespace Fallible

end Fallible

/-! ### Errors of a context build -/

/-- What a context build raises. -/
inductive ContextError where
  /-- `ContextLimitError`. -/
  | limit (message : String)
  /-- `RetryableContextSourceError`. -/
  | retryable_source
  | raised (error : PyError)
  deriving Repr, DecidableEq

/-- A computation of a context build. -/
abbrev Ctx (α : Type) : Type := Except ContextError α

namespace Ctx

/-- `raise ContextLimitError(message)` when `bad` holds. -/
def refuse_limit (bad : Prop) [Decidable bad] (message : String) : Ctx Unit :=
  refuse bad (.limit message)

/-- Unwrap an optional value or `raise ContextLimitError(message)`. -/
def expect_limit {α : Type} (o : Option α) (message : String) : Ctx α :=
  expect o (.limit message)

/-- A computation of the contracts inside a context build. -/
def lift {α : Type} : Py α → Ctx α
  | .ok a    => .ok a
  | .error e => .error (.raised e)

/-- `except ValueError as error: raise ContextLimitError(message) from error`. -/
def as_limit {α : Type} (message : String) : Py α → Ctx α
  | .ok a    => .ok a
  | .error _ => .error (.limit message)

variable {α : Type} {m : String} {a : α}

theorem expect_limit_eq_ok {o : Option α} : expect_limit o m = .ok a ↔ o = some a :=
  expect_eq_ok

theorem as_limit_eq_ok {x : Py α} : as_limit m x = .ok a ↔ x = .ok a := by
  cases x <;> simp [as_limit]

end Ctx

/-! ### Facts under projection -/

namespace ConversationFact

/-- `replace(fact, content=content)`. -/
def with_content (f : ConversationFact) (content : JsonDict) : ConversationFact :=
  ⟨{ f.val with content := content }, f.valid⟩

@[simp] theorem with_content_fact_id (f : ConversationFact) (content : JsonDict) :
    (f.with_content content).val.fact_id = f.val.fact_id := rfl

@[simp] theorem with_content_kind (f : ConversationFact) (content : JsonDict) :
    (f.with_content content).val.kind = f.val.kind := rfl

/-- `fact.content.get("metadata")`, when it is an object. -/
def metadata? (f : ConversationFact) : Option JsonDict := (f.val.content.get "metadata").obj?

/-- An executed result that is not an error. -/
def succeeded (f : ConversationFact) : Bool :=
  f.val.content.get "executed" = .bool true && f.val.content.get "is_error" = .bool false

end ConversationFact

/-! ### Projections -/

namespace SourceReceiptV1

/-- `f"source-ref:v1:{receipt.receipt_digest}"`. -/
def source_ref (r : SourceReceiptV1) : String := "source-ref:v1:" ++ r.receipt_digest

/-- `{**asdict(receipt), "source_kind": receipt.source_kind.value}`. -/
def asdict (r : SourceReceiptV1) : Json :=
  .dict <| JsonDict.of [
    ("source_id", .str r.source_id),
    ("source_kind", .str r.source_kind.value),
    ("origin_locator", .str r.origin_locator),
    ("origin_request_digest", .opt_str r.origin_request_digest),
    ("observed_at", .str r.observed_at),
    ("content_digest", .str r.content_digest),
    ("original_content_digest", .opt_str r.original_content_digest),
    ("truncated", .bool r.truncated),
    ("truncation_reason", .opt_str r.truncation_reason),
    ("snapshot_digest", .opt_str r.snapshot_digest),
    ("request_identity", .opt_str r.request_identity),
    ("conversation_id", .str r.conversation_id),
    ("run_id", .str r.run_id),
    ("goal_id", .opt_str r.goal_id),
    ("goal_revision", .opt_int r.goal_revision),
    ("intent_digest", .str r.intent_digest),
    ("data_class", .str r.data_class),
    ("receipt_digest", .str r.receipt_digest),
    ("title", .opt_str r.title)]

/-- The entry of a receipt in `metadata["source_refs"]`. -/
def ref_entry (r : SourceReceiptV1) : Json :=
  .dict <| JsonDict.of [
    ("source_ref", .str r.source_ref), ("receipt_digest", .str r.receipt_digest)]

/-- The receipt binds a Goal revision. -/
def binds_goal (r : SourceReceiptV1) (goal : GoalFrame) : Bool :=
  r.goal_id = some goal.val.goal_id && r.goal_revision = some goal.val.revision

end SourceReceiptV1

/-- A tool result after its receipts are validated. -/
structure ToolResultSourceProjection where
  receipts : List SourceReceiptV1
  data_classes : List String
  source_refs : List String
  citation_sources : List (String × String)
  deriving Repr, DecidableEq

namespace ToolResultSourceProjection

/-- `_GENERIC_PROJECTION`. -/
def generic : ToolResultSourceProjection := ⟨[], ["tool_results"], [], []⟩

/-- `_file_proof_projection`. -/
def file_proof : ToolResultSourceProjection := ⟨[], ["workspace_excerpt"], [], []⟩

/-- `_projection_from_receipts`. -/
def from_receipts (receipts : List SourceReceiptV1) : ToolResultSourceProjection where
  receipts := receipts
  data_classes := PyText.sorted_set (receipts.map SourceReceiptV1.data_class)
  source_refs := receipts.map SourceReceiptV1.source_ref
  citation_sources := receipts.map fun r => (r.source_ref, r.source_id)

/-- `wire_contexts`. -/
def wire_contexts (p : ToolResultSourceProjection) : List Json :=
  (p.source_refs.zip p.receipts).map fun (source_ref, r) =>
    .dict <| JsonDict.of [
      ("source_ref", .str source_ref),
      ("source_kind", .str r.source_kind.value),
      ("origin_locator", .str r.origin_locator),
      ("observed_at", .str r.observed_at),
      ("truncated", .bool r.truncated)]

end ToolResultSourceProjection

/-- `metadata.get("source_refs") in (None, [])`. -/
def no_source_refs (metadata : JsonDict) : Bool :=
  metadata.get "source_refs" = .null || metadata.get "source_refs" = .arr []

/-- The receipts of a result, checked against the rest of its metadata. -/
def validate_receipts (metadata : JsonDict) (raw_receipts : List Json) (conversation_id : String) :
    Ctx ToolResultSourceProjection := do
  let receipts ← Ctx.as_limit "source receipt is invalid"
    (raw_receipts.mapM SourceReceiptV1.from_json)
  Ctx.refuse_limit (receipts.any fun r => r.conversation_id ≠ conversation_id)
    "source receipt conversation mismatch"
  let projection := ToolResultSourceProjection.from_receipts receipts
  Ctx.refuse_limit (metadata.get "data_classes" ≠ .strs projection.data_classes)
    "source receipt data classes are inconsistent"
  Ctx.refuse_limit (metadata.get "source_refs" ≠ .arr (receipts.map SourceReceiptV1.ref_entry))
    "source ref mapping is inconsistent"
  pure projection

/-- `validate_tool_result_source`. -/
def validate_tool_result_source (fact : ConversationFact) (conversation_id : String) :
    Ctx ToolResultSourceProjection :=
  match fact.metadata? with
  | none => pure .generic
  | some metadata =>
    if metadata.has "source_receipts" = false then do
      Ctx.refuse_limit (no_source_refs metadata = false) "citation source mapping is invalid"
      pure .generic
    else do
      let raw_receipts ← Ctx.expect_limit (metadata.get "source_receipts").arr?
        "source receipt collection is invalid"
      if raw_receipts = [] then do
        Ctx.refuse_limit (no_source_refs metadata = false) "citation source mapping is incomplete"
        pure .generic
      else validate_receipts metadata raw_receipts conversation_id

/-- `_omit_stale_source_result`. -/
def omit_stale_source_result (fact : ConversationFact) : ConversationFact :=
  fact.with_content <| fact.val.content.update [
    ("text", .str "Source result omitted because it is not bound to the active Goal revision."),
    ("metadata", .dict <| JsonDict.of [
      ("source_receipts", .arr []),
      ("data_classes", .arr []),
      ("source_refs", .arr []),
      ("truncated", .bool false),
      ("omitted_reason", .str "stale_goal_binding")])]

/-- `_replace_receipts`. -/
def replace_receipts (fact : ConversationFact) (receipts : List SourceReceiptV1) :
    Ctx ConversationFact := do
  let metadata ← Ctx.expect_limit fact.metadata? "source receipt metadata is invalid"
  let projected_metadata := metadata.update [
    ("source_receipts", .arr (receipts.map SourceReceiptV1.asdict)),
    ("data_classes", .strs (PyText.sorted_set (receipts.map SourceReceiptV1.data_class))),
    ("source_refs", .arr (receipts.map SourceReceiptV1.ref_entry)),
    ("truncated", .bool (receipts.any SourceReceiptV1.truncated))]
  pure (fact.with_content (fact.val.content.update [("metadata", .dict projected_metadata)]))

/-- A fact of the projection; a tool result carries its source projection. -/
structure ProjectedFact where
  fact : ConversationFact
  projection : Option ToolResultSourceProjection

/-- One tool result projected onto the active Goal. -/
def project_tool_result (fact : ConversationFact) (s : ConversationState) : Ctx ProjectedFact := do
  let projection ← validate_tool_result_source fact s.val.conversation_id
  match s.val.goal with
  | none => pure ⟨fact, some projection⟩
  | some goal =>
    let kept := projection.receipts.filter fun r => r.binds_goal goal
    if projection.receipts = [] ∨ kept = projection.receipts then pure ⟨fact, some projection⟩
    else if kept = [] then pure ⟨omit_stale_source_result fact, some .generic⟩
    else do
      let projected ← replace_receipts fact kept
      pure ⟨projected, some (.from_receipts kept)⟩

/-- `project_tool_result_sources`. -/
def project_tool_result_sources (facts : List ConversationFact) (s : ConversationState) :
    Ctx (List ProjectedFact) :=
  facts.mapM fun f =>
    if f.val.kind = .tool_result then project_tool_result f s else pure ⟨f, none⟩

/-! ### File proofs -/

/-- The digest of the whole text of a result: of a clipped one it is kept in
    the content. -/
def result_text_digest (content : JsonDict) (text : String) : String :=
  match (content.get "sha256").str? with
  | some clipped =>
    if content.get "reason" = .str "tool_result_char_limit" then clipped
    else Sha256.hexdigest text
  | none => Sha256.hexdigest text

/-- A stored proof is about this result and the current Goal and workspace. -/
def ProviderFileSourceProofV1.covers (p : ProviderFileSourceProofV1) (s : ConversationState)
    (run_id tool_call_id content_digest : String) : Bool :=
  p.val.run_id = run_id && p.val.tool_call_id = tool_call_id &&
    p.val.result_content_digest = content_digest &&
    p.val.goal_id = s.val.goal.map (fun g => g.val.goal_id) &&
    p.val.goal_revision = s.val.goal.map (fun g => g.val.revision) &&
    s.val.workspace_binding.all fun b =>
      p.val.workspace_identity_digest = b.val.workspace_identity_digest

/-- `_valid_file_proof`. -/
def valid_file_proof (fact : ConversationFact) (s : ConversationState) :
    Option ProviderFileSourceProofV1 := do
  let text ← fact.text?
  if fact.val.content.get "is_error" = .bool true then none
  let tool_call_id ← (fact.val.content.get "tool_call_id").str?
  if tool_call_id = "" then none
  -- `fact_id.split(":", 3)` has four parts, the first of them `run`
  match PyText.split fact.val.fact_id ':' with
  | "run" :: run_id :: _ :: _ :: _ =>
    s.val.provider_source_proofs.find? fun p =>
      p.covers s run_id tool_call_id (result_text_digest fact.val.content text)
  | _ => none

/-- A result with a proof and without receipts of its own is an excerpt. -/
def apply_file_proof (s : ConversationState) (p : ProjectedFact) : ProjectedFact :=
  match p.projection with
  | some projection =>
    if (valid_file_proof p.fact s).isSome ∧ projection.receipts = [] then
      { p with projection := some .file_proof }
    else p
  | none => p

/-! ### Consent sources -/

/-- `_file_consent_source`. -/
def file_consent_source (p : ProviderFileSourceProofV1) : Py ProviderDisclosureSourceV1 :=
  Checked.make {
    data_class := p.val.result_class
    boundary_digest := p.val.boundary_digest
    label := p.val.tool_name ++ " " ++ p.val.normalized_target
    reusable := true }

/-- `_generic_tool_sources`. -/
def generic_tool_sources (fact : ConversationFact) (projection : ToolResultSourceProjection) :
    Py (List ProviderDisclosureSourceV1) :=
  let digest := Sha256.hexdigest (canonical_json_digest (.dict fact.val.content))
  projection.data_classes.mapM fun data_class =>
    Checked.make {
      data_class := data_class
      boundary_digest := canonical_json_digest (.dict <| JsonDict.of [
        ("data_class", .str data_class), ("content_digest", .str digest)])
      label := data_class ++ " tool output"
      reusable := false }

/-- The proofs of the active Goal revision. -/
def current_proof_digests (s : ConversationState) : List String :=
  (s.val.provider_source_proofs.filter fun p =>
    p.val.goal_id = s.val.goal.map (fun g => g.val.goal_id) &&
      p.val.goal_revision = s.val.goal.map (fun g => g.val.revision)).map
    fun p => p.val.boundary_digest

/-- `replace(source, reusable=False)`. -/
def ProviderDisclosureSourceV1.once (source : ProviderDisclosureSourceV1) :
    ProviderDisclosureSourceV1 :=
  ⟨{ source.val with reusable := false }, source.valid⟩

/-- `_revalidated_summary_sources`. -/
def revalidated_summary_sources (sources : List ProviderDisclosureSourceV1)
    (s : ConversationState) : List ProviderDisclosureSourceV1 :=
  sources.map fun source =>
    if source.val.data_class ∉ [RESULT_CLASS_WORKSPACE_EXCERPT, RESULT_CLASS_COMMAND_OUTPUT]
        ∨ source.val.boundary_digest ∈ current_proof_digests s then source
    else source.once

/-- `_summary_consent_sources`. -/
def summary_consent_sources (fact : ConversationFact) (s : ConversationState) :
    Py (List String × List ProviderDisclosureSourceV1) :=
  match s.val.summary_source_boundaries.find? fun b =>
      b.val.summary_fact_id = fact.val.fact_id with
  | some boundary =>
    pure (boundary.val.data_classes, revalidated_summary_sources boundary.val.sources s)
  | none => do
    let source ← Checked.make {
      data_class := "conversation_summary"
      boundary_digest := Sha256.hexdigest (canonical_json_digest (.dict fact.val.content))
      label := "unverified summary"
      reusable := false }
    pure (["conversation_summary"], [source])

/-- `_fact_disclosure_data_classes`. -/
def fact_disclosure_data_classes (kind : FactKind) (source_data_classes : List String) :
    List String :=
  match kind with
  | .tool_result     => source_data_classes
  | .user_message    => ["user_messages"]
  | .context_summary =>
    if source_data_classes = [] then ["conversation_summary"] else source_data_classes
  | _                => ["conversation_history"]
