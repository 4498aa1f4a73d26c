import FirstAgent.Contracts.Model
import FirstAgent.Context.Projection

/-! # Context Groups

    A context is sent in groups: a fact with its message, or a batch of tool
    calls with the results that directly follow it.  A group is kept or
    evicted as a whole, and a pinned group is always kept. -/

open Fallible

/-! ### Limits and estimates -/

structure ContextLimitFields where
  max_input_tokens : Int
  output_reserve : Int
  max_tool_result_chars : Int := 8000
  chars_per_token : Int := 4
  deriving Repr, DecidableEq

def ContextLimitFields.post_init (l : ContextLimitFields) : Py Unit := do
  Py.refuse_value (l.max_input_tokens < 1) "max_input_tokens must be positive"
  Py.refuse_value (l.output_reserve < 1) "output_reserve must be positive"
  Py.refuse_value (l.max_input_tokens ≤ l.output_reserve)
    "output_reserve must leave a positive input budget"
  Py.refuse_value (l.max_tool_result_chars < 1) "max_tool_result_chars must be positive"
  Py.refuse_value (l.chars_per_token < 1) "chars_per_token must be positive"

abbrev ContextLimits : Type := Checked ContextLimitFields.post_init

namespace ContextLimits

/-- `self._limits.max_input_tokens - self._limits.output_reserve`. -/
def available_input (l : ContextLimits) : Int := l.val.max_input_tokens - l.val.output_reserve

/-- `text[: self._limits.max_tool_result_chars]`. -/
def clip (l : ContextLimits) (text : String) : String :=
  PyText.take text l.val.max_tool_result_chars.toNat

/-- `_estimate`: the quotient is rounded up.  The source divides as floats,
    which is exact for every text that fits in memory. -/
def estimate (l : ContextLimits) (text : String) : Int :=
  max 1 ((text.toList.length + l.val.chars_per_token - 1) / l.val.chars_per_token)

/-- `_estimate_json`. -/
def estimate_json (l : ContextLimits) (value : Json) : Int := l.estimate (Json.dumps value)

end ContextLimits

/-! ### Messages and tools -/

structure ModelMessage where
  role : String
  content : List JsonDict
  provider_continuation : Option ProviderContinuationV1 := none
  deriving DecidableEq

/-- What `_group_cost` charges for a message. -/
def ModelMessage.payload (m : ModelMessage) : Json :=
  .dict <| JsonDict.of ([
    ("role", .str m.role),
    ("content", .arr (m.content.map .dict))] ++
    match m.provider_continuation with
    | some c => [("provider_continuation", .dict (JsonDict.of (ModelResponse.continuation_members c)))]
    | none   => [])

structure ToolDefinition where
  name : String
  description : String
  input_schema : JsonDict
  side_effect : SideEffectClass := .read_only
  egress : EgressClass := .none
  execution_authority : ExecutionAuthorityClass
  deriving DecidableEq

/-- What the fixed cost charges for a tool. -/
def ToolDefinition.payload (t : ToolDefinition) : Json :=
  .dict <| JsonDict.of [
    ("name", .str t.name),
    ("description", .str t.description),
    ("input_schema", .dict t.input_schema)]

/-! ### Groups -/

structure ContextGroup where
  fact_ids : List String
  messages : List ModelMessage
  tool_call_ids : List String := []
  has_tool_result : Bool := false
  pinned : Bool := false
  data_classes : List String := []
  consent_sources : List ProviderDisclosureSourceV1 := []
  deriving DecidableEq

/-- `_group_cost`. -/
def group_cost (l : ContextLimits) (g : ContextGroup) : Int :=
  (g.messages.map fun m => l.estimate_json m.payload).sum

/-- The text of a result that is longer than the limit. -/
def long_result_text (l : ContextLimits) (fact : ConversationFact) : Option String :=
  match fact.text? with
  | some text =>
    if fact.val.kind = .tool_result ∧ l.val.max_tool_result_chars < text.toList.length
    then some text else none
  | none => none

def clip_tool_result (l : ContextLimits) (fact : ConversationFact) : ConversationFact :=
  match long_result_text l fact with
  | some text => fact.with_content <| fact.val.content.update [
      ("text", .str (l.clip text)),
      ("original_chars", .int text.toList.length),
      ("sha256", .str (Sha256.hexdigest text)),
      ("reason", .str "tool_result_char_limit")]
  | none => fact

/-- `_clip_tool_results`: the facts and the ids of the clipped ones. -/
def clip_tool_results (l : ContextLimits) (facts : List ConversationFact) :
    List ConversationFact × List String :=
  (facts.map (clip_tool_result l),
    (facts.filter fun f => (long_result_text l f).isSome).map fun f => f.val.fact_id)

/-! ### One fact -/

/-- `_provider_continuation_from_fact`. -/
def provider_continuation_from_fact (fact : ConversationFact) :
    Py (Option ProviderContinuationV1) :=
  let malformed := PyError.value_error "provider continuation fact payload is malformed"
  let raw := fact.val.content.get "provider_continuation"
  if raw = .null then pure none
  else do
    Py.refuse_value (fact.val.kind ∉ [FactKind.assistant_message, .tool_calls])
      "provider continuation is attached to an invalid fact kind"
    let d ← expect raw.obj? malformed
    refuse (d.has_exactly ["provider_identity_digest", "opaque_payload",
      "opaque_payload_digest"] = false) malformed
    let identity ← expect (d.get "provider_identity_digest").str? malformed
    let payload ← expect (d.get "opaque_payload").str? malformed
    let digest ← expect (d.get "opaque_payload_digest").str? malformed
    let continuation : Option ProviderContinuationV1 := (Checked.make {
      provider_identity_digest := identity
      opaque_payload := payload
      opaque_payload_digest := digest }).toOption
    let c ← expect continuation malformed
    pure (some c)

/-- `metadata.get("untrusted_output") is True`. -/
def ConversationFact.untrusted_output (fact : ConversationFact) : Bool :=
  fact.metadata?.any fun metadata => metadata.get "untrusted_output" = .bool true

/-- The members a source projection adds to a block. -/
def projection_members (projection : ToolResultSourceProjection) : List (String × Json) :=
  (if projection.source_refs ≠ [] then [("source_refs", .strs projection.source_refs)] else []) ++
  (if projection.citation_sources ≠ [] then
    [("citation_sources", .arr (projection.citation_sources.map fun (source_ref, source_id) =>
      .dict <| JsonDict.of [("source_ref", .str source_ref), ("source_id", .str source_id)]))]
    else []) ++
  (if projection.receipts ≠ [] then [("source_contexts", .arr projection.wire_contexts)] else [])

def untrusted_member (untrusted : Bool) : List (String × Json) :=
  if untrusted then [("untrusted", .bool true)] else []

/-- The consent sources of a tool result. -/
def result_consent_sources (fact : ConversationFact) (projection : ToolResultSourceProjection)
    (s : ConversationState) : Py (List ProviderDisclosureSourceV1) :=
  match valid_file_proof fact s with
  | some proof => do
    let source ← file_consent_source proof
    pure [source]
  | none => generic_tool_sources fact projection

/-- The data classes and consent sources of a fact on its own. -/
def fact_sources (p : ProjectedFact) (s : ConversationState) :
    Py (List String × List ProviderDisclosureSourceV1) :=
  match p.projection with
  | some projection => do
    let sources ← result_consent_sources p.fact projection s
    let classes := match valid_file_proof p.fact s with
      | some proof => [proof.val.result_class]
      | none       => projection.data_classes
    pure (classes, sources)
  | none =>
    if p.fact.val.kind = .context_summary then summary_consent_sources p.fact s
    else pure ([], [])

/-- The role of a fact and the type of its block. -/
def role_and_block_type : FactKind → String × String
  | .user_message      => ("user", "text")
  | .assistant_message => ("assistant", "text")
  | .tool_result       => ("user", "tool_result")
  | .context_summary   => ("user", "context_summary")
  | _                  => ("user", "policy_result")

/-- `_single_fact_group`. -/
def single_fact_group (p : ProjectedFact) (s : ConversationState) : Py ContextGroup := do
  let fact := p.fact
  let content := fact.val.content
  let (source_data_classes, consent_sources) ← fact_sources p s
  let untrusted := (source_data_classes ≠ [] && source_data_classes ≠ ["tool_results"]) ||
    fact.untrusted_output || fact.val.kind = .context_summary
  let block := (JsonDict.of ([("type", .str (role_and_block_type fact.val.kind).2)] ++
    content.members)).erase "provider_continuation"
  let continuation ← provider_continuation_from_fact fact
  pure {
    fact_ids := [fact.val.fact_id]
    messages := [{
      role := (role_and_block_type fact.val.kind).1
      content := [block.update (untrusted_member untrusted ++
        (p.projection.map projection_members).getD [])]
      provider_continuation := continuation }]
    tool_call_ids := (content.get "tool_call_id").str?.toList
    has_tool_result := fact.val.kind = .tool_result
    data_classes := fact_disclosure_data_classes fact.val.kind source_data_classes
    consent_sources := consent_sources }

/-! ### A batch with its results -/

/-- A batch of calls and the results that follow it so far. -/
structure CallBatch where
  fact : ConversationFact
  call_blocks : List JsonDict
  tool_call_ids : List String
  results : List ProjectedFact

/-- The id of a raw call and its block. -/
def call_block (call : Json) : Py (String × JsonDict) := do
  let d ← Py.expect_value call.obj? "tool call must be an object"
  let tool_call_id ← Py.expect_value (d.get "tool_call_id").str?
    "tool call identity must be a string"
  let name ← Py.expect_value (d.get "name").str? "tool call identity must be a string"
  let arguments ← (if d.has "arguments" then
      Py.expect_value (d.get "arguments").obj? "tool call arguments must be an object"
    else pure (JsonDict.of []))
  pure (tool_call_id, JsonDict.of [
    ("type", .str "tool_call"),
    ("tool_call_id", .str tool_call_id),
    ("name", .str name),
    ("arguments", .dict arguments)])

/-- The text before the calls of a batch. -/
def preamble_blocks (fact : ConversationFact) : List JsonDict :=
  match (fact.val.content.get "preamble").str? with
  | some preamble =>
    if preamble = "" then [] else [JsonDict.of [("type", .str "text"), ("text", .str preamble)]]
  | none => []

def open_batch (fact : ConversationFact) : Py CallBatch := do
  let calls ← Py.expect_value (fact.val.content.get "calls").arr?
    "tool call fact must contain a calls list"
  let blocks ← calls.mapM call_block
  pure {
    fact := fact
    call_blocks := preamble_blocks fact ++ blocks.map Prod.snd
    tool_call_ids := blocks.map Prod.fst
    results := [] }

namespace CallBatch

/-- The next fact is a result of this batch. -/
def takes (b : CallBatch) (p : ProjectedFact) : Bool :=
  p.fact.val.kind = .tool_result &&
    (p.fact.val.content.get "tool_call_id").str?.any fun id => id ∈ b.tool_call_ids

def add (b : CallBatch) (p : ProjectedFact) : CallBatch := { b with results := b.results ++ [p] }

/-- The block of a result. -/
def result_block (p : ProjectedFact) (projection : ToolResultSourceProjection) : JsonDict :=
  let untrusted := projection.data_classes ≠ ["tool_results"] || p.fact.untrusted_output
  (JsonDict.of ([("type", .str "tool_result")] ++ p.fact.val.content.members)).update
    (untrusted_member untrusted ++ projection_members projection)

/-- What a result adds to its group. -/
def result_part (s : ConversationState) (p : ProjectedFact) :
    Py (JsonDict × List String × List ProviderDisclosureSourceV1) := do
  let projection := p.projection.getD .generic
  let sources ← result_consent_sources p.fact projection s
  pure (result_block p projection, projection.data_classes, sources)

/-- The group of a batch and its results. -/
def close (b : CallBatch) (s : ConversationState) : Py ContextGroup := do
  let parts ← b.results.mapM (result_part s)
  let continuation ← provider_continuation_from_fact b.fact
  let call_message : ModelMessage :=
    { role := "assistant", content := b.call_blocks, provider_continuation := continuation }
  let result_messages : List ModelMessage :=
    if parts = [] then [] else [{ role := "user", content := parts.map fun p => p.1 }]
  pure {
    fact_ids := b.fact.val.fact_id :: b.results.map fun p => p.fact.val.fact_id
    messages := call_message :: result_messages
    tool_call_ids := b.tool_call_ids
    has_tool_result := parts ≠ []
    data_classes :=
      if parts = [] then ["conversation_history"]
      else PyText.sorted_set (parts.flatMap fun p => p.2.1)
    consent_sources := ProviderDisclosureSourceV1.sorted_set (parts.flatMap fun p => p.2.2) }

end CallBatch

/-- `_group_facts` from a batch that may still take results. -/
def group_facts_from (s : ConversationState) :
    Option CallBatch → List ProjectedFact → Py (List ContextGroup)
  | none, [] => pure []
  | some b, [] => do
    let g ← b.close s
    pure [g]
  | none, p :: rest =>
    if p.fact.val.kind = .tool_calls then do
      let b ← open_batch p.fact
      group_facts_from s (some b) rest
    else do
      let g ← single_fact_group p s
      let gs ← group_facts_from s none rest
      pure (g :: gs)
  | some b, p :: rest =>
    if b.takes p then group_facts_from s (some (b.add p)) rest
    else do
      let g ← b.close s
      if p.fact.val.kind = .tool_calls then do
        let next ← open_batch p.fact
        let gs ← group_facts_from s (some next) rest
        pure (g :: gs)
      else do
        let single ← single_fact_group p s
        let gs ← group_facts_from s none rest
        pure (g :: single :: gs)

/-- `_group_facts`. -/
def group_facts (facts : List ProjectedFact) (s : ConversationState) : Py (List ContextGroup) :=
  group_facts_from s none facts

/-! ### Pinning -/

/-- The call id of a pending request. -/
def PendingRequest.tool_call_id : PendingRequest → String
  | .approval r => r.val.tool_call_id
  | .recovery r => r.val.tool_call_id

/-- The call the run waits for or executes. -/
def pending_call_id (s : ConversationState) : Option String := do
  let active ← s.val.active_run
  match active.val.pending_request with
  | some request => some request.tool_call_id
  | none         => active.val.executing_intent.map fun i => i.val.tool_call_id

/-- The facts that are pinned whatever they cost. -/
def pinned_fact_ids (groups : List ContextGroup) (s : ConversationState) : List String :=
  (((s.val.facts.filter fun f => f.val.kind = .user_message).getLast?).toList.map
    fun f => f.val.fact_id) ++
  (match s.val.goal with
    | some goal => goal.val.created_from_fact_ids
    | none      => []) ++
  (match (groups.filter ContextGroup.has_tool_result).getLast? with
    | some g => g.fact_ids
    | none   => [])

/-- `_pin_groups`. -/
def pin_groups (groups : List ContextGroup) (s : ConversationState) : List ContextGroup :=
  groups.map fun g => { g with
    pinned := (g.fact_ids.any fun id => id ∈ pinned_fact_ids groups s) ||
      (pending_call_id s).any fun id => id ∈ g.tool_call_ids }
