import FirstAgent.Contracts.Run
import FirstAgent.Python.JsonText

/-! # Task Resources

    Browser sessions and managed processes, read off the durable tool results:
    which of them are still open, and whether a managed writer was open when a
    fact was recorded. -/

open Fallible

/-! ### Receipts -/

/-- What a successful tool result says about a resource. -/
inductive ResourceEvent where
  | opened (resource_ref : String)
  | closed (resource_ref : String)
  deriving Repr, DecidableEq

/-- The metadata of a tool result that was executed without an error. -/
def successful_metadata (f : ConversationFact) : Option JsonDict :=
  if f.val.kind = .tool_result ∧ f.val.content.get "executed" = .bool true
      ∧ f.val.content.get "is_error" = .bool false then
    (f.val.content.get "metadata").obj?
  else none

/-- The browser part of a receipt. -/
def browser_event (metadata : JsonDict) : Py (Option ResourceEvent) := do
  let browser_kind := metadata.get "browser_result_kind"
  Json.require_hashable browser_kind
  if browser_kind = .str "browser_open" ∨ browser_kind = .str "browser_close" then do
    let session_ref ← Py.expect_value (metadata.get "session_ref").str?
      "browser resource receipt is malformed"
    Py.refuse_value (session_ref = "") "browser resource receipt is malformed"
    if browser_kind = .str "browser_open" then pure (some (.opened session_ref))
    else if metadata.get "cleanup_outcome" = .str "cleaned" then
      pure (some (.closed session_ref))
    else pure none
  else pure none

/-- The managed-process part of a receipt: its text is a JSON object. -/
def managed_event (f : ConversationFact) (metadata : JsonDict) : Py (Option ResourceEvent) := do
  let tool_name := metadata.get "tool_name"
  Json.require_hashable tool_name
  if tool_name = .str "managed_web_start" ∨ tool_name = .str "managed_web_stop" then do
    let malformed := "managed resource receipt is malformed"
    let text ← Py.expect_value (f.val.content.get "text").str? malformed
    let value ← Py.expect_value (Json.loads text) malformed
    let payload ← Py.expect_value value.obj? malformed
    let resource_ref ← Py.expect_value (payload.get "resource_ref").str? malformed
    Py.refuse_value (resource_ref = "") malformed
    if tool_name = .str "managed_web_start" ∧ payload.get "status" = .str "ready" then
      pure (some (.opened resource_ref))
    else if tool_name = .str "managed_web_stop" ∧ payload.get "cleanup" = .str "confirmed" then
      pure (some (.closed resource_ref))
    else pure none
  else pure none

/-! ### Open resources -/

/-- Open resources with the fact that opened each one. -/
abbrev OwnerTable : Type := List (String × String)

/-- One event against the table. -/
def OwnerTable.record (owners : OwnerTable) (fact_id : String) : Option ResourceEvent → OwnerTable
  | none             => owners
  | some (.opened r) => (r, fact_id) :: owners.filter fun o => o.1 ≠ r
  | some (.closed r) => owners.filter fun o => o.1 ≠ r

/-- `ActiveTaskResources`: the sets are the keys and values of the tables. -/
structure ActiveTaskResources where
  browser_sessions : OwnerTable
  managed_processes : OwnerTable
  deriving Repr, DecidableEq

namespace ActiveTaskResources

def owner_fact_ids (r : ActiveTaskResources) : List String :=
  (r.browser_sessions ++ r.managed_processes).map Prod.snd

def require_closed (r : ActiveTaskResources) : Py Unit :=
  let pending := (if r.browser_sessions = [] then [] else ["browser_close"]) ++
    (if r.managed_processes = [] then [] else ["managed_web_stop"])
  Py.refuse_value (pending ≠ [])
    ("task resources are still active; confirm cleanup with " ++
      String.intercalate ", " pending)

end ActiveTaskResources

/-- What one fact does to the open resources. -/
def record_resources (r : ActiveTaskResources) (f : ConversationFact) :
    Py ActiveTaskResources :=
  match successful_metadata f with
  | none          => pure r
  | some metadata => do
    let browser ← browser_event metadata
    let managed ← managed_event f metadata
    pure {
      browser_sessions := r.browser_sessions.record f.val.fact_id browser
      managed_processes := r.managed_processes.record f.val.fact_id managed }

/-- `active_task_resources`. -/
def active_task_resources (facts : List ConversationFact) : Py ActiveTaskResources :=
  facts.foldlM record_resources ⟨[], []⟩

/-! ### Managed writers -/

/-- `managed_process_receipts`: the managed events of the facts, in order. -/
def managed_process_receipts (facts : List ConversationFact) : Py (List ResourceEvent) := do
  let events ← facts.mapM fun f => match successful_metadata f with
    | none          => pure none
    | some metadata => managed_event f metadata
  pure (events.filterMap id)

/-- The refs open after a sequence of events. -/
def open_refs (events : List ResourceEvent) : List String :=
  events.foldl (fun refs e => match e with
    | .opened r => r :: refs
    | .closed r => refs.filter fun x => x ≠ r) []

/-- `managed_writer_active_at(facts, index)`. -/
def managed_writer_active_at (facts : List ConversationFact) (index : Nat) : Py Bool := do
  let events ← managed_process_receipts (facts.take index)
  pure (!(open_refs events).isEmpty)
