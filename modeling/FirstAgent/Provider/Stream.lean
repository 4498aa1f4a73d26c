import FirstAgent.Python.Text
import FirstAgent.Python.Utf8

/-! # Streamed Provider Responses

    `_read_deepseek_stream`: server-sent events folded into one payload.

    The event generator is a pipe of four layers over the received chunks:
    the size bound, the UTF-8 decoder, the line splitter and the joiner of
    `data` lines.  The reader of the events is a fifth.  Every exception of
    these layers rejects the response, so there is one error.

    `json.loads` is a parameter: whatever it returns is a `Loaded`, and `none`
    is any exception it raises. -/

open Fallible
open Layers

/-! ### Values of `json.loads` -/

/-- A `str`: code points, lone surrogates among them. -/
abbrev PyStr : Type := List (Fin 0x110000)

/-- A literal of the source. -/
def PyStr.of (s : String) : PyStr := s.toList.map fun c => Fin.ofNat _ c.toNat

/-- What `json.loads` returns. -/
inductive Loaded where
  | none
  | bool (b : Bool)
  | int (i : Int)
  | float (repr : String)
  | str (s : PyStr)
  | list (items : List Loaded)
  | dict (members : List (PyStr × Loaded))

namespace Loaded

/-- `value.get(key)`; `None` where the key is missing. -/
def get (value : Loaded) (key : String) : Loaded :=
  match value with
  | .dict ms => ((ms.find? fun m => m.1 = PyStr.of key).map Prod.snd).getD .none
  | _        => .none

/-- `key in value`. -/
def has (value : Loaded) (key : String) : Bool :=
  match value with
  | .dict ms => ms.any fun m => m.1 = PyStr.of key
  | _        => false

/-- `not set(value).difference(keys)`. -/
def within (value : Loaded) (keys : List String) : Bool :=
  match value with
  | .dict ms => ms.all fun m => (keys.map PyStr.of).contains m.1
  | _        => true

def is_none : Loaded → Bool
  | .none => true
  | _     => false

def str? : Loaded → Option PyStr
  | .str s => some s
  | _      => Option.none

def list? : Loaded → Option (List Loaded)
  | .list xs => some xs
  | _        => Option.none

/-- The items of a list; none of anything else. -/
def items (value : Loaded) : List Loaded := value.list?.getD []

/-- `value in {None, …}` of text. -/
def is_none_or (value : Loaded) (texts : List String) : Bool :=
  value.is_none || (value.str?.any fun s => (texts.map PyStr.of).contains s)

/-- `value == text`. -/
def is_text (value : Loaded) (text : String) : Bool := value.str? = some (PyStr.of text)

/-- `value == 0`: `False` and a zero float are equal to it. -/
def is_zero : Loaded → Bool
  | .bool b  => !b
  | .int i   => i = 0
  | .float r => r = "0.0" || r = "-0.0"
  | _        => false

/-- An `int` that is no `bool` and not negative. -/
def index? : Loaded → Option Nat
  | .int i => if 0 ≤ i then some i.toNat else Option.none
  | _      => Option.none

/-- Text that is not empty. -/
def nonempty_str? (value : Loaded) : Option PyStr := value.str?.filter fun s => s ≠ []

theorem is_none_iff {value : Loaded} : value.is_none = true ↔ value = .none := by
  cases value <;> simp [is_none]

theorem str?_eq_some {value : Loaded} {s : PyStr} : value.str? = some s ↔ value = .str s := by
  cases value <;> simp [str?]

theorem list?_eq_some {value : Loaded} {xs : List Loaded} :
    value.list? = some xs ↔ value = .list xs := by
  cases value <;> simp [list?]

end Loaded

/-- `ProviderStreamInterruptedError`, which every exception below becomes. -/
inductive StreamError where
  | interrupted
  deriving DecidableEq, Repr

instance : Subsingleton StreamError := ⟨fun a b => by cases a; cases b; rfl⟩

/-! ### Events: `_sse_data_events` -/

namespace ServerSentEvents

/-- `size += len(chunk)`, refused past the bound. -/
def bound_size (max_response_bytes : Nat) : Layer StreamError Nat UInt8 UInt8 :=
  fun size chunk => do
    refuse (size + chunk.length > max_response_bytes) .interrupted
    pure (size + chunk.length, chunk)

/-- The complete lines of a buffer and what is left of it. -/
def split_lines : List Char → List Char × List (List Char)
  | []      => ([], [])
  | c :: cs =>
    let (rest, lines) := split_lines cs
    if c = '\n' then (rest, [] :: lines)
    else match lines with
      | []            => (c :: rest, [])
      | line :: lines => (rest, (c :: line) :: lines)

/-- `buffer += …; while "\n" in buffer: …`. -/
def buffer_lines : Layer StreamError (List Char) Char (List Char) :=
  fun buffer chars => pure (split_lines (buffer ++ chars))

/-- `line.removesuffix("\r")`. -/
def remove_cr (line : List Char) : List Char :=
  if line.getLast? = some '\r' then line.dropLast else line

/-- `text.removeprefix(" ")`. -/
def remove_space : List Char → List Char
  | ' ' :: cs => cs
  | cs        => cs

/-- One line: a blank line yields the joined `data` lines, a comment is
    skipped, and a field that is not `data` is ignored. -/
def read_line (data_lines : List (List Char)) (raw : List Char) :
    List (List Char) × List String :=
  let line := remove_cr raw
  if line = [] then
    if data_lines = [] then ([], [])
    else ([], [String.ofList (List.intercalate ['\n'] data_lines)])
  else if line.head? = some ':' then (data_lines, [])
  else if line = "data".toList then (data_lines ++ [[]], [])
  else if "data:".toList.isPrefixOf line then (data_lines ++ [remove_space (line.drop 5)], [])
  else (data_lines, [])

/-- The lines of a chunk, one by one. -/
def join_data : Layer StreamError (List (List Char)) (List Char) String :=
  feed fun data_lines line => pure (read_line data_lines line)

/-- The size, the decoder, the buffer and the `data` lines between two chunks. -/
abbrev State : Type := Nat × Utf8.Decoder × List Char × List (List Char)

def State.start : State := (0, Utf8.Decoder.start, [], [])

/-- The events a chunk completes. -/
def chunk_events (max_response_bytes : Nat) : Layer StreamError State UInt8 String :=
  pipe (bound_size max_response_bytes)
    (pipe (Utf8.Decoder.decode .interrupted) (pipe buffer_lines join_data))

/-- The end of the response: nothing is under way. -/
def at_end (s : State) : Except StreamError Unit :=
  let (_, decoder, buffer, data_lines) := s
  refuse (¬ decoder.finished ∨ buffer ≠ [] ∨ data_lines ≠ []) .interrupted

/-- All events of a response. -/
def sse_data_events (max_response_bytes : Nat) (chunks : List (List UInt8)) :
    Except StreamError (List String) := do
  let (s, events) ← run (chunk_events max_response_bytes) State.start chunks
  at_end s
  pure events

end ServerSentEvents

/-! ### The payload: `_read_deepseek_stream` -/

namespace DeepseekStream

/-- A tool call under construction. -/
structure ToolParts where
  id : PyStr
  name : PyStr
  arguments : PyStr
  deriving DecidableEq

/-- The local variables of the reader. -/
structure Reader where
  text_parts : List PyStr
  reasoning_parts : List PyStr
  tool_parts : List (Nat × ToolParts)
  finish_reason : Option PyStr
  usage : Option Loaded
  done : Bool

def Reader.start : Reader :=
  { text_parts := [], reasoning_parts := [], tool_parts := [], finish_reason := none,
    usage := none, done := false }

/-- The returned payload; no tool call leaves out the key `tool_calls`. -/
structure Payload where
  content : PyStr
  reasoning_content : PyStr
  tool_calls : List ToolParts
  finish_reason : PyStr
  usage : Loaded

/-- `_stream_object`. -/
def stream_object (value : Loaded) : Except StreamError Loaded :=
  match value with
  | .dict ms => .ok (.dict ms)
  | _        => .error .interrupted

/-- `tool_parts.get(index)`. -/
def find_call (index : Nat) (tool_parts : List (Nat × ToolParts)) : Option ToolParts :=
  (tool_parts.find? fun p => p.1 = index).map Prod.snd

/-- `current["arguments"] += arguments`. -/
def extend_call (index : Nat) (arguments : PyStr) (tool_parts : List (Nat × ToolParts)) :
    List (Nat × ToolParts) :=
  tool_parts.map fun p =>
    if p.1 = index then (p.1, { p.2 with arguments := p.2.arguments ++ arguments }) else p

/-- `function.get("arguments", "")`, which has to be text. -/
def read_arguments (function : Loaded) : Except StreamError PyStr :=
  if function.has "arguments" then expect (function.get "arguments").str? .interrupted
  else .ok []

/-- The first fragment of a call carries its id, type and name. -/
def open_call (call function : Loaded) (arguments : PyStr) : Except StreamError ToolParts := do
  let id ← expect (call.get "id").nonempty_str? .interrupted
  refuse ((call.get "type").is_text "function" = false) .interrupted
  let name ← expect (function.get "name").nonempty_str? .interrupted
  pure { id, name, arguments }

/-- One item of `delta["tool_calls"]`. -/
def read_call (tool_parts : List (Nat × ToolParts)) (raw_call : Loaded) :
    Except StreamError (List (Nat × ToolParts)) := do
  let call ← stream_object raw_call
  refuse (call.within ["index", "id", "type", "function"] = false) .interrupted
  let index ← expect (call.get "index").index? .interrupted
  let function ← stream_object (call.get "function")
  refuse (function.within ["name", "arguments"] = false) .interrupted
  let arguments ← read_arguments function
  match find_call index tool_parts with
  | none   => do
    let current ← open_call call function arguments
    pure (tool_parts ++ [(index, current)])
  | some _ => do
    refuse (call.has "id" ∨ call.has "type" ∨ function.has "name") .interrupted
    pure (extend_call index arguments tool_parts)

/-- Text that may be missing. -/
def read_text (value : Loaded) (parts : List PyStr) : Except StreamError (List PyStr) :=
  if value.is_none then .ok parts
  else do
    let text ← expect value.str? .interrupted
    pure (parts ++ [text])

/-- `delta.get("tool_calls", [])`, which has to be a list. -/
def read_tool_calls (delta : Loaded) : Except StreamError (List Loaded) :=
  if delta.has "tool_calls" then expect (delta.get "tool_calls").list? .interrupted
  else .ok []

/-- The delta of the one choice. -/
def read_delta (r : Reader) (delta : Loaded) : Except StreamError Reader := do
  refuse (delta.within ["role", "content", "reasoning_content", "tool_calls"] = false) .interrupted
  refuse ((delta.get "role").is_none_or ["assistant"] = false) .interrupted
  let text_parts ← read_text (delta.get "content") r.text_parts
  let reasoning_parts ← read_text (delta.get "reasoning_content") r.reasoning_parts
  let calls ← read_tool_calls delta
  let tool_parts ← calls.foldlM read_call r.tool_parts
  pure { r with text_parts, reasoning_parts, tool_parts }

/-- A finish reason comes once. -/
def read_finish_reason (r : Reader) (raw_finish_reason : Loaded) : Except StreamError Reader :=
  if raw_finish_reason.is_none then .ok r
  else do
    refuse (r.finish_reason.isSome = true) .interrupted
    let finish_reason ← expect raw_finish_reason.str? .interrupted
    pure { r with finish_reason := some finish_reason }

/-- Usage comes with the finish reason or after it. -/
def read_usage (r : Reader) (usage : Loaded) : Except StreamError Reader :=
  if usage.is_none then .ok r
  else do
    refuse (r.finish_reason.isNone = true) .interrupted
    let usage ← stream_object usage
    pure { r with usage := some usage }

/-- The one choice of a payload. -/
def single_choice (choices : Loaded) : Option Loaded :=
  match choices with
  | .list [choice] => some choice
  | _              => none

/-- One payload. -/
def read_payload (r : Reader) (payload : Loaded) : Except StreamError Reader := do
  refuse (payload.within ["id", "object", "created", "model", "system_fingerprint", "choices",
    "usage"] = false) .interrupted
  refuse ((payload.get "model").is_none_or ["deepseek-v4-flash", "deepseek-flash"] = false)
    .interrupted
  let first ← expect (single_choice (payload.get "choices")) .interrupted
  let choice ← stream_object first
  refuse (choice.within ["index", "delta", "finish_reason", "logprobs"] = false) .interrupted
  refuse ((choice.get "index").is_zero = false) .interrupted
  let delta ← stream_object (choice.get "delta")
  let r ← read_delta r delta
  let r ← read_finish_reason r (choice.get "finish_reason")
  read_usage r (payload.get "usage")

section
variable (loads : String → Option Loaded)

/-- One event: nothing may follow `[DONE]`. -/
def read_event (r : Reader) (data : String) : Except StreamError Reader := do
  refuse (r.done = true) .interrupted
  if data = "[DONE]" then pure { r with done := true }
  else do
    let value ← expect (loads data) .interrupted
    let payload ← stream_object value
    read_payload r payload

/-- The events of a chunk; the reader puts nothing out. -/
def read_events : Layer StreamError Reader String Empty :=
  feed fun r data => do
    let r ← read_event loads r data
    pure (r, [])

/-- `set(tool_parts) == set(range(len(tool_parts)))`. -/
def gapless (tool_parts : List (Nat × ToolParts)) : Bool :=
  (tool_parts.all fun p => p.1 < tool_parts.length) &&
    (List.range tool_parts.length).all fun i => (find_call i tool_parts).isSome

/-- The checks after the last event, and the payload. -/
def finish (r : Reader) : Except StreamError Payload := do
  refuse (r.done = false) .interrupted
  let finish_reason ← expect r.finish_reason .interrupted
  refuse (finish_reason ∉ ["stop", "tool_calls", "length"].map PyStr.of) .interrupted
  refuse (r.reasoning_parts = []) .interrupted
  let usage ← expect r.usage .interrupted
  refuse (¬ (r.tool_parts ≠ [] ↔ finish_reason = PyStr.of "tool_calls")) .interrupted
  refuse (gapless r.tool_parts = false) .interrupted
  pure
    { content := r.text_parts.flatten
      reasoning_content := r.reasoning_parts.flatten
      tool_calls := (List.range r.tool_parts.length).filterMap fun i => find_call i r.tool_parts
      finish_reason
      usage }

/-- `content_type.split(";", 1)[0].strip()`. -/
def media_type (content_type : String) : String :=
  PyText.strip (String.ofList (content_type.toList.takeWhile fun c => c ≠ ';'))

/-- `_read_deepseek_stream`, never cancelled, over the received chunks. -/
def read_deepseek_stream (max_response_bytes : Nat) (content_type : String)
    (chunks : List (List UInt8)) : Except StreamError Payload := do
  refuse (media_type content_type ≠ "text/event-stream") .interrupted
  let ((s, r), _) ←
    run (pipe (ServerSentEvents.chunk_events max_response_bytes) (read_events loads))
      (ServerSentEvents.State.start, Reader.start) chunks
  ServerSentEvents.at_end s
  finish r

end

end DeepseekStream
