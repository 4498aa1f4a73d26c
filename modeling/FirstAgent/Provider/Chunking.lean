import FirstAgent.Provider.Stream
import FirstAgent.Python.JsonText
import Mathlib.Data.List.Basic

/-! # A Response is its Bytes

    However the bytes of a response are cut into chunks, `_read_deepseek_stream`
    returns the same payload or rejects (`read_deepseek_stream_flatten`).  The
    payload of an accepted response is assembled from the deltas of its events,
    in order and, for tool calls, index by index (`Assembled`). -/

open Fallible
open Layers

namespace ServerSentEvents

/-! ### Every layer is incremental -/

theorem bound_size_within {max_response_bytes size : Nat} {chunk : List UInt8}
    (h : size + chunk.length ≤ max_response_bytes) :
    bound_size max_response_bytes size chunk = .ok (size + chunk.length, chunk) := by
  unfold bound_size refuse
  rw [if_neg (by omega)]
  rfl

theorem bound_size_past {max_response_bytes size : Nat} {chunk : List UInt8}
    (h : max_response_bytes < size + chunk.length) :
    bound_size max_response_bytes size chunk = .error .interrupted := by
  unfold bound_size refuse
  rw [if_pos (by omega)]
  rfl

theorem incremental_bound_size (max_response_bytes : Nat) :
    Incremental (bound_size max_response_bytes) := by
  intro size xs ys
  have hlength : (xs ++ ys).length = xs.length + ys.length := List.length_append
  by_cases hxs : size + xs.length ≤ max_response_bytes
  · rw [bound_size_within hxs]
    change _ = (bound_size max_response_bytes (size + xs.length) ys >>= _)
    by_cases hys : size + xs.length + ys.length ≤ max_response_bytes
    · rw [bound_size_within (by omega), bound_size_within hys, hlength, Nat.add_assoc]
      rfl
    · rw [bound_size_past (by omega), bound_size_past (by omega)]
      rfl
  · rw [bound_size_past (by omega), bound_size_past (by omega)]
    rfl

/-- A line that an earlier part of the buffer began ends in the later part. -/
theorem split_lines_append (xs ys : List Char) :
    split_lines (xs ++ ys) =
      ((split_lines ((split_lines xs).1 ++ ys)).1,
        (split_lines xs).2 ++ (split_lines ((split_lines xs).1 ++ ys)).2) := by
  induction xs with
  | nil => simp [split_lines]
  | cons c xs ih =>
    rw [List.cons_append, split_lines, ih]
    by_cases hc : c = '\n'
    · simp [split_lines, hc]
    · cases hlines : (split_lines xs).2 with
      | nil => simp [split_lines, hc, hlines]
      | cons line lines => simp [split_lines, hc, hlines]

theorem incremental_buffer_lines : Incremental buffer_lines := by
  intro buffer xs ys
  simp only [buffer_lines, pure_bind]
  rw [← List.append_assoc, split_lines_append]

theorem incremental_chunk_events (max_response_bytes : Nat) :
    Incremental (chunk_events max_response_bytes) :=
  incremental_pipe (incremental_bound_size max_response_bytes)
    (incremental_pipe (Utf8.Decoder.incremental_decode _)
      (incremental_pipe incremental_buffer_lines (incremental_feed _)))

/-- Before the first byte there is nothing to complete. -/
theorem chunk_events_start (max_response_bytes : Nat) :
    chunk_events max_response_bytes State.start [] = .ok (State.start, []) := by
  simp [chunk_events, pipe, bound_size, refuse, State.start]
  rfl

end ServerSentEvents

namespace DeepseekStream

/-! ### The chunks of a response -/

theorem stream_object_eq_ok {value object : Loaded} (h : stream_object value = .ok object) :
    value = object := by
  unfold stream_object at h
  split at h
  · exact ok_eq_ok.mp h
  · cases h

section
variable (loads : String → Option Loaded)

/-- The layers of the response, down to the reader. -/
theorem run_response_layers (max_response_bytes : Nat) (chunks : List (List UInt8)) :
    run (pipe (ServerSentEvents.chunk_events max_response_bytes) (read_events loads))
        (ServerSentEvents.State.start, Reader.start) chunks =
      pipe (ServerSentEvents.chunk_events max_response_bytes) (read_events loads)
        (ServerSentEvents.State.start, Reader.start) chunks.flatten := by
  apply run_eq_flatten
  · exact incremental_pipe (ServerSentEvents.incremental_chunk_events max_response_bytes)
      (incremental_feed _)
  · exact pipe_eq_ok.mpr ⟨[], ServerSentEvents.chunk_events_start _, rfl⟩

/-- Only the joined bytes of the chunks matter. -/
theorem read_deepseek_stream_flatten (max_response_bytes : Nat) (content_type : String)
    (chunks : List (List UInt8)) :
    read_deepseek_stream loads max_response_bytes content_type chunks =
      read_deepseek_stream loads max_response_bytes content_type [chunks.flatten] := by
  unfold read_deepseek_stream
  rw [run_response_layers, run_response_layers, List.flatten_singleton]

/-- What an accepted response went through. -/
theorem read_deepseek_stream_eq_ok {max_response_bytes : Nat} {content_type : String}
    {chunks : List (List UInt8)} {p : Payload} :
    read_deepseek_stream loads max_response_bytes content_type chunks = .ok p ↔
      media_type content_type = "text/event-stream" ∧
        ∃ s events r out,
          ServerSentEvents.chunk_events max_response_bytes ServerSentEvents.State.start
              chunks.flatten = .ok (s, events) ∧
            read_events loads Reader.start events = .ok (r, out) ∧
            ServerSentEvents.at_end s = .ok () ∧ finish r = .ok p := by
  unfold read_deepseek_stream
  rw [run_response_layers]
  constructor
  · intro h
    obtain ⟨_, hmedia, h⟩ := bind_eq_ok.mp h
    obtain ⟨⟨⟨s, r⟩, out⟩, hlayers, h⟩ := bind_eq_ok.mp h
    obtain ⟨_, hend, hfinish⟩ := bind_eq_ok.mp h
    obtain ⟨events, hevents, hread⟩ := pipe_eq_ok.mp hlayers
    exact ⟨not_not.mp (refuse_eq_ok.mp hmedia), s, events, r, out, hevents, hread, hend, hfinish⟩
  · rintro ⟨hmedia, s, events, r, out, hevents, hread, hend, hfinish⟩
    refine bind_eq_ok.mpr ⟨(), refuse_eq_ok.mpr (not_not.mpr hmedia), bind_eq_ok.mpr ?_⟩
    exact ⟨((s, r), out), pipe_eq_ok.mpr ⟨events, hevents, hread⟩,
      bind_eq_ok.mpr ⟨(), hend, hfinish⟩⟩

end

/-- The events of a response that is read to its end. -/
theorem sse_data_events_eq_ok {max_response_bytes : Nat} {chunks : List (List UInt8)}
    {events : List String} :
    ServerSentEvents.sse_data_events max_response_bytes chunks = .ok events ↔
      ∃ s, ServerSentEvents.chunk_events max_response_bytes ServerSentEvents.State.start
          chunks.flatten = .ok (s, events) ∧ ServerSentEvents.at_end s = .ok () := by
  unfold ServerSentEvents.sse_data_events
  rw [run_eq_flatten (ServerSentEvents.incremental_chunk_events max_response_bytes)
    (ServerSentEvents.chunk_events_start max_response_bytes)]
  constructor
  · intro h
    obtain ⟨⟨s, out⟩, hevents, h⟩ := bind_eq_ok.mp h
    obtain ⟨_, hend, h⟩ := bind_eq_ok.mp h
    obtain rfl := pure_eq_ok.mp h
    exact ⟨s, hevents, hend⟩
  · rintro ⟨s, hevents, hend⟩
    exact bind_eq_ok.mpr ⟨(s, events), hevents, bind_eq_ok.mpr ⟨(), hend, rfl⟩⟩

section
variable (loads : String → Option Loaded)

/-! ### The events of a response -/

theorem read_events_nil {r r' : Reader} {out : List Empty} :
    read_events loads r [] = .ok (r', out) ↔ r = r' ∧ [] = out := by
  simp only [read_events, feed, pure_eq_ok, Prod.mk.injEq]

theorem read_events_cons {r r' : Reader} {data : String} {events : List String}
    {out : List Empty} :
    read_events loads r (data :: events) = .ok (r', out) ↔
      ∃ r₁, read_event loads r data = .ok r₁ ∧ read_events loads r₁ events = .ok (r', out) := by
  simp only [read_events, feed, bind_eq_ok, pure_eq_ok, Prod.exists, Prod.mk.injEq]
  constructor
  · rintro ⟨r₁, _, ⟨_, hread, rfl, rfl⟩, r₂, out', hrest, rfl, rfl⟩
    exact ⟨_, hread, hrest⟩
  · rintro ⟨r₁, hread, hrest⟩
    exact ⟨r₁, [], ⟨r₁, hread, rfl, rfl⟩, r', out, hrest, rfl, rfl⟩

/-- Nothing is read after `[DONE]`. -/
theorem read_events_done {r r' : Reader} {events : List String} {out : List Empty}
    (hdone : r.done = true) (h : read_events loads r events = .ok (r', out)) :
    events = [] ∧ r' = r := by
  cases events with
  | nil => exact ⟨rfl, ((read_events_nil loads).mp h).1.symm⟩
  | cons data events =>
    obtain ⟨r₁, hread, -⟩ := (read_events_cons loads).mp h
    simp [read_event, bind_eq_ok, refuse_eq_ok, hdone] at hread

/-- The payloads before `[DONE]`. -/
def payloads (events : List String) : List Loaded :=
  (events.takeWhile fun data => data ≠ "[DONE]").filterMap loads

/-- A payload is read by `read_payload`. -/
theorem read_event_eq_ok {r r' : Reader} {data : String} (hdata : data ≠ "[DONE]") :
    read_event loads r data = .ok r' ↔
      r.done = false ∧ ∃ payload, loads data = some payload ∧
        stream_object payload = .ok payload ∧ read_payload r payload = .ok r' := by
  unfold read_event
  rw [if_neg hdata]
  simp only [bind_eq_ok, refuse_eq_ok, expect_eq_ok, Bool.not_eq_true]
  constructor
  · rintro ⟨_, hdone, payload, hloads, value, hobject, hread⟩
    obtain rfl := stream_object_eq_ok hobject
    exact ⟨hdone, payload, hloads, hobject, hread⟩
  · rintro ⟨hdone, payload, hloads, hobject, hread⟩
    exact ⟨(), hdone, payload, hloads, payload, hobject, hread⟩

/-- A reader that sees `[DONE]` has read the payloads before it, and saw no
    event after it. -/
theorem read_events_payloads {r r' : Reader} {events : List String} {out : List Empty}
    (h : read_events loads r events = .ok (r', out)) (hstart : r.done = false)
    (hdone : r'.done = true) (hkeep : ∀ r payload r', read_payload r payload = .ok r' →
      r'.done = r.done) :
    ∃ texts r₁, events = texts ++ ["[DONE]"] ∧ "[DONE]" ∉ texts ∧
      texts.map loads = (payloads loads events).map some ∧
      (payloads loads events).foldlM read_payload r = .ok r₁ ∧ r' = { r₁ with done := true } := by
  induction events generalizing r with
  | nil =>
    obtain ⟨rfl, -⟩ := (read_events_nil loads).mp h
    rw [hstart] at hdone
    cases hdone
  | cons data events ih =>
    obtain ⟨r₂, hread, hrest⟩ := (read_events_cons loads).mp h
    by_cases hdata : data = "[DONE]"
    · subst hdata
      have hr : r₂ = { r with done := true } := by
        unfold read_event at hread
        rw [if_pos rfl] at hread
        obtain ⟨_, -, hpure⟩ := bind_eq_ok.mp hread
        exact (pure_eq_ok.mp hpure).symm
      obtain ⟨rfl, rfl⟩ := read_events_done loads (by rw [hr]) hrest
      exact ⟨[], r, rfl, by simp, by simp [payloads], by simp [payloads, pure_eq_ok], hr⟩
    · obtain ⟨-, payload, hloads, -, hpayload⟩ := (read_event_eq_ok loads hdata).mp hread
      have hopen : r₂.done = false := by rw [hkeep r payload r₂ hpayload, hstart]
      obtain ⟨texts, r₁, hevents, hnone, htexts, hfold, hr⟩ := ih hrest hopen
      have hcons : payloads loads (data :: events) = payload :: payloads loads events := by
        simp [payloads, hdata, hloads]
      refine ⟨data :: texts, r₁, by rw [hevents]; rfl, ?_, ?_, ?_, hr⟩
      · rw [List.mem_cons, not_or]
        exact ⟨fun heq => hdata heq.symm, hnone⟩
      · rw [hcons, List.map_cons, List.map_cons, htexts, hloads]
      · rw [hcons, List.foldlM_cons]
        exact bind_eq_ok.mpr ⟨r₂, hpayload, hfold⟩

end

/-! ### The deltas of a payload -/

/-- The one choice of a payload. -/
def choice_of (payload : Loaded) : Loaded := (single_choice (payload.get "choices")).getD .none

def delta_of (payload : Loaded) : Loaded := (choice_of payload).get "delta"

def text_delta (payload : Loaded) : Option PyStr := ((delta_of payload).get "content").str?

def reasoning_delta (payload : Loaded) : Option PyStr :=
  ((delta_of payload).get "reasoning_content").str?

def call_deltas (payload : Loaded) : List Loaded := ((delta_of payload).get "tool_calls").items

def finish_reason_of (payload : Loaded) : Option PyStr :=
  ((choice_of payload).get "finish_reason").str?

def has_usage (payload : Loaded) : Bool := !(payload.get "usage").is_none

def call_index (call : Loaded) : Option Nat := (call.get "index").index?

/-- The argument fragment of a call delta; empty when it has none. -/
def fragment (call : Loaded) : PyStr := ((call.get "function").get "arguments").str?.getD []

/-- A call delta with an id and a name. -/
def names_call (call : Loaded) : Bool :=
  (call.get "id").str?.isSome && ((call.get "function").get "name").str?.isSome

/-- The deltas of one call. -/
def of_index (index : Nat) (calls : List Loaded) : List Loaded :=
  calls.filter fun call => call_index call = some index

/-- The id and the name of the first delta of a call, and its argument
    fragments in order. -/
def assembled_call (index : Nat) (calls : List Loaded) : Option ToolParts :=
  (of_index index calls).head?.map fun call =>
    { id := (call.get "id").str?.getD []
      name := ((call.get "function").get "name").str?.getD []
      arguments := ((of_index index calls).map fragment).flatten }

/-! ### One call delta -/

theorem find_call_append {i j : Nat} {t : ToolParts} {parts : List (Nat × ToolParts)} :
    find_call j (parts ++ [(i, t)]) =
      (find_call j parts).or (if i = j then some t else none) := by
  unfold find_call
  rw [List.find?_append, Option.map_or]
  by_cases h : i = j <;> simp [h]

theorem find_call_extend {i j : Nat} {a : PyStr} {parts : List (Nat × ToolParts)} :
    find_call j (extend_call i a parts) =
      if i = j then (find_call j parts).map fun t => { t with arguments := t.arguments ++ a }
      else find_call j parts := by
  unfold find_call extend_call
  induction parts with
  | nil => simp
  | cons p parts ih =>
    rw [List.map_cons, List.find?_cons, List.find?_cons]
    by_cases hp : p.1 = j
    · by_cases hi : i = j
      · simp [hp, hi]
      · have hne : ¬ j = i := fun h => hi h.symm
        simp [hp, hi, hne]
    · by_cases hpi : p.1 = i
      · have hij : ¬ i = j := hpi ▸ hp
        simpa [hp, hpi, hij] using ih
      · simpa [hp, hpi] using ih

theorem mem_of_find_call {i : Nat} {parts : List (Nat × ToolParts)}
    (h : (find_call i parts).isSome = true) : ∃ p ∈ parts, p.1 = i := by
  unfold find_call at h
  rw [Option.isSome_map, List.find?_isSome] at h
  obtain ⟨p, hp, hi⟩ := h
  exact ⟨p, hp, of_decide_eq_true hi⟩

theorem of_index_append {j : Nat} {calls : List Loaded} {call : Loaded} :
    of_index j (calls ++ [call]) =
      of_index j calls ++ if call_index call = some j then [call] else [] := by
  unfold of_index
  rw [List.filter_append]
  by_cases h : call_index call = some j <;> simp [h]

/-- A call is assembled as soon as it has a delta. -/
theorem assembled_call_isSome {i : Nat} {calls : List Loaded} :
    (assembled_call i calls).isSome = true ↔ of_index i calls ≠ [] := by
  unfold assembled_call
  cases of_index i calls <;> simp

/-- Adding the delta of one call. -/
theorem assembled_call_append {j : Nat} {calls : List Loaded} {call : Loaded} :
    assembled_call j (calls ++ [call]) =
      if call_index call = some j then
        some (((assembled_call j calls).map fun t =>
            { t with arguments := t.arguments ++ fragment call }).getD
          { id := (call.get "id").str?.getD []
            name := ((call.get "function").get "name").str?.getD []
            arguments := fragment call })
      else assembled_call j calls := by
  have hfilter := @of_index_append j calls call
  by_cases h : call_index call = some j
  · rw [if_pos h] at hfilter ⊢
    unfold assembled_call
    rw [hfilter]
    cases of_index j calls with
    | nil => simp
    | cons first rest => simp
  · rw [if_neg h] at hfilter ⊢
    unfold assembled_call
    rw [hfilter, List.append_nil]

theorem nonempty_str?_eq_some {value : Loaded} {s : PyStr} (h : value.nonempty_str? = some s) :
    value.str? = some s := by
  unfold Loaded.nonempty_str? at h
  exact (Option.filter_eq_some_iff.mp h).1

/-- A missing key reads as `None`. -/
theorem get_of_not_has {value : Loaded} {key : String} (h : value.has key = false) :
    value.get key = .none := by
  cases value with
  | dict ms =>
    have hfind : ms.find? (fun m => m.1 = PyStr.of key) = none := by
      rw [List.find?_eq_none]
      intro m hm hkey
      exact absurd (List.any_eq_true.mpr ⟨m, hm, hkey⟩) (Bool.eq_false_iff.mp h)
    simp [Loaded.get, hfind]
  | _ => rfl

theorem read_arguments_eq_ok {function : Loaded} {arguments : PyStr}
    (h : read_arguments function = .ok arguments) :
    (function.get "arguments").str?.getD [] = arguments := by
  unfold read_arguments at h
  split at h
  · rw [expect_eq_ok.mp h]
    rfl
  · next hkey =>
    obtain rfl := ok_eq_ok.mp h
    rw [get_of_not_has (Bool.eq_false_iff.mpr hkey)]
    rfl

/-- What an accepted call delta does to the calls. -/
theorem read_call_eq_ok {parts parts' : List (Nat × ToolParts)} {call : Loaded}
    (h : read_call parts call = .ok parts') :
    ∃ i, call_index call = some i ∧
      ((find_call i parts = none ∧ names_call call = true ∧ parts' = parts ++ [(i,
          { id := (call.get "id").str?.getD []
            name := ((call.get "function").get "name").str?.getD []
            arguments := fragment call })]) ∨
        (find_call i parts).isSome = true ∧ parts' = extend_call i (fragment call) parts) := by
  simp only [read_call, bind_eq_ok, refuse_eq_ok, expect_eq_ok] at h
  obtain ⟨object, hobject, _, -, i, hindex, function, hfunction, _, -, arguments, harguments, h⟩ := h
  obtain rfl := stream_object_eq_ok hobject
  obtain rfl := stream_object_eq_ok hfunction
  obtain rfl := read_arguments_eq_ok harguments
  refine ⟨i, hindex, ?_⟩
  split at h
  · next hnone =>
    simp only [open_call, bind_eq_ok, refuse_eq_ok, expect_eq_ok, pure_eq_ok] at h
    obtain ⟨current, ⟨id, hid, _, -, name, hname, rfl⟩, rfl⟩ := h
    have hnames : names_call call = true := by
      simp [names_call, nonempty_str?_eq_some hid, nonempty_str?_eq_some hname]
    rw [nonempty_str?_eq_some hid, nonempty_str?_eq_some hname]
    exact Or.inl ⟨hnone, hnames, rfl⟩
  · next t hsome =>
    simp only [bind_eq_ok, refuse_eq_ok, pure_eq_ok] at h
    obtain ⟨_, -, rfl⟩ := h
    exact Or.inr ⟨by rw [hsome]; rfl, rfl⟩

/-- The calls under construction are those the deltas so far assemble. -/
structure Assembles (calls : List Loaded) (parts : List (Nat × ToolParts)) : Prop where
  indexed : ∀ call ∈ calls, (call_index call).isSome = true
  named : ∀ i call, (of_index i calls).head? = some call → names_call call = true
  found : ∀ i, find_call i parts = assembled_call i calls

theorem assembles_call {calls : List Loaded} {call : Loaded} {parts parts' : List (Nat × ToolParts)}
    (hcalls : Assembles calls parts) (h : read_call parts call = .ok parts') :
    Assembles (calls ++ [call]) parts' := by
  obtain ⟨i, hindex, hparts⟩ := read_call_eq_ok h
  refine ⟨?_, fun j first hfirst => ?_, fun j => ?_⟩
  · intro c hc
    rcases List.mem_append.mp hc with hc | hc
    · exact hcalls.indexed c hc
    · rw [List.mem_singleton.mp hc, hindex]
      rfl
  · -- the first delta of a call changes only where the call had none
    rw [of_index_append, hindex] at hfirst
    cases hof : of_index j calls with
    | cons c cs =>
      rw [hof] at hfirst
      exact hcalls.named j first (by rw [hof]; exact hfirst)
    | nil =>
      by_cases hij : i = j
      · subst hij
        have hnone : find_call i parts = none := by
          rw [hcalls.found i]
          simp [assembled_call, hof]
        rcases hparts with ⟨-, hnames, -⟩ | ⟨hsome, -⟩
        · simp only [hof, if_true, List.nil_append, List.head?_cons, Option.some.injEq] at hfirst
          rwa [← hfirst]
        · rw [hnone] at hsome
          cases hsome
      · simp [hof, hij] at hfirst
  · rw [assembled_call_append, hindex, ← hcalls.found j]
    rcases hparts with ⟨hnone, -, rfl⟩ | ⟨hsome, rfl⟩
    · rw [find_call_append]
      by_cases hij : i = j
      · subst hij
        simp [hnone]
      · simp [hij]
    · rw [find_call_extend]
      by_cases hij : i = j
      · subst hij
        obtain ⟨t, ht⟩ := Option.isSome_iff_exists.mp hsome
        simp [ht]
      · simp [hij]

theorem assembles_calls {calls more : List Loaded} {parts parts' : List (Nat × ToolParts)}
    (hcalls : Assembles calls parts) (h : more.foldlM read_call parts = .ok parts') :
    Assembles (calls ++ more) parts' := by
  induction more generalizing calls parts with
  | nil =>
    obtain rfl := pure_eq_ok.mp h
    simpa using hcalls
  | cons call more ih =>
    rw [List.foldlM_cons] at h
    obtain ⟨parts₁, hcall, hrest⟩ := bind_eq_ok.mp h
    have hstep := ih (assembles_call hcalls hcall) hrest
    rwa [List.append_assoc, List.singleton_append] at hstep

/-! ### One payload -/

theorem read_text_eq_ok {value : Loaded} {parts parts' : List PyStr}
    (h : read_text value parts = .ok parts') : parts' = parts ++ value.str?.toList := by
  unfold read_text at h
  split at h
  · next hnone =>
    obtain rfl := ok_eq_ok.mp h
    rw [Loaded.is_none_iff.mp hnone]
    simp [Loaded.str?]
  · simp only [bind_eq_ok, expect_eq_ok, pure_eq_ok] at h
    obtain ⟨text, htext, rfl⟩ := h
    rw [htext]
    rfl

theorem read_tool_calls_eq_ok {delta : Loaded} {calls : List Loaded}
    (h : read_tool_calls delta = .ok calls) : calls = (delta.get "tool_calls").items := by
  unfold read_tool_calls at h
  split at h
  · unfold Loaded.items
    rw [expect_eq_ok.mp h]
    rfl
  · next hkey =>
    obtain rfl := ok_eq_ok.mp h
    rw [get_of_not_has (Bool.eq_false_iff.mpr hkey)]
    rfl

/-- What an accepted payload adds to the reader. -/
structure Reads (r r' : Reader) (payload : Loaded) : Prop where
  text : r'.text_parts = r.text_parts ++ (text_delta payload).toList
  reasoning : r'.reasoning_parts = r.reasoning_parts ++ (reasoning_delta payload).toList
  calls : (call_deltas payload).foldlM read_call r.tool_parts = .ok r'.tool_parts
  finish_reason : r'.finish_reason = r.finish_reason.or (finish_reason_of payload)
  usage : r'.usage.isSome = (r.usage.isSome || has_usage payload)
  done : r'.done = r.done

theorem read_payload_eq_ok {r r' : Reader} {payload : Loaded}
    (h : read_payload r payload = .ok r') : Reads r r' payload := by
  simp only [read_payload, bind_eq_ok, refuse_eq_ok, expect_eq_ok] at h
  obtain ⟨_, -, _, -, first, hfirst, choice, hchoice, _, -, _, -, delta, hdelta, r₁, hread,
    r₂, hfinish, husage⟩ := h
  obtain rfl := stream_object_eq_ok hchoice
  obtain rfl := stream_object_eq_ok hdelta
  have hof : choice_of payload = first := by
    unfold choice_of
    rw [hfirst]
    rfl
  simp only [read_delta, bind_eq_ok, refuse_eq_ok, pure_eq_ok] at hread
  obtain ⟨_, -, _, -, text_parts, htext, reasoning_parts, hreasoning, calls, hcalls, tool_parts,
    hfold, rfl⟩ := hread
  obtain rfl := read_text_eq_ok htext
  obtain rfl := read_text_eq_ok hreasoning
  obtain rfl := read_tool_calls_eq_ok hcalls
  have hr₂ : r₂ = { r with
      text_parts := r.text_parts ++ (text_delta payload).toList
      reasoning_parts := r.reasoning_parts ++ (reasoning_delta payload).toList
      tool_parts
      finish_reason := r.finish_reason.or (finish_reason_of payload) } := by
    unfold text_delta reasoning_delta finish_reason_of delta_of
    rw [hof]
    unfold read_finish_reason at hfinish
    split at hfinish
    · next hnone =>
      obtain rfl := ok_eq_ok.mp hfinish
      rw [Loaded.is_none_iff.mp hnone]
      simp [Loaded.str?]
    · simp only [bind_eq_ok, refuse_eq_ok, expect_eq_ok, pure_eq_ok] at hfinish
      obtain ⟨_, hnone, finish_reason, hreason, rfl⟩ := hfinish
      rw [hreason, Option.not_isSome_iff_eq_none.mp hnone]
      rfl
  have hcallsof : call_deltas payload = ((first.get "delta").get "tool_calls").items := by
    unfold call_deltas delta_of
    rw [hof]
  rw [← hcallsof] at hfold
  unfold read_usage at husage
  split at husage
  · next hnone =>
    obtain rfl := ok_eq_ok.mp husage
    subst hr₂
    exact ⟨rfl, rfl, hfold, rfl, by simp [has_usage, hnone], rfl⟩
  · next hsome =>
    simp only [bind_eq_ok, refuse_eq_ok, pure_eq_ok] at husage
    obtain ⟨_, -, usage, -, rfl⟩ := husage
    subst hr₂
    exact ⟨rfl, rfl, hfold, rfl, by simp [has_usage, hsome], rfl⟩

/-! ### All payloads -/

/-- What the reader holds after some payloads. -/
structure Gathered (ps : List Loaded) (r : Reader) : Prop where
  text : r.text_parts = ps.filterMap text_delta
  reasoning : r.reasoning_parts = ps.filterMap reasoning_delta
  calls : Assembles (ps.flatMap call_deltas) r.tool_parts
  finish_reason : r.finish_reason.isSome = ps.any fun p => (finish_reason_of p).isSome
  usage : r.usage.isSome = ps.any has_usage

theorem gathered_start : Gathered [] Reader.start :=
  { text := rfl
    reasoning := rfl
    calls :=
      { indexed := fun _ hc => by cases hc
        named := fun _ _ hc => by cases hc
        found := fun _ => rfl }
    finish_reason := rfl
    usage := rfl }

theorem gathered_step {ps : List Loaded} {r r' : Reader} {payload : Loaded}
    (hr : Gathered ps r) (h : Reads r r' payload) : Gathered (ps ++ [payload]) r' where
  text := by
    rw [h.text, hr.text, List.filterMap_append]
    cases htext : text_delta payload <;> simp [htext]
  reasoning := by
    rw [h.reasoning, hr.reasoning, List.filterMap_append]
    cases htext : reasoning_delta payload <;> simp [htext]
  calls := by
    rw [List.flatMap_append, List.flatMap_singleton]
    exact assembles_calls hr.calls h.calls
  finish_reason := by
    rw [h.finish_reason, List.any_append, ← hr.finish_reason]
    simp
  usage := by
    rw [h.usage, List.any_append, ← hr.usage]
    simp

theorem gathered_run {ps more : List Loaded} {r r' : Reader} (hr : Gathered ps r)
    (h : more.foldlM read_payload r = .ok r') : Gathered (ps ++ more) r' := by
  induction more generalizing ps r with
  | nil =>
    obtain rfl := pure_eq_ok.mp h
    simpa using hr
  | cons payload more ih =>
    rw [List.foldlM_cons] at h
    obtain ⟨r₁, hread, hrest⟩ := bind_eq_ok.mp h
    have hstep := ih (gathered_step hr (read_payload_eq_ok hread)) hrest
    rwa [List.append_assoc, List.singleton_append] at hstep

/-! ### Accepted responses -/

/-- The payload a response stands for, given the payloads of its events. -/
structure AssembledFrom (ps : List Loaded) (p : Payload) : Prop where
  content : p.content = (ps.filterMap text_delta).flatten
  reasoning_content : p.reasoning_content = (ps.filterMap reasoning_delta).flatten
  /-- Every call delta belongs to one of the calls. -/
  indexed : ∀ call ∈ ps.flatMap call_deltas, ∃ i < p.tool_calls.length, call_index call = some i
  tool_calls : ∀ i (hi : i < p.tool_calls.length), ∃ first,
    (of_index i (ps.flatMap call_deltas)).head? = some first ∧
      (first.get "id").str? = some p.tool_calls[i].id ∧
      ((first.get "function").get "name").str? = some p.tool_calls[i].name ∧
      p.tool_calls[i].arguments =
        ((of_index i (ps.flatMap call_deltas)).map fragment).flatten

/-- A response that carries everything a payload needs: `[DONE]` last, a
    finish reason, usage, and calls numbered without a gap. -/
structure Complete (loads : String → Option Loaded) (events : List String) : Prop where
  done : ∃ texts, events = texts ++ ["[DONE]"] ∧ "[DONE]" ∉ texts ∧
    texts.map loads = (payloads loads events).map some
  finish_reason : ∃ p ∈ payloads loads events, (finish_reason_of p).isSome = true
  usage : ∃ p ∈ payloads loads events, has_usage p = true
  gapless : ∀ i j, i < j → of_index j ((payloads loads events).flatMap call_deltas) ≠ [] →
    of_index i ((payloads loads events).flatMap call_deltas) ≠ []

theorem filterMap_range {β : Type} {n : Nat} {f : Nat → Option β}
    (h : ∀ i < n, (f i).isSome = true) :
    ((List.range n).filterMap f).length = n ∧
      ∀ i < n, ((List.range n).filterMap f)[i]? = f i := by
  induction n with
  | zero => exact ⟨rfl, fun i hi => absurd hi (Nat.not_lt_zero i)⟩
  | succ n ih =>
    obtain ⟨hlength, hget⟩ := ih fun i hi => h i (Nat.lt_succ_of_lt hi)
    obtain ⟨b, hb⟩ := Option.isSome_iff_exists.mp (h n (Nat.lt_succ_self n))
    rw [List.range_succ, List.filterMap_append, show [n].filterMap f = [b] by simp [hb]]
    refine ⟨by rw [List.length_append, hlength]; rfl, fun i hi => ?_⟩
    by_cases hin : i < n
    · rw [List.getElem?_append_left (by omega), hget i hin]
    · have hi' : i = n := by omega
      subst hi'
      rw [List.getElem?_append_right (by omega), hlength, Nat.sub_self, hb]
      rfl

/-- What the checks after the last event establish. -/
theorem finish_eq_ok {r : Reader} {p : Payload} (h : finish r = .ok p) :
    r.done = true ∧ r.finish_reason.isSome = true ∧ r.usage.isSome = true ∧
      p.content = r.text_parts.flatten ∧ p.reasoning_content = r.reasoning_parts.flatten ∧
      (∀ q ∈ r.tool_parts, q.1 < p.tool_calls.length) ∧
      ∀ i < p.tool_calls.length, (find_call i r.tool_parts).isSome = true ∧
        p.tool_calls[i]? = find_call i r.tool_parts := by
  simp only [finish, bind_eq_ok, refuse_eq_ok, expect_eq_ok, pure_eq_ok, Bool.not_eq_false] at h
  obtain ⟨_, hdone, finish_reason, hreason, _, -, _, -, usage, husage, _, -, _, hgap, rfl⟩ := h
  simp only [gapless, Bool.and_eq_true, List.all_eq_true, decide_eq_true_eq, List.mem_range] at hgap
  obtain ⟨hlength, hget⟩ := filterMap_range hgap.2
  refine ⟨hdone, by rw [hreason]; rfl, by rw [husage]; rfl, rfl, rfl, ?_, ?_⟩
  · intro q hq
    rw [hlength]
    exact hgap.1 q hq
  · intro i hi
    rw [hlength] at hi
    exact ⟨hgap.2 i hi, hget i hi⟩

section
variable (loads : String → Option Loaded)

/-- An accepted response is complete, and its payload is assembled from it. -/
theorem accepted_response {max_response_bytes : Nat} {content_type : String}
    {chunks : List (List UInt8)} {p : Payload}
    (h : read_deepseek_stream loads max_response_bytes content_type chunks = .ok p) :
    ∃ events, ServerSentEvents.sse_data_events max_response_bytes chunks = .ok events ∧
      Complete loads events ∧ AssembledFrom (payloads loads events) p := by
  obtain ⟨-, s, events, r, out, hevents, hread, hend, hfinish⟩ :=
    (read_deepseek_stream_eq_ok loads).mp h
  obtain ⟨hdone, hreason, husage, hcontent, hreasoning, hbound, hcalls⟩ := finish_eq_ok hfinish
  obtain ⟨texts, r₁, hlast, hnone, htexts, hfold, hr⟩ :=
    read_events_payloads loads hread rfl hdone fun _ _ _ h => (read_payload_eq_ok h).done
  have hgathered : Gathered (payloads loads events) r₁ := gathered_run gathered_start hfold
  subst hr
  have hindexed : ∀ call ∈ (payloads loads events).flatMap call_deltas,
      ∃ i < p.tool_calls.length, call_index call = some i := by
    intro call hcall
    obtain ⟨i, hi⟩ := Option.isSome_iff_exists.mp (hgathered.calls.indexed call hcall)
    have hfound : (find_call i r₁.tool_parts).isSome = true := by
      rw [hgathered.calls.found i, assembled_call_isSome]
      exact List.ne_nil_of_mem (List.mem_filter.mpr ⟨hcall, decide_eq_true hi⟩)
    obtain ⟨q, hq, rfl⟩ := mem_of_find_call hfound
    exact ⟨q.1, hbound q hq, hi⟩
  refine ⟨events, sse_data_events_eq_ok.mpr ⟨s, hevents, hend⟩, ?_, ?_⟩
  · refine ⟨⟨texts, hlast, hnone, htexts⟩, ?_, ?_, ?_⟩
    · rw [← List.any_eq_true, ← hgathered.finish_reason]
      exact hreason
    · rw [← List.any_eq_true, ← hgathered.usage]
      exact husage
    · intro i j hij hj
      obtain ⟨call, hcall⟩ := List.exists_mem_of_ne_nil _ hj
      obtain ⟨hmem, hjcall⟩ := List.mem_filter.mp hcall
      obtain ⟨k, hk, hkcall⟩ := hindexed call hmem
      rw [of_decide_eq_true hjcall] at hkcall
      obtain rfl := Option.some.inj hkcall
      rw [← assembled_call_isSome, ← hgathered.calls.found i]
      exact (hcalls i (by omega)).1
  · refine ⟨by rw [hcontent, ← hgathered.text], by rw [hreasoning, ← hgathered.reasoning],
      hindexed, ?_⟩
    intro i hi
    obtain ⟨hsome, hget⟩ := hcalls i hi
    rw [List.getElem?_eq_getElem hi, hgathered.calls.found i] at hget
    cases hof : of_index i ((payloads loads events).flatMap call_deltas) with
    | nil =>
      rw [hgathered.calls.found i, assembled_call_isSome] at hsome
      exact absurd hof hsome
    | cons first rest =>
      have hnames := hgathered.calls.named i first (by rw [hof]; rfl)
      simp only [names_call, Bool.and_eq_true, Option.isSome_iff_exists] at hnames
      obtain ⟨⟨id, hid⟩, name, hname⟩ := hnames
      rw [assembled_call, hof] at hget
      simp only [List.head?_cons, Option.map_some, Option.some.injEq] at hget
      exact ⟨first, rfl, by rw [hget, hid]; rfl, by rw [hget, hname]; rfl, by rw [hget]⟩

/-- A response that goes on past an accepted one is rejected, or gives the
    same payload. -/
theorem accepted_extension {max_response_bytes : Nat} {content_type : String}
    {chunks chunks' : List (List UInt8)} {p p' : Payload}
    (hpre : chunks.flatten <+: chunks'.flatten)
    (h : read_deepseek_stream loads max_response_bytes content_type chunks = .ok p)
    (h' : read_deepseek_stream loads max_response_bytes content_type chunks' = .ok p') :
    p = p' := by
  obtain ⟨-, s, events, r, out, hevents, hread, -, hfinish⟩ :=
    (read_deepseek_stream_eq_ok loads).mp h
  obtain ⟨-, s', events', r', out', hevents', hread', -, hfinish'⟩ :=
    (read_deepseek_stream_eq_ok loads).mp h'
  obtain ⟨rest, hrest⟩ := hpre
  -- the longer response continues from the state the shorter one leaves
  rw [← hrest, ServerSentEvents.incremental_chunk_events, hevents] at hevents'
  change (ServerSentEvents.chunk_events _ s rest >>= _) = _ at hevents'
  obtain ⟨⟨s₂, more⟩, -, hmore⟩ := bind_eq_ok.mp hevents'
  rw [pure_eq_ok, Prod.mk.injEq] at hmore
  obtain ⟨-, rfl⟩ := hmore
  have hsplit : read_events loads Reader.start (events ++ more) = _ :=
    (incremental_feed _) Reader.start events more
  change read_events loads Reader.start (events ++ more) =
    (read_events loads Reader.start events >>= _) at hsplit
  rw [hsplit, hread] at hread'
  change (read_events loads r more >>= _) = _ at hread'
  obtain ⟨⟨r₂, out₂⟩, hmoreread, hpure⟩ := bind_eq_ok.mp hread'
  rw [pure_eq_ok, Prod.mk.injEq] at hpure
  obtain ⟨rfl, -⟩ := hpure
  obtain ⟨-, rfl⟩ := read_events_done loads (finish_eq_ok hfinish).1 hmoreread
  rw [hfinish] at hfinish'
  exact ok_eq_ok.mp hfinish'

/-- A response is its bytes.  However they are cut into chunks, the reader
    returns the same payload or rejects; an accepted response has one payload
    however far it is read; the payload is assembled from the deltas, in order
    and index by index; and an incomplete response is rejected. -/
theorem deepseek_stream_determined_by_bytes (max_response_bytes : Nat) (content_type : String) :
    (∀ chunks, read_deepseek_stream loads max_response_bytes content_type chunks =
      read_deepseek_stream loads max_response_bytes content_type [chunks.flatten]) ∧
    (∀ chunks chunks' p p', chunks.flatten <+: chunks'.flatten →
      read_deepseek_stream loads max_response_bytes content_type chunks = .ok p →
      read_deepseek_stream loads max_response_bytes content_type chunks' = .ok p' → p = p') ∧
    (∀ chunks p, read_deepseek_stream loads max_response_bytes content_type chunks = .ok p →
      ∃ events, ServerSentEvents.sse_data_events max_response_bytes chunks = .ok events ∧
        AssembledFrom (payloads loads events) p) ∧
    (∀ chunks, (∀ events, ServerSentEvents.sse_data_events max_response_bytes chunks = .ok events →
        ¬ Complete loads events) →
      read_deepseek_stream loads max_response_bytes content_type chunks = .error .interrupted) := by
  refine ⟨read_deepseek_stream_flatten loads max_response_bytes content_type, ?_, ?_, ?_⟩
  · intro chunks chunks' p p' hpre h h'
    exact accepted_extension loads hpre h h'
  · intro chunks p h
    obtain ⟨events, hevents, -, hassembled⟩ := accepted_response loads h
    exact ⟨events, hevents, hassembled⟩
  · intro chunks hincomplete
    cases h : read_deepseek_stream loads max_response_bytes content_type chunks with
    | error e => rfl
    | ok p =>
      obtain ⟨events, hevents, hcomplete, -⟩ := accepted_response loads h
      exact absurd hcomplete (hincomplete events hevents)

end

/-! ### Reading with the JSON reader -/

mutual

/-- A value of the JSON reader, which reads no lone surrogate. -/
def of_json : Json → Loaded
  | .null    => .none
  | .bool b  => .bool b
  | .int i   => .int i
  | .float r => .float r
  | .str s   => .str (PyStr.of s)
  | .arr xs  => .list (of_items xs)
  | .obj ms  => .dict (of_members ms)

def of_items : List Json → List Loaded
  | []      => []
  | x :: xs => of_json x :: of_items xs

def of_members : List (String × Json) → List (PyStr × Loaded)
  | []      => []
  | m :: ms => (PyStr.of m.1, of_json m.2) :: of_members ms

end

def loads_json (text : String) : Option Loaded := (Json.loads text).map of_json

/-- A response of two events with CRLF lines. -/
def short_response : List UInt8 :=
  ("data: \x7b\"choices\":[\x7b\"index\":0,\"delta\":\x7b\"reasoning_content\":\"é\"\x7d," ++
    "\"finish_reason\":\"stop\"\x7d],\"usage\":\x7b\x7d\x7d\r\n\r\ndata: [DONE]\n\n").toList.flatMap
      String.utf8EncodeChar

theorem short_response_accepted :
    Fallible.succeeds (read_deepseek_stream loads_json 4096 "text/event-stream" [short_response])
      (fun p => p.reasoning_content = PyStr.of "é") = true := by
  decide +kernel

/-- The response cut inside its character. -/
theorem short_response_cut :
    (∃ p events,
      read_deepseek_stream loads_json 4096 "text/event-stream"
          [short_response.take 60, short_response.drop 60] = .ok p ∧
        ServerSentEvents.sse_data_events 4096 [short_response.take 60, short_response.drop 60] =
          .ok events ∧
        AssembledFrom (payloads loads_json events) p) := by
  obtain ⟨hflatten, -, hassembled, -⟩ :=
    deepseek_stream_determined_by_bytes loads_json 4096 "text/event-stream"
  obtain ⟨p, hp, -⟩ := Fallible.succeeds_iff.mp short_response_accepted
  have hcut : read_deepseek_stream loads_json 4096 "text/event-stream"
      [short_response.take 60, short_response.drop 60] = .ok p := by
    rw [hflatten]
    simp only [List.flatten_cons, List.flatten_nil, List.append_nil, List.take_append_drop]
    exact hp
  obtain ⟨events, hevents, hfrom⟩ := hassembled _ p hcut
  exact ⟨p, events, hcut, hevents, hfrom⟩

end DeepseekStream
