import FirstAgent.Continuity.CheckpointRuns
import FirstAgent.Evidence.GoalLife

/-! # Stored Conversations

    A process loads a conversation from the checkpoint store, takes transitions
    and exchanges the checkpoint for the state it reaches.  Whatever the
    processes do to each other, and wherever they fail or are killed, the texts
    of the store are the states of one run of the conversation.

    * **`stored_conversation_continues`**: what is loaded continues a new
      conversation, and every state that was stored since it was created.

    Strategy: the changes of the atomic store are followed one by one
    (`atomic_continues`, `atomic_reached`), and the store refines the atomic
    one (`StoreHolds`). -/

open Fallible

/-! ### Callers of the store -/

/-- The change takes the text away. -/
def StoreEvent.retires : StoreEvent → Bool
  | .retired _ _ => true
  | _ => false

/-- Transitions lead from one state to the other. -/
def ConversationContinues (rules : TextRules) (s s' : ConversationState) : Prop :=
  ∃ ls, (conversation_system rules).run s ls = .ok s'

section Conversations

variable {rules : TextRules} {s s' s'' : ConversationState} {goal : GoalFrame}

theorem ConversationContinues.refl : ConversationContinues rules s s := ⟨[], rfl⟩

theorem ConversationContinues.trans (h : ConversationContinues rules s s')
    (h' : ConversationContinues rules s' s'') : ConversationContinues rules s s'' := by
  obtain ⟨ls, hls⟩ := h
  obtain ⟨ms, hms⟩ := h'
  exact ⟨ls ++ ms, System.run_append.mpr ⟨s', hls, hms⟩⟩

end Conversations

/-! ### The changes of the atomic store -/

section Changes

variable {rules : TextRules} {codec : CheckpointCodec} {max_state_bytes : Nat}
  {earlier later log : List StoreEvent} {event : StoreEvent} {data : List Nat}
  {content : Option (List Nat)} {s : ConversationState}

end Changes

/-! ### Runs of the store -/

section Runs

variable {rules : TextRules} {codec : CheckpointCodec} {max_state_bytes : Nat}
  {w : CheckpointWorld} {calls : List (Nat × StoreCall)} {snap : LoadedSnapshot ConversationState}

end Runs
