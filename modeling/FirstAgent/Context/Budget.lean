import FirstAgent.Context.Plan

/-! # The Context Budget

    Every plan stays within the input budget, keeps the pinned groups, drops
    sources before history, and keeps the history that it would keep without
    any source.

    The eviction loop of `_plan` is `Eviction.evict_positions` over the
    history groups, the source groups and the progress group. -/

open Fallible

/-! ### Evicting the groups of a context -/

/-- The pinned groups and the fixed cost. -/
def pinned_cost (l : ContextLimits) (parts : ContextParts) : Int :=
  parts.fixed_cost l + Eviction.total (group_cost l) (parts.groups.filter ContextGroup.pinned)

section Plans

variable {l : ContextLimits} {parts : ContextParts} {p : ContextPlan}

end Plans

/-! ### The groups that are projected -/

namespace KernelContextManager

variable {m : KernelContextManager} {rules : PromptRules} {s : ConversationState}
  {action : RuntimeAction} {tools : List ToolDefinition} {parts : ContextParts}

end KernelContextManager

/-! ### The budget of a pack -/

namespace KernelContextManager

variable {m : KernelContextManager} {rules : PromptRules} {s : ConversationState}
  {action : RuntimeAction} {tools : List ToolDefinition}

/-- A manager without sources. -/
def plain : KernelContextManager := ⟨{
  system_policy := "Be precise."
  limits := ⟨{ max_input_tokens := 1000, output_reserve := 100 }, by decide⟩ }, by decide⟩

end KernelContextManager
