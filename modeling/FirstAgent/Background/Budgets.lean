import FirstAgent.Background.Usage
import FirstAgent.Framework.Renewal
import FirstAgent.Invariants.ProviderCalls

/-! # The Budgets of an Occurrence

    The loop and the reducers test the budgets of an occurrence on the
    counters of its active run.  A message, and a disclosure decision on a
    stopped run, start a run with fresh counters, so the budgets bind the
    occurrence where no run starts between two spending steps. -/

open Fallible

/-! ### The driven occurrence -/

/-- The loop goes on to the provider only inside the budgets of the run; else
    it pauses the run at its limit. -/
def admits_provider_call (s : ConversationState) (input_tokens : Int) : Bool :=
  match s.val.background_occurrence_binding, s.val.active_run with
  | some binding, some active =>
    !decide (binding.val.model_call_limit ≤ active.val.model_calls_used) &&
      !decide (binding.val.max_input_tokens < active.val.input_tokens_used + input_tokens)
  | _, _ => true

/-- A transition as the loop takes it. -/
def occurrence_step (rules : TextRules) (s : ConversationState) (l : Transition) :
    Py ConversationState := do
  match l with
  | .begin_provider_call _ input_tokens =>
    Py.refuse_value (admits_provider_call s input_tokens = false) "the run is paused at its limit"
  | _ => .ok ()
  transition_step rules s l

/-- A background conversation as the loop drives it. -/
def occurrence_system (rules : TextRules) : System PyError ConversationState Transition where
  step := occurrence_step rules

section Steps

variable {rules : TextRules} {l : Transition} {s s' : ConversationState}
  {binding : BackgroundOccurrenceBindingV1}

theorem occurrence_step_ok (h : occurrence_step rules s l = .ok s') :
    transition_step rules s l = .ok s' ∧
      ∀ intent input_tokens, l = .begin_provider_call intent input_tokens →
        admits_provider_call s input_tokens = true := by
  cases l
  case begin_provider_call intent input_tokens =>
    simp only [occurrence_step, bind_eq_ok, Py.refuse_value_eq_ok, Bool.not_eq_false] at h
    obtain ⟨_, hadmits, h⟩ := h
    refine ⟨h, ?_⟩
    rintro _ _ ⟨⟩
    exact hadmits
  all_goals exact ⟨h, fun _ _ hl => by cases hl⟩

theorem admits_provider_call_within {input_tokens : Int} {u : RunUsage}
    (h : admits_provider_call s input_tokens = true)
    (hbinding : s.spending.binding = some binding) (husage : s.spending.usage = some u) :
    (u.model_calls : Int) < binding.val.model_call_limit ∧
      (u.input_tokens : Int) + input_tokens ≤ binding.val.max_input_tokens := by
  simp only [ConversationState.spending, Option.map_eq_some_iff] at hbinding husage
  obtain ⟨active, hactive, rfl⟩ := husage
  simp only [admits_provider_call, hbinding, hactive, Bool.and_eq_true, Bool.not_eq_true',
    decide_eq_false_iff_not, not_le, not_lt] at h
  exact h

/-- A label that starts a run spends nothing. -/
theorem starts_run_spends (h : l.spends = true) : starts_run s l = false := by
  cases l <;> first | rfl | cases h

/-- The budgets are part of the occurrence, which stays. -/
theorem spending_binding (h : transition_step rules s l = .ok s')
    (hbinding : s.spending.binding = some binding) : s'.spending.binding = some binding := by
  by_cases hspends : l.spends = true
  · cases l
    case begin_provider_call =>
      obtain ⟨_, _, hview⟩ := begin_provider_call_charges h
      rw [hview, hbinding]
    case mark_executing =>
      obtain ⟨_, _, _, hview⟩ := mark_executing_charges hbinding h
      rw [hview, hbinding]
    all_goals cases hspends
  · rcases transition_usage_change h (by simpa using hspends) with
      hview | hview | ⟨_, hkept, _⟩ | ⟨hnone, _⟩
    · rw [hview, hbinding]
    · rw [hview, hbinding]
    · rw [hkept, hbinding]
    · rw [hnone] at hbinding
      cases hbinding

end Steps

/-! ### Charges -/

/-- What the loop and the reducers test before a label is counted. -/
def AdmitsCharge (binding : BackgroundOccurrenceBindingV1) (u : RunUsage) : Transition → Prop
  | .begin_provider_call _ input_tokens =>
    (u.model_calls : Int) < binding.val.model_call_limit ∧
      (u.input_tokens : Int) + input_tokens ≤ binding.val.max_input_tokens
  | .mark_executing r => WithinBudgets binding u r
  | _ => True

section Charges

variable {rules : TextRules} {l : Transition} {s s' : ConversationState}
  {binding : BackgroundOccurrenceBindingV1}

/-- A step that spends is admitted by the budgets and charged to the run. -/
theorem occurrence_charges (h : occurrence_step rules s l = .ok s')
    (hbinding : s.spending.binding = some binding) (hspends : l.spends = true) :
    ∃ u, s.spending.usage = some u ∧ AdmitsCharge binding u l ∧
      s'.spending.usage = some (u.charged l) := by
  obtain ⟨hstep, hadmits⟩ := occurrence_step_ok h
  cases l
  case begin_provider_call intent input_tokens =>
    obtain ⟨u, husage, hview⟩ := begin_provider_call_charges hstep
    refine ⟨u, husage, ?_, by rw [hview]; rfl⟩
    exact admits_provider_call_within (hadmits intent input_tokens rfl) hbinding husage
  case mark_executing r =>
    obtain ⟨u, husage, hwithin, hview⟩ := mark_executing_charges hbinding hstep
    exact ⟨u, husage, hwithin, by rw [hview]; rfl⟩
  all_goals cases hspends

end Charges

/-! ### Budgets -/

/-- A budget: its limit, its counter and what a label takes of it.  The counter
    grows by the price, and stays inside the limit where it grows. -/
structure Budget where
  limit : BackgroundOccurrenceBindingV1 → Int
  used : RunUsage → Nat
  price : Transition → Nat
  non_negative : ∀ binding, 0 ≤ limit binding
  counted : ∀ u l, used (u.charged l) = used u + price l
  within : ∀ binding u l, l.spends = true → AdmitsCharge binding u l → 0 < price l →
    (used u + price l : Nat) ≤ limit binding
  free : ∀ l, l.spends = false → price l = 0

namespace Budget

theorem binding_limits (b : BackgroundOccurrenceBindingV1) :
    1 ≤ b.val.model_call_limit ∧ 1 ≤ b.val.tool_call_limit ∧ 1 ≤ b.val.max_input_tokens ∧
      0 ≤ b.val.sandbox_command_limit ∧ 0 ≤ b.val.browser_action_limit := by
  have h := b.valid
  simp only [BackgroundOccurrenceBindingFields.post_init,
    BackgroundOccurrenceBindingFields.refuse_below, bind_eq_ok, Py.refuse_value_eq_ok,
    not_lt] at h
  obtain ⟨_, _, _, _, _, ⟨_, _, _, hmodel, _, htool, _, hinput, _⟩, _,
    ⟨_, hsandbox, _, hbrowser, _⟩, _⟩ := h
  exact ⟨hmodel, htool, hinput, hsandbox, hbrowser⟩

/-- The price of an execution with an authority. -/
theorem cost_executes_with (authority : ExecutionAuthorityClass) (r : ExecutionRequest) :
    System.cost (Transition.executes_with authority) (.mark_executing r) =
      (decide (r.intent.execution_authority = authority)).toNat := by
  by_cases h : r.intent.execution_authority = authority <;>
    simp [System.cost, Transition.executes_with, h]

def model_calls : Budget where
  limit b := b.val.model_call_limit
  used u := u.model_calls
  price := System.cost Transition.calls_provider
  non_negative b := by
    have h := binding_limits b
    omega
  counted u l := by
    cases l <;> rfl
  within b u l h hadmits hprice := by
    cases l
    case begin_provider_call =>
      have hcalls : (u.model_calls : Int) < b.val.model_call_limit := hadmits.1
      show ((u.model_calls + 1 : Nat) : Int) ≤ b.val.model_call_limit
      omega
    case mark_executing => exact absurd hprice (Nat.lt_irrefl 0)
    all_goals cases h
  free l h := by
    cases l <;> first | rfl | cases h

def input_tokens : Budget where
  limit b := b.val.max_input_tokens
  used u := u.input_tokens
  price := Transition.input_tokens
  non_negative b := by
    have h := binding_limits b
    omega
  counted u l := by
    cases l <;> rfl
  within b u l h hadmits hprice := by
    cases l
    case begin_provider_call intent tokens =>
      have htokens : (u.input_tokens : Int) + tokens ≤ b.val.max_input_tokens := hadmits.2
      have hpositive : 0 < tokens.toNat := hprice
      show ((u.input_tokens + tokens.toNat : Nat) : Int) ≤ b.val.max_input_tokens
      omega
    case mark_executing => exact absurd hprice (Nat.lt_irrefl 0)
    all_goals cases h
  free l h := by
    cases l <;> first | rfl | cases h

def tool_calls : Budget where
  limit b := b.val.tool_call_limit
  used u := u.tool_calls
  price := System.cost Transition.executes
  non_negative b := by
    have h := binding_limits b
    omega
  counted u l := by
    cases l <;> rfl
  within b u l h hadmits hprice := by
    cases l
    case begin_provider_call => exact absurd hprice (Nat.lt_irrefl 0)
    case mark_executing =>
      have htools : (u.tool_calls : Int) < b.val.tool_call_limit := hadmits.1
      show ((u.tool_calls + 1 : Nat) : Int) ≤ b.val.tool_call_limit
      omega
    all_goals cases h
  free l h := by
    cases l <;> first | rfl | cases h

def sandbox_commands : Budget where
  limit b := b.val.sandbox_command_limit
  used u := u.sandbox_commands
  price := System.cost (Transition.executes_with .isolated_sandbox)
  non_negative b := by
    have h := binding_limits b
    omega
  counted u l := by
    cases l
    case mark_executing r =>
      rw [cost_executes_with]
      rfl
    all_goals rfl
  within b u l h hadmits hprice := by
    cases l
    case begin_provider_call => exact absurd hprice (Nat.lt_irrefl 0)
    case mark_executing r =>
      rw [cost_executes_with] at hprice ⊢
      have hkind : r.intent.execution_authority = .isolated_sandbox := by
        by_contra hne
        simp [hne] at hprice
      have hcommands := hadmits.2.1 hkind
      simp only [hkind, decide_true, Bool.toNat_true]
      omega
    all_goals cases h
  free l h := by
    cases l <;> first | rfl | cases h

def browser_actions : Budget where
  limit b := b.val.browser_action_limit
  used u := u.browser_actions
  price := System.cost (Transition.executes_with .browser_session)
  non_negative b := by
    have h := binding_limits b
    omega
  counted u l := by
    cases l
    case mark_executing r =>
      rw [cost_executes_with]
      rfl
    all_goals rfl
  within b u l h hadmits hprice := by
    cases l
    case begin_provider_call => exact absurd hprice (Nat.lt_irrefl 0)
    case mark_executing r =>
      rw [cost_executes_with] at hprice ⊢
      have hkind : r.intent.execution_authority = .browser_session := by
        by_contra hne
        simp [hne] at hprice
      have hactions := hadmits.2.2.1 hkind
      simp only [hkind, decide_true, Bool.toNat_true]
      omega
    all_goals cases h
  free l h := by
    cases l <;> first | rfl | cases h

/-- What the run has left of a budget; without a run nothing is left. -/
def credit (budget : Budget) (binding : BackgroundOccurrenceBindingV1) (s : ConversationState) :
    Nat :=
  match s.spending.usage with
  | some u => (budget.limit binding - budget.used u).toNat
  | none   => 0

section Credit

variable {budget : Budget} {binding : BackgroundOccurrenceBindingV1} {s s' : ConversationState}
  {rules : TextRules} {l : Transition} {u : RunUsage}

theorem credit_of_usage (husage : s.spending.usage = some u) :
    budget.credit binding s = (budget.limit binding - budget.used u).toNat := by
  simp [credit, husage]

theorem credit_le_limit : (budget.credit binding s : Int) ≤ budget.limit binding := by
  have hlimit := budget.non_negative binding
  unfold credit
  split <;> omega

/-- A step that starts no run pays its price from what is left. -/
theorem credit_pays (h : occurrence_step rules s l = .ok s')
    (hbinding : s.spending.binding = some binding) (hstarts : starts_run s l = false) :
    budget.price l + budget.credit binding s' ≤ budget.credit binding s := by
  by_cases hspends : l.spends = true
  · obtain ⟨u, husage, hadmits, hafter⟩ := occurrence_charges h hbinding hspends
    have hcounted := budget.counted u l
    have hwithin := budget.within binding u l hspends hadmits
    rw [credit_of_usage husage, credit_of_usage hafter, hcounted]
    rcases Nat.eq_zero_or_pos (budget.price l) with hzero | hpositive
    · omega
    · have hlimit := hwithin hpositive
      omega
  · rw [budget.free l (by simpa using hspends), Nat.zero_add]
    have hstep := (occurrence_step_ok h).1
    rcases transition_usage_change hstep (by simpa using hspends) with
      hview | hview | ⟨hfresh, _, _⟩ | ⟨hnone, _⟩
    · simp [credit, hview]
    · simp [credit, hview]
    · rw [hstarts] at hfresh
      cases hfresh
    · rw [hnone] at hbinding
      cases hbinding

/-- What is left of a budget is a credit that starting a run renews. -/
theorem renewable (budget : Budget) (rules : TextRules)
    (binding : BackgroundOccurrenceBindingV1) :
    (occurrence_system rules).Renewable (fun s => s.spending.binding = some binding) starts_run
      Transition.spends budget.price (budget.credit binding) where
  keeps _ _ _ hbinding h := spending_binding (occurrence_step_ok h).1 hbinding
  pays _ _ _ hbinding hstarts h := credit_pays h hbinding hstarts
  free := budget.free
  apart _ _ hspends := starts_run_spends hspends

end Credit

/-! ### Ordinals -/

section Ordinals

variable {budget : Budget} {rules : TextRules} {binding : BackgroundOccurrenceBindingV1}
  {s s' : ConversationState} {l : Transition} {ls : List Transition} {action_class : String}
  {n : Int}

/-- An ordinal is the next number of a counter that its step charges. -/
def Numbers (budget : Budget) (action_class : String) : Prop :=
  ∀ binding u l n, AdmitsCharge binding u l → l.budget_ordinal action_class = some n →
    0 < budget.price l ∧ n = (budget.used u + 1 : Nat)

/-- Only executions carry an ordinal. -/
theorem spends_of_ordinal (h : l.budget_ordinal action_class = some n) : l.spends = true := by
  cases l <;> first | rfl | cases h

/-- What an admitted ordinal says of its execution. -/
theorem ordinal_admitted {u : RunUsage} (hadmits : AdmitsCharge binding u l)
    (h : l.budget_ordinal action_class = some n) :
    (action_class = "sandbox_confined" ∧
        System.cost (Transition.executes_with .isolated_sandbox) l = 1 ∧
        n = (u.sandbox_commands + 1 : Nat)) ∨
      (action_class = "browser_public_observe" ∧
        System.cost (Transition.executes_with .browser_session) l = 1 ∧
        n = (u.browser_actions + 1 : Nat)) := by
  cases l
  case mark_executing r =>
    simp only [Transition.budget_ordinal, Option.bind_eq_some_iff] at h
    obtain ⟨a, ha, h⟩ := h
    split at h
    · rename_i hclass
      obtain rfl := Option.some.inj h
      rcases hadmits.2.2.2 a ha with ⟨hkind, hname, hordinal⟩ | ⟨hkind, hname, hordinal⟩
      · exact .inl ⟨hclass.symm.trans hname, by simp [cost_executes_with, hkind], hordinal⟩
      · exact .inr ⟨hclass.symm.trans hname, by simp [cost_executes_with, hkind], hordinal⟩
    · cases h
  all_goals cases h

theorem sandbox_numbers : sandbox_commands.Numbers "sandbox_confined" := by
  intro binding u l n hadmits h
  rcases ordinal_admitted hadmits h with ⟨_, hcost, hn⟩ | ⟨hclass, _, _⟩
  · exact ⟨by show 0 < System.cost _ l; omega, hn⟩
  · exact absurd hclass (by decide)

theorem browser_numbers : browser_actions.Numbers "browser_public_observe" := by
  intro binding u l n hadmits h
  rcases ordinal_admitted hadmits h with ⟨hclass, _, _⟩ | ⟨_, hcost, hn⟩
  · exact absurd hclass (by decide)
  · exact ⟨by show 0 < System.cost _ l; omega, hn⟩

/-- A class without a counter has no ordinals. -/
theorem other_numbers (hsandbox : action_class ≠ "sandbox_confined")
    (hbrowser : action_class ≠ "browser_public_observe") : tool_calls.Numbers action_class := by
  intro binding u l n hadmits h
  rcases ordinal_admitted hadmits h with ⟨hclass, _, _⟩ | ⟨hclass, _, _⟩
  · exact absurd hclass hsandbox
  · exact absurd hclass hbrowser

/-- An ordinal falls between what is left before its step and what is left
    after it. -/
theorem ordinal_rank (hnumbers : budget.Numbers action_class)
    (h : occurrence_step rules s l = .ok s') (hbinding : s.spending.binding = some binding)
    (hn : l.budget_ordinal action_class = some n) :
    l.spends = true ∧ (budget.limit binding + 1 - n).toNat ≤ budget.credit binding s ∧
      budget.credit binding s' < (budget.limit binding + 1 - n).toNat := by
  have hspends := spends_of_ordinal hn
  obtain ⟨u, husage, hadmits, hafter⟩ := occurrence_charges h hbinding hspends
  obtain ⟨hpositive, rfl⟩ := hnumbers binding u l n hadmits hn
  have hwithin := budget.within binding u l hspends hadmits hpositive
  have hcounted := budget.counted u l
  rw [credit_of_usage husage, credit_of_usage hafter, hcounted]
  exact ⟨hspends, by omega, by omega⟩

theorem ordinals_distinct (hnumbers : budget.Numbers action_class)
    (hbinding : s.spending.binding = some binding)
    (honce : (occurrence_system rules).OnceSpending starts_run Transition.spends s ls)
    (hrun : (occurrence_system rules).run s ls = .ok s') :
    (ls.filterMap (Transition.budget_ordinal action_class)).Nodup := by
  have hmark : ∀ t l t' n, t.spending.binding = some binding →
      (occurrence_system rules).step t l = .ok t' → l.budget_ordinal action_class = some n →
      l.spends = true ∧ (budget.limit binding + 1 - n).toNat ≤ budget.credit binding t ∧
        budget.credit binding t' < (budget.limit binding + 1 - n).toNat := by
    intro t l t' n hb h hn
    exact ordinal_rank hnumbers h hb hn
  exact System.marks_distinct (budget.renewable rules binding) hmark hbinding honce hrun

end Ordinals

/-- Where no run starts between two spending steps, a run spends no more than
    the limit. -/
theorem spent_within (budget : Budget) {rules : TextRules}
    {binding : BackgroundOccurrenceBindingV1} {s s' : ConversationState} {ls : List Transition}
    (hbinding : s.spending.binding = some binding)
    (honce : (occurrence_system rules).OnceSpending starts_run Transition.spends s ls)
    (hrun : (occurrence_system rules).run s ls = .ok s') :
    ((ls.map budget.price).sum : Int) ≤ budget.limit binding := by
  have hlimit := budget.non_negative binding
  have hspent : (ls.map budget.price).sum ≤ (budget.limit binding).toNat := by
    refine System.spends_from_renewal (budget.renewable rules binding) (fun t _ => ?_) hbinding
      honce hrun
    have hcredit : (budget.credit binding t : Int) ≤ budget.limit binding := credit_le_limit
    omega
  omega

end Budget

/-! ### The occurrence -/

/-- The labels spend no more than the budgets of the occurrence. -/
structure WithinOccurrence (binding : BackgroundOccurrenceBindingV1) (ls : List Transition) :
    Prop where
  model_calls : (ls.countP Transition.calls_provider : Int) ≤ binding.val.model_call_limit
  tool_calls : (ls.countP Transition.executes : Int) ≤ binding.val.tool_call_limit
  sandbox_commands : (ls.countP (Transition.executes_with .isolated_sandbox) : Int) ≤
    binding.val.sandbox_command_limit
  browser_actions : (ls.countP (Transition.executes_with .browser_session) : Int) ≤
    binding.val.browser_action_limit
  input_tokens : ((ls.map Transition.input_tokens).sum : Int) ≤ binding.val.max_input_tokens
  ordinals : ∀ action_class, (ls.filterMap (Transition.budget_ordinal action_class)).Nodup

/-- In every run in which no run starts between two spending steps, the
    occurrence stays within its budgets. -/
theorem budgets_bind_occurrence (rules : TextRules) {s s' : ConversationState}
    {binding : BackgroundOccurrenceBindingV1} {ls : List Transition}
    (hbinding : s.val.background_occurrence_binding = some binding)
    (honce : (occurrence_system rules).OnceSpending starts_run Transition.spends s ls)
    (hrun : (occurrence_system rules).run s ls = .ok s') : WithinOccurrence binding ls where
  model_calls := by
    have h := Budget.model_calls.spent_within hbinding honce hrun
    rwa [Budget.model_calls, System.sum_cost] at h
  tool_calls := by
    have h := Budget.tool_calls.spent_within hbinding honce hrun
    rwa [Budget.tool_calls, System.sum_cost] at h
  sandbox_commands := by
    have h := Budget.sandbox_commands.spent_within hbinding honce hrun
    rwa [Budget.sandbox_commands, System.sum_cost] at h
  browser_actions := by
    have h := Budget.browser_actions.spent_within hbinding honce hrun
    rwa [Budget.browser_actions, System.sum_cost] at h
  input_tokens := Budget.input_tokens.spent_within hbinding honce hrun
  ordinals action_class := by
    by_cases hsandbox : action_class = "sandbox_confined"
    · rw [hsandbox]
      exact Budget.ordinals_distinct Budget.sandbox_numbers hbinding honce hrun
    · by_cases hbrowser : action_class = "browser_public_observe"
      · rw [hbrowser]
        exact Budget.ordinals_distinct Budget.browser_numbers hbinding honce hrun
      · exact Budget.ordinals_distinct (Budget.other_numbers hsandbox hbrowser) hbinding honce hrun

/-! ### A renewed run -/

section Fixed

/-- The call of the run that the next message starts. -/
def renewed_call : ProviderCallIntentV1 where
  val := { first_call.val with
    action_seq := 3
    request_digest := "3c7f7ffdecf6f325c9ea48949eef1dbfeaf31ca8a580ee7e44bedc9b14345608"
    intent_digest := "1f0475bc01505ba45ba40e03b8369ecf321bd80014b6121daf80eb164e461c50" }
  valid := by
    rw [ProviderCallIntentFields.post_init, ProviderCallIntentFields.expected_intent_digest,
      ProviderCallIntentFields.expected_request_digest, canonical_json_digest_eq,
      canonical_json_digest_eq]
    decide +kernel

/-- The user gives up the call whose outcome is unknown. -/
def abandon_action : RuntimeAction where
  conversation_id := "conversation"
  action_seq := 2
  expected_revision := 4
  body := .abandon_unknown_model_outcome
    ⟨{ occurrence_id := "occurrence"
       background_binding_digest := occurrence_binding.val.binding_digest
       provider_call_intent_digest := first_call.val.intent_digest }, by decide +kernel⟩

/-- A message starts a run, which calls its provider. -/
def called_steps : List Transition := [
  submit_step 1 0 "run-1", .claim_run "invocation", .begin_provider_call first_call 600]

/-- The call is given up, and the next message starts a run that calls again. -/
def called_again_steps : List Transition := called_steps ++ [
  .mark_model_outcome_unknown, .accept_action "" abandon_action 64 none,
  submit_step 3 5 "run-2", .claim_run "invocation", .begin_provider_call renewed_call 600]

theorem called_within_budgets : ∃ s',
    (occurrence_system .silent).run occurrence_conversation called_steps = .ok s' ∧
    WithinOccurrence occurrence_binding called_steps := by
  have hruns : succeeds ((occurrence_system .silent).run occurrence_conversation called_steps)
      (fun _ => true) = true := by
    decide +kernel
  obtain ⟨s', hs', _⟩ := succeeds_iff.mp hruns
  refine ⟨s', hs', budgets_bind_occurrence .silent rfl (System.once_of_head ?_) hs'⟩
  intro m hm t
  simp only [List.mem_cons, List.not_mem_nil, or_false] at hm
  rcases hm with rfl | rfl <;> rfl

/-- A second message renews the counters: the occurrence is charged 1200 input
    tokens of the 1000 it may use. -/
theorem renewed_run_overspends : ∃ s',
    (occurrence_system .silent).run occurrence_conversation called_again_steps = .ok s' ∧
    ¬ WithinOccurrence occurrence_binding called_again_steps := by
  have hruns : succeeds ((occurrence_system .silent).run occurrence_conversation
      called_again_steps) (fun _ => true) = true := by
    decide +kernel
  obtain ⟨s', hs', _⟩ := succeeds_iff.mp hruns
  refine ⟨s', hs', fun hwithin => ?_⟩
  have htokens : (1200 : Int) ≤ 1000 := hwithin.input_tokens
  omega

end Fixed
