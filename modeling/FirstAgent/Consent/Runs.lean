import FirstAgent.Consent.Admission
import FirstAgent.Consent.Change
import FirstAgent.Framework.Credit

/-! # Provider Consent over Whole Runs

    Dispatches interleave with everything else a conversation does.  Both a
    receipt and a grant are credits: a dispatch outside a grant spends the
    receipt, a dispatch under a grant spends one of its uses, and until the
    user decides again nothing adds to either.

    * **`receipt_credit`**: one while the receipt is unspent and no newer
      message of the user is in the log.
    * **`grant_credit`**: the uses an active grant has left. -/

open Fallible

/-! ### The system -/

/-- A transition of the conversation, or the charge of a dispatch with the
    gate some evaluation gave; evaluations change nothing. -/
inductive ConsentLabel where
  | transition (t : Transition)
  | charge (gate : ProviderDispatchGateV1) (descriptor : ProviderDescriptor)
      (scope : ProviderConsentScopeV1) (purpose run_id now : String)

def consent_step (rules : TextRules) (s : ConversationState) :
    ConsentLabel → Py ConversationState
  | .transition t => transition_step rules s t
  | .charge gate descriptor scope purpose run_id now =>
    charge_provider_dispatch s gate descriptor scope purpose run_id now

def consent_system (rules : TextRules) : System PyError ConversationState ConsentLabel where
  step := consent_step rules

namespace ConsentLabel

def beside_dispatch : ConsentLabel → Bool
  | .transition t => t.beside_dispatch
  | .charge ..    => true

def acknowledges : ConsentLabel → Bool
  | .transition t => t.acknowledges
  | .charge ..    => false

def mints : ConsentLabel → Bool
  | .transition t => t.mints
  | .charge ..    => false

def ends_grant : ConsentLabel → Bool
  | .transition t => t.ends_grant
  | .charge ..    => false

def new_user_message : ConsentLabel → Bool
  | .transition t => t.new_user_message
  | .charge ..    => false

/-- A dispatch to a remote provider that no grant pays for. -/
def outside_grant : ConsentLabel → Bool
  | .transition _                => false
  | .charge gate descriptor .. => descriptor.remote && !gate.grant_use

/-- A dispatch a grant pays for. -/
def under_grant : ConsentLabel → Bool
  | .transition _   => false
  | .charge gate .. => gate.grant_use

end ConsentLabel

/-! ### Receipts -/

/-- The receipt in force, if any, answers this request by this action. -/
structure Acknowledged (request : ProviderDisclosureRequestV2) (action_seq : Int)
    (v : ConsentView) : Prop where
  earlier : action_seq < v.next_action_seq
  answers : ∀ r, v.receipt = some r → v.request = some (.v2 request) ∧
    ∃ receipt : ProviderDisclosureReceiptV2, r = .v2 receipt ∧
      receipt.val.acknowledged_action_seq = action_seq

/-- The dispatches outside a grant the receipt still admits. -/
def receipt_credit (s : ConversationState) : Nat :=
  match s.val.provider_disclosure_receipt with
  | some (.v2 receipt) =>
    if receipt.val.consumed_at = none && no_new_user_input_since s receipt then 1 else 0
  | _ => 0

section Receipts

variable {s s' : ConversationState} {request : ProviderDisclosureRequestV2} {seq : Int}

theorem receipt_credit_le (s : ConversationState) : receipt_credit s ≤ 1 := by
  unfold receipt_credit
  split
  · split <;> omega
  · omega

theorem receipt_credit_none (h : s.val.provider_disclosure_receipt = none) :
    receipt_credit s = 0 := by
  simp [receipt_credit, h]

theorem receipt_credit_admits {descriptor : ProviderDescriptor} {scope : ProviderConsentScopeV1}
    {purpose run_id : String} {previous : ProviderDisclosureRequestV2}
    {receipt : ProviderDisclosureReceiptV2}
    (h : ReceiptAdmits s descriptor scope purpose run_id previous receipt) :
    receipt_credit s = 1 := by
  simp [receipt_credit, h.answered, h.unspent, h.no_new_input]

theorem receipt_credit_spent {receipt : ProviderDisclosureReceiptV2} {now : String}
    (hreceipt : s.val.provider_disclosure_receipt = some (.v2 receipt))
    (hspent : receipt.val.consumed_at = some now) : receipt_credit s = 0 := by
  simp [receipt_credit, hreceipt, hspent]

/-- A longer log tells no less about new messages. -/
theorem no_new_user_input_since_mono {receipt : ProviderDisclosureReceiptV2}
    (hfacts : s.val.facts ⊆ s'.val.facts) (h : no_new_user_input_since s' receipt = true) :
    no_new_user_input_since s receipt = true := by
  simp only [no_new_user_input_since, List.all_eq_true] at h ⊢
  exact fun f hf => h f (hfacts hf)

/-- A receipt left as it is, or spent, admits no more than before. -/
theorem receipt_credit_mono (hfacts : s.val.facts ⊆ s'.val.facts)
    (h : KeepsOrSpends s.val.provider_disclosure_receipt s'.val.provider_disclosure_receipt) :
    receipt_credit s' ≤ receipt_credit s := by
  rcases h with hkept | ⟨receipt, receipt', now, _, hafter, hspent⟩
  · unfold receipt_credit
    rw [hkept]
    split
    · next receipt _ =>
      split
      · next hnew =>
        simp only [Bool.and_eq_true] at hnew
        simp [hnew.1, no_new_user_input_since_mono hfacts hnew.2]
      · omega
    · omega
  · rw [receipt_credit_spent hafter (by rw [hspent])]
    omega

theorem Acknowledged.spends {v v' : ConsentView} (h : Acknowledged request seq v)
    (hnext : v'.next_action_seq = v.next_action_seq) (hrequest : v'.request = v.request)
    (hreceipt : KeepsOrSpends v.receipt v'.receipt) : Acknowledged request seq v' := by
  refine ⟨hnext ▸ h.earlier, fun r hr => ?_⟩
  rcases hreceipt with hkept | ⟨receipt, receipt', now, hbefore, hafter, hspent⟩
  · rw [hkept] at hr
    rw [hrequest]
    exact h.answers r hr
  · obtain ⟨hpending, receipt₀, hreceipt₀, hseq⟩ := h.answers _ hbefore
    obtain rfl := DisclosureReceipt.v2.inj hreceipt₀
    rw [hafter] at hr
    obtain rfl := Option.some.inj hr
    exact ⟨hrequest ▸ hpending, receipt', rfl, by rw [hspent]; exact hseq⟩

theorem Acknowledged.dropped {v v' : ConsentView} (h : Acknowledged request seq v)
    (hnext : v'.next_action_seq = v.next_action_seq) (hreceipt : v'.receipt = none) :
    Acknowledged request seq v' := by
  refine ⟨hnext ▸ h.earlier, fun r hr => ?_⟩
  rw [hreceipt] at hr
  cases hr

/-- Until the user acknowledges again, the receipt stays the one in force or
    is dropped. -/
theorem ConsentChange.acknowledged {l : Transition} {v v' : ConsentView}
    (h : ConsentChange l v v') (hl : l.acknowledges = false) (hv : Acknowledged request seq v) :
    Acknowledged request seq v' ∧ (v'.receipt = v.receipt ∨ v'.receipt = none) := by
  cases h with
  | keep hview =>
    rw [hview]
    exact ⟨hv, .inl rfl⟩
  | ask _ hview =>
    rw [hview]
    exact ⟨hv.dropped rfl rfl, .inr rfl⟩
  | acknowledge _ hlabel _ =>
    rw [hl] at hlabel
    cases hlabel
  | mint _ _ hview =>
    rw [hview]
    exact ⟨hv.dropped rfl rfl, .inr rfl⟩
  | close _ _ _ _ _ _ _ hview =>
    rw [hview]
    exact ⟨hv.dropped rfl rfl, .inr rfl⟩

theorem Acknowledged.next {v : ConsentView} (h : Acknowledged request seq v) :
    Acknowledged request seq { v with next_action_seq := v.next_action_seq + 1 } :=
  ⟨by have := h.earlier; dsimp only; omega, h.answers⟩

end Receipts

theorem Transition.beside_no_compaction {l : Transition} (h : l.beside_dispatch = true) :
    l.compacts = false := by
  cases l <;> first | rfl | cases h

section ReceiptRuns

variable {rules : TextRules} {s s' : ConversationState}
  {request : ProviderDisclosureRequestV2} {seq : Int}

theorem transition_acknowledged {l : Transition} (h : transition_step rules s l = .ok s')
    (hbeside : l.beside_dispatch = true) (hl : l.acknowledges = false)
    (hs : Acknowledged request seq s.consent) :
    Acknowledged request seq s'.consent ∧ receipt_credit s' ≤ receipt_credit s := by
  have hview : Acknowledged request seq s'.consent ∧
      (s'.consent.receipt = s.consent.receipt ∨ s'.consent.receipt = none) := by
    rcases transition_consent_change h hbeside with hchange | hchange
    · exact hchange.acknowledged hl hs
    · exact hchange.acknowledged hl hs.next
  refine ⟨hview.1, ?_⟩
  rcases hview.2 with hkept | hnone
  · exact receipt_credit_mono (facts_kept h (Transition.beside_no_compaction hbeside)) (.inl hkept)
  · rw [receipt_credit_none hnone]
    omega

/-- A charge spends the receipt where it spends no use of a grant. -/
theorem Dispatched.acknowledged {gate : ProviderDispatchGateV1} {descriptor : ProviderDescriptor}
    {scope : ProviderConsentScopeV1} {purpose run_id now : String}
    (h : Dispatched s s' gate descriptor scope purpose run_id now) (hs : Acknowledged request seq s.consent) :
    Acknowledged request seq s'.consent ∧
      System.cost ConsentLabel.outside_grant
        (.charge gate descriptor scope purpose run_id now) + receipt_credit s' ≤
          receipt_credit s := by
  cases h with
  | not_remote hlocal _ heq =>
    subst heq
    exact ⟨hs, by simp [System.cost, ConsentLabel.outside_grant, hlocal]⟩
  | under_grant huse grant grant' digest receipt _ _ _ hreceipt heq =>
    refine ⟨hs.spends (by simp [ConversationState.consent, heq])
      (by simp [ConversationState.consent, heq])
      (by simpa [ConversationState.consent, heq] using hreceipt), ?_⟩
    have hmono : receipt_credit s' ≤ receipt_credit s :=
      receipt_credit_mono (by rw [heq]; exact fun _ hf => hf) (by rw [heq]; exact hreceipt)
    simpa [System.cost, ConsentLabel.outside_grant, huse] using hmono
  | on_receipt _ previous receipt receipt' hadmits hspent heq =>
    refine ⟨hs.spends (by simp [ConversationState.consent, heq])
      (by simp [ConversationState.consent, heq])
      (.inr ⟨receipt, receipt', now, hadmits.answered, by simp [ConversationState.consent, heq],
        hspent⟩), ?_⟩
    have hspends : receipt_credit s' = 0 :=
      receipt_credit_spent (by rw [heq]) (by rw [hspent])
    rw [receipt_credit_admits hadmits, hspends]
    unfold System.cost
    split <;> omega
  | legacy _ receipt hreceipt _ =>
    obtain ⟨_, _, hv2, _⟩ := hs.answers _ hreceipt
    cases hv2

/-- The labels that run beside a dispatch and acknowledge nothing. -/
def ConsentLabel.unacknowledging (l : ConsentLabel) : Prop :=
  l.beside_dispatch = true ∧ l.acknowledges = false

theorem receipt_pays (request : ProviderDisclosureRequestV2) (seq : Int) :
    (consent_system rules).Pays (fun _ l => l.unacknowledging)
      (fun s => Acknowledged request seq s.consent) ConsentLabel.outside_grant receipt_credit := by
  rintro s l s' hs ⟨hbeside, hl⟩ hstep
  cases l with
  | transition t =>
    obtain ⟨hs', hcredit⟩ := transition_acknowledged hstep hbeside hl hs
    refine ⟨hs', ?_⟩
    simpa [System.cost, ConsentLabel.outside_grant] using hcredit
  | charge gate descriptor scope purpose run_id now =>
    exact (charge_provider_dispatch_ok hstep).acknowledged hs

end ReceiptRuns

/-! ### New messages -/

section Messages

variable {rules : TextRules} {s s' : ConversationState}
  {request : ProviderDisclosureRequestV2} {seq : Int}

/-- The id of a fact an action appends tells the number of the action. -/
theorem fact_action_seq_ok (kind : String) {f : ConversationFact} {n : Nat}
    (h : f.val.fact_id = "action:" ++ toString (n : Int) ++ kind)
    (hkind : kind.toList[0]? = some ':') : fact_action_seq f = some (n : Int) := by
  obtain ⟨rest, hrest⟩ : ∃ rest, kind.toList = ':' :: rest := by
    cases hlist : kind.toList with
    | nil => simp [hlist] at hkind
    | cons c rest =>
      rw [hlist] at hkind
      obtain rfl : c = ':' := by simpa using hkind
      exact ⟨rest, rfl⟩
  have hdigits : ':' ∉ (toString (n : Int)).toList := by
    rw [PyText.toString_ofNat]
    intro hc
    exact absurd (PyText.toDigits_ascii hc) (by decide)
  have htext : f.val.fact_id.toList =
      "action".toList ++ ':' :: ((toString (n : Int)).toList ++ ':' :: rest) := by
    rw [h, String.toList_append, String.toList_append, hrest]
    simp
  have hsplit : PyText.split f.val.fact_id ':' =
      "action" :: toString (n : Int) :: (PyText.split_chars ':' rest).map String.ofList := by
    rw [PyText.split, htext, PyText.split_chars_append (by decide),
      PyText.split_chars_append hdigits]
    simp
  rw [fact_action_seq, hsplit]
  exact PyText.int_toString n

/-- A message of the user carries the number of its action. -/
theorem new_message_fact {clock : String} {action : RuntimeAction} {max_replay_records : Int}
    {now : Option String} {t : ConversationState}
    (hl : (Transition.accept_action clock action max_replay_records now).new_user_message = true)
    (hseq : 0 < action.action_seq) (h : apply_action rules clock s action now = .ok t) :
    ∃ f ∈ t.val.facts, f.val.kind = .user_message ∧ fact_action_seq f = some action.action_seq := by
  obtain ⟨n, hn⟩ := Int.eq_ofNat_of_zero_le hseq.le
  unfold apply_action at h
  cases hbody : action.body with
  | submit_message run_id message =>
    simp only [hbody, submit_message, user_message_fact, bind_eq_ok, Checked.make_eq_ok] at h
    obtain ⟨_, _, f, hf, _, _, h⟩ := h
    refine ⟨f, by simp [h], by rw [hf], ?_⟩
    rw [hn]
    exact fact_action_seq_ok ":user" (by rw [hf, hn]) (by decide)
  | confirm_criterion a =>
    simp only [hbody, confirm_criterion, bind_eq_ok, Checked.make_eq_ok] at h
    obtain ⟨_, _, f, hf, _, _, h⟩ := h
    refine ⟨f, by simp [h], by rw [hf], ?_⟩
    rw [hn]
    exact fact_action_seq_ok ":criterion-confirmation" (by rw [hf, hn]) (by decide)
  | _ => simp [Transition.new_user_message, hbody] at hl

theorem ConversationState.next_action_seq_pos (s : ConversationState) :
    0 < s.val.next_action_seq := by
  refine Checked.of_check (P := fun f => 0 < f.next_action_seq) (fun f hf => ?_) s
  simp only [ConversationStateFields.post_init, ConversationStateFields.check_sequences,
    bind_eq_ok, Py.refuse_value_eq_ok] at hf
  obtain ⟨_, ⟨_, _, _, _, _, hnext, _⟩, _⟩ := hf
  omega

/-- Behind a new message the receipt admits nothing. -/
theorem message_closes {l : Transition} (h : transition_step rules s l = .ok s')
    (hl : l.new_user_message = true) (hs : Acknowledged request seq s.consent) :
    receipt_credit s' = 0 := by
  cases l with
  | accept_action clock action max_replay_records now =>
    obtain ⟨healed, with_replay, applied, ha⟩ := accept_action_step_ok h
    have hunacknowledging :
        (Transition.accept_action clock action max_replay_records now).acknowledges = false := by
      cases hbody : action.body <;> simp_all [Transition.new_user_message, Transition.acknowledges]
    obtain ⟨hs', _⟩ := transition_acknowledged h rfl hunacknowledging hs
    have hseq := s.next_action_seq_pos
    rw [← ha.next] at hseq
    obtain ⟨f, hf, hkind, hfseq⟩ := new_message_fact hl hseq ha.applies
    have hf : f ∈ s'.val.facts := by
      rw [ha.result]
      exact hf
    unfold receipt_credit
    split
    · next receipt hreceipt =>
      obtain ⟨_, receipt₀, hreceipt₀, hacknowledged⟩ := hs'.answers _ hreceipt
      obtain rfl := DisclosureReceipt.v2.inj hreceipt₀
      have hlater : seq < action.action_seq := by
        rw [ha.next]
        exact hs.earlier
      have hnew : no_new_user_input_since s' receipt = false := by
        refine List.all_eq_false.mpr ⟨f, hf, ?_⟩
        simp [hkind, hfseq, hacknowledged, hlater]
      simp [hnew]
    · rfl
  | _ => cases hl

/-- The receipt an acknowledgement leaves. -/
theorem acknowledge_provider_disclosure_answers {a : AcknowledgeProviderDisclosure}
    {now : Option String} (h : acknowledge_provider_disclosure s seq a now = .ok s')
    (hpending : s.val.provider_disclosure_request = some (.v2 request)) :
    ∃ receipt : ProviderDisclosureReceiptV2,
      s'.val.provider_disclosure_receipt = some (.v2 receipt) ∧
      receipt.val.acknowledged_action_seq = seq ∧
      s'.val.provider_disclosure_request = some (.v2 request) := by
  simp only [acknowledge_provider_disclosure, hpending, bind_eq_ok, Py.expect_value_eq_ok,
    Option.some.injEq] at h
  obtain ⟨_, rfl, _, _, h⟩ := h
  split at h
  · simp only [DisclosureRequest.acknowledge, bind_eq_ok, pure_eq_ok, Checked.make_eq_ok] at h
    obtain ⟨_, _, _, ⟨receipt, hreceipt, rfl⟩, _, _, h⟩ := h
    exact ⟨receipt, by rw [h], by rw [hreceipt], by rw [h]⟩
  · simp only [DisclosureRequest.acknowledge, bind_eq_ok, pure_eq_ok, Checked.make_eq_ok] at h
    obtain ⟨_, _, _, _, _, ⟨receipt, hreceipt, rfl⟩, _, _, h⟩ := h
    exact ⟨receipt, by rw [h], by rw [hreceipt], by rw [h]⟩

theorem accept_action_acknowledged {clock : String} {action : RuntimeAction}
    {max_replay_records : Int} {now : Option String} {a : AcknowledgeProviderDisclosure}
    (h : transition_step rules s (.accept_action clock action max_replay_records now) = .ok s')
    (hbody : action.body = .acknowledge_provider_disclosure a)
    (hpending : s.val.provider_disclosure_request = some (.v2 request)) :
    Acknowledged request action.action_seq s'.consent := by
  obtain ⟨healed, with_replay, applied, ha⟩ := accept_action_step_ok h
  obtain ⟨_, _, hhealed⟩ := close_orphaned_tool_batches_ok ha.heals
  obtain ⟨_, _, _, _, _, hwith⟩ := append_replay_record_ok ha.records
  have happlies := ha.applies
  simp only [apply_action, hbody] at happlies
  obtain ⟨_, _, _, _, happlied⟩ := acknowledge_provider_disclosure_ok happlies
  obtain ⟨receipt, hreceipt, hseq, hrequest⟩ := acknowledge_provider_disclosure_answers happlies
    (by rw [hwith, hhealed]; exact hpending)
  have hnext : s'.val.next_action_seq = s.val.next_action_seq + 1 := by
    rw [ha.result]
    dsimp only
    rw [happlied]
    dsimp only
    rw [hwith]
    dsimp only
    rw [hhealed]
  constructor
  · have hseq := ha.next
    dsimp only [ConversationState.consent]
    omega
  · intro r hr
    have hr : some r = some (DisclosureReceipt.v2 receipt) := by
      rw [← hr, ← hreceipt]
      simp [ConversationState.consent, ha.result]
    obtain rfl := Option.some.inj hr
    refine ⟨?_, receipt, rfl, hseq⟩
    rw [← hrequest]
    simp [ConversationState.consent, ha.result]

end Messages

/-! ### Grants -/

/-- The same grant, in a later state. -/
def SameGrant (grant grant' : ProviderConsentGrantV1) : Prop :=
  ∃ uses status digest, grant'.val = { grant.val with
    uses_consumed := uses
    status := status
    grant_digest := digest }

/-- The grant in force is this one. -/
def Granted (grant : ProviderConsentGrantV1) (v : ConsentView) : Prop :=
  ∃ grant', v.grant = some grant' ∧ SameGrant grant grant'

/-- The dispatches the grant still pays for. -/
def grant_credit (v : ConsentView) : Nat :=
  match v.grant with
  | some grant =>
    if grant.val.status = .active then (CONSENT_MAX_USES - grant.val.uses_consumed).toNat else 0
  | none => 0

section Grants

variable {s s' : ConversationState} {grant : ProviderConsentGrantV1}

theorem grant_credit_inactive {v : ConsentView}
    (h : ∀ g, v.grant = some g → g.val.status ≠ .active) : grant_credit v = 0 := by
  unfold grant_credit
  split
  · next g hg => exact if_neg (h g hg)
  · rfl

theorem SameGrant.refl (grant : ProviderConsentGrantV1) : SameGrant grant grant :=
  ⟨_, _, _, rfl⟩

/-- What is within a grant stays within it. -/
theorem SameGrant.within {grant' : ProviderConsentGrantV1} {descriptor : ProviderDescriptor}
    {scope : ProviderConsentScopeV1} {now : String} (h : SameGrant grant grant')
    (hwithin : WithinGrant grant' descriptor scope now) :
    WithinGrant grant descriptor scope now := by
  obtain ⟨_, _, _, hval⟩ := h
  obtain ⟨hlifetime, hprovider, hdestination, hmodel, hworkspace, htools, hschema⟩ := hwithin
  rw [hval] at hlifetime hprovider hdestination hmodel hworkspace htools hschema
  exact ⟨hlifetime, hprovider, hdestination, hmodel, hworkspace, htools, hschema⟩

/-- Until the user grants again, the grant stays or ends. -/
theorem ConsentChange.granted {l : Transition} {v v' : ConsentView} (h : ConsentChange l v v')
    (hl : l.mints = false) (hv : Granted grant v) :
    Granted grant v' ∧ grant_credit v' ≤ grant_credit v := by
  cases h with
  | keep hview =>
    rw [hview]
    exact ⟨hv, le_rfl⟩
  | ask _ hview =>
    rw [hview]
    exact ⟨hv, le_rfl⟩
  | acknowledge _ _ hview =>
    rw [hview]
    exact ⟨hv, le_rfl⟩
  | mint _ hlabel _ =>
    rw [hl] at hlabel
    cases hlabel
  | close g g' status digest hbefore hended hgrant hview =>
    obtain ⟨g₀, hg₀, uses, _, _, hval⟩ := hv
    obtain rfl : g₀ = g := Option.some.inj (hg₀.symm.trans hbefore)
    refine ⟨⟨g', by rw [hview], uses, status, digest, by rw [hgrant, hval]⟩, ?_⟩
    rw [grant_credit_inactive]
    · omega
    · intro x hx
      rw [hview] at hx
      obtain rfl := Option.some.inj hx
      rw [hgrant]
      exact hended

theorem transition_granted {rules : TextRules} {l : Transition}
    (h : transition_step rules s l = .ok s') (hbeside : l.beside_dispatch = true)
    (hl : l.mints = false) (hs : Granted grant s.consent) :
    Granted grant s'.consent ∧ grant_credit s'.consent ≤ grant_credit s.consent := by
  rcases transition_consent_change h hbeside with hchange | hchange
  · exact hchange.granted hl hs
  · exact hchange.granted hl hs

/-- A dispatch the grant pays for takes one of its uses. -/
theorem Dispatched.granted {gate : ProviderDispatchGateV1} {descriptor : ProviderDescriptor}
    {scope : ProviderConsentScopeV1} {purpose run_id now : String}
    (h : Dispatched s s' gate descriptor scope purpose run_id now) (hs : Granted grant s.consent) :
    Granted grant s'.consent ∧
      System.cost ConsentLabel.under_grant
        (.charge gate descriptor scope purpose run_id now) + grant_credit s'.consent ≤
          grant_credit s.consent := by
  cases h with
  | not_remote _ huse heq =>
    subst heq
    exact ⟨hs, by simp [System.cost, ConsentLabel.under_grant, huse]⟩
  | under_grant huse g g' digest receipt hgrant hadmits hused _ heq =>
    obtain ⟨g₀, hg₀, uses, status, _, hval⟩ := hs
    obtain rfl : g₀ = g := Option.some.inj (hg₀.symm.trans hgrant)
    refine ⟨⟨g', by simp [ConversationState.consent, heq], g₀.val.uses_consumed + 1, status,
      digest, by rw [hused, hval]⟩, ?_⟩
    have hremaining := hadmits.remaining
    have hcost : System.cost ConsentLabel.under_grant
        (.charge gate descriptor scope purpose run_id now) = 1 := by
      simp [System.cost, ConsentLabel.under_grant, huse]
    have hbefore : grant_credit s.consent =
        (CONSENT_MAX_USES - g₀.val.uses_consumed).toNat := by
      simp [grant_credit, hg₀, hadmits.active]
    have hafter : grant_credit s'.consent =
        (CONSENT_MAX_USES - (g₀.val.uses_consumed + 1)).toNat := by
      simp [grant_credit, ConversationState.consent, heq, hused, hadmits.active]
    rw [hcost, hbefore, hafter]
    omega
  | on_receipt huse _ _ _ _ _ heq =>
    have hsame : s'.consent.grant = s.consent.grant := by simp [ConversationState.consent, heq]
    refine ⟨?_, by simp [System.cost, ConsentLabel.under_grant, huse, grant_credit, hsame]⟩
    unfold Granted
    rw [hsame]
    exact hs
  | legacy huse _ _ heq =>
    subst heq
    exact ⟨hs, by simp [System.cost, ConsentLabel.under_grant, huse]⟩

/-- The labels that run beside a dispatch and grant nothing. -/
def ConsentLabel.ungranting (l : ConsentLabel) : Prop :=
  l.beside_dispatch = true ∧ l.mints = false

theorem grant_pays {rules : TextRules} (grant : ProviderConsentGrantV1) :
    (consent_system rules).Pays (fun _ l => l.ungranting) (fun s => Granted grant s.consent)
      ConsentLabel.under_grant (fun s => grant_credit s.consent) := by
  rintro s l s' hs ⟨hbeside, hl⟩ hstep
  cases l with
  | transition t =>
    obtain ⟨hs', hcredit⟩ := transition_granted hstep hbeside hl hs
    refine ⟨hs', ?_⟩
    simpa [System.cost, ConsentLabel.under_grant] using hcredit
  | charge gate descriptor scope purpose run_id now =>
    exact (charge_provider_dispatch_ok hstep).granted hs

theorem revoke_provider_consent_closes (h : revoke_provider_consent s = .ok s') :
    grant_credit s'.consent = 0 := by
  simp only [revoke_provider_consent, bind_eq_ok, Checked.make_eq_ok] at h
  obtain ⟨_, _, _, _, g', hg', h⟩ := h
  obtain ⟨_, hval⟩ := ProviderConsentGrantV1.with_status_ok hg'
  refine grant_credit_inactive fun g hg => ?_
  simp only [ConversationState.consent, h, Option.some.injEq] at hg
  subst hg
  simp [hval]

theorem invalidate_provider_consent_closes (h : invalidate_provider_consent s = .ok s') :
    grant_credit s'.consent = 0 := by
  unfold invalidate_provider_consent at h
  split at h
  · next hnone =>
    obtain rfl := pure_eq_ok.mp h
    simp [grant_credit, ConversationState.consent, hnone]
  · next grant hgrant =>
    simp only [ite_eq_ok, pure_eq_ok, bind_eq_ok, Checked.make_eq_ok] at h
    refine grant_credit_inactive fun g hg => ?_
    rcases h with ⟨hinactive, rfl⟩ | ⟨_, g', hg', h⟩
    · simp only [ConversationState.consent, hgrant, Option.some.injEq] at hg
      exact hg ▸ hinactive
    · obtain ⟨_, hval⟩ := ProviderConsentGrantV1.with_status_ok hg'
      simp only [ConversationState.consent, h, Option.some.injEq] at hg
      subst hg
      simp [hval]

/-- Behind a revocation or an invalidation the grant pays for nothing. -/
theorem ends_grant_closes {rules : TextRules} {l : Transition}
    (h : transition_step rules s l = .ok s') (hl : l.ends_grant = true) :
    grant_credit s'.consent = 0 := by
  cases l with
  | accept_action clock action max_replay_records now =>
    obtain ⟨healed, with_replay, applied, ha⟩ := accept_action_step_ok h
    have happlies := ha.applies
    cases hbody : action.body with
    | revoke_provider_consent =>
      simp only [apply_action, hbody] at happlies
      have hcredit := revoke_provider_consent_closes happlies
      simpa [ConversationState.consent, ha.result] using hcredit
    | _ => simp [Transition.ends_grant, hbody] at hl
  | revoke_provider_consent => exact revoke_provider_consent_closes h
  | invalidate_provider_consent => exact invalidate_provider_consent_closes h
  | _ => cases hl

/-- The grant is what the user was shown, and unused. -/
structure MintedFrom (request : ProviderDisclosureRequestV2) (grant : ProviderConsentGrantV1) :
    Prop where
  provider : grant.val.provider_descriptor_digest = request.val.provider_descriptor_digest
  destination : grant.val.canonical_destination = request.val.canonical_destination
  model : grant.val.model = request.val.model
  workspace : grant.val.workspace_identity_digest = request.val.workspace_identity_digest
  tools : grant.val.tool_bindings = request.val.tool_bindings
  control_schema : grant.val.control_schema_digest = request.val.control_schema_digest
  active : grant.val.status = .active
  unused : grant.val.uses_consumed = 0

theorem mint_provider_consent_grant_ok {conversation_id now profile : String} {seq : Int}
    {request : ProviderDisclosureRequestV2}
    (h : mint_provider_consent_grant conversation_id request seq now profile = .ok grant) :
    MintedFrom request grant := by
  simp only [mint_provider_consent_grant, ProviderConsentGrantV1.create, bind_eq_ok,
    Checked.make_eq_ok] at h
  obtain ⟨_, _, _, _, _, _, h⟩ := h
  constructor <;> rw [h]

theorem install_consent_grant {request : ProviderDisclosureRequestV2} {seq : Int}
    {now mismatch profile : String}
    (h : install_consent s request seq now mismatch profile = .ok s') :
    ∃ grant, s'.val.provider_consent_grant = some grant ∧ MintedFrom request grant := by
  simp only [install_consent, bind_eq_ok, Checked.make_eq_ok] at h
  obtain ⟨_, _, _, _, grant, hgrant, h⟩ := h
  exact ⟨grant, by rw [h], mint_provider_consent_grant_ok hgrant⟩

theorem pending_v2_request_ok {a : GrantConsentFields} {mismatch : String}
    {request : ProviderDisclosureRequestV2} (h : pending_v2_request s a mismatch = .ok request) :
    s.val.provider_disclosure_request = some (.v2 request) := by
  simp only [pending_v2_request, bind_eq_ok, Py.expect_value_eq_ok, pure_eq_ok] at h
  obtain ⟨_, hrequest, _, _, rfl⟩ := h
  split at hrequest
  · next r hr =>
    obtain rfl := Option.some.inj hrequest
    exact hr
  · cases hrequest

/-- A granting action mints a grant from the request the user was shown. -/
theorem accept_action_granted {rules : TextRules} {clock : String} {action : RuntimeAction}
    {max_replay_records : Int} {now : Option String}
    (h : transition_step rules s (.accept_action clock action max_replay_records now) = .ok s')
    (hl : (Transition.accept_action clock action max_replay_records now).mints = true) :
    ∃ request grant, s.val.provider_disclosure_request = some (.v2 request) ∧
      s'.val.provider_consent_grant = some grant ∧ MintedFrom request grant := by
  obtain ⟨healed, with_replay, applied, ha⟩ := accept_action_step_ok h
  obtain ⟨_, _, hhealed⟩ := close_orphaned_tool_batches_ok ha.heals
  obtain ⟨_, _, _, _, _, hwith⟩ := append_replay_record_ok ha.records
  have hsame : with_replay.val.provider_disclosure_request = s.val.provider_disclosure_request := by
    simp [hwith, hhealed]
  have happlies := ha.applies
  have hresult : s'.val.provider_consent_grant = applied.val.provider_consent_grant := by
    rw [ha.result]
  cases hbody : action.body with
  | grant_provider_consent a =>
    simp only [apply_action, hbody, grant_provider_consent, bind_eq_ok] at happlies
    obtain ⟨request, hrequest, _, _, hinstall⟩ := happlies
    obtain ⟨grant, hgrant, hminted⟩ := install_consent_grant hinstall
    exact ⟨request, grant, hsame ▸ pending_v2_request_ok hrequest, hresult ▸ hgrant, hminted⟩
  | grant_provider_workspace_read_consent a =>
    simp only [apply_action, hbody, grant_provider_workspace_read_consent, bind_eq_ok] at happlies
    obtain ⟨request, hrequest, _, _, hinstall⟩ := happlies
    obtain ⟨grant, hgrant, hminted⟩ := install_consent_grant hinstall
    exact ⟨request, grant, hsame ▸ pending_v2_request_ok hrequest, hresult ▸ hgrant, hminted⟩
  | _ => simp [Transition.mints, hbody] at hl

end Grants

/-! ### Single use, bounded and revocable -/

section Halves

variable {rules : TextRules} {s u : ConversationState} {labels : List ConsentLabel}

/-- The dispatches of a receipt, up to the next acknowledgement. -/
theorem receipt_admits_once {request : ProviderDisclosureRequestV2} {seq : Int}
    (hs : Acknowledged request seq s.consent)
    (hrun : (consent_system rules).run s labels = .ok u)
    (hlabels : ∀ l ∈ labels, l.unacknowledging) :
    labels.countP ConsentLabel.outside_grant ≤ 1 ∧
    ∀ before gate descriptor scope purpose run_id at_ after,
      labels = before ++ .charge gate descriptor scope purpose run_id at_ :: after →
      descriptor.remote = true → gate.grant_use = false →
      (ReceiptCovers request scope ∨ CollidesWith request descriptor scope purpose run_id) ∧
        ∀ l ∈ before, l.new_user_message = false := by
  have halong : (consent_system rules).Along (fun _ l => l.unacknowledging) s labels :=
    System.along_of_forall hlabels
  constructor
  · obtain ⟨_, hspent⟩ := System.run_spends (receipt_pays request seq) hs halong hrun
    have hcredit := receipt_credit_le s
    omega
  · rintro before gate descriptor scope purpose run_id at_ after rfl hremote huse
    have hspends : ConsentLabel.outside_grant
        (.charge gate descriptor scope purpose run_id at_) = true := by
      simp [ConsentLabel.outside_grant, hremote, huse]
    constructor
    · obtain ⟨v, v', _, hstep, hv, _, _⟩ :=
        System.spends_from_credit (receipt_pays request seq) hs halong hrun hspends
      cases charge_provider_dispatch_ok hstep with
      | not_remote hlocal _ _ =>
        rw [hremote] at hlocal
        cases hlocal
      | under_grant huse' _ _ _ _ _ _ _ _ _ =>
        rw [huse] at huse'
        cases huse'
      | on_receipt _ previous receipt _ hadmits _ _ =>
        obtain ⟨hpending, _⟩ := hv.answers _ hadmits.answered
        have hsame : previous = request :=
          DisclosureRequest.v2.inj (Option.some.inj (hadmits.pending.symm.trans hpending))
        exact hsame ▸ hadmits.covers
      | legacy _ receipt hreceipt _ =>
        obtain ⟨_, _, hv2, _⟩ := hv.answers _ hreceipt
        cases hv2
    · refine System.no_close_before_spend (receipt_pays request seq) ?_ hs halong hrun hspends
      intro v l v' hv _ hl hstep
      cases l with
      | transition t => exact message_closes hstep hl hv
      | charge _ _ _ _ _ _ => cases hl

/-- The dispatches a grant pays for, up to the next grant. -/
theorem grant_admits_within {grant : ProviderConsentGrantV1}
    (hgrant : s.val.provider_consent_grant = some grant)
    (hrun : (consent_system rules).run s labels = .ok u)
    (hlabels : ∀ l ∈ labels, l.ungranting) :
    labels.countP ConsentLabel.under_grant ≤ grant_credit s.consent ∧
    ∀ before gate descriptor scope purpose run_id at_ after,
      labels = before ++ .charge gate descriptor scope purpose run_id at_ :: after →
      gate.grant_use = true →
      WithinGrant grant descriptor scope at_ ∧ ∀ l ∈ before, l.ends_grant = false := by
  have hs : Granted grant s.consent := ⟨grant, hgrant, .refl grant⟩
  have halong : (consent_system rules).Along (fun _ l => l.ungranting) s labels :=
    System.along_of_forall hlabels
  constructor
  · obtain ⟨_, hspent⟩ := System.run_spends (grant_pays grant) hs halong hrun
    omega
  · rintro before gate descriptor scope purpose run_id at_ after rfl huse
    constructor
    · obtain ⟨v, v', _, hstep, ⟨grant', hgrant', hsame⟩, _, _⟩ :=
        System.spends_from_credit (grant_pays grant) hs halong hrun
          (l := .charge gate descriptor scope purpose run_id at_) huse
      cases charge_provider_dispatch_ok hstep with
      | under_grant _ g _ _ _ hg hadmits _ _ _ =>
        obtain rfl : grant' = g := Option.some.inj (hgrant'.symm.trans hg)
        exact hsame.within hadmits.within
      | not_remote _ huse' _ =>
        rw [huse] at huse'
        cases huse'
      | on_receipt huse' _ _ _ _ _ _ =>
        rw [huse] at huse'
        cases huse'
      | legacy huse' _ _ _ =>
        rw [huse] at huse'
        cases huse'
    · refine System.no_close_before_spend (grant_pays grant) ?_ hs halong hrun
        (l := .charge gate descriptor scope purpose run_id at_) huse
      intro v l v' _ _ hl hstep
      cases l with
      | transition t => exact ends_grant_closes hstep hl
      | charge _ _ _ _ _ _ => cases hl

end Halves

/-- After an acknowledgement, and until the next one, the receipt admits at
    most one dispatch outside a grant, for the scope that was shown (unless its
    own request collides with the one shown), and none behind a new message.  After the minting of a grant, and until the next
    one, the grant pays for at most `CONSENT_MAX_USES` dispatches, all of them
    within it, and for none behind its end. -/
theorem consent_single_use_and_bounded (rules : TextRules) {s t u : ConversationState}
    {clock : String} {action : RuntimeAction} {max_replay_records : Int} {now : Option String}
    {labels : List ConsentLabel}
    (hfirst : transition_step rules s (.accept_action clock action max_replay_records now) = .ok t)
    (hrun : (consent_system rules).run t labels = .ok u)
    (hbeside : ∀ l ∈ labels, l.beside_dispatch = true) :
    (∀ request a, action.body = .acknowledge_provider_disclosure a →
      s.val.provider_disclosure_request = some (.v2 request) →
      (∀ l ∈ labels, l.acknowledges = false) →
      labels.countP ConsentLabel.outside_grant ≤ 1 ∧
      ∀ before gate descriptor scope purpose run_id at_ after,
        labels = before ++ .charge gate descriptor scope purpose run_id at_ :: after →
        descriptor.remote = true → gate.grant_use = false →
        (ReceiptCovers request scope ∨ CollidesWith request descriptor scope purpose run_id) ∧
          ∀ l ∈ before, l.new_user_message = false) ∧
    ((Transition.accept_action clock action max_replay_records now).mints = true →
      (∀ l ∈ labels, l.mints = false) →
      ∃ request grant, s.val.provider_disclosure_request = some (.v2 request) ∧
        t.val.provider_consent_grant = some grant ∧ MintedFrom request grant ∧
        (labels.countP ConsentLabel.under_grant : Int) ≤ CONSENT_MAX_USES ∧
        ∀ before gate descriptor scope purpose run_id at_ after,
          labels = before ++ .charge gate descriptor scope purpose run_id at_ :: after →
          gate.grant_use = true →
          WithinGrant grant descriptor scope at_ ∧ ∀ l ∈ before, l.ends_grant = false) := by
  constructor
  · intro request a hbody hpending hacknowledges
    exact receipt_admits_once (accept_action_acknowledged hfirst hbody hpending) hrun
      fun l hl => ⟨hbeside l hl, hacknowledges l hl⟩
  · intro hmints hgranting
    obtain ⟨request, grant, hrequest, hgrant, hminted⟩ := accept_action_granted hfirst hmints
    obtain ⟨hcount, hwithin⟩ := grant_admits_within hgrant hrun
      fun l hl => ⟨hbeside l hl, hgranting l hl⟩
    refine ⟨request, grant, hrequest, hgrant, hminted, ?_, hwithin⟩
    have hcredit : grant_credit t.consent = CONSENT_MAX_USES.toNat := by
      simp [grant_credit, ConversationState.consent, hgrant, hminted.active, hminted.unused]
    have huses : (CONSENT_MAX_USES.toNat : Int) = CONSENT_MAX_USES := by decide
    omega

/-! ### A fixed run -/

section Fixed

def shown_provider : ProviderDescriptor where
  family := "anthropic"
  model := "model"
  canonical_destination := "https://api.example"
  trust_profile := "trusted"
  remote := true

def shown_scope : ProviderConsentScopeV1 where
  val := {
    workspace_identity_digest := "NO_WORKSPACE"
    goal_id := none
    goal_revision := none
    tool_bindings := []
    control_schema_digest := String.ofList (List.replicate 64 '0')
    data_classes := ["user_messages"]
    sources := []
    routine_compatible := true }
  valid := by decide

def shown_request : ProviderDisclosureRequestV2 where
  val := {
    disclosure_id := "provider:a22ca945f6c798ee:v2"
    provider_descriptor_digest := "a22ca945f6c798ee2144326b4757426b3508a355b5f5564eb8b6bb21413f48fa"
    canonical_destination := "https://api.example"
    model := "model"
    workspace_identity_digest := "NO_WORKSPACE"
    data_classes := ["user_messages"]
    sources := []
    tool_bindings := []
    control_schema_digest := String.ofList (List.replicate 64 '0')
    grant_id := none
    grant_eligible := true
    purpose := "normal"
    run_id := "run-1"
    goal_id := none
    goal_revision := none
    scope_digest := "239f69091496338dac7e967083d9f5f87d321bf2d628fd1f02a918a1b2183ead"
    request_digest := "6c8b52e2012108da9773d11b4fc37848212bce85e2c9bd47a86fbc103a7a749d" }
  valid := by
    rw [ProviderDisclosureRequestV2Fields.post_init,
      ProviderDisclosureRequestV2Fields.expected_scope_digest, canonical_json_digest_eq,
      canonical_json_digest_eq]
    decide +kernel

theorem shown_provider_identity : shown_provider.identity_digest =
    "a22ca945f6c798ee2144326b4757426b3508a355b5f5564eb8b6bb21413f48fa" := by
  rw [ProviderDescriptor.identity_digest, canonical_json_digest_eq]
  decide +kernel

/-- The scope is shown to the user as this request. -/
theorem shown_request_built :
    build_disclosure_request_v2 shown_provider shown_scope none "normal" "run-1" =
      .ok shown_request := by
  have hscope : scope_digest shown_provider shown_scope =
      shown_request.val.expected_scope_digest := by
    rw [scope_digest, shown_provider_identity]
    rfl
  have hexpected : shown_request.val.expected_scope_digest = shown_request.val.scope_digest :=
    shown_request.scope.symm
  have hid : "provider:" ++ PyText.take
      "a22ca945f6c798ee2144326b4757426b3508a355b5f5564eb8b6bb21413f48fa" 16 ++ ":v2" =
      shown_request.val.disclosure_id := by decide
  refine Checked.make_eq_ok.mpr ?_
  rw [shown_provider_identity, hscope, hexpected, hid]
  exact congrArg (fun d => { shown_request.val with request_digest := d }) shown_request.digest

/-- A conversation that waits for the user's answer to the request. -/
def asking_conversation : ConversationState where
  val := { ConversationState.fresh.val with
    active_run := some ⟨{ run_id := "run-1", status := .awaiting_disclosure }, by decide⟩
    provider_disclosure_request := some (.v2 shown_request) }
  valid := by decide

def acknowledge_action : RuntimeAction where
  conversation_id := "conversation"
  action_seq := 1
  expected_revision := 0
  body := .acknowledge_provider_disclosure ⟨{
    request_digest := "6c8b52e2012108da9773d11b4fc37848212bce85e2c9bd47a86fbc103a7a749d"
    acknowledged_at := "2026-01-01T00:00:00Z" }, by decide⟩


theorem acknowledge_action_digest : canonical_action_digest acknowledge_action =
    "21eaf4aa76bac1a18a3a52d4dcd4f66cdbf8bf18ae0226e6b065c8b2da770c74" := by
  rw [canonical_action_digest, canonical_json_digest_eq]
  decide +kernel

/-- The user has answered. -/
def answered_conversation : ConversationState where
  val := { asking_conversation.val with
    revision := 1
    next_action_seq := 2
    replay_records := [⟨{
      action_seq := 1
      action_digest := "21eaf4aa76bac1a18a3a52d4dcd4f66cdbf8bf18ae0226e6b065c8b2da770c74" },
      by decide⟩]
    active_run := some ⟨{ run_id := "run-1", status := .runnable }, by decide⟩
    provider_disclosure_receipt := some (.v2 ⟨{
      receipt_id := "disclosure-receipt:1"
      request_digest := "6c8b52e2012108da9773d11b4fc37848212bce85e2c9bd47a86fbc103a7a749d"
      acknowledged_action_seq := 1
      acknowledged_at := "2026-01-01T00:00:00Z" }, by decide⟩) }
  valid := by decide

theorem acknowledge_action_accepted : transition_step .silent asking_conversation
      (.accept_action "" acknowledge_action 64 none) = .ok answered_conversation := by
  have hruns : succeeds (transition_step .silent asking_conversation
      (.accept_action "" acknowledge_action 64 none))
      (fun t => t = answered_conversation) = true := by
    simp only [transition_step, accept_action, accept_fresh, acknowledge_action_digest]
    decide +kernel
  obtain ⟨s, hs, h⟩ := succeeds_iff.mp hruns
  rw [hs, of_decide_eq_true h]

theorem shown_request_is_candidate :
    candidate_request answered_conversation shown_provider shown_scope "normal" "run-1" =
      .ok (.v2 shown_request) := by
  change (build_disclosure_request_v2 shown_provider shown_scope none "normal" "run-1" >>=
    fun r => pure (DisclosureRequest.v2 r)) = _
  rw [shown_request_built]
  rfl

def exact_gate : ProviderDispatchGateV1 where
  request := some (.v2 shown_request)
  admitted := true
  grant_use := false
  consume_receipt := true
  reason := "exact_receipt"

theorem exact_gate_evaluated (now : String) :
    evaluate_provider_dispatch answered_conversation (some shown_provider) (some shown_scope) now
      "normal" "run-1" = .ok exact_gate := by
  simp only [evaluate_provider_dispatch, shown_provider, Option.filter, if_true]
  change (candidate_request answered_conversation shown_provider shown_scope "normal" "run-1" >>=
    _) = _
  rw [shown_request_is_candidate]
  rfl

def exact_charge : ConsentLabel :=
  .charge exact_gate shown_provider shown_scope "normal" "run-1" "2026-01-01T00:01:00Z"

theorem exact_dispatch_charged :
    ∃ u, (consent_system .silent).run answered_conversation [exact_charge] = .ok u := by
  have hruns : succeeds ((consent_system .silent).run answered_conversation [exact_charge])
      (fun _ => true) = true := by
    simp only [System.run, consent_system, consent_step, exact_charge, charge_provider_dispatch,
      exact_gate_evaluated]
    decide +kernel
  obtain ⟨u, hu, _⟩ := succeeds_iff.mp hruns
  exact ⟨u, hu⟩

/-- The user's answer admits the request it was shown for, once. -/
theorem acknowledged_request_dispatched_once : ∃ u,
    (consent_system .silent).run answered_conversation [exact_charge] = .ok u ∧
    [exact_charge].countP ConsentLabel.outside_grant ≤ 1 ∧
    (ReceiptCovers shown_request shown_scope ∨
      CollidesWith shown_request shown_provider shown_scope "normal" "run-1") := by
  obtain ⟨u, hu⟩ := exact_dispatch_charged
  have hbeside : ∀ l ∈ [exact_charge], l.beside_dispatch = true := by
    simp [exact_charge, ConsentLabel.beside_dispatch]
  have hacknowledges : ∀ l ∈ [exact_charge], l.acknowledges = false := by
    simp [exact_charge, ConsentLabel.acknowledges]
  obtain ⟨hreceipt, _⟩ :=
    consent_single_use_and_bounded .silent acknowledge_action_accepted hu hbeside
  obtain ⟨honce, hdispatch⟩ := hreceipt shown_request _ rfl rfl hacknowledges
  refine ⟨u, hu, honce, (hdispatch [] exact_gate shown_provider shown_scope "normal" "run-1"
    "2026-01-01T00:01:00Z" [] rfl rfl rfl).1⟩

end Fixed
