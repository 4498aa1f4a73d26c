import FirstAgent.Consent.Gate

/-! # What an Admitted Dispatch Is

    A charged dispatch is one of four: to a local provider, under a grant,
    on a receipt of version 2, or on a receipt of version 1.  The lemmas read
    each of them back from `charge_provider_dispatch`.

    * **`GrantAdmits`**: what a usable grant guarantees about the dispatch it
      pays for.
    * **`ReceiptCovers`**: what an acknowledged request guarantees about the
      dispatch its receipt pays for.
    * **`charge_provider_dispatch_ok`**: the four kinds of dispatch. -/

open Fallible

/-! ### Payloads -/

theorem strs_injective {xs ys : List String} (h : Json.strs xs = Json.strs ys) : xs = ys :=
  List.map_injective_iff.mpr (fun _ _ => Json.str.inj) (Json.arr.inj h)

theorem ProviderDisclosureSourceV1.identity_payload_injective {a b : ProviderDisclosureSourceV1}
    (h : a.identity_payload = b.identity_payload) : a = b := by
  have hdict := JsonDict.ext (Json.obj.inj h)
  have hget (k : String) := congrArg (fun d : JsonDict => d.get k) hdict
  have hclass : a.val.data_class = b.val.data_class := by
    simpa [Json.has_key, Json.freeze] using hget "data_class"
  have hdigest : a.val.boundary_digest = b.val.boundary_digest := by
    simpa [Json.has_key, Json.freeze] using hget "boundary_digest"
  have hlabel : a.val.label = b.val.label := by
    simpa [Json.has_key, Json.freeze] using hget "label"
  have hreusable : a.val.reusable = b.val.reusable := by
    simpa [Json.has_key, Json.freeze] using hget "reusable"
  apply Checked.ext
  rcases ha : a.val with ⟨_, _, _, _⟩
  rcases hb : b.val with ⟨_, _, _, _⟩
  simp_all

/-- A payload tells the sources and the data classes of its request. -/
theorem ProviderDisclosureRequestV2Fields.payload_scope
    {r r' : ProviderDisclosureRequestV2Fields} (h : r.payload = r'.payload) :
    r.sources = r'.sources ∧ r.data_classes = r'.data_classes := by
  have hget (k : String) := congrArg (fun d : JsonDict => d.get k) h
  constructor
  · have hsources := hget "sources"
    unfold payload at hsources
    rw [JsonDict.get_of_nodup (by simp), JsonDict.get_of_nodup (by simp)] at hsources
    have hfrozen : ∀ s : ProviderDisclosureSourceV1,
        s.identity_payload.freeze = s.identity_payload := fun s => Json.freeze_dict _
    have hpayloads : r.sources.map ProviderDisclosureSourceV1.identity_payload =
        r'.sources.map ProviderDisclosureSourceV1.identity_payload := by
      simpa [Json.lookup, hfrozen, Function.comp_def] using hsources
    exact List.map_injective_iff.mpr
      (fun _ _ => ProviderDisclosureSourceV1.identity_payload_injective) hpayloads
  · have hclasses := hget "data_classes"
    unfold payload at hclasses
    rw [JsonDict.get_of_nodup (by simp), JsonDict.get_of_nodup (by simp)] at hclasses
    exact strs_injective (by simpa [Json.lookup] using hclasses)

theorem ProviderDisclosureRequestV2.digest (r : ProviderDisclosureRequestV2) :
    r.val.request_digest = canonical_json_digest (.dict r.val.payload) := by
  refine Checked.of_check (P := fun f => f.request_digest = canonical_json_digest (.dict f.payload))
    (fun f hf => ?_) r
  simp only [ProviderDisclosureRequestV2Fields.post_init, bind_eq_ok, Py.refuse_value_eq_ok,
    not_not] at hf
  tauto

theorem ProviderDisclosureRequestV2.scope (r : ProviderDisclosureRequestV2) :
    r.val.scope_digest = r.val.expected_scope_digest := by
  refine Checked.of_check (P := fun f => f.scope_digest = f.expected_scope_digest)
    (fun f hf => ?_) r
  simp only [ProviderDisclosureRequestV2Fields.post_init, bind_eq_ok, Py.refuse_value_eq_ok,
    not_not] at hf
  tauto

/-! ### Receipts -/

/-- The dispatch has the sources of the request, and at most the class of the
    control receipts beside its data classes. -/
def ReceiptCovers (request : ProviderDisclosureRequestV2) (scope : ProviderConsentScopeV1) :
    Prop :=
  scope.val.sources = request.val.sources ∧
    ∀ c ∈ scope.val.data_classes, c ∈ request.val.data_classes ∨ c = "control_receipts"

/-- The dispatch is shown as a request with another payload but the digest of
    this one. -/
def CollidesWith (request : ProviderDisclosureRequestV2) (descriptor : ProviderDescriptor)
    (scope : ProviderConsentScopeV1) (purpose run_id : String) : Prop :=
  ∃ grant candidate,
    build_disclosure_request_v2 descriptor scope grant purpose run_id = .ok candidate ∧
    candidate.val.payload ≠ request.val.payload ∧
    candidate.val.request_digest = request.val.request_digest

section Requests

variable {s : ConversationState} {descriptor : ProviderDescriptor}
  {scope : ProviderConsentScopeV1} {purpose run_id : String}

theorem build_disclosure_request_v2_ok {grant : Option ProviderConsentGrantV1}
    {r : ProviderDisclosureRequestV2}
    (h : build_disclosure_request_v2 descriptor scope grant purpose run_id = .ok r) :
    r.val.sources = scope.val.sources ∧ r.val.data_classes = scope.val.data_classes := by
  have hval := Checked.make_eq_ok.mp h
  rw [hval]
  exact ⟨rfl, rfl⟩

theorem candidate_request_ok {candidate : DisclosureRequest}
    (h : candidate_request s descriptor scope purpose run_id = .ok candidate) :
    (∃ r, candidate = .v1 r ∧ s.val.provider_consent_grant = none) ∨
    ∃ r, candidate = .v2 r ∧ build_disclosure_request_v2 descriptor scope
      s.val.provider_consent_grant purpose run_id = .ok r := by
  unfold candidate_request at h
  dsimp only at h
  split at h
  · next pending hnone _ =>
    simp only [ite_eq_ok, bind_eq_ok, pure_eq_ok] at h
    rcases h with ⟨_, rfl⟩ | ⟨_, r, hr, rfl⟩
    · exact .inl ⟨_, rfl, hnone⟩
    · exact .inr ⟨r, rfl, hr⟩
  · simp only [bind_eq_ok, pure_eq_ok] at h
    obtain ⟨r, hr, rfl⟩ := h
    exact .inr ⟨r, rfl, hr⟩

variable {candidate previous : ProviderDisclosureRequestV2} {receipt : ProviderDisclosureReceiptV2}

theorem exact_receipt_matches_ok
    (h : exact_receipt_matches s candidate previous receipt = true) :
    no_new_user_input_since s receipt = true ∧
      (candidate.val.request_digest = previous.val.request_digest ∨
        candidate.val.sources = previous.val.sources ∧ ∀ c ∈ candidate.val.data_classes,
          c ∈ previous.val.data_classes ∨ c = "control_receipts") := by
  simp only [exact_receipt_matches, Bool.and_eq_true, Bool.or_eq_true, decide_eq_true_eq] at h
  obtain ⟨⟨hprevious, hnew⟩, hsame | ⟨⟨⟨_, _⟩, hsources⟩, hclasses⟩⟩ := h
  · exact ⟨hnew, .inl (hsame.symm.trans hprevious)⟩
  · refine ⟨hnew, .inr ⟨hsources, fun c hc => ?_⟩⟩
    by_cases hold : c ∈ previous.val.data_classes
    · exact .inl hold
    · have hnewclass := List.all_eq_true.mp hclasses c (by simp [hc, hold])
      exact .inr (by simpa using hnewclass)

/-- What the exact match of the dispatch's own request tells of its scope. -/
theorem exact_receipt_matches_covers {grant : Option ProviderConsentGrantV1}
    (hbuild : build_disclosure_request_v2 descriptor scope grant purpose run_id = .ok candidate)
    (h : exact_receipt_matches s candidate previous receipt = true) :
    ReceiptCovers previous scope ∨ CollidesWith previous descriptor scope purpose run_id := by
  obtain ⟨hsources, hclasses⟩ := build_disclosure_request_v2_ok hbuild
  rcases (exact_receipt_matches_ok h).2 with hdigest | hcovers
  · by_cases hpayload : candidate.val.payload = previous.val.payload
    · obtain ⟨hsources', hclasses'⟩ :=
        ProviderDisclosureRequestV2Fields.payload_scope hpayload
      exact .inl ⟨hsources.symm.trans hsources', fun c hc =>
        .inl (hclasses' ▸ hclasses.symm ▸ hc)⟩
    · exact .inr ⟨grant, candidate, hbuild, hpayload, hdigest⟩
  · rw [hsources, hclasses] at hcovers
    exact .inl hcovers

/-- The bridge across resumes admits nothing the exact receipt does not. -/
theorem exact_routine_receipt_covers_ok
    (h : exact_routine_receipt_covers s candidate previous receipt = true) :
    receipt.val.consumed_at = none ∧
      exact_receipt_matches s candidate previous receipt = true := by
  simp only [exact_routine_receipt_covers, Bool.and_eq_true, decide_eq_true_eq] at h
  obtain ⟨⟨⟨⟨⟨⟨⟨⟨⟨_, _⟩, hunspent⟩, hdigest⟩, hscope⟩, hsources⟩, hunit⟩, hnew⟩, _⟩, hclasses⟩ := h
  refine ⟨hunspent, ?_⟩
  simp only [exact_receipt_matches, Bool.and_eq_true, Bool.or_eq_true, decide_eq_true_eq]
  refine ⟨⟨hdigest, hnew⟩, .inr ⟨⟨⟨hunit, hscope.symm⟩, hsources.symm⟩, ?_⟩⟩
  refine List.all_eq_true.mpr fun c hc => ?_
  simp only [List.mem_filter, decide_eq_true_eq] at hc
  have hclass := List.all_eq_true.mp hclasses c hc.1
  simp only [Bool.or_eq_true, decide_eq_true_eq] at hclass
  exact decide_eq_true (hclass.resolve_left hc.2)

end Requests

/-! ### Grants -/

/-- A time lies in a lifetime given by two texts: from the first on, and
    before the second. -/
def InLifetime (issued_at expires_at now : String) : Prop :=
  ∃ issued expires current, parse_zoned_time issued_at = .ok issued ∧
    parse_zoned_time expires_at = .ok expires ∧ parse_zoned_time now = .ok current ∧
    issued.utc_microseconds ≤ current.utc_microseconds ∧
    current.utc_microseconds < expires.utc_microseconds

/-- The dispatch is what the grant was given for: inside its lifetime, to its
    own provider, in its own workspace and with its own tools and schema. -/
structure WithinGrant (grant : ProviderConsentGrantV1) (descriptor : ProviderDescriptor)
    (scope : ProviderConsentScopeV1) (now : String) : Prop where
  lifetime : InLifetime grant.val.issued_at grant.val.expires_at now
  provider : descriptor.identity_digest = grant.val.provider_descriptor_digest
  destination : descriptor.canonical_destination = grant.val.canonical_destination
  model : descriptor.model = grant.val.model
  workspace : scope.val.workspace_identity_digest = grant.val.workspace_identity_digest
  tools : scope.val.tool_bindings ⊆ grant.val.tool_bindings
  control_schema : scope.val.control_schema_digest = grant.val.control_schema_digest

/-- A grant that pays for a dispatch is active and has uses left. -/
structure GrantAdmits (grant : ProviderConsentGrantV1) (descriptor : ProviderDescriptor)
    (scope : ProviderConsentScopeV1) (now : String) : Prop where
  active : grant.val.status = .active
  remaining : grant.val.uses_consumed < CONSENT_MAX_USES
  within : WithinGrant grant descriptor scope now

section Grants

variable {s : ConversationState} {grant : ProviderConsentGrantV1}
  {scope : ProviderConsentScopeV1}

theorem grant_availability_ok {now : String} (h : grant_availability grant now = .ok none) :
    grant.val.status = .active ∧ grant.val.uses_consumed < CONSENT_MAX_USES ∧
      InLifetime grant.val.issued_at grant.val.expires_at now := by
  simp only [grant_availability, ite_eq_ok, bind_eq_ok, pure_eq_ok, reduceCtorEq, and_false,
    false_or, not_not, not_lt, not_le] at h
  obtain ⟨hactive, issued, hissued, expires, hexpires, current, hcurrent, _, hfrom, hbefore,
    hremaining, _⟩ := h
  exact ⟨hactive, hremaining, issued, expires, current, hissued, hexpires, hcurrent, hfrom, hbefore⟩

/-- An approved tool is one of the grant's. -/
theorem approved_identity_ok {b : ProviderConsentToolBindingV1}
    (h : approved_identity grant b.val.name = some b.val.identity_digest) :
    b ∈ grant.val.tool_bindings := by
  obtain ⟨b', hfind, hdigest⟩ := Option.map_eq_some_iff.mp h
  have hname := List.find?_some hfind
  have hmem := List.mem_of_find?_eq_some hfind
  have heq : b' = b := by
    apply Checked.ext
    rcases hb' : b'.val with ⟨name', digest'⟩
    rcases hb : b.val with ⟨name, digest⟩
    simp_all
  exact heq ▸ List.mem_reverse.mp hmem

theorem grant_structure_pinned_ok {control_schema_digest : String}
    {tool_bindings : List ProviderConsentToolBindingV1}
    (h : grant_structure_pinned grant control_schema_digest tool_bindings = true) :
    tool_bindings ⊆ grant.val.tool_bindings ∧
      control_schema_digest = grant.val.control_schema_digest := by
  simp only [grant_structure_pinned, Bool.and_eq_true, List.all_eq_true, decide_eq_true_eq] at h
  exact ⟨fun b hb => approved_identity_ok (h.1 b hb), h.2⟩

theorem grant_covers_structure_ok {exception_classes : List String}
    (h : grant_covers_structure grant scope exception_classes = true) :
    scope.val.tool_bindings ⊆ grant.val.tool_bindings ∧
      scope.val.control_schema_digest = grant.val.control_schema_digest := by
  simp only [grant_covers_structure, Bool.and_eq_true] at h
  exact grant_structure_pinned_ok h.1

theorem exception_is_covered_ok {candidate : ProviderDisclosureRequestV2}
    (h : exception_is_covered candidate s grant scope = true) :
    scope.val.tool_bindings ⊆ grant.val.tool_bindings ∧
      scope.val.control_schema_digest = grant.val.control_schema_digest := by
  unfold exception_is_covered at h
  split at h
  · simp only [Bool.and_eq_true] at h
    exact grant_covers_structure_ok h.2
  · cases h

/-- A gate under a grant uses the grant and pins its structure. -/
theorem grant_gate_ok {candidate : DisclosureRequest} {gate : ProviderDispatchGateV1}
    (h : grant_gate s grant scope candidate = some gate) :
    gate.grant_use = true ∧ gate.consume_receipt = false ∧
      scope.val.tool_bindings ⊆ grant.val.tool_bindings ∧
      scope.val.control_schema_digest = grant.val.control_schema_digest := by
  unfold grant_gate at h
  dsimp only at h
  split at h
  · next hroutine =>
    obtain rfl := Option.some.inj h
    simp only [Bool.and_eq_true] at hroutine
    exact ⟨rfl, rfl, grant_covers_structure_ok hroutine.2⟩
  split at h
  · next hread =>
    obtain rfl := Option.some.inj h
    simp only [Bool.and_eq_true] at hread
    exact ⟨rfl, rfl, grant_covers_structure_ok hread.2⟩
  split at h
  · next request =>
    split at h
    · next hexception =>
      obtain rfl := Option.some.inj h
      exact ⟨rfl, rfl, exception_is_covered_ok hexception⟩
    · cases h
  · cases h

end Grants

/-! ### The gate -/

/-- An unspent receipt of version 2 answers the pending request, and its
    exact match admits the dispatch. -/
structure ReceiptAdmits (s : ConversationState) (descriptor : ProviderDescriptor)
    (scope : ProviderConsentScopeV1) (purpose run_id : String)
    (previous : ProviderDisclosureRequestV2) (receipt : ProviderDisclosureReceiptV2) : Prop where
  pending : s.val.provider_disclosure_request = some (.v2 previous)
  answered : s.val.provider_disclosure_receipt = some (.v2 receipt)
  unspent : receipt.val.consumed_at = none
  no_new_input : no_new_user_input_since s receipt = true
  covers : ReceiptCovers previous scope ∨ CollidesWith previous descriptor scope purpose run_id

section Gate

variable {s s' : ConversationState} {descriptor : ProviderDescriptor}
  {scope : ProviderConsentScopeV1} {gate : ProviderDispatchGateV1} {purpose run_id now : String}

theorem receipt_gate_ok {candidate : DisclosureRequest}
    (hcandidate : candidate_request s descriptor scope purpose run_id = .ok candidate)
    (h : receipt_gate s candidate = some gate) :
    gate.grant_use = false ∧ gate.mark_receipt_consumed = false ∧
      ((gate.consume_receipt = true ∧
          ∃ previous receipt, ReceiptAdmits s descriptor scope purpose run_id previous receipt) ∨
        (gate.consume_receipt = false ∧
          ∃ receipt, s.val.provider_disclosure_receipt = some (.v1 receipt))) := by
  have hexact : ∀ request previous receipt,
      candidate = .v2 request → s.val.provider_disclosure_request = some (.v2 previous) →
      s.val.provider_disclosure_receipt = some (.v2 receipt) → receipt.val.consumed_at = none →
      exact_receipt_matches s request previous receipt = true →
      ReceiptAdmits s descriptor scope purpose run_id previous receipt := by
    intro request previous receipt hrequest hpending hanswered hunspent hmatches
    obtain ⟨hnew, _⟩ := exact_receipt_matches_ok hmatches
    rcases candidate_request_ok hcandidate with ⟨_, hv1, _⟩ | ⟨r, hr, hbuild⟩
    · rw [hrequest] at hv1
      cases hv1
    · obtain rfl : request = r := DisclosureRequest.v2.inj (hrequest.symm.trans hr)
      exact ⟨hpending, hanswered, hunspent, hnew, exact_receipt_matches_covers hbuild hmatches⟩
  unfold receipt_gate at h
  dsimp only at h
  split at h
  · next request previous receipt hpending hanswered =>
    split at h
    · next hmatches =>
      obtain rfl := Option.some.inj h
      simp only [Bool.and_eq_true, decide_eq_true_eq] at hmatches
      exact ⟨rfl, rfl, .inl ⟨rfl, previous, receipt,
        hexact request previous receipt rfl hpending hanswered hmatches.1 hmatches.2⟩⟩
    split at h
    · next hcovers =>
      obtain rfl := Option.some.inj h
      obtain ⟨hunspent, hmatches⟩ := exact_routine_receipt_covers_ok hcovers
      exact ⟨rfl, rfl, .inl ⟨rfl, previous, receipt,
        hexact request previous receipt rfl hpending hanswered hunspent hmatches⟩⟩
    · cases h
  · next receipt hanswered =>
    split at h
    · obtain rfl := Option.some.inj h
      exact ⟨rfl, rfl, .inr ⟨rfl, receipt, hanswered⟩⟩
    · cases h
  · cases h

/-- An admitted dispatch is to a local provider, under the grant, or on a
    receipt. -/
theorem evaluate_provider_dispatch_ok
    (h : evaluate_provider_dispatch s (some descriptor) (some scope) now purpose run_id = .ok gate)
    (hadmitted : gate.admitted = true) :
    (descriptor.remote = false ∧ gate.grant_use = false ∧ gate.consume_receipt = false ∧
        gate.mark_receipt_consumed = false) ∨
    (∃ grant, s.val.provider_consent_grant = some grant ∧
        GrantAdmits grant descriptor scope now ∧ gate.grant_use = true ∧
        gate.consume_receipt = false) ∨
    (gate.grant_use = false ∧ gate.mark_receipt_consumed = false ∧
      ((gate.consume_receipt = true ∧
          ∃ previous receipt, ReceiptAdmits s descriptor scope purpose run_id previous receipt) ∨
        (gate.consume_receipt = false ∧
          ∃ receipt, s.val.provider_disclosure_receipt = some (.v1 receipt)))) := by
  unfold evaluate_provider_dispatch at h
  cases hremote : descriptor.remote with
  | false =>
    simp only [Option.filter, hremote, Bool.false_eq_true, if_false, pure_eq_ok] at h
    subst h
    exact .inl ⟨rfl, rfl, rfl, rfl⟩
  | true =>
    simp only [Option.filter, hremote, if_true, bind_eq_ok, ite_eq_ok, pure_eq_ok] at h
    obtain ⟨candidate, hcandidate, ⟨_, rfl⟩ | ⟨hidentity, availability, havailability, h⟩⟩ := h
    · cases hadmitted
    cases hby : usable_grant_gate s availability scope candidate with
    | some gate' =>
      simp only [hby, Option.some_or, pure_eq_ok] at h
      subst h
      unfold usable_grant_gate at hby
      split at hby
      · next grant hgrant =>
        obtain ⟨huse, hconsume, htools, hschema⟩ := grant_gate_ok hby
        rw [hgrant] at havailability hidentity
        obtain ⟨hactive, hremaining, hlifetime⟩ := grant_availability_ok havailability
        simp only [Option.any_some, hactive, decide_true, Bool.true_and, Bool.not_eq_true',
          Bool.not_eq_false, grant_identity_matches, Bool.and_eq_true,
          decide_eq_true_eq] at hidentity
        obtain ⟨⟨⟨hprovider, hdestination⟩, hmodel⟩, hworkspace⟩ := hidentity
        exact .inr (.inl ⟨grant, hgrant, {
          active := hactive
          remaining := hremaining
          within := {
            lifetime := hlifetime
            provider := hprovider.symm
            destination := hdestination.symm
            model := hmodel.symm
            workspace := hworkspace.symm
            tools := htools
            control_schema := hschema } }, huse, hconsume⟩)
      · cases hby
    | none =>
      cases hreceipt : receipt_gate s candidate with
      | some gate' =>
        simp only [hby, hreceipt, Option.none_or, pure_eq_ok] at h
        subst h
        exact .inr (.inr (receipt_gate_ok hcandidate hreceipt))
      | none =>
        simp only [hby, hreceipt, Option.none_or, pure_eq_ok] at h
        subst h
        cases hadmitted

/-- The receipt is left as it is, or an unspent one is spent. -/
def KeepsOrSpends (r r' : Option DisclosureReceipt) : Prop :=
  r' = r ∨ ∃ receipt receipt' now, r = some (.v2 receipt) ∧ r' = some (.v2 receipt') ∧
    receipt'.val = { receipt.val with consumed_at := some now }

/-- The four kinds of dispatch, with the state they leave. -/
inductive Dispatched (s s' : ConversationState) (gate : ProviderDispatchGateV1)
    (descriptor : ProviderDescriptor) (scope : ProviderConsentScopeV1)
    (purpose run_id now : String) : Prop where
  | not_remote (hlocal : descriptor.remote = false) (huse : gate.grant_use = false)
      (hs : s' = s)
  | under_grant (huse : gate.grant_use = true) (grant grant' : ProviderConsentGrantV1)
      (digest : String) (receipt : Option DisclosureReceipt)
      (hgrant : s.val.provider_consent_grant = some grant)
      (hadmits : GrantAdmits grant descriptor scope now)
      (hused : grant'.val = { grant.val with
        uses_consumed := grant.val.uses_consumed + 1
        grant_digest := digest })
      (hreceipt : KeepsOrSpends s.val.provider_disclosure_receipt receipt)
      (hs : s'.val = { s.val with
        provider_consent_grant := some grant'
        provider_disclosure_receipt := receipt })
  | on_receipt (huse : gate.grant_use = false) (previous : ProviderDisclosureRequestV2)
      (receipt receipt' : ProviderDisclosureReceiptV2)
      (hadmits : ReceiptAdmits s descriptor scope purpose run_id previous receipt)
      (hspent : receipt'.val = { receipt.val with consumed_at := some now })
      (hs : s'.val = { s.val with provider_disclosure_receipt := some (.v2 receipt') })
  | legacy (huse : gate.grant_use = false) (receipt : ProviderDisclosureReceipt)
      (hreceipt : s.val.provider_disclosure_receipt = some (.v1 receipt)) (hs : s' = s)

theorem consume_disclosure_receipt_spends (h : consume_disclosure_receipt s now = .ok s') :
    ∃ receipt receipt' : ProviderDisclosureReceiptV2,
      s.val.provider_disclosure_receipt = some (.v2 receipt) ∧
      receipt'.val = { receipt.val with consumed_at := some now } ∧
      s'.val = { s.val with provider_disclosure_receipt := some (.v2 receipt') } := by
  unfold consume_disclosure_receipt at h
  dsimp only at h
  split at h
  · next receipt hreceipt =>
    simp only [bind_eq_ok, Checked.make_eq_ok] at h
    obtain ⟨_, _, receipt', hreceipt', h⟩ := h
    exact ⟨receipt, receipt', hreceipt, hreceipt', h⟩
  · cases h

theorem mark_disclosure_receipt_ok (h : mark_disclosure_receipt s now = .ok s') :
    ∃ receipt, KeepsOrSpends s.val.provider_disclosure_receipt receipt ∧
      s'.val = { s.val with provider_disclosure_receipt := receipt } := by
  simp only [mark_disclosure_receipt, ite_eq_ok, pure_eq_ok] at h
  rcases h with ⟨_, h⟩ | ⟨_, rfl⟩
  · obtain ⟨receipt, receipt', hreceipt, hspent, h⟩ := consume_disclosure_receipt_spends h
    exact ⟨_, .inr ⟨receipt, receipt', now, hreceipt, rfl, hspent⟩, h⟩
  · exact ⟨_, .inl rfl, rfl⟩

theorem charge_grant_ok {grant : ProviderConsentGrantV1}
    (hgrant : s.val.provider_consent_grant = some grant) (h : charge_grant s now = .ok s') :
    ∃ grant' digest, grant'.val = { grant.val with
        uses_consumed := grant.val.uses_consumed + 1
        grant_digest := digest } ∧
      s'.val = { s.val with provider_consent_grant := some grant' } := by
  simp only [charge_grant, charge_consent_grant, ProviderConsentGrantV1.with_use,
    ProviderConsentGrantV1.create, hgrant, bind_eq_ok, Py.expect_value_eq_ok,
    Option.some.injEq, Checked.make_eq_ok] at h
  obtain ⟨_, rfl, _, _, _, _, _, rfl, grant', ⟨_, _, hgrant'⟩, h⟩ := h
  exact ⟨grant', _, hgrant', h⟩

/-- A charge is a dispatch of one of the four kinds. -/
theorem charge_provider_dispatch_ok
    (h : charge_provider_dispatch s gate descriptor scope purpose run_id now = .ok s') :
    Dispatched s s' gate descriptor scope purpose run_id now := by
  simp only [charge_provider_dispatch, bind_eq_ok, Py.refuse_value_eq_ok, not_or, not_not,
    Bool.not_eq_false] at h
  obtain ⟨recomputed, hevaluate, _, ⟨hadmitted, rfl⟩, t, ht, u, hu, h⟩ := h
  rcases evaluate_provider_dispatch_ok hevaluate hadmitted with
    ⟨hlocal, huse, hconsume, hmark⟩ | ⟨grant, hgrant, hadmits, huse, hconsume⟩ |
    ⟨huse, hmark, hreceipt⟩
  · simp only [huse, hconsume, hmark, Bool.false_eq_true, if_false, pure_eq_ok] at ht hu h
    subst ht hu h
    exact .not_remote hlocal huse rfl
  · simp only [huse, hconsume, Bool.false_eq_true, if_false, if_true, pure_eq_ok] at ht hu
    subst hu
    obtain ⟨grant', digest, hused, ht⟩ := charge_grant_ok hgrant ht
    simp only [ite_eq_ok, pure_eq_ok] at h
    rcases h with ⟨_, h⟩ | ⟨_, rfl⟩
    · obtain ⟨receipt, hreceipt, h⟩ := mark_disclosure_receipt_ok h
      rw [ht] at hreceipt
      exact .under_grant huse grant grant' digest receipt hgrant hadmits hused hreceipt
        (by rw [h, ht])
    · exact .under_grant huse grant grant' digest _ hgrant hadmits hused (.inl rfl) ht
  · simp only [huse, hmark, Bool.false_eq_true, if_false, pure_eq_ok] at ht h
    subst ht h
    rcases hreceipt with ⟨hconsume, previous, receipt, hadmits⟩ | ⟨hconsume, receipt, hanswered⟩
    · simp only [hconsume, if_true] at hu
      obtain ⟨receipt₀, receipt', hreceipt₀, hspent, hu⟩ := consume_disclosure_receipt_spends hu
      have hsame : receipt₀ = receipt := by
        have heq := hreceipt₀.symm.trans hadmits.answered
        exact DisclosureReceipt.v2.inj (Option.some.inj heq)
      rw [hsame] at hspent
      exact .on_receipt huse previous receipt receipt' hadmits hspent hu
    · simp only [hconsume, Bool.false_eq_true, if_false, pure_eq_ok] at hu
      exact .legacy huse receipt hanswered hu.symm

/-- The last check lets a grant's dispatch through inside its lifetime only. -/
theorem final_dispatch_expiry_check_ok {grant : ProviderConsentGrantV1}
    (hgrant : s.val.provider_consent_grant = some grant) (huse : gate.grant_use = true)
    (h : final_dispatch_expiry_check s gate now = .ok none) :
    InLifetime grant.val.issued_at grant.val.expires_at now := by
  simp only [final_dispatch_expiry_check, huse, hgrant, Bool.true_eq_false, if_false, bind_eq_ok,
    ite_eq_ok, pure_eq_ok, reduceCtorEq, and_false, false_or, not_lt, not_le] at h
  obtain ⟨current, hcurrent, issued, hissued, hfrom, expires, hexpires, hbefore, _⟩ := h
  exact ⟨issued, expires, current, hissued, hexpires, hcurrent, hfrom, hbefore⟩

end Gate
