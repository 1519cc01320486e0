import BbAuth.Flow.Step
/-!
# What a pinentry flow leaves behind

The pinentry manager keeps six tables: five by the cookie of a flow, and
the retry counters by the key the flow names. `closeFlow` removes the
counters of the key that was recorded last for the flow, and removes them
for everybody. So a flow leaves nothing behind, takes nothing from another
one and shows no counters but its own as long as every flow keeps to one
key, no two open flows share one, and no flow is started under the id of a
keyring or polkit session (`noResidue_of_keepsApart`).
-/

namespace BbAuth

open Agent

namespace PinentryManager

variable {pm : PinentryManager} {rs : String → List PinentryRequest} {c c' k cookie : String}
  {r request : PinentryRequest}

/-- **The manager that has seen these requests and no others**, as far as
its retry counters go. -/
def replay (requests : List PinentryRequest) : PinentryManager :=
  requests.foldl (fun pm r => (pm.resolveRetryInfo r).2) {}

/-- **The counters a flow shows of itself** at a request that follows
these. -/
def ownCounters (requests : List PinentryRequest) (r : PinentryRequest) : ℤ × ℤ :=
  ((replay requests).resolveRetryInfo r).1

theorem replay_snoc (requests : List PinentryRequest) :
    replay (requests ++ [r]) = ((replay requests).resolveRetryInfo r).2 := by
  simp [replay]

/-- Without a key nothing is kept. -/
theorem retryInfo_replay_of_unnamed {requests : List PinentryRequest}
    (h : ∀ r ∈ requests, r.keyinfo = "") : (replay requests).retryInfo = ∅ := by
  induction requests using List.reverseRecOn with
  | nil => rfl
  | append_singleton requests r ih =>
      rw [replay_snoc, retryInfo_resolveRetryInfo, if_pos (h r (by simp))]
      exact ih fun r' hr' => h r' (List.mem_append_left _ hr')

/-- A request is refused to those whose results would be. -/
theorem refused_eq (peerPid : Pid) :
    (pm.flowOwners.contains cookie && decide (pm.flowOwners.lookup cookie ≠ some peerPid)) =
      !pm.validateResultOwner cookie peerPid := by
  unfold validateResultOwner
  cases h : pm.flowOwners.lookup cookie <;> simp [Table.contains, h]

/-! ## Lookups after an operation -/

theorem Accepts.lookup_flowKeyinfos {pm' : PinentryManager} (h : pm.Accepts r pm') (c : String) :
    pm'.flowKeyinfos.lookup c =
      if r.keyinfo ≠ "" ∧ c = r.cookie then some r.keyinfo else pm.flowKeyinfos.lookup c := by
  rw [h.flowKeyinfos]
  by_cases hk : r.keyinfo = "" <;> simp [hk]

theorem lookup_resolveRetryInfo (k : String) :
    (pm.resolveRetryInfo r).2.retryInfo.lookup k =
      if r.keyinfo ≠ "" ∧ k = r.keyinfo then
        some (renewedInfo r (pm.retryInfo.lookup r.keyinfo))
      else pm.retryInfo.lookup k := by
  rw [retryInfo_resolveRetryInfo]
  by_cases hk : r.keyinfo = "" <;> simp [hk]

theorem Accepts.lookup_retryInfo {pm' : PinentryManager} (h : pm.Accepts r pm') (k : String) :
    pm'.retryInfo.lookup k =
      if r.keyinfo ≠ "" ∧ k = r.keyinfo then
        some (renewedInfo r (pm.retryInfo.lookup r.keyinfo))
      else pm.retryInfo.lookup k := by
  rw [h.retryInfo]
  exact lookup_resolveRetryInfo k

theorem lookup_flowKeyinfos_forgetFlow :
    (pm.forgetFlow cookie).flowKeyinfos.lookup c =
      if c = cookie then none else pm.flowKeyinfos.lookup c := by
  simp [forgetFlow]

theorem lookup_retryReported_forgetFlow :
    (pm.forgetFlow cookie).retryReported.lookup c =
      if c = cookie then none else pm.retryReported.lookup c := by
  simp [forgetFlow]

/-- **A close takes the counters of the recorded key along.** -/
theorem lookup_retryInfo_forgetFlow :
    (pm.forgetFlow cookie).retryInfo.lookup k =
      if pm.flowKeyinfos.lookup cookie = some k ∧ k ≠ "" then none
      else pm.retryInfo.lookup k := by
  simp only [forgetFlow, cleanupAwaiting_flowKeyinfos, cleanupAwaiting_retryInfo]
  cases pm.flowKeyinfos.lookup cookie with
  | none => simp
  | some k' =>
      by_cases hk' : k' = ""
      · subst hk'
        simp only [Option.getD_some, ne_eq, not_true_eq_false, if_false, Option.some_inj]
        rw [if_neg]
        rintro ⟨rfl, hne⟩
        exact hne rfl
      · simp only [Option.getD_some, ne_eq, hk', not_false_eq_true, if_true, Table.lookup_erase,
          Option.some_inj]
        by_cases hkk : k = k'
        · rw [if_pos hkk, if_pos ⟨hkk.symm, hkk ▸ hk'⟩]
        · rw [if_neg hkk, if_neg fun h => hkk h.1.symm]

/-! ## The ledger -/

/-- **The tables agree with the history** of every flow: `rs c` are the
requests the open flow of `c` has made. -/
structure Ledger (pm : PinentryManager) (rs : String → List PinentryRequest) : Prop where
  /-- What is kept under a cookie belongs to an open flow. -/
  owned : ∀ c, pm.flowOwners.lookup c = none →
    pm.pendingRequests.lookup c = none ∧ pm.awaitingOutcome.lookup c = none ∧
      pm.flowKeyinfos.lookup c = none ∧ pm.retryReported.lookup c = none ∧ rs c = []
  /-- A flow keeps to the key it names. -/
  named : ∀ c k, pm.flowKeyinfos.lookup c = some k → k ≠ ""
  history : ∀ c, ∀ r ∈ rs c, r.keyinfo ≠ "" → pm.flowKeyinfos.lookup c = some r.keyinfo
  /-- No two open flows share a key. -/
  apart : ∀ c c' k, pm.flowKeyinfos.lookup c = some k → pm.flowKeyinfos.lookup c' = some k → c = c'
  /-- Counters are kept for the keys of open flows. -/
  known : ∀ k info, pm.retryInfo.lookup k = some info → ∃ c, pm.flowKeyinfos.lookup c = some k
  /-- They are what the flow's own requests make them. -/
  own : ∀ c k, pm.flowKeyinfos.lookup c = some k →
    pm.retryInfo.lookup k = (replay (rs c)).retryInfo.lookup k

/-- **Nothing is left of a flow** that has made these requests. -/
structure Cleared (pm : PinentryManager) (c : String) (requests : List PinentryRequest) : Prop where
  pending : pm.pendingRequests.lookup c = none
  awaiting : pm.awaitingOutcome.lookup c = none
  owner : pm.flowOwners.lookup c = none
  keyinfo : pm.flowKeyinfos.lookup c = none
  reported : pm.retryReported.lookup c = none
  info : ∀ r ∈ requests, pm.retryInfo.lookup r.keyinfo = none

/-- **A flow that has made these requests is as it was.** -/
structure Kept (pm pm' : PinentryManager) (c : String) (requests : List PinentryRequest) : Prop where
  pending : pm'.pendingRequests.lookup c = pm.pendingRequests.lookup c
  awaiting : pm'.awaitingOutcome.lookup c = pm.awaitingOutcome.lookup c
  owner : pm'.flowOwners.lookup c = pm.flowOwners.lookup c
  keyinfo : pm'.flowKeyinfos.lookup c = pm.flowKeyinfos.lookup c
  reported : pm'.retryReported.lookup c = pm.retryReported.lookup c
  info : ∀ r ∈ requests, pm'.retryInfo.lookup r.keyinfo = pm.retryInfo.lookup r.keyinfo

namespace Ledger

theorem init : Ledger {} fun _ => [] where
  owned _ _ := ⟨rfl, rfl, rfl, rfl, rfl⟩
  named _ _ h := nomatch h
  history _ _ h := nomatch h
  apart _ _ _ h := nomatch h
  known _ _ h := nomatch h
  own _ _ h := nomatch h

/-- A flow that has named no key has requests without one. -/
theorem unnamed (h : pm.Ledger rs) (hc : pm.flowKeyinfos.lookup c = none) :
    ∀ r ∈ rs c, r.keyinfo = "" := by
  intro r hr
  by_contra hk
  rw [h.history c r hr hk] at hc
  cases hc

/-! ## Requests -/

/-- **A request names its flow's key, and nobody else's.** -/
def Fits (pm : PinentryManager) (r : PinentryRequest) : Prop :=
  r.keyinfo ≠ "" → ∀ c k, pm.flowKeyinfos.lookup c = some k → (c = r.cookie ↔ k = r.keyinfo)

/-- **What is kept under the key of a request that fits** is what its flow
has put there. -/
theorem lookup_keyinfo (h : pm.Ledger rs) (hfit : Fits pm r) (hk : r.keyinfo ≠ "") :
    pm.retryInfo.lookup r.keyinfo = (replay (rs r.cookie)).retryInfo.lookup r.keyinfo := by
  cases hc : pm.flowKeyinfos.lookup r.cookie with
  | some k =>
      obtain rfl : k = r.keyinfo := (hfit hk _ _ hc).1 rfl
      exact h.own _ _ hc
  | none =>
      rw [retryInfo_replay_of_unnamed (h.unnamed hc), AList.lookup_empty]
      by_contra hne
      obtain ⟨info, hi⟩ := Option.ne_none_iff_exists'.1 hne
      obtain ⟨c', hc'⟩ := h.known _ info hi
      obtain rfl : c' = r.cookie := (hfit hk _ _ hc').2 rfl
      rw [hc] at hc'
      cases hc'

/-- **The counters a request shows** are its flow's own. -/
theorem counters (h : pm.Ledger rs) (hfit : Fits pm r) :
    (pm.resolveRetryInfo r).1 = ownCounters (rs r.cookie) r :=
  resolveRetryInfo_congr fun hk => h.lookup_keyinfo hfit hk

/-- The history after an accepted request. -/
def noted (rs : String → List PinentryRequest) (r : PinentryRequest) (c : String) :
    List PinentryRequest :=
  if r.cookie = c then rs c ++ [r] else rs c

section Accept

variable {pm' : PinentryManager} (h : pm.Ledger rs) (hacc : pm.Accepts r pm')

include h hacc

theorem owned_accept (hc : pm'.flowOwners.lookup c = none) :
    pm'.pendingRequests.lookup c = none ∧ pm'.awaitingOutcome.lookup c = none ∧
      pm'.flowKeyinfos.lookup c = none ∧ pm'.retryReported.lookup c = none ∧
        noted rs r c = [] := by
  rw [hacc.flowOwners, Table.lookup_insert] at hc
  have hne : c ≠ r.cookie := by
    rintro rfl
    rw [if_pos rfl] at hc
    cases hc
  rw [if_neg hne] at hc
  obtain ⟨hp, ha, hf, hrep, hrs⟩ := h.owned c hc
  refine ⟨?_, ?_, ?_, ?_, ?_⟩
  · rw [hacc.pendingRequests, Table.lookup_insert, if_neg hne, hp]
  · rw [hacc.awaitingOutcome, lookup_cleanupAwaiting, if_neg hne, ha]
  · rw [hacc.lookup_flowKeyinfos, if_neg fun hn => hne hn.2, hf]
  · rw [hacc.retryReported, Table.lookup_erase, if_neg hne, hrep]
  · rw [noted, if_neg fun heq => hne heq.symm, hrs]

/-- An earlier request of the flow named the same key, or the new one names
none. -/
theorem history_accept (hfit : Fits pm r) {r' : PinentryRequest} (hr' : r' ∈ noted rs r c)
    (hk : r'.keyinfo ≠ "") : pm'.flowKeyinfos.lookup c = some r'.keyinfo := by
  have hold : r' ∈ rs c → pm'.flowKeyinfos.lookup c = some r'.keyinfo := by
    intro hr'
    have hrec := h.history c r' hr' hk
    rw [hacc.lookup_flowKeyinfos]
    split
    next hn => rw [(hfit hn.1 c _ hrec).1 hn.2]
    · exact hrec
  unfold noted at hr'
  split at hr'
  next hcookie =>
    rcases List.mem_append.1 hr' with hr' | hr'
    · exact hold hr'
    · obtain rfl := List.mem_singleton.1 hr'
      rw [hacc.lookup_flowKeyinfos, if_pos ⟨hk, hcookie.symm⟩]
  · exact hold hr'

theorem apart_accept (hfit : Fits pm r) {c' : String} (hc : pm'.flowKeyinfos.lookup c = some k)
    (hc' : pm'.flowKeyinfos.lookup c' = some k) : c = c' := by
  rw [hacc.lookup_flowKeyinfos] at hc hc'
  split at hc
  next hn =>
    obtain rfl := Option.some.inj hc
    split at hc'
    next hn' => rw [hn.2, hn'.2]
    · rw [hn.2, (hfit hn.1 c' _ hc').2 rfl]
  next hn =>
    split at hc'
    next hn' =>
      obtain rfl := Option.some.inj hc'
      rw [hn'.2, (hfit hn'.1 c _ hc).2 rfl]
    · exact h.apart c c' k hc hc'

theorem known_accept (hfit : Fits pm r) {info : PinentryRetryInfo}
    (hk : pm'.retryInfo.lookup k = some info) : ∃ c, pm'.flowKeyinfos.lookup c = some k := by
  rw [hacc.lookup_retryInfo] at hk
  split at hk
  next hn => exact ⟨r.cookie, by rw [hacc.lookup_flowKeyinfos, if_pos ⟨hn.1, rfl⟩, hn.2]⟩
  next hn =>
    obtain ⟨c, hc⟩ := h.known k info hk
    refine ⟨c, ?_⟩
    rw [hacc.lookup_flowKeyinfos, if_neg, hc]
    rintro ⟨hne, rfl⟩
    exact hn ⟨hne, (hfit hne _ k hc).1 rfl⟩

theorem own_accept (hfit : Fits pm r) (hc : pm'.flowKeyinfos.lookup c = some k) :
    pm'.retryInfo.lookup k = (replay (noted rs r c)).retryInfo.lookup k := by
  rw [hacc.lookup_flowKeyinfos] at hc
  rw [hacc.lookup_retryInfo]
  split at hc
  next hn =>
    obtain rfl := Option.some.inj hc
    obtain ⟨hne, rfl⟩ := hn
    rw [if_pos ⟨hne, rfl⟩, noted, if_pos rfl, replay_snoc, lookup_resolveRetryInfo,
      if_pos ⟨hne, rfl⟩, h.lookup_keyinfo hfit hne]
  next hn =>
    -- another flow's key: it is not the one the request names
    have hother : ¬ (r.keyinfo ≠ "" ∧ k = r.keyinfo) := by
      rintro ⟨hne, rfl⟩
      exact hn ⟨hne, (hfit hne c _ hc).2 rfl⟩
    rw [if_neg hother, h.own c k hc, noted]
    split
    · rw [replay_snoc, lookup_resolveRetryInfo, if_neg hother]
    · rfl

/-- **A request that fits keeps the ledger.** -/
theorem accept (hfit : Fits pm r) : pm'.Ledger (noted rs r) where
  owned _ hc := owned_accept h hacc hc
  named c k hc := by
    rw [hacc.lookup_flowKeyinfos] at hc
    split at hc
    next hn => exact Option.some.inj hc ▸ hn.1
    · exact h.named c k hc
  history _ _ hr' hk := history_accept h hacc hfit hr' hk
  apart _ _ _ hc hc' := apart_accept h hacc hfit hc hc'
  known _ _ hk := known_accept h hacc hfit hk
  own _ _ hc := own_accept h hacc hfit hc

end Accept

/-! ## Answers and reports -/

/-- The operations that leave the owners, the keys and the counters
alone. -/
theorem congr {pm' : PinentryManager} (h : pm.Ledger rs) (ho : pm'.flowOwners = pm.flowOwners)
    (hk : pm'.flowKeyinfos = pm.flowKeyinfos) (hi : pm'.retryInfo = pm.retryInfo)
    (hown : ∀ c, pm.flowOwners.lookup c = none → pm'.pendingRequests.lookup c = none ∧
      pm'.awaitingOutcome.lookup c = none ∧ pm'.retryReported.lookup c = none) :
    pm'.Ledger rs := by
  refine ⟨fun c hc => ?_, ?_, ?_, ?_, ?_, ?_⟩
  · rw [ho] at hc
    obtain ⟨-, -, hf, -, hrs⟩ := h.owned c hc
    obtain ⟨hp, ha, hrep⟩ := hown c hc
    exact ⟨hp, ha, hk ▸ hf, hrep, hrs⟩
  · rw [hk]
    exact h.named
  · rw [hk]
    exact h.history
  · rw [hk]
    exact h.apart
  · rw [hk, hi]
    exact h.known
  · rw [hk, hi]
    exact h.own

theorem setTimers (h : pm.Ledger rs) (timers : Table ℕ String) :
    Ledger { pm with activeTimers := timers } rs :=
  ⟨h.owned, h.named, h.history, h.apart, h.known, h.own⟩

theorem answer (h : pm.Ledger rs) (response : String)
    (hr : pm.pendingRequests.lookup cookie = some request) :
    (pm.handleResponse cookie response).2.Ledger rs := by
  simp only [handleResponse, hr]
  refine h.congr (by simp) (by simp) (by simp) fun c hc => ?_
  obtain ⟨hp, ha, -, hrep, -⟩ := h.owned c hc
  have hne : c ≠ cookie := by
    rintro rfl
    rw [hp] at hr
    cases hr
  simp [hne, hp, ha, hrep]

theorem report (h : pm.Ledger rs) (ho : (pm.flowOwners.lookup cookie).isSome) :
    Ledger { pm.cleanupAwaiting cookie with
      retryReported := (pm.cleanupAwaiting cookie).retryReported.insert cookie () } rs := by
  refine h.congr (by simp) (by simp) (by simp) fun c hc => ?_
  obtain ⟨hp, ha, -, hrep, -⟩ := h.owned c hc
  have hne : c ≠ cookie := by
    rintro rfl
    rw [hc] at ho
    cases ho
  simp [hne, hp, ha, hrep]

/-! ## Closing -/

/-- The history after some flows are closed. -/
def struck (rs : String → List PinentryRequest) (cookies : List String) (c : String) :
    List PinentryRequest :=
  if c ∈ cookies then [] else rs c

/-- **A flow is closed**: its key and its counters go, and no others. -/
theorem forgetFlow (h : pm.Ledger rs) (cookie : String) :
    (pm.forgetFlow cookie).Ledger (struck rs [cookie]) := by
  have hkey : ∀ c, (pm.forgetFlow cookie).flowKeyinfos.lookup c = _ := fun c =>
    lookup_flowKeyinfos_forgetFlow
  have hold : ∀ {c k}, (pm.forgetFlow cookie).flowKeyinfos.lookup c = some k →
      c ≠ cookie ∧ pm.flowKeyinfos.lookup c = some k := by
    intro c k hc
    rw [hkey] at hc
    split at hc
    · cases hc
    next hne => exact ⟨hne, hc⟩
  -- the counters of a flow that stays open are not those of the closed one
  have hkept : ∀ {c k}, c ≠ cookie → pm.flowKeyinfos.lookup c = some k →
      (pm.forgetFlow cookie).retryInfo.lookup k = pm.retryInfo.lookup k := by
    intro c k hne hc
    rw [lookup_retryInfo_forgetFlow, if_neg]
    rintro ⟨hc', -⟩
    exact hne (h.apart c cookie k hc hc')
  refine ⟨fun c hc => ?_, fun c k hc => ?_, fun c r hr hk => ?_, fun c c' k hc hc' => ?_,
    fun k info hk => ?_, fun c k hc => ?_⟩
  · rw [forgetFlow_flowOwners, Table.lookup_erase] at hc
    simp only [forgetFlow_pendingRequests, Table.lookup_erase, lookup_forgetFlow, hkey,
      lookup_retryReported_forgetFlow, struck, List.mem_singleton]
    by_cases hcc : c = cookie
    · simp [hcc]
    · simp only [if_neg hcc] at hc ⊢
      exact h.owned c hc
  · exact h.named c k (hold hc).2
  · simp only [struck, List.mem_singleton] at hr
    split at hr
    · cases hr
    next hne => rw [hkey, if_neg hne, h.history c r hr hk]
  · exact h.apart c c' k (hold hc).2 (hold hc').2
  · rw [lookup_retryInfo_forgetFlow] at hk
    split at hk
    · cases hk
    next hn =>
      obtain ⟨c, hc⟩ := h.known k info hk
      refine ⟨c, ?_⟩
      rw [hkey, if_neg, hc]
      rintro rfl
      exact hn ⟨hc, h.named c k hc⟩
  · obtain ⟨hne, hc⟩ := hold hc
    simp only [hkept hne hc, h.own c k hc, struck, List.mem_singleton, if_neg hne]

theorem kept_forgetFlow (h : pm.Ledger rs) (hne : c ≠ cookie) :
    Kept pm (pm.forgetFlow cookie) c (rs c) := by
  refine ⟨by simp [hne], by simp [hne], by simp [hne], ?_, ?_, fun r hr => ?_⟩
  · rw [lookup_flowKeyinfos_forgetFlow, if_neg hne]
  · rw [lookup_retryReported_forgetFlow, if_neg hne]
  · rw [lookup_retryInfo_forgetFlow, if_neg]
    rintro ⟨hc, hk⟩
    exact hne (h.apart c cookie _ (h.history c r hr hk) hc)

/-- **Flows are closed one after the other.** -/
theorem forgetFlows : ∀ (cookies : List String) {pm : PinentryManager}
    {rs : String → List PinentryRequest}, pm.Ledger rs →
      (cookies.foldl PinentryManager.forgetFlow pm).Ledger (struck rs cookies) ∧
        ∀ c, c ∉ cookies → Kept pm (cookies.foldl PinentryManager.forgetFlow pm) c (rs c)
  | [], pm, rs, h => by
      refine ⟨?_, fun c _ => ⟨rfl, rfl, rfl, rfl, rfl, fun _ _ => rfl⟩⟩
      have : struck rs [] = rs := by
        funext c
        simp [struck]
      rwa [this]
  | cookie :: rest, pm, rs, h => by
      obtain ⟨hledger, hkept⟩ := forgetFlows rest (h.forgetFlow cookie)
      rw [List.foldl_cons]
      refine ⟨?_, fun c hc => ?_⟩
      · have : struck rs (cookie :: rest) = struck (struck rs [cookie]) rest := by
          funext c
          by_cases h₁ : c = cookie <;> by_cases h₂ : c ∈ rest <;> simp [struck, h₁, h₂]
        rwa [this]
      · rw [List.mem_cons, not_or] at hc
        have h₁ := h.kept_forgetFlow hc.1
        have h₂ := hkept c hc.2
        have hrs : struck rs [cookie] c = rs c := by simp [struck, hc.1]
        rw [hrs] at h₂
        exact ⟨h₂.pending.trans h₁.pending, h₂.awaiting.trans h₁.awaiting, h₂.owner.trans h₁.owner,
          h₂.keyinfo.trans h₁.keyinfo, h₂.reported.trans h₁.reported,
          fun r hr => (h₂.info r hr).trans (h₁.info r hr)⟩

theorem lookup_flowOwners_forgetFlows (cookies : List String) : ∀ pm : PinentryManager,
    (cookies.foldl PinentryManager.forgetFlow pm).flowOwners.lookup c =
      if c ∈ cookies then none else pm.flowOwners.lookup c := by
  induction cookies with
  | nil => simp
  | cons a l ih =>
      intro pm
      rw [List.foldl_cons, ih, forgetFlow_flowOwners]
      by_cases h₁ : c = a <;> by_cases h₂ : c ∈ l <;> simp [h₁, h₂]

/-- **A closed flow leaves nothing.** -/
theorem cleared_of_mem (h : pm.Ledger rs) {cookies : List String} (hc : c ∈ cookies) :
    Cleared (cookies.foldl PinentryManager.forgetFlow pm) c (rs c) := by
  obtain ⟨hledger, hkept⟩ := forgetFlows cookies h
  have hnone : ∀ c ∈ cookies,
      (cookies.foldl PinentryManager.forgetFlow pm).flowOwners.lookup c = none := by
    intro c hc
    rw [lookup_flowOwners_forgetFlows, if_pos hc]
  obtain ⟨hp, ha, hf, hrep, -⟩ := hledger.owned c (hnone c hc)
  refine ⟨hp, ha, hnone c hc, hf, hrep, fun r hr => ?_⟩
  by_contra hne
  obtain ⟨info, hi⟩ := Option.ne_none_iff_exists'.1 hne
  -- the flow that still has the key would have had it before
  obtain ⟨c', hc'⟩ := hledger.known _ info hi
  have hk : r.keyinfo ≠ "" := hledger.named c' _ hc'
  by_cases hmem : c' ∈ cookies
  · rw [(hledger.owned c' (hnone c' hmem)).2.2.1] at hc'
    cases hc'
  · rw [(hkept c' hmem).keyinfo] at hc'
    obtain rfl := h.apart c c' _ (h.history c r hr hk) hc'
    exact hmem hc

end Ledger

end PinentryManager

/-! ## The daemon -/

namespace Daemon

open PinentryManager

variable (W : World) (d : Daemon) (c : String)

/-- **The pinentry request an input makes**, unless it is refused to its
sender. -/
def acceptedRequest? (i : Input) : Option PinentryRequest :=
  match d.message? i with
  | some (.pinentryRequest, socket, msg) =>
    let request := d.pinentryRequestOf W socket msg
    if d.pinentryManager.validateResultOwner request.cookie (d.agent.getPeerPid socket) then
      some request
    else none
  | _ => none

/-- **The input keeps the flows apart**: if it makes a request, its session
is a pinentry's or not open yet, and its flow names the key it has named
before and that no other open flow has. -/
def KeepsApart (i : Input) : Prop :=
  ∀ r, d.acceptedRequest? W i = some r →
    (∀ session, d.agent.getSession r.cookie = some session → session.source = .pinentry) ∧
      Ledger.Fits d.pinentryManager r

/-- What is remembered of the requests of the flow of `c` while it is
open. -/
def noteRequest (requests : List PinentryRequest) (d : Daemon) (i : Input) :
    List PinentryRequest :=
  match d.acceptedRequest? W i with
  | some r => if r.cookie = c then requests ++ [r] else requests
  | none => if c ∈ (d.step W i).pinentryManager.flowOwners then requests else []

/-- **The requests the open flow of `c` has made.** -/
def flowRequests (ins : List Input) : List PinentryRequest :=
  (machine W).observe (noteRequest W c) [] ins

/-- The input closes the flow of `c`. -/
def ClosesFlow (i : Input) : Prop :=
  c ∈ d.pinentryManager.flowOwners ∧ c ∉ (d.step W i).pinentryManager.flowOwners

variable {W d} {i : Input} {r : PinentryRequest}

instance : Decidable (Ledger.Fits d.pinentryManager r) :=
  decidable_of_iff (r.keyinfo ≠ "" →
      ∀ e ∈ d.pinentryManager.flowKeyinfos.pairs, e.1 = r.cookie ↔ e.2 = r.keyinfo) <| by
    simp only [Ledger.Fits, Prod.forall, Table.mem_pairs]

instance : Decidable (KeepsApart W d i) :=
  match h : d.acceptedRequest? W i with
  | none => isTrue fun r hr => by rw [h] at hr; cases hr
  | some r =>
    decidable_of_iff ((∀ s ∈ d.agent.getSession r.cookie, s.source = .pinentry) ∧
        Ledger.Fits d.pinentryManager r) <| by
      constructor
      · intro hr r' hr'
        rw [h, Option.some_inj] at hr'
        exact hr' ▸ hr
      · exact fun hr => hr r h

/-- **What an accepted request does to the daemon.** -/
theorem step_of_accepted (h : d.acceptedRequest? W i = some r) :
    ∃ a : Agent, (∀ c, a.getSession c = d.agent.getSession c) ∧
      d.step W i = d.withPinentry (d.pinentryManager.acceptRequest W a r) := by
  unfold acceptedRequest? at h
  split at h
  next socket msg hm =>
    simp only at h
    split at h
    next hv =>
      obtain rfl := Option.some.inj h
      refine ⟨if (msg.value "cookie").toString = "" then d.agent.ticked else d.agent,
        fun c => ?_, ?_⟩
      · split <;> rfl
      · rw [step_of_message hm]
        simp only [dispatch, handlePinentryRequest, PinentryManager.handleRequest]
        refine congrArg d.withPinentry (if_neg ?_)
        rw [refused_eq, Bool.not_eq_true']
        exact ne_false_of_eq_true hv
    · cases h
  · cases h

variable (W d) in
/-- **What every other input does to the manager's tables.** -/
inductive TableStep : PinentryManager → Prop
  | stay : TableStep d.pinentryManager
  | answer (cookie response : String) (request : PinentryRequest)
      (hr : d.pinentryManager.pendingRequests.lookup cookie = some request) :
      TableStep (d.pinentryManager.handleResponse cookie response).2
  | report (cookie : String) (hs : (d.flow cookie).life.source = some .pinentry) :
      TableStep { d.pinentryManager.cleanupAwaiting cookie with
        retryReported :=
          (d.pinentryManager.cleanupAwaiting cookie).retryReported.insert cookie () }
  | close (timers : Table ℕ String) (cookies : List String) :
      TableStep (cookies.foldl PinentryManager.forgetFlow
        { d.pinentryManager with activeTimers := timers })

theorem closeAll_fst : ∀ (cookies : List String) (pm : PinentryManager) (a : Agent),
    (PinentryManager.closeAll W cookies pm a).1 = cookies.foldl PinentryManager.forgetFlow pm
  | [], _, _ => rfl
  | cookie :: rest, pm, a => by
      simp only [PinentryManager.closeAll, closeAll_fst rest]
      rfl

/-- **Every step but an accepted request is one of these.** -/
theorem tableStep (h : d.acceptedRequest? W i = none) :
    TableStep d (d.step W i).pinentryManager := by
  have hstay : (d.step W i).pinentryManager = d.pinentryManager →
      TableStep d (d.step W i).pinentryManager := fun heq => heq ▸ .stay
  have hclose : ∀ cookies : List String, (d.step W i).pinentryManager =
      cookies.foldl PinentryManager.forgetFlow d.pinentryManager →
      TableStep d (d.step W i).pinentryManager :=
    fun cookies heq => heq ▸ .close d.pinentryManager.activeTimers cookies
  cases turn_step W d i with
  | same h' => exact hstay h'.pinentryManager
  | connected socket peerPid hi hn h' => exact hstay (by rw [h']; rfl)
  | closing socket client hi hc h' => exact hstay (by rw [h']; rfl)
  | keyringRequest socket msg hm h' => exact hstay (by rw [h']; rfl)
  | keyringAnswer socket msg hm r hr h' => exact hstay h'.pinentryManager
  | keyringCancel socket msg hm r hr h' => exact hstay h'.pinentryManager
  | pinentryRequest socket msg hm h' =>
      refine hstay ?_
      rw [h']
      simp only [acceptedRequest?, hm] at h
      split at h
      · cases h
      next hv =>
        simp only [PinentryManager.handleRequest, withPinentry]
        refine congrArg Prod.fst (if_pos ?_)
        rw [refused_eq, Bool.not_eq_true']
        exact eq_false_of_ne_true hv
  | pinentryAnswer socket msg hm ha hk r hr h' =>
      rw [h'.pinentryManager]
      exact .answer _ _ r hr
  | pinentryResult socket msg hm h' =>
      rw [h'.pinentryManager]
      have hcase := PinentryManager.handleResult_cases W d.pinentryManager d.agent msg
        (d.agent.getPeerPid socket)
      simp only [withPinentry]
      generalize PinentryManager.handleResult W d.pinentryManager d.agent msg
        (d.agent.getPeerPid socket) = result at hcase
      cases hcase with
      | refused message h => exact .stay
      | closed ho hs r error hr hne =>
          exact .close d.pinentryManager.activeTimers [messageId msg]
      | retried ho hs hr =>
          exact .report _ ((PinentryManager.isPinentrySession_iff _ _).1 hs)
  | pinentryCancel socket msg hm h' =>
      exact hclose [messageId msg] h'.pinentryManager
  | pinentryTimeout timer hi h' =>
      rw [h']
      simp only [withPinentry, PinentryManager.onTimeout]
      split
      · exact .stay
      next cookie ht => exact .close (d.pinentryManager.activeTimers.erase timer) [cookie]
  | disconnected socket hi h' =>
      exact hclose _ (h'.pinentryManager.trans (closeAll_fst _ _ _))
  | listener call hn hs h' => exact hstay h'.pinentryManager

/-! ## The counters a session shows -/

/-- The pinentry session of `c` shows these counters. -/
def Shows (a : Agent) (c : String) (counters : ℤ × ℤ) : Prop :=
  ∃ s, a.getSession c = some s ∧ s.source = .pinentry ∧
    (s.context.curRetry, s.context.maxRetries) = counters

theorem getSession_emitUpdate {a : Agent} {s : Session} {f : Session → Session}
    (h : a.getSession c = some s) (hf : (f s).id = s.id) :
    (a.emitUpdate (a.sessionStore.update c f)).getSession c = some (f s) := by
  simp [getSession, SessionStore.getSession, (emitUpdate_of_some a c h hf).sessions]

/-- What prompts and errors leave alone. -/
theorem Shows.emitUpdate {a : Agent} {counters : ℤ × ℤ} {f : Session → Session}
    (h : Shows a c counters)
    (hf : ∀ s, (f s).id = s.id ∧ (f s).source = s.source ∧ (f s).context = s.context) :
    Shows (a.emitUpdate (a.sessionStore.update c f)) c counters := by
  obtain ⟨s, hs, hsrc, hctx⟩ := h
  obtain ⟨hid, hsrc', hctx'⟩ := hf s
  exact ⟨f s, getSession_emitUpdate c hs hid, hsrc'.trans hsrc, by rw [hctx', hctx]⟩

theorem shows_showPrompt {pm : PinentryManager} {a : Agent} {counters : ℤ × ℤ}
    (h : Shows a r.cookie counters) : Shows (pm.showPrompt a r).2 r.cookie counters := by
  have hprompt : Shows (a.updateSessionPrompt r.cookie r.prompt false false) r.cookie counters :=
    h.emitUpdate _ fun s => ⟨rfl, rfl, rfl⟩
  simp only [PinentryManager.showPrompt]
  split
  · exact hprompt.emitUpdate _ fun s => ⟨rfl, rfl, rfl⟩
  · exact hprompt

/-- The counters of a request are in range. -/
theorem resolveRetryInfo_range (pm : PinentryManager) (r : PinentryRequest) :
    0 ≤ (pm.resolveRetryInfo r).1.1 ∧ 0 < (pm.resolveRetryInfo r).1.2 := by
  simp only [PinentryManager.resolveRetryInfo]
  constructor <;>
  · split <;> omega

theorem shows_createSession {a : Agent} (h : a.getSession c = none) (ctx : Session.Context) :
    Shows (a.createSession W c .pinentry ctx).2 c (ctx.curRetry, ctx.maxRetries) := by
  refine ⟨newSession c .pinentry ctx, ?_, rfl, rfl⟩
  rw [getSession, SessionStore.getSession, (createSession_of_none W a c h .pinentry ctx).2.sessions,
    AList.lookup_insert]

/-- **A session that is opened or renewed** shows the counters it is
given. -/
theorem shows_openSession {a : Agent} {counters : ℤ × ℤ} (h0 : 0 ≤ counters.1)
    (h1 : 0 < counters.2) (hs : ∀ s, a.getSession r.cookie = some s → s.source = .pinentry) :
    Shows (PinentryManager.openSession W a r counters (a.life r.cookie).source.isSome).2 r.cookie
      counters := by
  unfold PinentryManager.openSession
  cases hg : a.getSession r.cookie with
  | none =>
      rw [(getSession_eq_none a r.cookie).1 hg]
      simp only [Option.isSome_none, Bool.not_false, if_true]
      exact shows_createSession (a := a.ticked) r.cookie hg _
  | some s =>
      have hsrc := hs s hg
      have hlife : (a.life r.cookie).source = some .pinentry := by simp [Agent.life, hg, hsrc]
      have hg' : a.sessionStore.sessions.lookup r.cookie = some s := hg
      rw [hlife]
      simp only [Option.isSome_some, Bool.not_true, Bool.false_eq_true, if_false]
      have hid := a.sessionStore.keyed _ _ hg'
      refine ⟨s.setPinentryRetry counters.1 counters.2, ?_, ?_, ?_⟩
      · simp only [updateSessionPinentryRetry, SessionStore.updatePinentryRetry, hg', hsrc,
          ne_eq, not_true_eq_false, if_false, getSession, SessionStore.getSession, setStore,
          SessionStore.put]
        rw [← hid]
        simp [Session.setPinentryRetry, hsrc]
      · simp [Session.setPinentryRetry, hsrc]
      · simp [Session.setPinentryRetry, hsrc, h1, Int.not_lt.2 h0]

theorem source_leaveAwaiting {pm : PinentryManager} {a : Agent}
    (hs : ∀ s, a.getSession r.cookie = some s → s.source = .pinentry) :
    ∀ s, (pm.leaveAwaiting a r).2.getSession r.cookie = some s → s.source = .pinentry := by
  intro s hg
  have hlife := PinentryManager.life_leaveAwaiting pm a r.cookie r
  have hsrc : (a.life r.cookie).source = some s.source := by
    rw [← hlife]
    simp [Agent.life, hg]
  obtain ⟨s', hg', heq⟩ := Option.map_eq_some_iff.1 hsrc
  rw [← heq]
  exact hs s' hg'

/-- **An accepted request shows the counters its manager resolves.** -/
theorem shows_acceptRequest {pm : PinentryManager} {a : Agent}
    (hs : ∀ s, a.getSession r.cookie = some s → s.source = .pinentry) :
    Shows (pm.acceptRequest W a r).2 r.cookie (pm.resolveRetryInfo r).1 := by
  obtain ⟨pm', -, heq⟩ := PinentryManager.acceptRequest_eq W pm a r
  obtain ⟨h0, h1⟩ := resolveRetryInfo_range pm r
  rw [heq, ← PinentryManager.life_leaveAwaiting pm a r.cookie r]
  exact shows_showPrompt (shows_openSession h0 h1 (source_leaveAwaiting hs))

/-! ## Runs -/

/-- **Every open flow has its pinentry session.** -/
def Sessioned (d : Daemon) : Prop :=
  ∀ c, (d.flow c).owner.isSome → (d.flow c).life.source = some .pinentry

theorem Sessioned.keyringLeft {f : Flow} (h : f.owner.isSome → f.life.source = some .pinentry)
    (hk : f.keyring.isSome → f.life.source = some .keyring) (socket : Socket) :
    (f.keyringLeft socket).owner.isSome → (f.keyringLeft socket).life.source = some .pinentry := by
  unfold Flow.keyringLeft
  split
  next hs =>
    intro ho
    obtain ⟨q, hq, -⟩ := Option.map_eq_some_iff.1 hs
    have hboth := (hk (by simp [hq])).symm.trans (h ho)
    cases hboth
  · exact h

variable {c} in
theorem Sessioned.step (h : d.Sessioned) (hh : d.Heaped) (hsane : ∀ c, (d.flow c).Sane c)
    (hi : KeepsApart W d i) : (d.step W i).Sessioned := by
  intro c
  have hstep := flowStep W c hh i
  have hsrc := h c
  have hc := hsane c
  generalize (d.step W i).flow c = f at hstep ⊢
  cases hstep with
  | stay => exact hsrc
  | keyringRequest socket msg hm hcookie =>
      intro ho
      simp only [Flow.keyringAsked, Life.opened_of_some (hsrc ho)]
      exact hsrc ho
  | keyringEnd r hk =>
      intro ho
      have hboth := (hc.keyring hk).symm.trans (hsrc ho)
      cases hboth
  | pinentryRequest socket msg hm hcookie ho =>
      have hacc : acceptedRequest? W d i = some (d.pinentryRequestOf W socket msg) := by
        simp only [acceptedRequest?, hm]
        refine if_pos ((validateResultOwner_iff _ _ _).2 ?_)
        rw [hcookie]
        exact ho
      have hsession := (hi _ hacc).1
      rw [hcookie] at hsession
      intro _
      cases hg : d.agent.getSession c with
      | none =>
          have hnone : (d.flow c).life.source = none := (getSession_eq_none _ c).1 hg
          simp [Flow.pinentryAsked, Life.opened_of_none hnone]
      | some s =>
          have hsome : (d.flow c).life.source = some .pinentry := by
            simp [Daemon.flow, Agent.life, hg, hsession s hg]
          simp only [Flow.pinentryAsked, Life.opened_of_some hsome]
          exact hsome
  | pinentryAnswer socket msg hm ha hcookie hk request hr => exact hsrc
  | pinentryResult socket msg hm hcookie ho hs r hr =>
      intro hf
      cases hf
  | pinentryRetry socket msg hm hcookie ho hs hr => exact hsrc
  | pinentryEnd r hr =>
      intro hf
      cases hf
  | disconnected socket he =>
      have hleft := Sessioned.keyringLeft hsrc hc.keyring socket
      unfold Flow.pinentryLeft
      split
      · intro hf
        cases hf
      · exact hleft
  | polkitRequest hs =>
      intro ho
      have hboth := hs.symm.trans (hsrc ho)
      cases hboth
  | polkitEnd r hp =>
      intro ho
      have hboth := (hc.polkit.1 hp).symm.trans (hsrc ho)
      cases hboth

/-- The history of a flow that is not open is empty. -/
theorem ledger_trim {pm : PinentryManager} {rs rs' : String → List PinentryRequest}
    (h : pm.Ledger rs') (heq : ∀ c, c ∈ pm.flowOwners → rs' c = rs c) :
    pm.Ledger fun c => if c ∈ pm.flowOwners then rs c else [] := by
  have : (fun c => if c ∈ pm.flowOwners then rs c else []) = rs' := by
    funext c
    split
    next hc => exact (heq c hc).symm
    next hc => exact (h.owned c (AList.lookup_eq_none.2 hc)).2.2.2.2.symm
  rwa [this]

/-- **One input keeps the ledger.** -/
theorem ledger_step {rs : String → List PinentryRequest} (h : d.pinentryManager.Ledger rs)
    (hsane : ∀ c, (d.flow c).Sane c) (hi : KeepsApart W d i) :
    (d.step W i).pinentryManager.Ledger fun c => noteRequest W c (rs c) d i := by
  cases hacc : acceptedRequest? W d i with
  | some r =>
      obtain ⟨a, -, heq⟩ := step_of_accepted hacc
      simp only [noteRequest, hacc, heq]
      exact h.accept (PinentryManager.accepts_acceptRequest W _ a r).1 (hi r hacc).2
  | none =>
      have hstep := tableStep hacc
      simp only [noteRequest, hacc]
      generalize (d.step W i).pinentryManager = pm at hstep ⊢
      cases hstep with
      | stay => exact ledger_trim h fun _ _ => rfl
      | answer cookie response request hr => exact ledger_trim (h.answer response hr) fun _ _ => rfl
      | report cookie hs => exact ledger_trim (h.report ((hsane cookie).owned hs)) fun _ _ => rfl
      | close timers cookies =>
          have hclock := h.setTimers timers
          refine ledger_trim (hclock.forgetFlows cookies).1 fun c hc => ?_
          refine if_neg fun hmem => ?_
          obtain ⟨owner, ho⟩ := Table.mem_iff_exists.1 hc
          rw [Ledger.lookup_flowOwners_forgetFlows, if_pos hmem] at ho
          cases ho

/-- **The invariant of a run that keeps its flows apart.** -/
theorem ledger_run {ins : List Input} (hm : (machine W).Meets (KeepsApart W) ins) :
    ((machine W).run ins).pinentryManager.Ledger (fun c => flowRequests W c ins) ∧
      ((machine W).run ins).Sessioned := by
  induction ins using List.reverseRecOn with
  | nil => exact ⟨Ledger.init, fun _ h => nomatch h⟩
  | append_singleton ins i ih =>
      rw [Machine.meets_snoc] at hm
      obtain ⟨hledger, hsess⟩ := ih hm.1
      have hrun : (machine W).run (ins ++ [i]) = ((machine W).run ins).step W i :=
        Machine.run_snoc ..
      simp only [hrun, flowRequests, Machine.observe_snoc]
      exact ⟨ledger_step hledger (sane_run W ins) hm.2,
        hsess.step (heaped_run W ins) (sane_run W ins) hm.2⟩

/-! ## No residue -/

/-- **No residue between flows.** A flow that is closed leaves nothing in
the manager's tables, and every flow that stays open keeps what it has
there; without an open session and a pending request the tables are empty;
the counters a flow shows are those its own requests give. -/
structure NoResidue (W : World) (ins : List Input) : Prop where
  cleared : ∀ pre i c, pre ++ [i] <+: ins → ClosesFlow W ((machine W).run pre) c i →
    Cleared ((machine W).run (pre ++ [i])).pinentryManager c (flowRequests W c pre)
  kept : ∀ pre i c c', pre ++ [i] <+: ins → ClosesFlow W ((machine W).run pre) c i →
    c' ∈ ((machine W).run (pre ++ [i])).pinentryManager.flowOwners →
    Kept ((machine W).run pre).pinentryManager ((machine W).run (pre ++ [i])).pinentryManager c'
      (flowRequests W c' pre)
  empty : ∀ pre, pre <+: ins → ((machine W).run pre).agent.sessionStore.sessions = ∅ →
    ((machine W).run pre).pinentryManager.pendingRequests = ∅ →
    ((machine W).run pre).pinentryManager.awaitingOutcome = ∅ ∧
      ((machine W).run pre).pinentryManager.retryInfo = ∅ ∧
      ((machine W).run pre).pinentryManager.flowOwners = ∅ ∧
      ((machine W).run pre).pinentryManager.flowKeyinfos = ∅ ∧
      ((machine W).run pre).pinentryManager.retryReported = ∅
  own : ∀ pre i r, pre ++ [i] <+: ins → acceptedRequest? W ((machine W).run pre) i = some r →
    Shows ((machine W).run (pre ++ [i])).agent r.cookie
      (ownCounters (flowRequests W r.cookie pre) r)

/-- **A step that closes a flow** clears it and keeps the others. -/
theorem closes_step {rs : String → List PinentryRequest} (h : d.pinentryManager.Ledger rs)
    (hclose : ClosesFlow W d c i) :
    Cleared (d.step W i).pinentryManager c (rs c) ∧
      ∀ c', c' ∈ (d.step W i).pinentryManager.flowOwners →
        Kept d.pinentryManager (d.step W i).pinentryManager c' (rs c') := by
  obtain ⟨hbefore, hafter⟩ := hclose
  obtain ⟨owner, howner⟩ := Table.mem_iff_exists.1 hbefore
  rw [← AList.lookup_eq_none] at hafter
  cases hacc : acceptedRequest? W d i with
  | some r =>
      -- a request closes nothing
      obtain ⟨a, -, heq⟩ := step_of_accepted hacc
      have howners := (PinentryManager.accepts_acceptRequest W d.pinentryManager a r).1.flowOwners
      rw [heq] at hafter
      simp only [withPinentry, howners, Table.lookup_insert] at hafter
      split at hafter
      · cases hafter
      · rw [howner] at hafter
        cases hafter
  | none =>
      have hstep := tableStep hacc
      generalize (d.step W i).pinentryManager = pm at hstep hafter ⊢
      cases hstep with
      | stay =>
          rw [howner] at hafter
          cases hafter
      | answer cookie response request hr =>
          simp only [PinentryManager.handleResponse, hr,
            PinentryManager.cleanupAwaiting_flowOwners] at hafter
          rw [howner] at hafter
          cases hafter
      | report cookie hs =>
          simp only [PinentryManager.cleanupAwaiting_flowOwners] at hafter
          rw [howner] at hafter
          cases hafter
      | close timers cookies =>
          have hclock := h.setTimers timers
          rw [Ledger.lookup_flowOwners_forgetFlows] at hafter
          split at hafter
          next hmem =>
            refine ⟨hclock.cleared_of_mem hmem, fun c' hc' => ?_⟩
            have hnot : c' ∉ cookies := fun hmem' => by
              obtain ⟨owner', ho'⟩ := Table.mem_iff_exists.1 hc'
              rw [Ledger.lookup_flowOwners_forgetFlows, if_pos hmem'] at ho'
              cases ho'
            obtain ⟨hp, ha, ho, hf, hrep, hinfo⟩ := (hclock.forgetFlows cookies).2 c' hnot
            exact ⟨hp, ha, ho, hf, hrep, hinfo⟩
          · rw [howner] at hafter
            cases hafter

/-- Tables that hold nothing without an open flow. -/
theorem empty_of_ledger {rs : String → List PinentryRequest} (h : d.pinentryManager.Ledger rs)
    (hsess : d.Sessioned) (hstore : d.agent.sessionStore.sessions = ∅) :
    d.pinentryManager.awaitingOutcome = ∅ ∧ d.pinentryManager.retryInfo = ∅ ∧
      d.pinentryManager.flowOwners = ∅ ∧ d.pinentryManager.flowKeyinfos = ∅ ∧
      d.pinentryManager.retryReported = ∅ := by
  have howners : ∀ c, d.pinentryManager.flowOwners.lookup c = none := by
    intro c
    by_contra hne
    have hsrc := hsess c (Option.isSome_iff_ne_none.2 hne)
    simp [Daemon.flow, Agent.life, getSession, SessionStore.getSession, hstore] at hsrc
  refine ⟨?_, ?_, ?_, ?_, ?_⟩ <;> rw [Table.eq_empty_iff]
  · exact fun c => (h.owned c (howners c)).2.1
  · intro k
    by_contra hne
    obtain ⟨info, hi⟩ := Option.ne_none_iff_exists'.1 hne
    obtain ⟨c, hc⟩ := h.known k info hi
    rw [(h.owned c (howners c)).2.2.1] at hc
    cases hc
  · exact howners
  · exact fun c => (h.owned c (howners c)).2.2.1
  · exact fun c => (h.owned c (howners c)).2.2.2.1

/-- **Runs that keep their flows apart leave no residue.** -/
theorem noResidue_of_keepsApart (W : World) (ins : List Input)
    (h : (machine W).Meets (KeepsApart W) ins) : NoResidue W ins := by
  have hrun : ∀ pre i, (machine W).run (pre ++ [i]) = ((machine W).run pre).step W i :=
    fun pre i => Machine.run_snoc ..
  have hpre : ∀ {pre i}, pre ++ [i] <+: ins → pre <+: ins :=
    fun hp => (List.prefix_append _ _).trans hp
  refine ⟨fun pre i c hp hclose => ?_, fun pre i c c' hp hclose hc' => ?_,
    fun pre hp hstore _ => ?_, fun pre i r hp hacc => ?_⟩
  · rw [hrun]
    exact (closes_step c (ledger_run (h.of_prefix (hpre hp))).1 hclose).1
  · rw [hrun] at hc' ⊢
    exact (closes_step c (ledger_run (h.of_prefix (hpre hp))).1 hclose).2 c' hc'
  · obtain ⟨hledger, hsess⟩ := ledger_run (h.of_prefix hp)
    exact empty_of_ledger hledger hsess hstore
  · obtain ⟨hsession, hfit⟩ := h _ _ hp r hacc
    obtain ⟨a, ha, heq⟩ := step_of_accepted hacc
    rw [hrun, heq, ← (ledger_run (h.of_prefix (hpre hp))).1.counters hfit]
    exact shows_acceptRequest fun s hs => hsession s (ha _ ▸ hs)

/-- A line that asks for the passphrase of a key. -/
def keyLine (socket : Socket) (cookie keyinfo : String) : Input :=
  .line socket (some [("type", "pinentry_request"), ("cookie", cookie), ("keyinfo", keyinfo)])

/-- A line that reports success. -/
def successLine (socket : Socket) (cookie : String) : Input :=
  .line socket (some [("type", "pinentry_result"), ("id", cookie), ("result", "success")])

/-- A flow that asks twice for one key. -/
theorem noResidue_of_keepsApart_once :
    NoResidue (World.plain (fun _ => 0) false)
      [.newConnection 1 100, keyLine 1 "c" "k", keyLine 1 "c" "k", successLine 1 "c"] :=
  noResidue_of_keepsApart _ _ (by decide)

/-- **A flow that asks for two keys**: the counters of the first one stay
when it is closed, with no session open and nothing pending. -/
theorem not_noResidue_of_two_keys :
    ¬ NoResidue (World.plain (fun _ => 0) false)
      [.newConnection 1 100, keyLine 1 "c" "k", keyLine 1 "c" "l", successLine 1 "c"] := by
  intro h
  have hinfo := (h.empty _ List.prefix_rfl (AList.ext (by decide)) (AList.ext (by decide))).2.1
  rw [Table.eq_empty_iff] at hinfo
  exact absurd (hinfo "k") (by decide)

end Daemon

end BbAuth
