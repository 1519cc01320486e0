import BbAuth.Launch.Selection
/-!
# The wait after a failed start

What the launcher keeps of a provider is a function of the calls that
tried to start that provider, so the calls for the others have no part in
it. After the `k`-th failed start in a row the provider is left alone for
a wait that grows with `k` up to five seconds, and for no longer than the
jitter beyond it.
-/

namespace BbAuth

namespace LaunchCall

variable (call : LaunchCall)

/-- The candidate of the call, of an empty id where there is none. -/
def candidate : SelectedCandidate :=
  (ProviderLauncher.selectCandidate call.platform call.manifests call.legacyFallbackPath
    call.defaultFallbackPath call.socketPath).1

/-- **The call selects `p`**: a launch is required, and `p` is the
candidate. -/
def Selects (p : String) : Prop :=
  call.hasActiveProvider = false ∧ call.hasPendingSessions = true ∧ call.candidate.id = p ∧ p ≠ ""

instance (p : String) : Decidable (call.Selects p) := inferInstanceAs (Decidable (_ ∧ _))

/-- Starting the candidate succeeds. -/
def starts : Bool :=
  call.startProcess call.candidate.exec call.candidate.args call.candidate.env

end LaunchCall

namespace ProviderLauncher

variable {l : ProviderLauncher} {call : LaunchCall} {p : String}

/-- **The call tries to start `p`.** -/
def Attempts (l : ProviderLauncher) (call : LaunchCall) (p : String) : Prop :=
  (l.tryLaunch call).1.attempted = true ∧ (l.tryLaunch call).1.providerId = p

instance : Decidable (l.Attempts call p) := inferInstanceAs (Decidable (_ ∧ _))

/-- What a call that tries to start a provider makes of what is kept of
it. -/
def retried (state : Option RetryState) (call : LaunchCall) : Option RetryState :=
  if call.starts then none
  else
    let failures := (state.getD {}).failures + 1
    some { failures := failures
           nextEligibleMs := call.nowMs + computeBackoffMs failures call.jitter }

/-! ## One call -/

theorem tryLaunch_of_not_selects (h : ∀ p, ¬ call.Selects p) :
    (l.tryLaunch call).1.attempted = false ∧ (l.tryLaunch call).1.launched = false ∧
      (l.tryLaunch call).2 = l := by
  unfold tryLaunch
  split
  next => exact ⟨rfl, rfl, rfl⟩
  next hreq =>
    dsimp only
    split
    next => exact ⟨rfl, rfl, rfl⟩
    next hid =>
      simp only [Bool.or_eq_true, Bool.not_eq_true', not_or, Bool.not_eq_true,
        Bool.not_eq_false] at hreq
      exact absurd ⟨hreq.1, hreq.2, rfl, hid⟩ (h _)

/-- What a call does that selects `p`. -/
theorem tryLaunch_of_selects (h : call.Selects p) :
    (l.tryLaunch call).1.providerId = p ∧
    (l.tryLaunch call).1.attempted = (l.canAttempt p call.nowMs).1 ∧
    (l.tryLaunch call).1.launched = ((l.canAttempt p call.nowMs).1 && call.starts) ∧
    (l.tryLaunch call).2 =
      if (l.canAttempt p call.nowMs).1 = false then l
      else if call.starts then l.markSuccess p
      else l.markFailure p call.nowMs call.jitter := by
  obtain ⟨hactive, hpending, hid, hne⟩ := h
  rw [← hid] at hne
  unfold tryLaunch
  rw [← hid, hactive, hpending]
  unfold LaunchCall.starts LaunchCall.candidate at *
  dsimp only at *
  rw [if_neg (by decide), if_neg hne]
  cases hcan : (l.canAttempt _ call.nowMs).1 with
  | false => simp
  | true =>
    cases hstart : call.startProcess _ _ _ with
    | false => simp
    | true => simp

/-- A call tries to start what it selects, once the wait is over. -/
theorem attempts_iff :
    l.Attempts call p ↔ call.Selects p ∧ (l.canAttempt p call.nowMs).1 = true := by
  by_cases hsel : ∃ q, call.Selects q
  · obtain ⟨q, hq⟩ := hsel
    obtain ⟨hid, hatt, -, -⟩ := tryLaunch_of_selects (l := l) hq
    unfold Attempts
    rw [hid, hatt]
    constructor
    · rintro ⟨hcan, rfl⟩
      exact ⟨hq, hcan⟩
    · rintro ⟨hp, hcan⟩
      obtain rfl : q = p := hq.2.2.1.symm.trans hp.2.2.1
      exact ⟨hcan, rfl⟩
  · have hnone : ∀ q, ¬ call.Selects q := fun q hq => hsel ⟨q, hq⟩
    have hatt := (tryLaunch_of_not_selects (l := l) hnone).1
    exact ⟨fun h => absurd h.1 (by rw [hatt]; decide), fun h => absurd h.1 (hnone p)⟩

theorem launched_of_attempts (h : l.Attempts call p) :
    (l.tryLaunch call).1.launched = call.starts := by
  obtain ⟨hsel, hcan⟩ := attempts_iff.1 h
  obtain ⟨-, -, hlaunched, -⟩ := tryLaunch_of_selects (l := l) hsel
  rw [hlaunched, hcan, Bool.true_and]

theorem canAttempt_iff :
    (l.canAttempt p call.nowMs).1 = true ↔
      ∀ state, l.retryByProvider.lookup p = some state → state.nextEligibleMs ≤ call.nowMs := by
  unfold canAttempt
  cases hlook : l.retryByProvider.lookup p with
  | none => simp
  | some state =>
    by_cases hlt : call.nowMs < state.nextEligibleMs
    · simp [hlt]
    · simp only [hlt, if_false, true_iff]
      intro _ hstate
      obtain rfl := Option.some.inj hstate
      omega

/-- **One call.** It touches only what is kept of the provider it tries to
start. -/
theorem lookup_tryLaunch (p : String) :
    (l.tryLaunch call).2.retryByProvider.lookup p =
      if l.Attempts call p then retried (l.retryByProvider.lookup p) call
      else l.retryByProvider.lookup p := by
  by_cases hsel : ∃ q, call.Selects q
  · obtain ⟨q, hq⟩ := hsel
    obtain ⟨-, -, -, hnext⟩ := tryLaunch_of_selects (l := l) hq
    rw [hnext]
    cases hcan : (l.canAttempt q call.nowMs).1 with
    | false =>
      have hnot : ¬ l.Attempts call p := by
        intro h
        obtain ⟨hp, hcan'⟩ := attempts_iff.1 h
        obtain rfl : q = p := hq.2.2.1.symm.trans hp.2.2.1
        rw [hcan] at hcan'
        exact Bool.false_ne_true hcan'
      rw [if_neg hnot, if_pos rfl]
    | true =>
      rw [if_neg (by decide)]
      by_cases hqp : q = p
      · subst hqp
        rw [if_pos (attempts_iff.2 ⟨hq, hcan⟩)]
        unfold retried
        cases hs : call.starts with
        | true => simp [markSuccess]
        | false => simp [markFailure]
      · have hnot : ¬ l.Attempts call p :=
          fun h => hqp (hq.2.2.1.symm.trans (attempts_iff.1 h).1.2.2.1)
        rw [if_neg hnot]
        cases hs : call.starts with
        | true => simp [markSuccess, Ne.symm hqp]
        | false => simp [markFailure, Ne.symm hqp]
  · have hnone : ∀ q, ¬ call.Selects q := fun q hq => hsel ⟨q, hq⟩
    rw [if_neg fun h => hnone p (attempts_iff.1 h).1, (tryLaunch_of_not_selects hnone).2.2]

/-! ## Many calls -/

/-- **The calls that tried to start `p`**, in their order. -/
def own (p : String) (ins : List LaunchCall) : List LaunchCall :=
  machine.observe (fun calls l call => if l.Attempts call p then calls ++ [call] else calls) [] ins

/-- **How many starts of `p` failed in a row**, up to now. -/
def failuresInRow (p : String) (ins : List LaunchCall) : ℕ :=
  ((own p ins).reverse.takeWhile fun call => !call.starts).length

/-- What is kept of a provider after these tries to start it. -/
def kept (calls : List LaunchCall) : Option RetryState := calls.foldl retried none

variable {ins mid : List LaunchCall}

@[simp] theorem own_snoc :
    own p (ins ++ [call]) =
      if (machine.run ins).Attempts call p then own p ins ++ [call] else own p ins := by
  rw [own, Machine.observe_snoc]
  rfl

@[simp] theorem kept_snoc (calls : List LaunchCall) :
    kept (calls ++ [call]) = retried (kept calls) call := by
  rw [kept, List.foldl_append]
  rfl

/-- **What the launcher keeps of a provider** is what the tries to start it
left. -/
theorem lookup_run (p : String) (ins : List LaunchCall) :
    (machine.run ins).retryByProvider.lookup p = kept (own p ins) := by
  induction ins using List.reverseRecOn with
  | nil => rfl
  | append_singleton ins call ih =>
    have hstep : ((machine.run ins).tryLaunch call).2.retryByProvider.lookup p = _ :=
      lookup_tryLaunch p
    rw [Machine.run_snoc, own_snoc]
    refine hstep.trans ?_
    rw [ih]
    split
    next => rw [kept_snoc]
    next => rfl

/-- The count that is kept is that of the failures in a row. -/
theorem failures_kept (calls : List LaunchCall) :
    ((kept calls).getD {}).failures =
      (calls.reverse.takeWhile fun call => !call.starts).length := by
  induction calls using List.reverseRecOn with
  | nil => rfl
  | append_singleton calls call ih =>
    rw [kept_snoc, List.reverse_append, List.reverse_singleton, List.singleton_append, retried]
    cases hs : call.starts with
    | true => simp [hs]
    | false => simp [hs, ih]

/-- What is kept after a start that failed. -/
theorem lookup_run_of_failed (hatt : (machine.run ins).Attempts call p)
    (hfail : call.starts = false) :
    (machine.run (ins ++ [call])).retryByProvider.lookup p =
      some { failures := failuresInRow p (ins ++ [call])
             nextEligibleMs := call.nowMs +
               computeBackoffMs (failuresInRow p (ins ++ [call])) call.jitter } := by
  have hcount := failures_kept (own p (ins ++ [call]))
  rw [own_snoc, if_pos hatt, kept_snoc, retried, hfail] at hcount
  rw [lookup_run, own_snoc, if_pos hatt, kept_snoc, retried, hfail, failuresInRow, own_snoc,
    if_pos hatt, ← hcount]
  rfl

/-- The wait after the failure, the jitter apart. -/
theorem computeBackoffMs_bounds (k : ℕ) (jitter : Fin 121) :
    min (250 * 2 ^ min k 8) 5000 ≤ computeBackoffMs k jitter ∧
      computeBackoffMs k jitter ≤ min (250 * 2 ^ min k 8) 5000 + 120 := by
  have hj : (jitter : ℕ) ≤ 120 := Nat.lt_succ_iff.1 jitter.isLt
  have hcap : computeBackoffMs k jitter =
      min (250 * 2 ^ min k 8) 5000 + ((jitter : ℕ) : ℤ) := rfl
  rw [hcap]
  omega

/-- Without a try to start `p` nothing is changed of what is kept of it. -/
theorem own_append (hquiet : ∀ m d, m ++ [d] <+: mid →
    ¬ (machine.run (ins ++ m)).Attempts d p) : own p (ins ++ mid) = own p ins := by
  induction mid using List.reverseRecOn with
  | nil => rw [List.append_nil]
  | append_singleton mid d ih =>
    rw [← List.append_assoc, own_snoc, if_neg (hquiet mid d List.prefix_rfl)]
    exact ih fun m e hm => hquiet m e (hm.trans (List.prefix_append _ _))

/-- Two histories that tried to start `p` alike leave it alike. -/
theorem attempts_iff_of_own {ins' : List LaunchCall} (h : own p ins' = own p ins) :
    (machine.run ins').Attempts call p ↔ (machine.run ins).Attempts call p := by
  simp only [attempts_iff, canAttempt_iff, lookup_run, h]

theorem own_own (p : String) (ins : List LaunchCall) : own p (own p ins) = own p ins := by
  induction ins using List.reverseRecOn with
  | nil => rfl
  | append_singleton ins call ih =>
    rw [own_snoc]
    split
    next hatt =>
      rw [own_snoc, if_pos ((attempts_iff_of_own ih).2 hatt), ih]
    next => exact ih

/-! ## After a failure -/

section Failed

variable {pre post : List LaunchCall} (hatt : (machine.run pre).Attempts call p)
  (hfail : call.starts = false)

include hatt hfail

/-- As long as no other start of `p` is tried the failure is what is kept
of it. -/
theorem lookup_run_of_quiet (hquiet : ∀ m d, m ++ [d] <+: mid →
    ¬ (machine.run (pre ++ call :: m)).Attempts d p) :
    (machine.run (pre ++ call :: mid)).retryByProvider.lookup p =
      some { failures := failuresInRow p (pre ++ [call])
             nextEligibleMs := call.nowMs +
               computeBackoffMs (failuresInRow p (pre ++ [call])) call.jitter } := by
  have hcons : ∀ m : List LaunchCall, pre ++ call :: m = (pre ++ [call]) ++ m := by simp
  rw [← lookup_run_of_failed hatt hfail, lookup_run, lookup_run, hcons,
    own_append fun m d hm => hcons m ▸ hquiet m d hm]

/-- **Not before the wait is over**: the next try, and so every later one,
comes after it. -/
theorem wait_le_of_attempts
    (hclock : (pre ++ call :: post).Pairwise fun a b => a.nowMs ≤ b.nowMs)
    {mid : List LaunchCall} {d : LaunchCall} (hmid : mid ++ [d] <+: post)
    (hd : (machine.run (pre ++ call :: mid)).Attempts d p) :
    call.nowMs + min (250 * 2 ^ min (failuresInRow p (pre ++ [call])) 8) 5000 ≤ d.nowMs := by
  by_cases hquiet : ∀ m e, m ++ [e] <+: mid → ¬ (machine.run (pre ++ call :: m)).Attempts e p
  · have hnext := canAttempt_iff.1 (attempts_iff.1 hd).2 _
      (lookup_run_of_quiet hatt hfail hquiet)
    have hwait := (computeBackoffMs_bounds (failuresInRow p (pre ++ [call])) call.jitter).1
    dsimp only at hnext
    omega
  · -- an earlier try of the stretch has waited already, and the clock does not go back
    push Not at hquiet
    obtain ⟨m, e, hm, he⟩ := hquiet
    have hlt : m.length < mid.length := by
      have := hm.length_le
      simp only [List.length_append, List.length_singleton] at this
      omega
    have hwaited := wait_le_of_attempts hclock (hm.trans ((List.prefix_append _ _).trans hmid)) he
    have hlater : e.nowMs ≤ d.nowMs := by
      obtain ⟨rest, rfl⟩ := hmid
      obtain ⟨mid', rfl⟩ := hm
      have hpost := (List.pairwise_cons.1 (List.pairwise_append.1 hclock).2.1).2
      rw [List.append_assoc] at hpost
      exact (List.pairwise_append.1 hpost).2.2 e (by simp) d (by simp)
    omega
termination_by mid.length

/-- **No later than the jitter beyond it**: the call that selects `p` then
tries to start it. -/
theorem attempts_of_wait_le (hquiet : ∀ m e, m ++ [e] <+: mid →
    ¬ (machine.run (pre ++ call :: m)).Attempts e p) {d : LaunchCall} (hsel : d.Selects p)
    (hwait : call.nowMs + min (250 * 2 ^ min (failuresInRow p (pre ++ [call])) 8) 5000 + 120 ≤
      d.nowMs) : (machine.run (pre ++ call :: mid)).Attempts d p := by
  refine attempts_iff.2 ⟨hsel, canAttempt_iff.2 fun state hstate => ?_⟩
  rw [lookup_run_of_quiet hatt hfail hquiet] at hstate
  obtain rfl := Option.some.inj hstate
  have hbound := (computeBackoffMs_bounds (failuresInRow p (pre ++ [call])) call.jitter).2
  dsimp only
  omega

end Failed

/-- **The backoff.** In every sequence of calls on a clock that does not
go back: after the `k`-th failed start of `p` in a row no start of it is
tried before the wait of `k` is over, and the call that selects it is
tried at the latest the jitter after that; a start that succeeds leaves
nothing to count from; and `p` is tried as if no call had ever tried
another provider. -/
theorem backoff (ins : List LaunchCall) (hclock : ins.Pairwise fun a b => a.nowMs ≤ b.nowMs)
    (p : String) :
    (∀ pre call post, ins = pre ++ call :: post → (machine.run pre).Attempts call p →
      ((machine.run pre).tryLaunch call).1.launched = false →
      (∀ mid d, mid ++ [d] <+: post → (machine.run (pre ++ call :: mid)).Attempts d p →
        call.nowMs + min (250 * 2 ^ min (failuresInRow p (pre ++ [call])) 8) 5000 ≤ d.nowMs) ∧
      ∀ mid d, mid ++ [d] <+: post → d.Selects p →
        (∀ m e, m ++ [e] <+: mid → ¬ (machine.run (pre ++ call :: m)).Attempts e p) →
        call.nowMs + min (250 * 2 ^ min (failuresInRow p (pre ++ [call])) 8) 5000 + 120 ≤
          d.nowMs →
        (machine.run (pre ++ call :: mid)).Attempts d p) ∧
    (∀ pre call post, ins = pre ++ call :: post → (machine.run pre).Attempts call p →
      ((machine.run pre).tryLaunch call).1.launched = true →
      failuresInRow p (pre ++ [call]) = 0 ∧
        (machine.run (pre ++ [call])).retryByProvider.lookup p = none) ∧
    (((machine.run ins).retryByProvider.lookup p).getD {}).failures = failuresInRow p ins ∧
    ∀ d, (machine.run ins).Attempts d p ↔ (machine.run (own p ins)).Attempts d p := by
  refine ⟨?_, ?_, ?_, fun d => (attempts_iff_of_own (own_own p ins)).symm⟩
  · rintro pre call post rfl hatt hlaunched
    have hfail : call.starts = false := (launched_of_attempts hatt).symm.trans hlaunched
    exact ⟨fun mid d hmid hd => wait_le_of_attempts hatt hfail hclock hmid hd,
      fun mid d _ hsel hquiet hwait => attempts_of_wait_le hatt hfail hquiet hsel hwait⟩
  · rintro pre call post - hatt hlaunched
    have hstarts : call.starts = true := (launched_of_attempts hatt).symm.trans hlaunched
    constructor
    · simp [failuresInRow, hatt, hstarts]
    · rw [lookup_run, own_snoc, if_pos hatt, kept_snoc, retried, if_pos hstarts]
  · rw [lookup_run, failures_kept]
    rfl

/-- A call at this time for a provider that never starts. -/
def gtkCall (nowMs : ℤ) (jitter : Fin 121 := 7) : LaunchCall :=
  { manifests := [gtkManifest]
    platform := .ofFiles ["/usr/bin/bb-gtk"]
    nowMs := nowMs
    jitter := jitter
    startProcess := fun _ _ _ => false }

/-- After a first failure the provider is left alone for half a second, and
tried again a jitter later. -/
theorem backoff_first :
    500 ≤ (gtkCall 620).nowMs ∧
      (machine.run [gtkCall 0, gtkCall 100]).Attempts (gtkCall 620) "gtk" := by
  have hbackoff := (backoff [gtkCall 0, gtkCall 100, gtkCall 620] (by decide) "gtk").1 []
    (gtkCall 0) [gtkCall 100, gtkCall 620] rfl (by decide) (by decide)
  have htried : (machine.run [gtkCall 0, gtkCall 100]).Attempts (gtkCall 620) "gtk" := by
    refine hbackoff.2 [gtkCall 100] (gtkCall 620) List.prefix_rfl (by decide) ?_ (by decide)
    intro m e hm
    rcases List.prefix_cons_iff.1 hm with hnil | ⟨rest, heq, hrest⟩
    · simp at hnil
    · obtain ⟨rfl, rfl⟩ : m = [] ∧ e = gtkCall 100 := by
        rw [List.prefix_nil.1 hrest] at heq
        have hsplit := List.append_inj' (show m ++ [e] = [] ++ [gtkCall 100] from heq) rfl
        exact ⟨hsplit.1, List.singleton_inj.1 hsplit.2⟩
      decide
  exact ⟨hbackoff.1 [gtkCall 100] (gtkCall 620) List.prefix_rfl htried, htried⟩

end ProviderLauncher

end BbAuth
