import BbAuth.Flow.Backing
import BbAuth.Polkit.Attempts
/-!
# Winding down

The end of everybody else: clients disconnect, result timers fire, polkit
cancels, and nobody says anything new, in any order. The tables only shrink
on the way, and each of these inputs takes out what it is about for good; so
a daemon whose sessions are all backed is left with none.
-/

namespace BbAuth

open Agent

namespace PolkitListener

variable (W : World) {l : PolkitListener} (a : Agent) (c : String)

/-- **Only a new request is taken up.** -/
theorem Healthy.settles_of_not_initiate (w : l.Healthy) (hu : l.Ungained) {call : Call}
    (hn : ∀ a, call ≠ .elsewhere a) (hi : ∀ actionId message iconName details cookie identities,
      call ≠ .initiateAuthentication actionId message iconName details cookie identities) :
    SettlesAs c (Reported l c call) (l, a) (PolkitListener.call W (l, a) call) := by
  cases call with
  | initiateAuthentication actionId message iconName details cookie identities =>
      exact absurd rfl (hi actionId message iconName details cookie identities)
  | cancelAuthentication => exact w.settles_cancelAuthentication W a c hu
  | request session text echo => exact w.settles_onSessionRequest a c session text echo
  | completed session gained => exact w.settles_onSessionCompleted W a c session gained
  | showError session text => exact w.settles_onSessionError a c session text
  | showInfo session text => exact w.settles_onSessionInfo a c session text
  | submitPassword cookie pass => exact w.settles_submitPassword a c cookie pass
  | cancelPending cookie => exact w.settles_cancelPending W a c hu cookie
  | elsewhere a => exact absurd rfl (hn a)

variable {c} in
theorem SettlesAs.shrinks {R : Session.Result → Prop} {s s' : PolkitListener × Agent}
    (h : SettlesAs c R s s') (hc : s'.1.cookieToState.contains c = true) :
    s.1.cookieToState.contains c = true := by
  rcases h with ⟨-, heq⟩ | ⟨-, -, hbefore, -⟩
  · rwa [← heq]
  · exact hbefore

/-- **`cancelAuthentication` leaves no request.** -/
theorem Healthy.contains_cancelAuthentication (w : l.Healthy) :
    (l.cancelAuthentication W a).1.cookieToState.contains c = false := by
  obtain ⟨-, -, hgone⟩ := w.cancelAuthentication_cases (W := W) a
  rw [Table.contains_eq_false]
  intro hmem
  obtain ⟨h, hc⟩ := Table.mem_iff_exists.1 hmem
  obtain ⟨st, hst, -⟩ := (w.cancelAuthentication W a).linked.state_of_cookie c h hc
  exact absurd (hst.symm.trans (hgone h)) (Option.some_ne_none st)

/-- **Without cookies there is no state and no session**: the three tables
of the listener speak of the same requests. -/
theorem Linked.empty (w : l.Linked) (hc : l.cookieToState = ∅) :
    l.states = ∅ ∧ l.sessionToState = ∅ := by
  have hstates : ∀ h, l.states.lookup h = none := by
    intro h
    refine Option.eq_none_iff_forall_ne_some.2 fun st hst => ?_
    -- a state is listed under its cookie
    have hcookie := w.cookie_of_state h st hst
    exact absurd (hcookie.symm.trans (Table.eq_empty_iff.1 hc _)) (Option.some_ne_none h)
  refine ⟨Table.eq_empty_iff.2 hstates, Table.eq_empty_iff.2 fun s => ?_⟩
  refine Option.eq_none_iff_forall_ne_some.2 fun h hs => ?_
  obtain ⟨st, hst, -⟩ := w.state_of_session s h hs
  exact absurd (hst.symm.trans (hstates h)) (Option.some_ne_none st)

end PolkitListener

namespace Daemon

variable (W : World) {d d' d'' : Daemon} {i : Input}

/-- **An input that brings nothing new**: no message, no client and no
request of polkit. -/
def Winds : Input → Prop
  | .line .. | .newConnection .. | .initiateAuthentication .. => False
  | _ => True

/-- **Nothing is added** to what sessions are backed by. -/
structure Dwindles (d d' : Daemon) : Prop where
  clients : ∀ s ∈ d'.agent.clients, s ∈ d.agent.clients
  timers : ∀ t c, d'.pinentryManager.activeTimers.lookup t = some c →
    d.pinentryManager.activeTimers.lookup t = some c
  polkit : ∀ c, d'.listener.cookieToState.contains c = true →
    d.listener.cookieToState.contains c = true
  safe : d'.listener.useAfterFree = false

theorem Dwindles.refl (hs : d.listener.useAfterFree = false) : Dwindles d d :=
  ⟨fun _ => id, fun _ _ => id, fun _ => id, hs⟩

theorem Dwindles.trans (h : Dwindles d d') (h' : Dwindles d' d'') : Dwindles d d'' where
  clients s hs := h.clients s (h'.clients s hs)
  timers t c ht := h.timers t c (h'.timers t c ht)
  polkit c hc := h.polkit c (h'.polkit c hc)
  safe := h'.safe

/-- A message is no such input. -/
theorem not_winds_of_message {type : MessageType} {socket : Socket} {msg : QJsonObject}
    (hm : d.message? i = some (type, socket, msg)) : ¬ Winds i := by
  rw [(message?_cases hm).1]
  exact id

/-- The calls of such inputs take up no request, and cancel none alone. -/
theorem Winds.listenerCall? (hw : Winds i) {call : PolkitListener.Call}
    (hc : d.listenerCall? i = some call) :
    (∀ actionId message iconName details cookie identities,
        call ≠ .initiateAuthentication actionId message iconName details cookie identities) ∧
      ∀ cookie, call ≠ .cancelPending cookie := by
  unfold Daemon.listenerCall? at hc
  split at hc
  · cases hc
  cases i with
  | line socket doc => exact hw.elim
  | initiateAuthentication actionId message iconName details cookie identities => exact hw.elim
  | newConnection socket peerPid => exact hw.elim
  | closing socket => cases hc
  | disconnected socket => cases hc
  | providerMaintenance => cases hc
  | pinentryTimeout timer => cases hc
  | cancelAuthentication => cases hc; exact ⟨fun _ _ _ _ _ _ => nofun, fun _ => nofun⟩
  | request session text echo => cases hc; exact ⟨fun _ _ _ _ _ _ => nofun, fun _ => nofun⟩
  | completed session gained => cases hc; exact ⟨fun _ _ _ _ _ _ => nofun, fun _ => nofun⟩
  | showError session text => cases hc; exact ⟨fun _ _ _ _ _ _ => nofun, fun _ => nofun⟩
  | showInfo session text => cases hc; exact ⟨fun _ _ _ _ _ _ => nofun, fun _ => nofun⟩

/-- **One such input adds nothing.** -/
theorem dwindles_step (hh : d.Heaped) (hck : d.pinentryManager.Clocked)
    (hs : d.listener.useAfterFree = false) (hw : Winds i) : Dwindles d (d.step W i) := by
  cases turn_step W d i with
  | same h' =>
      refine ⟨?_, ?_, ?_, by rw [h'.listener, hs]⟩
      · rw [h'.agent.clients]
        exact fun _ => id
      · rw [h'.pinentryManager]
        exact fun _ _ => id
      · rw [h'.listener]
        exact fun _ => id
  | connected socket peerPid hi hn h' =>
      rw [hi] at hw
      exact hw.elim
  | closing socket client hi hc h' =>
      rw [h']
      refine ⟨fun s hmem => ?_, fun _ _ => id, fun _ => id, hs⟩
      rcases (AList.mem_insert _).1 hmem with rfl | hmem
      · exact Table.mem_iff_exists.2 ⟨client, hc⟩
      · exact hmem
  | keyringRequest socket msg hm h' => exact absurd hw (not_winds_of_message hm)
  | keyringAnswer socket msg hm r hr h' => exact absurd hw (not_winds_of_message hm)
  | keyringCancel socket msg hm r hr h' => exact absurd hw (not_winds_of_message hm)
  | pinentryRequest socket msg hm h' => exact absurd hw (not_winds_of_message hm)
  | pinentryAnswer socket msg hm ha hk r hr h' => exact absurd hw (not_winds_of_message hm)
  | pinentryResult socket msg hm h' => exact absurd hw (not_winds_of_message hm)
  | pinentryCancel socket msg hm h' => exact absurd hw (not_winds_of_message hm)
  | pinentryTimeout timer hi h' =>
      rw [h']
      refine ⟨fun s hmem => ?_, fun t c ht => (hck.armed_onTimeout W timer ht).1, fun _ => id, hs⟩
      rwa [withPinentry, (PinentryManager.calls_onTimeout W d.agent _ timer).clients] at hmem
  | disconnected socket hi h' =>
      refine ⟨fun s hmem => ?_, fun t c ht => ?_, ?_, by rw [h'.listener]; exact hs⟩
      · rw [h'.agent.clients, clients_cleaned] at hmem
        exact (AList.mem_erase.1 hmem).2
      · rw [h'.pinentryManager] at ht
        exact hck.lookup_closeAll W _ _ ht
      · rw [h'.listener]
        exact fun _ => id
  | listener call hn hs' h' hi =>
      obtain ⟨hnew, hpend⟩ := hw.listenerCall? hi
      obtain ⟨w, hu⟩ := hh hs
      refine ⟨fun s hmem => ?_, ?_, fun c hc => ?_, ?_⟩
      · rwa [h'.agent.clients, withListener,
          (PolkitListener.calls_call d.listener d.agent hn).clients] at hmem
      · rw [h'.pinentryManager]
        exact fun _ _ => id
      · rw [h'.listener] at hc
        exact (w.settles_of_not_initiate W d.agent c hu hn hnew).shrinks hc
      · rw [h'.listener]
        refine ((w.call W (s := (d.listener, d.agent)) call).1 ?_).safe
        cases call with
        | cancelPending cookie => exact absurd rfl (hpend cookie)
        | _ => trivial

/-! ## What each takes out -/

/-- **What the input is about is gone.** -/
def Spent (d : Daemon) : Input → Prop
  | .disconnected socket => socket ∉ d.agent.clients
  | .pinentryTimeout timer => d.pinentryManager.activeTimers.lookup timer = none
  | .cancelAuthentication => ∀ c, d.listener.cookieToState.contains c = false
  | _ => True

theorem Spent.of_dwindles (h : Spent d i) (hd : Dwindles d d') : Spent d' i := by
  cases i with
  | disconnected socket => exact fun hmem => h (hd.clients socket hmem)
  | pinentryTimeout timer =>
      refine Option.eq_none_iff_forall_ne_some.2 fun c ht => ?_
      exact absurd ((hd.timers timer c ht).symm.trans h) (Option.some_ne_none c)
  | cancelAuthentication =>
      intro c
      by_contra hc
      have hbefore := hd.polkit c (Bool.not_eq_false _ ▸ hc)
      rw [h c] at hbefore
      cases hbefore
  | _ => trivial

theorem spent_step (hh : d.Heaped) (hck : d.pinentryManager.Clocked)
    (hs : d.listener.useAfterFree = false) (i : Input) : Spent (d.step W i) i := by
  have hstep : d.step W i = d.handle W i := by simp [step, hs]
  cases i with
  | disconnected socket =>
      intro hmem
      rw [hstep] at hmem
      simp only [handle] at hmem
      split at hmem
      · rw [(same_onClientDisconnected (W := W) socket).agent.clients, clients_cleaned] at hmem
        exact (AList.mem_erase.1 hmem).1 rfl
      next hv => exact hv (Table.contains_eq_true.2 hmem)
  | pinentryTimeout timer =>
      refine Option.eq_none_iff_forall_ne_some.2 fun c ht => ?_
      rw [hstep] at ht
      obtain ⟨hlook, hne⟩ := hck.armed_onTimeout W timer ht
      exact hne hlook
  | cancelAuthentication =>
      intro c
      rw [hstep]
      exact (hh hs).1.contains_cancelAuthentication W d.agent c
  | _ => trivial

/-- **A run that winds down** adds nothing to what it began with, and spends
each of its inputs. -/
theorem winding_run {ins post : List Input}
    (hs : ((machine W).run ins).listener.useAfterFree = false) (hw : ∀ i ∈ post, Winds i) :
    Dwindles ((machine W).run ins) ((machine W).run (ins ++ post)) ∧
      ∀ i ∈ post, Spent ((machine W).run (ins ++ post)) i := by
  induction post using List.reverseRecOn with
  | nil =>
      rw [List.append_nil]
      exact ⟨.refl hs, fun i hi => absurd hi List.not_mem_nil⟩
  | append_singleton post j ih =>
      obtain ⟨hd, hspent⟩ := ih fun i hi => hw i (List.mem_append_left _ hi)
      have hj : Winds j := hw j (List.mem_append_right _ List.mem_cons_self)
      have hrun : (machine W).run (ins ++ (post ++ [j])) =
          ((machine W).run (ins ++ post)).step W j := by
        rw [← List.append_assoc, Machine.run_snoc]
        rfl
      have hh := heaped_run W (ins ++ post)
      have hck := clocked_run W (ins ++ post)
      have hlast := dwindles_step W hh hck hd.safe hj
      rw [hrun]
      refine ⟨hd.trans hlast, fun i hi => ?_⟩
      rcases List.mem_append.1 hi with hi | hi
      · exact (hspent i hi).of_dwindles hlast
      · obtain rfl := List.mem_singleton.1 hi
        exact spent_step W hh hck hd.safe i

/-! ## Nothing is left -/

/-- **Nothing is left** of anybody's requests. -/
structure Drained (d : Daemon) : Prop where
  sessions : d.agent.sessionStore.empty = true
  clients : d.agent.clients = ∅
  keyring : d.keyringManager.pendingRequests = ∅
  pending : d.pinentryManager.pendingRequests = ∅
  awaiting : d.pinentryManager.awaitingOutcome = ∅
  timers : d.pinentryManager.activeTimers = ∅
  cookieToState : d.listener.cookieToState = ∅
  states : d.listener.states = ∅
  sessionToState : d.listener.sessionToState = ∅

/-- **Where nobody is left to back a session there is none.** -/
theorem drained_of_backed {ins : List Input} (hb : ∀ c, Backed c ((machine W).run ins))
    (hs : ((machine W).run ins).listener.useAfterFree = false)
    (hcl : ∀ s, s ∉ ((machine W).run ins).agent.clients)
    (ht : ∀ t, ((machine W).run ins).pinentryManager.activeTimers.lookup t = none)
    (hp : ∀ c, ((machine W).run ins).listener.cookieToState.contains c = false) :
    Drained ((machine W).run ins) := by
  have hkeyring : ∀ c, ((machine W).run ins).keyringManager.pendingRequests.lookup c = none := by
    intro c
    refine Option.eq_none_iff_forall_ne_some.2 fun request hr => ?_
    exact hcl _ (bound_run W ins c request hr)
  have hpending : ∀ c, ((machine W).run ins).pinentryManager.pendingRequests.lookup c = none := by
    intro c
    refine Option.eq_none_iff_forall_ne_some.2 fun request hr => ?_
    obtain ⟨client, hc, -⟩ := attended_run W ins c request hr
    exact hcl _ (Table.mem_iff_exists.2 ⟨client, hc⟩)
  have hawaiting : ∀ c, ((machine W).run ins).pinentryManager.awaitingOutcome.lookup c = none := by
    intro c
    refine Option.eq_none_iff_forall_ne_some.2 fun awaiting ha => ?_
    have harmed := (clocked_run W ins).armed c awaiting ha
    exact absurd (harmed.symm.trans (ht _)) (Option.some_ne_none c)
  have hclosed : ∀ c, ((machine W).run ins).agent.getSession c = none := by
    intro c
    rw [getSession_eq_none, Option.eq_none_iff_forall_ne_some]
    intro source hs
    cases source with
    | polkit => exact absurd ((hb c).polkit hs) (by simp [hp c])
    | keyring =>
        obtain ⟨request, hr, -⟩ := (hb c).keyring hs
        exact absurd (hr.symm.trans (hkeyring c)) (Option.some_ne_none request)
    | pinentry =>
        rcases (hb c).pinentry hs with ⟨request, -, hr, -⟩ | ⟨awaiting, ha, -⟩
        · exact absurd (hr.symm.trans (hpending c)) (Option.some_ne_none request)
        · exact absurd (ha.symm.trans (hawaiting c)) (Option.some_ne_none awaiting)
  have hcookies : ((machine W).run ins).listener.cookieToState = ∅ :=
    Table.eq_empty_iff.2 fun c => AList.lookup_eq_none.2 (Table.contains_eq_false.1 (hp c))
  obtain ⟨hstates, hsessions⟩ := (heaped_run W ins hs).1.linked.empty hcookies
  refine ⟨?_, Table.eq_empty_iff.2 fun s => AList.lookup_eq_none.2 (hcl s),
    Table.eq_empty_iff.2 hkeyring, Table.eq_empty_iff.2 hpending,
    Table.eq_empty_iff.2 hawaiting, Table.eq_empty_iff.2 ht, hcookies, hstates, hsessions⟩
  have hempty := Table.eq_empty_iff.2 hclosed
  rw [SessionStore.empty, hempty]
  rfl

/-- **The daemon can always be wound down.** Take a run in which no message
cut a session loose, and after which the process stands: no state of the
listener was used after it was freed. However it is followed by inputs that bring nothing new,
once among them are the disconnect of every client, the timeout of every
armed timer and a `cancelAuthentication`, no session is open and no request
is left anywhere. -/
theorem drained_of_winding {ins post : List Input}
    (hm : (machine W).Meets (fun d i => ¬ CutsLoose W d i) ins)
    (hs : ((machine W).run ins).listener.useAfterFree = false) (hw : ∀ i ∈ post, Winds i)
    (hclients : ∀ s ∈ ((machine W).run ins).agent.clients, .disconnected s ∈ post)
    (htimers : ∀ t ∈ ((machine W).run ins).pinentryManager.activeTimers,
      .pinentryTimeout t ∈ post)
    (hpolkit : .cancelAuthentication ∈ post) : Drained ((machine W).run (ins ++ post)) := by
  obtain ⟨hd, hspent⟩ := winding_run W hs hw
  have hmeets : (machine W).Meets (fun d i => ¬ CutsLoose W d i) (ins ++ post) := by
    clear hclients htimers hpolkit hd hspent
    induction post using List.reverseRecOn with
    | nil => rwa [List.append_nil]
    | append_singleton post j ih =>
        rw [← List.append_assoc, Machine.meets_snoc]
        refine ⟨ih fun i hi => hw i (List.mem_append_left _ hi), ?_⟩
        have hj : Winds j := hw j (List.mem_append_right _ List.mem_cons_self)
        rintro (⟨socket, msg, hmsg, -⟩ | ⟨socket, msg, hmsg, -⟩) <;>
          exact not_winds_of_message hmsg hj
  refine drained_of_backed W (backed_run W hmeets) hd.safe (fun s hmem => ?_) (fun t => ?_)
    (hspent _ hpolkit)
  · exact hspent _ (hclients s (hd.clients s hmem)) hmem
  · refine Option.eq_none_iff_forall_ne_some.2 fun c hc => ?_
    have hmem := Table.mem_iff_exists.2 ⟨c, hd.timers t c hc⟩
    exact absurd (hc.symm.trans (hspent _ (htimers t hmem))) (Option.some_ne_none c)

/-! ## A run wound down -/

/-- Only a report and a keyring request cut a session loose. -/
theorem not_cutsLoose {m : Option (MessageType × Socket × QJsonObject)} (hm : d.message? i = m)
    (ht : m.map Prod.fst ≠ some .pinentryResult ∧ m.map Prod.fst ≠ some .keyringRequest) :
    ¬ CutsLoose W d i := by
  subst hm
  rintro (⟨socket, msg, hm, -⟩ | ⟨socket, msg, hm, -⟩)
  · exact ht.1 (by rw [hm]; rfl)
  · exact ht.2 (by rw [hm]; rfl)

/-- A passphrase is asked for and given, and a polkit request is under
way. -/
def given : List Input :=
  [.newConnection 1 100, askLine 1 "c",
    .line 1 (some [("type", "session.respond"), ("id", "c"), ("response", "secret")]),
    .initiateAuthentication "action" "message" "icon" [] "p" ["user"]]

/-- The client leaves, polkit cancels and the timer fires. -/
theorem drained_of_winding_given :
    Drained ((machine (World.plain (fun _ => 0) false)).run
      (given ++ [.disconnected 1, .cancelAuthentication, .pinentryTimeout 0])) := by
  have hm : (machine (World.plain (fun _ => 0) false)).Meets
      (fun d i => ¬ CutsLoose (World.plain (fun _ => 0) false) d i) given := by
    refine Machine.meets_iff_forall_fin.2 fun k => not_cutsLoose _ rfl ?_
    revert k
    decide
  refine drained_of_winding _ hm (by decide) (fun i hi => ?_) (fun s hs => ?_) (fun t ht => ?_)
    (by simp)
  · simp only [List.mem_cons, List.not_mem_nil, or_false] at hi
    rcases hi with rfl | rfl | rfl <;> trivial
  · have hone : ∀ s ∈ ((machine (World.plain (fun _ => 0) false)).run
        given).agent.clients.keys, s = 1 := by decide
    simp [hone s hs]
  · have hone : ∀ t ∈ ((machine (World.plain (fun _ => 0) false)).run
        given).pinentryManager.activeTimers.keys, t = 0 := by decide
    simp [hone t ht]

end Daemon

end BbAuth
