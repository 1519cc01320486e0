import BbAuth.Flow.Listener
import BbAuth.Flow.Managers
/-!
# Every input moves every flow by one operation

The step lemma of the flows, and what follows from it for all runs: the
tables agree under every id, and a pending request is bound to a client
the daemon still knows, with the pid it had when it asked.
-/

namespace BbAuth

open Agent

namespace Daemon

variable (W : World) {d d' : Daemon} {i : Input} (c : String)

/-- **The listener's heap is healthy and no live state has gained its
authorization**, or the heap has been used after free. -/
def Heaped (d : Daemon) : Prop :=
  d.listener.useAfterFree = false → d.listener.Healthy ∧ d.listener.Ungained

theorem Heaped.step (h : d.Heaped) (i : Input) : (d.step W i).Heaped := by
  intro hs'
  cases turn_step W d i with
  | same h' => exact h'.listener ▸ h (h'.listener ▸ hs')
  | connected socket peerPid hi hn h' =>
      rw [h'] at hs' ⊢
      exact h hs'
  | closing socket client hi hc h' =>
      rw [h'] at hs' ⊢
      exact h hs'
  | keyringRequest socket msg hm h' =>
      rw [h'] at hs' ⊢
      exact h hs'
  | keyringAnswer socket msg hm r hr h' => exact h'.listener ▸ h (h'.listener ▸ hs')
  | keyringCancel socket msg hm r hr h' => exact h'.listener ▸ h (h'.listener ▸ hs')
  | pinentryRequest socket msg hm h' =>
      rw [h'] at hs' ⊢
      exact h hs'
  | pinentryAnswer socket msg hm ha hk r hr h' => exact h'.listener ▸ h (h'.listener ▸ hs')
  | pinentryResult socket msg hm h' => exact h'.listener ▸ h (h'.listener ▸ hs')
  | pinentryCancel socket msg hm h' => exact h'.listener ▸ h (h'.listener ▸ hs')
  | pinentryTimeout timer hi h' =>
      rw [h'] at hs' ⊢
      exact h hs'
  | disconnected socket hi h' => exact h'.listener ▸ h (h'.listener ▸ hs')
  | listener call hn hs h' =>
      -- the listener leaves the request of `c` alone, ends it, or takes one up
      obtain ⟨w, hu⟩ := h hs
      obtain ⟨hgood, hbad⟩ := w.call W (s := (d.listener, d.agent)) call
      rw [h'.listener] at hs' ⊢
      by_cases hc : PolkitListener.CancelsInTime W (d.listener, d.agent) call
      · exact ⟨hgood hc, w.ungained_call W d.agent hu call⟩
      · rw [withListener, hbad hc] at hs'
        cases hs'

theorem heaped_run (ins : List Input) : ((machine W).run ins).Heaped :=
  Machine.invariant (I := Heaped)
    (fun _ => ⟨PolkitListener.healthy_init, PolkitListener.ungained_init⟩)
    (fun _ i h => h.step W i) ins

/-! ## The step lemma -/

/-- **A disconnect** takes along, under every id, what waited on its
socket. -/
theorem flow_cleaned (socket : Socket) :
    (d.cleaned W socket).flow c = ((d.flow c).keyringLeft socket).pinentryLeft socket := by
  have ha : (d.withAgent (d.forget W socket)).flow c = d.flow c :=
    Same.flow (d := d.withAgent (d.agent.setClients (d.agent.clients.erase socket))) c
      ⟨silent_forgetClient W _ socket, rfl, rfl, rfl⟩
  have hk := flow_keyringCleanup W d c (d.forget W socket) socket
  rw [ha] at hk
  rw [← hk]
  exact flow_pinentryCleanup W
    (d.withKeyring (d.keyringManager.cleanupForSocket W (d.forget W socket) socket)) c
    (d.keyringManager.cleanupForSocket W (d.forget W socket) socket).2 socket

/-- And the client itself. -/
theorem clients_cleaned (socket : Socket) :
    (d.cleaned W socket).agent.clients = d.agent.clients.erase socket :=
  ((PinentryManager.calls_cleanupForSocket W _ _ socket).clients.trans
    (KeyringManager.calls_cleanupForSocket W _ _ socket).clients).trans
      (silent_forgetClient W _ socket).clients

/-- **The step lemma.** One input moves the flow of an id by one
operation, or leaves it alone. -/
theorem flowStep (h : d.Heaped) (i : Input) : FlowStep W d c i ((d.step W i).flow c) := by
  cases turn_step W d i with
  | same h' => exact h'.flow c ▸ .stay
  | connected socket peerPid hi hn h' => exact h' ▸ .stay
  | closing socket client hi hc h' => exact h' ▸ .stay
  | keyringRequest socket msg hm h' =>
      rw [h', flow_keyringRequest]
      split
      next hc => exact .keyringRequest socket msg hm hc.symm
      · exact .stay
  | keyringAnswer socket msg hm r hr h' =>
      rw [h'.flow, flow_keyringAnswer W d c _ _ hr]
      split
      next hc => exact .keyringEnd _ (by rw [hc]; exact Option.isSome_of_mem hr)
      · exact .stay
  | keyringCancel socket msg hm r hr h' =>
      rw [h'.flow, flow_keyringCancel W d c _ hr]
      split
      next hc => exact .keyringEnd _ (by rw [hc]; exact Option.isSome_of_mem hr)
      · exact .stay
  | pinentryRequest socket msg hm h' =>
      rw [h']
      rcases flow_pinentryRequest W d c msg socket with ⟨-, heq⟩ | ⟨⟨hc, ho⟩, heq⟩
      · exact heq ▸ .stay
      · exact heq ▸ .pinentryRequest socket msg hm hc ho
  | pinentryAnswer socket msg hm ha hk r hr h' =>
      rw [h'.flow, flow_pinentryAnswer d c _ _ hr]
      split
      next hc =>
        subst hc
        exact .pinentryAnswer socket msg hm ha rfl hk r hr
      · exact .stay
  | pinentryResult socket msg hm h' =>
      rw [h'.flow]
      -- a report is final or asks for a retry, and only its owner's counts
      rcases flow_pinentryResult W d c msg (d.agent.getPeerPid socket) with
        heq | ⟨hc, ho, hs, ⟨r, hr, heq⟩ | ⟨hr, heq⟩⟩
      · exact heq ▸ .stay
      · exact heq ▸ .pinentryResult socket msg hm hc ho hs r hr
      · exact heq ▸ .pinentryRetry socket msg hm hc ho hs hr
  | pinentryCancel socket msg hm h' =>
      rw [h'.flow, flow_closeFlow]
      split
      · exact .pinentryEnd .cancelled (by decide)
      · exact .stay
  | pinentryTimeout timer hi h' =>
      rw [h']
      rcases flow_pinentryTimeout W d c timer with heq | heq
      · exact heq ▸ .stay
      · exact heq ▸ .pinentryEnd .error (by decide)
  | disconnected socket hi h' =>
      rw [h'.flow, flow_cleaned]
      exact .disconnected socket hi
  | listener call hn hs h' hi =>
      obtain ⟨w, hu⟩ := h hs
      rw [h'.flow]
      rcases w.settles_call W d.agent c hu call hn with
        (⟨hl, hc⟩ | ⟨r, hr, hc, hc', hl⟩) | ⟨hs, hl, hc⟩
      · have heq : (d.withListener (PolkitListener.call W (d.listener, d.agent) call)).flow c =
            d.flow c := by simp [Daemon.flow, withListener, hl, hc]
        exact heq ▸ .stay
      · have heq : (d.withListener (PolkitListener.call W (d.listener, d.agent) call)).flow c =
            (d.flow c).polkitClosed r := by
          simp [Daemon.flow, withListener, Flow.polkitClosed, hl, hc']
        exact heq ▸ .polkitEnd r hc ⟨call, hi, hr⟩
      · have heq : (d.withListener (PolkitListener.call W (d.listener, d.agent) call)).flow c =
            (d.flow c).polkitAsked := by
          simp [Daemon.flow, withListener, Flow.polkitAsked, hl, hc]
        exact heq ▸ .polkitRequest hs

/-- A flow of the run, one input on. -/
theorem flowStep_run (ins : List Input) (i : Input) :
    FlowStep W ((machine W).run ins) c i (((machine W).run (ins ++ [i])).flow c) := by
  rw [Machine.run_snoc]
  exact flowStep W c (heaped_run W ins) i

/-! ## The tables agree -/

variable {W c} in
theorem FlowStep.sane {f : Flow} (h : FlowStep W d c i f) (hs : (d.flow c).Sane c) : f.Sane c := by
  cases h with
  | stay => exact hs
  | keyringRequest socket msg hm hc => exact hs.keyringAsked _
  | keyringEnd r hk => exact hs.keyringClosed hk r
  | pinentryRequest socket msg hm hc ho =>
      refine hs.pinentryAsked ?_
      rw [← hc]
      exact PinentryManager.readRequest_cookie_ne W d.agent msg socket _
  | pinentryAnswer socket msg hm ha hc hk r hp => exact hs.pinentryAnswered r _
  | pinentryResult socket msg hm hc ho hsrc r hr => exact hs.pinentryClosed r
  | pinentryRetry socket msg hm hc ho hsrc hr => exact hs.pinentryRetried
  | pinentryEnd r hr => exact hs.pinentryClosed r
  | disconnected socket hi => exact (hs.keyringLeft socket).pinentryLeft socket
  | polkitRequest hsrc => exact hs.polkitAsked hsrc
  | polkitEnd r hp => exact hs.polkitClosed hp r

/-- **In every state a run reaches, the tables agree under every id.** -/
theorem sane_run (ins : List Input) (c : String) : (((machine W).run ins).flow c).Sane c := by
  refine Machine.history_invariant (J := fun ins => (((machine W).run ins).flow c).Sane c) ?_
    (fun ins i h => (flowStep_run W c ins i).sane h) ins
  constructor <;>
    simp [machine, Daemon.flow, Agent.life, Agent.getSession, SessionStore.getSession,
      Table.contains]

/-! ## The clients of pending requests -/

/-- **What an input does to the table of clients.** -/
inductive ClientsStep (d : Daemon) (i : Input) : Table Socket Client → Prop
  | same : ClientsStep d i d.agent.clients
  | connected (socket : Socket) (peerPid : Pid) (hi : i = .newConnection socket peerPid)
      (hn : socket ∉ d.agent.clients) :
      ClientsStep d i (d.agent.clients.insert socket { peerPid := peerPid })
  | closing (socket : Socket) (client : Client) (hi : i = .closing socket)
      (hc : d.agent.clients.lookup socket = some client) :
      ClientsStep d i (d.agent.clients.insert socket { client with state := .closing })
  | disconnected (socket : Socket) (hi : i = .disconnected socket) :
      ClientsStep d i (d.agent.clients.erase socket)

theorem clients_step (i : Input) : ClientsStep d i (d.step W i).agent.clients := by
  have hsame : (d.step W i).agent.clients = d.agent.clients →
      ClientsStep d i (d.step W i).agent.clients := fun h => h ▸ .same
  cases turn_step W d i with
  | same h' => exact hsame h'.agent.clients
  | connected socket peerPid hi hn h' =>
      rw [h']
      exact .connected socket peerPid hi hn
  | closing socket client hi hc h' =>
      rw [h']
      exact .closing socket client hi hc
  | keyringRequest socket msg hm h' =>
      refine hsame ?_
      rw [h']
      exact (KeyringManager.calls_handleRequest W d.agent _ msg socket _).clients
  | keyringAnswer socket msg hm r hr h' =>
      exact hsame (h'.agent.clients.trans
        (KeyringManager.calls_handleResponse W d.agent _ _ _).clients)
  | keyringCancel socket msg hm r hr h' =>
      exact hsame (h'.agent.clients.trans (KeyringManager.calls_handleCancel W d.agent _ _).clients)
  | pinentryRequest socket msg hm h' =>
      refine hsame ?_
      rw [h']
      exact (PinentryManager.calls_handleRequest W d.agent _ msg socket _).clients
  | pinentryAnswer socket msg hm ha hk r hr h' => exact hsame h'.agent.clients
  | pinentryResult socket msg hm h' =>
      exact hsame (h'.agent.clients.trans
        (PinentryManager.calls_handleResult W d.agent _ msg _).clients)
  | pinentryCancel socket msg hm h' =>
      exact hsame (h'.agent.clients.trans
        (PinentryManager.calls_closeFlow W d.agent d.pinentryManager _ _ _).clients)
  | pinentryTimeout timer hi h' =>
      refine hsame ?_
      rw [h']
      exact (PinentryManager.calls_onTimeout W d.agent _ timer).clients
  | disconnected socket hi h' =>
      have hcl := h'.agent.clients.trans (clients_cleaned W socket)
      exact hcl ▸ .disconnected socket hi
  | listener call hn hs h' =>
      exact hsame (h'.agent.clients.trans (PolkitListener.calls_call d.listener d.agent hn).clients)

/-- **A client stays until its disconnect**, with the pid it came with. -/
theorem peer_step {socket : Socket} {client : Client}
    (hc : d.agent.clients.lookup socket = some client) (hi : i ≠ .disconnected socket) :
    ∃ client', (d.step W i).agent.clients.lookup socket = some client' ∧
      client'.peerPid = client.peerPid := by
  have hstep := clients_step W (d := d) i
  generalize (d.step W i).agent.clients = t at hstep
  cases hstep with
  | same => exact ⟨client, hc, rfl⟩
  | connected socket' peerPid hi' hn =>
      have hne : socket ≠ socket' := by
        rintro rfl
        exact hn (Table.mem_iff_exists.2 ⟨client, hc⟩)
      exact ⟨client, by simp [hne, hc], rfl⟩
  | closing socket' client' hi' hc' =>
      by_cases hs : socket = socket'
      · subst hs
        obtain rfl : client' = client := Option.some.inj (hc'.symm.trans hc)
        exact ⟨{ client' with state := .closing }, by simp, rfl⟩
      · exact ⟨client, by simp [hs, hc], rfl⟩
  | disconnected socket' hi' =>
      have hne : socket ≠ socket' := by
        rintro rfl
        exact hi hi'
      exact ⟨client, by simp [hne, hc], rfl⟩

/-- **A client that is connected was so before**, if it was known. -/
theorem connected_of_step {socket : Socket} (hc : socket ∈ d.agent.clients)
    (h : (d.step W i).agent.isConnected socket = true) : d.agent.isConnected socket = true := by
  have hstep := clients_step W (d := d) i
  simp only [Agent.isConnected] at h ⊢
  generalize (d.step W i).agent.clients = t at hstep h
  cases hstep with
  | same => exact h
  | connected socket' peerPid hi hn =>
      have hne : socket ≠ socket' := by
        rintro rfl
        exact hn hc
      simpa [hne] using h
  | closing socket' client hi hl =>
      by_cases hs : socket = socket'
      · simp [hs] at h
      · simpa [hs] using h
  | disconnected socket' hi =>
      by_cases hs : socket = socket'
      · simp [hs] at h
      · simpa [hs] using h

/-- **The flow of `c` waits on a client the daemon knows**, whose pid is
the one the request came with. -/
def Attended (d : Daemon) (c : String) : Prop :=
  ∀ request, (d.flow c).pending = some request →
    ∃ client, d.agent.clients.lookup request.socket = some client ∧
      client.peerPid = request.peerPid

/-- The sender of a message is a client. -/
theorem client_of_message {type : MessageType} {socket : Socket} {msg : QJsonObject}
    (hm : d.message? i = some (type, socket, msg)) :
    ∃ client, d.agent.clients.lookup socket = some client ∧
      client.peerPid = d.agent.getPeerPid socket := by
  obtain ⟨-, -, hv, -⟩ := message?_cases hm
  obtain ⟨client, hc⟩ := Table.mem_iff_exists.1 (Table.contains_eq_true.1 hv)
  exact ⟨client, hc, by simp [Agent.getPeerPid, hc]⟩

theorem not_disconnected_of_message {type : MessageType} {socket s : Socket} {msg : QJsonObject}
    (hm : d.message? i = some (type, socket, msg)) : i ≠ .disconnected s := by
  rw [(message?_cases hm).1]
  exact Input.noConfusion

variable {c} in
/-- After a disconnect no request of the socket is pending. -/
theorem Attended.disconnected (h : d.Attended c) (socket : Socket) :
    (d.step W (.disconnected socket)).Attended c := by
  rcases step_disconnected W d socket with heq | hsame
  · rwa [heq]
  intro request hr
  rw [hsame.flow, flow_cleaned] at hr
  obtain ⟨hk, -⟩ := (d.flow c).keyringLeft_pinentry socket
  unfold Flow.pinentryLeft at hr
  split at hr
  · cases hr
  next hs =>
    rw [hk] at hr hs
    obtain ⟨client, hc, hpid⟩ := h request hr
    have hne : request.socket ≠ socket := by
      rintro rfl
      exact hs (by rw [hr]; rfl)
    obtain ⟨client', hc', hpid'⟩ := peer_step W hc (i := .disconnected socket) <| by
      rintro he
      exact hne (Input.disconnected.inj he).symm
    exact ⟨client', hc', hpid'.trans hpid⟩

variable {c} in
theorem Attended.step (hh : d.Heaped) (h : d.Attended c) (i : Input) :
    (d.step W i).Attended c := by
  by_cases hi : ∃ socket, i = .disconnected socket
  · obtain ⟨socket, rfl⟩ := hi
    exact h.disconnected W socket
  intro request hr
  -- a request that was pending before is still attended
  have hold : (d.flow c).pending = some request →
      ∃ client, (d.step W i).agent.clients.lookup request.socket = some client ∧
        client.peerPid = request.peerPid := by
    intro hp
    obtain ⟨client, hc, hpid⟩ := h request hp
    obtain ⟨client', hc', hpid'⟩ := peer_step W hc (fun he => hi ⟨_, he⟩)
    exact ⟨client', hc', hpid'.trans hpid⟩
  have hstep := flowStep W c hh i
  generalize (d.step W i).flow c = f at hr hstep
  cases hstep with
  | stay => exact hold hr
  | keyringRequest socket msg hm hc => exact hold hr
  | keyringEnd r hk => exact hold hr
  | pinentryRequest socket msg hm hc ho =>
      obtain rfl : d.pinentryRequestOf W socket msg = request := Option.some.inj hr
      obtain ⟨client, hcl, hpid⟩ := client_of_message hm
      obtain ⟨client', hcl', hpid'⟩ := peer_step W hcl (not_disconnected_of_message hm)
      have hsock : (d.pinentryRequestOf W socket msg).socket = socket := by
        simp [pinentryRequestOf]
      have hpeer : (d.pinentryRequestOf W socket msg).peerPid = d.agent.getPeerPid socket := by
        simp [pinentryRequestOf]
      exact ⟨client', by rw [hsock]; exact hcl', by rw [hpeer, hpid', hpid]⟩
  | pinentryAnswer socket msg hm ha hc hk r hp => cases hr
  | pinentryResult socket msg hm hc ho hsrc r hrep => cases hr
  | pinentryRetry socket msg hm hc ho hsrc hrep => exact hold hr
  | pinentryEnd r hne => cases hr
  | disconnected socket he => exact absurd ⟨socket, he⟩ hi
  | polkitRequest hsrc => exact hold hr
  | polkitEnd r hp => exact hold hr

/-- **Every pending request of a run waits on a client**, whose pid is the
flow's owner. -/
theorem attended_run (ins : List Input) (c : String) : ((machine W).run ins).Attended c := by
  refine Machine.history_invariant (J := fun ins => ((machine W).run ins).Attended c) ?_
    (fun ins i h => ?_) ins
  · intro request hr
    cases hr
  · rw [Machine.run_snoc]
    exact h.step W (heaped_run W ins) i

end Daemon

end BbAuth
