import BbAuth.Agent.Effects
import BbAuth.Model.Pinentry
import BbAuth.Model.Polkit
import Mathlib.Data.Set.Basic
import Mathlib.Logic.Relation
/-!
# The managers and the listener as callers

The two managers and the polkit listener touch the agent through its
services alone. `Call` is one such call, and this file shows of every
handler of theirs that it leaves the agent a chain of calls further on; a
property that no call can break is then a property of them all.

The retry counters of a pinentry session are written without an event of
their own; the prompt that follows them in the same handler makes the two
one call.
-/

namespace BbAuth

/-- **A change a `session.updated` event can show**: the source, the id
and the context stay, but for the retry counters. -/
structure Session.Touch (s s' : Session) : Prop where
  id : s'.id = s.id
  source : s'.source = s.source
  context : ∃ cur max, s'.context = { s.context with curRetry := cur, maxRetries := max }

namespace Session

theorem Touch.of_context {s s' : Session} (hid : s'.id = s.id) (hs : s'.source = s.source)
    (hc : s'.context = s.context) : s.Touch s' :=
  ⟨hid, hs, s.context.curRetry, s.context.maxRetries, hc⟩

theorem Touch.trans {s s' s'' : Session} (h : s.Touch s') (h' : s'.Touch s'') : s.Touch s'' := by
  obtain ⟨cur, max, hc⟩ := h.context
  obtain ⟨cur', max', hc'⟩ := h'.context
  exact ⟨h'.id.trans h.id, h'.source.trans h.source, cur', max', by rw [hc', hc]⟩

theorem touch_setPrompt (s : Session) (prompt : String) (echo clearError : Bool) :
    s.Touch (s.setPrompt prompt echo clearError) := .of_context rfl rfl rfl

theorem touch_setError (s : Session) (error : String) : s.Touch (s.setError error) :=
  .of_context rfl rfl rfl

theorem touch_setInfo (s : Session) (info : String) : s.Touch (s.setInfo info) :=
  .of_context rfl rfl rfl

theorem touch_setPinentryRetry (s : Session) (cur max : ℤ) :
    s.Touch (s.setPinentryRetry cur max) := by
  unfold setPinentryRetry
  split
  · exact .of_context rfl rfl rfl
  · exact ⟨rfl, rfl, _, _, rfl⟩

end Session

/-- An output of the polkit listener. -/
def Output.isPolkit : Output → Bool
  | .submitPassword _ _ | .initiate _ | .setResponse _ _ | .cancel _ => true
  | _ => false

/-- What the listener tells polkit to begin or to stop an attempt. -/
def attempting : Set Output := {o | ∃ session, o = .initiate session ∨ o = .cancel session}

/-- What is said of a password that is submitted. -/
def submission (cookie pass : String) : Set Output :=
  {o | o = .submitPassword cookie pass ∨ ∃ session, o = .setResponse session pass}

theorem isPolkit_of_attempting {o : Output} (h : o ∈ attempting) : o.isPolkit = true := by
  obtain ⟨session, rfl | rfl⟩ := h <;> rfl

theorem isPolkit_of_submission {cookie pass : String} {o : Output}
    (h : o ∈ submission cookie pass) : o.isPolkit = true := by
  obtain rfl | ⟨session, rfl⟩ := h <;> rfl

/-- What is said to the client of a collision. -/
def collisionAt (socket : Socket) : Set Output := {.sent socket collisionError}

namespace Agent

/-- **One call of a service**; what the caller says of itself is in `S`. -/
inductive Call (W : World) (S : Set Output) (a : Agent) : Agent → Prop
  | ticked : Call W S a a.ticked
  | trace (o : Output) (h : o.isPolkit = true) (hS : o ∈ S) : Call W S a (a.trace o)
  | collision (socket : Socket) (h : .sent socket collisionError ∈ S) :
      Call W S a (a.writeJson socket collisionError)
  | create (id : String) (source : Session.Source) (ctx : Session.Context) :
      Call W S a (a.createSession W id source ctx).2
  | update (id : String) (f : Session → Session) (hf : ∀ s : Session, s.Touch (f s)) :
      Call W S a (a.emitUpdate (a.sessionStore.update id f))
  | retryPrompt (id : String) (s : Session) (h : a.getSession id = some s) (cur max : ℤ)
      (prompt : String) (echo clearError : Bool) :
      Call W S a ((a.updateSessionPinentryRetry id cur max).updateSessionPrompt id prompt echo
        clearError)
  | close (id : String) (r : Session.Result) : Call W S a (a.closeSession W id r).2
  | complete (id : String) (success : Bool) : Call W S a (a.onSessionComplete W id success)

/-- A chain of calls. -/
abbrev Calls (W : World) (S : Set Output) : Agent → Agent → Prop :=
  Relation.ReflTransGen (Call W S)

theorem Call.mono {W : World} {S T : Set Output} (hST : S ⊆ T) {a b : Agent} (h : Call W S a b) :
    Call W T a b := by
  cases h with
  | ticked => exact .ticked
  | trace o ho hS => exact .trace o ho (hST hS)
  | collision socket hs => exact .collision socket (hST hs)
  | create id source ctx => exact .create id source ctx
  | update id f hf => exact .update id f hf
  | retryPrompt id s h cur max prompt echo clearError =>
      exact .retryPrompt id s h cur max prompt echo clearError
  | close id r => exact .close id r
  | complete id success => exact .complete id success

theorem Calls.mono {W : World} {S T : Set Output} (hST : S ⊆ T) {a b : Agent} (h : Calls W S a b) :
    Calls W T a b := by
  induction h with
  | refl => exact .refl
  | tail _ hcall ih => exact ih.tail (hcall.mono hST)

/-- A chain of calls, whatever their callers say. -/
theorem Calls.anyone {W : World} {S : Set Output} {a b : Agent} (h : Calls W S a b) :
    Calls W Set.univ a b :=
  Calls.mono (Set.subset_univ S) h

variable (W : World) (a : Agent) (id : String)

/-- What the retry update stores for an open session. -/
theorem updateSessionPinentryRetry_of_some {s : Session} (h : a.getSession id = some s)
    (cur max : ℤ) :
    (a.updateSessionPinentryRetry id cur max).sessionStore.sessions =
        a.sessionStore.sessions.insert id (s.setPinentryRetry cur max) ∨
      (a.updateSessionPinentryRetry id cur max) = a ∧ s.setPinentryRetry cur max = s := by
  have h' : a.sessionStore.sessions.lookup id = some s := h
  by_cases hs : s.source ≠ .pinentry
  · have hself : a.setStore a.sessionStore = a := rfl
    exact .inr ⟨by
      simp [updateSessionPinentryRetry, SessionStore.updatePinentryRetry, h', hs, hself],
      by simp [Session.setPinentryRetry, hs]⟩
  · refine .inl ?_
    have hid : (s.setPinentryRetry cur max).id = id :=
      (s.touch_setPinentryRetry cur max).id.trans (a.sessionStore.keyed id s h')
    simp [updateSessionPinentryRetry, SessionStore.updatePinentryRetry, h', hs, SessionStore.put,
      hid]

variable {S : Set Output}

theorem calls_updateSessionPrompt (prompt : String) (echo clearError : Bool) :
    Calls W S a (a.updateSessionPrompt id prompt echo clearError) :=
  .single (.update id _ fun s => s.touch_setPrompt prompt echo clearError)

theorem calls_updateSessionError (error : String) : Calls W S a (a.updateSessionError id error) :=
  .single (.update id _ fun s => s.touch_setError error)

theorem calls_onSessionRequest (prompt : String) (echo : Bool) :
    Calls W S a (a.onSessionRequest id prompt echo) :=
  .single (.update id _ fun s => s.touch_setPrompt prompt echo true)

theorem calls_onSessionRetry (error : String) : Calls W S a (a.onSessionRetry id error) :=
  .single (.update id _ fun s => s.touch_setError error)

theorem calls_onSessionInfo (info : String) : Calls W S a (a.onSessionInfo id info) :=
  .single (.update id _ fun s => s.touch_setInfo info)

end Agent

open Agent

variable (W : World) (a : Agent)

/-! ## The keyring manager -/

namespace KeyringManager

variable (km : KeyringManager)

theorem calls_handleRequest (msg : QJsonObject) (socket : Socket) (peerPid : Pid) :
    Calls W (collisionAt socket) a (km.handleRequest W a msg socket peerPid).2 := by
  simp only [handleRequest]
  split
  · exact ((Relation.ReflTransGen.single .ticked).tail (.create _ _ _)).tail
      (.collision socket (show _ = _ from rfl))
  · exact ((Relation.ReflTransGen.single .ticked).tail (.create _ _ _)).tail
      (.update _ _ fun s => s.touch_setPrompt _ _ _)

/-- A request whose id is free tells nobody of a collision. -/
theorem calls_handleRequest_of_none {msg : QJsonObject}
    (h : a.getSession (requestCookie W a msg) = none) (socket : Socket) (peerPid : Pid) :
    Calls W ∅ a (km.handleRequest W a msg socket peerPid).2 := by
  simp only [handleRequest]
  split
  next hfalse =>
    rw [(createSession_of_none W a.ticked _ h .keyring _).1] at hfalse
    cases hfalse
  · exact ((Relation.ReflTransGen.single .ticked).tail (.create _ _ _)).tail
      (.update _ _ fun s => s.touch_setPrompt _ _ _)

/-- **A request whose id is taken** does nothing but tell its client. -/
theorem handleRequest_of_some {msg : QJsonObject} {s : Session}
    (h : a.getSession (requestCookie W a msg) = some s) (socket : Socket) (peerPid : Pid) :
    (km.handleRequest W a msg socket peerPid).2 = a.ticked.writeJson socket collisionError := by
  simp only [handleRequest, createSession_of_some W a.ticked _ h, Bool.not_false, if_true]

theorem calls_handleResponse (cookie response : String) :
    Calls W ∅ a (km.handleResponse W a cookie response).2.2 := by
  unfold handleResponse
  split
  · exact .refl
  · exact .single (.close cookie .success)

theorem calls_handleCancel (cookie : String) : Calls W ∅ a (km.handleCancel W a cookie).2.2 := by
  unfold handleCancel
  split
  · exact .refl
  · exact .single (.close cookie .cancelled)

theorem calls_cleanupLoop (socket : Socket) :
    ∀ (entries : List (String × KeyringRequest)) (km : KeyringManager) (a : Agent),
      Calls W ∅ a (cleanupLoop W socket entries km a).2
  | [], _, _ => .refl
  | (key, request) :: rest, km, a => by
      unfold cleanupLoop
      split
      · exact .head (.close request.cookie .cancelled) (calls_cleanupLoop socket rest _ _)
      · exact calls_cleanupLoop socket rest km a

theorem calls_cleanupForSocket (socket : Socket) :
    Calls W ∅ a (km.cleanupForSocket W a socket).2 :=
  .head .ticked (calls_cleanupLoop W socket _ km _)

end KeyringManager

/-! ## The pinentry manager -/

namespace PinentryManager

variable (pm : PinentryManager)

theorem calls_closeFlow (cookie : String) (result : Session.Result) (error : String) :
    Calls W ∅ a (pm.closeFlow W a cookie result error).2 := by
  simp only [closeFlow, closeFlowSession]
  split
  · split
    · exact (calls_updateSessionError W a cookie error).tail (.close cookie result)
    · exact .single (.close cookie result)
  · exact .refl

/-- The awaiting block calls for at most an error on the flow's session. -/
theorem calls_leaveAwaiting (request : PinentryRequest) :
    Calls W ∅ a (pm.leaveAwaiting a request).2 := by
  simp only [leaveAwaiting]
  split
  · exact calls_updateSessionError W a _ _
  · exact .refl

/-- It leaves open what was open. -/
theorem isSome_leaveAwaiting (request : PinentryRequest) :
    ((pm.leaveAwaiting a request).2.getSession request.cookie).isSome =
      (a.getSession request.cookie).isSome := by
  simp only [leaveAwaiting]
  split
  · cases h : a.getSession request.cookie with
    | none =>
        have := emitUpdate_of_none a request.cookie
          (f := fun s => s.setError (failureText request.error)) h
        simp only [updateSessionError, SessionStore.updateError, this, h]
    | some s =>
        have := (emitUpdate_of_some a request.cookie
          (f := fun s => s.setError (failureText request.error)) h rfl).sessions
        simp [updateSessionError, SessionStore.updateError, getSession, SessionStore.getSession,
          this]
  · rfl

/-- The prompt, and the error that may follow it. -/
theorem calls_showPrompt {a b : Agent} {request : PinentryRequest}
    (h : Calls W ∅ a (b.updateSessionPrompt request.cookie request.prompt false false)) :
    Calls W ∅ a (pm.showPrompt b request).2 := by
  simp only [showPrompt]
  split
  · exact h.trans (calls_updateSessionError W _ _ _)
  · exact h

theorem calls_acceptRequest (request : PinentryRequest) :
    Calls W ∅ a (pm.acceptRequest W a request).2 := by
  simp only [acceptRequest]
  generalize PinentryManager.resolveRetryInfo _ request = counters
  have h₁ := calls_leaveAwaiting W a counters.2 request
  have hex := isSome_leaveAwaiting a counters.2 request
  generalize counters.2.leaveAwaiting a request = left at h₁ hex ⊢
  rw [← hex]
  cases hs : left.2.getSession request.cookie with
  | some s =>
      simp only [openSession, Option.isSome_some, Bool.not_true, Bool.false_eq_true, if_false]
      exact h₁.trans (calls_showPrompt W _ (.single (.retryPrompt _ s hs _ _ _ _ _)))
  | none =>
      simp only [openSession, Option.isSome_none, Bool.not_false, if_true]
      have h₂ : ∀ ctx, Calls W ∅ a
          (left.2.ticked.createSession W request.cookie .pinentry ctx).2 :=
        fun ctx => (h₁.tail .ticked).tail (.create _ _ ctx)
      split
      next hfalse =>
        -- the id was just found free, so the session is created
        rw [(createSession_of_none W left.2.ticked request.cookie hs .pinentry _).1] at hfalse
        cases hfalse
      · exact calls_showPrompt W _ ((h₂ _).trans (calls_updateSessionPrompt W _ _ _ _ _))

theorem calls_handleRequest (msg : QJsonObject) (socket : Socket) (peerPid : Pid) :
    Calls W ∅ a (pm.handleRequest W a msg socket peerPid).2 := by
  simp only [handleRequest]
  have ht : Calls W ∅ a (if (msg.value "cookie").toString = "" then a.ticked else a) := by
    split
    · exact .single .ticked
    · exact .refl
  split
  · exact ht
  · exact ht.trans (calls_acceptRequest W _ pm _)

theorem calls_onTimeout (timer : ℕ) : Calls W ∅ a (pm.onTimeout W a timer).2 := by
  unfold onTimeout
  split
  · exact .refl
  · exact calls_closeFlow W a _ _ _ _

theorem calls_handleResult (msg : QJsonObject) (peerPid : Pid) :
    Calls W ∅ a (pm.handleResult W a msg peerPid).2.2 := by
  simp only [handleResult]
  split_ifs
  · exact .refl
  · exact .refl
  · exact .refl
  · exact calls_closeFlow W a pm _ _ _
  · exact calls_updateSessionError W a _ _
  · exact calls_closeFlow W a pm _ _ _
  · exact calls_closeFlow W a pm _ _ _
  · exact .refl

theorem calls_handleCancel (cookie : String) : Calls W ∅ a (pm.handleCancel W a cookie).2.2 := by
  simp only [handleCancel]
  split_ifs
  · exact calls_closeFlow W a pm _ _ _
  · exact calls_closeFlow W a pm _ _ _
  · exact calls_closeFlow W a pm _ _ _
  · exact .refl

theorem calls_closeAll : ∀ (cookies : List String) (pm : PinentryManager) (a : Agent),
    Calls W ∅ a (closeAll W cookies pm a).2
  | [], _, _ => .refl
  | cookie :: rest, pm, a =>
      (calls_closeFlow W a pm cookie .cancelled "Pinentry disconnected").trans
        (calls_closeAll rest _ _)

theorem calls_cleanupForSocket (socket : Socket) :
    Calls W ∅ a (pm.cleanupForSocket W a socket).2 :=
  .head .ticked (calls_closeAll W _ pm _)

end PinentryManager

/-! ## The listener -/

namespace PolkitListener

variable (l : PolkitListener)

theorem calls_reattempt (h : ℕ) (st : SessionState) :
    Calls W attempting a (l.reattempt a h st).2 := by
  simp only [reattempt]
  split
  · exact .single (.trace _ rfl ⟨_, .inl rfl⟩)
  · exact .refl

theorem calls_conclude (h : ℕ) (st : SessionState) : Calls W attempting a (l.conclude W a h st).2 :=
  .single (.complete st.cookie st.gainedAuth)

theorem calls_finishAuth (h : ℕ) : Calls W attempting a (l.finishAuth W a h).2 := by
  unfold finishAuth
  split
  · exact .refl
  next st _ =>
    dsimp only
    split_ifs
    · exact .refl
    · exact calls_reattempt W a _ h _
    · exact (calls_onSessionRetry W a st.cookie _).trans (calls_conclude W _ l h _)
    · exact calls_conclude W a l h _

theorem calls_withState {session : ℕ} {f : ℕ → SessionState → PolkitListener × Agent}
    (hf : ∀ h st, Calls W attempting a (f h st).2) :
    Calls W attempting a (l.withState a session f).2 := by
  unfold withState
  split
  · exact .refl
  · split
    · exact .refl
    · exact hf _ _

theorem calls_onSessionRequest (session : ℕ) (request : String) (echo : Bool) :
    Calls W attempting a (l.onSessionRequest a session request echo).2 :=
  calls_withState W a l fun _ st => Agent.calls_onSessionRequest W a st.cookie request echo

theorem calls_onSessionCompleted (session : ℕ) (gained : Bool) :
    Calls W attempting a (l.onSessionCompleted W a session gained).2 := by
  refine calls_withState W a l fun h st => ?_
  dsimp only
  split
  · exact (calls_onSessionRetry W a st.cookie _).trans (calls_finishAuth W _ _ h)
  · exact calls_finishAuth W a _ h

theorem calls_onSessionError (session : ℕ) (text : String) :
    Calls W attempting a (l.onSessionError a session text).2 :=
  calls_withState W a l fun _ st => calls_onSessionRetry W a st.cookie text

theorem calls_onSessionInfo (session : ℕ) (text : String) :
    Calls W attempting a (l.onSessionInfo a session text).2 :=
  calls_withState W a l fun _ st => Agent.calls_onSessionInfo W a st.cookie text

theorem calls_cancelLoop : ∀ (hs : List ℕ) (l : PolkitListener) (a : Agent),
    Calls W attempting a (cancelLoop W hs l a).2
  | [], _, _ => .refl
  | h :: rest, l, a => by
      unfold cancelLoop
      split
      · exact .refl
      · exact (calls_finishAuth W a _ h).trans (calls_cancelLoop rest _ _)

theorem calls_cancelAuthentication : Calls W attempting a (l.cancelAuthentication W a).2 :=
  .head .ticked (calls_cancelLoop W _ l _)

theorem calls_submitPassword (cookie pass : String) :
    Calls W (submission cookie pass) a (l.submitPassword a cookie pass).2 := by
  have h : Calls W (submission cookie pass) a (a.trace (.submitPassword cookie pass)) :=
    .single (.trace _ rfl (.inl rfl))
  simp only [submitPassword]
  split
  · exact h
  · split
    · exact h
    · split
      · exact h
      · exact h.tail (.trace _ rfl (.inr ⟨_, rfl⟩))

theorem calls_cancelSession (session : ℕ) :
    Calls W attempting a (l.cancelSession W a session).2 := by
  have h : Calls W attempting a (a.ticked.trace (.cancel session)) :=
    .tail (.single .ticked) (.trace _ rfl ⟨_, .inr rfl⟩)
  simp only [cancelSession]
  split
  · exact h.trans (calls_onSessionCompleted W _ l session false)
  · exact h

theorem calls_cancelPending (cookie : String) :
    Calls W attempting a (l.cancelPending W a cookie).2 := by
  unfold cancelPending
  split
  · exact .refl
  split
  · exact .refl
  split
  · exact .refl
  · have h := calls_cancelSession W a l ‹ℕ›
    dsimp only
    split
    · exact h
    · exact h.trans (calls_finishAuth W _ _ _)

theorem calls_initiateAuthentication (actionId message iconName : String)
    (details : Agent.Details) (cookie : String) (identities : List String) :
    Calls W attempting a (l.initiateAuthentication W a actionId message iconName details cookie
      identities).2 := by
  simp only [initiateAuthentication]
  split
  · exact .refl
  · split
    · exact .refl
    next user _ =>
      have h : Calls W attempting a (a.onPolkitRequest W cookie message actionId user details).2 :=
        .tail (.single .ticked) (.create cookie .polkit _)
      split
      · exact h
      · exact h.trans (calls_reattempt W _ _ _ _)

end PolkitListener

end BbAuth
