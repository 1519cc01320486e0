import BbAuth.Flow.Recipient
import BbAuth.Flow.Speech
/-!
# One answer for each question

PAM asks through the `request` signal of a session and takes one answer
for each. The listener notes that a question was asked and never reads the
note: every response it is handed goes on to the session of the request as
it stands. So the answers a session is given are the responses handed to
it, and they outnumber its questions as soon as one comes out of turn.
-/

namespace BbAuth

open Agent

/-- Does this output answer the PAM session? -/
def Output.answers (session : ℕ) : Output → Bool
  | .setResponse s _ => s = session
  | _ => false

/-- Does the PAM session ask with this input? -/
def Input.asks (session : ℕ) : Input → Bool
  | .request s _ _ => s = session
  | _ => false

/-- How often a PAM session has asked. -/
def asked (session : ℕ) (ins : List Input) : ℕ := ins.countP (Input.asks session)

namespace Daemon

variable (W : World) {d : Daemon} {i : Input}

/-- How often a PAM session has been answered. -/
def answered (d : Daemon) (session : ℕ) : ℕ := d.agent.log.countP (Output.answers session)

/-- **The PAM session a `session.respond` is meant for**: that of the
polkit request it names. -/
def addressee (d : Daemon) (i : Input) : Option ℕ :=
  match d.message? i with
  | some (.sessionRespond, _, msg) => d.listener.currentSession (messageId msg)
  | _ => none

/-- **One response per PAM request.** No session of a polkit request is
answered more often than it asked, and a `session.respond` for one that
has no question open is not forwarded. -/
def OneResponse (W : World) (ins : List Input) : Prop :=
  (∀ pre, pre <+: ins → ∀ cookie session,
    ((machine W).run pre).listener.currentSession cookie = some session →
      ((machine W).run pre).answered session ≤ asked session pre) ∧
  ∀ pre i session, pre ++ [i] <+: ins → ((machine W).run pre).addressee i = some session →
    asked session pre ≤ ((machine W).run pre).answered session →
      ∀ s, ((machine W).run (pre ++ [i])).answered s = ((machine W).run pre).answered s

/-- **A `session.respond` passes the tests before the listener**: it comes
from the provider in charge, no other request waits under its id, and a
polkit session is open. -/
def Passes (d : Daemon) (socket : Socket) (msg : QJsonObject) : Prop :=
  d.agent.isAuthorizedProviderSocket socket = true ∧
    d.keyringManager.hasPendingRequest (messageId msg) = false ∧
    d.pinentryManager.hasPendingInput (messageId msg) = false ∧
    d.pinentryManager.hasRequest d.agent (messageId msg) = false ∧
    (d.agent.getSession (messageId msg)).map Session.source = some .polkit

instance (socket : Socket) (msg : QJsonObject) : Decidable (d.Passes socket msg) :=
  inferInstanceAs (Decidable (_ ∧ _))

/-- **The PAM session an input hands a response to.** -/
def handedTo (d : Daemon) (i : Input) : Option ℕ :=
  match d.message? i with
  | some (.sessionRespond, socket, msg) =>
    if d.Passes socket msg then d.listener.currentSession (messageId msg) else none
  | _ => none

/-- How many responses a run has handed to a PAM session. -/
def handed (W : World) (session : ℕ) (ins : List Input) : ℕ :=
  (machine W).tally (fun d i => if d.handedTo i = some session then 1 else 0) ins

/-- **Every response comes in turn**: the session it is handed to has asked
more often than it was handed a response. -/
def InTurn (W : World) (ins : List Input) : Prop :=
  ∀ pre i session, pre ++ [i] <+: ins → ((machine W).run pre).handedTo i = some session →
    handed W session pre < asked session pre

variable {W} {session : ℕ}

theorem asked_snoc (ins : List Input) (i : Input) :
    asked session (ins ++ [i]) = asked session ins + if i.asks session then 1 else 0 := by
  simp [asked, List.countP_append, List.countP_singleton]

/-- A response is handed to nobody but its addressee. -/
theorem addressee_of_handedTo (h : d.handedTo i = some session) :
    d.addressee i = some session := by
  unfold handedTo at h
  unfold addressee
  split at h
  next socket msg hm =>
    split at h
    · exact h
    · cases h
  · cases h

theorem handedTo_eq_none_or (d : Daemon) (i : Input) :
    d.handedTo i = none ∨ d.handedTo i = d.addressee i := by
  cases h : d.handedTo i with
  | none => exact .inl rfl
  | some session => exact .inr (addressee_of_handedTo h).symm

/-! ## What one step answers -/

/-- The output answers no session. -/
def Mute (o : Output) : Prop := ∀ s r, o ≠ .setResponse s r

theorem mute_sent (socket : Socket) (json : QJsonObject) : Mute (.sent socket json) := by
  intro s r h
  cases h

theorem mute_emitted (event : QJsonObject) : Mute (.emitted event) := by
  intro s r h
  cases h

theorem mute_fallback (reason : String) (registry : ProviderRegistry) (store : SessionStore) :
    Mute (.ensureFallbackUiRunning reason registry store) := by
  intro s r h
  cases h

/-- The policy that nobody is answered. -/
abbrev unanswering : Policy := .ofDone Mute mute_sent mute_fallback

theorem open_unanswering : unanswering.Open where
  updated _ := mute_emitted _
  closed _ := mute_emitted _

/-- What obeys it answers no session. -/
theorem countP_answers_of_obeys {a b : Agent} (h : Obeys unanswering a b) (session : ℕ) :
    b.log.countP (Output.answers session) = a.log.countP (Output.answers session) := by
  obtain ⟨-, os, hlog, hos⟩ := h (kept_ofDone a)
  have hnone : os.countP (Output.answers session) = 0 := by
    refine List.countP_eq_zero.2 fun o ho => ?_
    cases o with
    | setResponse s r => exact absurd rfl (hos _ ho s r)
    | _ => simp [Output.answers]
  rw [hlog, List.countP_append, hnone, Nat.add_zero]

/-- A message to a socket answers no session. -/
theorem answered_sendJson (d : Daemon) (socket : Socket) (json : QJsonObject) :
    (d.sendJson socket json).answered session = d.answered session :=
  countP_answers_of_obeys (obeys_sendJson d.agent (mute_sent socket json)) session

/-- **A response that passes** is an answer to the session of its request,
and no other is an answer. -/
theorem answered_respond (d : Daemon) (socket : Socket) (msg : QJsonObject) :
    (d.respond W socket msg).2.answered session = d.answered session +
      if (if d.Passes socket msg then d.listener.currentSession (messageId msg) else none) =
        some session then 1 else 0 := by
  have hrefused : (d.respond W socket msg).2.answered session = d.answered session →
      ¬ d.Passes socket msg → (d.respond W socket msg).2.answered session = d.answered session +
        if (if d.Passes socket msg then d.listener.currentSession (messageId msg) else none) =
          some session then 1 else 0 := by
    intro h hn
    rw [h, if_neg hn]
    rfl
  -- each of the three managers is asked in turn; only the listener answers
  by_cases ha : d.agent.isAuthorizedProviderSocket socket = true
  swap
  · exact hrefused (by simp [respond, ha]) fun hp => ha hp.1
  cases hk : d.keyringManager.pendingRequests.lookup (messageId msg) with
  | some request =>
      refine hrefused ?_ fun hp => ?_
      · have hcalls := KeyringManager.calls_handleResponse W d.agent d.keyringManager
          (messageId msg) (messageResponse msg)
        rw [respond_of_keyring ha hk, answered_sendJson]
        exact countP_answers_of_obeys (Calls.obeys hcalls open_unanswering
          (fun o ho => absurd ho (Set.notMem_empty o)) fun _ => mute_emitted _) session
      · have hnot := hp.2.1
        simp [KeyringManager.hasPendingRequest, Table.contains, hk] at hnot
  | none =>
  cases hp : d.pinentryManager.pendingRequests.lookup (messageId msg) with
  | some request =>
      refine hrefused ?_ fun hp' => ?_
      · rw [respond_of_pinentry ha hk hp, answered_sendJson]
        rfl
      · have hnot := hp'.2.2.1
        simp [PinentryManager.hasPendingInput, Table.contains, hp] at hnot
  | none =>
  by_cases hpass : d.Passes socket msg
  · obtain ⟨-, -, -, hreq, hopen⟩ := id hpass
    rw [respond_of_polkit ha hk hp hopen hreq, if_pos hpass]
    simp only [answered, withListener, PolkitListener.submitPassword_log]
    cases d.listener.currentSession (messageId msg) <;>
      simp [Output.answers, List.countP_append, List.countP_cons]
  -- nobody waits for a response to this id
  · refine hrefused (congrArg (answered · session) ?_) hpass
    have hk' := KeyringManager.hasPendingRequest_eq_false.2 hk
    have hp' := PinentryManager.hasPendingInput_eq_false.2 hp
    unfold messageId at hk' hp'
    simp only [respond, ha, hk', hp', Bool.not_true, Bool.false_eq_true, if_false]
    split
    · rfl
    next hreq =>
      split
      · rfl
      next s hs =>
        split
        · rfl
        next hsrc =>
          rw [ne_eq, not_not] at hsrc
          have hopen : (d.agent.getSession (messageId msg)).map Session.source = some .polkit := by
            rw [messageId, hs, Option.map_some, hsrc]
          exact absurd ⟨ha, hk', hp', Bool.not_eq_true _ ▸ hreq, hopen⟩ hpass

/-- **One step answers the session it hands a response to**, once. -/
theorem answered_step (W : World) (d : Daemon) (i : Input) (session : ℕ) :
    (d.step W i).answered session =
      d.answered session + if d.handedTo i = some session then 1 else 0 := by
  by_cases hresp : ∃ socket msg, d.message? i = some (.sessionRespond, socket, msg)
  · obtain ⟨socket, msg, hm⟩ := hresp
    have hstep : d.step W i = (d.respond W socket msg).2.sendJson socket
        (d.respond W socket msg).1 := step_of_message hm
    rw [hstep, answered_sendJson, answered_respond]
    simp only [handedTo, hm]
  · have hnone : d.handedTo i = none := by
      unfold handedTo
      split
      next socket msg hm => exact absurd ⟨socket, msg, hm⟩ hresp
      · rfl
    have ho : Obeys unanswering d.agent (d.step W i).agent := by
      refine Acts.obeys (acts_step W d i) open_unanswering (fun _ => mute_emitted _)
        (fun _ _ => trivial) (fun _ _ _ h => h) fun o hsays => ?_
      cases hsays with
      | reply h => exact mute_sent _ _
      | attempt h =>
          obtain ⟨s, rfl | rfl⟩ := h
          · intro s' r hset
            cases hset
          · intro s' r hset
            cases hset
      | submitted hcall h =>
          -- only a `session.respond` submits a password
          exact absurd (message?_of_submits hcall) hresp
    rw [hnone]
    exact countP_answers_of_obeys ho session

/-- **The answers a run has given are the responses it was handed.** -/
theorem answered_run (W : World) (ins : List Input) (session : ℕ) :
    ((machine W).run ins).answered session = handed W session ins := by
  induction ins using List.reverseRecOn with
  | nil => rfl
  | append_singleton ins i ih =>
      have hrun : (machine W).run (ins ++ [i]) = ((machine W).run ins).step W i :=
        Machine.run_snoc ..
      rw [hrun, answered_step, ih, handed, handed, Machine.tally_snoc]

/-! ## Turn by turn -/

/-- **Responses in turn never outnumber the questions.** -/
theorem InTurn.handed_le {ins : List Input} (h : InTurn W ins) :
    ∀ pre, pre <+: ins → handed W session pre ≤ asked session pre := by
  intro pre
  induction pre using List.reverseRecOn with
  | nil => exact fun _ => Nat.le_refl 0
  | append_singleton pre i ih =>
      intro hp
      have hle := ih ((List.prefix_append pre [i]).trans hp)
      have hsnoc : handed W session (pre ++ [i]) = handed W session pre +
          if ((machine W).run pre).handedTo i = some session then 1 else 0 := by
        rw [handed, handed, Machine.tally_snoc]
      rw [hsnoc, asked_snoc]
      split
      next hto =>
        have hlt := h pre i session hp hto
        omega
      · omega

/-- **A run answers once for each question exactly when every response
comes in turn.** -/
theorem oneResponse_iff (W : World) (ins : List Input) : OneResponse W ins ↔ InTurn W ins := by
  constructor
  · rintro ⟨-, h⟩ pre i session hp hto
    by_contra hlt
    have hle : asked session pre ≤ ((machine W).run pre).answered session := by
      rw [answered_run]
      omega
    have hsame := h pre i session hp (addressee_of_handedTo hto) hle session
    have hrun : (machine W).run (pre ++ [i]) = ((machine W).run pre).step W i :=
      Machine.run_snoc ..
    rw [hrun, answered_step, if_pos hto] at hsame
    omega
  · intro h
    refine ⟨fun pre hp cookie session _ => ?_, fun pre i session hp hto hle s => ?_⟩
    · rw [answered_run]
      exact h.handed_le pre hp
    · have hnone : ((machine W).run pre).handedTo i = none := by
        rcases handedTo_eq_none_or ((machine W).run pre) i with hn | heq
        · exact hn
        · -- a response that were handed on would come out of turn
          have hlt := h pre i session hp (heq.trans hto)
          rw [answered_run] at hle
          omega
      have hrun : (machine W).run (pre ++ [i]) = ((machine W).run pre).step W i :=
        Machine.run_snoc ..
      rw [hrun, answered_step, hnone]
      rfl

/-- A response before the first question: it is forwarded. -/
theorem not_oneResponse_of_early :
    ¬ ∀ (W : World) (ins : List Input), OneResponse W ins := by
  intro h
  let W := World.plain (fun _ => 0) false
  let pre : List Input :=
    [.initiateAuthentication "action" "message" "icon" [] "c" ["unix-user:1000"],
      .newConnection 1 100]
  let early : Input := .line 1 (some (respondMessage "c" "secret"))
  have hto : ((machine W).run pre).handedTo early = some 0 := by decide
  have hasked : asked 0 pre = 0 := rfl
  have hsame := (h W (pre ++ [early])).2 pre early 0 List.prefix_rfl (addressee_of_handedTo hto)
    (by rw [hasked]; exact Nat.zero_le _) 0
  have hrun : ∀ ins i, (machine W).run (ins ++ [i]) = ((machine W).run ins).step W i :=
    fun _ _ => Machine.run_snoc ..
  rw [hrun, answered_step, if_pos hto] at hsame
  omega

end Daemon

end BbAuth
