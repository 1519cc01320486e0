import BbAuth.Model.FallbackClient
import BbAuth.Provider.Talk
/-!
# What the client believes

A registered client goes by an id and believes itself active or not. Four
kinds of message speak of that, each by a rule of its own; this file has
one lemma for each, and one for everything else: an inert message changes
no belief.
-/

namespace BbAuth

namespace FallbackClient

variable {c : FallbackClient} {id : String} {b : Bool} {j : QJsonObject}

/-- **What the client believes**: it is registered as `id`, and it is the
active provider or not. -/
structure Believes (c : FallbackClient) (id : String) (active : Bool) : Prop where
  registered : c.registered = true
  providerId : c.providerId = id
  providerActive : c.providerActive = active

/-- The client after it has handled a list of messages. -/
def receive (c : FallbackClient) (messages : List QJsonObject) : FallbackClient :=
  messages.foldl handleMessage c

@[simp] theorem receive_nil : c.receive [] = c := rfl

@[simp] theorem receive_cons (messages : List QJsonObject) :
    c.receive (j :: messages) = (c.handleMessage j).receive messages := rfl

theorem receive_append (l m : List QJsonObject) : c.receive (l ++ m) = (c.receive l).receive m :=
  List.foldl_append

/-! ## Sending changes no belief -/

theorem sendJson_eq (c : FallbackClient) (j : QJsonObject) :
    c.sendJson j = { c with log := (c.sendJson j).log } := by
  unfold sendJson
  split <;> rfl

theorem Believes.emit (h : c.Believes id b) (o : Output) : (c.emit o).Believes id b :=
  ⟨h.registered, h.providerId, h.providerActive⟩

theorem Believes.sendJson (h : c.Believes id b) (j : QJsonObject) :
    (c.sendJson j).Believes id b := by
  rw [sendJson_eq]
  exact ⟨h.registered, h.providerId, h.providerActive⟩

theorem Believes.clearPending (h : c.Believes id b) : c.clearPending.Believes id b :=
  ⟨h.registered, h.providerId, h.providerActive⟩

/-- Whatever it believed, the client now believes what it is told. -/
theorem Believes.setProviderActive (h : c.Believes id b) (active : Bool) :
    (c.setProviderActive active).Believes id active := by
  unfold FallbackClient.setProviderActive
  dsimp only
  split
  next hs =>
    rw [not_not] at hs
    exact hs ▸ h.providerActive ▸ h
  next hs =>
    have h' : Believes ({ c with providerActive := active }.emit (.providerStateChanged active))
        id active := ⟨h.registered, h.providerId, rfl⟩
    split
    · exact h'.sendJson _
    · exact h'

/-! ## The four kinds of message, and the rest -/

/-- The registration's reply says it all. -/
theorem believes_handleRegistered (c : FallbackClient) (j : QJsonObject)
    (h : j.contains "active" = true) :
    (c.handleRegistered j).Believes (j.value "id").toString (j.value "active").toBool := by
  unfold handleRegistered
  dsimp only
  rw [if_pos h]
  have hc : Believes { c with registered := true, providerId := (j.value "id").toString }
      (j.value "id").toString c.providerActive := ⟨rfl, rfl, rfl⟩
  exact (hc.setProviderActive _).clearPending

/-- The subscription's reply may say whether the client is active. -/
theorem Believes.handleSubscribed (h : c.Believes id b) (j : QJsonObject) :
    (c.handleSubscribed j).Believes id
      (if j.contains "active" then (j.value "active").toBool else b) := by
  have h' : Believes { c with subscribed := true } id b :=
    ⟨h.registered, h.providerId, h.providerActive⟩
  unfold FallbackClient.handleSubscribed
  dsimp only
  split
  · exact h'.setProviderActive _
  · exact h'

/-- A status makes the client active where nobody is, or where it bears
the client's id. -/
theorem Believes.handleActive (h : c.Believes id b) (hid : id ≠ "") (j : QJsonObject) :
    (c.handleActive j).Believes id
      (!(j.value "active").toBool || decide ((j.value "id").toString = id)) := by
  unfold FallbackClient.handleActive
  dsimp only
  rw [h.registered, h.providerId]
  cases hj : (j.value "active").toBool with
  | false => simpa using (h.setProviderActive true).clearPending
  | true => simpa [hid] using h.setProviderActive (decide ((j.value "id").toString = id))

/-- A refusal makes it inactive. -/
theorem Believes.handleError (h : c.Believes id b) (j : QJsonObject) :
    (c.handleError j).Believes id
      (if (j.value "message").toString = "Not active UI provider" then false else b) := by
  unfold FallbackClient.handleError
  dsimp only
  split
  · exact (h.setProviderActive false).emit _
  · exact h.emit _

theorem Believes.handleSessionEvent (h : c.Believes id b) (type : String) (j : QJsonObject) :
    (c.handleSessionEvent type j).Believes id b := by
  unfold FallbackClient.handleSessionEvent
  split
  · exact h
  split
  · exact h.emit _
  split
  · exact h.emit _
  split
  · exact h.emit _
  · exact h

/-- **An inert message changes no belief.** -/
theorem Believes.inert (h : c.Believes id b) (hj : Inert j) : (c.handleMessage j).Believes id b := by
  obtain ⟨hs, hr, ha, he⟩ := hj
  unfold handleMessage
  dsimp only
  rw [if_neg hs, if_neg hr, if_neg ha]
  split
  · exact h
  split
  · exact h
  split
  next ht =>
    have hm : (j.value "message").toString ≠ "Not active UI provider" := fun hm => he ⟨ht, hm⟩
    simpa [hm] using h.handleError j
  · exact h.handleSessionEvent _ j

/-! ## Several messages -/

theorem Believes.receive_inert (h : c.Believes id b) {l : List QJsonObject}
    (hl : ∀ j ∈ l, Inert j) : (c.receive l).Believes id b := by
  induction l generalizing c with
  | nil => exact h
  | cons j l ih =>
      exact ih (h.inert (hl j List.mem_cons_self)) fun k hk => hl k (List.mem_cons_of_mem _ hk)

/-- **A status told once or more often** settles what the client believes. -/
theorem Believes.receive_status (h : c.Believes id b) (hid : id ≠ "")
    (hj : j.value "type" = .string "ui.active") {l : List QJsonObject} (hl : ∀ k ∈ l, k = j)
    (hb : l ≠ [] ∨ b = (!(j.value "active").toBool || decide ((j.value "id").toString = id))) :
    (c.receive l).Believes id
      (!(j.value "active").toBool || decide ((j.value "id").toString = id)) := by
  induction l generalizing c b with
  | nil =>
      obtain hb | rfl := hb
      · exact absurd rfl hb
      · exact h
  | cons k l ih =>
      obtain rfl := hl k List.mem_cons_self
      have hk : (c.handleMessage k).Believes id
          (!(k.value "active").toBool || decide ((k.value "id").toString = id)) := by
        simpa [handleMessage, hj] using h.handleActive hid k
      exact ih hk (fun m hm => hl m (List.mem_cons_of_mem _ hm)) (.inr rfl)

/-! ## The trace is never read -/

/-- **Two clients that differ in their traces alone.** -/
def Alike (c c' : FallbackClient) : Prop := ∃ l, c' = { c with log := l }

variable {c' : FallbackClient}

theorem Alike.believes (h : Alike c c') (hb : c.Believes id b) : c'.Believes id b := by
  obtain ⟨l, rfl⟩ := h
  exact ⟨hb.registered, hb.providerId, hb.providerActive⟩

theorem alike_sendJson (c : FallbackClient) (j : QJsonObject) : Alike c (c.sendJson j) :=
  ⟨_, sendJson_eq c j⟩

theorem Alike.refl (c : FallbackClient) : Alike c c := ⟨c.log, rfl⟩

theorem Alike.trans {c'' : FallbackClient} (h : Alike c c') (h' : Alike c' c'') : Alike c c'' := by
  obtain ⟨l, rfl⟩ := h
  obtain ⟨l', rfl⟩ := h'
  exact ⟨l', rfl⟩

theorem Alike.emit (h : Alike c c') (o : Output) : Alike (c.emit o) (c'.emit o) := by
  obtain ⟨l, rfl⟩ := h
  exact ⟨_, rfl⟩

theorem Alike.setProviderActive (h : Alike c c') (active : Bool) :
    Alike (c.setProviderActive active) (c'.setProviderActive active) := by
  obtain ⟨l, rfl⟩ := h
  unfold FallbackClient.setProviderActive FallbackClient.subscribe
  by_cases ha : active = c.providerActive
  · simp only [ha, ne_eq, not_true_eq_false, not_false_eq_true, if_true]
    exact ⟨l, rfl⟩
  · simp only [ne_eq, ha, not_false_eq_true, not_true_eq_false, if_false]
    by_cases hs : (active && c.connected && c.registered) = true
    · simp only [FallbackClient.emit, hs, if_true]
      rw [sendJson_eq { c with providerActive := active, log := l ++ _ },
        sendJson_eq { c with providerActive := active, log := c.log ++ _ }]
      exact ⟨_, rfl⟩
    · simp only [FallbackClient.emit, hs, Bool.false_eq_true, if_false]
      exact ⟨_, rfl⟩

theorem Alike.clearPending (h : Alike c c') : Alike c.clearPending c'.clearPending := by
  obtain ⟨l, rfl⟩ := h
  exact ⟨l, rfl⟩

theorem Alike.applyPendingProviderState (h : Alike c c') :
    Alike c.applyPendingProviderState c'.applyPendingProviderState := by
  have hs := fun b => (h.setProviderActive b).clearPending
  obtain ⟨l, rfl⟩ := h
  unfold FallbackClient.applyPendingProviderState
  dsimp only at hs ⊢
  split
  · exact ⟨l, rfl⟩
  · exact hs _

theorem Alike.handleSubscribed (h : Alike c c') (j : QJsonObject) :
    Alike (c.handleSubscribed j) (c'.handleSubscribed j) := by
  have h' : Alike { c with subscribed := true } { c' with subscribed := true } := by
    obtain ⟨l, rfl⟩ := h
    exact ⟨l, rfl⟩
  unfold FallbackClient.handleSubscribed
  dsimp only
  split
  · exact h'.setProviderActive _
  · exact h'

theorem Alike.handleRegistered (h : Alike c c') (j : QJsonObject) :
    Alike (c.handleRegistered j) (c'.handleRegistered j) := by
  have h' : Alike { c with registered := true, providerId := (j.value "id").toString }
      { c' with registered := true, providerId := (j.value "id").toString } := by
    obtain ⟨l, rfl⟩ := h
    exact ⟨l, rfl⟩
  unfold FallbackClient.handleRegistered
  dsimp only
  split
  · exact (h'.setProviderActive _).clearPending
  · exact h'.applyPendingProviderState

theorem Alike.handleActive (h : Alike c c') (j : QJsonObject) :
    Alike (c.handleActive j) (c'.handleActive j) := by
  have hs := h.setProviderActive
  obtain ⟨l, rfl⟩ := h
  unfold FallbackClient.handleActive
  dsimp only at hs ⊢
  split
  · exact ⟨l, rfl⟩
  split
  · split
    · exact ⟨l, rfl⟩
    · exact (hs true).clearPending
  · exact hs _

theorem Alike.handleError (h : Alike c c') (j : QJsonObject) :
    Alike (c.handleError j) (c'.handleError j) := by
  unfold FallbackClient.handleError
  dsimp only
  split
  · exact (h.setProviderActive false).emit _
  · exact h.emit _

theorem Alike.handleSessionEvent (h : Alike c c') (type : String) (j : QJsonObject) :
    Alike (c.handleSessionEvent type j) (c'.handleSessionEvent type j) := by
  have he := h.emit
  obtain ⟨l, rfl⟩ := h
  unfold FallbackClient.handleSessionEvent
  dsimp only at he ⊢
  split
  · exact ⟨l, rfl⟩
  split
  · exact he _
  split
  · exact he _
  split
  · exact he _
  · exact ⟨l, rfl⟩

theorem Alike.handleMessage (h : Alike c c') (j : QJsonObject) :
    Alike (c.handleMessage j) (c'.handleMessage j) := by
  unfold FallbackClient.handleMessage
  dsimp only
  split
  · exact h.handleSubscribed j
  split
  · exact h.handleRegistered j
  split
  · exact h.handleActive j
  split
  · exact h
  split
  · exact h
  split
  · exact h.handleError j
  · exact h.handleSessionEvent _ j

/-- What is read leaves them so. -/
theorem Alike.receive (h : Alike c c') (ms : List QJsonObject) :
    Alike (c.receive ms) (c'.receive ms) := by
  induction ms generalizing c c' with
  | nil => exact h
  | cons j ms ih => exact ih (h.handleMessage j)

end FallbackClient

end BbAuth
