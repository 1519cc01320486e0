import BbAuth.Model.KeyringIpc
/-!
# The keyring prompter and whatever answers it

Every failure of a call comes with a `GError` but one: a daemon that takes
the request and closes the connection without a word sets none, and the
message of that one is read through `NULL`. Whatever else the daemon does
the call returns, and hands out a password exactly when it returns `TRUE`.
-/

namespace BbAuth

namespace KeyringPrompter

variable {I : IpcWorld} {request : QJsonObject}

/-- **The call returns.** -/
def Returns {α : Type} (call : Except NullDereference α) : Prop := ∃ result, call = .ok result

theorem pure_eq {α : Type} (result : α) :
    (pure result : Except NullDereference α) = .ok result := rfl

/-! ## Sending and parsing -/

/-- The line a call gets, where it gets anything. -/
def lineOf : Peer → Option String
  | .replies line => some line
  | _ => none

theorem sendJsonCommand_eq : sendJsonCommand I request =
    if I.daemon request = .closes then .error .mk else .ok (lineOf (I.daemon request)) := by
  rw [sendJsonCommand]
  cases I.daemon request <;> rfl

/-- The object of a line. -/
def object? (I : IpcWorld) (response : Option String) : Option QJsonObject :=
  response.bind fun line =>
    match I.load line with
    | .ok (some (.object o)) => some o
    | _ => none

/-- A text that does not parse comes with an error, so it is safe to look
at. -/
theorem responseObject_eq (response : Option String) :
    responseObject I response = .ok (object? I response) := by
  cases response with
  | none => rfl
  | some line =>
      rw [responseObject, object?, Option.bind_some]
      cases I.load line with
      | error error => rfl
      | ok root =>
          cases root with
          | none => rfl
          | some value => cases value <;> rfl

/-- What the daemon's reply comes to, if it is a JSON object. -/
def reply (I : IpcWorld) (request : QJsonObject) : Option QJsonObject :=
  object? I (lineOf (I.daemon request))

/-- **A call is undone by silence alone**, and otherwise computes from the
reply. -/
theorem call_eq {α : Type} (f : Option QJsonObject → Except NullDereference α) :
    (do let response ← sendJsonCommand I request
        f (← responseObject I response)) =
      if I.daemon request = .closes then .error .mk else f (reply I request) := by
  rw [sendJsonCommand_eq]
  by_cases h : I.daemon request = .closes
  · rw [if_pos h, if_pos h]
    rfl
  · rw [if_neg h, if_neg h]
    exact congrArg (fun r => r >>= f) (responseObject_eq _)

theorem returns_iff {α : Type} {call : Except NullDereference α} {result : α}
    (h : call = if I.daemon request = .closes then .error .mk else .ok result) :
    Returns call ↔ I.daemon request ≠ .closes := by
  rw [h, Returns]
  by_cases hc : I.daemon request = .closes <;> simp [hc]

/-! ## The three calls -/

theorem ipcPing_eq : ipcPing I = if I.daemon pingMessage = .closes then .error .mk else
    .ok (match reply I pingMessage with
      | none => false
      | some resp => resp.contains "type" && resp.getStringMember "type" = some "pong") := by
  rw [ipcPing, call_eq]
  congr 1
  cases reply I pingMessage with
  | none => rfl
  | some resp =>
      by_cases ht : resp.contains "type" = true
      · simp [ht]
        rfl
      · simp [ht]
        rfl

variable {cookie : String} {title message description warning : Option String}
  {passwordNew : Bool}

/-- **A password is handed out with `TRUE`.** The two results of the call
are those of the reading of its reply. -/
theorem ipcSendKeyringRequest_eq :
    ipcSendKeyringRequest I cookie title message description warning passwordNew =
      if I.daemon (keyringPayload cookie title message description warning passwordNew) = .closes
      then .error .mk
      else .ok ((KeyringPrompt.password title message description warning passwordNew).returns
        (reply I (keyringPayload cookie title message description warning passwordNew))) := by
  rw [ipcSendKeyringRequest, call_eq]
  congr 1
  cases reply I (keyringPayload cookie title message description warning passwordNew) with
  | none => rfl
  | some resp =>
      rw [KeyringPrompt.returns, sendKeyringRequest, keyringResult]
      by_cases ht : resp.contains "type" = true
      · by_cases hk : resp.getStringMember "type" = some "keyring_response"
        · by_cases hr : resp.contains "result" = true
          · cases hres : resp.getStringMember "result" with
            | none => simp [ht, hk, hr, hres, pure_eq]
            | some result =>
                by_cases hok : result = "ok"
                · by_cases hp : resp.contains "password" = true
                  · cases hpass : resp.getStringMember "password" <;>
                      simp [ht, hk, hr, hres, hok, hp, hpass, pure_eq]
                  · simp [ht, hk, hr, hres, hok, hp, pure_eq]
                · simp [ht, hk, hr, hres, hok, pure_eq]
          · simp [ht, hk, hr, pure_eq]
        · simp [ht, hk, pure_eq]
      · simp [ht, pure_eq]

theorem ipcSendConfirmRequest_eq :
    ipcSendConfirmRequest I cookie title message description =
      if I.daemon (confirmPayload cookie title message description) = .closes
      then .error .mk
      else .ok ((KeyringPrompt.confirm title message description).returns
        (reply I (confirmPayload cookie title message description))).1 := by
  rw [ipcSendConfirmRequest, call_eq]
  congr 1
  cases reply I (confirmPayload cookie title message description) with
  | none => rfl
  | some resp =>
      rw [KeyringPrompt.returns, sendConfirmRequest, keyringResult]
      by_cases ht : resp.contains "type" = true
      · by_cases hk : resp.getStringMember "type" = some "keyring_response"
        · by_cases hr : resp.contains "result" = true
          · cases hres : resp.getStringMember "result" <;> simp [ht, hk, hr, hres, pure_eq]
          · simp [ht, hk, hr, pure_eq]
        · simp [ht, hk, pure_eq]
      · simp [ht, pure_eq]

/-- **Silence is all a call does not survive**, and a password is handed out
exactly with `TRUE`. -/
theorem calls_survive (I : IpcWorld) :
    (Returns (ipcPing I) ↔ I.daemon pingMessage ≠ .closes) ∧
      (∀ cookie title message description warning passwordNew,
        Returns (ipcSendKeyringRequest I cookie title message description warning passwordNew) ↔
          I.daemon (keyringPayload cookie title message description warning passwordNew) ≠
            .closes) ∧
      (∀ cookie title message description,
        Returns (ipcSendConfirmRequest I cookie title message description) ↔
          I.daemon (confirmPayload cookie title message description) ≠ .closes) ∧
      ∀ cookie title message description warning passwordNew result outPassword,
        ipcSendKeyringRequest I cookie title message description warning passwordNew =
            .ok (result, outPassword) →
          (outPassword.isSome = true ↔ result = true) := by
  refine ⟨returns_iff ipcPing_eq, fun _ _ _ _ _ _ => returns_iff ipcSendKeyringRequest_eq,
    fun _ _ _ _ => returns_iff ipcSendConfirmRequest_eq, ?_⟩
  intro cookie title message description warning passwordNew result outPassword h
  rw [ipcSendKeyringRequest_eq] at h
  by_cases hc : I.daemon (keyringPayload cookie title message description warning passwordNew) =
      .closes
  · rw [if_pos hc] at h
    cases h
  · rw [if_neg hc, KeyringPrompt.returns, Except.ok.injEq, Prod.mk.injEq] at h
    rw [← h.1, ← h.2]

/-- A daemon that takes every request and closes without a word. -/
def silent : IpcWorld where
  daemon _ := .closes
  load _ := .ok none

/-- **A silent daemon takes the prompter down**, in each of the calls. -/
theorem silent_undoes_calls : ¬ Returns (ipcPing silent) ∧
    ¬ Returns (ipcSendKeyringRequest silent "c" none none none none false) ∧
    ¬ Returns (ipcSendConfirmRequest silent "c" none none none) := by
  refine ⟨?_, ?_, ?_⟩ <;> rintro ⟨result, h⟩ <;> cases h

end KeyringPrompter

end BbAuth
