import BbAuth.Library.Machine
import BbAuth.Model.PinentrySession
import Mathlib.Data.List.TakeWhile
/-!
# What a pinentry reports, and what it has answered

A pinentry answers its caller by one test and remembers what it will report
by another: the flag is set as soon as the daemon's reply says `ok`, the
caller is told `OK` only if a password came with it. The two part where the
password is empty. A session reports a success it has not answered exactly
when that was its last prompt, and no error text stands when it ends.
-/

namespace BbAuth

namespace PinentrySession

variable (W : PinentryWorld) (c : String)

/-! ## Reading the trace -/

/-- A prompt of the flow `c`. -/
def isPrompt (j : QJsonObject) : Bool :=
  (j.value "type").toString = "pinentry_request" && (j.value "cookie").toString = c

/-- A report of the flow `c`'s success. -/
def isSuccess (j : QJsonObject) : Bool :=
  (j.value "type").toString = "pinentry_result" && (j.value "id").toString = c &&
    (j.value "result").toString = "success"

/-- What the trace says of the prompts of a flow: whether one is waiting
for its answer, and whether the last that has one was answered `OK`. -/
def Output.follow : Bool × Option Bool → Output → Bool × Option Bool
  | (waits, last), .request j => if isPrompt c j then (true, none) else (waits, last)
  | (true, _), .ok _ => (false, some true)
  | (true, _), .err _ _ => (false, some false)
  | (false, last), .ok _ | (false, last), .err _ _ => (false, last)
  | r, .data _ => r

/-- **The answer to the last prompt of the flow `c`**: was it `OK`? -/
def lastAnswer (log : List Output) : Option Bool := (log.foldl (Output.follow c) (false, none)).2

/-- **The reports are honest**: a flow is reported successful only if its
last prompt was answered `OK`. -/
def Honest (log : List Output) : Prop :=
  ∀ c before j after, log = before ++ .request j :: after → isSuccess c j = true →
    lastAnswer c before = some true

/-! ## The session as a machine -/

/-- The command of a line that is not empty. -/
def command? (line : String) : Option AssuanCommand :=
  if line = "" then none else (parseCommand (chomp line)).1

/-- **The session as a machine** of its lines, up to the one that ends it. -/
def machine : Machine PinentrySession String where
  init := greeted
  step s line := if line = "" then s else (s.handleCommand W (chomp line)).2

/-- The lines up to the one that ends the session. -/
def live (lines : List String) : List String :=
  lines.takeWhile fun line => command? line ≠ some .bye

/-- A line that prompts. -/
def Prompts (_ : PinentrySession) (line : String) : Prop :=
  command? line = some .getPin ∨ command? line = some .confirm

/-- What the daemon replies to the request of a `GETPIN`. -/
def pinReply (s : PinentrySession) : Option QJsonObject :=
  W.sendRequest (if s.awaitingTerminalResult then s.requests + 1 else s.requests)

/-- **The daemon's reply is a success**, with this password. -/
def Grants (response : QJsonObject) (password : String) : Prop :=
  (response.value "type").toString = "pinentry_response" ∧
    (response.value "result").toString = "ok" ∧ (response.value "password").toString = password

/-- **A `GETPIN` that is granted an empty password.** -/
def GrantsNothing (s : PinentrySession) (line : String) : Prop :=
  command? line = some .getPin ∧ ∃ response, pinReply W s = some response ∧ Grants response ""

variable {W} {s : PinentrySession} {line : String} {lines : List String}

theorem goesOn_iff (s : PinentrySession) (line : String) :
    (s.handleCommand W line).1 = true ↔ (parseCommand line).1 ≠ some .bye := by
  simp only [handleCommand]
  generalize parseCommand line = p
  obtain ⟨command, arg⟩ := p
  cases command with
  | none => simp
  | some command => cases command <;> simp

/-- **The loop runs the machine** on the lines before the last, and takes
the one that ends it. -/
theorem loop_eq : ∀ (lines : List String) (s : PinentrySession),
    loop W lines s = (lines.dropWhile fun line => command? line ≠ some .bye).head?.elim
      ((live lines).foldl (machine W).step s)
      fun line => (machine W).step ((live lines).foldl (machine W).step s) line
  | [], s => rfl
  | line :: lines, s => by
      have ih := loop_eq lines ((machine W).step s line)
      simp only [live] at ih ⊢
      by_cases hbye : command? line = some .bye
      · have hne : line ≠ "" := by
          rintro rfl
          simp [command?] at hbye
        have hstop : ¬ (s.handleCommand W (chomp line)).1 = true := by
          rw [goesOn_iff]
          simpa [command?, hne] using hbye
        simp [loop, hne, hstop, hbye, machine]
      · have hstep : loop W (line :: lines) s = loop W lines ((machine W).step s line) := by
          by_cases hne : line = ""
          · simp [loop, hne, machine]
          · have hgo : (s.handleCommand W (chomp line)).1 = true := by
              rw [goesOn_iff]
              simpa [command?, hne] using hbye
            simp [loop, hne, hgo, machine]
        rw [hstep, ih]
        simp [hbye]

/-- **The end of a session**, by `BYE` or by the end of input. -/
theorem run_cases (lines : List String) :
    run W lines = ((machine W).run (live lines)).finalizeOnStreamClose W ∨
      run W lines = ((((machine W).run (live lines)).finalizeOnStreamClose W).sendOk
        "closing connection").finalizeOnStreamClose W := by
  have hloop := loop_eq (W := W) lines greeted
  have hrun : (live lines).foldl (machine W).step greeted = (machine W).run (live lines) := rfl
  rw [hrun] at hloop
  unfold run
  cases hl : lines.dropWhile fun line => command? line ≠ some .bye with
  | nil =>
      rw [hl] at hloop
      exact .inl (by rw [hloop]; rfl)
  | cons line rest =>
      -- the line that ends the session is a `BYE`
      have hbye : command? line = some .bye := by
        have hhead := List.head?_dropWhile_not (fun line => command? line ≠ some .bye) lines
        rw [hl] at hhead
        simpa using hhead
      have hnonempty : line ≠ "" := by
        rintro rfl
        simp [command?] at hbye
      have hcmd : (parseCommand (chomp line)).1 = some .bye := by
        simpa [command?, hnonempty] using hbye
      have hstep : ∀ s : PinentrySession, (machine W).step s line =
          (s.finalizeOnStreamClose W).sendOk "closing connection" := by
        intro s
        simp only [machine, if_neg hnonempty, handleCommand]
        generalize parseCommand (chomp line) = p at hcmd
        obtain ⟨command, arg⟩ := p
        obtain rfl : command = some .bye := hcmd
        rfl
      rw [hl] at hloop
      exact .inr (by rw [hloop]; exact congrArg _ (hstep _))

/-! ## What one prompt does -/

/-- A message that is neither a prompt nor a report of success. -/
def Neutral (j : QJsonObject) : Prop := ∀ c, isPrompt c j = false ∧ isSuccess c j = false

/-- A prompt of the flow `cookie`. -/
def PromptOf (cookie : String) (j : QJsonObject) : Prop :=
  ∀ c, isPrompt c j = decide (cookie = c) ∧ isSuccess c j = false

/-- The answer to a prompt: `OK`, with data before it or not, or `ERR`. -/
inductive Answers : List Output → Bool → Prop
  | ok (comment : String) : Answers [.ok comment] true
  | data (text comment : String) : Answers [.data text, .ok comment] true
  | err (code : ℕ) (message : String) : Answers [.err code message] false

/-- **What a prompt does.** It is asked under the cookie of a flow and
answered once; the flow goes on if the daemon has granted it, and is over
if not. -/
structure Prompted (s s' : PinentrySession) (cookie : String) (granted answered : Bool) :
    Prop where
  log : ∃ before j after, s'.log = s.log ++ (before ++ .request j :: after) ∧
    (∀ o ∈ before, ∃ j, o = .request j ∧ Neutral j) ∧ PromptOf cookie j ∧ Answers after answered
  named : cookie ≠ ""
  awaits : s'.awaitingTerminalResult = granted
  flowCookie : s'.flowCookie = if granted then cookie else ""

theorem Answers.follow_waiting {after : List Output} {b : Bool} (h : Answers after b)
    (last : Option Bool) : after.foldl (Output.follow c) (true, last) = (false, some b) := by
  cases h <;> rfl

theorem Answers.follow_idle {after : List Output} {b : Bool} (h : Answers after b)
    (last : Option Bool) : after.foldl (Output.follow c) (false, last) = (false, last) := by
  cases h <;> rfl

theorem neutral_resultMessage {cookie result error : String} (h : result ≠ "success") :
    Neutral (resultMessage cookie result error) := by
  intro c
  unfold resultMessage isPrompt isSuccess
  split <;> simp [h]

theorem promptOf_passwordRequest (state : PinentryState) (cookie : String) :
    PromptOf cookie (passwordRequest state cookie) := by
  intro c
  simp [passwordRequest, isPrompt, isSuccess]

theorem promptOf_confirmRequest (state : PinentryState) (cookie : String) :
    PromptOf cookie (confirmRequest state cookie) := by
  intro c
  simp [confirmRequest, isPrompt, isSuccess]

/-- A cookie once made is not empty. -/
theorem ensureFlowCookie_ne (s : PinentrySession) : (s.ensureFlowCookie W).flowCookie ≠ "" := by
  unfold ensureFlowCookie
  split
  · exact W.createUuid_ne_empty _
  · assumption

@[simp] theorem ensureFlowCookie_log : (s.ensureFlowCookie W).log = s.log := by
  unfold ensureFlowCookie
  split <;> rfl

@[simp] theorem ensureFlowCookie_requests : (s.ensureFlowCookie W).requests = s.requests := by
  unfold ensureFlowCookie
  split <;> rfl

/-- The retry of a flow that awaits its result is reported, and no other. -/
theorem log_reportRetry (hc : s.awaitingTerminalResult = true → s.flowCookie ≠ "") :
    ∃ before, (s.reportRetry W).log = s.log ++ before ∧
      (∀ o ∈ before, ∃ j, o = Output.request j ∧ Neutral j) ∧
      (s.reportRetry W).requests =
        if s.awaitingTerminalResult then s.requests + 1 else s.requests := by
  unfold reportRetry
  split
  next haw =>
    have hne := hc haw
    refine ⟨[.request (resultMessage s.flowCookie "retry"
      (orDefault s.state.error "Authentication failed"))], ?_, ?_, ?_⟩
    · simp [reportTerminalResult, hne, sendRequest]
    · intro o ho
      exact ⟨_, List.mem_singleton.1 ho, neutral_resultMessage (by decide)⟩
    · simp [reportTerminalResult, hne, sendRequest]
  · exact ⟨[], by simp, by simp, rfl⟩

/-- The session once it has asked the daemon for a password. -/
def asked (W : PinentryWorld) (s : PinentrySession) : PinentrySession :=
  ((s.ensureFlowCookie W).sendRequest W
    (passwordRequest (s.ensureFlowCookie W).state (s.ensureFlowCookie W).flowCookie)).2

theorem requestPassword_eq (s : PinentrySession) :
    s.requestPasswordFromDaemon W =
      match W.sendRequest s.requests with
      | none => (none, (s.asked W).resetFlow)
      | some response =>
        if (response.value "type").toString = "pinentry_response" then
          if (response.value "result").toString = "ok" then
            (some (response.value "password").toString, (s.asked W).awaitResult)
          else (none, (s.asked W).resetFlow)
        else (none, (s.asked W).resetFlow) := by
  rw [← ensureFlowCookie_requests (W := W)]
  rfl

/-- **The daemon's verdict on a request for a password.** -/
theorem requestPassword_cases (s : PinentrySession) :
    (∃ response password, W.sendRequest s.requests = some response ∧
        Grants response password ∧
        s.requestPasswordFromDaemon W = (some password, (s.asked W).awaitResult)) ∨
      (∀ response, W.sendRequest s.requests = some response →
          ∀ password, ¬ Grants response password) ∧
        s.requestPasswordFromDaemon W = (none, (s.asked W).resetFlow) := by
  rw [requestPassword_eq]
  cases hr : W.sendRequest s.requests with
  | none => exact .inr ⟨nofun, rfl⟩
  | some response =>
      by_cases ht : (response.value "type").toString = "pinentry_response"
      · by_cases hres : (response.value "result").toString = "ok"
        · exact .inl ⟨response, _, rfl, ⟨ht, hres, rfl⟩, by simp only [ht, hres, if_true]⟩
        · refine .inr ⟨?_, by simp only [ht, hres, if_true, if_false]⟩
          rintro _ ⟨⟩ password hg
          exact hres hg.2.1
      · refine .inr ⟨?_, by simp only [ht, if_false]⟩
        rintro _ ⟨⟩ password hg
        exact ht hg.1

/-- **A `GETPIN`**: the flow goes on if the daemon's reply is a success, and
the answer is `OK` if a password came with it. -/
theorem prompted_handleGetPin (hc : s.awaitingTerminalResult = true → s.flowCookie ≠ "") :
    ∃ cookie, (∃ response password, pinReply W s = some response ∧ Grants response password ∧
        Prompted s (s.handleGetPin W) cookie true (password ≠ "")) ∨
      (∀ response, pinReply W s = some response → ∀ password, ¬ Grants response password) ∧
        Prompted s (s.handleGetPin W) cookie false false := by
  obtain ⟨before, hlog, hbefore, hreq⟩ := log_reportRetry (W := W) hc
  have hreply : pinReply W s = W.sendRequest (s.reportRetry W).requests := by rw [hreq]; rfl
  have hne := ensureFlowCookie_ne (W := W) (s.reportRetry W)
  have hprompt := promptOf_passwordRequest ((s.reportRetry W).ensureFlowCookie W).state
    ((s.reportRetry W).ensureFlowCookie W).flowCookie
  have hasked : ∀ os, ((s.reportRetry W).asked W).log ++ os = s.log ++ (before ++
      .request (passwordRequest ((s.reportRetry W).ensureFlowCookie W).state
        ((s.reportRetry W).ensureFlowCookie W).flowCookie) :: os) := by
    intro os
    simp [asked, sendRequest, hlog]
  refine ⟨((s.reportRetry W).ensureFlowCookie W).flowCookie, ?_⟩
  rcases requestPassword_cases (W := W) (s.reportRetry W) with
    ⟨response, password, hr, hg, heq⟩ | ⟨hnone, heq⟩
  · refine .inl ⟨response, password, hreply.trans hr, hg, ?_⟩
    simp only [handleGetPin, heq]
    split
    next hp =>
      have hans : Answers [.data (Assuan.assuanEncode password), .ok ""]
          (decide (password ≠ "")) := by
        rw [decide_eq_true hp]
        exact .data _ _
      refine ⟨⟨before, _, _, ?_, hbefore, hprompt, hans⟩, hne, ?_, ?_⟩
      · rw [← hasked]
        simp
      · simp
      · simp [asked, sendRequest]
    next hp =>
      have hans : Answers [.err 83886179 "Operation cancelled"] (decide (password ≠ "")) := by
        rw [decide_eq_false hp]
        exact .err _ _
      refine ⟨⟨before, _, _, ?_, hbefore, hprompt, hans⟩, hne, ?_, ?_⟩
      · rw [← hasked]
        simp
      · simp
      · simp [asked, sendRequest]
  · refine .inr ⟨fun r h => hnone r (hreply.symm.trans h), ?_⟩
    simp only [handleGetPin, heq]
    refine ⟨⟨before, _, _, ?_, hbefore, hprompt, .err 83886179 "Operation cancelled"⟩, hne, ?_, ?_⟩
    · rw [← hasked]
      simp
    · simp
    · simp

/-- **A `CONFIRM`**: the flow goes on if the daemon's reply is a success,
and that is the answer. -/
theorem prompted_handleConfirm (s : PinentrySession) :
    ∃ cookie b, Prompted s (s.handleConfirm W) cookie b b := by
  have hne := ensureFlowCookie_ne (W := W) s
  have hprompt := promptOf_confirmRequest (s.ensureFlowCookie W).state
    (s.ensureFlowCookie W).flowCookie
  have hrefused : ∀ t : PinentrySession, t.log = s.log ++ [.request (confirmRequest
      (s.ensureFlowCookie W).state (s.ensureFlowCookie W).flowCookie)] →
      Prompted s (((t.resetFlow).sendError 83886179 "Operation cancelled").clearError)
        (s.ensureFlowCookie W).flowCookie false false := by
    intro t htlog
    refine ⟨⟨[], _, _, ?_, by simp, hprompt, .err 83886179 "Operation cancelled"⟩, hne, rfl, rfl⟩
    simp [clearError, sendError, htlog]
  refine ⟨(s.ensureFlowCookie W).flowCookie, ?_⟩
  simp only [handleConfirm, requestConfirmFromDaemon, sendRequest, ensureFlowCookie_requests]
  cases hr : W.sendRequest s.requests with
  | none => exact ⟨false, hrefused _ (by simp)⟩
  | some response =>
      by_cases hg : (response.value "type").toString = "pinentry_response" ∧
          (response.value "result").toString = "confirmed"
      · refine ⟨true, ⟨[], _, _, ?_, by simp, hprompt, .ok ""⟩, hne, ?_, ?_⟩
        · simp [hg, clearError, sendOk, awaitResult]
        · simp [hg, clearError, sendOk, awaitResult]
        · simp [hg, clearError, sendOk, awaitResult]
      · refine ⟨false, ?_⟩
        simp only [if_neg hg]
        exact hrefused _ (by simp)

/-- **What any other command does**: it writes to the caller, and leaves the
flow alone. -/
structure Spoke (s s' : PinentrySession) : Prop where
  log : ∃ os, s'.log = s.log ++ os ∧ ∀ j, Output.request j ∉ os
  flowCookie : s'.flowCookie = s.flowCookie
  awaits : s'.awaitingTerminalResult = s.awaitingTerminalResult

theorem spoke_sendOk {s' : PinentrySession} (os : List Output) {comment : String}
    (hl : s'.log = s.log ++ os) (hos : ∀ j, Output.request j ∉ os)
    (hc : s'.flowCookie = s.flowCookie)
    (ha : s'.awaitingTerminalResult = s.awaitingTerminalResult) : Spoke s (s'.sendOk comment) := by
  refine ⟨⟨os ++ [.ok comment], by simp [sendOk, hl], fun j => ?_⟩, hc, ha⟩
  simpa using hos j

theorem spoke_handleGetInfo (arg : String) : Spoke s (s.handleGetInfo W arg) := by
  have hdata : ∀ text, Spoke s ((s.sendData text).sendOk) := fun text =>
    spoke_sendOk [.data (Assuan.assuanEncode text)] rfl (by simp) rfl rfl
  have hok : Spoke s s.sendOk := spoke_sendOk [] (by simp) (by simp) rfl rfl
  unfold handleGetInfo
  split_ifs
  · exact hdata _
  · exact hdata _
  · exact hdata _
  · exact hdata _
  · exact hok

theorem spoke_handleCommand {line : String} (hbye : (parseCommand line).1 ≠ some .bye)
    (hpin : (parseCommand line).1 ≠ some .getPin)
    (hconfirm : (parseCommand line).1 ≠ some .confirm) :
    Spoke s (s.handleCommand W line).2 := by
  simp only [handleCommand]
  generalize parseCommand line = p at hbye hpin hconfirm
  obtain ⟨command, arg⟩ := p
  have hok : ∀ state, Spoke s ((s.setState state).sendOk) := fun state =>
    spoke_sendOk [] (by simp) (by simp) rfl rfl
  have hok' : Spoke s s.sendOk := spoke_sendOk [] (by simp) (by simp) rfl rfl
  cases command with
  | none => exact hok'
  | some command =>
      cases command with
      | bye => exact absurd rfl hbye
      | getPin => exact absurd rfl hpin
      | confirm => exact absurd rfl hconfirm
      | getInfo => exact spoke_handleGetInfo arg
      | option | message | nop => exact hok'
      | _ => exact hok _

/-! ## The invariant -/

/-- **The session remembers what it has answered**: nothing has been
reported successful, no prompt waits for its answer, a flow is open exactly
while its result is awaited, and its last prompt was answered `OK` unless
the session has been misled. -/
structure Faithful (misled : Prop) (s : PinentrySession) : Prop where
  quiet : ∀ j, Output.request j ∈ s.log → ∀ c, isSuccess c j = false
  idle : ∀ c, (s.log.foldl (Output.follow c) (false, none)).1 = false
  named : s.flowCookie ≠ "" ↔ s.awaitingTerminalResult = true
  answered : s.awaitingTerminalResult = true →
    ∃ b, lastAnswer s.flowCookie s.log = some b ∧ (b = false ↔ misled)
  awaits : misled → s.awaitingTerminalResult = true

theorem follow_of_no_request : ∀ (os : List Output) (last : Option Bool)
    (_ : ∀ j, Output.request j ∉ os), os.foldl (Output.follow c) (false, last) = (false, last)
  | [], _, _ => rfl
  | o :: os, last, h => by
      have hrest : ∀ j, Output.request j ∉ os := fun j hj => h j (List.mem_cons_of_mem _ hj)
      cases o with
      | request j => exact absurd List.mem_cons_self (h j)
      | ok comment => exact follow_of_no_request os last hrest
      | err code message => exact follow_of_no_request os last hrest
      | data text => exact follow_of_no_request os last hrest

theorem follow_of_neutral : ∀ (os : List Output) (last : Option Bool)
    (_ : ∀ o ∈ os, ∃ j, o = Output.request j ∧ Neutral j),
    os.foldl (Output.follow c) (false, last) = (false, last)
  | [], _, _ => rfl
  | o :: os, last, h => by
      obtain ⟨j, rfl, hj⟩ := h o List.mem_cons_self
      have hstep : Output.follow c (false, last) (.request j) = (false, last) := by
        simp [Output.follow, (hj c).1]
      rw [List.foldl_cons, hstep]
      exact follow_of_neutral os last fun o' ho' => h o' (List.mem_cons_of_mem _ ho')

variable {c} {m m' : Prop} {s' : PinentrySession}

theorem Faithful.congr (h : Faithful m s) (hm : m' ↔ m) : Faithful m' s :=
  ⟨h.quiet, h.idle, h.named, fun ha => by
    obtain ⟨b, hl, hb⟩ := h.answered ha
    exact ⟨b, hl, hb.trans hm.symm⟩, fun hm' => h.awaits (hm.1 hm')⟩

theorem Faithful.fold (h : Faithful m s) (c : String) :
    s.log.foldl (Output.follow c) (false, none) = (false, lastAnswer c s.log) :=
  Prod.ext (h.idle c) rfl

/-- Another command keeps the memory. -/
theorem Faithful.spoke (h : Faithful m s) (hs : Spoke s s') : Faithful m s' := by
  obtain ⟨⟨os, hlog, hos⟩, hcookie, haw⟩ := hs
  have hfold : ∀ c, s'.log.foldl (Output.follow c) (false, none) =
      (false, lastAnswer c s.log) := by
    intro c
    rw [hlog, List.foldl_append, h.fold, follow_of_no_request c os _ hos]
  refine ⟨fun j hj => ?_, fun c => by rw [hfold], by rw [hcookie, haw]; exact h.named,
    fun ha => ?_, fun hm => haw ▸ h.awaits hm⟩
  · rw [hlog, List.mem_append] at hj
    exact hj.elim (h.quiet j) fun hj => absurd hj (hos j)
  · rw [lastAnswer, hfold, hcookie]
    exact h.answered (haw ▸ ha)

/-- **A prompt renews it**: the session is misled by what is granted and not
answered `OK`, and by nothing else. -/
theorem Faithful.prompted {cookie : String} {granted answered : Bool} (h : Faithful m s)
    (hp : Prompted s s' cookie granted answered)
    (hm : m' ↔ granted = true ∧ answered = false) : Faithful m' s' := by
  obtain ⟨⟨before, j, after, hlog, hbefore, hj, hafter⟩, hne, haw, hcookie⟩ := hp
  have hfold : ∀ c, s'.log.foldl (Output.follow c) (false, none) =
      (false, if cookie = c then some answered else lastAnswer c s.log) := by
    intro c
    rw [hlog, List.foldl_append, h.fold, List.foldl_append, follow_of_neutral c before _ hbefore,
      List.foldl_cons]
    by_cases hc : cookie = c
    · have hstep : Output.follow c (false, lastAnswer c s.log) (.request j) = (true, none) := by
        simp [Output.follow, (hj c).1, hc]
      rw [hstep, hafter.follow_waiting, if_pos hc]
    · have hstep : Output.follow c (false, lastAnswer c s.log) (.request j) =
          (false, lastAnswer c s.log) := by simp [Output.follow, (hj c).1, hc]
      rw [hstep, hafter.follow_idle, if_neg hc]
  refine ⟨fun j' hj' c => ?_, fun c => by rw [hfold], ?_, fun ha => ?_, fun hm' => ?_⟩
  · rw [hlog] at hj'
    simp only [List.mem_append, List.mem_cons, Output.request.injEq] at hj'
    rcases hj' with hj' | hj' | rfl | hj'
    · exact h.quiet j' hj' c
    · obtain ⟨j'', heq, hn⟩ := hbefore _ hj'
      obtain rfl : j' = j'' := Output.request.inj heq
      exact (hn c).2
    · exact (hj c).2
    · cases hafter <;> simp at hj'
  · rw [hcookie, haw]
    cases granted <;> simp [hne]
  · rw [haw] at ha
    refine ⟨answered, ?_, ?_⟩
    · rw [lastAnswer, hfold, hcookie, ha]
      simp
    · rw [hm]
      simp [ha]
  · rw [haw]
    exact (hm.1 hm').1

/-! ## Runs -/

theorem command?_eq {line : String} {command : AssuanCommand} (h : command? line = some command) :
    line ≠ "" ∧ (parseCommand (chomp line)).1 = some command := by
  unfold command? at h
  split at h
  · cases h
  next hne => exact ⟨hne, h⟩

theorem step_of_command {command : AssuanCommand}
    (h : command? line = some command) :
    (machine W).step s line = (s.handleCommand W (chomp line)).2 := by
  simp only [machine, if_neg (command?_eq h).1]

/-- **A prompt for a secret**: the memory is of this prompt alone. -/
theorem Faithful.step_getPin (h : Faithful m s)
    (hpin : command? line = some .getPin) :
    Faithful (GrantsNothing W s line) ((machine W).step s line) := by
  have hget : (machine W).step s line = s.handleGetPin W := by
    rw [step_of_command hpin]
    simp only [handleCommand, (command?_eq hpin).2]
  rw [hget]
  obtain ⟨cookie, ⟨response, password, hr, hg, hp⟩ | ⟨hnone, hp⟩⟩ :=
    prompted_handleGetPin (W := W) h.named.2
  · refine h.prompted hp ⟨?_, fun hm => ⟨hpin, response, hr, ?_⟩⟩
    · rintro ⟨-, response', hr', hg'⟩
      obtain rfl := Option.some.inj (hr.symm.trans hr')
      have hempty : password = "" := hg.2.2.symm.trans hg'.2.2
      exact ⟨rfl, by simp [hempty]⟩
    · have hempty : password = "" := by simpa using hm.2
      exact hempty ▸ hg
  · refine h.prompted hp ⟨?_, fun hm => by simp at hm⟩
    rintro ⟨-, response', hr', hg'⟩
    exact absurd hg' (hnone response' hr' "")

/-- **A confirmation misleads nobody.** -/
theorem Faithful.step_confirm (h : Faithful m s)
    (hconfirm : command? line = some .confirm) : Faithful False ((machine W).step s line) := by
  have hget : (machine W).step s line = s.handleConfirm W := by
    rw [step_of_command hconfirm]
    simp only [handleCommand, (command?_eq hconfirm).2]
  obtain ⟨cookie, b, hp⟩ := prompted_handleConfirm (W := W) s
  rw [hget]
  exact h.prompted hp ⟨False.elim, fun hm => by simp_all⟩

/-- **Any other line but the last** leaves the memory as it is. -/
theorem Faithful.step_other (h : Faithful m s) (hbye : command? line ≠ some .bye)
    (hprompts : ¬ Prompts s line) : Faithful m ((machine W).step s line) := by
  obtain ⟨hpin, hconfirm⟩ := not_or.1 hprompts
  by_cases hne : line = ""
  · simpa [machine, hne] using h
  · have heq : command? line = (parseCommand (chomp line)).1 := by simp [command?, hne]
    rw [heq] at hbye hpin hconfirm
    have hspoke : (machine W).step s line = (s.handleCommand W (chomp line)).2 := by
      simp only [machine, if_neg hne]
    rw [hspoke]
    exact h.spoke (spoke_handleCommand hbye hpin hconfirm)

/-- **Every line but the last keeps the memory.** -/
theorem faithful_run (W : PinentryWorld) {lines : List String}
    (hl : ∀ line ∈ lines, command? line ≠ some .bye) :
    Faithful ((machine W).Since (GrantsNothing W) Prompts lines) ((machine W).run lines) := by
  induction lines using List.reverseRecOn with
  | nil =>
      refine ⟨by simp [machine, greeted, sendOk], fun c => rfl, by simp [machine, greeted, sendOk],
        fun ha => ?_, fun hs => absurd hs Machine.not_since_nil⟩
      cases ha
  | append_singleton lines line ih =>
      have h := ih fun l hmem => hl l (List.mem_append_left _ hmem)
      rw [Machine.run_snoc]
      have hsince : (machine W).Since (GrantsNothing W) Prompts (lines ++ [line]) ↔
          GrantsNothing W ((machine W).run lines) line ∨
            ((machine W).Since (GrantsNothing W) Prompts lines ∧
              ¬ Prompts ((machine W).run lines) line) := Machine.since_snoc
      generalize (machine W).run lines = s at h hsince ⊢
      by_cases hpin : command? line = some .getPin
      · have hprompts : Prompts s line := .inl hpin
        exact (h.step_getPin hpin).congr (hsince.trans (or_iff_left fun hn => hn.2 hprompts))
      have hgrants : ¬ GrantsNothing W s line := fun hg => hpin hg.1
      by_cases hconfirm : command? line = some .confirm
      · have hprompts : Prompts s line := .inr hconfirm
        exact (h.step_confirm hconfirm).congr
          ⟨fun hs => (hsince.1 hs).elim hgrants fun hn => hn.2 hprompts, False.elim⟩
      · -- any other line: the last prompt is what it was
        have hprompts : ¬ Prompts s line := fun hp => hp.elim hpin hconfirm
        refine (h.step_other (hl line (by simp)) hprompts).congr (hsince.trans ?_)
        rw [or_iff_right hgrants, and_iff_left hprompts]

/-! ## The end of a session -/

theorem honest_append_iff {log : List Output} {o : Output}
    (hq : ∀ j, Output.request j ∈ log → ∀ c, isSuccess c j = false) :
    Honest (log ++ [o]) ↔ ∀ c j, o = .request j → isSuccess c j = true →
      lastAnswer c log = some true := by
  constructor
  · rintro h c j rfl hj
    exact h c log j [] rfl hj
  · intro h c before j after heq hj
    rcases List.eq_nil_or_concat after with rfl | ⟨after, o', rfl⟩
    · obtain ⟨rfl, ho⟩ := List.append_inj' heq rfl
      exact h c j (List.singleton_inj.1 ho) hj
    · have heq' : log ++ [o] = (before ++ .request j :: after) ++ [o'] := by simpa using heq
      have hmem : Output.request j ∈ log := by
        rw [(List.append_inj' heq' rfl).1]
        simp
      rw [hq j hmem c] at hj
      cases hj

theorem honest_of_quiet {log : List Output}
    (hq : ∀ j, Output.request j ∈ log → ∀ c, isSuccess c j = false) : Honest log := by
  rintro c before j after rfl hj
  rw [hq j (by simp) c] at hj
  cases hj

/-- Another line after the end changes nothing. -/
theorem honest_ok_iff {log : List Output} {comment : String} :
    Honest (log ++ [.ok comment]) ↔ Honest log := by
  constructor
  · rintro h c before j after rfl hj
    exact h c before j (after ++ [.ok comment]) (by simp) hj
  · intro h c before j after heq hj
    rcases List.eq_nil_or_concat after with rfl | ⟨after, o', rfl⟩
    · have := (List.append_inj' heq rfl).2
      simp at this
    · have heq' : log ++ [.ok comment] = (before ++ .request j :: after) ++ [o'] := by
        simpa using heq
      exact h c before j after (List.append_inj' heq' rfl).1 hj

/-- **The last report is honest** unless the session is misled and no error
text stands. -/
theorem Faithful.settled_iff (h : Faithful m s) :
    Honest (s.finalizeOnStreamClose W).log ↔ ¬ (m ∧ s.state.error = "") := by
  unfold finalizeOnStreamClose
  split
  next haw =>
    obtain ⟨b, hb, hm⟩ := h.answered haw
    have hne := h.named.2 haw
    have hlog : ∀ result error, result ≠ "retry" → (s.reportTerminalResult W result error).log =
        s.log ++ [.request (resultMessage s.flowCookie result error)] := by
      intro result error hr
      simp [reportTerminalResult, hne, sendRequest, hr]
    split
    next he =>
      rw [hlog _ _ (by decide), honest_append_iff h.quiet]
      refine ⟨fun _ hn => he hn.2, fun _ c j hj hs => ?_⟩
      rw [← Output.request.inj hj, (neutral_resultMessage (by decide) c).2] at hs
      cases hs
    next he =>
      have hs : ∀ c, isSuccess c (resultMessage s.flowCookie "success" "") =
          decide (s.flowCookie = c) := by
        intro c
        simp [resultMessage, isSuccess]
      rw [hlog _ _ (by decide), honest_append_iff h.quiet]
      rw [not_not] at he
      constructor
      · rintro hh ⟨hmis, -⟩
        have := hh s.flowCookie _ rfl (by rw [hs]; simp)
        rw [hb, hm.2 hmis] at this
        cases this
      · rintro hn c j hj hsucc
        rw [← Output.request.inj hj, hs, decide_eq_true_eq] at hsucc
        subst hsucc
        rw [hb]
        cases b with
        | true => rfl
        | false => exact absurd ⟨hm.1 rfl, he⟩ hn
  next haw =>
    have hc : ¬ s.flowCookie ≠ "" := fun hc => haw (h.named.1 hc)
    rw [if_neg hc]
    exact ⟨fun _ hm => haw (h.awaits hm.1), fun _ => honest_of_quiet h.quiet⟩

/-- Once its end is reported the session has no more to say. -/
theorem finalize_finalize (h : Faithful m s) (comment : String) :
    (((s.finalizeOnStreamClose W).sendOk comment).finalizeOnStreamClose W).log =
      (s.finalizeOnStreamClose W).log ++ [.ok comment] := by
  have hover : (s.finalizeOnStreamClose W).awaitingTerminalResult = false ∧
      (s.finalizeOnStreamClose W).flowCookie = "" := by
    have hreport : s.flowCookie ≠ "" → ∀ result error, result ≠ "retry" →
        (s.reportTerminalResult W result error).awaitingTerminalResult = false ∧
          (s.reportTerminalResult W result error).flowCookie = "" := by
      intro hne result error hr
      simp [reportTerminalResult, hne, sendRequest, hr]
    unfold finalizeOnStreamClose
    split
    next haw =>
      have hne := h.named.2 haw
      split <;> exact hreport hne _ _ (by decide)
    next haw =>
      have hc : ¬ s.flowCookie ≠ "" := fun hc => haw (h.named.1 hc)
      rw [if_neg hc]
      exact ⟨by simpa using haw, by simpa using hc⟩
  generalize s.finalizeOnStreamClose W = t at hover ⊢
  simp [finalizeOnStreamClose, sendOk, hover.1, hover.2]

/-- **An honest outcome.** Whatever the lines and the replies, a session's
reports are honest exactly when it does not end with its last prompt
granted an empty password, and no error text. -/
theorem honest_iff (W : PinentryWorld) (lines : List String) :
    Honest (run W lines).log ↔
      ¬ ((machine W).Since (GrantsNothing W) Prompts (live lines) ∧
        ((machine W).run (live lines)).state.error = "") := by
  have hlive : ∀ line ∈ live lines, command? line ≠ some .bye := by
    intro line hmem
    simpa using List.mem_takeWhile_imp hmem
  have h := faithful_run W hlive
  rcases run_cases (W := W) lines with heq | heq
  · rw [heq]
    exact h.settled_iff
  · rw [heq, finalize_finalize h, honest_ok_iff]
    exact h.settled_iff

/-- The user enters an empty passphrase: the caller is told that the
operation was cancelled, and the daemon that it succeeded. -/
theorem not_honest :
    ¬ ∀ (W : PinentryWorld) (lines : List String), Honest (run W lines).log := by
  intro h
  let W := PinentryWorld.constant
    [("type", "pinentry_response"), ("id", "u"), ("result", "ok"), ("password", "")]
  let before : List Output := (run W ["GETPIN", "BYE"]).log.take 3
  have hlog : (run W ["GETPIN", "BYE"]).log = before ++
      .request (resultMessage "u" "success" "") :: [.ok "closing connection"] := by decide
  have hlast := h W ["GETPIN", "BYE"] "u" before _ _ hlog (by decide)
  revert hlast
  decide

end PinentrySession

end BbAuth
