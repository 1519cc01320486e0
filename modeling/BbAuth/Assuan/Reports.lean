import BbAuth.Assuan.Honesty
/-!
# One terminal report for each flow

What a session says to the daemon is a list of exchanges, each a request
with the reply to it, and every exchange belongs to the flow of one
cookie. A flow is open until its terminal result is reported or a prompt
of it is not granted, and nothing is said of it afterwards. When the
session is over every flow is.
-/

namespace BbAuth

namespace PinentrySession

/-! ## The exchanges -/

/-- The request of an output. -/
def Output.request? : Output → Option QJsonObject
  | .request json => some json
  | _ => none

/-- The requests that were sent. -/
def sent (log : List Output) : List QJsonObject := log.filterMap Output.request?

/-- **The exchanges with the daemon**: each request with its reply. -/
def exchanges (W : PinentryWorld) (log : List Output) : List (QJsonObject × Option QJsonObject) :=
  (sent log).zipIdx.map fun e => (e.1, W.sendRequest e.2)

/-- The cookie a request is about. -/
def subject (json : QJsonObject) : String :=
  if (json.value "type").toString = "pinentry_request" then (json.value "cookie").toString
  else (json.value "id").toString

/-- **What was said of a flow**, in its order. -/
def said (W : PinentryWorld) (cookie : String) (log : List Output) :
    List (QJsonObject × Option QJsonObject) :=
  (exchanges W log).filter fun e => subject e.1 = cookie

/-- **A terminal report**: a result other than a retry. -/
def IsTerminal (json : QJsonObject) : Prop :=
  (json.value "type").toString = "pinentry_result" ∧ (json.value "result").toString ≠ "retry"

/-- **The daemon grants a prompt**: its reply is the success the session
waits for. -/
def Granted (e : QJsonObject × Option QJsonObject) : Prop :=
  ∃ reply, e.2 = some reply ∧ (reply.value "type").toString = "pinentry_response" ∧
    (reply.value "result").toString =
      if (e.1.value "confirm_only").toBool then "confirmed" else "ok"

/-- **A prompt that is not granted**: it is refused, cancelled or failed. -/
def IsRefused (e : QJsonObject × Option QJsonObject) : Prop :=
  (e.1.value "type").toString = "pinentry_request" ∧ ¬ Granted e

/-! ## Flows -/

/-- No terminal result has been reported. -/
def Open (l : List (QJsonObject × Option QJsonObject)) : Prop := ∀ e ∈ l, ¬ IsTerminal e.1

/-- **The flow is over**: the last that was said of it is its terminal
result, the only one, or a prompt that was not granted. -/
def Over (l : List (QJsonObject × Option QJsonObject)) : Prop :=
  ∃ before e, l = before ++ [e] ∧ Open before ∧ (IsTerminal e.1 ∨ IsRefused e)

variable (W : PinentryWorld) {s s' : PinentrySession} {n : ℕ} {cookie : String} {json : QJsonObject}

/-- **The session keeps its accounts**: it counts its requests and its
cookies, the flow under way is open, and every other is over. -/
structure Accounts (s : PinentrySession) : Prop where
  requests : s.requests = (sent s.log).length
  unused : ∀ n, s.cookies ≤ n → said W (W.createUuid n) s.log = []
  current : s.flowCookie ≠ "" → ∃ n < s.cookies, s.flowCookie = W.createUuid n
  open_ : ∀ n, W.createUuid n = s.flowCookie → Open (said W (W.createUuid n) s.log)
  finished : ∀ n < s.cookies, W.createUuid n ≠ s.flowCookie → Over (said W (W.createUuid n) s.log)

/-- Between two lines a flow is under way exactly while its result is
awaited. -/
def Named (s : PinentrySession) : Prop := s.flowCookie ≠ "" ↔ s.awaitingTerminalResult = true

variable {W}

/-! ## What is said -/

theorem sent_append (l m : List Output) : sent (l ++ m) = sent l ++ sent m :=
  List.filterMap_append

theorem said_of_sent {l m : List Output} (h : sent m = sent l) :
    said W cookie m = said W cookie l := by
  rw [said, said, exchanges, exchanges, h]

theorem exchanges_snoc (log : List Output) (json : QJsonObject) :
    exchanges W (log ++ [.request json]) =
      exchanges W log ++ [(json, W.sendRequest (sent log).length)] := by
  have hone : sent [Output.request json] = [json] := rfl
  rw [exchanges, sent_append, hone, List.zipIdx_append, List.map_append]
  simp [exchanges]

/-- A request is said of the flow it is about. -/
theorem said_snoc (log : List Output) (json : QJsonObject) (cookie : String) :
    said W cookie (log ++ [.request json]) =
      if subject json = cookie then
        said W cookie log ++ [(json, W.sendRequest (sent log).length)]
      else said W cookie log := by
  rw [said, exchanges_snoc, List.filter_append]
  split
  next h => simp [h, said]
  next h => simp [h, said]

/-! ## What the session does to its accounts -/

/-- What is written to the caller is nothing to the daemon. -/
theorem Accounts.quiet (h : Accounts W s) (hsent : sent s'.log = sent s.log)
    (hr : s'.requests = s.requests) (hk : s'.cookies = s.cookies)
    (hc : s'.flowCookie = s.flowCookie) : Accounts W s' where
  requests := by rw [hr, hsent, h.requests]
  unused n hn := by
    rw [said_of_sent hsent]
    exact h.unused n (hk ▸ hn)
  current hne := by
    rw [hc] at hne ⊢
    rw [hk]
    exact h.current hne
  open_ n hn := by
    rw [said_of_sent hsent]
    exact h.open_ n (hc ▸ hn)
  finished n hn hne := by
    rw [said_of_sent hsent]
    exact h.finished n (hk ▸ hn) (hc ▸ hne)

/-- A cookie is made for a flow that nothing has been said of. -/
theorem Accounts.ensureFlowCookie (h : Accounts W s) : Accounts W (s.ensureFlowCookie W) := by
  unfold PinentrySession.ensureFlowCookie
  split
  next hnone =>
    refine ⟨h.requests, fun n hn => h.unused n (Nat.le_of_succ_le hn),
      fun _ => ⟨s.cookies, Nat.lt_succ_self _, rfl⟩,
      fun n hn => ?_, fun n hn hne => ?_⟩
    · obtain rfl := W.createUuid_injective hn
      rw [h.unused s.cookies le_rfl]
      exact fun _ he => absurd he List.not_mem_nil
    · dsimp only at hn hne ⊢
      have hlt : n < s.cookies := by
        refine Nat.lt_of_le_of_ne (Nat.lt_succ_iff.1 hn) fun heq => hne ?_
        rw [heq]
      exact h.finished n hlt (hnone ▸ W.createUuid_ne_empty n)
  next => exact h

/-- What is said of the flow under way is not said of one to come. -/
theorem Accounts.ne_unused (h : Accounts W s) (hne : s.flowCookie ≠ "")
    (hsub : subject json = s.flowCookie) (hn : s.cookies ≤ n) : subject json ≠ W.createUuid n := by
  obtain ⟨m, hm, hcookie⟩ := h.current hne
  rw [hsub, hcookie]
  intro heq
  have := W.createUuid_injective heq
  omega

/-- **Something is said of the flow under way** that does not end it. -/
theorem Accounts.sendRequest (h : Accounts W s) (hne : s.flowCookie ≠ "")
    (hsub : subject json = s.flowCookie) (hopen : ¬ IsTerminal json) :
    Accounts W (s.sendRequest W json).2 where
  requests := by
    simp [PinentrySession.sendRequest, h.requests, sent, Output.request?]
  unused n hn := by
    simp only [PinentrySession.sendRequest, emit_log]
    rw [said_snoc, if_neg (h.ne_unused hne hsub hn)]
    exact h.unused n hn
  current := h.current
  open_ n hn := by
    simp only [PinentrySession.sendRequest, emit_log]
    rw [said_snoc, if_pos (hsub.trans hn.symm)]
    intro e he
    rcases List.mem_append.1 he with he | he
    · exact h.open_ n hn e he
    · rw [List.mem_singleton.1 he]
      exact hopen
  finished n hn hother := by
    simp only [PinentrySession.sendRequest, emit_log]
    rw [said_snoc, if_neg fun heq => hother (heq.symm.trans hsub)]
    exact h.finished n hn hother

/-- **The last is said of the flow under way**, and it is over. -/
theorem Accounts.endFlow (h : Accounts W s) (hne : s.flowCookie ≠ "")
    (hsub : subject json = s.flowCookie)
    (hend : IsTerminal json ∨ IsRefused (json, W.sendRequest s.requests)) :
    Accounts W (s.sendRequest W json).2.resetFlow := by
  refine ⟨?_, fun n hn => ?_, fun hn => absurd rfl hn, fun n hn => ?_, fun n hn _ => ?_⟩
  · simp [PinentrySession.sendRequest, h.requests, sent, Output.request?]
  · simp only [PinentrySession.sendRequest, emit_log, resetFlow_log]
    rw [said_snoc, if_neg (h.ne_unused hne hsub hn)]
    exact h.unused n hn
  · exact absurd hn (W.createUuid_ne_empty n)
  · simp only [PinentrySession.sendRequest, emit_log, resetFlow_log]
    rw [said_snoc]
    by_cases heq : subject json = W.createUuid n
    · rw [if_pos heq]
      have hopen := h.open_ n (heq.symm.trans hsub)
      exact ⟨_, _, rfl, hopen, by rwa [← h.requests]⟩
    · rw [if_neg heq]
      exact h.finished n hn fun hn => heq (hsub.trans hn.symm)

/-! ## The messages -/

theorem subject_resultMessage (cookie result error : String) :
    subject (resultMessage cookie result error) = cookie := by
  unfold resultMessage
  split <;> simp [subject]

theorem isTerminal_resultMessage {cookie result error : String} :
    IsTerminal (resultMessage cookie result error) ↔ result ≠ "retry" := by
  unfold resultMessage IsTerminal
  split <;> simp

theorem type_passwordRequest (state : PinentryState) (cookie : String) :
    ((passwordRequest state cookie).value "type").toString = "pinentry_request" := by
  simp [passwordRequest]

theorem subject_passwordRequest (state : PinentryState) (cookie : String) :
    subject (passwordRequest state cookie) = cookie := by
  simp [subject, passwordRequest]

theorem confirmOnly_passwordRequest (state : PinentryState) (cookie : String) :
    ((passwordRequest state cookie).value "confirm_only").toBool = false := by
  simp [passwordRequest, QJsonValue.toBool]

theorem subject_confirmRequest (state : PinentryState) (cookie : String) :
    subject (confirmRequest state cookie) = cookie := by
  simp [subject, confirmRequest]

/-! ## The commands -/

/-- **A report that ends the flow.** -/
theorem Accounts.reportTerminalResult (h : Accounts W s) (hne : s.flowCookie ≠ "")
    {result error : String} (hr : result ≠ "retry") :
    Accounts W (s.reportTerminalResult W result error) := by
  have hend := h.endFlow hne (subject_resultMessage s.flowCookie result error)
    (.inl (isTerminal_resultMessage.2 hr))
  simpa [PinentrySession.reportTerminalResult, hne, hr] using hend

/-- A retry leaves the flow open. -/
theorem Accounts.reportRetry (h : Accounts W s) (hn : Named s) : Accounts W (s.reportRetry W) := by
  unfold PinentrySession.reportRetry
  split
  next haw =>
    have hne := hn.2 haw
    have hsend := h.sendRequest hne (subject_resultMessage s.flowCookie "retry"
      (orDefault s.state.error "Authentication failed"))
      fun ht => isTerminal_resultMessage.1 ht rfl
    have hclear : Accounts W (clearSubmitState (s.sendRequest W (resultMessage s.flowCookie "retry"
      (orDefault s.state.error "Authentication failed"))).2) := hsend.quiet rfl rfl rfl rfl
    simpa [PinentrySession.reportTerminalResult, hne] using hclear
  next => exact h

/-- The session between two lines: its accounts, and the flow under way. -/
def Settled (W : PinentryWorld) (s : PinentrySession) : Prop := Accounts W s ∧ Named s

/-- What only speaks to the caller leaves it settled. -/
theorem Settled.quiet (h : Settled W s) (hsent : sent s'.log = sent s.log)
    (hr : s'.requests = s.requests) (hk : s'.cookies = s.cookies)
    (hc : s'.flowCookie = s.flowCookie)
    (ha : s'.awaitingTerminalResult = s.awaitingTerminalResult) : Settled W s' := by
  refine ⟨h.1.quiet hsent hr hk hc, ?_⟩
  have hn := h.2
  unfold Named at hn ⊢
  rw [hc, ha]
  exact hn

/-- A prompt that is granted leaves the flow awaiting its result. -/
theorem Accounts.granted (h : Accounts W s)
    (hsub : subject json = (s.ensureFlowCookie W).flowCookie)
    (ht : (json.value "type").toString = "pinentry_request") :
    Settled W ((s.ensureFlowCookie W).sendRequest W json).2.awaitResult := by
  have hne := ensureFlowCookie_ne (W := W) s
  have hsend := h.ensureFlowCookie.sendRequest hne hsub fun hterm => by
    have := ht.symm.trans hterm.1
    simp at this
  exact ⟨hsend.quiet rfl rfl rfl rfl, fun _ => rfl, fun _ => hne⟩

/-- A prompt that is not granted ends it. -/
theorem Accounts.refused (h : Accounts W s)
    (hsub : subject json = (s.ensureFlowCookie W).flowCookie)
    (ht : (json.value "type").toString = "pinentry_request")
    (hg : ¬ Granted (json, W.sendRequest s.requests)) :
    Settled W ((s.ensureFlowCookie W).sendRequest W json).2.resetFlow := by
  refine ⟨h.ensureFlowCookie.endFlow (ensureFlowCookie_ne s) hsub (.inr ⟨ht, ?_⟩), ?_⟩
  · rwa [ensureFlowCookie_requests]
  · simp [Named]

theorem settled_handleGetPin (h : Settled W s) : Settled W (s.handleGetPin W) := by
  have hretry := h.1.reportRetry h.2
  unfold handleGetPin
  generalize s.reportRetry W = t at hretry
  rcases requestPassword_cases (W := W) t with ⟨response, password, hr, hg, heq⟩ | ⟨hnone, heq⟩
  · have hgranted : Settled W ((t.asked W).awaitResult) :=
      hretry.granted (subject_passwordRequest _ _) (type_passwordRequest _ _)
    simp only [heq]
    split
    · exact hgranted.quiet (by simp [sent, Output.request?]) rfl rfl rfl rfl
    · exact hgranted.quiet (by simp [sent, Output.request?]) rfl rfl rfl rfl
  · have hrefused : Settled W ((t.asked W).resetFlow) := by
      refine hretry.refused (subject_passwordRequest _ _) (type_passwordRequest _ _) ?_
      rintro ⟨reply, hreply, htype, hres⟩
      rw [confirmOnly_passwordRequest] at hres
      exact hnone reply hreply _ ⟨htype, hres, rfl⟩
    simp only [heq]
    exact hrefused.quiet (by simp [sent, Output.request?]) rfl rfl rfl rfl

theorem settled_handleConfirm (h : Settled W s) : Settled W (s.handleConfirm W) := by
  have htype : ∀ state cookie,
      ((confirmRequest state cookie).value "type").toString = "pinentry_request" := by
    intro state cookie
    simp [confirmRequest]
  have honly : ∀ state cookie,
      ((confirmRequest state cookie).value "confirm_only").toBool = true := by
    intro state cookie
    simp [confirmRequest, QJsonValue.toBool]
  have hrefused : ¬ Granted (confirmRequest (s.ensureFlowCookie W).state
        (s.ensureFlowCookie W).flowCookie, W.sendRequest s.requests) →
      Settled W (((((s.ensureFlowCookie W).sendRequest W (confirmRequest
        (s.ensureFlowCookie W).state (s.ensureFlowCookie W).flowCookie)).2.resetFlow).sendError
          83886179 "Operation cancelled").clearError) := fun hg =>
    (h.1.refused (subject_confirmRequest _ _) (htype _ _) hg).quiet
      (by simp [sent, Output.request?]) rfl rfl rfl rfl
  have hreply : ((s.ensureFlowCookie W).sendRequest W (confirmRequest
      (s.ensureFlowCookie W).state (s.ensureFlowCookie W).flowCookie)).1 =
        W.sendRequest s.requests := by
    rw [← ensureFlowCookie_requests (W := W)]
    rfl
  unfold handleConfirm requestConfirmFromDaemon
  dsimp only
  rw [hreply]
  cases hr : W.sendRequest s.requests with
  | none => exact hrefused (by rintro ⟨reply, heq, -⟩; rw [hr] at heq; cases heq)
  | some response =>
    by_cases hg : (response.value "type").toString = "pinentry_response" ∧
        (response.value "result").toString = "confirmed"
    · have hgranted := h.1.granted (subject_confirmRequest (s.ensureFlowCookie W).state
        (s.ensureFlowCookie W).flowCookie) (htype _ _)
      simp only [if_pos hg]
      exact hgranted.quiet (by simp [sent, Output.request?]) rfl rfl rfl rfl
    · simp only [if_neg hg]
      refine hrefused ?_
      rintro ⟨reply, heq, ht, hres⟩
      rw [hr, Option.some_inj] at heq
      subst heq
      rw [honly] at hres
      exact hg ⟨ht, hres⟩

/-- Any other command sends nothing and makes no cookie. -/
theorem counters_handleCommand {line : String} (hbye : (parseCommand line).1 ≠ some .bye)
    (hpin : (parseCommand line).1 ≠ some .getPin)
    (hconfirm : (parseCommand line).1 ≠ some .confirm) :
    (s.handleCommand W line).2.requests = s.requests ∧
      (s.handleCommand W line).2.cookies = s.cookies := by
  simp only [handleCommand]
  generalize parseCommand line = p at hbye hpin hconfirm
  obtain ⟨command, arg⟩ := p
  cases command with
  | none => exact ⟨rfl, rfl⟩
  | some command =>
    cases command with
    | bye => exact absurd rfl hbye
    | getPin => exact absurd rfl hpin
    | confirm => exact absurd rfl hconfirm
    | getInfo =>
      simp only [handleGetInfo]
      split_ifs <;> exact ⟨rfl, rfl⟩
    | _ => exact ⟨rfl, rfl⟩

theorem sent_of_no_request {os : List Output} (h : ∀ j, Output.request j ∉ os) : sent os = [] := by
  refine List.filterMap_eq_nil_iff.2 fun o ho => ?_
  cases o with
  | request json => exact absurd ho (h json)
  | ok | err | data => rfl

/-- **Every line but the last leaves the session settled.** -/
theorem settled_step (h : Settled W s) {line : String} (hbye : command? line ≠ some .bye) :
    Settled W ((machine W).step s line) := by
  by_cases hne : line = ""
  · simpa [machine, hne] using h
  · have hstep : (machine W).step s line = (s.handleCommand W (chomp line)).2 := by
      simp only [machine, if_neg hne]
    have heq : command? line = (parseCommand (chomp line)).1 := by simp [command?, hne]
    rw [heq] at hbye
    rw [hstep]
    by_cases hpin : (parseCommand (chomp line)).1 = some .getPin
    · simp only [handleCommand, hpin]
      exact settled_handleGetPin h
    by_cases hconfirm : (parseCommand (chomp line)).1 = some .confirm
    · simp only [handleCommand, hconfirm]
      exact settled_handleConfirm h
    · obtain ⟨⟨os, hlog, hos⟩, hcookie, haw⟩ := spoke_handleCommand (W := W) (s := s) hbye hpin
        hconfirm
      obtain ⟨hr, hk⟩ := counters_handleCommand (W := W) (s := s) hbye hpin hconfirm
      refine h.quiet ?_ hr hk hcookie haw
      rw [hlog, sent_append, sent_of_no_request hos, List.append_nil]

theorem settled_run (W : PinentryWorld) {lines : List String}
    (hl : ∀ line ∈ lines, command? line ≠ some .bye) : Settled W ((machine W).run lines) := by
  induction lines using List.reverseRecOn with
  | nil =>
    refine ⟨⟨rfl, fun n _ => rfl, fun hne => absurd rfl hne, fun n hn => ?_, fun n hn => ?_⟩, ?_⟩
    · exact absurd hn (W.createUuid_ne_empty n)
    · exact absurd hn (Nat.not_lt_zero n)
    · simp [Named, machine, greeted, sendOk]
  | append_singleton lines line ih =>
    rw [Machine.run_snoc]
    exact settled_step (ih fun l hm => hl l (List.mem_append_left _ hm)) (hl line (by simp))

/-! ## The end -/

/-- Once its end is reported no flow is under way. -/
theorem accounts_finalize (h : Settled W s) :
    Accounts W (s.finalizeOnStreamClose W) ∧ (s.finalizeOnStreamClose W).flowCookie = "" ∧
      (s.finalizeOnStreamClose W).awaitingTerminalResult = false := by
  have hreport : s.flowCookie ≠ "" → ∀ result error, result ≠ "retry" →
      Accounts W (s.reportTerminalResult W result error) ∧
        (s.reportTerminalResult W result error).flowCookie = "" ∧
          (s.reportTerminalResult W result error).awaitingTerminalResult = false := by
    intro hne result error hr
    refine ⟨h.1.reportTerminalResult hne hr, ?_, ?_⟩
    · simp [reportTerminalResult, hne, PinentrySession.sendRequest, hr]
    · simp [reportTerminalResult, hne, PinentrySession.sendRequest, hr]
  unfold finalizeOnStreamClose
  split
  next haw => split <;> exact hreport (h.2.2 haw) _ _ (by decide)
  next haw =>
    have hc : ¬ s.flowCookie ≠ "" := fun hc => haw (h.2.1 hc)
    rw [if_neg hc]
    exact ⟨h.1, by simpa using hc, by simpa using haw⟩

/-- **What a run leaves**: its accounts, and no flow under way. -/
theorem accounts_run (W : PinentryWorld) (lines : List String) :
    Accounts W (run W lines) ∧ (run W lines).flowCookie = "" ∧
      (run W lines).awaitingTerminalResult = false := by
  have hlive : ∀ line ∈ live lines, command? line ≠ some .bye := by
    intro line hmem
    simpa using List.mem_takeWhile_imp hmem
  have hend := accounts_finalize (settled_run W hlive)
  rcases run_cases (W := W) lines with heq | heq
  · rwa [heq]
  · rw [heq]
    obtain ⟨haccounts, hcookie, haw⟩ := hend
    generalize ((machine W).run (live lines)).finalizeOnStreamClose W = t at haccounts hcookie haw
    refine accounts_finalize ⟨haccounts.quiet (by simp [sent, Output.request?]) rfl rfl rfl, ?_⟩
    simp [Named, sendOk, hcookie, haw]

/-- A terminal report of a flow that is over is the last of it. -/
theorem Over.last {l before after : List (QJsonObject × Option QJsonObject)}
    {e : QJsonObject × Option QJsonObject} (h : Over l) (hl : l = before ++ e :: after)
    (he : IsTerminal e.1) : after = [] := by
  obtain ⟨init, last, rfl, hopen, -⟩ := h
  rcases List.eq_nil_or_concat after with rfl | ⟨after, x, rfl⟩
  · rfl
  · have heq : init ++ [last] = (before ++ e :: after) ++ [x] := by simpa using hl
    have hinit := (List.append_inj' heq rfl).1
    exact absurd he (hopen e (by rw [hinit]; simp))

/-- **One terminal report for each flow.** Whatever the lines and the
replies: between two lines a flow is under way exactly while its result is
awaited, and when the run is over none is; of each flow a terminal result
is reported at most once, and nothing said after it; and the last that is
said of it is that report, or a prompt that was not granted. -/
theorem one_terminal_report (W : PinentryWorld) (lines : List String) :
    (∀ pre, pre <+: live lines → (((machine W).run pre).flowCookie ≠ "" ↔
      ((machine W).run pre).awaitingTerminalResult = true)) ∧
    ((run W lines).flowCookie = "" ∧ (run W lines).awaitingTerminalResult = false) ∧
    ∀ n < (run W lines).cookies,
      (∀ before e after, said W (W.createUuid n) (run W lines).log = before ++ e :: after →
        IsTerminal e.1 → after = []) ∧
      ∃ before e, said W (W.createUuid n) (run W lines).log = before ++ [e] ∧
        (IsTerminal e.1 ∨ IsRefused e) := by
  obtain ⟨haccounts, hcookie, haw⟩ := accounts_run W lines
  refine ⟨fun pre hpre => ?_, ⟨hcookie, haw⟩, fun n hn => ?_⟩
  · refine (settled_run W fun line hmem => ?_).2
    simpa using List.mem_takeWhile_imp (hpre.subset hmem)
  · have hover := haccounts.finished n hn (hcookie ▸ W.createUuid_ne_empty n)
    refine ⟨fun before e after hl he => hover.last hl he, ?_⟩
    obtain ⟨before, e, hl, -, hend⟩ := hover
    exact ⟨before, e, hl, hend⟩

/-- A prompt that is granted, and the result of its flow. -/
theorem one_terminal_report_granted :
    ∃ before e,
      said (.constant [("type", "pinentry_response"), ("result", "ok"), ("password", "p")]) "u"
        (run (.constant [("type", "pinentry_response"), ("result", "ok"), ("password", "p")])
          ["GETPIN", "BYE"]).log = before ++ [e] ∧ (IsTerminal e.1 ∨ IsRefused e) :=
  ((one_terminal_report (.constant [("type", "pinentry_response"), ("result", "ok"),
    ("password", "p")]) ["GETPIN", "BYE"]).2.2 0 (by decide)).2

end PinentrySession

end BbAuth
