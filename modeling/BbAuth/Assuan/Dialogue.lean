import BbAuth.Assuan.Encoding
import BbAuth.Assuan.Honesty
import BbAuth.Library.Framing
import Mathlib.Data.List.Forall2
/-!
# The dialogue with gpg

What a session writes to its standard output is one stream of bytes, and
the caller cuts it at the newlines. It finds a greeting, and then for each
command one reply: a line that ends it, `OK` or `ERR`, with at most one `D`
line before. No text of a flow can put a line of its own there, so a caller
that reads up to the next `OK` or `ERR` after every command is never out of
step.
-/

namespace BbAuth

namespace PinentrySession

open Assuan

/-- The line an output is, without its newline. -/
def Output.line? : Output → Option String
  | .ok comment => some (if comment = "" then "OK" else "OK " ++ comment)
  | .err code message => some ("ERR " ++ toString code ++ " " ++ message)
  | .data text => some ("D " ++ text)
  | .request _ => none

/-- The lines written to the caller. -/
def spoken (log : List Output) : List String := log.filterMap Output.line?

/-- What is written to `std::cout`. -/
def stdout (log : List Output) : QByteArray :=
  (spoken log).flatMap fun line => toStdString line ++ [QByteArray.newline]

/-- The commands of the lines that are read: empty lines are none, and
nothing is read after a `BYE`. -/
def commands : List String → List (Option AssuanCommand)
  | [] => []
  | line :: lines =>
    if line = "" then commands lines
    else
      let command := (parseCommand (chomp line)).1
      if command = some .bye then [command] else command :: commands lines

/-- **The reply to a command.** Only a prompt is refused, and a `GETPIN` is
granted with a passphrase or not at all. -/
inductive Replies : Option AssuanCommand → List String → Prop
  | ok {command : Option AssuanCommand} (hbye : command ≠ some .bye)
      (hpin : command ≠ some .getPin) : Replies command ["OK"]
  | bye : Replies (some .bye) ["OK closing connection"]
  | info (text : String) : Replies (some .getInfo) ["D " ++ assuanEncode text, "OK"]
  | passphrase (text : String) (h : text ≠ "") :
      Replies (some .getPin) ["D " ++ assuanEncode text, "OK"]
  | cancelled {command : Option AssuanCommand}
      (h : command = some .getPin ∨ command = some .confirm) :
      Replies command ["ERR 83886179 Operation cancelled"]

variable {W : PinentryWorld} {s : PinentrySession} {command : Option AssuanCommand}
  {line : String}

@[simp] theorem spoken_append (log more : List Output) :
    spoken (log ++ more) = spoken log ++ spoken more := List.filterMap_append

@[simp] theorem spoken_request (j : QJsonObject) : spoken [.request j] = [] := rfl

@[simp] theorem spoken_data (text : String) (log : List Output) :
    spoken (.data text :: log) = ("D " ++ text) :: spoken log := rfl

@[simp] theorem spoken_ok : spoken [.ok ""] = ["OK"] := rfl

@[simp] theorem spoken_goodbye :
    spoken [.ok "closing connection"] = ["OK closing connection"] := by decide

@[simp] theorem spoken_cancelled :
    spoken [.err 83886179 "Operation cancelled"] = ["ERR 83886179 Operation cancelled"] := by
  decide

/-! ## What is said of a command -/

/-- A report says nothing to the caller. -/
@[simp] theorem spoken_reportTerminalResult (result error : String) :
    spoken (s.reportTerminalResult W result error).log = spoken s.log := by
  unfold reportTerminalResult
  split
  · rfl
  · simp only [sendRequest]
    split <;> simp [clearSubmitState, resetFlow, emit]

@[simp] theorem spoken_finalizeOnStreamClose :
    spoken (s.finalizeOnStreamClose W).log = spoken s.log := by
  unfold finalizeOnStreamClose
  split_ifs <;> simp

@[simp] theorem spoken_reportRetry : spoken (s.reportRetry W).log = spoken s.log := by
  unfold reportRetry
  split <;> simp

@[simp] theorem spoken_asked : spoken (s.asked W).log = spoken s.log := by
  simp [asked, sendRequest, emit]

/-- **A `GETPIN` is replied to** with a passphrase, or refused. -/
theorem replies_handleGetPin : ∃ reply,
    spoken (s.handleGetPin W).log = spoken s.log ++ reply ∧ Replies (some .getPin) reply := by
  have hrefused : ∀ t : PinentrySession, spoken t.log = spoken s.log → ∃ reply,
      spoken ((t.sendError 83886179 "Operation cancelled").clearError).log =
        spoken s.log ++ reply ∧ Replies (some .getPin) reply := by
    intro t ht
    exact ⟨_, by simp [ht], .cancelled (.inl rfl)⟩
  simp only [handleGetPin]
  rcases requestPassword_cases (W := W) (s.reportRetry W) with
    ⟨response, password, -, -, heq⟩ | ⟨-, heq⟩
  · rw [heq]
    dsimp only
    split
    next hne => exact ⟨_, by simp [awaitResult], .passphrase password hne⟩
    next hne => exact hrefused _ (by simp [awaitResult])
  · rw [heq]
    exact hrefused _ (by simp)

/-- **A `CONFIRM` is replied to** with `OK`, or refused. -/
theorem replies_handleConfirm : ∃ reply,
    spoken (s.handleConfirm W).log = spoken s.log ++ reply ∧ Replies (some .confirm) reply := by
  have hanswer : ∀ (confirmed : Bool) (t : PinentrySession), spoken t.log = spoken s.log →
      ∃ reply, spoken ((if confirmed then t.sendOk
        else t.sendError 83886179 "Operation cancelled").clearError).log =
          spoken s.log ++ reply ∧ Replies (some .confirm) reply := by
    intro confirmed t ht
    cases confirmed with
    | true => exact ⟨["OK"], by simp [ht], .ok (by decide) (by decide)⟩
    | false => exact ⟨_, by simp [ht], .cancelled (.inr rfl)⟩
  have hspoken : spoken (s.requestConfirmFromDaemon W).2.log = spoken s.log := by
    simp only [requestConfirmFromDaemon, sendRequest]
    cases W.sendRequest (s.ensureFlowCookie W).requests with
    | none => simp [emit]
    | some response =>
        dsimp only
        split <;> simp [emit, awaitResult]
  exact hanswer (s.requestConfirmFromDaemon W).1 _ hspoken

theorem replies_handleGetInfo (arg : String) : ∃ reply,
    spoken (s.handleGetInfo W arg).log = spoken s.log ++ reply ∧
      Replies (some .getInfo) reply := by
  have hdata : ∀ text, ∃ reply, spoken ((s.sendData text).sendOk).log = spoken s.log ++ reply ∧
      Replies (some .getInfo) reply := fun text => ⟨_, by simp, .info text⟩
  unfold handleGetInfo
  split_ifs
  · exact hdata _
  · exact hdata _
  · exact hdata _
  · exact hdata _
  · exact ⟨["OK"], by simp, .ok (by decide) (by decide)⟩

/-- **Every command is replied to once.** -/
theorem replies_handleCommand (line : String) : ∃ reply,
    spoken (s.handleCommand W line).2.log = spoken s.log ++ reply ∧
      Replies (parseCommand line).1 reply := by
  simp only [handleCommand]
  generalize parseCommand line = p
  obtain ⟨command, arg⟩ := p
  have hok : ∀ (command : Option AssuanCommand) (t : PinentrySession), command ≠ some .bye →
      command ≠ some .getPin → spoken t.log = spoken s.log → ∃ reply,
        spoken t.sendOk.log = spoken s.log ++ reply ∧ Replies command reply :=
    fun command t hbye hpin ht => ⟨["OK"], by simp [ht], .ok hbye hpin⟩
  cases command with
  | none => exact hok _ _ (by simp) (by simp) rfl
  | some command =>
      cases command with
      | bye => exact ⟨_, by simp, .bye⟩
      | getPin => exact replies_handleGetPin
      | confirm => exact replies_handleConfirm
      | getInfo => exact replies_handleGetInfo arg
      | _ => exact hok _ _ (by simp) (by simp) rfl

/-- **A reply for each command that is read.** -/
theorem replies_loop : ∀ (lines : List String) (s : PinentrySession), ∃ replies,
    spoken (loop W lines s).log = spoken s.log ++ replies.flatten ∧
      List.Forall₂ Replies (commands lines) replies
  | [], s => ⟨[], by simp [loop], .nil⟩
  | line :: lines, s => by
      by_cases hne : line = ""
      · simpa [loop, commands, hne] using replies_loop lines s
      obtain ⟨reply, hsaid, hreply⟩ := replies_handleCommand (W := W) (s := s) (chomp line)
      have hgoes := goesOn_iff (W := W) s (chomp line)
      simp only [loop, commands, if_neg hne]
      by_cases hbye : (parseCommand (chomp line)).1 = some .bye
      · rw [if_neg fun hgo => hgoes.1 hgo hbye, if_pos hbye]
        exact ⟨[reply], by simp [hsaid], .cons hreply .nil⟩
      · rw [if_pos (hgoes.2 hbye), if_neg hbye]
        obtain ⟨replies, hrest, hall⟩ := replies_loop lines (s.handleCommand W (chomp line)).2
        exact ⟨reply :: replies, by simp [hrest, hsaid], .cons hreply hall⟩

/-- What is replied is the reply to some command. -/
theorem exists_replies : ∀ {asked : List (Option AssuanCommand)} {replies : List (List String)}
    {reply : List String}, List.Forall₂ Replies asked replies → reply ∈ replies →
    ∃ command, Replies command reply
  | _, _, _, .cons (a := command) hr hrest, hmem => by
      rcases List.mem_cons.1 hmem with rfl | hmem
      · exact ⟨command, hr⟩
      · exact exists_replies hrest hmem

/-! ## On bytes -/

/-- A text of one line is bytes of one line. -/
theorem newline_notMem_toStdString {text : String} (h : '\n' ∉ text.toList) :
    QByteArray.newline ∉ toStdString text := by
  intro hmem
  obtain ⟨c, hc, hb⟩ := List.mem_flatMap.1 hmem
  obtain ⟨heq, -⟩ := Utf8.eq_of_mem_utf8EncodeChar hb (by decide)
  have hnl : c = '\n' := Char.ext (UInt32.toNat_inj.1 heq)
  exact h (hnl ▸ hc)

/-- **No reply holds a newline**, whatever the passphrase. -/
theorem Replies.newline_notMem {reply : List String} (h : Replies command reply) :
    ∀ line ∈ reply, QByteArray.newline ∉ toStdString line := by
  have hdata : ∀ text, '\n' ∉ ("D " ++ assuanEncode text).toList := by
    intro text hmem
    rw [String.toList_append, List.mem_append] at hmem
    rcases hmem with hmem | hmem
    · revert hmem
      decide
    · rw [assuanEncode, String.toList_ofList] at hmem
      obtain ⟨c, -, hc⟩ := List.mem_flatMap.1 hmem
      exact (not_newline_of_mem_encodeChar hc).2 rfl
  intro line hline
  refine newline_notMem_toStdString ?_
  cases h with
  | ok | bye | cancelled =>
      obtain rfl := List.mem_singleton.1 hline
      decide
  | info text | passphrase text =>
      rcases List.mem_cons.1 hline with rfl | hline
      · exact hdata text
      · obtain rfl := List.mem_singleton.1 hline
        decide

/-- **The caller is never out of step.** Cut at the newlines, what a session
writes is the greeting and one reply for each command that was read, in
order, and nothing is left over. The lines are the texts that were read: a
byte order mark at the start of one has been dropped by then. -/
theorem dialogue_run (W : PinentryWorld) (lines : List String) :
    ∃ replies, List.Forall₂ Replies (commands lines) replies ∧
      Framing.segments QByteArray.newline (stdout (run W lines).log) =
        ("OK BB Auth Pinentry" :: replies.flatten).map toStdString ∧
      Framing.residue QByteArray.newline (stdout (run W lines).log) = [] := by
  obtain ⟨replies, hsaid, hall⟩ := replies_loop (W := W) lines greeted
  have hspoken : spoken (run W lines).log = "OK BB Auth Pinentry" :: replies.flatten := by
    rw [run, spoken_finalizeOnStreamClose, hsaid]
    rfl
  have hnl : ∀ line ∈ (spoken (run W lines).log).map toStdString, QByteArray.newline ∉ line := by
    intro line hline
    obtain ⟨text, htext, rfl⟩ := List.mem_map.1 hline
    rw [hspoken] at htext
    rcases List.mem_cons.1 htext with rfl | htext
    · exact newline_notMem_toStdString (by decide)
    · obtain ⟨reply, hreply, hmem⟩ := List.mem_flatten.1 htext
      obtain ⟨command, hr⟩ := exists_replies hall hreply
      exact hr.newline_notMem text hmem
  have hstdout : stdout (run W lines).log =
      ((spoken (run W lines).log).map toStdString).flatMap (· ++ [QByteArray.newline]) := by
    rw [stdout, List.flatMap_map]
  rw [hstdout]
  exact ⟨replies, hall, by rw [Framing.segments_flatMap hnl, hspoken], Framing.residue_flatMap hnl⟩

end PinentrySession

end BbAuth
