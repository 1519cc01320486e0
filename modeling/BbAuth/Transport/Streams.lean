import BbAuth.Model.IpcDaemon
import BbAuth.Transport.Lines
/-!
# Transport — the daemon over byte streams

The daemon at its sockets refines the daemon that is handed lines: what it
does with a run of reads is what the latter does with the calls the reads
amount to (`daemon_run`). A connection whose reads fit hands on the lines
of its stream, as `IpcServer` alone does (`said_run`), and while all reads
fit, cutting a stream up in other reads changes nothing (`agree_bytewise`):
the run is that of the same bytes read one at a time. `streams_run` puts
the three together.
-/

namespace BbAuth

namespace IpcDaemon

open Framing QByteArray

variable {W : World} {J : QByteArray → Option QJsonObject}
variable {g h : IpcDaemon} {s t : Socket} {bytes data : QByteArray}
variable {ins : List Input} {i : Input}

/-! ## The calls a run amounts to -/

/-- A line of the socket, as the agent is called with it. -/
def lineCall (J : QByteArray → Option QJsonObject) (s : Socket) (line : QByteArray) :
    BbAuth.Input := .line s (J line)

/-- What an input makes the server call the agent with. -/
def calls (J : QByteArray → Option QJsonObject) (g : IpcDaemon) : Input → List BbAuth.Input
  | .newConnection s peerPid => [.newConnection s peerPid]
  | .readyRead s data =>
    if maxMessageSize < (g.buffer s ++ data).length then [.closing s]
    else (linesOf (g.buffer s ++ data)).map (lineCall J s)
  | .disconnected s => [.disconnected s]
  | .signal i => [i]

variable (W J) in
/-- **The calls of a run**, in order. -/
def callsOf (ins : List Input) : List BbAuth.Input :=
  (machine W J {}).observe (fun cs g i => cs ++ calls J g i) [] ins

@[simp] theorem callsOf_snoc : callsOf W J (ins ++ [i]) =
    callsOf W J ins ++ calls J ((machine W J {}).run ins) i := Machine.observe_snoc ..

@[simp] theorem buffer_setBuffer :
    (g.setBuffer t bytes).buffer s = if s = t then bytes else g.buffer s :=
  IpcServer.bufferOf_insert

theorem buffer_eraseBuffer :
    ({ g with buffers := g.buffers.erase t } : IpcDaemon).buffer s =
      if s = t then [] else g.buffer s := IpcServer.bufferOf_erase

@[simp] theorem buffer_call {j : BbAuth.Input} : (g.call W j).buffer s = g.buffer s := rfl

/-- **The loop of a read** calls the agent with the lines. -/
theorem foldl_handleLine (lines : List QByteArray) : ∀ g : IpcDaemon,
    lines.foldl (fun g line => g.handleLine W J t line) g =
      { g with daemon := (lines.map (lineCall J t)).foldl (Daemon.step W) g.daemon } := by
  induction lines with
  | nil => exact fun g => rfl
  | cons line lines ih =>
      intro g
      rw [List.foldl_cons, ih]
      simp [handleLine, call, lineCall]

/-- **A read that fits** calls the agent with the lines of the buffer, which
keeps what follows them. -/
theorem onReadyRead_of_le (h : (g.buffer t ++ data).length ≤ maxMessageSize) :
    (g.onReadyRead W J t data).daemon =
        ((linesOf (g.buffer t ++ data)).map (lineCall J t)).foldl (Daemon.step W) g.daemon ∧
      (g.onReadyRead W J t data).buffer s =
        if s = t then residue newline (g.buffer t ++ data) else g.buffer s := by
  rw [onReadyRead, IpcServer.read_of_le h]
  simp only [foldl_handleLine, buffer_setBuffer]
  refine ⟨rfl, ?_⟩
  by_cases hst : s = t
  · rw [if_pos hst, if_pos hst]
  · rw [if_neg hst, if_neg hst]
    exact IpcServer.bufferOf_insert.trans (if_neg hst)

/-- A read that does not fit closes the connection and keeps the bytes. -/
theorem onReadyRead_of_lt (h : maxMessageSize < (g.buffer t ++ data).length) :
    g.onReadyRead W J t data =
      (g.setBuffer t (g.buffer t ++ data)).call W (.closing t) := IpcServer.read_of_lt h

/-- **One input**: the agent takes the calls it amounts to. -/
theorem daemon_step (g : IpcDaemon) (i : Input) :
    (step W J g i).daemon = (calls J g i).foldl (Daemon.step W) g.daemon := by
  cases i with
  | newConnection t pid => rfl
  | disconnected t => rfl
  | signal j => rfl
  | readyRead t data =>
      rw [step, calls]
      by_cases hle : (g.buffer t ++ data).length ≤ maxMessageSize
      · rw [if_neg (Nat.not_lt.2 hle)]
        exact (onReadyRead_of_le (s := t) hle).1
      · rw [if_pos (Nat.lt_of_not_le hle), onReadyRead_of_lt (Nat.lt_of_not_le hle)]
        rfl

/-- **The daemon at its sockets is the daemon** that takes the calls of the
run. -/
theorem daemon_run (ins : List Input) :
    ((machine W J {}).run ins).daemon = (Daemon.machine W).run (callsOf W J ins) := by
  induction ins using List.reverseRecOn with
  | nil => rfl
  | append_singleton ins i ih =>
      rw [Machine.run_snoc, callsOf_snoc, Machine.run_append, ← ih]
      exact daemon_step _ i

/-! ## The server alone -/

/-- What the server sees of an input. -/
def Input.io : Input → Option IpcServer.Input
  | .newConnection t _ => some (.newConnection t)
  | .readyRead t data => some (.readyRead t data)
  | .disconnected t => some (.disconnected t)
  | .signal _ => none

/-- The messages of the socket among some calls. -/
def said (s : Socket) (cs : List BbAuth.Input) : List (Option QJsonObject) :=
  cs.filterMap fun
    | .line t doc => if t = s then some doc else none
    | _ => none

@[simp] theorem said_append {cs ds : List BbAuth.Input} :
    said s (cs ++ ds) = said s cs ++ said s ds := List.filterMap_append

theorem said_map_lineCall (lines : List QByteArray) :
    said s (lines.map (lineCall J t)) = (IpcServer.linesAt s t lines).map J := by
  rw [said, List.filterMap_map, IpcServer.linesAt]
  by_cases ht : t = s
  · simp [ht, lineCall]
  · simp [ht, lineCall]

theorem served_eraseBuffer {v : IpcServer} :
    ({ v with buffers := v.buffers.erase t } : IpcServer).buffer s =
      if s = t then [] else v.buffer s := IpcServer.bufferOf_erase

/-- **The process beside the server alone**: the same buffers, and the
messages of a socket are its lines. -/
structure Beside (J : QByteArray → Option QJsonObject) (g : IpcDaemon) (cs : List BbAuth.Input)
    (v : IpcServer) : Prop where
  buffer : ∀ s, g.buffer s = v.buffer s
  said : ∀ s, said s cs = (IpcServer.handled s v.log).map J

variable {cs : List BbAuth.Input} {v : IpcServer}

/-- What does not come out of a socket says nothing there. -/
theorem Beside.signal (hB : Beside J g cs v) (j : { j : BbAuth.Input // j.fromWithin = true }) :
    Beside J (IpcDaemon.step W J g (.signal j)) (cs ++ calls J g (.signal j)) v := by
  refine ⟨hB.buffer, fun s => ?_⟩
  have hnone : IpcDaemon.said s [j.1] = [] := by
    obtain ⟨j, hj⟩ := j
    cases j <;> first | rfl | cases hj
  rw [said_append, calls, hnone, List.append_nil]
  exact hB.said s

/-- A read is the server's read. -/
theorem Beside.read (hB : Beside J g cs v) (t : Socket) (data : QByteArray) :
    Beside J (g.onReadyRead W J t data) (cs ++ calls J g (.readyRead t data))
      (v.onReadyRead J t data) := by
  have ht := hB.buffer t
  by_cases hle : (g.buffer t ++ data).length ≤ maxMessageSize
  · refine ⟨fun s => ?_, fun s => ?_⟩
    · obtain ⟨-, -, hb⟩ := IpcServer.onReadyRead_of_le (s := s) (J := J) (ht ▸ hle)
      rw [(onReadyRead_of_le hle).2, hb, ht, hB.buffer s]
    · obtain ⟨hh, -, -⟩ := IpcServer.onReadyRead_of_le (s := s) (J := J) (ht ▸ hle)
      rw [said_append, calls, if_neg (Nat.not_lt.2 hle), said_map_lineCall, hB.said s, hh, ht,
        List.map_append]
  · have hlt := Nat.lt_of_not_le hle
    rw [onReadyRead_of_lt hlt, IpcServer.onReadyRead_of_lt (ht ▸ hlt), calls, if_pos hlt]
    refine ⟨fun s => ?_, fun s => ?_⟩
    · rw [buffer_call, buffer_setBuffer, IpcServer.buffer_emit, IpcServer.buffer_setBuffer, ht,
        hB.buffer s]
    · rw [said_append, hB.said s, IpcServer.log_emit, IpcServer.log_setBuffer,
        IpcServer.handled_append]
      simp [IpcDaemon.said, IpcServer.handled]

/-- **One more input** keeps the two side by side. -/
theorem Beside.step (hB : Beside J g cs v) {k : IpcServer.Input} (hi : i.io = some k) :
    Beside J (IpcDaemon.step W J g i) (cs ++ calls J g i) (IpcServer.step J v k) := by
  cases i with
  | signal j => cases hi
  | readyRead t data =>
      cases hi
      exact hB.read t data
  | newConnection t pid =>
      cases hi
      refine ⟨fun s => ?_, fun s => ?_⟩
      · rw [IpcDaemon.step, onNewConnection, buffer_call, buffer_setBuffer, IpcServer.step,
          IpcServer.onNewConnection, IpcServer.buffer_emit, IpcServer.buffer_setBuffer,
          hB.buffer s]
      · rw [said_append, hB.said s]
        simp [calls, IpcDaemon.said, IpcServer.step, IpcServer.onNewConnection, IpcServer.handled]
  | disconnected t =>
      cases hi
      refine ⟨fun s => ?_, fun s => ?_⟩
      · rw [IpcDaemon.step, onDisconnected, buffer_call, buffer_eraseBuffer, IpcServer.step,
          IpcServer.onDisconnected, IpcServer.buffer_emit, served_eraseBuffer,
          hB.buffer s]
      · rw [said_append, hB.said s]
        simp [calls, IpcDaemon.said, IpcServer.step, IpcServer.onDisconnected, IpcServer.handled]

/-- **Along a run** the two stay side by side. -/
theorem beside_run (ins : List Input) :
    Beside J ((machine W J {}).run ins) (callsOf W J ins)
      ((IpcServer.machine J {}).run (ins.filterMap Input.io)) := by
  induction ins using List.reverseRecOn with
  | nil => exact ⟨fun s => rfl, fun s => rfl⟩
  | append_singleton ins i ih =>
      rw [callsOf_snoc, Machine.run_snoc, List.filterMap_append, Machine.run_append]
      cases hi : i.io with
      | some k =>
          simp only [List.filterMap_cons, hi, List.filterMap_nil]
          exact ih.step hi
      | none =>
          simp only [List.filterMap_cons, hi, List.filterMap_nil]
          cases i with
          | signal j => exact ih.signal j
          | newConnection | readyRead | disconnected => cases hi

/-! ## One connection -/

/-- Nothing but reads happens at the socket: one connection. -/
def StaysOpen (s : Socket) (ins : List Input) : Prop :=
  IpcServer.StaysOpen s (ins.filterMap Input.io)

/-- The byte stream of the connection. -/
def received (s : Socket) (ins : List Input) : QByteArray :=
  IpcServer.received s (ins.filterMap Input.io)

/-- **The input fits the buffer**: if it is a read of the socket, what is
kept and what is read are within the limit. -/
def Fits (s : Socket) (g : IpcDaemon) (i : Input) : Prop :=
  ∀ data, i = .readyRead s data → (g.buffer s ++ data).length ≤ maxMessageSize

/-- A connection whose reads fit is framed, seen from the server. -/
theorem framed_of_fits {pre mid : List Input} {pid : Pid} (hopen : StaysOpen s mid)
    (hfit : (machine W J ((machine W J {}).run (pre ++ [.newConnection s pid]))).Meets
      (Fits s) mid) :
    IpcServer.Framed s ((IpcServer.machine J {}).run (pre.filterMap Input.io))
      ((IpcServer.machine J {}).run ((pre ++ .newConnection s pid :: mid).filterMap Input.io))
      (received s mid) := by
  induction mid using List.reverseRecOn with
  | nil =>
      rw [List.filterMap_append, Machine.run_append]
      exact IpcServer.framed_onNewConnection
  | append_singleton mid i ih =>
      have hsplit : (mid ++ [i]).filterMap Input.io = mid.filterMap Input.io ++ i.io.toList := by
        cases hi : i.io <;> simp [hi]
      rw [Machine.meets_snoc] at hfit
      rw [StaysOpen, hsplit] at hopen
      have hF := ih (fun j hj => hopen j (List.mem_append_left _ hj)) hfit.1
      have hpre : pre ++ Input.newConnection s pid :: (mid ++ [i]) =
          (pre ++ .newConnection s pid :: mid) ++ [i] := by simp
      rw [hpre, List.filterMap_append, Machine.run_append, received, hsplit]
      cases hi : i.io with
      | none => simpa [hi, received] using hF
      | some k =>
          have hB := beside_run (W := W) (J := J) (pre ++ .newConnection s pid :: mid)
          have hrun : (machine W J {}).run (pre ++ Input.newConnection s pid :: mid) =
              (machine W J ((machine W J {}).run (pre ++ [.newConnection s pid]))).run mid := by
            rw [← List.singleton_append, ← List.append_assoc, Machine.run_append]
            rfl
          have hk : IpcServer.Fits s ((IpcServer.machine J {}).run
              ((pre ++ .newConnection s pid :: mid).filterMap Input.io)) k := by
            rintro data rfl
            have hread : i = .readyRead s data := by
              cases i <;> simp_all [Input.io]
            rw [← hB.buffer s, hrun]
            exact hfit.2 data hread
          have hstep := hF.step (J := J) (fun hs => hopen k (by simp [hi]) hs) hk
          simpa [hi, received, IpcServer.received] using hstep

/-- **A connection whose reads fit says the lines of its stream**, each once
and in order. -/
theorem said_run {pre mid : List Input} {pid : Pid} (hopen : StaysOpen s mid)
    (hfit : (machine W J ((machine W J {}).run (pre ++ [.newConnection s pid]))).Meets
      (Fits s) mid) :
    said s (callsOf W J (pre ++ .newConnection s pid :: mid)) =
      said s (callsOf W J pre) ++ (linesOf (received s mid)).map J := by
  rw [(beside_run (pre ++ .newConnection s pid :: mid)).said s, (beside_run pre).said s,
    (framed_of_fits hopen hfit).handled, List.map_append]

/-! ## Where the reads are cut -/

/-- **Two processes that nobody tells apart**: the same daemon, and the same
bytes kept for each socket. -/
structure Agree (g h : IpcDaemon) : Prop where
  daemon : g.daemon = h.daemon
  buffer : ∀ s, g.buffer s = h.buffer s

@[refl] theorem Agree.refl (g : IpcDaemon) : Agree g g := ⟨rfl, fun _ => rfl⟩

@[trans] theorem Agree.trans {k : IpcDaemon} (hg : Agree g h) (hh : Agree h k) : Agree g k :=
  ⟨hg.daemon.trans hh.daemon, fun s => (hg.buffer s).trans (hh.buffer s)⟩

theorem Agree.symm (hg : Agree g h) : Agree h g :=
  ⟨hg.daemon.symm, fun s => (hg.buffer s).symm⟩

/-- **No input tells them apart.** -/
theorem Agree.step (hA : Agree g h) (i : Input) :
    Agree (IpcDaemon.step W J g i) (IpcDaemon.step W J h i) := by
  have hcalls : calls J g i = calls J h i := by
    cases i with
    | readyRead t data => rw [calls, calls, hA.buffer t]
    | newConnection | disconnected | signal => rfl
  refine ⟨by rw [daemon_step, daemon_step, hcalls, hA.daemon], fun s => ?_⟩
  cases i with
  | signal j => exact hA.buffer s
  | newConnection t pid =>
      rw [IpcDaemon.step, IpcDaemon.step, onNewConnection, onNewConnection, buffer_call,
        buffer_call, buffer_setBuffer, buffer_setBuffer, hA.buffer s]
  | disconnected t =>
      rw [IpcDaemon.step, IpcDaemon.step, onDisconnected, onDisconnected, buffer_call,
        buffer_call, buffer_eraseBuffer, buffer_eraseBuffer, hA.buffer s]
  | readyRead t data =>
      have ht := hA.buffer t
      rw [IpcDaemon.step, IpcDaemon.step]
      by_cases hle : (g.buffer t ++ data).length ≤ maxMessageSize
      · rw [(onReadyRead_of_le hle).2, (onReadyRead_of_le (ht ▸ hle)).2, ht, hA.buffer s]
      · have hlt := Nat.lt_of_not_le hle
        rw [onReadyRead_of_lt hlt, onReadyRead_of_lt (ht ▸ hlt), buffer_call, buffer_call,
          buffer_setBuffer, buffer_setBuffer, ht, hA.buffer s]

theorem Agree.foldl (hA : Agree g h) (ins : List Input) :
    Agree (ins.foldl (IpcDaemon.step W J) g) (ins.foldl (IpcDaemon.step W J) h) := by
  induction ins generalizing g h with
  | nil => exact hA
  | cons i ins ih => exact ih (hA.step i)

/-- **A read cut in two** is the two reads, one after the other. -/
theorem agree_onReadyRead_append {front back : QByteArray}
    (hle : (g.buffer t ++ (front ++ back)).length ≤ maxMessageSize) :
    Agree (g.onReadyRead W J t (front ++ back))
      ((g.onReadyRead W J t front).onReadyRead W J t back) := by
  have hfront : (g.buffer t ++ front).length ≤ maxMessageSize := by
    simp only [List.length_append] at hle ⊢
    omega
  obtain ⟨hd, -⟩ := onReadyRead_of_le (W := W) (J := J) (s := t) hfront
  have hb : ∀ s, (g.onReadyRead W J t front).buffer s =
      if s = t then residue newline (g.buffer t ++ front) else g.buffer s :=
    fun s => (onReadyRead_of_le hfront).2
  have hback : ((g.onReadyRead W J t front).buffer t ++ back).length ≤ maxMessageSize := by
    have hres := length_residue_le newline (g.buffer t ++ front)
    rw [hb t, if_pos rfl]
    simp only [List.length_append] at hle hres ⊢
    omega
  constructor
  · rw [(onReadyRead_of_le (s := t) hle).1, (onReadyRead_of_le (s := t) hback).1, hd, hb t,
      if_pos rfl, ← List.append_assoc, linesOf_append, List.map_append, List.foldl_append]
  · intro s
    rw [(onReadyRead_of_le hle).2, (onReadyRead_of_le hback).2, hb t, hb s, if_pos rfl,
      ← List.append_assoc, residue_append]
    by_cases hs : s = t
    · rw [if_pos hs, if_pos hs]
    · rw [if_neg hs, if_neg hs, if_neg hs]

/-- A read of nothing changes nothing, where no line waits in the buffer. -/
theorem agree_onReadyRead_nil (hn : newline ∉ g.buffer t)
    (hle : (g.buffer t).length ≤ maxMessageSize) : Agree (g.onReadyRead W J t []) g := by
  have hle' : (g.buffer t ++ []).length ≤ maxMessageSize := by rwa [List.append_nil]
  constructor
  · rw [(onReadyRead_of_le (s := t) hle').1, List.append_nil, linesOf, segments_of_notMem hn]
    rfl
  · intro s
    rw [(onReadyRead_of_le hle').2, List.append_nil, residue_of_notMem hn]
    by_cases hs : s = t
    · rw [if_pos hs, hs]
    · rw [if_neg hs]

/-- The input, a read in reads of one byte each. -/
def Input.bytewise : Input → List Input
  | .readyRead t data => data.map fun c => .readyRead t [c]
  | i => [i]

/-- Every socket's buffer has room for the input. -/
def Roomy (g : IpcDaemon) (i : Input) : Prop := ∀ s, Fits s g i

/-- No line waits in a buffer. -/
def Drained (g : IpcDaemon) : Prop := ∀ s, newline ∉ g.buffer s

/-- **One input, byte by byte.** -/
theorem agree_bytewise_step (hn : Drained g) (hi : Roomy g i) :
    Agree (step W J g i) (i.bytewise.foldl (step W J) g) := by
  cases i with
  | newConnection | disconnected | signal => exact .refl _
  | readyRead t data =>
      have hle := hi t data rfl
      clear hi
      rw [Input.bytewise]
      induction data generalizing g with
      | nil => exact agree_onReadyRead_nil (hn t) (by simpa using hle)
      | cons c data ih =>
          have hcut := @agree_onReadyRead_append W J g t [c] data hle
          have hone : (g.buffer t ++ [c]).length ≤ maxMessageSize := by
            simp only [List.length_append, List.length_cons, List.length_nil] at hle ⊢
            omega
          have hb : ∀ s, (g.onReadyRead W J t [c]).buffer s =
              if s = t then residue newline (g.buffer t ++ [c]) else g.buffer s :=
            fun s => (onReadyRead_of_le hone).2
          refine hcut.trans (ih (g := g.onReadyRead W J t [c]) (fun s => ?_) ?_)
          · rw [hb s]
            by_cases hs : s = t
            · rw [if_pos hs]
              exact notMem_residue
            · rw [if_neg hs]
              exact hn s
          · have hres := length_residue_le newline (g.buffer t ++ [c])
            rw [hb t, if_pos rfl]
            simp only [List.length_append, List.length_cons, List.length_nil] at hle hres ⊢
            omega

/-- Reads that fit leave no line behind. -/
theorem Drained.step (hn : Drained g) (hi : Roomy g i) : Drained (IpcDaemon.step W J g i) := by
  intro s
  cases i with
  | signal j => exact hn s
  | newConnection t pid =>
      rw [IpcDaemon.step, onNewConnection, buffer_call, buffer_setBuffer]
      by_cases hs : s = t
      · rw [if_pos hs]
        exact List.not_mem_nil
      · rw [if_neg hs]
        exact hn s
  | disconnected t =>
      rw [IpcDaemon.step, onDisconnected, buffer_call, buffer_eraseBuffer]
      by_cases hs : s = t
      · rw [if_pos hs]
        exact List.not_mem_nil
      · rw [if_neg hs]
        exact hn s
  | readyRead t data =>
      rw [IpcDaemon.step, (onReadyRead_of_le (hi t data rfl)).2]
      by_cases hs : s = t
      · rw [if_pos hs]
        exact notMem_residue
      · rw [if_neg hs]
        exact hn s

theorem drained_run (hroom : (machine W J {}).Meets Roomy ins) :
    Drained ((machine W J {}).run ins) :=
  Machine.invariant_of_meets (fun _ => List.not_mem_nil) (fun _ _ hn hi => hn.step hi) ins hroom

/-- **A run whose reads fit is the run of its bytes**, read one at a time. -/
theorem agree_bytewise (hroom : (machine W J {}).Meets Roomy ins) :
    Agree ((machine W J {}).run ins) ((machine W J {}).run (ins.flatMap Input.bytewise)) := by
  induction ins using List.reverseRecOn with
  | nil => exact .refl _
  | append_singleton ins i ih =>
      obtain ⟨hins, hi⟩ := Machine.meets_snoc.1 hroom
      rw [Machine.run_snoc, List.flatMap_append, Machine.run_append, List.flatMap_singleton]
      exact (agree_bytewise_step (drained_run hins) hi).trans ((ih hins).foldl _)

/-- **The daemon over byte streams.** In every run of the process: the agent
does what it does when it is handed the calls of the run one by one; a
connection whose reads fit hands it the lines of its stream, each once and
in order; and two runs whose reads fit, and that differ in nothing but where
the streams are cut into reads, leave the agent in the same state. -/
theorem streams_run (W : World) (J : QByteArray → Option QJsonObject) :
    (∀ ins, ((machine W J {}).run ins).daemon = (Daemon.machine W).run (callsOf W J ins)) ∧
      (∀ pre s pid mid, StaysOpen s mid →
        (machine W J ((machine W J {}).run (pre ++ [.newConnection s pid]))).Meets (Fits s) mid →
        said s (callsOf W J (pre ++ .newConnection s pid :: mid)) =
          said s (callsOf W J pre) ++ (linesOf (received s mid)).map J) ∧
      ∀ ins ins', (machine W J {}).Meets Roomy ins → (machine W J {}).Meets Roomy ins' →
        ins.flatMap Input.bytewise = ins'.flatMap Input.bytewise →
        ((machine W J {}).run ins).daemon = ((machine W J {}).run ins').daemon := by
  refine ⟨daemon_run, fun pre s pid mid hopen hfit => said_run hopen hfit,
    fun ins ins' hroom hroom' heq => ?_⟩
  have hA := agree_bytewise hroom
  rw [heq] at hA
  exact (hA.trans (agree_bytewise hroom').symm).daemon

/-- How many bytes an input reads. -/
def Input.size : Input → ℕ
  | .readyRead _ data => data.length
  | _ => 0

/-- A buffer grows by at most what is read. -/
theorem length_buffer_step_le (g : IpcDaemon) (i : Input) (s : Socket) :
    ((step W J g i).buffer s).length ≤ (g.buffer s).length + i.size := by
  cases i with
  | signal j => exact Nat.le_add_right _ _
  | newConnection t pid =>
      rw [step, onNewConnection, buffer_call, buffer_setBuffer]
      by_cases hs : s = t <;> simp [hs]
  | disconnected t =>
      rw [step, onDisconnected, buffer_call, buffer_eraseBuffer]
      by_cases hs : s = t <;> simp [hs]
  | readyRead t data =>
      rw [step, Input.size]
      by_cases hle : (g.buffer t ++ data).length ≤ maxMessageSize
      · have hres := length_residue_le newline (g.buffer t ++ data)
        rw [List.length_append] at hres
        rw [(onReadyRead_of_le hle).2]
        by_cases hs : s = t
        · rw [if_pos hs, hs]
          exact hres
        · rw [if_neg hs]
          exact Nat.le_add_right _ _
      · rw [onReadyRead_of_lt (Nat.lt_of_not_le hle), buffer_call, buffer_setBuffer]
        by_cases hs : s = t <;> simp [hs]

/-- A run that reads no more than the limit fits the buffers. -/
theorem meets_roomy_of_size_le
    (hle : (machine W J {}).tally (fun _ i => i.size) ins ≤ maxMessageSize) :
    (machine W J {}).Meets Roomy ins := by
  suffices hboth : (machine W J {}).Meets Roomy ins ∧
      ∀ s, (((machine W J {}).run ins).buffer s).length ≤
        (machine W J {}).tally (fun _ i => i.size) ins from hboth.1
  induction ins using List.reverseRecOn with
  | nil => exact ⟨Machine.meets_nil, fun s => Nat.le_refl 0⟩
  | append_singleton ins i ih =>
      rw [Machine.tally_snoc] at hle ⊢
      obtain ⟨hmeets, hlen⟩ := ih (by omega)
      refine ⟨Machine.meets_snoc.2 ⟨hmeets, fun s data hi => ?_⟩, fun s => ?_⟩
      · have hs := hlen s
        subst hi
        rw [Input.size] at hle
        rw [List.length_append]
        omega
      · have hs := hlen s
        have hstep := length_buffer_step_le (W := W) (J := J) ((machine W J {}).run ins) i s
        rw [Machine.run_snoc, machine_step]
        omega

/-- One message in one read, and cut in two. -/
theorem streams_run_cut :
    let W := World.plain (fun _ => 0) true
    ((machine W emptyObject {}).run [.newConnection 1 7, .readyRead 1 [123, 125, 10]]).daemon =
      ((machine W emptyObject {}).run
        [.newConnection 1 7, .readyRead 1 [123], .readyRead 1 [125, 10]]).daemon :=
  (streams_run _ emptyObject).2.2 _ _ (meets_roomy_of_size_le (by decide))
    (meets_roomy_of_size_le (by decide)) rfl

end IpcDaemon

end BbAuth
