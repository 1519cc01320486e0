import BbAuth.Library.Machine
import BbAuth.Model.IpcServer
/-!
# Transport — the lines of a connection

The server keeps, for each connection, what follows the last newline of
what it has read there, and has handled the lines before it
(`framed_of_fits`). This holds as long as every read fits: what is in the
buffer and what is read do not exceed the limit together. The limit is on
the buffer and not on a message, so a read of many short messages can fail
it; the connection is served to its last line exactly when every read
fits (`servedWhole_iff`).
-/

namespace BbAuth

namespace QByteArray

open Framing

/-- The lines of a stream: its segments without the white space around
them, blank ones left out. -/
def linesOf (bytes : QByteArray) : List QByteArray :=
  ((segments newline bytes).map trimmed).filter (!·.isEmpty)

/-- Lines of a longer stream continue its residue. -/
theorem linesOf_append (bytes data : QByteArray) :
    linesOf (bytes ++ data) = linesOf bytes ++ linesOf (residue newline bytes ++ data) := by
  rw [linesOf, segments_append, List.map_append, List.filter_append, linesOf, linesOf]

/-- A parser that knows the empty object and nothing else. -/
def emptyObject (line : QByteArray) : Option QJsonObject :=
  if line = [123, 125] then some [] else none

end QByteArray

namespace IpcServer

open Framing QByteArray

/-- What happens at the server's sockets. -/
inductive Input where
  | newConnection (socket : Socket)
  /-- `data` can be read from the socket. -/
  | readyRead (socket : Socket) (data : QByteArray)
  | disconnected (socket : Socket)

/-- The socket it happens at. -/
def Input.socket : Input → Socket
  | .newConnection t | .readyRead t _ | .disconnected t => t

variable (fromJson : QByteArray → Option QJsonObject)

/-- One of these at the server. -/
def step (v : IpcServer) : Input → IpcServer
  | .newConnection t => v.onNewConnection t
  | .readyRead t data => v.onReadyRead fromJson t data
  | .disconnected t => v.onDisconnected t

/-- **The server from a state on.** -/
@[simps] def machine (v : IpcServer) : Machine IpcServer Input where
  init := v
  step := step fromJson

/-! ## One connection -/

/-- Nothing but reads happens at the socket: one connection. -/
def StaysOpen (s : Socket) (ins : List Input) : Prop :=
  ∀ i ∈ ins, i.socket = s → ∃ data, i = .readyRead s data

/-- What one input adds to the stream of the connection. -/
def Input.bytes (s : Socket) : Input → QByteArray
  | .readyRead t data => if t = s then data else []
  | _ => []

/-- The byte stream of the connection. -/
def received (s : Socket) (ins : List Input) : QByteArray := ins.flatMap (Input.bytes s)

/-- The lines passed to `handleLine` for the socket. -/
def handled (s : Socket) (log : List Output) : List QByteArray :=
  log.filterMap fun
    | .handleLine t line => if t = s then some line else none
    | _ => none

/-- How often the server has cut the connection. -/
def cutOffs (s : Socket) (log : List Output) : ℕ := log.count (.disconnectFromServer s)

/-- **The input fits the buffer**: if it is a read of the socket, what is
kept and what is read are within the limit. -/
def Fits (s : Socket) (v : IpcServer) (i : Input) : Prop :=
  ∀ data, i = .readyRead s data → (v.buffer s ++ data).length ≤ maxMessageSize

variable {J : QByteArray → Option QJsonObject} {v w : IpcServer} {s t : Socket}
variable {ins : List Input} {i : Input}
  {bytes data : QByteArray}

@[simp] theorem received_nil : received s [] = [] := rfl

@[simp] theorem received_snoc : received s (ins ++ [i]) = received s ins ++ i.bytes s := by
  simp [received]

@[simp] theorem handled_append {l m : List Output} :
    handled s (l ++ m) = handled s l ++ handled s m := List.filterMap_append

@[simp] theorem cutOffs_append {l m : List Output} :
    cutOffs s (l ++ m) = cutOffs s l + cutOffs s m := List.count_append

theorem StaysOpen.of_snoc (h : StaysOpen s (ins ++ [i])) :
    StaysOpen s ins ∧ (i.socket = s → ∃ data, i = .readyRead s data) :=
  ⟨fun j hj => h j (List.mem_append_left _ hj), h i (by simp)⟩

/-! ## The loop of a read -/

section Loop

variable {σ : Type} {setBuffer : σ → QByteArray → σ} {disconnect : σ → σ}
  {handleLine : σ → QByteArray → σ} {x : σ}

theorem foldl_takeLine (segs : List QByteArray) (x : σ) :
    segs.foldl (takeLine handleLine) x =
      ((segs.map trimmed).filter (!·.isEmpty)).foldl handleLine x := by
  induction segs generalizing x with
  | nil => rfl
  | cons seg segs ih =>
      rw [List.foldl_cons, ih, List.map_cons]
      by_cases hb : seg.trimmed.isEmpty = true
      · simp [takeLine, hb]
      · simp [takeLine, hb]

/-- **A buffer that fits**: the lines up to the last newline are handled,
and the rest is kept. -/
theorem read_of_le (h : bytes.length ≤ maxMessageSize) :
    read handleLine setBuffer disconnect bytes x =
      setBuffer ((linesOf bytes).foldl handleLine (setBuffer x bytes)) (residue newline bytes) := by
  rw [read]
  simp only [if_neg (Nat.not_lt.2 h), drain_eq, foldl_takeLine, linesOf]

/-- **A buffer that does not fit** is kept as it is, and nothing of it is
handled. -/
theorem read_of_lt (h : maxMessageSize < bytes.length) :
    read handleLine setBuffer disconnect bytes x = disconnect (setBuffer x bytes) := by
  rw [read]
  exact if_pos h

end Loop

theorem bufferOf_insert {buffers : Table Socket QByteArray} :
    bufferOf (buffers.insert t bytes) s = if s = t then bytes else bufferOf buffers s := by
  by_cases h : s = t <;> simp [bufferOf, h]

theorem bufferOf_erase {buffers : Table Socket QByteArray} :
    bufferOf (buffers.erase t) s = if s = t then [] else bufferOf buffers s := by
  by_cases h : s = t <;> simp [bufferOf, h]

/-! ## One line -/

@[simp] theorem buffer_setBuffer :
    (v.setBuffer t bytes).buffer s = if s = t then bytes else v.buffer s := bufferOf_insert

@[simp] theorem buffer_emit {o : Output} : (v.emit o).buffer s = v.buffer s := rfl

@[simp] theorem log_emit {o : Output} : (v.emit o).log = v.log ++ [o] := rfl

@[simp] theorem log_setBuffer : (v.setBuffer t bytes).log = v.log := rfl

/-- What the server does next at a line, apart from handling it, is neither
to handle one nor to cut a connection. -/
theorem handleLine_spec (line : QByteArray) :
    ∃ out, (v.handleLine J t line).log = v.log ++ .handleLine t line :: out ∧
      handled s out = [] ∧ cutOffs s out = 0 ∧
      (v.handleLine J t line).buffers = v.buffers := by
  by_cases hh : v.hasHandler = true
  · cases hj : J line with
    | none =>
        exact ⟨[.sendJson t (error "Invalid JSON")], by simp [handleLine, emit, hh, hj], rfl, rfl,
          by simp [handleLine, emit, hh, hj]⟩
    | some obj =>
        by_cases hty : (obj.value "type").toString = ""
        · exact ⟨[.sendJson t (error "Missing type field")],
            by simp [handleLine, emit, hh, hj, hty], rfl, rfl,
            by simp [handleLine, emit, hh, hj, hty]⟩
        · exact ⟨[.handler t (obj.value "type").toString obj],
            by simp [handleLine, emit, hh, hj, hty], rfl, rfl,
            by simp [handleLine, emit, hh, hj, hty]⟩
  · exact ⟨[], by simp [handleLine, emit, hh], rfl, rfl, by simp [handleLine, emit, hh]⟩

/-- The lines of the socket `t`, as the socket `s` sees them. -/
def linesAt (s t : Socket) (lines : List QByteArray) : List QByteArray :=
  if t = s then lines else []

/-- What the server has done at some lines of a socket, and what it has
left alone. -/
structure Handles (s t : Socket) (lines : List QByteArray) (v w : IpcServer) : Prop where
  handled : handled s w.log = IpcServer.handled s v.log ++ linesAt s t lines
  cutOffs : cutOffs s w.log = IpcServer.cutOffs s v.log
  buffers : w.buffers = v.buffers

theorem handles_handleLine (line : QByteArray) :
    Handles s t [line] v (v.handleLine J t line) := by
  obtain ⟨out, hlog, hout, hcut, hbuf⟩ :=
    handleLine_spec (s := s) (v := v) (J := J) (t := t) line
  refine ⟨?_, ?_, hbuf⟩
  · rw [hlog, handled_append]
    by_cases ht : t = s <;> simpa [IpcServer.handled, linesAt, ht] using hout
  · rw [hlog, cutOffs_append]
    simpa [IpcServer.cutOffs] using hcut

/-- **The loop of a read** handles the lines of the buffer. -/
theorem handles_foldl (lines : List QByteArray) : ∀ v : IpcServer,
    Handles s t lines v (lines.foldl (fun v line => v.handleLine J t line) v) := by
  induction lines with
  | nil => exact fun v => ⟨by simp [linesAt], rfl, rfl⟩
  | cons line lines ih =>
      intro v
      have h₁ : Handles s t [line] v (v.handleLine J t line) := handles_handleLine line
      have h₂ := ih (v.handleLine J t line)
      rw [List.foldl_cons]
      refine ⟨?_, h₂.cutOffs.trans h₁.cutOffs, h₂.buffers.trans h₁.buffers⟩
      rw [h₂.handled, h₁.handled, List.append_assoc]
      by_cases ht : t = s <;> simp [linesAt, ht]

/-! ## One read -/

/-- **A read that fits**: the lines up to the last newline are handled, and
the buffer keeps the rest. -/
theorem onReadyRead_of_le (h : (v.buffer t ++ data).length ≤ maxMessageSize) :
    handled s (v.onReadyRead J t data).log =
        handled s v.log ++ linesAt s t (linesOf (v.buffer t ++ data)) ∧
      cutOffs s (v.onReadyRead J t data).log = cutOffs s v.log ∧
      (v.onReadyRead J t data).buffer s =
        if s = t then residue newline (v.buffer t ++ data) else v.buffer s := by
  have hs := handles_foldl (s := s) (t := t) (J := J)
    (linesOf (v.buffer t ++ data)) (v.setBuffer t (v.buffer t ++ data))
  rw [onReadyRead, read_of_le h]
  simp only [log_setBuffer, buffer_setBuffer]
  refine ⟨hs.handled, hs.cutOffs, ?_⟩
  by_cases hst : s = t
  · rw [if_pos hst, if_pos hst]
  · rw [if_neg hst, if_neg hst, buffer, hs.buffers]
    exact bufferOf_insert.trans (if_neg hst)

/-- **A read that does not fit** cuts the connection, and nothing of it is
handled. -/
theorem onReadyRead_of_lt (h : maxMessageSize < (v.buffer t ++ data).length) :
    v.onReadyRead J t data =
      (v.setBuffer t (v.buffer t ++ data)).emit (.disconnectFromServer t) := read_of_lt h

/-- What happens at another socket leaves the connection alone. -/
theorem step_of_ne (h : i.socket ≠ s) :
    handled s (step J v i).log = handled s v.log ∧
      cutOffs s (step J v i).log = cutOffs s v.log ∧
      (step J v i).buffer s = v.buffer s := by
  cases i with
  | newConnection t =>
      have hts : s ≠ t := fun he => h he.symm
      simp [step, onNewConnection, handled, cutOffs, hts]
  | disconnected t =>
      have hts : s ≠ t := fun he => h he.symm
      simp [step, onDisconnected, handled, cutOffs, emit, buffer, bufferOf_erase, hts]
  | readyRead t data =>
      have hts : t ≠ s := h
      by_cases hle : (v.buffer t ++ data).length ≤ maxMessageSize
      · obtain ⟨hh, hc, hb⟩ := onReadyRead_of_le (s := s) (J := J) hle
        rw [linesAt, if_neg hts, List.append_nil] at hh
        rw [if_neg hts.symm] at hb
        exact ⟨hh, hc, hb⟩
      · rw [step, onReadyRead_of_lt (Nat.lt_of_not_le hle)]
        simp [handled, cutOffs, hts, hts.symm]

/-! ## A whole connection -/

/-- **A connection served to its last byte**: the lines of its stream are
handled, and the buffer holds what follows the last newline. -/
structure Framed (s : Socket) (v w : IpcServer) (stream : QByteArray) : Prop where
  handled : handled s w.log = IpcServer.handled s v.log ++ linesOf stream
  cutOffs : cutOffs s w.log = IpcServer.cutOffs s v.log
  buffer : w.buffer s = residue newline stream

theorem framed_onNewConnection : Framed s v (v.onNewConnection s) [] where
  handled := by
    simp [onNewConnection, IpcServer.handled, linesOf, segments_of_notMem]
  cutOffs := by simp [onNewConnection, IpcServer.cutOffs]
  buffer := by simp [onNewConnection, residue_of_notMem]

/-- **One more read**: the residue and the bytes read are one piece of the
stream. -/
theorem Framed.read (h : Framed s v w bytes) (hfit : (w.buffer s ++ data).length ≤ maxMessageSize) :
    Framed s v (w.onReadyRead J s data) (bytes ++ data) := by
  obtain ⟨hh, hc, hb⟩ := onReadyRead_of_le (s := s) (J := J) hfit
  rw [linesAt, if_pos rfl, h.buffer] at hh
  rw [if_pos rfl, h.buffer] at hb
  refine ⟨?_, hc.trans h.cutOffs, ?_⟩
  · rw [hh, h.handled, linesOf_append bytes, List.append_assoc]
  · rw [hb, residue_append (s := bytes)]

/-- **One more input that fits.** -/
theorem Framed.step (h : Framed s v w bytes)
    (hopen : i.socket = s → ∃ data, i = .readyRead s data) (hfit : Fits s w i) :
    Framed s v (step J w i) (bytes ++ i.bytes s) := by
  by_cases hs : i.socket = s
  · obtain ⟨data, rfl⟩ := hopen hs
    simpa [Input.bytes, IpcServer.step] using h.read (hfit data rfl)
  · obtain ⟨hh, hc, hb⟩ := step_of_ne (v := w) (J := J) hs
    have hnone : i.bytes s = [] := by
      cases i with
      | readyRead t data => exact if_neg hs
      | newConnection t => rfl
      | disconnected t => rfl
    rw [hnone, List.append_nil]
    exact ⟨hh.trans h.handled, hc.trans h.cutOffs, hb.trans h.buffer⟩

/-- **The invariant of a connection whose reads fit.** -/
theorem framed_of_fits (hopen : StaysOpen s ins)
    (hfit : (machine J (v.onNewConnection s)).Meets (Fits s) ins) :
    Framed s v ((machine J (v.onNewConnection s)).run ins) (received s ins) := by
  induction ins using List.reverseRecOn with
  | nil => exact framed_onNewConnection
  | append_singleton ins i ih =>
      rw [Machine.meets_snoc] at hfit
      rw [Machine.run_snoc, received_snoc]
      exact (ih hopen.of_snoc.1 hfit.1).step hopen.of_snoc.2 hfit.2

/-- **A stream within the limit** fits, however it is read. -/
theorem fits_of_length_le (hopen : StaysOpen s ins)
    (h : (received s ins).length ≤ maxMessageSize) :
    (machine J (v.onNewConnection s)).Meets (Fits s) ins := by
  induction ins using List.reverseRecOn with
  | nil => exact Machine.meets_nil
  | append_singleton ins i ih =>
      rw [received_snoc, List.length_append] at h
      have hfit := ih hopen.of_snoc.1 (by omega)
      refine Machine.meets_snoc.2 ⟨hfit, fun data hi => ?_⟩
      have hbuf := (framed_of_fits hopen.of_snoc.1 hfit).buffer
      have hle := length_residue_le newline (received s ins)
      subst hi
      rw [hbuf, List.length_append]
      simp only [Input.bytes, if_true] at h
      omega

/-- **Framing does not depend on read boundaries.** While every read of a
connection fits, the server has handled the lines of its stream, each once
and in order, and keeps the bytes after the last newline; so two ways of
reading one stream end alike. -/
theorem onReadyRead_framing (fromJson : QByteArray → Option QJsonObject) (v : IpcServer)
    (s : Socket) :
    (∀ ins, StaysOpen s ins → (machine fromJson (v.onNewConnection s)).Meets (Fits s) ins →
      let w := (machine fromJson (v.onNewConnection s)).run ins
      handled s w.log = handled s v.log ++ linesOf (received s ins) ∧
        w.buffer s = residue newline (received s ins)) ∧
    ∀ ins ins', StaysOpen s ins → StaysOpen s ins' →
      (machine fromJson (v.onNewConnection s)).Meets (Fits s) ins →
      (machine fromJson (v.onNewConnection s)).Meets (Fits s) ins' →
      received s ins = received s ins' →
      let w := (machine fromJson (v.onNewConnection s)).run ins
      let w' := (machine fromJson (v.onNewConnection s)).run ins'
      handled s w.log = handled s w'.log ∧ w.buffer s = w'.buffer s := by
  refine ⟨fun ins hopen hfit => ?_, fun ins ins' hopen hopen' hfit hfit' heq => ?_⟩
  · have h := framed_of_fits hopen hfit
    exact ⟨h.handled, h.buffer⟩
  · have h := framed_of_fits hopen hfit
    have h' := framed_of_fits hopen' hfit'
    exact ⟨by rw [h.handled, h'.handled, heq], by rw [h.buffer, h'.buffer, heq]⟩

/-- One message in one read, and byte by byte. -/
theorem onReadyRead_framing_cut :
    let w := (machine emptyObject (onNewConnection {} 0)).run [.readyRead 0 [123, 125, 10]]
    let w' := (machine emptyObject (onNewConnection {} 0)).run
      [.readyRead 0 [123], .readyRead 0 [125], .readyRead 0 [10]]
    handled 0 w.log = handled 0 w'.log ∧ w.buffer 0 = w'.buffer 0 := by
  have hopen : ∀ l : List QByteArray, StaysOpen 0 (l.map (Input.readyRead 0)) := by
    intro l i hi _
    obtain ⟨data, -, rfl⟩ := List.mem_map.1 hi
    exact ⟨data, rfl⟩
  exact (onReadyRead_framing emptyObject {} 0).2 _ _ (hopen [[123, 125, 10]])
    (hopen [[123], [125], [10]]) (fits_of_length_le (hopen [[123, 125, 10]]) (by decide))
    (fits_of_length_le (hopen [[123], [125], [10]]) (by decide)) (by decide)

/-! ## The limit -/

/-- **Never cut off, and every message dispatched.** -/
def ServedWhole (s : Socket) (v w : IpcServer) (stream : QByteArray) : Prop :=
  cutOffs s w.log = cutOffs s v.log ∧ handled s w.log = handled s v.log ++ linesOf stream

/-- Nothing takes a cut-off back. -/
theorem cutOffs_step_le : cutOffs s v.log ≤ cutOffs s (step J v i).log := by
  by_cases hs : i.socket = s
  · cases i with
    | newConnection t => simp [step, onNewConnection]
    | disconnected t => simp [step, onDisconnected, emit]
    | readyRead t data =>
        by_cases hle : (v.buffer t ++ data).length ≤ maxMessageSize
        · exact (onReadyRead_of_le (s := s) (J := J) hle).2.1.ge
        · rw [step, onReadyRead_of_lt (Nat.lt_of_not_le hle)]
          simp
  · exact (step_of_ne hs).2.1.ge

/-- A read that does not fit is a cut-off. -/
theorem cutOffs_of_not_fits (h : ¬ Fits s v i) :
    cutOffs s (step J v i).log = cutOffs s v.log + 1 := by
  simp only [Fits, not_forall, Nat.not_le] at h
  obtain ⟨data, rfl, hlt⟩ := h
  rw [step, onReadyRead_of_lt hlt]
  simp [cutOffs]

theorem cutOffs_run_le (ins : List Input) :
    cutOffs s v.log ≤ cutOffs s ((machine J v).run ins).log :=
  Machine.invariant (M := machine J v) (I := fun w => cutOffs s v.log ≤ cutOffs s w.log)
    le_rfl (fun _ _ h => h.trans cutOffs_step_le) ins

theorem fits_of_cutOffs_eq
    (h : cutOffs s ((machine J w).run ins).log = cutOffs s w.log) :
    (machine J w).Meets (Fits s) ins := by
  induction ins using List.reverseRecOn with
  | nil => exact Machine.meets_nil
  | append_singleton ins i ih =>
      have hrun : (machine J w).run (ins ++ [i]) =
          step J ((machine J w).run ins) i := Machine.run_snoc ..
      rw [hrun] at h
      have hlast := cutOffs_step_le (s := s) (J := J)
        (v := (machine J w).run ins) (i := i)
      have hfirst := cutOffs_run_le (s := s) (J := J) (v := w) ins
      refine Machine.meets_snoc.2 ⟨ih (by omega), ?_⟩
      by_contra hnot
      have := cutOffs_of_not_fits (J := J) hnot
      omega

/-- **Which connections are served whole**: those whose every read fits the
buffer. The limit is checked before the complete lines are taken out, so
messages within it are cut off when many of them arrive in one read. -/
theorem servedWhole_iff (fromJson : QByteArray → Option QJsonObject) (v : IpcServer) (s : Socket)
    (ins : List Input) (hopen : StaysOpen s ins) :
    ServedWhole s v ((machine fromJson (v.onNewConnection s)).run ins) (received s ins) ↔
      (machine fromJson (v.onNewConnection s)).Meets (Fits s) ins := by
  constructor
  · rintro ⟨hcut, -⟩
    refine fits_of_cutOffs_eq (hcut.trans ?_)
    exact framed_onNewConnection.cutOffs.symm
  · intro hfit
    have h := framed_of_fits hopen hfit
    exact ⟨h.cutOffs, h.handled⟩

/-- Three messages on one connection, the second cut by a read and the third
without its end: it is served whole. -/
theorem servedWhole_iff_short :
    let ins : List Input := [.readyRead 0 [123, 125, 10, 123], .readyRead 1 [123],
      .readyRead 0 [125, 10, 123]]
    ServedWhole 0 {} ((machine emptyObject (onNewConnection {} 0)).run ins) (received 0 ins) := by
  intro ins
  have hopen : StaysOpen 0 ins := by
    intro i hi hs
    simp only [ins, List.mem_cons, List.not_mem_nil, or_false] at hi
    rcases hi with rfl | rfl | rfl
    · exact ⟨_, rfl⟩
    · cases hs
    · exact ⟨_, rfl⟩
  exact (servedWhole_iff emptyObject {} 0 ins hopen).2 (fits_of_length_le hopen (by decide))

/-- A line of forty thousand bytes. -/
def longLine : QByteArray := List.replicate 40000 120

theorem length_longLine : longLine.length = 40000 := List.length_replicate

theorem newline_notMem_longLine : newline ∉ longLine := by
  intro h
  have := List.eq_of_mem_replicate h
  revert this
  decide

/-- Two long lines, each within the limit. -/
def twoLines : QByteArray := longLine ++ newline :: (longLine ++ newline :: [])

theorem length_twoLines : twoLines.length = 80002 := by
  have hlen : ∀ line : QByteArray, line.length = 40000 →
      (line ++ newline :: (line ++ newline :: [])).length = 80002 := by
    intro line h
    rw [List.length_append, List.length_cons, List.length_append, h]
    rfl
  exact hlen longLine length_longLine

theorem segments_twoLines : segments newline twoLines = [longLine, longLine] := by
  rw [twoLines, segments_append_cons newline_notMem_longLine,
    segments_append_cons newline_notMem_longLine, segments_of_notMem List.not_mem_nil]

/-- **Two messages within the limit, in one read**: the client is cut off. -/
theorem not_servedWhole_twoLines :
    (∀ seg ∈ segments newline twoLines, (seg ++ [newline]).length ≤ maxMessageSize) ∧
      ¬ ServedWhole 0 {} ((machine emptyObject (onNewConnection {} 0)).run
        [.readyRead 0 twoLines]) twoLines := by
  constructor
  · rw [segments_twoLines]
    intro seg hseg
    have hline : seg = longLine := by simpa using hseg
    rw [hline, List.length_append, length_longLine]
    decide
  · rintro ⟨hcut, -⟩
    have hrun : ∀ bytes, (machine emptyObject (onNewConnection {} 0)).run [.readyRead 0 bytes] =
        (onNewConnection {} 0).onReadyRead emptyObject 0 bytes := fun _ => rfl
    have hbuf : (onNewConnection {} 0).buffer 0 = [] := rfl
    have hlt : maxMessageSize < ((onNewConnection {} 0).buffer 0 ++ twoLines).length := by
      rw [hbuf, List.nil_append, length_twoLines]
      decide
    rw [hrun, onReadyRead_of_lt hlt, log_emit, cutOffs_append] at hcut
    simp [cutOffs, onNewConnection] at hcut

end IpcServer

end BbAuth
