import BbAuth.Library.Ascent
import BbAuth.Model.RequestContext
/-!
# What a requestor's identity depends on

The loop is a halting walk up the parents, and what it settles on is a fold
over what it meets. A process of another user that does not run as root
should end it, whatever stands above.

It does, unless the process passes for a bridge. By its name only a process
of root can, but an executable is taken at its file name, whoever runs it:
a foreign process whose executable is called `sudo` is climbed over, and
what is shown is what stands above it.
-/

namespace BbAuth

namespace RequestContextHelper

open Ascent

variable (U : CaseTables) (index : List DesktopInfo) (agentUid : ℤ)
variable (reader reader' : ℤ → Option ProcInfo) (subject : ProcInfo)

/-! ## The loop as a walk -/

/-- The parent a walk goes on at. -/
def parent (currPid : ℤ) (info : ProcInfo) : Option ℤ :=
  if info.ppid ≤ 1 ∨ info.ppid = currPid then none else some info.ppid

/-- The loop reads no pid up to one. -/
def readAbove (pid : ℤ) : Option ProcInfo := if pid > 1 then reader pid else none

/-- **The parent walk** from the subject. -/
def parentWalk : List (ℤ × ProcInfo) := walk parent (readAbove reader) 16 subject.pid

/-- The loop stops at a process of another user that is no bridge. -/
def stopsAt (info : ProcInfo) : Bool :=
  info.uid ≠ agentUid ∧ agentUid ≠ 0 ∧ isBridge info = false

/-- **A process is climbed over**: the loop does not stop at it, and no
desktop entry matches it. -/
def passes (info : ProcInfo) : Bool :=
  !stopsAt agentUid info && !(desktopOf U index info).isValid

/-- What the loop makes of one process. -/
def settle (actor : ActorInfo) (info : ProcInfo) : ActorInfo :=
  if stopsAt agentUid info then actor
  else
    let actor :=
      if isBridge info = false ∧ info.uid = agentUid then { actor with proc := info } else actor
    let d := desktopOf U index info
    if d.isValid then { actor with proc := info, desktop := d, confidence := "desktop" } else actor

/-- **The loop is a fold over what its walk meets.** -/
theorem climb_eq_foldl (hops : ℕ) (actor : ActorInfo) (pid : ℤ) :
    climb U index agentUid reader hops actor pid =
      (walk (halting parent (passes U index agentUid)) (readAbove reader) hops pid).foldl
        (fun actor q => settle U index agentUid actor q.2) actor := by
  induction hops generalizing actor pid with
  | zero => rfl
  | succ hops ih =>
      unfold climb walk readAbove
      by_cases hpid : pid > 1
      · simp only [if_pos hpid]
        cases reader pid with
        | none => rfl
        | some info =>
            cases hs : stopsAt agentUid info with
            | true =>
                have hs' : info.uid ≠ agentUid ∧ agentUid ≠ 0 ∧ isBridge info = false :=
                  of_decide_eq_true hs
                simp [hs', halting, passes, hs, settle]
            | false =>
                have hs' : ¬ (info.uid ≠ agentUid ∧ agentUid ≠ 0 ∧ isBridge info = false) :=
                  of_decide_eq_false hs
                simp only [if_neg hs', List.foldl_cons, settle, hs, Bool.false_eq_true, if_false]
                cases hd : (desktopOf U index info).isValid with
                | true => simp [halting, passes, hs, hd]
                | false =>
                    by_cases hp : info.ppid ≤ 1 ∨ info.ppid = pid
                    · simp [halting, passes, hs, hd, parent, hp]
                    · simp only [halting, passes, hs, hd, parent, hp, Bool.not_false,
                        Bool.and_self, if_true, if_false, Option.elim_some, Bool.false_eq_true]
                      exact ih _ _
      · simp only [if_neg hpid]
        rfl

/-! ## What the loop reads -/

variable {U index agentUid reader reader' subject}

/-- Readers that agree on what is read give the same requestor. -/
theorem resolveRequestorFromSubject_congr
    (h : ∀ pid ∈ reads (halting parent (passes U index agentUid)) (readAbove reader) 16 subject.pid,
      reader' pid = reader pid) :
    resolveRequestorFromSubject U index subject agentUid reader' =
      resolveRequestorFromSubject U index subject agentUid reader := by
  unfold resolveRequestorFromSubject
  rw [climb_eq_foldl, climb_eq_foldl, walk_congr]
  intro pid hpid
  simp only [readAbove, h pid hpid]

variable (agentUid)

/-- **A foreign process**: it is another user's, and does not run as root. -/
def Foreign (info : ProcInfo) : Prop := info.uid ≠ agentUid ∧ info.euid ≠ 0

instance : DecidablePred (Foreign agentUid) := fun info => by
  unfold Foreign
  infer_instance

variable (reader subject)

/-- **The first foreign process** of the parent walk is `p`, and stands
after `pre`. -/
structure FirstForeign (pre : List (ℤ × ProcInfo)) (p : ℤ × ProcInfo) : Prop where
  met : ∃ post, parentWalk reader subject = pre ++ p :: post
  before : ∀ q ∈ pre, ¬ Foreign agentUid q.2
  foreign : Foreign agentUid p.2

variable (U index)

/-- **Nothing above `p` matters**: every reader that agrees up to there
gives the same requestor. -/
def Confined (pre : List (ℤ × ProcInfo)) (p : ℤ × ProcInfo) : Prop :=
  ∀ reader' : ℤ → Option ProcInfo, (∀ q ∈ pre ++ [p], reader' q.1 = reader q.1) →
    resolveRequestorFromSubject U index subject agentUid reader' =
      resolveRequestorFromSubject U index subject agentUid reader

/-- **The foreign process `p` is climbed over**: the loop gets to it, its
executable is called like a bridge, no desktop entry matches it, and there
is a hop left to a parent that has not been visited. -/
structure ClimbedOver (pre : List (ℤ × ProcInfo)) (p : ℤ × ProcInfo) : Prop where
  reached : ∀ q ∈ pre, passes U index agentUid q.2 = true
  bridge : fileName p.2.exe = "pkexec" ∨ fileName p.2.exe = "sudo" ∨ fileName p.2.exe = "doas"
  unmatched : (desktopOf U index p.2).isValid = false
  hops : pre.length + 1 < 16
  above : 1 < p.2.ppid
  unvisited : p.2.ppid ∉ (pre ++ [p]).map Prod.fst

variable {U index agentUid reader subject} {pre : List (ℤ × ProcInfo)} {p : ℤ × ProcInfo}

/-- A process that is not root's is a bridge by its executable only. -/
theorem isBridge_of_euid {info : ProcInfo} (h : info.euid ≠ 0) :
    isBridge info = true ↔
      fileName info.exe = "pkexec" ∨ fileName info.exe = "sudo" ∨ fileName info.exe = "doas" := by
  by_cases he : info.exe = ""
  · have hempty : fileName "" = "" := by decide
    simp [isBridge, exeName, he, h, hempty]
  · simp [isBridge, exeName, he, or_assoc]

/-- **A foreign process is passed** exactly where it is called like a
bridge and matches no desktop entry. -/
theorem passes_of_foreign (hagent : agentUid ≠ 0) {info : ProcInfo} (h : Foreign agentUid info) :
    passes U index agentUid info = true ↔
      (fileName info.exe = "pkexec" ∨ fileName info.exe = "sudo" ∨ fileName info.exe = "doas") ∧
        (desktopOf U index info).isValid = false := by
  rw [← isBridge_of_euid h.2]
  simp [passes, stopsAt, h.1, hagent]

/-- To be climbed over is to be left by the walk. -/
theorem climbedOver_iff (hagent : agentUid ≠ 0) (h : Foreign agentUid p.2) :
    ClimbedOver U index agentUid pre p ↔
      ∃ pid, Leaves parent (passes U index agentUid) 16 pre p pid := by
  constructor
  · intro hc
    have hne : p.2.ppid ≠ p.1 := fun heq =>
      hc.unvisited (heq ▸ List.mem_map_of_mem (by simp))
    refine ⟨p.2.ppid, fun q hq => ?_, hc.hops, ?_, hc.unvisited⟩
    · rcases List.mem_append.1 hq with hq | hq
      · exact hc.reached q hq
      · obtain rfl := List.mem_singleton.1 hq
        exact (passes_of_foreign hagent h).2 ⟨hc.bridge, hc.unmatched⟩
    · have habove := hc.above
      rw [parent, if_neg]
      omega
  · rintro ⟨pid, hl⟩
    obtain ⟨hbridge, hunmatched⟩ :=
      (passes_of_foreign hagent h).1 (hl.passed p (by simp))
    have hnext := hl.next
    unfold parent at hnext
    split at hnext
    · cases hnext
    next hup =>
      obtain rfl := Option.some.inj hnext
      exact ⟨fun q hq => hl.passed q (List.mem_append_left _ hq), hbridge, hunmatched, hl.steps,
        by omega, hl.new⟩

/-! ## Above a process that is climbed over -/

variable (U index agentUid subject) in
/-- What the loop has settled on after the processes of `seen`. -/
def settled (seen : List (ℤ × ProcInfo)) : ActorInfo :=
  seen.foldl (fun actor q => settle U index agentUid actor q.2) { proc := subject }

/-- A process of the user's own, of which nothing is known but its pid. -/
def bystander (agentUid pid : ℤ) : ProcInfo := { pid := pid, uid := agentUid }

theorem settle_bystander (actor : ActorInfo) (pid : ℤ) :
    settle U index agentUid actor (bystander agentUid pid) =
      { actor with proc := bystander agentUid pid } := by
  have hbridge : isBridge (bystander agentUid pid) = false := rfl
  have hmatch : (desktopOf U index (bystander agentUid pid)).isValid = false := rfl
  have hstop : stopsAt agentUid (bystander agentUid pid) = false :=
    decide_eq_false fun h => h.1 rfl
  have huid : (bystander agentUid pid).uid = agentUid := rfl
  simp [settle, hstop, hbridge, hmatch, huid]

/-- `fill` leaves the process. -/
theorem fill_proc (actor : ActorInfo) : (fill U actor).proc = actor.proc := by
  simp only [fill, apply_ite ActorInfo.proc, ite_self]

/-- A parent is above one. -/
theorem one_lt_of_parent {currPid pid : ℤ} {info : ProcInfo} (h : parent currPid info = some pid) :
    1 < pid := by
  unfold parent at h
  split at h
  · cases h
  · obtain rfl := Option.some.inj h
    omega

/-- **What is read above decides**: where the walk leaves for `pid`, the
process found there is the last it meets. -/
theorem proc_of_leaves {pid : ℤ} (found : Option ProcInfo)
    (hw : ∃ post, parentWalk reader subject = pre ++ p :: post)
    (hl : Leaves parent (passes U index agentUid) 16 pre p pid)
    (htop : ∀ info ∈ found, info.ppid ≤ 1) :
    (resolveRequestorFromSubject U index subject agentUid (Function.update reader pid found)).proc =
      (found.elim (settled U index agentUid subject (pre ++ [p]))
        (settle U index agentUid (settled U index agentUid subject (pre ++ [p])))).proc := by
  obtain ⟨post, hw⟩ := hw
  have hagree : ∀ q ∈ pre ++ [p],
      readAbove (Function.update reader pid found) q.1 = readAbove reader q.1 := by
    intro q hq
    have hne : q.1 ≠ pid := fun heq => hl.new (heq ▸ List.mem_map_of_mem hq)
    simp only [readAbove, Function.update_of_ne hne]
  obtain ⟨m, hm⟩ : ∃ m, 16 - (pre.length + 1) = m + 1 := Nat.exists_eq_add_one.2 (by
    have := hl.steps
    omega)
  have hfound : readAbove (Function.update reader pid found) pid = found := by
    simp [readAbove, one_lt_of_parent hl.next]
  -- the walk goes up to `p`, and from there it meets `pid` and nothing more
  have hwalk := walk_of_passed hw hl.passed hl.next hagree
  rw [hm] at hwalk
  rw [resolveRequestorFromSubject, fill_proc, climb_eq_foldl, hwalk, List.foldl_append]
  cases found with
  | none => simp only [walk, hfound, List.foldl_nil, settled, Option.elim_none]
  | some info =>
      have hstop : parent pid info = none := if_pos (.inl (htop info rfl))
      simp [walk, hfound, halting, hstop, settled]

/-- **The foreign process confines the walk**, unless it is climbed over. -/
theorem confined_iff_not_climbedOver (hagent : agentUid ≠ 0)
    (h : FirstForeign agentUid reader subject pre p) :
    Confined U index agentUid reader subject pre p ↔ ¬ ClimbedOver U index agentUid pre p := by
  obtain ⟨post, hw⟩ := h.met
  rw [climbedOver_iff hagent h.foreign]
  constructor
  · rintro hconf ⟨pid, hl⟩
    have hagree : ∀ (found : Option ProcInfo) (q : ℤ × ProcInfo), q ∈ pre ++ [p] →
        Function.update reader pid found q.1 = reader q.1 := by
      intro found q hq
      have hne : q.1 ≠ pid := fun heq => hl.new (heq ▸ List.mem_map_of_mem hq)
      exact Function.update_of_ne hne found reader
    -- a process with another pid than the one settled on is shown in its place
    have hunread := proc_of_leaves none h.met hl (by simp)
    have hfound := proc_of_leaves (some (bystander agentUid
      ((settled U index agentUid subject (pre ++ [p])).proc.pid + 1))) h.met hl
      (by simp [bystander])
    rw [hconf _ (hagree _)] at hunread hfound
    rw [Option.elim_some, settle_bystander] at hfound
    generalize settled U index agentUid subject (pre ++ [p]) = actor at hunread hfound
    have hpid : actor.proc.pid = actor.proc.pid + 1 :=
      congrArg ProcInfo.pid (hunread.symm.trans hfound)
    omega
  · intro hstay reader' hagree
    refine resolveRequestorFromSubject_congr fun pid hpid => ?_
    obtain ⟨q, hq, rfl⟩ := List.mem_map.1
      (reads_of_not_leaves hw (fun pid hl => hstay ⟨pid, hl⟩) pid hpid)
    exact hagree q hq

/-- A process of another user, whose parent is the user's session. -/
def intruder (exe : String) : ProcInfo :=
  { pid := 100, ppid := 101, uid := 1001, euid := 1001, name := "pkexec", exe := exe }

/-- The processes behind an intruder. -/
def behind (exe : String) (pid : ℤ) : Option ProcInfo :=
  if pid = 100 then some (intruder exe)
  else if pid = 101 then
    some { pid := 101, ppid := 1, uid := 1000, euid := 1000, name := "session",
           exe := "/usr/bin/session" }
  else none

theorem firstForeign_intruder (exe : String) :
    FirstForeign 1000 (behind exe) (intruder exe) [] (100, intruder exe) :=
  ⟨⟨_, rfl⟩, fun _ h => absurd h List.not_mem_nil, by simp [intruder], by simp [intruder]⟩

/-- A process that is only named like a bridge ends the walk. -/
theorem confined_of_name :
    Confined .ascii [] 1000 (behind "/tmp/malicious") (intruder "/tmp/malicious") []
      (100, intruder "/tmp/malicious") :=
  (confined_iff_not_climbedOver (by decide) (firstForeign_intruder _)).2 fun h =>
    absurd h.bridge (by decide)

/-- One whose executable is called like a bridge does not. -/
theorem not_confined_of_exe :
    ¬ ∀ (U : CaseTables) (index : List DesktopInfo) (agentUid : ℤ)
      (reader : ℤ → Option ProcInfo) (subject : ProcInfo) (pre : List (ℤ × ProcInfo))
      (p : ℤ × ProcInfo), agentUid ≠ 0 → FirstForeign agentUid reader subject pre p →
      Confined U index agentUid reader subject pre p := by
  intro h
  have hconf := h .ascii [] 1000 (behind "/tmp/sudo") (intruder "/tmp/sudo") [] _ (by decide)
    (firstForeign_intruder _) (fun pid => if pid = 100 then some (intruder "/tmp/sudo") else none)
    (by decide)
  revert hconf
  decide

end RequestContextHelper

end BbAuth
