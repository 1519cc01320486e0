import BbAuth.Library.Framing
import BbAuth.Model.RequestContext
import BbAuth.Prompt.Numbers
/-!
# The processes as they are

Who a requestor is taken for rests on the parent and the users of the
processes, which are read out of a text. One line of that text is the name a
process gave itself. The kernel writes it on one line whatever it is, so it
is read back as a name and as nothing else: `readProc` reads every process
as it is, and the requestor is looked for among the processes as they are
(`resolves_processes`).
-/

namespace BbAuth

namespace RequestContextHelper

open TextNormalize Framing

/-- **A process**, as the kernel has it. -/
structure Process where
  ppid : UInt32
  uid : UInt32
  euid : UInt32
  suid : UInt32
  fsuid : UInt32
  name : List Char
  exe : String
  /-- The arguments, where they can be read. -/
  args : Option (List (List Char))

namespace Process

variable (p : Process)

/-- What the kernel writes for a character of a name. -/
def escapeChar (c : Char) : List Char :=
  if c = '\n' then ['\\', 'n'] else if c = '\\' then ['\\', '\\'] else [c]

/-- The name as it is written: on one line. -/
def comm : List Char := p.name.flatMap escapeChar

/-- The users, as they are written. -/
def users : List (List Char) :=
  [p.uid, p.euid, p.suid, p.fsuid].map fun user => Nat.toDigits 10 user.toNat

/-- **The process as it should be read.** -/
def info (pid : ℤ) : ProcInfo where
  pid := pid
  ppid := p.ppid.toNat
  uid := p.uid.toNat
  euid := p.euid.toNat
  name := String.ofList (trimmed p.comm)
  exe := p.exe
  cmdline := match p.args with
    | none => ""
    | some args => String.ofList ([' '].intercalate (args.filter fun arg => !arg.isEmpty))

/-- The line begins with this key. -/
def hasKey (key : String) (line : List Char) : Bool := key.toList.isPrefixOf line

/-- **The status file of the process**: a line for its name, its parent and
its users each, and lines with other keys, in any order. -/
structure IsStatus (text : List Char) (lines : List (List Char)) : Prop where
  text_eq : text = lines.flatMap (· ++ ['\n'])
  oneLine : ∀ line ∈ lines, '\n' ∉ line
  name : lines.filter (hasKey "Name:") = ["Name:\t".toList ++ p.comm]
  ppid : lines.filter (hasKey "PPid:") = ["PPid:\t".toList ++ Nat.toDigits 10 p.ppid.toNat]
  users : lines.filter (hasKey "Uid:") = ["Uid:\t".toList ++ ['\t'].intercalate p.users]

end Process

open Process

variable {p : Process} {info : ProcInfo} {line rest text : List Char} {lines : List (List Char)}

/-! ## One line -/

/-- A line that has a key begins with its first letter. -/
theorem head?_of_hasKey {key : String} {c : Char} (hc : key.toList.head? = some c)
    (h : hasKey key line = true) : line.head? = some c := by
  obtain ⟨rest, rfl⟩ := List.isPrefixOf_iff_prefix.1 h
  rw [List.head?_append, hc]
  rfl

/-- **So it has no other.** -/
theorem hasKey_unique {key key' : String} {c d : Char} (hc : key.toList.head? = some c)
    (hd : key'.toList.head? = some d) (hne : c ≠ d) (h : hasKey key line = true) :
    hasKey key' line = false := by
  by_contra h'
  rw [Bool.not_eq_false] at h'
  exact hne (Option.some.inj ((head?_of_hasKey hc h).symm.trans (head?_of_hasKey hd h')))

theorem name_readStatusLine (info : ProcInfo) (line : List Char) :
    (readStatusLine info line).name =
      if hasKey "Name:" line then String.ofList (trimmed (section1 line)) else info.name := by
  unfold readStatusLine hasKey
  split
  · rfl
  · split
    · rfl
    · split <;> rfl

theorem ppid_readStatusLine (info : ProcInfo) (line : List Char) :
    (readStatusLine info line).ppid =
      if hasKey "PPid:" line then toLongLong (trimmed (section1 line)) else info.ppid := by
  have hother : hasKey "Name:" line = true → hasKey "PPid:" line = false :=
    hasKey_unique (c := 'N') (d := 'P') rfl rfl (by decide)
  unfold readStatusLine
  split
  next h => rw [hother h]; rfl
  · split
    next h => rw [hasKey, if_pos h]
    next h =>
      rw [hasKey, if_neg h]
      split <;> rfl

/-- What a line of users makes of the two that are read. -/
def readUsers (users : ℤ × ℤ) (line : List Char) : ℤ × ℤ :=
  let parts := (simplified (section1 line)).splitOn ' '
  (if 1 ≤ parts.length then toLongLong (parts.getD 0 []) else users.1,
    if 2 ≤ parts.length then toLongLong (parts.getD 1 []) else users.2)

theorem users_readStatusLine (info : ProcInfo) (line : List Char) :
    ((readStatusLine info line).uid, (readStatusLine info line).euid) =
      if hasKey "Uid:" line then readUsers (info.uid, info.euid) line
      else (info.uid, info.euid) := by
  have hname : hasKey "Name:" line = true → hasKey "Uid:" line = false :=
    hasKey_unique (c := 'N') (d := 'U') rfl rfl (by decide)
  have hppid : hasKey "PPid:" line = true → hasKey "Uid:" line = false :=
    hasKey_unique (c := 'P') (d := 'U') rfl rfl (by decide)
  unfold readStatusLine
  split
  next h => rw [hname h]; rfl
  · split
    next h => rw [hppid h]; rfl
    · split
      next h => rw [hasKey, if_pos h]; rfl
      next h => rw [hasKey, if_neg h]

theorem others_readStatusLine (info : ProcInfo) (line : List Char) :
    ((readStatusLine info line).pid, (readStatusLine info line).exe,
      (readStatusLine info line).cmdline) = (info.pid, info.exe, info.cmdline) := by
  unfold readStatusLine
  split
  · rfl
  · split
    · rfl
    · split <;> rfl

/-- An empty line says nothing. -/
theorem readStatusLine_nil (info : ProcInfo) : readStatusLine info [] = info := by
  have hname : "Name:".toList.isPrefixOf [] = false := by decide
  have hppid : "PPid:".toList.isPrefixOf [] = false := by decide
  have huid : "Uid:".toList.isPrefixOf [] = false := by decide
  simp only [readStatusLine, hname, hppid, huid, Bool.false_eq_true, if_false]

/-! ## What a line holds -/

theorem toLongLong_user (user : UInt32) :
    toLongLong (Nat.toDigits 10 user.toNat) = user.toNat := by
  have hlt := user.toNat_lt
  rw [toLongLong, toLongLong_toDigits (by omega)]
  rfl

/-- White space before a text does not matter. -/
theorem trimmed_cons {c : Char} (hc : TextUnit.isSpace c = true) (text : List Char) :
    trimmed (c :: text) = trimmed text := by
  rw [trimmed, trim, List.dropWhile_cons_of_pos hc, trimmed, trim]

/-- The users are the words of their line. -/
theorem splitOn_users (p : Process) :
    (simplified ('\t' :: ['\t'].intercalate p.users)).splitOn ' ' = p.users := by
  have hwords : ∀ w ∈ p.users, w ≠ [] ∧ ∀ c ∈ w, TextUnit.isSpace c = false := by
    intro w hw
    obtain ⟨user, -, rfl⟩ := List.mem_map.1 hw
    exact ⟨Nat.toDigits_ne_nil, fun c hc => (plain_of_mem_toDigits hc).1⟩
  have htab : TextUnit.isSpace '\t' = true := by decide
  have hblank : ∀ w ∈ p.users, ' ' ∉ w :=
    fun w hw hmem => absurd ((hwords w hw).2 ' ' hmem) (by decide)
  rw [simplified, words_cons htab, words_unwords htab hwords]
  exact List.splitOn_intercalate ' ' hblank (List.cons_ne_nil _ _)

theorem section1_append (key : List Char) (h : ':' ∉ key) :
    section1 (key ++ ':' :: rest) = rest := by
  have hkey : ∀ c ∈ key, decide (c ≠ ':') = true := fun c hc => by
    simpa using fun heq : c = ':' => h (heq ▸ hc)
  rw [section1, List.dropWhile_append_of_pos hkey]
  rfl

/-! ## The files -/

/-- The name is read off its line. -/
theorem name_foldl (h : p.IsStatus text lines) (info : ProcInfo) :
    (lines.foldl readStatusLine info).name = String.ofList (trimmed p.comm) := by
  have hfield := foldl_field ProcInfo.name (hasKey "Name:")
    (fun _ line => String.ofList (trimmed (section1 line))) name_readStatusLine lines info
  have hsection : section1 ("Name:\t".toList ++ p.comm) = '\t' :: p.comm :=
    section1_append "Name".toList (by decide)
  simp only [h.name, List.foldl_cons, List.foldl_nil, hsection] at hfield
  rw [hfield, trimmed_cons (by decide)]

/-- The parent is read off its line. -/
theorem ppid_foldl (h : p.IsStatus text lines) (info : ProcInfo) :
    (lines.foldl readStatusLine info).ppid = p.ppid.toNat := by
  have hfield := foldl_field ProcInfo.ppid (hasKey "PPid:")
    (fun _ line => toLongLong (trimmed (section1 line))) ppid_readStatusLine lines info
  have hsection : section1 ("PPid:\t".toList ++ Nat.toDigits 10 p.ppid.toNat) =
      '\t' :: Nat.toDigits 10 p.ppid.toNat :=
    section1_append "PPid".toList (by decide)
  simp only [h.ppid, List.foldl_cons, List.foldl_nil, hsection] at hfield
  rw [hfield, trimmed_cons (by decide), trimmed_toDigits, toLongLong_user]

/-- The users are read off theirs. -/
theorem users_foldl (h : p.IsStatus text lines) (info : ProcInfo) :
    ((lines.foldl readStatusLine info).uid, (lines.foldl readStatusLine info).euid) =
      ((p.uid.toNat : ℤ), (p.euid.toNat : ℤ)) := by
  have hfield := foldl_field (fun info : ProcInfo => (info.uid, info.euid)) (hasKey "Uid:")
    readUsers users_readStatusLine lines info
  have hsection : section1 ("Uid:\t".toList ++ ['\t'].intercalate p.users) =
      '\t' :: ['\t'].intercalate p.users :=
    section1_append "Uid".toList (by decide)
  have huid : p.users.getD 0 [] = Nat.toDigits 10 p.uid.toNat := rfl
  have heuid : p.users.getD 1 [] = Nat.toDigits 10 p.euid.toNat := rfl
  have hlength : p.users.length = 4 := rfl
  simp only [h.users, List.foldl_cons, List.foldl_nil, readUsers, hsection, splitOn_users, huid,
    heuid, hlength, toLongLong_user] at hfield
  rw [hfield, if_pos (by decide), if_pos (by decide)]

/-- **The status file is read as it is meant.** -/
theorem foldl_readStatusLine (h : p.IsStatus text lines) (pid : ℤ) :
    (text.splitOn '\n').foldl readStatusLine { pid := pid } =
      { p.info pid with exe := "", cmdline := "" } := by
  have hsplit : (text.splitOn '\n').foldl readStatusLine { pid := pid } =
      lines.foldl readStatusLine { pid := pid } := by
    rw [h.text_eq, splitOn_flatMap h.oneLine, List.foldl_append, List.foldl_cons, List.foldl_nil,
      readStatusLine_nil]
  have hname := name_foldl h { pid := pid }
  have hppid := ppid_foldl h { pid := pid }
  have husers := users_foldl h { pid := pid }
  have hothers := foldl_field (fun info : ProcInfo => (info.pid, info.exe, info.cmdline))
    (fun _ => false) (fun others _ => others) others_readStatusLine lines { pid := pid }
  rw [List.filter_false, List.foldl_nil] at hothers
  rw [hsplit]
  generalize lines.foldl readStatusLine { pid := pid } = info at *
  obtain ⟨pid', ppid, uid, euid, name, exe, cmdline⟩ := info
  simp only [Prod.mk.injEq] at hname hppid husers hothers
  obtain ⟨rfl, rfl, rfl⟩ := hothers
  obtain ⟨rfl, rfl⟩ := husers
  subst hname hppid
  rfl

/-- The command-line file, as the kernel writes it. -/
def cmdlineText (args : List (List Char)) : List Char := args.flatMap (· ++ ['\x00'])

theorem cleanArgs_cmdlineText {args : List (List Char)} (h : ∀ arg ∈ args, '\x00' ∉ arg) :
    cleanArgs (cmdlineText args) = args.filter fun arg => !arg.isEmpty := by
  rw [cleanArgs, cmdlineText, splitOn_flatMap h, List.filter_append]
  exact List.append_nil _

/-- **A process is read as it is**, whatever it calls itself and whatever
its arguments are. -/
theorem readProc_written (p : Process) (pid : ℤ) (h : p.IsStatus text lines)
    (hargs : ∀ args, p.args = some args → ∀ arg ∈ args, '\x00' ∉ arg) :
    readProc pid (some text) p.exe (p.args.map cmdlineText) = some (p.info pid) := by
  simp only [readProc, foldl_readStatusLine h pid]
  cases ha : p.args with
  | none => simp [Process.info, ha]
  | some args => simp [Process.info, ha, cleanArgs_cmdlineText (hargs args ha)]

/-- **What `/proc` holds of a pid**: no files, or those of a process. -/
inductive Holds (pid : ℤ) : Option Process → Option ProcInfo → Prop
  | gone (exe : String) (cmdline : Option (List Char)) :
      Holds pid none (readProc pid none exe cmdline)
  | written {p : Process} {text : List Char} {lines : List (List Char)}
      (h : p.IsStatus text lines)
      (hargs : ∀ args, p.args = some args → ∀ arg ∈ args, '\x00' ∉ arg) :
      Holds pid (some p) (readProc pid (some text) p.exe (p.args.map cmdlineText))

variable {table : ℤ → Option Process} {read : ℤ → Option ProcInfo}

/-- **The requestor is looked for among the processes as they are.** Let
`/proc` hold the files of a table of processes. Then each is read with its
own parent and users, whatever it calls itself and whatever its arguments
are, and the requestor is the one that is found in the table. The name is
read as the kernel escapes it, without the white space around it. -/
theorem resolves_processes (U : CaseTables) (index : List DesktopInfo) (subject : ProcInfo)
    (agentUid : ℤ) (h : ∀ pid, Holds pid (table pid) (read pid)) :
    (∀ pid, read pid = (table pid).map fun p => p.info pid) ∧
      resolveRequestorFromSubject U index subject agentUid read =
        resolveRequestorFromSubject U index subject agentUid
          fun pid => (table pid).map fun p => p.info pid := by
  have hread : ∀ pid, read pid = (table pid).map fun p => p.info pid := by
    intro pid
    have hpid := h pid
    generalize table pid = found at hpid ⊢
    generalize read pid = info at hpid ⊢
    cases hpid with
    | gone exe cmdline => rfl
    | written hstatus hargs => exact readProc_written _ pid hstatus hargs
  exact ⟨hread, congrArg _ (funext hread)⟩

/-- A process that calls itself a line of users. -/
def forger : Process where
  ppid := 1
  uid := 1000
  euid := 1000
  suid := 1000
  fsuid := 1000
  name := "x\nUid:\t0\t0".toList
  exe := "/tmp/x"
  args := some ["/tmp/x".toList, "PPid: 7".toList]

/-- It is read as a process of its own user. -/
theorem resolves_processes_forger :
    (readProc 42 (some ("Name:\tx\\nUid:\t0\t0\nPPid:\t1\n" ++
      "Uid:\t1000\t1000\t1000\t1000\n").toList) "/tmp/x"
      (some "/tmp/x\x00PPid: 7\x00".toList)).map ProcInfo.uid = some 1000 := by
  have hstatus : forger.IsStatus ("Name:\tx\\nUid:\t0\t0\nPPid:\t1\n" ++
      "Uid:\t1000\t1000\t1000\t1000\n").toList
      ["Name:\tx\\nUid:\t0\t0".toList, "PPid:\t1".toList,
        "Uid:\t1000\t1000\t1000\t1000".toList] :=
    ⟨by decide, by decide, by decide, by decide, by decide⟩
  have hargs : ∀ args, forger.args = some args → ∀ arg ∈ args, '\x00' ∉ arg := by
    rintro _ ⟨⟩
    decide
  let table : ℤ → Option Process := fun pid => if pid = 42 then some forger else none
  have hholds : ∀ pid, Holds pid (table pid) (readProc pid
      (if pid = 42 then some ("Name:\tx\\nUid:\t0\t0\nPPid:\t1\n" ++
        "Uid:\t1000\t1000\t1000\t1000\n").toList else none) "/tmp/x"
      (some "/tmp/x\x00PPid: 7\x00".toList)) := by
    intro pid
    by_cases hpid : pid = 42
    · rw [if_pos hpid, show table pid = some forger from if_pos hpid]
      exact Holds.written hstatus hargs
    · rw [if_neg hpid, show table pid = none from if_neg hpid]
      exact .gone _ _
  have hread := (resolves_processes .ascii [] {} 1000 hholds).1 42
  exact (congrArg (Option.map ProcInfo.uid) hread).trans rfl

end RequestContextHelper

end BbAuth
