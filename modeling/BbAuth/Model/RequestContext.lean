import BbAuth.Model.TextNormalize
/-!
# The requestor behind a process

`RequestContextHelper::resolveRequestorFromSubject`: from the subject the
parents are climbed until one of them matches a desktop entry, or until the
walk has to stop, and the process that is settled on is shown to the user.

The desktop index, the reader of `/proc` and Unicode's case tables are
parameters. `readProc` is that reader, of the texts of a process's files.
-/

namespace BbAuth

/-- **Unicode's case tables**, as `QString` and `QChar` use them. -/
structure CaseTables where
  /-- `QString::toLower`. -/
  toLower : String → String
  /-- `QChar::toUpper`, of a UTF-16 code unit. -/
  toUpper : ℕ → ℕ
  /-- `a.compare(b, Qt::CaseInsensitive) == 0`. -/
  equal : String → String → Bool

namespace CaseTables

/-- The tables as they are on ASCII. -/
def ascii : CaseTables where
  toLower s := s.map Char.toLower
  toUpper unit := if 'a'.toNat ≤ unit ∧ unit ≤ 'z'.toNat then unit - 32 else unit
  equal a b := a.map Char.toLower = b.map Char.toLower

end CaseTables

/-- `QFileInfo::fileName`: what follows the last slash. -/
def fileName (path : String) : String :=
  String.ofList (path.toList.reverse.takeWhile fun c => c ≠ '/').reverse

/-- `QFileInfo::baseName`: the file name up to its first dot. -/
def baseName (path : String) : String :=
  String.ofList ((fileName path).toList.takeWhile fun c => c ≠ '.')

/-- `ProcInfo`. -/
structure ProcInfo where
  pid : ℤ := 0
  ppid : ℤ := 0
  uid : ℤ := 0
  euid : ℤ := 0
  name : String := ""
  exe : String := ""
  cmdline : String := ""
  deriving DecidableEq

/-- `DesktopInfo`. -/
structure DesktopInfo where
  desktopId : String := ""
  name : String := ""
  iconName : String := ""
  exec : String := ""
  tryExec : String := ""
  deriving DecidableEq

/-- `DesktopInfo::isValid`. -/
def DesktopInfo.isValid (d : DesktopInfo) : Bool := d.desktopId ≠ ""

namespace RequestContextHelper

/-- `ActorInfo`. The letter is a `QChar`, which may be half a character. -/
structure ActorInfo where
  proc : ProcInfo
  desktop : DesktopInfo := {}
  displayName : String := ""
  iconName : String := ""
  fallbackLetter : Option ℕ := none
  fallbackKey : String := ""
  confidence : String := ""
  deriving DecidableEq

variable (U : CaseTables) (index : List DesktopInfo)

/-- `RequestContextHelper::findDesktopForExe`: five passes over the index,
each after the one before it found nothing. -/
def findDesktopForExe (exePath : String) : DesktopInfo :=
  if exePath = "" then {}
  else
    let base := fileName exePath
    let exact := index.find? fun d => d.desktopId = base ++ ".desktop"
    let caseless := index.find? fun d => U.equal d.desktopId (base ++ ".desktop")
    let byExec := index.find? fun d => d.exec ≠ "" ∧ fileName d.exec = base
    let byTryExec := index.find? fun d => d.tryExec ≠ "" ∧ fileName d.tryExec = base
    let byName := index.find? fun d => U.equal d.name base
    ((((exact.or caseless).or byExec).or byTryExec).or byName).getD {}

/-- The name a process is taken for a bridge by: that of its executable,
and that of the process only where the executable cannot be read and the
process is root's. -/
def exeName (info : ProcInfo) : String :=
  if info.exe ≠ "" then fileName info.exe else if info.euid = 0 then info.name else ""

/-- `isBridge`. -/
def isBridge (info : ProcInfo) : Bool :=
  exeName info = "pkexec" || exeName info = "sudo" || exeName info = "doas"

/-- The desktop entry of a process: by its executable, else by its name. -/
def desktopOf (info : ProcInfo) : DesktopInfo :=
  let d := if info.exe ≠ "" then findDesktopForExe U index info.exe else {}
  if !d.isValid && info.name ≠ "" then findDesktopForExe U index info.name else d

/-- The loop of `RequestContextHelper::resolveRequestorFromSubject`, with
the hops that are left. -/
def climb (agentUid : ℤ) (procReader : ℤ → Option ProcInfo) : ℕ → ActorInfo → ℤ → ActorInfo
  | 0, actor, _ => actor
  | hops + 1, actor, currPid =>
    if currPid > 1 then
      match procReader currPid with
      | none => actor
      | some info =>
        -- a process of another user ends the walk, unless it is a bridge
        if info.uid ≠ agentUid ∧ agentUid ≠ 0 ∧ isBridge info = false then actor
        else
          let actor :=
            if isBridge info = false ∧ info.uid = agentUid then { actor with proc := info }
            else actor
          let d := desktopOf U index info
          if d.isValid then { actor with proc := info, desktop := d, confidence := "desktop" }
          else if info.ppid ≤ 1 ∨ info.ppid = currPid then actor
          else climb agentUid procReader hops actor info.ppid
    else actor

/-- What `RequestContextHelper::resolveRequestorFromSubject` fills in after
its loop. -/
def fill (actor : ActorInfo) : ActorInfo :=
  let actor :=
    if actor.desktop.isValid then actor
    else
      { actor with
        confidence :=
          if actor.proc.exe ≠ "" then "exe-only"
          else if actor.proc.name ≠ "" then "name-only" else "unknown" }
  let actor :=
    if actor.desktop.isValid then
      { actor with displayName := actor.desktop.name, iconName := actor.desktop.iconName }
    else if actor.proc.exe ≠ "" then
      { actor with
        displayName := fileName actor.proc.exe
        iconName :=
          if actor.iconName = "" then U.toLower (baseName actor.proc.exe) else actor.iconName }
    else if actor.proc.name ≠ "" then
      { actor with
        displayName := actor.proc.name
        iconName := if actor.iconName = "" then U.toLower actor.proc.name else actor.iconName }
    else { actor with displayName := "Unknown" }
  { actor with
    fallbackLetter :=
      ((Text.utf16 actor.displayName).head?.map U.toUpper).or actor.fallbackLetter
    fallbackKey :=
      if actor.desktop.isValid then actor.desktop.desktopId else U.toLower actor.displayName }

/-- `RequestContextHelper::resolveRequestorFromSubject`. -/
def resolveRequestorFromSubject (subject : ProcInfo) (agentUid : ℤ)
    (procReader : ℤ → Option ProcInfo) : ActorInfo :=
  fill U (climb U index agentUid procReader 16 { proc := subject } subject.pid)

/-! ## Reading a process -/

/-- `line.section(':', 1)`: what follows the first colon. -/
def section1 (line : List Char) : List Char := (line.dropWhile fun c => c ≠ ':').drop 1

/-- `toLongLong()`: `0` where the text is no number. -/
def toLongLong (text : List Char) : ℤ := (Text.toLongLong (String.ofList text)).getD 0

/-- One line of the status file in `readProc`. -/
def readStatusLine (info : ProcInfo) (line : List Char) : ProcInfo :=
  if "Name:".toList.isPrefixOf line then
    { info with name := String.ofList (TextNormalize.trimmed (section1 line)) }
  else if "PPid:".toList.isPrefixOf line then
    { info with ppid := toLongLong (TextNormalize.trimmed (section1 line)) }
  else if "Uid:".toList.isPrefixOf line then
    let parts := (TextNormalize.simplified (section1 line)).splitOn ' '
    { info with
      uid := if 1 ≤ parts.length then toLongLong (parts.getD 0 []) else info.uid
      euid := if 2 ≤ parts.length then toLongLong (parts.getD 1 []) else info.euid }
  else info

/-- The arguments in the command-line file, but for empty ones. -/
def cleanArgs (data : List Char) : List (List Char) :=
  (data.splitOn '\x00').filter fun arg => !arg.isEmpty

/-- `RequestContextHelper::readProc`: `status` and `cmdline` are the texts
of the files, where they can be opened, `exe` is the target of the link. -/
def readProc (pid : ℤ) (status : Option (List Char)) (exe : String)
    (cmdline : Option (List Char)) : Option ProcInfo :=
  match status with
  | none => none
  | some data =>
    let info := (data.splitOn '\n').foldl readStatusLine { pid := pid }
    let info := { info with exe := exe }
    match cmdline with
    | none => some info
    | some data => some { info with cmdline := String.ofList ([' '].intercalate (cleanArgs data)) }

end RequestContextHelper

end BbAuth
