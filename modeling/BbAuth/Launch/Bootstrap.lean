import BbAuth.Model.Bootstrap
import BbAuth.Prompt.Numbers
/-!
# Launch — what the bootstrap leaves behind

Two files outlive a run of the bootstrap. `gpg-agent.conf` names the
expected pinentry after it, whatever it named before; its other lines are
kept in their order, and a further run finds nothing to do
(`ensureGpgPinentry_settles`). The report is read back by the daemon member
by member, exactly where the path it names is a single line without white
space around it (`readBootstrapState_report_iff`).
-/

namespace BbAuth

namespace Bootstrap

open TextNormalize Framing

variable {text rest line value key path : List Char} {lines : List (List Char)}

/-! ## Lines -/

theorem notMem_of_mem_linesOf (h : line ∈ linesOf text) : '\n' ∉ line := by
  rcases List.mem_append.1 h with h | h
  · exact notMem_of_mem_segments h
  · split at h
    · cases h
    · rw [List.mem_singleton.1 h]
      exact notMem_residue

/-- **Lines that are printed are read back.** -/
theorem linesOf_printed (h : ∀ line ∈ lines, '\n' ∉ line) : linesOf (printed lines) = lines := by
  rw [linesOf, printed, segments_flatMap h, residue_flatMap h]
  exact List.append_nil lines

/-- The empty line that a newline adds after a text whose last line has
one. -/
def blanks (text : List Char) : List (List Char) :=
  if (residue '\n' text).isEmpty then [[]] else []

variable (text rest) in
/-- **More lines**, after a newline. -/
theorem linesOf_append_newline :
    linesOf (text ++ '\n' :: rest) = linesOf text ++ blanks text ++ linesOf rest := by
  have hseg : segments '\n' (text ++ '\n' :: rest) =
      segments '\n' text ++ residue '\n' text :: segments '\n' rest := by
    rw [segments_append, segments_append_cons notMem_residue]
  have hres : residue '\n' (text ++ '\n' :: rest) = residue '\n' rest := by
    rw [residue_append, residue_append_cons notMem_residue]
  rw [linesOf, hseg, hres, linesOf, linesOf, blanks]
  by_cases hlast : (residue '\n' text).isEmpty
  · simp [List.isEmpty_iff.1 hlast]
  · simp [hlast]

/-! ## Entries -/

theorem pinentryProgram_nil : pinentryProgram [] = none := by decide

/-- **An entry names what it was made of.** -/
theorem pinentryProgram_entryOf (h : ∀ c ∈ value.head?, Text.isSpace c = false) :
    pinentryProgram (entryOf value) = some value := by
  have hvalue : value.dropWhile Text.isSpace = value := by
    cases value with
    | nil => rfl
    | cons c value => exact List.dropWhile_cons_of_neg (by simp [h c rfl])
  have hentry : entryOf value = "pinentry-program".toList ++ ' ' :: value := rfl
  have hfront : (entryOf value).dropWhile Text.isSpace = entryOf value := rfl
  rw [pinentryProgram, hfront, hentry, List.drop_left]
  simp only [List.isPrefixOf_iff_prefix, List.prefix_append, if_true]
  exact congrArg some hvalue

theorem currentPinentry_append_entry (front : List (List Char))
    (hlines : linesOf text = front ++ [entryOf value])
    (h : ∀ c ∈ value.head?, Text.isSpace c = false) : currentPinentry text = value := by
  rw [currentPinentry, hlines, List.filterMap_append, List.filterMap_cons,
    pinentryProgram_entryOf h]
  simp

/-- **The awk program leaves one entry**, or none if it has printed it. -/
theorem filterMap_replaceEntries (h : ∀ c ∈ value.head?, Text.isSpace c = false) :
    ∀ (lines : List (List Char)) (replaced : Bool),
      (replaceEntries (entryOf value) replaced lines).filterMap pinentryProgram =
        if replaced then [] else [value]
  | [], true => rfl
  | [], false => by simp [replaceEntries, pinentryProgram_entryOf h]
  | line :: lines, replaced => by
      rw [replaceEntries]
      cases hline : pinentryProgram line with
      | none =>
          have ih := filterMap_replaceEntries h lines replaced
          simpa [hline] using ih
      | some v =>
          have ih := filterMap_replaceEntries h lines true
          cases replaced with
          | true => simpa using ih
          | false => simp [pinentryProgram_entryOf h, ih]

/-- **And keeps the other lines.** -/
theorem filter_replaceEntries (h : ∀ c ∈ value.head?, Text.isSpace c = false) :
    ∀ (lines : List (List Char)) (replaced : Bool),
      (replaceEntries (entryOf value) replaced lines).filter (fun l => (pinentryProgram l).isNone) =
        lines.filter fun l => (pinentryProgram l).isNone
  | [], true => rfl
  | [], false => by simp [replaceEntries, pinentryProgram_entryOf h]
  | line :: lines, replaced => by
      rw [replaceEntries]
      cases hline : pinentryProgram line with
      | none =>
          have ih := filter_replaceEntries h lines replaced
          simp [hline, ih]
      | some v =>
          have ih := filter_replaceEntries h lines true
          cases replaced with
          | true => simpa [hline] using ih
          | false => simp [pinentryProgram_entryOf h, hline, ih]

theorem notMem_replaceEntries {replacement : List Char} (hr : '\n' ∉ replacement) :
    ∀ (lines : List (List Char)) (replaced : Bool), (∀ line ∈ lines, '\n' ∉ line) →
      ∀ line ∈ replaceEntries replacement replaced lines, '\n' ∉ line
  | [], true, _ => by simp [replaceEntries]
  | [], false, _ => by simpa [replaceEntries] using hr
  | first :: lines, replaced, h => by
      have ih := fun replaced => notMem_replaceEntries hr lines replaced
        fun line hline => h line (List.mem_cons_of_mem _ hline)
      have hfirst := h first List.mem_cons_self
      rw [replaceEntries]
      split
      · cases replaced with
        | true => exact ih true
        | false => exact List.forall_mem_cons.2 ⟨hr, ih true⟩
      · exact List.forall_mem_cons.2 ⟨hfirst, ih replaced⟩

/-! ## The file after a run -/

/-- **A path an entry can name**: one line that does not begin with white
space, without the escape character of awk. -/
structure Nameable (expected : List Char) : Prop where
  ne_nil : expected ≠ []
  oneLine : '\n' ∉ expected
  noEscape : '\\' ∉ expected
  head : ∀ c ∈ expected.head?, Text.isSpace c = false

/-- The lines that are no entry. -/
def otherLines (text : List Char) : List (List Char) :=
  (linesOf text).filter fun line => (pinentryProgram line).isNone

/-- **What a run makes of `gpg-agent.conf`**: it names the pinentry, and
has the lines it had, but for an empty one. -/
structure Settled (expected : List Char) (conf : Option (List Char)) (text : List Char) : Prop where
  current : currentPinentry text = expected
  kept : ∀ before, conf = some before → otherLines text = otherLines before ∨
    otherLines text = otherLines before ++ [[]]

section

variable {assign : List Char → List Char} {expected : List Char}

theorem notMem_entryOf (h : Nameable expected) : '\n' ∉ entryOf expected := by
  intro hmem
  rcases List.mem_append.1 hmem with hmem | hmem
  · revert hmem
    decide
  · exact h.oneLine hmem

/-- **Every run settles the file.** -/
theorem settled_ensureGpgPinentry (hassign : ∀ t, '\\' ∉ t → assign t = t)
    (h : Nameable expected) (conf : Option (List Char)) :
    Settled expected conf (ensureGpgPinentry assign expected conf).1 := by
  have hprinted : linesOf (printed [entryOf expected]) = [entryOf expected] :=
    linesOf_printed (by simpa using notMem_entryOf h)
  have hentry : (pinentryProgram (entryOf expected)).isNone = false := by
    rw [pinentryProgram_entryOf h.head]
    rfl
  cases conf with
  | none => exact ⟨currentPinentry_append_entry [] hprinted h.head, fun _ => nofun⟩
  | some before =>
      rw [ensureGpgPinentry]
      by_cases hnone : (currentPinentry before).isEmpty
      · -- there is no entry, or the last one names nothing: one is appended
        have hlines := linesOf_append_newline before (printed [entryOf expected])
        rw [hprinted] at hlines
        rw [if_pos hnone]
        refine ⟨currentPinentry_append_entry _ hlines h.head, ?_⟩
        rintro _ ⟨⟩
        rw [otherLines, hlines, List.filter_append, List.filter_append, List.filter_singleton,
          hentry, otherLines, blanks]
        by_cases hlast : (residue '\n' before).isEmpty
        · exact .inr (by simp [hlast, pinentryProgram_nil])
        · exact .inl (by simp [hlast])
      · rw [if_neg hnone]
        by_cases hcur : currentPinentry before = expected
        · rw [if_neg (not_not_intro hcur)]
          exact ⟨hcur, fun _ heq => .inl (by rw [Option.some.inj heq])⟩
        · have hescape : '\\' ∉ entryOf expected := by
            intro hmem
            rcases List.mem_append.1 hmem with hmem | hmem
            · revert hmem
              decide
            · exact h.noEscape hmem
          have hlines : linesOf (printed (replaceEntries (assign (entryOf expected)) false
              (linesOf before))) = replaceEntries (entryOf expected) false (linesOf before) := by
            rw [hassign _ hescape]
            exact linesOf_printed (notMem_replaceEntries (notMem_entryOf h) _ _
              fun _ => notMem_of_mem_linesOf)
          rw [if_pos hcur]
          constructor
          · rw [currentPinentry, hlines, filterMap_replaceEntries h.head]
            rfl
          · rintro _ ⟨⟩
            rw [otherLines, hlines, filter_replaceEntries h.head]
            exact .inl rfl

variable (assign) in
/-- A settled file is left as it is. -/
theorem ensureGpgPinentry_of_current (hne : expected ≠ []) (h : currentPinentry text = expected) :
    ensureGpgPinentry assign expected (some text) = (text, false) := by
  have hsome : ¬ (currentPinentry text).isEmpty = true := by
    rw [h, List.isEmpty_iff]
    exact hne
  rw [ensureGpgPinentry, if_neg hsome, if_neg (not_not_intro h)]

/-- **The bootstrap settles.** Whatever text `gpg-agent.conf` holds (without
a NUL, at which `grep` would take it for a binary file), a run leaves the
expected pinentry named by its last entry and every other line where it
was; it says it changed nothing exactly where that was so before, and any
number of further runs changes nothing. -/
theorem ensureGpgPinentry_settles (assign : List Char → List Char) (expected : List Char)
    (hassign : ∀ t, '\\' ∉ t → assign t = t) (h : Nameable expected) (conf : Option (List Char))
    (n : ℕ) :
    let after := fun conf => (ensureGpgPinentry assign expected conf).1
    Settled expected conf (after conf) ∧
      ((ensureGpgPinentry assign expected conf).2 = false ↔
        ∃ before, conf = some before ∧ currentPinentry before = expected) ∧
      (fun conf => some (after conf))^[n + 1] conf = some (after conf) := by
  have hsettled := settled_ensureGpgPinentry hassign h conf
  have hagain := ensureGpgPinentry_of_current assign h.ne_nil hsettled.current
  refine ⟨hsettled, ?_, ?_⟩
  · constructor
    · intro hsame
      cases conf with
      | none => cases hsame
      | some before =>
          refine ⟨before, rfl, ?_⟩
          by_contra hne
          rw [ensureGpgPinentry] at hsame
          split at hsame <;> cases hsame
    · rintro ⟨before, rfl, hcur⟩
      rw [ensureGpgPinentry_of_current assign h.ne_nil hcur]
  · rw [Function.iterate_succ_apply]
    induction n with
    | zero => rfl
    | succ n ih =>
        rw [Function.iterate_succ_apply]
        dsimp only at ih ⊢
        rw [hagain]
        exact ih

/-- A file that named another pinentry, in which awk finds no escapes. -/
theorem ensureGpgPinentry_settles_other :
    let expected := "/usr/libexec/pinentry-bb".toList
    let conf := some "# mine\npinentry-program /usr/bin/pinentry-qt\nmax-cache-ttl 60".toList
    Settled expected conf (ensureGpgPinentry id expected conf).1 :=
  (ensureGpgPinentry_settles id _ (fun _ _ => rfl)
    ⟨by decide, by decide, by decide, by rintro c ⟨⟩; decide⟩ _ 0).1

end

/-! ## The report -/

section

variable {bootstrap : QJsonObject}

theorem rdropWhile_append_cons {p : Char → Bool} {c : Char} (hc : p c = false)
    (front back : List Char) :
    (front ++ c :: back).rdropWhile p = front ++ c :: back.rdropWhile p := by
  rw [List.rdropWhile, List.reverse_append, List.reverse_cons, List.append_assoc,
    List.dropWhile_append, List.singleton_append]
  split
  next hnil =>
    rw [List.dropWhile_cons_of_neg (by simp [hc]), List.rdropWhile, List.isEmpty_iff.1 hnil]
    simp
  next => simp [List.rdropWhile]

/-- White space behind a text does not matter. -/
theorem trimmed_rdropWhile (value : List Char) :
    trimmed (value.rdropWhile TextUnit.isSpace) = trimmed value := by
  have hsplit := List.rdropWhile_append_rtakeWhile (p := TextUnit.isSpace) (l := value)
  generalize hv : value.rdropWhile TextUnit.isSpace = v at hsplit ⊢
  have hblank : ∀ c ∈ value.rtakeWhile TextUnit.isSpace, TextUnit.isSpace c = true :=
    fun c hc => List.mem_rtakeWhile_imp hc
  generalize value.rtakeWhile TextUnit.isSpace = t at hsplit hblank
  rw [← hsplit, trimmed, trimmed, trim, trim, List.dropWhile_append]
  split
  next hnil =>
    rw [List.isEmpty_iff.1 hnil, List.dropWhile_eq_nil_iff.2 hblank]
  next =>
    rw [List.reverse_append,
      List.dropWhile_append_of_pos fun c hc => hblank c (List.mem_reverse.1 hc)]

/-- **A key that stands for itself**: it is not empty, has no `=`, no white
space around it, and is no comment. -/
structure KeyText (key : List Char) : Prop where
  ne_nil : key ≠ []
  noDelimiter : '=' ∉ key
  trimmed : trimmed key = key
  noComment : key.head? ≠ some '#'

theorem trimmed_member (h : KeyText key) (value : List Char) :
    trimmed (key ++ '=' :: value) = key ++ '=' :: value.rdropWhile TextUnit.isSpace := by
  obtain ⟨c, rest, rfl⟩ := List.exists_cons_of_ne_nil h.ne_nil
  have hc : TextUnit.isSpace c = false := isSpace_head_trimmed (by rw [h.trimmed]; rfl)
  rw [TextNormalize.trimmed, trim, List.cons_append, List.dropWhile_cons_of_neg (by simp [hc])]
  exact rdropWhile_append_cons (by decide) (c :: rest) value

/-- **A member is read.** -/
theorem readLine_member (h : KeyText key) (value : List Char) :
    readLine bootstrap (key ++ '=' :: value) =
      if key = "timestamp".toList then
        bootstrap.set "timestamp"
          (.int ((Text.toLongLong (String.ofList (TextNormalize.trimmed value))).getD 0))
      else bootstrap.set (String.ofList key)
        (.string (String.ofList (TextNormalize.trimmed value))) := by
  have hline := trimmed_member h value
  have hhead : (key ++ '=' :: value.rdropWhile TextUnit.isSpace).head? ≠ some '#' := by
    obtain ⟨c, rest, rfl⟩ := List.exists_cons_of_ne_nil h.ne_nil
    exact h.noComment
  have hidx : (key ++ '=' :: value.rdropWhile TextUnit.isSpace).idxOf? '=' = some key.length :=
    idxOf?_append_cons h.noDelimiter
  have hne : (key ++ '=' :: value.rdropWhile TextUnit.isSpace).isEmpty = false := by simp
  have hkey : key.isEmpty = false := by simpa using h.ne_nil
  obtain ⟨n, hn⟩ : ∃ n, key.length = n + 1 :=
    Nat.exists_eq_succ_of_ne_zero fun h0 => h.ne_nil (List.length_eq_zero_iff.1 h0)
  have htake : (key ++ '=' :: value.rdropWhile TextUnit.isSpace).take (n + 1) = key := by
    rw [← hn, List.take_left]
  have hdrop : (key ++ '=' :: value.rdropWhile TextUnit.isSpace).drop (n + 1 + 1) =
      value.rdropWhile TextUnit.isSpace := by
    rw [← hn, ← List.drop_drop, List.drop_left, List.drop_one, List.tail_cons]
  rw [hn] at hidx
  simp only [readLine, hline, hne, hhead, hidx, decide_false, Bool.or_false, Bool.false_eq_true,
    if_false, htake, hdrop, h.trimmed, hkey, trimmed_rdropWhile]

/-! ### Members -/

/-- The members the report has, as they are read back. -/
def reported (timestamp : ℕ) (mode : String) (expected : List Char) (key : String) : QJsonValue :=
  if key = "timestamp" then .int timestamp
  else if key = "mode" then .string mode
  else if key = "pinentry_path" then .string (String.ofList expected)
  else .undefined

theorem canonicalMode_cases (mode : String) : canonicalMode mode = "warn" ∨
    canonicalMode mode = "session" ∨ canonicalMode mode = "persistent" := by
  rw [canonicalMode]
  split
  · assumption
  · exact .inr (.inl rfl)

theorem trimmed_canonicalMode (mode : String) :
    trimmed (canonicalMode mode).toList = (canonicalMode mode).toList := by
  rcases canonicalMode_cases mode with h | h | h <;> rw [h] <;> decide

theorem notMem_canonicalMode (mode : String) : '\n' ∉ (canonicalMode mode).toList := by
  rcases canonicalMode_cases mode with h | h | h <;> rw [h] <;> decide

theorem keyText_timestamp : KeyText "timestamp".toList :=
  ⟨by decide, by decide, by decide, by decide⟩

theorem keyText_mode : KeyText "mode".toList := ⟨by decide, by decide, by decide, by decide⟩

theorem keyText_pinentryPath : KeyText "pinentry_path".toList :=
  ⟨by decide, by decide, by decide, by decide⟩

/-- The lines of the report. -/
theorem linesOf_writeStateReport (timestamp : ℕ) (mode : String) {expected : List Char}
    (h : '\n' ∉ expected) :
    linesOf (writeStateReport timestamp (canonicalMode mode).toList expected) =
      ["timestamp".toList ++ '=' :: Nat.toDigits 10 timestamp,
        "mode".toList ++ '=' :: (canonicalMode mode).toList,
        "pinentry_path".toList ++ '=' :: expected] := by
  have hdigits : (toString timestamp).toList = Nat.toDigits 10 timestamp := Nat.toList_repr
  have hlines : writeStateReport timestamp (canonicalMode mode).toList expected =
      printed ["timestamp".toList ++ '=' :: Nat.toDigits 10 timestamp,
        "mode".toList ++ '=' :: (canonicalMode mode).toList,
        "pinentry_path".toList ++ '=' :: expected] := by
    rw [writeStateReport, hdigits]
    rfl
  have htime : '\n' ∉ Nat.toDigits 10 timestamp :=
    fun hmem => (plain_of_mem_toDigits hmem).2.2.2.2 rfl
  have hmode := notMem_canonicalMode mode
  rw [hlines]
  have hmember : ∀ key value : List Char,
      '\n' ∉ key → '\n' ∉ value → '\n' ∉ key ++ '=' :: value := by
    intro key value hkey hvalue
    simp [hkey, hvalue]
  refine linesOf_printed (List.forall_mem_cons.2 ⟨hmember _ _ (by decide) htime, ?_⟩)
  refine List.forall_mem_cons.2 ⟨hmember _ _ (by decide) hmode, ?_⟩
  exact List.forall_mem_singleton.2 (hmember _ _ (by decide) h)

/-- **A report of one line for each member** is read back. -/
theorem value_foldl_writeStateReport {timestamp : ℕ} (htime : timestamp ≤ 9223372036854775807)
    (mode : String) {expected : List Char} (h : '\n' ∉ expected)
    (htrim : trimmed expected = expected) (key : String) :
    ((linesOf (writeStateReport timestamp (canonicalMode mode).toList expected)).foldl
      readLine []).value key = reported timestamp (canonicalMode mode) expected key := by
  rw [linesOf_writeStateReport timestamp mode h, List.foldl_cons, List.foldl_cons, List.foldl_cons,
    List.foldl_nil, readLine_member keyText_timestamp, readLine_member keyText_mode,
    readLine_member keyText_pinentryPath, if_pos rfl, if_neg (by decide), if_neg (by decide),
    trimmed_toDigits, toLongLong_toDigits htime, trimmed_canonicalMode, htrim]
  simp only [QJsonObject.value_set, QJsonObject.value_nil, String.ofList_toList, Option.getD_some,
    reported]
  by_cases h1 : key = "timestamp" <;> by_cases h2 : key = "mode" <;>
    by_cases h3 : key = "pinentry_path" <;> simp_all

/-- **Every text that is read** is one line, without white space around
it. -/
def OneLiners (bootstrap : QJsonObject) : Prop :=
  ∀ key s, bootstrap.value key = .string s → '\n' ∉ s.toList ∧ trimmed s.toList = s.toList

theorem OneLiners.nil : OneLiners [] := nofun

theorem mem_of_mem_trimmed {c : Char} (h : c ∈ trimmed value) : c ∈ value :=
  (List.dropWhile_sublist _).mem ((List.rdropWhile_prefix _ _).mem h)

theorem OneLiners.readLine (h : OneLiners bootstrap) (hline : '\n' ∉ line) :
    OneLiners (readLine bootstrap line) := by
  rw [Bootstrap.readLine]
  split
  · exact h
  · split
    · exact h
    · exact h
    next delimiter _ _ =>
      dsimp only
      split
      · exact h
      · split
        · intro key s hs
          rw [QJsonObject.value_set] at hs
          split at hs
          · cases hs
          · exact h key s hs
        · intro key s hs
          rw [QJsonObject.value_set] at hs
          split at hs
          · obtain rfl := QJsonValue.string.inj hs
            rw [String.toList_ofList]
            refine ⟨fun hmem => hline ?_, trimmed_trimmed _⟩
            exact mem_of_mem_trimmed (List.mem_of_mem_drop (mem_of_mem_trimmed hmem))
          · exact h key s hs

theorem OneLiners.foldl (lines : List (List Char)) (h : ∀ line ∈ lines, '\n' ∉ line) :
    ∀ {bootstrap : QJsonObject}, OneLiners bootstrap →
      OneLiners (lines.foldl Bootstrap.readLine bootstrap) := by
  induction lines with
  | nil => exact id
  | cons line lines ih =>
      intro bootstrap hboot
      rw [List.forall_mem_cons] at h
      exact ih h.2 (hboot.readLine h.1)

/-- **The report is read back member by member**, whatever the time, the
mode and its override, exactly where the path is one line without white
space around it. -/
theorem readBootstrapState_report_iff {timestamp : ℕ} (htime : timestamp ≤ 9223372036854775807)
    (mode modeOverride : String) (expected : List Char) :
    (∀ key, (readBootstrapState
        (some (writeStateReport timestamp (canonicalMode mode).toList expected))
        modeOverride).value key =
      reported timestamp (if modeOverride = "" then canonicalMode mode else modeOverride)
        expected key) ↔ '\n' ∉ expected ∧ trimmed expected = expected := by
  have hread : ∀ key, (readBootstrapState
      (some (writeStateReport timestamp (canonicalMode mode).toList expected))
      modeOverride).value key = if modeOverride ≠ "" ∧ key = "mode" then .string modeOverride else
        ((linesOf (writeStateReport timestamp (canonicalMode mode).toList expected)).foldl
          readLine []).value key := by
    intro key
    rw [readBootstrapState, QJsonObject.setIf]
    by_cases hover : modeOverride = "" <;> simp [hover]
  simp only [hread]
  constructor
  · intro h
    have hpath := h "pinentry_path"
    rw [if_neg (by simp)] at hpath
    have hone := OneLiners.foldl _ (fun _ => notMem_of_mem_linesOf) OneLiners.nil _ _ hpath
    rwa [String.toList_ofList] at hone
  · rintro ⟨hline, htrim⟩ key
    rw [value_foldl_writeStateReport htime mode hline htrim]
    by_cases hover : modeOverride = "" <;> by_cases hkey : key = "mode" <;>
      simp [hover, hkey, reported]

/-- A path that is read back, under an override of the mode. -/
theorem readBootstrapState_report_override :
    (readBootstrapState (some (writeStateReport 1700000000 (canonicalMode "warn").toList
      "/usr/libexec/pinentry-bb".toList)) "persistent").value "mode" = .string "persistent" :=
  (readBootstrapState_report_iff (by decide) "warn" "persistent" _).2 ⟨by decide, by decide⟩ "mode"

end

end Bootstrap

end BbAuth
