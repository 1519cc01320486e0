import BbAuth.Model.ProviderManifest
/-!
# What the manifest parser accepts

The parser accepts the manifests of its format and reads every field as it
is given, with one exception. A priority that is no `int`, a fraction or a
number out of range, passes the check for a number and is then converted
to `0`. So the parser keeps to its format exactly where no such priority
stands in an object that is in order otherwise.
-/

namespace BbAuth

namespace ProviderManifest

/-! ## The format -/

/-- A text of the form `[a-z0-9][a-z0-9._-]*`. -/
def IsId (id : String) : Prop :=
  ∃ c rest, id.toList = c :: rest ∧ isIdStart c = true ∧ ∀ x ∈ rest, isIdChar x = true

/-- A basename or an absolute path. -/
def IsExec (exec : String) : Prop :=
  exec ≠ "" ∧ ('/' ∉ exec.toList ∨ isAbsolutePath exec = true)

/-- Absent, null, or an array of strings, and the strings it gives. -/
inductive TextArray : QJsonValue → List String → Prop
  | absent : TextArray .undefined []
  | null : TextArray .null []
  | given (texts : List String) : TextArray (.array (texts.map .string)) texts

/-- Absent, null, or an object of strings, and the object it gives. -/
inductive TextObject : QJsonValue → QJsonObject → Prop
  | absent : TextObject .undefined []
  | null : TextObject .null []
  | given (members : List (String × String)) :
      TextObject (.object (members.map fun m => (m.1, .string m.2)))
        (members.map fun m => (m.1, .string m.2))

/-- Absent, or an integer within the bounds, and the priority it gives. -/
inductive Priority : Option QJsonValue → ℤ → Prop
  | absent : Priority none 0
  | given (n : ℤ) (hmin : PRIORITY_MIN ≤ n) (hmax : n ≤ PRIORITY_MAX) : Priority (some (.int n)) n

/-- Absent, or a boolean, and the flag it gives. -/
inductive Autostart : Option QJsonValue → Bool → Prop
  | absent : Autostart none true
  | given (b : Bool) : Autostart (some (.bool b)) b

/-- The trimmed text of a member. -/
def textOf (json : QJsonObject) (key : String) : String := Text.trimmedText (json.value key).toString

/-- **Every member but the priority is in the format.** -/
structure InFormatOtherwise (json : QJsonObject) : Prop where
  id : IsId (textOf json "id")
  name : textOf json "name" ≠ ""
  kind : textOf json "kind" ≠ ""
  exec : IsExec (textOf json "exec")
  autostart : ∃ b, Autostart (json.lookup "autostart") b
  args : ∃ texts, TextArray (json.value "args") texts
  env : ∃ o, TextObject (json.value "env") o
  capabilities : ∃ texts, TextArray (json.value "capabilities") texts

/-- **The format of a manifest.** -/
structure InFormat (json : QJsonObject) : Prop extends InFormatOtherwise json where
  priority : ∃ n, Priority (json.lookup "priority") n

/-- **The manifest has what the object gives**, and the defaults. -/
structure Reads (json : QJsonObject) (sourcePath : String) (m : ProviderManifest) : Prop where
  id : m.id = textOf json "id"
  name : m.name = textOf json "name"
  kind : m.kind = textOf json "kind"
  exec : m.exec = textOf json "exec"
  priority : Priority (json.lookup "priority") m.priority
  autostart : Autostart (json.lookup "autostart") m.autostart
  args : TextArray (json.value "args") m.args
  env : TextObject (json.value "env") m.env
  capabilities : TextArray (json.value "capabilities") m.capabilities
  sourcePath : m.sourcePath = sourcePath

/-- **The object is parsed exactly**: it is accepted where it is in the
format, and a manifest read from it is valid and has what it gives. -/
def ParsedExactly (json : QJsonObject) (sourcePath : String) : Prop :=
  ((∃ m, parseProviderManifest json sourcePath = .ok m) ↔ InFormat json) ∧
    ∀ m, parseProviderManifest json sourcePath = .ok m →
      Reads json sourcePath m ∧ m.isValid = true

/-- **The priority is a number but no `int`.** -/
def NoInt (priority : Option QJsonValue) : Prop :=
  ∃ q, priority = some (.double q) ∧ ¬ (q.den = 1 ∧ -2147483648 ≤ q.num ∧ q.num ≤ 2147483647)

/-! ## The loops -/

variable {json : QJsonObject} {sourcePath key fieldName : String} {m m' : ProviderManifest}

theorem map_eq_ok_iff {α β : Type} {f : α → β} {r : Except String α} {y : β} :
    r.map f = .ok y ↔ ∃ x, r = .ok x ∧ f x = y := by
  cases r <;> simp [Except.map]

theorem parseStrings_eq_ok_iff : ∀ {entries : List QJsonValue} {texts : List String},
    parseStrings fieldName entries = .ok texts ↔ entries = texts.map .string
  | [], texts => by cases texts <;> simp [parseStrings]
  | .string text :: rest, texts => by
      rw [parseStrings, map_eq_ok_iff]
      constructor
      · rintro ⟨texts, h, rfl⟩
        rw [parseStrings_eq_ok_iff.1 h, List.map_cons]
      · intro h
        cases texts with
        | nil => cases h
        | cons text' texts =>
            obtain ⟨htext, hrest⟩ := List.cons.inj h
            obtain rfl := QJsonValue.string.inj htext
            exact ⟨texts, parseStrings_eq_ok_iff.2 hrest, rfl⟩
  | .undefined :: _, texts | .null :: _, texts | .bool _ :: _, texts | .double _ :: _, texts
  | .array _ :: _, texts | .object _ :: _, texts => by cases texts <;> simp [parseStrings]

theorem parseEnvMembers_eq_ok_iff : ∀ {members : List (String × QJsonValue)} {o : QJsonObject},
    parseEnvMembers members = .ok o ↔
      members = o ∧ ∃ texts : List (String × String), o = texts.map fun m => (m.1, .string m.2)
  | [], o => by
      constructor
      · intro h
        cases h
        exact ⟨rfl, [], rfl⟩
      · rintro ⟨rfl, -⟩
        rfl
  | (key, .string text) :: rest, o => by
      rw [parseEnvMembers, map_eq_ok_iff]
      constructor
      · rintro ⟨o, h, rfl⟩
        obtain ⟨rfl, texts, rfl⟩ := parseEnvMembers_eq_ok_iff.1 h
        exact ⟨rfl, (key, text) :: texts, rfl⟩
      · rintro ⟨rfl, texts, h⟩
        cases texts with
        | nil => cases h
        | cons t texts =>
            exact ⟨rest, parseEnvMembers_eq_ok_iff.2 ⟨rfl, texts, (List.cons.inj h).2⟩, rfl⟩
  | (_, .undefined) :: _, o | (_, .null) :: _, o | (_, .bool _) :: _, o
  | (_, .double _) :: _, o | (_, .array _) :: _, o | (_, .object _) :: _, o => by
      simp only [parseEnvMembers, reduceCtorEq, false_iff]
      rintro ⟨rfl, texts, h⟩
      cases texts <;> simp at h

/-- **An array is accepted for its strings.** -/
theorem parseStringArray_eq_ok_iff {value : QJsonValue} {texts : List String} :
    parseStringArray value fieldName = .ok texts ↔ TextArray value texts := by
  constructor
  · intro h
    cases value with
    | undefined =>
        cases h
        exact .absent
    | null =>
        cases h
        exact .null
    | array entries =>
        obtain rfl := parseStrings_eq_ok_iff.1 h
        exact .given texts
    | bool b => cases h
    | double q => cases h
    | string s => cases h
    | object o => cases h
  · intro h
    cases h with
    | absent => rfl
    | null => rfl
    | given texts => exact parseStrings_eq_ok_iff.2 rfl

/-- **And an object for its members.** -/
theorem parseEnvMap_eq_ok_iff {value : QJsonValue} {o : QJsonObject} :
    parseEnvMap value = .ok o ↔ TextObject value o := by
  constructor
  · intro h
    cases value with
    | undefined =>
        cases h
        exact .absent
    | null =>
        cases h
        exact .null
    | object members =>
        obtain ⟨rfl, texts, rfl⟩ := parseEnvMembers_eq_ok_iff.1 h
        exact .given texts
    | bool b => cases h
    | double q => cases h
    | string s => cases h
    | array xs => cases h
  · intro h
    cases h with
    | absent => rfl
    | null => rfl
    | given texts => exact parseEnvMembers_eq_ok_iff.2 ⟨rfl, texts, rfl⟩

/-! ## The checks -/

/-- No white space stands at the end of a trimmed text. -/
theorem getLast?_trimmedText {text : String} {c : Char}
    (h : (Text.trimmedText text).toList.getLast? = some c) : Text.isSpaceChar c = false := by
  rw [Text.trimmedText, String.toList_ofList, Text.trimmed, trim, List.getLast?_reverse] at h
  have hn := List.head?_dropWhile_not Text.isSpaceChar
    (text.toList.dropWhile Text.isSpaceChar).reverse
  rw [h] at hn
  simpa using hn

/-- On a trimmed text the pattern is the format. -/
theorem isValidId_iff : isValidId (textOf json key) = true ↔ IsId (textOf json key) := by
  have hlast : (textOf json key).toList.getLast? ≠ some '\n' := fun h =>
    absurd (getLast?_trimmedText h) (by decide)
  unfold isValidId IsId
  rw [if_neg hlast]
  cases (textOf json key).toList with
  | nil => simp
  | cons c rest => simp

theorem isValidExec_iff {exec : String} : isValidExec exec = true ↔ IsExec exec := by
  unfold isValidExec IsExec
  split
  next he => simp [he]
  next he =>
    split
    next hs => simp [he, hs]
    next hs => simp [he, hs]

theorem isValid_iff : m.isValid = true ↔ (m.id ≠ "" ∧ isValidId m.id = true) ∧ m.name ≠ "" ∧
    m.kind ≠ "" ∧ (PRIORITY_MIN ≤ m.priority ∧ m.priority ≤ PRIORITY_MAX) ∧
      isValidExec m.exec = true := by
  simp [isValid, and_assoc]

/-- **The checks pass the valid manifests.** -/
theorem checked_eq_ok_iff : checked m = .ok m' ↔ m = m' ∧ m.isValid = true := by
  rw [isValid_iff]
  unfold checked
  constructor
  · intro h
    split_ifs at h with hid hpattern hname hkind hpriority hexec hpath
    simp only [Bool.not_eq_true', Bool.not_eq_false] at hpattern hpath
    exact ⟨Except.ok.inj h, ⟨hid, hpattern⟩, hname, hkind, by omega, hpath⟩
  · rintro ⟨rfl, ⟨hid, hpattern⟩, hname, hkind, hpriority, hpath⟩
    have hexec : m.exec ≠ "" := by
      intro he
      simp [he, isValidExec] at hpath
    rw [if_neg hid, if_neg (by simp [hpattern]), if_neg hname, if_neg hkind,
      if_neg (by omega), if_neg hexec, if_neg (by simp [hpath])]

/-! ## The parser -/

theorem bind_eq_ok_iff {α β : Type} {r : Except String α} {f : α → Except String β} {y : β} :
    (r >>= f) = .ok y ↔ ∃ x, r = .ok x ∧ f x = .ok y := by
  cases r <;> simp [bind, Except.bind]

theorem value_of_lookup {v : Option QJsonValue} (h : json.lookup key = v) :
    json.value key = v.getD .undefined := by rw [QJsonObject.value, h]

theorem contains_of_lookup {v : Option QJsonValue} (h : json.lookup key = v) :
    json.contains key = v.isSome := by rw [QJsonObject.contains, h]

/-- The flag of a manifest, where the parser gets past the check on it. -/
theorem autostart_iff {b : Bool} :
    Autostart (json.lookup "autostart") b ↔
      ((json.contains "autostart" && !(json.value "autostart").isBool) = false ∧
        b = if json.contains "autostart" then (json.value "autostart").toBool else true) := by
  cases h : json.lookup "autostart" with
  | none =>
      rw [contains_of_lookup h]
      constructor
      · intro ha
        cases ha
        exact ⟨rfl, rfl⟩
      · rintro ⟨-, rfl⟩
        exact .absent
  | some v =>
      rw [contains_of_lookup h, value_of_lookup h]
      constructor
      · intro ha
        cases ha
        exact ⟨rfl, rfl⟩
      · rintro ⟨hb, rfl⟩
        cases v with
        | bool b => exact .given b
        | _ => cases hb

/-- The manifest read from an object, once its lists are read. -/
def readManifest (json : QJsonObject) (sourcePath : String) (args : List String) (env : QJsonObject)
    (capabilities : List String) : ProviderManifest where
  id := textOf json "id"
  name := textOf json "name"
  kind := textOf json "kind"
  priority := (json.value "priority").toInt
  exec := textOf json "exec"
  args := args
  env := env
  autostart := if json.contains "autostart" then (json.value "autostart").toBool else true
  capabilities := capabilities
  sourcePath := sourcePath

/-- **The parser inverted.** -/
theorem parse_eq_ok_iff : parseProviderManifest json sourcePath = .ok m ↔
    (json.contains "priority" && !(json.value "priority").isDouble) = false ∧
      Autostart (json.lookup "autostart") m.autostart ∧
      TextArray (json.value "args") m.args ∧ TextObject (json.value "env") m.env ∧
      TextArray (json.value "capabilities") m.capabilities ∧
      m = readManifest json sourcePath m.args m.env m.capabilities ∧ m.isValid = true := by
  unfold parseProviderManifest
  split
  next hp => simp [hp]
  next hp =>
    rw [Bool.not_eq_true] at hp
    split
    next ha =>
      constructor
      · intro h
        cases h
      · rintro ⟨-, hauto, -⟩
        rw [(autostart_iff.1 hauto).1] at ha
        cases ha
    next ha =>
      rw [Bool.not_eq_true] at ha
      constructor
      · intro h
        obtain ⟨args, hargs, h⟩ := bind_eq_ok_iff.1 h
        obtain ⟨env, henv, h⟩ := bind_eq_ok_iff.1 h
        obtain ⟨capabilities, hcaps, h⟩ := bind_eq_ok_iff.1 h
        obtain ⟨rfl, hv⟩ := checked_eq_ok_iff.1 h
        exact ⟨hp, autostart_iff.2 ⟨ha, rfl⟩, parseStringArray_eq_ok_iff.1 hargs,
          parseEnvMap_eq_ok_iff.1 henv, parseStringArray_eq_ok_iff.1 hcaps, rfl, hv⟩
      · rintro ⟨-, -, hargs, henv, hcaps, hm, hv⟩
        refine bind_eq_ok_iff.2 ⟨_, parseStringArray_eq_ok_iff.2 hargs, ?_⟩
        refine bind_eq_ok_iff.2 ⟨_, parseEnvMap_eq_ok_iff.2 henv, ?_⟩
        refine bind_eq_ok_iff.2 ⟨_, parseStringArray_eq_ok_iff.2 hcaps, ?_⟩
        exact (congrArg checked hm.symm).trans (checked_eq_ok_iff.2 ⟨rfl, hv⟩)

/-- **What the parser accepts**: the format, but for the priority, which it
takes as it is converted. -/
theorem parses_iff : (∃ m, parseProviderManifest json sourcePath = .ok m) ↔
    InFormatOtherwise json ∧
      (json.contains "priority" && !(json.value "priority").isDouble) = false ∧
      PRIORITY_MIN ≤ (json.value "priority").toInt ∧
        (json.value "priority").toInt ≤ PRIORITY_MAX := by
  constructor
  · rintro ⟨m, h⟩
    obtain ⟨hp, hauto, hargs, henv, hcaps, hm, hv⟩ := parse_eq_ok_iff.1 h
    obtain ⟨⟨-, hid⟩, hname, hkind, hpriority, hexec⟩ := isValid_iff.1 hv
    rw [hm] at hid hname hkind hpriority hexec
    exact ⟨⟨isValidId_iff.1 hid, hname, hkind, isValidExec_iff.1 hexec, ⟨_, hauto⟩, ⟨_, hargs⟩,
      ⟨_, henv⟩, ⟨_, hcaps⟩⟩, hp, hpriority⟩
  · rintro ⟨h, hp, hpriority⟩
    obtain ⟨b, hauto⟩ := h.autostart
    obtain ⟨args, hargs⟩ := h.args
    obtain ⟨env, henv⟩ := h.env
    obtain ⟨capabilities, hcaps⟩ := h.capabilities
    obtain ⟨-, rfl⟩ := autostart_iff.1 hauto
    refine ⟨readManifest json sourcePath args env capabilities,
      parse_eq_ok_iff.2 ⟨hp, hauto, hargs, henv, hcaps, rfl, isValid_iff.2 ?_⟩⟩
    obtain ⟨c, rest, hchars, -⟩ := h.id
    have hne : textOf json "id" ≠ "" := by
      intro he
      rw [he] at hchars
      cases hchars
    exact ⟨⟨hne, isValidId_iff.2 h.id⟩, h.name, h.kind, hpriority, isValidExec_iff.2 h.exec⟩

/-! ## The priority -/

/-- A priority in the format passes as it is. -/
theorem Priority.toInt {n : ℤ} (h : Priority (json.lookup "priority") n) :
    (json.contains "priority" && !(json.value "priority").isDouble) = false ∧
      (json.value "priority").toInt = n ∧ PRIORITY_MIN ≤ n ∧ n ≤ PRIORITY_MAX := by
  cases hl : json.lookup "priority" with
  | none =>
      rw [hl] at h
      rw [contains_of_lookup hl, value_of_lookup hl]
      cases h
      exact ⟨rfl, rfl, by decide, by decide⟩
  | some v =>
      rw [hl] at h
      rw [contains_of_lookup hl, value_of_lookup hl]
      cases h with
      | given n hmin hmax =>
          refine ⟨rfl, ?_, hmin, hmax⟩
          have hint : (n : ℚ).den = 1 ∧ -2147483648 ≤ (n : ℚ).num ∧ (n : ℚ).num ≤ 2147483647 := by
            unfold PRIORITY_MIN at hmin
            unfold PRIORITY_MAX at hmax
            simp only [Rat.den_intCast, Rat.num_intCast, true_and]
            omega
          simp only [Option.getD_some, QJsonValue.int, QJsonValue.toInt]
          rw [if_pos hint, Rat.num_intCast]

/-- **A priority that passes is in the format, or is no `int`.** -/
theorem priority_cases (hp : (json.contains "priority" && !(json.value "priority").isDouble) = false)
    (hmin : PRIORITY_MIN ≤ (json.value "priority").toInt)
    (hmax : (json.value "priority").toInt ≤ PRIORITY_MAX) :
    Priority (json.lookup "priority") (json.value "priority").toInt ∨
      NoInt (json.lookup "priority") := by
  cases hl : json.lookup "priority" with
  | none =>
      rw [value_of_lookup hl]
      exact .inl .absent
  | some v =>
      rw [contains_of_lookup hl, value_of_lookup hl] at hp
      rw [value_of_lookup hl] at hmin hmax ⊢
      cases v with
      | double q =>
          by_cases hq : q.den = 1 ∧ -2147483648 ≤ q.num ∧ q.num ≤ 2147483647
          · have hv : (QJsonValue.double q).toInt = q.num := by
              simp only [QJsonValue.toInt, if_pos hq]
            have heq : QJsonValue.double q = .int q.num := by
              rw [QJsonValue.int, Rat.coe_int_num_of_den_eq_one hq.1]
            simp only [Option.getD_some, hv] at hmin hmax ⊢
            rw [heq]
            exact .inl (.given q.num hmin hmax)
          · exact .inr ⟨q, rfl, hq⟩
      | _ => cases hp

/-- **A number that is no `int` is taken for `0`.** -/
theorem NoInt.toInt (h : NoInt (json.lookup "priority")) :
    (json.contains "priority" && !(json.value "priority").isDouble) = false ∧
      (json.value "priority").toInt = 0 ∧ ∀ n, ¬ Priority (json.lookup "priority") n := by
  obtain ⟨q, hl, hq⟩ := h
  rw [contains_of_lookup hl, value_of_lookup hl]
  refine ⟨rfl, ?_, fun n hn => hq ?_⟩
  · simp only [Option.getD_some, QJsonValue.toInt, if_neg hq]
  · obtain ⟨-, -, hmin, hmax⟩ := hn.toInt
    rw [hl] at hn
    cases hn with
    | given n _ _ =>
        unfold PRIORITY_MIN at hmin
        unfold PRIORITY_MAX at hmax
        simp only [Rat.den_intCast, Rat.num_intCast, true_and]
        omega

variable (json sourcePath) in
/-- **An object is parsed exactly** unless its priority is a number that is
no `int` and every other member is in order. -/
theorem parsedExactly_iff : ParsedExactly json sourcePath ↔
    ¬ (NoInt (json.lookup "priority") ∧ InFormatOtherwise json) := by
  constructor
  · rintro ⟨hiff, -⟩ ⟨hno, hother⟩
    obtain ⟨hp, hzero, hnone⟩ := hno.toInt
    have hparses : ∃ m, parseProviderManifest json sourcePath = .ok m :=
      parses_iff.2 ⟨hother, hp, by rw [hzero]; decide, by rw [hzero]; decide⟩
    obtain ⟨n, hn⟩ := (hiff.1 hparses).priority
    exact hnone n hn
  · intro hn
    have hpriority : InFormatOtherwise json →
        (json.contains "priority" && !(json.value "priority").isDouble) = false →
        PRIORITY_MIN ≤ (json.value "priority").toInt →
        (json.value "priority").toInt ≤ PRIORITY_MAX →
        Priority (json.lookup "priority") (json.value "priority").toInt :=
      fun hother hp hmin hmax =>
        (priority_cases hp hmin hmax).resolve_right fun hno => hn ⟨hno, hother⟩
    refine ⟨⟨fun h => ?_, fun h => ?_⟩, fun m h => ?_⟩
    · obtain ⟨hother, hp, hmin, hmax⟩ := parses_iff.1 h
      exact ⟨hother, _, hpriority hother hp hmin hmax⟩
    · obtain ⟨n, hn⟩ := h.priority
      obtain ⟨hp, htoInt, hmin, hmax⟩ := hn.toInt
      exact parses_iff.2 ⟨h.toInFormatOtherwise, hp, htoInt.symm ▸ hmin, htoInt.symm ▸ hmax⟩
    · obtain ⟨hother, hp, hmin, hmax⟩ := parses_iff.1 ⟨m, h⟩
      obtain ⟨-, hauto, hargs, henv, hcaps, hm, hv⟩ := parse_eq_ok_iff.1 h
      refine ⟨⟨?_, ?_, ?_, ?_, ?_, hauto, hargs, henv, hcaps, ?_⟩, hv⟩
      · rw [hm]; rfl
      · rw [hm]; rfl
      · rw [hm]; rfl
      · rw [hm]; rfl
      · rw [hm]
        exact hpriority hother hp hmin hmax
      · rw [hm]; rfl

/-- A manifest with a fraction for its priority. -/
def halfPriority : QJsonObject :=
  [("id", "gtk"), ("name", "GTK"), ("kind", "gtk-fallback"), ("exec", "bb-gtk"),
    ("priority", .double ⟨3, 2, by decide, by decide⟩)]

/-- **A fraction is read as `0`.** -/
theorem not_parsedExactly_halfPriority : ¬ ParsedExactly halfPriority "" := by
  rintro ⟨hiff, -⟩
  have hparses : ∃ m, parseProviderManifest halfPriority "" = .ok m :=
    ⟨readManifest halfPriority "" [] [] [], by decide⟩
  obtain ⟨n, hn⟩ := (hiff.1 hparses).priority
  obtain ⟨-, hzero, -⟩ := hn.toInt
  have hn0 : n = 0 := hzero.symm.trans (by decide)
  subst hn0
  generalize hl : halfPriority.lookup "priority" = v at hn
  cases hn with
  | absent => cases hl
  | given n hmin hmax =>
      exact absurd (congrArg Rat.den (QJsonValue.double.inj (Option.some.inj hl))) (by decide)

end ProviderManifest

end BbAuth
