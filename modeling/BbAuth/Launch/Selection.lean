import BbAuth.Library.Champion
import BbAuth.Model.ProviderLauncher
import Mathlib.Data.List.Lex
import Mathlib.Data.List.Sort
import Mathlib.Data.Prod.Lex
/-!
# Which candidate is selected

The rules of the selection as a relation: the override where there is one,
else the first of the manifests that can be launched, else the default.
The order of the candidates is total on manifests of distinct ids, so the
relation decides for one candidate, and neither the order of the list nor
the sort has a part in it.
-/

namespace BbAuth

namespace Text

/-! ## The order of two texts -/

/-- A character is no surrogate. -/
theorem not_surrogate (c : Char) : ¬ (0xD800 ≤ c.toNat ∧ c.toNat ≤ 0xDFFF) := by
  intro hs
  have hv : c.toNat < 0xD800 ∨ 0xDFFF < c.toNat ∧ c.toNat < 0x110000 := c.valid
  omega

theorem utf16Units_of_not_lt {c : Char} (h : ¬ c.toNat < 0x10000) :
    utf16Units c =
        [0xD800 + (c.toNat - 0x10000) / 0x400, 0xDC00 + (c.toNat - 0x10000) % 0x400] ∧
      (c.toNat - 0x10000) / 0x400 < 0x400 := by
  refine ⟨if_neg h, ?_⟩
  have hv : c.toNat < 0xD800 ∨ 0xDFFF < c.toNat ∧ c.toNat < 0x110000 := c.valid
  omega

theorem char_eq {c d : Char} (h : c.toNat = d.toNat) : c = d := Char.toNat_inj.1 h

/-- The first unit says how long a character is, so a text can be read
back. -/
theorem flatMap_utf16Units_inj : ∀ {l m : List Char},
    l.flatMap utf16Units = m.flatMap utf16Units → l = m
  | [], [], _ => rfl
  | [], d :: m, h => by
      by_cases hd : d.toNat < 0x10000
      · simp [utf16Units_of_lt hd] at h
      · simp [(utf16Units_of_not_lt hd).1] at h
  | c :: l, [], h => by
      by_cases hc : c.toNat < 0x10000
      · simp [utf16Units_of_lt hc] at h
      · simp [(utf16Units_of_not_lt hc).1] at h
  | c :: l, d :: m, h => by
      rw [List.flatMap_cons, List.flatMap_cons] at h
      by_cases hc : c.toNat < 0x10000
      · have hcu := utf16Units_of_lt hc
        have hcs := not_surrogate c
        by_cases hd : d.toNat < 0x10000
        · have hdu := utf16Units_of_lt hd
          rw [hcu, hdu] at h
          obtain ⟨hcd, hrest⟩ := List.cons.inj h
          rw [char_eq hcd, flatMap_utf16Units_inj hrest]
        · obtain ⟨hdu, hds⟩ := utf16Units_of_not_lt hd
          rw [hcu, hdu] at h
          have hhead := (List.cons.inj h).1
          omega
      · obtain ⟨hcu, hcs⟩ := utf16Units_of_not_lt hc
        by_cases hd : d.toNat < 0x10000
        · have hdu := utf16Units_of_lt hd
          have hds := not_surrogate d
          rw [hcu, hdu] at h
          have hhead := (List.cons.inj h).1
          omega
        · obtain ⟨hdu, -⟩ := utf16Units_of_not_lt hd
          rw [hcu, hdu] at h
          obtain ⟨hhigh, hlow⟩ := List.cons.inj h
          obtain ⟨hlow, hrest⟩ := List.cons.inj hlow
          rw [char_eq (c := c) (d := d) (by omega), flatMap_utf16Units_inj hrest]

theorem utf16_inj {a b : String} (h : utf16 a = utf16 b) : a = b :=
  String.toList_inj.1 (flatMap_utf16Units_inj h)

end Text

namespace ProviderManifest

variable {a b : ProviderManifest}

/-! ## The order of the candidates -/

/-- What the candidates are ordered by, the least first. -/
def key (m : ProviderManifest) : ℤ ×ₗ List ℕ := toLex (-m.priority, Text.utf16 m.id)

theorem before_iff : a.Before b ↔ key a < key b := by
  unfold Before key
  rw [Prod.Lex.toLex_lt_toLex]
  dsimp only
  split
  next hne =>
    constructor
    · exact fun h => .inl (by omega)
    · rintro (h | ⟨h, -⟩)
      · omega
      · omega
  next heq =>
    have heq' : a.priority = b.priority := not_not.1 heq
    rw [heq', Text.LessThan]
    simp

theorem not_before_self : ¬ a.Before a := by
  rw [before_iff]
  exact lt_irrefl _

/-- Of two manifests one comes first, unless they share their id. -/
theorem before_of_not_before (hid : a.id ≠ b.id) (h : ¬ b.Before a) : a.Before b := by
  rw [before_iff] at h ⊢
  refine lt_of_le_of_ne (not_lt.1 h) fun heq => hid (Text.utf16_inj ?_)
  exact (Prod.mk.inj (toLex.injective heq)).2

theorem not_before_of_before (h : a.Before b) : ¬ b.Before a := by
  rw [before_iff] at h ⊢
  exact lt_asymm h

end ProviderManifest

namespace ProviderLauncher

variable {P : LaunchPlatform} {manifests : List ProviderManifest} {m : ProviderManifest}

/-! ## The rules -/

/-- **`m` is the first** of the autostart manifests whose executable is
there. -/
def IsFirst (P : LaunchPlatform) (manifests : List ProviderManifest) (m : ProviderManifest) :
    Prop :=
  m ∈ manifests ∧ m.autostart = true ∧ isLaunchable P m = true ∧
    ∀ x ∈ manifests, x.autostart = true → isLaunchable P x = true → x ≠ m → m.Before x

/-- No autostart manifest has its executable there. -/
def NoneFirst (P : LaunchPlatform) (manifests : List ProviderManifest) : Prop :=
  ∀ x ∈ manifests, x.autostart = true → isLaunchable P x = false

/-- **The candidate the rules select**, with the reason where there is
none. -/
inductive Selects (P : LaunchPlatform) (manifests : List ProviderManifest)
    (legacyFallbackPath defaultFallbackPath socketPath : String) :
    SelectedCandidate × String → Prop
  /-- An override that is there is taken before everything else. -/
  | override (hpath : Text.trimmedText legacyFallbackPath ≠ "")
      (hexec : P.isExecutableFile (Text.trimmedText legacyFallbackPath) = true) :
      Selects P manifests legacyFallbackPath defaultFallbackPath socketPath
        (legacyCandidate P LEGACY_ENV_ID "legacy-env" (Text.trimmedText legacyFallbackPath)
          socketPath, "")
  /-- An override that is not there leaves nothing to select. -/
  | badOverride (hpath : Text.trimmedText legacyFallbackPath ≠ "")
      (hexec : P.isExecutableFile (Text.trimmedText legacyFallbackPath) = false) :
      Selects P manifests legacyFallbackPath defaultFallbackPath socketPath
        ({}, "skip: BB_AUTH_FALLBACK_PATH is not executable: " ++
          Text.trimmedText legacyFallbackPath)
  | manifest {m : ProviderManifest} (hpath : Text.trimmedText legacyFallbackPath = "")
      (hm : IsFirst P manifests m) :
      Selects P manifests legacyFallbackPath defaultFallbackPath socketPath
        (manifestCandidate P m socketPath, "")
  | fallback (hpath : Text.trimmedText legacyFallbackPath = "") (hnone : NoneFirst P manifests)
      (hdefault : Text.trimmedText defaultFallbackPath ≠ "")
      (hexec : P.isExecutableFile (Text.trimmedText defaultFallbackPath) = true) :
      Selects P manifests legacyFallbackPath defaultFallbackPath socketPath
        (legacyCandidate P LEGACY_DEFAULT_ID "legacy-default"
          (Text.trimmedText defaultFallbackPath) socketPath, "")
  | nothing (hpath : Text.trimmedText legacyFallbackPath = "") (hnone : NoneFirst P manifests)
      (hdefault : Text.trimmedText defaultFallbackPath = "" ∨
        P.isExecutableFile (Text.trimmedText defaultFallbackPath) = false) :
      Selects P manifests legacyFallbackPath defaultFallbackPath socketPath
        ({}, "skip: no launchable provider candidate")

/-! ## The scan -/

theorem mem_sort_autostart :
    m ∈ P.sort (manifests.filter ProviderManifest.autostart) ↔
      m ∈ manifests ∧ m.autostart = true := by
  rw [(P.sort_perm _).mem_iff, List.mem_filter]

theorem find?_sort_eq_none_iff :
    (P.sort (manifests.filter ProviderManifest.autostart)).find? (isLaunchable P) = none ↔
      NoneFirst P manifests := by
  rw [List.find?_eq_none]
  constructor
  · exact fun h x hx hauto => Bool.not_eq_true _ ▸ h x (mem_sort_autostart.2 ⟨hx, hauto⟩)
  · intro h x hx
    obtain ⟨hx, hauto⟩ := mem_sort_autostart.1 hx
    simp [h x hx hauto]

/-- Two manifests cannot both be the first. -/
theorem IsFirst.unique {m' : ProviderManifest} (h : IsFirst P manifests m)
    (h' : IsFirst P manifests m') : m = m' := by
  by_contra hne
  obtain ⟨hm, hauto, hexec, hfirst⟩ := h
  obtain ⟨hm', hauto', hexec', hfirst'⟩ := h'
  exact ProviderManifest.not_before_of_before (hfirst m' hm' hauto' hexec' (Ne.symm hne))
    (hfirst' m hm hauto hexec hne)

section Distinct

variable (hids : (manifests.map ProviderManifest.id).Nodup)

include hids

/-- Where the ids are distinct the scan of the sorted list finds the first
manifest, wherever the sort may leave equals. -/
theorem find?_sort_eq_some_iff :
    (P.sort (manifests.filter ProviderManifest.autostart)).find? (isLaunchable P) = some m ↔
      IsFirst P manifests m := by
  have hfound : ∀ {m}, (P.sort (manifests.filter ProviderManifest.autostart)).find?
      (isLaunchable P) = some m → IsFirst P manifests m := by
    intro m h
    have hexec := List.find?_some h
    obtain ⟨hm, hauto⟩ := mem_sort_autostart.1 (List.mem_of_find?_eq_some h)
    refine ⟨hm, hauto, hexec, fun x hx hxauto hxexec hne => ?_⟩
    have hnot : ¬ x.Before m :=
      not_beaten_of_find? (P.sort_sorted _) (fun _ => ProviderManifest.not_before_self) h x
        (mem_sort_autostart.2 ⟨hx, hxauto⟩) hxexec
    refine ProviderManifest.before_of_not_before (fun hid => hne ?_) hnot
    exact (List.inj_on_of_nodup_map hids hm hx hid).symm
  constructor
  · exact hfound
  · intro hfirst
    cases h : (P.sort (manifests.filter ProviderManifest.autostart)).find? (isLaunchable P) with
    | none =>
      obtain ⟨hm, hauto, hexec, -⟩ := hfirst
      rw [find?_sort_eq_none_iff.1 h m hm hauto] at hexec
      exact absurd hexec Bool.false_ne_true
    | some m' => rw [(hfound h).unique hfirst]

variable (legacyFallbackPath defaultFallbackPath socketPath : String)

/-- What the code selects is what the rules select. -/
theorem selects_selectCandidate :
    Selects P manifests legacyFallbackPath defaultFallbackPath socketPath
      (selectCandidate P manifests legacyFallbackPath defaultFallbackPath socketPath) := by
  unfold selectCandidate
  dsimp only
  split
  next hpath =>
    split
    next hexec => exact .badOverride hpath (by simpa using hexec)
    next hexec => exact .override hpath (by simpa using hexec)
  next hpath =>
    have hpath : Text.trimmedText legacyFallbackPath = "" := not_not.1 hpath
    split
    next m hm => exact .manifest hpath ((find?_sort_eq_some_iff hids).1 hm)
    next hnone =>
      have hnone := find?_sort_eq_none_iff.1 hnone
      split
      next hdefault => exact .nothing hpath hnone (by simpa using hdefault)
      next hdefault =>
        obtain ⟨hne, hexec⟩ : Text.trimmedText defaultFallbackPath ≠ "" ∧
            P.isExecutableFile (Text.trimmedText defaultFallbackPath) = true := by
          simpa using hdefault
        exact .fallback hpath hnone hne hexec

omit hids in
/-- The rules never select two candidates. -/
theorem Selects.unique {r r' : SelectedCandidate × String}
    (h : Selects P manifests legacyFallbackPath defaultFallbackPath socketPath r)
    (h' : Selects P manifests legacyFallbackPath defaultFallbackPath socketPath r') : r = r' := by
  have hnot : ∀ {m}, IsFirst P manifests m → ¬ NoneFirst P manifests := by
    rintro m ⟨hm, hauto, hexec, -⟩ hnone
    rw [hnone m hm hauto] at hexec
    exact Bool.false_ne_true hexec
  cases h with
  | override hpath hexec =>
    cases h' with
    | override => rfl
    | badOverride _ hexec' => exact absurd (hexec'.symm.trans hexec) Bool.false_ne_true
    | manifest hpath' => exact absurd hpath' hpath
    | fallback hpath' => exact absurd hpath' hpath
    | nothing hpath' => exact absurd hpath' hpath
  | badOverride hpath hexec =>
    cases h' with
    | override _ hexec' => exact absurd (hexec.symm.trans hexec') Bool.false_ne_true
    | badOverride => rfl
    | manifest hpath' => exact absurd hpath' hpath
    | fallback hpath' => exact absurd hpath' hpath
    | nothing hpath' => exact absurd hpath' hpath
  | manifest hpath hm =>
    cases h' with
    | manifest hpath' hm' => rw [hm.unique hm']
    | override hpath' => exact absurd hpath hpath'
    | badOverride hpath' => exact absurd hpath hpath'
    | fallback _ hnone => exact absurd hnone (hnot hm)
    | nothing _ hnone => exact absurd hnone (hnot hm)
  | fallback hpath hnone hdefault hexec =>
    cases h' with
    | manifest _ hm' => exact absurd hnone (hnot hm')
    | override hpath' => exact absurd hpath hpath'
    | badOverride hpath' => exact absurd hpath hpath'
    | fallback => rfl
    | nothing _ _ hmissing =>
      rcases hmissing with hempty | hexec'
      · exact absurd hempty hdefault
      · exact absurd (hexec'.symm.trans hexec) Bool.false_ne_true
  | nothing hpath hnone hmissing =>
    cases h' with
    | manifest _ hm' => exact absurd hnone (hnot hm')
    | override hpath' => exact absurd hpath hpath'
    | badOverride hpath' => exact absurd hpath hpath'
    | fallback _ _ hdefault hexec =>
      rcases hmissing with hempty | hexec'
      · exact absurd hempty hdefault
      · exact absurd (hexec'.symm.trans hexec) Bool.false_ne_true
    | nothing => rfl

omit hids in
theorem IsFirst.of_perm {manifests' : List ProviderManifest} (hp : manifests.Perm manifests')
    (h : IsFirst P manifests m) : IsFirst P manifests' m := by
  obtain ⟨hm, hauto, hexec, hfirst⟩ := h
  exact ⟨hp.mem_iff.1 hm, hauto, hexec, fun x hx => hfirst x (hp.mem_iff.2 hx)⟩

omit hids in
theorem NoneFirst.of_perm {manifests' : List ProviderManifest} (hp : manifests.Perm manifests')
    (h : NoneFirst P manifests) : NoneFirst P manifests' :=
  fun x hx => h x (hp.mem_iff.2 hx)

omit hids in
/-- The rules do not see the order of the list. -/
theorem Selects.of_perm {manifests' : List ProviderManifest} (hp : manifests.Perm manifests')
    {r : SelectedCandidate × String}
    (h : Selects P manifests legacyFallbackPath defaultFallbackPath socketPath r) :
    Selects P manifests' legacyFallbackPath defaultFallbackPath socketPath r := by
  cases h with
  | override hpath hexec => exact .override hpath hexec
  | badOverride hpath hexec => exact .badOverride hpath hexec
  | manifest hpath hm => exact .manifest hpath (hm.of_perm hp)
  | fallback hpath hnone hne hexec => exact .fallback hpath (hnone.of_perm hp) hne hexec
  | nothing hpath hnone hdefault => exact .nothing hpath (hnone.of_perm hp) hdefault

/-- **The selection is the one of the rules.** On manifests of distinct
ids `selectCandidate` answers with the candidate that the rules select and
with no other, and in whatever order the manifests are listed. -/
theorem selectCandidate_eq_iff_selects :
    (∀ r, selectCandidate P manifests legacyFallbackPath defaultFallbackPath socketPath = r ↔
      Selects P manifests legacyFallbackPath defaultFallbackPath socketPath r) ∧
    ∀ manifests', manifests'.Perm manifests →
      selectCandidate P manifests' legacyFallbackPath defaultFallbackPath socketPath =
        selectCandidate P manifests legacyFallbackPath defaultFallbackPath socketPath := by
  have hselects := selects_selectCandidate (P := P) hids legacyFallbackPath defaultFallbackPath
    socketPath
  refine ⟨fun r => ⟨fun h => h ▸ hselects, fun h => Selects.unique _ _ _ hselects h⟩, ?_⟩
  intro manifests' hp
  have hids' : (manifests'.map ProviderManifest.id).Nodup :=
    ((hp.map ProviderManifest.id).nodup_iff).2 hids
  exact Selects.unique _ _ _
    ((selects_selectCandidate hids' legacyFallbackPath defaultFallbackPath socketPath).of_perm
      _ _ _ hp) hselects

end Distinct

end ProviderLauncher

/-! ## A platform -/

namespace LaunchPlatform

instance : Std.Total fun a b : ProviderManifest => ¬ b.Before a :=
  ⟨fun a b => (em (b.Before a)).symm.imp id ProviderManifest.not_before_of_before⟩

instance : IsTrans ProviderManifest fun a b => ¬ b.Before a :=
  ⟨fun a b c hab hbc => by
    rw [ProviderManifest.before_iff, not_lt] at hab hbc ⊢
    exact hab.trans hbc⟩

/-- A platform with these executables and no `PATH`. -/
def ofFiles (files : List String) : LaunchPlatform where
  isExecutableFile path := path ∈ files
  findExecutable _ := ""
  systemEnvironment := ∅
  sort l := l.insertionSort fun a b => ¬ b.Before a
  sort_perm := List.perm_insertionSort _
  sort_sorted := List.pairwise_insertionSort _

end LaunchPlatform

namespace ProviderLauncher

/-- A provider in its own file. -/
def gtkManifest : ProviderManifest :=
  { id := "gtk", name := "GTK", kind := "gtk-fallback", exec := "/usr/bin/bb-gtk", priority := 10 }

def qtManifest : ProviderManifest :=
  { id := "qt", name := "Qt", kind := "qt-fallback", exec := "/usr/bin/bb-qt" }

/-- Where the first of two providers is not installed, the second is
selected, however they are listed. -/
theorem selectCandidate_eq_iff_selects_two :
    selectCandidate (.ofFiles ["/usr/bin/bb-qt"]) [gtkManifest, qtManifest] "" "" "" =
      (manifestCandidate (.ofFiles ["/usr/bin/bb-qt"]) qtManifest "", "") ∧
    ∀ manifests', manifests'.Perm [gtkManifest, qtManifest] →
      selectCandidate (.ofFiles ["/usr/bin/bb-qt"]) manifests' "" "" "" =
        selectCandidate (.ofFiles ["/usr/bin/bb-qt"]) [gtkManifest, qtManifest] "" "" "" := by
  have hids : ([gtkManifest, qtManifest].map ProviderManifest.id).Nodup := by decide
  have hrules := selectCandidate_eq_iff_selects (P := .ofFiles ["/usr/bin/bb-qt"]) hids "" "" ""
  refine ⟨(hrules.1 _).2 (.manifest (by decide) ⟨by decide, rfl, by decide, ?_⟩), hrules.2⟩
  intro x hx hauto hexec hne
  rcases List.mem_pair.1 hx with rfl | rfl
  · exact absurd hexec (by decide)
  · exact absurd rfl hne

end ProviderLauncher

end BbAuth
