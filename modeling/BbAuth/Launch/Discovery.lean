import BbAuth.Library.Sieve
import BbAuth.Model.ProviderDiscovery
/-!
# Precedence among the provider manifests

Discovery is a sieve by id over the valid manifests, in the order the files
are visited in. Every other file it visits costs a warning and nothing else:
it neither takes an id nor hides one.
-/

namespace BbAuth

namespace ProviderDiscovery

variable (D : DiscoveryPlatform)

/-- The files of a search directory. -/
def filesOf (rawDir : String) : List ManifestFile :=
  if normalizeDir D rawDir = "" then []
  else (D.entryInfoList (normalizeDir D rawDir)).getD []

/-- **The files visited**, in the order of the directories. -/
def visited (searchDirs : List String) : List ManifestFile := searchDirs.flatMap (filesOf D)

/-- **The manifest of a file that can be read and holds a valid one.** -/
def validManifest (file : ManifestFile) : Option ProviderManifest :=
  file.contents.bind fun bytes => (parseManifestBytes D bytes file.absoluteFilePath).toOption

/-- The valid manifests, in the order their files are visited in. -/
def validManifests (searchDirs : List String) : List ProviderManifest :=
  (visited D searchDirs).filterMap (validManifest D)

variable {D} {s : Scan} {file : ManifestFile} {files : List ManifestFile}

/-! ## One file -/

/-- What a file does to the scan: it is taken, or it costs a warning. -/
theorem visit_cases (s : Scan) (file : ManifestFile) :
    (∃ m, validManifest D file = some m ∧ m.id ∉ s.seenIds ∧ visit D s file = s.take m) ∨
      ((∀ m, validManifest D file = some m → m.id ∈ s.seenIds) ∧
        ∃ text, visit D s file = s.warn file text) := by
  cases hc : file.contents with
  | none => exact .inr ⟨by simp [validManifest, hc], _, by rw [visit, hc]⟩
  | some bytes =>
      cases hp : parseManifestBytes D bytes file.absoluteFilePath with
      | error text =>
          exact .inr ⟨by simp [validManifest, hc, hp, Except.toOption], text,
            by simp only [visit, hc, hp]⟩
      | ok m =>
          have hm : validManifest D file = some m := by
            simp [validManifest, hc, hp, Except.toOption]
          by_cases hs : m.id ∈ s.seenIds
          · refine .inr ⟨fun m' hm' => ?_, "duplicate id '" ++ m.id ++
              "' already selected from higher precedence directory",
              by simp only [visit, hc, hp, if_pos hs]⟩
            obtain rfl := Option.some.inj (hm.symm.trans hm')
            exact hs
          · exact .inl ⟨m, hm, hs, by simp only [visit, hc, hp, if_neg hs]⟩

/-! ## The whole scan -/

/-- **What a scan holds after some files**: the sieve of their valid
manifests by id, the ids of what it took, and a warning for each file it
did not take. -/
structure Scan.Holds (D : DiscoveryPlatform) (s : Scan) (files : List ManifestFile) : Prop where
  manifests : s.result.manifests = sieve (fun a b => a.id = b.id) (files.filterMap (validManifest D))
  seenIds : ∀ id, id ∈ s.seenIds ↔ ∃ m ∈ s.result.manifests, m.id = id
  counts : files.length = s.result.manifests.length + s.result.warnings.length

theorem holds_init : Scan.Holds D {} [] := ⟨rfl, by simp, rfl⟩

/-- **One more file keeps the account.** -/
theorem Scan.Holds.visit (h : Scan.Holds D s files) :
    Scan.Holds D (visit D s file) (files ++ [file]) := by
  rcases visit_cases (D := D) s file with ⟨m, hm, hnew, hv⟩ | ⟨hold, text, hv⟩
  · rw [hv]
    refine ⟨?_, fun id => ?_, ?_⟩
    · have hnot : ¬ ∃ y ∈ s.result.manifests, y.id = m.id := fun hy => hnew ((h.seenIds m.id).2 hy)
      rw [h.manifests] at hnot
      simp only [List.filterMap_append, List.filterMap_cons, hm, List.filterMap_nil, sieve_snoc]
      rw [sift_of_not_exists hnot, ← h.manifests]
      rfl
    · have := h.seenIds id
      simp [Scan.take, this, or_comm, eq_comm, or_and_right, exists_or]
    · have := h.counts
      simp only [Scan.take, List.length_append, List.length_singleton]
      omega
  · rw [hv]
    refine ⟨?_, h.seenIds, ?_⟩
    · rw [List.filterMap_append]
      cases hm : validManifest D file with
      | none => simpa [hm, Scan.warn] using h.manifests
      | some m =>
          have hex : ∃ y ∈ s.result.manifests, y.id = m.id := (h.seenIds m.id).1 (hold m hm)
          rw [h.manifests] at hex
          simp only [List.filterMap_cons, hm, List.filterMap_nil, sieve_snoc]
          rw [sift_of_exists hex]
          exact h.manifests
    · have := h.counts
      simp only [Scan.warn, List.length_append, List.length_singleton]
      omega

theorem holds_foldl (h : Scan.Holds D s files) (more : List ManifestFile) :
    Scan.Holds D (more.foldl (ProviderDiscovery.visit D) s) (files ++ more) := by
  induction more generalizing s files with
  | nil => simpa using h
  | cons file more ih =>
      rw [List.append_cons]
      exact ih h.visit

/-- A directory is its files. -/
theorem visitDir_eq (s : Scan) (rawDir : String) :
    visitDir D s rawDir = (filesOf D rawDir).foldl (visit D) s := by
  rw [visitDir, filesOf]
  by_cases hn : normalizeDir D rawDir = ""
  · simp [hn]
  · cases D.entryInfoList (normalizeDir D rawDir) <;> simp [hn]

/-- **The scan of all directories is the scan of the files visited.** -/
theorem foldl_visitDir (searchDirs : List String) (s : Scan) :
    searchDirs.foldl (visitDir D) s = (visited D searchDirs).foldl (visit D) s := by
  induction searchDirs generalizing s with
  | nil => rfl
  | cons rawDir searchDirs ih =>
      rw [List.foldl_cons, ih, visitDir_eq, visited, visited, List.flatMap_cons,
        List.foldl_append]

theorem holds_discover (searchDirs : List String) :
    Scan.Holds D (searchDirs.foldl (visitDir D) {}) (visited D searchDirs) := by
  have h := holds_foldl (holds_init (D := D)) (visited D searchDirs)
  rw [← foldl_visitDir] at h
  exact h

/-- **Discovery keeps the first valid manifest of each id** and nothing
else. Ids are distinct; a valid manifest is returned unless a valid one of
its id comes before it, whatever unreadable or invalid files do; and every
file visited is returned or warned of. -/
theorem discover_precedence (D : DiscoveryPlatform) (searchDirs : List String) :
    (discover D searchDirs).manifests = firsts ProviderManifest.id (validManifests D searchDirs) ∧
      ((discover D searchDirs).manifests.map ProviderManifest.id).Nodup ∧
      (∀ pre file post m, visited D searchDirs = pre ++ file :: post →
        validManifest D file = some m →
        (∀ earlier ∈ pre, ∀ m', validManifest D earlier = some m' → m'.id ≠ m.id) →
        m ∈ (discover D searchDirs).manifests) ∧
      (visited D searchDirs).length =
        (discover D searchDirs).manifests.length + (discover D searchDirs).warnings.length := by
  have h := holds_discover (D := D) searchDirs
  have hsieve : (discover D searchDirs).manifests =
      sieve (fun a b => a.id = b.id) (validManifests D searchDirs) := h.manifests
  refine ⟨hsieve.trans (sieve_eq_firsts _), ?_, ?_, h.counts⟩
  · rw [hsieve, List.Nodup, List.pairwise_map]
    exact pairwise_sieve _
  · intro pre file post m hsplit hm hfirst
    have hvalid : validManifests D searchDirs =
        pre.filterMap (validManifest D) ++ [m] ++ post.filterMap (validManifest D) := by
      simp [validManifests, hsplit, hm]
    have hnot : ¬ ∃ y ∈ sieve (fun a b => a.id = b.id) (pre.filterMap (validManifest D)),
        y.id = m.id := by
      rintro ⟨y, hy, hym⟩
      obtain ⟨earlier, he, hye⟩ := List.mem_filterMap.1 ((sieve_sublist _).subset hy)
      exact hfirst earlier he y hye hym
    rw [hsieve, hvalid]
    refine (isPrefix_sieve _ _).subset ?_
    rw [sieve_snoc, sift_of_not_exists hnot]
    simp

end ProviderDiscovery

end BbAuth
