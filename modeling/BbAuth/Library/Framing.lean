import Mathlib.Data.List.Basic
/-!
# Library — streams cut into segments by a separator

A stream is a list of elements, one of which is the separator. Its
`segments` are the stretches that a separator ends, its `residue` is what
follows the last one; both are read off `List.splitOn`. `drain` is the loop
a reader runs over its buffer: while there is a separator, take the first
segment off and serve it. What a reader that keeps the residue has served
does not depend on where the stream was cut (`segments_append`,
`residue_append`).
-/

namespace BbAuth

namespace Framing

variable {α σ : Type} [DecidableEq α] {nl : α} {s t seg : List α}

/-- The segments of a stream: what stands before each separator. -/
def segments (nl : α) (s : List α) : List (List α) := (s.splitOn nl).dropLast

/-- What follows the last separator of a stream. -/
def residue (nl : α) (s : List α) : List α :=
  (s.splitOn nl).getLast (List.splitOn_ne_nil nl s)

theorem segments_of_notMem (h : nl ∉ s) : segments nl s = [] := by
  rw [segments, List.splitOn_eq_singleton h]
  rfl

theorem residue_of_notMem (h : nl ∉ s) : residue nl s = s := by
  simp only [residue, List.splitOn_eq_singleton h, List.getLast_singleton]

/-- The first segment of a stream is the stretch before its first
separator. -/
theorem segments_append_cons (h : nl ∉ seg) :
    segments nl (seg ++ nl :: s) = seg :: segments nl s := by
  rw [segments, List.splitOn_append_cons_self_of_not_mem h,
    List.dropLast_cons_of_ne_nil (List.splitOn_ne_nil nl s), segments]

theorem residue_append_cons (h : nl ∉ seg) :
    residue nl (seg ++ nl :: s) = residue nl s := by
  simp only [residue, List.splitOn_append_cons_self_of_not_mem h]
  exact List.getLast_cons (List.splitOn_ne_nil nl s)

variable (nl) in
/-- **The induction rule of framing.** A stream has no separator, or is a
segment, its separator and a stream. -/
theorem stream_induction {P : List α → Prop} (tail : ∀ s, nl ∉ s → P s)
    (line : ∀ seg s, nl ∉ seg → P s → P (seg ++ nl :: s)) : ∀ s, P s := by
  intro s
  induction hn : s.length using Nat.strongRecOn generalizing s with
  | ind n ih =>
      by_cases h : nl ∈ s
      · obtain ⟨seg, rest, rfl, hseg⟩ := List.eq_append_cons_of_mem h
        refine line seg rest hseg (ih _ ?_ rest rfl)
        simp only [List.length_append, List.length_cons] at hn
        omega
      · exact tail s h

/-! ## What the two say of the stream -/

theorem notMem_residue : nl ∉ residue nl s := by
  induction s using stream_induction nl with
  | tail s h => rwa [residue_of_notMem h]
  | line seg s h ih => rwa [residue_append_cons h]

theorem notMem_of_mem_segments (h : seg ∈ segments nl s) : nl ∉ seg := by
  induction s using stream_induction nl with
  | tail s hs => simp [segments_of_notMem hs] at h
  | line first s hs ih =>
      rw [segments_append_cons hs] at h
      rcases List.mem_cons.1 h with rfl | h
      · exact hs
      · exact ih h

variable (nl s) in
/-- **Nothing is lost**: the segments with their separators, then the
residue, are the stream. -/
theorem flatten_segments : (segments nl s).flatMap (· ++ [nl]) ++ residue nl s = s := by
  induction s using stream_induction nl with
  | tail s h => simp [segments_of_notMem h, residue_of_notMem h]
  | line seg s h ih =>
      rw [segments_append_cons h, residue_append_cons h, List.flatMap_cons]
      simp only [List.append_assoc, List.cons_append, List.nil_append, ih]

variable (nl s) in
theorem length_residue_le : (residue nl s).length ≤ s.length := by
  have h := congrArg List.length (flatten_segments nl s)
  rw [List.length_append] at h
  omega

/-- **Segments written one after the other** are the segments of the
stream, and nothing follows them. -/
theorem segments_flatMap {segs : List (List α)} (h : ∀ seg ∈ segs, nl ∉ seg) :
    segments nl (segs.flatMap (· ++ [nl])) = segs := by
  induction segs with
  | nil => exact segments_of_notMem List.not_mem_nil
  | cons seg segs ih =>
      rw [List.flatMap_cons, List.append_assoc, List.singleton_append,
        segments_append_cons (h seg List.mem_cons_self),
        ih fun seg' hseg' => h seg' (List.mem_cons_of_mem _ hseg')]

theorem residue_flatMap {segs : List (List α)} (h : ∀ seg ∈ segs, nl ∉ seg) :
    residue nl (segs.flatMap (· ++ [nl])) = [] := by
  induction segs with
  | nil => exact residue_of_notMem List.not_mem_nil
  | cons seg segs ih =>
      rw [List.flatMap_cons, List.append_assoc, List.singleton_append,
        residue_append_cons (h seg List.mem_cons_self)]
      exact ih fun seg' hseg' => h seg' (List.mem_cons_of_mem _ hseg')

/-- The pieces of a split, where every segment has been ended. -/
theorem splitOn_flatMap {segs : List (List α)} (h : ∀ seg ∈ segs, nl ∉ seg) :
    (segs.flatMap (· ++ [nl])).splitOn nl = segs ++ [[]] := by
  have hseg := segments_flatMap h
  have hres := residue_flatMap h
  rw [segments] at hseg
  rw [residue] at hres
  rw [← List.dropLast_append_getLast (List.splitOn_ne_nil nl _), hseg, hres]

/-! ## A record that is read off segments -/

omit [DecidableEq α] in
/-- **One field of a record** that is read segment by segment: only the
segments of its kind count. -/
theorem foldl_field {τ : Type} {read : σ → List α → σ} (field : σ → τ) (kind : List α → Bool)
    (update : τ → List α → τ)
    (h : ∀ s seg, field (read s seg) = if kind seg then update (field s) seg else field s)
    (segs : List (List α)) (s : σ) :
    field (segs.foldl read s) = (segs.filter kind).foldl update (field s) := by
  induction segs generalizing s with
  | nil => rfl
  | cons seg segs ih =>
      rw [List.foldl_cons, ih, h, List.filter_cons]
      split <;> rfl

/-! ## Cutting the stream -/

/-- **More of the stream** continues the residue. -/
theorem segments_append :
    segments nl (s ++ t) = segments nl s ++ segments nl (residue nl s ++ t) := by
  induction s using stream_induction nl with
  | tail s h => simp [segments_of_notMem h, residue_of_notMem h]
  | line seg s h ih =>
      rw [List.append_assoc, List.cons_append, segments_append_cons h, segments_append_cons h,
        residue_append_cons h, ih, List.cons_append]

theorem residue_append : residue nl (s ++ t) = residue nl (residue nl s ++ t) := by
  induction s using stream_induction nl with
  | tail s h => rw [residue_of_notMem h]
  | line seg s h ih =>
      rw [List.append_assoc, List.cons_append, residue_append_cons h, residue_append_cons h, ih]

/-! ## The loop -/

/-- **The loop of a reader**: while the buffer has a separator, serve what
stands before it and remove it with its separator. -/
def drain (nl : α) (serve : σ → List α → σ) (buffer : List α) (state : σ) : σ × List α :=
  match h : buffer.idxOf? nl with
  | none => (state, buffer)
  | some idx => drain nl serve (buffer.drop (idx + 1)) (serve state (buffer.take idx))
termination_by buffer.length
decreasing_by
  obtain ⟨hlt, -⟩ := List.idxOf?_eq_some_iff.1 h
  rw [List.length_drop]
  omega

variable {serve : σ → List α → σ} {state : σ}

theorem drain_of_notMem (h : nl ∉ s) : drain nl serve s state = (state, s) := by
  have hnone := List.idxOf?_eq_none_iff.2 h
  rw [drain]
  split
  · rfl
  next idx hsome =>
    rw [hnone] at hsome
    cases hsome

theorem idxOf?_append_cons (h : nl ∉ seg) :
    (seg ++ nl :: s).idxOf? nl = some seg.length := by
  refine List.idxOf?_eq_some_iff.2 ⟨by simp, by simp, fun j hj heq => h ?_⟩
  rw [List.getElem_append_left hj] at heq
  exact heq ▸ List.getElem_mem hj

theorem drain_append_cons (h : nl ∉ seg) :
    drain nl serve (seg ++ nl :: s) state = drain nl serve s (serve state seg) := by
  have hidx := idxOf?_append_cons (s := s) h
  rw [drain]
  split
  next hnone =>
    rw [hidx] at hnone
    cases hnone
  next idx hsome =>
    rw [hidx, Option.some.injEq] at hsome
    subst hsome
    rw [List.take_left, ← List.drop_drop, List.drop_left, List.drop_one, List.tail_cons]

/-- **The loop serves the segments in order and leaves the residue.** -/
theorem drain_eq :
    drain nl serve s state = ((segments nl s).foldl serve state, residue nl s) := by
  induction s using stream_induction nl generalizing state with
  | tail s h => rw [drain_of_notMem h, segments_of_notMem h, residue_of_notMem h, List.foldl_nil]
  | line seg s h ih =>
      rw [drain_append_cons h, ih, segments_append_cons h, residue_append_cons h, List.foldl_cons]

end Framing

end BbAuth
