/-
  ATTEMPTS: what becomes of a path that tries to leave a directory.

  Two dots, and a segment with a slash in it, would lead out of the directory they are looked up in
  (`Leaves`).  A directory refuses such a segment, whatever there is in it, and anything else has
  nothing below it (`resolveSegment_of_leaves`).

  So the first such segment of a path is refused, and reported once, if the segments in front of it
  lead to a directory; what stands behind it is not looked at.  If they lead to none, the walk has
  ended before, and says nothing (`traverse_of_attempt`).

  Numbered structure:
    §1  segments that leave
    §2  how far a walk gets
    §3  paths with such a segment
-/
import StaticSite.Proofs.Site.Directories

namespace StaticSite.Site

/-! ## §1 Segments that leave -/

/-- A segment that would lead out of its directory. -/
def Leaves (segment : String) : Prop := segment = ".." ∨ '/' ∈ segment.toList

instance (segment : String) : Decidable (Leaves segment) :=
  inferInstanceAs (Decidable (segment = ".." ∨ '/' ∈ segment.toList))

theorem isInsecure_eq_true_iff {segment : String} : isInsecure segment = true ↔ Leaves segment := by
  rw [isInsecure, Bool.or_eq_true, beq_iff_eq, List.contains_iff_mem, Leaves]

/-- An outcome that refuses a segment, and reports that and nothing else. -/
structure Blocks (outcome : Logged Resolution) (segment : String) : Prop where
  value : outcome.value = .insecure
  report : outcome.notes.map Note.text
    = ["[WARN] Blocked path traversal segment " ++ Text.quoted segment]

theorem blocks_blocked (segment : String) : Blocks (blocked segment) segment := by
  have text : (Note.mk .warning ("Blocked path traversal segment " ++ Text.quoted segment)).text
      = "[WARN] Blocked path traversal segment " ++ Text.quoted segment := by
    rw [Note.text, ← String.append_assoc]
    rfl
  exact ⟨rfl, congrArg (fun text => [text]) text⟩

variable {F : Type} (fs : FileSystem F) (root : Root)

/-- Such a segment is refused in a directory, and not found in anything else. -/
theorem resolveSegment_of_leaves (n : Node) {segment : String} (leaves : Leaves segment) :
    resolveSegment fs root n segment = if n.isDir then .insecure else .notFound := by
  unfold resolveSegment
  rw [isInsecure_eq_true_iff.2 leaves]
  cases n.isDir with
  | true => rfl
  | false => rfl

theorem isComponent_of_stays {segment : String} (stays : ¬Leaves segment) : IsComponent segment :=
  isInsecure_eq_false_iff.1 (Bool.eq_false_iff.2 (mt isInsecure_eq_true_iff.1 stays))

/-- No other segment is refused. -/
theorem resolveSegment_ne_insecure (n : Node) {segment : String} (stays : ¬Leaves segment) :
    resolveSegment fs root n segment ≠ .insecure := by
  cases isDir : n.isDir with
  | false =>
    rw [resolveSegment_of_file fs root isDir]
    exact nofun
  | true =>
    rw [resolveSegment_eq isDir (isComponent_of_stays stays)]
    split
    next found _ => exact dispatch_ne_insecure found
    next =>
      split
      next => exact nofun
      next => exact nofun

/-! ## §2 How far a walk gets -/

/-- The directory that a row of segments leads to, if it leads to one. -/
def LeadsToDirectory (segments : List String) : Prop :=
  ∃ n, (traverse fs root segments).value = .node n ∧ n.isDir = true

variable {fs root}

/-- At a segment that leaves its directory the walk ends. -/
theorem traverseFrom_of_leaves (n : Node) {segment : String} (leaves : Leaves segment)
    (rest : List String) :
    traverseFrom fs root n (segment :: rest)
      = if n.isDir then blocked segment else pure .notFound := by
  have outcome := resolveSegment_of_leaves fs root n leaves
  cases rest with
  | nil =>
    rw [traverseFrom, outcome]
    cases n.isDir with
    | true => rfl
    | false => rfl
  | cons following rest =>
    rw [traverseFrom_cons_cons, outcome]
    cases n.isDir with
    | true => rfl
    | false => rfl

/-- A walk that does not get to a node in front of a segment does not get to that segment. -/
theorem traverseFrom_of_astray {start : Node} {front : List String}
    (stays : ∀ segment ∈ front, ¬Leaves segment)
    (astray : ∀ n, (traverseFrom fs root start front).value ≠ .node n) (segment : String)
    (rest : List String) :
    traverseFrom fs root start (front ++ segment :: rest) = pure .notFound := by
  induction front generalizing start with
  | nil => exact absurd rfl (astray start)
  | cons first others ih =>
    obtain ⟨hfirst, hothers⟩ := List.forall_mem_cons.1 stays
    obtain ⟨following, rest', hrest⟩ : ∃ following rest', others ++ segment :: rest = following :: rest' :=
      List.exists_cons_of_ne_nil (List.append_ne_nil_of_right_ne_nil _ (List.cons_ne_nil _ _))
    rw [List.cons_append, hrest, traverseFrom_cons_cons]
    cases houtcome : resolveSegment fs root start first with
    | node next =>
      -- the walk goes on, and is astray behind this node
      have reached : (traverseFrom fs root start [first]).value = .node next :=
        (value_traverseFrom_singleton start first).trans houtcome
      have further : ∀ n, (traverseFrom fs root next others).value ≠ .node n := by
        intro n hn
        exact astray n ((value_traverseFrom_append reached others).trans hn)
      have nothing := ih hothers further
      rw [hrest] at nothing
      exact nothing
    | insecure => exact absurd houtcome (resolveSegment_ne_insecure fs root start hfirst)
    | listing n => rfl
    | processed processor n => rfl
    | notFound => rfl

/-! ## §3 Paths with such a segment -/

/-- The first segment of a path that leaves its directory. -/
def firstLeaving? (segments : List String) : Option String := segments.find? fun s => Leaves s

/-- The segments in front of it. -/
def frontOf (segments : List String) : List String := segments.takeWhile fun s => ¬Leaves s

theorem stays_of_mem_frontOf {segments : List String} : ∀ s ∈ frontOf segments, ¬Leaves s := by
  intro s hs
  exact of_decide_eq_true (List.all_eq_true.1 List.all_takeWhile s hs)

theorem exists_firstLeaving {segments : List String} (attempt : ∃ s ∈ segments, Leaves s) :
    ∃ segment rest, segments = frontOf segments ++ segment :: rest ∧
      firstLeaving? segments = some segment ∧ Leaves segment := by
  induction segments with
  | nil =>
    obtain ⟨s, hs, -⟩ := attempt
    cases hs
  | cons first others ih =>
    by_cases leaves : Leaves first
    · have here : frontOf (first :: others) = [] := by simp [frontOf, leaves]
      have found : firstLeaving? (first :: others) = some first := by simp [firstLeaving?, leaves]
      rw [here]
      exact ⟨first, others, rfl, found, leaves⟩
    · have further : frontOf (first :: others) = first :: frontOf others := by simp [frontOf, leaves]
      have found : firstLeaving? (first :: others) = firstLeaving? others := by
        simp [firstLeaving?, leaves]
      have later : ∃ s ∈ others, Leaves s := by
        obtain ⟨s, hs, hleaves⟩ := attempt
        rcases List.mem_cons.1 hs with rfl | hs
        · exact absurd hleaves leaves
        · exact ⟨s, hs, hleaves⟩
      obtain ⟨segment, rest, whole, hsegment⟩ := ih later
      rw [further, found]
      exact ⟨segment, rest, congrArg (first :: ·) whole, hsegment⟩

/-- Of the segments of a path that leave their directory the first is what counts.  If the segments in
    front of it lead to a directory, it is refused, and reported once; else the walk has ended before
    it, and nothing is found or reported.  Either way the path leads to no node.  Each of them is
    refused by every directory, whatever there is in it, and is not found below anything else. -/
theorem traverse_of_attempt (fs : FileSystem F) (root : Root) {segments : List String}
    (attempt : ∃ s ∈ segments, Leaves s) :
    (∃ segment, firstLeaving? segments = some segment ∧
      (LeadsToDirectory fs root (frontOf segments) → Blocks (traverse fs root segments) segment) ∧
      (¬LeadsToDirectory fs root (frontOf segments) →
        traverse fs root segments = pure .notFound)) ∧
    ∀ segment ∈ segments, Leaves segment → ∀ n,
      resolveSegment fs root n segment = if n.isDir then .insecure else .notFound := by
  refine ⟨?_, fun segment _ leaves n => resolveSegment_of_leaves fs root n leaves⟩
  obtain ⟨segment, rest, whole, hfirst, leaves⟩ := exists_firstLeaving attempt
  have stays : ∀ s ∈ frontOf segments, ¬Leaves s := stays_of_mem_frontOf
  generalize frontOf segments = front at whole stays ⊢
  subst whole
  refine ⟨segment, hfirst, ?_, ?_⟩
  · rintro ⟨n, reached, isDir⟩
    rw [traverse, traverseFrom_append reached, traverseFrom_of_leaves n leaves, if_pos isDir]
    exact blocks_blocked segment
  · intro nowhere
    by_cases reached : ∃ n, (traverse fs root front).value = .node n
    · -- the walk ends at a node that has nothing below it
      obtain ⟨n, hn⟩ := reached
      have file : ¬n.isDir = true := fun isDir => nowhere ⟨n, hn, isDir⟩
      rw [traverse, traverseFrom_append hn, traverseFrom_of_leaves n leaves, if_neg file]
    · exact traverseFrom_of_astray stays (not_exists.1 reached) segment rest

/-- The directory above, asked for from a directory that is there; what is behind it is not. -/
theorem attempt_in_directory :
    (∃ s ∈ ["d", "..", "a/b"], Leaves s) ∧
      Blocks (traverse deepPage (Root.usual "/srv") ["d", "..", "a/b"]) ".." := by
  have attempt : ∃ s ∈ ["d", "..", "a/b"], Leaves s := by decide
  refine ⟨attempt, ?_⟩
  obtain ⟨⟨segment, hfirst, blocks, -⟩, -⟩ :=
    traverse_of_attempt deepPage (Root.usual "/srv") attempt
  have first : firstLeaving? ["d", "..", "a/b"] = some ".." := by decide
  have directory : LeadsToDirectory deepPage (Root.usual "/srv") (frontOf ["d", "..", "a/b"]) :=
    ⟨⟨"/srv/d", true⟩, by decide, rfl⟩
  cases hfirst.symm.trans first
  exact blocks directory

/-- Behind what is missing, behind a blank segment and behind a file such a segment is neither refused
    nor reported. -/
theorem attempt_may_go_unreported :
    (∀ front ∈ [["x"], [""], ["d", "s", "i.html"]],
      (traverse deepPage (Root.usual "/srv") (front ++ [".."])).value = .notFound ∧
      (traverse deepPage (Root.usual "/srv") (front ++ [".."])).notes = []) ∧
    ¬∀ (fs : FileSystem Unit) (root : Root) (segments : List String),
      (∃ segment ∈ segments, Leaves segment) → (traverse fs root segments).value = .insecure := by
  have outcomes : ∀ front ∈ [["x"], [""], ["d", "s", "i.html"]],
      (traverse deepPage (Root.usual "/srv") (front ++ [".."])).value = .notFound ∧
      (traverse deepPage (Root.usual "/srv") (front ++ [".."])).notes = [] := by decide
  refine ⟨outcomes, ?_⟩
  intro h
  have refused := h deepPage (Root.usual "/srv") ["x", ".."] ⟨"..", by decide, by decide⟩
  have missed := (outcomes ["x"] List.mem_cons_self).1
  cases missed.symm.trans refused

end StaticSite.Site
