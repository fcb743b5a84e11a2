/-
  WALKS: a request path stays below its root.

  A COMPONENT is a name that stays in its directory: it has no slash and is not two dots.  What is
  BELOW a root is the root itself, and what components lead to from there (`Below`).

  The walk along a request path stays below the root whichever way it names a candidate: as the
  request spells it, as an index file, with an ignored extension, or as a sibling found in a
  directory (`resolveSegment_below`, `traverseFrom_below`).  A segment that is no component is
  refused before anything is looked up, so a path with such a segment leads nowhere
  (`traverseFrom_of_insecure`).

  Numbered structure:
    §1  components, and what is below a root
    §2  what a root and a file system promise
    §3  one segment
    §4  a whole path
-/
import StaticSite.Proofs.Site.Candidates

namespace StaticSite.Site

/-! ## §1 Components -/

/-- A name that stays in its directory. -/
def IsComponent (name : String) : Prop := '/' ∉ name.toList ∧ name ≠ ".."

/-- What components lead to from a root. -/
inductive Below (root : FilePath) : FilePath → Prop
  | root : Below root root
  | join {dir : FilePath} {name : String} (below : Below root dir) (component : IsComponent name) :
      Below root (dir.join name)

/-- The test of the program is whether a segment is a component. -/
theorem isInsecure_eq_false_iff {segment : String} : isInsecure segment = false ↔ IsComponent segment := by
  rw [isInsecure, Bool.or_eq_false_iff, beq_eq_false_iff_ne, IsComponent, and_comm,
    ← Bool.not_eq_true, List.contains_iff_mem]

/-! ## §2 Promises -/

/-- The rules of a root name components only: neither an index name nor a name with an ignored
    extension leaves a directory. -/
structure Root.Tame (root : Root) : Prop where
  index : ∀ name ∈ root.indexNames, IsComponent name
  extension : ∀ ext ∈ root.ignoredExts, '/' ∉ ext.toList ∧ ext ≠ "."

/-- The names that a directory lists have no slash, and none of them is the directory above. -/
def PlainNames {F : Type} (fs : FileSystem F) : Prop :=
  ∀ path names, fs.list path = .ok names →
    ∀ name ∈ names, (0x2F : UInt8) ∉ name ∧ name ≠ [0x2E, 0x2E]

/-- A segment with an ignored extension behind it is still a component: only a dot behind a dot would
    make two. -/
theorem isComponent_append {segment ext : String} (hsegment : IsComponent segment)
    (some : segment ≠ "") (hext : '/' ∉ ext.toList) (dot : ext ≠ ".") (present : ext ≠ "") :
    IsComponent (segment ++ ext) := by
  refine ⟨?_, fun dots => ?_⟩
  · rw [String.toList_append, List.mem_append]
    exact not_or.2 ⟨hsegment.1, hext⟩
  · have chars : segment.toList ++ ext.toList = ['.', '.'] := by
      rw [← String.toList_append, dots]
      rfl
    -- two dots: where the first name ends among them
    rcases List.append_eq_cons_iff.1 chars with ⟨nothing, -⟩ | ⟨rest, hfirst, hrest⟩
    · exact some (String.toList_eq_nil_iff.1 nothing)
    · rcases List.append_eq_cons_iff.1 hrest.symm with ⟨-, hdot⟩ | ⟨rest', -, nothing⟩
      · exact dot (String.toList_inj.1 hdot)
      · exact present (String.toList_eq_nil_iff.1 (List.append_eq_nil_iff.1 nothing.symm).2)

/-- Only its own bytes give an ASCII text. -/
theorem eq_of_decodeLossy {bytes spelled : Text.Bytes} {text : String}
    (h : String.ofList (Text.decodeLossy bytes) = text)
    (ascii : text.toList.all (fun c => c.toNat < 0x80) = true)
    (numbers : spelled.map UInt8.toNat = text.toList.map Char.toNat) : bytes = spelled := by
  subst h
  rw [String.toList_ofList] at ascii numbers
  have each : ∀ c ∈ Text.decodeLossy bytes, c.toNat < 0x80 :=
    fun c hc => of_decide_eq_true (List.all_eq_true.1 ascii c hc)
  have same : bytes.map UInt8.toNat = spelled.map UInt8.toNat :=
    (Text.eq_of_ascii_decodeLossy each).trans numbers.symm
  exact (List.map_inj_right fun _ _ => UInt8.toNat_inj.1).1 same

/-- The name of an entry, as text, is a component. -/
theorem isComponent_of_entry {name : Text.Bytes} (slash : (0x2F : UInt8) ∉ name)
    (dots : name ≠ [0x2E, 0x2E]) : IsComponent (String.ofList (Text.decodeLossy name)) := by
  constructor
  · intro h
    rw [String.toList_ofList] at h
    obtain ⟨b, hb, hnumber⟩ := Text.byte_of_mem_decodeLossy (by decide) h
    have : b = 0x2F := UInt8.toNat_inj.1 hnumber
    exact slash (this ▸ hb)
  · intro h
    exact dots (eq_of_decodeLossy h (by decide) (by decide))

/-- The names that a directory is searched for are components. -/
theorem isComponent_of_sortedNames {F : Type} {fs : FileSystem F} (plain : PlainNames fs)
    {path : FilePath} {names : List String} (h : fs.sortedNames path = .ok names) {name : String}
    (hname : name ∈ names) : IsComponent name := by
  obtain ⟨entries, hlist, entry, hentry, rfl⟩ := (mem_sortedNames h).1 hname
  obtain ⟨slash, dots⟩ := plain path entries hlist entry hentry
  exact isComponent_of_entry slash dots

/-! ## §3 One segment -/

section

variable {F : Type} {fs : FileSystem F} {root : Root}

theorem below_of_child {dir n : Node} {name : String} (below : Below root.path dir.path)
    (component : IsComponent name) (h : child? fs dir name = some n) : Below root.path n.path := by
  obtain ⟨s, -, rfl⟩ := Option.map_eq_some_iff.1 h
  exact .join below component

theorem below_of_indexFile {dir n : Node} {name : String} (below : Below root.path dir.path)
    (component : IsComponent name) (h : indexFile? fs dir name = some n) :
    Below root.path n.path := by
  obtain ⟨s, -, -, rfl⟩ := (indexFile?_eq_some_iff name n).1 h
  exact .join below component

theorem below_of_findIndex (tame : root.Tame) {dir n : Node} (below : Below root.path dir.path)
    (h : findIndex? fs root dir = some n) : Below root.path n.path := by
  obtain ⟨name, hname, h⟩ := List.exists_of_findSome?_eq_some h
  exact below_of_indexFile below (tame.index name hname) h

theorem below_of_findSibling (tame : root.Tame) (plain : PlainNames fs) {dir n : Node}
    {segment : String} (below : Below root.path dir.path) (component : IsComponent segment)
    (some : segment ≠ "") (h : findSibling? fs root dir segment = .some n) :
    Below root.path n.path := by
  obtain ⟨ext, hext, h⟩ := List.exists_of_findSome?_eq_some h
  cases (sibling?_eq_some_iff ext n).1 h with
  | written present _ entry =>
    obtain ⟨s, -, rfl⟩ := entry
    obtain ⟨slash, dot⟩ := tame.extension ext hext
    exact .join below (isComponent_append component some slash dot present)
  | any sibling entry _ =>
    obtain ⟨s, -, rfl⟩ := entry
    obtain ⟨names, hlist, bytes, hbytes, rfl⟩ := sibling.listed
    obtain ⟨slash, dots⟩ := plain dir.path names hlist bytes hbytes
    exact .join below (isComponent_of_entry slash dots)

theorem node?_dispatch (n : Node) : (dispatch root n).node? = some n := by
  unfold dispatch
  split
  · rfl
  · rfl

/-- What a segment leads to from below the root is below the root. -/
theorem resolveSegment_below (tame : root.Tame) (plain : PlainNames fs) {dir n : Node}
    {segment : String} (below : Below root.path dir.path)
    (h : (resolveSegment fs root dir segment).node? = some n) : Below root.path n.path := by
  unfold resolveSegment at h
  split at h
  next => cases h
  next =>
    split at h
    next => cases h
    next secure =>
      have component := isInsecure_eq_false_iff.1 (Bool.eq_false_iff.2 secure)
      split at h
      next =>
        -- a blank segment: an index file, or the directory itself
        split at h
        next n' hindex =>
          rw [node?_dispatch] at h
          cases h
          exact below_of_findIndex tame below hindex
        next =>
          cases h
          exact below
      next some =>
        -- a name: an entry of the directory, or a sibling of what it spells
        split at h
        next n' hchild =>
          rw [node?_dispatch] at h
          cases h
          exact below_of_child below component hchild
        next =>
          split at h
          next n' hsibling =>
            rw [node?_dispatch] at h
            cases h
            exact below_of_findSibling tame plain below component some hsibling
          next => cases h

/-- A segment that is no component leads nowhere. -/
theorem resolveSegment_of_insecure (dir : Node) {segment : String} (insecure : isInsecure segment = true) :
    (resolveSegment fs root dir segment).node? = none := by
  unfold resolveSegment
  rw [if_pos insecure]
  split
  · rfl
  · rfl

/-! ## §4 A whole path -/

/-- A segment that is not the last. -/
theorem traverseFrom_cons_cons (start : Node) (segment following : String) (rest : List String) :
    traverseFrom fs root start (segment :: following :: rest) =
      match resolveSegment fs root start segment with
      | .node next => traverseFrom fs root next (following :: rest)
      | .insecure => blocked segment
      | _ => pure .notFound := rfl

/-- The walk stays below the root, from one segment to the next. -/
theorem traverseFrom_below (tame : root.Tame) (plain : PlainNames fs) {start n : Node}
    {segments : List String} (below : Below root.path start.path)
    (h : (traverseFrom fs root start segments).value.node? = some n) : Below root.path n.path := by
  fun_induction traverseFrom fs root start segments with
  | case1 start =>
    -- the path is at its end
    cases h
    exact below
  | case2 start last insecure => cases h
  | case3 start last outcome =>
    exact resolveSegment_below tame plain below h
  | case4 start segment rest more next hnext ih =>
    exact ih (resolveSegment_below tame plain below (by rw [hnext]; rfl)) h
  | case5 start segment rest more insecure => cases h
  | case6 start segment rest more _ _ => cases h

/-- A path with a segment that is no component leads nowhere, whatever there is. -/
theorem traverseFrom_of_insecure (start : Node) {segments : List String} {segment : String}
    (hsegment : segment ∈ segments) (insecure : isInsecure segment = true) :
    (traverseFrom fs root start segments).value.node? = none := by
  fun_induction traverseFrom fs root start segments with
  | case1 start => cases hsegment
  | case2 start last _ => rfl
  | case3 start last outcome =>
    rw [List.mem_singleton] at hsegment
    subst hsegment
    exact resolveSegment_of_insecure start insecure
  | case4 start first rest more next hnext ih =>
    rcases List.mem_cons.1 hsegment with rfl | hrest
    · -- the walk does not get past this segment
      have nowhere : (resolveSegment fs root start _).node? = none :=
        resolveSegment_of_insecure start insecure
      rw [hnext] at nowhere
      cases nowhere
    · exact ih hrest
  | case5 start first rest more _ => rfl
  | case6 start first rest more _ _ => rfl

end

end StaticSite.Site
