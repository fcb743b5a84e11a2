/-
  NAMES OF A TREE: a path that leads to something is made of names that are there.

  A walk looks every component of its path up, and goes on from what it found; the two dots and the
  single dot alone are not looked up.  So where a walk gets to its end, each component but these is the
  name of an entry (`hasName_of_walk`).  And a walk fails with a refusal of the system only, never with a
  text of its own (`walk_refuses`).

  A tree whose names end no line is a file system of lines therefore (`Tree.ofLines`).

  Numbered structure:
    §1  names
    §2  refusals
    §3  lines
-/
import StaticSite.Files.Tree
import StaticSite.Proofs.Log.Notes
import StaticSite.Proofs.Text.Marks

namespace StaticSite.Files

open Text (Bytes IsLine)

variable {t : Tree}

/-! ## §1 Names -/

/-- A directory of the tree has an entry of this name. -/
def Tree.HasName (t : Tree) (name : Bytes) : Prop :=
  ∃ h access entries, t.node h = .directory access entries ∧ name ∈ entries.map Prod.fst

/-- A name under which a directory finds something is the name of an entry. -/
theorem hasName_of_found {dir next : Handle} {access : Access} {entries : List (Bytes × Handle)}
    {name : Bytes} (hnode : t.node dir = .directory access entries)
    (found : entry? entries name = some next) : t.HasName name := by
  obtain ⟨e, he, -⟩ := Option.map_eq_some_iff.1 found
  have same : e.1 = name := by simpa using List.find?_some he
  exact ⟨dir, access, entries, hnode, same ▸ List.mem_map_of_mem (List.mem_of_find?_eq_some he)⟩

/-- A walk that gets to its end has looked every name up. -/
theorem hasName_of_walk {privileged : Bool} {links : Nat} {chain : List Handle} {at_ found : Handle}
    {components : List Bytes} (h : t.walk privileged links chain at_ components = .ok found) :
    ∀ name ∈ components, name = here ∨ name = above ∨ t.HasName name := by
  fun_induction Tree.walk t privileged links chain at_ components with
  | case1 => exact nofun
  | case2 => cases h
  | case3 links chain at_ rest access entries _ _ ih =>
    exact List.forall_mem_cons.2 ⟨.inl rfl, ih h⟩
  | case4 links at_ rest access entries _ _ parent others _ ih =>
    exact List.forall_mem_cons.2 ⟨.inr (.inl rfl), ih h⟩
  | case5 links at_ rest access entries _ _ _ ih =>
    exact List.forall_mem_cons.2 ⟨.inr (.inl rfl), ih h⟩
  | case6 => cases h
  | case7 => cases h
  | case8 => cases h
  | case9 chain at_ name rest access entries hnode _ _ _ _ next hnext target _ links onwards _ ih =>
    -- what is left of the path is walked behind the components of the link
    have later := (List.forall_mem_append.1 (ih h)).2
    exact List.forall_mem_cons.2 ⟨.inr (.inr (hasName_of_found hnode hnext)), later⟩
  | case10 chain at_ name rest access entries hnode _ _ _ _ next hnext target _ links onwards _ ih =>
    have later := (List.forall_mem_append.1 (ih h)).2
    exact List.forall_mem_cons.2 ⟨.inr (.inr (hasName_of_found hnode hnext)), later⟩
  | case11 links chain at_ name rest access entries hnode _ _ _ _ next hnext _ _ _ ih =>
    exact List.forall_mem_cons.2 ⟨.inr (.inr (hasName_of_found hnode hnext)), ih h⟩
  | case12 links chain at_ name rest access entries hnode _ _ _ _ next hnext last _ _ =>
    cases List.isEmpty_iff.1 last
    exact List.forall_mem_singleton.2 (.inr (.inr (hasName_of_found hnode hnext)))
  | case13 => cases h
  | case14 => cases h

/-! ## §2 Refusals -/

theorem walk_refuses {privileged : Bool} {links : Nat} {chain : List Handle} {at_ : Handle}
    {components : List Bytes} {message : String} :
    t.walk privileged links chain at_ components ≠ .error (.device message) := by
  fun_induction Tree.walk t privileged links chain at_ components
  -- the walk ends here, or goes on and is refused later
  all_goals first | assumption | exact nofun

theorem find_refuses {path : FilePath} {message : String} :
    t.find path ≠ .error (.device message) := by
  intro h
  dsimp only [Tree.find] at h
  split at h
  next => cases h
  split at h
  next => cases h
  split at h
  next => cases h
  split at h
  next e he =>
    cases h
    exact walk_refuses he
  next found _ =>
    split at h
    next => cases h
    next => split at h <;> cases h

theorem read_refuses {node : Node} {message : String} : node.read ≠ .error (.device message) := by
  cases node with
  | directory access entries =>
    dsimp only [Node.read]
    split <;> exact nofun
  | file access content modified =>
    dsimp only [Node.read]
    split <;> exact nofun
  | link target => exact nofun
  | socket => exact nofun

/-- Nothing that is asked of a tree fails with a text of its own. -/
theorem Tree.refusal {e : IoError} (h : t.system.Refuses e) (message : String) :
    e ≠ .device message := by
  rintro rfl
  cases h with
  | @stat path h =>
    dsimp only [Tree.system] at h
    cases hfind : t.find path with
    | ok found =>
      rw [hfind] at h
      cases h
    | error e =>
      rw [hfind] at h
      cases h
      exact find_refuses hfind
  | list h =>
    rcases Range.bind_eq_error_iff.1 h with nowhere | ⟨found, -, refused⟩
    · exact find_refuses nowhere
    · split at refused <;> cases refused
  | openFile h =>
    rcases Range.bind_eq_error_iff.1 h with nowhere | ⟨found, -, refused⟩
    · exact find_refuses nowhere
    · rcases Range.bind_eq_error_iff.1 refused with unread | ⟨_, -, ⟨⟩⟩
      exact read_refuses unread
  | contents h =>
    rcases Range.bind_eq_error_iff.1 h with nowhere | ⟨found, -, unread⟩
    · exact find_refuses nowhere
    · exact read_refuses unread

/-! ## §3 Lines -/

/-- The wording of a refusal of the system is a line. -/
theorem isLine_of_refusal {e : IoError} (h : ∀ message, e ≠ .device message) : IsLine e.message := by
  cases e with
  | device message => exact absurd rfl (h message)
  | _ => decide

/-- A path that leads to something is a line where all names are. -/
theorem isLine_of_find (names : ∀ name, t.HasName name → 10 ∉ name ∧ 13 ∉ name) {path : FilePath}
    {found : Handle} (h : t.find path = .ok found) : IsLine path := by
  dsimp only [Tree.find] at h
  split at h
  next => cases h
  split at h
  next => cases h
  split at h
  next => cases h
  split at h
  next => cases h
  next end_ hwalk =>
    have free : ∀ name ∈ componentsOf (Text.utf8 path), 10 ∉ name ∧ 13 ∉ name := by
      intro name hname
      rcases hasName_of_walk hwalk name hname with rfl | rfl | known
      · decide
      · decide
      · exact names name known
    -- a character of the path is a slash, or is in one of its components
    have differs {c : Char} {d : Char} (hc : c ∈ path.toList) (ascii : d.toNat < 0x80)
        (solid : UInt8.ofNat d.toNat ≠ slash) (none : ∀ name ∈ componentsOf (Text.utf8 path),
          UInt8.ofNat d.toNat ∉ name) : c ≠ d := by
      rintro rfl
      obtain ⟨name, hname, mem⟩ :=
        Text.exists_field_of_mem ((Text.mem_encode_iff ascii).2 hc) solid
      have present : (!name.isEmpty) = true := by
        rw [Bool.not_eq_true', ← Bool.not_eq_true, List.isEmpty_iff]
        exact List.ne_nil_of_mem mem
      exact none name (List.mem_filter.2 ⟨hname, present⟩) mem
    intro c hc
    rw [Text.isLineChar, Bool.and_eq_true, bne_iff_ne, bne_iff_ne]
    exact ⟨differs hc (by decide) (by decide) fun name hname => (free name hname).1,
      differs hc (by decide) (by decide) fun name hname => (free name hname).2⟩

/-- The files of a tree whose names hold neither a line feed nor a carriage return. -/
theorem Tree.ofLines (names : ∀ name, t.HasName name → 10 ∉ name ∧ 13 ∉ name) :
    t.system.OfLines where
  paths {path s} h := by
    dsimp only [Tree.system] at h
    cases hfind : t.find path with
    | ok found => exact isLine_of_find names hfind
    | error e =>
      rw [hfind] at h
      cases h
  names h := by
    obtain ⟨found, -, listed⟩ := Range.bind_eq_ok_iff.1 h
    split at listed
    next entries hnode =>
      cases listed
      exact fun name hname => names name ⟨found, .full, entries, hnode, hname⟩
    next => cases listed
    next => cases listed
  refusals h := isLine_of_refusal (Tree.refusal h)

end StaticSite.Files
