/-
  NOTES: what a computation has to tell the error log.

  Serving a request writes nothing by itself.  It gives its value together with the notes it made
  on the way, in order; `Logged` is that pair, and sequencing appends the notes.

  It is a lawful monad: how a computation is cut into steps changes neither its value nor the
  order of its notes.
-/

namespace StaticSite

/-- How much a note matters. -/
inductive Level
  | debug
  | warning
  | error
deriving DecidableEq, Repr

/-- The mark of a level in the log. -/
def Level.label : Level → String
  | .debug => "DEBUG"
  | .warning => "WARN"
  | .error => "ERROR"

/-- An entry of the error log. -/
structure Note where
  level : Level
  message : String
deriving DecidableEq, Repr

/-- The entry as it is written. -/
def Note.text (n : Note) : String := "[" ++ n.level.label ++ "] " ++ n.message

/-- Whether the entry is written: those for diagnosis only if diagnosis is switched on. -/
def Note.isWritten (debug : Bool) (n : Note) : Bool := debug || n.level != .debug

/-- A value, and the notes made while it was computed. -/
structure Logged (α : Type) where
  value : α
  notes : List Note

namespace Logged

/-- Computes on with the value; the notes of both parts stand in order. -/
def andThen {α β : Type} (x : Logged α) (f : α → Logged β) : Logged β :=
  let y := f x.value
  ⟨y.value, x.notes ++ y.notes⟩

instance : Monad Logged where
  pure a := ⟨a, []⟩
  bind := andThen

@[simp] theorem value_pure {α : Type} (a : α) : (pure a : Logged α).value = a := rfl
@[simp] theorem notes_pure {α : Type} (a : α) : (pure a : Logged α).notes = [] := rfl

@[simp] theorem value_bind {α β : Type} (x : Logged α) (f : α → Logged β) :
    (x >>= f).value = (f x.value).value := rfl

@[simp] theorem notes_bind {α β : Type} (x : Logged α) (f : α → Logged β) :
    (x >>= f).notes = x.notes ++ (f x.value).notes := rfl

@[simp] theorem value_map {α β : Type} (f : α → β) (x : Logged α) : (f <$> x).value = f x.value :=
  rfl

@[simp] theorem notes_map {α β : Type} (f : α → β) (x : Logged α) : (f <$> x).notes = x.notes :=
  List.append_nil x.notes

/-- Two computations are the same if they give the same value and make the same notes. -/
theorem eq_of_parts {α : Type} {x y : Logged α} (hv : x.value = y.value) (hn : x.notes = y.notes) :
    x = y := by
  cases x; cases y; cases hv; cases hn; rfl

instance : LawfulMonad Logged := LawfulMonad.mk' Logged
  (fun x => eq_of_parts rfl (notes_map id x))
  (fun _ _ => rfl)
  (fun x f g => eq_of_parts rfl (by simp))

end Logged

/-- Makes a note. -/
def note (level : Level) (message : String) : Logged Unit := ⟨(), [⟨level, message⟩]⟩

@[simp] theorem notes_note (level : Level) (message : String) :
    (note level message).notes = [⟨level, message⟩] := rfl

end StaticSite
