/-
  BYTE RANGES: which bytes of a resource a request asks for.

  A request names ranges before the size of the resource is known (`Spec`); once it is known, each
  becomes an interval of positions (`Interval`).  Both ends of a spec count, and a spec without a
  first position asks for the last so many bytes.  The interval of a spec is clipped to the
  resource; a spec that selects no byte of it becomes `Interval.none`.

  All positions and sizes are 64-bit words, as in the headers and in the file system.  Where one
  that is worked out is no word there is an overflow, and neither interval nor value.
-/
import StaticSite.Word

namespace StaticSite.Range

/-- One range as it is requested.  With `first` absent, `last` is the number of bytes wanted from
    the end of the resource. -/
structure Spec where
  first : Option UInt64
  last : Option UInt64
deriving DecidableEq, Repr

/-- The `size` bytes of a resource from position `offset` on. -/
structure Interval where
  offset : UInt64
  size : UInt64
deriving DecidableEq, Repr

/-- Stands for a spec that selects nothing; never an empty interval that was asked for. -/
def Interval.none : Interval := ⟨0, 0⟩

/-- Whether the spec behind the interval selects anything. -/
def Interval.isSatisfiable (i : Interval) : Bool := i != .none

/-- The position of the last byte, if there is one. -/
def Interval.last (i : Interval) : Except Overflow UInt64 := do
  let stop ← Word.sum i.offset i.size
  Word.difference stop 1

/-- The Content-Range value of an interval of a resource of `total` bytes. -/
def Interval.contentRange (i : Interval) (total : UInt64) : Except Overflow String := do
  let last ← i.last
  return "bytes " ++ toString i.offset.toNat ++ "-" ++ toString last.toNat ++ "/" ++ toString total.toNat

/-- The Content-Range value that says how long a resource is when nothing of it was selected. -/
def unsatisfiedContentRange (total : UInt64) : String := "bytes */" ++ toString total.toNat

/-- The interval from `offset` up to `stop`, which is not in it; none if it starts past the end. -/
def Interval.between (offset stop total : UInt64) : Except Overflow Interval :=
  if total ≤ offset then .ok .none
  else do
    let size ← Word.difference stop offset
    return ⟨offset, size⟩

/-- The bytes that a spec selects in a resource of `total` bytes.  The last so many start no earlier
    than the resource does. -/
def Spec.resolve (spec : Spec) (total : UInt64) : Except Overflow Interval :=
  match spec.first, spec.last with
  | .none, .some wanted => Interval.between (if wanted ≤ total then total - wanted else 0) total total
  | .some first, .none => Interval.between first total total
  | .some first, .some last =>
    if last < total then do
      let stop ← Word.sum last 1
      Interval.between first stop total
    else Interval.between first total total
  | .none, .none => .ok .none

example : (Spec.mk (some 0) (some 9)).resolve 100 = .ok ⟨0, 10⟩ := rfl
example : (Spec.mk none (some 500)).resolve 100 = .ok ⟨0, 100⟩ := rfl
example : (Spec.mk (some 100) none).resolve 100 = .ok .none := rfl
example : (Spec.mk (some 5) (some 2)).resolve 100 = .error ⟨⟩ := rfl

end StaticSite.Range
