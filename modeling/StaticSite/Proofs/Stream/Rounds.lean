/-
  ROUNDS: the loop in which a chunk across parts is gathered, one round after the other.

  A round puts down the separator of the part under way if it is due, reads as much of the slice as
  there is room for, and goes on to the next part if the slice is complete.  `gather` is the loop of
  these rounds (`loops_gather`); `Gathering.Loops` tells in which states they begin, and so what is
  true all the time and not only in the end.

  No measure is obvious: a round may put down nothing but a separator, may do no more than leave a
  part without bytes behind, or may read a single byte.  Each, however, leaves a part behind or makes
  the chunk longer, so there are no more rounds than parts and bytes of room (`Loops.length_le`).

  A chunk is never full when a round begins.  So a separator can take it past the bound, but only the
  last one does; the bytes of the file never do, because they get the room that is left.

  Numbered structure:
    §1  a round
    §2  what a round does
    §3  the loop
    §4  what the chunk is made of, and how long it gets
    §5  loops of which every read succeeds
-/
import StaticSite.Proofs.Stream.Content

namespace StaticSite.Stream

variable {F : Type} [ByteSource F]

/-! ## §1 A round -/

/-- The number of bytes of the file that a round asks for: those that the slice has left, as far as
    there is room for them. -/
def Gathering.wanted (g : Gathering F) : Nat :=
  match g.left with
  | [] => 0
  | part :: _ => min (part.size - g.written).toNat (chunkSize - (g.announced part).size)

/-- What a round reads, and the file after that. -/
def Gathering.read (g : Gathering F) : Except IoError Text.Bytes × F :=
  match readSome g.file g.wanted with
  | (.ok bytes, file) => (.ok bytes.val, file)
  | (.error e, file) => (.error e, file)

/-- The separator, if a round puts one down. -/
def Gathering.text (g : Gathering F) : Text.Bytes :=
  match g.left with
  | [] => []
  | part :: _ => if g.separatorDue then Text.utf8 part.separator else []

/-- The bytes of the file that a round puts down. -/
def Gathering.data (g : Gathering F) : Text.Bytes :=
  match g.read.1 with
  | .ok bytes => bytes
  | .error _ => []

/-- How a round ends: another one follows, or the loop is over. -/
inductive Verdict (F : Type)
  | again (next : Gathering F)
  | ended (after : Gathering F) (result : Except IoError Bool)

/-- The chunk in the making after a round. -/
def Verdict.after : Verdict F → Gathering F
  | .again next => next
  | .ended after _ => after

/-- A round of the loop, begun in `g`. -/
inductive Gathering.Round (g : Gathering F) : Verdict F → Prop
  | unread {part : Range.Part} {rest : List Range.Part} {file : F} {e : IoError}
      (hleft : g.left = part :: rest) (hread : g.read = (.error e, file)) :
      Round g (.ended ⟨file, part :: rest, g.written, false, g.announced part⟩ (.error e))
  | incomplete {part : Range.Part} {rest : List Range.Part} {file : F} {bytes : Text.Bytes}
      (hleft : g.left = part :: rest) (hread : g.read = (.ok bytes, file))
      (incomplete : g.written + UInt64.ofNat bytes.length ≠ part.size) :
      Round g (.again ⟨file, part :: rest, g.written + UInt64.ofNat bytes.length, false,
        (g.announced part).append bytes⟩)
  | last {part : Range.Part} {file : F} {bytes : Text.Bytes} (hleft : g.left = [part])
      (hread : g.read = (.ok bytes, file))
      (complete : g.written + UInt64.ofNat bytes.length = part.size) :
      Round g (.ended ⟨file, [part], g.written + UInt64.ofNat bytes.length, false,
        (g.announced part).append bytes⟩ (.ok true))
  | stuck {part next : Range.Part} {others : List Range.Part} {file after : F}
      {bytes : Text.Bytes} {e : IoError} (hleft : g.left = part :: next :: others)
      (hread : g.read = (.ok bytes, file))
      (complete : g.written + UInt64.ofNat bytes.length = part.size)
      (hseek : ByteSource.seek file next.offset = (.error e, after)) :
      Round g (.ended ⟨after, next :: others, 0, true, (g.announced part).append bytes⟩ (.error e))
  | onward {part next : Range.Part} {others : List Range.Part} {file after : F}
      {bytes : Text.Bytes} (hleft : g.left = part :: next :: others)
      (hread : g.read = (.ok bytes, file))
      (complete : g.written + UInt64.ofNat bytes.length = part.size)
      (hseek : ByteSource.seek file next.offset = (.ok (), after)) :
      Round g (.again ⟨after, next :: others, 0, true, (g.announced part).append bytes⟩)

/-- The loop, begun in `g`: rounds, as long as the chunk is not full and none of them is the last.
    The list holds the states in which they begin. -/
inductive Gathering.Loops :
    Gathering F → List (Gathering F) → Gathering F × Except IoError Bool → Prop
  | full {g : Gathering F} (full : chunkSize ≤ g.chunk.size) : Loops g [] (g, .ok false)
  | ended {g after : Gathering F} {result : Except IoError Bool} (room : g.chunk.size < chunkSize)
      (round : g.Round (.ended after result)) : Loops g [g] (after, result)
  | again {g next : Gathering F} {rounds : List (Gathering F)}
      {outcome : Gathering F × Except IoError Bool} (room : g.chunk.size < chunkSize)
      (round : g.Round (.again next)) (later : next.Loops rounds outcome) :
      Loops g (g :: rounds) outcome

/-! ## §2 What a round does -/

omit [ByteSource F] in
theorem wanted_of_left {g : Gathering F} {part : Range.Part} {rest : List Range.Part}
    (hleft : g.left = part :: rest) :
    g.wanted = min (part.size - g.written).toNat (chunkSize - (g.announced part).size) := by
  rw [Gathering.wanted, hleft]

omit [ByteSource F] in
theorem text_of_left {g : Gathering F} {part : Range.Part} {rest : List Range.Part}
    (hleft : g.left = part :: rest) :
    g.text = if g.separatorDue then Text.utf8 part.separator else [] := by
  rw [Gathering.text, hleft]

theorem read_eq {g : Gathering F} {limit : Nat} (asked : g.wanted = limit) {bytes : SomeBytes limit}
    {file : F} (hread : readSome g.file limit = (.ok bytes, file)) :
    g.read = (.ok bytes.val, file) := by
  subst asked
  rw [Gathering.read, hread]

theorem read_eq_error {g : Gathering F} {limit : Nat} (asked : g.wanted = limit) {e : IoError}
    {file : F} (hread : readSome g.file limit = (.error e, file)) : g.read = (.error e, file) := by
  subst asked
  rw [Gathering.read, hread]

/-- A round gets no more than it asks for, and something if it asks for anything. -/
theorem length_of_read {g : Gathering F} {bytes : Text.Bytes} {file : F}
    (hread : g.read = (.ok bytes, file)) :
    bytes.length ≤ g.wanted ∧ (0 < g.wanted → 0 < bytes.length) := by
  unfold Gathering.read at hread
  split at hread
  next some after _ =>
    cases hread
    exact some.property
  next => cases hread

theorem data_of_read {g : Gathering F} {bytes : Text.Bytes} {file : F}
    (hread : g.read = (.ok bytes, file)) : g.data = bytes := by
  rw [Gathering.data, hread]

theorem data_of_unread {g : Gathering F} {e : IoError} {file : F}
    (hread : g.read = (.error e, file)) : g.data = [] := by
  rw [Gathering.data, hread]

theorem length_data_le (g : Gathering F) : g.data.length ≤ g.wanted := by
  cases hread : g.read with
  | mk result file =>
    cases result with
    | error e =>
      rw [data_of_unread hread]
      exact Nat.zero_le _
    | ok bytes =>
      rw [data_of_read hread]
      exact (length_of_read hread).1

omit [ByteSource F] in
/-- What a round reads fits beside the separator. -/
theorem wanted_le (g : Gathering F) : g.wanted ≤ chunkSize - (g.chunk.size + g.text.length) := by
  unfold Gathering.wanted Gathering.text
  split
  next => exact Nat.zero_le _
  next part rest _ =>
    have announced : (g.announced part).size
        = g.chunk.size + (if g.separatorDue then Text.utf8 part.separator else []).length := by
      rw [← Gathered.length_bytes, bytes_announced, List.length_append, Gathered.length_bytes]
    omega

/-- What is read within a slice does not overrun it. -/
theorem fits_of_read {g : Gathering F} {part : Range.Part} {rest : List Range.Part}
    (hleft : g.left = part :: rest) {bytes : Text.Bytes} {file : F}
    (hread : g.read = (.ok bytes, file)) : bytes.length ≤ (part.size - g.written).toNat := by
  have asked := (length_of_read hread).1
  rw [wanted_of_left hleft] at asked
  omega

/-- What a round does to the chunk and to the parts, however it ends: the chunk gets a separator and
    bytes of the file, and there is a part under way that is not overrun. -/
structure Gathering.Adds (before after : Gathering F) : Prop where
  bytes : after.chunk.bytes = before.chunk.bytes ++ (before.text ++ before.data)
  suffix : after.left <:+ before.left
  within : ∃ part rest, after.left = part :: rest ∧ after.written ≤ part.size

/-- A round in which a read succeeds. -/
theorem adds_of_read {g : Gathering F} {part : Range.Part} {rest left : List Range.Part}
    {bytes : Text.Bytes} {file after : F} {written : UInt64} {due : Bool}
    (hleft : g.left = part :: rest) (hread : g.read = (.ok bytes, file)) (suffix : left <:+ g.left)
    (within : ∃ part rest, left = part :: rest ∧ written ≤ part.size) :
    g.Adds ⟨after, left, written, due, (g.announced part).append bytes⟩ where
  bytes := by
    rw [Gathered.bytes_append, bytes_announced, text_of_left hleft, data_of_read hread,
      List.append_assoc]
  suffix := suffix
  within := within

theorem Gathering.Round.adds {g : Gathering F} (work : g.job.Open) {verdict : Verdict F}
    (round : g.Round verdict) : g.Adds verdict.after := by
  cases round with
  | @unread part rest file e hleft hread =>
    have within : g.written ≤ part.size := within_of_open hleft work
    refine ⟨?_, hleft ▸ List.suffix_refl _, part, rest, rfl, within⟩
    show (g.announced part).bytes = _
    rw [bytes_announced, text_of_left hleft, data_of_unread hread, List.append_nil]
  | @incomplete part rest file bytes hleft hread incomplete =>
    have within := advance_le (within_of_open hleft work) (fits_of_read hleft hread)
    exact adds_of_read hleft hread (hleft ▸ List.suffix_refl _) ⟨part, rest, rfl, within⟩
  | @last part file bytes hleft hread complete =>
    exact adds_of_read hleft hread (hleft ▸ List.suffix_refl _)
      ⟨part, [], rfl, UInt64.le_of_eq complete⟩
  | @stuck part next others file after bytes e hleft hread complete hseek =>
    exact adds_of_read hleft hread (hleft ▸ List.suffix_cons part _)
      ⟨next, others, rfl, UInt64.zero_le⟩
  | @onward part next others file after bytes hleft hread complete hseek =>
    exact adds_of_read hleft hread (hleft ▸ List.suffix_cons part _)
      ⟨next, others, rfl, UInt64.zero_le⟩

/-- A round that is followed by another leaves an open job. -/
theorem open_of_again {g next : Gathering F} (work : g.job.Open) (round : g.Round (.again next)) :
    next.job.Open := by
  cases round with
  | @incomplete part rest file bytes hleft hread incomplete =>
    exact (follows_of_incomplete hleft work file (fits_of_read hleft hread) incomplete).work
  | @onward part next others file after bytes hleft hread complete hseek =>
    exact (follows_of_complete hleft work after (fits_of_read hleft hread) complete).work

/-- An upper bound for the rounds to come. -/
def Gathering.rank (g : Gathering F) : Nat := g.left.length + (chunkSize - g.chunk.size)

/-- A round that is followed by another leaves a part behind or makes the chunk longer. -/
theorem rank_lt_of_again {g next : Gathering F} (room : g.chunk.size < chunkSize)
    (round : g.Round (.again next)) : next.rank < g.rank := by
  cases round with
  | @incomplete part rest file bytes hleft hread incomplete =>
    have read := length_of_read hread
    rw [wanted_of_left hleft] at read
    have longer : g.chunk.size < (g.announced part).size + bytes.length :=
      grows_of_incomplete room (g.size_le_announced part) read incomplete
    rw [Gathering.rank, Gathering.rank, hleft, Gathered.size_append]
    show (part :: rest).length + (chunkSize - ((g.announced part).size + bytes.length))
      < (part :: rest).length + (chunkSize - g.chunk.size)
    omega
  | @onward part next others file after bytes hleft hread complete hseek =>
    have longer := g.size_le_announced part
    rw [Gathering.rank, Gathering.rank, hleft, Gathered.size_append, List.length_cons]
    show (next :: others).length + (chunkSize - ((g.announced part).size + bytes.length))
      < (next :: others).length + 1 + (chunkSize - g.chunk.size)
    omega

/-! ## §3 The loop -/

/-- `gather` is the loop of rounds. -/
theorem loops_gather (g : Gathering F) (work : g.job.Open) : ∃ rounds, g.Loops rounds (gather g) := by
  fun_induction gather g with
  | case1 g room hleft =>
    -- an open job has a part under way
    rw [Gathering.job, hleft] at work
    exact work.elim
  | case2 g room part rest hleft announced limit e file hread =>
    have hread := read_eq_error (wanted_of_left hleft) hread
    exact ⟨[g], .ended room (.unread hleft hread)⟩
  | case3 g room part announced limit bytes file hread chunk written complete hleft =>
    have hread := read_eq (wanted_of_left hleft) hread
    exact ⟨[g], .ended room (.last hleft hread complete)⟩
  | case4 g room part announced limit bytes file hread chunk written complete next others hleft e
      after hseek =>
    have hread := read_eq (wanted_of_left hleft) hread
    exact ⟨[g], .ended room (.stuck hleft hread complete hseek)⟩
  | case5 g room part announced limit bytes file hread chunk written complete next others hleft u
      after hseek _ ih =>
    have hread := read_eq (wanted_of_left hleft) hread
    have round := Gathering.Round.onward hleft hread complete hseek
    obtain ⟨rounds, later⟩ := ih (open_of_again work round)
    exact ⟨g :: rounds, .again room round later⟩
  | case6 g room part rest hleft announced limit bytes file hread chunk written incomplete ih =>
    have hread := read_eq (wanted_of_left hleft) hread
    have round := Gathering.Round.incomplete hleft hread incomplete
    obtain ⟨rounds, later⟩ := ih (open_of_again work round)
    exact ⟨g :: rounds, .again room round later⟩
  | case7 g full => exact ⟨[], .full (Nat.le_of_not_lt full)⟩

/-- There are no more rounds than parts and bytes of room. -/
theorem Gathering.Loops.length_le {g : Gathering F} {rounds : List (Gathering F)}
    {outcome : Gathering F × Except IoError Bool} (loops : g.Loops rounds outcome) :
    rounds.length ≤ g.rank := by
  induction loops with
  | full full => exact Nat.zero_le _
  | @ended g after result room round =>
    rw [Gathering.rank, List.length_singleton]
    omega
  | @again g next rounds outcome room round later ih =>
    have fewer := rank_lt_of_again room round
    rw [List.length_cons]
    omega

/-- All the time there is an open job, of parts that are left from those in the beginning. -/
theorem Gathering.Loops.inside {g : Gathering F} {rounds : List (Gathering F)}
    {outcome : Gathering F × Except IoError Bool} (loops : g.Loops rounds outcome)
    (work : g.job.Open) : ∀ round ∈ rounds, round.job.Open ∧ round.left <:+ g.left := by
  induction loops with
  | full full => exact nofun
  | @ended g after result room round =>
    exact List.forall_mem_singleton.2 ⟨work, List.suffix_refl _⟩
  | @again g next rounds outcome room round later ih =>
    have suffix : next.left <:+ g.left := (round.adds work).suffix
    have onward := ih (open_of_again work round)
    refine List.forall_mem_cons.2 ⟨⟨work, List.suffix_refl _⟩, fun r hr => ?_⟩
    exact ⟨(onward r hr).1, (onward r hr).2.trans suffix⟩

/-- After the loop there is still a part under way that is not overrun. -/
theorem Gathering.Loops.within {g : Gathering F} {rounds : List (Gathering F)}
    {outcome : Gathering F × Except IoError Bool} (loops : g.Loops rounds outcome)
    (work : g.job.Open) :
    ∃ part rest, outcome.1.left = part :: rest ∧ outcome.1.written ≤ part.size := by
  induction loops with
  | @full g full =>
    show ∃ part rest, g.left = part :: rest ∧ g.written ≤ part.size
    cases hleft : g.left with
    | nil =>
      rw [Gathering.job, hleft] at work
      exact work.elim
    | cons part rest => exact ⟨part, rest, rfl, within_of_open hleft work⟩
  | @ended g after result room round => exact (round.adds work).within
  | @again g next rounds outcome room round later ih => exact ih (open_of_again work round)

/-! ## §4 The chunk -/

/-- The chunk holds what the rounds put down, in their order. -/
theorem Gathering.Loops.bytes {g : Gathering F} {rounds : List (Gathering F)}
    {outcome : Gathering F × Except IoError Bool} (loops : g.Loops rounds outcome)
    (work : g.job.Open) :
    outcome.1.chunk.bytes
      = g.chunk.bytes ++ rounds.flatMap fun round => round.text ++ round.data := by
  induction loops with
  | @full g full => exact (List.append_nil _).symm
  | @ended g after result room round =>
    rw [List.flatMap_singleton]
    exact (round.adds work).bytes
  | @again g next rounds outcome room round later ih =>
    have put : next.chunk.bytes = g.chunk.bytes ++ (g.text ++ g.data) := (round.adds work).bytes
    rw [ih (open_of_again work round), put, List.flatMap_cons, List.append_assoc]

/-- The length of the chunk after a round. -/
theorem Gathering.Adds.size {before after : Gathering F} (adds : before.Adds after) :
    after.chunk.size = before.chunk.size + (before.text.length + before.data.length) := by
  rw [← Gathered.length_bytes, adds.bytes, List.length_append, List.length_append,
    Gathered.length_bytes]

/-- No more bytes of the file get into the chunk than there was room in it. -/
theorem Gathering.Loops.data_le {g : Gathering F} {rounds : List (Gathering F)}
    {outcome : Gathering F × Except IoError Bool} (loops : g.Loops rounds outcome)
    (work : g.job.Open) :
    (rounds.flatMap Gathering.data).length ≤ chunkSize - g.chunk.size := by
  induction loops with
  | full full => exact Nat.zero_le _
  | @ended g after result room round =>
    have read := length_data_le g
    have fits := wanted_le g
    rw [List.flatMap_singleton]
    omega
  | @again g next rounds outcome room round later ih =>
    have read := length_data_le g
    have fits := wanted_le g
    have size : next.chunk.size = _ := (round.adds work).size
    have onward := ih (open_of_again work round)
    rw [List.flatMap_cons, List.length_append]
    omega

omit [ByteSource F] in
theorem length_text_le {g : Gathering F} {longest : Nat}
    (texts : ∀ part ∈ g.left, part.separator.utf8ByteSize ≤ longest) : g.text.length ≤ longest := by
  unfold Gathering.text
  split
  next => exact Nat.zero_le _
  next part rest hleft =>
    have text := texts part (hleft ▸ List.mem_cons_self)
    split
    · rwa [Text.length_utf8]
    · exact Nat.zero_le _

/-- A separator that begins within the bound can end past it, and then there is no room for more. -/
theorem Gathering.Loops.size_le {g : Gathering F} {rounds : List (Gathering F)}
    {outcome : Gathering F × Except IoError Bool} (loops : g.Loops rounds outcome)
    (work : g.job.Open) {longest : Nat}
    (texts : ∀ part ∈ g.left, part.separator.utf8ByteSize ≤ longest)
    (bound : g.chunk.size ≤ max chunkSize (chunkSize - 1 + longest)) :
    outcome.1.chunk.size ≤ max chunkSize (chunkSize - 1 + longest) := by
  have kept {g after : Gathering F} (room : g.chunk.size < chunkSize) (adds : g.Adds after)
      (texts : ∀ part ∈ g.left, part.separator.utf8ByteSize ≤ longest) :
      after.chunk.size ≤ max chunkSize (chunkSize - 1 + longest) := by
    have text := length_text_le texts
    have read := length_data_le g
    have fits := wanted_le g
    have size := adds.size
    omega
  induction loops with
  | full full => exact bound
  | @ended g after result room round => exact kept room (round.adds work) texts
  | @again g next rounds outcome room round later ih =>
    have adds : g.Adds next := round.adds work
    exact ih (open_of_again work round) (fun part hpart => texts part (adds.suffix.subset hpart))
      (kept room adds texts)

/-! ## §5 Reads that succeed -/

/-- A read of so many bytes, if it is made, succeeds with at least one. -/
def Yields (file : F) (limit : Nat) : Prop :=
  0 < limit → ∃ chunk after, ByteSource.read file limit = (.ok chunk, after) ∧ 0 < chunk.val.length

/-- If every read succeeds, the loop fails only where the file is taken to the next part, and then
    there are fewer parts left. -/
theorem Gathering.Loops.fewer_of_error {g after : Gathering F} {rounds : List (Gathering F)}
    {e : IoError} (loops : g.Loops rounds (after, .error e)) (work : g.job.Open)
    (yields : ∀ round ∈ rounds, Yields round.file round.wanted) :
    after.left.length < g.left.length := by
  generalize houtcome : (after, Except.error e) = outcome at loops
  induction loops with
  | full full => cases houtcome
  | @ended g after result room round =>
    cases houtcome
    cases round with
    | @unread part rest file e hleft hread =>
      obtain ⟨bytes, file', hsome⟩ := exists_readSome (yields g List.mem_cons_self)
      rw [read_eq rfl hsome] at hread
      cases hread
    | @stuck part next others file after bytes e hleft hread complete hseek =>
      rw [hleft]
      exact Nat.lt_succ_self _
  | @again g next rounds outcome room round later ih =>
    have suffix : next.left <:+ g.left := (round.adds work).suffix
    have fewer := ih (open_of_again work round)
      (fun r hr => yields r (List.mem_cons_of_mem g hr)) houtcome
    exact Nat.lt_of_lt_of_le fewer suffix.length_le

end StaticSite.Stream
