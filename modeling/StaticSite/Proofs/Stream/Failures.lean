/-
  FAILURES: why the body of a response ends early, and what is noted of it.

  A step of a producer fails with a failure of its file, or with one of the three that are its own
  (`Failing`); a chunk across parts may meet many reads and seeks, and fails with the first that does.
  A body that is given up notes the failure once, behind words that say whether it had begun; nothing
  else is ever noted of a body (`notes_of_read`).

  Numbered structure:
    §1  steps
    §2  polls and bodies
-/
import StaticSite.Http.Response
import StaticSite.Proofs.Stream.Advance

namespace StaticSite.Stream

variable {F : Type} [ByteSource F]

/-! ## §1 Steps -/

/-- What a file fails with. -/
inductive FileFails (F : Type) [ByteSource F] (e : IoError) : Prop
  | read {file : F} {limit : Nat} (h : (ByteSource.read file limit).1 = .error e)
  | seek {file : F} {position : UInt64} (h : (ByteSource.seek file position).1 = .error e)

/-- The failures that are not those of a file. -/
def ownFailures : List IoError := [.unexpectedEnd, .notStarted, .emptyPlan]

/-- What a producer fails with. -/
def Failing (F : Type) [ByteSource F] (e : IoError) : Prop := FileFails F e ∨ e ∈ ownFailures

theorem failing_of_readSome {file after : F} {limit : Nat} {e : IoError}
    (h : readSome file limit = (.error e, after)) : Failing F e := by
  unfold readSome at h
  split at h
  next =>
    split at h
    next e' file' hread =>
      cases h
      exact .inl (.read (congrArg Prod.fst hread))
    next =>
      split at h
      next => cases h
      next =>
        cases h
        exact .inr List.mem_cons_self
  next => cases h

theorem failing_of_seek {file after : F} {position : UInt64} {e : IoError}
    (h : ByteSource.seek file position = (.error e, after)) : Failing F e :=
  .inl (.seek (congrArg Prod.fst h))

/-- Gathering fails with the first failure that it meets.  By induction on its rounds. -/
theorem failing_of_gather {g : Gathering F} {e : IoError} (h : (gather g).2 = .error e) :
    Failing F e := by
  fun_induction gather g with
  | case1 g room hleft => cases h
  | case2 g room part rest hleft announced limit e' file hread =>
    cases h
    exact failing_of_readSome hread
  | case3 g room part announced limit bytes file hread chunk written complete hleft => cases h
  | case4 g room part announced limit bytes file hread chunk written complete next others hleft e'
      after hseek =>
    cases h
    exact failing_of_seek hseek
  | case5 g room part announced limit bytes file hread chunk written complete next others hleft u
      after hseek _ ih => exact ih h
  | case6 g room part rest hleft announced limit bytes file hread chunk written incomplete ih =>
    exact ih h
  | case7 g full => cases h

theorem Starts.failing {file : F} {job : Job} {step : Step F} (h : Starts file job step) {e : IoError}
    (failed : step.result = .error e) : Failing F e := by
  cases h with
  | inPlace => cases failed
  | sliceFailed seek =>
    cases failed
    exact failing_of_seek seek
  | slice => cases failed
  | noParts =>
    cases failed
    exact .inr (by decide)
  | partsFailed seek =>
    cases failed
    exact failing_of_seek seek
  | parts => cases failed

theorem Advances.failing {file : F} {job : Job} {step : Step F} (h : Advances file job step)
    {e : IoError} (failed : step.result = .error e) : Failing F e := by
  cases h with
  | readFailed read =>
    cases failed
    exact failing_of_readSome read
  | read => cases failed
  | readLast => cases failed
  | gatherFailed gathered =>
    cases failed
    exact failing_of_gather (congrArg Prod.snd gathered)
  | gathered => cases failed
  | gatheredLast => cases failed

theorem failing_of_start {p : Producer F} {e : IoError} (h : p.start.result = .error e) :
    Failing F e := by
  obtain ⟨state, job⟩ := p
  cases state with
  | finished => cases h
  | stopped => cases h
  | live stage file =>
    cases stage with
    | idle => exact (start_starts file job).failing h
    | started => cases h
    | producing => cases h

theorem failing_of_next {p : Producer F} {e : IoError} (h : p.next.result = .error e) :
    Failing F e := by
  obtain ⟨state, job⟩ := p
  cases state with
  | finished => cases h
  | stopped => cases h
  | live stage file =>
    by_cases begun : stage = .idle
    · subst begun
      cases h
      exact .inr (by decide)
    · exact (next_advances begun file job).failing h

/-! ## §2 Polls and bodies -/

/-- A body was given up: it could not be started, or was begun and broken off. -/
inductive GivenUp (F : Type) [ByteSource F] : Note → Prop
  | start {e : IoError} (h : Failing F e) :
      GivenUp F ⟨.error, "Failed to start response body: " ++ e.message⟩
  | next {e : IoError} (h : Failing F e) : GivenUp F ⟨.error, "Response body aborted: " ++ e.message⟩

omit [ByteSource F] in
theorem notes_of_take? {feed : Feed F} {events : List Event} {polled : Polled F}
    (h : feed.take? events = some polled) : polled.notes = [] := by
  unfold Feed.take? at h
  split at h
  next =>
    cases h
    rfl
  next => cases h

theorem givenUp_of_deliver (feed : Feed F) (events : List Event) :
    ∀ n ∈ (feed.deliver events).notes, GivenUp F n := by
  unfold Feed.deliver
  split
  next polled hpolled =>
    rw [notes_of_take? hpolled]
    exact nofun
  next =>
    split
    next => exact nofun
    next =>
      dsimp only
      split
      next e he => exact List.forall_mem_singleton.2 (.next (failing_of_next he))
      next =>
        split
        next polled hpolled =>
          rw [notes_of_take? hpolled]
          exact nofun
        next => exact nofun

theorem givenUp_of_poll (feed : Feed F) : ∀ n ∈ feed.poll.notes, GivenUp F n := by
  unfold Feed.poll
  split
  next =>
    dsimp only
    split
    next e he => exact List.forall_mem_singleton.2 (.start (failing_of_start he))
    next => exact givenUp_of_deliver _ _
  next => exact givenUp_of_deliver _ _

/-- By induction on the polls; after one that notes something there is none. -/
theorem givenUp_of_drainFrom (frames : List Text.Bytes) (events : List Event) (polls : Nat)
    (feed : Feed F) : ∀ n ∈ (feed.drainFrom frames events polls).notes, GivenUp F n := by
  induction polls generalizing frames events feed with
  | zero => exact nofun
  | succ polls ih =>
    have polled := givenUp_of_poll feed
    unfold Feed.drainFrom
    dsimp only
    split
    next => exact ih _ _ _
    next => exact polled
    next => exact polled
    next => exact polled

/-- All that is noted of a body is that it was given up, and why. -/
theorem notes_of_read (body : Http.Body F) : ∀ n ∈ body.read.notes, GivenUp F n := by
  cases body with
  | empty => exact nofun
  | full bytes => exact nofun
  | stream producer => exact givenUp_of_drainFrom _ _ _ _

end StaticSite.Stream
