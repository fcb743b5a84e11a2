/-
  SLOTS: their count is the number of connections that are served, whatever happened.

  A HISTORY is a row of events of which each was possible when it happened: a connection that arrives
  has a descriptor of its own, since those of open streams differ, and only a connection that is
  served can end.  Nothing else is said of the row: connections arrive and end in any order, they end
  with and without a failure, and a server may be full as often as it likes.

  The invariant (`Service.InOrder`) is kept by each event (`InOrder.on`), and so by a history.  With it
  the word that counts is always far from its ends: as many connections as there are descriptors do
  not fill it, and a task that ends is one of those counted.

  Numbered structure:
    §1  what can happen, and the books of a history
    §2  the invariant, and one event
    §3  histories, by induction on the row
-/
import Mathlib.Data.Fintype.Card
import StaticSite.Server.Connections

namespace StaticSite.Server

/-! ## §1 Histories -/

/-- What can happen to a server. -/
inductive Service.Possible (s : Service) : ConnectionEvent → Prop
  /-- The descriptors of open streams differ from each other. -/
  | arrival {c : Connection} (fresh : c.descriptor ∉ s.served.map Connection.descriptor) :
      Possible s (.arrival c)
  | failedArrival (message : String) : Possible s (.failedArrival message)
  /-- Only what has a task can end, and it can end by a failure or without. -/
  | ending {c : Connection} (served : c ∈ s.served) (failure : Option String) :
      Possible s (.ending c failure)

/-- A row of events each of which is possible when it is its turn. -/
def Service.Allows (limit : Option UInt64) (s : Service) : List ConnectionEvent → Prop
  | [] => True
  | event :: events => s.Possible event ∧ (s.on limit event).value.Allows limit events

/-- The connections that were accepted in a row of events. -/
def Service.accepted (limit : Option UInt64) (s : Service) : List ConnectionEvent → List Connection
  | [] => []
  | .arrival c :: events =>
    let (served, after) := (s.arrive limit c).value
    if served then c :: after.accepted limit events else after.accepted limit events
  | event :: events => (s.on limit event).value.accepted limit events

/-- The connections that ended in a row of events. -/
def ended (events : List ConnectionEvent) : List Connection :=
  events.filterMap fun
    | .ending c _ => some c
    | _ => none

/-! ## §2 One event -/

/-- What is true of a server at any time. -/
structure Service.InOrder (limit : Option UInt64) (s : Service) : Prop where
  /-- Each connection that is served has a slot, and there are no more. -/
  counted : s.slots.inUse.toNat = s.served.length
  within : ∀ most, limit = some most → s.served.length ≤ most.toNat
  distinct : (s.served.map Connection.descriptor).Nodup

/-- There are no more connections than descriptors. -/
theorem length_le_of_distinct {served : List Connection}
    (distinct : (served.map Connection.descriptor).Nodup) : served.length ≤ UInt32.size := by
  have indices : ((served.map Connection.descriptor).map UInt32.toFin).Nodup :=
    distinct.map fun _ _ => UInt32.toFin_inj.1
  have bound := indices.length_le_card
  rwa [List.length_map, List.length_map, Fintype.card_fin] at bound

/-- Taking a slot does not wrap around. -/
theorem Service.InOrder.toNat_take {limit : Option UInt64} {s : Service} (h : s.InOrder limit) :
    s.slots.take.inUse.toNat = s.slots.inUse.toNat + 1 := by
  have few := length_le_of_distinct h.distinct
  rw [← h.counted] at few
  have room : UInt32.size + 1 < 2 ^ 64 := by decide
  rw [Slots.take, UInt64.toNat_add]
  exact Nat.mod_eq_of_lt (by
    show s.slots.inUse.toNat + 1 < 2 ^ 64
    omega)

/-- Giving back the slot of a connection that is served does not wrap around either. -/
theorem Service.InOrder.toNat_release {limit : Option UInt64} {s : Service} (h : s.InOrder limit)
    {c : Connection} (served : c ∈ s.served) :
    s.slots.release.inUse.toNat + 1 = s.slots.inUse.toNat := by
  have some : 0 < s.slots.inUse.toNat := h.counted ▸ List.length_pos_of_mem served
  have one : (1 : UInt64) ≤ s.slots.inUse := UInt64.le_iff_toNat_le.2 some
  rw [Slots.release, UInt64.toNat_sub_of_le _ _ one]
  show s.slots.inUse.toNat - 1 + 1 = s.slots.inUse.toNat
  omega

/-- The limit is reached when as many connections are served as it says, and without one never. -/
theorem Service.InOrder.limitReached_iff {limit : Option UInt64} {s : Service} (h : s.InOrder limit) :
    limitReached limit s.slots.inUse = true
      ↔ ∃ most, limit = some most ∧ s.served.length = most.toNat := by
  cases limit with
  | none =>
    constructor
    · intro reached
      cases reached
    · rintro ⟨most, ⟨⟩, -⟩
  | some most =>
    have bound := h.within most rfl
    rw [limitReached, decide_eq_true_iff, UInt64.le_iff_toNat_le, h.counted]
    constructor
    · intro reached
      exact ⟨most, rfl, Nat.le_antisymm bound reached⟩
    · rintro ⟨_, ⟨⟩, full⟩
      exact Nat.le_of_eq full.symm

theorem inOrder_opened (limit : Option UInt64) : Service.opened.InOrder limit where
  counted := rfl
  within := fun _ _ => Nat.zero_le _
  distinct := List.nodup_nil

/-- A connection that is served from now on. -/
theorem Service.InOrder.accept {limit : Option UInt64} {s : Service} (h : s.InOrder limit)
    (room : limitReached limit s.slots.inUse ≠ true) {c : Connection}
    (fresh : c.descriptor ∉ s.served.map Connection.descriptor) :
    (Service.mk s.slots.take (c :: s.served)).InOrder limit where
  counted := by
    show s.slots.take.inUse.toNat = s.served.length + 1
    rw [h.toNat_take, h.counted]
  within := by
    intro most hmost
    -- the limit was not exceeded before, and it was not reached
    have bound := h.within most hmost
    have below : s.served.length ≠ most.toNat := fun full =>
      room (h.limitReached_iff.2 ⟨most, hmost, full⟩)
    show s.served.length + 1 ≤ most.toNat
    omega
  distinct := List.nodup_cons.2 ⟨fresh, h.distinct⟩

/-- A connection that is served no more. -/
theorem Service.InOrder.leave {limit : Option UInt64} {s : Service} (h : s.InOrder limit)
    {c : Connection} (served : c ∈ s.served) :
    (Service.mk s.slots.release (s.served.erase c)).InOrder limit where
  counted := by
    have one := h.toNat_release served
    have fewer := List.length_erase_of_mem served
    have counted := h.counted
    show s.slots.release.inUse.toNat = (s.served.erase c).length
    omega
  within := by
    intro most hmost
    have bound := h.within most hmost
    exact Nat.le_trans List.length_erase_le bound
  distinct := h.distinct.sublist (List.erase_sublist.map _)

/-- Whatever can happen keeps a server in order. -/
theorem Service.InOrder.on {limit : Option UInt64} {s : Service} (h : s.InOrder limit)
    {event : ConnectionEvent} (possible : s.Possible event) :
    (s.on limit event).value.InOrder limit := by
  cases possible with
  | failedArrival message => exact h
  | @ending c served failure =>
    show (s.leave c failure).value.InOrder limit
    rw [Service.value_leave]
    exact h.leave served
  | @arrival c fresh =>
    show (s.arrive limit c).value.2.InOrder limit
    rw [Service.value_arrive]
    split
    next => exact h
    next room => exact h.accept room fresh

/-! ## §3 Histories -/

/-- A server stays in order, whatever happens to it. -/
theorem Service.InOrder.after {limit : Option UInt64} {s : Service} (h : s.InOrder limit)
    {events : List ConnectionEvent} (history : s.Allows limit events) :
    (s.after limit events).InOrder limit := by
  induction events generalizing s with
  | nil => exact h
  | cons event events ih =>
    obtain ⟨possible, later⟩ := history
    exact ih (h.on possible) later

/-- What was served before and what was accepted since has ended, or is still served. -/
theorem perm_accepted {limit : Option UInt64} {s : Service} {events : List ConnectionEvent}
    (history : s.Allows limit events) :
    (s.served ++ s.accepted limit events).Perm (ended events ++ (s.after limit events).served) := by
  induction events generalizing s with
  | nil =>
    rw [Service.accepted, List.append_nil]
    exact .refl _
  | cons event events ih =>
    obtain ⟨possible, later⟩ := history
    have onward := ih later
    cases possible with
    | failedArrival message => exact onward
    | @ending c served failure =>
      -- it ended now, and it was one of those that were served
      have taken : (s.on limit (.ending c failure)).value.served = s.served.erase c := by
        rw [Service.on, Service.value_leave]
      rw [taken] at onward
      exact ((List.perm_cons_erase served).append_right _).trans (onward.cons c)
    | @arrival c fresh =>
      have arrived : (s.on limit (.arrival c)).value = (s.arrive limit c).value.2 := rfl
      rw [Service.accepted, Service.after]
      rw [arrived] at onward ⊢
      rw [Service.value_arrive] at onward ⊢
      split at onward
      next full =>
        rw [if_pos full]
        exact onward
      next room =>
        rw [if_neg room]
        exact List.perm_middle.trans onward

/-- After any history, the limit being any word or none: the connections that are served are those
    that were accepted and have not ended; so many slots are in use, and no more than the limit
    allows.  The next connection that arrives is turned away exactly if the limit is reached, and
    then nothing has changed; else it is served.  Taking a slot for it makes one more in either case.
    The next ending gives back a slot that is in use, with and without a failure.  -/
theorem slots_of_history {limit : Option UInt64} {events : List ConnectionEvent}
    (history : Service.opened.Allows limit events) :
    let now := Service.opened.after limit events
    (Service.opened.accepted limit events).Perm (ended events ++ now.served) ∧
    now.slots.inUse.toNat = now.served.length ∧
    (∀ most, limit = some most → now.served.length ≤ most.toNat) ∧
    now.slots.take.inUse.toNat = now.slots.inUse.toNat + 1 ∧
    (∀ c, let arrived := (now.arrive limit c).value
      (arrived.1 = false ↔ ∃ most, limit = some most ∧ now.served.length = most.toNat) ∧
      (arrived.1 = false → arrived.2 = now) ∧
      (arrived.1 = true → arrived.2 = ⟨now.slots.take, c :: now.served⟩)) ∧
    ∀ c ∈ now.served, ∀ failure, let left := (now.leave c failure).value
      left.served = now.served.erase c ∧
      left.slots.inUse.toNat + 1 = now.slots.inUse.toNat := by
  intro now
  have inOrder : now.InOrder limit := (inOrder_opened limit).after history
  have books : (Service.opened.accepted limit events).Perm (ended events ++ now.served) :=
    perm_accepted history
  refine ⟨books, inOrder.counted, inOrder.within, inOrder.toNat_take, fun c => ?_,
    fun c served failure => ?_⟩
  · have reached := inOrder.limitReached_iff
    rw [Service.value_arrive]
    by_cases full : limitReached limit now.slots.inUse = true
    · rw [if_pos full]
      exact ⟨⟨fun _ => reached.1 full, fun _ => rfl⟩, fun _ => rfl, nofun⟩
    · rw [if_neg full]
      exact ⟨⟨nofun, fun most => absurd (reached.2 most) full⟩, nofun, fun _ => rfl⟩
  · rw [Service.value_leave]
    exact ⟨rfl, inOrder.toNat_release served⟩

/-- Two connections, of which a server for one turns the second away; it comes again after the first
    has failed. -/
def rush : List ConnectionEvent :=
  [.arrival ⟨7, "first"⟩, .arrival ⟨8, "second"⟩, .ending ⟨7, "first"⟩ (some "reset"),
    .arrival ⟨7, "second"⟩]

/-- The count there: the second connection is the one that is served, and a third is turned away. -/
theorem slots_of_rush :
    let now := Service.opened.after (some 1) rush
    Service.opened.Allows (some 1) rush ∧
    [⟨7, "first"⟩, ⟨7, "second"⟩].Perm (ended rush ++ now.served) ∧
    now.slots.inUse.toNat = now.served.length ∧
    now.served = [⟨7, "second"⟩] ∧
    (∀ c, (now.arrive (some 1) c).value.1 = false) ∧
    ∀ failure, (now.leave ⟨7, "second"⟩ failure).value.slots.inUse.toNat = 0 := by
  intro now
  have history : Service.opened.Allows (some 1) rush :=
    ⟨.arrival (by decide), .arrival (by decide), .ending (by decide) (some "reset"),
      .arrival (by decide), trivial⟩
  obtain ⟨books, counted, within, taken, arrivals, endings⟩ := slots_of_history history
  have served : now.served = [⟨7, "second"⟩] := by decide
  have one : now.slots.inUse.toNat = 1 := counted.trans (congrArg List.length served)
  refine ⟨history, books, counted, served, fun c => ?_, fun failure => ?_⟩
  · exact (arrivals c).1.2 ⟨1, rfl, congrArg List.length served⟩
  · have mem : ⟨7, "second"⟩ ∈ now.served := served ▸ List.mem_singleton_self _
    have fewer : (now.leave ⟨7, "second"⟩ failure).value.slots.inUse.toNat + 1
        = now.slots.inUse.toNat := (endings ⟨7, "second"⟩ mem failure).2
    omega

end StaticSite.Server
