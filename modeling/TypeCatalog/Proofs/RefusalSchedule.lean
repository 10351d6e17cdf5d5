import Mathlib.Data.Nat.Find
import TypeCatalog.Proofs.Delivery

/-!
# Outlets whose stream refuses calls by a schedule

A schedule says of every call whether the stream refuses it.  An outlet makes
no write or flush after the first refusal and closes its stream once, so a
schedule comes to the same as the plan that refuses the first call of each kind
that it names.
-/

namespace TypeCatalog.Document

open Text (CodeText)

/-! ## Schedules -/

/-- Which calls of each kind a stream refuses, counted from 1. -/
structure Schedule where
  write : Nat → Bool
  flush : Nat → Bool
  close : Nat → Bool

def RefusedWithin (refuses : Nat → Bool) (calls : Nat) : Prop :=
  ∃ n, 0 < n ∧ n ≤ calls ∧ refuses n = true

theorem not_refusedWithin_zero (refuses : Nat → Bool) : ¬ RefusedWithin refuses 0 := by
  rintro ⟨n, positive, last, -⟩
  omega

theorem refusedWithin_one (refuses : Nat → Bool) : RefusedWithin refuses 1 ↔ refuses 1 = true := by
  constructor
  · rintro ⟨n, positive, last, refused⟩
    have single : n = 1 := by omega
    rwa [single] at refused
  · intro refused
    exact ⟨1, Nat.one_pos, Nat.le_refl 1, refused⟩

def Outlet.withPlan (outlet : Outlet) (plan : FailurePlan) : Outlet :=
  { outlet with stream := { outlet.stream with plan } }

namespace Schedule

def Refuses (schedule : Schedule) (stream : Stream) : Prop :=
  RefusedWithin schedule.write stream.writes ∨ RefusedWithin schedule.flush stream.flushes ∨
    RefusedWithin schedule.close stream.closes

def next (schedule : Schedule) (stream : Stream) : FailurePlan where
  write := if schedule.write (stream.writes + 1) then some (stream.writes + 1) else none
  flush := if schedule.flush (stream.flushes + 1) then some (stream.flushes + 1) else none
  close := if schedule.close (stream.closes + 1) then some (stream.closes + 1) else none

def poise (schedule : Schedule) (outlet : Outlet) : Outlet :=
  outlet.withPlan (schedule.next outlet.stream)

def accept (schedule : Schedule) (outlet : Outlet) (event : Event) : Outlet :=
  ((schedule.poise outlet).accept event).1

def conduct (schedule : Schedule) (outlet : Outlet) (events : List Event) : Outlet :=
  (schedule.poise (events.foldl schedule.accept outlet)).close.1

/-! ## First refusals -/

open Classical in
noncomputable def first (refuses : Nat → Bool) : Option Nat :=
  if found : ∃ n, refuses (n + 1) = true then some (Nat.find found + 1) else none

noncomputable def plan (schedule : Schedule) : FailurePlan where
  write := first schedule.write
  flush := first schedule.flush
  close := first schedule.close

variable {refuses : Nat → Bool} {calls : Nat}

theorem isReached_first : isReached (first refuses) calls = true ↔ RefusedWithin refuses calls := by
  unfold first
  split
  · rename_i found
    constructor
    · intro reached
      have last : Nat.find found + 1 ≤ calls := by simpa [isReached] using reached
      exact ⟨Nat.find found + 1, Nat.succ_pos _, last, Nat.find_spec found⟩
    · rintro ⟨n, positive, last, refused⟩
      obtain ⟨m, rfl⟩ := Nat.exists_eq_succ_of_ne_zero (Nat.pos_iff_ne_zero.mp positive)
      have least := Nat.find_min' found refused
      have early : Nat.find found + 1 ≤ calls := by omega
      simpa [isReached] using early
  · rename_i none
    constructor
    · intro reached
      cases reached
    · rintro ⟨n, positive, last, refused⟩
      obtain ⟨m, rfl⟩ := Nat.exists_eq_succ_of_ne_zero (Nat.pos_iff_ne_zero.mp positive)
      exact absurd ⟨m, refused⟩ none

/-- After calls that were not refused, the plan decides the next one as the schedule does. -/
theorem first_next (before : isReached (first refuses) calls = false) :
    (first refuses == some (calls + 1)) = refuses (calls + 1) := by
  have steps := isReached_succ (first refuses) calls
  have reached : isReached (first refuses) (calls + 1) = true ↔ refuses (calls + 1) = true := by
    rw [isReached_first]
    constructor
    · rintro ⟨n, positive, last, refused⟩
      by_cases old : n ≤ calls
      · have early := isReached_first.mpr ⟨n, positive, old, refused⟩
        rw [before] at early
        cases early
      · have new : n = calls + 1 := by omega
        rwa [new] at refused
    · intro refused
      exact ⟨calls + 1, Nat.succ_pos _, Nat.le_refl _, refused⟩
  rw [before, Bool.toNat_false, Nat.zero_add] at steps
  have same : isReached (first refuses) (calls + 1) = (first refuses == some (calls + 1)) := by
    revert steps
    cases isReached (first refuses) (calls + 1) <;>
      cases first refuses == some (calls + 1) <;> simp
  rw [← same]
  exact Bool.eq_iff_iff.mpr reached

end Schedule

/-! ## Plans that agree on the next calls -/

namespace Outlet

variable {outlet : Outlet} {first second : FailurePlan}

theorem accept_keeps (outlet : Outlet) (event : Event) :
    (outlet.accept event).1.stream.closes = outlet.stream.closes ∧
      (outlet.accept event).1.owned = outlet.owned := by
  cases failed : outlet.failed with
  | true => simp [accept_failed failed]
  | false =>
      cases event with
      | report diagnostic => exact ⟨rfl, rfl⟩
      | line text =>
          cases refused : outlet.stream.plan.write == some (outlet.stream.writes + 1) <;>
            simp [accept, write, failed, Stream.write, refused]
      | flush =>
          cases refused : outlet.stream.plan.flush == some (outlet.stream.flushes + 1) <;>
            simp [accept, flush, failed, Stream.flush, bne, refused]

theorem owned_acceptAll (outlet : Outlet) (events : List Event) :
    (outlet.acceptAll events).1.owned = outlet.owned := by
  induction events generalizing outlet with
  | nil => rfl
  | cons event rest ih => exact (ih _).trans (outlet.accept_keeps event).2

structure SameNext (outlet : Outlet) (first second : FailurePlan) : Prop where
  write : (first.write == some (outlet.stream.writes + 1)) =
    (second.write == some (outlet.stream.writes + 1))
  flush : (first.flush == some (outlet.stream.flushes + 1)) =
    (second.flush == some (outlet.stream.flushes + 1))

theorem accept_withPlan (event : Event)
    (same : outlet.failed = false → outlet.SameNext first second) :
    ((outlet.withPlan first).accept event).1.withPlan second =
      ((outlet.withPlan second).accept event).1 := by
  cases failed : outlet.failed with
  | true => cases event <;> simp [accept, write, flush, withPlan, failed]
  | false =>
      obtain ⟨write_eq, flush_eq⟩ := same failed
      cases event with
      | report diagnostic => rfl
      | line text =>
          cases refused : second.write == some (outlet.stream.writes + 1) <;>
            rw [refused] at write_eq <;>
            simp [accept, write, withPlan, Stream.write, failed, write_eq, refused]
      | flush =>
          cases refused : second.flush == some (outlet.stream.flushes + 1) <;>
            rw [refused] at flush_eq <;>
            simp [accept, flush, withPlan, Stream.flush, failed, bne, flush_eq, refused]

def closeStream (outlet : Outlet) : Outlet :=
  { outlet with
    stream := if outlet.owned then outlet.stream.close.2 else outlet.stream
    failed := outlet.failed || outlet.owned && !outlet.stream.close.1 }

theorem close_eq (outlet : Outlet) : outlet.close.1 = (outlet.accept .flush).1.closeStream := by
  change outlet.close.1 = outlet.flush.1.closeStream
  unfold close closeStream
  rcases outlet.flush with ⟨⟨stream, name, owned, failed, bytes⟩, reports⟩
  cases owned with
  | false => simp
  | true => rcases closed : stream.close with ⟨_ | _, after⟩ <;> simp [closed]

theorem closeStream_withPlan (same : (first.close == some (outlet.stream.closes + 1)) =
      (second.close == some (outlet.stream.closes + 1))) :
    (outlet.withPlan first).closeStream.withPlan second =
      (outlet.withPlan second).closeStream := by
  cases owned : outlet.owned with
  | false => simp [closeStream, withPlan, owned]
  | true => simp [closeStream, withPlan, Stream.close, owned, bne, same]

theorem close_withPlan (same : outlet.failed = false → outlet.SameNext first second)
    (closing : (first.close == some (outlet.stream.closes + 1)) =
      (second.close == some (outlet.stream.closes + 1))) :
    ((outlet.withPlan first).close).1.withPlan second = ((outlet.withPlan second).close).1 := by
  have plan_kept := plan_accept (outlet.withPlan first) .flush
  have closes_kept := ((outlet.withPlan first).accept_keeps .flush).1
  rw [close_eq, close_eq, ← accept_withPlan .flush same]
  generalize ((outlet.withPlan first).accept .flush).1 = flushed at plan_kept closes_kept
  have same_plan : flushed = flushed.withPlan first := by
    rw [← show flushed.stream.plan = first from plan_kept]
    rfl
  rw [same_plan]
  refine closeStream_withPlan ?_
  rw [show flushed.stream.closes = outlet.stream.closes from closes_kept]
  exact closing

end Outlet

/-! ## What an outlet receives -/

structure Stream.Holds (events : List Event) (stream : Stream) : Prop where
  content_eq : stream.content = Event.document events
  writes_eq : stream.writes = (events.filterMap Event.text?).length
  flushes_eq : stream.flushes = (events.filter Event.isFlush).length

theorem Stream.Holds.snoc {events : List Event} {stream after : Stream}
    (holds : stream.Holds events) {event : Event}
    (content_eq : after.content = stream.content ++ event.text?.getD "")
    (writes_eq : after.writes = stream.writes + event.text?.isSome.toNat)
    (flushes_eq : after.flushes = stream.flushes + event.isFlush.toNat) :
    after.Holds (events ++ [event]) := by
  constructor
  · rw [content_eq, holds.content_eq]
    cases text : event.text? <;> simp [Event.document, text]
  · rw [writes_eq, holds.writes_eq]
    cases text : event.text? <;> simp [text]
  · rw [flushes_eq, holds.flushes_eq]
    cases flush : event.isFlush <;> simp [flush]

structure Outlet.Received (events : List Event) (outlet : Outlet) : Prop where
  refusals_eq : outlet.stream.refusals = outlet.failed.toNat
  closes_eq : outlet.stream.closes = 0
  holds : outlet.failed = false → outlet.stream.Holds events

namespace Outlet.Received

variable {events : List Event} {outlet : Outlet}

theorem fresh (plan : FailurePlan) (name : CodeText) (owned : Bool) :
    Outlet.Received [] { stream := { plan }, name, owned } where
  refusals_eq := (Took.fresh plan name owned).refusals_eq
  closes_eq := rfl
  holds _ := ⟨rfl, rfl, rfl⟩

theorem accept (received : outlet.Received events) (event : Event) :
    (outlet.accept event).1.Received (events ++ [event]) := by
  obtain ⟨refusals_eq, closes_eq, holds⟩ := received
  cases failed : outlet.failed with
  | true =>
      rw [accept_failed failed]
      exact ⟨refusals_eq, closes_eq, by simp [failed]⟩
  | false =>
      have before := holds failed
      cases event with
      | report diagnostic =>
          exact ⟨refusals_eq, closes_eq, fun _ => before.snoc (String.append_empty).symm rfl rfl⟩
      | line text =>
          have calls := outlet.stream.refusals_write text
          cases refused : outlet.stream.plan.write == some (outlet.stream.writes + 1) <;>
            simp only [Stream.write, refused, Bool.false_eq_true, ↓reduceIte, refusals_eq, failed,
              Bool.toNat_false, Bool.toNat_true, Bool.not_true, Bool.not_false] at calls <;>
            simp only [Outlet.accept, Outlet.write, Stream.write, failed, refused,
              Bool.false_eq_true, ↓reduceIte]
          · exact ⟨by simp [calls], closes_eq, fun _ => before.snoc rfl rfl rfl⟩
          · exact ⟨by simp [calls], closes_eq, by simp⟩
      | flush =>
          have calls := outlet.stream.refusals_flush
          cases refused : outlet.stream.plan.flush == some (outlet.stream.flushes + 1) <;>
            simp only [Stream.flush, bne, refused, refusals_eq, failed, Bool.toNat_false,
              Bool.toNat_true, Bool.not_true, Bool.not_false] at calls <;>
            simp only [Outlet.accept, Outlet.flush, Stream.flush, bne, failed, refused,
              Bool.false_eq_true, ↓reduceIte, Bool.not_true, Bool.not_false]
          · exact ⟨by simp [calls], closes_eq,
              fun _ => before.snoc (String.append_empty).symm rfl rfl⟩
          · exact ⟨by simp [calls], closes_eq, by simp⟩

theorem acceptAll (received : outlet.Received events) (later : List Event) :
    (outlet.acceptAll later).1.Received (events ++ later) := by
  induction later generalizing outlet events with
  | nil => simpa [Outlet.acceptAll] using received
  | cons event rest ih => simpa [Outlet.acceptAll] using ih (received.accept event)

end Outlet.Received

/-! ## Schedules and their plans -/

namespace Schedule

variable {schedule : Schedule} {outlet : Outlet}

theorem next_eq (refused : Bool) (call : Nat) :
    ((if refused then some call else none) == some call) = refused := by
  cases refused <;> simp

theorem sameNext (calm : (outlet.withPlan schedule.plan).stream.refusals = 0) :
    outlet.SameNext (schedule.next outlet.stream) schedule.plan := by
  have quiet : (isReached schedule.plan.write outlet.stream.writes).toNat +
      (isReached schedule.plan.flush outlet.stream.flushes).toNat = 0 := calm
  obtain ⟨writes, flushes⟩ := Nat.add_eq_zero_iff.mp quiet
  constructor
  · exact (next_eq _ _).trans (first_next (Bool.toNat_eq_zero.mp writes)).symm
  · exact (next_eq _ _).trans (first_next (Bool.toNat_eq_zero.mp flushes)).symm

theorem plan_close (schedule : Schedule) :
    (schedule.plan.close == some (0 + 1)) = schedule.close (0 + 1) :=
  first_next (eq_false_of_ne_true fun reached =>
    not_refusedWithin_zero _ (isReached_first.mp reached))

theorem accept_eq {earlier : List Event} (received : (outlet.withPlan schedule.plan).Received earlier)
    (event : Event) :
    (schedule.accept outlet event).withPlan schedule.plan =
      ((outlet.withPlan schedule.plan).accept event).1 := by
  refine Outlet.accept_withPlan event fun whole => sameNext ?_
  rw [received.refusals_eq]
  exact Bool.toNat_eq_zero.mpr whole

theorem foldl_accept {earlier : List Event}
    (received : (outlet.withPlan schedule.plan).Received earlier) (events : List Event) :
    (events.foldl schedule.accept outlet).withPlan schedule.plan =
      ((outlet.withPlan schedule.plan).acceptAll events).1 := by
  induction events generalizing outlet earlier with
  | nil => rfl
  | cons event rest ih =>
      have step := accept_eq received event
      have next := received.accept event
      rw [← step] at next
      rw [List.foldl_cons, ih next, step]
      rfl

theorem conduct_eq (received : (outlet.withPlan schedule.plan).Received []) (events : List Event) :
    (schedule.conduct outlet events).withPlan schedule.plan =
      ((outlet.withPlan schedule.plan).acceptAll events).1.close.1 := by
  have after := received.acceptAll events
  rw [← foldl_accept received events] at after ⊢
  refine Outlet.close_withPlan (fun whole => sameNext ?_) ?_
  · rw [after.refusals_eq]
    exact Bool.toNat_eq_zero.mpr whole
  · have closes_eq : (events.foldl schedule.accept outlet).stream.closes = 0 := after.closes_eq
    rw [next, closes_eq]
    exact (next_eq _ _).trans (plan_close schedule).symm

theorem refusals_pos_iff (stream : Stream) (plan_eq : stream.plan = schedule.plan) :
    0 < stream.refusals ↔
      RefusedWithin schedule.write stream.writes ∨ RefusedWithin schedule.flush stream.flushes := by
  rw [← isReached_first, ← isReached_first, Stream.refusals, plan_eq]
  change _ ↔ isReached schedule.plan.write _ = true ∨ isReached schedule.plan.flush _ = true
  cases isReached schedule.plan.write stream.writes <;>
    cases isReached schedule.plan.flush stream.flushes <;> simp

theorem closeStream_spec {events : List Event} (received : outlet.Received events)
    (plan_eq : outlet.stream.plan = schedule.plan) :
    (outlet.closeStream.failed = true ↔ schedule.Refuses outlet.closeStream.stream) ∧
      outlet.closeStream.stream.closes = outlet.owned.toNat ∧
      (outlet.closeStream.failed = false → outlet.closeStream.stream.Holds events) := by
  have early := refusals_pos_iff outlet.stream plan_eq
  have failed_eq : 0 < outlet.stream.refusals ↔ outlet.failed = true := by
    rw [received.refusals_eq]
    cases outlet.failed <;> simp
  rw [failed_eq] at early
  cases owned : outlet.owned with
  | false =>
      simp only [Outlet.closeStream, owned, Bool.false_eq_true, ↓reduceIte, Bool.false_and,
        Bool.or_false, Bool.toNat_false]
      refine ⟨?_, received.closes_eq, received.holds⟩
      rw [early, Refuses, received.closes_eq]
      simp [not_refusedWithin_zero]
  | true =>
      have last : (!outlet.stream.close.1) = schedule.close 1 := by
        simp only [Stream.close, received.closes_eq, plan_eq, bne, plan_close schedule, Bool.not_not]
      simp only [Outlet.closeStream, owned, ↓reduceIte, Bool.true_and, Bool.or_eq_true,
        Bool.or_eq_false_iff, Bool.toNat_true, last]
      refine ⟨?_, ?_, fun whole => ?_⟩
      · rw [early, Refuses, Stream.close, received.closes_eq, refusedWithin_one, or_assoc]
      · rw [Stream.close, received.closes_eq]
      · obtain ⟨content_eq, writes_eq, flushes_eq⟩ := received.holds whole.1
        exact ⟨content_eq, writes_eq, flushes_eq⟩

/-- An outlet under a schedule has failed in the end exactly if the stream has refused a call, and
if it has not, the stream has taken everything. -/
theorem conduct_spec (received : (outlet.withPlan schedule.plan).Received []) (events : List Event) :
    let closed := schedule.conduct outlet events
    (closed.failed = true ↔ schedule.Refuses closed.stream) ∧
      closed.stream.closes = outlet.owned.toNat ∧
      (closed.failed = false → closed.stream.Holds (events ++ [.flush])) := by
  intro closed
  have planned : closed.withPlan schedule.plan = _ := conduct_eq received events
  rw [Outlet.close_eq] at planned
  have flushed := (received.acceptAll events).accept .flush
  have plan_eq : (((outlet.withPlan schedule.plan).acceptAll events).1.accept .flush).1.stream.plan =
      schedule.plan := by
    rw [Outlet.plan_accept, Outlet.plan_acceptAll]
    rfl
  have owned_eq : (((outlet.withPlan schedule.plan).acceptAll events).1.accept .flush).1.owned =
      outlet.owned := by
    rw [(Outlet.accept_keeps _ _).2, Outlet.owned_acceptAll]
    rfl
  have spec := closeStream_spec flushed plan_eq
  rw [← planned, owned_eq] at spec
  obtain ⟨failed_iff, closes_eq, holds⟩ := spec
  refine ⟨failed_iff, closes_eq, fun whole => ?_⟩
  obtain ⟨content_eq, writes_eq, flushes_eq⟩ := holds whole
  exact ⟨content_eq, writes_eq, flushes_eq⟩

end Schedule

end TypeCatalog.Document
