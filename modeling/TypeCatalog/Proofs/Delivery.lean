import TypeCatalog.Proofs.SteadyWalk

/-!
# Walks whose destination refuses a call

A destination sees the lines and flushes of a walk one by one.  From the
first call that its stream refuses it is left alone, so the stream holds the
first lines of the document, and one report tells of the refusal.  The walk
goes on as if nothing had happened.
-/

namespace TypeCatalog

open Document
open Text (CodeText)

/-! ## Refused calls -/

namespace Document

def isReached (planned : Option Nat) (calls : Nat) : Bool :=
  planned.any fun n => 0 < n && n ≤ calls

def Stream.refusals (stream : Stream) : Nat :=
  (isReached stream.plan.write stream.writes).toNat +
    (isReached stream.plan.flush stream.flushes).toNat

theorem isReached_succ (planned : Option Nat) (calls : Nat) :
    (isReached planned (calls + 1)).toNat =
      (isReached planned calls).toNat + (planned == some (calls + 1)).toNat := by
  rcases planned with _ | n
  · rfl
  have equal : (some n == some (calls + 1)) = decide (n = calls + 1) := rfl
  rw [equal]
  by_cases low : n ≤ calls
  · have other : n ≠ calls + 1 := by omega
    simp [isReached, low, other, Nat.le_succ_of_le low]
  · by_cases same : n = calls + 1
    · simp [isReached, same]
    · have high : ¬ n ≤ calls + 1 := by omega
      simp [isReached, low, high, same]

theorem Stream.refusals_write (stream : Stream) (text : String) :
    (stream.write text).2.refusals = stream.refusals + (!(stream.write text).1).toNat := by
  have next := isReached_succ stream.plan.write stream.writes
  unfold Stream.write Stream.refusals
  by_cases refused : (stream.plan.write == some (stream.writes + 1)) = true
  · simp only [refused, ↓reduceIte, next]
    simp [Nat.add_right_comm]
  · simp only [refused, Bool.false_eq_true, ↓reduceIte, next]
    simp

theorem Stream.content_write (stream : Stream) (text : String) :
    (stream.write text).2.content =
      if (stream.write text).1 then stream.content ++ text else stream.content := by
  unfold Stream.write
  by_cases refused : (stream.plan.write == some (stream.writes + 1)) = true
  · simp [refused]
  · simp [refused]

theorem Stream.refusals_flush (stream : Stream) :
    stream.flush.2.refusals = stream.refusals + (!stream.flush.1).toNat := by
  have next := isReached_succ stream.plan.flush stream.flushes
  unfold Stream.flush Stream.refusals
  dsimp only
  rw [next, bne, Bool.not_not, Nat.add_assoc]

/-! ## Events that reach an outlet -/

namespace Outlet

theorem accept_failed {outlet : Outlet} (failed : outlet.failed = true) (event : Event) :
    outlet.accept event = (outlet, event.report?.toList) := by
  cases event <;> simp [accept, write, flush, failed, Event.report?]

theorem acceptAll_append (outlet : Outlet) (early late : List Event) :
    outlet.acceptAll (early ++ late) =
      (((outlet.acceptAll early).1.acceptAll late).1,
        (outlet.acceptAll early).2 ++ ((outlet.acceptAll early).1.acceptAll late).2) := by
  induction early generalizing outlet with
  | nil => rfl
  | cons event rest ih => simp [acceptAll, ih]

theorem acceptAll_failed {outlet : Outlet} (failed : outlet.failed = true) (events : List Event) :
    (outlet.acceptAll events).1 = outlet := by
  induction events with
  | nil => rfl
  | cons event rest ih =>
      rw [acceptAll, accept_failed failed event]
      exact ih

theorem plan_accept (outlet : Outlet) (event : Event) :
    (outlet.accept event).1.stream.plan = outlet.stream.plan := by
  by_cases failed : outlet.failed = true
  · rw [accept_failed failed]
  cases event with
  | report diagnostic => rfl
  | line text =>
      by_cases refused : (outlet.stream.plan.write == some (outlet.stream.writes + 1)) = true <;>
        simp [accept, write, failed, Stream.write, refused]
  | flush =>
      by_cases refused : (outlet.stream.plan.flush == some (outlet.stream.flushes + 1)) = true <;>
        simp [accept, flush, failed, Stream.flush, bne, refused]

theorem plan_acceptAll (outlet : Outlet) (events : List Event) :
    (outlet.acceptAll events).1.stream.plan = outlet.stream.plan := by
  induction events generalizing outlet with
  | nil => rfl
  | cons event rest ih => exact (ih _).trans (outlet.plan_accept event)

end Outlet

def isOfOutlet (diagnostic : Diagnostic) : Bool :=
  diagnostic.channel == Channel.outlet

/-- What an outlet and its reports have to do with the events that it was passed. -/
structure Outlet.Took (events : List Event) (outlet : Outlet) (reports : List Diagnostic) :
    Prop where
  begins : ∃ count,
    outlet.stream.content = String.join ((events.filterMap Event.text?).take count)
  complete : outlet.failed = false → outlet.stream.content = Event.document events
  bytes_eq : outlet.bytes = Text.Utf8.length outlet.stream.content.toList
  refusals_eq : outlet.stream.refusals = outlet.failed.toNat
  one_report : (reports.filter isOfOutlet).length = outlet.failed.toNat
  refusal : ∀ report ∈ reports.filter isOfOutlet,
    report = outlet.failure .write ∨ report = outlet.failure .flush
  inner_eq : reports.filter (!isOfOutlet ·) = events.filterMap Event.report?

namespace Outlet.Took

theorem fresh (plan : FailurePlan) (name : CodeText) (owned : Bool) :
    Took [] { stream := { plan }, name, owned } [] where
  begins := ⟨0, rfl⟩
  complete _ := rfl
  bytes_eq := rfl
  refusals_eq := by
    have none_yet (planned : Option Nat) : isReached planned 0 = false := by
      rcases planned with _ | n
      · rfl
      · simp [isReached, Nat.pos_iff_ne_zero]
    simp [Stream.refusals, none_yet]
  one_report := rfl
  refusal := by simp
  inner_eq := rfl

variable {events : List Event} {outlet : Outlet} {reports : List Diagnostic}

theorem begins_snoc (took : outlet.Took events reports) (event : Event) :
    ∃ count, outlet.stream.content =
      String.join (((events ++ [event]).filterMap Event.text?).take count) := by
  obtain ⟨count, content_eq⟩ := took.begins
  refine ⟨min count (events.filterMap Event.text?).length, ?_⟩
  rw [content_eq, List.filterMap_append, List.take_append_of_le_length (Nat.min_le_right _ _),
    ← List.take_take, List.take_length]

theorem write_taken (took : outlet.Took events reports) (whole : outlet.failed = false)
    {text : String} {stream : Stream} (taken : outlet.stream.write text = (true, stream)) :
    Took (events ++ [.line text])
      { outlet with stream, bytes := outlet.bytes + Text.Utf8.length text.toList } reports := by
  have content_eq : stream.content = outlet.stream.content ++ text := by
    simpa [taken] using outlet.stream.content_write text
  have written : stream.content = Event.document (events ++ [.line text]) := by
    rw [content_eq, took.complete whole]
    simp [Event.document, Event.text?]
  have calls := outlet.stream.refusals_write text
  rw [taken] at calls
  refine ⟨⟨((events ++ [Event.line text]).filterMap Event.text?).length, ?_⟩, fun _ => written, ?_, ?_,
    took.one_report, took.refusal, ?_⟩
  · rw [List.take_length]
    exact written
  · simp [content_eq, took.bytes_eq, Text.Utf8.length, Text.Utf8.encode]
  · exact calls.trans took.refusals_eq
  · rw [List.filterMap_append, took.inner_eq]
    exact (List.append_nil _).symm

theorem refused (took : outlet.Took events reports) (whole : outlet.failed = false)
    (event : Event) {stream : Stream} {operation : StreamCall} (silent : event.report? = none)
    (call : operation = .write ∨ operation = .flush)
    (content_eq : stream.content = outlet.stream.content)
    (calls : stream.refusals = outlet.stream.refusals + 1) :
    Took (events ++ [event]) { outlet with stream, failed := true }
      (reports ++ [outlet.failure operation]) := by
  have own : isOfOutlet (outlet.failure operation) = true := beq_self_eq_true _
  have none_before : reports.filter isOfOutlet = [] := by
    rw [← List.length_eq_zero_iff, took.one_report, whole]
    rfl
  refine ⟨?_, by simp, ?_, ?_, ?_, ?_, ?_⟩
  · simpa [content_eq] using took.begins_snoc event
  · simpa [content_eq] using took.bytes_eq
  · simp [calls, took.refusals_eq, whole]
  · simp [none_before, own]
  · rintro report among
    have is_failure : report = outlet.failure operation := by
      simpa [none_before, own] using among
    rw [is_failure]
    rcases call with rfl | rfl
    · exact .inl rfl
    · exact .inr rfl
  · simp [own, silent, took.inner_eq]

theorem passed (took : outlet.Took events reports) (event : Event) (inner : Walk.IsInner event)
    (silent : outlet.failed = true ∨ event.text? = none) :
    Took (events ++ [event]) outlet (reports ++ event.report?.toList) := by
  have others : event.report?.toList.filter isOfOutlet = [] := by
    cases event with
    | line | flush => rfl
    | report diagnostic =>
        have other : isOfOutlet diagnostic = false := beq_false_of_ne inner
        simp [Event.report?, other]
  have all : event.report?.toList.filter (!isOfOutlet ·) = event.report?.toList := by
    cases event with
    | line | flush => rfl
    | report diagnostic =>
        have other : isOfOutlet diagnostic = false := beq_false_of_ne inner
        simp [Event.report?, other]
  refine ⟨took.begins_snoc event, ?_, took.bytes_eq, took.refusals_eq, ?_, ?_, ?_⟩
  · intro whole
    rcases silent with failed | no_text
    · rw [whole] at failed
      cases failed
    · rw [took.complete whole]
      simp [Event.document, no_text]
  · rw [List.filter_append, others, List.append_nil]
    exact took.one_report
  · rw [List.filter_append, others, List.append_nil]
    exact took.refusal
  · rw [List.filter_append, all, took.inner_eq, List.filterMap_append]
    cases event <;> rfl

theorem accept (took : outlet.Took events reports) {event : Event} (inner : Walk.IsInner event) :
    Took (events ++ [event]) (outlet.accept event).1 (reports ++ (outlet.accept event).2) := by
  by_cases failed : outlet.failed = true
  · rw [accept_failed failed]
    exact took.passed event inner (.inl failed)
  have whole := Bool.eq_false_iff.mpr failed
  cases event with
  | report diagnostic => exact took.passed _ inner (.inr rfl)
  | line text =>
      have calls := outlet.stream.refusals_write text
      rcases reached : outlet.stream.write text with ⟨_ | _, stream⟩
      · have content_eq : stream.content = outlet.stream.content := by
          simpa [reached] using outlet.stream.content_write text
        rw [reached] at calls
        simpa [Outlet.accept, Outlet.write, whole, reached] using
          took.refused whole (.line text) rfl (.inl rfl) content_eq calls
      · simpa [Outlet.accept, Outlet.write, whole, reached] using took.write_taken whole reached
  | flush =>
      have calls := outlet.stream.refusals_flush
      have content_eq : outlet.stream.flush.2.content = outlet.stream.content := rfl
      rcases reached : outlet.stream.flush with ⟨_ | _, stream⟩
      · rw [reached] at calls content_eq
        simpa [Outlet.accept, Outlet.flush, whole, reached] using
          took.refused whole .flush rfl (.inr rfl) content_eq calls
      · rw [reached] at calls content_eq
        have after : Took events { outlet with stream } reports :=
          ⟨content_eq ▸ took.begins, fun h => content_eq.trans (took.complete h),
            content_eq ▸ took.bytes_eq, calls.trans took.refusals_eq, took.one_report,
            took.refusal, took.inner_eq⟩
        simpa [Outlet.accept, Outlet.flush, whole, reached, Event.report?] using
          after.passed .flush trivial (.inr rfl)

theorem acceptAll (took : outlet.Took events reports) {later : List Event}
    (inner : ∀ event ∈ later, Walk.IsInner event) :
    Took (events ++ later) (outlet.acceptAll later).1 (reports ++ (outlet.acceptAll later).2) := by
  induction later generalizing outlet events reports with
  | nil => simpa [Outlet.acceptAll] using took
  | cons event rest ih =>
      obtain ⟨first, others⟩ := List.forall_mem_cons.mp inner
      simpa [Outlet.acceptAll] using ih (took.accept first) others

theorem whole_of_plan (took : outlet.Took events reports) (plan_eq : outlet.stream.plan = {}) :
    outlet.failed = false := by
  have refusals := took.refusals_eq
  simp only [Stream.refusals, plan_eq, isReached, Option.any_none, Bool.toNat_false] at refusals
  exact Bool.toNat_eq_zero.mp refusals.symm

theorem filter_inner (took : outlet.Took events reports) (whole : outlet.failed = false) :
    reports.filter (!isOfOutlet ·) = reports := by
  have none_of_it : reports.filter isOfOutlet = [] := by
    rw [← List.length_eq_zero_iff, took.one_report, whole]
    rfl
  simpa [List.filter_eq_self, List.filter_eq_nil_iff] using none_of_it

end Outlet.Took

end Document

/-! ## Delivered walks -/

structure Delivery where
  result : Except WalkFault Unit
  catalog : Catalog
  outlet : Outlet
  counts : List Nat
  reports : List Diagnostic

/-- Walks over groups and ends the document.  What one group brings about has reached the
outlet before the next one is begun. -/
def Catalog.deliver (catalog : Catalog) (outlet : Outlet) : List (List Declaration) → Delivery
  | [] =>
    let step := catalog.finish
    let (after, reports) := outlet.acceptAll step.events
    ⟨step.result, step.catalog, after, [], reports⟩
  | group :: rest =>
    let step := catalog.documentGroup group
    let (after, reports) := outlet.acceptAll step.events
    match step.result with
    | .error fault => ⟨.error fault, step.catalog, after, [], reports⟩
    | .ok count =>
      let later := step.catalog.deliver after rest
      { later with counts := count :: later.counts, reports := reports ++ later.reports }

theorem Walk.document_group (group : List Declaration) (rest : List (List Declaration)) :
    Walk.document (group :: rest) = (do let _ ← Walk.documentGroup group; Walk.document rest) := by
  simp only [Walk.document, List.forM_eq_forM, List.forM_cons, Walk.discard_bind, bind_assoc]

theorem Catalog.deliver_eq (catalog : Catalog) (outlet : Outlet)
    (groups : List (List Declaration)) :
    ∃ counts, catalog.deliver outlet groups =
      ⟨(catalog.perform (Walk.document groups)).result,
        (catalog.perform (Walk.document groups)).catalog,
        (outlet.acceptAll (catalog.perform (Walk.document groups)).events).1, counts,
        (outlet.acceptAll (catalog.perform (Walk.document groups)).events).2⟩ := by
  induction groups generalizing catalog outlet with
  | nil => exact ⟨[], rfl⟩
  | cons group rest ih =>
      rw [Walk.document_group, catalog.perform_bind _ fun _ => Walk.steady_document rest]
      simp only [Catalog.deliver, Catalog.documentGroup]
      rcases catalog.perform (Walk.documentGroup group) with ⟨fault | count, middle, early⟩
      · exact ⟨[], rfl⟩
      · obtain ⟨counts, later⟩ := ih middle (outlet.acceptAll early).1
        refine ⟨count :: counts, ?_⟩
        simp only [later, Step.followedBy, Outlet.acceptAll_append]

theorem Catalog.counts_deliver (catalog : Catalog) (first second : Outlet)
    (groups : List (List Declaration)) :
    (catalog.deliver first groups).counts = (catalog.deliver second groups).counts := by
  induction groups generalizing catalog first second with
  | nil => rfl
  | cons group rest ih =>
      simp only [Catalog.deliver]
      rcases (catalog.documentGroup group).result with fault | count
      · rfl
      · exact congrArg (count :: ·) (ih _ _ _)

theorem Catalog.deliver_took (catalog : Catalog) (plan : FailurePlan) (name : CodeText)
    (owned : Bool) (groups : List (List Declaration)) :
    (catalog.deliver { stream := { plan }, name, owned } groups).outlet.Took
      (catalog.perform (Walk.document groups)).events
      (catalog.deliver { stream := { plan }, name, owned } groups).reports := by
  have inner := (Walk.steady_document groups).perform_isInner catalog
  obtain ⟨counts, delivered⟩ := catalog.deliver_eq { stream := { plan }, name, owned } groups
  rw [delivered]
  exact (Outlet.Took.fresh plan name owned).acceptAll inner

theorem Catalog.deliver_whole (catalog : Catalog) (name : CodeText) (owned : Bool)
    (groups : List (List Declaration)) :
    (catalog.deliver { name, owned } groups).outlet.failed = false := by
  have took := catalog.deliver_took {} name owned groups
  obtain ⟨counts, delivered⟩ := catalog.deliver_eq { name, owned } groups
  apply took.whole_of_plan
  rw [delivered]
  exact Outlet.plan_acceptAll _ _

/-- A run with a stream that may refuse calls, beside the same run with one that refuses none.
The stream holds the first lines of the document, and exactly their bytes are counted; after a
refusal the outlet and its stream stay as they are; a refusal is reported once; and the walk,
with the numbers of its groups and its own reports, is the same. -/
theorem deliver_withstands (groups : List (List Declaration)) (dumpAll : Bool)
    (tagNames : List CodeText) (plan : FailurePlan) (name : CodeText) (owned : Bool) :
    let fresh : Catalog := { dumpAll, tagNames }
    let destination : Outlet := { stream := { plan }, name, owned }
    let perfect := fresh.deliver { name, owned } groups
    let actual := fresh.deliver destination groups
    let events := (documentGroups groups dumpAll tagNames).events
    let refusals := actual.reports.filter isOfOutlet
    perfect.outlet.stream.content = Event.document events ∧
      (∃ count, actual.outlet.stream.content =
        String.join ((events.filterMap Event.text?).take count)) ∧
      actual.outlet.bytes = Text.Utf8.length actual.outlet.stream.content.toList ∧
      (∀ early late, events = early ++ late → (destination.acceptAll early).1.failed = true →
        actual.outlet = (destination.acceptAll early).1) ∧
      refusals.length = actual.outlet.stream.refusals ∧ refusals.length ≤ 1 ∧
      (∀ report ∈ refusals,
        report = actual.outlet.failure .write ∨ report = actual.outlet.failure .flush) ∧
      actual.result = perfect.result ∧ actual.catalog = perfect.catalog ∧
      actual.counts = perfect.counts ∧ actual.reports.filter (!isOfOutlet ·) = perfect.reports := by
  intro fresh destination perfect actual events refusals
  obtain ⟨counts, actual_eq⟩ := fresh.deliver_eq destination groups
  obtain ⟨counts', perfect_eq⟩ := fresh.deliver_eq { name, owned } groups
  have took : actual.outlet.Took events actual.reports := fresh.deliver_took plan name owned groups
  have took' : perfect.outlet.Took events perfect.reports := fresh.deliver_took {} name owned groups
  have whole : perfect.outlet.failed = false := fresh.deliver_whole name owned groups
  refine ⟨took'.complete whole, took.begins, took.bytes_eq, ?_, ?_, ?_, took.refusal, ?_, ?_,
    fresh.counts_deliver _ _ groups, ?_⟩
  · intro early late events_eq failed
    have last : actual.outlet = (destination.acceptAll events).1 :=
      congrArg Delivery.outlet actual_eq
    rw [last, events_eq, Outlet.acceptAll_append]
    exact Outlet.acceptAll_failed failed late
  · rw [took.one_report, took.refusals_eq]
  · rw [took.one_report]
    exact Bool.toNat_le _
  · exact (congrArg Delivery.result actual_eq).trans (congrArg Delivery.result perfect_eq).symm
  · exact (congrArg Delivery.catalog actual_eq).trans (congrArg Delivery.catalog perfect_eq).symm
  · rw [took.inner_eq, ← took'.inner_eq]
    exact took'.filter_inner whole

end TypeCatalog
