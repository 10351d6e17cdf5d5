import TypeCatalog.Syntax.Record

/-!
# Parts of a session that agree

Two parts of a session agree from a session on when they do the same to it and
fail in the same way; their results may differ.  Agreement goes through the
steps of a part one by one.
-/

namespace TypeCatalog

open Text (CodeText)

namespace SessionPart

variable {α β γ δ : Type} {session : Session} {scope : List CodeText}

/-! ## Runs -/

theorem run_bind (part : SessionPart α) (next : α → SessionPart β) :
    (part >>= next).run session =
      match part.run session with
      | (.ok a, after) => (next a).run after
      | (.error fault, after) => (.error fault, after) := by
  change (ExceptT.bindCont next (part.run session).1) (part.run session).2 = _
  rcases part.run session with ⟨fault | a, after⟩ <;> rfl

theorem run_types : types.run session = (.ok session.types, session) := rfl

theorem run_reading (reading : Except ReadFault α) :
    (liftM reading : SessionPart α).run session = (reading.mapError .node, session) := rfl

/-! ## Agreement -/

inductive SameOutcome (post : α → β → Session → Prop) :
    Except SessionFault α × Session → Except SessionFault β × Session → Prop
  | ok {a : α} {b : β} {after : Session} (holds : post a b after) :
      SameOutcome post (.ok a, after) (.ok b, after)
  | error {fault : SessionFault} {after : Session} :
      SameOutcome post (.error fault, after) (.error fault, after)

/-- Two parts of a session that do the same from a session on, apart from their results. -/
def Agree (post : α → β → Session → Prop) (first : SessionPart α) (second : SessionPart β)
    (session : Session) : Prop :=
  SameOutcome post (first.run session) (second.run session)

theorem Agree.pure {post : α → β → Session → Prop} {a : α} {b : β} (holds : post a b session) :
    Agree post (pure a) (pure b) session :=
  .ok holds

theorem Agree.bind {post : α → β → Session → Prop} {last : γ → δ → Session → Prop}
    {first : SessionPart α} {second : SessionPart β} {next : α → SessionPart γ}
    {other : β → SessionPart δ} (agree : Agree post first second session)
    (rest : ∀ a b after, post a b after → Agree last (next a) (other b) after) :
    Agree last (first >>= next) (second >>= other) session := by
  unfold Agree at agree ⊢
  rw [run_bind, run_bind]
  generalize first.run session = outcome, second.run session = other_outcome at agree
  cases agree with
  | ok holds => exact rest _ _ _ holds
  | error => exact .error

theorem Agree.refl (part : SessionPart α) :
    Agree (fun a b after => a = b ∧ part.run session = (.ok a, after)) part part session := by
  unfold Agree
  rcases ran : part.run session with ⟨fault | a, after⟩
  · exact .error
  · exact .ok ⟨rfl, rfl⟩

theorem Agree.mono {post weaker : α → β → Session → Prop} {first : SessionPart α}
    {second : SessionPart β} (agree : Agree post first second session)
    (weaken : ∀ a b after, first.run session = (.ok a, after) → post a b after →
      weaker a b after) : Agree weaker first second session := by
  unfold Agree at agree ⊢
  generalize ran : first.run session = outcome, second.run session = other at agree
  cases agree with
  | ok holds => exact .ok (weaken _ _ _ ran holds)
  | error => exact .error

theorem Agree.same_bind {part : SessionPart α} {last : γ → δ → Session → Prop}
    {next : α → SessionPart γ} {other : α → SessionPart δ}
    (rest : ∀ a after, part.run session = (.ok a, after) → Agree last (next a) (other a) after) :
    Agree last (part >>= next) (part >>= other) session := by
  refine Agree.bind (Agree.refl part) ?_
  rintro a _ after ⟨rfl, ran⟩
  exact rest a after ran

theorem Agree.foldlM {α β : Type} {rel : β → β → Prop} {step twin : β → α → SessionPart β}
    (steps : ∀ item a b session, rel a b →
      Agree (fun a b _ => rel a b) (step a item) (twin b item) session)
    (items : List α) {a b : β} (start : rel a b) {session : Session} :
    Agree (fun a b _ => rel a b) (items.foldlM step a) (items.foldlM twin b) session := by
  induction items generalizing a b session with
  | nil => exact Agree.pure start
  | cons item rest ih =>
      rw [List.foldlM_cons, List.foldlM_cons]
      exact Agree.bind (steps item a b session start) fun _ _ _ related => ih related

inductive SameResult (rel : α → β → Prop) : Except SessionFault α → Except SessionFault β → Prop
  | ok {a : α} {b : β} (holds : rel a b) : SameResult rel (.ok a) (.ok b)
  | error {fault : SessionFault} : SameResult rel (.error fault) (.error fault)

theorem Agree.result {post : α → β → Session → Prop} {rel : γ → δ → Prop}
    {first : SessionPart α} {second : SessionPart β} {next : α → SessionPart γ}
    {other : β → SessionPart δ} (agree : Agree post first second session)
    (rest : ∀ a b after, post a b after →
      SameResult rel ((next a).run after).1 ((other b).run after).1) :
    SameResult rel ((first >>= next).run session).1 ((second >>= other).run session).1 := by
  unfold Agree at agree
  rw [run_bind, run_bind]
  generalize first.run session = outcome, second.run session = other_outcome at agree
  cases agree with
  | ok holds => exact rest _ _ _ holds
  | error => exact .error

theorem SameResult.same_bind {part : SessionPart α} {rel : γ → δ → Prop}
    {next : α → SessionPart γ} {other : α → SessionPart δ}
    (rest : ∀ a after, part.run session = (.ok a, after) →
      SameResult rel ((next a).run after).1 ((other a).run after).1) :
    SameResult rel ((part >>= next).run session).1 ((part >>= other).run session).1 := by
  refine Agree.result (Agree.refl part) ?_
  rintro a _ after ⟨rfl, ran⟩
  exact rest a after ran

/-! ## The known types -/

theorem resolve_known {name : CodeText} {type : KnownType}
    (found : session.types.lookup name scope = some type) :
    (resolve name scope).run session = (.ok (type.layout, some type), session) := by
  have known : session.types.isUnknown name scope = false := by
    simp [KnownTypes.isUnknown, found]
  have resolved : session.types.resolve name scope = (type.layout, some type) := by
    simp [KnownTypes.resolve, found]
  simp only [resolve, run_bind, run_types, known, Bool.false_eq_true, ↓reduceIte, resolved]
  rfl

theorem types_of_resolve {name : CodeText} {result : Layout × Option KnownType} {after : Session}
    (ran : (resolve name scope).run session = (.ok result, after)) :
    after.types = session.types := by
  simp only [resolve, run_bind, run_types] at ran
  split at ran
  · cases ran
    rfl
  · cases ran
    rfl

theorem types_of_reading {α : Type} {reading : Except ReadFault α} {a : α} {after : Session}
    (ran : (liftM reading : SessionPart α).run session = (.ok a, after)) :
    after.types = session.types := by
  rw [run_reading] at ran
  rw [← (Prod.mk.inj ran).2]

theorem types_of_report {level : Level} {message channel : CodeText} {after : Session}
    (ran : (report level message channel).run session = (.ok (), after)) :
    after.types = session.types := by
  cases ran
  rfl

theorem run_define (entry : KnownType) :
    ∃ after, (define entry).run session = (.ok (), after) ∧
      after.types = session.types.define entry := by
  simp only [define, run_bind, run_types]
  split
  · exact ⟨_, rfl, rfl⟩
  · exact ⟨_, rfl, rfl⟩

theorem run_defineAny (entry : Option KnownType) :
    ∃ after, (entry.forM define).run session = (.ok (), after) ∧
      after.types = (entry.map session.types.define).getD session.types := by
  rcases entry with _ | entry
  · exact ⟨session, rfl, rfl⟩
  · exact run_define entry

end SessionPart

end TypeCatalog
