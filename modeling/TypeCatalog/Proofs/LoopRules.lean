import Mathlib.Logic.Basic

/-!
# Rules for passes over lists

A rule says something about parts of a program.  If a part that does nothing
keeps it, and two parts one after the other do, so does every pass over a list
with a step that does.  A rule may also say what holds of the values of a part;
then a condition that each step of a fold preserves holds at its end.
-/

namespace TypeCatalog

variable {m : Type → Type} [Monad m] {α β : Type}

structure Composes (rule : ∀ α : Type, m α → Prop) : Prop where
  pure {α : Type} (a : α) : rule α (pure a)
  bind {α β : Type} {part : m α} {next : α → m β} (first : rule α part)
    (rest : ∀ a, rule β (next a)) : rule β (part >>= next)

/-- A rule that composes, with a condition on the values of each part. -/
structure ComposesWith (rule : ∀ α : Type, (α → Prop) → m α → Prop) : Prop where
  pure {α : Type} {post : α → Prop} {a : α} (holds : post a) : rule α post (pure a)
  bind {α β : Type} {post : α → Prop} {last : β → Prop} {part : m α} {next : α → m β}
    (first : rule α post part) (rest : ∀ a, post a → rule β last (next a)) :
    rule β last (part >>= next)

namespace Composes

variable {rule : ∀ α : Type, m α → Prop} (composes : Composes rule)

include composes

theorem forM {items : List α} {act : α → m PUnit} (each : ∀ item ∈ items, rule _ (act item)) :
    rule _ (items.forM act) := by
  induction items with
  | nil => exact composes.pure _
  | cons item rest ih =>
      obtain ⟨first, others⟩ := List.forall_mem_cons.mp each
      exact composes.bind first fun _ => ih others

theorem anyM {items : List α} {test : α → m Bool} (each : ∀ item ∈ items, rule _ (test item)) :
    rule _ (items.anyM test) := by
  induction items with
  | nil => exact composes.pure _
  | cons item rest ih =>
      obtain ⟨first, others⟩ := List.forall_mem_cons.mp each
      rw [List.anyM]
      refine composes.bind first fun found => ?_
      cases found with
      | true => exact composes.pure _
      | false => exact ih others

theorem foldlM {items : List α} {step : β → α → m β}
    (each : ∀ item ∈ items, ∀ b, rule _ (step b item)) (start : β) :
    rule _ (items.foldlM step start) := by
  induction items generalizing start with
  | nil => exact composes.pure start
  | cons item rest ih =>
      obtain ⟨first, others⟩ := List.forall_mem_cons.mp each
      rw [List.foldlM_cons]
      exact composes.bind (first start) fun b => ih others b

variable [LawfulMonad m]

theorem mapM {items : List α} {act : α → m β} (each : ∀ item ∈ items, rule _ (act item)) :
    rule _ (items.mapM act) := by
  induction items with
  | nil => exact composes.pure _
  | cons item rest ih =>
      obtain ⟨first, others⟩ := List.forall_mem_cons.mp each
      rw [List.mapM_cons]
      exact composes.bind first fun value => composes.bind (ih others) fun _ => composes.pure _

theorem filterMapM {items : List α} {act : α → m (Option β)}
    (each : ∀ item ∈ items, rule _ (act item)) : rule _ (items.filterMapM act) := by
  induction items with
  | nil => exact composes.pure _
  | cons item rest ih =>
      obtain ⟨first, others⟩ := List.forall_mem_cons.mp each
      rw [List.filterMapM_cons]
      refine composes.bind first fun found => ?_
      cases found with
      | none => exact ih others
      | some _ => exact composes.bind (ih others) fun _ => composes.pure _

end Composes

namespace ComposesWith

variable {rule : ∀ α : Type, (α → Prop) → m α → Prop} (composes : ComposesWith rule)

include composes

theorem unconditional : Composes fun α part => rule α (fun _ => True) part where
  pure _ := composes.pure trivial
  bind first rest := composes.bind first fun a _ => rest a

theorem foldlM {items : List α} {step : β → α → m β} {post : β → Prop}
    (each : ∀ item ∈ items, ∀ b, post b → rule _ post (step b item)) {start : β}
    (begun : post start) : rule _ post (items.foldlM step start) := by
  induction items generalizing start with
  | nil => exact composes.pure begun
  | cons item rest ih =>
      obtain ⟨first, others⟩ := List.forall_mem_cons.mp each
      rw [List.foldlM_cons]
      exact composes.bind (first start begun) fun b holds => ih others holds

end ComposesWith

end TypeCatalog
