import TableRobot.Journal.Event
/-!
# Results with their events

A result together with the events on the way to it. The events of a later step
follow those of an earlier one, and no result depends on them.
-/

namespace TableRobot

/-- A result and the events on the way to it, in order. -/
structure Logged (α : Type) where
  value : α
  events : List Event

namespace Logged

variable {α β : Type}

instance : Monad Logged where
  pure a := ⟨a, []⟩
  bind x f :=
    let y := f x.value
    ⟨y.value, x.events ++ y.events⟩
  map g x := ⟨g x.value, x.events⟩

def tell (e : Event) : Logged Unit := ⟨(), [e]⟩

@[simp] theorem value_pure (a : α) : (pure a : Logged α).value = a := rfl

@[simp] theorem events_pure (a : α) : (pure a : Logged α).events = [] := rfl

@[simp] theorem value_bind (x : Logged α) (f : α → Logged β) :
    (x >>= f).value = (f x.value).value := rfl

@[simp] theorem events_bind (x : Logged α) (f : α → Logged β) :
    (x >>= f).events = x.events ++ (f x.value).events := rfl

@[simp] theorem value_map (g : α → β) (x : Logged α) : (g <$> x).value = g x.value := rfl

@[simp] theorem events_map (g : α → β) (x : Logged α) : (g <$> x).events = x.events := rfl

@[simp] theorem value_tell (e : Event) : (tell e).value = () := rfl

@[simp] theorem events_tell (e : Event) : (tell e).events = [e] := rfl

theorem ext {x y : Logged α} (hvalue : x.value = y.value) (hevents : x.events = y.events) :
    x = y := by
  cases x
  cases y
  exact congr (congrArg mk hvalue) hevents

instance : LawfulMonad Logged :=
  .mk' Logged (fun _ => rfl) (fun _ _ => rfl) (fun _ _ _ => ext rfl (List.append_assoc ..))
    (fun _ _ => rfl) (fun _ _ => rfl) (fun _ _ => rfl) (fun _ _ => ext rfl (List.append_nil _))

theorem bind_of_value {x : Logged α} {a : α} (h : x.value = a) (f : α → Logged β) :
    x >>= f = x >>= fun _ => f a := by
  subst h
  rfl

end Logged

end TableRobot
