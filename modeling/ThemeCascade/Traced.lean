import ThemeCascade.Event

/-! Computations that read and change a memory and leave events behind them, as pure functions. -/

namespace ThemeCascade

/-- An answer, the events on the way to it, oldest first, and the memory afterwards. -/
structure Outcome (σ α : Type) where
  answer : α
  events : List Event
  memory : σ

def Traced (σ α : Type) : Type := σ → Outcome σ α

namespace Traced

variable {σ α β : Type}

def run (x : Traced σ α) (memory : σ) : Outcome σ α := x memory

def note (event : Event) : Traced σ Unit := fun memory => ⟨(), [event], memory⟩

instance : Monad (Traced σ) where
  pure a := fun memory => ⟨a, [], memory⟩
  bind x f := fun memory =>
    let first := x.run memory
    let second := (f first.answer).run first.memory
    ⟨second.answer, first.events ++ second.events, second.memory⟩

theorem run_pure (a : α) (memory : σ) : (pure a : Traced σ α).run memory = ⟨a, [], memory⟩ := rfl

theorem run_bind (x : Traced σ α) (f : α → Traced σ β) (memory : σ) :
    (x >>= f).run memory =
      let first := x.run memory
      let second := (f first.answer).run first.memory
      ⟨second.answer, first.events ++ second.events, second.memory⟩ := rfl

theorem ext_run {x y : Traced σ α} (h : ∀ memory, x.run memory = y.run memory) : x = y := funext h

instance : LawfulMonad (Traced σ) := LawfulMonad.mk' _
  (fun x => ext_run fun memory => by
    change (⟨(x.run memory).answer, (x.run memory).events ++ [], (x.run memory).memory⟩ :
      Outcome σ _) = x.run memory
    rw [List.append_nil])
  (fun _ _ => rfl)
  (fun x f g => ext_run fun memory => by
    simp only [run_bind, List.append_assoc])

end Traced

end ThemeCascade
