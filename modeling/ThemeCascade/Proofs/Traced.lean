import ThemeCascade.Traced

/-! # Contracts of computations with a memory

A contract fixes the answer of a computation on every memory that satisfies an invariant, and asks
that the invariant be kept. Contracts compose along the computation. -/

namespace ThemeCascade.Traced

variable {σ α β : Type} {inv : σ → Prop}

/-- On memories of the invariant the answer is `a`, and the invariant still holds afterwards. -/
def Yields (inv : σ → Prop) (x : Traced σ α) (a : α) : Prop :=
  ∀ memory, inv memory → (x.run memory).answer = a ∧ inv (x.run memory).memory

theorem yields_pure (a : α) : Yields inv (pure a) a := by
  intro memory h
  exact ⟨rfl, h⟩

theorem yields_note (event : Event) : Yields inv (note event) () := by
  intro memory h
  exact ⟨rfl, h⟩

theorem Yields.bind {x : Traced σ α} {f : α → Traced σ β} {a : α} {b : β}
    (hx : Yields inv x a) (hf : Yields inv (f a) b) : Yields inv (x >>= f) b := by
  intro memory h
  obtain ⟨hanswer, hmemory⟩ := hx memory h
  rw [run_bind]
  simp only [hanswer]
  exact hf _ hmemory

theorem yields_mapM {f : α → Traced σ β} {g : α → β} {l : List α}
    (h : ∀ a ∈ l, Yields inv (f a) (g a)) : Yields inv (l.mapM f) (l.map g) := by
  induction l with
  | nil => exact yields_pure []
  | cons a l ih =>
      rw [List.mapM_cons, List.map_cons]
      have hrest := ih fun b hb => h b (List.mem_cons_of_mem a hb)
      exact (h a (by simp)).bind (hrest.bind (yields_pure _))

end ThemeCascade.Traced
