import PuzzlePrograms.Flatten

/-!
# Steps of flattening

How a computation of flattening is taken apart: a sequence of two computations succeeds just if both do,
and so does a list of computations that run in order.
-/

namespace PuzzlePrograms.Flatten

open List Source

variable {ts classes : List String} {es : List Expr} {s s' : State}

section Steps

variable {α β : Type} {x : Flat α} {f : α → Flat β} {s s' : State}

theorem bind_run {a : α} {s₁ : State} (h : x s = .ok a s₁) : (x >>= f) s = f a s₁ := by
  simp only [bind, EStateM.bind, h]

theorem bind_eq_ok {b : β} (h : (x >>= f) s = .ok b s') : ∃ a s₁, x s = .ok a s₁ ∧ f a s₁ = .ok b s' := by
  simp only [bind, EStateM.bind] at h
  split at h
  · rename_i a s₁ hx
    exact ⟨a, s₁, hx, h⟩
  · cases h

theorem pure_eq_ok {a b : α} (h : (pure a : Flat α) s = .ok b s') : a = b ∧ s = s' := by
  cases h
  exact ⟨rfl, rfl⟩

end Steps

theorem inOrder_cons (x : Flat String) (xs : List (Flat String)) :
    inOrder (x :: xs) = (do let t ← x; let ts ← inOrder xs; return t :: ts) := by
  unfold inOrder
  rw [mapM_cons]
  rfl

theorem inOrder_cons_eq_ok {x : Flat String} {xs : List (Flat String)} (h : inOrder (x :: xs) s = .ok ts s') :
    ∃ t ts' s₁, ts = t :: ts' ∧ x s = .ok t s₁ ∧ inOrder xs s₁ = .ok ts' s' := by
  rw [inOrder_cons] at h
  obtain ⟨t, s₁, hx, h⟩ := bind_eq_ok h
  obtain ⟨ts', s₂, hxs, h⟩ := bind_eq_ok h
  obtain ⟨rfl, rfl⟩ := pure_eq_ok h
  exact ⟨t, ts', s₁, rfl, hx, hxs⟩

theorem exists_of_mem_inOrder (h : inOrder (exprTexts classes es) s = .ok ts s') {t : String} (ht : t ∈ ts) :
    ∃ e ∈ es, ∃ s₁ s₂, exprText classes e s₁ = .ok t s₂ := by
  induction es generalizing ts s with
  | nil =>
    obtain ⟨rfl, -⟩ := pure_eq_ok h
    exact absurd ht not_mem_nil
  | cons e es ih =>
    rw [exprTexts] at h
    obtain ⟨t', ts', s₁, rfl, hx, hxs⟩ := inOrder_cons_eq_ok h
    rcases mem_cons.mp ht with rfl | ht
    · exact ⟨e, mem_cons_self, s, s₁, hx⟩
    · obtain ⟨e', he', hr⟩ := ih hxs ht
      exact ⟨e', mem_cons_of_mem _ he', hr⟩

theorem mem_inOrder_name (h : inOrder (exprTexts classes es) s = .ok ts s') {x : String} (hx : .name x ∈ es) :
    x ∈ ts := by
  induction es generalizing ts s with
  | nil => exact absurd hx not_mem_nil
  | cons e es ih =>
    rw [exprTexts] at h
    obtain ⟨t, ts', s₁, rfl, he, hes⟩ := inOrder_cons_eq_ok h
    rcases mem_cons.mp hx with rfl | hx
    · rw [exprText] at he
      obtain ⟨rfl, -⟩ := pure_eq_ok he
      exact mem_cons_self
    · exact mem_cons_of_mem _ (ih hes hx)

end PuzzlePrograms.Flatten
