import Mathlib.Data.List.Forall2

/-! # Collecting the results of a loop

Rust code that runs a fallible step on every element of a list often collects the results with
`filter_map`, dropping the steps that fail, and then compares the count with the list's length:
the loop succeeds when every step does. The lemmas here say what such a loop returns when a
relation pairs each element with the result of its step, so that a proof about the loop is a
proof about one step. A step that may also panic runs in `Option`, through `filterMapM` or
`mapM`.
-/

namespace Collect

variable {α β γ : Type*} {R : α → γ → Prop}

/-- A relation that pairs every element with some result pairs the list with a list of
results. -/
theorem exists_forall₂ : ∀ {l : List α}, (∀ a ∈ l, ∃ c, R a c) → ∃ cs, List.Forall₂ R l cs
  | [], _ => ⟨[], .nil⟩
  | a :: l, h => by
      obtain ⟨c, hc⟩ := h a List.mem_cons_self
      obtain ⟨cs, hcs⟩ := exists_forall₂ fun a' ha' => h a' (List.mem_cons_of_mem a ha')
      exact ⟨c :: cs, .cons hc hcs⟩

/-- Each result a relation pairs with an element is paired with one. -/
theorem exists_of_forall₂_of_mem :
    ∀ {l : List α} {cs : List γ}, List.Forall₂ R l cs → ∀ {c}, c ∈ cs → ∃ a ∈ l, R a c
  | _, _, .nil, _, hmem => absurd hmem List.not_mem_nil
  | _, _, .cons hc hcs, _, hmem => by
      rcases List.mem_cons.mp hmem with rfl | hmem
      · exact ⟨_, List.mem_cons_self, hc⟩
      · obtain ⟨a, ha, hR⟩ := exists_of_forall₂_of_mem hcs hmem
        exact ⟨a, List.mem_cons_of_mem _ ha, hR⟩

/-- Indexed results: where a relation pairs each indexed element with a result, the images of the
results, indexed alike, each stand at an index where the relation paired some element with
their result. -/
theorem forall₂_zipIdx_map_of_forall₂ {δ : Type*} {R : α × Nat → γ → Prop} (f : γ → δ) :
    ∀ {l : List α} {cs : List γ} {n : Nat}, List.Forall₂ R (l.zipIdx n) cs →
      List.Forall₂ (fun (x : δ × Nat) c => x.1 = f c ∧ ∃ a, R (a, x.2) c) ((cs.map f).zipIdx n) cs
  | [], [], _, _ => .nil
  | [], _ :: _, _, h => by cases h
  | _ :: _, [], _, h => by cases h
  | a :: _, _ :: _, _, .cons hc hcs => .cons ⟨rfl, a, hc⟩ (forall₂_zipIdx_map_of_forall₂ f hcs)

/-- A loop over two lists zipped, indexed: where a relation pairs each indexed element of the
second list with a result, each indexed pair holds the image of that result first. -/
theorem forall₂_zipIdx_zip {δ : Type*} {R : α × Nat → γ → Prop} (f : γ → δ) :
    ∀ {l : List α} {cs : List γ} {n : Nat}, List.Forall₂ R (l.zipIdx n) cs →
      List.Forall₂ (fun (x : (δ × α) × Nat) c => x.1.1 = f c ∧ R (x.1.2, x.2) c)
        (((cs.map f).zip l).zipIdx n) cs
  | [], [], _, _ => .nil
  | [], _ :: _, _, h => by cases h
  | _ :: _, [], _, h => by cases h
  | _ :: _, _ :: _, _, .cons hc hcs => .cons ⟨rfl, hc⟩ (forall₂_zipIdx_zip f hcs)

/-- The images of the elements after `pre`, indexed from the length of `pre`: each is the image of
the element at its index. -/
theorem forall₂_zipIdx_map_append (f : γ → α) :
    ∀ (pre cs : List γ), List.Forall₂ (fun (x : α × Nat) c => x.1 = f c ∧ (pre ++ cs)[x.2]? = some c)
      ((cs.map f).zipIdx pre.length) cs
  | _, [] => .nil
  | pre, c :: cs => by
      have hrest := forall₂_zipIdx_map_append f (pre ++ [c]) cs
      simp only [List.length_append, List.length_singleton, List.append_assoc,
        List.singleton_append] at hrest
      exact .cons ⟨rfl, by simp⟩ hrest

/-- The images of a list, indexed: each is the image of the element at its index. -/
theorem forall₂_zipIdx_map (f : γ → α) (cs : List γ) :
    List.Forall₂ (fun (x : α × Nat) c => x.1 = f c ∧ cs[x.2]? = some c) ((cs.map f).zipIdx) cs :=
  forall₂_zipIdx_map_append f [] cs

variable {f : α → Option β} {g : γ → β}

/-- A `filter_map` whose step succeeds on every element keeps every result. -/
theorem filterMap_eq_map_of_forall₂ (hf : ∀ a c, R a c → f a = some (g c)) :
    ∀ {l cs}, List.Forall₂ R l cs → l.filterMap f = cs.map g
  | _, _, .nil => rfl
  | _, _, .cons hc hcs => by
      rw [List.filterMap_cons_some (hf _ _ hc), List.map_cons, filterMap_eq_map_of_forall₂ hf hcs]

/-- A `filter_map` over the images of a list, whose step succeeds on each of them. -/
theorem filterMap_map_eq_map {p : γ → α} {cs : List γ} (hf : ∀ c ∈ cs, f (p c) = some (g c)) :
    (cs.map p).filterMap f = cs.map g := by
  rw [List.filterMap_map]
  exact filterMap_eq_map_of_forall₂ (R := fun c c' => c = c' ∧ c ∈ cs)
    (fun c _ h => h.1 ▸ hf c h.2) (List.forall₂_same.mpr fun c hc => ⟨rfl, hc⟩)

/-- A `filter_map` whose step may panic, and which panics on no element and succeeds on each. -/
theorem filterMapM_eq_map_of_forall₂ {f : α → Option (Option β)}
    (hf : ∀ a c, R a c → f a = some (some (g c))) :
    ∀ {l cs}, List.Forall₂ R l cs → l.filterMapM f = some (cs.map g)
  | _, _, .nil => rfl
  | _, _, .cons hc hcs => by
      simp only [List.filterMapM_cons, hf _ _ hc, filterMapM_eq_map_of_forall₂ hf hcs]
      rfl

/-- A `mapM` whose step succeeds on every element. -/
theorem mapM_eq_pure_map_of_forall₂ {m : Type _ → Type _} [Monad m] [LawfulMonad m]
    {f : α → m β} (hf : ∀ a c, R a c → f a = pure (g c)) :
    ∀ {l cs}, List.Forall₂ R l cs → l.mapM f = pure (cs.map g)
  | _, _, .nil => rfl
  | _, _, .cons hc hcs => by
      simp only [List.mapM_cons, hf _ _ hc, mapM_eq_pure_map_of_forall₂ hf hcs, pure_bind,
        List.map_cons]

/-- Related lists have heads that functions agreeing on related elements map alike. -/
theorem head?_map_eq_of_forall₂ {δ : Type*} {f : α → δ} {g : γ → δ}
    (hfg : ∀ a c, R a c → f a = g c) {l : List α} {cs : List γ} (h : List.Forall₂ R l cs) :
    l.head?.map f = cs.head?.map g := by
  cases h with
  | nil => rfl
  | cons hc _ => simp [hfg _ _ hc]

/-- Maps over related lists whose functions agree on related elements agree. -/
theorem mapM_congr_forall₂ {m : Type _ → Type _} [Monad m] [LawfulMonad m] {f : α → m β} {g : γ → m β} :
    ∀ {l cs}, List.Forall₂ (fun a c => f a = g c) l cs → l.mapM f = cs.mapM g
  | _, _, .nil => rfl
  | _, _, .cons hc hcs => by
      simp only [List.mapM_cons, hc, mapM_congr_forall₂ hcs]

/-- A map whose function gives every element back gives the list back. -/
theorem mapM_eq_pure_self {m : Type _ → Type _} [Monad m] [LawfulMonad m] {f : α → m α} :
    ∀ {l : List α}, (∀ a ∈ l, f a = pure a) → l.mapM f = pure l
  | [], _ => rfl
  | a :: l, hf => by
      simp only [List.mapM_cons, hf a List.mem_cons_self,
        mapM_eq_pure_self fun b hb => hf b (List.mem_cons_of_mem a hb), pure_bind]

end Collect
