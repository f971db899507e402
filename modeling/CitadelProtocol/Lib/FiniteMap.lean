import Mathlib.Data.List.AList
import Mathlib.Data.Finset.Card

/-!
# Hash maps built from pairs

A hash map collected from a sequence of key-value pairs inserts them in order, so a later pair
replaces an earlier one of the same key. `FiniteMap.collect` models it with Mathlib's
association lists; when the keys are distinct, every pair can be looked up again.
-/

namespace FiniteMap

variable {α β : Type*} [DecidableEq α]

/-- The map holding each key with the value of its last pair. -/
def collect (pairs : List (α × β)) : AList fun _ : α => β :=
  pairs.foldl (fun m pair => m.insert pair.1 pair.2) ∅

theorem lookup_foldl_insert_of_notMem {k : α} :
    ∀ {pairs : List (α × β)} {m : AList fun _ : α => β}, k ∉ pairs.map Prod.fst →
      (pairs.foldl (fun m pair => m.insert pair.1 pair.2) m).lookup k = m.lookup k
  | [], _, _ => rfl
  | (k', v') :: rest, m, hk => by
      simp only [List.map_cons, List.mem_cons, not_or] at hk
      rw [List.foldl_cons, lookup_foldl_insert_of_notMem hk.2, AList.lookup_insert_ne hk.1]

theorem lookup_foldl_insert_of_mem {k : α} {v : β} :
    ∀ {pairs : List (α × β)} {m : AList fun _ : α => β}, (pairs.map Prod.fst).Nodup →
      (k, v) ∈ pairs → (pairs.foldl (fun m pair => m.insert pair.1 pair.2) m).lookup k = some v
  | [], _, _, hmem => by simp at hmem
  | (k', v') :: rest, m, hnodup, hmem => by
      simp only [List.map_cons, List.nodup_cons] at hnodup
      rw [List.foldl_cons]
      rcases List.mem_cons.1 hmem with heq | hrest
      · obtain ⟨rfl, rfl⟩ := Prod.mk.inj heq
        rw [lookup_foldl_insert_of_notMem hnodup.1, AList.lookup_insert]
      · exact lookup_foldl_insert_of_mem hnodup.2 hrest

/-- With distinct keys, the collected map holds every pair. -/
theorem lookup_collect_of_mem {pairs : List (α × β)} (hnodup : (pairs.map Prod.fst).Nodup)
    {k : α} {v : β} (hmem : (k, v) ∈ pairs) : (collect pairs).lookup k = some v :=
  lookup_foldl_insert_of_mem hnodup hmem

theorem mem_foldl_insert {k : α} :
    ∀ {pairs : List (α × β)} {m : AList fun _ : α => β},
      k ∈ pairs.foldl (fun m pair => m.insert pair.1 pair.2) m ↔ k ∈ m ∨ k ∈ pairs.map Prod.fst
  | [], _ => by simp
  | (k', v') :: rest, m => by
      rw [List.foldl_cons, mem_foldl_insert, AList.mem_insert]
      simp only [List.map_cons, List.mem_cons]
      tauto

/-- The collected map holds exactly the keys of the pairs. -/
theorem mem_collect {pairs : List (α × β)} {k : α} : k ∈ collect pairs ↔ k ∈ pairs.map Prod.fst := by
  rw [collect, mem_foldl_insert]
  simp [AList.notMem_empty]

/-- Removing keys in turn, as a loop of `HashMap::remove`, removes exactly those keys. -/
theorem mem_foldl_erase {k : α} :
    ∀ {keys : List α} {m : AList fun _ : α => β},
      k ∈ keys.foldl (fun m key => m.erase key) m ↔ k ∈ m ∧ k ∉ keys
  | [], _ => by simp
  | key :: rest, m => by
      rw [List.foldl_cons, mem_foldl_erase, AList.mem_erase]
      simp only [List.mem_cons, not_or]
      tauto

end FiniteMap
