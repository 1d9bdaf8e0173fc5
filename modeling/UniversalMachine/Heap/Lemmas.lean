import Mathlib
import UniversalMachine.Heap

/-!
The words of a heap as a multiset: pushing adds one occurrence of a word, and taking from
a heap removes one occurrence of a word to which none in the heap is inferior.
-/

namespace UniversalMachine.Heap

namespace Tree

def words : Tree → Multiset Word
  | leaf => 0
  | node top left right => top ::ₘ (left.words + right.words)

theorem card_words (t : Tree) : t.words.card = t.size := by
  induction t with
  | leaf => rfl
  | node top left right ihl ihr =>
      simp only [words, size, Multiset.card_cons, Multiset.card_add, ihl, ihr]

theorem le_of_mem_words {t : Tree} {bound w : Word} (h : t.OrderedFrom bound)
    (hw : w ∈ t.words) : bound ≤ w := by
  induction t generalizing bound with
  | leaf => exact absurd hw (Multiset.notMem_zero w)
  | node top left right ihl ihr =>
      rcases Multiset.mem_cons.mp hw with rfl | hw
      · exact h.1
      · rcases Multiset.mem_add.mp hw with hw | hw
        · exact UInt32.le_trans h.1 (ihl h.2.1 hw)
        · exact UInt32.le_trans h.1 (ihr h.2.2 hw)

theorem words_graft (top : Word) (left right : Tree) {mergeRight : Tree → Tree}
    (merged : ∀ t, (mergeRight t).words = right.words + t.words) (t : Tree) :
    (graft top left right mergeRight t).words = (node top left right).words + t.words := by
  induction t with
  | leaf => exact (add_zero _).symm
  | node top' left' right' _ ih =>
      simp only [graft]
      split <;> simp only [words, merged, ih, ← Multiset.singleton_add] <;> abel

theorem words_merge (s t : Tree) : (merge s t).words = s.words + t.words := by
  induction s generalizing t with
  | leaf => exact (zero_add _).symm
  | node top left right _ ih => exact words_graft top left right ih t

end Tree

/-- The words of a heap, each as often as it occurs. -/
def words (h : Heap) : Multiset Word :=
  h.tree.words

@[simp]
theorem words_empty : empty.words = 0 := rfl

@[simp]
theorem card_words (h : Heap) : h.words.card = h.size :=
  h.tree.card_words

@[simp]
theorem words_push (h : Heap) (w : Word) : (h.push w).words = w ::ₘ h.words := by
  simp only [words, push, Tree.words_merge, Tree.words, add_zero, Multiset.add_cons]

theorem words_of_pop?_eq_none {h : Heap} (popped : h.pop? = none) : h.words = 0 := by
  obtain ⟨tree, ordered⟩ := h
  cases tree with
  | leaf => rfl
  | node top left right => exact absurd popped (Option.some_ne_none _)

theorem words_of_pop?_eq_some {h rest : Heap} {w : Word} (popped : h.pop? = some (w, rest)) :
    h.words = w ::ₘ rest.words := by
  obtain ⟨tree, ordered⟩ := h
  cases tree with
  | leaf => exact absurd popped.symm (Option.some_ne_none _)
  | node top left right =>
      obtain ⟨rfl, rfl⟩ := Prod.mk.inj (Option.some.inj popped)
      simp only [words, Tree.words, Tree.words_merge]

theorem le_of_pop?_eq_some {h rest : Heap} {w x : Word} (popped : h.pop? = some (w, rest))
    (hx : x ∈ h.words) : w ≤ x := by
  obtain ⟨tree, ordered⟩ := h
  cases tree with
  | leaf => exact absurd hx (Multiset.notMem_zero x)
  | node top left right =>
      obtain ⟨rfl, rfl⟩ := Prod.mk.inj (Option.some.inj popped)
      have top : (Tree.node top left right).OrderedFrom top := ⟨UInt32.le_refl top, ordered.2⟩
      exact Tree.le_of_mem_words top hx

end UniversalMachine.Heap
