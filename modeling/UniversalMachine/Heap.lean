import UniversalMachine.Word

/-!
Heaps of words, from which the least word is taken first.

A heap is a binary tree in which no word is less than the one above it. Two trees are
merged along their right edges, and the halves of each node on the way change places,
so that right edges stay short. A heap may hold the same word more than once.
-/

namespace UniversalMachine

namespace Heap

inductive Tree where
  | leaf
  | node (top : Word) (left right : Tree)

namespace Tree

def size : Tree → Nat
  | leaf => 0
  | node _ left right => left.size + right.size + 1

/-- No word of the tree is less than the bound or than a word above it. -/
def OrderedFrom (bound : Word) : Tree → Prop
  | leaf => True
  | node top left right => bound ≤ top ∧ left.OrderedFrom top ∧ right.OrderedFrom top

/-- Merges a node with a tree, given how its right half is merged with one. -/
def graft (top : Word) (left right : Tree) (mergeRight : Tree → Tree) : Tree → Tree
  | leaf => node top left right
  | node top' left' right' =>
      if top ≤ top' then node top (mergeRight (node top' left' right')) left
      else node top' (graft top left right mergeRight right') left'

def merge : Tree → Tree → Tree
  | leaf => id
  | node top left right => graft top left right (merge right)

theorem orderedFrom_mono {t : Tree} {low high : Word} (h : t.OrderedFrom high)
    (le : low ≤ high) : t.OrderedFrom low := by
  cases t with
  | leaf => trivial
  | node top left right => exact ⟨UInt32.le_trans le h.1, h.2⟩

theorem orderedFrom_graft {bound top : Word} {left right : Tree} {mergeRight : Tree → Tree}
    (h : (node top left right).OrderedFrom bound)
    (merged : ∀ t, t.OrderedFrom top → (mergeRight t).OrderedFrom top)
    (t : Tree) (ht : t.OrderedFrom bound) :
    (graft top left right mergeRight t).OrderedFrom bound := by
  induction t generalizing bound with
  | leaf => exact h
  | node top' left' right' _ ih =>
      simp only [graft]
      split
      next le => exact ⟨h.1, merged _ ⟨le, ht.2⟩, h.2.1⟩
      next gt =>
        have le : top' ≤ top := (UInt32.le_total top' top).resolve_right gt
        exact ⟨ht.1, ih ⟨le, h.2⟩ ht.2.2, ht.2.1⟩

theorem orderedFrom_merge {bound : Word} (s t : Tree) (hs : s.OrderedFrom bound)
    (ht : t.OrderedFrom bound) : (merge s t).OrderedFrom bound := by
  induction s generalizing bound t with
  | leaf => exact ht
  | node top left right _ ih =>
      exact orderedFrom_graft hs (fun t ht => ih t hs.2.2 ht) t ht

end Tree

end Heap

structure Heap where
  tree : Heap.Tree
  ordered : tree.OrderedFrom 0

namespace Heap

def empty : Heap where
  tree := .leaf
  ordered := trivial

/-- The number of words in a heap, a word counted as often as it occurs. -/
def size (h : Heap) : Nat :=
  h.tree.size

def push (h : Heap) (word : Word) : Heap where
  tree := .merge h.tree (.node word .leaf .leaf)
  ordered := Tree.orderedFrom_merge _ _ h.ordered ⟨UInt32.zero_le, trivial, trivial⟩

def pop? : Heap → Option (Word × Heap)
  | ⟨.leaf, _⟩ => none
  | ⟨.node top left right, ordered⟩ =>
      some (top, {
        tree := .merge left right
        ordered := Tree.orderedFrom_mono
          (Tree.orderedFrom_merge _ _ ordered.2.1 ordered.2.2) UInt32.zero_le })

end Heap

end UniversalMachine
