import Mathlib.Data.List.Perm.Basic
import Mathlib.Logic.Relation
import PromptForm.Xml.Path

/-!
# Elements in their places

A tree is gone through from an element to its children, and below each child in the same way before the next
one: this is the order of the document. An element stands in a tree when children lead to it from the root. A
spot is an element with its place, and the same is said of spots, so that equal elements in different places
are told apart.

## Main definitions

* `Xml.Path.Spot.byParent`: spots found parent by parent, as a path of two steps finds them.

## Main results

* `Xml.Element.mem_all_iff`: the elements of a tree are those that children lead to.
* `Xml.Path.Spot.descendants_eq`: the descendants of a spot, child by child.
* `Xml.Path.Spot.induction`: what holds of a spot when it holds of its children holds of every spot.
* `Xml.Path.Spot.byParent_perm`, `Xml.Path.Spot.byParent_eq_filter`: how this differs from document order.
-/

namespace PromptForm

namespace Xml

namespace Element

/-- A statement on a tree holds when it holds of a tree whenever it holds of its children. -/
theorem induction {motive : Element → Prop}
    (step : ∀ e, (∀ child ∈ e.children, motive child) → motive e) (e : Element) : motive e := by
  obtain ⟨tag, attributes, text, children, tail⟩ := e
  refine step _ fun child hchild => ?_
  have hsize : sizeOf child < sizeOf children := List.sizeOf_lt_of_mem hchild
  exact induction step child
termination_by sizeOf e
decreasing_by
  simp only [node.sizeOf_spec]
  omega

/-- The elements of a tree are those that children lead to from its root. -/
theorem mem_all_iff {root e : Element} :
    e ∈ root.all ↔
      Relation.ReflTransGen (fun parent child : Element => child ∈ parent.children) root e := by
  constructor
  · induction root using induction with
    | step root ih =>
      intro h
      rw [all_eq, List.mem_cons, allOf_eq_flatMap, List.mem_flatMap] at h
      rcases h with rfl | ⟨child, hchild, h⟩
      · exact .refl
      · exact .head hchild (ih child hchild h)
  · intro h
    induction h using Relation.ReflTransGen.head_induction_on with
    | refl =>
      rw [all_eq]
      exact List.mem_cons_self
    | head hchild _ ih =>
      rw [all_eq, allOf_eq_flatMap]
      exact List.mem_cons_of_mem _ (List.mem_flatMap.2 ⟨_, hchild, ih⟩)

end Element

namespace Path.Spot

/-- The spots of siblings from a place on: each spot before those below it. -/
theorem allOf_eq (way : List Nat) (around : List Element) (place : Nat) (es : List Element) :
    allOf way around place es =
      (es.zipIdx place).flatMap fun sibling => all (sibling.2 :: way) around sibling.1 := by
  induction es generalizing place with
  | nil => simp [allOf]
  | cons e es ih => rw [allOf, ih, List.zipIdx_cons, List.flatMap_cons]

theorem all_eq (way : List Nat) (around : List Element) (e : Element) :
    all way around e = ⟨e, way, around⟩ :: descendants ⟨e, way, around⟩ := by
  obtain ⟨tag, attributes, text, children, tail⟩ := e
  rw [all]
  rfl

/-- The spots below a spot: each child before those below it. -/
theorem descendants_eq (s : Spot) :
    s.descendants = s.children.flatMap fun child => child :: child.descendants := by
  rw [descendants, allOf_eq, children, List.flatMap_map]
  refine List.flatMap_congr fun sibling _ => ?_
  exact all_eq ..

/-- A statement on a spot holds when it holds of a spot whenever it holds of its children. -/
theorem induction {motive : Spot → Prop}
    (step : ∀ s : Spot, (∀ child ∈ s.children, motive child) → motive s) (s : Spot) : motive s := by
  obtain ⟨e, way, around⟩ := s
  induction e using Element.induction generalizing way around with
  | step e ih =>
    refine step _ fun child hchild => ?_
    obtain ⟨sibling, hsibling, rfl⟩ := List.mem_map.1 hchild
    exact ih sibling.1 (List.fst_mem_of_mem_zipIdx hsibling) _ _

/-- The elements at the spots below a spot are the descendants of its element. -/
theorem map_element_descendants (s : Spot) :
    s.descendants.map (·.element) = s.element.descendants := by
  induction s using induction with
  | step s ih =>
    have hchildren : s.element.descendants = s.children.flatMap fun child => child.element.all := by
      rw [Element.descendants, Element.allOf_eq_flatMap, ← map_element_children, List.flatMap_map]
    rw [hchildren, descendants_eq, List.map_flatMap]
    refine List.flatMap_congr fun child hchild => ?_
    rw [List.map_cons, ih child hchild, Element.all_eq]
    rfl

/-! ### Parent by parent -/

/-- The spots below a spot that a test takes, parent by parent: the parents in document order, and the children
of each. -/
def byParent (test : Spot → Bool) (s : Spot) : List Spot :=
  (s :: s.descendants).flatMap fun parent => parent.children.filter test

theorem byParent_eq (test : Spot → Bool) (s : Spot) :
    s.byParent test = s.children.filter test ++ s.children.flatMap (byParent test) := by
  rw [byParent, List.flatMap_cons, descendants_eq, List.flatMap_assoc]
  rfl

/-- In document order each child that is taken stands before those below it. -/
theorem filter_descendants_eq (test : Spot → Bool) (s : Spot) :
    s.descendants.filter test =
      s.children.flatMap fun child => [child].filter test ++ child.descendants.filter test := by
  rw [descendants_eq, List.filter_flatMap]
  refine List.flatMap_congr fun child _ => ?_
  rw [← List.filter_append, List.singleton_append]

theorem flatMap_filter_singleton (test : Spot → Bool) (ss : List Spot) :
    (ss.flatMap fun s => [s].filter test) = ss.filter test := by
  rw [← List.filter_flatMap, List.flatMap_singleton']

/-- Parent by parent the same spots are found as in document order. -/
theorem byParent_perm (test : Spot → Bool) (s : Spot) :
    (s.byParent test).Perm (s.descendants.filter test) := by
  induction s using induction with
  | step s ih =>
    rw [byParent_eq, filter_descendants_eq, ← flatMap_filter_singleton]
    have hbelow : (s.children.flatMap (byParent test)).Perm
        (s.children.flatMap fun child => child.descendants.filter test) := .flatMap_left _ ih
    exact (hbelow.append_left _).trans (List.flatMap_append_perm ..)

/-- Parent by parent is document order, unless a parent of what is taken stands below another one. -/
theorem byParent_eq_filter {test : Spot → Bool} {s : Spot}
    (h : ∀ outer ∈ s :: s.descendants, outer.children.filter test ≠ [] →
      ∀ inner ∈ outer.descendants, inner.children.filter test = []) :
    s.byParent test = s.descendants.filter test := by
  induction s using induction with
  | step s ih =>
    rw [byParent_eq, filter_descendants_eq]
    by_cases hown : s.children.filter test = []
    · -- no child is taken, so that the children can be gone through one by one
      rw [hown, List.nil_append]
      refine List.flatMap_congr fun child hchild => ?_
      have hnot : [child].filter test = [] := by
        simpa using List.filter_eq_nil_iff.1 hown child hchild
      rw [hnot, List.nil_append]
      refine ih child hchild fun outer houter => h outer (List.mem_cons_of_mem _ ?_)
      rw [descendants_eq]
      exact List.mem_flatMap.2 ⟨child, hchild, houter⟩
    · -- nothing is taken below the children
      have hinner := h s List.mem_cons_self hown
      have hbelow : ∀ child ∈ s.children, child.byParent test = [] := by
        intro child hchild
        refine List.flatMap_eq_nil_iff.2 fun inner hmem => hinner inner ?_
        rw [descendants_eq]
        exact List.mem_flatMap.2 ⟨child, hchild, hmem⟩
      have hnone : ∀ child ∈ s.children, child.descendants.filter test = [] := by
        intro child hchild
        have hperm := byParent_perm test child
        rw [hbelow child hchild] at hperm
        exact hperm.symm.eq_nil
      rw [List.flatMap_eq_nil_iff.2 hbelow, List.append_nil, ← flatMap_filter_singleton]
      refine List.flatMap_congr fun child hchild => ?_
      rw [hnone child hchild, List.append_nil]

end Path.Spot

end Xml

end PromptForm
