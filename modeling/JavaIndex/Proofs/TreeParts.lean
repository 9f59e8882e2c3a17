import JavaIndex.Java.References
import Mathlib.Data.List.Perm.Basic

/-!
# The parts of a tree

All nodes of a tree, and those that are left when some children are passed over. Declarations of
packages and imports mention no types, and their nodes are no parts. The walk that collects the
types of a file passes over more than that: it takes class types apart by itself and looks only
for names and type arguments in them, so annotations inside a class type are never read.

A tree's parts are the ones that are read and, for each annotation that is passed over, the parts
of that annotation. Each part is in exactly one of these.

## Main definitions

* `Java.Node.reached` — the parts that are left when some children are passed over
* `Java.Node.parts` — all parts
* `Java.Node.visible`, `Java.Node.unread` — the parts that are read, and the annotations that
  are not

## Main results

* `Java.Node.parts_perm` — the parts are those reached and those below what is passed over
* `Java.Node.parts_subset` — the parts of a part
-/

namespace JavaIndex.Java

/-- Whether nodes of the kind declare a package or an import. -/
def Kind.isHeading : Kind → Bool
  | packageDeclaration | importDeclaration => true
  | _ => false

theorem Kind.isHeading_eq_false {kind : Kind} :
    kind.isHeading = false ↔ kind ≠ .packageDeclaration ∧ kind ≠ .importDeclaration := by
  cases kind <;> simp [isHeading]

/-- Whether a child of a node of the kind is passed over: annotations inside class types are. -/
def hides (kind : Kind) (child : Node) : Bool :=
  (kind == .scopedTypeIdentifier || kind == .genericType) && child.kind? == some .annotationUse

namespace Node

variable {skips : Kind → Node → Bool}

/-- Induction over trees, with a hypothesis for each child. -/
@[elab_as_elim]
theorem childInduction {motive : Node → Prop} (bare : ∀ token, motive (.bare token))
    (leaf : ∀ kind token, motive (.leaf kind token))
    (branch : ∀ kind children, (∀ child ∈ children, motive child) →
      motive (.branch kind children)) :
    ∀ node, motive node
  | .bare token => bare token
  | .leaf kind token => leaf kind token
  | .branch kind children =>
    branch kind children fun child _ => childInduction bare leaf branch child

/-! ### Parts -/

mutual

/-- The parts of a tree in source order, without the children that are passed over and all that
is below these. -/
def reached (skips : Kind → Node → Bool) : Node → List Node
  | bare token => [bare token]
  | leaf kind token => [leaf kind token]
  | branch kind children =>
    if kind.isHeading then [] else branch kind children :: reachedOfList skips kind children

/-- The parts of the children of a node. -/
def reachedOfList (skips : Kind → Node → Bool) (kind : Kind) : List Node → List Node
  | [] => []
  | child :: rest =>
    if skips kind child then reachedOfList skips kind rest
    else child.reached skips ++ reachedOfList skips kind rest

end

/-- The children that are passed over. -/
def skipped (skips : Kind → Node → Bool) : Node → List Node
  | branch kind children => children.filter (skips kind)
  | _ => []

/-- All parts of a tree. -/
def parts : Node → List Node :=
  reached fun _ _ => false

/-- The parts that are read. -/
def visible : Node → List Node :=
  reached hides

/-- The annotations that are passed over while the rest is read. -/
def unread (root : Node) : List Node :=
  root.visible.flatMap (skipped hides)

theorem reachedOfList_eq (kind : Kind) (children : List Node) :
    reachedOfList skips kind children =
      (children.filter (!skips kind ·)).flatMap (reached skips) := by
  induction children with
  | nil => rfl
  | cons child rest ih => by_cases skip : skips kind child <;> simp [reachedOfList, skip, ih]

theorem reached_branch {kind : Kind} (inside : kind.isHeading = false) (children : List Node) :
    (branch kind children).reached skips =
      branch kind children :: (children.filter (!skips kind ·)).flatMap (reached skips) := by
  simp [reached, inside, reachedOfList_eq]

theorem reached_heading {kind : Kind} (heading : kind.isHeading = true) (children : List Node) :
    (branch kind children).reached skips = [] := by
  simp [reached, heading]

theorem parts_branch {kind : Kind} (inside : kind.isHeading = false) (children : List Node) :
    (branch kind children).parts = branch kind children :: children.flatMap parts := by
  rw [parts, reached_branch inside, List.filter_eq_self.mpr (by simp)]

/-! ### What is passed over -/

/-- Passing over children loses the parts of these children, each once, and nothing else. -/
theorem parts_perm (skips : Kind → Node → Bool) (node : Node) :
    node.parts.Perm
      (node.reached skips ++ ((node.reached skips).flatMap (skipped skips)).flatMap parts) := by
  induction node using childInduction with
  | bare | leaf => exact .refl _
  | branch kind children ih =>
    cases heading : kind.isHeading with
    | true => rw [parts, reached_heading heading, reached_heading heading]; rfl
    | false =>
      rw [parts_branch heading, reached_branch heading, List.flatMap_cons, List.flatMap_append,
        skipped, List.cons_append]
      refine .cons _ ?_
      generalize keptOf : children.filter (!skips kind ·) = kept
      generalize droppedOf : children.filter (skips kind) = dropped
      have sorted : children.Perm (dropped ++ kept) := by
        subst keptOf droppedOf
        exact (List.filter_append_perm _ children).symm
      -- What is kept falls apart by the induction hypothesis, and the losses of all children
      -- are collected behind what is left of them.
      have split : (kept.flatMap parts).Perm (kept.flatMap (reached skips) ++
          ((kept.flatMap (reached skips)).flatMap (skipped skips)).flatMap parts) := by
        have each : (kept.flatMap parts).Perm (kept.flatMap fun child => child.reached skips ++
            ((child.reached skips).flatMap (skipped skips)).flatMap parts) :=
          List.Perm.flatMap_left _ fun child member =>
            ih child (List.mem_of_mem_filter (keptOf ▸ member))
        refine each.trans ((List.flatMap_append_perm ..).symm.trans (.of_eq ?_))
        simp only [List.flatMap_assoc]
      have front : (children.flatMap parts).Perm (dropped.flatMap parts ++ kept.flatMap parts) := by
        rw [← List.flatMap_append]
        exact sorted.flatMap_right parts
      exact front.trans ((split.append_left _).trans (List.perm_append_comm_assoc ..))

/-- The parts of a part are parts. -/
theorem parts_subset {node root : Node} (member : node ∈ root.parts) :
    node.parts ⊆ root.parts := by
  induction root using childInduction with
  | bare | leaf =>
    obtain rfl := List.mem_singleton.mp member
    exact List.Subset.refl _
  | branch kind children ih =>
    cases heading : kind.isHeading with
    | true => simp [parts, reached_heading heading] at member
    | false =>
      rw [parts_branch heading] at member ⊢
      rcases List.mem_cons.mp member with rfl | below
      · rw [parts_branch heading]
        exact List.Subset.refl _
      · obtain ⟨child, isChild, inChild⟩ := List.mem_flatMap.mp below
        exact fun part inside => List.mem_cons_of_mem _
          (List.mem_flatMap_of_mem isChild (ih child isChild inChild inside))

/-- Children are parts, unless the node or the child is a heading. -/
theorem mem_parts_of_mem_children {node child : Node} (inside : ¬node.kind?.any Kind.isHeading)
    (inside' : ¬child.kind?.any Kind.isHeading) (member : child ∈ node.children) :
    child ∈ node.parts := by
  have itself : child ∈ child.parts := by
    cases child with
    | bare | leaf => exact List.mem_cons_self
    | branch kind children =>
      rw [parts_branch (by simpa [kind?] using inside')]
      exact List.mem_cons_self
  cases node with
  | bare | leaf => cases member
  | branch kind children =>
    rw [parts_branch (by simpa [kind?] using inside)]
    exact List.mem_cons_of_mem _ (List.mem_flatMap_of_mem member itself)

end Node

end JavaIndex.Java
