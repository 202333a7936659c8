import Galley.Tree.Fragment

/-!
# Places in a tree

A path names a node by its place among its siblings, and the places of the nodes above it. The
paths of a fragment in the order of the text name the nodes that the walk visits, one by one. Main
statement: `map_at?_paths`.
-/

namespace Galley

/-- The places on the way to a node, from the top. -/
abbrev Path := List Nat

/-- The path to the same place below the next sibling. -/
def Path.next : Path → Path
  | [] => []
  | i :: p => (i + 1) :: p

/-! ## 1. The node at a path -/

/-- The node at a path below a node. -/
def Node.at? (n : Node) : Path → Option Node
  | [] => some n
  | i :: p => n.content[i]?.bind fun child => child.at? p

namespace Fragment

/-- The node at a path in a fragment; the empty path names none. -/
def at? (nodes : Fragment) : Path → Option Node
  | [] => none
  | i :: p => nodes[i]?.bind fun n => n.at? p

@[simp] theorem at?_nil (nodes : Fragment) : at? nodes [] = none := rfl

theorem at?_next (n : Node) (nodes : Fragment) (p : Path) :
    at? (n :: nodes) p.next = at? nodes p := by
  cases p <;> rfl

end Fragment

/-- Below a node are its children. -/
theorem Node.at?_cons (n : Node) (i : Nat) (p : Path) :
    n.at? (i :: p) = Fragment.at? n.content (i :: p) := rfl

/-! ## 2. All paths -/

mutual

/-- The paths to a node itself and to all nodes below it, in the order of the text. -/
def Node.paths : Node → List Path
  | .text _ _ => [[]]
  | .element _ _ content => [] :: Fragment.paths content

/-- The paths to all nodes of a fragment, in the order of the text. -/
def Fragment.paths : List Node → List Path
  | [] => []
  | n :: ns => (Node.paths n).map (0 :: ·) ++ (Fragment.paths ns).map Path.next

end

theorem Node.paths_eq (n : Node) : n.paths = [] :: Fragment.paths n.content := by
  cases n <;> rfl

theorem Fragment.ne_nil_of_mem_paths {nodes : Fragment} {p : Path} (h : p ∈ paths nodes) :
    p ≠ [] := by
  induction nodes generalizing p with
  | nil => simp [paths] at h
  | cons n ns ih =>
    rw [paths] at h
    rcases List.mem_append.1 h with h | h
    · obtain ⟨q, -, rfl⟩ := List.mem_map.1 h
      exact List.cons_ne_nil 0 q
    · obtain ⟨q, hq, rfl⟩ := List.mem_map.1 h
      cases q with
      | nil => exact absurd rfl (ih hq)
      | cons i q => exact List.cons_ne_nil (i + 1) q

/-- The nodes at paths below the children of a node are those of the children. -/
theorem Node.map_at?_paths_content (n : Node) :
    (Fragment.paths n.content).map n.at? =
      (Fragment.paths n.content).map (Fragment.at? n.content) := by
  refine List.map_congr_left fun p hp => ?_
  cases p with
  | nil => exact absurd rfl (Fragment.ne_nil_of_mem_paths hp)
  | cons i p => rfl

mutual

theorem Node.map_at?_paths (n : Node) (visit : Fragment.Visit) (h : visit.node = n) :
    n.paths.map n.at? =
      ((visit :: Fragment.visitsBelow (fun _ => true) n).map Fragment.Visit.node).map some := by
  cases n with
  | text s marks => simp [Node.paths, Node.at?, Fragment.visitsBelow, h]
  | element kind attrs content =>
    have hbelow := Fragment.map_at?_pathsFrom content
      (some (.element kind attrs content)) 0
    have hcontent := Node.map_at?_paths_content (.element kind attrs content)
    simp only [Node.content] at hcontent
    rw [Node.paths, List.map_cons, hcontent, hbelow, Fragment.visitsBelow]
    simp [Node.at?, h]

/-- The paths of a fragment name the nodes that the walk visits. -/
theorem Fragment.map_at?_pathsFrom (nodes : List Node) (parent : Option Node) (index : Nat) :
    (Fragment.paths nodes).map (Fragment.at? nodes) =
      ((Fragment.visitsFrom (fun _ => true) parent index nodes).map
        Fragment.Visit.node).map some := by
  cases nodes with
  | nil => rfl
  | cons n ns =>
    have hn := Node.map_at?_paths n ⟨n, parent, index⟩ rfl
    have hns := Fragment.map_at?_pathsFrom ns parent (index + 1)
    have hzero : Fragment.at? (n :: ns) ∘ (0 :: ·) = n.at? := rfl
    have hnext : Fragment.at? (n :: ns) ∘ Path.next = Fragment.at? ns :=
      funext (Fragment.at?_next n ns)
    rw [Fragment.paths, Fragment.visitsFrom, List.map_append, List.map_map, List.map_map,
      hzero, hnext, hn, hns, ← List.map_append, ← List.map_append]

end

/-- **The paths of a fragment name all its nodes in the order of the text.** -/
theorem Fragment.map_at?_paths (nodes : Fragment) :
    (paths nodes).map (at? nodes) = (allNodes nodes).map some :=
  map_at?_pathsFrom nodes none 0

/-! ## 3. The nodes above a path -/

/-- `enter` holds of all nodes above a path, so a walk that it decides about is let in. -/
def letIn (enter : Node → Bool) (at? : Path → Option Node) (p : Path) : Bool :=
  (List.range p.length).all fun i => (at? (p.take i)).all enter

/-- Above a path are the node at the top of it and the nodes from there on. -/
theorem letIn_cons (enter : Node → Bool) (at? : Path → Option Node) (i : Nat) (p : Path) :
    letIn enter at? (i :: p) =
      ((at? []).all enter && letIn enter (fun q => at? (i :: q)) p) := by
  simp [letIn, List.range_succ_eq_map, List.all_map, Function.comp_def]

theorem letIn_zero (enter : Node → Bool) (n : Node) (ns : List Node) (p : Path) :
    letIn enter (Fragment.at? (n :: ns)) (0 :: p) = letIn enter n.at? p := by
  rw [letIn_cons]
  rfl

theorem letIn_next (enter : Node → Bool) (n : Node) (ns : List Node) (p : Path) :
    letIn enter (Fragment.at? (n :: ns)) p.next = letIn enter (Fragment.at? ns) p := by
  cases p with
  | nil => rfl
  | cons i p =>
    rw [Path.next, letIn_cons, letIn_cons]
    rfl

/-! ## 4. What a node is without its children -/

/-- What is said about a node itself: nothing about its children but how many there are. -/
inductive Shell where
  | element (kind : String) (attrs : Attrs) (children : Nat)
  | text (text : String) (marks : List Mark)

/-- The shell of a node. -/
def Node.shell : Node → Shell
  | .element kind attrs content => .element kind attrs content.length
  | .text s marks => .text s marks

/-- One attribute of a node, as its shell has it. -/
def Shell.attr? : Shell → String → Option Json
  | .element _ attrs _, name => attrs.get? name
  | .text _ _, _ => none

theorem bind_attr?_eq_shell (n : Option Node) (name : String) :
    n.bind (·.attr? name) = (n.map Node.shell).bind (·.attr? name) := by
  cases n with
  | none => rfl
  | some n => cases n <;> rfl

end Galley
