import Galley.Proofs.Tree.Path
import Mathlib.Data.List.Forall2
import Mathlib.Data.List.Infix

/-!
# The walk over a tree

The walk goes through the places of a fragment in the order of the text, which is the
lexicographic order of their paths: a node comes before what is below it, and what is below it
before its next sibling. Left out are the places below a node that the walk is not let into, and
nothing else. Every visit knows the node that stands above its own, and the place among the
children of that node. Main statement: `visits_in_order`.
-/

namespace Galley

/-! ## 1. Places in order -/

/-- A path of the same length that begins `k` siblings further on. -/
def Path.shift (k : Nat) : Path → Path
  | [] => []
  | i :: p => (k + i) :: p

@[simp] theorem Path.shift_zero (p : Path) : p.shift 0 = p := by
  cases p with
  | nil => rfl
  | cons i p => simp [Path.shift]

theorem Path.shift_next (k : Nat) (p : Path) : p.next.shift k = p.shift (k + 1) := by
  cases p with
  | nil => rfl
  | cons i p =>
    show (k + (i + 1)) :: p = (k + 1 + i) :: p
    rw [show k + (i + 1) = k + 1 + i by omega]

theorem Path.next_lt_next {p q : Path} (h : p < q) : p.next < q.next := by
  cases q with
  | nil => exact absurd h (List.not_lt_nil p)
  | cons j q =>
    cases p with
    | nil => exact List.nil_lt_cons (j + 1) q
    | cons i p =>
      rw [List.cons_lt_cons_iff] at h
      refine List.cons_lt_cons_iff.2 (h.imp Nat.succ_lt_succ fun ⟨hij, hpq⟩ => ⟨?_, hpq⟩)
      rw [hij]

namespace Fragment

/-- A path leads to the node at one place among the nodes and from there on. -/
theorem mem_paths_cons_iff (nodes : Fragment) (i : Nat) (p : Path) :
    i :: p ∈ paths nodes ↔ ∃ n, nodes[i]? = some n ∧ p ∈ n.paths := by
  induction nodes generalizing i with
  | nil => simp [paths]
  | cons n ns ih =>
    rw [paths, List.mem_append, List.mem_map, List.mem_map]
    cases i with
    | zero =>
      -- a path among the other nodes does not begin with the first place
      have hnext : ¬ ∃ q ∈ paths ns, Path.next q = 0 :: p := by
        intro ⟨q, hq, he⟩
        cases q with
        | nil => exact ne_nil_of_mem_paths hq rfl
        | cons j q => exact absurd (List.cons.inj he).1 (Nat.succ_ne_zero j)
      rw [or_iff_left hnext]
      simp
    | succ i =>
      have hnext : (∃ q ∈ paths ns, Path.next q = (i + 1) :: p) ↔ i :: p ∈ paths ns := by
        constructor
        · intro ⟨q, hq, he⟩
          cases q with
          | nil => exact absurd rfl (ne_nil_of_mem_paths hq)
          | cons j q =>
            obtain ⟨hj, hp⟩ := List.cons.inj he
            rw [← Nat.succ.inj hj, ← hp]
            exact hq
        · intro h
          exact ⟨i :: p, h, rfl⟩
      have hzero : ¬ ∃ q ∈ n.paths, (0 :: q : Path) = (i + 1) :: p := by
        intro ⟨q, _, he⟩
        exact absurd (List.cons.inj he).1 (Nat.succ_ne_zero i).symm
      rw [or_iff_right hzero, hnext, ih, List.getElem?_cons_succ]

end Fragment

theorem Node.mem_paths_iff (n : Node) (p : Path) : p ∈ n.paths ↔ (n.at? p).isSome := by
  induction p generalizing n with
  | nil => simp [Node.paths_eq, Node.at?]
  | cons i p ih =>
    rw [Node.paths_eq, List.mem_cons, or_iff_right (List.cons_ne_nil i p),
      Fragment.mem_paths_cons_iff, Node.at?]
    cases n.content[i]? with
    | none => simp
    | some child => simp [ih]

/-- **The paths of a fragment are those that lead to a node.** -/
theorem Fragment.mem_paths_iff (nodes : Fragment) (p : Path) :
    p ∈ paths nodes ↔ (at? nodes p).isSome := by
  cases p with
  | nil => exact iff_of_false (fun h => ne_nil_of_mem_paths h rfl) (by simp)
  | cons i p =>
    rw [mem_paths_cons_iff, at?]
    cases nodes[i]? with
    | none => simp
    | some n => simp [Node.mem_paths_iff]

mutual

theorem Node.pairwise_paths (n : Node) : n.paths.Pairwise (· < ·) := by
  cases n with
  | text s marks => exact List.pairwise_singleton _ _
  | element kind attrs content =>
    rw [Node.paths]
    refine List.Pairwise.cons (fun p hp => ?_) (Fragment.pairwise_paths content)
    cases p with
    | nil => exact absurd rfl (Fragment.ne_nil_of_mem_paths hp)
    | cons i p => exact List.nil_lt_cons i p

/-- **The paths of a fragment stand in lexicographic order**, so none stands there twice. -/
theorem Fragment.pairwise_paths (nodes : List Node) :
    (Fragment.paths nodes).Pairwise (· < ·) := by
  cases nodes with
  | nil => exact List.Pairwise.nil
  | cons n ns =>
    rw [Fragment.paths, List.pairwise_append, List.pairwise_map, List.pairwise_map]
    refine ⟨?_, ?_, ?_⟩
    · refine (Node.pairwise_paths n).imp fun {p q} h => ?_
      exact List.cons_lt_cons_iff.2 (Or.inr ⟨rfl, h⟩)
    · exact (Fragment.pairwise_paths ns).imp Path.next_lt_next
    · intro p hp q hq
      obtain ⟨p', _, rfl⟩ := List.mem_map.1 hp
      obtain ⟨q', hq', rfl⟩ := List.mem_map.1 hq
      cases q' with
      | nil => exact absurd rfl (Fragment.ne_nil_of_mem_paths hq')
      | cons i q' => exact List.cons_lt_cons_iff.2 (Or.inl (Nat.succ_pos i))

end

/-! ## 2. The places that are visited -/

/-- The paths of a fragment at which the walk arrives. -/
def Fragment.visited (enter : Node → Bool) (nodes : Fragment) : List Path :=
  (paths nodes).filter (letIn enter (at? nodes))

theorem letIn_iff {enter : Node → Bool} {at? : Path → Option Node} {p : Path} :
    letIn enter at? p = true ↔
      ∀ (q : Path) (n : Node), q <+: p → q ≠ p → at? q = some n → enter n = true := by
  unfold letIn
  rw [List.all_eq_true]
  constructor
  · intro h q n hq hne hn
    have hlt : q.length < p.length :=
      Nat.lt_of_le_of_ne hq.length_le fun he => hne (hq.eq_of_length he)
    have hall := h q.length (List.mem_range.2 hlt)
    rw [← List.prefix_iff_eq_take.1 hq, hn] at hall
    exact hall
  · intro h i hi
    have hi' : i < p.length := List.mem_range.1 hi
    cases hn : at? (p.take i) with
    | none => rfl
    | some n =>
      refine h (p.take i) n (List.take_prefix i p) (fun he => ?_) hn
      have hlength := congrArg List.length he
      rw [List.length_take] at hlength
      omega

/-- The paths below a node at which the walk arrives. -/
def Node.visitedBelow (enter : Node → Bool) (n : Node) : List Path :=
  (Fragment.paths n.content).filter (letIn enter n.at?)

/-- Below a node that the walk is let into it arrives where it does among the children; below any
    other node it arrives nowhere. -/
theorem Node.visitedBelow_eq (enter : Node → Bool) (n : Node) :
    n.visitedBelow enter = if enter n then Fragment.visited enter n.content else [] := by
  have hletIn : ∀ p ∈ Fragment.paths n.content,
      letIn enter n.at? p = (enter n && letIn enter (Fragment.at? n.content) p) := by
    intro p hp
    cases p with
    | nil => exact absurd rfl (Fragment.ne_nil_of_mem_paths hp)
    | cons i p =>
      rw [letIn_cons, letIn_cons]
      rfl
  unfold Node.visitedBelow Fragment.visited
  rw [List.filter_congr hletIn]
  by_cases h : enter n = true
  · simp [h]
  · simp [h]

/-- The walk arrives at the first node, below it, and at the nodes behind it. -/
theorem Fragment.visited_cons (enter : Node → Bool) (n : Node) (ns : List Node) :
    visited enter (n :: ns) =
      [0] :: (n.visitedBelow enter).map (0 :: ·) ++ (visited enter ns).map Path.next := by
  have hzero : letIn enter (at? (n :: ns)) ∘ (0 :: ·) = letIn enter n.at? :=
    funext (letIn_zero enter n ns)
  have hnext : letIn enter (at? (n :: ns)) ∘ Path.next = letIn enter (at? ns) :=
    funext (letIn_next enter n ns)
  have hself : letIn enter n.at? [] = true := rfl
  unfold visited
  rw [paths, List.filter_append, List.filter_map, List.filter_map, hzero, hnext,
    Node.paths_eq, List.filter_cons_of_pos hself, List.map_cons]
  rfl

/-! ## 3. What a visit knows -/

/-- A visit to the place at the end of a path: the node that stands there, the node above it, and
    the number of siblings in front of it. -/
structure Fragment.Visit.IsAt (at? : Path → Option Node) (p : Path) (v : Fragment.Visit) :
    Prop where
  node : at? p = some v.node
  parent : at? p.dropLast = v.parent
  index : p.getLast? = some v.index

/-- The nodes at paths from `parent` on, which the empty path leads to. -/
def around (parent : Option Node) (siblings : List Node) : Path → Option Node
  | [] => parent
  | i :: p => Fragment.at? siblings (i :: p)

theorem around_none (nodes : Fragment) : around none nodes = Fragment.at? nodes := by
  funext p
  cases p <;> rfl

theorem around_self (n : Node) : around (some n) n.content = n.at? := by
  funext p
  cases p <;> rfl

theorem around_cons {parent : Option Node} {siblings : List Node} {i : Nat} {n : Node}
    (h : siblings[i]? = some n) (p : Path) : around parent siblings (i :: p) = n.at? p := by
  show (siblings[i]?.bind fun n => n.at? p) = n.at? p
  rw [h]
  rfl

/-- A visit below a node is a visit below its siblings' parent too. -/
theorem Fragment.Visit.IsAt.cons {parent : Option Node} {siblings : List Node} {i : Nat}
    {n : Node} (h : siblings[i]? = some n) {p : Path} (hp : p ≠ []) {v : Fragment.Visit}
    (hv : IsAt n.at? p v) : IsAt (around parent siblings) (i :: p) v where
  node := (around_cons h p).trans hv.node
  parent := by
    rw [List.dropLast_cons_of_ne_nil hp, around_cons h]
    exact hv.parent
  index := by
    rw [List.getLast?_cons, hv.index]
    rfl

mutual

theorem Node.forall₂_visitsBelow (enter : Node → Bool) (n : Node) :
    List.Forall₂ (Fragment.Visit.IsAt n.at?) (n.visitedBelow enter)
      (Fragment.visitsBelow enter n) := by
  rw [Node.visitedBelow_eq]
  cases n with
  | text s marks =>
    have hnone : (if enter (.text s marks) then
        Fragment.visited enter (Node.text s marks).content else []) = [] := by
      split <;> rfl
    rw [hnone, Fragment.visitsBelow]
    exact List.Forall₂.nil
  | element kind attrs content =>
    rw [Fragment.visitsBelow]
    split
    · have hbelow := Fragment.forall₂_visitsFrom enter content
        (some (.element kind attrs content)) content 0 rfl
      have hself : around (some (.element kind attrs content)) content =
          (Node.element kind attrs content).at? := around_self (.element kind attrs content)
      have hshift : (Fragment.visited enter content).map (Path.shift 0) =
          Fragment.visited enter content := by
        rw [funext Path.shift_zero, List.map_id']
      rw [hself, hshift] at hbelow
      exact hbelow
    · exact List.Forall₂.nil

/-- The visits to nodes, of which `k` siblings stand in front, are visits to the places of these
    nodes among all siblings. -/
theorem Fragment.forall₂_visitsFrom (enter : Node → Bool) (nodes : List Node)
    (parent : Option Node) (siblings : List Node) (k : Nat) (h : siblings.drop k = nodes) :
    List.Forall₂ (Fragment.Visit.IsAt (around parent siblings))
      ((Fragment.visited enter nodes).map (Path.shift k))
      (Fragment.visitsFrom enter parent k nodes) := by
  cases nodes with
  | nil => exact List.Forall₂.nil
  | cons n ns =>
    have hn : siblings[k]? = some n := by
      have hhead := congrArg (·[0]?) h
      simpa using hhead
    have hns : siblings.drop (k + 1) = ns := by
      rw [← List.drop_drop, h]
      rfl
    have hself : Fragment.Visit.IsAt (around parent siblings) [k] ⟨n, parent, k⟩ :=
      ⟨around_cons hn [], rfl, rfl⟩
    have hbelow : List.Forall₂ (Fragment.Visit.IsAt (around parent siblings))
        ((n.visitedBelow enter).map (k :: ·)) (Fragment.visitsBelow enter n) := by
      rw [List.forall₂_map_left_iff]
      refine List.Forall₂.imp (fun p v hv => hv.cons hn ?_) (n.forall₂_visitsBelow enter)
      -- a visit has a place, so its path is not empty
      intro hp
      rw [hp] at hv
      exact absurd hv.index (by simp)
    have hbehind := Fragment.forall₂_visitsFrom enter ns parent siblings (k + 1) hns
    have hzero : Path.shift k ∘ (0 :: ·) = (k :: ·) := rfl
    have hnext : Path.shift k ∘ Path.next = Path.shift (k + 1) := funext (Path.shift_next k)
    rw [Fragment.visited_cons, Fragment.visitsFrom, List.map_append, List.map_cons, List.map_map,
      List.map_map, hzero, hnext]
    exact List.rel_append (List.Forall₂.cons hself hbelow) hbehind

end

/-- The last step of a path goes to a child. -/
theorem Node.at?_concat (n : Node) (p : Path) (i : Nat) :
    n.at? (p ++ [i]) = (n.at? p).bind fun parent => parent.content[i]? := by
  induction p generalizing n with
  | nil =>
    show (n.content[i]?.bind fun child => some child) = n.content[i]?
    exact Option.bind_fun_some _
  | cons j p ih =>
    show (n.content[j]?.bind fun child => child.at? (p ++ [i])) =
      (n.content[j]?.bind fun child => child.at? p).bind fun parent => parent.content[i]?
    rw [Option.bind_assoc]
    exact congrArg _ (funext fun child => ih child)

/-- The last step of a path goes to a node at the top or to a child. -/
theorem Fragment.at?_concat (nodes : Fragment) (p : Path) (i : Nat) :
    at? nodes (p ++ [i]) =
      if p = [] then nodes[i]? else (at? nodes p).bind fun parent => parent.content[i]? := by
  cases p with
  | nil =>
    rw [if_pos rfl]
    show (nodes[i]?.bind fun n => some n) = nodes[i]?
    exact Option.bind_fun_some _
  | cons j p =>
    rw [if_neg (List.cons_ne_nil j p)]
    show (nodes[j]?.bind fun n => n.at? (p ++ [i])) =
      (nodes[j]?.bind fun n => n.at? p).bind fun parent => parent.content[i]?
    rw [Option.bind_assoc]
    exact congrArg _ (funext fun n => n.at?_concat p i)

/-- **What is visited stands at its place** among the children of the node above, or at the top. -/
theorem Fragment.Visit.IsAt.getElem? {nodes : Fragment} {p : Path} {v : Visit}
    (h : IsAt (at? nodes) p v) : (v.parent.elim nodes Node.content)[v.index]? = some v.node := by
  have hlast : p.dropLast ++ [v.index] = p := List.dropLast_append_getLast? v.index h.index
  have hnode := h.node
  rw [← hlast, at?_concat, h.parent] at hnode
  split at hnode
  · next htop =>
    have hparent : v.parent = none := by
      rw [← h.parent, htop]
      rfl
    rw [hparent]
    exact hnode
  · obtain ⟨parent, hparent, hchild⟩ := Option.bind_eq_some_iff.1 hnode
    rw [hparent]
    exact hchild

/-! ## 4. The text of the walk -/

/-- The text of a run of text. -/
def Node.run? : Node → Option String
  | .text s _ => some s
  | .element _ _ _ => none

/-- The runs of text that are visited, in order. -/
def Fragment.runs (visits : List Fragment.Visit) : List String :=
  visits.filterMap fun v => v.node.run?

mutual

theorem Node.textContent_eq_join (n : Node) (parent : Option Node) (index : Nat) :
    n.textContent = String.join (Fragment.runs
      (⟨n, parent, index⟩ :: Fragment.visitsBelow (fun _ => true) n)) := by
  cases n with
  | text s marks =>
    show s = String.join [s]
    rw [String.join_cons, String.join_nil, String.append_empty]
  | element kind attrs content =>
    exact Fragment.textOf_eq_join content (some (.element kind attrs content)) 0

theorem Fragment.textOf_eq_join (nodes : List Node) (parent : Option Node) (index : Nat) :
    Node.textOf nodes = String.join (Fragment.runs
      (Fragment.visitsFrom (fun _ => true) parent index nodes)) := by
  cases nodes with
  | nil => rfl
  | cons n ns =>
    have hn := Node.textContent_eq_join n parent index
    have hns := Fragment.textOf_eq_join ns parent (index + 1)
    unfold Fragment.runs at hn hns ⊢
    rw [Node.textOf, Fragment.visitsFrom, List.filterMap_append, String.join_append, hn, hns]

end

/-! ## 5. The walk as a whole -/

/-- **The walk visits the places of a fragment in the order of the text**, each once: exactly
    those above which no node was refused. Each visit knows the node above and the place among
    its children, and the runs of text of the whole walk are the text of the fragment. -/
theorem Fragment.visits_in_order (enter : Node → Bool) (nodes : Fragment) :
    (visited enter nodes).Pairwise (· < ·) ∧
    (∀ p : Path, p ∈ visited enter nodes ↔ (∃ n, at? nodes p = some n) ∧
      ∀ (q : Path) (n : Node), q <+: p → q ≠ p → at? nodes q = some n → enter n = true) ∧
    List.Forall₂ (Visit.IsAt (at? nodes)) (visited enter nodes) (visits enter nodes) ∧
    (∀ v ∈ visits enter nodes,
      (v.parent.elim nodes Node.content)[v.index]? = some v.node) ∧
    nodes.textContent = String.join (runs (visits (fun _ => true) nodes)) := by
  have hcontext : List.Forall₂ (Visit.IsAt (at? nodes)) (visited enter nodes)
      (visits enter nodes) := by
    have hfrom := forall₂_visitsFrom enter nodes none nodes 0 rfl
    rw [around_none, funext Path.shift_zero, List.map_id'] at hfrom
    exact hfrom
  refine ⟨(pairwise_paths nodes).filter _, fun p => ?_, hcontext, fun v hv => ?_,
    textOf_eq_join nodes none 0⟩
  · unfold visited
    rw [List.mem_filter, mem_paths_iff, letIn_iff, Option.isSome_iff_exists]
  · obtain ⟨hlength, hall⟩ := List.forall₂_iff_get.1 hcontext
    obtain ⟨i, hi, rfl⟩ := List.mem_iff_getElem.1 hv
    exact (hall i (hlength ▸ hi) hi).getElem?

end Galley
