import Mathlib.Data.List.Nodup

/-! # Bounded walks along links

Every node has at most one link.  A walk follows the links for at most `bound` nodes and stops
early at a node whose key it has seen.
-/

namespace BoundedWalk

variable {Node Key : Type*} [DecidableEq Key]

/-- The first `count` nodes of the chain that starts at a node. -/
def links (next : Node → Option Node) : Nat → Node → List Node
  | 0, _ => []
  | count + 1, node =>
    node :: match next node with
      | none => []
      | some later => links next count later

inductive Ending where
  /-- The next node was seen before. -/
  | repeated
  /-- The last node has no link. -/
  | stopped
  /-- There are more nodes than the bound allows. -/
  | exhausted
  deriving DecidableEq, Repr

/-- The nodes visited, and why the walk ended. -/
def walk (key : Node → Key) (next : Node → Option Node) : Nat → List Key → Node → List Node × Ending
  | 0, _, _ => ([], .exhausted)
  | bound + 1, seen, node =>
    if key node ∈ seen then ([], .repeated)
    else
      match next node with
      | none => ([node], .stopped)
      | some later =>
        let rest := walk key next bound (key node :: seen) later
        (node :: rest.1, rest.2)

variable {key : Node → Key} {next : Node → Option Node} {bound : Nat} {seen : List Key} {node : Node}

theorem links_of_stop {count : Nat} (stop : next node = none) : links next (count + 1) node = [node] := by
  rw [links, stop]

theorem links_of_link {count : Nat} {later : Node} (link : next node = some later) :
    links next (count + 1) node = node :: links next count later := by
  rw [links, link]

theorem length_links_le : (links next bound node).length ≤ bound := by
  induction bound generalizing node with
  | zero => exact Nat.le_refl 0
  | succ bound inductionHypothesis =>
    cases link : next node with
    | none =>
      rw [links_of_stop link]
      exact Nat.succ_le_succ (Nat.zero_le _)
    | some later =>
      rw [links_of_link link]
      exact Nat.succ_le_succ inductionHypothesis

/-- What every link keeps holds of the whole chain. -/
theorem forall_links {holds : Node → Prop} (start : holds node)
    (kept : ∀ before after, holds before → next before = some after → holds after) :
    ∀ member ∈ links next bound node, holds member := by
  induction bound generalizing node with
  | zero => simp [links]
  | succ bound inductionHypothesis =>
    cases link : next node with
    | none =>
      rw [links_of_stop link]
      simpa using start
    | some later =>
      rw [links_of_link link]
      intro member mem
      cases List.mem_cons.mp mem with
      | inl here => rwa [here]
      | inr there => exact inductionHypothesis (kept _ _ start link) member there

/-- Links that lead downwards never come back. -/
theorem nodup_links {holds : Node → Prop} (rank : Node → Nat) (start : holds node)
    (kept : ∀ before after, holds before → next before = some after → holds after ∧ rank after < rank before) :
    (links next bound node).Nodup ∧ ∀ member ∈ links next bound node, rank member ≤ rank node := by
  induction bound generalizing node with
  | zero => simp [links]
  | succ bound inductionHypothesis =>
    cases link : next node with
    | none =>
      rw [links_of_stop link]
      simp
    | some later =>
      rw [links_of_link link]
      obtain ⟨still, lower⟩ := kept node later start link
      obtain ⟨distinct, below⟩ := inductionHypothesis still
      refine ⟨?_, ?_⟩
      · rw [List.nodup_cons]
        refine ⟨?_, distinct⟩
        intro again
        have := below node again
        omega
      · intro member mem
        cases List.mem_cons.mp mem with
        | inl here => exact Nat.le_of_eq (congrArg rank here)
        | inr there =>
          have := below member there
          omega

/-! ## What a walk has visited -/

theorem walk_prefix : (walk key next bound seen node).1 <+: links next bound node := by
  induction bound generalizing seen node with
  | zero => exact List.nil_prefix
  | succ bound inductionHypothesis =>
    unfold walk
    split
    next => exact List.nil_prefix
    next =>
      cases link : next node with
      | none =>
        exact ⟨[], by simp [links_of_stop link]⟩
      | some later =>
        rw [links_of_link link]
        exact (List.prefix_cons_inj node).mpr inductionHypothesis

/-- The visited keys are new and told apart. -/
theorem walk_fresh : ((walk key next bound seen node).1.map key).Nodup ∧
    ∀ value ∈ (walk key next bound seen node).1.map key, value ∉ seen := by
  induction bound generalizing seen node with
  | zero => simp [walk]
  | succ bound inductionHypothesis =>
    unfold walk
    split
    next => simp
    next unseen =>
      cases link : next node with
      | none => simpa using unseen
      | some later =>
        obtain ⟨distinct, fresh⟩ : ((walk key next bound (key node :: seen) later).1.map key).Nodup ∧
            ∀ value ∈ (walk key next bound (key node :: seen) later).1.map key, value ∉ key node :: seen :=
          inductionHypothesis
        refine ⟨?_, ?_⟩
        · rw [List.map_cons, List.nodup_cons]
          exact ⟨fun again => fresh _ again List.mem_cons_self, distinct⟩
        · intro value mem
          cases List.mem_cons.mp mem with
          | inl here => rwa [here]
          | inr there => exact fun old => fresh value there (List.mem_cons_of_mem _ old)

/-- A visited node without a link is the last one. -/
theorem walk_stop {member : Node} (visited : member ∈ (walk key next bound seen node).1)
    (stop : next member = none) :
    ∃ before, walk key next bound seen node = (before ++ [member], .stopped) := by
  induction bound generalizing seen node with
  | zero => simp [walk] at visited
  | succ bound inductionHypothesis =>
    unfold walk at visited ⊢
    split at visited
    next => simp at visited
    next unseen =>
      rw [if_neg unseen]
      cases link : next node with
      | none =>
        rw [link] at visited
        rw [List.mem_singleton.mp visited]
        exact ⟨[], rfl⟩
      | some later =>
        rw [link] at visited
        cases List.mem_cons.mp visited with
        | inl here =>
          rw [here, link] at stop
          cases stop
        | inr there =>
          obtain ⟨before, whole⟩ := inductionHypothesis there
          refine ⟨node :: before, ?_⟩
          dsimp only
          rw [whole]
          rfl

/-! ## Why it ended -/

theorem walk_repeated_iff : (walk key next bound seen node).2 = .repeated ↔
    ¬(((links next bound node).map key).Nodup ∧ ∀ value ∈ (links next bound node).map key, value ∉ seen) := by
  induction bound generalizing seen node with
  | zero => simp [walk, links]
  | succ bound inductionHypothesis =>
    unfold walk
    split
    next again =>
      simp only [true_iff]
      intro fresh
      exact fresh.2 (key node) (by simp [links]) again
    next unseen =>
      cases link : next node with
      | none =>
        rw [links_of_stop link]
        simpa using unseen
      | some later =>
        rw [links_of_link link]
        show (walk key next bound (key node :: seen) later).2 = .repeated ↔ _
        rw [inductionHypothesis]
        apply not_congr
        simp only [List.map_cons, List.nodup_cons, List.mem_cons, not_or, forall_eq_or_imp]
        constructor
        · intro fresh
          exact ⟨⟨fun again => (fresh.2 _ again).1 rfl, fresh.1⟩, unseen,
            fun value mem => (fresh.2 value mem).2⟩
        · intro fresh
          refine ⟨fresh.1.2, fun value mem => ⟨?_, fresh.2.2 value mem⟩⟩
          rintro rfl
          exact fresh.1.1 mem

/-- The walk is exhausted if the chain goes on beyond the bound and nothing was repeated. -/
theorem walk_exhausted_iff : (walk key next bound seen node).2 = .exhausted ↔
    (links next (bound + 1) node).length = bound + 1 ∧
      (walk key next bound seen node).2 ≠ .repeated := by
  induction bound generalizing seen node with
  | zero =>
    have one : (links next 1 node).length = 1 := by
      cases link : next node with
      | none => rw [links_of_stop link]; rfl
      | some later => rw [links_of_link link]; rfl
    simp [walk, one]
  | succ bound inductionHypothesis =>
    unfold walk
    split
    next => simp
    next =>
      cases link : next node with
      | none =>
        rw [links_of_stop link]
        simp
      | some later =>
        rw [links_of_link link]
        show (walk key next bound (key node :: seen) later).2 = .exhausted ↔ _ ∧
          (walk key next bound (key node :: seen) later).2 ≠ .repeated
        rw [inductionHypothesis, List.length_cons, Nat.add_right_cancel_iff]

end BoundedWalk
