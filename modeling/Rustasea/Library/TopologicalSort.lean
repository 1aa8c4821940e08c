import Mathlib.Algebra.Order.BigOperators.Group.Finset
import Mathlib.Data.Fintype.EquivFin

namespace TopologicalSort

open Relation List Function

/-!
# Kahn's algorithm

Nodes are the numbers below `count` and `edges` lists the targets of a node, with
repetitions.  A node is ready once none of its incoming edges is left; the least
ready node comes next.  The order found puts the source of every edge before its
target, and it is complete exactly when no node reaches itself.
-/

def Edge (count : Nat) (edges : Nat → List Nat) (source target : Nat) : Prop :=
  source < count ∧ target < count ∧ target ∈ edges source

/-- The nodes emitted, those ready, and the incoming edges still to come. -/
structure Progress where
  order : List Nat
  ready : List Nat
  indegree : Nat → Nat

/-- Take one incoming edge off a node; the last one makes it ready. -/
def relax (pending : List Nat × (Nat → Nat)) (next : Nat) : List Nat × (Nat → Nat) :=
  let remaining := pending.2 next - 1
  (if remaining = 0 then
      next :: pending.1
    else pending.1,
    update pending.2 next remaining)

/-- Emit the least ready node, as long as there is one. -/
def kahn (edges : Nat → List Nat) : (fuel : Nat) → Progress → Progress
  | 0, progress => progress
  | fuel + 1, progress =>
    match progress.ready.min? with
    | none => progress
    | some node =>
      let (ready, indegree) :=
        (edges node).foldl relax (progress.ready.erase node, progress.indegree)
      kahn edges fuel { order := progress.order ++ [node], ready := ready, indegree := indegree }

/-! ## Relaxing the edges of one node -/

theorem relax_indegree (targets ready : List Nat) (indegree : Nat → Nat) (node : Nat) :
    (targets.foldl relax (ready, indegree)).2 node = indegree node - targets.count node := by
  induction targets generalizing ready indegree with
  | nil => rfl
  | cons next rest ih =>
    rw [foldl_cons, relax, ih]
    by_cases same : node = next
    · subst same
      simp only [update_self, count_cons_self]
      omega
    · rw [update_of_ne same, count_cons_of_ne (Ne.symm same)]

variable {indegree : Nat → Nat}

/-- A run of relaxations makes ready the nodes it takes the last edge off. -/
theorem relax_ready {targets ready : List Nat} (enough : ∀ node, targets.count node ≤ indegree node)
    (fresh : ∀ node ∈ targets, node ∉ ready) (distinct : ready.Nodup) :
    (targets.foldl relax (ready, indegree)).1.Nodup ∧
      ∀ node, node ∈ (targets.foldl relax (ready, indegree)).1 ↔
          node ∈ ready ∨ (node ∈ targets ∧ indegree node = targets.count node) := by
  induction targets generalizing ready indegree with
  | nil => simp [distinct]
  | cons next rest ih =>
    have nextEnough := enough next
    rw [count_cons_self] at nextEnough
    have restEnough :
        ∀ node, rest.count node ≤ update indegree next (indegree next - 1) node := by
      intro node
      by_cases same : node = next
      · subst same
        rw [update_self]
        omega
      · rw [update_of_ne same]
        have nodeEnough := enough node
        rwa [count_cons_of_ne (Ne.symm same)] at nodeEnough
    have restFresh : ∀ node ∈ rest, node ∉ ready :=
      fun node inRest => fresh node (mem_cons_of_mem _ inRest)
    rw [foldl_cons, relax]
    by_cases last : indegree next - 1 = 0
    · -- The last edge: the node joins, and no later edge mentions it.
      have notInRest : next ∉ rest := by
        apply count_eq_zero.mp
        omega
      rw [if_pos last]
      obtain ⟨nodup, members⟩ := ih restEnough
          (fun node inRest => by
            rw [mem_cons, not_or]
            exact ⟨fun same => notInRest (same ▸ inRest), restFresh node inRest⟩)
          (nodup_cons.mpr ⟨fresh next mem_cons_self, distinct⟩)
      refine ⟨nodup, fun node => (members node).trans ?_⟩
      by_cases same : node = next
      · subst same
        simp only [mem_cons, true_or, true_and, count_cons_self, true_iff]
        right
        omega
      · rw [count_cons_of_ne (Ne.symm same)]
        simp [same]
    · rw [if_neg last]
      obtain ⟨nodup, members⟩ := ih restEnough restFresh distinct
      refine ⟨nodup, fun node => (members node).trans ?_⟩
      by_cases same : node = next
      · subst same
        have notReady := fresh node mem_cons_self
        simp only [notReady, false_or, update_self,
          mem_cons, true_or, true_and, count_cons_self]
        constructor
        · rintro ⟨-, counted⟩
          omega
        · intro counted
          have counted' : indegree node - 1 = rest.count node := by omega
          refine ⟨count_pos_iff.mp ?_, counted'⟩
          omega
      · rw [count_cons_of_ne (Ne.symm same)]
        simp [same]

/-! ## The invariant -/

variable {count : Nat} {edges : Nat → List Nat}

/-- The incoming edges of a node whose sources are not emitted yet. -/
def missing (count : Nat) (edges : Nat → List Nat) (order : List Nat) (node : Nat) : Nat :=
  ∑ source ∈ (Finset.range count).filter (fun source => source ∉ order), (edges source).count node

/-- What holds between two rounds. -/
structure Sorting (count : Nat) (edges : Nat → List Nat) (progress : Progress) : Prop where
  distinct : (progress.order ++ progress.ready).Nodup
  inRange : ∀ node ∈ progress.order ++ progress.ready, node < count
  degrees : ∀ node < count,
      node ∉ progress.order → progress.indegree node = missing count edges progress.order node
  isReady :
    ∀ node < count, node ∉ progress.order → (node ∈ progress.ready ↔ progress.indegree node = 0)
  closed : ∀ earlier node later, progress.order = earlier ++ node :: later →
        ∀ source < count, node ∈ edges source → source ∈ earlier

variable {order : List Nat} {source : Nat}

theorem missing_concat (edges : Nat → List Nat) (inRange : source < count)
    (isNew : source ∉ order) (node : Nat) :
    (edges source).count node + missing count edges (order ++ [source]) node =
      missing count edges order node := by
  have without : (Finset.range count).filter (fun other => other ∉ order ++ [source]) =
      ((Finset.range count).filter (fun other => other ∉ order)).erase source := by
    ext other
    simp only [Finset.mem_filter, Finset.mem_erase, mem_append, mem_singleton, not_or]
    exact ⟨fun ⟨low, old, other⟩ => ⟨other, low, old⟩, fun ⟨other, low, old⟩ => ⟨low, old, other⟩⟩
  rw [missing, without]
  exact Finset.add_sum_erase _ (fun source => (edges source).count node)
    (Finset.mem_filter.mpr ⟨Finset.mem_range.mpr inRange, isNew⟩)

theorem count_le_missing (edges : Nat → List Nat) (inRange : source < count)
    (isNew : source ∉ order) (node : Nat) :
    (edges source).count node ≤ missing count edges order node := by
  have split := missing_concat edges inRange isNew node
  omega

theorem mem_of_missing_eq_zero {node source : Nat} (nothing : missing count edges order node = 0)
    (inRange : source < count) (isEdge : node ∈ edges source) : source ∈ order := by
  by_contra isNew
  have counted := count_le_missing edges inRange isNew node
  have positive := count_pos_iff.mpr isEdge
  omega

theorem closed_concat {last : Nat}
    (closed : ∀ earlier node later,
        order = earlier ++ node :: later → ∀ source < count, node ∈ edges source → source ∈ earlier)
    (lastClosed : ∀ source < count, last ∈ edges source → source ∈ order) :
    ∀ earlier node later, order ++ [last] = earlier ++ node :: later →
      ∀ source < count, node ∈ edges source → source ∈ earlier := by
  intro earlier node later shape source inRange isEdge
  rcases eq_nil_or_concat later with rfl | ⟨rest, final, rfl⟩
  · obtain ⟨rfl, same⟩ := append_inj' shape rfl
    obtain rfl := head_eq_of_cons_eq same
    exact lastClosed source inRange isEdge
  · have regrouped : order ++ [last] = (earlier ++ node :: rest) ++ [final] := by simpa using shape
    obtain ⟨inOrder, -⟩ := append_inj' regrouped rfl
    exact closed earlier node rest inOrder source inRange isEdge

namespace Sorting

variable {progress : Progress} {node : Nat}

theorem of_ready (sorting : Sorting count edges progress) (isReady : node ∈ progress.ready) :
    node < count ∧ node ∉ progress.order ∧ missing count edges progress.order node = 0 := by
  have inRange := sorting.inRange node (mem_append_right _ isReady)
  have isNew : node ∉ progress.order := fun emitted =>
    (nodup_append.mp sorting.distinct).2.2 node emitted node isReady rfl
  refine ⟨inRange, isNew, ?_⟩
  rw [← sorting.degrees node inRange isNew]
  exact (sorting.isReady node inRange isNew).mp isReady

theorem target_notMem (sorting : Sorting count edges progress) {source node : Nat}
    (inRange : source < count) (isNew : source ∉ progress.order)
    (isEdge : node ∈ edges source) : node ∉ progress.order := by
  intro emitted
  obtain ⟨earlier, later, shape⟩ := append_of_mem emitted
  have before := sorting.closed earlier node later shape source inRange isEdge
  exact isNew (shape ▸ mem_append_left _ before)

/-- One round keeps the invariant. -/
theorem emit (sorting : Sorting count edges progress)
    (targets : ∀ source < count, ∀ node ∈ edges source, node < count)
    {node : Nat} (isReady : node ∈ progress.ready) :
    Sorting count edges
      { order := progress.order ++ [node]
        ready := ((edges node).foldl relax (progress.ready.erase node, progress.indegree)).1
        indegree :=
          ((edges node).foldl relax (progress.ready.erase node, progress.indegree)).2 } := by
  obtain ⟨inRange, isNew, nothing⟩ := sorting.of_ready isReady
  have readyDistinct : progress.ready.Nodup := (nodup_append.mp sorting.distinct).2.1
  have counted := fun other => count_le_missing edges inRange isNew other
  have noLoop : node ∉ edges node := by
    intro isLoop
    have positive := count_pos_iff.mpr isLoop
    have bounded := counted node
    omega
  have enough : ∀ other, (edges node).count other ≤ progress.indegree other := by
    intro other
    by_cases isEdge : other ∈ edges node
    · rw [sorting.degrees other (targets node inRange other isEdge)
        (sorting.target_notMem inRange isNew isEdge)]
      exact counted other
    · rw [count_eq_zero.mpr isEdge]
      exact Nat.zero_le _
  have fresh : ∀ other ∈ edges node, other ∉ progress.ready.erase node := by
    intro other isEdge inReady
    obtain ⟨otherRange, otherNew, -⟩ := sorting.of_ready (mem_of_mem_erase inReady)
    have zero := (sorting.isReady other otherRange otherNew).mp (mem_of_mem_erase inReady)
    have positive := count_pos_iff.mpr isEdge
    have bounded := enough other
    omega
  obtain ⟨distinct, members⟩ := relax_ready enough fresh (readyDistinct.erase node)
  have memberNew : ∀ other, other ∈
        ((edges node).foldl relax (progress.ready.erase node, progress.indegree)).1 →
      other < count ∧ other ∉ progress.order ∧ other ≠ node := by
    intro other isMember
    rcases (members other).mp isMember with inReady | ⟨isEdge, -⟩
    · obtain ⟨different, stillReady⟩ := (List.Nodup.mem_erase_iff readyDistinct).mp inReady
      obtain ⟨otherRange, otherNew, -⟩ := sorting.of_ready stillReady
      exact ⟨otherRange, otherNew, different⟩
    · exact ⟨targets node inRange other isEdge, sorting.target_notMem inRange isNew isEdge,
        fun same => noLoop (same ▸ isEdge)⟩
  refine ⟨?_, ?_, ?_, ?_, ?_⟩
  · apply nodup_append.mpr
    refine ⟨?_, distinct, ?_⟩
    · exact nodup_append_comm.mp
        (nodup_cons.mpr ⟨isNew, (nodup_append.mp sorting.distinct).1⟩)
    · rintro other emitted _ isMember rfl
      obtain ⟨-, otherNew, different⟩ := memberNew other isMember
      rcases mem_append.mp emitted with old | isLast
      · exact otherNew old
      · exact different (mem_singleton.mp isLast)
  · intro other isMember
    rcases mem_append.mp isMember with emitted | inReady
    · rcases mem_append.mp emitted with old | isLast
      · exact sorting.inRange other (mem_append_left _ old)
      · exact mem_singleton.mp isLast ▸ inRange
    · exact (memberNew other inReady).1
  · intro other otherRange otherNew
    rw [mem_append, not_or] at otherNew
    dsimp only
    rw [relax_indegree, sorting.degrees other otherRange otherNew.1,
      ← missing_concat edges inRange isNew other]
    exact Nat.add_sub_cancel_left _ _
  · intro other otherRange otherNew
    rw [mem_append, mem_singleton, not_or] at otherNew
    have bounded := enough other
    have wasReady := sorting.isReady other otherRange otherNew.1
    dsimp only
    rw [relax_indegree, members, List.Nodup.mem_erase_iff readyDistinct]
    constructor
    · rintro (⟨-, inReady⟩ | ⟨-, last⟩)
      · have zero := wasReady.mp inReady
        omega
      · omega
    · intro zero
      by_cases isEdge : other ∈ edges node
      · right
        exact ⟨isEdge, by omega⟩
      · left
        have uncounted := count_eq_zero.mpr isEdge
        exact ⟨otherNew.2, wasReady.mpr (by omega)⟩
  · apply closed_concat sorting.closed
    intro source sourceRange isEdge
    exact mem_of_missing_eq_zero nothing sourceRange isEdge

theorem length_le (sorting : Sorting count edges progress) :
    progress.order.length + progress.ready.length ≤ count := by
  have inRange : (progress.order ++ progress.ready).toFinset ⊆ Finset.range count := by
    intro node isMember
    rw [mem_toFinset] at isMember
    exact Finset.mem_range.mpr (sorting.inRange node isMember)
  have bounded := Finset.card_le_card inRange
  rw [toFinset_card_of_nodup sorting.distinct, length_append,
    Finset.card_range] at bounded
  exact bounded

theorem kahn (sorting : Sorting count edges progress)
    (targets : ∀ source < count, ∀ node ∈ edges source, node < count) {fuel : Nat}
    (enough : count ≤ progress.order.length + fuel) :
    Sorting count edges (kahn edges fuel progress) ∧
    (TopologicalSort.kahn edges fuel progress).ready = [] := by
  induction fuel generalizing progress with
  | zero =>
    refine ⟨sorting, eq_nil_of_length_eq_zero ?_⟩
    have bounded := sorting.length_le
    simp only [TopologicalSort.kahn]
    omega
  | succ fuel ih =>
    unfold TopologicalSort.kahn
    split
    · next nothing => exact ⟨sorting, min?_eq_none_iff.mp nothing⟩
    · next node least =>
      apply ih (sorting.emit targets (min?_mem least))
      simp only [length_append, length_singleton]
      omega

theorem idxOf_lt (sorting : Sorting count edges progress) {source node : Nat}
    (isEdge : Edge count edges source node) (emitted : node ∈ progress.order) :
    progress.order.idxOf source < progress.order.idxOf node := by
  obtain ⟨earlier, later, shape⟩ := append_of_mem emitted
  have before := sorting.closed earlier node later shape source isEdge.1 isEdge.2.2
  have distinct : progress.order.Nodup := (nodup_append.mp sorting.distinct).1
  rw [shape] at distinct ⊢
  have notEarlier : node ∉ earlier := fun inEarlier =>
    (nodup_append.mp distinct).2.2 node inEarlier node mem_cons_self rfl
  rw [idxOf_append_of_mem before, idxOf_append_of_notMem notEarlier]
  exact Nat.lt_of_lt_of_le (idxOf_lt_length_of_mem before) (Nat.le_add_right _ _)

theorem mem_of_length_eq (sorting : Sorting count edges progress)
    (complete : progress.order.length = count) (inRange : node < count) :
    node ∈ progress.order := by
  have distinct : progress.order.Nodup := (nodup_append.mp sorting.distinct).1
  have included : progress.order.toFinset ⊆ Finset.range count := by
    intro other isMember
    rw [mem_toFinset] at isMember
    exact Finset.mem_range.mpr (sorting.inRange other (mem_append_left _ isMember))
  have all : progress.order.toFinset = Finset.range count := by
    apply Finset.eq_of_subset_of_card_le included
    rw [toFinset_card_of_nodup distinct, complete, Finset.card_range]
  rw [← mem_toFinset, all]
  exact Finset.mem_range.mpr inRange

theorem exists_leftOver (sorting : Sorting count edges progress)
    (incomplete : progress.order.length ≠ count) :
    ∃ node, node < count ∧ node ∉ progress.order := by
  by_contra noneLeft
  have all : ∀ other < count, other ∈ progress.order := by
    intro other otherRange
    by_contra otherLeft
    exact noneLeft ⟨other, otherRange, otherLeft⟩
  apply incomplete
  apply Nat.le_antisymm
  · exact Nat.le_trans (Nat.le_add_right _ _) sorting.length_le
  · have included : Finset.range count ⊆ progress.order.toFinset := by
      intro other isMember
      rw [mem_toFinset]
      exact all other (Finset.mem_range.mp isMember)
    have bounded := Finset.card_le_card included
    rw [Finset.card_range] at bounded
    exact Nat.le_trans bounded progress.order.toFinset_card_le

theorem emitted_kahn (sorting : Sorting count edges progress)
    (targets : ∀ source < count, ∀ node ∈ edges source, node < count)
    (emitted : ∀ node ∈ progress.order, progress.indegree node = 0) (fuel : Nat) :
    ∀ node ∈ (TopologicalSort.kahn edges fuel progress).order,
      (TopologicalSort.kahn edges fuel progress).indegree node = 0 := by
  induction fuel generalizing progress with
  | zero => exact emitted
  | succ fuel ih =>
    unfold TopologicalSort.kahn
    split
    · exact emitted
    · next node isLeast =>
      have isReady := min?_mem isLeast
      apply ih (sorting.emit targets isReady)
      intro other isEmitted
      dsimp only at isEmitted ⊢
      rw [relax_indegree]
      rcases mem_append.mp isEmitted with old | isLast
      · rw [emitted other old, Nat.zero_sub]
      · rw [mem_singleton.mp isLast]
        obtain ⟨inRange, isNew, -⟩ := sorting.of_ready isReady
        rw [(sorting.isReady node inRange isNew).mp isReady, Nat.zero_sub]

theorem exists_source (sorting : Sorting count edges progress) (finished : progress.ready = [])
    (inRange : node < count) (leftOver : node ∉ progress.order) :
    ∃ source, Edge count edges source node ∧ source ∉ progress.order := by
  have notReady : progress.indegree node ≠ 0 := by
    intro zero
    have inReady := (sorting.isReady node inRange leftOver).mpr zero
    rw [finished] at inReady
    simp at inReady
  rw [sorting.degrees node inRange leftOver] at notReady
  obtain ⟨source, isSource, counted⟩ := Finset.exists_ne_zero_of_sum_ne_zero notReady
  obtain ⟨sourceRange, isNew⟩ := Finset.mem_filter.mp isSource
  refine ⟨source, ⟨Finset.mem_range.mp sourceRange, inRange, ?_⟩, isNew⟩
  exact count_pos_iff.mp (Nat.pos_of_ne_zero counted)

theorem length_eq_iff (sorting : Sorting count edges progress) (finished : progress.ready = []) :
    progress.order.length = count ↔ ∀ node, ¬ TransGen (Edge count edges) node node := by
  constructor
  · intro complete node cycle
    have ascending : ∀ {first last}, TransGen (Edge count edges) first last →
        progress.order.idxOf first < progress.order.idxOf last := by
      intro first last path
      induction path with
      | single isEdge =>
        exact sorting.idxOf_lt isEdge (sorting.mem_of_length_eq complete isEdge.2.1)
      | tail _ isEdge ih =>
        exact Nat.lt_trans ih
          (sorting.idxOf_lt isEdge (sorting.mem_of_length_eq complete isEdge.2.1))
    exact Nat.lt_irrefl _ (ascending cycle)
  · intro acyclic
    let Before : Fin count → Fin count → Prop :=
      fun first last => TransGen (Edge count edges) first last
    have : Std.Irrefl Before := ⟨fun node => acyclic node⟩
    have wellFounded : WellFounded Before := Finite.wellFounded_of_trans_of_irrefl Before
    by_contra incomplete
    obtain ⟨node, inRange, leftOver⟩ := sorting.exists_leftOver incomplete
    obtain ⟨least, leastLeft, minimal⟩ := wellFounded.has_min
        {node : Fin count | node.val ∉ progress.order}
        ⟨⟨node, inRange⟩, leftOver⟩
    obtain ⟨source, isEdge, sourceLeft⟩ := sorting.exists_source finished least.isLt leastLeft
    exact minimal ⟨source, isEdge.1⟩ sourceLeft (TransGen.single isEdge)

end Sorting

/-! ## The least order -/

def ClosedUnder (count : Nat) (edges : Nat → List Nat) (nodes : List Nat) (node : Nat) : Prop :=
  ∀ source < count, node ∈ edges source → source ∈ nodes

/-- Whenever a node comes next, no smaller one could have come. -/
def LeastFirst (count : Nat) (edges : Nat → List Nat) (order : List Nat) : Prop :=
  ∀ earlier node later, order = earlier ++ node :: later →
      ∀ other < count, other ∉ earlier → ClosedUnder count edges earlier other → node ≤ other

theorem Sorting.leastFirst_emit {progress : Progress} (sorting : Sorting count edges progress)
    (least : LeastFirst count edges progress.order) {node : Nat}
    (isLeast : progress.ready.min? = some node) :
    LeastFirst count edges (progress.order ++ [node]) := by
  intro earlier first later shape other inRange isNew isClosed
  rcases eq_nil_or_concat later with rfl | ⟨rest, final, rfl⟩
  · obtain ⟨rfl, same⟩ := append_inj' shape rfl
    obtain rfl := head_eq_of_cons_eq same
    -- A node that misses nothing is ready, and the least ready one came.
    have nothing : missing count edges progress.order other = 0 := by
      apply Finset.sum_eq_zero
      intro source isSource
      obtain ⟨sourceRange, sourceNew⟩ := Finset.mem_filter.mp isSource
      apply count_eq_zero.mpr
      intro isEdge
      exact sourceNew (isClosed source (Finset.mem_range.mp sourceRange) isEdge)
    have isReady : other ∈ progress.ready := by
      apply (sorting.isReady other inRange isNew).mpr
      rw [sorting.degrees other inRange isNew, nothing]
    exact (min?_eq_some_iff.mp isLeast).2 other isReady
  · have regrouped : progress.order ++ [node] = (earlier ++ first :: rest) ++ [final] := by
      simpa using shape
    obtain ⟨inOrder, -⟩ := append_inj' regrouped rfl
    exact least earlier first rest inOrder other inRange isNew isClosed

theorem Sorting.leastFirst_kahn {progress : Progress} (sorting : Sorting count edges progress)
    (targets : ∀ source < count, ∀ node ∈ edges source, node < count)
    (least : LeastFirst count edges progress.order) (fuel : Nat) :
    LeastFirst count edges (TopologicalSort.kahn edges fuel progress).order := by
  induction fuel generalizing progress with
  | zero => exact least
  | succ fuel ih =>
    unfold TopologicalSort.kahn
    split
    · exact least
    · next node isLeast =>
      exact ih (sorting.emit targets (min?_mem isLeast))
        (sorting.leastFirst_emit least isLeast)

theorem LeastFirst.not_lt_of_common (earlier : List Nat) {order other : List Nat}
    (least : LeastFirst count edges (earlier ++ order)) (sameLength : order.length = other.length)
    (distinct : (earlier ++ other).Nodup) (inRange : ∀ node ∈ other, node < count)
    (closed : ∀ front node later, earlier ++ other = front ++ node :: later →
      ClosedUnder count edges front node) :
    ¬other < order := by
  induction order generalizing earlier other with
  | nil => exact not_lt_nil other
  | cons node rest ih =>
    cases other with
    | nil => cases sameLength
    | cons otherNode otherRest =>
      have isNew : otherNode ∉ earlier := fun isOld =>
        (nodup_append.mp distinct).2.2 otherNode isOld otherNode mem_cons_self rfl
      have atMost : node ≤ otherNode := least earlier node rest rfl otherNode
          (inRange otherNode mem_cons_self) isNew
          (closed earlier otherNode otherRest rfl)
      rw [cons_lt_cons_iff]
      rintro (smaller | ⟨rfl, restSmaller⟩)
      · exact Nat.not_le.mpr smaller atMost
      · have common : ∀ nodes : List Nat,
            earlier ++ [otherNode] ++ nodes = earlier ++ otherNode :: nodes := by
          simp
        have restLeast : LeastFirst count edges (earlier ++ [otherNode] ++ rest) := by rwa [common]
        refine ih _ restLeast (Nat.succ.inj sameLength) ?_ ?_ ?_ restSmaller
        · rwa [common]
        · exact fun later isLater => inRange later (mem_cons_of_mem _ isLater)
        · intro front later behind shape
          rw [common] at shape
          exact closed front later behind shape

theorem mem_of_idxOf_lt {front later : List Nat} {node source : Nat}
    (distinct : (front ++ node :: later).Nodup)
    (before : (front ++ node :: later).idxOf source < (front ++ node :: later).idxOf node) :
    source ∈ front := by
  have notInFront : node ∉ front := fun inFront =>
    (nodup_append.mp distinct).2.2 node inFront node mem_cons_self rfl
  by_contra notBefore
  rw [idxOf_append_of_notMem notInFront,
    idxOf_append_of_notMem notBefore, idxOf_cons_self] at before
  omega

theorem LeastFirst.not_lt {order other : List Nat} (least : LeastFirst count edges order)
    (isOrder : order.Perm (List.range count)) (isOther : other.Perm (List.range count)) (ordered :
      ∀ source node, Edge count edges source node → other.idxOf source < other.idxOf node) :
    ¬other < order := by
  have distinct : other.Nodup := isOther.nodup_iff.mpr nodup_range
  have inRange (node : Nat) (isIn : node ∈ other) : node < count :=
    mem_range.mp (isOther.mem_iff.mp isIn)
  refine
    LeastFirst.not_lt_of_common [] least (isOrder.trans isOther.symm).length_eq distinct inRange ?_
  intro front node later shape source sourceRange isEdge
  subst shape
  have nodeRange : node < count := inRange node (mem_append_right _ mem_cons_self)
  exact mem_of_idxOf_lt distinct (ordered source node ⟨sourceRange, nodeRange, isEdge⟩)

/-! ## The start -/

theorem missing_link (edges : Nat → List Nat) (inRange : source < count) (target node : Nat) :
    missing count (update edges source (edges source ++ [target])) [] node =
      missing count edges [] node + [target].count node := by
  have isSource : source ∈ (Finset.range count).filter fun other => other ∉ [] :=
    Finset.mem_filter.mpr ⟨Finset.mem_range.mpr inRange, not_mem_nil⟩
  have others : ∑ other ∈ ((Finset.range count).filter fun other => other ∉ []).erase source,
        (update edges source (edges source ++ [target]) other).count node =
      ∑ other ∈ ((Finset.range count).filter fun other => other ∉ []).erase source,
        (edges other).count node := by
    apply Finset.sum_congr rfl
    intro other isOther
    rw [update_of_ne (Finset.ne_of_mem_erase isOther)]
  unfold missing
  rw [← Finset.add_sum_erase _ _ isSource, ← Finset.add_sum_erase _
    (fun other => (edges other).count node)
      isSource, update_self, count_append]
  omega

theorem sorting_start (degrees : ∀ node < count, indegree node = missing count edges [] node) :
    Sorting count edges
      { order := []
        ready := (List.range count).filter fun node => indegree node = 0
        indegree := indegree } where
  distinct := nodup_range.filter _
  inRange := by
    intro node isMember
    exact mem_range.mp (mem_filter.mp isMember).1
  degrees := fun node inRange _ => degrees node inRange
  isReady := by
    intro node inRange _
    simp [inRange]
  closed := by
    intro earlier node later shape
    simp at shape

end TopologicalSort
