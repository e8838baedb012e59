import FortifyLab.Library.KahnQueue

/-! How much of the order in which Kahn's queue is drained is the graph's own,
and how much comes from the order in which the nodes are iterated. -/

namespace FortifyLab.KahnQueue

open DependencyGraph

variable {α : Type*} [DecidableEq α] {deps : α → List α} {nodes sources : List α}

/-- What the queue keeps of the order of its entries: the sources come first, a
node comes by its last need, and nodes with one last need come as iterated. -/
structure Fair (deps : α → List α) (nodes sources queue : List α) : Prop where
  sourcesFirst : sources <+: queue
  byLastNeed : ∀ first ∈ queue, ∀ second ∈ queue, ∀ last ∈ deps second,
    (∀ need ∈ deps first, Precedes queue need last) → Precedes queue first second
  asIterated : ∀ first ∈ queue, ∀ second ∈ queue, ∀ last ∈ deps first, last ∈ deps second →
    (∀ need ∈ deps first, need = last ∨ Precedes queue need last) →
    (∀ need ∈ deps second, need = last ∨ Precedes queue need last) →
    Precedes nodes first second → Precedes queue first second

omit [DecidableEq α] in
theorem fair_initial (without : ∀ node ∈ sources, deps node = []) :
    Fair deps nodes sources sources where
  sourcesFirst := List.prefix_rfl
  byLastNeed _ _ second member last edge _ := by
    rw [without second member] at edge
    cases edge
  asIterated first member _ _ last edge _ _ _ _ := by
    rw [without first member] at edge
    cases edge

/-- What stood in the queue before a round keeps its order. -/
theorem Sound.precedes_old {emitted waiting : List α} {next first second : α}
    (sound : Sound deps nodes emitted (next :: waiting))
    (old : second ∈ emitted ++ next :: waiting)
    (before : Precedes ((emitted ++ next :: waiting) ++ released deps nodes emitted next)
      first second) : Precedes (emitted ++ next :: waiting) first second := by
  rcases precedes_append.mp before with kept | ⟨_, fresh⟩ | fresh
  · exact kept
  · exact absurd old (sound.released_fresh fresh)
  · exact absurd old (sound.released_fresh fresh.mem_right)

omit [DecidableEq α] in
/-- The node of the round comes after everything a queued node needs. -/
theorem Sound.not_before_settled {emitted waiting : List α} {next queued need : α}
    (sound : Sound deps nodes emitted (next :: waiting))
    (old : queued ∈ emitted ++ next :: waiting) (edge : need ∈ deps queued) :
    need ≠ next ∧ ¬ Precedes (emitted ++ next :: waiting) next need := by
  have settled : need ∈ emitted := sound.settled queued old need edge
  have ahead : Precedes (emitted ++ next :: waiting) need next :=
    precedes_append.mpr (.inr (.inl ⟨settled, List.mem_cons_self⟩))
  exact ⟨ahead.ne sound.nodup, ahead.asymm sound.nodup⟩

theorem Fair.step {emitted waiting : List α} {next : α}
    (sound : Sound deps nodes emitted (next :: waiting))
    (fair : Fair deps nodes sources (emitted ++ next :: waiting)) :
    Fair deps nodes sources
      ((emitted ++ next :: waiting) ++ released deps nodes emitted next) where
  sourcesFirst := fair.sourcesFirst.trans (List.prefix_append _ _)
  byLastNeed first left second right last edge needs := by
    rcases List.mem_append.mp right with oldSecond | freshSecond
    · have settled := List.mem_append_left (next :: waiting)
        (sound.settled second oldSecond last edge)
      have kept : ∀ need ∈ deps first, Precedes (emitted ++ next :: waiting) need last :=
        fun need wants => sound.precedes_old settled (needs need wants)
      rcases List.mem_append.mp left with oldFirst | freshFirst
      · have before := fair.byLastNeed first oldFirst second oldSecond last edge kept
        exact before.mono (List.sublist_append_left _ _)
      · have waits : next ∈ deps first := (mem_released.mp freshFirst).2.1
        exact absurd (kept next waits) (sound.not_before_settled oldSecond edge).2
    · rcases List.mem_append.mp left with oldFirst | freshFirst
      · exact precedes_append.mpr (.inr (.inl ⟨oldFirst, freshSecond⟩))
      · have waits : next ∈ deps first := (mem_released.mp freshFirst).2.1
        have present := (mem_released.mp freshSecond).2.2 last edge
        have old : last ∈ emitted ++ next :: waiting := by
          rw [List.mem_append, List.mem_singleton] at present
          rw [List.mem_append, List.mem_cons]
          tauto
        have before := sound.precedes_old old (needs next waits)
        rcases List.mem_append.mp present with settled | same
        · have ahead : Precedes (emitted ++ next :: waiting) last next :=
            precedes_append.mpr (.inr (.inl ⟨settled, List.mem_cons_self⟩))
          exact absurd before (ahead.asymm sound.nodup)
        · exact absurd (List.mem_singleton.mp same).symm (before.ne sound.nodup)
  asIterated first left second right last edgeFirst edgeSecond needsFirst needsSecond iterated := by
    rcases List.mem_append.mp right with oldSecond | freshSecond
    · have settled := List.mem_append_left (next :: waiting)
        (sound.settled second oldSecond last edgeSecond)
      have kept : ∀ need, need = last ∨ Precedes
            ((emitted ++ next :: waiting) ++ released deps nodes emitted next) need last →
          need = last ∨ Precedes (emitted ++ next :: waiting) need last :=
        fun need before => before.imp_right (sound.precedes_old settled)
      rcases List.mem_append.mp left with oldFirst | freshFirst
      · have before := fair.asIterated first oldFirst second oldSecond last edgeFirst edgeSecond
          (fun need wants => kept need (needsFirst need wants))
          (fun need wants => kept need (needsSecond need wants)) iterated
        exact before.mono (List.sublist_append_left _ _)
      · have waits : next ∈ deps first := (mem_released.mp freshFirst).2.1
        have apart := sound.not_before_settled oldSecond edgeSecond
        rcases kept next (needsFirst next waits) with same | before
        · exact absurd same.symm apart.1
        · exact absurd before apart.2
    · rcases List.mem_append.mp left with oldFirst | freshFirst
      · exact precedes_append.mpr (.inr (.inl ⟨oldFirst, freshSecond⟩))
      · refine precedes_append.mpr (.inr (.inr (iterated.filter _ ?_ ?_)))
        · exact decide_eq_true (mem_released.mp freshFirst).2
        · exact decide_eq_true (mem_released.mp freshSecond).2

theorem Fair.drain {emitted waiting : List α} (distinct : nodes.Nodup)
    (sound : Sound deps nodes emitted waiting)
    (fair : Fair deps nodes sources (emitted ++ waiting)) (fuel : Nat)
    (enough : nodes.length ≤ emitted.length + fuel) :
    Fair deps nodes sources (drain deps nodes fuel emitted waiting) := by
  induction fuel generalizing emitted waiting with
  | zero =>
      rw [sound.waiting_eq_nil enough, List.append_nil] at fair
      exact fair
  | succ fuel ih =>
      cases waiting with
      | nil =>
          rw [List.append_nil] at fair
          exact fair
      | cons next waiting =>
          apply ih (sound.step distinct)
          · have after := fair.step sound
            simpa using after
          · rw [List.length_append, List.length_singleton]
            omega

/-- A node that every iteration order puts before another. -/
inductive Earlier (deps : α → List α) (sources : List α) : α → α → Prop where
  | source {first second : α} (declared : Precedes sources first second) :
      Earlier deps sources first second
  | waits {first second : α} (last : α) (edge : last ∈ deps second)
      (needs : ∀ need ∈ deps first, Earlier deps sources need last) :
      Earlier deps sources first second

/-- A finite acyclic graph with its nodes and the nodes that need nothing. -/
structure Layout (deps : α → List α) (nodes sources : List α) : Prop where
  distinct : nodes.Nodup
  sourcesDistinct : sources.Nodup
  sourcesExact : ∀ node, node ∈ sources ↔ node ∈ nodes ∧ deps node = []
  closed : ∀ node ∈ nodes, ∀ need ∈ deps node, need ∈ nodes
  acyclic : ∀ node ∈ nodes, ¬ OnCycle deps node

omit [DecidableEq α] in
theorem Layout.perm {iteration : List α} (layout : Layout deps nodes sources)
    (perm : iteration.Perm nodes) : Layout deps iteration sources where
  distinct := perm.nodup_iff.mpr layout.distinct
  sourcesDistinct := layout.sourcesDistinct
  sourcesExact node := by rw [perm.mem_iff]; exact layout.sourcesExact node
  closed node member need edge := by
    rw [perm.mem_iff] at member ⊢
    exact layout.closed node member need edge
  acyclic node member := layout.acyclic node (perm.mem_iff.mp member)

/-- The queue after the last round. -/
structure Drained (deps : α → List α) (nodes sources queue : List α) : Prop where
  sound : Sound deps nodes queue []
  fair : Fair deps nodes sources queue
  perm : queue.Perm nodes

theorem Layout.drained (layout : Layout deps nodes sources) {fuel : Nat}
    (enough : nodes.length ≤ fuel) :
    Drained deps nodes sources (drain deps nodes fuel [] sources) := by
  have sound := (sound_initial layout.sourcesDistinct layout.sourcesExact).drain layout.distinct
    fuel (by simpa using enough)
  have initial : Fair deps nodes sources ([] ++ sources) :=
    fair_initial (fun node member => ((layout.sourcesExact node).mp member).2)
  refine ⟨sound, initial.drain layout.distinct
    (sound_initial layout.sourcesDistinct layout.sourcesExact) fuel (by simpa using enough), ?_⟩
  exact sound.perm layout.distinct (sound.all_emitted layout.closed layout.acyclic)

omit [DecidableEq α] in
theorem Drained.nodup {queue : List α} (drained : Drained deps nodes sources queue) :
    queue.Nodup := by
  have distinct := drained.sound.nodup
  rw [List.append_nil] at distinct
  exact distinct

omit [DecidableEq α] in
theorem Earlier.precedes {queue : List α} (drained : Drained deps nodes sources queue)
    {first second : α} (earlier : Earlier deps sources first second) (left : first ∈ queue)
    (right : second ∈ queue) : Precedes queue first second := by
  induction earlier with
  | source declared => exact declared.mono drained.fair.sourcesFirst.sublist
  | waits last edge needs ih =>
      apply drained.fair.byLastNeed _ left _ right last edge
      intro need wants
      have ordered := drained.sound.ordered
      exact ih need wants (ordered.mem_of_edge left wants) (ordered.mem_of_edge right edge)

omit [DecidableEq α] in
theorem Earlier.mono {small large : List α} (sub : small.Sublist large) {first second : α}
    (earlier : Earlier deps small first second) : Earlier deps large first second := by
  induction earlier with
  | source declared => exact .source (declared.mono sub)
  | waits last edge _ ih => exact .waits last edge ih

omit [DecidableEq α] in
/-- Between nodes of a part that follows its own edges only its own sources matter. -/
theorem Earlier.filter {keep : α → Bool}
    (closed : ∀ node, keep node = true → ∀ need ∈ deps node, keep need = true)
    {first second : α} (earlier : Earlier deps sources first second)
    (left : keep first = true) (right : keep second = true) :
    Earlier deps (sources.filter keep) first second := by
  induction earlier with
  | source declared => exact .source (declared.filter _ left right)
  | waits last edge _ ih =>
      exact .waits last edge (fun need wants =>
        ih need wants (closed _ left need wants) (closed _ right last edge))

omit [DecidableEq α] in
/-- Nodes that no iteration order separates for good share their neighbours:
whatever comes after one of the two in every order, or before it, does so with both. -/
theorem Earlier.split (layout : Layout deps nodes sources) {first last : α}
    (earlier : Earlier deps sources first last) :
    ∀ middle ∈ nodes, Earlier deps sources first middle ∨ Earlier deps sources middle last := by
  induction earlier with
  | @source first last declared =>
      intro middle member
      by_cases free : deps middle = []
      · have isSource := (layout.sourcesExact middle).mpr ⟨member, free⟩
        by_cases same : middle = last
        · rw [same]
          exact .inl (.source declared)
        · rcases precedes_or_precedes same isSource declared.mem_right with before | after
          · exact .inr (.source before)
          · exact .inl (.source (declared.trans layout.sourcesDistinct after))
      · obtain ⟨need, edge⟩ := List.exists_mem_of_ne_nil _ free
        have without := ((layout.sourcesExact first).mp declared.mem_left).2
        exact .inl (.waits need edge (by simp [without]))
  | @waits first last final edge needs ih =>
      intro middle member
      by_cases found : ∃ need ∈ deps middle, ∀ wanted ∈ deps first, Earlier deps sources wanted need
      · obtain ⟨need, wants, all⟩ := found
        exact .inl (.waits need wants all)
      · push Not at found
        refine .inr (.waits final edge (fun need wants => ?_))
        obtain ⟨wanted, needed, not_earlier⟩ := found need wants
        have inside := layout.closed middle member need wants
        exact (ih wanted needed need inside).resolve_left not_earlier

/-- `last` is the need of `node` that leaves the queue last. -/
def LastNeed (deps : α → List α) (queue : List α) (node last : α) : Prop :=
  last ∈ deps node ∧ ∀ need ∈ deps node, need = last ∨ Precedes queue need last

omit [DecidableEq α] in
theorem exists_last {queue needs : List α} (distinct : queue.Nodup) (some : needs ≠ [])
    (inside : ∀ need ∈ needs, need ∈ queue) :
    ∃ last ∈ needs, ∀ need ∈ needs, need = last ∨ Precedes queue need last := by
  induction needs with
  | nil => exact absurd rfl some
  | cons head tail ih =>
      by_cases alone : tail = []
      · subst alone
        exact ⟨head, by simp, fun need member => .inl (List.mem_singleton.mp member)⟩
      · obtain ⟨last, member, final⟩ := ih alone (fun need member => inside need (by simp [member]))
        by_cases same : head = last
        · refine ⟨last, by simp [member], fun need wants => ?_⟩
          rcases List.mem_cons.mp wants with rfl | wants
          · exact .inl same
          · exact final need wants
        · rcases precedes_or_precedes same (inside head (by simp))
              (inside last (by simp [member])) with before | after
          · refine ⟨last, by simp [member], fun need wants => ?_⟩
            rcases List.mem_cons.mp wants with rfl | wants
            · exact .inr before
            · exact final need wants
          · refine ⟨head, by simp, fun need wants => ?_⟩
            rcases List.mem_cons.mp wants with rfl | wants
            · exact .inl rfl
            · rcases final need wants with rfl | earlier
              · exact .inr after
              · exact .inr (earlier.trans distinct after)

omit [DecidableEq α] in
theorem lastNeed_rightUnique {queue : List α} (distinct : queue.Nodup) :
    Relator.RightUnique (LastNeed deps queue) := by
  intro node left right isLeft isRight
  rcases isLeft.2 right isRight.1 with same | before
  · exact same.symm
  · rcases isRight.2 left isLeft.1 with same | after
    · exact same
    · exact absurd after (before.asymm distinct)

omit [DecidableEq α] in
theorem LastNeed.path {queue : List α} {node last : α}
    (chain : Relation.ReflTransGen (LastNeed deps queue) node last) :
    Relation.ReflTransGen (Needs deps) node last :=
  Relation.ReflTransGen.mono (fun _ _ (step : LastNeed deps queue _ _) => step.1) _ _ chain

omit [DecidableEq α] in
/-- Along a chain of last needs two nodes with a common last need are one. -/
theorem chain_unique {reference queue : List α} {start first second last : α}
    (drained : Drained deps nodes sources queue) (distinct : reference.Nodup)
    (toFirst : Relation.ReflTransGen (LastNeed deps reference) start first)
    (toSecond : Relation.ReflTransGen (LastNeed deps reference) start second)
    (firstInside : first ∈ queue) (secondInside : second ∈ queue)
    (firstLast : LastNeed deps queue first last) (secondLast : LastNeed deps queue second last) :
    first = second := by
  have ordered := drained.sound.ordered
  -- the second last need of the upper node would come after `last`, which it needs
  have above : ∀ upper lower, upper ∈ queue → LastNeed deps queue upper last →
      last ∈ deps lower → Relation.ReflTransGen (LastNeed deps reference) upper lower →
      upper = lower := by
    intro upper lower inside upperLast edge chain
    rcases Relation.ReflTransGen.cases_head chain with same | ⟨next, step, rest⟩
    · exact same
    · have nextInside := ordered.mem_of_edge inside step.1
      have path : Relation.TransGen (Needs deps) next last :=
        Relation.TransGen.tail' (LastNeed.path rest) edge
      have before := ordered.precedes_of_path nextInside path
      rcases upperLast.2 next step.1 with same | after
      · exact absurd same.symm (before.ne drained.nodup)
      · exact absurd after (before.asymm drained.nodup)
  rcases toFirst.total_of_right_unique (lastNeed_rightUnique distinct) toSecond with
    down | up
  · exact above first second firstInside firstLast secondLast.1 down
  · exact (above second first secondInside secondLast firstLast.1 up).symm

/-- Some order of the nodes delays `target` as far as the graph lets it: every
node that `target` does not always come before is drained before it. -/
theorem exists_delaying (layout : Layout deps nodes sources) (target : α) :
    ∃ iteration, iteration.Perm nodes ∧ ∀ queue, Drained deps iteration sources queue →
      ∀ other ∈ nodes, other ≠ target → target ∈ nodes →
        ¬ Earlier deps sources target other → Precedes queue other target := by
  classical
  have reference := layout.drained le_rfl
  generalize drain deps nodes nodes.length [] sources = expected at reference
  -- the chain of last needs below the target is iterated after everything else
  let chain := Relation.ReflTransGen (LastNeed deps expected) target
  refine ⟨nodes.filter (fun node => !decide (chain node)) ++
    nodes.filter (fun node => !!decide (chain node)), List.filter_append_perm _ nodes, ?_⟩
  intro queue drained other otherInside different targetInside notEarlier
  have mem_queue : ∀ node, node ∈ queue ↔ node ∈ nodes := by
    intro node
    rw [drained.perm.mem_iff, (List.filter_append_perm _ nodes).mem_iff]
  have delayed : ∀ node ∈ nodes, chain node → ∀ other ∈ nodes, other ≠ node →
      ¬ Earlier deps sources node other → Precedes queue other node := by
    apply wellFounded_of_acyclic nodes layout.closed layout.acyclic
      (P := fun node => chain node → ∀ other ∈ nodes, other ≠ node →
        ¬ Earlier deps sources node other → Precedes queue other node)
    intro node member ih onChain other otherInside different notEarlier
    by_cases free : deps node = []
    · by_cases otherFree : deps other = []
      · have isSource := (layout.sourcesExact node).mpr ⟨member, free⟩
        have otherSource := (layout.sourcesExact other).mpr ⟨otherInside, otherFree⟩
        rcases precedes_or_precedes different otherSource isSource with before | after
        · exact before.mono drained.fair.sourcesFirst.sublist
        · exact absurd (.source after) notEarlier
      · obtain ⟨need, edge⟩ := List.exists_mem_of_ne_nil _ otherFree
        exact absurd (.waits need edge (by simp [free])) notEarlier
    · obtain ⟨last, edge, final⟩ := exists_last reference.nodup free (by
        intro need wants
        rw [reference.perm.mem_iff]
        exact layout.closed node member need wants)
      have lastInside := layout.closed node member last edge
      have lastOnChain : chain last := onChain.tail ⟨edge, final⟩
      have notAhead : ∀ need ∈ deps node, need ≠ last → ¬ Earlier deps sources last need := by
        intro need wants apart earlier
        have needInside := layout.closed node member need wants
        have before := earlier.precedes reference (reference.perm.mem_iff.mpr lastInside)
          (reference.perm.mem_iff.mpr needInside)
        exact absurd ((final need wants).resolve_left apart) (before.asymm reference.nodup)
      have isLast : LastNeed deps queue node last := by
        refine ⟨edge, fun need wants => ?_⟩
        by_cases same : need = last
        · exact .inl same
        · exact .inr (ih last edge lastOnChain need (layout.closed node member need wants) same
            (notAhead need wants same))
      have otherNeeds : ∀ need ∈ deps other, need = last ∨ Precedes queue need last := by
        intro need wants
        by_cases same : need = last
        · exact .inl same
        · have needInside := layout.closed other otherInside need wants
          refine .inr (ih last edge lastOnChain need needInside same (fun earlier => ?_))
          apply notEarlier
          refine .waits need wants (fun wanted needed => ?_)
          by_cases final_ : wanted = last
          · rw [final_]
            exact earlier
          · exact (earlier.split layout wanted
              (layout.closed node member wanted needed)).resolve_left
                (notAhead wanted needed final_)
      have otherQueued := (mem_queue other).mpr otherInside
      have queued := (mem_queue node).mpr member
      by_cases shared : last ∈ deps other
      · apply drained.fair.asIterated other otherQueued node queued last shared edge otherNeeds
          isLast.2
        rw [precedes_append]
        by_cases otherOnChain : chain other
        · exact absurd (chain_unique drained reference.nodup otherOnChain onChain otherQueued
            queued ⟨shared, otherNeeds⟩ isLast) different
        · exact .inr (.inl ⟨by simp [otherInside, otherOnChain], by simp [member, onChain]⟩)
      · apply drained.fair.byLastNeed other otherQueued node queued last edge
        intro need wants
        refine (otherNeeds need wants).resolve_left (fun same => ?_)
        rw [same] at wants
        exact shared wants
  exact delayed target targetInside .refl other otherInside different notEarlier

omit [DecidableEq α] in
/-- Two lists of the same nodes in which the same nodes precede each other are one. -/
theorem eq_of_precedes {left right : List α} (distinct : left.Nodup) (perm : left.Perm right)
    (agree : ∀ first second, Precedes left first second → Precedes right first second) :
    left = right := by
  refine @List.Perm.eq_of_pairwise _ (Precedes right) _ _ ?_ ?_ ?_ perm
  · intro first second _ _ before after
    exact absurd after (before.asymm (perm.nodup_iff.mp distinct))
  · exact List.pairwise_iff_forall_sublist.mpr (fun before => agree _ _ before)
  · exact List.pairwise_iff_forall_sublist.mpr (fun before => before)

/-- The drained queue is the same for every order of the nodes exactly when the
graph and the order of its sources decide between any two of them. -/
theorem drain_canonical_iff (layout : Layout deps nodes sources) :
    (∀ first second, first.Perm nodes → second.Perm nodes →
      drain deps first nodes.length [] sources = drain deps second nodes.length [] sources) ↔
    ∀ first ∈ nodes, ∀ second ∈ nodes, first ≠ second →
      Earlier deps sources first second ∨ Earlier deps sources second first := by
  have drainedBy : ∀ iteration, iteration.Perm nodes →
      Drained deps iteration sources (drain deps iteration nodes.length [] sources) :=
    fun iteration perm => (layout.perm perm).drained perm.length_eq.le
  constructor
  · intro canonical first firstInside second secondInside different
    by_contra undecided
    push Not at undecided
    obtain ⟨early, earlyPerm, earlyOrder⟩ := exists_delaying layout first
    obtain ⟨late, latePerm, lateOrder⟩ := exists_delaying layout second
    have before := earlyOrder _ (drainedBy early earlyPerm) second secondInside
      different.symm firstInside undecided.1
    have after := lateOrder _ (drainedBy late latePerm) first firstInside
      different secondInside undecided.2
    rw [canonical early late earlyPerm latePerm] at before
    exact before.asymm (drainedBy late latePerm).nodup after
  · intro decided first second firstPerm secondPerm
    have left := drainedBy first firstPerm
    have right := drainedBy second secondPerm
    apply eq_of_precedes left.nodup (left.perm.trans (firstPerm.trans (secondPerm.symm.trans
      right.perm.symm)))
    intro one other before
    have mem : ∀ {node}, node ∈ drain deps first nodes.length [] sources → node ∈ nodes :=
      fun member => (left.perm.trans firstPerm).mem_iff.mp member
    have toRight : ∀ {node}, node ∈ drain deps first nodes.length [] sources →
        node ∈ drain deps second nodes.length [] sources :=
      fun member => (right.perm.trans secondPerm).mem_iff.mpr (mem member)
    rcases decided one (mem before.mem_left) other (mem before.mem_right)
        (before.ne left.nodup) with earlier | later
    · exact earlier.precedes right (toRight before.mem_left) (toRight before.mem_right)
    · exact absurd (later.precedes left before.mem_right before.mem_left)
        (before.asymm left.nodup)

end FortifyLab.KahnQueue
