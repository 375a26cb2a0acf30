import HostTypes.Proofs.Conversion.Path
import Mathlib.Data.List.Nodup

/-!
The search for a chain of converters. `Ends` is its loop without a bound on the number of rounds;
the bound that `search` sets is never met (`search_ends`). `Explored` says what a search knows: for
every attempted step, a known path to the type it leads to that is tried no later. So no chain comes
before the one that is found.
-/

namespace HostTypes

namespace ConversionGraph

variable {graph : ConversionGraph} {source goal : TypeKey}

/-! ## The loop and its end -/

/-- How the loop ends: with nothing left to expand, or with the chain that an expansion gives. -/
inductive Ends (graph : ConversionGraph) (goal : TypeKey) :
    SearchState → Option (List Nat) → Prop
  | exhausted {visited : List TypeKey} : Ends graph goal ⟨visited, []⟩ none
  | found {visited : List TypeKey} {reached : Reached} {queue : List Reached} {chain : List Nat}
      (expanded : graph.expand goal reached graph.converters.zipIdx ⟨visited, queue⟩ = .inl chain) :
      Ends graph goal ⟨visited, reached :: queue⟩ (some chain)
  | next {visited : List TypeKey} {reached : Reached} {queue : List Reached}
      {state : SearchState} {result : Option (List Nat)}
      (expanded : graph.expand goal reached graph.converters.zipIdx ⟨visited, queue⟩ = .inr state)
      (rest : Ends graph goal state result) : Ends graph goal ⟨visited, reached :: queue⟩ result

def leadsToNew (visited : List TypeKey) (converter : Converter) : Bool :=
  !visited.contains converter.target

theorem leadsToNew_iff {visited : List TypeKey} {converter : Converter} :
    leadsToNew visited converter = true ↔ converter.target ∉ visited := by
  simp [leadsToNew]

/-- A bound on the number of expansions to come: the types that wait for theirs, and the converters
that lead to types not reached yet. -/
def potential (graph : ConversionGraph) (state : SearchState) : Nat :=
  state.queue.length + graph.converters.countP (leadsToNew state.visited)

theorem countP_leadsToNew_lt {visited : List TypeKey} {converter : Converter}
    (member : converter ∈ graph.converters) (fresh : converter.target ∉ visited) :
    graph.converters.countP (leadsToNew (converter.target :: visited)) <
      graph.converters.countP (leadsToNew visited) := by
  have fewer : ∀ converters : List Converter,
      converters.countP (leadsToNew (converter.target :: visited)) ≤
        converters.countP (leadsToNew visited) := by
    intro converters
    refine List.countP_mono_left fun other _ unseen => ?_
    rw [leadsToNew_iff] at unseen ⊢
    exact fun seen => unseen (List.mem_cons_of_mem _ seen)
  have seen : ¬ leadsToNew (converter.target :: visited) converter := by simp [leadsToNew_iff]
  obtain ⟨before, after, split⟩ := List.append_of_mem member
  have one := fewer before
  have two := fewer after
  rw [split, List.countP_append, List.countP_append, List.countP_cons_of_neg seen,
    List.countP_cons_of_pos (leadsToNew_iff.2 fresh)]
  omega

theorem potential_expand_le {reached : Reached} {steps : List (Converter × Nat)}
    (registered : ∀ step ∈ steps, step.1 ∈ graph.converters) {state next : SearchState}
    (expanded : graph.expand goal reached steps state = .inr next) :
    graph.potential next ≤ graph.potential state := by
  induction steps generalizing state with
  | nil =>
      simp only [expand, Sum.inr.injEq] at expanded
      rw [expanded]
  | cons step rest ih =>
      obtain ⟨converter, number⟩ := step
      obtain ⟨member, others⟩ := List.forall_mem_cons.1 registered
      simp only [expand] at expanded
      split at expanded
      · split at expanded
        · cases expanded
        · split at expanded
          · exact ih others expanded
          · rename_i fresh
            have less := ih others expanded
            rw [Bool.or_eq_true, List.contains_iff_mem, not_or] at fresh
            have drop := countP_leadsToNew_lt member fresh.2
            simp only [potential, List.length_append, List.length_singleton] at less drop ⊢
            omega
      · exact ih others expanded

theorem mem_converters_of_mem_zipIdx (step : Converter × Nat)
    (member : step ∈ graph.converters.zipIdx) : step.1 ∈ graph.converters :=
  List.fst_mem_of_mem_zipIdx member

theorem searchFrom_ends {fuel : Nat} {state : SearchState}
    (enough : graph.potential state < fuel) :
    graph.Ends goal state (graph.searchFrom goal fuel state) := by
  induction fuel generalizing state with
  | zero => omega
  | succ fuel ih =>
      obtain ⟨visited, queue⟩ := state
      cases queue with
      | nil => exact .exhausted
      | cons reached queue =>
          simp only [searchFrom]
          split
          · exact .found ‹_›
          · rename_i next expanded
            have less := potential_expand_le mem_converters_of_mem_zipIdx expanded
            simp only [potential, List.length_cons] at less enough
            exact .next expanded (ih (by simp only [potential]; omega))

theorem search_ends (source goal : TypeKey) :
    graph.Ends goal ⟨[source], [⟨source, []⟩]⟩ (graph.search source goal) := by
  refine searchFrom_ends ?_
  have most : graph.converters.countP (leadsToNew [source]) ≤ graph.converters.length :=
    List.countP_le_length
  simp only [potential, List.length_singleton]
  omega

/-! ## What a search knows -/

/-- What holds of the types that a search has reached when some steps from them have been tried. A
step is a known type with the number of a converter. -/
structure Explored (graph : ConversionGraph) (source goal : TypeKey) (known : List Reached)
    (visited : List TypeKey) (tried : Reached → Nat → Prop) : Prop where
  sorted : known.Pairwise fun first second => rank first.path < rank second.path
  marked : ∀ type, type ∈ visited ↔ ∃ reached ∈ known, reached.type = type
  root : ⟨source, []⟩ ∈ known
  leads : ∀ reached ∈ known, graph.Path source reached.path reached.type ∧
    graph.Chainable reached.path
  covered : ∀ reached ∈ known, ∀ number converter, graph.converters[number]? = some converter →
    graph.canFollow reached converter → converter.flags.noChaining = false →
    tried reached number → ∃ other ∈ known, other.type = converter.target ∧
      rank other.path ≤ rank (reached.path ++ [number])
  missed : ∀ reached ∈ known, ∀ number converter, graph.converters[number]? = some converter →
    graph.canFollow reached converter → tried reached number →
    ¬ graph.hierarchy.isAssignable converter.target goal

theorem Explored.mono {known : List Reached} {visited : List TypeKey}
    {tried others : Reached → Nat → Prop}
    (explored : graph.Explored source goal known visited tried)
    (fewer : ∀ reached ∈ known, ∀ number < graph.converters.length,
      others reached number → tried reached number) :
    graph.Explored source goal known visited others where
  sorted := explored.sorted
  marked := explored.marked
  root := explored.root
  leads := explored.leads
  covered := fun reached member number converter located follows several attempt =>
    explored.covered reached member number converter located follows several
      (fewer reached member number (List.getElem?_eq_some_iff.1 located).1 attempt)
  missed := fun reached member number converter located follows attempt =>
    explored.missed reached member number converter located follows
      (fewer reached member number (List.getElem?_eq_some_iff.1 located).1 attempt)

/-- Once all steps that come before a path have been tried, its type has been reached no later. -/
theorem Explored.exists_reached {known : List Reached} {visited : List TypeKey}
    {tried : Reached → Nat → Prop} (explored : graph.Explored source goal known visited tried)
    {path : List Nat} {type : TypeKey} (leads : graph.Path source path type)
    (chainable : graph.Chainable path)
    (attempted : ∀ reached ∈ known, ∀ number, rank (reached.path ++ [number]) ≤ rank path →
      tried reached number) :
    ∃ reached ∈ known, reached.type = type ∧ rank reached.path ≤ rank path := by
  induction leads with
  | start => exact ⟨_, explored.root, rfl, le_refl _⟩
  | @step path type number converter _ located applies ih =>
      obtain ⟨before, several⟩ := (chainable_concat located).1 chainable
      have shorter := rank_lt_concat path number
      obtain ⟨reached, member, rfl, earlier⟩ := ih before fun reached member other below =>
        attempted reached member other (below.trans (le_of_lt shorter))
      have step := rank_concat_le earlier number
      have follows : graph.canFollow reached converter :=
        canFollow_iff.2 ⟨applies, fun single => by rw [several] at single; cases single⟩
      obtain ⟨other, known, same, below⟩ := explored.covered reached member number converter located
        follows several (attempted reached member number step)
      exact ⟨other, known, same, below.trans step⟩

theorem Explored.not_validChain {known : List Reached} {visited : List TypeKey}
    {tried : Reached → Nat → Prop} (explored : graph.Explored source goal known visited tried)
    {chain : List Nat}
    (attempted : ∀ reached ∈ known, ∀ number, rank (reached.path ++ [number]) ≤ rank chain →
      tried reached number) :
    ¬ graph.ValidChain source goal chain := by
  intro valid
  obtain ⟨path, number, rfl⟩ : ∃ path number, chain = path ++ [number] :=
    ⟨_, _, (List.dropLast_append_getLast valid.nonempty).symm⟩
  obtain ⟨type, converter, leads, chainable, located, follows, fits⟩ := validChain_concat_iff.1 valid
  have shorter := rank_lt_concat path number
  obtain ⟨reached, member, rfl, earlier⟩ := explored.exists_reached leads chainable
    fun reached member other below =>
      attempted reached member other (below.trans (le_of_lt shorter))
  obtain ⟨applies, alone⟩ := canFollow_iff.1 follows
  -- A converter for single use is tried at the start only, where the known path is empty too.
  have same : graph.canFollow reached converter := by
    refine canFollow_iff.2 ⟨applies, fun single => ?_⟩
    obtain rfl : path = [] := alone single
    exact rank_injective (le_antisymm earlier (rank_nil_le _))
  exact explored.missed reached member number converter located same
    (attempted reached member number (rank_concat_le earlier number)) fits

/-! ## How it comes to know it -/

theorem Explored.eq_of_path_eq {known : List Reached} {visited : List TypeKey}
    {tried : Reached → Nat → Prop} (explored : graph.Explored source goal known visited tried)
    {first second : Reached} (one : first ∈ known) (two : second ∈ known)
    (same : first.path = second.path) : first = second := by
  have apart : (known.map Reached.path).Nodup := by
    rw [List.Nodup, List.pairwise_map]
    refine explored.sorted.imp fun less equal => ?_
    rw [equal] at less
    exact lt_irrefl _ less
  exact List.inj_on_of_nodup_map apart one two same

theorem Explored.insert {known : List Reached} {visited : List TypeKey}
    {tried : Reached → Nat → Prop} (explored : graph.Explored source goal known visited tried)
    {reached : Reached} (last : ∀ other ∈ known, rank other.path < rank reached.path)
    (leads : graph.Path source reached.path reached.type)
    (chainable : graph.Chainable reached.path) (untried : ∀ number, ¬ tried reached number) :
    graph.Explored source goal (known ++ [reached]) (reached.type :: visited) tried where
  sorted := List.pairwise_append.2 ⟨explored.sorted, List.pairwise_singleton _ _,
    fun other member _ added => List.mem_singleton.1 added ▸ last other member⟩
  marked := by
    intro type
    rw [List.mem_cons, explored.marked]
    constructor
    · rintro (rfl | ⟨other, member, rfl⟩)
      · exact ⟨reached, by simp, rfl⟩
      · exact ⟨other, List.mem_append_left _ member, rfl⟩
    · rintro ⟨other, member, rfl⟩
      rcases List.mem_append.1 member with old | added
      · exact .inr ⟨other, old, rfl⟩
      · exact .inl (congrArg Reached.type (List.mem_singleton.1 added))
  root := List.mem_append_left _ explored.root
  leads := by
    intro other member
    rcases List.mem_append.1 member with old | added
    · exact explored.leads other old
    · exact List.mem_singleton.1 added ▸ ⟨leads, chainable⟩
  covered := by
    intro other member number converter located follows several attempt
    rcases List.mem_append.1 member with old | added
    · obtain ⟨cover, inside, fits⟩ :=
        explored.covered other old number converter located follows several attempt
      exact ⟨cover, List.mem_append_left _ inside, fits⟩
    · exact absurd (List.mem_singleton.1 added ▸ attempt) (untried number)
  missed := by
    intro other member number converter located follows attempt
    rcases List.mem_append.1 member with old | added
    · exact explored.missed other old number converter located follows attempt
    · exact absurd (List.mem_singleton.1 added ▸ attempt) (untried number)

def Before (path : List Nat) (reached : Reached) (number : Nat) : Prop :=
  rank (reached.path ++ [number]) < rank path

theorem Explored.advance {known : List Reached} {visited : List TypeKey} {reached : Reached}
    {number : Nat}
    (explored : graph.Explored source goal known visited (Before (reached.path ++ [number])))
    (member : reached ∈ known)
    (covered : ∀ converter, graph.converters[number]? = some converter →
      graph.canFollow reached converter → converter.flags.noChaining = false →
      ∃ other ∈ known, other.type = converter.target ∧
        rank other.path ≤ rank (reached.path ++ [number]))
    (missed : ∀ converter, graph.converters[number]? = some converter →
      graph.canFollow reached converter → ¬ graph.hierarchy.isAssignable converter.target goal) :
    graph.Explored source goal known visited (Before (reached.path ++ [number + 1])) where
  sorted := explored.sorted
  marked := explored.marked
  root := explored.root
  leads := explored.leads
  covered := by
    intro other inside step converter located follows several attempt
    rcases rank_concat_lt_succ attempt with old | ⟨same, rfl⟩
    · exact explored.covered other inside step converter located follows several old
    · obtain rfl := explored.eq_of_path_eq inside member same
      exact covered converter located follows several
  missed := by
    intro other inside step converter located follows attempt
    rcases rank_concat_lt_succ attempt with old | ⟨same, rfl⟩
    · exact explored.missed other inside step converter located follows old
    · obtain rfl := explored.eq_of_path_eq inside member same
      exact missed converter located follows

/-! ## Rounds of the loop -/

/-- Between two rounds: all steps from the types expanded so far have been tried, and no others. -/
structure Waiting (graph : ConversionGraph) (source goal : TypeKey) (closed : List Reached)
    (state : SearchState) : Prop where
  explored : graph.Explored source goal (closed ++ state.queue) state.visited
    fun reached _ => reached ∈ closed
  below : ∀ other ∈ closed ++ state.queue, ∀ next ∈ state.queue,
    rank other.path < rank (next.path ++ [0])

/-- In a round, when the steps from `reached` by the converters before `number` have been tried. -/
structure Expanding (graph : ConversionGraph) (source goal : TypeKey) (closed : List Reached)
    (reached : Reached) (number : Nat) (state : SearchState) : Prop where
  explored : graph.Explored source goal (closed ++ reached :: state.queue) state.visited
    (Before (reached.path ++ [number]))
  below : ∀ other ∈ closed ++ reached :: state.queue,
    rank other.path < rank (reached.path ++ [number])

theorem waiting_start : graph.Waiting source goal [] ⟨[source], [⟨source, []⟩]⟩ where
  explored :=
    { sorted := List.pairwise_singleton _ _
      marked := by simp [eq_comm]
      root := by simp
      leads := by simpa [Chainable] using Path.start
      covered := by simp
      missed := by simp }
  below := by
    simp only [List.nil_append, List.mem_singleton]
    rintro _ rfl _ rfl
    exact rank_lt_concat [] 0

theorem Waiting.expanding {closed : List Reached} {visited : List TypeKey} {reached : Reached}
    {queue : List Reached} (waiting : graph.Waiting source goal closed ⟨visited, reached :: queue⟩) :
    graph.Expanding source goal closed reached 0 ⟨visited, queue⟩ where
  explored := by
    refine waiting.explored.mono fun other member step _ before => ?_
    obtain ⟨_, later, _⟩ := List.pairwise_append.1 waiting.explored.sorted
    rcases List.mem_append.1 member with old | new
    · exact old
    · rcases List.mem_cons.1 new with rfl | queued
      · exact absurd ((rank_concat_lt_right _).1 before) (Nat.not_lt_zero _)
      · have after := rank_concat_lt ((List.pairwise_cons.1 later).1 other queued) 0 step
        exact absurd before (lt_asymm after)
  below := fun other member => waiting.below other member reached List.mem_cons_self

theorem Expanding.waiting {closed : List Reached} {reached : Reached} {state : SearchState}
    (expanding : graph.Expanding source goal closed reached graph.converters.length state) :
    graph.Waiting source goal (closed ++ [reached]) state := by
  have split : closed ++ [reached] ++ state.queue = closed ++ reached :: state.queue := by simp
  obtain ⟨_, later, before⟩ := List.pairwise_append.1 expanding.explored.sorted
  constructor
  · rw [split]
    refine expanding.explored.mono fun other _ step bound member => ?_
    rcases List.mem_append.1 member with old | new
    · exact rank_concat_lt (before other old reached List.mem_cons_self) _ _
    · rw [List.mem_singleton.1 new]
      exact (rank_concat_lt_right _).2 bound
  · rw [split]
    intro other member next queued
    exact (expanding.below other member).trans
      (rank_concat_lt ((List.pairwise_cons.1 later).1 next queued) _ _)

theorem Expanding.skip {closed : List Reached} {reached : Reached} {number : Nat}
    {state : SearchState} (expanding : graph.Expanding source goal closed reached number state)
    (known : ∀ converter, graph.converters[number]? = some converter →
      graph.canFollow reached converter → converter.flags.noChaining = false →
      converter.target ∈ state.visited)
    (missed : ∀ converter, graph.converters[number]? = some converter →
      graph.canFollow reached converter → ¬ graph.hierarchy.isAssignable converter.target goal) :
    graph.Expanding source goal closed reached (number + 1) state where
  explored := by
    refine expanding.explored.advance (by simp) (fun converter located follows several => ?_) missed
    obtain ⟨other, member, same⟩ :=
      (expanding.explored.marked _).1 (known converter located follows several)
    exact ⟨other, member, same, le_of_lt (expanding.below other member)⟩
  below := fun other member => (expanding.below other member).trans
    ((rank_concat_lt_right _).2 (Nat.lt_succ_self number))

theorem Expanding.push {closed : List Reached} {reached : Reached} {number : Nat}
    {converter : Converter} {state : SearchState}
    (expanding : graph.Expanding source goal closed reached number state)
    (located : graph.converters[number]? = some converter)
    (follows : graph.canFollow reached converter) (several : converter.flags.noChaining = false)
    (missed : ¬ graph.hierarchy.isAssignable converter.target goal) :
    graph.Expanding source goal closed reached (number + 1)
      ⟨converter.target :: state.visited,
        state.queue ++ [⟨converter.target, reached.path ++ [number]⟩]⟩ := by
  have member : reached ∈ closed ++ reached :: state.queue := by simp
  have split : closed ++ reached :: (state.queue ++ [⟨converter.target, reached.path ++ [number]⟩]) =
      closed ++ reached :: state.queue ++ [⟨converter.target, reached.path ++ [number]⟩] := by simp
  obtain ⟨leads, chainable⟩ := expanding.explored.leads reached member
  have path : graph.Path source (reached.path ++ [number]) converter.target :=
    .step leads located (canFollow_iff.1 follows).1
  have untried : ∀ step, ¬ Before (reached.path ++ [number])
      ⟨converter.target, reached.path ++ [number]⟩ step :=
    fun step before => lt_asymm before (rank_lt_concat _ step)
  have added := expanding.explored.insert expanding.below path
    ((chainable_concat located).2 ⟨chainable, several⟩) untried
  constructor
  · simp only [split]
    refine added.advance (List.mem_append_left _ member) ?_ ?_
    · intro other place _ _
      obtain rfl : converter = other := by simpa [located] using place
      exact ⟨_, List.mem_append_right _ (List.mem_singleton_self _), rfl, le_refl _⟩
    · intro other place _
      obtain rfl : converter = other := by simpa [located] using place
      exact missed
  · simp only [split]
    intro other inside
    have next : rank (reached.path ++ [number]) < rank (reached.path ++ [number + 1]) :=
      (rank_concat_lt_right _).2 (Nat.lt_succ_self number)
    rcases List.mem_append.1 inside with old | new
    · exact (expanding.below other old).trans next
    · rwa [List.mem_singleton.1 new]

/-! ## The chain that is found -/

def IsFirstChain (graph : ConversionGraph) (source goal : TypeKey) (chain : List Nat) : Prop :=
  graph.ValidChain source goal chain ∧
    ∀ other, graph.ValidChain source goal other → rank chain ≤ rank other

theorem Expanding.isFirstChain {closed : List Reached} {reached : Reached} {number : Nat}
    {converter : Converter} {state : SearchState}
    (expanding : graph.Expanding source goal closed reached number state)
    (located : graph.converters[number]? = some converter)
    (follows : graph.canFollow reached converter)
    (fits : graph.hierarchy.isAssignable converter.target goal) :
    graph.IsFirstChain source goal (reached.path ++ [number]) := by
  obtain ⟨leads, chainable⟩ := expanding.explored.leads reached (by simp)
  refine ⟨validChain_concat_iff.2 ⟨_, _, leads, chainable, located, follows, fits⟩, ?_⟩
  intro other valid
  by_contra earlier
  exact expanding.explored.not_validChain
    (fun _ _ _ before => lt_of_le_of_lt before (not_le.1 earlier)) valid

/-- A round ends with the first chain of all, or with all steps from one type tried. -/
theorem expand_expanding {closed : List Reached} {reached : Reached} {number : Nat}
    {state : SearchState} (expanding : graph.Expanding source goal closed reached number state)
    (bound : number ≤ graph.converters.length) :
    (∃ chain, graph.expand goal reached ((graph.converters.drop number).zipIdx number) state =
        .inl chain ∧ graph.IsFirstChain source goal chain) ∨
      ∃ next, graph.expand goal reached ((graph.converters.drop number).zipIdx number) state =
        .inr next ∧ graph.Expanding source goal closed reached graph.converters.length next := by
  generalize left : graph.converters.drop number = rest
  induction rest generalizing number state with
  | nil =>
      obtain rfl := Nat.le_antisymm bound (List.drop_eq_nil_iff.1 left)
      exact .inr ⟨state, rfl, expanding⟩
  | cons converter rest ih =>
      have located : graph.converters[number]? = some converter := by
        rw [← List.head?_drop, left, List.head?_cons]
      have later : graph.converters.drop (number + 1) = rest := by
        rw [← List.tail_drop, left, List.tail_cons]
      have inside : number + 1 ≤ graph.converters.length := (List.getElem?_eq_some_iff.1 located).1
      have here : ∀ other, graph.converters[number]? = some other → converter = other := by
        simp [located]
      rw [List.zipIdx_cons, expand]
      split
      · rename_i follows
        split
        · rename_i fits
          exact .inl ⟨_, rfl, expanding.isFirstChain located follows fits⟩
        · rename_i missed
          split
          · rename_i old
            refine ih (expanding.skip (fun other place _ several => ?_)
              (fun other place _ => here other place ▸ missed)) inside later
            obtain rfl := here other place
            simpa [several] using old
          · rename_i fresh
            refine ih (expanding.push located follows ?_ missed) inside later
            simp_all
      · rename_i stays
        exact ih (expanding.skip (fun other place follows => absurd (here other place ▸ follows) stays)
          (fun other place follows => absurd (here other place ▸ follows) stays)) inside later

def IsAnswer (graph : ConversionGraph) (source goal : TypeKey) : Option (List Nat) → Prop
  | none => ∀ chain, ¬ graph.ValidChain source goal chain
  | some chain => graph.IsFirstChain source goal chain

theorem Ends.isAnswer {state : SearchState} {result : Option (List Nat)}
    (ends : graph.Ends goal state result) {closed : List Reached}
    (waiting : graph.Waiting source goal closed state) : graph.IsAnswer source goal result := by
  induction ends generalizing closed with
  | exhausted =>
      intro chain
      exact waiting.explored.not_validChain fun reached member _ _ => by simpa using member
  | found expanded =>
      rcases expand_expanding waiting.expanding (Nat.zero_le _) with ⟨chain, same, first⟩ | ⟨_, same, _⟩
      · rw [List.drop_zero, expanded, Sum.inl.injEq] at same
        exact same ▸ first
      · rw [List.drop_zero, expanded] at same
        cases same
  | next expanded _ ih =>
      rcases expand_expanding waiting.expanding (Nat.zero_le _) with ⟨_, same, _⟩ | ⟨next, same, done⟩
      · rw [List.drop_zero, expanded] at same
        cases same
      · rw [List.drop_zero, expanded, Sum.inr.injEq] at same
        subst same
        exact ih done.waiting

theorem search_isAnswer (graph : ConversionGraph) (source goal : TypeKey) :
    graph.IsAnswer source goal (graph.search source goal) :=
  (search_ends source goal).isAnswer waiting_start

theorem validChain_of_search {graph : ConversionGraph} {source goal : TypeKey} {chain : List Nat}
    (found : graph.search source goal = some chain) : graph.ValidChain source goal chain := by
  have answer := search_isAnswer graph source goal
  rw [found] at answer
  exact answer.1

theorem search_shortest (graph : ConversionGraph) (source goal : TypeKey) :
    graph.Ends goal ⟨[source], [⟨source, []⟩]⟩ (graph.search source goal) ∧
      (graph.search source goal = none ↔ ∀ chain, ¬ graph.ValidChain source goal chain) ∧
      ∀ chain, graph.search source goal = some chain →
        graph.ValidChain source goal chain ∧
          ∀ other, graph.ValidChain source goal other →
            chain.length ≤ other.length ∧ (other.length = chain.length → chain ≤ other) := by
  have answer := search_isAnswer graph source goal
  refine ⟨search_ends source goal, ?_, ?_⟩
  · cases outcome : graph.search source goal with
    | none =>
        rw [outcome] at answer
        exact ⟨fun _ => answer, fun _ => rfl⟩
    | some chain =>
        rw [outcome] at answer
        exact ⟨nofun, fun absent => absurd answer.1 (absent chain)⟩
  · intro chain outcome
    rw [outcome] at answer
    refine ⟨answer.1, fun other valid => ?_⟩
    rcases rank_le_iff.1 (answer.2 other valid) with shorter | ⟨lengths, before⟩
    · exact ⟨Nat.le_of_lt shorter, fun same => absurd same.symm (Nat.ne_of_lt shorter)⟩
    · exact ⟨Nat.le_of_eq lengths, fun _ => before⟩

end ConversionGraph

end HostTypes
