/-
Marginals and the variables that they belong to.

A run keeps its marginals under the names of their variables, and the programs inside it share them.  Every
variable belongs to a graph, in which its name is its own.  A variable of another graph may have the same
name.  So what a mean-field rule reads after a run is the marginal of the variable next to it, unless the run
computed the marginal of a namesake from another graph.
-/

import SumProduct.Algorithm
import SumProduct.Proofs.Consistency
import SumProduct.Proofs.Placeholders

set_option autoImplicit false

namespace SumProduct

open Partial (bind_eq_ok)

/-! ### Names of variables -/

namespace Network

/-- The graph lists the variable. -/
def HasVariable (network : Network) (graph : GraphKey) (key : VariableKey) : Prop :=
  ∃ name, (name, key) ∈ (network.graph graph).vars

/-- The variables belong to one graph. -/
def Siblings (network : Network) (first second : VariableKey) : Prop :=
  ∃ graph, network.HasVariable graph first ∧ network.HasVariable graph second

/-- The marginals of the variables have one name. -/
def Namesakes (network : Network) (first second : VariableKey) : Prop :=
  (network.var first).id.same (network.var second).id = true

theorem Namesakes.refl (network : Network) (key : VariableKey) : network.Namesakes key key :=
  Key.same_iff.mpr rfl

section Names

variable {network other : Network} {graph : GraphKey} {key first second : VariableKey}

theorem HasVariable.graph_lt (listed : network.HasVariable graph key) : graph < network.graphs.size := by
  obtain ⟨name, member⟩ := listed
  by_contra beyond
  rw [graph_beyond (Nat.le_of_not_lt beyond)] at member
  cases member

theorem Sound.eq_of_namesakes (sound : network.Sound) (siblings : network.Siblings first second)
    (namesakes : network.Namesakes first second) : first = second := by
  obtain ⟨graph, listed, listedToo⟩ := siblings
  have lists := (sound.lists graph listed.graph_lt).vars
  have distinct := pairwise_of_taken lists.taken lists.distinct
  obtain ⟨name, member⟩ := listed
  obtain ⟨label, memberToo⟩ := listedToo
  have same : name.same label = true := by
    have named := (lists.table _ member).2
    have namedToo := (lists.table _ memberToo).2
    rw [Namesakes, named, namedToo] at namesakes
    exact namesakes
  have found : (network.graph graph).vars.get? label = some first := by
    rw [← Table.get?_same same]
    exact get_of_mem distinct member
  exact Option.some.inj (found.symm.trans (get_of_mem distinct memberToo))

/-- Every variable belongs to a graph. -/
def ListsAllVariables (network : Network) : Prop :=
  ∀ key < network.vars.size, ∃ graph, network.HasVariable graph key

theorem ListsAllVariables.of_eq (all : network.ListsAllVariables) (size : other.vars.size = network.vars.size)
    (kept : ∀ graph, (other.graph graph).vars = (network.graph graph).vars) : other.ListsAllVariables := by
  intro key there
  obtain ⟨graph, name, member⟩ := all key (size ▸ there)
  refine ⟨graph, name, ?_⟩
  rw [kept]
  exact member

theorem vars_modifyGraph {change : Graph → Graph} (kept : ∀ contents, (change contents).vars = contents.vars)
    (graph key : GraphKey) :
    ((network.modifyGraph graph change).graph key).vars = (network.graph key).vars := by
  rw [graph_modifyGraph]
  split
  · exact kept _
  · rfl

/-- A new variable is added to the table of its graph, from which nothing is lost. -/
theorem ListsAllVariables.withVariable (all : network.ListsAllVariables) (sound : network.Sound)
    {id : Option Key} {name : Key} {ids : IdRegistry} (present : graph < network.graphs.size)
    (assigned : (network.graph graph).variableIds.assign id (.text "variable") = .ok (name, ids)) :
    (network.withVariable graph ids name).ListsAllVariables := by
  have size : (network.withVariable graph ids name).vars.size = network.vars.size + 1 := Array.size_push _
  obtain ⟨_, fresh⟩ := IdRegistry.assign_fresh assigned
  have unlisted := unlisted_of_fresh (sound.lists graph present).vars.taken fresh
  have held : ∀ place, ((network.withVariable graph ids name).graph place).vars
      = if graph = place ∧ place < network.graphs.size then
          (network.graph place).vars ++ [(name, network.vars.size)]
        else (network.graph place).vars := by
    intro place
    have opened : (network.withVariable graph ids name).graph place = _ :=
      graph_modifyGraph { network with vars := network.vars.push { id := name } } graph place _
    rw [opened]
    split
    · rename_i here
      obtain ⟨rfl, _⟩ := here
      exact Table.put_fresh _ unlisted
    · rfl
  intro key there
  rw [size] at there
  rcases Nat.lt_succ_iff_lt_or_eq.mp there with old | rfl
  · obtain ⟨place, before, member⟩ := all key old
    refine ⟨place, before, ?_⟩
    rw [held]
    split
    · exact List.mem_append_left _ member
    · exact member
  · refine ⟨graph, name, ?_⟩
    rw [held, if_pos ⟨rfl, present⟩]
    exact List.mem_append_right _ List.mem_cons_self

theorem ListsAllVariables.change (all : network.ListsAllVariables) (sound : network.Sound)
    (change : network.Change other) : other.ListsAllVariables := by
  cases change with
  | graph name =>
      refine all.of_eq rfl fun key => ?_
      have held : (network.withGraph name).graph key
          = if key = network.graphs.size then { name := name } else network.graph key :=
        getD_push network.graphs _ key default
      rw [held]
      split
      · rename_i here
        rw [here, graph_beyond (Nat.le_refl _)]
        rfl
      · rfl
  | current known => exact all.of_eq rfl fun _ => rfl
  | node present assigned fits unscheduled =>
      refine all.of_eq rfl fun key => ?_
      rw [withNode, vars_modifyGraph]
      · rfl
      · exact fun _ => rfl
  | «variable» present assigned => exact all.withVariable sound present assigned
  | edgeName graph =>
      refine all.of_eq rfl fun key => ?_
      rw [withEdgeName, vars_modifyGraph]
      exact fun _ => rfl
  | edge present known firstSocket secondSocket firstHome secondHome apart firstFree secondFree =>
      refine all.of_eq Array.size_modify fun key => ?_
      rw [graph_withEdge]
      split
      · rfl
      · rfl
  | placeholder binding present constant =>
      refine all.of_eq rfl fun key => ?_
      rw [withPlaceholder, vars_modifyGraph]
      exact fun _ => rfl
  | schedule present composite slotted reached computed => exact all.of_eq rfl fun _ => rfl

theorem ListsAllVariables.changes (all : network.ListsAllVariables) (sound : network.Sound)
    (changes : network.Changes other) : other.ListsAllVariables := by
  induction changes with
  | refl => exact all
  | tail before change ih => exact ih.change (sound.changes before) change

theorem Reachable.listsAllVariables (reachable : network.Reachable) : network.ListsAllVariables := by
  induction reachable with
  | empty => exact fun _ impossible => absurd impossible (Nat.not_lt_zero _)
  | call reachable possible all =>
      exact all.changes reachable.sound (reachable.sound.call possible)

/-- Of variables with one name, those of one graph are the same. -/
theorem Reachable.eq_iff_siblings (reachable : network.Reachable) (there : first < network.vars.size)
    (namesakes : network.Namesakes first second) : first = second ↔ network.Siblings first second := by
  constructor
  · rintro rfl
    obtain ⟨graph, listed⟩ := reachable.listsAllVariables first there
    exact ⟨graph, listed, listed⟩
  · exact fun siblings => reachable.sound.eq_of_namesakes siblings namesakes

end Names

end Network

/-! ### What mean-field rules read -/

/-- The entry applies a mean-field rule, which reads the marginal of the variable on the slot.  The rules
read the slots of the node other than the one whose message they compute. -/
structure Entry.ReadsMarginal (network : Network) (entry : Entry) (slot : Nat) (read : VariableKey) :
    Prop where
  applies : ∃ signature ∈ Bundled.meanFieldSignatures, entry.rule = some (.text signature.1) ∧
    slot ∈ [0, 1, 2] ∧ signature.2.2.1 ≠ slot
  status : entry.status = .approximate
  carries : network.carriedAt? ⟨entry.socket.node, slot⟩ = some (.variable read)

namespace Bundled

theorem marginalAt_eq_ok {network : Network} {node : NodeKey} {marginals : Marginals} {slot : Nat}
    {read : VariableKey} (carries : network.carriedAt? ⟨node, slot⟩ = some (.variable read))
    {message : Message} : marginalAt ⟨network, some node⟩ marginals slot = .ok message ↔
      ∃ value, marginals.get? (network.var read).id = some value ∧ value.toMessage = .ok message := by
  unfold Network.carriedAt? Network.edgeAt? Network.interface? at carries
  obtain ⟨edge, joined, carried⟩ := Option.map_eq_some_iff.mp carries
  obtain ⟨interface, there, held⟩ := Option.bind_eq_some_iff.mp joined
  simp only [marginalAt, Site.node, Partial.ok_bind, there, held, Option.map_some, carried]
  cases marginals.get? (network.var read).id with
  | none => simp
  | some value => simp

end Bundled

/-! ### Marginals after a run -/

namespace Machine

/-- The marginal of a variable after a run: the product of the messages on its first edge if the variable is
a target, and otherwise the prior marginal. -/
def marginalAfter (machine : Machine) (schedule : Schedule) (values : List Value)
    (targets : List VariableKey) (prior : Marginals) (key : VariableKey) : Option Value :=
  if key ∈ targets then (machine.marginal schedule values key).toOption
  else prior.get? (machine.network.var key).id

variable {machine : Machine} {catalog : Catalog} {leafTypes : LeafTypes} {schedule : Schedule}
  {entry : Entry} {targets : List VariableKey} {key : VariableKey} {data : Buffers} {values : List Value}
  {store final : MessageStore} {prior marginals : Marginals} {place : Nat}
  {instructions closing : List Instruction} {path : List Nat} {moment : Moment}

theorem runFrom_closing_concludes
    (combine : List.Forall₂ (Emission.Combines machine.network schedule) targets closing)
    (finished : runFrom machine data values prior closing = ⟨marginals, .ok final⟩) :
    machine.conclude schedule values prior targets = ⟨marginals, .ok values⟩ := by
  induction combine generalizing prior with
  | nil =>
      rw [runFrom] at finished
      cases finished
      rfl
  | @cons target instruction targets closing here _ ih =>
      obtain ⟨key, others, first, second, edges, atFirst, atSecond, rfl⟩ := here
      rw [runFrom, step] at finished
      split at finished
      · rename_i after updated stepped
        split at stepped
        · cases stepped
        · rename_i product multiplied
          cases stepped
          obtain ⟨left, gotLeft, multiplied⟩ := bind_eq_ok.mp multiplied
          obtain ⟨right, gotRight, multiplied⟩ := bind_eq_ok.mp multiplied
          have sentLeft := sent_eq atFirst ((MessageStore.get_eq_ok rfl).mp gotLeft).1
          have sentRight := sent_eq atSecond ((MessageStore.get_eq_ok rfl).mp gotRight).1
          have computed : machine.marginal schedule values target = .ok product := by
            simp only [marginal, edges, combined, sentLeft, sentRight, Partial.ok_bind]
            exact multiplied
          rw [conclude, computed]
          exact ih finished
      · cases finished

/-- Under the name of a variable stands its own marginal, unless another target has the name. -/
theorem conclude_get? (concluded : machine.conclude schedule values prior targets = ⟨marginals, .ok final⟩)
    (own : ∀ target ∈ targets, machine.network.Namesakes target key → target = key) :
    marginals.get? (machine.network.var key).id
      = machine.marginalAfter schedule values targets prior key := by
  induction targets generalizing prior with
  | nil =>
      rw [conclude] at concluded
      cases concluded
      rw [marginalAfter, if_neg List.not_mem_nil]
  | cons target rest ih =>
      rw [conclude] at concluded
      split at concluded
      · rename_i product computed
        rw [ih concluded fun other member => own other (List.mem_cons_of_mem _ member), marginalAfter,
          marginalAfter]
        by_cases later : key ∈ rest
        · rw [if_pos later, if_pos (List.mem_cons_of_mem _ later)]
        · rw [if_neg later, Table.get?_put]
          by_cases same : (machine.network.var target).id.same (machine.network.var key).id = true
          · have here := own target List.mem_cons_self same
            subst here
            rw [if_pos same, if_pos List.mem_cons_self, computed]
            rfl
          · have elsewhere : key ∉ target :: rest := by
              intro member
              rcases List.mem_cons.mp member with rfl | impossible
              · exact same (Key.same_iff.mpr rfl)
              · exact later impossible
            rw [if_neg same, if_neg elsewhere]
      · cases concluded

/-- A compiled run computes the messages of the schedule and then the marginals of the targets. -/
theorem run_concludes {program : Program}
    (certified : Resolver.ScheduleResolved ⟨machine.network, catalog⟩ leafTypes schedule)
    (emitted : Emission.program machine.network schedule targets = .ok program)
    (finished : machine.run program data prior = .ok marginals) :
    ∃ values, machine.Fulfils prior data schedule values ∧
      machine.conclude schedule values prior targets = ⟨marginals, .ok values⟩ := by
  obtain ⟨body, closing, within, combine, rfl⟩ := Emission.program_parts emitted
  obtain ⟨store, finished⟩ := run_eq_ok.mp finished
  obtain ⟨values, fulfils, last⟩ := (execute_program_iff certified within).mp finished
  exact ⟨values, fulfils, runFrom_closing_concludes combine last⟩

/-! Entries leave the marginals alone, also inside composite entries.  So an entry is at every depth computed
with the marginals that the run began with. -/

theorem Reaches.place_le
    (reached : machine.Reaches data store marginals place instructions path moment) :
    ∃ first rest, path = first :: rest ∧ place ≤ first := by
  induction reached with
  | now => exact ⟨_, _, rfl, Nat.le_refl _⟩
  | next _ _ ih =>
      obtain ⟨first, rest, same, bound⟩ := ih
      exact ⟨first, rest, same, Nat.le_of_succ_le bound⟩
  | inside _ _ _ => exact ⟨_, _, rfl, Nat.le_refl _⟩
  | insideWritten _ _ _ _ => exact ⟨_, _, rfl, Nat.le_refl _⟩

theorem entryAlong_beyond {first : Nat} {rest : List Nat} (beyond : schedule.length ≤ first) :
    schedule.entryAlong (first :: rest) = none := by
  have nothing := List.getElem?_eq_none beyond
  cases rest with
  | nil => exact nothing
  | cons other rest => rw [Schedule.entryAlong, nothing, Option.bind_none]

theorem within_resolved {done : Schedule}
    (certified : Resolver.EntryResolved ⟨machine.network, catalog⟩ leafTypes done entry) :
    ∃ types, Resolver.ScheduleResolved ⟨machine.network, catalog⟩ types entry.within := by
  have empty : entry.status ≠ .composite →
      ∃ types, Resolver.ScheduleResolved ⟨machine.network, catalog⟩ types entry.within := by
    intro plain
    refine ⟨[], fun place other placed => ?_⟩
    rw [Entry.within, if_neg plain] at placed
    cases placed
  cases certified with
  | leaf outward arrives status supplied => exact empty (by rw [status]; exact Status.noConfusion)
  | rule inward plain chosen =>
      rename_i category
      apply empty
      rw [chosen.status]
      cases category with
      | exact => exact Status.noConfusion
      | approximate => exact Status.noConfusion
  | composite inward scheduled arrives status held resolved last computed outbound =>
      rw [Entry.within, if_pos status, held, Option.getD_some]
      exact ⟨_, resolved⟩

/-- Invariant of a run: it is at an entry, with the marginals that it began with, or past all entries at a
target. -/
theorem Reaches.at_entry
    (certified : Resolver.ScheduleResolved ⟨machine.network, catalog⟩ leafTypes schedule)
    (emitted : Emission.EmittedFrom machine.network schedule place instructions)
    (reached : machine.Reaches data store prior place instructions path moment) :
    (∃ entry types done last, schedule.entryAlong path = some entry ∧
      Resolver.EntryResolved ⟨machine.network, catalog⟩ types done entry ∧
      Emission.entryInstruction machine.network last entry = .ok moment.instruction ∧
      moment.marginals = prior) ∨
    schedule.entryAlong path = none ∧
      ∃ name first second, moment.instruction = .combineMarginal name first second := by
  induction reached generalizing schedule leafTypes with
  | @now data store prior place instruction rest =>
      rcases emitted.cons_inv.2 with ⟨entry, placed, here⟩ | ⟨beyond, combines⟩
      · exact Or.inl ⟨entry, _, _, place, placed, certified place entry placed, here, rfl⟩
      · exact Or.inr ⟨List.getElem?_eq_none beyond, combines⟩
  | next stepped later ih =>
      obtain ⟨onwards, here⟩ := emitted.cons_inv
      rcases here with ⟨other, there, here⟩ | ⟨beyond, _⟩
      · rw [performs_of_resolved (certified _ other there) _ _ _ _ here] at stepped
        cases congrArg Outcome.marginals stepped
        exact ih certified onwards
      · -- After the entries come marginals, which no path leads to.
        rcases ih certified onwards with ⟨_, _, _, _, along, _⟩ | atTarget
        · obtain ⟨first, rest, rfl, bound⟩ := later.place_le
          rw [entryAlong_beyond (by omega)] at along
          cases along
        · exact Or.inr atTarget
  | inside entered within ih =>
      obtain ⟨composite, placed, emittedInside, _, _⟩ := enter_emitted emitted entered
      obtain ⟨types, certifiedInside⟩ := within_resolved (certified _ composite placed)
      obtain ⟨other, path, rfl⟩ := List.exists_cons_of_ne_nil within.path_ne_nil
      rw [Schedule.entryAlong, placed, Option.bind_some]
      exact ih certifiedInside emittedInside
  | insideWritten operation entered within ih => exact (not_written_of_emitted emitted).elim

theorem Reaches.marginals_kept
    (certified : Resolver.ScheduleResolved ⟨machine.network, catalog⟩ leafTypes schedule)
    (emitted : Emission.EmittedFrom machine.network schedule place instructions)
    (reached : machine.Reaches data store prior place instructions path moment)
    (along : schedule.entryAlong path = some entry) :
    moment.marginals = prior ∧
      ∃ last, Emission.entryInstruction machine.network last entry = .ok moment.instruction := by
  rcases reached.at_entry certified emitted with ⟨found, _, _, last, there, _, here, kept⟩ | ⟨nowhere, _⟩
  · cases there.symm.trans along
    exact ⟨kept, last, here⟩
  · cases nowhere.symm.trans along

end Machine

/-! ### Whose marginal is read -/

namespace Network

theorem var_beyond {network : Network} {key : VariableKey} (beyond : network.vars.size ≤ key) :
    network.var key = default := getD_beyond beyond default

/-- The targets of what is compiled are variables of the network. -/
theorem target_lt {network : Network} {catalog : Catalog} {leafTypes : LeafTypes} {schedule : Schedule}
    {targets : List VariableKey} {algorithm : Algorithm}
    (compiled : Algorithm.compile network catalog leafTypes schedule targets = .ok algorithm)
    {target : VariableKey} (member : target ∈ targets) : target < network.vars.size := by
  obtain ⟨resolved, _, compiled⟩ := bind_eq_ok.mp compiled
  obtain ⟨program, emitted, _⟩ := bind_eq_ok.mp compiled
  obtain ⟨body, closing, _, combine, _⟩ := Emission.program_parts emitted
  obtain ⟨instruction, _, key, others, _, _, edges, _⟩ := Partial.exists_of_mem_left combine member
  by_contra beyond
  rw [var_beyond (Nat.le_of_not_lt beyond)] at edges
  cases edges

/-- A target and a variable that a mean-field rule reads anywhere in the program, if their marginals have one
name, are the same variable exactly if they belong to one graph.  After a run, every compiled program that is
fed with the marginals reads at a mean-field rule what belongs to the variable there, as long as the run had
no target of that name in another graph. -/
theorem Reachable.marginals_identify_variables {machine : Machine} (reachable : machine.network.Reachable)
    {catalog : Catalog} {leafTypes : LeafTypes} {schedule : Schedule} {targets : List VariableKey}
    {algorithm : Algorithm}
    (compiled : Algorithm.compile machine.network catalog leafTypes schedule targets = .ok algorithm) :
    (∀ target ∈ targets, ∀ path entry slot read, algorithm.schedule.entryAlong path = some entry →
      entry.ReadsMarginal machine.network slot read → machine.network.Namesakes target read →
      (target = read ↔ machine.network.Siblings target read)) ∧
    ∀ data prior marginals, algorithm.run machine data prior = .ok marginals →
      ∃ values, machine.Fulfils prior data algorithm.schedule values ∧
        ∀ (rules : Catalog) types following others (later : Algorithm),
          Algorithm.compile machine.network rules types following others = .ok later →
          ∀ buffers path moment entry slot read,
            machine.Reached later.program buffers marginals path moment →
            later.schedule.entryAlong path = some entry →
            entry.ReadsMarginal machine.network slot read →
            (∀ target ∈ targets, machine.network.Namesakes target read →
              machine.network.Siblings target read) →
            (∃ place rule inbounds, moment.instruction
              = .applyRule place rule entry.socket.node inbounds entry.approximation) ∧
            ∀ message, Bundled.marginalAt ⟨machine.network, some entry.socket.node⟩ moment.marginals slot
                = .ok message ↔
              ∃ value, machine.marginalAfter algorithm.schedule values targets prior read = some value ∧
                value.toMessage = .ok message := by
  refine ⟨fun target member _ _ _ _ _ _ namesakes =>
    reachable.eq_iff_siblings (target_lt compiled member) namesakes, ?_⟩
  intro data prior marginals finished
  obtain ⟨resolved, accepted, compiled⟩ := bind_eq_ok.mp compiled
  obtain ⟨program, emitted, compiled⟩ := bind_eq_ok.mp compiled
  cases compiled
  obtain ⟨values, fulfils, concluded⟩ :=
    Machine.run_concludes (Resolver.resolveAtDepth_resolved accepted) emitted finished
  refine ⟨values, fulfils, ?_⟩
  intro rules types following others later compiledLater buffers path moment entry slot read reached along
    reads apart
  obtain ⟨resolvedLater, acceptedLater, compiledLater⟩ := bind_eq_ok.mp compiledLater
  obtain ⟨programLater, emittedLater, compiledLater⟩ := bind_eq_ok.mp compiledLater
  cases compiledLater
  obtain ⟨instructions, sized⟩ := Emission.program_inv emittedLater
  obtain ⟨store, _, reached⟩ := reached
  obtain ⟨kept, last, here⟩ :=
    reached.marginals_kept (Resolver.resolveAtDepth_resolved acceptedLater) instructions along
  have own : ∀ target ∈ targets, machine.network.Namesakes target read → target = read :=
    fun target member namesakes =>
      reachable.sound.eq_of_namesakes (apart target member namesakes) namesakes
  constructor
  · have status : entry.status = Category.approximate.status := reads.status
    rw [Emission.entryInstruction_rule status] at here
    exact ⟨_, _, _, (Emission.ruleInstruction_inv here).2⟩
  · intro message
    rw [Bundled.marginalAt_eq_ok reads.carries, kept, Machine.conclude_get? concluded own]

/-- A Gaussian node, approximated by a mean field, inside a composite node.  The edge to its mean carries the
variable of the edge outside if that is shared, and the first variable of the inner graph otherwise. -/
def housing (shared : Bool) : List Build.Call :=
  [.newGraph .absent, .newGraph .absent, .addConstant (.whole 2) (some "c") (some 0),
    .addConstant (.message (.gaussian 0 1)) (some "d") (some 0), .connect 0 ⟨0, 0⟩ ⟨1, 0⟩ .anonymous,
    .addTerminal (some "z") (some 1), .addFactor "GaussianNode" (some "n") (some 1),
    .addConstant (.whole 1) (some "a") (some 1), .addConstant (.whole 1) (some "b") (some 1),
    .connect 1 ⟨3, 0⟩ ⟨4, 0⟩ (if shared then .given (.variable 0) else .anonymous),
    .connect 1 ⟨3, 1⟩ ⟨5, 0⟩ (.named "s"), .connect 1 ⟨3, 2⟩ ⟨2, 0⟩ (.named "y"),
    .addComposite (some 1) [.node 2] none (some "p") (some 0),
    .defineSchedule 6 (.whole 0) (some
      [⟨⟨3, 2⟩, [none, none], none, some (.named "MeanField"), none, .unresolved, none, none⟩])]

def lodging (shared : Bool) : Machine where
  network := (housing shared).foldl Build.Call.after {}
  implementations := Bundled.library.implementations

theorem lodging_reachable (shared : Bool) : (lodging shared).network.Reachable := by
  have known : ∀ {graph size : Nat}, graph < size → ∀ key, some graph = some key → key < size := by
    rintro graph size there key ⟨⟩
    exact there
  have offered : ∀ {node size : Nat}, node < size → ∀ key, .node key ∈ [Offer.node node] → key < size := by
    intro node size there key member
    cases List.mem_singleton.mp member
    exact there
  apply Reachable.empty.calls
  refine ⟨trivial, trivial, known ?_, known ?_, ⟨?_, ?_, ?_, trivial⟩, known ?_, known ?_, known ?_,
    known ?_, ⟨?_, ?_, ?_, ?requested⟩, ⟨?_, ?_, ?_, trivial⟩, ⟨?_, ?_, ?_, trivial⟩,
    ⟨known ?_, offered ?_⟩, ?_, trivial⟩
  case requested =>
    cases shared with
    | false => trivial
    | true =>
        show (0 : Nat) < _
        decide +kernel
  all_goals
    show (_ : Nat) < _
    revert shared
    decide +kernel

def lodgedNumber : Message := .pointMass (.scalar (Float.ofInt 2))

/-- The two messages on the edge outside. -/
def lodgeSchedule : Schedule := [{ socket := ⟨0, 0⟩ }, { socket := ⟨1, 0⟩ }]

def lodgeResolved : Schedule :=
  [{ socket := ⟨0, 0⟩, outbound := some (.typed .pointMass), status := .leaf },
   { socket := ⟨1, 0⟩, outbound := some (.typed .gaussian), status := .leaf }]

def lodgeAlgorithm : Algorithm where
  schedule := lodgeResolved
  program := {
    instructions := [
      .injectConstant (.whole 0) (.message lodgedNumber),
      .injectConstant (.whole 1) (.message (.gaussian 0 1)),
      .combineMarginal "variable_1" (.whole 0) (.whole 1)]
    messages := .whole 2 }
  targets := [0]

set_option maxRecDepth 100000 in
theorem lodge_compiled (shared : Bool) : Algorithm.compile (lodging shared).network
    Bundled.library.catalog [] lodgeSchedule [0] = .ok lodgeAlgorithm := by
  cases shared with
  | false => exact (rfl)
  | true => exact (rfl)

def lodgeEntry : Entry :=
  ⟨⟨3, 2⟩, [none, none], some (.typed .gaussian), some (.named "MeanField"),
    some (.text "gaussian_out_mf"), .approximate, none, none⟩

/-- The message of the composite node besides. -/
def lodgeAlgorithmInside : Algorithm where
  schedule := lodgeResolved ++
    [{ socket := ⟨6, 0⟩, outbound := some (.typed .gaussian), rule := some (.text "CompositeNode.z"),
       status := .composite, inner := some [lodgeEntry] }]
  program := {
    instructions := [
      .injectConstant (.whole 0) (.message lodgedNumber),
      .injectConstant (.whole 1) (.message (.gaussian 0 1)),
      .invokeInner (.whole 2) "p"
        [.applyRule (.whole 0) (.text "gaussian_out_mf") 3 [.absent, .absent] (some (.named "MeanField"))]
        (.whole 1) [] (.whole 0),
      .combineMarginal "variable_1" (.whole 0) (.whole 1)]
    messages := .whole 3 }
  targets := [0]

set_option maxRecDepth 100000 in
theorem lodge_compiled_inside (shared : Bool) : Algorithm.compile (lodging shared).network
    Bundled.library.catalog [] (lodgeSchedule ++ [{ socket := ⟨6, 0⟩ }]) [0]
      = .ok lodgeAlgorithmInside := by
  cases shared with
  | false => exact (rfl)
  | true => exact (rfl)

def lodgePrior : Marginals := [("s", .whole 1)]

def lodgeMarginals : Marginals := [("s", .whole 1), ("variable_1", .message lodgedNumber)]

set_option maxRecDepth 100000 in
/-- The run outside leaves the marginal of the variable there. -/
theorem lodge_run (shared : Bool) :
    lodgeAlgorithm.run (lodging shared) [] lodgePrior = .ok lodgeMarginals := by
  cases shared with
  | false => exact (rfl)
  | true => exact (rfl)

/-- The moment before the mean-field rule is applied. -/
def lodgeMoment : Moment where
  data := []
  store := [.absent]
  marginals := lodgeMarginals
  instruction :=
    .applyRule (.whole 0) (.text "gaussian_out_mf") 3 [.absent, .absent] (some (.named "MeanField"))

theorem lodge_reached (shared : Bool) : (lodging shared).Reached lodgeAlgorithmInside.program []
    lodgeMarginals [2, 0] lodgeMoment :=
  ⟨[.absent, .absent, .absent], rfl, .next rfl (.next rfl (.inside rfl .now))⟩

set_option maxRecDepth 100000 in
theorem lodgeEntry_reads (shared : Bool) :
    lodgeEntry.ReadsMarginal (lodging shared).network 0 (if shared then 0 else 1) where
  applies := ⟨_, List.mem_cons_self, rfl, by decide, by decide⟩
  status := rfl
  carries := by
    cases shared with
    | false => exact (rfl)
    | true => exact (rfl)

set_option maxRecDepth 100000 in
/-- The rule inside reads the marginal that was left, whichever variable the edge there carries. -/
theorem lodge_read (shared : Bool) :
    Bundled.marginalAt ⟨(lodging shared).network, some 3⟩ lodgeMoment.marginals 0 = .ok lodgedNumber := by
  cases shared with
  | false => exact (rfl)
  | true => exact (rfl)

theorem Reachable.marginals_identify_variables_lodging :
    ∃ values, (lodging true).Fulfils lodgePrior [] lodgeResolved values ∧
      (lodging true).network.Siblings 0 0 ∧
      ∃ value, (lodging true).marginalAfter lodgeResolved values [0] lodgePrior 0 = some value ∧
        value.toMessage = .ok lodgedNumber := by
  have reachable := lodging_reachable true
  have reads : lodgeEntry.ReadsMarginal (lodging true).network 0 0 := lodgeEntry_reads true
  obtain ⟨identified, _⟩ := reachable.marginals_identify_variables (lodge_compiled_inside true)
  have siblings : (lodging true).network.Siblings 0 0 :=
    (identified 0 List.mem_cons_self [2, 0] lodgeEntry 0 0 rfl reads (.refl _ 0)).mp rfl
  obtain ⟨_, after⟩ := reachable.marginals_identify_variables (lodge_compiled true)
  obtain ⟨values, fulfils, later⟩ := after [] lodgePrior lodgeMarginals (lodge_run true)
  have apart : ∀ target ∈ [0], (lodging true).network.Namesakes target 0 →
      (lodging true).network.Siblings target 0 := by
    intro target member _
    cases List.mem_singleton.mp member
    exact siblings
  obtain ⟨_, read⟩ := later _ _ _ _ _ (lodge_compiled_inside true) [] [2, 0] lodgeMoment lodgeEntry 0 0
    (lodge_reached true) rfl reads apart
  exact ⟨values, fulfils, siblings, (read lodgedNumber).mp (lodge_read true)⟩

/-- The first variable of each graph gets the same name.  A mean-field rule inside reads the marginal of the
variable outside, though no run has left a marginal of the variable that is next to the rule. -/
theorem mean_field_reads_namesake :
    (lodging false).network.Reachable ∧
    Algorithm.compile (lodging false).network Bundled.library.catalog [] lodgeSchedule [0]
      = .ok lodgeAlgorithm ∧
    Algorithm.compile (lodging false).network Bundled.library.catalog []
      (lodgeSchedule ++ [{ socket := ⟨6, 0⟩ }]) [0] = .ok lodgeAlgorithmInside ∧
    lodgeAlgorithmInside.schedule.entryAlong [2, 0] = some lodgeEntry ∧
    lodgeEntry.ReadsMarginal (lodging false).network 0 1 ∧
    (lodging false).network.Namesakes 0 1 ∧ (0 : VariableKey) ≠ 1 ∧
    lodgeAlgorithm.run (lodging false) [] lodgePrior = .ok lodgeMarginals ∧
    (∀ values, (lodging false).marginalAfter lodgeResolved values [0] lodgePrior 1 = none) ∧
    (lodging false).Reached lodgeAlgorithmInside.program [] lodgeMarginals [2, 0] lodgeMoment ∧
    Bundled.marginalAt ⟨(lodging false).network, some 3⟩ lodgeMoment.marginals 0 = .ok lodgedNumber := by
  have names : ((lodging false).network.var 0).id = .text "variable_1" ∧
      ((lodging false).network.var 1).id = .text "variable_1" := by decide +kernel
  have namesakes : (lodging false).network.Namesakes 0 1 := by
    rw [Namesakes, names.1, names.2]
    decide
  have missing : ∀ values,
      (lodging false).marginalAfter lodgeResolved values [0] lodgePrior 1 = none := by
    intro values
    rw [Machine.marginalAfter, if_neg (by decide), names.2]
    rfl
  exact ⟨lodging_reachable false, lodge_compiled false, lodge_compiled_inside false, rfl,
    lodgeEntry_reads false, namesakes, by decide, lodge_run false, missing, lodge_reached false,
    lodge_read false⟩

end Network

end SumProduct
