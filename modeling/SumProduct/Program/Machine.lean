/-
The machine that runs programs.

A run has a store with one slot per message and a table of marginals.  Inner programs get a store of
their own and the caller's data overlaid by what their terminals receive; they share the table of
marginals.  When an instruction fails, the marginals computed before it remain.
-/

import SumProduct.Program.Written
import SumProduct.Rules.Bundled
import SumProduct.Value.Buffer

set_option autoImplicit false

namespace SumProduct

/-- Message slots; an absent value marks a slot that has not been computed. -/
abbrev MessageStore := List Value

namespace MessageStore

def empty (size : Int) : MessageStore := List.replicate size.toNat .absent

/-- Sizes are words with a sign. -/
def sizeBound : Int := Number.twoTo 63

/-- A store of this size does not fit into memory. -/
def memoryBound : Int := Number.twoTo 44

/-- An empty store of the size that a value says. -/
def sized (size : Value) : Except Fault MessageStore :=
  match size.toIndex? with
  | none => .error (.lapsed .wrongType)
  | some number =>
    if number < -sizeBound ∨ sizeBound ≤ number then .error (.lapsed .overflow)
    else if memoryBound ≤ number then .error (.lapsed .outOfMemory)
    else .ok (empty number)

/-- An empty store for a program.  There is room for a message per instruction, since the program
itself is held. -/
def forBody (size : Value) (body : List Instruction) : Except Fault MessageStore :=
  match size with
  | .whole number =>
    if 0 ≤ number ∧ number ≤ body.length then .ok (empty number) else sized size
  | _ => sized size

/-- The place of a slot, which has to be an integer within range. -/
def place (store : MessageStore) (slot : Slot) : Except Fault Nat :=
  Value.position store.length slot .wrongType

def set (store : MessageStore) (slot : Slot) (value : Value) : Except Fault MessageStore := do
  return List.set store (← store.place slot) value

def get (store : MessageStore) (slot : Slot) : Except Fault Value := do
  match store[← store.place slot]? with
  | some .absent | none => throw (.refused (.slotNotComputed slot.literal))
  | some value => return value

/-- A slot within range, counted from the front, that has been computed.  A fraction is refused
where it lies within range. -/
def has (store : MessageStore) (slot : Slot) : Except Fault Bool :=
  match slot.toIndex?, slot with
  | some index, _ =>
    .ok (decide (0 ≤ index) && (store[index.toNat]?).any fun value => !value.isAbsent)
  | none, .real number =>
    if 0.0 ≤ number && number < store.length.toFloat then .error (.lapsed .wrongType) else .ok false
  | none, _ => .error (.lapsed .wrongType)

end MessageStore

abbrev Combination := Value → Value → Except Fault Value

def normalisedProduct : Combination := fun left right =>
  (Bundled.valueProduct left right).map .message

/-- The products of more and more values, up to the first failure. -/
def runningProducts (first : Value) : List Value → List (Except Fault Value)
  | [] => []
  | value :: rest =>
    match normalisedProduct first value with
    | .ok product => .ok product :: runningProducts product rest
    | .error fault => [.error fault]

structure Machine where
  network : Network
  implementations : Implementations
  product : Combination := normalisedProduct

/-- The outcome of running instructions: the marginals as they stand, and the message store or the
failure that ended the run. -/
structure Outcome where
  marginals : Marginals
  store : Except Fault MessageStore

namespace Machine

def fetch (store : MessageStore) (inbounds : List Slot) : Except Fault (List Value) :=
  inbounds.mapM fun slot => if slot.isAbsent then .ok .absent else store.get slot

def implementation (machine : Machine) (rule : Value) : Except Fault Implementation := do
  match machine.implementations.get? (← rule.key) with
  | some implementation => return implementation
  | none => throw (.refused (.noImplementation rule.literal))

/-- The implementation of a rule and its arriving messages. -/
def prepare (machine : Machine) (store : MessageStore) (rule : Value) (inbounds : List Slot) :
    Except Fault (Implementation × List Value) := do
  return (← machine.implementation rule, ← fetch store inbounds)

/-- The message that an implementation computes at a node or at something else; only an approximation
is given the marginals. -/
def call (machine : Machine) (marginals : Marginals) (implementation : Implementation)
    (node : Option NodeKey) (arriving : List Value) (approximation : Option Method) :
    Except Fault Value :=
  implementation ⟨machine.network, node⟩ arriving
    (if approximation.isSome then some marginals else none)

def applyRule (machine : Machine) (store : MessageStore) (marginals : Marginals)
    (rule : Value) (node : NodeKey) (inbounds : List Slot) (approximation : Option Method) :
    Except Fault Value := do
  let (implementation, arriving) ← machine.prepare store rule inbounds
  machine.call marginals implementation (some node) arriving approximation

/-- The data of an inner program: the caller's data overlaid by the messages for its terminals. -/
def innerData (store : MessageStore) (data : Buffers) (terminals : List (Key × Slot)) :
    Except Fault Buffers :=
  terminals.foldlM (fun buffers feed => do
    return Table.put feed.1 (← store.get feed.2) buffers) data

/-! ### Written instructions

The arguments are read in the order in which they are needed. -/

def prepareForm (machine : Machine) (store : MessageStore) (form : Form) :
    Except Fault (Implementation × List Value) := do
  let implementation ← machine.implementation (← form.value "rule")
  return (implementation, ← fetch store (← form.elements "inbounds"))

def applyForm (machine : Machine) (store : MessageStore) (marginals : Marginals) (form : Form) :
    Except Fault Value := do
  let (implementation, arriving) ← machine.prepareForm store form
  let approximation ← form.approximation
  let node ← form.argument "node"
  machine.call marginals implementation node.node? arriving approximation

/-- The data of an inner program, from pairs of a terminal and the slot that feeds it. -/
def formData (store : MessageStore) (data : Buffers) (form : Form) : Except Fault Buffers := do
  (← form.elements "terminals").foldlM (fun buffers feed => do
    let (terminal, slot) ← feed.pair
    let message ← store.get slot
    return Table.put (← terminal.key) message buffers) data

def combineForm (machine : Machine) (store : MessageStore) (marginals : Marginals)
    (form : Form) : Except Fault Marginals := do
  let (first, second) ← form.sources
  let marginal ← machine.product (← store.get first) (← store.get second)
  return Table.put (← (← form.value "variable").key) marginal marginals

/-- The store and the data with which the inner program begins, if one is given. -/
def enterForm (store : MessageStore) (data : Buffers) (form : Form) (messages : Value)
    (body : List Instruction) : Except Fault (MessageStore × Buffers) := do
  let inner ← formData store data form
  form.checkProgram
  return (← MessageStore.forBody messages body, inner)

def enter (store : MessageStore) (data : Buffers) (terminals : List (Key × Slot))
    (messages : Value) (body : List Instruction) : Except Fault (Buffers × MessageStore) := do
  return (← innerData store data terminals, ← MessageStore.forBody messages body)

mutual

def step (machine : Machine) (data : Buffers) (store : MessageStore) (marginals : Marginals) :
    Instruction → Outcome
  | .injectData target buffer index =>
    ⟨marginals, do store.set target (.message (← data.observe buffer index))⟩
  | .injectConstant target value => ⟨marginals, store.set target value⟩
  | .applyRule target rule node inbounds approximation =>
    ⟨marginals, do
      store.set target (← machine.applyRule store marginals rule node inbounds approximation)⟩
  | .invokeInner target _ body messages terminals result =>
    match enter store data terminals messages body with
    | .error fault => ⟨marginals, .error fault⟩
    | .ok (inner, fresh) =>
      let outcome := runFrom machine inner fresh marginals body
      ⟨outcome.marginals, do store.set target (← (← outcome.store).get result)⟩
  | .combineMarginal name first second =>
    match (do machine.product (← store.get first) (← store.get second)) with
    | .error fault => ⟨marginals, .error fault⟩
    | .ok marginal => ⟨Table.put name marginal marginals, .ok store⟩
  | .written form body messages =>
    match form.operation with
    | .injectData => ⟨marginals, do
        let message ← data.observe (← form.value "buffer") (← form.value "index")
        store.set form.target (.message message)⟩
    | .injectConstant => ⟨marginals, do store.set form.target (← form.value "value")⟩
    | .applyRule => ⟨marginals, do
        store.set form.target (← machine.applyForm store marginals form)⟩
    | .invokeInner =>
      match enterForm store data form messages body with
      | .error fault => ⟨marginals, .error fault⟩
      | .ok (fresh, inner) =>
        let outcome := runFrom machine inner fresh marginals body
        ⟨outcome.marginals, do
          let final ← outcome.store
          store.set form.target (← final.get (← form.value "result"))⟩
    | .combineMarginal =>
      match machine.combineForm store marginals form with
      | .error fault => ⟨marginals, .error fault⟩
      | .ok updated => ⟨updated, .ok store⟩
    | .unknown name => ⟨marginals, .error (.refused (.unknownOperation name.plain))⟩

/-- Runs instructions in order until one fails. -/
def runFrom (machine : Machine) (data : Buffers) (store : MessageStore) (marginals : Marginals) :
    List Instruction → Outcome
  | [] => ⟨marginals, .ok store⟩
  | instruction :: rest =>
    match step machine data store marginals instruction with
    | ⟨after, .ok updated⟩ => runFrom machine data updated after rest
    | ⟨after, .error fault⟩ => ⟨after, .error fault⟩

end

mutual

/-- The rule applications, by rule name and target slot, that one instruction begins.  An
application begins once the implementation and all arriving messages are at hand. -/
def applicationsOf (machine : Machine) (data : Buffers) (store : MessageStore)
    (marginals : Marginals) : Instruction → List (Value × Slot)
  | .applyRule target rule _ inbounds _ =>
    match machine.prepare store rule inbounds with
    | .ok _ => [(rule, target)]
    | .error _ => []
  | .invokeInner _ _ body messages terminals _ =>
    match enter store data terminals messages body with
    | .error _ => []
    | .ok (inner, fresh) => applicationsFrom machine inner fresh marginals body
  | .written form body messages =>
    match form.operation with
    | .applyRule =>
      match machine.prepareForm store form with
      | .ok _ => [((form.value "rule").toOption.getD .absent, form.target)]
      | .error _ => []
    | .invokeInner =>
      match enterForm store data form messages body with
      | .error _ => []
      | .ok (fresh, inner) => applicationsFrom machine inner fresh marginals body
    | _ => []
  | _ => []

def applicationsFrom (machine : Machine) (data : Buffers) (store : MessageStore)
    (marginals : Marginals) : List Instruction → List (Value × Slot)
  | [] => []
  | instruction :: rest =>
    applicationsOf machine data store marginals instruction
      ++ match step machine data store marginals instruction with
        | ⟨after, .ok updated⟩ => applicationsFrom machine data updated after rest
        | ⟨_, .error _⟩ => []

end

def applications (machine : Machine) (program : Program) (data : Buffers) (marginals : Marginals) :
    List (Value × Slot) :=
  match MessageStore.forBody program.messages program.instructions with
  | .ok store => machine.applicationsFrom data store marginals program.instructions
  | .error _ => []

/-- Runs a program on a fresh store. -/
def execute (machine : Machine) (program : Program) (data : Buffers) (marginals : Marginals) :
    Outcome :=
  match MessageStore.forBody program.messages program.instructions with
  | .ok store => machine.runFrom data store marginals program.instructions
  | .error fault => ⟨marginals, .error fault⟩

/-- The prior marginals updated by those that the program computes. -/
def run (machine : Machine) (program : Program) (data : Buffers) (marginals : Marginals) :
    Except Fault Marginals :=
  let outcome := machine.execute program data marginals
  outcome.store.map fun _ => outcome.marginals

end Machine

end SumProduct
