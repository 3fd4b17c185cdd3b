/-
The text of a program tells the program.

An emitted program is rendered line by line.  The right-hand sides of different operations begin with different
characters, so a line tells its operation, and with it all its parts.  Every line is printable, so the line breaks of
the text are those between its lines.
-/

import Mathlib.Data.Prod.Basic
import SumProduct.Proofs.Placeholders
import SumProduct.Proofs.Rendering

set_option autoImplicit false

namespace SumProduct

open Partial (bind_eq_ok)
open Text (IsVisible joinWith)

/-! ### Instructions -/

namespace Instruction

/-- Names are texts, an index and the messages that go into an instruction are integers or left out, and a constant
belongs to a family. -/
def IsLegible (network : Network) : Instruction → Prop
  | injectData _ buffer index => buffer.IsName ∧ index.IsPlace
  | injectConstant _ value => ∃ message, value = .message message ∧ message ≠ .bare
  | applyRule _ rule node inbounds _ =>
      rule.IsName ∧ (network.node node).id.IsName ∧ ∀ slot ∈ inbounds, slot.IsPlace
  | invokeInner _ node _ _ terminals _ => node.IsName ∧ ∀ feed ∈ terminals, feed.1.IsName ∧ feed.2.IsPlace
  | combineMarginal name _ _ => name.IsName
  | written .. => False

/-- The slots that emission assigns are integers. -/
def IsPlaced : Instruction → Prop
  | injectData target _ _ | injectConstant target _ | applyRule target _ _ _ _ => target.IsInteger
  | invokeInner target _ _ _ _ result => target.IsInteger ∧ result.IsInteger
  | combineMarginal _ first second => first.IsInteger ∧ second.IsInteger
  | written .. => False

/-- The instructions are of the same operation, write to the same place and have the same arguments.  The values of
constants, the methods of approximations and inner programs may differ. -/
inductive ShowsAlike (network other : Network) : Instruction → Instruction → Prop
  | injectData (target : Slot) (buffer index : Value) :
      ShowsAlike network other (.injectData target buffer index) (.injectData target buffer index)
  | injectConstant (target : Slot) (value value' : Value) :
      ShowsAlike network other (.injectConstant target value) (.injectConstant target value')
  | applyRule {node node' : NodeKey} {approximation approximation' : Option Method} (target : Slot) (rule : Value)
      (inbounds : List Slot) (named : (network.node node).id = (other.node node').id)
      (tagged : approximation.isSome = approximation'.isSome) :
      ShowsAlike network other (.applyRule target rule node inbounds approximation)
        (.applyRule target rule node' inbounds approximation')
  | invokeInner {body body' : List Instruction} {messages messages' : Value} (target : Slot) (node : Key)
      (terminals : List (Key × Slot)) (result : Slot) :
      ShowsAlike network other (.invokeInner target node body messages terminals result)
        (.invokeInner target node body' messages' terminals result)
  | combineMarginal (name : Key) (first second : Slot) :
      ShowsAlike network other (.combineMarginal name first second) (.combineMarginal name first second)

def operation : Instruction → Operation
  | injectData .. => .injectData
  | injectConstant .. => .injectConstant
  | applyRule .. => .applyRule
  | invokeInner .. => .invokeInner
  | combineMarginal .. => .combineMarginal
  | written form _ _ => form.operation

/-- The operation that a message is computed by, told from the first character of the right-hand side. -/
def operationOf (call : String) : Operation :=
  match call.toList with
  | 'a' :: _ => .injectData
  | 'r' :: _ => .applyRule
  | 'i' :: _ => .invokeInner
  | _ => .injectConstant

theorem operationOf_constructor (message : Message) : operationOf message.constructor = .injectConstant := by
  obtain ⟨c, first, upper⟩ := (Option.any_eq_true _ _).mp message.familyName_capital.1
  obtain ⟨rest, name⟩ := List.head?_eq_some_iff.mp first
  rw [operationOf, Message.constructor, Message.written, String.toList_append, String.toList_append,
    String.toList_append, name]
  simp only [List.cons_append]
  split
  all_goals
    rename_i same
    first
    | rfl
    | cases same
      cases upper

theorem sourceLiteral_message {message : Message} (family : message ≠ .bare) :
    sourceLiteral (.message message) = .ok message.constructor := by
  cases message with
  | bare => exact absurd rfl family
  | pointMass _ | gaussian _ _ | mvGaussian _ | gamma _ _ | inverseGamma _ _ | studentsT _ _ _ => rfl

section Line

variable {network other : Network} {instruction one two : Instruction} {line : String}

/-- A line writes a message, and its right-hand side tells the operation, or it writes a marginal. -/
inductive IsLine (instruction : Instruction) (line : String) : Prop
  | message (call : String) (same : line = messageLine instruction.target call)
      (integer : instruction.target.IsInteger) (told : operationOf call = instruction.operation)
      (visible : IsVisible call.toList)
  | marginal (name : Value) (call : String) (same : line = marginalLine name call) (named : name.IsName)
      (told : .combineMarginal = instruction.operation) (visible : IsVisible call.toList)

theorem isFeed_of_legible {terminals : List (Key × Slot)}
    (legible : ∀ feed ∈ terminals, feed.1.IsName ∧ feed.2.IsPlace) :
    ∀ feed ∈ terminals.map fun feed => (feed.1.toValue, feed.2), IsFeed feed := by
  intro feed member
  obtain ⟨given, listed, rfl⟩ := List.mem_map.mp member
  exact ⟨(legible given listed).1.toValue, (legible given listed).2⟩

theorem exists_line (legible : instruction.IsLegible network) (placed : instruction.IsPlaced) :
    ∃ line, instruction.sourceLine network = .ok line ∧ instruction.IsLine line := by
  cases instruction with
  | injectData target buffer index =>
      obtain ⟨named, place⟩ := legible
      refine ⟨_, rfl, .message _ rfl placed ?_ (isVisible_readCall named place)⟩
      rw [operationOf, toList_readCall _ place]
      rfl
  | injectConstant target value =>
      obtain ⟨message, rfl, family⟩ := legible
      refine ⟨messageLine target message.constructor, ?_,
        .message _ rfl placed (operationOf_constructor message) message.isVisible_constructor⟩
      rw [sourceLine, sourceLiteral_message family]
      rfl
  | applyRule target rule node inbounds approximation =>
      obtain ⟨ruled, named, places⟩ := legible
      refine ⟨_, rfl, .message _ rfl placed ?_ (isVisible_ruleCall ruled named places)⟩
      rw [operationOf, toList_ruleCall]
      rfl
  | invokeInner target node body messages terminals result =>
      obtain ⟨named, fits⟩ := legible
      obtain ⟨integer, computed⟩ := placed
      refine ⟨_, rfl, .message _ rfl integer ?_
        (isVisible_innerCall named.toValue (isFeed_of_legible fits) computed)⟩
      rw [operationOf, toList_innerCall]
      rfl
  | combineMarginal name first second =>
      obtain ⟨before, behind⟩ := placed
      exact ⟨_, rfl, .marginal _ _ rfl legible.toValue rfl (isVisible_productCall (.inr before) (.inr behind))⟩
  | written form body messages => exact legible.elim

theorem IsLine.isVisible (shown : instruction.IsLine line) : IsVisible line.toList := by
  cases shown with
  | message call same integer told visible =>
      rw [same]
      exact isVisible_messageLine integer visible
  | marginal name call same named told visible =>
      rw [same]
      exact isVisible_marginalLine named visible

theorem IsLine.operation_eq (first : one.IsLine line) (second : two.IsLine line) :
    one.operation = two.operation := by
  cases first with
  | message call same integer told visible =>
      cases second with
      | message call' same' integer' told' visible' =>
          have calls := (messageLine_injective integer integer' (same.symm.trans same')).2
          rw [← told, ← told', calls]
      | marginal name call' same' named told' visible' =>
          exact absurd (same.symm.trans same') (messageLine_ne_marginalLine _ _ _ _)
  | marginal name call same named told visible =>
      cases second with
      | message call' same' integer' told' visible' =>
          exact absurd (same'.symm.trans same) (messageLine_ne_marginalLine _ _ _ _)
      | marginal name' call' same' named' told' visible' => rw [← told, ← told']

/-- Equal lines come from instructions that do the same. -/
theorem showsAlike_of_sourceLine (legible : one.IsLegible network) (placed : one.IsPlaced)
    (legible' : two.IsLegible other) (placed' : two.IsPlaced) (found : one.sourceLine network = .ok line)
    (found' : two.sourceLine other = .ok line) : ShowsAlike network other one two := by
  -- Lines of different operations differ, which leaves one case for each operation.
  have operations : one.operation = two.operation := by
    obtain ⟨_, also, shown⟩ := exists_line legible placed
    obtain ⟨_, also', shown'⟩ := exists_line legible' placed'
    cases found.symm.trans also
    cases found'.symm.trans also'
    exact shown.operation_eq shown'
  have same : one.sourceLine network = two.sourceLine other := found.trans found'.symm
  cases one with
  | injectData target buffer index =>
      cases two with
      | injectData target' buffer' index' =>
          obtain ⟨rfl, call⟩ := messageLine_injective placed placed' (Except.ok.inj same)
          obtain ⟨rfl, rfl⟩ := readCall_injective legible.1 legible'.1 legible.2 legible'.2 call
          exact .injectData target buffer index
      | injectConstant _ _ | applyRule _ _ _ _ _ | invokeInner _ _ _ _ _ _ | combineMarginal _ _ _ =>
          cases operations
      | written _ _ _ => exact legible'.elim
  | injectConstant target value =>
      cases two with
      | injectConstant target' value' =>
          obtain ⟨message, rfl, family⟩ := legible
          obtain ⟨message', rfl, family'⟩ := legible'
          rw [sourceLine, sourceLine, sourceLiteral_message family, sourceLiteral_message family'] at same
          obtain ⟨rfl, _⟩ := messageLine_injective placed placed' (Except.ok.inj same)
          exact .injectConstant target _ _
      | injectData _ _ _ | applyRule _ _ _ _ _ | invokeInner _ _ _ _ _ _ | combineMarginal _ _ _ =>
          cases operations
      | written _ _ _ => exact legible'.elim
  | applyRule target rule node inbounds approximation =>
      cases two with
      | applyRule target' rule' node' inbounds' approximation' =>
          obtain ⟨ruled, named, places⟩ := legible
          obtain ⟨ruled', named', places'⟩ := legible'
          obtain ⟨rfl, call⟩ := messageLine_injective placed placed' (Except.ok.inj same)
          obtain ⟨rfl, nodes, rfl, tagged⟩ := ruleCall_injective ruled ruled' named named' places places' call
          exact .applyRule target rule inbounds nodes tagged
      | injectData _ _ _ | injectConstant _ _ | invokeInner _ _ _ _ _ _ | combineMarginal _ _ _ =>
          cases operations
      | written _ _ _ => exact legible'.elim
  | invokeInner target node body messages terminals result =>
      cases two with
      | invokeInner target' node' body' messages' terminals' result' =>
          obtain ⟨named, fits⟩ := legible
          obtain ⟨named', fits'⟩ := legible'
          obtain ⟨rfl, call⟩ := messageLine_injective placed.1 placed'.1 (Except.ok.inj same)
          obtain ⟨nodes, feeds, rfl⟩ := innerCall_injective named.toValue named'.toValue (isFeed_of_legible fits)
            (isFeed_of_legible fits') placed.2 placed'.2 call
          have terminalsEqual : terminals = terminals' :=
            List.map_injective_iff.mpr (Key.toValue_injective.prodMap Function.injective_id) feeds
          rw [← Key.toValue_injective nodes, ← terminalsEqual]
          exact .invokeInner target node terminals result
      | injectData _ _ _ | injectConstant _ _ | applyRule _ _ _ _ _ | combineMarginal _ _ _ => cases operations
      | written _ _ _ => exact legible'.elim
  | combineMarginal name first second =>
      cases two with
      | combineMarginal name' first' second' =>
          obtain ⟨names, call⟩ := marginalLine_injective legible.toValue legible'.toValue (Except.ok.inj same)
          obtain ⟨rfl, rfl⟩ :=
            productCall_injective (.inr placed.1) (.inr placed'.1) (.inr placed.2) (.inr placed'.2) call
          rw [← Key.toValue_injective names]
          exact .combineMarginal name first second
      | injectData _ _ _ | injectConstant _ _ | applyRule _ _ _ _ _ | invokeInner _ _ _ _ _ _ => cases operations
      | written _ _ _ => exact legible'.elim
  | written form body messages => exact legible.elim

end Line

end Instruction

/-! ### Emitted programs -/

namespace Emission

variable {network : Network} {schedule : Schedule} {index : Nat} {entry : Entry} {instruction : Instruction}

theorem isPlaced_of_entryInstruction (emitted : entryInstruction network index entry = .ok instruction) :
    instruction.IsPlaced := by
  rcases entryInstruction_inv emitted with
    ⟨_, _, rfl⟩ | ⟨_, rfl⟩ | ⟨_, _, _, _, rfl⟩ | ⟨_, _, _, rfl⟩
  · exact rfl
  · exact rfl
  · exact rfl
  · exact ⟨rfl, rfl⟩

theorem isPlaced_of_scheduleInstructions {first : Nat} {body : List Instruction}
    (emitted : scheduleInstructions network first schedule = .ok body) :
    ∀ instruction ∈ body, instruction.IsPlaced := by
  induction schedule generalizing first body with
  | nil =>
      cases emitted
      exact fun _ impossible => absurd impossible List.not_mem_nil
  | cons entry rest ih =>
      rw [scheduleInstructions] at emitted
      obtain ⟨next, here, emitted⟩ := bind_eq_ok.mp emitted
      obtain ⟨others, later, emitted⟩ := bind_eq_ok.mp emitted
      cases emitted
      exact List.forall_mem_cons.mpr ⟨isPlaced_of_entryInstruction here, ih later⟩

theorem program_placed {targets : List VariableKey} {program : Program}
    (emitted : Emission.program network schedule targets = .ok program) :
    program.messages = .whole schedule.length ∧ ∀ instruction ∈ program.instructions, instruction.IsPlaced := by
  obtain ⟨body, closing, within, after, rfl⟩ := program_eq_ok.mp emitted
  refine ⟨rfl, List.forall_mem_append.mpr ⟨isPlaced_of_scheduleInstructions within, ?_⟩⟩
  intro instruction member
  obtain ⟨target, _, here⟩ := Partial.exists_of_mem_right (Partial.mapM_eq_ok.mp after) member
  obtain ⟨_, _, _, _, _, _, _, rfl⟩ := marginalInstruction_inv here
  exact ⟨rfl, rfl⟩

end Emission

/-! ### Procedures -/

/-- Lines without line breaks are the pieces between the line breaks. -/
theorem Text.splitAt_joinLines {lines : List String} (nonempty : lines ≠ [])
    (apart : ∀ line ∈ lines, '\n' ∉ line.toList) :
    splitAt '\n' (joinWith "\n" lines ++ "\n").toList = lines.map String.toList ++ [[]] := by
  induction lines with
  | nil => exact absurd rfl nonempty
  | cons line rest ih =>
      have here := apart line List.mem_cons_self
      cases rest with
      | nil =>
          rw [joinWith, String.toList_append]
          exact splitAt_append here []
      | cons next rest =>
          have later := ih (List.cons_ne_nil next rest)
            fun other member => apart other (List.mem_cons_of_mem line member)
          have opened : (joinWith "\n" (line :: next :: rest) ++ "\n").toList
              = line.toList ++ '\n' :: (joinWith "\n" (next :: rest) ++ "\n").toList := by
            rw [joinWith, String.toList_append, String.toList_append, String.toList_append, String.toList_append,
              List.append_assoc, List.append_assoc]
            · rfl
            · exact List.cons_ne_nil next rest
          rw [opened, splitAt_append here, later]
          rfl

namespace Program

/-- The lines in front of the instructions. -/
def headerLines (messages : Value) : List String :=
  ["def step(data, marginals=None):", "    marginals = dict(marginals or \x7b\x7d)",
    "    messages = [None] * " ++ messages.plain, ""]

/-- The lines behind the instructions; nothing stands behind the last line break. -/
def closingLines : List String := ["", "    return marginals"]

section Source

variable {network other : Network} {program : Program} {text : String} {messages : Value}

theorem source_eq_ok : program.source network "step" = .ok text ↔
    ∃ lines, List.Forall₂ (fun instruction line => Instruction.sourceLine network instruction = .ok line)
      program.instructions lines ∧
      text = joinWith "\n" (headerLines program.messages ++ lines ++ closingLines) ++ "\n" := by
  rw [source, bind_eq_ok]
  constructor
  · rintro ⟨lines, found, same⟩
    exact ⟨lines, Partial.mapM_eq_ok.mp found, (Except.ok.inj same).symm⟩
  · rintro ⟨lines, found, rfl⟩
    exact ⟨lines, Partial.mapM_eq_ok.mpr found, rfl⟩

theorem isVisible_headerLines (integer : messages.IsInteger) :
    ∀ line ∈ headerLines messages, IsVisible line.toList := by
  have first : IsVisible "def step(data, marginals=None):".toList := by decide
  have second : IsVisible "    marginals = dict(marginals or \x7b\x7d)".toList := by decide
  have third : IsVisible ("    messages = [None] * " ++ messages.plain).toList := by
    rw [String.toList_append]
    exact .append (by decide) (Value.isVisible_plain integer)
  intro line member
  simp only [headerLines, List.mem_cons, List.not_mem_nil, or_false] at member
  rcases member with rfl | rfl | rfl | rfl
  · exact first
  · exact second
  · exact third
  · decide

theorem isVisible_closingLines : ∀ line ∈ closingLines, IsVisible line.toList := by decide

theorem headerLines_injective {messages' : Value} (integer : messages.IsInteger) (integer' : messages'.IsInteger)
    (same : headerLines messages = headerLines messages') : messages = messages' := by
  rw [headerLines, headerLines, List.cons.injEq, List.cons.injEq, List.cons.injEq] at same
  have line := congrArg String.toList same.2.2.1
  rw [String.toList_append, String.toList_append] at line
  exact integer.plain_injective integer' (String.toList_inj.mp (List.append_cancel_left line))

theorem exists_lines {instructions : List Instruction}
    (legible : ∀ instruction ∈ instructions, instruction.IsLegible network)
    (placed : ∀ instruction ∈ instructions, instruction.IsPlaced) :
    ∃ lines, List.Forall₂ (fun instruction line => Instruction.sourceLine network instruction = .ok line)
      instructions lines ∧ ∀ line ∈ lines, IsVisible line.toList := by
  induction instructions with
  | nil => exact ⟨[], .nil, fun _ impossible => absurd impossible List.not_mem_nil⟩
  | cons instruction rest ih =>
      obtain ⟨line, found, shown⟩ :=
        Instruction.exists_line (legible instruction List.mem_cons_self) (placed instruction List.mem_cons_self)
      obtain ⟨lines, others, visible⟩ := ih (fun other member => legible other (List.mem_cons_of_mem _ member))
        (fun other member => placed other (List.mem_cons_of_mem _ member))
      exact ⟨line :: lines, .cons found others, List.forall_mem_cons.mpr ⟨shown.isVisible, visible⟩⟩

theorem showsAlike_of_lines {instructions instructions' : List Instruction} {lines : List String}
    (legible : ∀ instruction ∈ instructions, instruction.IsLegible network)
    (placed : ∀ instruction ∈ instructions, instruction.IsPlaced)
    (legible' : ∀ instruction ∈ instructions', instruction.IsLegible other)
    (placed' : ∀ instruction ∈ instructions', instruction.IsPlaced)
    (found : List.Forall₂ (fun instruction line => Instruction.sourceLine network instruction = .ok line)
      instructions lines)
    (found' : List.Forall₂ (fun instruction line => Instruction.sourceLine other instruction = .ok line)
      instructions' lines) :
    List.Forall₂ (Instruction.ShowsAlike network other) instructions instructions' := by
  induction found generalizing instructions' with
  | nil =>
      cases found'
      exact .nil
  | cons here _ ih =>
      cases found' with
      | cons here' later' =>
          obtain ⟨first, rest⟩ := List.forall_mem_cons.mp legible
          obtain ⟨first', rest'⟩ := List.forall_mem_cons.mp legible'
          obtain ⟨slots, others⟩ := List.forall_mem_cons.mp placed
          obtain ⟨slots', others'⟩ := List.forall_mem_cons.mp placed'
          exact .cons (Instruction.showsAlike_of_sourceLine first slots first' slots' here here')
            (ih rest others rest' others' later')

theorem splitAt_source {lines : List String} (integer : messages.IsInteger)
    (visible : ∀ line ∈ lines, IsVisible line.toList) :
    Text.splitAt '\n' (joinWith "\n" (headerLines messages ++ lines ++ closingLines) ++ "\n").toList
      = (headerLines messages ++ lines ++ closingLines ++ [""]).map String.toList := by
  rw [List.map_append]
  apply Text.splitAt_joinLines
  · exact List.cons_ne_nil _ _
  · intro line member
    rw [List.mem_append, List.mem_append] at member
    rcases member with (header | instruction) | closing
    · exact (isVisible_headerLines integer line header).newline
    · exact (visible line instruction).newline
    · exact (isVisible_closingLines line closing).newline

/-- The lines of a procedure are those of its text. -/
theorem lines_injective {messages' : Value} {lines lines' : List String} (integer : messages.IsInteger)
    (integer' : messages'.IsInteger) (visible : ∀ line ∈ lines, IsVisible line.toList)
    (visible' : ∀ line ∈ lines', IsVisible line.toList)
    (same : joinWith "\n" (headerLines messages ++ lines ++ closingLines) ++ "\n"
      = joinWith "\n" (headerLines messages' ++ lines' ++ closingLines) ++ "\n") :
    messages = messages' ∧ lines = lines' := by
  have pieces := splitAt_source integer visible
  rw [same, splitAt_source integer' visible'] at pieces
  have texts := List.map_injective_iff.mpr (fun _ _ equal => String.toList_inj.mp equal) pieces.symm
  rw [List.append_assoc, List.append_assoc, List.append_assoc, List.append_assoc] at texts
  obtain ⟨header, behind⟩ := List.append_inj texts rfl
  exact ⟨headerLines_injective integer integer' header, List.append_cancel_right behind⟩

end Source

end Program

/-- The text of an emitted program has four header lines, a printable line for each instruction, an empty line and
the line that returns the marginals.  Programs with the same text do the same, with constants left open. -/
theorem Emission.source_determines {network : Network} {schedule : Schedule} {targets : List VariableKey}
    {program : Program} (emitted : Emission.program network schedule targets = .ok program)
    (legible : ∀ instruction ∈ program.instructions, instruction.IsLegible network) :
    ∃ lines text, program.source network "step" = .ok text ∧
      List.Forall₂ (fun instruction line => Instruction.sourceLine network instruction = .ok line)
        program.instructions lines ∧
      (∀ line ∈ lines, IsVisible line.toList) ∧
      Text.splitAt '\n' text.toList = (["def step(data, marginals=None):",
        "    marginals = dict(marginals or \x7b\x7d)",
        "    messages = [None] * " ++ program.messages.plain, ""] ++ lines ++
        ["", "    return marginals", ""]).map String.toList ∧
      ∀ (other : Network) (schedule' : Schedule) (targets' : List VariableKey) (program' : Program),
        Emission.program other schedule' targets' = .ok program' →
        (∀ instruction ∈ program'.instructions, instruction.IsLegible other) →
        program'.source other "step" = .ok text →
        program.messages = program'.messages ∧
          List.Forall₂ (Instruction.ShowsAlike network other) program.instructions program'.instructions := by
  obtain ⟨sized, placed⟩ := program_placed emitted
  have integer : program.messages.IsInteger := by
    rw [sized]
    rfl
  obtain ⟨lines, found, visible⟩ := Program.exists_lines legible placed
  refine ⟨lines, _, Program.source_eq_ok.mpr ⟨lines, found, rfl⟩, found, visible, ?_, ?_⟩
  · rw [Program.splitAt_source integer visible, List.append_assoc _ Program.closingLines]
    rfl
  · intro other schedule' targets' program' emitted' legible' written
    obtain ⟨sized', placed'⟩ := program_placed emitted'
    have integer' : program'.messages.IsInteger := by
      rw [sized']
      rfl
    obtain ⟨lines', found', same⟩ := Program.source_eq_ok.mp written
    obtain ⟨own, shown, visible'⟩ := Program.exists_lines legible' placed'
    -- The lines that are printable are the lines that the text was made of.
    cases (Partial.mapM_eq_ok.mpr shown).symm.trans (Partial.mapM_eq_ok.mpr found')
    obtain ⟨messages, rfl⟩ := Program.lines_injective integer integer' visible visible' same
    exact ⟨messages, Program.showsAlike_of_lines legible placed legible' placed' found found'⟩

/-- A constant and a placeholder, a composite node and a factor, under names that hold quotes, backslashes and line
breaks. -/
def odd : Network where
  graphs := #[{ placeholders := [("d\"]", { buffer := .text "a'b\nc", index := .whole 3 })] }, {}]
  nodes := #[
    { id := "p'\"\n", graph := 0, kind := .text "Shelter", role := .composite (some 1) [1, 2] [],
      interfaces := [{ name := "y", edge := some 0 }, { name := "z", edge := none }] },
    { id := "y\\", graph := 1, kind := .text "Terminal", role := .terminal,
      interfaces := [{ name := "out", edge := none }] },
    { id := "z", graph := 1, kind := .text "Terminal", role := .terminal,
      interfaces := [{ name := "out", edge := some 1 }] },
    { id := "k", graph := 1, kind := .text "Constant", role := .constant (.message (.gaussian 0 1)),
      interfaces := [{ name := "out", edge := some 1 }] },
    { id := "c", graph := 0, kind := .text "Constant", role := .constant (.message (.gaussian 0 1)),
      interfaces := [{ name := "out", edge := some 0 }] },
    { id := "d\"]", graph := 0, kind := .text "Constant", role := .constant (.whole 0),
      interfaces := [{ name := "out", edge := some 2 }] },
    { id := "g, marginals=marginals)", graph := 0, kind := .text "GaussianNode", role := .factor,
      interfaces := [{ name := "mean", edge := some 2 }, { name := "variance" }, { name := "out" }] }]
  edges := #[
    { id := "e0", first := ⟨4, 0⟩, second := ⟨0, 0⟩, carried := .variable 0 },
    { id := "e1", first := ⟨3, 0⟩, second := ⟨2, 0⟩, carried := .variable 1 },
    { id := "e2", first := ⟨5, 0⟩, second := ⟨6, 0⟩, carried := .variable 2 }]
  vars := #[{ id := "v0", edges := [0] }, { id := "v1", edges := [1] }, { id := "v\n\"", edges := [2] }]

def oddResolved (method : String) : Schedule :=
  [{ socket := ⟨4, 0⟩, outbound := some (.typed .gaussian), status := .leaf },
   { socket := ⟨5, 0⟩, outbound := some (.typed .pointMass), status := .leaf },
   { socket := ⟨0, 1⟩, inbounds := [some (.entry 0)], outbound := some (.typed .gaussian),
     rule := some (.text "Shelter.z"), status := .composite,
     inner := some [{ socket := ⟨3, 0⟩, outbound := some (.typed .gaussian), status := .leaf }] },
   { socket := ⟨6, 0⟩, inbounds := [some (.entry 0), none], outbound := some (.typed .gaussian),
     approximation := some (.named method), rule := some (.text "r'"), status := .approximate }]

def oddProgram (method : String) : Program where
  instructions := [
    .injectConstant (.whole 0) (.message (.gaussian 0 1)),
    .injectData (.whole 1) (.text "a'b\nc") (.whole 3),
    .invokeInner (.whole 2) "p'\"\n" [.injectConstant (.whole 0) (.message (.gaussian 0 1))] (.whole 1)
      [("y\\", .whole 0)] (.whole 0),
    .applyRule (.whole 3) (.text "r'") 6 [.whole 0, .absent] (some (.named method)),
    .combineMarginal "v\n\"" (.whole 1) (.whole 3)]
  messages := .whole 4

theorem odd_emitted (method : String) :
    Emission.program odd (oddResolved method) [2] = .ok (oddProgram method) := rfl

theorem odd_legible (method : String) :
    ∀ instruction ∈ (oddProgram method).instructions, instruction.IsLegible odd := by
  have family : Distribution.gaussian (0 : Float) 1 ≠ .bare := by
    rintro ⟨⟩
  intro instruction member
  simp only [oddProgram, List.mem_cons, List.not_mem_nil, or_false] at member
  rcases member with rfl | rfl | rfl | rfl | rfl
  · exact ⟨_, rfl, family⟩
  · exact ⟨⟨_, rfl⟩, .inr rfl⟩
  · refine ⟨⟨_, rfl⟩, ?_⟩
    intro feed listed
    rw [List.mem_singleton.mp listed]
    exact ⟨⟨_, rfl⟩, .inr rfl⟩
  · refine ⟨⟨_, rfl⟩, ⟨_, rfl⟩, ?_⟩
    intro slot listed
    rcases List.mem_pair.mp listed with rfl | rfl
    · exact .inr rfl
    · exact .inl rfl
  · exact ⟨_, rfl⟩

/-- A text of eleven lines and an empty rest although names hold line breaks, and one text for two methods. -/
theorem Emission.source_determines_odd :
    Emission.program odd (oddResolved "MeanField") [2] = .ok (oddProgram "MeanField") ∧
    Emission.program odd (oddResolved "EP") [2] = .ok (oddProgram "EP") ∧
    ∃ text, (oddProgram "MeanField").source odd "step" = .ok text ∧
      (oddProgram "EP").source odd "step" = .ok text ∧ (Text.splitAt '\n' text.toList).length = 12 ∧
      List.Forall₂ (Instruction.ShowsAlike odd odd) (oddProgram "MeanField").instructions
        (oddProgram "EP").instructions := by
  obtain ⟨lines, text, written, found, _, split, determines⟩ :=
    source_determines (odd_emitted "MeanField") (odd_legible "MeanField")
  have same : (oddProgram "EP").source odd "step" = .ok text := written ▸ rfl
  have alike := (determines odd _ [2] _ (odd_emitted "EP") (odd_legible "EP") same).2
  have counted : lines.length = 5 := found.length_eq.symm
  refine ⟨odd_emitted "MeanField", odd_emitted "EP", text, written, same, ?_, alike⟩
  rw [split, List.length_map, List.length_append, List.length_append, counted]
  rfl

end SumProduct
