/-
The bundled rules are sound.

The rules of Gaussian factors, of addition and of equality come once for numbers and once for vectors;
a family groups the three types that belong to one dimension, so both are covered by one argument.
Rules of gains take the dimension that no message carries from the matrix, and rules for numbers demand
a matrix with a single entry.  Mean-field rules name the family of their result themselves.
-/

import SumProduct.Proofs.Operations
import SumProduct.Proofs.Soundness

set_option autoImplicit false

namespace SumProduct.Bundled

open Partial (bind_eq_ok map_eq_ok)

/-! ### Safe signatures -/

/-- What the node and the assignment of a chosen rule have in common. -/
structure Signature.Setting (entry : Signature) (node : Node) (assignment : Assignment) : Prop where
  knows : ∀ name own, node.static name = some own → own = assignment name
  meets : ∀ name value, (name, value) ∈ entry.requires → node.static name = some value
  supplied : ∀ name, .free name ∈ entry.outbound.params →
    (∃ type ∈ entry.inbound, .free name ∈ type.params) ∨ ∃ own, node.static name = some own

/-- On messages of the inbound types the implementation is safe for messages of the outbound type. -/
def Signature.IsSafe (entry : Signature) : Prop :=
  ∀ network key assignment messages, entry.Setting (network.node key) assignment →
    List.Forall₂ Message.IsTyped messages (entry.inbound.map (MessageType.under assignment)) →
    Delivers (entry.outbound.under assignment)
      (entry.implementation ⟨network, some key⟩ (messages.map .message) none)

/-- The call that registers the rule of a signature. -/
def Signature.registration (entry : Signature) : Registration where
  id := entry.id
  kind := .text entry.kind
  slot := .whole entry.slot
  inbound := entry.inbound.map .typed
  outbound := .typed entry.outbound
  requires := entry.requires

theorem Signature.IsSafe.isSound {entry : Signature} (safe : entry.IsSafe) :
    (entry.registration.rule entry.outbound).IsSound entry.implementation := by
  intro network key assignment arriving type values marginals chosen fills handed
  cases marginals with
  | some known => cases handed
  | none =>
      have patterns := entry.registration.patterns_eq entry.outbound
      have accepts := chosen.accepts
      rw [patterns] at accepts
      obtain ⟨messages, rfl, typed⟩ := typed_messages accepts fills
      have setting : entry.Setting (network.node key) assignment := by
        refine ⟨chosen.knows, ?_, ?_⟩
        · intro name value member
          exact chosen.meets name value (List.mem_map.mpr ⟨(name, value), member, rfl⟩)
        · intro name member
          rcases chosen.supplied name member with ⟨pattern, listed, found, same, mentioned⟩ | known
          · rw [patterns] at listed
            obtain ⟨inbound, there, equal⟩ := List.mem_map.mp listed
            rw [same] at equal
            cases equal
            exact Or.inl ⟨found, there, mentioned⟩
          · exact Or.inr known
      have delivered := safe network key assignment messages setting typed
      constructor
      · intro value computed
        rw [computed] at delivered
        rw [chosen.yields]
        exact delivered
      · intro _ fault failed
        rw [failed] at delivered
        exact delivered

theorem addExact_eq (library : Library) (entry : Signature) :
    addExact library entry = library.after entry.registration entry.implementation := by
  unfold addExact Library.after Signature.registration
  rw [List.map_map]
  rfl

theorem addExact_fitted {library : Library} (fitted : library.Fitted) {entry : Signature}
    (safe : entry.IsSafe) : (addExact library entry).Fitted := by
  rw [addExact_eq]
  refine fitted.after fun type same => ?_
  cases same
  exact safe.isSound

theorem foldl_addExact_fitted {entries : List Signature} (safe : ∀ entry ∈ entries, entry.IsSafe)
    {library : Library} (fitted : library.Fitted) : (entries.foldl addExact library).Fitted := by
  induction entries generalizing library with
  | nil => exact fitted
  | cons entry rest ih =>
      have here := addExact_fitted fitted (safe entry List.mem_cons_self)
      exact ih (fun other member => safe other (List.mem_cons_of_mem entry member)) here

/-! ### Families of one dimension -/

/-- Point masses, Gaussians and variances, for numbers and for vectors. -/
def families : List (MessageType × MessageType × MessageType) :=
  [(.pointMass, .gaussian, .pointMass),
   (.mvPointMass (.free "N"), .mvGaussian (.free "N"),
    .matrixPointMass (.free "N") (.free "N"))]

/-- The assignment gives the types of a family one dimension. -/
structure Spans (assignment : Assignment) (family : MessageType × MessageType × MessageType)
    (dims : Option Nat) : Prop where
  point : family.1.under assignment = pointType dims
  gaussian : family.2.1.under assignment = gaussianType dims
  spread : family.2.2.under assignment = spreadType dims

theorem families_different {family : MessageType × MessageType × MessageType}
    (member : family ∈ families) : family.2.1 ≠ family.1 := by
  rcases List.mem_cons.mp member with rfl | later
  · decide
  · rw [List.mem_singleton.mp later]
    decide

theorem exists_spans {assignment : Assignment} {family : MessageType × MessageType × MessageType}
    (member : family ∈ families) {message : Message} {type : MessageType}
    (listed : type = family.1 ∨ type = family.2.1) (typed : message.IsTyped (type.under assignment)) :
    ∃ dims, Spans assignment family dims := by
  rcases List.mem_cons.mp member with rfl | later
  · exact ⟨none, rfl, rfl, rfl⟩
  · rw [List.mem_singleton.mp later] at listed ⊢
    have dimension : ∃ number : Nat, assignment "N" = number := by
      rcases listed with rfl | rfl
      · exact typed.natural List.mem_cons_self
      · exact typed.natural List.mem_cons_self
    obtain ⟨number, same⟩ := dimension
    refine ⟨some number, ?_, ?_, ?_⟩
    · simp [MessageType.under, Param.under, pointType, MessageType.mvPointMass, same]
    · simp [MessageType.under, Param.under, gaussianType, MessageType.mvGaussian, same]
    · simp [MessageType.under, Param.under, spreadType, MessageType.matrixPointMass, same]

section Spans

variable {assignment : Assignment} {family : MessageType × MessageType × MessageType}
  {dims : Option Nat} {type : MessageType} {message : Message}

theorem Spans.located (spans : Spans assignment family dims) (member : family ∈ families)
    (listed : type = family.1 ∨ type = family.2.1) (typed : message.IsTyped (type.under assignment)) :
    message.IsLocated dims ∧ message.isPointMass = decide (type = family.1) := by
  rcases listed with rfl | rfl
  · rw [spans.point] at typed
    exact ⟨Or.inl typed, by rw [typed.isPointMass_of_point, decide_eq_true rfl]⟩
  · rw [spans.gaussian] at typed
    exact ⟨Or.inr typed, by rw [typed.isPointMass_of_gaussian, decide_eq_false (families_different member)]⟩

theorem Spans.under_eq (spans : Spans assignment family dims) (point : Bool) :
    (if point then family.1 else family.2.1).under assignment = familyType point dims := by
  cases point with
  | true => exact spans.point
  | false => exact spans.gaussian

end Spans

/-! ### Gaussian factors, addition and equality -/

/-- A rule of two messages that does not look at its node. -/
theorem named_binary_safe {stem kind : String} {slot : Int} {implementation : Implementation}
    {left right result : MessageType}
    (works : ∀ site assignment first second, Message.IsTyped first (left.under assignment) →
      Message.IsTyped second (right.under assignment) →
      Delivers (result.under assignment)
        (implementation site [.message first, .message second] none)) :
    (named stem implementation kind slot [left, right] result []).IsSafe := by
  intro network key assignment messages _ typed
  cases typed with
  | cons first rest =>
      cases rest with
      | cons second none =>
          cases none
          exact works _ assignment _ _ first second

theorem gaussianSignatures_eq : gaussianSignatures = families.flatMap fun family =>
    [named "gaussian_out_sp" gaussianOut "GaussianNode" 2 [family.1, family.2.2] family.2.1 [],
     named "gaussian_out_sp" gaussianOut "GaussianNode" 2 [family.2.1, family.2.2] family.2.1 [],
     named "gaussian_mean_sp" gaussianMean "GaussianNode" 0 [family.2.2, family.1] family.2.1 [],
     named "gaussian_mean_sp" gaussianMean "GaussianNode" 0 [family.2.2, family.2.1] family.2.1 []] :=
  rfl

theorem spreadBy_safe {family : MessageType × MessageType × MessageType} (member : family ∈ families)
    {type : MessageType} (listed : type = family.1 ∨ type = family.2.1) {assignment : Assignment}
    {center known : Message} (centered : center.IsTyped (type.under assignment))
    (spread : known.IsTyped (family.2.2.under assignment)) :
    Delivers (family.2.1.under assignment)
      ((spreadBy (.message center) (.message known)).map Value.message) := by
  obtain ⟨dims, spans⟩ := exists_spans member listed centered
  rw [spans.spread] at spread
  rw [spans.gaussian]
  exact delivers_message (spreadBy_typed (spans.located member listed centered).1 spread)

theorem gaussianSignatures_safe : ∀ entry ∈ gaussianSignatures, entry.IsSafe := by
  intro entry member
  rw [gaussianSignatures_eq] at member
  obtain ⟨family, listed, member⟩ := List.mem_flatMap.mp member
  simp only [List.mem_cons, List.not_mem_nil, or_false] at member
  rcases member with rfl | rfl | rfl | rfl
  · exact named_binary_safe fun _ _ _ _ => spreadBy_safe listed (Or.inl rfl)
  · exact named_binary_safe fun _ _ _ _ => spreadBy_safe listed (Or.inr rfl)
  · exact named_binary_safe fun _ _ _ _ spread centered =>
      spreadBy_safe listed (Or.inl rfl) centered spread
  · exact named_binary_safe fun _ _ _ _ spread centered =>
      spreadBy_safe listed (Or.inr rfl) centered spread

theorem pointGaussianPairs_eq :
    pointGaussianPairs = families.map fun family => (family.1, family.2.1) := rfl

/-- A rule that combines two messages of one dimension to a point mass only if both are. -/
theorem combination_safe {stem kind : String} {slot : Int} {implementation : Implementation}
    (combines : Combines implementation) {family : MessageType × MessageType × MessageType}
    (member : family ∈ families)
    {left right : MessageType} (leftListed : left = family.1 ∨ left = family.2.1)
    (rightListed : right = family.1 ∨ right = family.2.1) :
    (named stem implementation kind slot [left, right]
      (if left = family.1 ∧ right = family.1 then family.1 else family.2.1) []).IsSafe := by
  refine named_binary_safe fun site assignment first second leftTyped rightTyped => ?_
  obtain ⟨dims, spans⟩ := exists_spans member leftListed leftTyped
  obtain ⟨leftLocated, leftPoint⟩ := spans.located member leftListed leftTyped
  obtain ⟨rightLocated, rightPoint⟩ := spans.located member rightListed rightTyped
  obtain ⟨message, computed, typed⟩ := combines site first second dims leftLocated rightLocated
  rw [leftPoint, rightPoint, ← Bool.decide_and, ← spans.under_eq] at typed
  simp only [decide_eq_true_eq] at typed
  exact Safely.of_ok computed (Value.hasType_message typed)

theorem additionSignatures_safe : ∀ entry ∈ additionSignatures, entry.IsSafe := by
  intro entry member
  obtain ⟨pair, listed, member⟩ := List.mem_flatMap.mp member
  rw [pointGaussianPairs_eq] at listed
  obtain ⟨family, known, rfl⟩ := List.mem_map.mp listed
  obtain ⟨left, leftListed, member⟩ := List.mem_flatMap.mp member
  obtain ⟨right, rightListed, member⟩ := List.mem_flatMap.mp member
  simp only [List.mem_cons, List.not_mem_nil, or_false] at leftListed rightListed member
  rcases member with rfl | rfl | rfl
  · exact combination_safe sum_combines known leftListed rightListed
  · exact combination_safe difference_combines known leftListed rightListed
  · exact combination_safe difference_combines known leftListed rightListed

theorem product_safe {stem kind : String} {slot : Int}
    {family : MessageType × MessageType × MessageType} (member : family ∈ families)
    {left right : MessageType} (leftListed : left = family.1 ∨ left = family.2.1)
    (rightListed : right = family.1 ∨ right = family.2.1) {result : MessageType}
    (absorbed : result = if left = family.1 ∨ right = family.1 then family.1 else family.2.1) :
    (named stem equalityProduct kind slot [left, right] result []).IsSafe := by
  refine named_binary_safe fun site assignment first second leftTyped rightTyped => ?_
  obtain ⟨dims, spans⟩ := exists_spans member leftListed leftTyped
  obtain ⟨leftLocated, leftPoint⟩ := spans.located member leftListed leftTyped
  obtain ⟨rightLocated, rightPoint⟩ := spans.located member rightListed rightTyped
  have multiplied := Distribution.multiply_located leftLocated rightLocated
  rw [leftPoint, rightPoint, ← Bool.decide_or, ← spans.under_eq] at multiplied
  simp only [decide_eq_true_eq] at multiplied
  rw [equalityProduct_eq, absorbed]
  exact delivers_message multiplied

theorem equalitySignatures_safe : ∀ entry ∈ equalitySignatures, entry.IsSafe := by
  intro entry member
  obtain ⟨slot, _, member⟩ := List.mem_flatMap.mp member
  obtain ⟨signature, listed, rfl⟩ := List.mem_map.mp member
  rcases List.mem_append.mp listed with paired | alone
  · obtain ⟨pair, pairListed, chosen⟩ := List.mem_flatMap.mp paired
    rw [pointGaussianPairs_eq] at pairListed
    obtain ⟨family, known, rfl⟩ := List.mem_map.mp pairListed
    have different := families_different known
    simp only [List.mem_cons, List.not_mem_nil, or_false] at chosen
    rcases chosen with rfl | rfl | rfl | rfl
    · exact product_safe known (Or.inr rfl) (Or.inr rfl) (by simp [different])
    · exact product_safe known (Or.inl rfl) (Or.inr rfl) (by simp)
    · exact product_safe known (Or.inr rfl) (Or.inl rfl) (by simp)
    · exact product_safe known (Or.inl rfl) (Or.inl rfl) (by simp)
  · simp only [List.mem_cons, List.not_mem_nil, or_false] at alone
    rcases alone with rfl | rfl
    · refine named_binary_safe fun site assignment first second leftTyped rightTyped => ?_
      obtain ⟨shapeA, rateA, rfl⟩ := Message.IsTyped.gamma_inv leftTyped
      obtain ⟨shapeB, rateB, rfl⟩ := Message.IsTyped.gamma_inv rightTyped
      exact Safely.of_ok rfl (Value.hasType_message (.gamma (shapeA + shapeB - 1) (rateA + rateB)))
    · refine named_binary_safe fun site assignment first second leftTyped rightTyped => ?_
      obtain ⟨shapeA, scaleA, rfl⟩ := Message.IsTyped.inverseGamma_inv leftTyped
      obtain ⟨shapeB, scaleB, rfl⟩ := Message.IsTyped.inverseGamma_inv rightTyped
      exact Safely.of_ok rfl
        (Value.hasType_message (.inverseGamma (shapeA + shapeB + 1) (scaleA + scaleB)))

/-! ### Gains -/

section Gains

variable {node : Node} {gain : Gain} {name : String}

theorem gain_of_static {own : Int} (known : node.static name = some own) :
    ∃ gain, node.role = .gain gain := by
  unfold Node.static at known
  split at known
  · rename_i gain role
    exact ⟨gain, role⟩
  · cases known

theorem static_rows (role : node.role = .gain gain) : node.static "dims_n" = some gain.rows := by
  rw [Node.static, role]
  rfl

theorem static_cols (role : node.role = .gain gain) : node.static "dims_m" = some gain.cols := by
  rw [Node.static, role]
  rfl

end Gains

/-- A rule for numbers, which may count on a gain with a single entry. -/
theorem scalar_gain_safe {stem kind : String} {slot : Int} {implementation : Implementation}
    {type : MessageType} (closed : type.params = [])
    (works : ∀ network key factor message, scalarGain (Network.node network key) = .ok factor →
      Message.IsTyped message type →
      Delivers type (implementation ⟨network, some key⟩ [.message message] none)) :
    (named stem implementation kind slot [type] type [("dims_n", 1), ("dims_m", 1)]).IsSafe := by
  intro network key assignment messages setting typed
  have rows := setting.meets "dims_n" 1 List.mem_cons_self
  have cols := setting.meets "dims_m" 1 (List.mem_cons_of_mem _ List.mem_cons_self)
  obtain ⟨gain, role⟩ := gain_of_static rows
  rw [static_rows role] at rows
  rw [static_cols role] at cols
  obtain ⟨factor, found⟩ := scalarGain_single role (Int.ofNat.inj (Option.some.inj rows))
    (Int.ofNat.inj (Option.some.inj cols))
  have same : type.under assignment = type := MessageType.under_closed closed
  cases typed with
  | cons here rest =>
      cases rest
      rw [same] at here
      have delivered := works network key factor _ found here
      rw [← same] at delivered
      exact delivered

/-- A rule for vectors, whose outbound dimension is read off the matrix. -/
theorem matrix_gain_safe {stem kind : String} {slot : Int} {implementation : Implementation}
    {arriving result : MessageType} (name : String) (read : .free name ∈ result.params)
    (unread : .free name ∉ arriving.params)
    (works : ∀ network key (gain : Gain) message (assignment : Assignment),
      (Network.node network key).gain = .ok gain.matrix →
      assignment "dims_n" = gain.rows → assignment "dims_m" = gain.cols →
      Message.IsTyped message (arriving.under assignment) →
      Delivers (result.under assignment)
        (implementation ⟨network, some key⟩ [.message message] none)) :
    (named stem implementation kind slot [arriving] result []).IsSafe := by
  intro network key assignment messages setting typed
  rcases setting.supplied name read with ⟨type, listed, mentioned⟩ | ⟨own, known⟩
  · rw [List.mem_singleton.mp listed] at mentioned
    exact absurd mentioned unread
  · obtain ⟨gain, role⟩ := gain_of_static known
    have rows := setting.knows "dims_n" _ (static_rows role)
    have cols := setting.knows "dims_m" _ (static_cols role)
    have found : (network.node key).gain = .ok gain.matrix := by
      rw [Node.gain, role]
    cases typed with
    | cons here rest =>
        cases rest
        exact works network key gain _ assignment found rows.symm cols.symm here

section ScalarGains

variable {network : Network} {key : NodeKey} {factor : Float} {message : Message}

theorem number_has (x : Float) : (Quantity.scalar x).Has none := trivial

theorem point_of_number {value : Quantity Float} (shaped : value.Has none) :
    Message.IsTyped (.pointMass value) .pointMass := by
  have typed : Message.IsTyped (.pointMass value) (pointType none) := Message.isTyped_pointMass shaped
  exact typed

theorem point_of_typed (typed : message.IsTyped .pointMass) :
    ∃ value, message = .pointMass value ∧ value.Has none :=
  @Message.IsTyped.pointMass_inv message none typed

theorem gaussian_of_typed (typed : message.IsTyped .gaussian) :
    ∃ mean variance, Distribution.locationField message = .ok mean ∧
      Distribution.spreadField message = .ok variance ∧ mean.Has none ∧ variance.Has none :=
  @Message.IsTyped.gaussian_fields message none typed

theorem gainPoint_safe (found : scalarGain (network.node key) = .ok factor)
    (typed : message.IsTyped .pointMass) :
    Delivers .pointMass (gainPoint ⟨network, some key⟩ [.message message] none) := by
  obtain ⟨value, rfl, shaped⟩ := point_of_typed typed
  obtain ⟨result, multiplied, resultShape⟩ := (number_has factor).combine (· * ·) shaped
  simp only [gainPoint, unary, Site.node, found, property, Distribution.held, Quantity.mul,
    multiplied, Partial.ok_bind, Partial.pure_eq_ok, Partial.map_ok]
  exact Value.hasType_message (point_of_number resultShape)

theorem gainPointBack_safe (found : scalarGain (network.node key) = .ok factor)
    (typed : message.IsTyped .pointMass) :
    Delivers .pointMass (gainPointBack ⟨network, some key⟩ [.message message] none) := by
  obtain ⟨value, rfl, shaped⟩ := point_of_typed typed
  simp only [gainPointBack, unary, Site.node, found, property, Distribution.held, Partial.ok_bind]
  refine delivers_message ((shaped.div_safe (number_has factor)).bind fun quotient shape => ?_)
  exact point_of_number shape

theorem gainGaussian_safe (found : scalarGain (network.node key) = .ok factor)
    (typed : message.IsTyped .gaussian) :
    Delivers .gaussian (gainGaussian ⟨network, some key⟩ [.message message] none) := by
  obtain ⟨mean, variance, meanFound, varianceFound, meanShape, varianceShape⟩ :=
    gaussian_of_typed typed
  obtain ⟨first, multipliedMean, firstShape⟩ := (number_has factor).combine (· * ·) meanShape
  obtain ⟨second, multipliedVariance, secondShape⟩ :=
    (number_has (factor * factor)).combine (· * ·) varianceShape
  obtain ⟨x, foundMean⟩ := firstShape.single_eq
  obtain ⟨y, foundVariance⟩ := secondShape.single_eq
  simp only [gainGaussian, unary, Site.node, found, property, meanFound, varianceFound, Quantity.mul,
    multipliedMean, multipliedVariance, foundMean, foundVariance, Partial.ok_bind,
    Partial.pure_eq_ok, Partial.map_ok]
  exact Value.hasType_message (.gaussian x y)

theorem gainGaussianBack_safe (found : scalarGain (network.node key) = .ok factor)
    (typed : message.IsTyped .gaussian) :
    Delivers .gaussian (gainGaussianBack ⟨network, some key⟩ [.message message] none) := by
  obtain ⟨mean, variance, meanFound, varianceFound, meanShape, varianceShape⟩ :=
    gaussian_of_typed typed
  simp only [gainGaussianBack, unary, Site.node, found, property, meanFound, varianceFound,
    Partial.ok_bind]
  refine delivers_message ?_
  refine (meanShape.div_safe (number_has factor)).bind fun first firstShape => ?_
  refine (varianceShape.div_safe (number_has (factor * factor))).bind fun second secondShape => ?_
  obtain ⟨x, foundMean⟩ := firstShape.single_eq
  obtain ⟨y, foundVariance⟩ := secondShape.single_eq
  simp only [foundMean, foundVariance, Partial.ok_bind, Partial.pure_eq_ok]
  exact Message.IsTyped.gaussian x y

end ScalarGains

theorem vector_under {assignment : Assignment} {name : String} {number : Nat}
    (same : assignment name = number) :
    (MessageType.mvPointMass (.free name)).under assignment = pointType (some number) ∧
      (MessageType.mvGaussian (.free name)).under assignment = gaussianType (some number) := by
  simp [MessageType.under, Param.under, pointType, gaussianType, MessageType.mvPointMass,
    MessageType.mvGaussian, same]

theorem gainSignatures_safe : ∀ entry ∈ gainSignatures, entry.IsSafe := by
  intro entry member
  simp only [gainSignatures, List.mem_cons, List.not_mem_nil, or_false] at member
  rcases member with rfl | rfl | rfl | rfl | rfl | rfl | rfl | rfl
  · exact scalar_gain_safe rfl fun _ _ _ _ => gainPoint_safe
  · exact scalar_gain_safe rfl fun _ _ _ _ => gainGaussian_safe
  · refine matrix_gain_safe "dims_n" (by decide) (by decide) ?_
    intro network key gain message assignment found rows cols typed
    rw [(vector_under cols).1] at typed
    rw [(vector_under rows).1]
    simp only [gainMvPoint, unary, Site.node, found, Partial.ok_bind]
    exact delivers_message (mapPoint_typed gain.matrix_shape typed)
  · refine matrix_gain_safe "dims_n" (by decide) (by decide) ?_
    intro network key gain message assignment found rows cols typed
    rw [(vector_under cols).2] at typed
    rw [(vector_under rows).2]
    simp only [gainMvGaussian, unary, Site.node, found, Partial.ok_bind]
    exact delivers_message (mapGaussian_typed gain.matrix_shape typed)
  · exact scalar_gain_safe rfl fun _ _ _ _ => gainPointBack_safe
  · exact scalar_gain_safe rfl fun _ _ _ _ => gainGaussianBack_safe
  · refine matrix_gain_safe "dims_m" (by decide) (by decide) ?_
    intro network key gain message assignment found rows cols typed
    rw [(vector_under rows).1] at typed
    rw [(vector_under cols).1]
    simp only [gainMvPointBack, unary, Site.node, found, Partial.ok_bind]
    refine delivers_message (((Tensor.shapeLaws Float).pseudoInverse gain.matrix_shape).bind ?_)
    exact fun inverse shaped => mapPoint_typed shaped typed
  · refine matrix_gain_safe "dims_m" (by decide) (by decide) ?_
    intro network key gain message assignment found rows cols typed
    rw [(vector_under rows).2] at typed
    rw [(vector_under cols).2]
    simp only [gainMvGaussianBack, unary, Site.node, found, Partial.ok_bind]
    refine delivers_message (((Tensor.shapeLaws Float).pseudoInverse gain.matrix_shape).bind ?_)
    exact fun inverse shaped => mapGaussian_typed shaped typed

/-! ### Mean-field rules -/

theorem meanFieldGaussian_typed {center scale message : Message}
    (computed : meanFieldGaussian center scale = .ok message) : message.IsTyped .gaussian := by
  obtain ⟨mean, _, computed⟩ := bind_eq_ok.mp computed
  obtain ⟨expected, _, computed⟩ := bind_eq_ok.mp computed
  obtain ⟨variance, _, computed⟩ := bind_eq_ok.mp computed
  obtain ⟨x, _, computed⟩ := bind_eq_ok.mp computed
  obtain ⟨y, _, computed⟩ := bind_eq_ok.mp computed
  cases computed
  exact .gaussian x y

/-- An implementation whose messages have one type, whatever it is given. -/
def AlwaysOf (type : MessageType) (implementation : Implementation) : Prop :=
  ∀ site values marginals value, implementation site values marginals = .ok value →
    value.HasType (some (.typed type))

theorem meanField_alwaysOf {type : MessageType} {rule : Site → Marginals → Except Fault Message}
    (typed : ∀ site marginals message, rule site marginals = .ok message → message.IsTyped type) :
    AlwaysOf type (meanField rule) := by
  intro site values marginals value computed
  unfold meanField at computed
  split at computed
  · obtain ⟨message, found, rfl⟩ := map_eq_ok.mp computed
    exact Value.hasType_message (typed _ _ message found)
  · cases computed

theorem meanFieldSignatures_closed : ∀ entry ∈ meanFieldSignatures, entry.2.2.2.params = [] := by
  intro entry member
  simp only [meanFieldSignatures, List.mem_cons, List.not_mem_nil, or_false] at member
  rcases member with rfl | rfl | rfl <;> rfl

theorem meanFieldSignatures_alwaysOf :
    ∀ entry ∈ meanFieldSignatures, AlwaysOf entry.2.2.2 entry.2.1 := by
  intro entry member
  simp only [meanFieldSignatures, List.mem_cons, List.not_mem_nil, or_false] at member
  rcases member with rfl | rfl | rfl
  · refine meanField_alwaysOf fun site marginals message computed => ?_
    obtain ⟨mean, _, computed⟩ := bind_eq_ok.mp computed
    obtain ⟨variance, _, computed⟩ := bind_eq_ok.mp computed
    exact meanFieldGaussian_typed computed
  · refine meanField_alwaysOf fun site marginals message computed => ?_
    obtain ⟨variance, _, computed⟩ := bind_eq_ok.mp computed
    obtain ⟨out, _, computed⟩ := bind_eq_ok.mp computed
    exact meanFieldGaussian_typed computed
  · refine meanField_alwaysOf fun site marginals message computed => ?_
    obtain ⟨mean, _, computed⟩ := bind_eq_ok.mp computed
    obtain ⟨out, _, computed⟩ := bind_eq_ok.mp computed
    obtain ⟨outVariance, _, computed⟩ := bind_eq_ok.mp computed
    obtain ⟨meanVariance, _, computed⟩ := bind_eq_ok.mp computed
    obtain ⟨spread, _, computed⟩ := bind_eq_ok.mp computed
    obtain ⟨outMean, _, computed⟩ := bind_eq_ok.mp computed
    obtain ⟨meanMean, _, computed⟩ := bind_eq_ok.mp computed
    obtain ⟨difference, _, computed⟩ := bind_eq_ok.mp computed
    obtain ⟨offset, _, computed⟩ := bind_eq_ok.mp computed
    obtain ⟨total, _, computed⟩ := bind_eq_ok.mp computed
    obtain ⟨scale, _, computed⟩ := bind_eq_ok.mp computed
    obtain ⟨number, _, computed⟩ := bind_eq_ok.mp computed
    cases computed
    exact .inverseGamma (-0.5) number

/-- The call that registers a mean-field rule. -/
def meanFieldRegistration (entry : String × Implementation × Int × MessageType) : Registration where
  id := entry.1
  kind := .text "GaussianNode"
  slot := .whole entry.2.2.1
  inbound := [.any, .any]
  outbound := .typed entry.2.2.2
  category := .approximate
  approximation := some (.named "MeanField")

theorem addMeanField_fitted {library : Library} (fitted : library.Fitted)
    {entry : String × Implementation × Int × MessageType} (closed : entry.2.2.2.params = [])
    (typed : AlwaysOf entry.2.2.2 entry.2.1) :
    (addMeanField library entry).Fitted := by
  have added : addMeanField library entry
      = library.after (meanFieldRegistration entry) entry.2.1 := rfl
  rw [added]
  refine fitted.after fun type same => ?_
  cases same
  intro network key assignment arriving type values marginals chosen fills handed
  have fixed : type = entry.2.2.2 := chosen.yields.trans (MessageType.under_closed closed)
  constructor
  · intro value computed
    rw [fixed]
    exact typed _ _ _ value computed
  · intro impossible
    cases impossible

theorem foldl_addMeanField_fitted {entries : List (String × Implementation × Int × MessageType)}
    (closed : ∀ entry ∈ entries, entry.2.2.2.params = [])
    (typed : ∀ entry ∈ entries, AlwaysOf entry.2.2.2 entry.2.1) {library : Library}
    (fitted : library.Fitted) : (entries.foldl addMeanField library).Fitted := by
  induction entries generalizing library with
  | nil => exact fitted
  | cons entry rest ih =>
      have here := addMeanField_fitted fitted (closed entry List.mem_cons_self)
        (typed entry List.mem_cons_self)
      exact ih (fun other member => closed other (List.mem_cons_of_mem entry member))
        (fun other member => typed other (List.mem_cons_of_mem entry member)) here

/-! ### The library -/

theorem library_fitted : library.Fitted := by
  have empty : Library.Fitted {} :=
    ⟨Catalog.built_coherent [], fun _ member => (List.not_mem_nil member).elim⟩
  have gaussian := foldl_addExact_fitted gaussianSignatures_safe empty
  have approximate := foldl_addMeanField_fitted meanFieldSignatures_closed
    meanFieldSignatures_alwaysOf gaussian
  refine foldl_addExact_fitted ?_ approximate
  intro entry member
  rcases List.mem_append.mp member with early | equality
  · rcases List.mem_append.mp early with gain | addition
    · exact gainSignatures_safe entry gain
    · exact additionSignatures_safe entry addition
  · exact equalitySignatures_safe entry equality

end SumProduct.Bundled
