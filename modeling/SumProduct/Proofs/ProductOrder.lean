/-
Products of two messages in either order.

A sum of two numbers does not depend on their order, and the families are multiplied by sums, so a product of
messages that are not both points is the same in either order, or fails in either order.  The tolerance of two
points is measured against the second one: a product of points may exist in one order only, and then the
marginal on an edge between them depends on which end was given first.
-/

import SumProduct.Proofs.Operations
import SumProduct.Proofs.Refusals
import SumProduct.Program.Emission
import SumProduct.Program.Machine

set_option autoImplicit false

namespace SumProduct

open Partial (bind_eq_ok)

/-! ### Sums of numbers -/

namespace Number

open Float.Model (Format UnpackedFloat)

theorem unpacked_add_comm (format : Format) (left right : UnpackedFloat) :
    UnpackedFloat.add format left right = UnpackedFloat.add format right left := by
  cases left with
  | notANumber =>
      cases right with
      | notANumber | infinity | zero | finite => rfl
  | infinity sign =>
      cases right with
      | infinity other =>
          cases sign with
          | positive | negative => cases other with | positive | negative => rfl
      | notANumber | zero | finite => rfl
  | zero sign =>
      cases right with
      | zero other =>
          cases sign with
          | positive | negative => cases other with | positive | negative => rfl
      | notANumber | infinity | finite => rfl
  | finite sign mantissa exponent =>
      cases right with
      | finite other otherMantissa otherExponent =>
          show UnpackedFloat.normalize format
              (sign.apply (UnpackedFloat.decreaseExponent mantissa exponent (min exponent otherExponent)).1
                + other.apply
                  (UnpackedFloat.decreaseExponent otherMantissa otherExponent (min exponent otherExponent)).1)
              (min exponent otherExponent) .positive = _
          rw [Int.min_comm exponent otherExponent, Int.add_comm]
          rfl
      | notANumber | infinity | zero => rfl

theorem float_add_comm (x y : Float) : x + y = y + x :=
  congrArg (fun sum => Float.ofModel (Float.Model.pack sum)) (unpacked_add_comm _ _ _)

end Number

/-! ### Products -/

theorem Distribution.isPointMass_iff {α : Type} {message : Distribution α} :
    message.isPointMass = true ↔ ∃ value, message = pointMass value := by
  cases message with
  | pointMass value => exact iff_of_true rfl ⟨value, rfl⟩
  | gaussian | mvGaussian | gamma | inverseGamma | studentsT | bare =>
      exact iff_of_false Bool.false_ne_true fun found => nomatch found

section Swapped

variable {α : Type} [Scalar α] (commutes : ∀ x y : α, x + y = y + x)

include commutes

theorem Tensor.zipWith_add_swapped {left right : Tensor α} {shape : Shape} (first : left.shape = shape)
    (second : right.shape = shape) :
    Tensor.zipWith (· + ·) left right = Tensor.zipWith (· + ·) right left := by
  rw [Tensor.zipWith, Tensor.zipWith, first, second]
  simp only [commutes]

namespace Distribution

variable {left right product : Distribution α}

theorem gaussianProduct_swapped {meanA varianceA meanB varianceB : α}
    (made : gaussianProduct meanA varianceA meanB varianceB = .ok product) :
    gaussianProduct meanB varianceB meanA varianceA = .ok product := by
  unfold gaussianProduct at made ⊢
  obtain ⟨weightedA, atWeightedA, made⟩ := bind_eq_ok.mp made
  obtain ⟨weightedB, atWeightedB, made⟩ := bind_eq_ok.mp made
  obtain ⟨precisionA, atPrecisionA, made⟩ := bind_eq_ok.mp made
  obtain ⟨precisionB, atPrecisionB, made⟩ := bind_eq_ok.mp made
  rw [atWeightedB, atWeightedA, atPrecisionB, atPrecisionA]
  simp only [Partial.ok_bind]
  rw [commutes weightedB, commutes precisionB]
  exact made

theorem mvGaussianProduct_swapped {first second : MvGaussian α}
    (made : mvGaussianProduct first second = .ok product) : mvGaussianProduct second first = .ok product := by
  unfold mvGaussianProduct at made ⊢
  by_cases same : first.dims = second.dims
  · rw [if_neg (not_not.mpr same)] at made
    rw [if_neg (not_not.mpr same.symm)]
    obtain ⟨precisionA, atPrecisionA, made⟩ := bind_eq_ok.mp made
    obtain ⟨precisionB, atPrecisionB, made⟩ := bind_eq_ok.mp made
    obtain ⟨weightedA, atWeightedA, made⟩ := bind_eq_ok.mp made
    obtain ⟨weightedB, atWeightedB, made⟩ := bind_eq_ok.mp made
    have squareA := ((Tensor.shapeLaws α).inverse first.covariance_shape).held atPrecisionA
    have squareB := ((Tensor.shapeLaws α).inverse second.covariance_shape).held atPrecisionB
    obtain ⟨_, multipliedA, vectorA⟩ := (Tensor.shapeLaws α).vector squareA first.mean_shape
    obtain ⟨_, multipliedB, vectorB⟩ := (Tensor.shapeLaws α).vector squareB second.mean_shape
    cases atWeightedA.symm.trans multipliedA
    cases atWeightedB.symm.trans multipliedB
    rw [← same] at squareB vectorB
    rw [atPrecisionB, atPrecisionA]
    simp only [Partial.ok_bind, atWeightedA, atWeightedB]
    rw [Tensor.zipWith_add_swapped commutes vectorB vectorA, Tensor.zipWith_add_swapped commutes squareB squareA]
    exact made
  · rw [if_pos same] at made
    cases made

/-- A product of distributions that are not both points is the same in either order. -/
theorem multiply_swapped (spread : ¬ (left.isPointMass = true ∧ right.isPointMass = true))
    (made : multiply left right = .ok product) : multiply right left = .ok product := by
  cases left with
  | pointMass =>
      cases right with
      | pointMass => exact absurd ⟨rfl, rfl⟩ spread
      | gaussian | mvGaussian | gamma | inverseGamma | studentsT | bare => exact made
  | gaussian =>
      cases right with
      | gaussian => exact gaussianProduct_swapped commutes made
      | pointMass | studentsT => exact made
      | mvGaussian | gamma | inverseGamma | bare => cases made
  | mvGaussian =>
      cases right with
      | mvGaussian => exact mvGaussianProduct_swapped commutes made
      | pointMass => exact made
      | gaussian | gamma | inverseGamma | studentsT | bare => cases made
  | gamma shapeA rateA =>
      cases right with
      | gamma shapeB rateB =>
          rw [multiply] at made ⊢
          rw [commutes shapeB, commutes rateB]
          exact made
      | pointMass => exact made
      | gaussian | mvGaussian | inverseGamma | studentsT | bare => cases made
  | inverseGamma shapeA scaleA =>
      cases right with
      | inverseGamma shapeB scaleB =>
          rw [multiply] at made ⊢
          rw [commutes shapeB, commutes scaleB]
          exact made
      | pointMass => exact made
      | gaussian | mvGaussian | gamma | studentsT | bare => cases made
  | studentsT =>
      cases right with
      | pointMass | gaussian => exact made
      | mvGaussian | gamma | inverseGamma | studentsT | bare => cases made
  | bare =>
      cases right with
      | pointMass => exact made
      | gaussian | mvGaussian | gamma | inverseGamma | studentsT | bare => cases made

end Distribution

end Swapped

namespace Distribution

variable {α : Type} [Scalar α] {left right : Distribution α} {first second : Quantity α}

/-- The first point lies within the tolerance of the second one. -/
def nearby (first second : Quantity α) : Bool :=
  first.allPairs (Scalar.isClose (Scalar.pointTolerance : α × α).1 (Scalar.pointTolerance : α × α).2) second

/-- Two points, of which the first lies within the tolerance of the second, but not the other way round. -/
def IsOneSided (left right : Distribution α) : Prop :=
  ∃ first second, left = pointMass first ∧ right = pointMass second ∧
    nearby first second = true ∧ nearby second first = false

theorem multiply_points (first second : Quantity α) {product : Distribution α} :
    multiply (pointMass first) (pointMass second) = .ok product ↔
      nearby first second = true ∧ product = pointMass first := by
  show pointMassProduct first second = .ok product ↔ _
  unfold pointMassProduct nearby
  simp only
  split
  · rename_i near
    rw [Except.ok.injEq, eq_comm]
    exact (and_iff_right near).symm
  · rename_i far
    exact iff_of_false (fun impossible => nomatch impossible) fun both => far both.1

theorem nearby_shape (near : nearby first second = true) :
    (pointMass first).messageType = (pointMass second).messageType := by
  cases first with
  | scalar x =>
      cases second with
      | scalar y => rfl
      | array tensor => cases near
  | array tensor =>
      cases second with
      | scalar y => cases near
      | array other =>
          have same := beq_iff_eq.mp (Bool.and_eq_true_iff.mp near).1
          simp only [messageType, same]

/-- A product exists in one order only exactly where two points are close in one direction only. -/
theorem multiply_one_sided_iff (commutes : ∀ x y : α, x + y = y + x) :
    ((∃ product, multiply left right = .ok product) ∧ ¬ ∃ product, multiply right left = .ok product) ↔
      left.IsOneSided right := by
  constructor
  · rintro ⟨⟨product, made⟩, missing⟩
    by_cases points : left.isPointMass = true ∧ right.isPointMass = true
    · obtain ⟨first, rfl⟩ := isPointMass_iff.mp points.1
      obtain ⟨second, rfl⟩ := isPointMass_iff.mp points.2
      refine ⟨first, second, rfl, rfl, ((multiply_points first second).mp made).1, ?_⟩
      exact Bool.eq_false_iff.mpr fun near => missing ⟨_, (multiply_points second first).mpr ⟨near, rfl⟩⟩
    · exact absurd ⟨product, multiply_swapped commutes points made⟩ missing
  · rintro ⟨first, second, rfl, rfl, near, far⟩
    refine ⟨⟨_, (multiply_points first second).mpr ⟨near, rfl⟩⟩, ?_⟩
    rintro ⟨product, made⟩
    rw [((multiply_points second first).mp made).1] at far
    cases far

theorem multiply_swapped_messageType (commutes : ∀ x y : α, x + y = y + x) {product swapped : Distribution α}
    (made : multiply left right = .ok product) (madeToo : multiply right left = .ok swapped) :
    product.messageType = swapped.messageType := by
  by_cases points : left.isPointMass = true ∧ right.isPointMass = true
  · obtain ⟨first, rfl⟩ := isPointMass_iff.mp points.1
    obtain ⟨second, rfl⟩ := isPointMass_iff.mp points.2
    obtain ⟨near, rfl⟩ := (multiply_points first second).mp made
    obtain ⟨_, rfl⟩ := (multiply_points second first).mp madeToo
    exact nearby_shape near
  · cases madeToo.symm.trans (multiply_swapped commutes points made)
    rfl

end Distribution

/-! ### Edges whose ends were given in the other order -/

namespace Network

/-- The same variables carry the same edges, and each edge has the same ends, whichever was given first. -/
structure Turned (network turned : Network) : Prop where
  vars : turned.vars = network.vars
  ends : ∀ key, ((turned.edge key).first = (network.edge key).first ∧
      (turned.edge key).second = (network.edge key).second) ∨
    ((turned.edge key).first = (network.edge key).second ∧ (turned.edge key).second = (network.edge key).first)

theorem turned_withEdge (network : Network) (graph : GraphKey) (first second : Socket) (carried : VariableKey) :
    (network.withEdge graph first second carried).Turned (network.withEdge graph second first carried) := by
  refine ⟨rfl, fun key => ?_⟩
  rw [edge_withEdge, edge_withEdge]
  split
  · exact .inr ⟨rfl, rfl⟩
  · exact .inl ⟨rfl, rfl⟩

theorem CanJoin.turned {network : Network} {graph : GraphKey} {first second : Socket}
    (canJoin : network.CanJoin graph first second) : network.CanJoin graph second first :=
  ⟨canJoin.secondHome, canJoin.firstHome, canJoin.apart.symm, canJoin.secondFree, canJoin.firstFree⟩

end Network

namespace Build

variable {network between reached : Network} {graph : GraphKey} {first second : Socket}
  {request : CarryRequest} {carried : VariableKey} {key : EdgeKey}

theorem connect_joins (canJoin : network.CanJoin graph first second)
    (provided : provide graph request network = .ok (.variable carried) between) :
    Ensures (connect graph first second request) network
      (fun key reached => key = between.edges.size ∧ reached = between.withEdge graph first second carried)
      (fun _ => False) := by
  have carrying := provide_provides network graph request
  rw [Ensures, provided] at carrying
  have alike : ∀ socket, (between.withEdgeName graph).edgeAt? socket = network.edgeAt? socket :=
    Network.edgeAt_of_eq carrying.1.nodes_eq
  simp only [connect, checkOwner, ensures_bind, ensures_get, canJoin.firstHome,
    canJoin.secondHome, ne_eq, not_true_eq_false, if_false, ensures_pure]
  rw [Ensures, provided]
  refine (generateEdgeId_ensures between graph).imp ?_ (fun _ impossible => impossible.elim)
  rintro _ _ ⟨rfl, rfl⟩
  simp only [if_neg canJoin.apart, checkFree, ensures_bind, ensures_get, alike, canJoin.firstFree,
    canJoin.secondFree, Option.isSome_none, Bool.false_eq_true, if_false, ensures_pure, ensures_modify,
    attach]
  exact ⟨rfl, rfl⟩

/-- A connection is made whichever end is given first. -/
theorem connect_turned (joined : connect graph first second request network = .ok key reached) :
    ∃ turned, connect graph second first request network = .ok key turned ∧ reached.Turned turned := by
  have possible := connect_cases network graph first second request
  rw [Ensures, joined] at possible
  obtain ⟨canJoin, carried, between, provided, rfl, rfl⟩ := possible
  have other := connect_joins canJoin.turned provided
  rw [Ensures] at other
  cases result : connect graph second first request network with
  | error fault turned =>
      rw [result] at other
      exact other.elim
  | ok key turned =>
      rw [result] at other
      obtain ⟨rfl, rfl⟩ := other
      exact ⟨_, rfl, between.turned_withEdge graph first second carried⟩

end Build

/-! ### Marginals -/

theorem Emission.marginalInstruction_turned {network turned : Network} (turns : network.Turned turned)
    {slots : SocketIndex} {target : VariableKey} {instruction : Instruction}
    (emitted : marginalInstruction network slots target = .ok instruction) :
    marginalInstruction turned slots target = .ok instruction ∨
      ∃ name one two, instruction = .combineMarginal name one two ∧
        marginalInstruction turned slots target = .ok (.combineMarginal name two one) := by
  have same : turned.var target = network.var target := by rw [Network.var, Network.var, turns.vars]
  rw [marginalInstruction] at emitted ⊢
  rw [same]
  cases edges : (network.var target).edges with
  | nil =>
      simp only [edges] at emitted
      cases emitted
  | cons key others =>
      simp only [edges] at emitted ⊢
      split at emitted
      · rename_i first second atFirst atSecond
        cases emitted
        rcases turns.ends key with ⟨sameFirst, sameSecond⟩ | ⟨otherFirst, otherSecond⟩
        · refine .inl ?_
          rw [sameFirst, sameSecond]
          simp only [atFirst, atSecond]
        · refine .inr ⟨_, _, _, rfl, ?_⟩
          rw [otherFirst, otherSecond]
          simp only [atFirst, atSecond]
      · cases emitted

/-- What the store holds at a slot, taken as a message. -/
def MessageStore.Holds (store : MessageStore) (slot : Slot) (message : Message) : Prop :=
  ∃ value, store.get slot = .ok value ∧ value.toMessage = .ok message

namespace Machine

variable {machine : Machine} {data : Buffers} {store : MessageStore} {marginals : Marginals}

/-- The instruction does not end the run. -/
def Completes (machine : Machine) (data : Buffers) (store : MessageStore) (marginals : Marginals)
    (instruction : Instruction) : Prop :=
  ∃ after, (machine.step data store marginals instruction).store = .ok after

/-- A marginal exists exactly where both messages are there and have a product. -/
theorem combine_completes_iff (standard : machine.product = normalisedProduct) {name : Key} {one two : Slot} :
    machine.Completes data store marginals (.combineMarginal name one two) ↔
      ∃ left right, store.Holds one left ∧ store.Holds two right ∧
        ∃ product, left.multiply right = .ok product := by
  rw [Completes, step, standard]
  constructor
  · rintro ⟨after, completed⟩
    split at completed
    · cases completed
    · rename_i marginal combined
      obtain ⟨first, atOne, combined⟩ := bind_eq_ok.mp combined
      obtain ⟨second, atTwo, combined⟩ := bind_eq_ok.mp combined
      obtain ⟨product, multiplied, _⟩ := Partial.map_eq_ok.mp combined
      obtain ⟨left, readFirst, multiplied⟩ := bind_eq_ok.mp multiplied
      obtain ⟨right, readSecond, multiplied⟩ := bind_eq_ok.mp multiplied
      exact ⟨left, right, ⟨first, atOne, readFirst⟩, ⟨second, atTwo, readSecond⟩, product, multiplied⟩
  · rintro ⟨left, right, ⟨first, atOne, readFirst⟩, ⟨second, atTwo, readSecond⟩, product, multiplied⟩
    refine ⟨store, ?_⟩
    simp only [atOne, atTwo, Partial.ok_bind, normalisedProduct, Bundled.valueProduct, readFirst, readSecond,
      multiplied, Partial.map_ok]

/-- Of products and of the marginals on an edge: they exist in one order of the two messages only where these are
points that are close in one direction only.  Otherwise both orders give the same type, and the same product
unless both messages are points. -/
theorem product_in_either_order (left right : Message) :
    (((∃ product, left.multiply right = .ok product) ∧ ¬ ∃ product, right.multiply left = .ok product) ↔
      left.IsOneSided right) ∧
    (∀ product swapped : Message, left.multiply right = .ok product → right.multiply left = .ok swapped →
      product.messageType = swapped.messageType ∧
        (¬ (left.isPointMass = true ∧ right.isPointMass = true) → product = swapped)) ∧
    (∀ (network reached : Network) (graph : GraphKey) (first second : Socket) (request : Build.CarryRequest)
      (key : EdgeKey), Build.connect graph first second request network = .ok key reached →
        ∃ turned, Build.connect graph second first request network = .ok key turned ∧ reached.Turned turned) ∧
    ∀ (network turned : Network) (slots : SocketIndex) (target : VariableKey) (instruction : Instruction),
      network.Turned turned → Emission.marginalInstruction network slots target = .ok instruction →
        ∃ other, Emission.marginalInstruction turned slots target = .ok other ∧
          ∀ (machine : Machine) (data : Buffers) (store : MessageStore) (marginals : Marginals),
            machine.product = normalisedProduct → machine.Completes data store marginals instruction →
            ¬ machine.Completes data store marginals other →
            ∃ one two first second, store.Holds one first ∧ store.Holds two second ∧ first.IsOneSided second := by
  refine ⟨Distribution.multiply_one_sided_iff Number.float_add_comm, ?_,
    fun _ _ _ _ _ _ _ joined => Build.connect_turned joined, ?_⟩
  · intro product swapped made madeToo
    have same := Distribution.multiply_swapped_messageType Number.float_add_comm made madeToo
    refine ⟨same, fun spread => ?_⟩
    have turned := Distribution.multiply_swapped Number.float_add_comm spread made
    exact Except.ok.inj (turned.symm.trans madeToo)
  · intro network turned slots target instruction turns emitted
    rcases Emission.marginalInstruction_turned turns emitted with same | ⟨name, one, two, rfl, swapped⟩
    · exact ⟨instruction, same, fun _ _ _ _ _ completes fails => absurd completes fails⟩
    · refine ⟨_, swapped, fun machine data store marginals standard completes fails => ?_⟩
      obtain ⟨first, second, atOne, atTwo, made⟩ := (combine_completes_iff standard).mp completes
      refine ⟨one, two, first, second, atOne, atTwo, ?_⟩
      apply (Distribution.multiply_one_sided_iff Number.float_add_comm).mp
      refine ⟨made, fun madeToo => fails ?_⟩
      exact (combine_completes_iff standard).mpr ⟨second, first, atTwo, atOne, madeToo⟩

/-- The tolerance of the second point is the larger one here, and the distance lies between the two. -/
theorem near_points_one_sided :
    let lower : Message := .pointMass (.scalar 199999.0)
    let upper : Message := .pointMass (.scalar 200001.0)
    (∃ product, lower.multiply upper = .ok product) ∧ ¬ ∃ product, upper.multiply lower = .ok product := by
  refine ⟨⟨_, (Distribution.multiply_points _ _).mpr ⟨by decide +kernel, rfl⟩⟩, ?_⟩
  rintro ⟨product, made⟩
  have near := ((Distribution.multiply_points _ _).mp made).1
  revert near
  decide +kernel

end Machine

end SumProduct
