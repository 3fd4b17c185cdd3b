/-
The bundled rules.

* Gaussian factors with a known variance, in one and several dimensions, and mean-field rules that
  read the marginals on the other edges.
* Fixed gains: a matrix times the arriving message forward, its pseudo-inverse backward.  Messages
  in one dimension need a gain with a single entry.
* Sums and differences of independent quantities.
* Equality: the product of the two arriving messages.
-/

import SumProduct.Rules.Library
import SumProduct.Tensor.PseudoInverse

set_option autoImplicit false

namespace SumProduct.Bundled

/-! ### Calling conventions -/

def absentAttribute {α : Type} : Except Fault α := .error (.lapsed .missingAttribute)

/-- A property of an arriving message; other values have no properties. -/
def property (moment : Message → Except Fault (Quantity Float)) : Value →
    Except Fault (Quantity Float)
  | .message message => moment message
  | _ => absentAttribute

def isPoint : Value → Bool
  | .message message => message.isPointMass
  | _ => false

/-- An exact rule with one arriving message. -/
def unary (rule : Site → Value → Except Fault Message) : Implementation
  | site, [value], none => (rule site value).map .message
  | _, _, _ => .error (.lapsed .wrongType)

/-- An exact rule with two arriving messages. -/
def binary (rule : Site → Value → Value → Except Fault Message) : Implementation
  | site, [left, right], none => (rule site left right).map .message
  | _, _, _ => .error (.lapsed .wrongType)

/-- An approximate rule, which reads marginals instead of its two arriving messages. -/
def meanField (rule : Site → Marginals → Except Fault Message) : Implementation
  | site, [_, _], some marginals => (rule site marginals).map .message
  | _, _, _ => .error (.lapsed .wrongType)

/-! ### Gaussian factors -/

/-- A Gaussian around the mean of `center`, its spread enlarged by the value of `known`. -/
def spreadBy (center known : Value) : Except Fault Message := do
  let mean ← property Distribution.mean center
  let spread ← property Distribution.variance center
  let extra ← property Distribution.held known
  Distribution.gaussianLike mean (← spread.add extra)

def gaussianOut : Implementation := binary fun _ mean variance => spreadBy mean variance

def gaussianMean : Implementation := binary fun _ variance out => spreadBy out variance

/-- The marginal of the variable on a slot of the node. -/
def marginalAt (site : Site) (marginals : Marginals) (slot : Nat) : Except Fault Message := do
  let node ← site.node
  match node.interfaces[slot]? with
  | none => throw (.lapsed .outOfRange)
  | some interface =>
    match interface.edge.map fun key => (site.network.edge key).carried with
    | none => throw (.refused (.unconnected node.text interface.name.plain))
    | some (.stray _) => absentAttribute
    | some (.variable key) =>
      let id := (site.network.var key).id
      match marginals.get? id with
      | none => throw (.refused (.marginalMissing node.text id.literal))
      | some value => value.toMessage

/-- A Gaussian whose variance is the reciprocal of an expected precision. -/
def meanFieldGaussian (center scale : Message) : Except Fault Message := do
  let mean ← center.mean
  let variance ← Quantity.div (.scalar 1.0) (← scale.inverseMean)
  return .gaussian (← mean.single) (← variance.single)

def meanFieldOut : Implementation := meanField fun site marginals => do
  let mean ← marginalAt site marginals 0
  let variance ← marginalAt site marginals 1
  meanFieldGaussian mean variance

def meanFieldMean : Implementation := meanField fun site marginals => do
  let variance ← marginalAt site marginals 1
  let out ← marginalAt site marginals 2
  meanFieldGaussian out variance

/-- The square of a quantity; a finite number whose square is out of range is an overflow. -/
def square : Quantity Float → Except Fault (Quantity Float)
  | .scalar x =>
    let result := Float.pow x 2.0
    if Number.isFinite x && !Number.isFinite result then .error (.lapsed .overflow)
    else .ok (.scalar result)
  | .array tensor => .ok (.array (tensor.map fun x => x * x))

def meanFieldVariance : Implementation := meanField fun site marginals => do
  let mean ← marginalAt site marginals 0
  let out ← marginalAt site marginals 2
  let spread ← (← out.variance).add (← mean.variance)
  let offset ← square (← (← out.mean).sub (← mean.mean))
  let scale ← Quantity.mul (.scalar 0.5) (← spread.add offset)
  return .inverseGamma (-0.5) (← scale.single)

/-! ### Fixed gains -/

/-- The only entry of the gain; larger gains do not act on messages in one dimension. -/
def scalarGain (node : Node) : Except Fault Float := do
  let gain ← node.gain
  if gain.shape = [1, 1] then return gain.get 0
  else throw (.refused (.univariateGain node.text gain.shape))

def gainPoint : Implementation := unary fun site message => do
  let gain ← scalarGain (← site.node)
  return .pointMass (← Quantity.mul (.scalar gain) (← property Distribution.held message))

def gainGaussian : Implementation := unary fun site message => do
  let gain ← scalarGain (← site.node)
  let mean ← Quantity.mul (.scalar gain) (← property Distribution.locationField message)
  let variance ← Quantity.mul (.scalar (gain * gain)) (← property Distribution.spreadField message)
  return .gaussian (← mean.single) (← variance.single)

def gainPointBack : Implementation := unary fun site message => do
  let value ← property Distribution.held message
  return .pointMass (← value.div (.scalar (← scalarGain (← site.node))))

def gainGaussianBack : Implementation := unary fun site message => do
  let gain ← scalarGain (← site.node)
  let mean ← (← property Distribution.locationField message).div (.scalar gain)
  let variance ← (← property Distribution.spreadField message).div (.scalar (gain * gain))
  return .gaussian (← mean.single) (← variance.single)

/-- A matrix times an array; numbers cannot be multiplied by a matrix. -/
def times (matrix : Tensor Float) (quantity : Quantity Float) : Except Fault (Tensor Float) :=
  matrix.product quantity.toTensor

def mapPoint (matrix : Tensor Float) (message : Value) : Except Fault Message := do
  return .pointMass (.array (← times matrix (← property Distribution.held message)))

/-- The image of a Gaussian under a linear map. -/
def mapGaussian (matrix : Tensor Float) (message : Value) : Except Fault Message := do
  let mean ← times matrix (← property Distribution.locationField message)
  let half ← times matrix (← property Distribution.spreadField message)
  let covariance ← half.product
    (matrix.transpose ((matrix.shape[0]?).getD 0) ((matrix.shape[1]?).getD 0))
  return .mvGaussian (← MvGaussian.ofTensors mean covariance)

def gainMvPoint : Implementation := unary fun site message => do
  mapPoint (← (← site.node).gain) message

def gainMvGaussian : Implementation := unary fun site message => do
  mapGaussian (← (← site.node).gain) message

def gainMvPointBack : Implementation := unary fun site message => do
  mapPoint (← (← (← site.node).gain).pseudoInverse) message

def gainMvGaussianBack : Implementation := unary fun site message => do
  mapGaussian (← (← (← site.node).gain).pseudoInverse) message

/-! ### Addition -/

/-- A point mass if both terms are point masses, a Gaussian otherwise. -/
def combined (point : Bool) (mean variance : Quantity Float) : Except Fault Message :=
  if point then .ok (.pointMass mean) else Distribution.gaussianLike mean variance

def sum : Implementation := binary fun _ first second => do
  let mean ← (← property Distribution.mean first).add (← property Distribution.mean second)
  let variance ← (← property Distribution.variance first).add (← property Distribution.variance second)
  combined (isPoint first && isPoint second) mean variance

def difference : Implementation := binary fun _ other out => do
  let mean ← (← property Distribution.mean out).sub (← property Distribution.mean other)
  let variance ← (← property Distribution.variance out).add (← property Distribution.variance other)
  combined (isPoint other && isPoint out) mean variance

/-! ### Equality -/

/-- The product of two values, each taken as a message. -/
def valueProduct (left right : Value) : Except Fault Message := do
  let first ← left.toMessage
  let second ← right.toMessage
  first.multiply second

def equalityProduct : Implementation := binary fun _ left right => valueProduct left right

/-! ### The library -/

/-- A rule with what it computes, before it is registered. -/
structure Signature where
  id : String
  implementation : Implementation
  kind : String
  slot : Int
  inbound : List MessageType
  outbound : MessageType
  requires : List (String × Int) := []

def named (stem : String) (implementation : Implementation) (kind : String) (slot : Int)
    (inbound : List MessageType) (outbound : MessageType)
    (requires : List (String × Int)) : Signature :=
  ⟨ruleName stem (inbound.map .typed), implementation, kind, slot, inbound, outbound, requires⟩

open MessageType in
/-- Exact rules of Gaussian factors.  In several dimensions the covariance is a square matrix of
the dimension of the mean. -/
def gaussianSignatures : List Signature :=
  let n : Param := .free "N"
  let matrix := matrixPointMass n n
  let out := fun mean variance result =>
    named "gaussian_out_sp" gaussianOut "GaussianNode" 2 [mean, variance] result []
  let back := fun variance out result =>
    named "gaussian_mean_sp" gaussianMean "GaussianNode" 0 [variance, out] result []
  [out pointMass pointMass gaussian, out gaussian pointMass gaussian,
   back pointMass pointMass gaussian, back pointMass gaussian gaussian,
   out (mvPointMass n) matrix (mvGaussian n), out (mvGaussian n) matrix (mvGaussian n),
   back matrix (mvPointMass n) (mvGaussian n), back matrix (mvGaussian n) (mvGaussian n)]

open MessageType in
/-- Rules of fixed gains.  The dimension of the outbound message is read off the matrix. -/
def gainSignatures : List Signature :=
  let n : Param := .free "dims_n"
  let m : Param := .free "dims_m"
  let single : List (String × Int) := [("dims_n", 1), ("dims_m", 1)]
  let forward := fun implementation arriving result requires =>
    named "fixed_gain_out_sp" implementation "FixedGainNode" 1 [arriving] result requires
  let backward := fun implementation arriving result requires =>
    named "fixed_gain_in_sp" implementation "FixedGainNode" 0 [arriving] result requires
  [forward gainPoint pointMass pointMass single,
   forward gainGaussian gaussian gaussian single,
   forward gainMvPoint (mvPointMass m) (mvPointMass n) [],
   forward gainMvGaussian (mvGaussian m) (mvGaussian n) [],
   backward gainPointBack pointMass pointMass single,
   backward gainGaussianBack gaussian gaussian single,
   backward gainMvPointBack (mvPointMass n) (mvPointMass m) [],
   backward gainMvGaussianBack (mvGaussian n) (mvGaussian m) []]

/-- Point masses and Gaussians in one dimension and in several. -/
def pointGaussianPairs : List (MessageType × MessageType) :=
  [(.pointMass, .gaussian), (.mvPointMass (.free "N"), .mvGaussian (.free "N"))]

/-- Rules of addition: the result is a point mass only for two point masses. -/
def additionSignatures : List Signature :=
  pointGaussianPairs.flatMap fun pair =>
    [pair.1, pair.2].flatMap fun first =>
      [pair.1, pair.2].flatMap fun second =>
        let result := if first = pair.1 ∧ second = pair.1 then pair.1 else pair.2
        [named "addition_out_sp" sum "AdditionNode" 2 [first, second] result [],
         named "addition_in1_sp" difference "AdditionNode" 0 [first, second] result [],
         named "addition_in2_sp" difference "AdditionNode" 1 [first, second] result []]

/-- Families with a product, and the family of the product. -/
def productFamilies : List (MessageType × MessageType × MessageType) :=
  (pointGaussianPairs.flatMap fun pair =>
    [(pair.2, pair.2, pair.2), (pair.1, pair.2, pair.1), (pair.2, pair.1, pair.1),
     (pair.1, pair.1, pair.1)])
  ++ [(.gamma, .gamma, .gamma), (.inverseGamma, .inverseGamma, .inverseGamma)]

def equalitySignatures : List Signature :=
  [("equality_a_sp", 0), ("equality_b_sp", 1), ("equality_c_sp", 2)].flatMap fun slot =>
    productFamilies.map fun signature =>
      named slot.1 equalityProduct "EqualityNode" slot.2 [signature.1, signature.2.1]
        signature.2.2 []

def addExact (library : Library) (entry : Signature) : Library :=
  (library.add entry.id entry.implementation (.text entry.kind) (.whole entry.slot)
    (entry.inbound.map fun type => some (.typed type)) (some (.typed entry.outbound)) .exact none
    (entry.requires.map fun pair => .parameter pair.1 pair.2)).2

/-- Adds a mean-field rule, which accepts any arriving messages. -/
def addMeanField (library : Library) (entry : String × Implementation × Int × MessageType) :
    Library :=
  (library.add entry.1 entry.2.1 (.text "GaussianNode") (.whole entry.2.2.1) [some .any, some .any]
    (some (.typed entry.2.2.2)) .approximate (some (.named "MeanField")) []).2

def meanFieldSignatures : List (String × Implementation × Int × MessageType) :=
  [("gaussian_out_mf", meanFieldOut, 2, .gaussian), ("gaussian_mean_mf", meanFieldMean, 0, .gaussian),
   ("gaussian_variance_mf", meanFieldVariance, 1, .inverseGamma)]

/-- The library of bundled rules, in their fixed order. -/
def library : Library :=
  let gaussian := gaussianSignatures.foldl addExact {}
  let approximate := meanFieldSignatures.foldl addMeanField gaussian
  (gainSignatures ++ additionSignatures ++ equalitySignatures).foldl addExact approximate

end SumProduct.Bundled
