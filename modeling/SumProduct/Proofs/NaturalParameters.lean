/-
Products of many factors, over exact numbers.

The families have natural parameters, which products add up: for Gaussians the weighted mean and the precision,
to which a Student's t factor adds its curvature at the mode, and for the two gamma families the exponent and the
coefficient of their density.  The parameters determine the distribution.  So the product of a list is given by
sums over the list, and the order of its factors does not matter.
-/

import Mathlib.Algebra.BigOperators.Group.List.Basic
import Mathlib.Algebra.Order.Field.Rat
import Mathlib.Tactic.FieldSimp
import Mathlib.Tactic.Positivity
import Mathlib.Tactic.Ring
import SumProduct.Distribution.Product
import SumProduct.Proofs.Partial

set_option autoImplicit false

namespace SumProduct

namespace Distribution

/-! ### Natural parameters -/

/-- What a factor adds to the natural parameters of a product. -/
def natural : Distribution Rat → Rat × Rat
  | gaussian mean variance => (mean / variance, 1 / variance)
  | studentsT location precision freedom =>
    let curvature := precision * (freedom + 1) / freedom
    (curvature * location, curvature)
  | gamma shape rate => (shape - 1, rate)
  | inverseGamma shape scale => (shape + 1, scale)
  | pointMass _ | mvGaussian _ | bare => (0, 0)

/-- Gaussians with a positive variance. -/
inductive IsProper : Distribution Rat → Prop
  | gaussian (mean : Rat) {variance : Rat} (positive : 0 < variance) : IsProper (gaussian mean variance)

/-- Factors that sharpen a Gaussian: Gaussians and Student's t with positive parameters. -/
inductive IsBell : Distribution Rat → Prop
  | gaussian (mean : Rat) {variance : Rat} (positive : 0 < variance) : IsBell (gaussian mean variance)
  | studentsT (location : Rat) {precision freedom : Rat} (sharp : 0 < precision) (free : 0 < freedom) :
      IsBell (studentsT location precision freedom)

inductive IsGamma : Distribution Rat → Prop
  | gamma (shape rate : Rat) : IsGamma (gamma shape rate)

inductive IsInverseGamma : Distribution Rat → Prop
  | inverseGamma (shape scale : Rat) : IsInverseGamma (inverseGamma shape scale)

theorem IsProper.isBell {message : Distribution Rat} (proper : message.IsProper) : message.IsBell := by
  cases proper with
  | gaussian mean positive => exact .gaussian mean positive

theorem IsBell.natural_pos {factor : Distribution Rat} (bell : factor.IsBell) : 0 < factor.natural.2 := by
  cases bell with
  | gaussian mean positive => exact one_div_pos.mpr positive
  | studentsT location sharp free => exact div_pos (mul_pos sharp (by positivity)) free

/-! ### Families whose products add up -/

/-- Distributions that a product with a factor leads to again, given by their natural parameters. -/
structure AdditiveFamily where
  Member : Distribution Rat → Prop
  Factor : Distribution Rat → Prop
  ofNatural : Rat × Rat → Distribution Rat
  factor : ∀ {message}, Member message → Factor message
  ofNatural_natural : ∀ {message}, Member message → ofNatural message.natural = message
  product : ∀ {message factor}, Member message → Factor factor →
    ∃ product, multiply message factor = .ok product ∧ Member product ∧
      product.natural = message.natural + factor.natural

namespace AdditiveFamily

variable (family : AdditiveFamily) {first second : Distribution Rat} {factors others : List (Distribution Rat)}

/-- The fold adds up the natural parameters. -/
theorem fold (member : family.Member first) (each : ∀ factor ∈ factors, family.Factor factor) :
    ∃ product, factors.foldlM multiply first = .ok product ∧ family.Member product ∧
      product.natural = first.natural + (factors.map natural).sum := by
  induction factors generalizing first with
  | nil => exact ⟨first, rfl, member, by rw [List.map_nil, List.sum_nil, add_zero]⟩
  | cons factor rest ih =>
      obtain ⟨between, made, memberToo, added⟩ := family.product member (each factor List.mem_cons_self)
      obtain ⟨product, folded, proper, total⟩ :=
        ih memberToo fun other later => each other (List.mem_cons_of_mem factor later)
      refine ⟨product, ?_, proper, ?_⟩
      · rw [List.foldlM_cons, made, Partial.ok_bind]
        exact folded
      · rw [total, added, List.map_cons, List.sum_cons, add_assoc]

theorem fold_eq (member : family.Member first) (each : ∀ factor ∈ factors, family.Factor factor) :
    factors.foldlM multiply first
      = .ok (family.ofNatural (first.natural + (factors.map natural).sum)) := by
  obtain ⟨product, folded, proper, total⟩ := family.fold member each
  rw [folded, ← total, family.ofNatural_natural proper]

theorem fold_perm (member : family.Member first) (memberToo : family.Member second)
    (each : ∀ factor ∈ factors, family.Factor factor) (reordered : (first :: factors).Perm (second :: others)) :
    factors.foldlM multiply first = others.foldlM multiply second := by
  have eachToo : ∀ factor ∈ others, family.Factor factor := by
    intro factor listed
    rcases List.mem_cons.mp (reordered.mem_iff.mpr (List.mem_cons_of_mem second listed)) with rfl | earlier
    · exact family.factor member
    · exact each factor earlier
  have total := (reordered.map natural).sum_eq
  rw [List.map_cons, List.map_cons, List.sum_cons, List.sum_cons] at total
  rw [family.fold_eq member each, family.fold_eq memberToo eachToo, total]

theorem fold_perm_members (each : ∀ message ∈ first :: factors, family.Member message)
    (reordered : (first :: factors).Perm (second :: others)) :
    factors.foldlM multiply first = others.foldlM multiply second :=
  family.fold_perm (each first List.mem_cons_self) (each second (reordered.mem_iff.mpr List.mem_cons_self))
    (fun factor later => family.factor (each factor (List.mem_cons_of_mem first later))) reordered

end AdditiveFamily

/-! ### Gaussians and Student's t -/

theorem divide_rat (x : Rat) {y : Rat} (nonzero : y ≠ 0) : Scalar.divide x y = .ok (x / y) :=
  if_neg fun zero => nonzero (beq_iff_eq.mp zero)

theorem one_divide_rat {y : Rat} (nonzero : y ≠ 0) : Scalar.divide 1 y = .ok (1 / y) := divide_rat 1 nonzero

theorem gaussianOfPrecision_rat (weighted : Rat) {precision : Rat} (positive : 0 < precision) :
    gaussianOfPrecision weighted precision = .ok (gaussian (weighted / precision) (1 / precision)) := by
  have nonzero := ne_of_gt positive
  rw [gaussianOfPrecision, divide_rat weighted nonzero, Partial.ok_bind, one_divide_rat nonzero, Partial.ok_bind]
  rfl

theorem IsProper.weightedMean_eq {message : Distribution Rat} (proper : message.IsProper) :
    message.weightedMean = .ok (.scalar message.natural.1) := by
  cases proper with
  | gaussian mean positive =>
      rw [weightedMean, divide_rat mean (ne_of_gt positive)]
      rfl

theorem IsProper.precision_eq {message : Distribution Rat} (proper : message.IsProper) :
    message.precision = .ok (.scalar message.natural.2) := by
  cases proper with
  | gaussian mean positive =>
      rw [precision, one_divide_rat (ne_of_gt positive)]
      rfl

/-- A product with a bell is the Gaussian of the sums. -/
theorem multiply_bell (mean : Rat) {variance : Rat} (positive : 0 < variance) {factor : Distribution Rat}
    (bell : factor.IsBell) :
    multiply (gaussian mean variance) factor
      = gaussianOfPrecision (mean / variance + factor.natural.1) (1 / variance + factor.natural.2) := by
  have nonzero := ne_of_gt positive
  cases bell with
  | gaussian other positiveToo =>
      have nonzeroToo := ne_of_gt positiveToo
      rw [multiply, gaussianProduct, divide_rat mean nonzero, divide_rat other nonzeroToo, one_divide_rat nonzero,
        one_divide_rat nonzeroToo]
      rfl
  | @studentsT location precision freedom sharp free =>
      have curved : Scalar.divide (precision * (freedom + 1)) freedom = .ok (precision * (freedom + 1) / freedom) :=
        divide_rat _ (ne_of_gt free)
      rw [multiply, gaussianStudentsT, curved, divide_rat mean nonzero, one_divide_rat nonzero]
      rfl

theorem natural_ofPrecision (weighted : Rat) {precision : Rat} (positive : 0 < precision) :
    natural (gaussian (weighted / precision) (1 / precision)) = (weighted, precision) := by
  have nonzero := ne_of_gt positive
  have first : weighted / precision / (1 / precision) = weighted := by field_simp
  have second : 1 / (1 / precision) = precision := one_div_one_div precision
  rw [natural, first, second]

/-- Gaussians take up Gaussians and Student's t. -/
def gaussians : AdditiveFamily where
  Member := IsProper
  Factor := IsBell
  ofNatural total := gaussian (total.1 / total.2) (1 / total.2)
  factor := IsProper.isBell
  ofNatural_natural := by
    rintro _ ⟨mean, positive⟩
    have nonzero := ne_of_gt positive
    simp only [natural, one_div_one_div]
    field_simp
  product := by
    rintro _ factor ⟨mean, positive⟩ bell
    have sharper := add_pos (one_div_pos.mpr positive) bell.natural_pos
    refine ⟨_, (multiply_bell mean positive bell).trans (gaussianOfPrecision_rat _ sharper),
      .gaussian _ (one_div_pos.mpr sharper), natural_ofPrecision _ sharper⟩

/-! ### Gamma families -/

def gammas : AdditiveFamily where
  Member := IsGamma
  Factor := IsGamma
  ofNatural total := gamma (total.1 + 1) total.2
  factor := id
  ofNatural_natural := by
    rintro _ ⟨shape, rate⟩
    rw [natural, sub_add_cancel]
  product := by
    rintro _ _ ⟨shape, rate⟩ ⟨other, coefficient⟩
    have added : shape + other - 1 - 1 = shape - 1 + (other - 1) := by ring
    exact ⟨_, rfl, .gamma _ _, Prod.ext added rfl⟩

def inverseGammas : AdditiveFamily where
  Member := IsInverseGamma
  Factor := IsInverseGamma
  ofNatural total := inverseGamma (total.1 - 1) total.2
  factor := id
  ofNatural_natural := by
    rintro _ ⟨shape, scale⟩
    rw [natural, add_sub_cancel_right]
  product := by
    rintro _ _ ⟨shape, scale⟩ ⟨other, coefficient⟩
    have added : shape + other + 1 + 1 = shape + 1 + (other + 1) := by ring
    exact ⟨_, rfl, .inverseGamma _ _, Prod.ext added rfl⟩

/-! ### Products of lists -/

/-- Sums of natural parameters of which the first is a parameter itself, moved by some offset. -/
theorem natural_sum_moved {make : Rat × Rat → Distribution Rat} {offset : Rat}
    (moved : ∀ pair, (make pair).natural = (pair.1 + offset, pair.2)) (pairs : List (Rat × Rat)) :
    ((pairs.map make).map natural).sum
      = ((pairs.map Prod.fst).sum + pairs.length * offset, (pairs.map Prod.snd).sum) := by
  induction pairs with
  | nil => exact Prod.ext (by simp) rfl
  | cons head rest ih =>
      simp only [List.map_cons, List.sum_cons, ih, moved, List.length_cons, Prod.mk_add_mk, Nat.cast_succ]
      rw [add_one_mul, add_add_add_comm, add_comm offset]

/-- Of distributions that are given by a moved parameter, all but one leave their offset in the product. -/
theorem AdditiveFamily.fold_moved (family : AdditiveFamily) (make : Rat × Rat → Distribution Rat) (offset : Rat)
    (member : ∀ pair, family.Member (make pair))
    (moved : ∀ pair, (make pair).natural = (pair.1 + offset, pair.2))
    (restored : ∀ total, family.ofNatural total = make (total.1 - offset, total.2))
    (head : Rat × Rat) (others : List (Rat × Rat)) :
    (others.map make).foldlM multiply (make head)
      = .ok (make ((head.1 :: others.map Prod.fst).sum + others.length * offset,
          (head.2 :: others.map Prod.snd).sum)) := by
  have each : ∀ factor ∈ others.map make, family.Factor factor := by
    intro factor listed
    obtain ⟨other, _, rfl⟩ := List.mem_map.mp listed
    exact family.factor (member other)
  have left : head.1 + offset + ((others.map Prod.fst).sum + others.length * offset) - offset
      = head.1 + (others.map Prod.fst).sum + others.length * offset := by ring
  rw [family.fold_eq (member head) each, natural_sum_moved moved, moved, restored]
  simp only [Prod.mk_add_mk, List.sum_cons, left]

/-- The products of lists by families: a Gaussian with any Gaussians and Student's t, gammas, and inverse gammas.
The left fold succeeds and is given by sums over the list, so it does not depend on the order. -/
theorem fold_order_independent :
    (∀ (mean variance : Rat) (factors : List (Distribution Rat)), 0 < variance →
      (∀ factor ∈ factors, factor.IsBell) →
      let total := ((gaussian mean variance :: factors).map natural).sum
      ∃ product, factors.foldlM multiply (gaussian mean variance) = .ok product ∧ 0 < total.2 ∧
        product = gaussian (total.1 / total.2) (1 / total.2) ∧
        product.weightedMean = .ok (.scalar total.1) ∧ product.precision = .ok (.scalar total.2)) ∧
    (∀ (shape rate : Rat) (others : List (Rat × Rat)),
      (others.map fun other => gamma other.1 other.2).foldlM multiply (gamma shape rate)
        = .ok (gamma ((shape :: others.map Prod.fst).sum - others.length) (rate :: others.map Prod.snd).sum)) ∧
    (∀ (shape scale : Rat) (others : List (Rat × Rat)),
      (others.map fun other => inverseGamma other.1 other.2).foldlM multiply (inverseGamma shape scale)
        = .ok (inverseGamma ((shape :: others.map Prod.fst).sum + others.length)
            (scale :: others.map Prod.snd).sum)) ∧
    (∀ first second factors others, IsProper first → IsProper second →
      (∀ factor ∈ factors, factor.IsBell) → (first :: factors).Perm (second :: others) →
      factors.foldlM multiply first = others.foldlM multiply second) ∧
    (∀ first second factors others, (∀ factor ∈ first :: factors, factor.IsGamma) →
      (first :: factors).Perm (second :: others) →
      factors.foldlM multiply first = others.foldlM multiply second) ∧
    (∀ first second factors others, (∀ factor ∈ first :: factors, factor.IsInverseGamma) →
      (first :: factors).Perm (second :: others) →
      factors.foldlM multiply first = others.foldlM multiply second) := by
  refine ⟨?_, ?_, ?_, ?_, ?_, ?_⟩
  · intro mean variance factors positive each total
    obtain ⟨product, folded, proper, added⟩ := gaussians.fold (.gaussian mean positive) each
    have same : product.natural = total := added
    refine ⟨product, folded, ?_⟩
    rw [← same]
    exact ⟨proper.isBell.natural_pos, (gaussians.ofNatural_natural proper).symm, proper.weightedMean_eq,
      proper.precision_eq⟩
  · intro shape rate others
    have folded := gammas.fold_moved (fun pair => gamma pair.1 pair.2) (-1)
      (fun pair => .gamma pair.1 pair.2) (fun pair => Prod.ext (sub_eq_add_neg _ _) rfl)
      (fun total => by rw [sub_neg_eq_add]; rfl) (shape, rate) others
    rw [mul_neg_one, ← sub_eq_add_neg] at folded
    exact folded
  · intro shape scale others
    have folded := inverseGammas.fold_moved (fun pair => inverseGamma pair.1 pair.2) 1
      (fun pair => .inverseGamma pair.1 pair.2) (fun pair => rfl) (fun total => rfl) (shape, scale) others
    rw [mul_one] at folded
    exact folded
  · exact fun first second factors others member memberToo each => gaussians.fold_perm member memberToo each
  · exact fun first second factors others => gammas.fold_perm_members
  · exact fun first second factors others => inverseGammas.fold_perm_members

end Distribution

end SumProduct
