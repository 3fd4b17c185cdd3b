/-
Message types are read back from what is printed.

A type is legible if its parts can be told apart in the printed form: the name of the family is a word, the
names of free parameters hold no separator and do not look like numbers, and integers are not too long for a
numeral.  Reading gives legible types only, and it gives a legible type back from its printed form.  So
printing what has been read gives a normal form, however oddly it was written before.
-/

import Mathlib.Algebra.Ring.Int.Defs
import Mathlib.Algebra.Ring.Nat
import Mathlib.Data.List.DropRight
import SumProduct.MessageType
import SumProduct.Proofs.Partial

set_option autoImplicit false

namespace SumProduct

open Partial (bind_eq_ok map_eq_ok mapM_eq_ok)
open Text (isWord isBlank isDigit trimBlanks splitAt joinWith decimalValue?)

/-! ### Characters -/

namespace Text

theorem isWord_apart_ascii : ∀ code < 128, isWord (Char.ofNat code) = true →
    isBlank (Char.ofNat code) = false := by decide +kernel

theorem wordRanges_apart : ∀ word ∈ wordRanges, ∀ blank ∈ blankRanges,
    word.2 < blank.1 ∨ blank.2 < word.1 := by decide +kernel

theorem isBlank_of_isWord {c : Char} (word : isWord c = true) : isBlank c = false := by
  by_cases ascii : c.toNat < 128
  · have apart := isWord_apart_ascii c.toNat ascii
    rw [Char.ofNat_toNat] at apart
    exact apart word
  · rw [isWord, if_neg ascii, inRanges, List.any_eq_true] at word
    rw [isBlank, if_neg ascii, inRanges, List.any_eq_false]
    obtain ⟨range, listed, within⟩ := word
    intro blank member
    have apart := wordRanges_apart range listed blank member
    simp only [Bool.and_eq_true, decide_eq_true_eq] at within ⊢
    omega

theorem digit_bounds {c : Char} (digit : c.isDigit = true) : 48 ≤ c.toNat ∧ c.toNat ≤ 57 := by
  simpa [Char.isDigit, UInt32.le_iff_toNat_le] using digit

theorem isDigit_of_ascii {c : Char} (digit : c.isDigit = true) :
    isDigit c = true ∧ isBlank c = false ∧ decimalValue? c = some (c.toNat - 48) := by
  have bounds := digit_bounds digit
  have ascii : c.toNat < 128 := by omega
  have word : isWord c = true := by
    rw [isWord, if_pos ascii, Char.isAlphanum, digit, Bool.or_true, Bool.true_or]
  exact ⟨by rw [isDigit, if_pos ascii, digit], isBlank_of_isWord word,
    by rw [decimalValue?, if_pos ascii, if_pos digit]⟩

theorem decimalValue?_lt {c : Char} {value : Nat} (valued : decimalValue? c = some value) :
    value < 10 := by
  unfold decimalValue? at valued
  split at valued
  · split at valued
    · rename_i digit
      have bounds := digit_bounds digit
      cases valued
      omega
    · cases valued
  · obtain ⟨first, found, same⟩ := Option.map_eq_some_iff.mp valued
    have within := List.find?_some found
    simp only [Bool.and_eq_true, decide_eq_true_eq] at within
    omega

/-! ### Trimming and splitting -/

theorem trimBlanks_eq (text : List Char) :
    trimBlanks text = List.rdropWhile isBlank (text.dropWhile isBlank) := rfl

theorem mem_of_mem_trimBlanks {text : List Char} {c : Char} (member : c ∈ trimBlanks text) : c ∈ text :=
  (List.dropWhile_sublist isBlank).subset
    ((List.rdropWhile_prefix isBlank (text.dropWhile isBlank)).subset member)

theorem trimBlanks_trimBlanks (text : List Char) : trimBlanks (trimBlanks text) = trimBlanks text := by
  have front : (trimBlanks text).dropWhile isBlank = trimBlanks text := by
    rw [List.dropWhile_eq_self_iff]
    intro positive
    have first := List.IsPrefix.getElem (List.rdropWhile_prefix isBlank (text.dropWhile isBlank)) positive
    have nonempty : text.dropWhile isBlank ≠ [] := by
      intro nothing
      simp [trimBlanks_eq, nothing] at positive
    have visible := List.head_dropWhile_not isBlank nonempty
    rw [List.head_eq_getElem] at visible
    change ¬ isBlank (List.rdropWhile isBlank (text.dropWhile isBlank))[0] = true
    rw [first, visible]
    exact Bool.false_ne_true
  rw [trimBlanks_eq (trimBlanks text), front, trimBlanks_eq, List.rdropWhile_idempotent]

theorem trimBlanks_of_visible {text : List Char} (visible : ∀ c ∈ text, isBlank c = false) :
    trimBlanks text = text := by
  have front : text.dropWhile isBlank = text := by
    rw [List.dropWhile_eq_self_iff]
    intro positive
    rw [visible _ (List.getElem_mem positive)]
    exact Bool.false_ne_true
  rw [trimBlanks_eq, front, List.rdropWhile_eq_self_iff]
  intro nonempty
  rw [visible _ (List.getLast_mem nonempty)]
  exact Bool.false_ne_true

theorem trimBlanks_cons_blank {c : Char} (blank : isBlank c = true) (text : List Char) :
    trimBlanks (c :: text) = trimBlanks text := by
  rw [trimBlanks_eq, List.dropWhile_cons_of_pos blank, trimBlanks_eq]

theorem trimBlanks_ne_nil {text : List Char} {c : Char} (member : c ∈ text) (visible : isBlank c = false) :
    trimBlanks text ≠ [] := by
  intro nothing
  rw [trimBlanks_eq, List.rdropWhile_eq_nil_iff] at nothing
  have left : text.dropWhile isBlank = [] := by
    by_contra nonempty
    have first := nothing _ (List.head_mem nonempty)
    rw [List.head_dropWhile_not isBlank nonempty] at first
    cases first
  have blank := List.dropWhile_eq_nil_iff.mp left c member
  rw [visible] at blank
  cases blank

theorem splitAt_ne_nil (separator : Char) (text : List Char) : splitAt separator text ≠ [] := by
  cases text with
  | nil => exact List.cons_ne_nil _ _
  | cons c rest =>
      rw [splitAt]
      split
      · exact List.cons_ne_nil _ _
      · split
        · exact List.cons_ne_nil _ _
        · exact List.cons_ne_nil _ _

theorem splitAt_cons_of_ne {separator c : Char} (different : c ≠ separator) {text piece : List Char}
    {pieces : List (List Char)} (split : splitAt separator text = piece :: pieces) :
    splitAt separator (c :: text) = (c :: piece) :: pieces := by
  rw [splitAt, if_neg different, split]

theorem splitAt_append {separator : Char} {piece : List Char} (apart : separator ∉ piece)
    (text : List Char) :
    splitAt separator (piece ++ separator :: text) = piece :: splitAt separator text := by
  induction piece with
  | nil => rw [List.nil_append, splitAt, if_pos rfl]
  | cons c piece ih =>
      obtain ⟨different, apart⟩ := List.ne_and_not_mem_of_not_mem_cons apart
      exact splitAt_cons_of_ne (Ne.symm different) (ih apart)

theorem splitAt_of_not_mem {separator : Char} {piece : List Char} (apart : separator ∉ piece) :
    splitAt separator piece = [piece] := by
  induction piece with
  | nil => rfl
  | cons c piece ih =>
      obtain ⟨different, apart⟩ := List.ne_and_not_mem_of_not_mem_cons apart
      exact splitAt_cons_of_ne (Ne.symm different) (ih apart)

/-- The pieces hold no separator, and nothing that is not in the text. -/
theorem mem_splitAt {separator : Char} {text piece : List Char} (member : piece ∈ splitAt separator text) :
    separator ∉ piece ∧ ∀ c ∈ piece, c ∈ text := by
  induction text generalizing piece with
  | nil =>
      rw [List.mem_singleton.mp member]
      exact ⟨List.not_mem_nil, fun _ impossible => impossible⟩
  | cons c rest ih =>
      have later : ∀ {other}, other ∈ splitAt separator rest →
          separator ∉ other ∧ ∀ d ∈ other, d ∈ c :: rest :=
        fun listed => ⟨(ih listed).1, fun d there => List.mem_cons_of_mem c ((ih listed).2 d there)⟩
      by_cases here : c = separator
      · rw [splitAt, if_pos here] at member
        rcases List.mem_cons.mp member with rfl | listed
        · exact ⟨List.not_mem_nil, fun _ impossible => nomatch impossible⟩
        · exact later listed
      · obtain ⟨first, others, split⟩ := List.exists_cons_of_ne_nil (splitAt_ne_nil separator rest)
        rw [splitAt_cons_of_ne here split] at member
        rw [split] at later
        rcases List.mem_cons.mp member with rfl | listed
        · obtain ⟨apart, within⟩ := later List.mem_cons_self
          exact ⟨List.not_mem_cons_of_ne_of_not_mem (Ne.symm here) apart,
            List.forall_mem_cons.mpr ⟨List.mem_cons_self, within⟩⟩
        · exact later (List.mem_cons_of_mem _ listed)

theorem splitAt_singleton {separator : Char} {text piece : List Char}
    (single : splitAt separator text = [piece]) : piece = text := by
  induction text generalizing piece with
  | nil =>
      cases single
      rfl
  | cons c rest ih =>
      by_cases here : c = separator
      · rw [splitAt, if_pos here] at single
        exact absurd (List.tail_eq_of_cons_eq single) (splitAt_ne_nil separator rest)
      · obtain ⟨first, others, split⟩ := List.exists_cons_of_ne_nil (splitAt_ne_nil separator rest)
        rw [splitAt_cons_of_ne here split, List.cons.injEq] at single
        obtain ⟨rfl, rfl⟩ := single
        rw [ih split]

/-- Splitting at the separators between neighbours undoes joining, up to the blanks after them. -/
theorem splitAt_joinWith {texts : List String} (nonempty : texts ≠ [])
    (apart : ∀ text ∈ texts, ',' ∉ text.toList) :
    (splitAt ',' (joinWith ", " texts).toList).map trimBlanks
      = texts.map fun text => trimBlanks text.toList := by
  induction texts with
  | nil => exact absurd rfl nonempty
  | cons text rest ih =>
      have here := apart text List.mem_cons_self
      cases rest with
      | nil => rw [joinWith, splitAt_of_not_mem here, List.map_singleton, List.map_singleton]
      | cons next rest =>
          have later := ih (List.cons_ne_nil next rest)
            fun other member => apart other (List.mem_cons_of_mem text member)
          have opened : (joinWith ", " (text :: next :: rest)).toList
              = text.toList ++ ',' :: ' ' :: (joinWith ", " (next :: rest)).toList := by
            rw [joinWith, String.toList_append, String.toList_append, List.append_assoc]
            · rfl
            · exact List.cons_ne_nil next rest
          obtain ⟨first, others, split⟩ :=
            List.exists_cons_of_ne_nil (splitAt_ne_nil ',' (joinWith ", " (next :: rest)).toList)
          rw [split, List.map_cons] at later
          rw [opened, splitAt_append here, splitAt_cons_of_ne (by decide) split, List.map_cons,
            List.map_cons, trimBlanks_cons_blank (by decide), later]
          rfl

end Text

/-! ### Integers -/

namespace Number

def IsShort (value : Int) : Prop := (Nat.toDigits 10 value.natAbs).length ≤ longestNumeral

instance (value : Int) : Decidable (IsShort value) := inferInstanceAs (Decidable (_ ≤ _))

theorem isShort_iff {value : Int} : IsShort value ↔ value.natAbs < 10 ^ longestNumeral :=
  Nat.length_toDigits_le_iff (by decide) (by decide)

theorem not_isShort_pow {exponent : Nat} (long : longestNumeral ≤ exponent) : ¬ IsShort (10 ^ exponent) := by
  have magnitude : (10 ^ exponent : Int).natAbs = 10 ^ exponent := Int.natAbs_pow 10 exponent
  rw [isShort_iff, magnitude, Nat.not_lt]
  exact Nat.pow_le_pow_right (by decide) long

theorem toList_integerText (value : Int) : (integerText value).toList
    = (if value < 0 then ['-'] else []) ++ Nat.toDigits 10 value.natAbs := String.toList_ofList

theorem isDigit_of_mem_toDigits {number : Nat} {c : Char} (member : c ∈ Nat.toDigits 10 number) :
    c.isDigit = true :=
  Nat.isDigit_of_mem_toDigits (by decide) (by decide) member

theorem mem_integerText {value : Int} {c : Char} (member : c ∈ (integerText value).toList) :
    c = '-' ∨ c.isDigit = true := by
  rw [toList_integerText] at member
  rcases List.mem_append.mp member with sign | digit
  · split at sign
    · exact Or.inl (List.mem_singleton.mp sign)
    · cases sign
  · exact Or.inr (isDigit_of_mem_toDigits digit)

theorem takeSign_integerText (value : Int) :
    takeSign (integerText value).toList = (decide (value < 0), Nat.toDigits 10 value.natAbs) := by
  rw [toList_integerText]
  by_cases negative : value < 0
  · rw [if_pos negative, decide_eq_true negative]
    rfl
  · rw [if_neg negative, decide_eq_false negative, List.nil_append]
    unfold takeSign
    split
    · rename_i rest digits
      have digit := isDigit_of_mem_toDigits (digits ▸ List.mem_cons_self)
      cases digit
    · rename_i rest digits
      have digit := isDigit_of_mem_toDigits (digits ▸ List.mem_cons_self)
      cases digit
    · rfl

theorem decimalsValue?_digits {digits : List Char} (plain : ∀ c ∈ digits, c.isDigit = true) :
    decimalsValue? digits = some (Nat.ofDigitChars 10 digits 0) := by
  unfold decimalsValue?
  -- `before` is the value of the digits that have been read already
  generalize 0 = before
  induction digits generalizing before with
  | nil => rfl
  | cons c rest ih =>
      obtain ⟨_, _, valued⟩ := Text.isDigit_of_ascii (plain c List.mem_cons_self)
      rw [List.foldlM_cons, valued, Option.map_some, Option.bind_eq_bind, Option.bind_some,
        ih fun other member => plain other (List.mem_cons_of_mem c member)]
      rfl

theorem decimalsValue?_lt {digits : List Char} {value : Nat} (valued : decimalsValue? digits = some value) :
    value < 10 ^ digits.length := by
  -- each digit multiplies the bound by ten, whatever was read before it
  have general : ∀ before, digits.foldlM (fun value c => (decimalValue? c).map (10 * value + ·)) before
      = some value → value < (before + 1) * 10 ^ digits.length := by
    clear valued
    induction digits with
    | nil =>
        rintro before ⟨⟩
        simp
    | cons c rest ih =>
        intro before valued
        rw [List.foldlM_cons] at valued
        obtain ⟨next, here, later⟩ := Option.bind_eq_some_iff.mp valued
        obtain ⟨digit, found, rfl⟩ := Option.map_eq_some_iff.mp here
        have single := Text.decimalValue?_lt found
        calc value < (10 * before + digit + 1) * 10 ^ rest.length := ih _ later
          _ ≤ ((before + 1) * 10) * 10 ^ rest.length := Nat.mul_le_mul_right _ (by omega)
          _ = (before + 1) * 10 ^ (c :: rest).length := by
              rw [List.length_cons, Nat.pow_succ, Nat.mul_assoc, Nat.mul_comm 10]
  have bound := general 0 valued
  rwa [Nat.zero_add, Nat.one_mul] at bound

theorem readInteger?_integerText {value : Int} (short : IsShort value) :
    readInteger? (integerText value).toList = some value := by
  have digits : decimalsValue? (Nat.toDigits 10 value.natAbs) = some value.natAbs := by
    rw [decimalsValue?_digits fun c member => isDigit_of_mem_toDigits member,
      Nat.ofDigitChars_toDigits (by decide) (by decide)]
  have accepted : ((Nat.toDigits 10 value.natAbs).isEmpty
      || decide (longestNumeral < (Nat.toDigits 10 value.natAbs).length)) = false := by
    rw [Bool.or_eq_false_iff, List.isEmpty_eq_false_iff, decide_eq_false_iff_not]
    exact ⟨Nat.toDigits_ne_nil, Nat.not_lt.mpr short⟩
  rw [readInteger?, takeSign_integerText]
  simp only [accepted, Bool.false_eq_true, if_false, digits, Option.bind_eq_bind, Option.bind_some,
    Option.pure_def, Option.map_some, decide_eq_true_eq, Option.some.injEq]
  split
  · omega
  · omega

/-- Whatever is read as an integer has a decimal form that can be read again. -/
theorem isShort_of_readInteger? {text : List Char} {value : Int} (read : readInteger? text = some value) :
    IsShort value := by
  unfold readInteger? at read
  simp only at read
  split at read
  · cases read
  · rename_i accepted
    obtain ⟨_, found, same⟩ := Option.map_eq_some_iff.mp read
    obtain ⟨number, valued, ⟨⟩⟩ := Option.bind_eq_some_iff.mp found
    rw [Bool.or_eq_true, not_or, decide_eq_true_eq, Nat.not_lt] at accepted
    have magnitude : value.natAbs = number := by
      split at same
      · omega
      · omega
    rw [isShort_iff, magnitude]
    exact Nat.lt_of_lt_of_le (decimalsValue?_lt valued) (Nat.pow_le_pow_right (by decide) accepted.2)

end Number

/-! ### Parameters -/

namespace MessageType

def isDigitRun (piece : List Char) : Bool :=
  let digits := piece.dropWhile (· == '-')
  !digits.isEmpty && digits.all isDigit

/-- A name that can be told from an integer and from what stands around it. -/
structure IsName (name : String) : Prop where
  comma : ',' ∉ name.toList
  brace : closeBrace ∉ name.toList
  trimmed : trimBlanks name.toList = name.toList
  named : isDigitRun name.toList = false

theorem readParam_eq (piece : List Char) : readParam piece
    = if isDigitRun piece = true then
        match Number.readInteger? piece with
        | some value => .ok (.number value)
        | none => .error .badNumeral
      else .ok (.free (String.ofList piece)) := rfl

theorem isDigitRun_integerText (value : Int) :
    isDigitRun (Number.integerText value).toList = true := by
  have digits : (Number.integerText value).toList.dropWhile (· == '-')
      = Nat.toDigits 10 value.natAbs := by
    have unsigned : (Nat.toDigits 10 value.natAbs).dropWhile (· == '-')
        = Nat.toDigits 10 value.natAbs := by
      rw [List.dropWhile_eq_self_iff]
      intro positive sign
      have digit := Number.isDigit_of_mem_toDigits (List.getElem_mem positive)
      rw [beq_iff_eq.mp sign] at digit
      cases digit
    rw [Number.toList_integerText]
    split
    · exact unsigned
    · exact unsigned
  have plain : (Nat.toDigits 10 value.natAbs).all isDigit = true :=
    List.all_eq_true.mpr fun c member =>
      (Text.isDigit_of_ascii (Number.isDigit_of_mem_toDigits member)).1
  rw [isDigitRun, digits, plain, Bool.and_true, Bool.not_eq_true', List.isEmpty_eq_false_iff]
  exact Nat.toDigits_ne_nil

end MessageType

open MessageType

def Param.IsLegible : Param → Prop
  | .number value => Number.IsShort value
  | .free name => IsName name

theorem Param.IsLegible.read {param : Param} (legible : param.IsLegible) :
    readParam param.text.toList = .ok param := by
  cases param with
  | number value =>
      rw [Param.text, readParam_eq, if_pos (isDigitRun_integerText value),
        Number.readInteger?_integerText legible]
  | free name =>
      have named : ¬ isDigitRun name.toList = true := by
        rw [legible.named]
        exact Bool.false_ne_true
      rw [Param.text, readParam_eq, if_neg named, String.ofList_toList]

/-- What separates parameters does not occur in the printed form of one, nor blanks around it. -/
theorem Param.IsLegible.text_apart {param : Param} (legible : param.IsLegible) :
    ',' ∉ param.text.toList ∧ closeBrace ∉ param.text.toList ∧
      trimBlanks param.text.toList = param.text.toList := by
  cases param with
  | free name => exact ⟨legible.comma, legible.brace, legible.trimmed⟩
  | number value =>
      rw [Param.text]
      refine ⟨fun member => ?_, fun member => ?_, Text.trimBlanks_of_visible fun c member => ?_⟩
      · rcases Number.mem_integerText member with impossible | impossible <;> cases impossible
      · rcases Number.mem_integerText member with impossible | impossible <;> cases impossible
      · rcases Number.mem_integerText member with rfl | digit
        · rfl
        · exact (Text.isDigit_of_ascii digit).2.1

theorem Param.isLegible_of_read {piece : List Char} {param : Param} (comma : ',' ∉ piece)
    (brace : closeBrace ∉ piece) (read : readParam (trimBlanks piece) = .ok param) :
    param.IsLegible := by
  rw [readParam_eq] at read
  split at read
  · split at read
    · rename_i value found
      cases read
      exact Number.isShort_of_readInteger? found
    · cases read
  · rename_i named
    cases read
    have same : (String.ofList (trimBlanks piece)).toList = trimBlanks piece := String.toList_ofList
    constructor
    · rw [same]
      exact fun member => comma (Text.mem_of_mem_trimBlanks member)
    · rw [same]
      exact fun member => brace (Text.mem_of_mem_trimBlanks member)
    · rw [same]
      exact Text.trimBlanks_trimBlanks piece
    · rw [same]
      exact Bool.eq_false_iff.mpr named

/-! ### Types -/

namespace MessageType

/-- The parts of the type can be told apart in its printed form.  A single parameter without a name is not
shown: nothing between the braces means no parameters. -/
structure IsLegible (type : MessageType) : Prop where
  family : type.family.toList ≠ []
  word : ∀ c ∈ type.family.toList, isWord c = true
  params : ∀ param ∈ type.params, param.IsLegible
  shown : type.params ≠ [.free ""]

section Params

variable {params : List Param} {body : List Char}

def paramsText (params : List Param) : List Char := (joinWith ", " (params.map Param.text)).toList

theorem closeBrace_not_mem_paramsText (legible : ∀ param ∈ params, param.IsLegible) :
    closeBrace ∉ paramsText params := by
  unfold paramsText
  induction params with
  | nil => exact List.not_mem_nil
  | cons param rest ih =>
      have here := (legible param List.mem_cons_self).text_apart.2.1
      have later := ih fun other member => legible other (List.mem_cons_of_mem param member)
      cases rest with
      | nil => exact here
      | cons next rest =>
          rw [List.map_cons, List.map_cons, joinWith, String.toList_append, String.toList_append]
          · intro member
            rcases List.mem_append.mp member with front | back
            · rcases List.mem_append.mp front with first | separator
              · exact here first
              · exact absurd separator (by decide)
            · exact later back
          · exact List.cons_ne_nil _ _

theorem paramsText_shown (nonempty : params ≠ []) (legible : ∀ param ∈ params, param.IsLegible)
    (shown : params ≠ [.free ""]) : trimBlanks (paramsText params) ≠ [] := by
  match params with
  | [] => exact absurd rfl nonempty
  | [param] =>
      have trimmed := (legible param List.mem_cons_self).text_apart.2.2
      rw [paramsText, List.map_singleton, joinWith, trimmed]
      intro nothing
      cases param with
      | free name =>
          have unnamed : name = "" := String.toList_eq_nil_iff.mp nothing
          exact shown (by rw [unnamed])
      | number value =>
          rw [Param.text, Number.toList_integerText] at nothing
          exact Nat.toDigits_ne_nil (List.append_eq_nil_iff.mp nothing).2
  | param :: next :: rest =>
      -- between two parameters a separator is printed, which trimming leaves
      have separator : ',' ∈ paramsText (param :: next :: rest) := by
        rw [paramsText, List.map_cons, List.map_cons, joinWith, String.toList_append,
          String.toList_append]
        · exact List.mem_append_left _ (List.mem_append_right _ (by decide))
        · exact List.cons_ne_nil _ _
      exact Text.trimBlanks_ne_nil separator (by decide)

theorem readParams_paramsText (nonempty : params ≠ []) (legible : ∀ param ∈ params, param.IsLegible)
    (shown : params ≠ [.free ""]) : readParams (paramsText params) = .ok params := by
  have visible : ¬ (trimBlanks (paramsText params)).isEmpty = true := by
    rw [List.isEmpty_iff]
    exact paramsText_shown nonempty legible shown
  have apart : ∀ text ∈ params.map Param.text, ',' ∉ text.toList := by
    intro text member
    obtain ⟨param, listed, rfl⟩ := List.mem_map.mp member
    exact (legible param listed).text_apart.1
  have pieces := Text.splitAt_joinWith (List.map_eq_nil_iff.not.mpr nonempty) apart
  rw [List.map_map] at pieces
  have each : ∀ param ∈ params, readParam (trimBlanks param.text.toList) = .ok param := by
    intro param member
    rw [(legible param member).text_apart.2.2]
    exact (legible param member).read
  -- the blank behind each separator is removed before a parameter is read
  have trimmedFirst : (splitAt ',' (paramsText params)).mapM (fun piece => readParam (trimBlanks piece))
      = ((splitAt ',' (paramsText params)).map trimBlanks).mapM readParam := by
    rw [List.mapM_map]
    rfl
  rw [readParams, if_neg visible, trimmedFirst, paramsText, pieces, List.mapM_map, mapM_eq_ok,
    List.forall₂_same]
  exact each

theorem isLegible_of_readParams (brace : closeBrace ∉ body) (read : readParams body = .ok params) :
    (∀ param ∈ params, param.IsLegible) ∧ params ≠ [.free ""] := by
  unfold readParams at read
  split at read
  · cases read
    exact ⟨fun _ impossible => (List.not_mem_nil impossible).elim, nofun⟩
  · rename_i visible
    have each := mapM_eq_ok.mp read
    constructor
    · intro param member
      obtain ⟨piece, listed, found⟩ := Partial.exists_of_mem_right each member
      obtain ⟨comma, within⟩ := Text.mem_splitAt listed
      exact Param.isLegible_of_read comma (fun there => brace (within _ there)) found
    -- a single nameless parameter would be all of a body that is blank, which means no parameters
    · rintro rfl
      obtain ⟨piece, rest, found, nothing, split⟩ := List.forall₂_cons_right_iff.mp each
      cases nothing
      have whole := Text.splitAt_singleton split
      subst whole
      rw [readParam_eq] at found
      split at found
      · split at found
        · cases found
        · cases found
      · have empty := Param.free.inj (Except.ok.inj found)
        rw [String.ofList_eq_empty_iff] at empty
        rw [empty] at visible
        exact visible rfl

end Params

section Reading

variable {type : MessageType}

def tailText (type : MessageType) : List Char :=
  if type.params.isEmpty then [] else openBrace :: (paramsText type.params ++ [closeBrace])

theorem toList_text (type : MessageType) : type.text.toList = type.family.toList ++ type.tailText := by
  rw [text, tailText]
  split
  · rw [List.append_nil]
  · simp [paramsText, String.toList_append]

theorem readTail_tailText (legible : type.IsLegible) : readTail type.tailText = .ok type.params := by
  rw [tailText]
  split
  · rename_i empty
    rw [List.isEmpty_iff.mp empty]
    rfl
  · rename_i nonempty
    rw [List.isEmpty_iff] at nonempty
    have apart : ∀ c ∈ paramsText type.params, (c != closeBrace) = true := by
      intro c member
      rw [bne_iff_ne]
      rintro rfl
      exact closeBrace_not_mem_paramsText legible.params member
    rw [readTail, if_pos rfl, List.dropWhile_append_of_pos apart, List.takeWhile_append_of_pos apart]
    simp only [List.dropWhile, List.takeWhile, bne_self_eq_false, List.all_nil, if_true, List.append_nil]
    exact readParams_paramsText nonempty legible.params legible.shown

theorem readTail_inv {tail : List Char} {params : List Param} (read : readTail tail = .ok params) :
    params = [] ∨ ∃ body, closeBrace ∉ body ∧ readParams body = .ok params := by
  unfold readTail at read
  split at read
  · cases read
    exact Or.inl rfl
  · rename_i c rest
    split at read
    · split at read
      · cases read
      · split at read
        · refine Or.inr ⟨_, fun member => ?_, read⟩
          have within := List.mem_takeWhile_imp member
          rw [bne_self_eq_false] at within
          cases within
        · cases read
    · cases read

/-- A legible type is read back from its printed form. -/
theorem read_text (legible : type.IsLegible) : read type.text = .ok type := by
  obtain ⟨c, letters, family⟩ := List.exists_cons_of_ne_nil legible.family
  have visible : isBlank c = false :=
    Text.isBlank_of_isWord (legible.word c (family ▸ List.mem_cons_self))
  have front : (type.family.toList ++ type.tailText).dropWhile isBlank
      = type.family.toList ++ type.tailText := by
    rw [family, List.cons_append, List.dropWhile_cons_of_neg]
    rw [visible]
    exact Bool.false_ne_true
  have ends : type.tailText.takeWhile isWord = [] ∧ type.tailText.dropWhile isWord = type.tailText ∧
      type.tailText.dropWhile isBlank = type.tailText := by
    rw [tailText]
    split
    · exact ⟨rfl, rfl, rfl⟩
    · have brace : isWord openBrace = false ∧ isBlank openBrace = false := by decide +kernel
      simp only [List.takeWhile, List.dropWhile, brace, and_self]
  have nonempty : ¬ type.family.toList.isEmpty = true := by
    rw [List.isEmpty_iff]
    exact legible.family
  rw [read, toList_text, readList]
  simp only [front, List.takeWhile_append_of_pos legible.word, List.dropWhile_append_of_pos legible.word,
    ends, List.append_nil, nonempty, readTail_tailText legible, Partial.map_ok, String.ofList_toList]
  rfl

theorem isLegible_of_read {text : String} (found : read text = .ok type) : type.IsLegible := by
  unfold read readList at found
  simp only at found
  split at found
  · cases found
  · rename_i nonempty
    obtain ⟨params, tail, rfl⟩ := map_eq_ok.mp found
    have word : ∀ c ∈ (text.toList.dropWhile isBlank).takeWhile isWord, isWord c = true :=
      fun c member => List.mem_takeWhile_imp member
    have family : (String.ofList ((text.toList.dropWhile isBlank).takeWhile isWord)).toList
        = (text.toList.dropWhile isBlank).takeWhile isWord := String.toList_ofList
    have legible : (∀ param ∈ params, param.IsLegible) ∧ params ≠ [.free ""] := by
      rcases readTail_inv tail with rfl | ⟨body, brace, inside⟩
      · exact ⟨fun _ impossible => (List.not_mem_nil impossible).elim, nofun⟩
      · exact isLegible_of_readParams brace inside
    constructor
    · rw [family]
      exact fun nothing => nonempty (List.isEmpty_iff.mpr nothing)
    · rw [family]
      exact word
    · exact legible.1
    · exact legible.2

theorem read_text_iff : read type.text = .ok type ↔ type.IsLegible :=
  ⟨isLegible_of_read, read_text⟩

/-- The family is a word, and the names of free parameters are names. -/
structure IsWellNamed (type : MessageType) : Prop where
  family : type.family ≠ ""
  word : ∀ c ∈ type.family.toList, isWord c = true
  names : ∀ name, .free name ∈ type.params → name ≠ "" ∧ IsName name

theorem IsWellNamed.isLegible_iff (named : type.IsWellNamed) :
    type.IsLegible ↔ ∀ value, .number value ∈ type.params → Number.IsShort value := by
  constructor
  · exact fun legible value member => legible.params _ member
  · intro short
    refine ⟨fun nothing => named.family (String.toList_eq_nil_iff.mp nothing), named.word, ?_, ?_⟩
    · intro param member
      cases param with
      | number value => exact short value member
      | free name => exact (named.names name member).2
    · intro single
      exact (named.names "" (by rw [single]; exact List.mem_singleton_self _)).1 rfl

/-- A well-named type is read back from its printed form exactly if no integer in it is too long for a
numeral; and whatever has been read, from any text, is read back from its printed form. -/
theorem printed_types_read_back :
    (∀ type : MessageType, type.IsWellNamed →
      (read type.text = .ok type ↔ ∀ value, .number value ∈ type.params → Number.IsShort value)) ∧
    ∀ text type, read text = .ok type → read type.text = .ok type :=
  ⟨fun _ named => read_text_iff.trans named.isLegible_iff, fun _ _ found => read_text (isLegible_of_read found)⟩

end Reading

/-- Names with a blank, a brace and a minus sign inside, and an umlaut in the family. -/
def oddlyNamed : MessageType := ⟨"Gr\u00fc\u00dfe_1", [.number (-12), .free "a \x7bb- c", .free "-"]⟩

theorem oddlyNamed_isWellNamed : oddlyNamed.IsWellNamed := by
  have word : oddlyNamed.family.toList.all isWord = true := by decide +kernel
  refine ⟨by decide, List.all_eq_true.mp word, ?_⟩
  intro name member
  simp only [oddlyNamed, List.mem_cons, Param.free.injEq, reduceCtorEq, List.not_mem_nil, false_or,
    or_false] at member
  rcases member with rfl | rfl
  · exact ⟨by decide, by decide, by decide, by decide +kernel, by decide +kernel⟩
  · exact ⟨by decide, by decide, by decide, by decide +kernel, by decide +kernel⟩

/-- Blanks, a missing parameter, leading zeros and a minus sign before digits of another script. -/
theorem printed_types_read_back_odd :
    read oddlyNamed.text = .ok oddlyNamed ∧
    read " F \x7b 007, ,-\u0663 \x7d" = .ok ⟨"F", [.number 7, .free "", .number (-3)]⟩ ∧
    read (text ⟨"F", [.number 7, .free "", .number (-3)]⟩)
      = .ok ⟨"F", [.number 7, .free "", .number (-3)]⟩ := by
  have accepted : read " F \x7b 007, ,-\u0663 \x7d" = .ok ⟨"F", [.number 7, .free "", .number (-3)]⟩ := by
    decide +kernel
  have short : ∀ value, .number value ∈ oddlyNamed.params → Number.IsShort value := by
    intro value member
    simp only [oddlyNamed, List.mem_cons, Param.number.injEq, reduceCtorEq, List.not_mem_nil,
      or_false] at member
    rw [member]
    decide
  exact ⟨(printed_types_read_back.1 oddlyNamed oddlyNamed_isWellNamed).mpr short, accepted,
    printed_types_read_back.2 _ _ accepted⟩

/-- A well-named type is not read back from its text if an integer in it has more digits than a numeral
may have. -/
theorem long_integer_not_read_back :
    IsWellNamed ⟨"F", [.number (10 ^ 4300)]⟩ ∧
    read (text ⟨"F", [.number (10 ^ 4300)]⟩) ≠ .ok ⟨"F", [.number (10 ^ 4300)]⟩ := by
  have named : ∀ value, IsWellNamed ⟨"F", [.number value]⟩ := by
    intro value
    have word : "F".toList.all isWord = true := by decide
    refine ⟨show "F" ≠ "" by decide, List.all_eq_true.mp word, ?_⟩
    intro name member
    cases List.mem_singleton.mp member
  have long : ¬ Number.IsShort (10 ^ 4300) := Number.not_isShort_pow (Nat.le_refl 4300)
  refine ⟨named _, fun found => ?_⟩
  have legible : Param.IsLegible (.number (10 ^ 4300)) :=
    (isLegible_of_read found).params _ List.mem_cons_self
  exact long legible

end MessageType

end SumProduct
