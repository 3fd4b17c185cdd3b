/-
The lines of a rendered procedure.

A line begins with the slot or the marginal that it writes.  Behind it stands what is written: a buffer that is read,
a constant, the call of a rule or of an inner program, or a product.  Names are quoted and slots stand in brackets, so
that every part of a line is delimited and the parts can be told from the text; and no part holds a line break.
-/

import SumProduct.Program.Source
import SumProduct.Proofs.Quotation

set_option autoImplicit false

namespace SumProduct

open Text (IsVisible IsDelimited joinWith quote)

/-! ### Printable numbers and messages -/

namespace Number

theorem isVisible_digits {digits : List Char} (plain : ∀ c ∈ digits, c.isDigit = true) : IsVisible digits := by
  intro c member
  have bounds := Text.digit_bounds (plain c member)
  rw [Text.isPrintable, if_pos (by omega), Bool.and_eq_true, decide_eq_true_eq, decide_eq_true_eq]
  omega

theorem isVisible_digitsOf (number : Nat) : IsVisible (digitsOf number) :=
  isVisible_digits fun _ member => isDigit_of_mem_toDigits member

theorem isVisible_integerText (value : Int) : IsVisible (integerText value).toList := by
  rw [toList_integerText]
  apply IsVisible.append
  · split
    · decide
    · decide
  · exact isVisible_digitsOf value.natAbs

theorem isVisible_zeros (count : Nat) : IsVisible (List.replicate count '0') := by
  intro c member
  rw [List.eq_of_mem_replicate member]
  decide

section Decimals

variable {digits : List Char} {point : Int}

theorem isVisible_positional (visible : IsVisible digits) : IsVisible (positional digits point) := by
  unfold positional
  split
  · exact .cons (by decide) (.cons (by decide) ((isVisible_zeros _).append visible))
  split
  · exact (visible.append (isVisible_zeros _)).append (by decide)
  · refine .append (fun c member => visible c (List.mem_of_mem_take member)) (.cons (by decide) ?_)
    exact fun c member => visible c (List.mem_of_mem_drop member)

theorem isVisible_scientific (visible : IsVisible digits) : IsVisible (scientific digits point) := by
  have power : IsVisible (padZeros 2 (digitsOf (point - 1).natAbs)) :=
    (isVisible_zeros _).append (isVisible_digitsOf _)
  have sign : Text.isPrintable (if point - 1 < 0 then '-' else '+') = true := by
    split
    · decide
    · decide
  refine .append ?_ (.cons (by decide) (.cons sign power))
  split
  · decide
  · exact visible
  · obtain ⟨first, others⟩ := List.forall_mem_cons.mp visible
    exact .cons first (.cons (by decide) others)

end Decimals

theorem isVisible_text (x : Float) : IsVisible (text x).toList := by
  unfold text
  split
  · decide
  · split
    · decide
    · decide
  · rename_i negative mantissa exponent _
    have sign : IsVisible (if negative = true then ['-'] else []) := by
      split
      · decide
      · decide
    simp only
    split
    · rw [String.toList_ofList]
      exact sign.append (by decide)
    · rw [String.toList_ofList]
      apply sign.append
      unfold Decimal.text
      simp only
      split
      · exact isVisible_positional (isVisible_digitsOf _)
      · exact isVisible_scientific (isVisible_digitsOf _)

end Number

theorem Tensor.isVisible_literal (tensor : Tensor Float) : IsVisible tensor.literal.toList := by
  have block : ∀ (shape : Shape) (offset : Nat), IsVisible (assembleFrom (fun i => Number.text (tensor.get i))
      (fun items => "[" ++ joinWith ", " items ++ "]") shape offset).toList := by
    intro shape
    induction shape with
    | nil => exact fun offset => Number.isVisible_text _
    | cons extent rest ih =>
        intro offset
        rw [assembleFrom, String.toList_append, String.toList_append]
        refine .append (.append (by decide) (Text.isVisible_joinWith ?_)) (by decide)
        intro text member
        obtain ⟨i, _, rfl⟩ := List.mem_map.mp member
        exact ih _
  exact block tensor.shape 0

/-- A family name begins with a capital letter. -/
theorem Message.familyName_capital (message : Message) :
    message.familyName.toList.head?.any Char.isUpper = true ∧ IsVisible message.familyName.toList := by
  cases message
  all_goals
    simp only [Distribution.familyName]
    decide

theorem Message.isVisible_constructor (message : Message) : IsVisible message.constructor.toList := by
  have family := message.familyName_capital.2
  have names : ∀ field ∈ message.fields, IsVisible field.1.toList := by
    cases message with
    | bare => exact fun _ impossible => absurd impossible List.not_mem_nil
    | pointMass _ | gaussian _ _ | mvGaussian _ | gamma _ _ | inverseGamma _ _ | studentsT _ _ _ =>
        simp only [Distribution.fields, List.forall_mem_cons, List.not_mem_nil, false_implies, implies_true]
        decide
  rw [Message.constructor, Message.written, String.toList_append, String.toList_append, String.toList_append]
  refine .append (.append (family.append (by decide)) (Text.isVisible_joinWith ?_)) (by decide)
  intro text member
  obtain ⟨⟨name, quantity⟩, listed, rfl⟩ := List.mem_map.mp member
  rw [String.toList_append, String.toList_append]
  refine .append (.append (names _ listed) (by decide)) ?_
  cases quantity with
  | scalar value => exact Number.isVisible_text value
  | array tensor =>
      rw [String.toList_append, String.toList_append]
      exact .append (.append (by decide) tensor.isVisible_literal) (by decide)

/-! ### Slots -/

theorem Number.integerText_injective {one two : Int} (same : integerText one = integerText two) : one = two := by
  have signs := takeSign_integerText one
  rw [same, takeSign_integerText, Prod.mk.injEq] at signs
  obtain ⟨sign, digits⟩ := signs
  have magnitude := congrArg (Nat.ofDigitChars 10 · 0) digits
  simp only [Nat.ofDigitChars_toDigits (by decide : 1 < 10) (by decide : 10 ≤ 10)] at magnitude
  rw [decide_eq_decide] at sign
  omega

namespace Value

variable {value one two : Value}

/-- An integer, or a truth value, which counts as one. -/
def IsInteger (value : Value) : Prop := value.toIndex?.isSome = true

/-- An integer, or nothing at all. -/
def IsPlace (value : Value) : Prop := value = .absent ∨ value.IsInteger

theorem IsInteger.mem_plain (integer : value.IsInteger) {c : Char} (member : c ∈ value.plain.toList) :
    c = '-' ∨ c.isDigit = true ∨ c.isAlpha = true := by
  cases value with
  | flag held =>
      have letters : (flag held).plain.toList.all Char.isAlpha = true := by
        cases held
        · decide
        · decide
      exact .inr (.inr (List.all_eq_true.mp letters c member))
  | whole number => exact (Number.mem_integerText member).imp_right .inl
  | absent | real _ | text _ | list _ | record _ | array _ | message _ => cases integer

theorem flag_ne_whole (held : Bool) (number : Int) : (flag held).plain ≠ (whole number).plain := by
  intro same
  have letters : (flag held).plain.toList.any (fun c => c != '-' && !c.isDigit) = true := by
    cases held
    · decide
    · decide
  obtain ⟨c, member, letter⟩ := List.any_eq_true.mp letters
  rw [same] at member
  rcases Number.mem_integerText member with minus | decimal
  · rw [minus] at letter
    cases letter
  · rw [decimal, Bool.not_true, Bool.and_false] at letter
    cases letter

theorem IsInteger.plain_injective (first : one.IsInteger) (second : two.IsInteger)
    (same : one.plain = two.plain) : one = two := by
  cases one with
  | flag held =>
      cases two with
      | flag other =>
          have equal : ∀ held other : Bool, (flag held).plain = (flag other).plain → held = other := by decide
          exact congrArg flag (equal held other same)
      | whole number => exact absurd same (flag_ne_whole held number)
      | absent | real _ | text _ | list _ | record _ | array _ | message _ => cases second
  | whole number =>
      cases two with
      | flag held => exact absurd same.symm (flag_ne_whole held number)
      | whole other => exact congrArg whole (Number.integerText_injective same)
      | absent | real _ | text _ | list _ | record _ | array _ | message _ => cases second
  | absent | real _ | text _ | list _ | record _ | array _ | message _ => cases first

theorem isVisible_plain (integer : value.IsInteger) : IsVisible value.plain.toList := by
  cases value with
  | flag held =>
      cases held
      · decide
      · decide
  | whole number => exact Number.isVisible_integerText number
  | absent | real _ | text _ | list _ | record _ | array _ | message _ => cases integer

theorem isDelimited_integer : IsDelimited IsInteger fun value => value.plain.toList ++ [']'] := by
  apply IsDelimited.closed
  · intro value integer member
    have impossible := integer.mem_plain member
    revert impossible
    decide
  · intro one two first second same
    exact first.plain_injective second (String.toList_inj.mp same)

end Value

section Slots

variable {slot : Slot}

theorem toList_slotText (integer : slot.IsInteger) :
    (slotText slot).toList = "messages[".toList ++ (slot.plain.toList ++ [']']) := by
  have present : slot.isAbsent = false := by
    cases slot with
    | absent => cases integer
    | flag _ | whole _ | real _ | text _ | list _ | record _ | array _ | message _ => rfl
  rw [slotText, present, if_neg Bool.false_ne_true, String.toList_append, String.toList_append, List.append_assoc]
  rfl

theorem isDelimited_slot : IsDelimited Value.IsPlace fun slot => (slotText slot).toList := by
  have integers : IsDelimited Value.IsInteger fun slot => (slotText slot).toList :=
    (Value.isDelimited_integer.behind "messages[".toList).congr fun _ => toList_slotText
  apply (IsDelimited.single .absent _).union integers
  intro one two first second rest other same
  rw [first, toList_slotText second] at same
  have letters : some 'N' = some 'm' := congrArg List.head? same
  cases letters

theorem isVisible_slotText (place : slot.IsPlace) : IsVisible (slotText slot).toList := by
  rcases place with rfl | integer
  · decide
  · rw [toList_slotText integer]
    exact .append (by decide) ((Value.isVisible_plain integer).append (by decide))

end Slots

/-! ### Names -/

def Value.IsName (value : Value) : Prop := ∃ name, value = .text name

def Key.IsName (key : Key) : Prop := ∃ name, key = .text name

theorem Value.isDelimited_name : IsDelimited Value.IsName fun value => value.literal.toList := by
  have texts : IsDelimited (fun value => ∃ name, True ∧ value = Value.text name) fun value =>
      value.literal.toList := Text.isDelimited_quote.image fun _ => rfl
  exact texts.mono fun value named => named.imp fun name same => ⟨trivial, same⟩

theorem Key.isDelimited_name : IsDelimited Key.IsName fun key => key.literal.toList := by
  have texts : IsDelimited (fun key => ∃ name, True ∧ key = Key.text name) fun key =>
      key.literal.toList := Text.isDelimited_quote.image fun _ => rfl
  exact texts.mono fun key named => named.imp fun name same => ⟨trivial, same⟩

theorem Value.IsName.isVisible {value : Value} (named : value.IsName) : IsVisible value.literal.toList := by
  obtain ⟨name, rfl⟩ := named
  exact Text.isVisible_quote name

theorem Key.IsName.isVisible {key : Key} (named : key.IsName) : IsVisible key.literal.toList := by
  obtain ⟨name, rfl⟩ := named
  exact Text.isVisible_quote name

theorem Key.IsName.toValue {key : Key} (named : key.IsName) : key.toValue.IsName := by
  obtain ⟨name, rfl⟩ := named
  exact ⟨name, rfl⟩

theorem Key.toValue_injective : Function.Injective Key.toValue := by
  intro one two same
  cases one <;> cases two <;> cases same <;> rfl

/-! ### Right-hand sides -/

section Read

variable {buffer buffer' index index' : Value}

/-- What stands behind the buffer in a line that reads it. -/
def indexText : Value → String
  | .absent => ")"
  | index => "[" ++ index.plain ++ "])"

theorem toList_indexText (integer : index.IsInteger) :
    (indexText index).toList = '[' :: (index.plain.toList ++ [']'] ++ [')']) := by
  cases index with
  | absent => cases integer
  | flag _ | whole _ | real _ | text _ | list _ | record _ | array _ | message _ =>
      simp only [indexText, String.toList_append, List.append_assoc]
      rfl

theorem toList_readCall (buffer : Value) (place : index.IsPlace) : (readCall buffer index).toList
    = "as_message(".toList ++ ("data[".toList ++ (buffer.literal.toList ++ ']' :: (indexText index).toList)) := by
  have whole : ∀ front data close back : String, (front ++ (data ++ buffer.literal ++ close) ++ back).toList
      = front.toList ++ (data.toList ++ (buffer.literal.toList ++ (close.toList ++ back.toList))) := by
    intro front data close back
    simp only [String.toList_append, List.append_assoc]
  have element : ∀ front data close opened again back : String,
      (front ++ (data ++ buffer.literal ++ close ++ opened ++ index.plain ++ again) ++ back).toList
        = front.toList ++ (data.toList ++ (buffer.literal.toList ++ (close.toList ++ (opened.toList
          ++ (index.plain.toList ++ (again.toList ++ back.toList)))))) := by
    intro front data close opened again back
    simp only [String.toList_append, List.append_assoc]
  rcases place with rfl | integer
  · exact whole "as_message(" "data[" "]" ")"
  · rw [toList_indexText integer, List.append_assoc index.plain.toList]
    cases index with
    | flag held => exact element "as_message(" "data[" "]" "[" "]" ")"
    | whole number => exact element "as_message(" "data[" "]" "[" "]" ")"
    | absent | real _ | text _ | list _ | record _ | array _ | message _ => cases integer

theorem isDelimited_indexText : IsDelimited Value.IsPlace fun index => (indexText index).toList := by
  have integers : IsDelimited Value.IsInteger fun index => (indexText index).toList :=
    ((Value.isDelimited_integer.ahead [')']).behind ['[']).congr fun _ => toList_indexText
  apply (IsDelimited.single .absent _).union integers
  intro one two first second rest other same
  rw [first, toList_indexText second] at same
  have letters : some ')' = some '[' := congrArg List.head? same
  cases letters

theorem readCall_injective (named : buffer.IsName) (named' : buffer'.IsName) (place : index.IsPlace)
    (place' : index'.IsPlace) (same : readCall buffer index = readCall buffer' index') :
    buffer = buffer' ∧ index = index' := by
  have texts := congrArg String.toList same
  rw [toList_readCall _ place, toList_readCall _ place'] at texts
  obtain ⟨equal, behind⟩ := Value.isDelimited_name.apart named named'
    (List.append_cancel_left (List.append_cancel_left texts))
  exact ⟨equal, isDelimited_indexText.injective place place' (List.tail_eq_of_cons_eq behind)⟩

theorem isVisible_readCall (named : buffer.IsName) (place : index.IsPlace) :
    IsVisible (readCall buffer index).toList := by
  have behind : IsVisible (indexText index).toList := by
    rcases place with rfl | integer
    · decide
    · rw [toList_indexText integer]
      exact .cons (by decide) (.append (.append (Value.isVisible_plain integer) (by decide)) (by decide))
  rw [toList_readCall _ place]
  exact .append (by decide) (.append (by decide) (named.isVisible.append (.cons (by decide) behind)))

end Read

section Rule

variable {rule rule' : Value} {node node' : Key} {inbounds inbounds' : List Slot}
  {approximation approximation' : Option Method}

/-- An argument of a rule behind the node: a message, or the marginals for an approximation. -/
def argumentText : Option Slot → String
  | some slot => slotText slot
  | none => "marginals=marginals"

/-- The messages that a rule is called with, and behind them the marginals for an approximation. -/
def ruleArguments (inbounds : List Slot) (approximation : Option Method) : List (Option Slot) :=
  inbounds.map some ++ (if approximation.isSome then [none] else [])

def IsArgument (argument : Option Slot) : Prop := argument = none ∨ ∃ slot, slot.IsPlace ∧ argument = some slot

theorem isDelimited_argument : IsDelimited IsArgument fun argument => (argumentText argument).toList := by
  apply (IsDelimited.single none _).union (isDelimited_slot.image fun _ => rfl)
  intro one two first second rest other same
  obtain ⟨slot, place, rfl⟩ := second
  rw [first] at same
  rcases place with rfl | integer
  · have letters : some 'm' = some 'N' := congrArg List.head? same
    cases letters
  · rw [argumentText, argumentText, toList_slotText integer] at same
    have letters : some 'a' = some 'e' := congrArg (fun text => text[1]?) same
    cases letters

theorem filterMap_ruleArguments (inbounds : List Slot) (approximation : Option Method) :
    (ruleArguments inbounds approximation).filterMap id = inbounds := by
  cases approximation <;> simp [ruleArguments]

theorem none_mem_ruleArguments (inbounds : List Slot) (approximation : Option Method) :
    none ∈ ruleArguments inbounds approximation ↔ approximation.isSome = true := by
  cases approximation <;> simp [ruleArguments]

theorem ruleArguments_injective
    (same : ruleArguments inbounds approximation = ruleArguments inbounds' approximation') :
    inbounds = inbounds' ∧ approximation.isSome = approximation'.isSome := by
  constructor
  · rw [← filterMap_ruleArguments inbounds approximation, same, filterMap_ruleArguments]
  · rw [Bool.eq_iff_iff, ← none_mem_ruleArguments inbounds, same, none_mem_ruleArguments]

theorem isArgument_of_places (places : ∀ slot ∈ inbounds, slot.IsPlace) :
    ∀ argument ∈ ruleArguments inbounds approximation, IsArgument argument := by
  intro argument member
  rcases List.mem_append.mp member with message | marginals
  · obtain ⟨slot, listed, rfl⟩ := List.mem_map.mp message
    exact .inr ⟨slot, places slot listed, rfl⟩
  · split at marginals
    · exact .inl (List.mem_singleton.mp marginals)
    · cases marginals

theorem toList_ruleCall (rule : Value) (node : Key) (inbounds : List Slot) (approximation : Option Method) :
    (ruleCall rule node inbounds approximation).toList
      = "rule(".toList ++ (rule.literal.toList ++ (',' :: ' ' :: (node.literal.toList
        ++ Text.furtherItems (fun argument => (argumentText argument).toList) ')'
          (ruleArguments inbounds approximation)))) := by
  have texts : inbounds.map slotText ++ (if approximation.isSome then ["marginals=marginals"] else [])
      = (ruleArguments inbounds approximation).map argumentText := by
    rw [ruleArguments, List.map_append, List.map_map]
    cases approximation <;> rfl
  have joined := Text.toList_joinWith_cons rule.literal
    (node.literal :: (ruleArguments inbounds approximation).map argumentText) ')'
  rw [Text.furtherItems, Text.furtherItems_map] at joined
  rw [ruleCall, List.append_assoc, texts, String.toList_append, String.toList_append, List.append_assoc]
  exact congrArg ("rule(".toList ++ ·) joined

theorem ruleCall_injective (ruled : rule.IsName) (ruled' : rule'.IsName) (named : node.IsName)
    (named' : node'.IsName) (places : ∀ slot ∈ inbounds, slot.IsPlace) (places' : ∀ slot ∈ inbounds', slot.IsPlace)
    (same : ruleCall rule node inbounds approximation = ruleCall rule' node' inbounds' approximation') :
    rule = rule' ∧ node = node' ∧ inbounds = inbounds' ∧ approximation.isSome = approximation'.isSome := by
  have texts := congrArg String.toList same
  rw [toList_ruleCall, toList_ruleCall] at texts
  obtain ⟨sameRule, behind⟩ := Value.isDelimited_name.apart ruled ruled' (List.append_cancel_left texts)
  obtain ⟨sameNode, behind⟩ := Key.isDelimited_name.apart named named'
    (List.tail_eq_of_cons_eq (List.tail_eq_of_cons_eq behind))
  have arguments := (isDelimited_argument.further (by decide)).injective (isArgument_of_places places)
    (isArgument_of_places places') behind
  exact ⟨sameRule, sameNode, ruleArguments_injective arguments⟩

theorem isVisible_ruleCall (ruled : rule.IsName) (named : node.IsName)
    (places : ∀ slot ∈ inbounds, slot.IsPlace) : IsVisible (ruleCall rule node inbounds approximation).toList := by
  rw [ruleCall, String.toList_append, String.toList_append]
  refine .append (.append (by decide) (Text.isVisible_joinWith ?_)) (by decide)
  intro text member
  rw [List.mem_append, List.mem_append] at member
  rcases member with (name | message) | marginals
  · rcases List.mem_pair.mp name with rfl | rfl
    · exact ruled.isVisible
    · exact named.isVisible
  · obtain ⟨slot, listed, rfl⟩ := List.mem_map.mp message
    exact isVisible_slotText (places slot listed)
  · split at marginals
    · rw [List.mem_singleton.mp marginals]
      decide
    · cases marginals

end Rule

section Inner

variable {node node' : Value} {feeds feeds' : List (Value × Slot)} {result result' : Slot}

/-- A terminal with the message that it is fed. -/
def feedText (feed : Value × Slot) : String := feed.1.literal ++ ": " ++ slotText feed.2

def IsFeed (feed : Value × Slot) : Prop := feed.1.IsName ∧ feed.2.IsPlace

theorem toList_feedText (feed : Value × Slot) :
    (feedText feed).toList = (feed.1.literal.toList ++ ": ".toList) ++ (slotText feed.2).toList := by
  rw [feedText, String.toList_append, String.toList_append]

theorem isDelimited_feed : IsDelimited IsFeed fun feed => (feedText feed).toList := by
  have parts := (Value.isDelimited_name.ahead ": ".toList).pair isDelimited_slot
  constructor
  intro one two rest other first second same
  rw [toList_feedText, toList_feedText] at same
  exact parts.apart first second same

theorem feed_opens (feed : Value × Slot) (fits : IsFeed feed) (rest : List Char) :
    ((feedText feed).toList ++ rest).head? ≠ some '\x7d' := by
  obtain ⟨name, named⟩ := fits.1
  have quotes := Text.isQuote_quoteFor name.toList
  rw [toList_feedText, named, Value.literal, Text.toList_quote]
  intro same
  rw [Option.some.inj same] at quotes
  revert quotes
  unfold Text.IsQuote
  decide

theorem innerCall_eq (node : Value) (feeds : List (Value × Slot)) (result : Slot) : innerCall node feeds result
    = "inner(" ++ node.literal ++ ", \x7b" ++ joinWith ", " (feeds.map feedText) ++ "\x7d)[" ++ result.plain
      ++ "]" := rfl

theorem toList_innerCall (node : Value) (feeds : List (Value × Slot)) (result : Slot) :
    (innerCall node feeds result).toList
      = "inner(".toList ++ (node.literal.toList ++ (", \x7b".toList
        ++ (Text.closedItems (fun feed => (feedText feed).toList) '\x7d' feeds
          ++ (")[".toList ++ (result.plain.toList ++ [']']))))) := by
  have joined := Text.toList_joinWith (feeds.map feedText) '\x7d'
  rw [Text.closedItems_map] at joined
  rw [← joined]
  simp only [innerCall_eq, String.toList_append, List.append_assoc]
  rfl

theorem innerCall_injective (named : node.IsName) (named' : node'.IsName) (fits : ∀ feed ∈ feeds, IsFeed feed)
    (fits' : ∀ feed ∈ feeds', IsFeed feed) (integer : result.IsInteger) (integer' : result'.IsInteger)
    (same : innerCall node feeds result = innerCall node' feeds' result') :
    node = node' ∧ feeds = feeds' ∧ result = result' := by
  have texts := congrArg String.toList same
  rw [toList_innerCall, toList_innerCall] at texts
  obtain ⟨sameNode, behind⟩ := Value.isDelimited_name.apart named named' (List.append_cancel_left texts)
  obtain ⟨sameFeeds, behind⟩ := (isDelimited_feed.items (by decide) feed_opens).apart fits fits'
    (List.append_cancel_left behind)
  exact ⟨sameNode, sameFeeds,
    Value.isDelimited_integer.injective integer integer' (List.append_cancel_left behind)⟩

theorem isVisible_innerCall (named : node.IsName) (fits : ∀ feed ∈ feeds, IsFeed feed)
    (integer : result.IsInteger) : IsVisible (innerCall node feeds result).toList := by
  have fed : IsVisible (joinWith ", " (feeds.map feedText)).toList := by
    apply Text.isVisible_joinWith
    intro text member
    obtain ⟨feed, listed, rfl⟩ := List.mem_map.mp member
    rw [toList_feedText]
    exact .append (.append (fits feed listed).1.isVisible (by decide)) (isVisible_slotText (fits feed listed).2)
  simp only [innerCall_eq, String.toList_append]
  exact .append (.append (.append (.append (.append (.append (by decide) named.isVisible) (by decide)) fed)
    (by decide)) (Value.isVisible_plain integer)) (by decide)

end Inner

section Product

variable {first first' second second' : Slot}

theorem toList_productCall (first second : Slot) : (productCall first second).toList
    = "product(".toList ++ ((slotText first).toList ++ (", ".toList ++ ((slotText second).toList ++ [')']))) := by
  have parts : ∀ front between back : String,
      (front ++ slotText first ++ between ++ slotText second ++ back).toList = front.toList
        ++ ((slotText first).toList ++ (between.toList ++ ((slotText second).toList ++ back.toList))) := by
    intro front between back
    simp only [String.toList_append, List.append_assoc]
  exact parts "product(" ", " ")"

theorem productCall_injective (place : first.IsPlace) (place' : first'.IsPlace) (other : second.IsPlace)
    (other' : second'.IsPlace) (same : productCall first second = productCall first' second') :
    first = first' ∧ second = second' := by
  have texts := congrArg String.toList same
  rw [toList_productCall, toList_productCall] at texts
  obtain ⟨sameFirst, behind⟩ := isDelimited_slot.apart place place' (List.append_cancel_left texts)
  exact ⟨sameFirst, (isDelimited_slot.ahead [')']).injective other other' (List.append_cancel_left behind)⟩

theorem isVisible_productCall (place : first.IsPlace) (other : second.IsPlace) :
    IsVisible (productCall first second).toList := by
  rw [toList_productCall]
  exact .append (by decide) ((isVisible_slotText place).append
    (.append (by decide) ((isVisible_slotText other).append (by decide))))

end Product

/-! ### Lines -/

section Lines

variable {target target' : Slot} {name name' : Value} {call call' : String}

/-- The letters of the parts are left alone. -/
theorem toList_line (front place back call : String) : (front ++ place ++ back ++ call).toList
    = front.toList ++ (place.toList ++ (back.toList ++ call.toList)) := by
  simp only [String.toList_append, List.append_assoc]

theorem toList_messageLine (target : Slot) (call : String) : (messageLine target call).toList
    = "    messages[".toList ++ (target.plain.toList ++ [']'] ++ (" = ".toList ++ call.toList)) := by
  rw [List.append_assoc target.plain.toList]
  exact toList_line "    messages[" target.plain "] = " call

theorem toList_marginalLine (name : Value) (call : String) : (marginalLine name call).toList
    = "    marginals[".toList ++ (name.literal.toList ++ ("] = ".toList ++ call.toList)) :=
  toList_line "    marginals[" name.literal "] = " call

theorem messageLine_injective (integer : target.IsInteger) (integer' : target'.IsInteger)
    (same : messageLine target call = messageLine target' call') : target = target' ∧ call = call' := by
  have texts := congrArg String.toList same
  rw [toList_messageLine, toList_messageLine] at texts
  obtain ⟨sameTarget, behind⟩ := Value.isDelimited_integer.apart integer integer' (List.append_cancel_left texts)
  exact ⟨sameTarget, String.toList_inj.mp (List.append_cancel_left behind)⟩

theorem marginalLine_injective (named : name.IsName) (named' : name'.IsName)
    (same : marginalLine name call = marginalLine name' call') : name = name' ∧ call = call' := by
  have texts := congrArg String.toList same
  rw [toList_marginalLine, toList_marginalLine] at texts
  obtain ⟨sameName, behind⟩ := Value.isDelimited_name.apart named named' (List.append_cancel_left texts)
  exact ⟨sameName, String.toList_inj.mp (List.append_cancel_left behind)⟩

theorem messageLine_ne_marginalLine (target : Slot) (name : Value) (call call' : String) :
    messageLine target call ≠ marginalLine name call' := by
  intro same
  have texts := congrArg String.toList same
  rw [toList_messageLine, toList_marginalLine] at texts
  have letters : some 'e' = some 'a' := congrArg (fun text => text[5]?) texts
  cases letters

theorem isVisible_messageLine (integer : target.IsInteger) (visible : IsVisible call.toList) :
    IsVisible (messageLine target call).toList := by
  rw [toList_messageLine]
  exact .append (by decide) (((Value.isVisible_plain integer).append (by decide)).append
    (.append (by decide) visible))

theorem isVisible_marginalLine (named : name.IsName) (visible : IsVisible call.toList) :
    IsVisible (marginalLine name call).toList := by
  rw [toList_marginalLine]
  exact .append (by decide) (named.isVisible.append (.append (by decide) visible))

end Lines

end SumProduct
