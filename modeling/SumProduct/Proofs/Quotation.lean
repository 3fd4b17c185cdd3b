/-
Text whose end can be seen.

A way of writing items is delimited if a text that begins with a written item tells the item and what stands behind
it.  Such ways of writing are put together from parts without separators of their own.  Integers and names are
delimited by the bracket or the quote behind them: quoting escapes the quote in use, the backslash and every line
break, whatever the text, and it can be read back code point by code point.
-/

import SumProduct.Proofs.Descriptors
import SumProduct.Text.Quoted

set_option autoImplicit false

namespace SumProduct

namespace Text

/-! ### Delimited writing -/

/-- Of two equal texts that begin with written items the items are equal, and so is what stands behind them. -/
structure IsDelimited {α : Type} (domain : α → Prop) (write : α → List Char) : Prop where
  apart : ∀ {one two : α} {rest other : List Char}, domain one → domain two →
    write one ++ rest = write two ++ other → one = two ∧ rest = other

section Delimited

variable {α β : Type} {domain : α → Prop} {write : α → List Char}
  {others : β → Prop} {writeOther : β → List Char}

/-- What can be read back from the front of a text is delimited. -/
theorem IsDelimited.of_read {read : List Char → α × List Char}
    (undoes : ∀ item, domain item → ∀ rest, read (write item ++ rest) = (item, rest)) :
    IsDelimited domain write := by
  constructor
  intro one two rest other first second same
  have back := undoes one first rest
  rw [same, undoes two second other] at back
  cases back
  exact ⟨rfl, rfl⟩

/-- Items whose texts differ are delimited by a character that stands in none of them. -/
theorem IsDelimited.closed {close : Char} (apart : ∀ item, domain item → close ∉ write item)
    (differ : ∀ one two, domain one → domain two → write one = write two → one = two) :
    IsDelimited domain fun item => write item ++ [close] := by
  constructor
  intro one two rest other first second same
  rw [List.append_assoc, List.append_assoc] at same
  have pieces := congrArg (splitAt close) same
  rw [List.singleton_append, List.singleton_append, splitAt_append (apart one first),
    splitAt_append (apart two second)] at pieces
  have equal := differ one two first second (List.head_eq_of_cons_eq pieces)
  rw [equal] at same
  exact ⟨equal, List.append_cancel_left (List.append_cancel_left same)⟩

theorem IsDelimited.mono {narrow : α → Prop} (delimited : IsDelimited domain write)
    (within : ∀ item, narrow item → domain item) : IsDelimited narrow write :=
  ⟨fun first second same => delimited.apart (within _ first) (within _ second) same⟩

theorem IsDelimited.congr {writeAlso : α → List Char} (delimited : IsDelimited domain write)
    (same : ∀ item, domain item → writeAlso item = write item) : IsDelimited domain writeAlso := by
  constructor
  intro one two rest other first second equal
  rw [same one first, same two second] at equal
  exact delimited.apart first second equal

/-- Items that hold others and are written like them. -/
theorem IsDelimited.image (delimited : IsDelimited others writeOther) {hold : β → α}
    (same : ∀ item, write (hold item) = writeOther item) :
    IsDelimited (fun item => ∃ held, others held ∧ item = hold held) write := by
  constructor
  intro one two rest other first second equal
  obtain ⟨held, inside, rfl⟩ := first
  obtain ⟨also, within, rfl⟩ := second
  rw [same, same] at equal
  obtain ⟨equal, behind⟩ := delimited.apart inside within equal
  exact ⟨congrArg hold equal, behind⟩

theorem IsDelimited.single (item : α) (write : α → List Char) : IsDelimited (fun other => other = item) write := by
  constructor
  intro one two rest other first second same
  rw [first, second] at same
  exact ⟨first.trans second.symm, List.append_cancel_left same⟩

/-- Items of two sorts, no text of which can begin with one of each. -/
theorem IsDelimited.union {wide : α → Prop} (delimited : IsDelimited domain write)
    (delimitedToo : IsDelimited wide write) (unlike : ∀ one two, domain one → wide two →
      ∀ rest other, write one ++ rest ≠ write two ++ other) :
    IsDelimited (fun item => domain item ∨ wide item) write := by
  constructor
  intro one two rest other first second same
  cases first with
  | inl first =>
      cases second with
      | inl second => exact delimited.apart first second same
      | inr second => exact absurd same (unlike one two first second rest other)
  | inr first =>
      cases second with
      | inl second => exact absurd same.symm (unlike two one second first other rest)
      | inr second => exact delimitedToo.apart first second same

theorem IsDelimited.injective (delimited : IsDelimited domain write) {one two : α} (first : domain one)
    (second : domain two) (same : write one = write two) : one = two :=
  (delimited.apart first second (congrArg (· ++ []) same)).1

theorem IsDelimited.behind (delimited : IsDelimited domain write) (front : List Char) :
    IsDelimited domain fun item => front ++ write item := by
  constructor
  intro one two rest other first second same
  rw [List.append_assoc, List.append_assoc] at same
  exact delimited.apart first second (List.append_cancel_left same)

theorem IsDelimited.ahead (delimited : IsDelimited domain write) (back : List Char) :
    IsDelimited domain fun item => write item ++ back := by
  constructor
  intro one two rest other first second same
  rw [List.append_assoc, List.append_assoc] at same
  obtain ⟨equal, behind⟩ := delimited.apart first second same
  exact ⟨equal, List.append_cancel_left behind⟩

theorem IsDelimited.pair (delimited : IsDelimited domain write) (delimitedOther : IsDelimited others writeOther) :
    IsDelimited (fun both : α × β => domain both.1 ∧ others both.2)
      fun both => write both.1 ++ writeOther both.2 := by
  constructor
  intro one two rest other first second same
  rw [List.append_assoc, List.append_assoc] at same
  obtain ⟨equal, behind⟩ := delimited.apart first.1 second.1 same
  obtain ⟨also, equalRest⟩ := delimitedOther.apart first.2 second.2 behind
  exact ⟨Prod.ext equal also, equalRest⟩

/-- Items with a comma before each, and the character that closes them. -/
def furtherItems (write : α → List Char) (close : Char) : List α → List Char
  | [] => [close]
  | item :: rest => ',' :: ' ' :: (write item ++ furtherItems write close rest)

/-- Items with commas between them, and the character that closes them. -/
def closedItems (write : α → List Char) (close : Char) : List α → List Char
  | [] => [close]
  | item :: rest => write item ++ furtherItems write close rest

theorem IsDelimited.further (delimited : IsDelimited domain write) {close : Char} (differ : close ≠ ',') :
    IsDelimited (fun items : List α => ∀ item ∈ items, domain item) (furtherItems write close) := by
  constructor
  intro one
  induction one with
  | nil =>
      intro two rest other _ _ same
      cases two with
      | nil => exact ⟨rfl, List.append_cancel_left same⟩
      | cons head tail => exact absurd (List.head_eq_of_cons_eq same) differ
  | cons item items ih =>
      intro two rest other first second same
      cases two with
      | nil => exact absurd (List.head_eq_of_cons_eq same).symm differ
      | cons head tail =>
          simp only [furtherItems, List.cons_append, List.append_assoc, List.cons.injEq, true_and] at same
          obtain ⟨rfl, behind⟩ :=
            delimited.apart (first item List.mem_cons_self) (second head List.mem_cons_self) same
          obtain ⟨rfl, equal⟩ := ih (fun other member => first other (List.mem_cons_of_mem item member))
            (fun other member => second other (List.mem_cons_of_mem item member)) behind
          exact ⟨rfl, equal⟩

/-- No item begins with the character that closes the items. -/
theorem IsDelimited.items (delimited : IsDelimited domain write) {close : Char} (differ : close ≠ ',')
    (opens : ∀ item, domain item → ∀ rest, (write item ++ rest).head? ≠ some close) :
    IsDelimited (fun items : List α => ∀ item ∈ items, domain item) (closedItems write close) := by
  constructor
  intro one two rest other first second same
  cases one with
  | nil =>
      cases two with
      | nil => exact ⟨rfl, List.append_cancel_left same⟩
      | cons head tail =>
          simp only [closedItems, List.append_assoc] at same
          exact absurd (congrArg List.head? same).symm (opens head (second head List.mem_cons_self) _)
  | cons item items =>
      cases two with
      | nil =>
          simp only [closedItems, List.append_assoc] at same
          exact absurd (congrArg List.head? same) (opens item (first item List.mem_cons_self) _)
      | cons head tail =>
          simp only [closedItems, List.append_assoc] at same
          obtain ⟨rfl, behind⟩ :=
            delimited.apart (first item List.mem_cons_self) (second head List.mem_cons_self) same
          obtain ⟨rfl, equal⟩ := (delimited.further differ).apart
            (fun other member => first other (List.mem_cons_of_mem item member))
            (fun other member => second other (List.mem_cons_of_mem item member)) behind
          exact ⟨rfl, equal⟩

theorem toList_joinWith_cons (text : String) (texts : List String) (close : Char) :
    (joinWith ", " (text :: texts)).toList ++ [close]
      = text.toList ++ furtherItems String.toList close texts := by
  induction texts generalizing text with
  | nil => rfl
  | cons next rest ih =>
      have opened : (joinWith ", " (text :: next :: rest)).toList
          = text.toList ++ (", ".toList ++ (joinWith ", " (next :: rest)).toList) := by
        rw [joinWith, String.toList_append, String.toList_append, List.append_assoc]
        exact List.cons_ne_nil _ _
      rw [opened, List.append_assoc, List.append_assoc, ih next]
      rfl

theorem toList_joinWith (texts : List String) (close : Char) :
    (joinWith ", " texts).toList ++ [close] = closedItems String.toList close texts := by
  cases texts with
  | nil => rfl
  | cons text rest => exact toList_joinWith_cons text rest close

theorem furtherItems_map (text : α → String) (close : Char) (items : List α) :
    furtherItems String.toList close (items.map text) = furtherItems (fun item => (text item).toList) close items := by
  induction items with
  | nil => rfl
  | cons item rest ih => rw [List.map_cons, furtherItems, furtherItems, ih]

theorem closedItems_map (text : α → String) (close : Char) (items : List α) :
    closedItems String.toList close (items.map text) = closedItems (fun item => (text item).toList) close items := by
  cases items with
  | nil => rfl
  | cons item rest => rw [List.map_cons, closedItems, closedItems, furtherItems_map]

end Delimited

/-! ### Quoted text read back -/

/-- The value of a hexadecimal digit with small letters. -/
def hexDigitValue (c : Char) : Nat := if c.isDigit then c.toNat - 48 else c.toNat - 87

def hexValue (digits : List Char) : Nat := digits.foldl (fun value c => 16 * value + hexDigitValue c) 0

theorem hexDigitValue_hexDigit : ∀ value < 16, hexDigitValue (hexDigit value) = value := by decide

theorem length_hexDigits (width value : Nat) : (hexDigits width value).length = width := by
  induction width generalizing value with
  | zero => rfl
  | succ width ih => rw [hexDigits, List.length_append, ih, List.length_singleton]

theorem hexValue_hexDigits {width value : Nat} (fits : value < 16 ^ width) :
    hexValue (hexDigits width value) = value := by
  induction width generalizing value with
  | zero =>
      rw [Nat.pow_zero, Nat.lt_one_iff] at fits
      rw [fits]
      rfl
  | succ width ih =>
      have upper : hexValue (hexDigits width (value / 16)) = value / 16 := ih (by omega)
      rw [hexValue] at upper
      rw [hexValue, hexDigits, List.foldl_append, upper, List.foldl_cons, List.foldl_nil,
        hexDigitValue_hexDigit (value % 16) (Nat.mod_lt value (by decide))]
      omega

/-- The code point that quoted text begins with, and the rest of the text. -/
def readCode : List Char → Nat × List Char
  | '\\' :: 'n' :: rest => ('\n'.toNat, rest)
  | '\\' :: 'r' :: rest => ('\r'.toNat, rest)
  | '\\' :: 't' :: rest => ('\t'.toNat, rest)
  | '\\' :: 'x' :: rest => (hexValue (rest.take 2), rest.drop 2)
  | '\\' :: 'u' :: rest => (hexValue (rest.take 4), rest.drop 4)
  | '\\' :: 'U' :: rest => (hexValue (rest.take 8), rest.drop 8)
  | '\\' :: c :: rest => (c.toNat, rest)
  | c :: rest => (c.toNat, rest)
  | [] => (0, [])

theorem readCode_hexDigits {width code : Nat} (fits : code < 16 ^ width) (rest : List Char) :
    (hexValue ((hexDigits width code ++ rest).take width), (hexDigits width code ++ rest).drop width) =
      (code, rest) := by
  rw [List.take_left' (length_hexDigits width code), List.drop_left' (length_hexDigits width code),
    hexValue_hexDigits fits]

/-- A character other than the null character is written for its own code point only. -/
theorem toNat_of_ofNat {code : Nat} {c : Char} (same : Char.ofNat code = c) (other : c ≠ '\x00') :
    c.toNat = code := by
  rw [← same] at other ⊢
  unfold Char.ofNat at other ⊢
  by_cases valid : code.isValidChar
  · rw [dif_pos valid]
    rfl
  · rw [dif_neg valid] at other
    exact absurd rfl other

theorem ne_null_of_isPrintable {c : Char} (printable : isPrintable c = true) : c ≠ '\x00' := by
  intro null
  rw [null] at printable
  revert printable
  decide

/-- The characters that may surround quoted text. -/
def IsQuote (quote : Char) : Prop := quote = '\'' ∨ quote = '"'

theorem IsQuote.isPrintable {quote : Char} (quotes : IsQuote quote) : isPrintable quote = true := by
  rcases quotes with rfl | rfl
  · decide
  · decide

theorem readCode_plain {c : Char} (different : c ≠ '\\') (rest : List Char) :
    readCode (c :: rest) = (c.toNat, rest) := by
  unfold readCode
  split
  all_goals
    rename_i equal
    first
    | exact absurd (List.head_eq_of_cons_eq equal) different
    | cases equal <;> rfl

/-- Escapes with a letter of their own, and the lengths of hexadecimal escapes. -/
def namedEscapes : List (Char × Char) := [('\\', '\\'), ('\n', 'n'), ('\r', 'r'), ('\t', 't')]

def hexEscapes : List (Char × Nat) := [('x', 2), ('u', 4), ('U', 8)]

/-- The ways in which a code point is written between quotes. -/
inductive IsSpelling (quote : Char) (code : Nat) : List Char → Prop
  | quoted (same : Char.ofNat code = quote) : IsSpelling quote code ['\\', quote]
  | named {c letter : Char} (listed : (c, letter) ∈ namedEscapes) (same : Char.ofNat code = c) :
      IsSpelling quote code ['\\', letter]
  | plain (printable : isPrintable (Char.ofNat code) = true) (apart : Char.ofNat code ≠ quote)
      (other : Char.ofNat code ≠ '\\') : IsSpelling quote code [Char.ofNat code]
  | hexadecimal {letter : Char} {width : Nat} (listed : (letter, width) ∈ hexEscapes)
      (fits : code ≤ loneMark → code < 16 ^ width) :
      IsSpelling quote code ('\\' :: letter :: hexDigits width code)

theorem isSpelling_quoteCode (quote : Char) (code : Nat) : IsSpelling quote code (quoteCode quote code) := by
  unfold quoteCode
  simp only
  split
  · rename_i same
    exact .quoted same
  iterate 4
    split
    · rename_i same
      exact .named (by decide) same
  split
  · rename_i apart other _ _ _ printable
    exact .plain printable apart other
  split
  · rename_i small
    exact .hexadecimal (by decide) fun _ => small
  split
  · rename_i small
    exact .hexadecimal (by decide) fun _ => small
  · exact .hexadecimal (by decide) fun fits => Nat.lt_of_le_of_lt fits (by decide)

theorem readCode_named (rest : List Char) : ∀ escape ∈ namedEscapes, escape.1 ≠ '\x00' ∧
    readCode ('\\' :: escape.2 :: rest) = (escape.1.toNat, rest) := by
  simp only [namedEscapes, List.forall_mem_cons]
  refine ⟨⟨by decide, rfl⟩, ⟨by decide, rfl⟩, ⟨by decide, rfl⟩, ⟨by decide, rfl⟩, ?_⟩
  exact fun _ impossible => absurd impossible List.not_mem_nil

theorem readCode_hexadecimal (rest : List Char) : ∀ escape ∈ hexEscapes,
    readCode ('\\' :: escape.1 :: rest) = (hexValue (rest.take escape.2), rest.drop escape.2) := by
  simp only [hexEscapes, List.forall_mem_cons]
  exact ⟨rfl, rfl, rfl, fun _ impossible => absurd impossible List.not_mem_nil⟩

theorem readCode_quoteCode {quote : Char} (quotes : IsQuote quote) {code : Nat} (fits : code ≤ loneMark)
    (rest : List Char) : readCode (quoteCode quote code ++ rest) = (code, rest) := by
  have spelled := isSpelling_quoteCode quote code
  generalize quoteCode quote code = written at spelled ⊢
  cases spelled with
  | quoted same =>
      rcases quotes with rfl | rfl
      · exact congrArg (·, rest) (toNat_of_ofNat same (by decide))
      · exact congrArg (·, rest) (toNat_of_ofNat same (by decide))
  | named listed same =>
      obtain ⟨other, read⟩ := readCode_named rest _ listed
      rw [List.cons_append, List.singleton_append, read, toNat_of_ofNat same other]
  | plain printable apart other =>
      rw [List.singleton_append, readCode_plain other,
        toNat_of_ofNat rfl (ne_null_of_isPrintable printable)]
  | hexadecimal listed small =>
      rw [List.cons_append, List.cons_append, readCode_hexadecimal _ _ listed]
      exact readCode_hexDigits (small fits) rest

theorem isDelimited_code {quote : Char} (quotes : IsQuote quote) :
    IsDelimited (fun code => code ≤ loneMark) (quoteCode quote) :=
  .of_read fun _ fits rest => readCode_quoteCode quotes fits rest

/-- The quote that surrounds a text stands for the end of the text only. -/
theorem quoteCode_head {quote : Char} (quotes : IsQuote quote) (code : Nat) (rest : List Char) :
    (quoteCode quote code ++ rest).head? ≠ some quote := by
  have escaped : some '\\' ≠ some quote := by
    rcases quotes with rfl | rfl
    · decide
    · decide
  have spelled := isSpelling_quoteCode quote code
  generalize quoteCode quote code = written at spelled ⊢
  cases spelled with
  | quoted same => exact escaped
  | named listed same => exact escaped
  | plain printable apart other => exact fun same => apart (Option.some.inj same)
  | hexadecimal listed small => exact escaped

theorem codePoints_le (text : List Char) : ∀ code ∈ codePoints text, code ≤ loneMark := by
  have within : ∀ c : Char, c.toNat ≤ loneMark := by
    intro c
    have valid := c.valid
    simp only [UInt32.isValidChar, Nat.isValidChar] at valid
    simp only [loneMark, Char.toNat]
    omega
  fun_induction codePoints text with
  | case1 => exact fun _ impossible => absurd impossible List.not_mem_nil
  | case2 c =>
      intro code member
      rw [List.mem_singleton.mp member]
      split
      · exact Nat.le_refl loneMark
      · exact within c
  | case3 c d rest other ih => exact List.forall_mem_cons.mpr ⟨within c, ih⟩
  | case4 c rest marked ih => exact List.forall_mem_cons.mpr ⟨within mark, ih⟩
  | case5 c d rest marked other half ih =>
      exact List.forall_mem_cons.mpr ⟨Nat.le_trans (Nat.sub_le _ _) (within d), ih⟩
  | case6 c d rest marked other unlike ih => exact List.forall_mem_cons.mpr ⟨Nat.le_refl loneMark, ih⟩

theorem codePoints_injective {one two : List Char} (same : codePoints one = codePoints two) : one = two := by
  rw [← flatMap_spell_codePoints one, same, flatMap_spell_codePoints]

theorem isDelimited_codes {quote : Char} (quotes : IsQuote quote) :
    IsDelimited (fun codes : List Nat => ∀ code ∈ codes, code ≤ loneMark)
      fun codes => codes.flatMap (quoteCode quote) ++ [quote] := by
  constructor
  intro one
  induction one with
  | nil =>
      intro two rest other _ _ same
      cases two with
      | nil => exact ⟨rfl, List.append_cancel_left same⟩
      -- The quote that closes one text would have to begin a code point of the other.
      | cons code codes =>
          simp only [List.flatMap_cons, List.append_assoc] at same
          exact absurd (congrArg List.head? same).symm (quoteCode_head quotes code _)
  | cons code codes ih =>
      intro two rest other first second same
      cases two with
      | nil =>
          simp only [List.flatMap_cons, List.append_assoc] at same
          exact absurd (congrArg List.head? same) (quoteCode_head quotes code _)
      | cons next more =>
          simp only [List.flatMap_cons, List.append_assoc] at same
          obtain ⟨rfl, behind⟩ := (isDelimited_code quotes).apart (first code List.mem_cons_self)
            (second next List.mem_cons_self) same
          rw [← List.append_assoc, ← List.append_assoc] at behind
          obtain ⟨rfl, equal⟩ := ih (fun other member => first other (List.mem_cons_of_mem code member))
            (fun other member => second other (List.mem_cons_of_mem code member)) behind
          exact ⟨rfl, equal⟩

theorem isQuote_quoteFor (text : List Char) : IsQuote (quoteFor text) := by
  unfold quoteFor
  split
  · exact Or.inr rfl
  · exact Or.inl rfl

theorem toList_quote (text : String) : (quote text).toList
    = quoteFor text.toList :: ((codePoints text.toList).flatMap (quoteCode (quoteFor text.toList))
      ++ [quoteFor text.toList]) := String.toList_ofList

/-- The end of quoted text can be seen, and quoting loses nothing. -/
theorem isDelimited_quote : IsDelimited (fun _ : String => True) fun text => (quote text).toList := by
  constructor
  intro one two rest other _ _ same
  rw [toList_quote, toList_quote, List.cons_append, List.cons_append] at same
  have quotes := List.head_eq_of_cons_eq same
  rw [← quotes] at same
  obtain ⟨equal, behind⟩ := (isDelimited_codes (isQuote_quoteFor one.toList)).apart (codePoints_le one.toList)
    (codePoints_le two.toList) (List.tail_eq_of_cons_eq same)
  exact ⟨String.toList_inj.mp (codePoints_injective equal), behind⟩

/-! ### Printable text -/

/-- All characters are printable, so that none of them is a line break. -/
def IsVisible (text : List Char) : Prop := ∀ c ∈ text, isPrintable c = true

instance (text : List Char) : Decidable (IsVisible text) :=
  decidable_of_iff (text.all isPrintable = true) List.all_eq_true

section Visible

variable {front back : List Char}

theorem IsVisible.append (first : IsVisible front) (second : IsVisible back) : IsVisible (front ++ back) :=
  List.forall_mem_append.mpr ⟨first, second⟩

theorem IsVisible.cons {c : Char} (printable : isPrintable c = true) (text : IsVisible back) :
    IsVisible (c :: back) :=
  List.forall_mem_cons.mpr ⟨printable, text⟩

theorem IsVisible.newline (visible : IsVisible front) : '\n' ∉ front := by
  intro member
  have printable := visible '\n' member
  revert printable
  decide

theorem isVisible_hexDigits {width value : Nat} : IsVisible (hexDigits width value) := by
  have digits : ∀ value < 16, isPrintable (hexDigit value) = true := by decide
  induction width generalizing value with
  | zero => exact fun _ impossible => absurd impossible List.not_mem_nil
  | succ width ih =>
      rw [hexDigits]
      exact ih.append (List.forall_mem_singleton.mpr (digits _ (Nat.mod_lt value (by decide))))

theorem isVisible_quoteCode {quote : Char} (quotes : IsQuote quote) (code : Nat) :
    IsVisible (quoteCode quote code) := by
  have spelled := isSpelling_quoteCode quote code
  generalize quoteCode quote code = written at spelled ⊢
  cases spelled with
  | quoted same => exact .cons (by decide) (List.forall_mem_singleton.mpr quotes.isPrintable)
  | named listed same =>
      have letters : ∀ escape ∈ namedEscapes, isPrintable escape.2 = true := by decide
      exact .cons (by decide) (List.forall_mem_singleton.mpr (letters _ listed))
  | plain printable apart other => exact List.forall_mem_singleton.mpr printable
  | hexadecimal listed small =>
      have letters : ∀ escape ∈ hexEscapes, isPrintable escape.1 = true := by decide
      exact .cons (by decide) (.cons (letters _ listed) isVisible_hexDigits)

theorem isVisible_quote (text : String) : IsVisible (quote text).toList := by
  have quotes := isQuote_quoteFor text.toList
  have printable := quotes.isPrintable
  rw [toList_quote]
  refine .cons printable (.append ?_ (List.forall_mem_singleton.mpr printable))
  intro c member
  obtain ⟨code, _, listed⟩ := List.mem_flatMap.mp member
  exact isVisible_quoteCode quotes code c listed

theorem isVisible_joinWith {texts : List String} (visible : ∀ text ∈ texts, IsVisible text.toList) :
    IsVisible (joinWith ", " texts).toList := by
  fun_induction joinWith ", " texts with
  | case1 => exact fun _ impossible => absurd impossible List.not_mem_nil
  | case2 text => exact visible text List.mem_cons_self
  | case3 text rest _ ih =>
      rw [String.toList_append, String.toList_append]
      refine .append (.append (visible text List.mem_cons_self) (by decide)) (ih ?_)
      exact fun other member => visible other (List.mem_cons_of_mem text member)

end Visible

end Text

end SumProduct
