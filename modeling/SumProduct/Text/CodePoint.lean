/-
Code points of text, unpaired surrogates included.

A document may spell one half of a surrogate pair without the other.  No character stands for such a
half, so a text spells it by two characters: a mark, and a character that tells which half it is.
Where the mark itself is meant it is spelled twice.  `codePoints` gives the code points of a text;
texts are ordered, quoted and taken apart by them.  `flatMap_spell_codePoints` says that nothing is
lost: the code points of a text, spelled one after the other, are the text again.
-/

set_option autoImplicit false

namespace SumProduct.Text

/-- The last code point, which is no character of any script. -/
def mark : Char := Char.ofNat 0x10FFFF

/-- The code point of a mark that marks nothing.  It lies behind all others. -/
def loneMark : Nat := 0x110000

/-- One half of a surrogate pair. -/
def isSurrogate (code : Nat) : Bool := 0xD800 ≤ code && code ≤ 0xDFFF

/-- The character that stands behind a mark for a surrogate. -/
def halfOf (code : Nat) : Char := Char.ofNat (code + 0x100000)

/-- The characters that spell a code point. -/
def spell (code : Nat) : List Char :=
  if isSurrogate code then [mark, halfOf code]
  else if code = mark.toNat then [mark, mark]
  else if code = loneMark then [mark]
  else [Char.ofNat code]

/-- The code points that characters spell. -/
def codePoints : List Char → List Nat
  | [] => []
  | [c] => [if c = mark then loneMark else c.toNat]
  | c :: d :: rest =>
    if c ≠ mark then c.toNat :: codePoints (d :: rest)
    else if d = mark then mark.toNat :: codePoints rest
    else if isSurrogate (d.toNat - 0x100000) then (d.toNat - 0x100000) :: codePoints rest
    else loneMark :: codePoints (d :: rest)

theorem isSurrogate_toNat (c : Char) : isSurrogate c.toNat = false := by
  have valid := c.valid
  simp only [UInt32.isValidChar, Nat.isValidChar] at valid
  simp only [isSurrogate, Char.toNat, Bool.and_eq_false_iff, decide_eq_false_iff_not]
  omega

theorem toNat_ne_loneMark (c : Char) : c.toNat ≠ loneMark := by
  have valid := c.valid
  simp only [UInt32.isValidChar, Nat.isValidChar] at valid
  simp only [loneMark, Char.toNat]
  omega

theorem spell_toNat {c : Char} (other : c ≠ mark) : spell c.toNat = [c] := by
  have unlike : c.toNat ≠ mark.toNat := fun equal =>
    other (Char.ext (UInt32.toNat_inj.mp equal))
  simp [spell, isSurrogate_toNat, toNat_ne_loneMark, unlike]

theorem spell_loneMark : spell loneMark = [mark] := by decide

theorem spell_mark : spell mark.toNat = [mark, mark] := by decide

theorem spell_half {d : Char} (half : isSurrogate (d.toNat - 0x100000) = true) :
    spell (d.toNat - 0x100000) = [mark, d] := by
  have large : d.toNat - 0x100000 + 0x100000 = d.toNat := by
    simp only [isSurrogate, Bool.and_eq_true, decide_eq_true_eq] at half
    omega
  simp only [spell, half, if_true, halfOf, large, Char.ofNat_toNat]

/-- Spelling the code points of a text gives the text. -/
theorem flatMap_spell_codePoints (text : List Char) : (codePoints text).flatMap spell = text := by
  fun_induction codePoints text with
  | case1 => rfl
  | case2 c =>
    by_cases marked : c = mark
    · simp [marked, spell_loneMark]
    · simp [marked, spell_toNat marked]
  | case3 c d rest other ih => simp [List.flatMap_cons, spell_toNat other, ih]
  | case4 c rest marked ih =>
    simp [List.flatMap_cons, spell_mark, ih, Decidable.not_not.mp marked]
  | case5 c d rest marked other half ih =>
    simp [List.flatMap_cons, spell_half half, ih, Decidable.not_not.mp marked]
  | case6 c d rest marked other unlike ih =>
    simp [List.flatMap_cons, spell_loneMark, ih, Decidable.not_not.mp marked]

/-- A text from characters that all mean themselves. -/
def ofCharacters (text : String) : String :=
  String.ofList (text.toList.flatMap fun c => spell c.toNat)

/-- The parts of a text with one code point each. -/
def units (text : String) : List String :=
  (codePoints text.toList).map fun code => String.ofList (spell code)

/-- One list stands somewhere in another one without gaps. -/
def occurs (part : List Nat) : List Nat → Bool
  | [] => part.isEmpty
  | code :: rest => part.isPrefixOf (code :: rest) || occurs part rest

theorem occurs_iff_isInfix (part whole : List Nat) : occurs part whole = true ↔ part <:+: whole := by
  induction whole with
  | nil => simp [occurs]
  | cons code rest ih => simp [occurs, List.infix_cons_iff, ih]

/-- A text has another one as a part. -/
def contains (text part : String) : Bool :=
  occurs (codePoints part.toList) (codePoints text.toList)

/-- The order of texts by their code points. -/
def atMost (left right : String) : Bool :=
  !List.lex (codePoints right.toList) (codePoints left.toList) Nat.blt

end SumProduct.Text
