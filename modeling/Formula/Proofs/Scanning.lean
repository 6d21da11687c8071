import Formula.Proofs.Lexing

/-! What a scanner takes off the front of a text. Each scanner takes a front part of the text it is
given, and takes the same part with the same result wherever nothing or a blank comes next: how far
a token reaches is decided by its own characters. -/
namespace Formula

namespace Unicode

variable {c d : Char}

theorem number_visible (numeric : isNumeric c) : isBlank c = false := by
  unfold isNumeric at numeric
  split at numeric
  case isTrue ascii =>
    have bounds := Lexeme.digit_bounds numeric
    have lies : inRanges [(48, 57)] c.toNat := by
      simp only [inRanges, List.any_cons, List.any_nil, Bool.or_false, Bool.and_eq_true,
        decide_eq_true_eq]
      exact bounds
    exact inRanges_apart (by decide) lies
  case isFalse => exact inRanges_apart (by decide +kernel) numeric

/-- No blank lies between the exclamation mark and the end of the ASCII letters and symbols. -/
theorem blank_bounds (blank : isBlank c) : c.toNat < 33 ∨ 132 < c.toNat := by
  by_contra within
  have lies : inRanges [(33, 132)] c.toNat := by
    simp only [inRanges, List.any_cons, List.any_nil, Bool.or_false, Bool.and_eq_true,
      decide_eq_true_eq]
    omega
  have visible : isBlank c = false := inRanges_apart (by decide) lies
  rw [visible] at blank
  cases blank

theorem ne_of_blank (blank : isBlank c) (visible : 33 ≤ d.toNat ∧ d.toNat ≤ 132) : c ≠ d := by
  rintro rfl
  have bounds := blank_bounds blank
  omega

end Unicode

namespace Token

variable {c : Char} {tail : List Char}

/-- Nothing comes next, or a blank does. -/
def SetOff (tail : List Char) : Prop := ∀ c, tail.head? = some c → Unicode.isBlank c

theorem setOff_nil : SetOff [] := nofun

theorem blank_noDigit (blank : Unicode.isBlank c) : c.isDigit = false := by
  by_contra digit
  have inside := Lexeme.digit_bounds (by simpa using digit)
  have outside := Unicode.blank_bounds blank
  omega

theorem blank_noName (blank : Unicode.isBlank c) : continuesName c = false := by
  by_contra goesOn
  simp only [continuesName, Bool.not_eq_false, Bool.or_eq_true, beq_iff_eq] at goesOn
  rcases goesOn with ((letter | numeric) | rfl) | rfl
  · have visible := (Unicode.letter_bounds letter).2
    rw [visible] at blank
    cases blank
  · rw [Unicode.number_visible numeric] at blank
    cases blank
  · cases blank
  · cases blank

theorem blank_noMark (blank : Unicode.isBlank c) : Literal.isDigitMark c = false := by
  have noMark : c ≠ '_' := Unicode.ne_of_blank blank (by decide)
  simp [Literal.isDigitMark, blank_noDigit blank, noMark]

theorem blank_noHexMark (blank : Unicode.isBlank c) : Literal.isHexMark c = false := by
  have noMark : c ≠ '_' := Unicode.ne_of_blank blank (by decide)
  have bounds := Unicode.blank_bounds blank
  have outside : ∀ low high : Char, 33 ≤ low.toNat → high.toNat ≤ 132 → ¬ (low ≤ c ∧ c ≤ high) := by
    rintro low high lower upper ⟨above, below⟩
    have above : low.toNat ≤ c.toNat := above
    have below : c.toNat ≤ high.toNat := below
    omega
  have noSmall := outside 'a' 'f' (by decide) (by decide)
  have noLarge := outside 'A' 'F' (by decide) (by decide)
  simp only [Literal.isHexMark, Literal.isHexDigit, blank_noDigit blank]
  simp only [Bool.false_or, Bool.or_eq_false_iff, Bool.and_eq_false_iff, decide_eq_false_iff_not,
    beq_eq_false_iff_ne]
  tauto

end Token

namespace Literal

section Quoted

variable {quote : Char} {unclosed : LexFault} {read skip length : Nat}
  {text front rest inside : List Char} {decoded : Char}

private theorem takeWhile_take {keep : Char → Bool} {count : Nat} (tail : List Char)
    (stops : (((front ++ rest).take count).takeWhile keep).length < front.length) :
    ((front ++ tail).take count).takeWhile keep = ((front ++ rest).take count).takeWhile keep := by
  induction front generalizing count with
  | nil => cases stops
  | cons c front ih =>
    cases count with
    | zero => rfl
    | succ count =>
      simp only [List.cons_append, List.take_succ_cons, List.takeWhile_cons] at stops ⊢
      by_cases kept : keep c
      · simp only [kept, ↓reduceIte, List.length_cons, Nat.add_lt_add_iff_right] at stops ⊢
        rw [ih stops]
      · simp [kept]

/-- An escape is read alike wherever more of the literal follows it. -/
theorem escape_front (ran : escape (front ++ rest) = .ok (decoded, length))
    (more : length < front.length) (tail : List Char) :
    escape (front ++ tail) = .ok (decoded, length) := by
  cases front with
  | nil => cases more
  | cons c front =>
    rw [List.cons_append, escape] at ran ⊢
    cases letter : letterEscape? c with
    | some denoted => simpa only [letter] using ran
    | none =>
      cases width : escapeWidth? c with
      | none => simp [letter, width] at ran
      | some bounds =>
        obtain ⟨least, greatest⟩ := bounds
        simp only [letter, width] at ran ⊢
        have stops :
            (((front ++ rest).take greatest).takeWhile isHexDigit).length < front.length := by
          split at ran
          · obtain ⟨-, rfl⟩ := Prod.mk.inj (Except.ok.inj ran)
            simp only [List.length_cons] at more
            omega
          · cases ran
        rw [takeWhile_take tail stops]
        exact ran

/-- A quoted literal reaches up to its closing quote, whatever comes behind that. -/
theorem body_front {count : Nat} (ran : body quote unclosed read skip text = .ok (inside, count)) :
    ∃ front behind, text = front ++ behind ∧ count = read + front.length ∧ skip < front.length ∧
      ∀ tail, body quote unclosed read skip (front ++ tail) = .ok (inside, count) := by
  induction text generalizing read skip inside count with
  | nil => cases skip <;> cases ran
  | cons c text ih =>
    cases skip with
    | succ skip =>
      rw [body] at ran
      obtain ⟨front, behind, rfl, rfl, more, again⟩ := ih ran
      refine ⟨c :: front, behind, rfl, ?_, ?_, fun tail => again tail⟩
      · simp only [List.length_cons]
        omega
      · simp only [List.length_cons]
        omega
    | zero =>
      rw [body] at ran
      by_cases closes : c = quote
      · simp only [closes, ↓reduceIte] at ran
        cases ran
        exact ⟨[c], text, rfl, rfl, Nat.zero_lt_one, fun tail => by simp [body, closes]⟩
      by_cases breaks : c = '\n' ∨ c = '\r'
      · simp [closes, breaks] at ran
      simp only [closes, breaks, ↓reduceIte] at ran
      by_cases escapes : c = '\\'
      · simp only [escapes, ↓reduceIte] at ran
        cases escaped : escape text with
        | error fault => simp [escaped] at ran
        | ok denoted =>
          obtain ⟨decoded, length⟩ := denoted
          simp only [escaped] at ran
          cases rest : body quote unclosed (read + 1) length text with
          | error fault => simp [rest, Except.map] at ran
          | ok found =>
            obtain ⟨inner, reached⟩ := found
            obtain ⟨front, behind, rfl, rfl, more, again⟩ := ih rest
            simp only [rest, Except.map, Except.ok.injEq, Prod.mk.injEq] at ran
            obtain ⟨rfl, rfl⟩ := ran
            refine ⟨c :: front, behind, rfl, ?_, Nat.zero_lt_succ _, fun tail => ?_⟩
            · simp only [List.length_cons]
              omega
            · have sameEscape := escape_front escaped more tail
              subst escapes
              simp [body, closes, sameEscape, again tail, Except.map]
      · simp only [escapes, ↓reduceIte] at ran
        cases rest : body quote unclosed (read + 1) 0 text with
        | error fault => simp [rest, Except.map] at ran
        | ok found =>
          obtain ⟨inner, reached⟩ := found
          obtain ⟨front, behind, rfl, rfl, -, again⟩ := ih rest
          simp only [rest, Except.map, Except.ok.injEq, Prod.mk.injEq] at ran
          obtain ⟨rfl, rfl⟩ := ran
          refine ⟨c :: front, behind, rfl, ?_, Nat.zero_lt_succ _, fun tail => ?_⟩
          · simp only [List.length_cons]
            omega
          · simp [body, closes, breaks, escapes, again tail, Except.map]

/-- A verbatim text reaches up to its closing quote, unless another quote comes right behind it. -/
theorem verbatim_front {count : Nat} (ran : verbatim read text = .ok (inside, count)) :
    ∃ front behind, text = front ++ behind ∧ count = read + front.length ∧ front ≠ [] ∧
      ∀ tail, tail.head? ≠ some '"' → verbatim read (front ++ tail) = .ok (inside, count) := by
  fun_induction verbatim read text generalizing inside count with
  | case1 => cases ran
  | case2 read rest ih =>
    cases later : verbatim (read + 2) rest with
    | error fault => simp [later, Except.map] at ran
    | ok found =>
      obtain ⟨inner, reached⟩ := found
      obtain ⟨front, behind, rfl, rfl, -, again⟩ := ih later
      simp only [later, Except.map, Except.ok.injEq, Prod.mk.injEq] at ran
      obtain ⟨rfl, rfl⟩ := ran
      refine ⟨'"' :: '"' :: front, behind, rfl, ?_, by simp, fun tail noQuote => ?_⟩
      · simp only [List.length_cons]
        omega
      · simp [verbatim, again tail noQuote, Except.map]
  | case3 read rest lone =>
    cases ran
    refine ⟨['"'], rest, rfl, rfl, by simp, fun tail noQuote => ?_⟩
    cases tail with
    | nil => rfl
    | cons next tail =>
      have other : next ≠ '"' := fun same => noQuote (by simp [same])
      rw [List.cons_append, List.nil_append, verbatim.eq_def]
      simp [other]
  | case4 read c rest notDouble noQuote ih =>
    cases later : verbatim (read + 1) rest with
    | error fault => simp [later, Except.map] at ran
    | ok found =>
      obtain ⟨inner, reached⟩ := found
      obtain ⟨front, behind, rfl, rfl, -, again⟩ := ih later
      simp only [later, Except.map, Except.ok.injEq, Prod.mk.injEq] at ran
      obtain ⟨rfl, rfl⟩ := ran
      refine ⟨c :: front, behind, rfl, ?_, by simp, fun tail open_ => ?_⟩
      · simp only [List.length_cons]
        omega
      · rw [List.cons_append, verbatim.eq_def]
        simp [noQuote, again tail open_, Except.map]

end Quoted

section Numbers

variable {text tail : List Char}

/-- What goes on while a condition holds, and what is left. -/
private theorem takeWhile_parts (keep : Char → Bool) (text : List Char) :
    ∃ behind, text = text.takeWhile keep ++ behind ∧
      ∀ c, behind.head? = some c → keep c = false := by
  refine ⟨text.dropWhile keep, List.takeWhile_append_dropWhile.symm, fun c first => ?_⟩
  have stopped := List.head?_dropWhile_not keep text
  rw [first] at stopped
  simpa using stopped

/-- A fraction as numbers have it: nothing, or a point and digits. -/
def IsFraction (part : List Char) : Prop :=
  part = [] ∨ ∃ c digits, part = '.' :: c :: digits ∧ c.isDigit ∧ ∀ d ∈ c :: digits, isDigitMark d

/-- The mark of an exponent: its letter and perhaps a sign. -/
def IsExponentMark (mark : List Char) : Prop :=
  ∃ letter, (letter = 'e' ∨ letter = 'E') ∧
    (mark = [letter] ∨ ∃ sign, (sign = '+' ∨ sign = '-') ∧ mark = [letter, sign])

private theorem fraction_parts (text : List Char) :
    ∃ behind, text = fraction text ++ behind ∧ IsFraction (fraction text) ∧
      (fraction text ≠ [] → ∀ c, behind.head? = some c → isDigitMark c = false) := by
  unfold fraction
  split
  case h_1 c rest =>
    by_cases digit : c.isDigit
    · rw [if_pos digit]
      have marked : isDigitMark c = true := by simp [isDigitMark, digit]
      obtain ⟨behind, parts, stops⟩ := takeWhile_parts isDigitMark (c :: rest)
      refine ⟨behind, congrArg ('.' :: ·) parts,
        .inr ⟨c, rest.takeWhile isDigitMark, ?_, digit, ?_⟩, fun _ => stops⟩
      · simp [marked]
      · intro d member
        rw [← List.takeWhile_cons_of_pos marked] at member
        exact List.all_eq_true.mp List.all_takeWhile d member
    · rw [if_neg digit]
      exact ⟨_, rfl, .inl rfl, fun some => absurd rfl some⟩
  case h_2 => exact ⟨_, rfl, .inl rfl, fun some => absurd rfl some⟩

private theorem fraction_append {part : List Char} (shape : IsFraction part)
    (stops : ∀ c, tail.head? = some c → c ≠ '.' ∧ isDigitMark c = false) :
    fraction (part ++ tail) = part := by
  rcases shape with rfl | ⟨c, digits, rfl, digit, marks⟩
  · cases tail with
    | nil => rfl
    | cons c tail =>
      have noPoint := (stops c rfl).1
      rw [List.nil_append, fraction.eq_def]
      split
      case h_1 same => exact absurd (List.cons.inj same).1 noPoint
      case h_2 => rfl
  · have whole := Lexeme.takeWhile_front marks fun c first => (stops c first).2
    rw [List.cons_append, List.cons_append, fraction, if_pos digit]
    exact congrArg ('.' :: ·) whole

private theorem exponentMark_parts (text : List Char) :
    ∃ behind, text = exponentMark text ++ behind ∧
      (exponentMark text = [] ∧ (∀ c, text.head? = some c → c ≠ 'e' ∧ c ≠ 'E') ∨
        IsExponentMark (exponentMark text)) := by
  unfold exponentMark
  split
  case h_1 c rest =>
    by_cases letter : c = 'e' ∨ c = 'E'
    · rw [if_pos letter]
      split
      case h_1 sign more =>
        by_cases signed : sign = '+' ∨ sign = '-'
        · rw [if_pos signed]
          exact ⟨more, rfl, .inr ⟨c, letter, .inr ⟨sign, signed, rfl⟩⟩⟩
        · rw [if_neg signed]
          exact ⟨_, rfl, .inr ⟨c, letter, .inl rfl⟩⟩
      case h_2 => exact ⟨_, rfl, .inr ⟨c, letter, .inl rfl⟩⟩
    · rw [if_neg letter]
      refine ⟨_, rfl, .inl ⟨rfl, fun d first => ?_⟩⟩
      cases first
      exact not_or.mp letter
  case h_2 => exact ⟨_, rfl, .inl ⟨rfl, nofun⟩⟩

/-- Before a digit the mark of an exponent is taken whole. -/
private theorem exponentMark_append {mark digits : List Char} {c : Char}
    (shape : IsExponentMark mark) (digit : c.isDigit) :
    exponentMark (mark ++ (c :: digits)) = mark := by
  obtain ⟨letter, isLetter, rfl | ⟨sign, signed, rfl⟩⟩ := shape
  · have noSign : ¬ (c = '+' ∨ c = '-') := by
      rintro (rfl | rfl) <;> cases digit
    simp [exponentMark, isLetter, noSign]
  · simp [exponentMark, isLetter, signed]

private theorem head_of_exponentMark {mark : List Char} {c : Char} (shape : IsExponentMark mark)
    (first : (mark ++ tail).head? = some c) : c ≠ '.' ∧ isDigitMark c = false := by
  obtain ⟨letter, isLetter, rfl | ⟨sign, -, rfl⟩⟩ := shape
  · cases first
    rcases isLetter with rfl | rfl <;> decide
  · cases first
    rcases isLetter with rfl | rfl <;> decide

/-- A text that does not go on with a number. -/
def Numeral.ClosedBy (number : Numeral) (tail : List Char) : Prop :=
  ∀ c, tail.head? = some c → c ≠ '.' ∧ isDigitMark c = false ∧
    (number.hasExponent = false → c ≠ 'e' ∧ c ≠ 'E')

private theorem numeral_mantissa {whole part : List Char} (marks : ∀ c ∈ whole, isDigitMark c)
    (shape : IsFraction part) (stops : ∀ c, tail.head? = some c → c ≠ '.' ∧ isDigitMark c = false) :
    (whole ++ part ++ tail).takeWhile isDigitMark = whole ∧ fraction (part ++ tail) = part := by
  constructor
  · rw [List.append_assoc]
    apply Lexeme.takeWhile_front marks
    intro c first
    rcases shape with rfl | ⟨d, digits, rfl, -⟩
    · exact (stops c first).2
    · cases first
      rfl
  · exact fraction_append shape stops

/-- A number without an exponent, and what is read of it. -/
private theorem numeral_plain {whole part : List Char} (marks : ∀ c ∈ whole, isDigitMark c)
    (shape : IsFraction part)
    (closed : Numeral.ClosedBy ⟨whole ++ part, !part.isEmpty, false⟩ tail) :
    numeral (whole ++ part ++ tail) = .ok ⟨whole ++ part, !part.isEmpty, false⟩ := by
  have stops : ∀ c, tail.head? = some c → c ≠ '.' ∧ isDigitMark c = false :=
    fun c first => ⟨(closed c first).1, (closed c first).2.1⟩
  obtain ⟨digits, point⟩ := numeral_mantissa marks shape stops
  have noMark : exponentMark tail = [] := by
    cases tail with
    | nil => rfl
    | cons c tail =>
      have noLetter := (closed c rfl).2.2 rfl
      simp [exponentMark, noLetter]
  simp only [numeral, digits]
  rw [List.append_assoc, List.drop_left, point, ← List.append_assoc, List.drop_left, noMark]
  rfl

private theorem numeral_scientific {whole part mark exponent : List Char} {c : Char}
    (marks : ∀ c ∈ whole, isDigitMark c) (shape : IsFraction part) (marked : IsExponentMark mark)
    (digit : c.isDigit) (more : ∀ d ∈ c :: exponent, isDigitMark d)
    (stops : ∀ d, tail.head? = some d → isDigitMark d = false) :
    numeral (whole ++ part ++ mark ++ (c :: exponent) ++ tail) =
      .ok ⟨whole ++ part ++ mark ++ (c :: exponent), true, true⟩ := by
  have stopsMantissa : ∀ d, (mark ++ (c :: exponent ++ tail)).head? = some d →
      d ≠ '.' ∧ isDigitMark d = false := fun d first => head_of_exponentMark marked first
  obtain ⟨digits, point⟩ := numeral_mantissa marks shape stopsMantissa
  have letter : exponentMark (mark ++ (c :: exponent ++ tail)) = mark :=
    exponentMark_append marked digit
  have some : mark.isEmpty = false := by
    obtain ⟨letter, -, rfl | ⟨sign, -, rfl⟩⟩ := marked <;> rfl
  have power := Lexeme.takeWhile_front more stops
  have parts : whole ++ part ++ mark ++ (c :: exponent) ++ tail =
      whole ++ part ++ (mark ++ (c :: exponent ++ tail)) := by simp
  simp only [numeral, parts, digits]
  rw [List.append_assoc whole part, List.drop_left, point, ← List.append_assoc, List.drop_left,
    letter, List.drop_left, power]
  simp [some, digit]

/-- A number up to its suffix is a front part of the text, and is read alike before everything that
does not go on with it. -/
theorem numeral_front {found : Numeral} (ran : numeral text = .ok found) :
    ∃ behind, text = found.written ++ behind ∧
      (∀ c, behind.head? = some c → isDigitMark c = false ∧
        (found.hasExponent = false → c ≠ 'e' ∧ c ≠ 'E')) ∧
      ∀ tail, found.ClosedBy tail → numeral (found.written ++ tail) = .ok found := by
  obtain ⟨afterWhole, splitWhole, stopsWhole⟩ := takeWhile_parts isDigitMark text
  have marks : ∀ c ∈ text.takeWhile isDigitMark, isDigitMark c :=
    List.all_eq_true.mp List.all_takeWhile
  simp only [numeral] at ran
  generalize text.takeWhile isDigitMark = whole at *
  subst splitWhole
  obtain ⟨afterPart, splitPart, shape, stopsPart⟩ := fraction_parts afterWhole
  rw [List.drop_left] at ran
  generalize fraction afterWhole = part at *
  subst splitPart
  obtain ⟨afterMark, splitMark, marked⟩ := exponentMark_parts afterPart
  rw [← List.append_assoc, List.drop_left] at ran
  rcases marked with ⟨none, noLetter⟩ | marked
  · rw [none] at ran
    cases ran
    refine ⟨afterPart, by simp, fun c first => ⟨?_, fun _ => noLetter c first⟩,
      fun tail closed => numeral_plain marks shape closed⟩
    by_cases plain : part = []
    · subst plain
      exact stopsWhole c first
    · exact stopsPart plain c first
  · generalize exponentMark afterPart = mark at *
    subst splitMark
    have some : mark.isEmpty = false := by
      obtain ⟨letter, -, rfl | ⟨sign, -, rfl⟩⟩ := marked <;> rfl
    obtain ⟨behind, split, stops⟩ := takeWhile_parts isDigitMark afterMark
    have more : ∀ c ∈ afterMark.takeWhile isDigitMark, isDigitMark c :=
      List.all_eq_true.mp List.all_takeWhile
    rw [List.drop_left, some] at ran
    generalize afterMark.takeWhile isDigitMark = exponent at *
    subst split
    cases exponent with
    | nil => cases ran
    | cons c exponent =>
      by_cases digit : c.isDigit
      · simp only [Bool.false_eq_true, ↓reduceIte, digit] at ran
        cases ran
        exact ⟨behind, by simp, fun c first => ⟨stops c first, by simp⟩, fun tail closed =>
          numeral_scientific marks shape marked digit more fun d first => (closed d first).2.1⟩
      · simp [digit] at ran

theorem numberScan_ok {written : List Char} {result : Except NumberFault Value} {found : Scan} :
    numberScan written result = .ok found ↔
      ∃ value, result = .ok value ∧ found = ⟨.number, written, some value, written.length⟩ := by
  cases result with
  | error fault => simp [numberScan]
  | ok value => simp [numberScan, eq_comm]

/-- A blank does not make the mark of a hexadecimal number. -/
private theorem isHex_front {front behind : List Char} (decimal : ¬ isHex (front ++ behind))
    (setOff : Token.SetOff tail) : ¬ isHex (front ++ tail) := by
  intro hex
  obtain ⟨x, rest, spelled, mark⟩ := Lexeme.isHex_iff.mp hex
  match front, spelled with
  | [], spelled =>
    have blank := setOff '0' (by rw [List.nil_append] at spelled; rw [spelled]; rfl)
    cases blank
  | [c], spelled =>
    obtain ⟨-, rfl⟩ := List.cons.inj spelled
    have blank := setOff x rfl
    rcases mark with rfl | rfl <;> cases blank
  | c :: d :: front, spelled =>
    obtain ⟨rfl, others⟩ := List.cons.inj spelled
    rw [← (List.cons.inj others).1] at mark
    exact decimal (Lexeme.isHex_iff.mpr ⟨d, _, rfl, mark⟩)

/-- Behind a number stands its suffix, and behind that nothing or a blank. -/
private theorem head_of_suffix {rest : List Char} {c : Char} (setOff : Token.SetOff tail)
    (first : (rest.takeWhile Token.continuesName ++ tail).head? = some c) :
    Unicode.isBlank c ∨ rest.head? = some c ∧ Token.continuesName c := by
  cases rest with
  | nil => exact .inl (setOff c first)
  | cons d rest =>
    by_cases goesOn : Token.continuesName d
    · rw [List.takeWhile_cons_of_pos goesOn] at first
      cases first
      exact .inr ⟨rfl, goesOn⟩
    · rw [List.takeWhile_cons_of_neg goesOn] at first
      exact .inl (setOff c first)

private theorem suffix_again {rest : List Char} (setOff : Token.SetOff tail) :
    (rest.takeWhile Token.continuesName ++ tail).takeWhile Token.continuesName =
      rest.takeWhile Token.continuesName :=
  Lexeme.takeWhile_front (List.all_eq_true.mp List.all_takeWhile) fun c first =>
    Token.blank_noName (setOff c first)

/-- A number is written in a front part of the text, and is read alike where it is set off. -/
def NumberInFront (text : List Char) (found : Scan) : Prop :=
  found.kind = .number ∧ found.length = found.lexeme.length ∧
    ∃ behind, text = found.lexeme ++ behind ∧ ∀ tail, Token.SetOff tail →
      number Token.continuesName (found.lexeme ++ tail) = .ok found

private theorem hexNumber_front {found : Scan} (hex : isHex text)
    (ran : number Token.continuesName text = .ok found) : NumberInFront text found := by
  rw [number, if_pos hex] at ran
  obtain ⟨x, rest, rfl, mark⟩ := Lexeme.isHex_iff.mp hex
  obtain ⟨behind, parts, stops⟩ := takeWhile_parts isHexMark rest
  have marks : ∀ c ∈ rest.takeWhile isHexMark, isHexMark c :=
    List.all_eq_true.mp List.all_takeWhile
  simp only [List.take_succ_cons, List.take_zero, List.drop_succ_cons, List.drop_zero,
    List.cons_append, List.nil_append, List.length_cons] at ran
  generalize rest.takeWhile isHexMark = digits at *
  subst parts
  rw [List.drop_left] at ran
  obtain ⟨value, valued, rfl⟩ := numberScan_ok.mp ran
  obtain ⟨left, spelled, -⟩ := takeWhile_parts Token.continuesName behind
  refine ⟨rfl, rfl, left, ?_, fun tail setOff => ?_⟩
  · simp only [List.cons_append, List.append_assoc, ← spelled]
  have again : (digits ++ (behind.takeWhile Token.continuesName ++ tail)).takeWhile isHexMark =
      digits := by
    refine Lexeme.takeWhile_front marks fun c first => ?_
    rcases head_of_suffix setOff first with blank | ⟨next, -⟩
    · exact Token.blank_noHexMark blank
    · exact stops c next
  have sameMark :
      isHex ('0' :: x :: (digits ++ (behind.takeWhile Token.continuesName ++ tail))) :=
    Lexeme.isHex_iff.mpr ⟨x, _, rfl, mark⟩
  rw [number]
  simp only [List.cons_append, List.append_assoc, sameMark, ↓reduceIte, List.take_succ_cons,
    List.take_zero, List.drop_succ_cons, List.drop_zero, List.nil_append, again, List.length_cons,
    List.drop_left, suffix_again setOff, valued]
  rfl

private theorem decimalNumber_front {found : Scan} (decimal : ¬ isHex text)
    (ran : number Token.continuesName text = .ok found) : NumberInFront text found := by
  rw [number, if_neg decimal] at ran
  split at ran
  case h_1 => cases ran
  case h_2 whole numbered =>
    obtain ⟨behind, parts, stops, again⟩ := numeral_front numbered
    subst parts
    rw [List.drop_left] at ran
    obtain ⟨value, valued, rfl⟩ := numberScan_ok.mp ran
    obtain ⟨left, spelled, -⟩ := takeWhile_parts Token.continuesName behind
    refine ⟨rfl, rfl, left, ?_, fun tail setOff => ?_⟩
    · simp only [List.append_assoc, ← spelled]
    have closed : whole.ClosedBy (behind.takeWhile Token.continuesName ++ tail) := by
      intro c first
      rcases head_of_suffix setOff first with blank | ⟨next, goesOn⟩
      · exact ⟨Unicode.ne_of_blank blank (by decide), Token.blank_noMark blank, fun _ =>
          ⟨Unicode.ne_of_blank blank (by decide), Unicode.ne_of_blank blank (by decide)⟩⟩
      · refine ⟨?_, stops c next⟩
        rintro rfl
        exact absurd goesOn (by decide)
    rw [spelled, ← List.append_assoc] at decimal
    have stillDecimal := isHex_front decimal setOff
    rw [number, if_neg stillDecimal]
    simp only [List.append_assoc, again _ closed, List.drop_left, suffix_again setOff, valued]
    rfl

theorem number_front {found : Scan} (ran : number Token.continuesName text = .ok found) :
    NumberInFront text found := by
  by_cases hex : isHex text
  · exact hexNumber_front hex ran
  · exact decimalNumber_front hex ran

end Numbers

end Literal

/-- The characters a lexeme was read from: those of the lexeme, except that a text or a character
stands in quotes and a name may stand behind an `@`. -/
def Scan.Spells (found : Scan) (written : List Char) : Prop :=
  found.kind = .string ∨ found.kind = .char ∨
    found.kind = .identifier ∧ written = '@' :: found.lexeme ∨ written = found.lexeme

namespace Token

variable {c : Char} {rest more tail : List Char} {found : Scan}

/-- What a scanner took: the character `c` and `more` behind it. It takes the same where these are
set off. -/
structure Cut (scanner : List Char → Except ScanFault Scan) (c : Char) (more : List Char)
    (found : Scan) : Prop where
  length : found.length = more.length + 1
  spells : found.Spells (c :: more)
  kind : found.kind ≠ .endOfInput
  again : ∀ tail, SetOff tail → scanner (more ++ tail) = .ok found

theorem text_cut (ran : Literal.text rest = .ok found) (c : Char) :
    ∃ more behind, rest = more ++ behind ∧ Cut Literal.text c more found := by
  unfold Literal.text at ran
  cases inside : Literal.body '"' .unterminatedString 1 0 rest with
  | error fault => simp [inside, Except.map] at ran
  | ok read =>
    obtain ⟨decoded, count⟩ := read
    obtain ⟨front, behind, rfl, rfl, -, again⟩ := Literal.body_front inside
    rw [inside] at ran
    cases ran
    refine ⟨front, behind, rfl, ?_, .inl rfl, nofun, fun tail _ => ?_⟩
    · exact Nat.add_comm ..
    · rw [Literal.text, again tail]
      rfl

theorem character_cut (ran : Literal.character rest = .ok found) (c : Char) :
    ∃ more behind, rest = more ++ behind ∧ Cut Literal.character c more found := by
  unfold Literal.character at ran
  split at ran
  case h_1 => cases ran
  case h_2 inside length read =>
    obtain ⟨front, behind, rfl, rfl, -, again⟩ := Literal.body_front read
    by_cases single : inside.length = 1
    · rw [if_pos single] at ran
      cases ran
      refine ⟨front, behind, rfl, ?_, .inr (.inl rfl), nofun, fun tail _ => ?_⟩
      · exact Nat.add_comm ..
      · simp [Literal.character, again tail, single]
    · rw [if_neg single] at ran
      cases ran

/-- The characters that a name takes. -/
theorem name_front (starts : startsName c) (rest : List Char) :
    ∃ more behind, rest = more ++ behind ∧ (c :: rest).takeWhile continuesName = c :: more ∧
      ∀ tail, SetOff tail → (c :: (more ++ tail)).takeWhile continuesName = c :: more := by
  have goesOn := continuesName_of_starts starts
  refine ⟨rest.takeWhile continuesName, rest.dropWhile continuesName,
    List.takeWhile_append_dropWhile.symm, List.takeWhile_cons_of_pos goesOn, fun tail setOff => ?_⟩
  rw [List.takeWhile_cons_of_pos goesOn]
  exact congrArg (c :: ·) (Lexeme.takeWhile_front (List.all_eq_true.mp List.all_takeWhile)
    fun d first => blank_noName (setOff d first))

theorem scanVerbatim_cut (ran : scanVerbatim rest = .ok found) :
    ∃ more behind, rest = more ++ behind ∧ Cut scanVerbatim '@' more found := by
  unfold scanVerbatim at ran
  split at ran
  case h_1 => cases ran
  case h_2 c rest =>
    by_cases starts : startsName c
    · rw [if_pos starts] at ran
      cases ran
      obtain ⟨more, behind, rfl, taken, again⟩ := name_front starts rest
      refine ⟨c :: more, behind, rfl, ?_, .inr (.inr (.inl ⟨rfl, ?_⟩)), nofun,
        fun tail setOff => ?_⟩
      · rw [taken, Nat.add_comm]
      · rw [taken]
      · rw [List.cons_append, scanVerbatim, if_pos starts, again tail setOff, taken]
    · rw [if_neg starts] at ran
      by_cases quote : c = '"'
      · rw [if_pos quote] at ran
        cases inside : Literal.verbatim 2 rest with
        | error fault => simp [inside, Except.map] at ran
        | ok read =>
          obtain ⟨decoded, count⟩ := read
          obtain ⟨front, behind, rfl, rfl, -, again⟩ := Literal.verbatim_front inside
          rw [inside] at ran
          cases ran
          refine ⟨c :: front, behind, rfl, ?_, .inl rfl, nofun, fun tail setOff => ?_⟩
          · simp only [List.length_cons]
            omega
          · have noQuote : tail.head? ≠ some '"' := fun first => nomatch setOff '"' first
            rw [List.cons_append, scanVerbatim, if_neg starts, if_pos quote, again tail noQuote]
            rfl
      · rw [if_neg quote] at ran
        cases ran

theorem symbol_chars : ∀ kind ∈ TokenKind.symbols, kind.text.toList ≠ [] ∧
    ∀ c ∈ kind.text.toList, Unicode.isBlank c = false := by
  -- As a Boolean over the lists, so that only the characters that occur are looked at.
  have checked : TokenKind.symbols.all (fun kind => !kind.text.toList.isEmpty &&
      kind.text.toList.all fun c => !Unicode.isBlank c) = true := by decide +kernel
  simpa using checked

/-- Of the symbols that begin a text, none is longer where the one that was found is set off. -/
private theorem symbol_again {kind other : TokenKind} {behind : List Char}
    (listed : other ∈ TokenKind.symbols) (setOff : SetOff tail)
    (passed : ¬ other.text.toList <+: kind.text.toList ++ behind) :
    ¬ other.text.toList <+: kind.text.toList ++ tail := by
  intro longer
  rcases List.prefix_or_prefix_of_prefix longer (List.prefix_append _ tail) with shorter | shorter
  · exact passed (shorter.trans (List.prefix_append _ behind))
  · obtain ⟨extra, spelled⟩ := shorter
    rw [← spelled, List.prefix_append_right_inj] at longer
    cases extra with
    | nil =>
      rw [← spelled, List.append_nil] at passed
      exact passed (List.prefix_append _ behind)
    | cons c extra =>
      obtain ⟨left, rfl⟩ := longer
      have visible := (symbol_chars other listed).2 c (by simp [← spelled])
      have blank := setOff c rfl
      rw [visible] at blank
      cases blank

theorem scanSymbol_cut (ran : scanSymbol c rest = .ok found) :
    ∃ more behind, rest = more ++ behind ∧ Cut (scanSymbol c) c more found := by
  unfold scanSymbol at ran
  split at ran
  case h_2 => cases ran
  case h_1 kind chosen =>
    cases ran
    obtain ⟨fits, before, after, listing, passed⟩ := List.find?_eq_some_iff_append.mp chosen
    have listed : kind ∈ TokenKind.symbols := List.mem_of_find?_eq_some chosen
    obtain ⟨behind, parts⟩ := List.isPrefixOf_iff_prefix.mp fits
    cases spelled : kind.text.toList with
    | nil => exact absurd spelled (symbol_chars kind listed).1
    | cons d more =>
      rw [spelled] at parts
      rw [List.cons_append] at parts
      obtain ⟨rfl, rfl⟩ := List.cons.inj parts
      refine ⟨more, behind, rfl, rfl, .inr (.inr (.inr rfl)), ?_, fun tail setOff => ?_⟩
      · rintro rfl
        exact absurd listed (by decide)
      have again : TokenKind.symbols.find? (fun kind => kind.text.toList.isPrefixOf
          (d :: (more ++ tail))) = some kind := by
        refine List.find?_eq_some_iff_append.mpr
          ⟨?_, before, after, listing, fun other member => ?_⟩
        · simp [spelled]
        · have out := passed other member
          have known : other ∈ TokenKind.symbols := by rw [listing]; simp [member]
          simp only [Bool.not_eq_true', ← Bool.not_eq_true, List.isPrefixOf_iff_prefix] at out ⊢
          rw [← List.cons_append, ← spelled] at out ⊢
          exact symbol_again known setOff out
      simp only [scanSymbol, again, spelled]

theorem startsNumber_iff : startsNumber c rest ↔
    c.isDigit ∨ c = '.' ∧ ∃ d, rest.head? = some d ∧ d.isDigit := by
  cases rest <;> simp [startsNumber]

theorem number_cut (starts : startsNumber c rest)
    (ran : Literal.number continuesName (c :: rest) = .ok found) :
    ∃ more behind, rest = more ++ behind ∧
      Cut (fun rest => Literal.number continuesName (c :: rest)) c more found ∧
      ∀ tail, startsNumber c (more ++ tail) := by
  obtain ⟨isNumber, length, behind, parts, again⟩ := Literal.number_front ran
  have alone := again [] setOff_nil
  cases lexeme : found.lexeme with
  | nil =>
    rw [lexeme] at alone
    cases alone
  | cons d more =>
    rw [lexeme] at parts again length alone
    obtain ⟨rfl, rfl⟩ := List.cons.inj parts
    refine ⟨more, behind, rfl, ⟨length, .inr (.inr (.inr lexeme.symm)), ?_, again⟩, fun tail => ?_⟩
    · rw [isNumber]
      decide
    · rcases startsNumber_iff.mp starts with digit | ⟨rfl, first, next, digit⟩
      · exact startsNumber_iff.mpr (.inl digit)
      · cases more with
        | nil => cases alone
        | cons d more => exact startsNumber_iff.mpr (.inr ⟨rfl, first, next, digit⟩)

/-- A symbol that is set off does not turn into a number. -/
private theorem startsNumber_setOff {behind : List Char}
    (noNumber : ¬ startsNumber c (more ++ behind)) (setOff : SetOff tail) :
    ¬ startsNumber c (more ++ tail) := by
  intro starts
  rcases startsNumber_iff.mp starts with digit | ⟨rfl, d, next, digit⟩
  · exact noNumber (startsNumber_iff.mpr (.inl digit))
  · cases more with
    | nil =>
      rw [blank_noDigit (setOff d next)] at digit
      cases digit
    | cons e more => exact noNumber (startsNumber_iff.mpr (.inr ⟨rfl, d, next, digit⟩))

private theorem keyword_kind (word : String) :
    (TokenKind.ofKeyword? word).getD .identifier ≠ .endOfInput := by
  cases found : TokenKind.ofKeyword? word with
  | none => nofun
  | some kind =>
    rintro rfl
    exact absurd (List.mem_of_find?_eq_some found) (by decide)

/-- The scanners that a first character leads to agree with the reading of a whole token. -/
private theorem Cut.scanned {scanner : List Char → Except ScanFault Scan} {behind : List Char}
    (cut : Cut scanner c more found)
    (chosen : ∀ tail, SetOff tail → scan c (more ++ tail) = scanner (more ++ tail)) :
    ∃ taken left, more ++ behind = taken ++ left ∧ Cut (scan c) c taken found :=
  ⟨more, behind, rfl, cut.length, cut.spells, cut.kind, fun tail setOff =>
    (chosen tail setOff).trans (cut.again tail setOff)⟩

/-- A token takes a front part of the text, and is read alike where it is set off. -/
theorem scan_cut (ran : scan c rest = .ok found) :
    ∃ more behind, rest = more ++ behind ∧ Cut (scan c) c more found := by
  unfold scan at ran
  by_cases quote : c = '"'
  · rw [if_pos quote] at ran
    obtain ⟨more, behind, rfl, cut⟩ := text_cut ran c
    exact cut.scanned fun tail _ => by rw [scan, if_pos quote]
  rw [if_neg quote] at ran
  by_cases single : c = '\''
  · rw [if_pos single] at ran
    obtain ⟨more, behind, rfl, cut⟩ := character_cut ran c
    exact cut.scanned fun tail _ => by rw [scan, if_neg quote, if_pos single]
  rw [if_neg single] at ran
  by_cases sign : c = '@'
  · rw [if_pos sign] at ran
    obtain ⟨more, behind, rfl, cut⟩ := scanVerbatim_cut ran
    subst sign
    exact cut.scanned fun tail _ => by rw [scan, if_neg quote, if_neg single, if_pos rfl]
  rw [if_neg sign] at ran
  by_cases numeric : startsNumber c rest
  · rw [if_pos numeric] at ran
    obtain ⟨more, behind, rfl, cut, starts⟩ := number_cut numeric ran
    exact cut.scanned fun tail _ => by
      rw [scan, if_neg quote, if_neg single, if_neg sign, if_pos (starts tail)]
  rw [if_neg numeric] at ran
  by_cases starts : startsName c
  · rw [if_pos starts] at ran
    cases ran
    obtain ⟨more, behind, rfl, taken, again⟩ := name_front starts rest
    refine ⟨more, behind, rfl, ?_, .inr (.inr (.inr taken.symm)), keyword_kind _,
      fun tail setOff => ?_⟩
    · rw [scanName, taken]
      rfl
    · rw [Lexeme.scan_name starts, scanName, scanName, again tail setOff, taken]
  · rw [if_neg starts] at ran
    obtain ⟨more, behind, rfl, cut⟩ := scanSymbol_cut ran
    exact cut.scanned fun tail setOff => by
      rw [scan, if_neg quote, if_neg single, if_neg sign,
        if_neg (startsNumber_setOff numeric setOff), if_neg starts]

end Token
end Formula
