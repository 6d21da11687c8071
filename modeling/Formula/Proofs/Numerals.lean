import Formula.Proofs.Quoting
import Formula.Proofs.Scanning
import Formula.Proofs.Words

/-! Integer literals. A literal is written as the digits of a number, in base ten or sixteen and
with underscores among them, and perhaps a suffix. It denotes that number, in the first of the kinds
that the suffix selects that holds it, and is at fault where none of them does. The exception is a
hexadecimal literal with the suffix for `long`, of which the digits are the bits. -/
namespace Formula

namespace Literal

/-- The bases in which integers are written. -/
inductive Radix where
  | decimal | hexadecimal
  deriving DecidableEq

namespace Radix

/-- The number of digits of a base. -/
def base : Radix → Nat
  | decimal => 10
  | hexadecimal => 16

/-- What stands in front of the digits. -/
def marks : Radix → List (List Char)
  | decimal => [[]]
  | hexadecimal => [['0', 'x'], ['0', 'X']]

/-- Digits of a base with underscores among them, read from the left, denote a number. In base ten
the first of them is no underscore. -/
def Denotes (radix : Radix) (written : List Char) (number : Nat) : Prop :=
  ∃ values, values ≠ [] ∧ (∀ value ∈ values, value < radix.base) ∧
    List.Forall₂ IsDigit (written.filter (· ≠ '_')) values ∧
    Nat.ofDigits radix.base values.reverse = number ∧
    match radix with
    | decimal => written.head? ≠ some '_'
    | hexadecimal => True

end Radix

/-- What the letters behind the digits ask for. -/
inductive Suffix where
  | bare | long | unsigned | unsignedLong
  deriving DecidableEq

namespace Suffix

/-- The ways to write a suffix. -/
def spellings : Suffix → List (List Char)
  | bare => [[]]
  | long => [['l'], ['L']]
  | unsigned => [['u'], ['U']]
  | unsignedLong => [['u', 'l'], ['u', 'L'], ['U', 'l'], ['U', 'L'],
      ['l', 'u'], ['l', 'U'], ['L', 'u'], ['L', 'U']]

/-- The kinds that a suffix selects, in the order in which a number is fitted to them. -/
def kinds : Suffix → Radix → List IntKind
  | bare, .decimal => [.int, .long]
  | bare, .hexadecimal => [.int, .uint, .long, .ulong]
  | long, _ => [.long]
  | unsigned, _ => [.uint, .ulong]
  | unsignedLong, _ => [.ulong]

/-- What is said of a number that is in none of the kinds. -/
def fault : Suffix → Radix → NumberFault
  | bare, .decimal => .integerTooLarge
  | _, _ => .outOfRange

end Suffix

/-- The whole of an integer literal. -/
def IsInteger (radix : Radix) (suffix : Suffix) (number : Nat) (written : List Char) : Prop :=
  ∃ mark ∈ radix.marks, ∃ digits, radix.Denotes digits number ∧
    ∃ spelling ∈ suffix.spellings, written = mark ++ (digits ++ spelling)

/-- What stands behind a literal does not go on with it: no character that a suffix could have, and
no fraction behind bare decimal digits. -/
def Ends (radix : Radix) (suffix : Suffix) (behind : List Char) : Prop :=
  Lexeme.EndsName behind ∧
    match radix, suffix with
    | .decimal, .bare => ∀ c more, behind = '.' :: c :: more → c.isDigit = false
    | _, _ => True

section Digits

variable {digits : List Char} {values : List Nat} {number : Nat} {radix : Radix}

theorem IsDigit.decimal {digit : Char} {value : Nat} (isDigit : IsDigit digit value)
    (small : value < 10) : digit.isDigit ∧ digit.toNat - '0'.toNat = value := by
  have reads := isDigit.hex.2
  unfold hexValue at reads
  split at reads
  case isTrue decimal => exact ⟨decimal, reads⟩
  case isFalse => split at reads <;> omega

theorem nonempty_of_values (some : values ≠ []) (spelled : List.Forall₂ IsDigit digits values) :
    digits.isEmpty = false := by
  cases spelled with
  | nil => exact absurd rfl some
  | cons => rfl

theorem digits_of_values (some : values ≠ []) (small : ∀ value ∈ values, value < 10)
    (spelled : List.Forall₂ IsDigit digits values) :
    Word.digits? digits = .some (Nat.ofDigits 10 values.reverse) := by
  have fold : ∀ total, (digits.foldlM (fun total c =>
        if c.isDigit then .some (total * 10 + (c.toNat - '0'.toNat)) else none) total : Option Nat)
      = .some (values.foldl (fun total value => value + 10 * total) total) := by
    clear some
    induction spelled with
    | nil => exact fun total => rfl
    | @cons c value digits values isDigit _ ih =>
      intro total
      have first := isDigit.decimal (small value List.mem_cons_self)
      have others := ih fun value member => small value (List.mem_cons_of_mem _ member)
      have step : total * 10 + (c.toNat - '0'.toNat) = value + 10 * total := by omega
      rw [List.foldlM_cons, if_pos first.1, List.foldl_cons, ← step]
      exact others _
  rw [Word.digits?, nonempty_of_values some spelled, if_neg Bool.false_ne_true, fold,
    Nat.ofDigits_eq_foldr, List.foldr_reverse]
  rfl

/-- Each character between the mark and the suffix is an underscore or a digit of the base. -/
theorem Radix.Denotes.char {c : Char} (denotes : radix.Denotes digits number)
    (member : c ∈ digits) :
    c = '_' ∨ ∃ value, value < radix.base ∧ IsDigit c value := by
  obtain ⟨values, -, small, spelled, -⟩ := denotes
  by_cases underscore : c = '_'
  · exact .inl underscore
  · right
    have kept : c ∈ digits.filter (· ≠ '_') := by simp [member, underscore]
    obtain ⟨place, inside, rfl⟩ := List.mem_iff_getElem.mp kept
    have lengths := spelled.length_eq
    exact ⟨values[place], small _ (List.getElem_mem _), spelled.get inside (lengths ▸ inside)⟩

end Digits

section Characters

variable {radix : Radix} {suffix : Suffix} {digits spelling behind : List Char} {number : Nat}
  {c : Char}

theorem hexMark_bound (mark : isHexMark c) : c.toNat < 128 := by
  have upTo (high : Char) (below : c ≤ high) : c.toNat ≤ high.toNat := below
  simp only [isHexMark, isHexDigit, Bool.or_eq_true, Bool.and_eq_true, decide_eq_true_eq,
    beq_iff_eq] at mark
  rcases mark with ((digit | ⟨-, small⟩) | ⟨-, large⟩) | rfl
  · have bounds := Lexeme.digit_bounds digit
    omega
  · exact Nat.lt_of_le_of_lt (upTo 'f' small) (by decide)
  · exact Nat.lt_of_le_of_lt (upTo 'F' large) (by decide)
  · decide

/-- What may stand among digits may also stand in a name. -/
theorem continuesName_of_hexMark (mark : isHexMark c) : Token.continuesName c := by
  have ascii : ∀ code < 128,
      isHexMark (Char.ofNat code) → Token.continuesName (Char.ofNat code) := by
    decide +kernel
  have continues := ascii c.toNat (hexMark_bound mark)
  rw [Char.ofNat_toNat] at continues
  exact continues mark

theorem isHexMark_of_digitMark (mark : isDigitMark c) : isHexMark c := by
  simp only [isDigitMark, Bool.or_eq_true] at mark
  rcases mark with digit | underscore
  · simp [isHexMark, isHexDigit, digit]
  · simp [isHexMark, underscore]

theorem spelling_letters (spelled : spelling ∈ suffix.spellings) :
    ∀ c ∈ spelling, c ∈ ['l', 'L', 'u', 'U'] := by
  have letters : suffix.spellings.all fun spelling =>
      spelling.all (['l', 'L', 'u', 'U'].contains ·) := by
    cases suffix <;> decide
  simp only [List.all_eq_true, List.contains_iff_mem] at letters
  exact letters spelling spelled

/-- Behind the digits stands a letter of the suffix, or what ends the literal. -/
theorem head_behind (spelled : spelling ∈ suffix.spellings) (ends : Lexeme.EndsName behind)
    (first : (spelling ++ behind).head? = some c) :
    c ∈ ['l', 'L', 'u', 'U'] ∨ Token.continuesName c = false := by
  cases spelling with
  | nil => exact .inr (ends c first)
  | cons letter others =>
    cases first
    exact .inl (spelling_letters spelled c List.mem_cons_self)

theorem spelling_whole (spelled : spelling ∈ suffix.spellings) (ends : Lexeme.EndsName behind) :
    (spelling ++ behind).takeWhile Token.continuesName = spelling := by
  refine Lexeme.takeWhile_front (fun c member => ?_) ends
  have letter := spelling_letters spelled c member
  simp only [List.mem_cons, List.not_mem_nil, or_false] at letter
  rcases letter with rfl | rfl | rfl | rfl <;> decide

/-- What stands behind the digits does not go on with them. -/
theorem behind_noMark (spelled : spelling ∈ suffix.spellings) (ends : Lexeme.EndsName behind)
    (first : (spelling ++ behind).head? = some c) :
    isHexMark c = false ∧ isDigitMark c = false ∧ c ∉ ['e', 'E', 'x', 'X'] := by
  rcases head_behind spelled ends first with letter | ending
  · simp only [List.mem_cons, List.not_mem_nil, or_false] at letter
    rcases letter with rfl | rfl | rfl | rfl <;> decide
  · have noHex : isHexMark c = false := by
      by_contra mark
      rw [continuesName_of_hexMark (by simpa using mark)] at ending
      cases ending
    refine ⟨noHex, ?_, fun member => ?_⟩
    · by_contra mark
      rw [isHexMark_of_digitMark (by simpa using mark)] at noHex
      cases noHex
    · simp only [List.mem_cons, List.not_mem_nil, or_false] at member
      rcases member with rfl | rfl | rfl | rfl <;> cases ending

theorem Radix.Denotes.hexMarks (denotes : radix.Denotes digits number) :
    ∀ c ∈ digits, isHexMark c := by
  intro c member
  rcases denotes.char member with rfl | ⟨value, -, isDigit⟩
  · decide
  · simp [isHexMark, isDigit.hex.1]

theorem Radix.Denotes.digitMarks (denotes : Radix.decimal.Denotes digits number) :
    ∀ c ∈ digits, isDigitMark c := by
  intro c member
  rcases denotes.char member with rfl | ⟨value, small, isDigit⟩
  · decide
  · simp [isDigitMark, (isDigit.decimal small).1]

/-- A decimal number begins with a digit. -/
theorem Radix.Denotes.begins (denotes : Radix.decimal.Denotes digits number) :
    ∃ c more, digits = c :: more ∧ c.isDigit := by
  cases digits with
  | nil =>
    obtain ⟨values, some, -, spelled, -⟩ := denotes
    cases spelled
    exact absurd rfl some
  | cons c more =>
    refine ⟨c, more, rfl, ?_⟩
    rcases denotes.char List.mem_cons_self with rfl | ⟨value, small, isDigit⟩
    · obtain ⟨-, -, -, -, -, noMark⟩ := denotes
      exact absurd rfl noMark
    · exact (isDigit.decimal small).1

theorem endsDigits_behind (spelled : spelling ∈ suffix.spellings)
    (ends : Lexeme.EndsName behind) : Lexeme.EndsDigits (spelling ++ behind) :=
  fun _ first => (behind_noMark spelled ends first).2

/-- The digits of a decimal literal are read up to its suffix. -/
theorem numeral_spelled (denotes : Radix.decimal.Denotes digits number)
    (spelled : spelling ∈ suffix.spellings) (ends : Ends .decimal suffix behind) :
    numeral (digits ++ (spelling ++ behind)) = .ok ⟨digits, false, false⟩ := by
  apply Lexeme.numeral_whole denotes.digitMarks (endsDigits_behind spelled ends.1)
  unfold fraction
  split
  case h_1 c more same =>
    cases spelling with
    | nil =>
      have bare : suffix = .bare := by
        cases suffix <;> first | rfl | exact absurd spelled (by decide)
      subst bare
      rw [ends.2 c more same]
      rfl
    | cons letter others =>
      obtain ⟨rfl, -⟩ := List.cons.inj same
      exact absurd (spelling_letters spelled '.' List.mem_cons_self) (by decide)
  case h_2 => rfl

theorem isHex_spelled (denotes : Radix.decimal.Denotes digits number)
    (spelled : spelling ∈ suffix.spellings) (ends : Lexeme.EndsName behind) :
    ¬ isHex (digits ++ (spelling ++ behind)) := by
  obtain ⟨c, more, same, -⟩ := denotes.begins
  apply Lexeme.isHex_whole denotes.digitMarks _ (endsDigits_behind spelled ends)
  rw [same]
  exact List.cons_ne_nil c more

end Characters

section Values

variable {radix : Radix} {suffix : Suffix} {digits spelling : List Char} {number : Nat}
  {kinds : List IntKind} {kind : IntKind}

/-- The first of some kinds that holds a number. -/
def holder? (kinds : List IntKind) (number : Nat) : Option IntKind :=
  kinds.find? fun kind => number ≤ kind.greatest

theorem firstFitting_holder (holds : holder? kinds number = some kind) :
    ∃ word : Word kind, word.val = number ∧
      firstFitting kinds number = some (.integer kind word) := by
  induction kinds with
  | nil => cases holds
  | cons first others ih =>
    by_cases fits : number ≤ first.greatest
    · rw [holder?, List.find?_cons_of_pos (by simpa using fits)] at holds
      cases holds
      have lower := kind.least_nonpos
      let word : Word kind := ⟨number, by omega, fits⟩
      exact ⟨word, rfl, @Lexeme.firstFitting_self kind word (Int.natCast_nonneg number) others⟩
    · rw [holder?, List.find?_cons_of_neg (by simpa using fits)] at holds
      rw [Lexeme.firstFitting_beyond (by omega)]
      exact ih holds

theorem firstFitting_none (none : holder? kinds number = none) :
    firstFitting kinds number = .none := by
  induction kinds with
  | nil => rfl
  | cons first others ih =>
    have beyond := List.find?_eq_none.mp none
    have fits : ¬ number ≤ first.greatest := by simpa using beyond first List.mem_cons_self
    rw [Lexeme.firstFitting_beyond (by omega)]
    exact ih (List.find?_eq_none.mpr fun kind member => beyond kind (List.mem_cons_of_mem _ member))

/-- A number in the first of its suffix's kinds that holds it. -/
def fitted (radix : Radix) (suffix : Suffix) (number : Nat) : Except NumberFault Value :=
  (firstFitting (suffix.kinds radix) number).elim (.error (suffix.fault radix)) .ok

/-- Hexadecimal digits with the suffix for `long` are bits, if there is room for them. -/
def AreBits (radix : Radix) (suffix : Suffix) (number : Nat) : Prop :=
  radix = .hexadecimal ∧ suffix = .long ∧ number < 2 ^ 64

instance : Decidable (AreBits radix suffix number) :=
  inferInstanceAs (Decidable (_ ∧ _))

/-- The value of an integer literal, or what is wrong with it. -/
def denoted (radix : Radix) (suffix : Suffix) (number : Nat) : Except NumberFault Value :=
  if AreBits radix suffix number then .ok (.integer .long (Word.ofInt .long number))
  else fitted radix suffix number

theorem inRange_eq (found : Option Value) :
    inRange found = found.elim (.error .outOfRange) .ok := by
  cases found <;> rfl

theorem dense_eq (digits : List Char) : dense digits = digits.filter (· ≠ '_') := by
  refine List.filter_congr fun c _ => ?_
  by_cases underscore : c = '_' <;> simp [underscore]

/-- The kinds of a suffix that is written are the kinds that its letters allow. -/
theorem suffixKinds_spelled (spelled : spelling ∈ suffix.spellings) (some : suffix ≠ .bare)
    (radix : Radix) :
    suffixKinds? spelling = .some (suffix.kinds radix) ∧ suffix.fault radix = .outOfRange ∧
      spelling ∉ [[], ['d'], ['D'], ['f'], ['F'], ['m'], ['M']] := by
  have known : ∀ spelling ∈ suffix.spellings,
      suffixKinds? spelling = .some (suffix.kinds radix) ∧ suffix.fault radix = .outOfRange ∧
        spelling ∉ [[], ['d'], ['D'], ['f'], ['F'], ['m'], ['M']] := by
    cases suffix with
    | bare => exact absurd rfl some
    | long => cases radix <;> decide
    | unsigned => cases radix <;> decide
    | unsignedLong => cases radix <;> decide
  exact known spelling spelled

theorem decimalValue_spelled (denotes : Radix.decimal.Denotes digits number)
    (spelled : spelling ∈ suffix.spellings) :
    decimalValue ⟨digits, false, false⟩ spelling = denoted .decimal suffix number := by
  have noBits : ¬ AreBits .decimal suffix number := fun bits => absurd bits.1 (by decide)
  rw [denoted, if_neg noBits]
  obtain ⟨values, some, small, reads, total, -⟩ := denotes
  have value : Word.digits? (dense digits) = .some number := by
    rw [dense_eq, digits_of_values some small reads]
    exact congrArg _ total
  by_cases bare : suffix = .bare
  · subst bare
    obtain rfl := List.mem_singleton.mp spelled
    simp only [decimalValue, value, Option.bind_some, Bool.false_eq_true, ↓reduceIte, fitted,
      Suffix.kinds, Suffix.fault]
    cases firstFitting [.int, .long] number <;> rfl
  · obtain ⟨kinds, fault, letters⟩ := suffixKinds_spelled spelled bare .decimal
    unfold decimalValue
    split
    case h_8 =>
      simp only [kinds, value, fitted, fault, Option.bind_some, Bool.false_eq_true, ↓reduceIte]
      exact inRange_eq _
    all_goals exact absurd (by decide) letters

/-- Sixteen hexadecimal digits make a number that one of the unsigned kinds holds, and no kind holds
more. -/
theorem fitted_beyond (beyond : 2 ^ 64 ≤ number) :
    fitted .hexadecimal suffix number = .error .outOfRange := by
  have tooLarge (kind : IntKind) : kind.greatest < number := by
    have bound : kind.greatest < (2 ^ 64 : Nat) := by cases kind <;> decide
    omega
  have none : holder? (suffix.kinds .hexadecimal) number = none := by
    refine List.find?_eq_none.mpr fun kind _ => ?_
    have passed := tooLarge kind
    simpa using passed
  rw [fitted, firstFitting_none none]
  cases suffix <;> rfl

theorem hexNumber_spelled (denotes : Radix.hexadecimal.Denotes digits number) :
    (dense digits).isEmpty = false ∧ hexNumber (dense digits) = number := by
  obtain ⟨values, some, -, reads, total, -⟩ := denotes
  rw [← dense_eq] at reads
  exact ⟨nonempty_of_values some reads, (hexNumber_of_digits reads).trans total⟩

theorem hexValueOf_spelled (denotes : Radix.hexadecimal.Denotes digits number)
    (spelled : spelling ∈ suffix.spellings) :
    hexValueOf (dense digits) spelling = denoted .hexadecimal suffix number := by
  obtain ⟨some, value⟩ := hexNumber_spelled denotes
  simp only [hexValueOf, some, value, Bool.false_eq_true, ↓reduceIte]
  by_cases beyond : pow2 64 ≤ number
  · have noBits : ¬ AreBits .hexadecimal suffix number := fun bits =>
      Nat.not_lt.mpr beyond bits.2.2
    rw [if_pos beyond, denoted, if_neg noBits, fitted_beyond beyond]
  rw [if_neg beyond]
  have room : number < 2 ^ 64 := Nat.not_le.mp beyond
  by_cases bare : suffix = .bare
  · subst bare
    obtain rfl := List.mem_singleton.mp spelled
    exact inRange_eq _
  · obtain ⟨kinds, -, letters⟩ := suffixKinds_spelled spelled bare .hexadecimal
    split
    case h_1 => exact absurd (by decide) letters
    case h_2 =>
      rw [kinds]
      cases suffix with
      | bare => exact absurd rfl bare
      | long =>
        rw [denoted, if_pos ⟨rfl, rfl, room⟩]
        rfl
      | unsigned => exact inRange_eq _
      | unsignedLong => exact inRange_eq _

end Values

section Literals

variable {radix : Radix} {suffix : Suffix} {number : Nat} {c : Char}
  {digits spelling rest behind : List Char}

theorem number_decimal (denotes : Radix.decimal.Denotes digits number)
    (spelled : spelling ∈ suffix.spellings) (ends : Ends .decimal suffix behind) :
    Literal.number Token.continuesName (digits ++ (spelling ++ behind)) =
      numberScan (digits ++ spelling) (denoted .decimal suffix number) := by
  rw [Literal.number, if_neg (isHex_spelled denotes spelled ends.1),
    numeral_spelled denotes spelled ends]
  simp only [List.drop_left, spelling_whole spelled ends.1, decimalValue_spelled denotes spelled]

theorem hexadecimal_mark {mark : List Char} (marked : mark ∈ Radix.hexadecimal.marks) :
    ∃ x, mark = ['0', x] ∧ (x = 'x' ∨ x = 'X') := by
  simp only [Radix.marks, List.mem_cons, List.not_mem_nil, or_false] at marked
  rcases marked with rfl | rfl
  · exact ⟨'x', rfl, .inl rfl⟩
  · exact ⟨'X', rfl, .inr rfl⟩

theorem number_hexadecimal {mark : List Char} (marked : mark ∈ Radix.hexadecimal.marks)
    (denotes : Radix.hexadecimal.Denotes digits number)
    (spelled : spelling ∈ suffix.spellings) (ends : Lexeme.EndsName behind) :
    Literal.number Token.continuesName (mark ++ (digits ++ (spelling ++ behind))) =
      numberScan (mark ++ (digits ++ spelling)) (denoted .hexadecimal suffix number) := by
  have whole : (digits ++ (spelling ++ behind)).takeWhile isHexMark = digits :=
    Lexeme.takeWhile_front denotes.hexMarks fun c first => (behind_noMark spelled ends first).1
  obtain ⟨x, rfl, isMark⟩ := hexadecimal_mark marked
  have hex : isHex (['0', x] ++ (digits ++ (spelling ++ behind))) :=
    Lexeme.isHex_iff.mpr ⟨x, _, rfl, isMark⟩
  rw [Literal.number, if_pos hex, ← hexValueOf_spelled denotes spelled]
  simp [whole, spelling_whole spelled ends]

theorem scan_denoted (literal : IsInteger radix suffix number (c :: rest))
    (ends : Ends radix suffix behind) :
    Token.scan c (rest ++ behind) = numberScan (c :: rest) (denoted radix suffix number) := by
  obtain ⟨mark, marked, digits, denotes, spelling, spelled, written⟩ := literal
  have front : c :: (rest ++ behind) = mark ++ (digits ++ (spelling ++ behind)) := by
    rw [← List.cons_append, written, List.append_assoc, List.append_assoc]
  cases radix with
  | decimal =>
    obtain rfl := List.mem_singleton.mp marked
    obtain ⟨d, more, rfl, digit⟩ := denotes.begins
    obtain ⟨rfl, -⟩ := List.cons.inj written
    rw [Lexeme.scan_digit digit, front, written]
    exact number_decimal denotes spelled ends
  | hexadecimal =>
    have digit : c.isDigit := by
      obtain ⟨x, rfl, -⟩ := hexadecimal_mark marked
      obtain ⟨rfl, -⟩ := List.cons.inj written
      rfl
    rw [Lexeme.scan_digit digit, front, written]
    exact number_hexadecimal marked denotes spelled ends.1

/-- An integer literal is read whole, with the number that its digits denote in the first kind of
its suffix that holds it, and is at fault if none of them does. Only under the hexadecimal suffix
for `long` are digits beyond that kind read all the same, as the bits of a negative number. -/
theorem scan_integer (literal : IsInteger radix suffix number (c :: rest))
    (ends : Ends radix suffix behind) :
    (∀ kind, holder? (suffix.kinds radix) number = some kind →
      ∃ word : Word kind, word.val = number ∧ Token.scan c (rest ++ behind) =
        .ok ⟨.number, c :: rest, some (.integer kind word), (c :: rest).length⟩) ∧
    (holder? (suffix.kinds radix) number = none →
      (AreBits radix suffix number →
        ∃ word : Word .long, word.Holds number ∧ Token.scan c (rest ++ behind) =
          .ok ⟨.number, c :: rest, some (.integer .long word), (c :: rest).length⟩) ∧
      (¬ AreBits radix suffix number → Token.scan c (rest ++ behind) =
        .error ⟨.invalidNumber (c :: rest) (suffix.fault radix), 0, (c :: rest).length⟩)) := by
  rw [scan_denoted literal ends, denoted]
  refine ⟨fun kind holds => ?held, fun none => ⟨fun bits => ?bits, fun noBits => ?beyond⟩⟩
  case held =>
    by_cases bits : AreBits radix suffix number
    · rw [if_pos bits]
      obtain ⟨rfl, rfl, -⟩ := bits
      obtain rfl := List.mem_singleton.mp (List.mem_of_find?_eq_some holds)
      have fits : (number : Int) ≤ IntKind.long.greatest := by
        simpa using List.find?_some holds
      have lower := IntKind.long.least_nonpos
      exact ⟨_, Word.val_ofInt (by omega) fits, rfl⟩
    · obtain ⟨word, same, fitting⟩ := firstFitting_holder holds
      rw [if_neg bits, fitted, fitting]
      exact ⟨word, same, rfl⟩
  case bits =>
    rw [if_pos bits]
    exact ⟨_, Word.ofInt_holds _ _, rfl⟩
  case beyond =>
    rw [if_neg noBits, fitted, firstFitting_none none]
    rfl

/-- `2147483648` in hexadecimal digits, one more than `int` holds. -/
theorem scan_integer_uint :
    IsInteger .hexadecimal .bare 2147483648 "0x8000_0000".toList ∧
    Ends .hexadecimal .bare "+1".toList ∧
    holder? (Suffix.kinds .bare .hexadecimal) 2147483648 = some .uint ∧
    ∃ word : Word .uint, word.val = 2147483648 ∧ Token.scan '0' "x8000_0000+1".toList =
      .ok ⟨.number, "0x8000_0000".toList, some (.integer .uint word), 11⟩ := by
  have denotes : Radix.hexadecimal.Denotes "8000_0000".toList 2147483648 := by
    refine ⟨[8, 0, 0, 0, 0, 0, 0, 0], by simp, by decide, ?_,
      by simp [Nat.ofDigits_cons, Radix.base], trivial⟩
    exact .cons (.inl rfl) (.cons (.inl rfl) (.cons (.inl rfl) (.cons (.inl rfl) (.cons (.inl rfl)
      (.cons (.inl rfl) (.cons (.inl rfl) (.cons (.inl rfl) .nil)))))))
  have literal : IsInteger .hexadecimal .bare 2147483648 ('0' :: "x8000_0000".toList) :=
    ⟨['0', 'x'], by decide, _, denotes, [], by decide, rfl⟩
  have ends : Ends .hexadecimal .bare "+1".toList := by
    refine ⟨fun c first => ?_, trivial⟩
    cases first
    decide
  have held : holder? (Suffix.kinds .bare .hexadecimal) 2147483648 = some .uint := by decide
  exact ⟨literal, ends, held, (scan_integer literal ends).1 .uint held⟩

/-- The greatest number of sixteen hexadecimal digits is no `long`, and is read as `-1`. -/
theorem scan_integer_bits :
    IsInteger .hexadecimal .long 18446744073709551615 "0xFFFFFFFFFFFFFFFFL".toList ∧
    holder? (Suffix.kinds .long .hexadecimal) 18446744073709551615 = none ∧
    Token.scan '0' "xFFFFFFFFFFFFFFFFL".toList = .ok ⟨.number, "0xFFFFFFFFFFFFFFFFL".toList,
      some (.integer .long (Word.ofInt .long (-1))), 19⟩ := by
  have denotes : Radix.hexadecimal.Denotes (List.replicate 16 'F') 18446744073709551615 := by
    have greatest : IsDigit 'F' 15 := .inr rfl
    refine ⟨List.replicate 16 15, by simp, by decide, ?_, by decide, trivial⟩
    simp [List.replicate, greatest]
  have literal : IsInteger .hexadecimal .long 18446744073709551615
      ('0' :: "xFFFFFFFFFFFFFFFFL".toList) :=
    ⟨['0', 'x'], by decide, _, denotes, ['L'], by decide, by decide⟩
  have ends : Ends .hexadecimal .long [] := ⟨fun c first => absurd first (by simp), trivial⟩
  refine ⟨literal, by decide, ?_⟩
  have scanned := scan_denoted literal ends
  rw [List.append_nil] at scanned
  have wraps : Word.ofInt .long (18446744073709551615 : Nat) = Word.ofInt .long (-1) := by decide
  rw [scanned, denoted, if_pos (by decide), wraps]
  rfl

end Literals

end Literal
end Formula
