import Formula.Token.Lexer
import Mathlib.Data.List.Forall2
import Mathlib.Tactic.Tauto

/-! What the lexer makes of a text. Of every text, the tokens are proper: a name is not empty and a
number denotes a primitive value. Of a text that is written in lexemes with one space between them,
the tokens are those lexemes, one by one, and then the end. -/
namespace Formula

/-- A name is not empty, and a number denotes a primitive value. -/
structure Token.Proper (token : Token) : Prop where
  name : token.kind = .identifier → token.lexeme ≠ ""
  number : token.number = some value → value.kind?.isSome

namespace Literal

theorem firstFitting_primitive {kinds : List IntKind} {n : Nat} {value : Value}
    (fits : firstFitting kinds n = some value) : value.kind?.isSome := by
  obtain ⟨kind, -, found⟩ := List.exists_of_findSome?_eq_some fits
  obtain ⟨word, -, rfl⟩ := Option.map_eq_some_iff.mp found
  rfl

theorem inRange_ok {result : Option Value} {value : Value} :
    inRange result = .ok value ↔ result = some value := by
  cases result <;> simp [inRange]

private theorem digits_primitive {digits : List Char} {kinds : List IntKind} {value : Value}
    (fits : (Word.digits? digits).bind (firstFitting kinds) = some value) :
    value.kind?.isSome := by
  obtain ⟨n, -, fits⟩ := Option.bind_eq_some_iff.mp fits
  exact firstFitting_primitive fits

theorem decimalValue_primitive {found : Numeral} {suffix : List Char} {value : Value}
    (read : decimalValue found suffix = .ok value) : value.kind?.isSome := by
  unfold decimalValue at read
  simp only at read
  split at read
  case h_1 =>
    split at read
    case isTrue =>
      obtain ⟨x, -, rfl⟩ := Option.map_eq_some_iff.mp (inRange_ok.mp read)
      rfl
    case isFalse =>
      split at read
      case h_1 fits => cases read; exact digits_primitive fits
      case h_2 => cases read
  case h_8 =>
    split at read
    case isTrue => cases read
    case isFalse =>
      split at read
      case h_1 => exact digits_primitive (inRange_ok.mp read)
      case h_2 => cases read
  all_goals
    obtain ⟨x, -, rfl⟩ := Option.map_eq_some_iff.mp (inRange_ok.mp read)
    rfl

theorem hexValueOf_primitive {digits suffix : List Char} {value : Value}
    (read : hexValueOf digits suffix = .ok value) : value.kind?.isSome := by
  unfold hexValueOf at read
  simp only at read
  split at read
  case isTrue => cases read
  case isFalse =>
    split at read
    case isTrue => cases read
    case isFalse =>
      split at read
      case h_1 => exact firstFitting_primitive (inRange_ok.mp read)
      case h_2 =>
        split at read
        case h_1 => cases read; rfl
        case h_2 => exact firstFitting_primitive (inRange_ok.mp read)
        case h_3 => cases read

end Literal

/-- What the lexer reads of a proper token. -/
structure Scan.Proper (found : Scan) : Prop where
  name : found.kind = .identifier → found.lexeme ≠ []
  number : found.number = some value → value.kind?.isSome

namespace Token

theorem scan_word {kind : TokenKind} {lexeme : List Char} {length : Nat}
    (noName : kind ≠ .identifier) : Scan.Proper ⟨kind, lexeme, none, length⟩ :=
  ⟨fun isName => absurd isName noName, nofun⟩

theorem numberScan_proper {written : List Char} {result : Except NumberFault Value} {found : Scan}
    (primitive : ∀ value, result = .ok value → value.kind?.isSome)
    (read : Literal.numberScan written result = .ok found) : found.Proper := by
  unfold Literal.numberScan at read
  split at read
  case h_1 value =>
    cases read
    exact ⟨nofun, fun {other} same => by cases same; exact primitive value rfl⟩
  case h_2 => cases read

private theorem takeWhile_ne_nil {keep : Char → Bool} {c : Char} {rest : List Char} (kept : keep c) :
    (c :: rest).takeWhile keep ≠ [] := by
  simp [kept]

theorem continuesName_of_starts {c : Char} (starts : startsName c) : continuesName c := by
  unfold startsName at starts
  unfold continuesName
  simp only [Bool.or_eq_true] at starts ⊢
  tauto

theorem scanVerbatim_proper {rest : List Char} {found : Scan}
    (read : scanVerbatim rest = .ok found) : found.Proper := by
  unfold scanVerbatim at read
  split at read
  case h_1 => cases read
  case h_2 c rest =>
    split at read
    case isTrue starts =>
      cases read
      exact ⟨fun _ => takeWhile_ne_nil (continuesName_of_starts starts), nofun⟩
    case isFalse =>
      split at read
      case isTrue =>
        cases inside : Literal.verbatim 2 rest with
        | error fault => simp [inside, Except.map] at read
        | ok text =>
          rw [inside] at read
          cases read
          exact scan_word (by simp)
      case isFalse => cases read

theorem scanSymbol_proper {c : Char} {rest : List Char} {found : Scan}
    (read : scanSymbol c rest = .ok found) : found.Proper := by
  unfold scanSymbol at read
  split at read
  case h_1 kind chosen =>
    cases read
    have listed := List.mem_of_find?_eq_some chosen
    refine scan_word fun isName => ?_
    rw [isName] at listed
    exact absurd listed (by decide)
  case h_2 => cases read

theorem number_proper {isSuffix : Char → Bool} {text : List Char} {found : Scan}
    (read : Literal.number isSuffix text = .ok found) : found.Proper := by
  unfold Literal.number at read
  split at read
  case isTrue => exact numberScan_proper (fun _ => Literal.hexValueOf_primitive) read
  case isFalse =>
    split at read
    case h_1 => simp [Literal.numberScan] at read
    case h_2 => exact numberScan_proper (fun _ => Literal.decimalValue_primitive) read

theorem scan_proper {c : Char} {rest : List Char} {found : Scan} (read : scan c rest = .ok found) :
    found.Proper := by
  unfold scan at read
  split at read
  case isTrue =>
    unfold Literal.text at read
    cases inside : Literal.body '"' .unterminatedString 1 0 rest with
    | error fault => simp [inside, Except.map] at read
    | ok text =>
      rw [inside] at read
      cases read
      exact scan_word (by simp)
  case isFalse =>
    split at read
    case isTrue =>
      unfold Literal.character at read
      split at read
      case h_1 => cases read
      case h_2 =>
        split at read
        case isTrue => cases read; exact scan_word (by simp)
        case isFalse => cases read
    case isFalse =>
      split at read
      case isTrue => exact scanVerbatim_proper read
      case isFalse =>
        split at read
        case isTrue => exact number_proper read
        case isFalse =>
          split at read
          case isTrue starts =>
            cases read
            exact ⟨fun _ => takeWhile_ne_nil (continuesName_of_starts starts), nofun⟩
          case isFalse => exact scanSymbol_proper read

theorem word_proper {kind : TokenKind} {lexeme : String} {span : Span}
    (noName : kind ≠ .identifier) : (word kind lexeme span).Proper :=
  ⟨fun isName => absurd isName noName, nofun⟩

theorem readFrom_proper (fuel : Nat) (cursor : Cursor) :
    ∀ token ∈ (readFrom fuel cursor).1, token.Proper := by
  induction fuel generalizing cursor with
  | zero => simp [readFrom]
  | succ fuel ih =>
    unfold readFrom
    split
    case h_1 => simp
    case h_2 skipped _ =>
      simp only
      split
      case h_1 => simpa using word_proper (by simp)
      case h_2 c rest _ =>
        split
        case h_1 => simp
        case h_2 found read =>
          intro token member
          rcases List.mem_cons.mp member with rfl | member
          · have proper := scan_proper read
            refine ⟨fun isName => ?_, proper.number⟩
            simpa [ofScan] using proper.name isName
          · exact ih _ token member

theorem tokenize_proper {source : String} {tokens : List Token}
    (read : tokenize source = .ok tokens) : ∀ token ∈ tokens, token.Proper := by
  unfold tokenize at read
  split at read
  case h_1 => cases read
  case h_2 all =>
    cases read
    have proper := readFrom_proper (source.toList.length + 1) (Cursor.ofSource source)
    rw [readAll] at all
    rwa [all] at proper

end Token

namespace Unicode

/-- Ranges that do not meet share no code point. -/
theorem inRanges_apart {first second : List Range} {code : Nat}
    (apart : first.all fun a => second.all fun b => a.2 < b.1 || b.2 < a.1)
    (lies : inRanges first code) : inRanges second code = false := by
  simp only [inRanges, List.any_eq_true, Bool.and_eq_true, decide_eq_true_eq] at lies
  obtain ⟨a, listed, lower, upper⟩ := lies
  simp only [inRanges, List.any_eq_false, Bool.and_eq_true, decide_eq_true_eq]
  rintro b member ⟨above, below⟩
  simp only [List.all_eq_true, Bool.or_eq_true, decide_eq_true_eq] at apart
  rcases apart a listed b member with before | behind <;> omega

theorem alpha_bound {c : Char} (letter : c.isAlpha) : 65 ≤ c.toNat := by
  have either : (decide (c.val ≥ 'A'.val ∧ c.val ≤ 'Z'.val)
      || (decide (c.val ≥ 'a'.val) && decide (c.val ≤ 'z'.val))) = true := letter
  simp only [Bool.or_eq_true, Bool.and_eq_true, decide_eq_true_eq, ge_iff_le,
    UInt32.le_iff_toNat_le] at either
  have upper : 'A'.val.toNat = 65 := rfl
  have lower : 'a'.val.toNat = 97 := rfl
  change _ ≤ c.val.toNat
  omega

/-- No letter is a blank, and the letters begin behind the digits and most symbols. -/
theorem letter_bounds {c : Char} (letter : isLetter c) : 65 ≤ c.toNat ∧ isBlank c = false := by
  unfold isLetter at letter
  split at letter
  case isTrue ascii =>
    have lower := alpha_bound letter
    have lies : inRanges [(65, 127)] c.toNat := by
      simp only [inRanges, List.any_cons, List.any_nil, Bool.or_false, Bool.and_eq_true,
        decide_eq_true_eq]
      omega
    exact ⟨lower, inRanges_apart (by decide) lies⟩
  case isFalse =>
    have lower : 65 ≤ c.toNat := by omega
    exact ⟨lower, inRanges_apart (by decide +kernel) letter⟩

end Unicode

/-- What a written formula is made of. -/
inductive Lexeme where
  | name (text : String)
  | integer (kind : IntKind) (word : Word kind)
  | bool (value : Bool)
  /-- Punctuation or an operator. -/
  | symbol (kind : TokenKind)
  deriving DecidableEq

namespace Lexeme

/-- Whether a text is read as a name: it begins and goes on as names do and is no keyword. -/
def isName (text : String) : Bool :=
  match text.toList with
  | [] => false
  | c :: rest =>
    Token.startsName c && rest.all Token.continuesName && (TokenKind.ofKeyword? text).isNone

/-- The suffix that an integer literal needs to be of a kind. -/
def suffix : IntKind → Int → List Char
  | .uint, _ => ['U']
  | .long, n => if n ≤ IntKind.int.greatest then ['L'] else []
  | .ulong, n => if n ≤ IntKind.uint.greatest then ['U', 'L'] else ['U']
  | _, _ => []

/-- How a lexeme is written. -/
def chars : Lexeme → List Char
  | name text => text.toList
  | integer kind word => Nat.toDigits 10 word.val.toNat ++ suffix kind word.val
  | bool value => (if value then TokenKind.trueWord else .falseWord).text.toList
  | symbol kind => kind.text.toList

/-- The kind of token that a lexeme is read as. -/
def kind : Lexeme → TokenKind
  | name _ => .identifier
  | integer _ _ => .number
  | bool value => if value then .trueWord else .falseWord
  | symbol kind => kind

/-- What a number denotes. -/
def number : Lexeme → Option Value
  | integer kind word => some (.integer kind word)
  | _ => none

/-- The text of a name. -/
def name? : Lexeme → Option String
  | name text => some text
  | _ => none

/-- A lexeme that can be written: a literal is not negative and of a kind that literals have. -/
def Writable : Lexeme → Prop
  | name text => isName text
  | integer kind word => 0 ≤ word.val ∧ kind ∈ [.int, .uint, .long, .ulong]
  | bool _ => True
  | symbol kind => kind ∈ TokenKind.symbols

instance : DecidablePred Writable
  | name text => inferInstanceAs (Decidable (isName text = true))
  | integer kind word =>
    inferInstanceAs (Decidable (0 ≤ word.val ∧ kind ∈ [.int, .uint, .long, .ulong]))
  | bool _ => .isTrue trivial
  | symbol kind => inferInstanceAs (Decidable (kind ∈ TokenKind.symbols))

/-- The token that a lexeme is read as, wherever it stands. -/
def Matches (lexeme : Lexeme) (token : Token) : Prop :=
  token.kind = lexeme.kind ∧ token.lexeme = String.ofList lexeme.chars ∧
    token.number = lexeme.number

/-- Lexemes with one space between them. -/
def spaced : List Lexeme → List Char
  | [] => []
  | [only] => only.chars
  | first :: rest => first.chars ++ ' ' :: spaced rest

/-- The text of lexemes. -/
def text (lexemes : List Lexeme) : String := String.ofList (spaced lexemes)

/-- Nothing follows, or a space does. -/
def Apart (rest : List Char) : Prop := rest = [] ∨ ∃ more, rest = ' ' :: more

end Lexeme

namespace Lexeme

variable {rest : List Char}

theorem takeWhile_front {keep : Char → Bool} {front : List Char} (kept : ∀ c ∈ front, keep c)
    (stops : ∀ c, rest.head? = some c → keep c = false) :
    (front ++ rest).takeWhile keep = front := by
  rw [List.takeWhile_append_of_pos kept]
  cases rest with
  | nil => simp
  | cons c more => simp [stops c rfl]

theorem Apart.head {c : Char} (apart : Apart rest) (first : rest.head? = some c) : c = ' ' := by
  obtain rfl | ⟨more, rfl⟩ := apart
  · cases first
  · cases first
    rfl

theorem digits_total {digits : List Char} (all : ∀ c ∈ digits, c.isDigit) (total : Nat) :
    (digits.foldlM (fun total c =>
      if c.isDigit then some (total * 10 + (c.toNat - '0'.toNat)) else none) total : Option Nat)
      = some (Nat.ofDigitChars 10 digits total) := by
  induction digits generalizing total with
  | nil => rfl
  | cons c digits ih =>
    have isDigit := all c List.mem_cons_self
    have others := fun c member => all c (List.mem_cons_of_mem _ member)
    rw [List.foldlM_cons, if_pos isDigit, Nat.ofDigitChars_cons, Nat.mul_comm]
    exact ih others _

theorem digits_toDigits (n : Nat) : Word.digits? (Nat.toDigits 10 n) = some n := by
  have all : ∀ c ∈ Nat.toDigits 10 n, c.isDigit := fun c member =>
    Nat.isDigit_of_mem_toDigits (by decide) (by decide) member
  have some : ¬ (Nat.toDigits 10 n).isEmpty := by simp [Nat.toDigits_ne_nil]
  rw [Word.digits?, if_neg some, digits_total all, Nat.ofDigitChars_ten_toDigits]

theorem ofInt_val {kind : IntKind} (word : Word kind) : Word.ofInt? kind word.val = some word := by
  have range : kind.least ≤ word.val ∧ word.val ≤ kind.greatest := ⟨word.least_le, word.le_greatest⟩
  simp [Word.ofInt?, range]


open Token in
/-- The character that begins a name begins nothing else. -/
theorem startsName_bounds {c : Char} (starts : startsName c) :
    (65 ≤ c.toNat ∨ c = '$') ∧ Unicode.isBlank c = false := by
  simp only [startsName, Bool.or_eq_true, beq_iff_eq] at starts
  rcases starts with (letter | rfl) | rfl
  · have bounds := Unicode.letter_bounds letter
    exact ⟨.inl bounds.1, bounds.2⟩
  · decide
  · decide

open Token in
theorem gap_of_visible {c : Char} (visible : Unicode.isBlank c = false) (noSlash : c ≠ '/')
    (read : Nat) (rest : List Char) : gapFrom .blanks read (c :: rest) = .ok read := by
  rw [gapFrom.eq_def]
  split <;> simp_all

open Token in
theorem scan_name {c : Char} (starts : startsName c) (rest : List Char) :
    scan c rest = .ok (scanName (c :: rest)) := by
  have bounds := (startsName_bounds starts).1
  have other : ∀ d : Char, d.toNat < 65 → d ≠ '$' → c ≠ d := by
    rintro d low noDollar rfl
    rcases bounds with high | same
    · omega
    · exact noDollar same
  have noDigit : c.isDigit = false := by
    rcases bounds with high | rfl
    · simp only [Char.isDigit, Bool.and_eq_false_iff, decide_eq_false_iff_not, UInt32.le_iff_toNat_le]
      right
      have nine : '9'.val.toNat = 57 := rfl
      change ¬ c.toNat ≤ _
      omega
    · rfl
  have noNumber : startsNumber c rest = false := by
    simp [startsNumber, noDigit, other '.' (by decide) (by decide)]
  simp [scan, other '"' (by decide) (by decide), other '\'' (by decide) (by decide),
    other '@' (by decide) (by decide), noNumber, starts]

/-- What is read at the start of a text: nothing is skipped, and then a lexeme is taken whole. -/
structure Taken (lexeme : Lexeme) (rest : List Char) : Prop where
  gap : ∀ read, Token.gapFrom .blanks read (lexeme.chars ++ rest) = .ok read
  scan : ∃ c front, lexeme.chars = c :: front ∧ Token.scan c (front ++ rest) =
    .ok ⟨lexeme.kind, lexeme.chars, lexeme.number, lexeme.chars.length⟩

/-- What stands here does not go on with a name. -/
def EndsName (rest : List Char) : Prop := ∀ c, rest.head? = some c → Token.continuesName c = false

theorem Apart.endsName (apart : Apart rest) : EndsName rest := by
  intro c first
  rw [apart.head first]
  decide

theorem taken_word {word : String} {c : Char} {front : List Char} {kind : TokenKind}
    (spelled : word.toList = c :: front) (starts : Token.startsName c)
    (goesOn : front.all Token.continuesName)
    (isKind : (TokenKind.ofKeyword? word).getD .identifier = kind) (ends : EndsName rest) :
    (∀ read, Token.gapFrom .blanks read (word.toList ++ rest) = .ok read) ∧
      Token.scan c (front ++ rest) = .ok ⟨kind, word.toList, none, word.toList.length⟩ := by
  have all : ∀ d ∈ c :: front, Token.continuesName d := by
    intro d member
    rcases List.mem_cons.mp member with rfl | member
    · exact Token.continuesName_of_starts starts
    · exact List.all_eq_true.mp goesOn d member
  have bounds := startsName_bounds starts
  have noSlash : c ≠ '/' := by
    rintro rfl
    rcases bounds.1 with high | same
    · exact absurd high (by decide)
    · exact absurd same (by decide)
  constructor
  · rw [spelled]
    exact fun read => gap_of_visible bounds.2 noSlash read _
  · have whole : (c :: (front ++ rest)).takeWhile Token.continuesName = c :: front :=
      takeWhile_front all ends
    rw [scan_name starts, Token.scanName, whole, ← spelled, String.ofList_toList, isKind]

/-- A name is taken whole in front of what ends it. -/
theorem taken_name {text : String} (named : isName text) (ends : EndsName rest) :
    Taken (.name text) rest := by
  unfold isName at named
  split at named
  case h_1 => cases named
  case h_2 c front spelled =>
    simp only [Bool.and_eq_true, Option.isNone_iff_eq_none] at named
    obtain ⟨⟨starts, goesOn⟩, noKeyword⟩ := named
    have taken := taken_word spelled starts goesOn (by rw [noKeyword]) ends
    exact ⟨taken.1, c, front, spelled, taken.2⟩

theorem taken_symbol {kind : TokenKind} (listed : kind ∈ TokenKind.symbols) (apart : Apart rest) :
    Taken (.symbol kind) rest := by
  -- a space or the end cuts a longer spelling off, so each symbol is found as itself
  obtain rfl | ⟨more, rfl⟩ := apart <;> cases kind <;>
    first
    | exact absurd listed (by decide)
    | exact ⟨fun _ => rfl, _, _, rfl, rfl⟩

theorem firstFitting_self {kind : IntKind} {word : Word kind} (nonneg : 0 ≤ word.val)
    (kinds : List IntKind) :
    Literal.firstFitting (kind :: kinds) word.val.toNat = some (.integer kind word) := by
  have itself : Word.ofInt? kind (word.val.toNat : Int) = some word := by
    rw [Int.toNat_of_nonneg nonneg, ofInt_val]
  rw [Literal.firstFitting, List.findSome?_cons, itself]
  rfl

theorem firstFitting_beyond {kind : IntKind} {n : Nat} (beyond : kind.greatest < n)
    (kinds : List IntKind) :
    Literal.firstFitting (kind :: kinds) n = Literal.firstFitting kinds n := by
  have tooLarge : ¬ (kind.least ≤ (n : Int) ∧ (n : Int) ≤ kind.greatest) := by omega
  simp [Literal.firstFitting, Word.ofInt?, tooLarge]

/-- A suffix makes a literal of the kind that it was chosen for. -/
theorem decimalValue_suffix {kind : IntKind} {word : Word kind}
    (writable : (Lexeme.integer kind word).Writable) :
    Literal.decimalValue ⟨Nat.toDigits 10 word.val.toNat, false, false⟩ (suffix kind word.val)
      = .ok (.integer kind word) := by
  obtain ⟨nonneg, literal⟩ := writable
  have dense : Literal.dense (Nat.toDigits 10 word.val.toNat) = Nat.toDigits 10 word.val.toNat := by
    refine List.filter_eq_self.mpr fun c member => ?_
    have noMark : c ≠ '_' := fun same => Nat.underscore_not_in_toDigits (same ▸ member)
    simpa using noMark
  have read := digits_toDigits word.val.toNat
  have fits := firstFitting_self nonneg
  simp only [List.mem_cons, List.not_mem_nil, or_false] at literal
  rcases literal with rfl | rfl | rfl | rfl
  · simp [Literal.decimalValue, suffix, dense, read, fits]
  · simp [Literal.decimalValue, suffix, dense, read, fits, Literal.suffixKinds?, Literal.inRange]
  · by_cases small : word.val ≤ IntKind.int.greatest
    · simp [Literal.decimalValue, suffix, small, dense, read, fits, Literal.suffixKinds?,
        Literal.inRange]
    · have beyond : IntKind.int.greatest < (word.val.toNat : Int) := by omega
      simp [Literal.decimalValue, suffix, small, dense, read, firstFitting_beyond beyond, fits]
  · by_cases small : word.val ≤ IntKind.uint.greatest
    · simp [Literal.decimalValue, suffix, small, dense, read, fits, Literal.suffixKinds?,
        Literal.inRange]
    · have beyond : IntKind.uint.greatest < (word.val.toNat : Int) := by omega
      simp [Literal.decimalValue, suffix, small, dense, read, firstFitting_beyond beyond, fits,
        Literal.suffixKinds?, Literal.inRange]

theorem suffix_letters {kind : IntKind} {n : Int} : ∀ c ∈ suffix kind n, c = 'U' ∨ c = 'L' := by
  unfold suffix
  split
  case h_1 => simp
  case h_2 => split <;> simp
  case h_3 => split <;> simp
  case h_4 => simp

/-- Behind the digits of a literal stands its suffix, a space or nothing; none of them goes on with
the digits, a fraction or an exponent. -/
theorem behindDigits {kind : IntKind} {n : Int} {c : Char} (apart : Apart rest)
    (first : (suffix kind n ++ rest).head? = some c) : c = 'U' ∨ c = 'L' ∨ c = ' ' := by
  have letters : ∀ d ∈ suffix kind n, d = 'U' ∨ d = 'L' := suffix_letters
  cases written : suffix kind n with
  | nil =>
    rw [written] at first
    exact .inr (.inr (apart.head first))
  | cons d more =>
    rw [written] at first letters
    cases first
    rcases letters c List.mem_cons_self with rfl | rfl
    · exact .inl rfl
    · exact .inr (.inl rfl)

theorem digit_bounds {c : Char} (digit : c.isDigit) : 48 ≤ c.toNat ∧ c.toNat ≤ 57 := by
  simp only [Char.isDigit, Bool.and_eq_true, decide_eq_true_eq, ge_iff_le,
    UInt32.le_iff_toNat_le] at digit
  exact digit

theorem digit_ne {c d : Char} (digit : c.isDigit) (outside : d.toNat < 48 ∨ 57 < d.toNat) :
    c ≠ d := by
  rintro rfl
  have bounds := digit_bounds digit
  omega

/-- A digit begins a number. -/
theorem scan_digit {c : Char} (digit : c.isDigit) (rest : List Char) :
    Token.scan c rest = Literal.number Token.continuesName (c :: rest) := by
  have starts : Token.startsNumber c rest := by simp [Token.startsNumber, digit]
  rw [Token.scan, if_neg (digit_ne digit (by decide)), if_neg (digit_ne digit (by decide)),
    if_neg (digit_ne digit (by decide)), if_pos starts]

/-- The mark of a hexadecimal number. -/
theorem isHex_iff {text : List Char} :
    Literal.isHex text ↔ ∃ x rest, text = '0' :: x :: rest ∧ (x = 'x' ∨ x = 'X') := by
  constructor
  · intro hex
    unfold Literal.isHex at hex
    split at hex
    case h_1 rest => exact ⟨'x', rest, rfl, .inl rfl⟩
    case h_2 rest => exact ⟨'X', rest, rfl, .inr rfl⟩
    case h_3 => cases hex
  · rintro ⟨x, rest, rfl, rfl | rfl⟩ <;> rfl

theorem fraction_none {text : List Char} (noPoint : ∀ c, text.head? = some c → c ≠ '.') :
    Literal.fraction text = [] := by
  unfold Literal.fraction
  split
  case h_1 => exact absurd rfl (noPoint '.' rfl)
  case h_2 => rfl

/-- What stands behind digits goes on neither with them nor with an exponent, and makes no mark. -/
def EndsDigits (tail : List Char) : Prop :=
  ∀ c, tail.head? = some c → Literal.isDigitMark c = false ∧ c ∉ ['e', 'E', 'x', 'X']

theorem numeral_whole {digits tail : List Char} (marks : ∀ c ∈ digits, Literal.isDigitMark c)
    (ends : EndsDigits tail) (noFraction : Literal.fraction tail = []) :
    Literal.numeral (digits ++ tail) = .ok ⟨digits, false, false⟩ := by
  have whole := takeWhile_front marks fun c first => (ends c first).1
  have noExponent : Literal.exponentMark tail = [] := by
    unfold Literal.exponentMark
    split
    case h_1 c more =>
      have noLetter := (ends c rfl).2
      rw [if_neg]
      rintro (rfl | rfl) <;> exact noLetter (by decide)
    case h_2 => rfl
  simp [Literal.numeral, whole, noFraction, noExponent]

theorem isHex_whole {digits tail : List Char} (marks : ∀ c ∈ digits, Literal.isDigitMark c)
    (some : digits ≠ []) (ends : EndsDigits tail) : ¬ Literal.isHex (digits ++ tail) := by
  intro hex
  obtain ⟨x, more, same, mark⟩ := isHex_iff.mp hex
  have letter : x ∈ ['e', 'E', 'x', 'X'] ∧ Literal.isDigitMark x = false := by
    rcases mark with rfl | rfl <;> decide
  cases digits with
  | nil => exact some rfl
  | cons c others =>
    rw [List.cons_append] at same
    obtain ⟨-, same⟩ := List.cons.inj same
    cases others with
    | nil =>
      rw [List.nil_append] at same
      exact (ends x (by rw [same]; rfl)).2 letter.1
    | cons d others =>
      rw [List.cons_append] at same
      obtain ⟨rfl, -⟩ := List.cons.inj same
      have digit := marks d (by simp)
      rw [letter.2] at digit
      cases digit

theorem number_integer {kind : IntKind} {word : Word kind}
    (writable : (Lexeme.integer kind word).Writable) (apart : Apart rest) :
    Literal.number Token.continuesName ((Lexeme.integer kind word).chars ++ rest) =
      .ok ⟨.number, (Lexeme.integer kind word).chars, some (.integer kind word),
        (Lexeme.integer kind word).chars.length⟩ := by
  have all : ∀ c ∈ Nat.toDigits 10 word.val.toNat, c.isDigit := fun c member =>
    Nat.isDigit_of_mem_toDigits (by decide) (by decide) member
  have marks : ∀ c ∈ Nat.toDigits 10 word.val.toNat, Literal.isDigitMark c := fun c member => by
    simp [Literal.isDigitMark, all c member]
  have ends : EndsDigits (suffix kind word.val ++ rest) := by
    intro c first
    rcases behindDigits apart first with rfl | rfl | rfl <;> decide
  have noFraction : Literal.fraction (suffix kind word.val ++ rest) = [] := by
    refine fraction_none fun c first => ?_
    rcases behindDigits apart first with rfl | rfl | rfl <;> decide
  have noHex := isHex_whole marks Nat.toDigits_ne_nil ends
  have numeral := numeral_whole marks ends noFraction
  have ending : (suffix kind word.val ++ rest).takeWhile Token.continuesName
      = suffix kind word.val := by
    refine takeWhile_front (fun c member => ?_) fun c first => ?_
    · rcases suffix_letters c member with rfl | rfl <;> decide
    · rw [apart.head first]
      decide
  rw [chars, List.append_assoc, Literal.number]
  simp [noHex, numeral, ending, decimalValue_suffix writable, Literal.numberScan]

theorem taken_integer {kind : IntKind} {word : Word kind}
    (writable : (Lexeme.integer kind word).Writable) (apart : Apart rest) :
    Taken (.integer kind word) rest := by
  have number := number_integer writable apart
  have all : ∀ c ∈ Nat.toDigits 10 word.val.toNat, c.isDigit := fun c member =>
    Nat.isDigit_of_mem_toDigits (by decide) (by decide) member
  cases written : Nat.toDigits 10 word.val.toNat with
  | nil => exact absurd written Nat.toDigits_ne_nil
  | cons c digits =>
    rw [written] at all
    have spelled : (Lexeme.integer kind word).chars = c :: (digits ++ suffix kind word.val) := by
      rw [chars, written, List.cons_append]
    have digit := all c List.mem_cons_self
    have bounds := digit_bounds digit
    have visible : Unicode.isBlank c = false := by
      have lies : Unicode.inRanges [(48, 57)] c.toNat := by
        simp only [Unicode.inRanges, List.any_cons, List.any_nil, Bool.or_false, Bool.and_eq_true,
          decide_eq_true_eq]
        exact bounds
      exact Unicode.inRanges_apart (by decide) lies
    refine ⟨?_, c, _, spelled, ?_⟩
    · rw [spelled]
      exact fun read => gap_of_visible visible (digit_ne digit (by decide)) read _
    · rw [scan_digit digit]
      rw [spelled] at number ⊢
      exact number

/-- A lexeme in front of a space or the end is read as itself. -/
theorem Writable.taken {lexeme : Lexeme} (writable : lexeme.Writable) (apart : Apart rest) :
    Taken lexeme rest := by
  cases lexeme with
  | name text => exact taken_name writable apart.endsName
  | integer kind word => exact taken_integer writable apart
  | bool value =>
    have keyword (kind : TokenKind) (c : Char) (front : List Char)
        (spelled : kind.text.toList = c :: front) := @taken_word rest kind.text c front kind spelled
    cases value with
    | true =>
      have taken := keyword .trueWord _ _ rfl rfl rfl rfl apart.endsName
      exact ⟨taken.1, _, _, rfl, taken.2⟩
    | false =>
      have taken := keyword .falseWord _ _ rfl rfl rfl rfl apart.endsName
      exact ⟨taken.1, _, _, rfl, taken.2⟩
  | symbol kind => exact taken_symbol writable apart

theorem spaced_cons (first : Lexeme) (others : List Lexeme) :
    ∃ tail, spaced (first :: others) = first.chars ++ tail ∧ Apart tail ∧
      (others = [] ∧ tail = [] ∨ tail = ' ' :: spaced others) := by
  cases others with
  | nil => exact ⟨[], by simp [spaced], .inl rfl, .inl ⟨rfl, rfl⟩⟩
  | cons second more => exact ⟨_, rfl, .inr ⟨_, rfl⟩, .inr rfl⟩

theorem readFrom_end {fuel skipped : Nat} {cursor : Cursor}
    (skips : Token.gap cursor.text = .ok skipped) (ends : cursor.text.drop skipped = []) :
    Token.readFrom (fuel + 1) cursor
      = ([.word .endOfInput "" ((cursor.advance skipped).span 0)], none) := by
  have rest : (cursor.advance skipped).text = [] := ends
  rw [Token.readFrom]
  simp only [skips, rest]

theorem readFrom_token {fuel skipped : Nat} {cursor : Cursor} {c : Char} {rest : List Char}
    {found : Scan} (skips : Token.gap cursor.text = .ok skipped)
    (stands : cursor.text.drop skipped = c :: rest) (scans : Token.scan c rest = .ok found) :
    Token.readFrom (fuel + 1) cursor =
      (Token.ofScan (cursor.advance skipped) found ::
        (Token.readFrom fuel ((cursor.advance skipped).advance found.length)).1,
        (Token.readFrom fuel ((cursor.advance skipped).advance found.length)).2) := by
  have text : (cursor.advance skipped).text = c :: rest := stands
  rw [Token.readFrom]
  simp only [skips, text, scans]

end Lexeme

/-- The token that something was read as, wherever it stands. -/
def Scan.Matches (found : Scan) (token : Token) : Prop :=
  token.kind = found.kind ∧ token.lexeme = String.ofList found.lexeme ∧ token.number = found.number

namespace Token

/-- A text is read in some scans, one after the other, with spaces or none around each. -/
inductive Lexed : List Char → List Scan → Prop
  | nil (spaces : Nat) : Lexed (List.replicate spaces ' ') []
  | token (spaces : Nat) (begins : ∀ read, gapFrom .blanks read (c :: rest) = .ok read)
      (scans : scan c rest = .ok found) (long : 0 < found.length)
      (others : Lexed ((c :: rest).drop found.length) more) :
      Lexed (List.replicate spaces ' ' ++ c :: rest) (found :: more)

variable {text : List Char} {scans : List Scan}

theorem gap_of_spaces {text : List Char} (begins : ∀ read, gapFrom .blanks read text = .ok read)
    (spaces read : Nat) :
    gapFrom .blanks read (List.replicate spaces ' ' ++ text) = .ok (read + spaces) := by
  induction spaces generalizing read with
  | zero => exact begins read
  | succ spaces ih =>
    rw [List.replicate_succ, List.cons_append, gapFrom]
    · rw [if_pos (by decide), ih]
      congr 1
      omega
    · simp
    · simp

theorem Lexed.length_le (lexed : Lexed text scans) : scans.length ≤ text.length := by
  induction lexed with
  | nil => exact Nat.zero_le _
  | token spaces begins scans long others ih =>
    simp only [List.length_drop, List.length_cons, List.length_append] at ih ⊢
    omega

theorem readFrom_lexed (lexed : Lexed text scans) {fuel : Nat} {cursor : Cursor}
    (stands : cursor.text = text) (enough : scans.length < fuel) :
    ∃ tokens ending, readFrom fuel cursor = (tokens ++ [ending], none) ∧
      List.Forall₂ Scan.Matches scans tokens ∧ ending.kind = .endOfInput := by
  induction lexed generalizing fuel cursor with
  | nil spaces =>
    obtain ⟨fuel, rfl⟩ := Nat.exists_eq_succ_of_ne_zero (Nat.ne_of_gt enough)
    have skips := @gap_of_spaces [] (fun read => rfl) spaces 0
    rw [List.append_nil, Nat.zero_add, ← stands] at skips
    have ends : cursor.text.drop spaces = [] := by simp [stands]
    exact ⟨[], _, Lexeme.readFrom_end skips ends, .nil, rfl⟩
  | @token c rest found more spaces begins scans long others ih =>
    obtain ⟨fuel, rfl⟩ := Nat.exists_eq_succ_of_ne_zero (Nat.ne_zero_of_lt enough)
    have skips : gap cursor.text = .ok spaces := by
      rw [gap, stands, gap_of_spaces begins, Nat.zero_add]
    have reached : cursor.text.drop spaces = c :: rest := by
      rw [stands, List.drop_left' (List.length_replicate ..)]
    have left : ((cursor.advance spaces).advance found.length).text
        = (c :: rest).drop found.length := by
      rw [← reached]
      rfl
    obtain ⟨tokens, ending, read, matched, isEnd⟩ := ih left (Nat.lt_of_succ_lt_succ enough)
    have token : found.Matches (ofScan (cursor.advance spaces) found) := ⟨rfl, rfl, rfl⟩
    refine ⟨_ :: tokens, ending, ?_, .cons token matched, isEnd⟩
    rw [Lexeme.readFrom_token skips reached scans, read, List.cons_append]

/-- A text that is read in some scans has a token for each of them, and then the end. -/
theorem tokenize_lexed {source : String} (lexed : Lexed source.toList scans) :
    ∃ tokens ending, tokenize source = .ok (tokens ++ [ending]) ∧
      List.Forall₂ Scan.Matches scans tokens ∧ ending.kind = .endOfInput := by
  obtain ⟨tokens, ending, read, matched, isEnd⟩ :=
    @readFrom_lexed _ _ lexed _ (Cursor.ofSource source) rfl (Nat.lt_succ_of_le lexed.length_le)
  refine ⟨tokens, ending, ?_, matched, isEnd⟩
  rw [tokenize, readAll, read]

end Token

namespace Lexeme

/-- What is read of a lexeme. -/
def toScan (lexeme : Lexeme) : Scan :=
  ⟨lexeme.kind, lexeme.chars, lexeme.number, lexeme.chars.length⟩

@[simp] theorem toScan_length (lexeme : Lexeme) : lexeme.toScan.length = lexeme.chars.length := rfl

@[simp] theorem toScan_matches {lexeme : Lexeme} {token : Token} :
    lexeme.toScan.Matches token ↔ lexeme.Matches token := Iff.rfl

/-- A lexeme that is taken whole comes before all that is read behind it. -/
theorem Taken.lexed {lexeme : Lexeme} {rest : List Char} {scans : List Scan}
    (taken : Taken lexeme rest) (others : Token.Lexed rest scans) (spaces : Nat) :
    Token.Lexed (List.replicate spaces ' ' ++ (lexeme.chars ++ rest)) (lexeme.toScan :: scans) := by
  obtain ⟨c, front, spelled, scan⟩ := taken.scan
  have gap := taken.gap
  rw [spelled, List.cons_append] at gap ⊢
  refine .token spaces gap scan ?_ ?_
  · simp [spelled]
  · have whole : c :: (front ++ rest) = lexeme.chars ++ rest := by rw [spelled, List.cons_append]
    rwa [whole, toScan_length, List.drop_left]

/-- Lexemes with one space between them, behind spaces or not, are read one by one. -/
theorem lexed_spaced {lexemes : List Lexeme} (writable : ∀ lexeme ∈ lexemes, lexeme.Writable)
    (spaces : Nat) :
    Token.Lexed (List.replicate spaces ' ' ++ spaced lexemes) (lexemes.map toScan) := by
  induction lexemes generalizing spaces with
  | nil =>
    rw [spaced, List.append_nil]
    exact .nil spaces
  | cons first others ih =>
    have ⟨writes, writable⟩ := List.forall_mem_cons.mp writable
    obtain ⟨tail, spelled, apart, next⟩ := spaced_cons first others
    have lexed : Token.Lexed tail (others.map toScan) := by
      rcases next with ⟨rfl, rfl⟩ | rfl
      · exact .nil 0
      · exact ih writable 1
    rw [spelled]
    exact (writes.taken apart).lexed lexed spaces

/-- What is written in lexemes is read in those lexemes. -/
theorem tokenize_text {lexemes : List Lexeme} (writable : ∀ lexeme ∈ lexemes, lexeme.Writable) :
    ∃ tokens ending, Token.tokenize (text lexemes) = .ok (tokens ++ [ending]) ∧
      List.Forall₂ Matches lexemes tokens ∧ ending.kind = .endOfInput := by
  have lexed : Token.Lexed (text lexemes).toList (lexemes.map toScan) := by
    rw [text, String.toList_ofList]
    exact lexed_spaced writable 0
  obtain ⟨tokens, ending, read, matched, isEnd⟩ := Token.tokenize_lexed lexed
  exact ⟨tokens, ending, read, by simpa using matched, isEnd⟩

end Lexeme

end Formula
