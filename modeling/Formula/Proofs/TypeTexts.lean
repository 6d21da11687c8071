import Formula.Proofs.Printing
import Formula.Proofs.TypeNames
import Mathlib.Data.List.Chain

/-! The text of a type is read as that type. The text is a list of words with nothing between them but
a space behind each comma; what may follow a word in it decides that the lexer takes the word whole,
except that closing angle brackets are taken two at a time. Names, arguments and marks in the text
are those that spell the type, so the reader of types, in whose stream a shift has halves, is led back
to it. -/
namespace Formula

/-- The characters that make a longer symbol of a symbol. -/
def TokenKind.extensions (kind : TokenKind) : List Char :=
  TokenKind.symbols.flatMap fun other =>
    if kind.text.toList.isPrefixOf other.text.toList then
      (other.text.toList.drop kind.text.toList.length).take 1
    else []

/-- The symbols in the text of a type, and the parentheses around it. -/
def TokenKind.glyphs : List TokenKind :=
  [.dot, .less, .greater, .greaterGreater, .comma, .question, .leftBracket, .rightBracket,
    .leftParen, .rightParen]

/-- A character that a symbol in the text of a type ends before: it makes neither a longer symbol nor
a number. -/
def TokenKind.EndsBefore (kind : TokenKind) (d : Char) : Prop :=
  d ≠ '=' ∧ (kind, d) ∉ [(.less, '<'), (.greater, '>'), (.question, '?')] ∧
    (kind = .dot → d.isDigit = false)

instance (kind : TokenKind) (d : Char) : Decidable (kind.EndsBefore d) :=
  inferInstanceAs (Decidable (_ ∧ _ ∧ _))

theorem TokenKind.extensions_glyph : ∀ kind ∈ glyphs, ∀ d ∈ kind.extensions,
    d = '=' ∨ (kind, d) ∈ [(.less, '<'), (.greater, '>'), (.question, '?')] := by
  have checked : glyphs.all (fun kind => kind.extensions.all fun d =>
      decide (d = '=' ∨ (kind, d) ∈ [(less, '<'), (greater, '>'), (question, '?')])) = true := by
    decide +kernel
  intro kind listed d member
  exact of_decide_eq_true (List.all_eq_true.mp (List.all_eq_true.mp checked kind listed) d member)

theorem TokenKind.EndsBefore.extensions {kind : TokenKind} {d : Char} (ends : kind.EndsBefore d)
    (listed : kind ∈ glyphs) : d ∉ kind.extensions := by
  intro member
  rcases extensions_glyph kind listed d member with equal | same
  · exact ends.1 equal
  · exact ends.2.1 same

namespace Lexeme

/-- A lexeme that the text of a type has. -/
def InType : Lexeme → Prop
  | name text => isName text
  | symbol kind => kind ∈ TokenKind.glyphs
  | _ => False

theorem inType_cons {kind : TokenKind} {words : List Lexeme} (glyph : kind ∈ TokenKind.glyphs)
    (inType : ∀ word ∈ words, InType word) : ∀ word ∈ symbol kind :: words, InType word :=
  List.forall_mem_cons.mpr ⟨glyph, inType⟩

theorem inType_snoc {kind : TokenKind} {words : List Lexeme} (glyph : kind ∈ TokenKind.glyphs)
    (inType : ∀ word ∈ words, InType word) : ∀ word ∈ words ++ [symbol kind], InType word :=
  List.forall_mem_append.mpr ⟨inType, inType_cons glyph (List.forall_mem_nil _)⟩

/-- The text of a type may end with a lexeme. -/
def EndsText : Lexeme → Prop
  | name _ => True
  | symbol kind => kind ∈ [.greater, .question, .rightBracket]
  | _ => False

/-- One lexeme may stand behind another in the text of a type. -/
inductive Joins : Lexeme → Lexeme → Prop
  | goesOn {text : String} {kind : TokenKind} (listed : kind ∈ [.dot, .less, .question]) :
      Joins (.name text) (.symbol kind)
  | part {text : String} {kind : TokenKind} (listed : kind ∈ [.dot, .less, .comma, .leftParen]) :
      Joins (.symbol kind) (.name text)
  | pair : Joins (.symbol .leftBracket) (.symbol .rightBracket)
  | mark : Joins (.symbol .greater) (.symbol .question)
  | behind {last : Lexeme} {kind : TokenKind} (ends : EndsText last)
      (listed : kind ∈ [.greater, .comma, .leftBracket, .rightParen]) : Joins last (.symbol kind)

/-- How a lexeme stands in the text of a type: a space follows a comma. -/
def written : Lexeme → List Char
  | symbol .comma => [',', ' ']
  | other => other.chars

/-- The text of a type. -/
def compact (words : List Lexeme) : List Char := words.flatMap written

/-- The lexemes that the lexer finds in the text of a type: it takes the longer symbol where two
angle brackets close. -/
def merged : List Lexeme → List Lexeme
  | .symbol .greater :: .symbol .greater :: rest => .symbol .greaterGreater :: merged rest
  | word :: rest => word :: merged rest
  | [] => []

variable {rest : List Char} {kind : TokenKind}

/-- A symbol is the first that fits in front of what does not extend it. -/
theorem find_symbol (listed : kind ∈ TokenKind.symbols)
    (ends : ∀ d, rest.head? = some d → d ∉ kind.extensions) :
    TokenKind.symbols.find? (fun other => other.text.toList.isPrefixOf (kind.text.toList ++ rest))
      = some kind := by
  have alone : ∀ kind ∈ TokenKind.symbols, TokenKind.symbols.find? (fun other =>
      other.text.toList.isPrefixOf kind.text.toList) = some kind := by decide +kernel
  obtain ⟨-, before, after, listing, passed⟩ := List.find?_eq_some_iff_append.mp (alone kind listed)
  refine List.find?_eq_some_iff_append.mpr ⟨by simp, before, after, listing, ?_⟩
  intro other member
  have noFront := passed other member
  simp only [Bool.not_eq_true', ← Bool.not_eq_true, List.isPrefixOf_iff_prefix] at noFront ⊢
  intro longer
  rcases List.prefix_or_prefix_of_prefix longer (List.prefix_append _ rest) with shorter | shorter
  · exact noFront shorter
  · obtain ⟨extra, spelled⟩ := shorter
    cases extra with
    | nil => exact noFront (by simp [← spelled])
    | cons d extra =>
      rw [← spelled, List.prefix_append_right_inj] at longer
      obtain ⟨left, rfl⟩ := longer
      refine ends d rfl (List.mem_flatMap.mpr ⟨other, by rw [listing]; simp [member], ?_⟩)
      simp [← spelled]

theorem glyph_chars (listed : kind ∈ TokenKind.glyphs) :
    kind ∈ TokenKind.symbols ∧ ∃ c front, kind.text.toList = c :: front ∧
      (Unicode.isBlank c = false ∧ c ≠ '/') ∧ (c ≠ '"' ∧ c ≠ '\'' ∧ c ≠ '@') ∧
      (c.isDigit = false ∧ Token.startsName c = false) ∧ (c = '.' → front = [] ∧ kind = .dot) := by
  simp only [TokenKind.glyphs, List.mem_cons, List.not_mem_nil, or_false] at listed
  rcases listed with rfl | rfl | rfl | rfl | rfl | rfl | rfl | rfl | rfl | rfl <;>
    exact ⟨by decide, _, _, rfl, by decide⟩

/-- A symbol is taken whole in front of what it ends before. -/
theorem taken_glyph (listed : kind ∈ TokenKind.glyphs)
    (ends : ∀ d, rest.head? = some d → kind.EndsBefore d) :
    Taken (.symbol kind) rest := by
  obtain ⟨symbol, c, front, spelled, ⟨visible, noSlash⟩, ⟨noText, noChar, noAt⟩,
    ⟨noDigit, noName⟩, point⟩ := glyph_chars listed
  have noNumber : Token.startsNumber c (front ++ rest) = false := by
    by_cases dot : c = '.'
    · obtain ⟨rfl, isDot⟩ := point dot
      rw [List.nil_append]
      cases rest with
      | nil => simp [Token.startsNumber, noDigit]
      | cons d more => simp [Token.startsNumber, noDigit, (ends d rfl).2.2 isDot]
    · simp [Token.startsNumber, noDigit, dot]
  have found := find_symbol symbol fun d first => (ends d first).extensions listed
  refine ⟨?_, c, front, spelled, ?_⟩
  · intro read
    rw [show (Lexeme.symbol kind).chars = c :: front from spelled]
    exact gap_of_visible visible noSlash read _
  · have whole : c :: (front ++ rest) = kind.text.toList ++ rest := by rw [spelled, List.cons_append]
    simp only [Token.scan, noText, noChar, noAt, noNumber, noName, ↓reduceIte, Token.scanSymbol, whole,
      found]
    rfl

theorem endsName_glyph (listed : kind ∈ TokenKind.glyphs) (rest : List Char) :
    EndsName ((symbol kind).written ++ rest) := by
  simp only [TokenKind.glyphs, List.mem_cons, List.not_mem_nil, or_false] at listed
  rcases listed with rfl | rfl | rfl | rfl | rfl | rfl | rfl | rfl | rfl | rfl <;>
    · rintro d ⟨⟩
      decide

theorem name_chars {text : String} (named : isName text) :
    ∃ d more, text.toList = d :: more ∧ Token.startsName d := by
  unfold isName at named
  split at named
  case h_1 => cases named
  case h_2 d more spelled =>
    simp only [Bool.and_eq_true] at named
    exact ⟨d, more, spelled, named.1.1⟩

/-- A symbol in the text of a type ends before a name. -/
theorem endsBefore_name {d : Char} (starts : Token.startsName d) : kind.EndsBefore d := by
  have other : ∀ e : Char, e.toNat < 65 → e ≠ '$' → d ≠ e := by
    rintro e low noDollar rfl
    rcases (startsName_bounds starts).1 with high | same
    · omega
    · exact noDollar same
  refine ⟨other '=' (by decide) (by decide), ?_, ?_⟩
  · simp [other '<' (by decide) (by decide), other '>' (by decide) (by decide),
      other '?' (by decide) (by decide)]
  · intro _
    by_contra digit
    have bounds := digit_bounds (by simpa using digit)
    exact other d (by omega) (by rintro rfl; exact absurd digit (by decide)) rfl

/-- A lexeme is taken whole where the lexeme behind it is one that may stand there. -/
theorem Joins.taken {word next : Lexeme} (joins : Joins word next) (inType : InType word)
    (nextIn : InType next) (apart : ¬ (word = .symbol .greater ∧ next = .symbol .greater))
    (noComma : word ≠ .symbol .comma) (rest : List Char) : Taken word (next.written ++ rest) := by
  cases joins with
  | goesOn listed => exact taken_name inType (endsName_glyph nextIn rest)
  | @part text kind listed =>
    obtain ⟨d, more, spelled, starts⟩ := name_chars nextIn
    refine taken_glyph inType ?_
    intro e first
    obtain rfl : d = e := by simpa [written, chars, spelled] using first
    exact endsBefore_name starts
  | pair | mark =>
    refine taken_glyph inType ?_
    rintro e ⟨⟩
    decide
  | @behind _ kind ends listed =>
    cases word with
    | integer | bool => exact absurd inType id
    | name text => exact taken_name inType (endsName_glyph nextIn rest)
    | symbol last =>
      simp only [EndsText, List.mem_cons, List.not_mem_nil, or_false] at ends listed
      refine taken_glyph inType ?_
      rcases ends with rfl | rfl | rfl <;> rcases listed with rfl | rfl | rfl | rfl <;>
        first
        | exact absurd ⟨rfl, rfl⟩ apart
        | rintro e ⟨⟩
          decide

/-- The last lexeme in the text of a type is taken whole in front of the end. -/
theorem InType.taken {word : Lexeme} (inType : InType word) : Taken word [] := by
  cases word with
  | integer | bool => exact absurd inType id
  | name text => exact taken_name inType nofun
  | symbol kind => exact taken_glyph inType nofun

/-- Behind two angle brackets that close, the third symbol does not make a longer one. -/
theorem taken_shift {rest : List Lexeme} (joined : (symbol .greater :: rest).IsChain Joins) :
    Taken (.symbol .greaterGreater) (compact rest) := by
  refine taken_glyph (by decide) ?_
  cases rest with
  | nil => nofun
  | cons next rest =>
    cases (List.isChain_cons_cons.mp joined).1 with
    | part listed => simp at listed
    | mark =>
      rintro d ⟨⟩
      decide
    | behind _ listed =>
      simp only [List.mem_cons, List.not_mem_nil, or_false] at listed
      rcases listed with rfl | rfl | rfl | rfl <;>
        · rintro d ⟨⟩
          decide

/-- The text of a type is read in its lexemes, where two closing angle brackets are one. -/
theorem lexed_compact {words : List Lexeme} (inType : ∀ word ∈ words, InType word)
    (joined : words.IsChain Joins) (spaces : Nat) :
    Token.Lexed (List.replicate spaces ' ' ++ compact words) ((merged words).map toScan) := by
  fun_induction merged words generalizing spaces with
  | case1 rest ih =>
    have ⟨_, others⟩ := List.forall_mem_cons.mp inType
    have ⟨_, others⟩ := List.forall_mem_cons.mp others
    exact (taken_shift joined.tail).lexed (ih others joined.tail.tail 0) spaces
  | case2 word rest noShift ih =>
    have ⟨first, others⟩ := List.forall_mem_cons.mp inType
    by_cases comma : word = .symbol .comma
    · subst comma
      have taken : Taken (.symbol .comma) (List.replicate 1 ' ' ++ compact rest) := by
        refine taken_glyph first ?_
        rintro d ⟨⟩
        decide
      exact taken.lexed (ih others joined.tail 1) spaces
    · have bare : compact (word :: rest) = word.chars ++ compact rest := by
        rw [compact, List.flatMap_cons, ← compact]
        congr 1
        unfold written
        split
        case h_1 => exact absurd rfl comma
        case h_2 => rfl
      have taken : Taken word (compact rest) := by
        cases rest with
        | nil => exact first.taken
        | cons next rest =>
          have joins := (List.isChain_cons_cons.mp joined).1
          refine joins.taken first (List.forall_mem_cons.mp others).1 ?_ comma _
          rintro ⟨rfl, rfl⟩
          exact noShift rest rfl rfl
      rw [bare]
      exact taken.lexed (ih others joined.tail 0) spaces
  | case3 =>
    rw [compact, List.flatMap_nil, List.append_nil]
    exact .nil spaces

theorem InType.more {word : Lexeme} (inType : InType word) : word.kind ≠ .endOfInput := by
  cases word with
  | integer | bool => exact absurd inType id
  | name text => nofun
  | symbol kind =>
    rintro rfl
    exact absurd inType (by simp [InType, TokenKind.glyphs])

/-- The tokens of the text of a type stand for its words. -/
theorem covers_merged {words : List Lexeme} {tokens : List Token}
    (matched : List.Forall₂ Matches (merged words) tokens) (inType : ∀ word ∈ words, InType word) :
    Reader.Covers words tokens := by
  fun_induction merged words generalizing tokens with
  | case1 rest ih =>
    have ⟨_, others⟩ := List.forall_mem_cons.mp inType
    have ⟨_, others⟩ := List.forall_mem_cons.mp others
    obtain ⟨token, behind, first, more, rfl⟩ := List.forall₂_cons_left_iff.mp matched
    exact .shift first.1 (ih more others)
  | case2 word rest noShift ih =>
    have ⟨known, others⟩ := List.forall_mem_cons.mp inType
    obtain ⟨token, behind, first, more, rfl⟩ := List.forall₂_cons_left_iff.mp matched
    exact .word first.fits (by rw [first.1]; exact known.more) (ih more others)
  | case3 =>
    obtain rfl := List.forall₂_nil_left_iff.mp matched
    exact .nil

end Lexeme

/-- Names with dots between them. -/
def dotted (first : String) (others : List String) : String :=
  others.foldl (fun name part => name ++ "." ++ part) first

namespace Registry

/-- The type that a name stands for where no namespaces are given. -/
def typeOfName? (registry : Registry) (name : String) : Option Ty :=
  (Ty.ofKeyword? name).or (registry.resolveName name)

/-- Formulas can name a registered class: up to the number of parameters behind it, its name is
dotted names, and neither the name nor what stands before one of its dots is taken for another
type. -/
structure Names (registry : Registry) (first : String) (others : List String) (suffix : String) :
    Prop where
  parts : ∀ part ∈ first :: others, Lexeme.isName part
  noKeyword : Ty.ofKeyword? (dotted first others ++ suffix) = none
  noBuiltin : Ty.builtin? (dotted first others ++ suffix) = none
  shortest : ∀ count < others.length, registry.typeOfName? (dotted first (others.take count)) = none
  registered : ∃ entry, registry.get? (dotted first others ++ suffix) = some entry ∧
    entry.ty = .cls (dotted first others ++ suffix) []

/-- The types that formulas can name: those of keywords, registered classes, registered generic
definitions closed over such types, nullable primitives, and arrays of such types. -/
inductive Nameable (registry : Registry) : Ty → Prop
  | keyword (known : Ty.ofKeyword? word = some ty) : Nameable registry ty
  | plain (names : registry.Names first others "") : Nameable registry (.cls (dotted first others) [])
  | generic (names : registry.Names first others ("`" ++ toString args.length)) (applied : args ≠ [])
      (given : ∀ arg ∈ args, Nameable registry arg)
      (closed : registry.instantiate (.cls (dotted first others ++ ("`" ++ toString args.length)) [])
        args = some ty) : Nameable registry ty
  | nullable (kind : Kind) : Nameable registry (.nullable (.primitive kind))
  | array (element : Nameable registry ty) : Nameable registry (.array ty)

/-- What a formula without namespaces is read against. -/
abbrev scope (registry : Registry) (params : Parameters) : Scope := ⟨registry.toUniverse, [], params⟩

variable {registry : Registry} {params : Parameters} {first suffix : String} {others : List String}

theorem scope_resolveName (name : String) :
    (registry.scope params).resolveName name = registry.typeOfName? name := by
  simp [Scope.resolveName, typeOfName?, toUniverse]

theorem Names.resolves (names : registry.Names first others suffix) :
    registry.typeOfName? (dotted first others ++ suffix)
      = some (.cls (dotted first others ++ suffix) []) := by
  obtain ⟨entry, found, isClass⟩ := names.registered
  simp [typeOfName?, resolveName, names.noKeyword, names.noBuiltin, found, isClass]

end Registry

namespace Reader

variable {scope : Scope} {words : List Lexeme} {ty : Ty}

/-- The words of what goes on with a dotted name. -/
def dotWords (others : List String) : List Lexeme :=
  others.flatMap fun part => [.symbol .dot, .name part]

/-- A dotted path is followed to its end where no shorter one names a type. -/
theorem spelled_path {first : String} {others : List String}
    (shortest : ∀ count < others.length, scope.resolveName (dotted first (others.take count)) = none)
    (ends : Spelled scope (.path (dotted first others)) words ty) :
    Spelled scope (.path first) (dotWords others ++ words) ty := by
  induction others generalizing first with
  | nil => exact ends
  | cons part others ih =>
    have unknown : scope.resolveName first = none := shortest 0 (Nat.succ_pos _)
    refine .dotted unknown (ih ?_ ends)
    intro count fewer
    exact shortest (count + 1) (Nat.succ_lt_succ fewer)

/-- Brackets behind the name of a type spell an array of it. -/
theorem Spelled.array (spelled : Spelled scope .whole words ty) :
    Spelled scope .whole (words ++ [.symbol .leftBracket, .symbol .rightBracket]) (.array ty) := by
  have behind : ∀ {inner result words}, Arrays inner words result →
      Arrays inner (words ++ [.symbol .leftBracket, .symbol .rightBracket]) (.array result) := by
    intro inner result words arrays
    induction arrays with
    | none => exact .more .none
    | more _ ih => exact .more ih
  cases spelled with
  | whole path marks =>
    rw [List.cons_append, List.append_assoc]
    cases marks with
    | plain arrays => exact .whole path (.plain (behind arrays))
    | nullable arrays => exact .whole path (.nullable (behind arrays))

/-- Lexemes that may stand beside each other, from a name to what may end the text of a type. -/
structure Fluent (words : List Lexeme) : Prop where
  joined : words.IsChain Lexeme.Joins
  starts : ∃ name rest, words = .name name :: rest
  ends : ∀ last ∈ words.getLast?, last.EndsText

theorem Fluent.append {others : List Lexeme} (fluent : Fluent words)
    (joined : others.IsChain Lexeme.Joins)
    (joins : ∀ last : Lexeme, last.EndsText → ∀ next ∈ others.head?, last.Joins next)
    (ends : ∀ last ∈ others.getLast?, last.EndsText) : Fluent (words ++ others) where
  joined := List.isChain_append.mpr
    ⟨fluent.joined, joined, fun last member => joins last (fluent.ends last member)⟩
  starts := by
    obtain ⟨name, rest, rfl⟩ := fluent.starts
    exact ⟨name, rest ++ others, rfl⟩
  ends := by
    intro last member
    rw [List.getLast?_append] at member
    rcases Option.or_eq_some_iff.mp member with behind | ⟨-, front⟩
    · exact ends last behind
    · exact fluent.ends last front

theorem Fluent.one (name : String) : Fluent [.name name] :=
  ⟨.singleton _, ⟨name, [], rfl⟩, by simp [Lexeme.EndsText]⟩

/-- A symbol between names joins what they begin and end. -/
theorem Fluent.between {others : List Lexeme} {kind : TokenKind} (fluent : Fluent words)
    (listed : kind ∈ [.dot, .less, .comma, .leftParen])
    (joins : ∀ last ∈ words.getLast?, last.Joins (.symbol kind)) (behind : Fluent others) :
    Fluent (words ++ .symbol kind :: others) := by
  obtain ⟨name, rest, rfl⟩ := behind.starts
  refine ⟨List.isChain_append.mpr ⟨fluent.joined, .cons_cons (.part listed) behind.joined, ?_⟩, ?_, ?_⟩
  · intro last member next first
    obtain rfl : .symbol kind = next := by simpa using first
    exact joins last member
  · obtain ⟨first, more, rfl⟩ := fluent.starts
    exact ⟨first, more ++ .symbol kind :: .name name :: rest, rfl⟩
  · intro last member
    refine behind.ends last ?_
    rw [List.getLast?_append] at member
    simpa [List.getLast?_cons] using member

theorem Arrays.fluent {result : Ty} {others : List Lexeme} (arrays : Arrays ty others result)
    (fluent : Fluent words) : Fluent (words ++ others) := by
  induction arrays generalizing words with
  | none => rwa [List.append_nil]
  | more _ ih =>
    have pair : Fluent (words ++ [.symbol .leftBracket, .symbol .rightBracket]) := by
      refine fluent.append (.cons_cons .pair (.singleton _)) ?_ ?_
      · rintro last ends next ⟨⟩
        exact .behind ends (by decide)
      · rintro last ⟨⟩
        simp [Lexeme.EndsText]
    have whole := ih pair
    rwa [List.append_assoc] at whole

theorem Marks.fluent {result : Ty} {others : List Lexeme} (marks : Marks ty others result)
    (fluent : Fluent words) (marked : ∀ last ∈ words.getLast?, last.Joins (.symbol .question)) :
    Fluent (words ++ others) := by
  cases marks with
  | plain arrays => exact arrays.fluent fluent
  | nullable arrays =>
    have mark : Fluent (words ++ [.symbol .question]) := by
      refine ⟨List.isChain_append.mpr ⟨fluent.joined, .singleton _, ?_⟩, ?_, ?_⟩
      · rintro last member next ⟨⟩
        exact marked last member
      · obtain ⟨name, rest, rfl⟩ := fluent.starts
        exact ⟨name, rest ++ [.symbol .question], rfl⟩
      · intro last member
        obtain rfl : .symbol .question = last := by simpa using member
        simp [Lexeme.EndsText]
    have whole := arrays.fluent mark
    rwa [List.append_assoc] at whole

/-- What spells a type is fluent. A path ends so that it may be marked as nullable. -/
theorem Spelled.fluent {part : TypePart} {result : part.Result}
    (spelled : Spelled scope part words result) : match part with
      | .path _ => ∀ name, Fluent (.name name :: words) ∧
          ∀ last ∈ (Lexeme.name name :: words).getLast?, last.Joins (.symbol .question)
      | .whole => Fluent words
      | .args => Fluent words ∧ words.getLast? = some (.symbol .greater) := by
  induction spelled with
  | named =>
    intro name
    refine ⟨.one name, ?_⟩
    rintro last ⟨⟩
    exact .goesOn (by decide)
  | closed _ _ ih =>
    intro name
    constructor
    · refine (Fluent.one name).between (by decide) ?_ ih.1
      rintro last ⟨⟩
      exact .goesOn (by decide)
    · intro last member
      obtain rfl : .symbol .greater = last := by simpa [List.getLast?_cons, ih.2] using member
      exact .mark
  | @dotted name part ty words _ _ ih =>
    intro front
    obtain ⟨fluent, marked⟩ := ih part
    constructor
    · refine (Fluent.one front).between (by decide) ?_ fluent
      rintro last ⟨⟩
      exact .goesOn (by decide)
    · intro last member
      exact marked last (by simpa [List.getLast?_cons] using member)
  | @whole name words ty others result _ marks ih =>
    obtain ⟨fluent, marked⟩ := ih name
    exact marks.fluent fluent marked
  | last _ ih =>
    refine ⟨ih.append (.singleton _) ?_ ?_, by simp⟩
    · rintro last ends next ⟨⟩
      exact .behind ends (by decide)
    · rintro last ⟨⟩
      simp [Lexeme.EndsText]
  | more _ _ first rest =>
    constructor
    · refine first.between (by decide) ?_ rest.1
      intro last member
      exact .behind (first.ends last member) (by decide)
    · simp [List.getLast?_append, List.getLast?_cons, rest.2]

/-- The text of a type is made of words that spell it. -/
structure Writes (scope : Scope) (words : List Lexeme) (ty : Ty) : Prop where
  spelled : Spelled scope .whole words ty
  text : ty.text.toList = Lexeme.compact words
  inType : ∀ word ∈ words, word.InType

theorem compact_append (words others : List Lexeme) :
    Lexeme.compact (words ++ others) = Lexeme.compact words ++ Lexeme.compact others :=
  List.flatMap_append

theorem dotted_chars (first : String) (others : List String) :
    (dotted first others).toList = first.toList ++ Lexeme.compact (dotWords others) := by
  induction others generalizing first with
  | nil => simp [dotted, dotWords, Lexeme.compact]
  | cons part others ih =>
    have step : dotted first (part :: others) = dotted (first ++ "." ++ part) others := rfl
    rw [step, ih]
    simp [dotWords, Lexeme.compact, Lexeme.written, Lexeme.chars, TokenKind.text]

theorem dotted_inType {first : String} {others : List String}
    (parts : ∀ part ∈ first :: others, Lexeme.isName part) :
    ∀ word ∈ Lexeme.name first :: dotWords others, word.InType := by
  have ⟨head, parts⟩ := List.forall_mem_cons.mp parts
  refine List.forall_mem_cons.mpr ⟨head, ?_⟩
  intro word member
  obtain ⟨part, listed, member⟩ := List.mem_flatMap.mp member
  simp only [List.mem_cons, List.not_mem_nil, or_false] at member
  rcases member with rfl | rfl
  · simp [Lexeme.InType, TokenKind.glyphs]
  · exact parts part listed

theorem writes_args {args : List Ty} (applied : args ≠ [])
    (each : ∀ arg ∈ args, ∃ words, Writes scope words arg) :
    ∃ words, Spelled scope .args words args ∧
      (", ".intercalate (Ty.texts args)).toList ++ ['>'] = Lexeme.compact words ∧
      ∀ word ∈ words, word.InType := by
  induction args with
  | nil => exact absurd rfl applied
  | cons arg args ih =>
    have ⟨first, others⟩ := List.forall_mem_cons.mp each
    obtain ⟨words, spelled, text, inType⟩ := first
    cases args with
    | nil =>
      refine ⟨_, .last spelled, ?_, Lexeme.inType_snoc (by decide) inType⟩
      simp [compact_append, Ty.texts, text]
      rfl
    | cons next args =>
      obtain ⟨behind, rest, texts, known⟩ := ih (by simp) others
      have step : (", ".intercalate (Ty.texts (arg :: next :: args))).toList = arg.text.toList ++
          ", ".toList ++ (", ".intercalate (Ty.texts (next :: args))).toList := by simp [Ty.texts]
      refine ⟨_, .more spelled rest, ?_, List.forall_mem_append.mpr ⟨inType, ?_⟩⟩
      · rw [compact_append, step, List.append_assoc, List.append_assoc, texts, text]
        rfl
      · exact Lexeme.inType_cons (by decide) known

theorem writes_named {name : String} (word : Lexeme.isName name)
    (known : scope.resolveName name = some ty) (text : ty.text = name) :
    Writes scope [.name name] ty where
  spelled := .whole (.named known) (.plain .none)
  text := by simp [text, Lexeme.compact, Lexeme.written, Lexeme.chars]
  inType := by simpa [Lexeme.InType] using word

theorem Writes.array (writes : Writes scope words ty) :
    Writes scope (words ++ [.symbol .leftBracket, .symbol .rightBracket]) (.array ty) where
  spelled := writes.spelled.array
  text := by
    rw [compact_append, ← writes.text, Ty.text, String.toList_append]
    rfl
  inType := List.forall_mem_append.mpr ⟨writes.inType,
    Lexeme.inType_cons (by decide) (Lexeme.inType_cons (by decide) (List.forall_mem_nil _))⟩

/-- A keyword is read as the type that it names. -/
theorem keyword_text {word : String} (known : Ty.ofKeyword? word = some ty) :
    ty.text = word ∧ Lexeme.isName word := by
  unfold Ty.ofKeyword? at known
  split at known
  case h_1 kind found =>
    cases known
    have same : kind.keyword = word := by simpa using List.find?_some found
    subst same
    refine ⟨rfl, ?_⟩
    rcases kind with _ | _ | kind | _ | _ | _
    case integer => cases kind <;> decide
    all_goals decide
  case h_2 =>
    split at known
    case isTrue same =>
      cases known
      subst same
      exact ⟨rfl, by decide⟩
    case isFalse =>
      split at known
      case isTrue same =>
        cases known
        subst same
        exact ⟨rfl, by decide⟩
      case isFalse => cases known

theorem keyword_of_kind (kind : Kind) : Ty.ofKeyword? kind.keyword = some (.primitive kind) := by
  rcases kind with _ | _ | kind | _ | _ | _
  case integer => cases kind <;> rfl
  all_goals rfl

end Reader

namespace Registry

open Reader

variable {registry : Registry} {params : Parameters} {first suffix : String} {others : List String}
  {words : List Lexeme} {ty : Ty}

theorem writes_keyword {word : String} (known : Ty.ofKeyword? word = some ty) :
    Writes (registry.scope params) [.name word] ty := by
  have ⟨text, named⟩ := keyword_text known
  exact writes_named named (by rw [scope_resolveName, typeOfName?, known, Option.some_or]) text

theorem writes_nullable (kind : Kind) :
    Writes (registry.scope params) [.name kind.keyword, .symbol .question]
      (.nullable (.primitive kind)) := by
  obtain ⟨text, named⟩ := keyword_text (keyword_of_kind kind)
  have known : (registry.scope params).resolveName kind.keyword = some (.primitive kind) := by
    rw [scope_resolveName, typeOfName?, keyword_of_kind, Option.some_or]
  refine ⟨.whole (.named known) (.nullable .none), ?_, ?_⟩
  · simp only [Ty.text, String.toList_append]
    rfl
  · simpa [Lexeme.InType, TokenKind.glyphs] using named

theorem Names.path (names : registry.Names first others suffix)
    (ends : Spelled (registry.scope params) (.path (dotted first others)) words ty) :
    Spelled (registry.scope params) .whole (.name first :: (dotWords others ++ words)) ty := by
  have path := spelled_path (fun count fewer => by
    rw [scope_resolveName]
    exact names.shortest count fewer) ends
  have whole := Spelled.whole path (.plain .none)
  rwa [List.append_nil] at whole

theorem Names.inType (names : registry.Names first others suffix) :
    ∀ word ∈ Lexeme.name first :: dotWords others, word.InType := dotted_inType names.parts

theorem writes_plain (names : registry.Names first others "") :
    Writes (registry.scope params) (.name first :: dotWords others)
      (.cls (dotted first others) []) := by
  have resolves := names.resolves
  rw [String.append_empty, ← @scope_resolveName registry params] at resolves
  have path := names.path (.named resolves)
  rw [List.append_nil] at path
  refine ⟨path, ?_, names.inType⟩
  rw [Ty.text, List.isEmpty_nil, if_pos rfl, dotted_chars]
  rfl

theorem name_unmarked {text : String} (named : Lexeme.isName text) :
    ∀ c ∈ text.toList, (c != '\x60') = true := by
  unfold Lexeme.isName at named
  split at named
  case h_1 => cases named
  case h_2 d more spelled =>
    simp only [Bool.and_eq_true, List.all_eq_true] at named
    intro c member
    have goesOn : Token.continuesName c := by
      rw [spelled] at member
      rcases List.mem_cons.mp member with rfl | member
      · exact Token.continuesName_of_starts named.1.1
      · exact named.1.2 c member
    rw [bne_iff_ne]
    rintro rfl
    exact absurd goesOn (by decide)

/-- The number of parameters is no part of the text of a generic type. -/
theorem beforeMark_names (names : registry.Names first others ("`" ++ suffix)) :
    Ty.beforeMark (dotted first others ++ ("`" ++ suffix)) = dotted first others := by
  have ⟨head, parts⟩ := List.forall_mem_cons.mp names.parts
  have unmarked : ∀ c ∈ (dotted first others).toList, (c != '\x60') = true := by
    rw [dotted_chars]
    refine List.forall_mem_append.mpr ⟨name_unmarked head, ?_⟩
    intro c member
    obtain ⟨word, listed, member⟩ := List.mem_flatMap.mp member
    obtain ⟨part, known, listed⟩ := List.mem_flatMap.mp listed
    simp only [List.mem_cons, List.not_mem_nil, or_false] at listed
    rcases listed with rfl | rfl
    · obtain rfl : c = '.' := by simpa [Lexeme.written, Lexeme.chars, TokenKind.text] using member
      decide
    · exact name_unmarked (parts part known) c member
  have spelled : (dotted first others ++ ("`" ++ suffix)).toList
      = (dotted first others).toList ++ '\x60' :: suffix.toList := by simp
  rw [Ty.beforeMark, spelled, Lexeme.takeWhile_front unmarked, String.ofList_toList]
  rintro c ⟨⟩
  rfl

/-- What a definition is instantiated to: a nullable primitive, or the class with its arguments. -/
theorem instantiate_eq {name : String} {args : List Ty}
    (closed : registry.instantiate (.cls name []) args = some ty) :
    (∃ kind, ty = .nullable (.primitive kind)) ∨ ty = .cls name args := by
  simp only [instantiate] at closed
  split at closed
  case h_1 => cases closed
  case h_2 entry found =>
    split at closed
    case isTrue => cases closed
    case isFalse =>
      split at closed
      case isTrue =>
        split at closed
        case h_1 =>
          cases closed
          exact .inl ⟨_, rfl⟩
        case h_2 => cases closed
      case isFalse =>
        cases closed
        exact .inr rfl

theorem writes_generic {args : List Ty}
    (names : registry.Names first others ("`" ++ toString args.length)) (applied : args ≠ [])
    (each : ∀ arg ∈ args, ∃ words, Writes (registry.scope params) words arg)
    (closed : registry.instantiate (.cls (dotted first others ++ ("`" ++ toString args.length)) [])
      args = some ty) : ∃ words, Writes (registry.scope params) words ty := by
  obtain ⟨words, given, text, known⟩ := writes_args applied each
  have resolves : (registry.scope params).resolveGeneric (dotted first others) args = some ty := by
    rw [Scope.resolveGeneric, String.append_assoc, scope_resolveName, names.resolves]
    exact closed
  rcases instantiate_eq closed with ⟨kind, rfl⟩ | rfl
  · exact ⟨_, writes_nullable kind⟩
  · refine ⟨_, names.path (.closed given resolves), ?_, ?_⟩
    · have some : args.isEmpty = false := List.isEmpty_eq_false_iff.mpr applied
      have front : Lexeme.compact (.name first :: dotWords others) = (dotted first others).toList := by
        rw [dotted_chars]
        rfl
      have behind : Lexeme.compact (.symbol .less :: words) = '<' :: Lexeme.compact words := rfl
      rw [← List.cons_append, compact_append, front, behind, ← text, Ty.text, some,
        beforeMark_names names]
      simp
    · rw [← List.cons_append]
      exact List.forall_mem_append.mpr
        ⟨names.inType, Lexeme.inType_cons (by decide) known⟩

/-- The text of every type that formulas can name spells it. -/
theorem Nameable.writes (nameable : registry.Nameable ty) :
    ∃ words, Writes (registry.scope params) words ty := by
  induction nameable with
  | keyword known => exact ⟨_, writes_keyword known⟩
  | plain names => exact ⟨_, writes_plain names⟩
  | generic names applied _ closed ih => exact writes_generic names applied ih closed
  | nullable kind => exact ⟨_, writes_nullable kind⟩
  | array _ ih =>
    obtain ⟨words, writes⟩ := ih
    exact ⟨_, writes.array⟩

end Registry

namespace Reader

variable {scope : Scope} {words : List Lexeme} {ty : Ty} {tokens : List Token}
  {keyword opening ending : Token}

/-- Tokens that spell a type between the parentheses of `typeof` are read as that type. -/
theorem typeOf_reads (spelled : Spelled scope .whole words ty)
    (covers : Covers (words ++ [.symbol .rightParen]) tokens) (isKeyword : keyword.kind = .typeOf)
    (opens : opening.kind = .leftParen) (isEnd : ending.kind = .endOfInput) :
    ∃ span t, Reads scope (.operand none)
      (Stream.ofTokens (keyword :: opening :: (tokens ++ [ending]))) (.typeOf ⟨typeClass, span⟩ ty) t ∧
      t.kind = .endOfInput := by
  let s := Stream.ofTokens (keyword :: opening :: (tokens ++ [ending]))
  have start : s.Before (keyword :: opening :: (tokens ++ [ending])) := Stream.before_ofTokens
  have inner : s.next.next.Before (tokens ++ [ending]) := (start.next (by simp)).next (by simp)
  have closed := inner.closed (.append covers.noEnd (.last isEnd))
  obtain ⟨t, passed, last⟩ := covers.passes inner (by simp)
  obtain ⟨m, passes, behind⟩ := passed.split
  obtain ⟨closes, -, behind⟩ := behind.of_symbol (by decide)
  cases behind
  have named := type_found spelled passes closed (.inl (by simp [closes]))
  exact ⟨_, _, .typeOf isKeyword opens named closes, last.kind.trans isEnd⟩

end Reader

namespace Registry

open Reader

variable {registry : Registry} {ty : Ty}

/-- What is read of the text of a type in parentheses behind `typeof`. -/
theorem lexed_typeOf {words : List Lexeme} (text : ty.text.toList = Lexeme.compact words)
    (inType : ∀ word ∈ words, word.InType) (fluent : Fluent words) :
    Token.Lexed ("typeof(" ++ ty.text ++ ")").toList
      ((.symbol .typeOf :: .symbol .leftParen ::
        Lexeme.merged (words ++ [.symbol .rightParen])).map Lexeme.toScan) := by
  have inType : ∀ word ∈ Lexeme.symbol .leftParen :: (words ++ [.symbol .rightParen]),
      word.InType := Lexeme.inType_cons (by decide) (Lexeme.inType_snoc (by decide) inType)
  have joined : List.IsChain Lexeme.Joins
      (.symbol .leftParen :: (words ++ [.symbol .rightParen])) := by
    have closed : List.IsChain Lexeme.Joins (words ++ [.symbol .rightParen]) := by
      refine List.isChain_append.mpr ⟨fluent.joined, .singleton _, ?_⟩
      rintro last member next ⟨⟩
      exact .behind (fluent.ends last member) (by decide)
    obtain ⟨name, rest, rfl⟩ := fluent.starts
    exact .cons_cons (.part (by decide)) closed
  have inner := Lexeme.lexed_compact inType joined 0
  have word := @Lexeme.taken_word
    (Lexeme.compact (.symbol .leftParen :: (words ++ [.symbol .rightParen]))) "typeof" 't'
    "ypeof".toList .typeOf rfl rfl rfl rfl (by rintro d ⟨⟩; decide)
  have keyword : Lexeme.Taken (.symbol .typeOf)
      (Lexeme.compact (.symbol .leftParen :: (words ++ [.symbol .rightParen]))) :=
    ⟨word.1, _, _, rfl, word.2⟩
  have lexed := keyword.lexed inner 0
  have whole : ("typeof(" ++ ty.text ++ ")").toList = "typeof".toList ++
      Lexeme.compact (.symbol .leftParen :: (words ++ [.symbol .rightParen])) := by
    rw [← List.cons_append, compact_append]
    simp [text]
    rfl
  have opening : Lexeme.merged (.symbol .leftParen :: (words ++ [.symbol .rightParen]))
      = .symbol .leftParen :: Lexeme.merged (words ++ [.symbol .rightParen]) := by
    simp [Lexeme.merged]
  rw [opening] at lexed
  rw [whole]
  exact lexed

/-- The text of a type that formulas can name is read back as that type. -/
theorem parse_typeOf (nameable : registry.Nameable ty) (declared : Option (List ParamSpec))
    (receiver : Option Ty) :
    ∃ span, Lambda.parse registry.toUniverse [] declared receiver ("typeof(" ++ ty.text ++ ")")
      = .ok ⟨bindDeclared (.ofInstance receiver) declared, .typeOf ⟨typeClass, span⟩ ty⟩ := by
  obtain ⟨words, spelled, text, inType⟩ :=
    @Nameable.writes registry (bindDeclared (.ofInstance receiver) declared) ty nameable
  obtain ⟨tokens, ending, read, matched, isEnd⟩ :=
    Token.tokenize_lexed (lexed_typeOf text inType spelled.fluent)
  simp only [List.forall₂_map_left_iff, Lexeme.toScan_matches] at matched
  obtain ⟨keyword, others, first, behind, rfl⟩ := List.forall₂_cons_left_iff.mp matched
  obtain ⟨opening, others, second, more, rfl⟩ := List.forall₂_cons_left_iff.mp behind
  have covers := Lexeme.covers_merged more (Lexeme.inType_snoc (by decide) inType)
  obtain ⟨span, t, reads, ends⟩ := typeOf_reads spelled covers first.1 second.1 isEnd
  have isKeyword : keyword.kind = .typeOf := first.1
  have opens : opening.kind = .leftParen := second.1
  have start : (Stream.ofTokens (keyword :: opening :: (others ++ [ending]))).Before _ :=
    Stream.before_ofTokens
  have closed := start.closed (.cons (by simp [isKeyword])
    (.cons (by simp [opens]) (.append covers.noEnd (.last isEnd))))
  have found : tokensOf ("typeof(" ++ ty.text ++ ")")
      = .ok (keyword :: opening :: (others ++ [ending])) := by
    rw [tokensOf, read, CompileError.ofTokens]
    rfl
  have noName := (start.kind.trans isKeyword).trans_ne (by simp : TokenKind.typeOf ≠ .identifier)
  have noParen := (start.kind.trans isKeyword).trans_ne (by simp : TokenKind.typeOf ≠ .leftParen)
  exact ⟨span, Lambda.parse_operand found closed noName noParen reads ends⟩

/-- Two arguments inside one, so that two angle brackets close together. -/
theorem parse_typeOf_nested :
    let box := (Registry.empty.register (Registry.empty.newClass "Box`1")).2
    let map := (box.register (box.newClass "Data.Map`2")).2
    let registry := (map.register (map.newClass "Shapes.Circle")).2
    let items : List Ty := [.nullable .int, .array (.cls "Shapes.Circle" [])]
    let ty : Ty := .cls "Box`1" [.cls "Data.Map`2" items]
    registry.Nameable ty ∧ ty.text = "Box<Data.Map<int?, Shapes.Circle[]>>" ∧
      ∃ span, Lambda.parse registry.toUniverse [] none none ("typeof(" ++ ty.text ++ ")")
        = .ok ⟨⟨[], false⟩, .typeOf ⟨typeClass, span⟩ ty⟩ := by
  intro box map registry items ty
  have circle : registry.Names "Shapes" ["Circle"] "" :=
    ⟨by decide, by decide +kernel, by decide +kernel, by decide +kernel, _, rfl, rfl⟩
  have pairs : registry.Names "Data" ["Map"] ("`" ++ toString 2) :=
    ⟨by decide, by decide +kernel, by decide +kernel, by decide +kernel, _, rfl, rfl⟩
  have boxes : registry.Names "Box" [] ("`" ++ toString 1) :=
    ⟨by decide, by decide +kernel, by decide +kernel, by decide +kernel, _, rfl, rfl⟩
  have inner : registry.Nameable (.cls "Data.Map`2" items) := by
    refine @Nameable.generic registry "Data" ["Map"] items _ pairs (by simp [items]) ?_
      (by decide +kernel)
    intro arg member
    simp only [items, List.mem_cons, List.not_mem_nil, or_false] at member
    rcases member with rfl | rfl
    · exact .nullable _
    · exact .array (.plain circle)
  have nameable : registry.Nameable ty := by
    refine @Nameable.generic registry "Box" [] [.cls "Data.Map`2" items] _ boxes (by simp) ?_
      (by decide +kernel)
    intro arg member
    obtain rfl := List.mem_singleton.mp member
    exact inner
  exact ⟨nameable, by decide +kernel, parse_typeOf nameable none none⟩

end Registry
end Formula
