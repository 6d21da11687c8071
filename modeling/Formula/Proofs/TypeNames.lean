import Formula.Proofs.Lexing
import Formula.Proofs.TokenWalk

/-! How the names of types are written. A type is spelled as a list of words, whatever the places of
the tokens are and whether two closing angle brackets are one token. What the reader takes for a type
spells that type, and the spelling of a type is read as that type wherever something stands behind it
that ends types. -/
namespace Formula

/-- A token is read for a lexeme: its kind is the same, and so is its name if it is one. -/
def Lexeme.Fits (lexeme : Lexeme) (token : Token) : Prop :=
  token.kind = lexeme.kind ∧ ∀ text ∈ lexeme.name?, token.lexeme = text

theorem Lexeme.Matches.fits {lexeme : Lexeme} {token : Token} (same : lexeme.Matches token) :
    lexeme.Fits token := by
  refine ⟨same.1, ?_⟩
  intro text named
  cases lexeme with
  | name => simpa [name?, chars] using same.2.1.trans (by simpa [name?, chars] using named)
  | integer | bool | symbol => cases named

theorem Lexeme.eq_symbol {lexeme : Lexeme} (closes : lexeme.kind = .greater) :
    lexeme = .symbol .greater := by
  cases lexeme with
  | name | integer => cases closes
  | bool value => cases value <;> cases closes
  | symbol kind => rw [show kind = .greater from closes]

namespace Reader

/-- The brackets of arrays that make one type of another. -/
inductive Arrays : Ty → List Lexeme → Ty → Prop
  | none : Arrays ty [] ty
  | more (rest : Arrays (.array ty) words result) :
      Arrays ty (.symbol .leftBracket :: .symbol .rightBracket :: words) result

/-- The marks that make one type of another: a question mark or none, and brackets. -/
inductive Marks : Ty → List Lexeme → Ty → Prop
  | plain (arrays : Arrays ty words result) : Marks ty words result
  | nullable (arrays : Arrays (if ty.acceptsNull then ty else ty.toNullable) words result) :
      Marks ty (.symbol .question :: words) result

/-- A part of the name of a type. -/
inductive TypePart where
  /-- What goes on with a dotted path. -/
  | path (name : String)
  | whole
  /-- The arguments of a generic type, up to the closing bracket. -/
  | args

/-- What a part stands for. -/
abbrev TypePart.Result : TypePart → Type
  | path _ | whole => Ty
  | args => List Ty

/-- Words spell a part of the name of a type. -/
inductive Spelled (scope : Scope) : (part : TypePart) → List Lexeme → part.Result → Prop
  | named (known : scope.resolveName name = some ty) : Spelled scope (.path name) [] ty
  | closed (given : Spelled scope .args words args)
      (known : scope.resolveGeneric name args = some ty) :
      Spelled scope (.path name) (.symbol .less :: words) ty
  | dotted (unknown : scope.resolveName name = none)
      (rest : Spelled scope (.path (name ++ "." ++ part)) words ty) :
      Spelled scope (.path name) (.symbol .dot :: .name part :: words) ty
  | whole (path : Spelled scope (.path name) words ty) (marks : Marks ty others result) :
      Spelled scope .whole (.name name :: (words ++ others)) result
  | last (only : Spelled scope .whole words ty) :
      Spelled scope .args (words ++ [.symbol .greater]) [ty]
  | more (first : Spelled scope .whole words ty) (rest : Spelled scope .args others args) :
      Spelled scope .args (words ++ .symbol .comma :: others) (ty :: args)

/-- Words are passed from one point of reading to another; a closing angle bracket may be the half of
a shift. -/
inductive Passes : Stream → List Lexeme → Stream → Prop
  | nil : Passes s [] s
  | word {lexeme : Lexeme} {s : Stream} (fits : lexeme.Fits s.peek) (more : s.kind ≠ .endOfInput)
      (rest : Passes s.next words t) : Passes s (lexeme :: words) t
  | half (splits : s.splitShift? = some m) (rest : Passes m words t) :
      Passes s (.symbol .greater :: words) t

namespace Passes

variable {s m t : Stream} {words others : List Lexeme} {kind : TokenKind} {text : String}

/-- Words that are passed one behind the other are passed together. -/
theorem append (first : Passes s words m) (second : Passes m others t) :
    Passes s (words ++ others) t := by
  induction first with
  | nil => exact second
  | word fits more _ ih => exact .word fits more (ih second)
  | half splits _ ih => exact .half splits (ih second)

theorem split (passes : Passes s (words ++ others) t) :
    ∃ m, Passes s words m ∧ Passes m others t := by
  induction words generalizing s with
  | nil => exact ⟨s, .nil, passes⟩
  | cons word words ih =>
    cases passes with
    | word fits more rest =>
      obtain ⟨m, first, second⟩ := ih rest
      exact ⟨m, .word fits more first, second⟩
    | half splits rest =>
      obtain ⟨m, first, second⟩ := ih rest
      exact ⟨m, .half splits first, second⟩

theorem symbol (stands : s.kind = kind) (more : kind ≠ .endOfInput) (rest : Passes s.next words t) :
    Passes s (.symbol kind :: words) t :=
  .word ⟨stands, nofun⟩ (stands ▸ more) rest

theorem name (stands : s.kind = .identifier) (rest : Passes s.next words t) :
    Passes s (.name s.peek.lexeme :: words) t := by
  refine .word ⟨stands, ?_⟩ (by simp [stands]) rest
  rintro text ⟨⟩
  rfl

/-- A word that closes no angle brackets is passed as one token. -/
theorem of_symbol (passes : Passes s (.symbol kind :: words) t) (whole : kind ≠ .greater) :
    s.kind = kind ∧ s.kind ≠ .endOfInput ∧ Passes s.next words t := by
  cases passes with
  | word fits more rest => exact ⟨fits.1, more, rest⟩
  | half => exact absurd rfl whole

theorem of_name (passes : Passes s (.name text :: words) t) :
    s.kind = .identifier ∧ s.peek.lexeme = text ∧ s.kind ≠ .endOfInput ∧ Passes s.next words t := by
  cases passes with
  | word fits more rest => exact ⟨fits.1, fits.2 text rfl, more, rest⟩

theorem closed (passes : Passes s words t) (closed : s.Closed) :
    t.Closed ∧ t.rest.length ≤ s.rest.length := by
  induction passes with
  | nil => exact ⟨closed, Nat.le_refl _⟩
  | word fits more rest ih =>
    obtain ⟨last, shorter⟩ := ih (closed.next more)
    have less := closed.next_shorter more
    exact ⟨last, by omega⟩
  | half splits rest ih =>
    obtain ⟨last, shorter⟩ := ih (closed.half splits)
    obtain ⟨-, -, same, -⟩ := Stream.splitShift_eq splits
    exact ⟨last, same ▸ shorter⟩

end Passes

section Sound

variable {scope : Scope} {readTy : Attempt Ty} {s t : Stream} {ty : Ty} {name : String}

/-- What is read for a type spells that type. -/
def Spells? (scope : Scope) (readTy : Attempt Ty) : Prop :=
  ∀ s ty t, readTy s = some (ty, t) → ∃ words, Spelled scope .whole words ty ∧ Passes s words t

theorem argsFrom_spelled (spells : Spells? scope readTy) (fuel : Nat) {args : List Ty}
    (read : argsFrom readTy fuel s = some (args, t)) :
    ∃ words, Spelled scope .args words args ∧ Passes s words t := by
  induction fuel generalizing s args t with
  | zero => cases read
  | succ fuel ih =>
    simp only [argsFrom, Option.bind_eq_some_iff] at read
    obtain ⟨⟨first, m⟩, head, read⟩ := read
    obtain ⟨words, spelled, passes⟩ := spells s first m head
    simp only at read
    split at read
    case h_1 next ate =>
      obtain ⟨comma, rfl⟩ := Stream.eat_eq.mp ate
      obtain ⟨⟨others, last⟩, rest, same⟩ := Option.map_eq_some_iff.mp read
      cases same
      obtain ⟨behind, more, passed⟩ := ih rest
      exact ⟨_, .more spelled more, passes.append (.symbol comma (by decide) passed)⟩
    case h_2 =>
      obtain ⟨last, closes, same⟩ := Option.map_eq_some_iff.mp read
      cases same
      refine ⟨_, .last spelled, passes.append ?_⟩
      rcases Option.or_eq_some_iff.mp closes with ate | ⟨-, splits⟩
      · obtain ⟨greater, rfl⟩ := Stream.eat_eq.mp ate
        exact .symbol greater (by decide) .nil
      · exact .half splits .nil

theorem generic_spelled (spells : Spells? scope readTy)
    (read : generic? scope readTy name s = some (ty, t)) :
    ∃ words, Spelled scope (.path name) words ty ∧ Passes s words t := by
  simp only [generic?, typeArgs, Option.bind_eq_some_iff, Option.map_eq_some_iff] at read
  obtain ⟨⟨args, m⟩, ⟨next, ate, given⟩, ty, known, same⟩ := read
  cases same
  obtain ⟨less, rfl⟩ := Stream.eat_eq.mp ate
  obtain ⟨words, spelled, passes⟩ := argsFrom_spelled spells _ given
  exact ⟨_, .closed spelled known, .symbol less (by decide) passes⟩

theorem pathFrom_spelled (spells : Spells? scope readTy) (fuel : Nat)
    (read : pathFrom scope readTy fuel name s = some (ty, t)) :
    ∃ words, Spelled scope (.path name) words ty ∧ Passes s words t := by
  induction fuel generalizing name s with
  | zero => cases read
  | succ fuel ih =>
    simp only [pathFrom] at read
    split at read
    case h_1 found generic =>
      cases read
      exact generic_spelled spells generic
    case h_2 =>
      split at read
      case h_1 known =>
        cases read
        exact ⟨[], .named known, .nil⟩
      case h_2 unknown =>
        split at read
        case isTrue dot =>
          rw [Stream.kindAt_one] at dot
          obtain ⟨words, spelled, passes⟩ := ih read
          exact ⟨_, .dotted unknown spelled, .symbol dot.1 (by decide) (.name dot.2 passes)⟩
        case isFalse => cases read

theorem withArrays_spelled (fuel : Nat) (ty : Ty) (s : Stream) :
    ∃ words, Arrays ty words (withArrays fuel ty s).1 ∧ Passes s words (withArrays fuel ty s).2 := by
  induction fuel generalizing ty s with
  | zero => exact ⟨[], .none, .nil⟩
  | succ fuel ih =>
    simp only [withArrays]
    split
    case isTrue pair =>
      rw [Stream.kindAt_one] at pair
      obtain ⟨words, arrays, passes⟩ := ih (.array ty) s.next.next
      exact ⟨_, .more arrays, .symbol pair.1 (by decide) (.symbol pair.2 (by decide) passes)⟩
    case isFalse => exact ⟨[], .none, .nil⟩

theorem typeWithin_spelled (depth : Nat) : Spells? scope (typeWithin scope depth) := by
  induction depth with
  | zero =>
    intro s ty t read
    cases read
  | succ depth ih =>
    intro s ty t read
    simp only [typeWithin, path, Option.map_eq_some_iff] at read
    obtain ⟨⟨plain, m⟩, path, marked⟩ := read
    split at path
    case isFalse => cases path
    case isTrue named =>
      obtain ⟨words, spelled, passes⟩ := pathFrom_spelled ih _ path
      simp only [withNullable] at marked
      split at marked
      case isTrue asks =>
        obtain ⟨others, arrays, passed⟩ := withArrays_spelled m.next.rest.length
          (if plain.acceptsNull then plain else plain.toNullable) m.next
        rw [marked] at arrays passed
        exact ⟨_, .whole spelled (.nullable arrays),
          .name named (passes.append (.symbol asks.1 (by decide) passed))⟩
      case isFalse =>
        obtain ⟨others, arrays, passed⟩ := withArrays_spelled m.rest.length plain m
        rw [marked] at arrays passed
        exact ⟨_, .whole spelled (.plain arrays), .name named (passes.append passed)⟩

/-- What is read for a type spells that type. -/
theorem type_spelled (read : type? scope s = some (ty, t)) :
    ∃ words, Spelled scope .whole words ty ∧ Passes s words t :=
  typeWithin_spelled _ s ty t read

end Sound

/-- What may stand behind a type wherever it is read: a bracket that closes, a comma, or a name with
one of those behind it. -/
def EndsType (s : Stream) : Prop :=
  s.kind ∈ [.rightParen, .comma, .greater, .greaterGreater] ∨
    s.kind = .identifier ∧ s.next.kind ∈ [.comma, .rightParen]

section Complete

variable {scope : Scope} {s m t : Stream} {ty result : Ty} {words : List Lexeme}

theorem EndsType.ne (ends : EndsType s) {kind : TokenKind}
    (other : kind ∉ [.rightParen, .comma, .greater, .greaterGreater, .identifier]) :
    s.kind ≠ kind := by
  rintro rfl
  apply other
  rcases ends with listed | ⟨named, -⟩
  · exact List.mem_append_left [.identifier] listed
  · simp [named]

theorem Arrays.first (arrays : Arrays ty words result) (passes : Passes s words t) :
    s = t ∨ s.kind = .leftBracket := by
  cases arrays with
  | none =>
    cases passes
    exact .inl rfl
  | more => exact .inr (passes.of_symbol (by decide)).1

theorem Arrays.read (arrays : Arrays ty words result) (passes : Passes s words t)
    (closed : s.Closed) (ends : EndsType t) {fuel : Nat} (enough : s.rest.length ≤ fuel) :
    withArrays fuel ty s = (result, t) := by
  induction arrays generalizing s fuel with
  | none =>
    cases passes
    have noBracket : t.kind ≠ .leftBracket := ends.ne (by decide)
    cases fuel with
    | zero => rfl
    | succ fuel => simp [withArrays, noBracket]
  | more rest ih =>
    obtain ⟨opens, more, passes⟩ := passes.of_symbol (by decide)
    obtain ⟨closes, others, passes⟩ := passes.of_symbol (by decide)
    have shorter := closed.next_shorter more
    have closed := closed.next more
    have shortest := closed.next_shorter others
    obtain ⟨fuel, rfl⟩ := Nat.exists_eq_succ_of_ne_zero (by omega : fuel ≠ 0)
    simp only [withArrays, opens, Stream.kindAt_one, closes, and_self, ↓reduceIte]
    exact ih passes (closed.next others) (by omega)

theorem Marks.first (marks : Marks ty words result) (passes : Passes s words t) :
    s = t ∨ s.kind = .leftBracket ∨ s.kind = .question := by
  cases marks with
  | plain arrays =>
    rcases arrays.first passes with same | bracket
    · exact .inl same
    · exact .inr (.inl bracket)
  | nullable => exact .inr (.inr (passes.of_symbol (by decide)).1)

theorem Marks.read (marks : Marks ty words result) (passes : Passes s words t) (closed : s.Closed)
    (ends : EndsType t) :
    withArrays (withNullable ty s).2.rest.length (withNullable ty s).1 (withNullable ty s).2
      = (result, t) := by
  cases marks with
  | plain arrays =>
    have noMark : s.kind ≠ .question := by
      rcases arrays.first passes with rfl | bracket
      · exact ends.ne (by decide)
      · simp [bracket]
    simp only [withNullable, noMark, false_and, ↓reduceIte]
    exact arrays.read passes closed ends (Nat.le_refl _)
  | nullable arrays =>
    obtain ⟨asks, more, passes⟩ := passes.of_symbol (by decide)
    have marks : marksNullable s := by
      unfold marksNullable
      rw [Stream.kindAt_one, Stream.kindAt_two]
      rcases arrays.first passes with rfl | bracket
      · rcases ends with listed | ⟨named, behind⟩
        · simp only [List.mem_cons, List.not_mem_nil, or_false] at listed
          rcases listed with stands | stands | stands | stands <;> rw [stands]
        · simp only [List.mem_cons, List.not_mem_nil, or_false] at behind
          rcases behind with stands | stands <;> rw [named, stands] <;> rfl
      · rw [bracket]
    simp only [withNullable, asks, marks, and_self, ↓reduceIte]
    exact arrays.read passes (closed.next more) ends (Nat.le_refl _)

/-- The reader comes out with a part of a type, given as many steps as there are tokens left. -/
def Found (scope : Scope) : (part : TypePart) → Stream → part.Result → Stream → Prop
  | .path name, s, ty, t => ∀ depth fuel, s.rest.length ≤ depth → s.rest.length ≤ fuel →
    pathFrom scope (typeWithin scope depth) fuel name s = some (ty, t)
  | .whole, s, ty, t => ∀ depth, s.rest.length < depth → typeWithin scope depth s = some (ty, t)
  | .args, s, args, t => ∀ depth fuel, s.rest.length < depth → s.rest.length ≤ fuel →
    argsFrom (typeWithin scope depth) fuel s = some (args, t)

/-- What has to hold behind a part so that no more is taken for it. -/
def Stands : TypePart → Stream → Prop
  | .path _, t => t.kind ≠ .less
  | .whole, t => EndsType t
  | .args, _ => True

theorem generic_none {readTy : Attempt Ty} {name : String} (noLess : s.kind ≠ .less) :
    generic? scope readTy name s = none := by
  simp [generic?, typeArgs, Stream.eat?, noLess]

/-- What is spelled is read, whatever part of a type it is. -/
theorem Spelled.found {part : TypePart} {result : part.Result}
    (spelled : Spelled scope part words result) (passes : Passes s words t) (closed : s.Closed)
    (stands : Stands part t) : Found scope part s result t := by
  induction spelled generalizing s t with
  | named known =>
    intro depth fuel _ enough
    cases passes
    have some := closed.nonempty
    obtain ⟨fuel, rfl⟩ := Nat.exists_eq_succ_of_ne_zero (by omega : fuel ≠ 0)
    simp only [pathFrom, generic_none stands, known]
  | closed given known ih =>
    intro depth fuel deep enough
    obtain ⟨less, more, passes⟩ := passes.of_symbol (by decide)
    have shorter := closed.next_shorter more
    have found := ih passes (closed.next more) trivial depth s.next.rest.length (by omega)
      (Nat.le_refl _)
    obtain ⟨fuel, rfl⟩ := Nat.exists_eq_succ_of_ne_zero (by omega : fuel ≠ 0)
    simp [pathFrom, generic?, typeArgs, Stream.eat?, less, found, known]
  | dotted unknown rest ih =>
    intro depth fuel deep enough
    obtain ⟨dot, more, passes⟩ := passes.of_symbol (by decide)
    obtain ⟨named, lexeme, others, passes⟩ := passes.of_name
    have shorter := closed.next_shorter more
    have closed := closed.next more
    have shortest := closed.next_shorter others
    obtain ⟨fuel, rfl⟩ := Nat.exists_eq_succ_of_ne_zero (by omega : fuel ≠ 0)
    have found := ih passes (closed.next others) stands depth fuel (by omega) (by omega)
    simp only [pathFrom, generic_none (by simp [dot] : s.kind ≠ .less), unknown, dot,
      Stream.kindAt_one, named, and_self, ↓reduceIte, lexeme]
    exact found
  | whole path marks ih =>
    intro depth deep
    obtain ⟨named, lexeme, more, passes⟩ := passes.of_name
    obtain ⟨m, front, behind⟩ := passes.split
    have shorter := closed.next_shorter more
    have next := closed.next more
    have noLess : m.kind ≠ .less := by
      rcases marks.first behind with rfl | bracket | asks
      · exact stands.ne (by decide)
      · simp [bracket]
      · simp [asks]
    obtain ⟨depth, rfl⟩ := Nat.exists_eq_succ_of_ne_zero (by omega : depth ≠ 0)
    have found := ih front next noLess depth (s.rest.length + 1) (by omega) (by omega)
    have marked := marks.read behind (front.closed next).1 stands
    simp only [typeWithin, Reader.path, named, ↓reduceIte, lexeme, found, Option.map_some, marked]
  | last only ih =>
    intro depth fuel deep enough
    obtain ⟨m, front, behind⟩ := passes.split
    have some := closed.nonempty
    obtain ⟨fuel, rfl⟩ := Nat.exists_eq_succ_of_ne_zero (by omega : fuel ≠ 0)
    cases behind with
    | word fits more rest =>
      cases rest
      have greater : m.kind = .greater := fits.1
      have found := ih front closed (.inl (by simp [greater])) depth deep
      simp [argsFrom, found, Stream.eat?, greater]
    | half splits rest =>
      cases rest
      obtain ⟨shift, -⟩ := Stream.splitShift_eq splits
      have found := ih front closed (.inl (by simp [shift])) depth deep
      simp [argsFrom, found, Stream.eat?, shift, splits]
  | more first rest ihFirst ihRest =>
    intro depth fuel deep enough
    obtain ⟨m, front, behind⟩ := passes.split
    obtain ⟨comma, more, behind⟩ := behind.of_symbol (by decide)
    obtain ⟨middle, shorter⟩ := front.closed closed
    have shortest := middle.next_shorter more
    obtain ⟨fuel, rfl⟩ := Nat.exists_eq_succ_of_ne_zero (by omega : fuel ≠ 0)
    have found := ihFirst front closed (.inl (by simp [comma])) depth deep
    have others := ihRest behind (middle.next more) trivial depth fuel (by omega) (by omega)
    simp [argsFrom, found, Stream.eat?, comma, others]

/-- The spelling of a type is read as that type where something that ends types stands behind it. -/
theorem type_found (spelled : Spelled scope .whole words ty) (passes : Passes s words t)
    (closed : s.Closed) (ends : EndsType t) : type? scope s = some (ty, t) :=
  spelled.found passes closed ends (s.rest.length + 1) (Nat.lt_succ_self _)

end Complete

/-- Tokens stand for words one by one, but for shifts, each of which stands for two closing angle
brackets. -/
inductive Covers : List Lexeme → List Token → Prop
  | nil : Covers [] []
  | word {lexeme : Lexeme} {token : Token} (fits : lexeme.Fits token)
      (more : token.kind ≠ .endOfInput) (rest : Covers words tokens) :
      Covers (lexeme :: words) (token :: tokens)
  | shift {token : Token} (shift : token.kind = .greaterGreater) (rest : Covers words tokens) :
      Covers (.symbol .greater :: .symbol .greater :: words) (token :: tokens)

section Covering

variable {s t : Stream} {words : List Lexeme} {tokens others tail : List Token}

theorem Covers.noEnd (covers : Covers words tokens) :
    ∀ token ∈ tokens, token.kind ≠ .endOfInput := by
  induction covers with
  | nil => exact List.forall_mem_nil _
  | word _ more _ ih => exact List.forall_mem_cons.mpr ⟨more, ih⟩
  | shift shift _ ih => exact List.forall_mem_cons.mpr ⟨by simp [shift], ih⟩

theorem Covers.passes (covers : Covers words tokens) (before : s.Before (tokens ++ tail))
    (more : tail ≠ []) : ∃ t, Passes s words t ∧ t.Before tail := by
  have next : ∀ {s : Stream} {token : Token} {tokens : List Token},
      s.Before (token :: (tokens ++ tail)) → s.next.Before (tokens ++ tail) :=
    fun before => before.next (List.append_ne_nil_of_right_ne_nil _ more)
  induction covers generalizing s with
  | nil => exact ⟨s, .nil, before⟩
  | @word words tokens lexeme token fits notEnd _ ih =>
    obtain ⟨t, passes, last⟩ := ih (next before)
    have peek : s.peek = token := before.peek
    exact ⟨t, .word (peek ▸ fits) (by rwa [Stream.kind, peek]) passes, last⟩
  | @shift words tokens token shift _ ih =>
    have kind : s.kind = .greaterGreater := before.kind.trans shift
    obtain ⟨m, splits⟩ : ∃ m, s.splitShift? = some m := by
      simp [Stream.splitShift?, kind, before.whole]
    obtain ⟨-, -, same, half⟩ := Stream.splitShift_eq splits
    have greater : m.kind = .greater := by
      simp [Stream.kind, Stream.peek, half, Stream.secondHalf, Token.word]
    have behind : m.next.Before (tokens ++ tail) :=
      ⟨(congrArg Stream.tokensAfter same).trans (next before).rest, rfl⟩
    obtain ⟨t, passes, last⟩ := ih behind
    exact ⟨t, .half splits (.symbol greater (by decide) passes), last⟩

/-- Words that were passed are covered by the tokens in between. -/
theorem Passes.covers (passes : Passes s words t) (closed : s.Closed) (whole : t.split = false) :
    ∃ tokens, s.rest = tokens ++ t.rest ∧
      Covers (if s.split then .symbol .greater :: words else words) tokens := by
  induction passes with
  | nil => exact ⟨[], rfl, by simpa [whole] using Covers.nil⟩
  | @word words t lexeme s fits more rest ih =>
    obtain ⟨first, parts, is, next⟩ := closed.rest_eq more
    obtain ⟨tokens, left, covers⟩ := ih next whole
    have covers : Covers words tokens := covers
    refine ⟨first :: tokens, by rw [parts, left, List.cons_append], ?_⟩
    cases half : s.split with
    | false =>
      have peek : s.peek = first := by simp [Stream.peek, half, parts]
      exact .word (peek ▸ fits) (by rwa [Stream.kind, peek] at more) covers
    | true =>
      have greater : s.peek.kind = .greater := by simp [Stream.peek, half, Stream.secondHalf, Token.word]
      have same : lexeme = .symbol .greater := lexeme.eq_symbol (fits.1.symm.trans greater)
      have shift : first.kind = .greaterGreater := by simpa [parts] using closed.halved half
      subst same
      exact .shift shift covers
  | @half s m words t splits rest ih =>
    obtain ⟨-, fresh, same, half⟩ := Stream.splitShift_eq splits
    obtain ⟨tokens, left, covers⟩ := ih (closed.half splits) whole
    rw [half] at covers
    rw [fresh]
    exact ⟨tokens, same ▸ left, covers⟩

end Covering

end Reader
end Formula
