import Formula.Library.Standard
import Formula.Proofs.MemberCalls
import Formula.Proofs.Scanning
import Mathlib.Data.List.TakeWhile

/-! Reading back what was written. The text of an integer is its digits behind a sign, if it has one,
and those denote the integer again; it is in range, so every kind reads the texts of its own values.
Blanks around a text are not read. Truth values are written with a capital letter and read in any
letter case. Hence values of one such kind that have the same text are the same. -/
namespace Formula

namespace Unicode

/-- A text without blanks is what remains of it between blanks. -/
theorem trimBlanks_between {front text back : List Char} (before : ∀ c ∈ front, isBlank c)
    (behind : ∀ c ∈ back, isBlank c) (visible : ∀ c ∈ text, isBlank c = false) :
    trimBlanks (front ++ text ++ back) = text := by
  have reversed : ∀ c ∈ back.reverse, isBlank c := fun c member =>
    behind c (List.mem_reverse.mp member)
  -- The blanks in front go, and then, from the other end, those behind.
  have ahead : (front ++ text ++ back).dropWhile isBlank = (text ++ back).dropWhile isBlank := by
    rw [List.append_assoc, List.dropWhile_append_of_pos before]
  have kept : ∀ text : List Char, (∀ c ∈ text, isBlank c = false) →
      text.dropWhile isBlank = text := by
    intro text visible
    apply List.dropWhile_eq_self_iff.mpr
    intro some
    simp [visible _ (List.getElem_mem some)]
  cases text with
  | nil =>
    have nothing : back.dropWhile isBlank = [] := List.dropWhile_eq_nil_iff.mpr behind
    rw [trimBlanks, ahead, List.nil_append, nothing]
    rfl
  | cons c text =>
    have here : (c :: text ++ back).dropWhile isBlank = c :: text ++ back := by
      simp [visible c List.mem_cons_self]
    rw [trimBlanks, ahead, here, List.reverse_append, List.dropWhile_append_of_pos reversed, kept,
      List.reverse_reverse]
    exact fun d member => visible d (List.mem_reverse.mp member)

end Unicode

namespace Word

variable {kind : IntKind}

/-- The text of a word is its digits, behind a minus if it is negative. -/
theorem text_chars (word : Word kind) : word.text.toList =
    if word.val < 0 then '-' :: Nat.toDigits 10 word.val.natAbs
    else Nat.toDigits 10 word.val.natAbs := by
  rw [text, Int.toString_eq_repr, Int.repr_eq_if]
  split
  case isTrue nonneg =>
    have digits : word.val.toNat = word.val.natAbs := by omega
    rw [if_neg (Int.not_lt.mpr nonneg), digits]
    simp
  case isFalse negative =>
    have digits : (-word.val).toNat = word.val.natAbs := by omega
    rw [if_pos (Int.not_le.mp negative), digits]
    simp

theorem digit_of_digits {n : Nat} {c : Char} (member : c ∈ Nat.toDigits 10 n) : c.isDigit :=
  Nat.isDigit_of_mem_toDigits (by decide) (by decide) member

theorem read_digits (n : Nat) : read? kind (Nat.toDigits 10 n) = ofInt? kind n := by
  unfold read?
  split
  case h_1 rest starts =>
    have isDigit := digit_of_digits (starts ▸ List.mem_cons_self)
    cases isDigit
  case h_2 rest starts =>
    have isDigit := digit_of_digits (starts ▸ List.mem_cons_self)
    cases isDigit
  case h_3 =>
    rw [Lexeme.digits_toDigits]
    rfl

theorem read_minus (signed : kind.isSigned) (n : Nat) :
    read? kind ('-' :: Nat.toDigits 10 n) = ofInt? kind (-n) := by
  simp only [read?, signed, ↓reduceIte, Lexeme.digits_toDigits]
  rfl

/-- Only signed kinds have negative words. -/
theorem signed_of_neg {word : Word kind} (negative : word.val < 0) : kind.isSigned := by
  by_contra unsigned
  have least := word.least_le
  rw [IntKind.least, if_neg unsigned] at least
  omega

/-- A kind reads the text of each of its words as that word. -/
theorem read_text (word : Word kind) : read? kind word.text.toList = some word := by
  rw [text_chars]
  split
  case isTrue negative =>
    have value : -(word.val.natAbs : Int) = word.val := by omega
    rw [read_minus (signed_of_neg negative), value, Lexeme.ofInt_val]
  case isFalse =>
    have value : (word.val.natAbs : Int) = word.val := by omega
    rw [read_digits, value, Lexeme.ofInt_val]

theorem text_visible (word : Word kind) : ∀ c ∈ word.text.toList, Unicode.isBlank c = false := by
  have digits : ∀ c ∈ Nat.toDigits 10 word.val.natAbs, Unicode.isBlank c = false := by
    intro c member
    by_contra blank
    have noDigit := Token.blank_noDigit (by simpa using blank)
    rw [digit_of_digits member] at noDigit
    cases noDigit
  rw [text_chars]
  split
  case isTrue => exact List.forall_mem_cons.mpr ⟨by decide, digits⟩
  case isFalse => exact digits

end Word

/-- Reads a text as a value of a primitive kind, as the kind's own method does. -/
def Universe.parse (world : Universe) (kind : Kind) (text : String) : Action NativeError Value :=
  world.callMethod (.primitive kind) "Parse" [.string] none [.string text]

namespace Library

/-- The integers and truth values have the members that the standard library gives them. -/
structure Primitives (registry : Registry) : Prop where
  integers : ∀ kind, ∃ base,
    registry.entryFor? (.primitive (.integer kind)) = some (integerClass base kind)
  bools : ∃ base, registry.entryFor? .bool = some (boolClass base)

variable {registry : Registry} {kind : IntKind} {text : String} {store : Store}

theorem primitives_standard (built : standard = .ok registry) : Primitives registry := by
  cases built
  constructor
  · intro kind
    cases kind <;> exact ⟨_, rfl⟩
  · exact ⟨_, rfl⟩

theorem parse_integer_run (primitives : Primitives registry) :
    registry.toUniverse.parse (.integer kind) text store =
      match Word.read? kind (Unicode.trimBlanks text.toList) with
      | some word => (.ok (.integer kind word), store)
      | none => (.error (badFormat text), store) := by
  obtain ⟨base, registered⟩ := primitives.integers kind
  rw [Universe.parse, Registry.callMethod_eq registered rfl rfl]
  refine (Action.run_ok (Call.text_run rfl)).trans ?_
  cases Word.read? kind (Unicode.trimBlanks text.toList) with
  | some word => rfl
  | none => rfl

theorem parse_bool_run (primitives : Primitives registry) :
    registry.toUniverse.parse .bool text store =
      let word := String.ofList ((Unicode.trimBlanks text.toList).map Char.toLower)
      if word = "true" then (.ok (.bool true), store)
      else if word = "false" then (.ok (.bool false), store)
      else (.error (.other s!"string '{text}' was not recognized as a valid Boolean"), store) := by
  obtain ⟨base, registered⟩ := primitives.bools
  rw [Universe.parse, Registry.callMethod_eq registered rfl rfl]
  refine (Action.run_ok (Call.text_run rfl)).trans ?_
  dsimp only
  split
  case isTrue => rfl
  case isFalse => split <;> rfl

/-- The kinds whose values read back: the integers and the truth values. -/
def ReadsBack (kind : Kind) : Prop := kind.isIntegral ∨ kind = .bool

/-- A text of a value, between blanks, is read as the value. -/
theorem parse_text_run (primitives : Primitives registry) {value : Value} {kind : Kind}
    (of : value.kind? = some kind) (reads : ReadsBack kind) {front back : String}
    (before : ∀ c ∈ front.toList, Unicode.isBlank c)
    (behind : ∀ c ∈ back.toList, Unicode.isBlank c) :
    registry.toUniverse.parse kind (front ++ value.text ++ back) store = (.ok value, store) := by
  have chars : (front ++ value.text ++ back).toList
      = front.toList ++ value.text.toList ++ back.toList := by simp
  cases value with
  | bool b =>
    obtain rfl : Kind.bool = kind := Option.some.inj of
    have letters : (Value.bool b).text.toList.all fun c => !Unicode.isBlank c := by
      cases b <;> decide
    have visible : ∀ c ∈ (Value.bool b).text.toList, Unicode.isBlank c = false := fun c member => by
      simpa using List.all_eq_true.mp letters c member
    rw [parse_bool_run primitives, chars, Unicode.trimBlanks_between before behind visible]
    cases b <;> rfl
  | integer kind word =>
    obtain rfl := Option.some.inj of
    have visible : ∀ c ∈ (Value.integer kind word).text.toList, Unicode.isBlank c = false :=
      word.text_visible
    have read : Word.read? kind (Value.integer kind word).text.toList = some word := word.read_text
    rw [parse_integer_run primitives, chars, Unicode.trimBlanks_between before behind visible]
    simp only [read]
  | char c | float x | double x | decimal d =>
    obtain rfl := Option.some.inj of
    rcases reads with reads | reads <;> cases reads
  | _ => cases of

/-- Reading undoes writing: with any blanks around it, the text of an integer or of a truth value is
read by its kind as that value, and no other value of the kind has that text. -/
theorem parse_undoes_text (primitives : Primitives registry) {kind : Kind} (reads : ReadsBack kind)
    {value : Value} (of : value.kind? = some kind) :
    (∀ front back : String, (∀ c ∈ front.toList, Unicode.isBlank c) →
      (∀ c ∈ back.toList, Unicode.isBlank c) → ∀ store,
        registry.toUniverse.parse kind (front ++ value.text ++ back) store = (.ok value, store)) ∧
    ∀ other : Value, other.kind? = some kind → other.text = value.text → other = value := by
  constructor
  · intro front back before behind store
    exact parse_text_run primitives of reads before behind
  · intro other ofOther same
    -- The one text is read as both.
    have none : ∀ c ∈ "".toList, Unicode.isBlank c := by simp
    have read : ∀ value : Value, value.kind? = some kind →
        registry.toUniverse.parse kind ("" ++ value.text ++ "") .empty = (.ok value, .empty) :=
      fun _ of => parse_text_run primitives of reads none none
    have readOther := read other ofOther
    rw [same, read value of] at readOther
    injection readOther with outcome
    injection outcome with equal
    exact equal.symm

/-- With the standard library, the least signed byte is read behind a blank and before a line feed. -/
theorem parse_least_sbyte : ∃ registry, standard = .ok registry ∧ Primitives registry ∧
    registry.toUniverse.parse (.integer .sbyte) " -128\n" .empty
      = (.ok (.integer .sbyte (Word.ofInt .sbyte (-128))), .empty) := by
  obtain ⟨registry, built⟩ : ∃ registry, standard = .ok registry := ⟨_, rfl⟩
  have primitives := primitives_standard built
  have least : (Value.integer .sbyte (Word.ofInt .sbyte (-128))).kind? = some (.integer .sbyte) := rfl
  refine ⟨registry, built, primitives, ?_⟩
  exact (parse_undoes_text primitives (.inl rfl) least).1 " " "\n"
    (List.all_eq_true.mp (by decide)) (List.all_eq_true.mp (by decide)) .empty

end Library
end Formula
