import Formula.Library.Standard
import Formula.Proofs.ByteSearch
import Formula.Proofs.MemberCalls
import Formula.Proofs.Words

/-! The members of texts agree on positions. Each member is a function of the characters of the text,
and one that searches finds the least position at which the other text occurs. A position is a
number of characters, in a search as in a part of the text, so each member can be read off the
others. -/
namespace Formula.Library

section Search

variable {needle text : List Char} {c : Char} {i : Nat}

/-- A text occurs in another at a position. -/
def OccursAt (needle text : List Char) (i : Nat) : Prop :=
  i ≤ text.length ∧ needle <+: text.drop i

theorem occursAt_zero : OccursAt needle text 0 ↔ needle <+: text := by
  simp [OccursAt]

theorem occursAt_cons : OccursAt needle (c :: text) (i + 1) ↔ OccursAt needle text i := by
  simp [OccursAt]

/-- What a search finds is the least position, if there is one. -/
theorem positionOf?_some (found : positionOf? needle text = some i) :
    OccursAt needle text i ∧ ∀ j < i, ¬ OccursAt needle text j := by
  induction text generalizing i with
  | nil =>
    rw [positionOf?] at found
    split at found
    case isTrue empty =>
      cases found
      rw [List.isEmpty_iff] at empty
      exact ⟨occursAt_zero.mpr (by simp [empty]), fun j below => absurd below (Nat.not_lt_zero j)⟩
    case isFalse => cases found
  | cons c text ih =>
    rw [positionOf?] at found
    split at found
    case isTrue begins =>
      cases found
      exact ⟨occursAt_zero.mpr (List.isPrefixOf_iff_prefix.mp begins),
        fun j below => absurd below (Nat.not_lt_zero j)⟩
    case isFalse later =>
      obtain ⟨k, ahead, rfl⟩ := Option.map_eq_some_iff.mp found
      obtain ⟨occurs, least⟩ := ih ahead
      refine ⟨occursAt_cons.mpr occurs, fun j below => ?_⟩
      cases j with
      | zero => exact fun here => later (List.isPrefixOf_iff_prefix.mpr (occursAt_zero.mp here))
      | succ j => exact fun here => least j (by omega) (occursAt_cons.mp here)

/-- A search that finds nothing misses nothing. -/
theorem positionOf?_none (missing : positionOf? needle text = none) : ¬ OccursAt needle text i := by
  induction text generalizing i with
  | nil =>
    rw [positionOf?] at missing
    split at missing
    case isTrue => cases missing
    case isFalse nonempty =>
      rintro ⟨-, occurs⟩
      rw [List.drop_nil, List.prefix_nil] at occurs
      exact nonempty (List.isEmpty_iff.mpr occurs)
  | cons c text ih =>
    rw [positionOf?] at missing
    split at missing
    case isTrue => cases missing
    case isFalse later =>
      cases i with
      | zero => exact fun here => later (List.isPrefixOf_iff_prefix.mpr (occursAt_zero.mp here))
      | succ i => exact fun here => ih (Option.map_eq_none_iff.mp missing) (occursAt_cons.mp here)

theorem positionOf?_zero_iff : positionOf? needle text = some 0 ↔ needle <+: text := by
  rw [← occursAt_zero]
  constructor
  · exact fun found => (positionOf?_some found).1
  · intro here
    cases found : positionOf? needle text with
    | none => exact absurd here (positionOf?_none found)
    | some i =>
      cases i with
      | zero => rfl
      | succ i => exact absurd here ((positionOf?_some found).2 0 (Nat.succ_pos i))

end Search

/-- What texts are asked: their members, with arguments. -/
inductive TextCall where
  | length
  | charAt (i : Word .int)
  | substring (i n : Word .int)
  | rest (i : Word .int)
  | indexOf (t : String)
  | contains (t : String)
  | startsWith (t : String)
  | endsWith (t : String)

namespace TextCall

/-- Asks a text through the members that a universe finds. -/
def run (world : Universe) (s : String) : TextCall → Action NativeError Value
  | length => world.readMember .string "Length" (.string s)
  | charAt i => world.index .string (.string s) [.integer .int i]
  | substring i n => world.callMethod .string "Substring" [.int, .int] (some (.string s))
      [.integer .int i, .integer .int n]
  | rest i => world.callMethod .string "Substring" [.int] (some (.string s)) [.integer .int i]
  | indexOf t => world.callMethod .string "IndexOf" [.string] (some (.string s)) [.string t]
  | contains t => world.callMethod .string "Contains" [.string] (some (.string s)) [.string t]
  | startsWith t => world.callMethod .string "StartsWith" [.string] (some (.string s)) [.string t]
  | endsWith t => world.callMethod .string "EndsWith" [.string] (some (.string s)) [.string t]

/-- The answer as a function of the characters of the text. -/
def answer (s : String) : TextCall → Except NativeError Value
  | length => .ok (.int s.toList.length)
  | charAt i =>
    if i.val < 0 then .error (outOfRange "index")
    else match s.toList[i.val.toNat]? with
      | some c => .ok (.char c)
      | none => .error (outOfRange "index")
  | substring i n =>
    if i.val < 0 ∨ n.val < 0 then .error (outOfRange "index")
    else if s.toList.length < i.val.toNat + n.val.toNat then .error (outOfRange "length")
    else .ok (.string (String.ofList ((s.toList.drop i.val.toNat).take n.val.toNat)))
  | rest i =>
    if i.val < 0 then .error (outOfRange "index")
    else if s.toList.length < i.val.toNat then .error (outOfRange "startIndex")
    else .ok (.string (String.ofList (s.toList.drop i.val.toNat)))
  | indexOf t => .ok (.int (((positionOf? t.toList s.toList).map Int.ofNat).getD (-1)))
  | contains t => .ok (.bool (positionOf? t.toList s.toList).isSome)
  | startsWith t => .ok (.bool (t.toList.isPrefixOf s.toList))
  | endsWith t => .ok (.bool (t.toList.isSuffixOf s.toList))

variable {registry base : Registry} {s t : String} {store : Store} {call : Call}

/-- A position that is not negative is a number of characters. -/
theorem position_run {k : Nat} {n : Word .int} (given : call.args[k]? = some (.integer .int n)) :
    position call k store
      = (if n.val < 0 then .error (outOfRange "index") else .ok n.val.toNat, store) := by
  refine (Action.run_ok (Call.integer_run given)).trans ?_
  split <;> rfl

theorem charAt_run {i : Word .int} (of : call.this = some (.string s))
    (given : call.args[0]? = some (.integer .int i)) :
    Library.charAt call store = ((TextCall.charAt i).answer s, store) := by
  have start : position call 0 store = _ := position_run given
  rw [answer]
  split at start
  case isTrue negative =>
    rw [if_pos negative]
    exact Action.run_error start
  case isFalse nonneg =>
    rw [if_neg nonneg]
    refine (Action.run_ok start).trans ?_
    refine (Action.run_ok (Call.receiverText_run of)).trans ?_
    cases s.toList[i.val.toNat]? <;> rfl

theorem substring_run {i n : Word .int} (of : call.this = some (.string s))
    (given : call.args = [.integer .int i, .integer .int n]) :
    Library.substring call store = ((TextCall.substring i n).answer s, store) := by
  have start : position call 0 store = _ := position_run (n := i) (by rw [given]; rfl)
  have count : position call 1 store = _ := position_run (n := n) (by rw [given]; rfl)
  have two : 1 < call.args.length := by simp [given]
  rw [answer]
  refine (Action.run_ok (Call.receiverText_run of)).trans ?_
  by_cases negative : i.val < 0
  · rw [if_pos negative] at start
    rw [if_pos (.inl negative)]
    exact Action.run_error start
  rw [if_neg negative] at start
  refine (Action.run_ok start).trans ?_
  by_cases few : n.val < 0
  · rw [if_pos few] at count
    simp only [two, few, or_true, ↓reduceIte]
    exact Action.run_error count
  rw [if_neg few] at count
  simp only [two, negative, few, or_self, ↓reduceIte]
  refine (Action.run_ok count).trans ?_
  split <;> rfl

/-- Without a count the part goes to the end of the text, and it has all its characters. -/
theorem rest_run {i : Word .int} (of : call.this = some (.string s))
    (given : call.args = [.integer .int i]) :
    Library.substring call store = ((TextCall.rest i).answer s, store) := by
  have start : position call 0 store = _ := position_run (n := i) (by rw [given]; rfl)
  have one : ¬ 1 < call.args.length := by simp [given]
  rw [answer]
  refine (Action.run_ok (Call.receiverText_run of)).trans ?_
  by_cases negative : i.val < 0
  · rw [if_pos negative] at start
    rw [if_pos negative]
    exact Action.run_error start
  rw [if_neg negative] at start
  rw [if_neg negative]
  refine (Action.run_ok start).trans ?_
  simp only [one, ↓reduceIte]
  by_cases outside : s.toList.length < i.val.toNat
  · simp only [outside, ↓reduceIte]
    rfl
  · have counted : ¬ s.toList.length < i.val.toNat + (s.toList.length - i.val.toNat) := by omega
    have all : (s.toList.drop i.val.toNat).take (s.toList.length - i.val.toNat)
        = s.toList.drop i.val.toNat := by
      rw [← List.length_drop, List.take_length]
    simp only [outside, ↓reduceIte]
    have count : (pure (s.toList.length - i.val.toNat) : Action NativeError Nat) store
        = (.ok (s.toList.length - i.val.toNat), store) := rfl
    refine (Action.run_ok count).trans ?_
    simp only [counted, ↓reduceIte, all]
    rfl

theorem indexOf_run (of : call.this = some (.string s)) (given : call.args = [.string t]) :
    Library.indexOf call store = ((TextCall.indexOf t).answer s, store) := by
  refine (Action.run_ok (Call.receiverText_run of)).trans ?_
  refine (Action.run_ok (Call.text_run (by rw [given]; rfl))).trans ?_
  rw [answer, ← search?_eq]
  cases search? t.toList s.toList <;> rfl

theorem testing_run (test : List Char → List Char → Bool) (of : call.this = some (.string s))
    (given : call.args = [.string t]) :
    testing test call store = (.ok (.bool (test s.toList t.toList)), store) := by
  refine (Action.run_ok (Call.text_run (by rw [given]; rfl))).trans ?_
  exact (Action.run_ok (Call.receiverText_run of)).trans rfl

/-- A test of a text runs on its characters and those of the other text. -/
theorem search_run {name : String} (test : List Char → List Char → Bool)
    (registered : registry.entryFor? .string = some (stringClass base))
    (declared : (stringClass base).overloads name =
      [⟨name, [.string], .bool, MemberFlags.instanceMember, testing test⟩]) :
    registry.toUniverse.callMethod .string name [.string] (some (.string s)) [.string t] store
      = (.ok (.bool (test s.toList t.toList)), store) := by
  rw [Registry.callMethod_eq registered declared rfl]
  exact testing_run test rfl rfl

/-- Where texts have the members of the standard library, each is the function of the text. -/
theorem run_eq (registered : registry.entryFor? .string = some (stringClass base))
    (ask : TextCall) (s : String) (store : Store) :
    ask.run registry.toUniverse s store = (ask.answer s, store) := by
  have parts : (stringClass base).overloads "Substring" =
      [⟨"Substring", [.int], .string, MemberFlags.instanceMember, Library.substring⟩,
        ⟨"Substring", [.int, .int], .string, MemberFlags.instanceMember, Library.substring⟩] := by
    simp [stringClass, Registry.newBuiltin, getterName]
  have getter : (stringClass base).overloads (getterName "Chars") =
      [⟨getterName "Chars", [.int], .char, MemberFlags.instanceMember, Library.charAt⟩] := by
    simp [stringClass, Registry.newBuiltin, getterName]
  have search : (stringClass base).overloads "IndexOf" =
      [⟨"IndexOf", [.string], .int, MemberFlags.instanceMember, Library.indexOf⟩] := by
    simp [stringClass, Registry.newBuiltin, getterName]
  cases ask with
  | length =>
    rw [run, Registry.readMember_eq registered rfl rfl]
    rfl
  | charAt i =>
    rw [run, Registry.index_eq registered rfl getter]
    exact charAt_run rfl rfl
  | substring i n =>
    rw [run, Registry.callMethod_eq registered parts rfl]
    exact substring_run rfl rfl
  | rest i =>
    rw [run, Registry.callMethod_eq registered parts rfl]
    exact rest_run rfl rfl
  | indexOf t =>
    rw [run, Registry.callMethod_eq registered search rfl]
    exact indexOf_run rfl rfl
  | contains t =>
    rw [answer, ← search?_eq]
    exact search_run (fun text other => (search? other text).isSome) registered
      (by simp [stringClass, Registry.newBuiltin, getterName])
  | startsWith t =>
    exact search_run (fun text other => other.isPrefixOf text) registered
      (by simp [stringClass, Registry.newBuiltin, getterName])
  | endsWith t =>
    exact search_run (fun text other => other.isSuffixOf text) registered
      (by simp [stringClass, Registry.newBuiltin, getterName])

end TextCall

section Agreement

variable (ask : String → TextCall → Except NativeError Value) (s t : String)

/-- The length of a text as a script knows it. -/
def lengthOf (s : String) : Word .int := Word.ofInt .int s.length

/-- At a position a text has a part that is the other text. -/
def HasPart (i : Word .int) : Prop := ask s (.substring i (lengthOf t)) = .ok (.string t)

/-- What the members of a text answer fits together, also where they look for another text. -/
structure PositionsAgree : Prop where
  /-- The length is the number of characters, -/
  length : ask s .length = .ok (.integer .int (lengthOf s)) ∧ (lengthOf s).val = s.length
  /-- a position is the number of characters before it, -/
  char_at : ∀ i c, ask s (.charAt i) = .ok (.char c) ↔ 0 ≤ i.val ∧ s.toList[i.val.toNat]? = some c
  /-- there are parts within the text only, -/
  part_iff : ∀ i n, (∃ value, ask s (.substring i n) = .ok value) ↔
    0 ≤ i.val ∧ 0 ≤ n.val ∧ i.val + n.val ≤ (lengthOf s).val
  /-- which have so many of its characters, -/
  part_chars : ∀ i n value, ask s (.substring i n) = .ok value → ∃ part : String,
    value = .string part ∧ (lengthOf part).val = n.val ∧ ask part .length = .ok (.integer .int n) ∧
    ∀ j : Word .int, 0 ≤ j.val → j.val < n.val → ∃ c,
      ask part (.charAt j) = .ok (.char c) ∧ ask s (.charAt (i.add j)) = .ok (.char c)
  /-- and a part without a count goes to the end. -/
  rest : ∀ i, (ask s (.rest i)).toOption = (ask s (.substring i ((lengthOf s).sub i))).toOption
  /-- A search finds the least position of the other text, -/
  least : ∃ k, ask s (.indexOf t) = .ok (.integer .int k) ∧
    (HasPart ask s t k ∧ (∀ i, i.val < k.val → ¬ HasPart ask s t i) ∨
      k.val = -1 ∧ ∀ i, ¬ HasPart ask s t i)
  /-- which tells whether it is there at all, -/
  contains : ∀ k, ask s (.indexOf t) = .ok (.integer .int k) →
    ask s (.contains t) = .ok (.bool (0 ≤ k.val))
  /-- and whether it is there in front; -/
  startsWith : ∀ k, ask s (.indexOf t) = .ok (.integer .int k) →
    ask s (.startsWith t) = .ok (.bool (k.val = 0))
  /-- and the end of the text is a part of it. -/
  endsWith : ∃ ends, ask s (.endsWith t) = .ok (.bool ends) ∧
    (ends ↔ (lengthOf t).val ≤ (lengthOf s).val ∧
      ask s (.rest ((lengthOf s).sub (lengthOf t))) = .ok (.string t))

end Agreement

namespace TextCall

variable {s t : String} {i n : Word .int} {value : Value}

/-- Positions that are not too many are words. -/
theorem val_position {n : Int} (nonneg : 0 ≤ n) (few : n < 2 ^ 31) :
    (Word.ofInt .int n).val = n := by
  have bounds : IntKind.least .int = -2 ^ 31 ∧ IntKind.greatest .int = 2 ^ 31 - 1 := by decide
  exact Word.val_ofInt (by omega) (by omega)

theorem val_lengthOf (few : s.length < 2 ^ 31) : (lengthOf s).val = s.length :=
  val_position (by omega) (by omega)

/-- What is made unless it is refused is there just if it is not refused. -/
theorem unless_ok_iff {refused : Prop} [Decidable refused] {e : NativeError}
    {made : Except NativeError Value} :
    (if refused then .error e else made) = .ok value ↔ ¬ refused ∧ made = .ok value := by
  by_cases refuses : refused <;> simp [refuses]

theorem charAt_ok_iff {c : Char} : answer s (.charAt i) = .ok (.char c) ↔
    0 ≤ i.val ∧ s.toList[i.val.toNat]? = some c := by
  rw [answer, unless_ok_iff, Int.not_lt]
  cases s.toList[i.val.toNat]? <;> simp

theorem substring_ok_iff : answer s (.substring i n) = .ok value ↔
    (0 ≤ i.val ∧ 0 ≤ n.val ∧ i.val + n.val ≤ s.length) ∧
      value = .string (String.ofList ((s.toList.drop i.val.toNat).take n.val.toNat)) := by
  have count := s.length_toList
  have inside : ¬ (i.val < 0 ∨ n.val < 0) ∧ ¬ s.toList.length < i.val.toNat + n.val.toNat ↔
      0 ≤ i.val ∧ 0 ≤ n.val ∧ i.val + n.val ≤ s.length := by omega
  rw [answer, unless_ok_iff, unless_ok_iff, ← and_assoc, inside, Except.ok.injEq,
    eq_comm (b := value)]

/-- The part from a position to the end, where there is one. -/
theorem rest_ok_iff : answer s (.rest i) = .ok value ↔
    (0 ≤ i.val ∧ i.val ≤ s.length) ∧ value = .string (String.ofList (s.toList.drop i.val.toNat)) := by
  have count := s.length_toList
  have inside : ¬ i.val < 0 ∧ ¬ s.toList.length < i.val.toNat ↔
      0 ≤ i.val ∧ i.val ≤ s.length := by omega
  rw [answer, unless_ok_iff, unless_ok_iff, ← and_assoc, inside, Except.ok.injEq,
    eq_comm (b := value)]

/-- The part up to the end is the part with all the characters that are left. -/
theorem rest_toOption (few : s.length < 2 ^ 31) : (answer s (.rest i)).toOption
    = (answer s (.substring i ((lengthOf s).sub i))).toOption := by
  have counted : 0 ≤ i.val → i.val ≤ s.length → ((lengthOf s).sub i).val = s.length - i.val := by
    intro nonneg inside
    rw [Word.sub, val_lengthOf few]
    exact val_position (by omega) (by omega)
  have same : ∀ value, answer s (.rest i) = .ok value ↔
      answer s (.substring i ((lengthOf s).sub i)) = .ok value := by
    intro value
    rw [rest_ok_iff, substring_ok_iff]
    by_cases inside : 0 ≤ i.val ∧ i.val ≤ s.length
    · have count := counted inside.1 inside.2
      have all : (s.toList.drop i.val.toNat).take ((lengthOf s).sub i).val.toNat
          = s.toList.drop i.val.toNat := by
        apply List.take_of_length_le
        rw [List.length_drop, String.length_toList, count]
        omega
      have within : 0 ≤ i.val ∧ 0 ≤ ((lengthOf s).sub i).val ∧
          i.val + ((lengthOf s).sub i).val ≤ s.length := by omega
      simp only [inside, within, all, and_self, true_and]
    · have outside : ¬ (0 ≤ i.val ∧ 0 ≤ ((lengthOf s).sub i).val ∧
          i.val + ((lengthOf s).sub i).val ≤ s.length) := by omega
      simp only [inside, outside, false_and]
  cases rest : answer s (.rest i) with
  | ok value => rw [(same value).mp rest]
  | error e =>
    cases part : answer s (.substring i ((lengthOf s).sub i)) with
    | ok value =>
      rw [(same value).mpr part] at rest
      cases rest
    | error e => rfl

theorem hasPart_iff (few : t.length < 2 ^ 31) :
    HasPart answer s t i ↔ 0 ≤ i.val ∧ OccursAt t.toList s.toList i.val.toNat := by
  have count := s.length_toList
  have needed := t.length_toList
  rw [HasPart, substring_ok_iff, val_lengthOf few]
  constructor
  · rintro ⟨inside, part⟩
    have part := congrArg String.toList (Value.string.inj part)
    rw [String.toList_ofList, Int.toNat_natCast] at part
    refine ⟨inside.1, by omega, List.prefix_iff_eq_take.mpr ?_⟩
    rw [needed]
    exact part
  · rintro ⟨nonneg, inside, occurs⟩
    have length := occurs.length_le
    rw [List.length_drop] at length
    refine ⟨by omega, congrArg Value.string ?_⟩
    rw [Int.toNat_natCast, ← needed, ← List.prefix_iff_eq_take.mp occurs, String.ofList_toList]

/-- A part has the characters of the text from its position on. -/
theorem substring_chars (few : s.length < 2 ^ 31) (made : answer s (.substring i n) = .ok value) :
    ∃ part : String, value = .string part ∧ (lengthOf part).val = n.val ∧
      answer part .length = .ok (.integer .int n) ∧
      ∀ j : Word .int, 0 ≤ j.val → j.val < n.val → ∃ c,
        answer part (.charAt j) = .ok (.char c) ∧ answer s (.charAt (i.add j)) = .ok (.char c) := by
  obtain ⟨⟨nonneg, some, inside⟩, rfl⟩ := substring_ok_iff.mp made
  have count := s.length_toList
  refine ⟨_, rfl, ?_⟩
  generalize same : String.ofList ((s.toList.drop i.val.toNat).take n.val.toNat) = part
  have chars : part.toList = (s.toList.drop i.val.toNat).take n.val.toNat := by
    rw [← same, String.toList_ofList]
  have length : part.length = n.val.toNat := by
    rw [← String.length_toList, chars, List.length_take, List.length_drop]
    omega
  have counted : (lengthOf part).val = n.val := by
    rw [val_lengthOf (by omega)]
    omega
  refine ⟨counted, ?_, fun j first last => ?_⟩
  · rw [answer, String.length_toList]
    exact congrArg (fun n => Except.ok (Value.integer .int n)) (Word.ext_val counted)
  · have place : (i.add j).val = i.val + j.val := val_position (by omega) (by omega)
    have within : i.val.toNat + j.val.toNat < s.toList.length := by omega
    refine ⟨s.toList[i.val.toNat + j.val.toNat], charAt_ok_iff.mpr ⟨first, ?_⟩,
      charAt_ok_iff.mpr ⟨by omega, ?_⟩⟩
    · rw [chars, List.getElem?_take_of_lt (by omega), List.getElem?_drop]
      exact List.getElem?_eq_getElem within
    · have index : (i.add j).val.toNat = i.val.toNat + j.val.toNat := by omega
      rw [index]
      exact List.getElem?_eq_getElem within

/-- A search answers the least position of a part, if there is one. -/
theorem indexOf_answer (few : s.length < 2 ^ 31) (few' : t.length < 2 ^ 31) :
    ∃ k, answer s (.indexOf t) = .ok (.integer .int k) ∧
      (positionOf? t.toList s.toList = some k.val.toNat ∧ HasPart answer s t k ∧
          (∀ i, i.val < k.val → ¬ HasPart answer s t i) ∨
        positionOf? t.toList s.toList = none ∧ k.val = -1 ∧ ∀ i, ¬ HasPart answer s t i) := by
  have count := s.length_toList
  cases found : positionOf? t.toList s.toList with
  | some place =>
    obtain ⟨occurs, least⟩ := positionOf?_some found
    have inside := occurs.1
    have val := val_position (n := place) (by omega) (by omega)
    refine ⟨Word.ofInt .int place, by rw [answer, found]; rfl, .inl ⟨?_, ?_, ?_⟩⟩
    · rw [val, Int.toNat_natCast]
    · rw [hasPart_iff few', val, Int.toNat_natCast]
      exact ⟨by omega, occurs⟩
    · intro i before part
      obtain ⟨nonneg, earlier⟩ := (hasPart_iff few').mp part
      exact least i.val.toNat (by omega) earlier
  | none =>
    refine ⟨Word.ofInt .int (-1), by rw [answer, found]; rfl, .inr ⟨rfl, by decide, ?_⟩⟩
    intro i part
    exact positionOf?_none found ((hasPart_iff few').mp part).2

/-- What is at the end of a text is the part that is left there. -/
theorem suffix_iff (few : s.length < 2 ^ 31) (few' : t.length < 2 ^ 31) :
    t.toList <:+ s.toList ↔ (lengthOf t).val ≤ (lengthOf s).val ∧
      answer s (.rest ((lengthOf s).sub (lengthOf t))) = .ok (.string t) := by
  have count := s.length_toList
  have needed := t.length_toList
  rw [val_lengthOf few, val_lengthOf few', rest_ok_iff, List.suffix_iff_eq_drop]
  have left : t.length ≤ s.length →
      ((lengthOf s).sub (lengthOf t)).val = s.length - t.length := by
    intro shorter
    rw [Word.sub, val_lengthOf few, val_lengthOf few']
    exact val_position (by omega) (by omega)
  constructor
  · intro ends
    have shorter : t.length ≤ s.length := by
      have := congrArg List.length ends
      rw [List.length_drop] at this
      omega
    rw [left shorter]
    refine ⟨by omega, by omega, ?_⟩
    rw [Int.toNat_sub, ← count, ← needed, ← ends, String.ofList_toList]
  · rintro ⟨shorter, -, ends⟩
    rw [left (by omega)] at ends
    have ends := congrArg String.toList (Value.string.inj ends)
    rw [String.toList_ofList, Int.toNat_sub] at ends
    rw [count, needed]
    exact ends

/-- The functions of the characters of a text agree on positions. -/
theorem answers_agree (few : s.length < 2 ^ 31) (few' : t.length < 2 ^ 31) :
    PositionsAgree answer s t := by
  obtain ⟨k, search, found⟩ := indexOf_answer few few'
  have only : ∀ k', answer s (.indexOf t) = .ok (.integer .int k') → k' = k := by
    intro k' again
    rw [search] at again
    cases again
    rfl
  refine ⟨⟨?_, val_lengthOf few⟩, fun _ _ => charAt_ok_iff, ?_, fun _ _ _ => substring_chars few,
    fun _ => rest_toOption few, ⟨k, search, ?_⟩, ?_, ?_, ?_⟩
  · rw [answer, String.length_toList]
    rfl
  · intro i n
    rw [val_lengthOf few]
    simp only [substring_ok_iff, exists_and_left, exists_eq, and_true]
  · rcases found with ⟨-, part, least⟩ | ⟨-, missing⟩
    · exact .inl ⟨part, least⟩
    · exact .inr missing
  · intro k' again
    cases only k' again
    rw [answer]
    rcases found with ⟨found, part, -⟩ | ⟨missing, minusOne, -⟩
    · have nonneg := ((hasPart_iff few').mp part).1
      simp [found, nonneg]
    · simp [missing, minusOne]
  · intro k' again
    cases only k' again
    have begins : t.toList.isPrefixOf s.toList ↔ k.val = 0 := by
      rw [List.isPrefixOf_iff_prefix, ← positionOf?_zero_iff]
      rcases found with ⟨found, part, -⟩ | ⟨missing, minusOne, -⟩
      · have nonneg := ((hasPart_iff few').mp part).1
        rw [found, Option.some_inj]
        omega
      · rw [missing]
        simp [minusOne]
    rw [answer, Bool.eq_iff_iff.mpr (begins.trans decide_eq_true_iff.symm)]
  · refine ⟨_, rfl, ?_⟩
    rw [List.isSuffixOf_iff_suffix]
    exact suffix_iff few few'

end TextCall

/-- The members of texts leave the store alone, and what they answer about texts of a size that
positions can count fits together. -/
theorem text_positions {registry base : Registry}
    (registered : registry.entryFor? .string = some (stringClass base)) (store : Store) :
    (∀ (ask : TextCall) (s : String), (ask.run registry.toUniverse s store).2 = store) ∧
    ∀ s t : String, s.length < 2 ^ 31 → t.length < 2 ^ 31 →
      PositionsAgree (fun s ask => (ask.run registry.toUniverse s store).1) s t := by
  have answers : (fun s ask => (TextCall.run registry.toUniverse s ask store).1) = TextCall.answer := by
    funext s ask
    rw [TextCall.run_eq registered]
  constructor
  · intro ask s
    rw [TextCall.run_eq registered]
  · intro s t few few'
    rw [answers]
    exact TextCall.answers_agree few few'

/-- With the standard library the members agree on letters of two bytes that overlap. -/
theorem text_positions_accents : ∃ registry base, standard = .ok registry ∧
    registry.entryFor? .string = some (stringClass base) ∧
    PositionsAgree (fun s ask => (ask.run registry.toUniverse s .empty).1) "eééé" "éé" := by
  obtain ⟨registry, built⟩ : ∃ registry, standard = .ok registry := ⟨_, rfl⟩
  obtain ⟨base, registered⟩ : ∃ base, registry.entryFor? .string = some (stringClass base) := by
    cases built
    exact ⟨_, rfl⟩
  exact ⟨registry, base, built, registered,
    (text_positions registered .empty).2 "eééé" "éé" (by decide) (by decide)⟩

end Formula.Library
