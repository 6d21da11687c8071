import Formula.Proofs.Shapes

/-! Which of the parameters in force a name of the body means. The last of a name shadows all that
stand before it, the default instance among them. A header may not use a name twice, but without a
header nothing compares the declared names, and the names that stand in for those that are not
declared can be among them. -/
namespace Formula

namespace Parameters

variable {params : Parameters}

/-- The parameters that come into force behind those in force, each with the number of its place. -/
theorem list_pushAll (params : Parameters) (pairs : List (String × Ty)) :
    (params.pushAll pairs).list =
      params.list ++ pairs.mapIdx fun i pair => ⟨pair.1, pair.2, params.list.length + i⟩ := by
  induction pairs generalizing params with
  | nil => simp [pushAll]
  | cons pair pairs ih =>
    have rest := ih (params.push pair.1 pair.2)
    have place : ∀ i, params.list.length + 1 + i = params.list.length + (i + 1) := by omega
    simpa [pushAll, push, List.mapIdx_cons, place] using rest

theorem Ordered.numbered (ordered : params.Ordered) {i : Nat} (inside : i < params.list.length) :
    params.list[i].ordinal = i := by
  have entries := congrArg (·[i]?) ordered
  simpa [inside] using entries

/-- A name means the parameter at a place just if none behind it has the name. -/
theorem Ordered.find_at (ordered : params.Ordered) {i : Nat} (inside : i < params.list.length) :
    params.find? params.list[i].name = some params.list[i] ↔
      ∀ j (place : j < params.list.length), i < j →
        params.list[j].name ≠ params.list[i].name := by
  rw [find?, List.find?_eq_some_iff_getElem]
  constructor
  · rintro ⟨-, k, place, same, earlier⟩ j inList behind
    rw [List.length_reverse] at place
    rw [List.getElem_reverse] at same
    -- The number of a parameter tells at which place it was found.
    have here : params.list.length - 1 - k = i := by
      have found := ordered.numbered (i := params.list.length - 1 - k) (by omega)
      rw [same, ordered.numbered inside] at found
      exact found.symm
    have unlike := earlier (params.list.length - 1 - j) (by omega)
    have at_j : params.list.length - 1 - (params.list.length - 1 - j) = j := by omega
    simpa [List.getElem_reverse, at_j] using unlike
  · intro last
    refine ⟨by simp, params.list.length - 1 - i, by simp; omega, ?_, fun j before => ?_⟩
    · have at_i : params.list.length - 1 - (params.list.length - 1 - i) = i := by omega
      simp [List.getElem_reverse, at_i]
    · have unlike := last (params.list.length - 1 - j) (by omega) (by omega)
      simpa [List.getElem_reverse] using unlike

end Parameters

namespace Reader

variable {world : Universe} {namespaces : List String} {receiver : Option Ty} {source : String}
  {tokens : List Token} {specs : List ParamSpec}

/-- The name of a declared parameter in front of a body without a header. -/
def nameInForce (i : Nat) (spec : ParamSpec) : String := spec.name.getD (unnamed i)

/-- A declared parameter behind a default instance, in front of a body without a header. -/
def inForce (receiver : Option Ty) (i : Nat) (spec : ParamSpec) : Parameter :=
  ⟨nameInForce i spec, spec.ty.getD .object, receiver.toList.length + i⟩

/-- No name is declared twice, and none stands in for one that is not declared. -/
structure Distinct (specs : List ParamSpec) : Prop where
  named : specs.Pairwise fun earlier later => earlier.name.isSome → earlier.name ≠ later.name
  unnamed : ∀ i (inside : i < specs.length), specs[i].name = none →
    ∀ spec ∈ specs, spec.name ≠ some (unnamed i)

theorem unnamed_injective : Function.Injective unnamed := by
  intro i j same
  have texts : (toString i).toList = (toString j).toList := by
    simpa [unnamed, String.toList_append] using congrArg String.toList same
  have digits : Nat.toDigits 10 i = Nat.toDigits 10 j := by simpa using texts
  rw [← @Nat.ofDigitChars_ten_toDigits i, digits, Nat.ofDigitChars_ten_toDigits]

/-- The names in force differ just if the declared ones do, from one another and from those that
stand in. -/
theorem distinct_iff : Distinct specs ↔
    ∀ i j (inside : i < specs.length) (place : j < specs.length), i < j →
      nameInForce j specs[j] ≠ nameInForce i specs[i] := by
  constructor
  · intro distinct i j inside place behind same
    unfold nameInForce at same
    have unlike := List.pairwise_iff_getElem.mp distinct.named i j inside place behind
    cases first : specs[i].name with
    | none =>
      cases second : specs[j].name with
      | none =>
        rw [first, second] at same
        exact behind.ne' (unnamed_injective same)
      | some name =>
        rw [first, second] at same
        refine distinct.unnamed i inside first _ (List.getElem_mem place) ?_
        rw [second]
        exact congrArg some same
    | some name =>
      cases second : specs[j].name with
      | none =>
        rw [first, second] at same
        refine distinct.unnamed j place second _ (List.getElem_mem inside) ?_
        rw [first]
        exact congrArg some same.symm
      | some other =>
        rw [first, second] at same unlike
        exact unlike rfl (congrArg some same.symm)
  · intro unlike
    refine ⟨List.pairwise_iff_getElem.mpr fun i j inside place behind isNamed same => ?named,
      fun i inside isUnnamed spec listed same => ?unnamed⟩
    case named =>
      obtain ⟨name, first⟩ := Option.isSome_iff_exists.mp isNamed
      rw [first] at same
      refine unlike i j inside place behind ?_
      simp [nameInForce, first, ← same]
    case unnamed =>
      obtain ⟨j, place, rfl⟩ := List.mem_iff_getElem.mp listed
      have alike : nameInForce j specs[j] = nameInForce i specs[i] := by
        simp [nameInForce, isUnnamed, same]
      obtain before | here | after := Nat.lt_trichotomy i j
      · exact unlike i j inside place before alike
      · subst here
        cases isUnnamed.symm.trans same
      · exact unlike j i place inside after alike.symm

theorem bindDeclared_list (receiver : Option Ty) (specs : List ParamSpec) :
    (bindDeclared (.ofInstance receiver) (some specs)).list =
      (Parameters.ofInstance receiver).list ++ specs.mapIdx (inForce receiver) := by
  have first : (Parameters.ofInstance receiver).list.length = receiver.toList.length := by
    cases receiver <;> rfl
  rw [bindDeclared_pushed, Parameters.list_pushAll, first]
  congr 1
  apply List.ext_getElem
  · simp [headless]
  · intro i inside place
    simp [headless, inForce, nameInForce, settledTy]

/-- The parameter of a declared one stands behind the default instance. -/
theorem bindDeclared_at (receiver : Option Ty) {i : Nat} (inside : i < specs.length) :
    (bindDeclared (.ofInstance receiver) (some specs)).list[receiver.toList.length + i]? =
      some (inForce receiver i specs[i]) := by
  rw [bindDeclared_list]
  cases receiver <;> simp [Parameters.ofInstance, inside, Nat.add_comm]

/-- A declared name means its parameter just if no later parameter is in force under it. -/
theorem bindDeclared_find (receiver : Option Ty) {i : Nat} (inside : i < specs.length) :
    (bindDeclared (.ofInstance receiver) (some specs)).find? (nameInForce i specs[i]) =
        some (inForce receiver i specs[i]) ↔
      ∀ j (place : j < specs.length), i < j →
        nameInForce j specs[j] ≠ nameInForce i specs[i] := by
  have ordered : (bindDeclared (.ofInstance receiver) (some specs)).Ordered := by
    rw [bindDeclared_pushed]
    exact (Parameters.ofInstance_ordered receiver).pushAll _
  have size : (bindDeclared (.ofInstance receiver) (some specs)).list.length =
      receiver.toList.length + specs.length := by
    rw [bindDeclared_list]
    cases receiver <;> simp [Parameters.ofInstance, Nat.add_comm]
  obtain ⟨there, here⟩ := List.getElem?_eq_some_iff.mp (bindDeclared_at receiver inside)
  have last := ordered.find_at there
  rw [here] at last
  refine last.trans ⟨fun unlike j place behind => ?_, fun unlike j place behind => ?_⟩
  · obtain ⟨inList, same⟩ := List.getElem?_eq_some_iff.mp (bindDeclared_at receiver place)
    have other := unlike _ inList (Nat.add_lt_add_left behind _)
    rw [same] at other
    exact other
  · obtain ⟨k, rfl⟩ : ∃ k, j = receiver.toList.length + k := Nat.exists_eq_add_of_le (by omega)
    have within : k < specs.length := by omega
    obtain ⟨_, same⟩ := List.getElem?_eq_some_iff.mp (bindDeclared_at receiver within)
    rw [same]
    exact unlike k within (by omega)

/-- A source starts with its body. -/
def Headless (world : Universe) (namespaces : List String) (receiver : Option Ty)
    (source : String) : Prop :=
  ∀ tokens, tokensOf source = .ok tokens → ∀ written t,
    ¬ Opens ⟨world, namespaces, .ofInstance receiver⟩ (.ofTokens tokens) written t

/-- A source starts with its body just if no header is read off its tokens. -/
theorem headless_iff (lexed : tokensOf source = .ok tokens) :
    Headless world namespaces receiver source ↔
      (header? ⟨world, namespaces, .ofInstance receiver⟩ (.ofTokens tokens)).isNone := by
  rw [Option.isNone_iff_eq_none]
  constructor
  · intro starts
    cases opening : header? ⟨world, namespaces, .ofInstance receiver⟩ (.ofTokens tokens) with
    | none => rfl
    | some reply => exact absurd (header_opens opening) (starts tokens lexed _ _)
  · intro noHeader others same written t opening
    cases lexed.symm.trans same
    have ended := (Token.tokenize_tiled (tokenize_of_tokensOf lexed)).ended
    obtain ⟨header, some, -⟩ := opening.read (Stream.before_ofTokens.closed ended)
    cases noHeader.symm.trans some

end Reader

namespace Lambda

open Reader

variable {world : Universe} {namespaces : List String} {receiver : Option Ty}
  {specs : List ParamSpec} {source : String} {lambda : Lambda}

/-- Without a header the parameters in force are all that are declared, in their order. The name of
each means it just if no later one is in force under that name, and so all of them can be named just
if no name is declared twice or stands in for one that is not declared. -/
theorem parse_inScope (starts : Headless world namespaces receiver source)
    (parsed : Lambda.parse world namespaces (some specs) receiver source = .ok lambda) :
    lambda.params.list =
        (Parameters.ofInstance receiver).list ++ specs.mapIdx (inForce receiver) ∧
      (∀ i (inside : i < specs.length),
        lambda.params.find? (nameInForce i specs[i]) = some (inForce receiver i specs[i]) ↔
          ∀ j (place : j < specs.length), i < j →
            nameInForce j specs[j] ≠ nameInForce i specs[i]) ∧
      ((∀ i (inside : i < specs.length),
        lambda.params.find? (nameInForce i specs[i]) = some (inForce receiver i specs[i])) ↔
          Distinct specs) := by
  obtain ⟨tokens, lexed, read⟩ := except_then.mp parsed
  obtain ⟨⟨found, rest⟩, ran, same⟩ := except_then.mp read
  cases same
  have noHeader := Option.isNone_iff_eq_none.mp ((headless_iff lexed).mp starts)
  obtain ⟨params, -, -⟩ := (headless_yields noHeader).mp ran
  have means := fun i (inside : i < specs.length) => bindDeclared_find receiver inside
  rw [← params]
  refine ⟨bindDeclared_list receiver specs, means, ?_⟩
  rw [distinct_iff]
  constructor
  · intro all i j inside place behind
    exact (means i inside).mp (all i inside) j place behind
  · intro unlike i inside
    exact (means i inside).mpr fun j place behind => unlike i j inside place behind

/-- Under the name of the default instance a declared parameter means itself, and so does one
without a name behind it. -/
theorem parse_inScope_instance :
    let specs : List ParamSpec := [⟨some "this", some .string⟩, ⟨none, none⟩]
    ∃ lambda,
      Lambda.parse Registry.empty.toUniverse [] (some specs) (some .int) "arg1" = .ok lambda ∧
      Headless Registry.empty.toUniverse [] (some .int) "arg1" ∧
      lambda.params.list = [⟨"this", .int, 0⟩, ⟨"this", .string, 1⟩, ⟨"arg1", .object, 2⟩] ∧
      Distinct specs ∧
      ∀ i (inside : i < specs.length),
        lambda.params.find? (nameInForce i specs[i]) = some (inForce (some .int) i specs[i]) := by
  intro specs
  let scope : Scope := ⟨Registry.empty.toUniverse, [], .ofInstance (some .int)⟩
  obtain ⟨tokens, lexed, noHeader⟩ : ∃ tokens, tokensOf "arg1" = .ok tokens ∧
      (header? scope (.ofTokens tokens)).isNone := exists_ok_that (by decide +kernel)
  obtain ⟨lambda, parsed, list⟩ : ∃ lambda,
      Lambda.parse Registry.empty.toUniverse [] (some specs) (some .int) "arg1" = .ok lambda ∧
        lambda.params.list = [⟨"this", .int, 0⟩, ⟨"this", .string, 1⟩, ⟨"arg1", .object, 2⟩] :=
    exists_ok_that (by decide +kernel)
  have starts : Headless Registry.empty.toUniverse [] (some .int) "arg1" :=
    (headless_iff lexed).mpr noHeader
  have distinct : Distinct specs := by
    refine ⟨by decide, fun i inside isUnnamed spec listed => ?_⟩
    match i with
    | 0 => cases isUnnamed
    | 1 => revert spec; decide
  exact ⟨lambda, parsed, starts, list, distinct, (parse_inScope starts parsed).2.2.mpr distinct⟩

/-- A parameter that is called as the one without a name behind it is declared in vain: its name is
read as the other. -/
theorem parse_inScope_unnamed :
    let specs : List ParamSpec := [⟨some "arg1", some .int⟩, ⟨none, some .string⟩]
    ∃ lambda, Lambda.parse Registry.empty.toUniverse [] (some specs) none "arg1" = .ok lambda ∧
      Headless Registry.empty.toUniverse [] none "arg1" ∧
      nameInForce 0 specs[0] = "arg1" ∧ inForce none 0 specs[0] = ⟨"arg1", .int, 0⟩ ∧
      lambda.params.find? "arg1" = some ⟨"arg1", .string, 1⟩ ∧ lambda.body.ty = .string := by
  intro specs
  obtain ⟨tokens, lexed, noHeader⟩ : ∃ tokens, tokensOf "arg1" = .ok tokens ∧
      (header? ⟨Registry.empty.toUniverse, [], .ofInstance none⟩ (.ofTokens tokens)).isNone :=
    exists_ok_that (by decide +kernel)
  obtain ⟨lambda, parsed, means⟩ : ∃ lambda,
      Lambda.parse Registry.empty.toUniverse [] (some specs) none "arg1" = .ok lambda ∧
        lambda.params.find? "arg1" = some ⟨"arg1", .string, 1⟩ ∧ lambda.body.ty = .string :=
    exists_ok_that (by decide +kernel)
  exact ⟨lambda, parsed, (headless_iff lexed).mpr noHeader, rfl, rfl, means⟩

end Lambda
end Formula
