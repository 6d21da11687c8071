import Formula.Proofs.Typing

/-! Trees up to their places. The parts of a node decide what is built by their types alone, so
parts that differ only in their places build nodes that differ only in their places. -/
namespace Formula

/-- What a node has but its place. -/
def Info.unplaced (info : Info) : Info := ⟨info.ty, Span.nowhere⟩

namespace Expr

mutual
/-- A tree without its places. -/
def unplaced : Expr → Expr
  | literal info value => literal info.unplaced value
  | parameter info ordinal name => parameter info.unplaced ordinal name
  | unary info op operand => unary info.unplaced op (unplaced operand)
  | binary info op left right => binary info.unplaced op (unplaced left) (unplaced right)
  | conditional info test yes no =>
    conditional info.unplaced (unplaced test) (unplaced yes) (unplaced no)
  | coalesce info left right => coalesce info.unplaced (unplaced left) (unplaced right)
  | staticCall info method args => staticCall info.unplaced method (unplacedAll args)
  | call info method target args => call info.unplaced method (unplaced target) (unplacedAll args)
  | staticMember info ref => staticMember info.unplaced ref
  | member info ref target => member info.unplaced ref (unplaced target)
  | index info target position => index info.unplaced (unplaced target) (unplaced position)
  | create info ref args init values =>
    create info.unplaced ref (unplacedAll args) init (unplacedAll values)
  | newArray info element length => newArray info.unplaced element (unplaced length)
  | arrayOf info element items => arrayOf info.unplaced element (unplacedAll items)
  | cast info operand => cast info.unplaced (unplaced operand)
  | typeOf info ty => typeOf info.unplaced ty
  | sizeOf info ty => sizeOf info.unplaced ty
  | typeTest info op target operand => typeTest info.unplaced op target (unplaced operand)

/-- Trees without their places. -/
def unplacedAll : List Expr → List Expr
  | [] => []
  | expr :: rest => unplaced expr :: unplacedAll rest
end

-- Every builder below opens a node without its place; here the equations are made, once.
attribute [local simp] unplaced unplacedAll

/-- Two trees differ at most in their places. -/
def Alike (a b : Expr) : Prop := a.unplaced = b.unplaced

/-- Trees in order differ at most in their places. -/
def AllAlike (as bs : List Expr) : Prop := unplacedAll as = unplacedAll bs

/-- What came of building a node, places aside. -/
def outcome : Except CompileError Expr → Option Expr
  | .ok expr => some expr.unplaced
  | .error _ => none

variable {world : Universe} {a b l l' r r' t t' y y' n n' e : Expr} {as bs : List Expr}
  {target : Ty} {place place' : Span}

/-- Places take no part in the type of a node. -/
theorem unplaced_ty (expr : Expr) : expr.unplaced.ty = expr.ty := by
  cases expr <;> rfl

theorem Alike.ty_eq (alike : Alike a b) : a.ty = b.ty := by
  rw [← a.unplaced_ty, ← b.unplaced_ty, alike]

theorem AllAlike.cons (first : Alike a b) (others : AllAlike as bs) :
    AllAlike (a :: as) (b :: bs) := by
  simp only [AllAlike, unplacedAll]
  rw [first, others]

theorem AllAlike.of_nil (alike : AllAlike [] bs) : bs = [] := by
  cases bs with
  | nil => rfl
  | cons => cases alike

theorem AllAlike.of_cons (alike : AllAlike (a :: as) bs) :
    ∃ b rest, bs = b :: rest ∧ Alike a b ∧ AllAlike as rest := by
  cases bs with
  | nil => cases alike
  | cons b rest =>
    obtain ⟨first, others⟩ := List.cons.inj alike
    exact ⟨b, rest, rfl, first, others⟩

/-- Trees that differ in places only resolve the same overloads, by their types. -/
theorem AllAlike.types (alike : AllAlike as bs) : types as = types bs := by
  induction as generalizing bs with
  | nil => rw [alike.of_nil]
  | cons a as ih =>
    obtain ⟨b, rest, rfl, first, others⟩ := alike.of_cons
    have types := ih others
    simp only [Expr.types, List.map_cons] at types ⊢
    rw [first.ty_eq, types]

/-- What is built of one kind of parts is built of parts like them. -/
theorem built_alike {first second : Except CompileError Expr}
    (same : outcome first = outcome second) (built : first = .ok e) :
    ∃ e', second = .ok e' ∧ Alike e e' := by
  subst built
  cases second with
  | ok e' => exact ⟨e', rfl, Option.some.inj same⟩
  | error error => cases same

theorem castTo_alike (alike : Alike a b) : Alike (a.castTo target) (b.castTo target) := by
  unfold castTo
  rw [alike.ty_eq]
  split
  · exact alike
  · simp only [Alike, unplaced, Info.unplaced, Expr.cast.injEq, true_and]
    exact alike

/-- Whether a conversion is allowed, and whether it inserts a cast, depends on types only. -/
theorem convertImplicit_alike (alike : Alike a b) :
    outcome (convertImplicit world a target) = outcome (convertImplicit world b target) := by
  unfold convertImplicit
  rw [alike.ty_eq]
  split
  · exact congrArg some (castTo_alike alike)
  · rfl

theorem applySign_alike {sign sign' : Token} (kind : sign.kind = sign'.kind) (alike : Alike a b) :
    outcome (applySign sign a) = outcome (applySign sign' b) := by
  unfold applySign
  rw [alike.ty_eq, kind]
  split
  · exact congrArg some alike
  · simp only [outcome, unplaced, Info.unplaced]
    rw [alike]
  · rfl

/-- A node for an answer to a question about members is built of whatever the answer is. -/
theorem found_alike {α : Type} {answer : Option α} {owner owner' : Ty} {member member' : String}
    {node node' : α → Expr} (alike : ∀ ref, Alike (node ref) (node' ref)) :
    outcome (found answer place owner member >>= fun ref => pure (node ref)) =
      outcome (found answer place' owner' member' >>= fun ref => pure (node' ref)) := by
  cases answer with
  | none => rfl
  | some ref => exact congrArg some (alike ref)

theorem concat_alike (left : Alike l l') (right : Alike r r') :
    outcome (concat world l r place) = outcome (concat world l' r' place') := by
  unfold concat
  rw [left.ty_eq, right.ty_eq]
  split
  · rfl
  · refine found_alike fun method => ?_
    simp only [Alike, unplaced, unplacedAll, Info.unplaced]
    rw [castTo_alike left, castTo_alike right]

/-- An operator is applied to operands wherever they stand: only the place of its fault differs. -/
theorem applyOperator_alike {op : BinaryOp} (left : Alike l l') (right : Alike r r') :
    outcome (applyOperator world op l r place) = outcome (applyOperator world op l' r' place') := by
  unfold applyOperator
  rw [left.ty_eq, right.ty_eq]
  split
  · exact concat_alike left right
  · split
    · split
      · simp only [outcome, unplaced, Info.unplaced]
        rw [left, right]
      · rfl
    · split
      · simp only [outcome, unplaced, Info.unplaced]
        rw [castTo_alike left, castTo_alike right]
      · rfl

/-- The branches of a conditional meet in a type that their places have no part in. -/
theorem choose_alike (test : Alike t t') (yes : Alike y y') (no : Alike n n') :
    outcome (choose world t y n) = outcome (choose world t' y' n') := by
  unfold choose
  rw [yes.ty_eq, no.ty_eq]
  split
  · simp only [outcome, unplaced, Info.unplaced]
    rw [test, castTo_alike yes, castTo_alike no]
  · rfl

theorem coalesceWith_alike (left : Alike l l') (right : Alike r r') :
    outcome (coalesceWith world l r place) = outcome (coalesceWith world l' r' place') := by
  unfold coalesceWith
  rw [left.ty_eq, right.ty_eq]
  split
  · rfl
  · split
    · simp only [outcome, unplaced, Info.unplaced]
      rw [left, castTo_alike right]
    · rfl

theorem testType_alike {op : TypeTest} {keyword keyword' : Span} (alike : Alike a b) :
    outcome (testType op a target keyword place) =
      outcome (testType op b target keyword' place') := by
  unfold testType
  split
  · simp only [outcome, unplaced, Info.unplaced]
    rw [alike]
  · split
    · simp only [outcome, unplaced, Info.unplaced]
      rw [alike]
    · rfl

theorem castWritten_alike (alike : Alike a b) :
    outcome (castWritten world a target place) = outcome (castWritten world b target place') := by
  unfold castWritten
  rw [alike.ty_eq]
  split
  · rfl
  · split
    · exact congrArg some alike
    · simp only [outcome, unplaced, Info.unplaced]
      rw [alike]

section Members

variable {name name' : Token}

/-- A call resolves by the name and the types of what it is given, so names may stand elsewhere too.
-/
theorem callOn_alike (named : name.lexeme = name'.lexeme) (on : Alike a b) (args : AllAlike as bs) :
    outcome (callOn world a name as place) = outcome (callOn world b name' bs place') := by
  unfold callOn
  rw [on.ty_eq, args.types, named]
  refine found_alike fun method => ?_
  simp only [Alike, unplaced, Info.unplaced]
  rw [on, args]

theorem memberOf_alike (named : name.lexeme = name'.lexeme) (on : Alike a b) :
    outcome (memberOf world a name place) = outcome (memberOf world b name' place') := by
  unfold memberOf
  rw [on.ty_eq, named]
  refine found_alike fun ref => ?_
  simp only [Alike, unplaced, Info.unplaced]
  rw [on]

theorem callStatic_alike (named : name.lexeme = name'.lexeme) (args : AllAlike as bs) :
    outcome (callStatic world target name as place) =
      outcome (callStatic world target name' bs place') := by
  unfold callStatic
  rw [args.types, named]
  refine found_alike fun method => ?_
  simp only [Alike, unplaced, Info.unplaced]
  rw [args]

theorem memberStatic_alike (named : name.lexeme = name'.lexeme) :
    outcome (memberStatic world target name place) =
      outcome (memberStatic world target name' place') := by
  unfold memberStatic
  rw [named]
  exact found_alike fun ref => rfl

theorem callDefault_alike (named : name.lexeme = name'.lexeme) (on : Alike a b)
    (args : AllAlike as bs) :
    outcome (callDefault world a name as place) =
      outcome (callDefault world b name' bs place') := by
  unfold callDefault
  rw [on.ty_eq, args.types, named]
  cases world.method b.ty name'.lexeme (types bs) false with
  | none => exact callStatic_alike named args
  | some method =>
    simp only [outcome, unplaced, Info.unplaced]
    rw [on, args]

theorem memberDefault_alike (named : name.lexeme = name'.lexeme) (on : Alike a b) :
    (memberDefault? world a name).map unplaced = (memberDefault? world b name').map unplaced := by
  unfold memberDefault?
  rw [on.ty_eq, named]
  cases world.member b.ty name'.lexeme false with
  | none => cases world.member b.ty name'.lexeme true <;> rfl
  | some ref =>
    simp only [Option.map_some, unplaced, Info.unplaced]
    rw [on]

end Members

theorem single_alike {fault : TypingFault} (args : AllAlike as bs) :
    outcome (single as place fault) = outcome (single bs place' fault) := by
  cases as with
  | nil => rw [args.of_nil]; rfl
  | cons a as =>
    obtain ⟨b, rest, rfl, first, others⟩ := args.of_cons
    cases as with
    | nil =>
      rw [others.of_nil]
      exact congrArg some first
    | cons second as =>
      obtain ⟨c, rest, rfl, -, -⟩ := others.of_cons
      rfl

/-- An index that is accepted is accepted wherever its parts stand, and makes a tree like the other. -/
theorem indexInto_alike {opening opening' : Span} (on : Alike a b) (args : AllAlike as bs)
    (built : indexInto world a as opening place = .ok e) :
    ∃ e', indexInto world b bs opening' place' = .ok e' ∧ Alike e e' := by
  unfold indexInto at built ⊢
  rw [← on.ty_eq, ← args.types]
  split at built
  case h_1 element _ =>
    obtain ⟨position, one, built⟩ := except_then.mp built
    obtain ⟨_, integral, built⟩ := except_then.mp built
    have single : outcome (single as opening .indexCount) =
        outcome (single bs opening' .indexCount) := single_alike args
    obtain ⟨position', one', same⟩ := built_alike single one
    have integral' : checkIntegral position' .indexType = .ok () := by
      have integral := Reader.checkIntegral_ok.mp integral
      exact Reader.checkIntegral_ok.mpr (same.ty_eq ▸ integral)
    refine ⟨.index ⟨element, place'⟩ b position', ?_, ?_⟩
    · exact except_then.mpr ⟨position', one', except_then.mpr ⟨(), integral', rfl⟩⟩
    · obtain rfl := Except.ok.inj built
      simp only [Alike, unplaced, Info.unplaced]
      rw [on, same]
  case h_2 =>
    refine built_alike (found_alike fun indexer => ?_) built
    simp only [Alike, unplaced, Info.unplaced]
    rw [on, args]

theorem addsFor_alike {methods : List MethodRef} (args : AllAlike as bs)
    (built : addsFor world target as = .ok methods) : addsFor world target bs = .ok methods := by
  induction as generalizing bs methods with
  | nil =>
    rw [args.of_nil]
    exact built
  | cons a as ih =>
    obtain ⟨b, rest, rfl, first, others⟩ := args.of_cons
    simp only [addsFor] at built ⊢
    obtain ⟨method, resolved, built⟩ := except_then.mp built
    obtain ⟨later, rest, built⟩ := except_then.mp built
    have resolved : world.method target addName [b.ty] false = some method := by
      rw [← first.ty_eq]
      exact Reader.found_ok.mp resolved
    exact except_then.mpr ⟨method, Reader.found_ok.mpr resolved,
      except_then.mpr ⟨later, ih others rest, built⟩⟩

theorem convertAll_alike {converted : List Expr} (args : AllAlike as bs)
    (built : convertAll world target as = .ok converted) :
    ∃ converted', convertAll world target bs = .ok converted' ∧ AllAlike converted converted' := by
  induction as generalizing bs converted with
  | nil =>
    cases built
    exact ⟨[], by rw [args.of_nil]; rfl, rfl⟩
  | cons a as ih =>
    obtain ⟨b, rest, rfl, first, others⟩ := args.of_cons
    simp only [convertAll] at built ⊢
    obtain ⟨head, firstBuilt, built⟩ := except_then.mp built
    obtain ⟨tail, restBuilt, built⟩ := except_then.mp built
    cases built
    obtain ⟨head', firstBuilt', same⟩ := built_alike (convertImplicit_alike first) firstBuilt
    obtain ⟨tail', restBuilt', alike⟩ := ih others restBuilt
    refine ⟨head' :: tail', ?_, .cons same alike⟩
    exact except_then.mpr ⟨head', firstBuilt', except_then.mpr ⟨tail', restBuilt', rfl⟩⟩

theorem assignable_alike {name name' : Token} {ref : MemberRef} (named : name.lexeme = name'.lexeme)
    (built : assignable world target name = .ok ref) : assignable world target name' = .ok ref := by
  obtain ⟨found, resolved, built⟩ := except_then.mp built
  rw [Reader.found_ok, named] at resolved
  refine except_then.mpr ⟨found, Reader.found_ok.mpr resolved, ?_⟩
  split at built
  case isTrue => cases built
  case isFalse writable =>
    rw [if_neg writable]
    exact built

theorem measure_alike : outcome (measure target place) = outcome (measure target place') := by
  unfold measure
  split <;> rfl

end Expr
end Formula
