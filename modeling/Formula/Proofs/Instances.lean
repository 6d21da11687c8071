import Formula.Proofs.Registration

/-! Instances of classes. An object carries the names of the bases of its class, so that it is tested
against a class without the registry. The test and the registry agree wherever the registry allows
the class of the object for the other, and everywhere else but in one case: the test finds a base by
its name alone, and takes it with whatever arguments are asked for. -/
namespace Formula

/-- A class of the host lists the ancestors of a type but the root of all classes. -/
def HostClass.Lists (host : HostClass) (registry : Registry) (name : String) : Prop :=
  ∀ base, base ∈ host.bases ↔ base ∈ registry.hierarchy.ancestors name ∧ base ≠ rootName

variable {registry : Registry} {handle : Handle} {name name' : String} {args args' : List Ty}

namespace Handle

theorem isInstanceOf_iff (stamped : handle.ty = .cls name args) :
    handle.isInstanceOf name' args' ↔
      name = name' ∧ (args' = [] ∨ args = args') ∨ name' ∈ handle.host.bases := by
  unfold isInstanceOf
  rw [stamped]
  simp

end Handle

namespace Registry

/-- A registered class may stand for itself and its ancestors, without arguments or with its own. -/
theorem InStep.assignable_iff (inStep : registry.InStep) (registered : registry.contains name) :
    registry.assignable (.cls name args) (.cls name' args') ↔
      (args' = [] ∨ args = args') ∧ (name = name' ∨ name' ∈ registry.hierarchy.ancestors name) := by
  have known := inStep.seen_of_contains registered
  rw [assignable_cls, inStep.derivesFrom_cases]
  constructor
  · rintro (⟨rfl, rfl⟩ | ⟨given, ⟨rfl, -⟩ | above⟩)
    · exact ⟨.inr rfl, .inl rfl⟩
    · exact ⟨given, .inl rfl⟩
    · exact ⟨given, .inr above⟩
  · rintro ⟨given, rfl | above⟩
    · exact .inr ⟨given, .inl ⟨rfl, known⟩⟩
    · exact .inr ⟨given, .inr above⟩

end Registry

namespace Handle

/-- An object of a registered class, whose host class lists the ancestors of that, is an instance of
every class for which its own may stand. It is an instance of no other, except that it is one of
every ancestor with any arguments. -/
theorem isInstanceOf_eq_assignable_iff {entries : List Entry}
    (stamped : handle.ty = .cls name args)
    (registered : (Registry.empty.registerAll entries).contains name)
    (lists : handle.host.Lists (Registry.empty.registerAll entries) name) (notRoot : name' ≠ rootName) :
    let registry := Registry.empty.registerAll entries
    (registry.assignable handle.ty (.cls name' args') → handle.isInstanceOf name' args') ∧
      (handle.isInstanceOf name' args' = registry.assignable handle.ty (.cls name' args') ↔
        ¬ (name' ∈ registry.hierarchy.ancestors name ∧ args' ≠ [] ∧ args ≠ args')) := by
  intro registry
  have inStep : registry.InStep := Registry.inStep_empty.registerAll entries
  have tested : handle.isInstanceOf name' args' ↔
      name = name' ∧ (args' = [] ∨ args = args') ∨ name' ∈ registry.hierarchy.ancestors name := by
    rw [isInstanceOf_iff stamped, lists name', and_iff_left notRoot]
  have allowed : registry.assignable handle.ty (.cls name' args') ↔
      (args' = [] ∨ args = args') ∧ (name = name' ∨ name' ∈ registry.hierarchy.ancestors name) := by
    rw [stamped]
    exact inStep.assignable_iff registered
  constructor
  · intro assigned
    obtain ⟨given, same | above⟩ := allowed.mp assigned
    · exact tested.mpr (.inl ⟨same, given⟩)
    · exact tested.mpr (.inr above)
  · rw [Bool.eq_iff_iff, tested, allowed]
    by_cases above : name' ∈ registry.hierarchy.ancestors name
    · simp [above, or_iff_not_imp_left]
    · simp [above, and_comm]

/-- A circle, which is a shape. -/
theorem isInstanceOf_eq_assignable_circle :
    let root := Registry.empty.newBuiltin .object
    let shape := (Registry.empty.newHostClass Library.shapeHost).derivingFrom rootName
    let circle := Registry.empty.newHostClass Library.circleHost
    let registry := Registry.empty.registerAll [root, shape, circle]
    let handle : Handle := ⟨.named "Demo.Circle", Library.circleHost, 0⟩
    handle.ty = .cls "Demo.Circle" [] ∧ registry.contains "Demo.Circle" ∧
      handle.host.Lists registry "Demo.Circle" ∧ "Demo.Shape" ≠ rootName ∧
      handle.isInstanceOf "Demo.Shape" [] =
        registry.assignable (.named "Demo.Circle") (.named "Demo.Shape") := by
  intro root shape circle registry handle
  have registered : registry.contains "Demo.Circle" := by decide +kernel
  have ancestors : registry.hierarchy.ancestors "Demo.Circle" = ["Demo.Shape", rootName] := by
    decide +kernel
  have notRoot : "Demo.Shape" ≠ rootName := by decide
  have lists : handle.host.Lists registry "Demo.Circle" := by
    intro base
    rw [ancestors]
    constructor
    · intro listed
      obtain rfl := List.mem_singleton.mp listed
      exact ⟨List.mem_cons_self, notRoot⟩
    · rintro ⟨above, other⟩
      rcases List.mem_cons.mp above with rfl | isRoot
      · exact List.mem_cons_self
      · exact absurd (List.mem_singleton.mp isRoot) other
  have agree : handle.isInstanceOf "Demo.Shape" [] =
      registry.assignable (.named "Demo.Circle") (.named "Demo.Shape") :=
    (isInstanceOf_eq_assignable_iff rfl registered lists notRoot).2.mpr fun other => other.2.1 rfl
  exact ⟨rfl, registered, lists, notRoot, agree⟩

/-- An object of a generic class is an instance of its base with arguments that are not its own, for
which its class may not stand. -/
theorem isInstanceOf_other_arguments :
    let box := Registry.empty.newClass "Box`1"
    let host : HostClass := ⟨"Ring`1", ["Box`1"]⟩
    let registry := Registry.empty.registerAll [box, Registry.empty.newHostClass host]
    let handle : Handle := ⟨.cls "Ring`1" [.int], host, 0⟩
    registry.contains "Ring`1" ∧ handle.host.Lists registry "Ring`1" ∧
      handle.isInstanceOf "Box`1" [.string] = true ∧
      registry.assignable handle.ty (.cls "Box`1" [.string]) = false := by
  intro box host registry handle
  have ancestors : registry.hierarchy.ancestors "Ring`1" = ["Box`1"] := by decide +kernel
  have notRoot : "Box`1" ≠ rootName := by decide
  refine ⟨by decide +kernel, ?_, rfl, by decide +kernel⟩
  intro base
  rw [ancestors]
  constructor
  · intro listed
    obtain rfl := List.mem_singleton.mp listed
    exact ⟨List.mem_singleton_self _, notRoot⟩
  · exact And.left

end Handle
end Formula
