import Formula.Expr.Eval
import Formula.Host
import Formula.Proofs.ValueTyping

/-! Host values as formulas see them. Every host value has a value of the type of its shape; only the
shape without values comes as a `null` that has no type. Where no two host values are seen as the same
`null`, a host value comes back from what it is seen as. -/
namespace Formula

/-- Actions that are known to come to a result go on with it. -/
theorem Action.run_ok {ε α β : Type} {first : Action ε α} {rest : α → Action ε β} {a : α}
    {store after : Store} (ran : first store = (.ok a, after)) :
    (first >>= rest) store = rest a after := by
  simp only [Bind.bind, ExceptT.bind, ExceptT.mk, StateT.bind]
  rw [ran]
  rfl

/-- Actions that are known to fail do not go on. -/
theorem Action.run_error {ε α β : Type} {first : Action ε α} {rest : α → Action ε β} {e : ε}
    {store after : Store} (failed : first store = (.error e, after)) :
    (first >>= rest) store = (.error e, after) := by
  simp only [Bind.bind, ExceptT.bind, ExceptT.mk, StateT.bind]
  rw [failed]
  rfl

/-- What comes of a sequence comes of its second part, which begins where the first came out. -/
theorem Action.ran_ok {ε α β : Type} {first : Action ε α} {rest : α → Action ε β} {b : β}
    {store after : Store} (ran : (first >>= rest) store = (.ok b, after)) :
    ∃ a middle, first store = (.ok a, middle) ∧ rest a middle = (.ok b, after) := by
  cases came : first store with
  | mk outcome middle =>
    cases outcome with
    | ok a => exact ⟨a, middle, rfl, (Action.run_ok came).symm.trans ran⟩
    | error e =>
      rw [Action.run_error came] at ran
      cases ran

/-- A sequence keeps the objects as they are if both of its parts do. -/
theorem Action.bind_cells {ε α β : Type} {first : Action ε α} {rest : α → Action ε β} {store : Store}
    (kept : (first store).2.cells = store.cells)
    (keeps : ∀ a middle, (rest a middle).2.cells = middle.cells) :
    ((first >>= rest) store).2.cells = store.cells := by
  cases came : first store with
  | mk outcome middle =>
    rw [came] at kept
    cases outcome with
    | ok a => rw [Action.run_ok came, keeps, kept]
    | error e => rw [Action.run_error came, kept]

namespace HostType

variable {ε : Type} {store after : Store} {value : Value}

theorem optional_acceptsNull (shape : HostType) : (optional shape).ty.acceptsNull := by
  rw [ty]
  obtain ⟨accepts, same⟩ | ⟨-, wrapped⟩ := Ty.admitting_cases shape.ty
  · rw [same]
    exact accepts
  · rw [wrapped]
    rfl

/-- A value that fits a type conforms to the same type made to admit `null`. -/
theorem conforms_optional {shape : HostType} (fits : value.Fits shape.ty) :
    value.conforms (optional shape).ty := by
  rw [ty]
  obtain ⟨accepts, same⟩ | ⟨-, wrapped⟩ := Ty.admitting_cases shape.ty
  · rw [same]
    obtain conforms | ⟨void, -⟩ := fits
    · exact conforms
    · rw [void] at accepts
      cases accepts
  · rw [wrapped]
    obtain conforms | ⟨-, rfl⟩ := fits
    · simp [Value.conforms, conforms]
    · rfl

/-- Items are made one after another, and none of them fails. -/
theorem mapM_ok {α β : Type} {f : α → Action ε β}
    (each : ∀ x store, ∃ b after, f x store = (.ok b, after)) (xs : List α) (store : Store) :
    ∃ items after, xs.mapM f store = (.ok items, after) := by
  induction xs generalizing store with
  | nil => exact ⟨[], store, rfl⟩
  | cons x xs ih =>
    obtain ⟨b, middle, first⟩ := each x store
    obtain ⟨items, after, rest⟩ := ih middle
    refine ⟨b :: items, after, ?_⟩
    rw [List.mapM_cons, Action.run_ok first, Action.run_ok rest]
    rfl

/-- A host value becomes a value of the type of its shape. -/
theorem toValue_fits (shape : HostType) (x : shape.Carrier) (store : Store) :
    ∃ value after, (toValue shape x : Action ε Value) store = (.ok value, after) ∧
      value.Fits shape.ty := by
  induction shape generalizing store with
  | primitive kind =>
    refine ⟨ofPrimitive kind x, store, rfl, .inl ?_⟩
    cases kind <;> simp [ofPrimitive, ty, Value.conforms, Value.kind?]
  | string => exact ⟨.string x, store, rfl, .inl rfl⟩
  | unit => exact ⟨.null, store, rfl, .inr ⟨rfl, rfl⟩⟩
  | any => exact ⟨x, store, rfl, .inl rfl⟩
  | optional inner ih =>
    cases x with
    | none =>
      exact ⟨.null, store, rfl, .inl (Value.conforms_null (optional_acceptsNull inner))⟩
    | some x =>
      obtain ⟨value, after, ran, fits⟩ := ih x store
      exact ⟨value, after, ran, .inl (conforms_optional fits)⟩
  | list element ih =>
    have each : ∀ (x : element.Carrier) (store : Store),
        ∃ value after, (toValue element x : Action ε Value) store = (.ok value, after) := by
      intro x store
      obtain ⟨value, after, ran, -⟩ := ih x store
      exact ⟨value, after, ran⟩
    obtain ⟨items, after, ran⟩ := mapM_ok each x store
    refine ⟨.array after.next element.ty items, after.fresh.2, ?_, .inl (by simp [ty, Value.conforms])⟩
    rw [toValue, Action.run_ok ran]
    rfl
  | handle host =>
    refine ⟨.object ⟨.named host.name, host, x⟩, store, rfl, .inl ?_⟩
    simp [ty, Value.conforms, Handle.isInstanceOf]

/-- Host values of shapes that have values become values of their types, one for each. -/
theorem toValues_conform {shapes : List HostType} (valued : ∀ shape ∈ shapes, shape.ty ≠ .void)
    (given : Carriers shapes) (store : Store) :
    ∃ values after, (toValues shapes given : Action ε (List Value)) store = (.ok values, after) ∧
      List.Forall₂ (fun ty value => value.conforms ty = true) (shapes.map ty) values := by
  induction shapes generalizing store with
  | nil => exact ⟨[], store, rfl, .nil⟩
  | cons shape shapes ih =>
    obtain ⟨here, later⟩ := List.forall_mem_cons.mp valued
    obtain ⟨value, middle, first, fits⟩ := toValue_fits shape given.1 store
    obtain ⟨values, after, rest, conform⟩ := ih later given.2 middle
    have conforms : value.conforms shape.ty := fits.resolve_right fun isVoid => here isVoid.1
    refine ⟨value :: values, after, ?_, .cons conforms conform⟩
    rw [toValues, Action.run_ok first, Action.run_ok rest]
    rfl

/-- Making a value of a host value changes no object. -/
theorem toValue_cells (shape : HostType) (x : shape.Carrier) (store : Store) :
    ((toValue shape x : Action ε Value) store).2.cells = store.cells := by
  induction shape generalizing store with
  | primitive | string | unit | any | handle => rfl
  | optional inner ih =>
    cases x with
    | none => rfl
    | some x => exact ih x store
  | list element ih =>
    refine Action.bind_cells ?_ fun _ _ => rfl
    induction x generalizing store with
    | nil => rfl
    | cons x xs rest =>
      rw [List.mapM_cons]
      exact Action.bind_cells (ih x store) fun _ middle =>
        Action.bind_cells (rest middle) fun _ _ => rfl

/-- Whether no host value of a shape is seen as `null`. -/
def isNeverNull : HostType → Bool
  | primitive _ | string | list _ | handle _ => true
  | unit | any | optional _ => false

/-- A shape that has values and, however deep it nests, holds optional values only of what is never
`null` itself. -/
inductive Faithful : HostType → Prop where
  | primitive (kind : Kind) : Faithful (primitive kind)
  | string : Faithful string
  | any : Faithful any
  | optional {inner : HostType} (holds : Faithful inner) (never : inner.isNeverNull) :
      Faithful (optional inner)
  | list {element : HostType} (holds : Faithful element) : Faithful (list element)
  | handle (host : HostClass) : Faithful (handle host)

theorem Faithful.ty_ne_void {shape : HostType} (faithful : shape.Faithful) : shape.ty ≠ .void := by
  cases faithful with
  | @optional inner =>
    intro isVoid
    have accepts := optional_acceptsNull inner
    rw [isVoid] at accepts
    cases accepts
  | _ => nofun

theorem ran_pure {given : Value} (ran : (pure given : Action ε Value) store = (.ok value, after)) :
    value = given := by
  cases ran
  rfl

theorem toValue_ne_null {shape : HostType} {x : shape.Carrier} (never : shape.isNeverNull)
    (ran : (toValue shape x : Action ε Value) store = (.ok value, after)) : value.isNull = false := by
  cases shape with
  | primitive kind =>
    obtain rfl := ran_pure ran
    cases kind <;> rfl
  | string | handle =>
    obtain rfl := ran_pure ran
    rfl
  | list element =>
    obtain ⟨items, middle, -, made⟩ := Action.ran_ok ran
    cases made
    rfl
  | unit | any | optional => cases never

/-- Items that were made one after another stand for what they were made of. -/
theorem mapM_ran {α β : Type} {f : α → Action ε β} {xs : List α} {items : List β}
    (ran : xs.mapM f store = (.ok items, after)) :
    List.Forall₂ (fun x item => ∃ before behind, f x before = (.ok item, behind)) xs items := by
  induction xs generalizing store items with
  | nil =>
    cases ran
    exact .nil
  | cons x xs ih =>
    rw [List.mapM_cons] at ran
    obtain ⟨item, middle, first, ran⟩ := Action.ran_ok ran
    obtain ⟨others, last, rest, same⟩ := Action.ran_ok ran
    cases same
    exact .cons ⟨store, middle, first⟩ (ih rest)

/-- Items are read as what each of them is read as. -/
theorem mapM_reads {α β : Type} {f : β → Except Mismatch α} {xs : List α} {items : List β}
    (each : List.Forall₂ (fun x item => f item = .ok x) xs items) : items.mapM f = .ok xs := by
  induction each with
  | nil => rfl
  | cons first _ ih =>
    rw [List.mapM_cons, first, ih]
    rfl

theorem toPrimitive_ofPrimitive (kind : Kind) (x : kind.Carrier) :
    toPrimitive? kind (ofPrimitive kind x) = some x := by
  cases kind <;> simp [toPrimitive?, ofPrimitive]

/-- What a host value of a faithful shape is seen as leads back to it. -/
theorem ofValue_of_ran {shape : HostType} {x : shape.Carrier} (faithful : shape.Faithful)
    (ran : (toValue shape x : Action ε Value) store = (.ok value, after)) :
    ofValue shape value = .ok x := by
  induction faithful generalizing store after value with
  | primitive kind =>
    obtain rfl := ran_pure ran
    rw [ofValue, toPrimitive_ofPrimitive]
  | string | any =>
    obtain rfl := ran_pure ran
    rfl
  | @optional inner _ never ih =>
    cases x with
    | none =>
      obtain rfl := ran_pure ran
      rfl
    | some x =>
      -- only because the value inside is not `null` is it taken for one
      have some : value.isNull = false := toValue_ne_null never ran
      rw [ofValue, some, ih ran]
      rfl
  | @list element _ ih =>
    obtain ⟨items, middle, each, made⟩ := Action.ran_ok ran
    cases made
    refine mapM_reads ((mapM_ran each).imp ?_)
    rintro x item ⟨before, behind, ran⟩
    exact ih ran
  | handle host =>
    obtain rfl := ran_pure ran
    simp [ofValue]

/-- A host value of a faithful shape survives the way into formulas and back. It becomes a value of the
type of its shape, no object is changed on the way, and the value goes back to the host value; a handle
comes back as one to the same object. -/
theorem ofValue_toValue {shape : HostType} (faithful : shape.Faithful) (x : shape.Carrier)
    (store : Store) :
    ∃ value after, (toValue shape x : Action ε Value) store = (.ok value, after) ∧
      value.conforms shape.ty ∧ after.cells = store.cells ∧ ofValue shape value = .ok x := by
  obtain ⟨value, after, ran, fits⟩ := toValue_fits (ε := ε) shape x store
  have conforms : value.conforms shape.ty :=
    fits.resolve_right fun isVoid => faithful.ty_ne_void isVoid.1
  have kept : after.cells = store.cells := by
    have kept := toValue_cells (ε := ε) shape x store
    rwa [ran] at kept
  exact ⟨value, after, ran, conforms, kept, ofValue_of_ran faithful ran⟩

/-- A list that may be missing, of handles that may be missing. -/
theorem ofValue_toValue_handles :
    (optional (list (optional (handle ⟨"Demo.Circle", ["Demo.Shape"]⟩)))).Faithful ∧
    ∃ value after,
      (toValue (optional (list (optional (handle ⟨"Demo.Circle", ["Demo.Shape"]⟩))))
        (some [some 4, none]) : Action RuntimeError Value) Store.empty = (.ok value, after) ∧
      value.conforms (.array (.named "Demo.Circle")) ∧ after.cells = Store.empty.cells ∧
      ofValue (optional (list (optional (handle ⟨"Demo.Circle", ["Demo.Shape"]⟩)))) value =
        .ok (some [some 4, none]) := by
  have faithful : (optional (list (optional (handle ⟨"Demo.Circle", ["Demo.Shape"]⟩)))).Faithful :=
    .optional (.list (.optional (.handle _) rfl)) rfl
  exact ⟨faithful, ofValue_toValue faithful (some [some 4, none]) Store.empty⟩

end HostType
end Formula
