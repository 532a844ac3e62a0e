import Herald.World

/-! # The attribute registry

A tenant's schema for a kind of target is loaded from its definition rows, and defining an attribute
writes the row of its key: the row is made at the first definition and changed by later ones.
-/

namespace Herald.Registry

variable {σ α : Type}

/-- The kind of target of a name. -/
def targetNamed (name : String) : Except Failure TargetKind :=
  match TargetKind.ofName? name with
  | some kind => .ok kind
  | none => .error (.violation (.plain s!"Unknown target type '{name}'"))

/-- The schema that definition rows declare. -/
def schemaOf (tenant target : String) (rows : List Definition) :
    Except Failure AttributeSchema := do
  let specs ← rows.mapM Definition.toSpec
  match AttributeSchema.ofSpecs tenant target specs with
  | .valid schema => return schema
  | .refused problems =>
    throw (.violation { Violation.plain s!"Invalid schema for tenant {tenant}/{target}" with
      problems := some problems })

/-- The definition rows of a tenant's targets. -/
def rows (store : Store α) (tenant target : String) : List Definition :=
  store.definitions.filter fun row => row.tenant == tenant && row.target == target

/-- Load the schema of a tenant's targets. -/
def load (tenant target : String) : Run σ α AttributeSchema := do
  let _ ← Run.pure? (targetNamed target)
  let found ← Run.query fun store => rows store tenant target
  Run.pure? (schemaOf tenant target found)

/-- A new row for a declaration. -/
def newRow (id : Int) (tenant target : String) (now : Moment) (spec : AttributeSpec) : Definition :=
  Definition.withSpec
    ⟨id, tenant, target, spec.key, "", none, false, .null, none, .null, now, now⟩ spec

/-- The tables with a declaration written, and its row. -/
def put (tenant target : String) (now : Moment) (spec : AttributeSpec) (store : Store α) :
    Definition × Store α :=
  match store.definitions.find? (Definition.isFor tenant target spec.key) with
  | some row =>
    let changed := if row.agrees spec then row else { row.withSpec spec with updatedAt := now }
    (changed, { store with
      definitions := store.definitions.map fun row =>
        if row.isFor tenant target spec.key then changed else row })
  | none =>
    let row := newRow (nextId (store.definitions.map Definition.id)) tenant target now spec
    (row, { store with definitions := store.definitions ++ [row] })

/-- Declare an attribute. A key of a built-in attribute cannot be declared. -/
def define (tenant target : String) (spec : AttributeSpec) : Run σ α Definition := do
  let kind ← Run.pure? (targetNamed target)
  if kind.hasBuiltin spec.key then
    throw (.violation (.ofKey s!"'{spec.key}' is a built-in {target} field" spec.key))
  let now ← Run.clock
  Run.commit fun store => .ok (put tenant target now spec store)

end Herald.Registry
