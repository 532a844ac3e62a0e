import Herald.Attribute.Registry
import Herald.Store.Column
import Herald.Store.RowPart

/-! # Writing targets

A target is written under its external id, or as a new one without. The data map is checked against
the tenant's schema before anything is written, and replaces the old one; columns that are not
mentioned keep their values. Only what differs from the old row is written at all, and the time of
the last change moves only then.
-/

namespace Herald.Target

variable {σ α : Type}

/-! ## Columns -/

/-- The columns of both kinds of target. -/
def contactColumns : List (Column Target) :=
  [.textNamed "external_id" fun target externalId => { target with externalId },
    .textNamed "name" fun target name => { target with name },
    .textNamed "phone" fun target phone => { target with phone },
    .textNamed "email" fun target email => { target with email }]

/-- When a target was written. -/
def timeColumns : List (Column Target) :=
  [.instantNamed "created_at" fun target createdAt => { target with createdAt },
    .instantNamed "updated_at" fun target updatedAt => { target with updatedAt }]

/-- The data of a target. -/
def dataColumn : Column Target :=
  .dataNamed "data" fun target data =>
    { target with data := match data with
      | .record fields => fields
      | _ => [] }

/-- The columns, in the order of the table. -/
def columns : TargetKind → List (Column Target)
  | .customer => timeColumns ++ contactColumns ++ [dataColumn]
  | .service =>
    timeColumns ++ [.cellNamed "customer_id" fun target customer => { target with customer }] ++
      contactColumns ++
      [.momentNamed "expiry_at" fun target expiryAt => { target with expiryAt },
        .textNamed "status" fun target status => { target with status }, dataColumn]

/-- What a target holds in a column. -/
def held (target : Target) : String → Value
  | "name" => .ofTextOption target.name
  | "phone" => .ofTextOption target.phone
  | "email" => .ofTextOption target.email
  | "status" => .ofTextOption target.status
  | "customer_id" => (target.customer.map Cell.toValue).getD .null
  | "expiry_at" => ofMomentOption target.expiryAt
  | "created_at" => .moment target.createdAt
  | "updated_at" => .moment target.updatedAt
  | "data" => .record target.data
  | _ => .null

/-! ## Names -/

/-- Names with a place of their own in a write, which no column can be given under. -/
def takenNames : List String := ["data", "db", "external_id", "schema", "self"]

/-- The first named column that may not be written. -/
def forbidden? (kind : TargetKind) (fields : Fields) : Option String :=
  fields.names.find? fun name =>
    !(Column.isAmong (columns kind) name || (RowPart.ofNameUnique? name).isSome)

/-! ## Rows -/

/-- A new target without contents. -/
def new (id : Int) (tenant : String) (now : Moment) : Target :=
  ⟨id, tenant, none, none, none, none, [], now, now, none, none, none⟩

/-- Whether a target has an external id of a tenant. -/
def isKnownAs (tenant : String) (externalId : Option String) (target : Target) : Bool :=
  externalId.isSome && target.tenant == tenant && target.externalId == externalId

/-- An old target with other contents. -/
def rewritten (kind : TargetKind) (old : Target) (fields : Fields) (now : Moment) :
    Except Failure Target := do
  let changed := fields.filter fun (name, value) =>
    Column.isAmong (columns kind) name && !value.same (old.held name)
  if changed.isEmpty then return old
  let written := (Fields.put [] "updated_at" (.moment now)).putAll changed
  let change ← Column.changes (columns kind) written
  return change old

/-- A new target with contents: its times are not left empty. -/
def initial (kind : TargetKind) (blank : Target) (externalId : Value) (fields : Fields) :
    Except Failure Target := do
  let given : Fields := fields.filter fun (name, value) =>
    !(["created_at", "updated_at"].contains name && value.isNull)
  let change ← Column.changes (columns kind) (given.put "external_id" externalId)
  return change blank

/-- The fields of a row, unless one of them takes no value. -/
def usable (fields : Fields) : Except Failure Fields :=
  match RowPart.firstRefusal? fields with
  | some refusal => .error refusal
  | none => .ok fields

/-- The tables with a target written, and the target. -/
def put (schema : AttributeSchema) (now : Moment) (data : Fields) (externalId : Value)
    (fields : Fields) (store : Store α) : Except Failure (Target × Store α) := do
  let targets := store.targets schema.target
  let known ← Column.text externalId
  let fields := (← usable fields).put "data" (.record data)
  match targets.find? (isKnownAs schema.tenant known) with
  | some old =>
    let target ← rewritten schema.target old fields now
    return (target, store.withTargets schema.target
      (targets.map fun row => if row.id == target.id then target else row))
  | none =>
    let blank := new (nextId (targets.map Target.id)) schema.tenant now
    let target ← initial schema.target blank externalId fields
    return (target, store.withTargets schema.target (targets ++ [target]))

/-- Write a target of the tenant and kind of a schema. -/
def upsert (schema : AttributeSchema) (data : Fields) (externalId : Value) (fields : Fields) :
    Run σ α Target := do
  if fields.names.any takenNames.contains then throw .unexpectedField
  match schema.violation? data with
  | some violation => throw (.violation violation)
  | none =>
    match forbidden? schema.target fields with
    | some name =>
      throw (.violation (.ofKey s!"'{name}' is not a {schema.target.name} field" name))
    | none =>
      let now ← Run.clock
      if externalId.isNull then let _ ← Run.pure? (usable fields)
      Run.commit (put schema now data externalId fields)

end Herald.Target
