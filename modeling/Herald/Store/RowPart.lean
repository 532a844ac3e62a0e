import Herald.Failure

/-! # Parts of a row

A row has parts that are no columns: what table it belongs to, how it is made, compared and shown.
Their names are known, so naming one of them is not the same as a slip of the pen. A value given to
such a part is not kept, and three parts take no value at all; none of them can stand for a column.
-/

namespace Herald

/-- A part of a row that is no column, by what the table holds there. -/
inductive RowPart
  /-- A name, such as that of the table. -/
  | word
  /-- A collection of other parts. -/
  | collection
  | other
  deriving DecidableEq

namespace RowPart

def words : List String := ["__tablename__", "__module__", "__name__", "__qualname__"]

def collections : List String := ["__dict__", "__annotations__"]

def others : List String :=
  ["metadata", "registry", "mro", "__table__", "__mapper__", "__abstract__", "_sa_class_manager",
    "_sa_registry", "_is_protocol", "__base__", "__bases__", "__basicsize__", "__call__",
    "__class__", "__class_getitem__", "__delattr__", "__dictoffset__", "__dir__", "__doc__",
    "__eq__", "__flags__", "__format__", "__ge__", "__getattribute__", "__getstate__", "__gt__",
    "__hash__", "__init__", "__init_subclass__", "__instancecheck__", "__itemsize__", "__le__",
    "__lt__", "__mro__", "__ne__", "__new__", "__or__", "__orig_bases__", "__parameters__",
    "__prepare__", "__reduce__", "__reduce_ex__", "__repr__", "__ror__", "__setattr__",
    "__sizeof__", "__slots__", "__str__", "__subclasscheck__", "__subclasses__",
    "__subclasshook__", "__text_signature__", "__weakref__", "__weakrefoffset__"]

/-- The part of a name that the rows of every table have. -/
def ofName? (name : String) : Option RowPart :=
  if words.contains name then some .word
  else if collections.contains name then some .collection
  else if others.contains name then some .other
  else none

/-- The part of a name in a table whose rows are unique in some columns. -/
def ofNameUnique? (name : String) : Option RowPart :=
  if name == "__table_args__" then some .other else ofName? name

/-- Why a part takes no value: what a row is cannot be changed, what refers to it is not its own,
and its contents are not given as one value. -/
def refusal? (name : String) (value : Value) : Option Failure :=
  match name, value with
  | "__class__", _ => some .unexpectedField
  | "__weakref__", _ => some .missingPart
  | "__dict__", .record _ => some .missingPart
  | "__dict__", _ => some .unexpectedField
  | _, _ => none

/-- The first part among some fields that takes no value. -/
def firstRefusal? (fields : Fields) : Option Failure :=
  fields.findSome? fun field => refusal? field.1 field.2

end RowPart

end Herald
