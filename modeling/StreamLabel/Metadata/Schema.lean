import StreamLabel.Metadata.Field

/-!
# Schemas of metadata

A schema lists the fields of a group of properties. A field is looked up by its name, and by its
spelling with low lines if that is missing. Properties that belong to no field are kept as they are.
-/

namespace StreamLabel

structure Field where
  name : String
  /-- The spelling with low lines. -/
  plainName : String
  kind : FieldKind
deriving DecidableEq, Repr

structure FieldError where
  location : String
  fault : FieldFault
deriving DecidableEq, Repr

abbrev Schema := List Field

/-- The properties without those that are null. -/
def dropNulls (ps : Properties) : Properties :=
  ps.filter fun p => match p.2 with | .null => false | _ => true

namespace Field

/-- The key under which a field is given. -/
def key? (f : Field) (ps : Properties) : Option String :=
  [f.name, f.plainName].find? fun k => (ps.lookup k).isSome

/-- Reads the field. Faults are placed by the key under which it is given. -/
def read (f : Field) (ps : Properties) : Except (List FieldError) Value :=
  match (f.key? ps).bind fun k => (List.lookup k ps).map (k, ·) with
  | none => .ok (if f.kind = .texts then .list [] else .null)
  | some (key, v) =>
    match f.kind.accept v with
    | .ok w => .ok w
    | .error faults => .error (faults.map fun e => ⟨key ++ e.1, e.2⟩)

end Field

namespace Schema

/-- The properties that belong to no field. -/
def extras (s : Schema) (ps : Properties) : Properties :=
  let used := s.filterMap fun f => f.key? ps
  ps.filter fun p => !used.contains p.1

/-- The fields by name, or all that is wrong with them, in the order of the schema. -/
def readFields (ps : Properties) : Schema → Except (List FieldError) Properties
  | [] => .ok []
  | f :: fs =>
    match f.read ps, readFields ps fs with
    | .ok v, .ok rest => .ok ((f.name, v) :: rest)
    | .ok _, .error es | .error es, .ok _ => .error es
    | .error es, .error more => .error (es ++ more)

/-- Reads properties by a schema. What is null is dropped. -/
def read (s : Schema) (ps : Properties) : Except (List FieldError) Properties :=
  match readFields ps s with
  | .ok fields => .ok (dropNulls (fields ++ s.extras ps))
  | .error es => .error es

end Schema

end StreamLabel
