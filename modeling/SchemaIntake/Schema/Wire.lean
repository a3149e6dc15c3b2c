import SchemaIntake.Json.Decoding
import SchemaIntake.Schema.Report

/-!
# Reports as JSON

The names of the members are in camel case.  Lists that are empty and contexts that are not
set are left out, and may be left out when read.
-/

namespace SchemaIntake

open Json

instance : Wire Code where
  encode code := .text code.name
  decode? := oneOf? Code.all Code.name

instance : Wire Severity where
  encode severity := .text severity.name
  decode? := oneOf? Severity.all Severity.name

namespace Finding

/-- The names of the members of a finding. -/
def fieldNames : List Text :=
  ["code", "message", "severity", "table", "column"].map String.toList

instance : Wire Finding where
  encode f := .record
    ([("code".toList, Wire.encode f.code), ("message".toList, .text f.message),
      ("severity".toList, Wire.encode f.severity)] ++
      ifSome "table".toList (f.table.map .text) ++ ifSome "column".toList (f.column.map .text))
  decode? v := do
    let [code, message, severity, table, column] ← fields? fieldNames v | none
    let code ← code.required Wire.decode?
    let message ← message.required text?
    let severity ← severity.required Wire.decode?
    let table ← table.optional text?
    let column ← column.optional text?
    some ⟨code, message, severity, table, column⟩

end Finding

namespace Column

/-- The names of the members of a column. -/
def fieldNames : List Text := ["name", "dataType", "raw"].map String.toList

instance : Wire Column where
  encode c := .record
    [("name".toList, .text c.name), ("dataType".toList, .text c.dataType),
      ("raw".toList, .text c.raw)]
  decode? v := do
    let [name, dataType, raw] ← fields? fieldNames v | none
    let name ← name.required text?
    let dataType ← dataType.required text?
    let raw ← raw.required text?
    some ⟨name, dataType, raw⟩

end Column

namespace Table

/-- The names of the members of a table. -/
def fieldNames : List Text :=
  ["name", "columns", "constraints", "hasPrimaryKey"].map String.toList

instance : Wire Table where
  encode t := .record
    ([("name".toList, .text t.name), ("columns".toList, .array (t.columns.map Wire.encode))] ++
      ifNonempty "constraints".toList (t.constraints.map .text) ++
      [("hasPrimaryKey".toList, .bool t.hasPrimaryKey)])
  decode? v := do
    let [name, columns, constraints, hasPrimaryKey] ← fields? fieldNames v | none
    let name ← name.required text?
    let columns ← columns.required (list? Wire.decode?)
    let constraints ← constraints.withDefault [] (list? text?)
    let hasPrimaryKey ← hasPrimaryKey.required bool?
    some ⟨name, columns, constraints, hasPrimaryKey⟩

end Table

namespace Report

/-- The names of the members of a report. -/
def fieldNames : List Text := ["isValid", "tables", "errors", "warnings"].map String.toList

instance : Wire Report where
  encode r := .record
    ([("isValid".toList, .bool r.isValid)] ++
      ifNonempty "tables".toList (r.tables.map Wire.encode) ++
      ifNonempty "errors".toList (r.errors.map Wire.encode) ++
      ifNonempty "warnings".toList (r.warnings.map Wire.encode))
  decode? v := do
    let [isValid, tables, errors, warnings] ← fields? fieldNames v | none
    let isValid ← isValid.required bool?
    let tables ← tables.withDefault [] (list? Wire.decode?)
    let errors ← errors.withDefault [] (list? Wire.decode?)
    let warnings ← warnings.withDefault [] (list? Wire.decode?)
    some ⟨isValid, tables, errors, warnings⟩

end Report

end SchemaIntake
