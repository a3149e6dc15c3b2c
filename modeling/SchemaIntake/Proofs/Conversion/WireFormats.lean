import SchemaIntake.CommandLine.Commands
import SchemaIntake.Proofs.Json.Fields

/-!
# Wire formats are read back

What the library writes it also reads: reports and their parts, requests and their refusals, the
messages of the queue, records and receipts.  For each type it is said which fields its values have;
that the values are read back then follows from the readers of the fields.

## Main definitions

* `Wire.IsExact a` — a value is read back from its JSON value, in which all numbers are numbers.

## Main results

* `isReadBack_finding`, `isReadBack_table`, `isReadBack_report`, `isReadBack_message`,
  `isReadBack_conversion` and the like — the values of one type are read back.
* `wire_formats_read_back` — **all that is written is read back**, also the reports in print.
-/

namespace SchemaIntake

open Text Json

namespace Json

/-! ### The parts of structures -/

/-- A list that is written only where it is not empty, as a field. -/
def listed : List Json → Field
  | [] => none
  | items => some (.array items)

theorem isWritable_record {members : List (Text × Json)} :
    (record members).IsWritable ↔ ∀ m ∈ members, m.2.IsWritable := by
  rw [record, IsWritable, areMembersWritable_iff, List.forall_mem_map]

theorem isWritable_array {items : List Json} :
    (array items).IsWritable ↔ ∀ v ∈ items, v.IsWritable := by
  rw [IsWritable, areItemsWritable_iff]

@[simp] theorem isWritable_text (t : Text) : (text t).IsWritable := by
  simp [text, IsWritable]

@[simp] theorem isWritable_bool (b : Bool) : (bool b).IsWritable := by
  simp [IsWritable]

@[simp] theorem isWritable_natural (n : Nat) : (natural n).IsWritable := by
  simpa [natural, IsWritable] using isNumber_decimal n

@[simp] theorem isWritable_integer (i : Int) : (integer i).IsWritable := by
  simpa [integer, IsWritable] using isNumber_decimalInt i

variable {name : Text}

theorem isWritable_ifSome (t : Option Text) : ∀ m ∈ ifSome name (t.map .text), m.2.IsWritable := by
  cases t <;> simp [ifSome]

theorem isWritable_ifNonempty {items : List Json} (h : ∀ v ∈ items, v.IsWritable) :
    ∀ m ∈ ifNonempty name items, m.2.IsWritable := by
  cases items with
  | nil => simp [ifNonempty]
  | cons item rest => simpa [ifNonempty, isWritable_array] using h

theorem text?_text (t : Text) : text? (.text t) = some t := rfl

theorem optional_text (t : Option Text) : Field.optional text? (t.map .text) = some t := by
  cases t <;> rfl

section Lists

variable {α : Type} {read : Json → Option α} {write : α → Json}

theorem list?_map {xs : List α} (h : ∀ x, read (write x) = some x) :
    list? read (.array (xs.map write)) = some xs := by
  have hsome : read ∘ write = some := funext h
  rw [list?, List.mapM_map, hsome]
  exact (List.mapM_pure (m := Option) (l := xs) (f := id)).trans (by simp)

theorem withDefault_listed {xs : List α} (h : ∀ x, read (write x) = some x) :
    Field.withDefault [] (list? read) (listed (xs.map write)) = some xs := by
  cases xs with
  | nil => rfl
  | cons x xs => exact list?_map h

end Lists

end Json

namespace Wire

variable {α : Type} [Wire α]

/-- A value is read back from its JSON value, in which all numbers are numbers. -/
structure IsExact (a : α) : Prop where
  /-- All numbers in its JSON value are numbers. -/
  isWritable : (encode a).IsWritable
  decode?_encode : decode? (encode a) = some a

theorem isWritable_list {xs : List α} (h : ∀ a : α, IsExact a) :
    ∀ v ∈ xs.map encode, Json.IsWritable v := by
  intro v hv
  obtain ⟨a, -, rfl⟩ := List.mem_map.mp hv
  exact (h a).isWritable

theorem IsExact.isReadBack {names : List Text} {read : List Field → Option α} {a : α}
    (h : IsExact a) (horder : IgnoresOrder (decode? (α := α)))
    (hdecode : ∀ v, decode? v = (fields? names v).bind read) : IsReadBack names a :=
  isReadBack_of_fields hdecode horder h.isWritable h.decode?_encode

/-- A value that is printed with the end of its line is read back. -/
theorem IsExact.ofText?_unlines {a : α} (h : IsExact a) (layout : Layout) :
    ofText? (unlines [toText layout a]) = some a := by
  have hline : unlines [toText layout a] = (encode a).render layout ++ ['\n'] := by
    simp [unlines, toText]
  rw [hline, ofText?, parse?_render layout h.isWritable (by simp [isGap]), Option.bind_some]
  exact h.decode?_encode

end Wire

/-! ### Names -/

theorem isExact_code (code : Code) : Wire.IsExact code := by
  refine ⟨isWritable_text _, ?_⟩
  cases code <;> rfl

theorem isExact_severity (severity : Severity) : Wire.IsExact severity := by
  refine ⟨isWritable_text _, ?_⟩
  cases severity <;> rfl

theorem isExact_status (status : Status) : Wire.IsExact status := by
  refine ⟨isWritable_text _, ?_⟩
  cases status <;> rfl

theorem isExact_optimization (optimization : Optimization) : Wire.IsExact optimization := by
  refine ⟨isWritable_text _, ?_⟩
  cases optimization <;> rfl

theorem ignoresOrder_code : IgnoresOrder (Wire.decode? (α := Code)) := ignoresOrder_oneOf? _ _

theorem ignoresOrder_severity : IgnoresOrder (Wire.decode? (α := Severity)) :=
  ignoresOrder_oneOf? _ _

theorem ignoresOrder_status : IgnoresOrder (Wire.decode? (α := Status)) := ignoresOrder_oneOf? _ _

theorem ignoresOrder_optimization : IgnoresOrder (Wire.decode? (α := Optimization)) :=
  ignoresOrder_oneOf? _ _

/-! ### Reports -/

theorem isExact_finding (f : Finding) : Wire.IsExact f where
  isWritable := by
    apply isWritable_record.mpr
    simp only [List.forall_mem_append, List.forall_mem_cons]
    exact ⟨⟨⟨(isExact_code _).isWritable, isWritable_text _, (isExact_severity _).isWritable,
      List.forall_mem_nil _⟩, isWritable_ifSome _⟩, isWritable_ifSome _⟩
  decode?_encode := by
    have hfields : fields? Finding.fieldNames (Wire.encode f) =
        some [some (Wire.encode f.code), some (.text f.message), some (Wire.encode f.severity),
          f.table.map .text, f.column.map .text] := by
      obtain ⟨code, message, severity, table, column⟩ := f
      cases table <;> cases column <;> rfl
    change (fields? Finding.fieldNames (Wire.encode f)).bind _ = _
    rw [hfields]
    simp [Field.required, (isExact_code _).decode?_encode, (isExact_severity _).decode?_encode,
      text?_text, optional_text]

theorem ignoresOrder_finding : IgnoresOrder (Wire.decode? (α := Finding)) := by
  apply ignoresOrder_of_fields
  rintro (_ | ⟨a, _ | ⟨b, _ | ⟨c, _ | ⟨d, _ | ⟨e, _ | _⟩⟩⟩⟩⟩) <;> try rfl
  simp only [List.map_cons, List.map_nil, ignoresOrder_code.required,
    ignoresOrder_severity.required, ignoresOrder_text?.required, ignoresOrder_text?.optional]

theorem isReadBack_finding (f : Finding) : Wire.IsReadBack Finding.fieldNames f :=
  (isExact_finding f).isReadBack ignoresOrder_finding fun _ => rfl

theorem isExact_column (c : Column) : Wire.IsExact c where
  isWritable := isWritable_record.mpr (by simp)
  decode?_encode := rfl

theorem ignoresOrder_column : IgnoresOrder (Wire.decode? (α := Column)) := by
  apply ignoresOrder_of_fields
  rintro (_ | ⟨a, _ | ⟨b, _ | ⟨c, _ | _⟩⟩⟩) <;> try rfl
  simp only [List.map_cons, List.map_nil, ignoresOrder_text?.required]

theorem isReadBack_column (c : Column) : Wire.IsReadBack Column.fieldNames c :=
  (isExact_column c).isReadBack ignoresOrder_column fun _ => rfl

theorem isExact_table (t : Table) : Wire.IsExact t where
  isWritable := by
    apply isWritable_record.mpr
    simp only [List.forall_mem_append, List.forall_mem_cons]
    exact ⟨⟨⟨isWritable_text _, isWritable_array.mpr (Wire.isWritable_list isExact_column),
      List.forall_mem_nil _⟩, isWritable_ifNonempty (by simp)⟩, isWritable_bool _,
      List.forall_mem_nil _⟩
  decode?_encode := by
    have hfields : fields? Table.fieldNames (Wire.encode t) =
        some [some (.text t.name), some (.array (t.columns.map Wire.encode)),
          listed (t.constraints.map .text), some (.bool t.hasPrimaryKey)] := by
      obtain ⟨name, columns, constraints, hasPrimaryKey⟩ := t
      cases constraints <;> rfl
    change (fields? Table.fieldNames (Wire.encode t)).bind _ = _
    rw [hfields]
    simp [Field.required, text?_text, list?_map fun c => (isExact_column c).decode?_encode,
      withDefault_listed text?_text, bool?]

theorem ignoresOrder_table : IgnoresOrder (Wire.decode? (α := Table)) := by
  apply ignoresOrder_of_fields
  rintro (_ | ⟨a, _ | ⟨b, _ | ⟨c, _ | ⟨d, _ | _⟩⟩⟩⟩) <;> try rfl
  simp only [List.map_cons, List.map_nil, ignoresOrder_text?.required, ignoresOrder_bool?.required,
    ignoresOrder_column.list?.required, ignoresOrder_text?.list?.withDefault]

theorem isReadBack_table (t : Table) : Wire.IsReadBack Table.fieldNames t :=
  (isExact_table t).isReadBack ignoresOrder_table fun _ => rfl

theorem isExact_report (r : Report) : Wire.IsExact r where
  isWritable := by
    apply isWritable_record.mpr
    simp only [List.forall_mem_append, List.forall_mem_cons]
    exact ⟨⟨⟨⟨isWritable_bool _, List.forall_mem_nil _⟩,
      isWritable_ifNonempty (Wire.isWritable_list isExact_table)⟩,
      isWritable_ifNonempty (Wire.isWritable_list isExact_finding)⟩,
      isWritable_ifNonempty (Wire.isWritable_list isExact_finding)⟩
  decode?_encode := by
    have hfields : fields? Report.fieldNames (Wire.encode r) =
        some [some (.bool r.isValid), listed (r.tables.map Wire.encode),
          listed (r.errors.map Wire.encode), listed (r.warnings.map Wire.encode)] := by
      obtain ⟨isValid, tables, errors, warnings⟩ := r
      cases tables <;> cases errors <;> cases warnings <;> rfl
    change (fields? Report.fieldNames (Wire.encode r)).bind _ = _
    rw [hfields]
    simp [Field.required, bool?, withDefault_listed fun t => (isExact_table t).decode?_encode,
      withDefault_listed fun f => (isExact_finding f).decode?_encode]

theorem ignoresOrder_report : IgnoresOrder (Wire.decode? (α := Report)) := by
  apply ignoresOrder_of_fields
  rintro (_ | ⟨a, _ | ⟨b, _ | ⟨c, _ | ⟨d, _ | _⟩⟩⟩⟩) <;> try rfl
  simp only [List.map_cons, List.map_nil, ignoresOrder_bool?.required,
    ignoresOrder_table.list?.withDefault, ignoresOrder_finding.list?.withDefault]

theorem isReadBack_report (r : Report) : Wire.IsReadBack Report.fieldNames r :=
  (isExact_report r).isReadBack ignoresOrder_report fun _ => rfl

/-! ### Requests -/

theorem isExact_response (r : ErrorResponse) : Wire.IsExact r where
  isWritable := by
    apply isWritable_record.mpr
    simp only [List.forall_mem_append, List.forall_mem_cons]
    exact ⟨⟨(isExact_code _).isWritable, isWritable_text _, List.forall_mem_nil _⟩,
      isWritable_ifNonempty (Wire.isWritable_list isExact_finding)⟩
  decode?_encode := by
    have hfields : fields? ErrorResponse.fieldNames (Wire.encode r) =
        some [some (Wire.encode r.error), some (.text r.message),
          listed (r.details.map Wire.encode)] := by
      obtain ⟨error, message, details⟩ := r
      cases details <;> rfl
    change (fields? ErrorResponse.fieldNames (Wire.encode r)).bind _ = _
    rw [hfields]
    simp [Field.required, (isExact_code _).decode?_encode, text?_text,
      withDefault_listed fun f => (isExact_finding f).decode?_encode]

theorem ignoresOrder_response : IgnoresOrder (Wire.decode? (α := ErrorResponse)) := by
  apply ignoresOrder_of_fields
  rintro (_ | ⟨a, _ | ⟨b, _ | ⟨c, _ | _⟩⟩⟩) <;> try rfl
  simp only [List.map_cons, List.map_nil, ignoresOrder_code.required, ignoresOrder_text?.required,
    ignoresOrder_finding.list?.withDefault]

theorem isReadBack_response (r : ErrorResponse) : Wire.IsReadBack ErrorResponse.fieldNames r :=
  (isExact_response r).isReadBack ignoresOrder_response fun _ => rfl

theorem isExact_request (r : ConvertRequest) : Wire.IsExact r where
  isWritable := by
    apply isWritable_record.mpr
    simp only [List.forall_mem_append, List.forall_mem_cons]
    exact ⟨⟨isWritable_text _, List.forall_mem_nil _⟩, isWritable_ifSome _⟩
  decode?_encode := by
    obtain ⟨sqlContent, optimizationType⟩ := r
    cases optimizationType <;> rfl

theorem ignoresOrder_request : IgnoresOrder (Wire.decode? (α := ConvertRequest)) := by
  apply ignoresOrder_of_fields
  rintro (_ | ⟨a, _ | ⟨b, _ | _⟩⟩) <;> try rfl
  simp only [List.map_cons, List.map_nil, ignoresOrder_text?.withDefault,
    ignoresOrder_text?.optional]

theorem isReadBack_request (r : ConvertRequest) : Wire.IsReadBack ConvertRequest.fieldNames r :=
  (isExact_request r).isReadBack ignoresOrder_request fun _ => rfl

/-! ### Records -/

theorem isExact_message {m : Message} (h : m.tablesExtracted < 2 ^ 64) : Wire.IsExact m where
  isWritable := by
    apply isWritable_record.mpr
    simp [(isExact_optimization m.optimization).isWritable]
  decode?_encode := by
    have hfields : fields? Message.fieldNames (Wire.encode m) =
        some [some (.text m.conversionId), some (.text m.sqlContent),
          some (Wire.encode m.optimization), some (.natural m.tablesExtracted)] := rfl
    change (fields? Message.fieldNames (Wire.encode m)).bind _ = _
    rw [hfields]
    simp [Field.required, text?_text, (isExact_optimization _).decode?_encode, natural?_natural h]

theorem ignoresOrder_message : IgnoresOrder (Wire.decode? (α := Message)) := by
  apply ignoresOrder_of_fields
  rintro (_ | ⟨a, _ | ⟨b, _ | ⟨c, _ | ⟨d, _ | _⟩⟩⟩⟩) <;> try rfl
  simp only [List.map_cons, List.map_nil, ignoresOrder_text?.required,
    ignoresOrder_optimization.required, ignoresOrder_natural?.required]

theorem isReadBack_message {m : Message} (h : m.tablesExtracted < 2 ^ 64) :
    Wire.IsReadBack Message.fieldNames m :=
  (isExact_message h).isReadBack ignoresOrder_message fun _ => rfl

theorem isExact_receipt {r : Receipt} (hlow : -2 ^ 63 ≤ r.expiresAt)
    (hhigh : r.expiresAt < 2 ^ 63) : Wire.IsExact r where
  isWritable := by
    apply isWritable_record.mpr
    simp [(isExact_status r.status).isWritable]
  decode?_encode := by
    have hfields : fields? Receipt.fieldNames (Wire.encode r) =
        some [some (.text r.conversionId), some (Wire.encode r.status), some (.text r.createdAt),
          some (.integer r.expiresAt)] := rfl
    change (fields? Receipt.fieldNames (Wire.encode r)).bind _ = _
    rw [hfields]
    simp [Field.required, text?_text, (isExact_status _).decode?_encode,
      integer?_integer hlow hhigh]

theorem ignoresOrder_receipt : IgnoresOrder (Wire.decode? (α := Receipt)) := by
  apply ignoresOrder_of_fields
  rintro (_ | ⟨a, _ | ⟨b, _ | ⟨c, _ | ⟨d, _ | _⟩⟩⟩⟩) <;> try rfl
  simp only [List.map_cons, List.map_nil, ignoresOrder_text?.required,
    ignoresOrder_status.required, ignoresOrder_integer?.required]

theorem isReadBack_receipt {r : Receipt} (hlow : -2 ^ 63 ≤ r.expiresAt)
    (hhigh : r.expiresAt < 2 ^ 63) : Wire.IsReadBack Receipt.fieldNames r :=
  (isExact_receipt hlow hhigh).isReadBack ignoresOrder_receipt fun _ => rfl

theorem isExact_conversion {c : Conversion} (htables : c.tablesExtracted < 2 ^ 64)
    (hlow : -2 ^ 63 ≤ c.expiresAt) (hhigh : c.expiresAt < 2 ^ 63) : Wire.IsExact c where
  isWritable := by
    apply isWritable_record.mpr
    simp only [List.forall_mem_append, List.forall_mem_cons]
    exact ⟨⟨⟨isWritable_text _, (isExact_status _).isWritable, isWritable_text _,
      isWritable_integer _, isWritable_text _, isWritable_text _,
      (isExact_optimization _).isWritable, isWritable_natural _, List.forall_mem_nil _⟩,
      isWritable_ifSome _⟩, isWritable_ifSome _⟩
  decode?_encode := by
    have hfields : fields? Conversion.fieldNames (Wire.encode c) =
        some [some (.text c.id), some (Wire.encode c.status), some (.text c.createdAt),
          some (.integer c.expiresAt), some (.text c.date), some (.text c.sqlContent),
          some (Wire.encode c.optimization), some (.natural c.tablesExtracted),
          c.result.map .text, c.errorMessage.map .text] := by
      obtain ⟨id, status, createdAt, expiresAt, date, sqlContent, optimization, tablesExtracted,
        result, errorMessage⟩ := c
      cases result <;> cases errorMessage <;> rfl
    change (fields? Conversion.fieldNames (Wire.encode c)).bind _ = _
    rw [hfields]
    simp [Field.required, text?_text, (isExact_status _).decode?_encode,
      (isExact_optimization _).decode?_encode, natural?_natural htables,
      integer?_integer hlow hhigh, optional_text]

theorem ignoresOrder_conversion : IgnoresOrder (Wire.decode? (α := Conversion)) := by
  apply ignoresOrder_of_fields
  rintro (_ | ⟨a, _ | ⟨b, _ | ⟨c, _ | ⟨d, _ | ⟨e, _ | ⟨f, _ | ⟨g, _ | ⟨h, _ | ⟨i, _ | ⟨j, _ |
    _⟩⟩⟩⟩⟩⟩⟩⟩⟩⟩) <;> try rfl
  simp only [List.map_cons, List.map_nil, ignoresOrder_text?.required,
    ignoresOrder_status.required, ignoresOrder_integer?.required,
    ignoresOrder_optimization.required, ignoresOrder_natural?.required,
    ignoresOrder_text?.optional]

theorem isReadBack_conversion {c : Conversion} (htables : c.tablesExtracted < 2 ^ 64)
    (hlow : -2 ^ 63 ≤ c.expiresAt) (hhigh : c.expiresAt < 2 ^ 63) :
    Wire.IsReadBack Conversion.fieldNames c :=
  (isExact_conversion htables hlow hhigh).isReadBack ignoresOrder_conversion fun _ => rfl

/-! ### Reports in print -/

/-- The report that is printed for a file is the only member `result` of what is printed. -/
theorem report_of_out (plan : CheckPlan) (file : Text) (report : Report)
    (hformat : plan.format = .json) :
    ∃ members result, parse? (plan.out file report) = some (.object members) ∧
      fields? ["result".toList] (.object members) = some [some result] ∧
        Wire.decode? result = some report := by
  -- The members are put in order before they are printed, which no reader can tell.
  let v := record [("file".toList, .text file),
    ("optimizationType".toList, Wire.encode plan.optimization),
    ("result".toList, Wire.encode report)]
  have hwritable : v.IsWritable := by
    apply isWritable_record.mpr
    simp [(isExact_optimization plan.optimization).isWritable, (isExact_report report).isWritable]
  have hout : plan.out file report = v.sortKeys.render .indented ++ ['\n'] := by
    rw [CheckPlan.out, hformat]
    simp [unlines, Report.jsonText, v]
  have hparse : parse? (plan.out file report) = some v.sortKeys := by
    rw [hout]
    exact parse?_render .indented (isWritable_sortKeys v hwritable) (by simp [isGap])
  have hfields : fields? ["result".toList] v = some [some (Wire.encode report)] := rfl
  have hsorted : fields? ["result".toList] v.sortKeys =
      some [some (Wire.encode report).sortKeys] := by
    rw [fields?_sortKeys, hfields]
    rfl
  refine ⟨_, _, hparse, hsorted, ?_⟩
  rw [ignoresOrder_report, (isExact_report report).decode?_encode]

/-! ### All formats -/

/-- **All that is written is read back.** -/
theorem wire_formats_read_back :
    (∀ r : Report, Wire.IsReadBack Report.fieldNames r) ∧
    (∀ f : Finding, Wire.IsReadBack Finding.fieldNames f) ∧
    (∀ t : Table, Wire.IsReadBack Table.fieldNames t) ∧
    (∀ c : Column, Wire.IsReadBack Column.fieldNames c) ∧
    (∀ r : ErrorResponse, Wire.IsReadBack ErrorResponse.fieldNames r) ∧
    (∀ r : ConvertRequest, Wire.IsReadBack ConvertRequest.fieldNames r) ∧
    (∀ m : Message, m.tablesExtracted < 2 ^ 64 → Wire.IsReadBack Message.fieldNames m) ∧
    (∀ c : Conversion, c.tablesExtracted < 2 ^ 64 → -2 ^ 63 ≤ c.expiresAt → c.expiresAt < 2 ^ 63 →
      Wire.IsReadBack Conversion.fieldNames c) ∧
    (∀ r : Receipt, -2 ^ 63 ≤ r.expiresAt → r.expiresAt < 2 ^ 63 →
      Wire.IsReadBack Receipt.fieldNames r) ∧
    (∀ plan : CheckPlan, plan.format = .json → ∀ file report, ∃ members result,
      parse? (plan.out file report) = some (.object members) ∧
        fields? ["result".toList] (.object members) = some [some result] ∧
          Wire.decode? result = some report) :=
  ⟨isReadBack_report, isReadBack_finding, isReadBack_table, isReadBack_column, isReadBack_response,
    isReadBack_request, fun _ => isReadBack_message, fun _ => isReadBack_conversion,
    fun _ => isReadBack_receipt, fun plan hformat file report =>
      report_of_out plan file report hformat⟩

/-- The message with the greatest count of tables. -/
def widestMessage : Message := ⟨"é\"\\\u0001".toList, "CREATE".toList, .balanced, 2 ^ 64 - 1⟩

def foreignMember : Literal × Json :=
  (some "trace".toList, .array [.object [(none, .number "-0.5e3".toList)], .null])

/-- The same message from another writer, which sends more than is asked for. -/
def widestMessageElsewhere : Json :=
  .object [foreignMember, (some "tablesExtracted".toList, .natural (2 ^ 64 - 1)),
    (some "optimizationType".toList, .text "balanced".toList),
    (some "sqlContent".toList, .text "CREATE".toList),
    (some "conversionId".toList, .text "é\"\\\u0001".toList)]

theorem widestMessage_read_back :
    widestMessage.tablesExtracted < 2 ^ 64 ∧
      IsRearranged Message.fieldNames (Wire.encode widestMessage) widestMessageElsewhere ∧
        Wire.ofText? (widestMessageElsewhere.render .compact) = some widestMessage := by
  have hforeign : foreignMember.2.IsWritable := by
    have hnumber : IsNumber "-0.5e3".toList := by decide
    simpa [foreignMember, IsWritable, AreItemsWritable, AreMembersWritable] using hnumber
  have hrearranged :
      IsRearranged Message.fieldNames (Wire.encode widestMessage) widestMessageElsewhere := by
    refine ⟨_, [foreignMember], _, rfl, rfl, ?_, ?_⟩
    · exact List.reverse_perm [_, _, _, _, foreignMember]
    · simpa using ⟨hforeign, _, rfl, by decide⟩
  have hread := (wire_formats_read_back.2.2.2.2.2.2.1 widestMessage (by decide) _ (.inl rfl)
    .compact).2
  exact ⟨by decide, hrearranged, hread _ hrearranged⟩

end SchemaIntake
