import SchemaIntake.Proofs.Conversion.Requests
import SchemaIntake.Proofs.Conversion.Timestamps
import SchemaIntake.Proofs.Conversion.WireFormats
import SchemaIntake.Proofs.Conversion.Work
import SchemaIntake.Proofs.Schema.Coverage

/-!
# Converting a file

The command `convert` puts the text of a file into a request, accepts the request as a service
would, lets the message through the queue and prints what has become of the record.  On this way the
text is written as JSON and read back, and it is looked at twice whether it is blank.  Here it is
shown that nothing is lost: what is printed depends on the check of the text alone.

## Main definitions

* `Session.firstRecord`, `completedConversion` — the record of a text, when it has been created and
  when it has been converted.

## Main results

* `read_requestBody` — the request asks for what it was made of.
* `Session.drain_eq` — **where no call fails, all messages that wait come to a design**.
* `convertOutput_eq` — what is printed about a text.
* `convert_agrees_with_check` — **the command agrees with the check**.
-/

namespace SchemaIntake

open Text Json

/-! ### The request -/

theorem ofText?_requestBody (content : Text) (optimization : Optimization) :
    Wire.ofText? (requestBody content optimization) =
      some (⟨content, some optimization.name⟩ : ConvertRequest) := by
  have hread := isReadBack_request ⟨content, some optimization.name⟩ _ (.inl rfl) .compact
  refine hread.2 _ ⟨_, [], _, rfl, rfl, ?_, List.forall_mem_nil _⟩
  -- the request has its two members the other way round
  exact List.Perm.swap _ _ _

/-- The request asks for what it was made of, unless that is blank. -/
theorem read_requestBody (content : Text) (optimization : Optimization) :
    Submission.read (requestBody content optimization) =
      if isAllBlank content then .error .emptySqlContent else .ok ⟨content, optimization⟩ := by
  rw [Submission.read, ofText?_requestBody]
  dsimp only
  rw [Submission.optimizationOf_name]
  rfl

/-! ### The queue -/

namespace Session

variable {settings : Settings} {s : Session}

/-- Changes to one record neither add nor remove another. -/
theorem isSome_get?_changed_other (s : Session) (id other : Text) (changes : List Change) :
    ((s.changed id changes).store.get? other).isSome = (s.store.get? other).isSome := by
  rw [changed, Store.get?_changed]
  split
  · next h => rw [h, Option.isSome_map]
  · rfl

/-- Where no call fails, a message whose conversion has a record comes to a design. -/
theorem workOrGiveUp_eq (hfailing : s.failing = []) {m : Message}
    (hfound : (s.store.get? m.conversionId).isSome = true) : s.workOrGiveUp settings m =
      .ok (s.changed m.conversionId [.started, .completed settings.design]) := by
  have hrefusal : s.refusal? .markProcessing m.conversionId = none := by
    rw [refusal?_of_get? hfound, hfailing, if_neg List.not_mem_nil]
  rw [workOrGiveUp, processMessage_eq, workAnswer, workChanges, hrefusal]
  simp [hfailing]

/-- Where no call fails, messages whose conversions have records come to designs, in order. -/
theorem foldlM_workOrGiveUp_eq {messages : List Message} (hfailing : s.failing = [])
    (hfound : ∀ m ∈ messages, (s.store.get? m.conversionId).isSome = true) :
    messages.foldlM (workOrGiveUp settings) s = .ok (messages.foldl
      (fun s m => s.changed m.conversionId [.started, .completed settings.design]) s) := by
  induction messages generalizing s with
  | nil => rfl
  | cons m rest ih =>
    rw [List.foldlM_cons, workOrGiveUp_eq hfailing (hfound m List.mem_cons_self)]
    refine ih hfailing fun m' hm' => ?_
    rw [isSome_get?_changed_other]
    exact hfound m' (List.mem_cons_of_mem m hm')

/-- **Where no call fails, all messages that wait come to a design**, in order. -/
theorem drain_eq (hfailing : s.failing = [])
    (hfound : ∀ m ∈ s.queue, (s.store.get? m.conversionId).isSome = true) :
    s.drain settings = .ok (s.queue.foldl
      (fun s m => s.changed m.conversionId [.started, .completed settings.design])
      { s with queue := [] }) :=
  foldlM_workOrGiveUp_eq (s := { s with queue := [] }) hfailing hfound

/-- The first record, which is created as no call fails. -/
def firstRecord (settings : Settings) (expiry : Moment) (content : Text)
    (optimization : Optimization) (tablesExtracted : Nat) : Conversion where
  id := settings.idOf 0
  status := .pending
  createdAt := settings.now.stamp
  expiresAt := expiry.seconds
  date := settings.now.dateText
  sqlContent := content
  optimization := optimization
  tablesExtracted := tablesExtracted
  result := none
  errorMessage := none

theorem not_mem_failing_start (call : Call) : call ∉ start.failing := List.not_mem_nil

theorem newRecord_start {expiry : Moment}
    (hexpiry : settings.now.plus? settings.lifetime = some expiry) (content : Text)
    (optimization : Optimization) (tablesExtracted : Nat) :
    start.newRecord settings content optimization tablesExtracted =
      .ok (firstRecord settings expiry content optimization tablesExtracted) := by
  rw [newRecord, guarded, if_neg (not_mem_failing_start .create), Conversion.pending?, hexpiry]
  rfl

/-- The record of the only conversion, after its message has been worked on. -/
theorem finished?_of_sent (settings : Settings) (c : Conversion) :
    ((start.added c).sent c.message).finished? settings c.receipt =
      some (c.changed [.started, .completed settings.design]) := by
  have hget : (start.added c).store.get? c.id = some c := by
    rw [added, Store.get?_add, if_pos rfl]
  have hdrain : ((start.added c).sent c.message).drain settings =
      .ok ((start.added c).changed c.id [.started, .completed settings.design]) :=
    drain_eq rfl (List.forall_mem_singleton.mpr (congrArg Option.isSome hget))
  have hfound : ((start.added c).changed c.id [.started, .completed settings.design]).get c.id =
      .ok (some (c.changed [.started, .completed settings.design])) := by
    have hcall : Call.get ∉ ((start.added c).changed c.id
        [.started, .completed settings.design]).failing := not_mem_failing_start .get
    rw [get, guarded, if_neg hcall, changed, Store.get?_changed, if_pos rfl, hget, Option.map_some]
  rw [finished?, hdrain]
  dsimp only
  rw [Conversion.receipt, hfound]

end Session

/-! ### The output -/

/-- The record of a text that has been converted. -/
def completedConversion (settings : Settings) (expiry : Moment) (content : Text)
    (optimization : Optimization) : Conversion :=
  { Session.firstRecord settings expiry content optimization
      (checkSchema content).tables.length with
    status := .completed
    result := some settings.design }

/-- The record of a text that has been converted is read back, if its tables can be counted. -/
theorem isExact_completedConversion {settings : Settings} {expiry : Moment}
    (hexpiry : settings.now.plus? settings.lifetime = some expiry) {content : Text}
    (htables : (checkSchema content).tables.length < 2 ^ 64) (optimization : Optimization) :
    Wire.IsExact (completedConversion settings expiry content optimization) := by
  obtain ⟨hlow, hhigh⟩ := Moment.bounds_of_plus? hexpiry
  exact isExact_conversion htables hlow hhigh

/-- The output about a text that is refused. -/
def refusalOutput (e : RequestError) : Output := ⟨1, unlines [Wire.toText .indented e.response], []⟩

/-- What is printed about a text: a refusal, or the record of the conversion. -/
theorem convertOutput_eq (settings : Settings) {expiry : Moment} {given : Option Text}
    {optimization : Optimization} (hdispatch : settings.dispatch = true)
    (hexpiry : settings.now.plus? settings.lifetime = some expiry)
    (hgiven : given.elim (.ok .balanced) Optimization.read = .ok optimization) (content : Text) :
    convertOutput settings content given =
      if isAllBlank content then refusalOutput .emptySqlContent
      else if !(checkSchema content).isValid then refusalOutput (.ofReport (checkSchema content))
      else ⟨0, unlines [Wire.toText .indented
        (completedConversion settings expiry content optimization)], []⟩ := by
  rw [convertOutput, hgiven]
  dsimp only
  rw [Session.submit_eq, Session.accepted, read_requestBody]
  -- the intake asks whether the text is blank before it checks the schema
  by_cases hblank : isAllBlank content = true
  · rw [if_pos hblank, if_pos hblank]
    rfl
  · rw [if_neg hblank, if_neg hblank]
    dsimp only
    by_cases hvalid : (!(checkSchema content).isValid) = true
    · rw [if_pos hvalid, if_pos hvalid]
      rfl
    · rw [if_neg hvalid, if_neg hvalid, Session.newRecord_start hexpiry]
      dsimp only
      rw [hdispatch, if_neg (by decide), if_neg (Session.not_mem_failing_start .send)]
      dsimp only
      rw [Session.finished?_of_sent]
      rfl

/-! ### The command -/

theorem not_isAllBlank_of_isValid {sql : Text} (h : (checkSchema sql).isValid = true) :
    isAllBlank sql = false := by
  by_contra hblank
  rw [checkSchema, if_pos (by simpa using hblank)] at h
  exact absurd h (by decide)

/-- **The command agrees with the check.**  A file is converted exactly if its text is a valid
schema.  Then the record that is printed has come to a design and says what was asked for, with as
many tables as there are statements.  Otherwise what is printed is a refusal: of a blank text as
such, and of any other with the errors of the check, the first of which speaks for all.  What is
printed is read back as that record or refusal; a count of tables is read if it has no more than 64
bits.  That the time of expiry is in range is asked of the clock. -/
theorem convert_agrees_with_check {disk : Disk Id} {now : Moment} (parser : SqlParser)
    (idOf : Nat → Text) {arguments : List Text} {quiet : Bool} {file content : Text}
    {given : Option Text} {optimization : Optimization}
    (hnow : (now.plus? (24 * 3600)).isSome = true)
    (harguments : Request.ofArguments arguments = .ok ⟨quiet, .convert file given⟩)
    (hfile : disk.read? file = some content)
    (hgiven : given.elim (.ok .balanced) Optimization.read = .ok optimization) :
    let output : Output := runArguments disk parser (.standard now idOf) arguments
    let report := checkSchema content
    (output.status = 0 ↔ report.isValid = true) ∧
    (report.isValid = true → ∃ c : Conversion,
      output = ⟨0, unlines [Wire.toText .indented c], []⟩ ∧
      (report.tables.length < 2 ^ 64 → Wire.ofText? output.out = some c) ∧
      c.status = .completed ∧ c.sqlContent = content ∧ c.optimization = optimization ∧
      c.tablesExtracted = report.tables.length ∧
      c.tablesExtracted = (Statement.all content).length ∧
      c.result = some (Settings.standard now idOf).design ∧ c.errorMessage = none) ∧
    (report.isValid = false → ∃ r : ErrorResponse,
      output = ⟨1, unlines [Wire.toText .indented r], []⟩ ∧
      Wire.ofText? output.out = some r ∧
      ((r.error = .emptySqlContent ∧ r.details = []) ↔ isAllBlank content = true) ∧
      (isAllBlank content = false → r.error = .invalidSqlSyntax ∧ r.details = report.errors ∧
        r.details.head?.map (·.message) = some r.message)) := by
  obtain ⟨expiry, hexpiry⟩ := Option.isSome_iff_exists.mp hnow
  intro output report
  have houtput : output = if isAllBlank content then refusalOutput .emptySqlContent
      else if !report.isValid then refusalOutput (.ofReport report)
      else ⟨0, unlines [Wire.toText .indented
        (completedConversion (.standard now idOf) expiry content optimization)], []⟩ := by
    rw [← convertOutput_eq (.standard now idOf) rfl hexpiry hgiven content]
    simp only [output, runArguments, harguments, Command.run]
    change (match disk.read? file with
      | none => (Failure.unreadable file).output
      | some content => convertOutput (.standard now idOf) content given) = _
    rw [hfile]
  cases hvalid : report.isValid with
  | true =>
    rw [if_neg (by simp [not_isAllBlank_of_isValid hvalid]), if_neg (by simp [hvalid])] at houtput
    refine ⟨by simp [houtput], fun _ => ⟨_, houtput, fun htables => ?_, rfl, rfl, rfl, rfl, ?_, rfl,
      rfl⟩, nofun⟩
    · rw [houtput]
      have hclock : (Settings.standard now idOf).now.plus?
          (Settings.standard now idOf).lifetime = some expiry := hexpiry
      exact (isExact_completedConversion hclock htables optimization).ofText?_unlines .indented
    · exact (forall₂_tables_of_isValid hvalid).length_eq.symm
  | false =>
    -- a refusal is read back whatever it says
    have hread (e : RequestError) : Wire.ofText? (refusalOutput e).out = some e.response :=
      (isExact_response e.response).ofText?_unlines .indented
    by_cases hblank : isAllBlank content = true
    · rw [if_pos hblank] at houtput
      refine ⟨by simp [houtput, refusalOutput], nofun, fun _ => ⟨_, houtput, ?_, ?_, ?_⟩⟩
      · rw [houtput, hread]
      · exact iff_of_true ⟨rfl, rfl⟩ hblank
      · simp [hblank]
    · rw [if_neg hblank, if_pos (by simp [hvalid])] at houtput
      have hcode : (RequestError.ofReport report).response.error = .invalidSqlSyntax := rfl
      have herrors : report.errors ≠ [] := by
        rwa [checkSchema_isValid, List.isEmpty_eq_false_iff] at hvalid
      refine ⟨by simp [houtput, refusalOutput], nofun, fun _ => ⟨_, houtput, ?_, ?_, fun _ => ?_⟩⟩
      · rw [houtput, hread]
      · exact iff_of_false (fun h => absurd (hcode.symm.trans h.1) (by decide)) hblank
      · exact ⟨hcode, rfl, head?_message_ofReport herrors⟩

/-- A request with an access pattern as a person writes it, for a schema of two tables. -/
theorem two_tables_converted :
    let content := "CREATE TABLE a (id INT PRIMARY KEY);\nCREATE TABLE b (id INT);".toList
    let disk := ((Node.file (some content)).put ["s.sql".toList] .empty).disk []
    let arguments := ["-q".toList, "convert".toList, "-o".toList, " Read_Heavy".toList,
      "s.sql".toList]
    let output : Output := runArguments disk .none (.standard ⟨0, 0⟩ decimal) arguments
    output.status = 0 ∧ ∃ c : Conversion, output.out = unlines [Wire.toText .indented c] ∧
      Wire.ofText? output.out = some c ∧ c.optimization = .readHeavy ∧
        c.tablesExtracted = (checkSchema content).tables.length := by
  intro content disk arguments output
  have hvalid : (checkSchema content).isValid = true := by decide +kernel
  have htables : (checkSchema content).tables.length < 2 ^ 64 := by decide +kernel
  have hnow : ((⟨0, 0⟩ : Moment).plus? (24 * 3600)).isSome = true := by decide +kernel
  have harguments : Request.ofArguments arguments =
      .ok ⟨true, .convert "s.sql".toList (some " Read_Heavy".toList)⟩ := rfl
  have hfile : disk.read? "s.sql".toList = some content := rfl
  have hgiven : (some " Read_Heavy".toList).elim (.ok .balanced) Optimization.read =
      .ok .readHeavy := by decide +kernel
  obtain ⟨hstatus, hconverted, -⟩ :=
    convert_agrees_with_check .none decimal hnow harguments hfile hgiven
  obtain ⟨c, houtput, hread, -, -, hoptimization, hcount, -⟩ := hconverted hvalid
  exact ⟨hstatus.mpr hvalid, c, congrArg Output.out houtput, hread htables, hoptimization, hcount⟩

end SchemaIntake
