import SendMeter.Proofs.Session.Registered

namespace SendMeter

/-- Fields that are put among others under keys of their own come after them. -/
theorem Json.merge_of_nodup {fields more : List (String × Json)}
    (h : ((fields ++ more).map (·.1)).Nodup) : Json.merge fields more = fields ++ more := by
  induction more generalizing fields with
  | nil => exact (List.append_nil fields).symm
  | cons field more ih =>
    have hnew : fields.any (·.1 == field.1) = false := by
      rw [← Bool.not_eq_true, List.any_eq_true]
      rintro ⟨other, hmem, heq⟩
      rw [List.map_append, List.map_cons, List.nodup_append] at h
      exact h.2.2 _ (List.mem_map_of_mem hmem) _ List.mem_cons_self (eq_of_beq heq)
    have hput : put fields field.1 field.2 = fields ++ [field] := by
      rw [put, hnew]
      rfl
    rw [List.append_cons] at h ⊢
    rw [merge, List.foldl_cons, hput]
    exact ih h

/-- What is told of a channel at a reading of the clock, in order, with the names that it has in
reports: its counts, its rates as they are read then, the share of its failures, and its durations
in milliseconds. -/
def Monitor.statistics {β : Type} (text : String → β) (count : Int → β) (number : Float → β)
    (m : Monitor Float) (sendRate errorRate now : Float) : List (String × β) :=
  [("name", text m.name),
    ("send_count", count m.tally.total),
    ("send_error_count", count m.tally.errors),
    ("time_since_last_send", number (m.sends.average.sinceLast now)),
    ("send_rate", number sendRate),
    ("error_rate", number errorRate),
    ("error_ratio", number m.outcomes.errorRatio),
    ("mean_send_duration_ms", number (m.durations.average.mean * 1000)),
    ("min_send_duration_ms", number (m.durations.minimum * 1000)),
    ("max_send_duration_ms", number (m.durations.maximum * 1000)),
    ("standard_deviation_send_duration_ms", number (m.durations.average.variance.sqrt * 1000))]

namespace Session

open Log

/-- The last report of a channel: a time stamp, the action, and data. -/
def closedRecord (stamp : Json) (data : List (String × Json)) : Record where
  level := .info
  logger := "channel_stats"
  message := (Json.object
    ([("timestamp", stamp), ("action", .text "CHANNEL_CLOSED")] ++ data ++
      [("last_updated", stamp)])).render

/-- The last word on a registry. -/
def closedSummary (channels : Nat) : Record :=
  registryRecord s!"Channel monitors shut down ({channels} channels)"

/-- What a channel reports when the registry is closed, with a row of statistics. -/
def reports (stamp : Json) (m : Monitor Float) (row : String × Fields) : List Record :=
  [Monitor.debugRecord (s!"Send duration for channel({m.name}): " ++ m.durations.summary),
    closedRecord stamp (row.2.map fun field => (field.1, field.2.toJson))]

variable {s : Session}

/-- The fields that are shown of a monitor are its statistics, if both of its rates can be read. -/
theorem fieldsOf_eq_ok_iff {m : Monitor Float} {fields : Fields} : s.fieldsOf m = .ok fields ↔
    ∃ sendRate errorRate, m.sendRate s.clock = .ok sendRate ∧ m.errorRate s.clock = .ok errorRate ∧
      fields = m.statistics .text .count .number sendRate errorRate s.clock := by
  have hreadings (m : Monitor Float) : (m.readings s.clock).sendRate = m.sendRate s.clock ∧
      (m.readings s.clock).errorRate = m.errorRate s.clock := ⟨rfl, rfl⟩
  unfold fieldsOf Monitor.snapshot
  simp only [hreadings]
  cases hsend : m.sendRate s.clock with
  | error e => simp [bind, Except.bind]
  | ok sendRate =>
    cases herror : m.errorRate s.clock with
    | error e => simp [bind, Except.bind]
    | ok errorRate =>
      constructor
      · intro h
        cases h
        exact ⟨sendRate, errorRate, rfl, rfl, rfl⟩
      · rintro ⟨_, _, hsame, hsame', rfl⟩
        cases hsame
        cases hsame'
        rfl

theorem closingRecords_of_fieldsOf {m : Monitor Float} {row : String × Fields}
    (h : s.fieldsOf m = .ok row.2) :
    m.closingRecords s.stamp s.clock = (reports s.stamp m row, none) := by
  obtain ⟨snapshot, hsnapshot, hfields⟩ | ⟨e, -, hfields⟩ := s.fieldsOf_cases m
  · have hrow := Except.ok.inj (h.symm.trans hfields)
    have hkeys : (([("timestamp", s.stamp), ("action", Json.text closedAction)] ++
        snapshot.report s.stamp).map (·.1)).Nodup := by
      simp [Snapshot.report, Snapshot.fields, Snapshot.takenAtField]
    have hline : statisticsLine s.stamp closedAction (snapshot.report s.stamp) =
        (closedRecord s.stamp (row.2.map fun field => (field.1, field.2.toJson))).message := by
      rw [statisticsLine, Json.merge_of_nodup hkeys, closedRecord, Snapshot.report, hrow,
        List.append_assoc]
      rfl
    unfold Monitor.closingRecords
    rw [hsnapshot]
    dsimp only
    rw [hline]
    rfl
  · rw [hfields] at h
    cases h

/-- Monitors that can be read report one after the other. -/
theorem closingRecords_eq {ms : List (Monitor Float)} {rows : List (String × Fields)}
    (h : List.Forall₂ (fun m row => s.fieldsOf m = .ok row.2) ms rows) :
    closingRecords s.stamp s.clock ms =
      ((List.zipWith (reports s.stamp) ms rows).flatten, none) := by
  induction h with
  | nil => rfl
  | cons hrow _ ih =>
    rw [closingRecords, closingRecords_of_fieldsOf hrow]
    dsimp only
    rw [ih]
    rfl

/-- What is left of the reports if what is for debugging is left out. -/
theorem filter_reports {stamp : Json} {keep : Record → Bool}
    (hdetail : ∀ message, keep (Monitor.debugRecord message) = false)
    (hclosed : ∀ data, keep (closedRecord stamp data) = true) {ms : List (Monitor Float)}
    {rows : List (String × Fields)} (h : ms.length = rows.length) :
    (List.zipWith (reports stamp) ms rows).flatten.filter keep =
      rows.map fun row => closedRecord stamp (row.2.map fun field => (field.1, field.2.toJson)) := by
  induction ms generalizing rows with
  | nil =>
    cases List.length_eq_zero_iff.mp h.symm
    rfl
  | cons m ms ih =>
    cases rows with
    | nil => cases h
    | cons row rows =>
      rw [List.zipWith_cons_cons, List.flatten_cons, List.filter_append, List.map_cons,
        ih (Nat.succ.inj h)]
      simp [reports, hdetail, hclosed]

/-- What is told of a monitor now, in a row of statistics and in a last report. -/
structure Told (s : Session) (m : Monitor Float) (row : String × Fields) (report : Record) :
    Prop where
  name : row.1 = m.name
  statistics : ∃ sendRate errorRate,
    m.sendRate s.clock = .ok sendRate ∧ m.errorRate s.clock = .ok errorRate ∧
    row.2 = m.statistics .text .count .number sendRate errorRate s.clock ∧
    report = closedRecord s.stamp (m.statistics .text .int .float sendRate errorRate s.clock)

theorem told_of_fieldsOf {m : Monitor Float} {row : String × Fields} (hname : m.name = row.1)
    (h : s.fieldsOf m = .ok row.2) :
    s.Told m row (closedRecord s.stamp (row.2.map fun field => (field.1, field.2.toJson))) := by
  obtain ⟨sendRate, errorRate, hsend, herror, hfields⟩ := fieldsOf_eq_ok_iff.mp h
  refine ⟨hname.symm, sendRate, errorRate, hsend, herror, hfields, ?_⟩
  rw [hfields]
  rfl

/-- When a registry is closed that any run has led to, and all its channels can be read, each channel
reports once, in the order of registration: the report of each channel, and its row in the statistics
of all channels, give the name, the counts, the rates, the share of failures and the durations of its
own monitor, as they are read at this time. The number of channels comes last. The registry is empty
then, closing it again reports on no channel, and all monitors are as they were. -/
theorem shutdown_reports_each_channel_once {clock : Float} {source : SettingsSource Float}
    {stamp : Json} {steps : List Step} {s : Session}
    (hs : s.registry = ((start clock source stamp).run steps).1.registry)
    (hread : ∀ m ∈ s.registry.registered, ∃ snapshot, m.snapshot s.clock = .ok snapshot) :
    ∃ rows reports records closed,
      s.simpleStep .allStats = ⟨s, .table rows, []⟩ ∧
      rows.map (·.1) = s.registry.names ∧ s.registry.names.Nodup ∧
      s.registry.registered.length = rows.length ∧ reports.length = rows.length ∧
      (∀ (i : Nat) (m : Monitor Float) (row : String × Fields) (report : Record),
        s.registry.registered[i]? = some m → rows[i]? = some row → reports[i]? = some report →
        s.Told m row report) ∧
      s.simpleStep .shutdown = ⟨closed, .nothing, records⟩ ∧
      (∀ threshold, threshold.severity ≤ Level.info.severity →
        records.filter (fun r => r.atLeast threshold && r.logger == "channel_stats") = reports) ∧
      records.filter (·.atLeast .info) = reports ++ [closedSummary rows.length] ∧
      closed = { s with registry := ⟨s.fleet, []⟩ } ∧
      closed.simpleStep .shutdown = ⟨closed, .nothing, [closedSummary 0]⟩ := by
  have hkept : s.registry.WellKept := hs ▸ wellKept_run clock source stamp steps
  obtain ⟨rows, hrows, hnames, hfields⟩ | ⟨m, hmem, e, he, -⟩ := simpleStep_allStats_cases hkept
  · have hlength : s.registry.registered.length = rows.length := hfields.length_eq
    have hsize : s.registry.size = rows.length := by
      rw [← List.length_map (·.1), hnames, Registry.names, List.length_map, Registry.size]
    refine ⟨rows,
      rows.map fun row => closedRecord s.stamp (row.2.map fun field => (field.1, field.2.toJson)),
      (List.zipWith (Session.reports s.stamp) s.registry.registered rows).flatten ++
        [closedSummary rows.length],
      _, hrows, hnames, hkept.nodup_names, hlength, List.length_map _, ?_, ?_, ?_, ?_, rfl, rfl⟩
    · intro i m row report hm hrow hreport
      rw [List.getElem?_map, hrow] at hreport
      obtain rfl := Option.some.inj hreport
      have hname : (s.registry.registered.map Monitor.name)[i]? = (rows.map (·.1))[i]? := by
        rw [hkept.registered_names, hnames]
      rw [List.getElem?_map, List.getElem?_map, hm, hrow] at hname
      obtain ⟨hlt, rfl⟩ := List.getElem?_eq_some_iff.mp hm
      obtain ⟨hlt', rfl⟩ := List.getElem?_eq_some_iff.mp hrow
      exact told_of_fieldsOf (Option.some.inj hname) (hfields.get hlt hlt')
    · show s.shutdown = _
      rw [shutdown, closingRecords_eq hfields, hsize]
      rfl
    · intro threshold hthreshold
      rw [List.filter_append, filter_reports ?_ ?_ hlength]
      · simp [closedSummary, registryRecord, registryLogger]
      · intro message
        simp [Monitor.debugRecord, monitorLogger]
      · intro data
        simp only [closedRecord, Record.atLeast, beq_self_eq_true, Bool.and_true]
        exact decide_eq_true hthreshold
    · rw [List.filter_append, filter_reports (fun _ => rfl) (fun _ => rfl) hlength]
      rfl
  · obtain ⟨snapshot, hsnapshot⟩ := hread m hmem
    rw [hsnapshot] at he
    cases he

/-- Two channels, one of which has a failed send behind it, and a monitor that is not registered. -/
def closing : List Step :=
  [.request .register "mail" none, .request .register "log" none, .newMonitor "aside" none none,
    .start "log" "first", .complete "log" "first" false none]

/-- The second channel reports its one send, which failed. -/
theorem shutdown_reports_each_channel_once_closing :
    ∃ s rows reports records closed,
      ((start 0 (fun _ => .ok Settings.standard) .null).run closing).1 = s ∧
      s.simpleStep .allStats = ⟨s, .table rows, []⟩ ∧ rows.map (·.1) = ["mail", "log"] ∧
      (∃ m row report, rows[1]? = some row ∧ reports[1]? = some report ∧ s.Told m row report ∧
        m.name = "log" ∧ m.tally = ⟨1, 1⟩) ∧
      s.simpleStep .shutdown = ⟨closed, .nothing, records⟩ ∧
      records.filter (·.atLeast .info) = reports ++ [closedSummary 2] ∧
      closed.registry.names = [] ∧ closed.fleet.monitors.length = 3 := by
  obtain ⟨s, hs⟩ : ∃ s, ((start 0 (fun _ => .ok Settings.standard) .null).run closing).1 = s :=
    ⟨_, rfl⟩
  have hread : s.registry.registered.all fun m => (m.snapshot s.clock).isOk := by
    rw [← hs]
    decide +kernel
  have hnames : s.registry.names = ["mail", "log"] := by
    rw [← hs]
    decide +kernel
  have hmonitors : s.fleet.monitors.length = 3 := by
    rw [← hs]
    decide +kernel
  have hsecond : s.registry.registered[1]?.map (fun m => (m.name, m.tally)) =
      some ("log", ⟨1, 1⟩) := by
    rw [← hs]
    decide +kernel
  obtain ⟨rows, reports, records, closed, hrows, hkeys, -, -, hlength, htold, hshutdown, -,
    hrecords, rfl, -⟩ :=
    shutdown_reports_each_channel_once (congrArg Session.registry hs.symm)
      fun m hmem => isOk_iff_exists.mp (List.all_eq_true.mp hread m hmem)
  have hrowsLength : rows.length = 2 := by
    rw [← List.length_map (·.1), hkeys, hnames]
    rfl
  obtain ⟨m, hm, hmonitor⟩ := Option.map_eq_some_iff.mp hsecond
  have hrow := List.getElem?_eq_getElem (show 1 < rows.length by omega)
  have hreport := List.getElem?_eq_getElem (show 1 < reports.length by omega)
  rw [hrowsLength] at hrecords
  exact ⟨s, rows, reports, records, _, hs, hrows, hkeys.trans hnames,
    ⟨m, _, _, hrow, hreport, htold 1 m _ _ hm hrow hreport, congrArg Prod.fst hmonitor,
      congrArg Prod.snd hmonitor⟩, hshutdown, hrecords, rfl, hmonitors⟩

end Session

end SendMeter
