import SheetExport.Call
import SheetExport.Proofs.StatementTables
import SheetExport.Proofs.Streaming

/-!
# Files that downloads go to

A download looks at its job before it touches the file under its path. Once it has emptied the
file, the file either gets the whole document or is removed, so a job that is done and whose result
is gone costs the caller the file that was there.
-/

namespace SheetExport

/-! ## Folders -/

namespace Folder

variable {f g : Folder} {path other name : String} {content : Bytes}

theorem lookup_without_self (f : Folder) (name : String) :
    (f.without name).files.lookup name = none := by
  rw [List.lookup_eq_none_iff]
  intro p hp
  have hne : (p.1 != name) = true := (List.mem_filter.1 hp).2
  exact bne_iff_ne.2 (bne_iff_ne.1 hne).symm

theorem lookup_without_other (h : other ≠ name) :
    (f.without name).files.lookup other = f.files.lookup other := by
  unfold without
  induction f.files with
  | nil => rfl
  | cons p rest ih =>
    obtain ⟨key, data⟩ := p
    by_cases hk : key = name
    · have hother : (other == key) = false := beq_false_of_ne (hk ▸ h)
      rw [List.filter_cons_of_neg (by simp [hk]), List.lookup_cons, hother]
      exact ih
    · rw [List.filter_cons_of_pos (by simp [hk]), List.lookup_cons, List.lookup_cons, ih]

theorem write?_eq_some :
    f.write? path content = some g ↔
      ∃ name, fileName? path = some name ∧ ⟨(name, content) :: (f.without name).files⟩ = g :=
  Option.map_eq_some_iff

theorem exists_write? (h : fileName? path = some name) (content : Bytes) :
    ∃ g, f.write? path content = some g :=
  ⟨_, write?_eq_some.2 ⟨name, h, rfl⟩⟩

theorem write?_eq_none : f.write? path content = none ↔ fileName? path = none :=
  Option.map_eq_none_iff

theorem read?_write?_self (h : f.write? path content = some g) : g.read? path = some content := by
  obtain ⟨name, hname, rfl⟩ := write?_eq_some.1 h
  simp only [read?, hname, Option.bind_some, List.lookup_cons_self]

theorem read?_write?_other (h : f.write? path content = some g)
    (ho : fileName? other ≠ fileName? path) : g.read? other = f.read? other := by
  obtain ⟨name, hname, rfl⟩ := write?_eq_some.1 h
  unfold read?
  cases hother : fileName? other with
  | none => rfl
  | some key =>
    have hne : key ≠ name := fun he => ho (by rw [hother, hname, he])
    rw [Option.bind_some, Option.bind_some, List.lookup_cons, beq_false_of_ne hne]
    exact lookup_without_other hne

theorem read?_remove_self (f : Folder) (path : String) : (f.remove path).read? path = none := by
  unfold read? remove
  cases fileName? path with
  | none => rfl
  | some name => exact lookup_without_self f name

theorem read?_remove_other (f : Folder) (ho : fileName? other ≠ fileName? path) :
    (f.remove path).read? other = f.read? other := by
  unfold read? remove
  cases hother : fileName? other with
  | none => rfl
  | some key =>
    cases hpath : fileName? path with
    | none => rfl
    | some name =>
      have hne : key ≠ name := fun he => ho (by rw [hother, hpath, he])
      exact lookup_without_other hne

end Folder

/-! ## Writers -/

namespace Csv.Writer

variable {w : Writer}

/-- The writer counts every byte that is in its sink, which takes everything. -/
structure Exact (w : Writer) : Prop where
  accepts : w.sink.Accepts
  bytes : w.stats.bytesWritten = w.sink.bytes.length

theorem Exact.took (h : w.Exact) (rows : Nat) (data : Bytes) : (w.took rows data).Exact where
  accepts := h.accepts.append data
  bytes := by
    simp only [Writer.took, Sink.append, List.length_append, h.bytes]

theorem record_ne_nil (format : Format) (cells : List Bytes) : format.record cells ≠ [] :=
  List.append_ne_nil_of_right_ne_nil _ (List.cons_ne_nil _ _)

theorem header_unlimited (format : Format) (names : List String) :
    ∃ w, (ofSink format .unlimited).header names = (w, .ok ()) ∧ w.Exact ∧
      w.sink.bytes ≠ [] ∧ w.stats.rowsWritten = 0 := by
  have haccepts : Sink.unlimited.Accepts := ⟨rfl, nofun⟩
  have hempty : Exact { ofSink format .unlimited with headerWritten := true } := ⟨haccepts, rfl⟩
  exact ⟨_, header_accepting haccepts rfl names, hempty.took 0 _, record_ne_nil format _, rfl⟩

end Csv.Writer

namespace Download

open Csv (Writer)
open Store (Table Row)

variable {w : Writer} {watch : Watch} {batch : Nat} {job : Uuid}

/-- What a writer has after some rows: more bytes, all of them counted. -/
structure Extends (w w' : Writer) : Prop where
  exact : w'.Exact
  bytes : w.sink.bytes <+: w'.sink.bytes

theorem Extends.refl (h : w.Exact) : Extends w w := ⟨h, List.prefix_rfl⟩

theorem Extends.trans {w₁ w₂ w₃ : Writer} (h : Extends w₁ w₂) (h' : Extends w₂ w₃) :
    Extends w₁ w₃ := ⟨h'.exact, h.bytes.trans h'.bytes⟩

theorem extends_took (h : w.Exact) (rows : Nat) (data : Bytes) : Extends w (w.took rows data) :=
  ⟨h.took rows data, List.prefix_append _ _⟩

theorem writeRow_extends (h : w.Exact) (row : Row) :
    Extends w (writeRow w row).1 ∧
      ((writeRow w row).2 = .ok () →
        (writeRow w row).1.stats.rowsWritten = w.stats.rowsWritten + 1) := by
  unfold writeRow
  cases rowCells row with
  | error fault => exact ⟨.refl h, nofun⟩
  | ok cells =>
    simp only [Csv.Writer.row_accepting h.accepts]
    exact ⟨extends_took h _ _, fun _ => rfl⟩

theorem writeRows_extends (rows : List Row) (written : Nat) (h : w.Exact) :
    Extends w (writeRows watch batch job written w rows).1 ∧
      ((writeRows watch batch job written w rows).2 = .ok () →
        (writeRows watch batch job written w rows).1.stats.rowsWritten =
          w.stats.rowsWritten + rows.length) := by
  induction rows generalizing w written with
  | nil => exact ⟨.refl h, fun _ => rfl⟩
  | cons row rest ih =>
    obtain ⟨hext, hcount⟩ := writeRow_extends h row
    unfold writeRows
    cases hrow : writeRow w row with
    | mk w' outcome =>
      rw [hrow] at hext hcount
      cases outcome with
      | error fault => exact ⟨hext, by rintro ⟨⟩⟩
      | ok u =>
        dsimp only
        split
        · obtain ⟨hrest, hrows⟩ := ih (written + 1) hext.exact
          refine ⟨hext.trans hrest, fun hok => ?_⟩
          rw [hrows hok, hcount rfl, List.length_cons, Nat.add_assoc, Nat.add_comm 1]
        · exact ⟨hext, by rintro ⟨⟩⟩

theorem writeTable_unlimited (format : Csv.Format) (t : Table) {w : Writer}
    {outcome : Except JobFault Csv.Stats}
    (h : writeTable watch batch job (.ofSink format .unlimited) t = (w, outcome)) :
    w.sink.bytes ≠ [] ∧ ∀ stats, outcome = .ok stats →
      stats.bytesWritten = w.sink.bytes.length ∧ stats.rowsWritten = t.rows.length := by
  obtain ⟨start, hheader, hexact, hline, hzero⟩ :=
    Csv.Writer.header_unlimited format (t.columns.map (·.name))
  unfold writeTable at h
  rw [hheader] at h
  dsimp only at h
  obtain ⟨hext, hcount⟩ := @writeRows_extends start watch batch job t.rows 0 hexact
  cases hrows : writeRows watch batch job 0 start t.rows with
  | mk w' rowsOutcome =>
    rw [hrows] at h hext hcount
    have hbytes : w'.sink.bytes ≠ [] := fun hnil =>
      hline (List.prefix_nil.1 (hnil ▸ hext.bytes))
    cases rowsOutcome with
    | error fault =>
      obtain ⟨rfl, rfl⟩ := Prod.mk.inj h
      exact ⟨hbytes, nofun⟩
    | ok u =>
      dsimp only at h
      rw [Csv.Writer.finish_accepting hext.exact.accepts] at h
      obtain ⟨rfl, rfl⟩ := Prod.mk.inj h
      refine ⟨hbytes, fun stats hstats => ?_⟩
      obtain rfl := Except.ok.inj hstats
      exact ⟨hext.exact.bytes, by rw [hcount rfl, hzero, Nat.zero_add]⟩

end Download

namespace Service

variable {s : Service} {id : Uuid} {job : Job}

/-- A finished job gives no byte at all exactly if its result is gone. -/
theorem download_finished (h : Download.finished s.store id = .ok job) :
    ((s.download id .unlimited).2.1.bytes = [] ↔ s.store.table? job.tables.result = none) ∧
      (s.store.table? job.tables.result = none →
        (s.download id .unlimited).2.2 = .error (.notFound job.id)) ∧
      ∀ stats, (s.download id .unlimited).2.2 = .ok stats →
        stats.bytesWritten = (s.download id .unlimited).2.1.bytes.length ∧
          ∃ t, s.store.table? job.tables.result = some t ∧ stats.rowsWritten = t.rows.length := by
  unfold download Download.run Download.runWith
  rw [h]
  dsimp only
  unfold Download.writeResult
  cases ht : s.store.table? job.tables.result with
  | none => exact ⟨iff_of_true rfl rfl, fun _ => rfl, nofun⟩
  | some t =>
    dsimp only
    generalize hw : Download.writeTable _ _ _ _ t = result
    obtain ⟨w, outcome⟩ := result
    obtain ⟨hbytes, hstats⟩ := Download.writeTable_unlimited s.format t hw
    refine ⟨iff_of_false hbytes (Option.some_ne_none t), nofun, fun stats hok => ?_⟩
    obtain ⟨hlength, hrows⟩ := hstats stats hok
    exact ⟨hlength, t, rfl, hrows⟩

end Service

/-! ## Downloads -/

namespace Host

variable {h : Host} {service : Service} {today : Date} {id : Uuid} {path : String}

theorem download_of_idle {fault : ServiceFault} (hs : h.engine.service = .error fault) :
    h.download today id path = (h, .error (.ofServiceFault fault)) := by
  unfold download
  rw [hs]

theorem download_of_unfinished {fault : JobFault} (hs : h.engine.service = .ok service)
    (hf : Download.finished service.store id = .error fault) :
    h.download today id path = (h, .error (.ofJobFault fault)) := by
  unfold download
  rw [hs]
  dsimp only
  rw [hf]

theorem download_of_nameless {job : Job} (hs : h.engine.service = .ok service)
    (hf : Download.finished service.store id = .ok job) (hp : Folder.fileName? path = none) :
    h.download today id path = (h, .error (.plain .fileError ("Cannot create " ++ path))) := by
  unfold download
  rw [hs]
  dsimp only
  rw [hf]
  dsimp only
  unfold downloadDone
  rw [Folder.write?_eq_none.2 hp]

theorem download_of_named {job : Job} {name : String} (hs : h.engine.service = .ok service)
    (hf : Download.finished service.store id = .ok job) (hp : Folder.fileName? path = some name)
    (today : Date) :
    ∃ folder, h.downloads.write? path [] = some folder ∧
      (∀ fault, (service.download id .unlimited).2.2 = .error fault →
        (h.download today id path).1.downloads = folder.remove path ∧
          (h.download today id path).2 = .error (.ofJobFault fault)) ∧
      ∀ stats, (service.download id .unlimited).2.2 = .ok stats →
        (h.download today id path).1.downloads =
            (folder.write? path (service.download id .unlimited).2.1.bytes).getD folder ∧
          (h.download today id path).2 =
            .ok (some (downloadJson (Job.fileName job.label today) path stats)) := by
  cases hw : h.downloads.write? path [] with
  | none =>
    rw [Folder.write?_eq_none, hp] at hw
    cases hw
  | some folder =>
    have hrun : h.download today id path = h.downloadDone service today id job path := by
      unfold download
      rw [hs]
      dsimp only
      rw [hf]
    rw [hrun]
    unfold downloadDone
    rw [hw]
    dsimp only
    generalize service.download id .unlimited = result
    obtain ⟨after, sink, outcome⟩ := result
    refine ⟨folder, rfl, fun fault hfault => ?_, fun stats hstats => ?_⟩
    · obtain rfl : outcome = .error fault := hfault
      exact ⟨rfl, rfl⟩
    · obtain rfl : outcome = .ok stats := hstats
      exact ⟨rfl, rfl⟩

theorem download_of_missing {job : Job} {name : String} (hs : h.engine.service = .ok service)
    (hf : Download.finished service.store id = .ok job) (hp : Folder.fileName? path = some name)
    (hgone : service.store.table? job.tables.result = none) (today : Date) :
    (service.download id .unlimited).2.1.bytes = [] ∧
      (h.download today id path).2 = .error (.ofJobFault (.notFound job.id)) ∧
      (h.download today id path).1.downloads.read? path = none := by
  obtain ⟨hbytes, hfault, -⟩ := Service.download_finished hf
  obtain ⟨folder, -, herror, -⟩ := download_of_named hs hf hp today
  obtain ⟨hdownloads, houtcome⟩ := herror _ (hfault hgone)
  refine ⟨hbytes.2 hgone, houtcome, ?_⟩
  rw [hdownloads]
  exact Folder.read?_remove_self folder path

/-- A download that finds no finished job, or no file to write to, changes nothing. Any other
changes no other file. It leaves what it wrote in the file, or no file if it fails, and then it
has written nothing exactly if the result of the job was missing. -/
theorem downloads_write_or_remove (h : Host) (today : Date) (id : Uuid) (path : String) :
    (∀ fault, h.engine.service = .error fault →
      h.download today id path = (h, .error (.ofServiceFault fault))) ∧
    ∀ service, h.engine.service = .ok service →
      (∀ fault, Download.finished service.store id = .error fault →
        h.download today id path = (h, .error (.ofJobFault fault))) ∧
      ∀ job, Download.finished service.store id = .ok job →
        (Folder.fileName? path = none →
          h.download today id path =
            (h, .error (.plain .fileError ("Cannot create " ++ path)))) ∧
        ∀ name, Folder.fileName? path = some name →
          (∀ other, Folder.fileName? other ≠ some name →
            (h.download today id path).1.downloads.read? other = h.downloads.read? other) ∧
          (∀ stats, (service.download id .unlimited).2.2 = .ok stats →
            (h.download today id path).2 =
                .ok (some (downloadJson (Job.fileName job.label today) path stats)) ∧
              (h.download today id path).1.downloads.read? path =
                some (service.download id .unlimited).2.1.bytes ∧
              stats.bytesWritten = (service.download id .unlimited).2.1.bytes.length ∧
              ∃ t, service.store.table? job.tables.result = some t ∧
                stats.rowsWritten = t.rows.length) ∧
          ∀ fault, (service.download id .unlimited).2.2 = .error fault →
            (h.download today id path).2 = .error (.ofJobFault fault) ∧
              (h.download today id path).1.downloads.read? path = none ∧
              ((service.download id .unlimited).2.1.bytes = [] ↔
                service.store.table? job.tables.result = none) := by
  refine ⟨fun fault hs => download_of_idle hs, fun service hs =>
    ⟨fun fault hf => download_of_unfinished hs hf, fun job hf =>
      ⟨fun hp => download_of_nameless hs hf hp, fun name hp => ?_⟩⟩⟩
  obtain ⟨folder, hfolder, herror, hok⟩ := download_of_named hs hf hp today
  obtain ⟨hbytes, -, hstats⟩ := Service.download_finished hf
  rw [← hp]
  refine ⟨fun other ho => ?_, fun stats hdone => ?_, fun fault hfault => ?_⟩
  · cases hresult : (service.download id .unlimited).2.2 with
    | error fault =>
      rw [(herror fault hresult).1, Folder.read?_remove_other folder ho]
      exact Folder.read?_write?_other hfolder ho
    | ok stats =>
      obtain ⟨written, hwritten⟩ :=
        Folder.exists_write? (f := folder) hp (service.download id .unlimited).2.1.bytes
      rw [(hok stats hresult).1, hwritten, Option.getD_some,
        Folder.read?_write?_other hwritten ho]
      exact Folder.read?_write?_other hfolder ho
  · obtain ⟨hdownloads, houtcome⟩ := hok stats hdone
    obtain ⟨hlength, hrows⟩ := hstats stats hdone
    obtain ⟨written, hwritten⟩ :=
      Folder.exists_write? (f := folder) hp (service.download id .unlimited).2.1.bytes
    rw [hdownloads, hwritten, Option.getD_some]
    exact ⟨houtcome, Folder.read?_write?_self hwritten, hlength, hrows⟩
  · obtain ⟨hdownloads, houtcome⟩ := herror fault hfault
    rw [hdownloads]
    exact ⟨houtcome, Folder.read?_remove_self folder path, hbytes⟩

/-! ## Two folders -/

def hostWith (store : Store) : Host :=
  ⟨⟨some ⟨.standard, Engine.serviceOf .standard store⟩⟩, ⟨[("x", bytesOf "keep me")]⟩⟩

/-- The day of the downloads. -/
def nextDay : Date := Download.doneJob.startTime.date.next

theorem fileName?_x : Folder.fileName? "x" = some "x" := by
  have hparts : "x".splitOn "/" = ["x"] := by simp +decide [String.splitOn, String.splitOnAux]
  unfold Folder.fileName?
  rw [hparts, Folder.withoutSelf]
  · decide
  · simp

theorem finished_of_find {s : Store} {id : Uuid} {job : Job}
    (h : Registry.find s id = .ok (some job)) (hd : job.status = .done) :
    Download.finished s id = .ok job :=
  Service.finished_eq_ok.2 ⟨Registry.get_eq_ok_iff_find.2 h, hd⟩

open Download (doneJob notes storeWith)

theorem downloads_write_or_remove_notes :
    ((hostWith (storeWith notes)).download nextDay doneJob.id "x").1.downloads.read? "x" =
      some (bytesOf "`ID,note\n1,a\n2,\n") := by
  have hfind := Download.find_storeWith notes
  have hlines : notes.rows.mapM (Download.texts? notes) =
      some [[bytesOf "1", bytesOf "a"], [bytesOf "2", []]] := by decide +kernel
  have haccepts : Sink.unlimited.Accepts := ⟨rfl, nofun⟩
  have hrun := Download.run_document hfind rfl (t := notes) rfl rfl ⟨by decide, by decide⟩ hlines
    1000 .standard haccepts
  obtain ⟨-, hservice⟩ :=
    downloads_write_or_remove (hostWith (storeWith notes)) nextDay doneJob.id "x"
  obtain ⟨-, hfinished⟩ := hservice _ rfl
  obtain ⟨-, hnamed⟩ := hfinished doneJob (finished_of_find hfind rfl)
  obtain ⟨-, hwritten, -⟩ := hnamed "x" fileName?_x
  obtain ⟨-, hfile, -⟩ := hwritten _ (congrArg Prod.snd hrun)
  have hdocument :
      Download.document .standard notes [[bytesOf "1", bytesOf "a"], [bytesOf "2", []]] =
      bytesOf "`ID,note\n1,a\n2,\n" := by decide +kernel
  rw [hfile]
  exact (congrArg (fun r => some r.1.bytes) hrun).trans (congrArg some hdocument)

/-! ## A result that was dropped -/

open Service (site firstTicket posts)

/-- What the site holds once its posts are exported. -/
def exported : Store := (site.submit firstTicket posts 7).1.store

/-- The result of the export is dropped from outside. -/
def resultless : Store := exported.dropQuietly (JobTables.ofSuffix site.schema "a1").result

theorem validate_posts : posts.validate = .ok ⟨"post", [⟨.fixed, "ID", ""⟩], []⟩ := by decide

theorem exported_done :
    (Download.finished exported firstTicket.id).map Job.tables =
        .ok (.ofSuffix site.schema "a1") ∧
      (exported.table? (JobTables.ofSuffix site.schema "a1").result).isSome = true ∧
      ((Download.finished resultless firstTicket.id).map fun j => (j.id, j.tables)) =
        .ok (firstTicket.id, .ofSuffix site.schema "a1") ∧
      resultless.table? (JobTables.ofSuffix site.schema "a1").result = none := by
  have hnames : (Schema.entityType ⟨"wp_"⟩ "post").PlainNames (Schema.tagTables ⟨"wp_"⟩)
      (.ofSuffix ⟨"wp_"⟩ "a1") := ⟨by decide, by decide, by decide, by decide⟩
  have hplain := Plan.plain_statements hnames (by decide) (by decide)
    (by decide : ∀ f ∈ [Field.mk .fixed "ID" ""], Plain f.name ∧ Plain f.label)
    (fun _ hm => absurd hm List.not_mem_nil) firstTicket.id
  unfold resultless exported
  rw [Service.submit_of_plain (s := site) validate_posts rfl hplain]
  decide +kernel

/-- The export is done, and its result was there until it was dropped. -/
theorem missing_result_costs_file :
    (Download.finished exported firstTicket.id).map Job.tables =
        .ok (.ofSuffix site.schema "a1") ∧
      (exported.table? (JobTables.ofSuffix site.schema "a1").result).isSome = true ∧
      (hostWith resultless).downloads.read? "x" = some (bytesOf "keep me") ∧
      ((Engine.serviceOf .standard resultless).download firstTicket.id .unlimited).2.1.bytes = [] ∧
      ((hostWith resultless).download nextDay firstTicket.id "x").2 =
        .error (.ofJobFault (.notFound firstTicket.id)) ∧
      ((hostWith resultless).download nextDay firstTicket.id "x").1.downloads.read? "x" =
        none := by
  obtain ⟨hexported, hresult, hdone, hgone⟩ := exported_done
  obtain ⟨job, hdone, hjob⟩ := exists_of_map_eq_ok hdone
  obtain ⟨hid, htables⟩ := Prod.mk.inj hjob
  have hmissing : resultless.table? job.tables.result = none := htables ▸ hgone
  obtain ⟨hbytes, houtcome, hfile⟩ := @download_of_missing (hostWith resultless)
    (Engine.serviceOf .standard resultless) _ _ job _ rfl hdone fileName?_x hmissing nextDay
  rw [hid] at houtcome
  refine ⟨hexported, hresult, ?_, hbytes, houtcome, hfile⟩
  simp only [Folder.read?, fileName?_x, hostWith, Option.bind_some, List.lookup_cons_self]

end Host

end SheetExport
