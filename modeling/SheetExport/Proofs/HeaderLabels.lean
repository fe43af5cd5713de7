import SheetExport.Proofs.ColumnNames
import SheetExport.Proofs.StatementTables
import SheetExport.Proofs.Streaming
import SheetExport.Proofs.Submissions

/-!
# What the header of a download shows

The header of a file shows the names of the columns of a result. A label is the name of its column
unless it is a word for truth or the name of a column before it, so a header shows the labels that
were asked for exactly if no two of them are alike and none is such a word.
-/

namespace SheetExport

open Store (Table Row)
open Sql (Statement)
open Text (sameName lowerAscii)

/-! ## Names from labels -/

namespace Store

theorem columnNames_append (drawn : List (List UInt32)) (labels : List String) (label : String) :
    columnNames drawn (labels ++ [label]) = columnNames drawn labels ++
      [freshName (drawn.getD labels.length []) (columnNames drawn labels) 0
        (triesFor (drawn.getD labels.length []) (columnNames drawn labels))
        (columnName labels.length label)] := by
  unfold columnNames
  rw [List.zipIdx_append, List.foldl_append, Nat.zero_add]
  rfl

/-- What may name the column of a label: what stands for the label, or that with a number. -/
def Stands (index : Nat) (label name : String) : Prop :=
  name = columnName index label ∨
    ∃ k, name = withNumber (withoutNumber (columnName index label)) k

theorem freshName_cases (drawn : List UInt32) (taken : List String) (count fuel : Nat)
    (name : String) :
    freshName drawn taken count fuel name = name ∨
      ∃ k, freshName drawn taken count fuel name = withNumber (withoutNumber name) k := by
  induction fuel generalizing count name with
  | zero => exact .inl rfl
  | succ fuel ih =>
    rw [freshName]
    split
    · change freshName drawn taken (count + 1) fuel
          (withNumber (withoutNumber name) (tryNumber drawn count)) = _ ∨
        ∃ k, freshName drawn taken (count + 1) fuel
          (withNumber (withoutNumber name) (tryNumber drawn count)) = _
      obtain h | ⟨k, h⟩ :=
        ih (count + 1) (withNumber (withoutNumber name) (tryNumber drawn count))
      · exact .inr ⟨_, h⟩
      · rw [withoutNumber_withNumber] at h
        exact .inr ⟨k, h⟩
    · exact .inl rfl

theorem freshName_of_free {taken : List String} {name : String} (h : ¬ Taken taken name)
    (drawn : List UInt32) (count fuel : Nat) :
    freshName drawn taken count fuel name = name := by
  cases fuel with
  | zero => rfl
  | succ fuel => rw [freshName, if_neg (mt any_sameName.1 h)]

def IsTruthWord (label : String) : Prop := sameName label "true" ∨ sameName label "false"

instance (label : String) : Decidable (IsTruthWord label) := inferInstanceAs (Decidable (_ ∨ _))

theorem columnName_of_not {label : String} (h : ¬ IsTruthWord label) (index : Nat) :
    columnName index label = label :=
  if_neg h

theorem withoutNumber_column (n : Nat) :
    withoutNumber ("column" ++ toString n) = "column" ++ toString n := by
  have hdigits : ∀ c ∈ (toString n).toList.reverse, c.isDigit = true :=
    fun c hc => isDigit_of_mem_toString (List.mem_reverse.1 hc)
  have hlist : ("column" ++ toString n).toList.reverse.dropWhile Char.isDigit =
      "column".toList.reverse := by
    rw [String.toList_append, List.reverse_append, List.dropWhile_append_of_pos hdigits]
    decide
  unfold withoutNumber
  rw [hlist]
  rfl

theorem Stands.ne_of_truthWord {index : Nat} {label name : String} (h : Stands index label name)
    (hl : IsTruthWord label) : name ≠ label := by
  have hcolumn (rest : String) : (lowerAscii ("column" ++ rest)).toList.head? = some 'c' := by
    rw [toList_lowerAscii, String.toList_append]
    rfl
  have hname : (lowerAscii name).toList.head? = some 'c' := by
    rw [Stands, show columnName index label = "column" ++ toString (index + 1) from if_pos hl,
      withoutNumber_column] at h
    obtain rfl | ⟨k, rfl⟩ := h
    · exact hcolumn _
    · rw [withNumber, String.append_assoc, String.append_assoc]
      exact hcolumn _
  rintro rfl
  rcases hl with hl | hl
  · rw [sameName_iff.1 hl] at hname
    exact absurd hname (by decide)
  · rw [sameName_iff.1 hl] at hname
    exact absurd hname (by decide)

/-- The columns of a result with their labels: a name for each label, no two alike, and all of them
the labels exactly if these can be names together. -/
structure NamesFor (labels names : List String) : Prop where
  length : names.length = labels.length
  distinct : (names.map lowerAscii).Nodup
  stands : ∀ i label name, labels[i]? = some label → names[i]? = some name → Stands i label name
  same : names = labels ↔
    (labels.map lowerAscii).Nodup ∧ ∀ label ∈ labels, ¬ IsTruthWord label

theorem stands_columnNames (drawn : List (List UInt32)) (labels : List String) :
    ∀ i label name, labels[i]? = some label →
      (columnNames drawn labels)[i]? = some name → Stands i label name := by
  induction labels using List.reverseRecOn with
  | nil => exact fun i label name h _ => absurd h (by simp)
  | append_singleton labels last ih =>
    intro i label name hlabel hname
    have hlength := length_columnNames drawn labels
    rw [columnNames_append] at hname
    by_cases hi : i < labels.length
    · rw [List.getElem?_append_left hi] at hlabel
      rw [List.getElem?_append_left (by omega)] at hname
      exact ih i label name hlabel hname
    · rw [List.getElem?_append_right (by omega), List.getElem?_singleton] at hlabel hname
      split at hlabel
      · rename_i h0
        have hi : i = labels.length := by omega
        subst hi
        rw [if_pos (by omega)] at hname
        obtain rfl := Option.some.inj hlabel
        obtain rfl := Option.some.inj hname
        exact freshName_cases ..
      · exact absurd hlabel (by simp)

theorem columnNames_eq {labels : List String} (hd : (labels.map lowerAscii).Nodup)
    (hw : ∀ label ∈ labels, ¬ IsTruthWord label) (drawn : List (List UInt32)) :
    columnNames drawn labels = labels := by
  induction labels using List.reverseRecOn with
  | nil => rfl
  | append_singleton labels last ih =>
    obtain ⟨hw, hlast⟩ := List.forall_mem_append.1 hw
    rw [List.map_append, List.map_singleton, List.nodup_append] at hd
    obtain ⟨hd, -, hne⟩ := hd
    have hfree : ¬ Taken labels last :=
      fun hmem => hne _ hmem _ (List.mem_singleton_self _) rfl
    rw [columnNames_append, ih hd hw, columnName_of_not (hlast last (List.mem_singleton_self _)),
      freshName_of_free hfree]

theorem namesFor_columnNames (drawn : List (List UInt32)) (labels : List String) :
    NamesFor labels (columnNames drawn labels) where
  length := length_columnNames drawn labels
  distinct := nodup_columnNames drawn labels
  stands := stands_columnNames drawn labels
  same := by
    refine ⟨fun he => ⟨?_, fun label hmem hword => ?_⟩, fun h => columnNames_eq h.1 h.2 drawn⟩
    · have hd := nodup_columnNames drawn labels
      rwa [he] at hd
    · obtain ⟨i, hi⟩ := List.mem_iff_getElem?.1 hmem
      have hstands := stands_columnNames drawn labels i label label hi (by rw [he]; exact hi)
      exact hstands.ne_of_truthWord hword rfl

end Store

/-! ## Batches and their results -/

namespace Batch

variable {s : Store} {o : Store.Occasion} {id : Uuid}

theorem names_result {schema : Schema} {typeName : String} {fields : List Field}
    {filters : List Filter} {suffix : String} {plan : Plan}
    (hc : Plan.compile schema typeName fields filters (.ofSuffix schema suffix) = .ok plan)
    (hfree : s.table? (JobTables.ofSuffix schema suffix).result = none) {t : Table}
    (ht : (run s o id (plan.statements id)).table? (JobTables.ofSuffix schema suffix).result =
      some t) :
    t.columns.map (·.name) = Store.columnNames o.drawn (fields.map Field.label) := by
  obtain ⟨-, parts, -, rfl⟩ := Plan.compile_eq_ok.1 hc
  have hs := JobTables.separate_ofSuffix schema suffix
  refine run_induction (motive := fun s => ∀ t,
    s.table? (JobTables.ofSuffix schema suffix).result = some t →
      t.columns.map (·.name) = Store.columnNames o.drawn (fields.map Field.label)) ?_ ?_ t ht
  · intro statement hmem s s' hrun hmotive t ht
    have kept (hw : sameName statement.written (JobTables.ofSuffix schema suffix).result = false) :
        t.columns.map (·.name) = Store.columnNames o.drawn (fields.map Field.label) := by
      rw [Store.table?_run?_other hrun hw] at ht
      exact hmotive t ht
    obtain ⟨status, rfl⟩ | rfl | rfl | rfl | rfl := Plan.statement_cases hmem
    · exact kept hs.result
    · exact kept hs.two
    · exact kept hs.two
    · rw [Store.table?_createResult hrun] at ht
      obtain rfl := Option.some.inj ht
      rw [Store.names_resultTable, Store.labels_projection]
    · exact kept hs.two
  · intro t ht
    rw [hfree] at ht
    exact absurd ht (by simp)

end Batch

/-! ## Results that nobody else writes -/

/-- A table that has the name afterwards had it before, and is as it was. -/
def Store.NothingNew (name : String) (s s' : Store) : Prop :=
  ∀ t, s'.table? name = some t → s.table? name = some t

theorem Store.NothingNew.refl (name : String) (s : Store) : s.NothingNew name s := fun _ h => h

theorem Store.NothingNew.trans {name : String} {s s' s'' : Store} (h : Store.NothingNew name s s')
    (h' : Store.NothingNew name s' s'') : Store.NothingNew name s s'' :=
  fun t ht => h t (h' t ht)

theorem Store.NothingNew.of_eq {name : String} {s s' : Store}
    (h : s'.table? name = s.table? name) : Store.NothingNew name s s' :=
  fun _ ht => h ▸ ht

namespace Registry

variable {s s' : Store} {name : String} {id : Uuid} {job : Job}

theorem nothingNew_create (hn : sameName Sql.jobsTable name = false)
    (h : create s job = .ok s') : Store.NothingNew name s s' := by
  unfold create at h
  cases hi : s.insert? Sql.jobsTable (cells job) with
  | none =>
    rw [hi] at h
    exact absurd h (by simp [orRejected])
  | some s'' =>
    rw [hi] at h
    obtain rfl := Except.ok.inj h
    obtain ⟨t, u, ht, hu, rfl⟩ := Store.insert?_eq_some.1 hi
    have hname : sameName u.name Sql.jobsTable = true := by
      rw [Store.name_insert? hu]
      exact Store.name_of_table? ht
    exact .of_eq (Store.table?_replace_other hname hn)

theorem nothingNew_delete (hn : sameName Sql.jobsTable name = false)
    (h : delete s id = .ok s') : Store.NothingNew name s s' := by
  unfold delete at h
  cases hg : get s id with
  | error fault =>
    rw [hg] at h
    exact absurd h (by simp [bind, Except.bind])
  | ok job =>
    obtain ⟨t, ht, hrow⟩ := deleteRow_of_get hg
    rw [hg] at h
    dsimp only [bind, Except.bind] at h
    rw [hrow] at h
    obtain rfl := Except.ok.inj h
    intro u hu
    have hname : sameName (t.remove [("id", .text id.text)]).1.name Sql.jobsTable = true :=
      Store.name_of_table? (t := t) ht
    have hkept := table?_of_dropQuietly (table?_of_dropQuietly hu)
    rwa [Store.table?_replace_other hname hn] at hkept

theorem nothingNew_deleteEach (hn : sameName Sql.jobsTable name = false) (ids : List Uuid)
    (s : Store) (count : Nat) : Store.NothingNew name s (deleteEach s count ids).1 := by
  induction ids generalizing s count with
  | nil => exact .refl name s
  | cons id ids ih =>
    unfold deleteEach
    split
    · exact (nothingNew_delete hn ‹_›).trans (ih _ _)
    · exact ih _ _
    · exact .refl name s

end Registry

namespace Service

variable {s : Service} {name : String}

theorem nothingNew_submit (ticket : Ticket) (r : Request) (owner : Int)
    (hr : sameName Sql.jobsTable name = false)
    (hn : ¬ (JobTables.ofSuffix s.schema ticket.suffix).Names name) :
    s.store.NothingNew name (s.submit ticket r owner).1.store := by
  obtain ⟨hscratch, hresult⟩ := JobTables.not_names.1 hn
  unfold submit
  split
  · exact .refl name s.store
  · rename_i e he
    unfold submitExport
    split
    · exact .refl name s.store
    · rename_i plan hc
      obtain ⟨-, parts, -, rfl⟩ := Plan.compile_eq_ok.1 hc
      split
      · exact .refl name s.store
      · rename_i store hcreate
        refine (Registry.nothingNew_create hr hcreate).trans (Batch.run_induction
          (motive := store.NothingNew name) (fun statement hmem mid mid' hrun h => ?_)
          (.refl name store))
        refine h.trans (.of_eq (Store.table?_run?_other hrun ?_))
        obtain ⟨status, rfl⟩ | rfl | rfl | rfl | rfl := Plan.statement_cases hmem
        · exact hr
        · exact hscratch
        · exact hscratch
        · exact hresult
        · exact hscratch

theorem nothingNew_download (id : Uuid) (sink : Sink) (hr : sameName Sql.jobsTable name = false) :
    s.store.NothingNew name (s.download id sink).1.store := by
  change s.store.NothingNew name (Download.run s.batchSize s.format s.store id sink).1
  unfold Download.run Download.runWith
  split
  · exact .refl name s.store
  · dsimp only [Download.Watch.ofStore]
    split
    · exact Registry.nothingNew_delete hr ‹_›
    · exact .refl name s.store

/-- A call writes no table but those of the tickets it draws and the registry. -/
theorem nothingNew_after (a : Action) (hr : sameName Sql.jobsTable name = false)
    (hn : ∀ t ∈ a.draws, ¬ (JobTables.ofSuffix s.schema t.suffix).Names name) :
    s.store.NothingNew name (s.after a).store := by
  cases a with
  | submit ticket r owner =>
    exact nothingNew_submit ticket r owner hr (hn ticket (List.mem_singleton_self _))
  | get id => exact .refl name s.store
  | list owner => exact .refl name s.store
  | delete id =>
    change s.store.NothingNew name (s.deleteJob id).1.store
    unfold deleteJob
    split
    · exact Registry.nothingNew_delete hr ‹_›
    · exact .refl name s.store
  | download id sink => exact nothingNew_download id sink hr
  | purge =>
    change s.store.NothingNew name (Registry.deleteAll s.store).1
    unfold Registry.deleteAll
    split
    · exact Registry.nothingNew_deleteEach hr _ s.store 0
    · exact .refl name s.store

theorem nothingNew_afterAll (actions : List Action) (hr : sameName Sql.jobsTable name = false)
    (hn : ∀ t ∈ tickets actions, ¬ (JobTables.ofSuffix s.schema t.suffix).Names name) :
    s.store.NothingNew name (s.afterAll actions).store := by
  induction actions generalizing s with
  | nil => exact .refl name s.store
  | cons a actions ih =>
    rw [tickets_cons] at hn
    obtain ⟨hfirst, hrest⟩ := List.forall_mem_append.1 hn
    rw [afterAll_cons]
    refine (nothingNew_after a hr hfirst).trans (ih fun t ht => ?_)
    rw [schema_after]
    exact hrest t ht

end Service

/-! ## What a download has written -/

theorem Sink.write_eq_ok {s s' : Sink} {data : Bytes} (h : s.write data = (s', .ok ())) :
    s' = s.append data := by
  fun_induction Sink.write s data with
  | case1 s data hd =>
    rw [List.isEmpty_iff.1 hd, append_nil]
    exact (congrArg Prod.fst h).symm
  | case2 s data _ _ => exact absurd (congrArg Prod.snd h) (by simp)
  | case3 s data _ _ n _ ih => rw [ih h, append_append, List.take_append_drop]
  | case4 s data _ _ n _ => exact absurd (congrArg Prod.snd h) (by simp)

namespace Csv.Writer

variable {w w' : Writer}

theorem record_eq_ok {cells : List Bytes} (h : w.record cells = (w', .ok ())) :
    w'.sink = w.sink.append (w.format.record cells) := by
  unfold record at h
  dsimp only at h
  split at h
  · rename_i sink hwrite
    obtain rfl := congrArg Prod.fst h
    exact Sink.write_eq_ok hwrite
  · exact absurd (congrArg Prod.snd h) (by simp)

theorem row_eq_ok {cells : List Bytes} (h : w.row cells = (w', .ok ())) :
    ∃ data, w'.sink = w.sink.append data := by
  unfold row at h
  split at h
  · rename_i mid hrecord
    have hsink : w'.sink = mid.sink := (congrArg (fun x => x.1.sink) h).symm
    exact ⟨_, hsink.trans (record_eq_ok hrecord)⟩
  · exact absurd (congrArg Prod.snd h) (by simp)

theorem header_eq_ok {names : List String} (hw : w.headerWritten = false)
    (h : w.header names = (w', .ok ())) :
    w'.sink = w.sink.append (w.format.record ((headerCells names).map bytesOf)) := by
  unfold header at h
  rw [hw, if_neg Bool.false_ne_true] at h
  exact record_eq_ok (w := { w with headerWritten := true }) h

end Csv.Writer

namespace Download

variable {watch : Watch} {batch : Nat} {job : Uuid} {w w' : Csv.Writer}

theorem writeRow_eq_ok {row : Row} (h : writeRow w row = (w', .ok ())) :
    ∃ data, w'.sink = w.sink.append data := by
  unfold writeRow at h
  split at h
  · exact absurd (congrArg Prod.snd h) (by simp)
  · rename_i cells hcells
    cases hrow : w.row cells with
    | mk mid outcome =>
      rw [hrow] at h
      cases outcome with
      | error fault => exact absurd (congrArg Prod.snd h) (by simp [Except.mapError])
      | ok u =>
        obtain rfl : mid = w' := congrArg Prod.fst h
        exact Csv.Writer.row_eq_ok hrow

theorem writeRows_eq_ok {written : Nat} {rows : List Row}
    (h : writeRows watch batch job written w rows = (w', .ok ())) :
    ∃ data, w'.sink = w.sink.append data := by
  induction rows generalizing w written with
  | nil =>
    obtain rfl : w = w' := congrArg Prod.fst h
    exact ⟨[], (Sink.append_nil _).symm⟩
  | cons row rows ih =>
    unfold writeRows at h
    split at h
    · exact absurd (congrArg Prod.snd h) (by simp)
    · rename_i mid hrow
      split at h
      · obtain ⟨first, hfirst⟩ := writeRow_eq_ok hrow
        obtain ⟨rest, hrest⟩ := ih h
        exact ⟨first ++ rest, by rw [hrest, hfirst, Sink.append_append]⟩
      · exact absurd (congrArg Prod.snd h) (by simp)

theorem writeTable_eq_ok {t : Table} {stats : Csv.Stats} (hw : w.headerWritten = false)
    (h : writeTable watch batch job w t = (w', .ok stats)) :
    ∃ rest, w'.sink = w.sink.append (w.format.record (headerOf t) ++ rest) := by
  unfold writeTable at h
  split at h
  · exact absurd (congrArg Prod.snd h) (by simp)
  · rename_i mid hheader
    split at h
    · exact absurd (congrArg Prod.snd h) (by simp)
    · rename_i last hrows
      obtain ⟨rest, hrest⟩ := writeRows_eq_ok hrows
      have hfirst := Csv.Writer.header_eq_ok hw hheader
      obtain rfl : last = w' := congrArg Prod.fst h
      refine ⟨rest, ?_⟩
      rw [hrest, hfirst, Sink.append_append]
      rfl

theorem run_eq_ok {s : Store} {id : Uuid} {j : Job} {format : Csv.Format} {sink : Sink}
    {stats : Csv.Stats} (hj : Registry.get s id = .ok j)
    (h : (run batch format s id sink).2.2 = .ok stats) :
    ∃ t rest, s.table? j.tables.result = some t ∧
      (run batch format s id sink).2.1 = sink.append (format.record (headerOf t) ++ rest) := by
  unfold run runWith at h ⊢
  cases hf : finished s id with
  | error fault =>
    rw [hf] at h
    exact absurd h (by simp)
  | ok job =>
    rw [hf] at h
    obtain ⟨hget, -⟩ := Service.finished_eq_ok.1 hf
    rw [hj] at hget
    obtain rfl := Except.ok.inj hget
    dsimp only at h ⊢
    unfold writeResult at h ⊢
    cases ht : s.table? j.tables.result with
    | none =>
      rw [ht] at h
      exact absurd h (by simp)
    | some t =>
      rw [ht] at h
      dsimp only at h ⊢
      obtain ⟨rest, hrest⟩ := writeTable_eq_ok (w := .ofSink format sink) rfl (Prod.ext rfl h)
      exact ⟨t, rest, rfl, hrest⟩

end Download

/-! ## Headers -/

namespace Service

theorem names_submit {s : Service} {ticket : Ticket} {r : Request} {e : Export} {owner : Int}
    (hv : r.validate = .ok e)
    (hfree : s.store.table? (JobTables.ofSuffix s.schema ticket.suffix).result = none) {t : Table}
    (ht : (s.submit ticket r owner).1.store.table?
      (JobTables.ofSuffix s.schema ticket.suffix).result = some t) :
    t.columns.map (·.name) =
      Store.columnNames ticket.occasion.drawn (e.fields.map Field.label) := by
  have hs := JobTables.separate_ofSuffix s.schema ticket.suffix
  have nothing {u : Table} (hu : s.store.table? (JobTables.ofSuffix s.schema ticket.suffix).result =
      some u) : False := by
    rw [hfree] at hu
    exact absurd hu (by simp)
  cases hc : s.compile ticket e with
  | error fault =>
    rw [submit_uncompiled hv hc] at ht
    exact (nothing ht).elim
  | ok plan =>
    cases hcreate : Registry.create s.store (jobOf plan ticket owner) with
    | error fault =>
      simp only [submit, hv, submitExport, hc, hcreate] at ht
      exact (nothing ht).elim
    | ok store =>
      simp only [submit, hv, submitExport, hc, hcreate] at ht
      have hnone : store.table? (JobTables.ofSuffix s.schema ticket.suffix).result = none := by
        cases hu : store.table? (JobTables.ofSuffix s.schema ticket.suffix).result with
        | none => rfl
        | some u => exact (nothing (Registry.nothingNew_create hs.result hcreate u hu)).elim
      unfold compile at hc
      exact Batch.names_result hc hnone ht

theorem download_eq_ok {s : Service} {id : Uuid} {j : Job} (hj : s.getJob id = .ok j)
    {sink : Sink} {stats : Csv.Stats} (hd : (s.download id sink).2.2 = .ok stats) :
    ∃ t rest, s.store.table? j.tables.result = some t ∧ (s.download id sink).2.1 =
      sink.append (s.format.record (Download.headerOf t) ++ rest) :=
  Download.run_eq_ok hj hd

/-- Whatever else is called after a submission, a download of its job that succeeds first writes
one cell for each field of the request. These are the labels of the fields exactly if no two of
them are alike and none is a truth word. -/
theorem header_names_labels {s s' : Service} {ticket : Ticket} {r : Request} {e : Export}
    {owner : Int} (hv : r.validate = .ok e)
    (hfree : s.store.table? (JobTables.ofSuffix s.schema ticket.suffix).result = none)
    {later : List Action} (happart : ∀ t ∈ tickets later, Apart ticket t)
    (hs' : s' = (s.submit ticket r owner).1.afterAll later) {id : Uuid} {j : Job}
    (hj : s'.getJob id = .ok j) (htables : j.tables = .ofSuffix s.schema ticket.suffix)
    {sink : Sink} {stats : Csv.Stats} (hd : (s'.download id sink).2.2 = .ok stats) :
    ∃ names rest, Store.NamesFor (e.fields.map Field.label) names ∧
      (s'.download id sink).2.1 = sink.append
        (s'.format.record ((Csv.headerCells names).map bytesOf) ++ rest) := by
  have hs := JobTables.separate_ofSuffix s.schema ticket.suffix
  obtain ⟨t, rest, ht, hwritten⟩ := download_eq_ok hj hd
  have hkept : (s.submit ticket r owner).1.store.table?
      (JobTables.ofSuffix s.schema ticket.suffix).result = some t := by
    rw [htables, hs'] at ht
    refine nothingNew_afterAll later hs.result (fun u hu => ?_) t ht
    rw [schema_submit, JobTables.not_names, JobTables.scratch_ne_result,
      JobTables.sameName_result, sameName_comm]
    exact ⟨rfl, happart u hu⟩
  have hheader : Download.headerOf t =
      (Csv.headerCells (Store.columnNames ticket.occasion.drawn
        (e.fields.map Field.label))).map bytesOf := by
    rw [← names_submit hv hfree hkept]
    rfl
  rw [hheader] at hwritten
  exact ⟨_, rest, Store.namesFor_columnNames .., hwritten⟩

/-! ## One label twice -/

def twice : Request := ⟨"post", [⟨"default.ID", "T"⟩, ⟨"default.ID", "T"⟩], []⟩

def twiceSite : Service := (site.submit firstTicket twice 7).1

theorem validate_twice :
    twice.validate = .ok ⟨"post", [⟨.fixed, "ID", "T"⟩, ⟨.fixed, "ID", "T"⟩], []⟩ := by decide

theorem download_twiceSite :
    (twiceSite.getJob firstTicket.id).map Job.tables =
        .ok (.ofSuffix ⟨"wp_"⟩ firstTicket.suffix) ∧
      (twiceSite.download firstTicket.id .unlimited).2 =
        (⟨none, none, bytesOf "T,T:1\n1,1\n"⟩, .ok ⟨1, 10⟩) := by
  have hnames : (Schema.entityType ⟨"wp_"⟩ "post").PlainNames (Schema.tagTables ⟨"wp_"⟩)
      (.ofSuffix ⟨"wp_"⟩ "a1") := ⟨by decide, by decide, by decide, by decide⟩
  have hplain := Plan.plain_statements hnames (by decide) (by decide)
    (by decide :
      ∀ f ∈ [Field.mk .fixed "ID" "T", ⟨.fixed, "ID", "T"⟩], Plain f.name ∧ Plain f.label)
    (fun _ hm => absurd hm List.not_mem_nil) firstTicket.id
  unfold twiceSite
  rw [submit_of_plain (s := site) validate_twice rfl hplain]
  decide +kernel

theorem header_names_labels_twice : ∃ names rest, Store.NamesFor ["T", "T"] names ∧
    (twiceSite.download firstTicket.id .unlimited).2.1 = Sink.unlimited.append
      (twiceSite.format.record ((Csv.headerCells names).map bytesOf) ++ rest) := by
  obtain ⟨htables, hd⟩ := download_twiceSite
  obtain ⟨j, hj, htables⟩ := exists_of_map_eq_ok htables
  have hfree : site.store.table? (JobTables.ofSuffix site.schema firstTicket.suffix).result =
      none := by decide
  have happart : ∀ t ∈ tickets [], Apart firstTicket t := by simp [tickets]
  have hs' : twiceSite = (site.submit firstTicket twice 7).1.afterAll [] := rfl
  have hsucceeds : (twiceSite.download firstTicket.id .unlimited).2.2 = .ok ⟨1, 10⟩ := by rw [hd]
  exact header_names_labels validate_twice hfree happart hs' hj htables hsucceeds

/-- The header of a download shows another name than the label that was asked for. -/
theorem header_differs_from_labels :
    (twiceSite.download firstTicket.id .unlimited).2.2 = .ok ⟨1, 10⟩ ∧
      (twiceSite.download firstTicket.id .unlimited).2.1.bytes = bytesOf "T,T:1\n1,1\n" ∧
      ¬ Csv.Format.standard.record [bytesOf "T", bytesOf "T"] <+:
        (twiceSite.download firstTicket.id .unlimited).2.1.bytes := by
  obtain ⟨-, hd⟩ := download_twiceSite
  rw [hd]
  decide +kernel

end Service

end SheetExport
