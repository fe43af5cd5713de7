import Mathlib.Data.List.Sort
import SheetExport.Proofs.Lifecycle

/-!
# Stored jobs are read back

A job that is created is found as it was given, whatever the rows beside it hold, and these are
read as before. So nothing that came into the registry by creating jobs, changing their statuses
and deleting them makes reading fail.
-/

namespace SheetExport.Registry

open Store (Table Row Column)
open Text (sameName)

/-! ## One value more in a sorted list -/

section Sorting

variable {α : Type} {le : α → α → Bool}

/-- Where a value is inserted does not depend on another one, which goes before or behind it. -/
theorem orderedInsert_around (trans : ∀ a b c, le a b → le b c → le a c) {x : α} {l₁ l₂ : List α}
    (h : (l₁ ++ x :: l₂).Pairwise (le · ·)) (a : α) :
    ∃ m₁ m₂, (l₁ ++ l₂).orderedInsert (le · ·) a = m₁ ++ m₂ ∧
      (l₁ ++ x :: l₂).orderedInsert (le · ·) a = m₁ ++ x :: m₂ := by
  induction l₁ with
  | nil =>
    by_cases hx : le a x
    · refine ⟨[a], l₂, ?_, List.orderedInsert_cons_of_le _ l₂ hx⟩
      cases l₂ with
      | nil => rfl
      | cons b l₂ =>
        have hb : le x b := (List.pairwise_cons.1 h).1 b List.mem_cons_self
        exact List.orderedInsert_cons_of_le _ l₂ (trans a x b hx hb)
    · exact ⟨[], l₂.orderedInsert (le · ·) a, rfl, List.orderedInsert_of_not_le _ l₂ hx⟩
  | cons b l₁ ih =>
    by_cases hb : le a b
    · exact ⟨a :: b :: l₁, l₂, List.orderedInsert_cons_of_le _ _ hb,
        List.orderedInsert_cons_of_le _ _ hb⟩
    · obtain ⟨m₁, m₂, hm, hm'⟩ := ih (List.pairwise_cons.1 h).2
      refine ⟨b :: m₁, m₂, ?_, ?_⟩
      · rw [List.cons_append, List.orderedInsert_cons, if_neg hb, hm, List.cons_append]
      · rw [List.cons_append, List.orderedInsert_cons, if_neg hb, hm', List.cons_append]

theorem mergeSort_cons_eq (trans : ∀ a b c, le a b → le b c → le a c)
    (total : ∀ a b, le a b || le b a) (a : α) (l : List α) :
    (a :: l).mergeSort le = (l.mergeSort le).orderedInsert (le · ·) a := by
  obtain ⟨l₁, l₂, hcons, hl, hbefore⟩ := List.mergeSort_cons trans total a l
  have hsorted := List.pairwise_mergeSort trans total (a :: l)
  rw [hcons] at hsorted
  have hbehind := (List.pairwise_cons.1 (List.pairwise_append.1 hsorted).2.1).1
  have htake : (l₁ ++ l₂).takeWhile (fun b => ¬ le a b) = l₁ := by
    rw [List.takeWhile_append_of_pos (by simpa using hbefore)]
    cases l₂ with
    | nil => simp
    | cons b l₂ => simp [hbehind b List.mem_cons_self]
  have hdrop : (l₁ ++ l₂).dropWhile (fun b => ¬ le a b) = l₂ := by
    rw [List.dropWhile_append_of_pos (by simpa using hbefore)]
    cases l₂ with
    | nil => rfl
    | cons b l₂ => simp [hbehind b List.mem_cons_self]
  rw [hcons, hl, List.orderedInsert_eq_take_drop, htake, hdrop]

theorem mergeSort_around (trans : ∀ a b c, le a b → le b c → le a c)
    (total : ∀ a b, le a b || le b a) (x : α) (l₁ l₂ : List α) :
    ∃ m₁ m₂, (l₁ ++ l₂).mergeSort le = m₁ ++ m₂ ∧
      (l₁ ++ x :: l₂).mergeSort le = m₁ ++ x :: m₂ := by
  induction l₁ with
  | nil =>
    obtain ⟨m₁, m₂, hcons, hl, -⟩ := List.mergeSort_cons trans total x l₂
    exact ⟨m₁, m₂, hl, hcons⟩
  | cons a l₁ ih =>
    obtain ⟨m₁, m₂, hm, hm'⟩ := ih
    have hsorted := List.pairwise_mergeSort trans total (l₁ ++ x :: l₂)
    rw [hm'] at hsorted
    rw [List.cons_append, List.cons_append, mergeSort_cons_eq trans total, hm,
      mergeSort_cons_eq trans total, hm']
    exact orderedInsert_around trans hsorted a

end Sorting

theorem newerFirst_around (x : Record) (l₁ l₂ : List Record) :
    ∃ m₁ m₂, newerFirst (l₁ ++ l₂) = m₁ ++ m₂ ∧ newerFirst (l₁ ++ x :: l₂) = m₁ ++ x :: m₂ := by
  refine mergeSort_around (fun a b c hab hbc => ?_) (fun a b => ?_) x l₁ l₂
  · simp only [Bool.not_eq_true', decide_eq_false_iff_not, String.not_lt] at hab hbc ⊢
    exact String.le_trans hbc hab
  · simp only [Bool.or_eq_true, Bool.not_eq_true', decide_eq_false_iff_not, String.not_lt]
    exact String.le_total b.startTime a.startTime

/-! ## One job more in a listing -/

/-- The second listing is the first with the job in some place. Where reading fails it fails
alike. -/
inductive Gains (j : Job) : Except JobFault (List Job) → Except JobFault (List Job) → Prop
  | listed (newer older : List Job) : Gains j (.ok (newer ++ older)) (.ok (newer ++ j :: older))
  | failed (fault : JobFault) : Gains j (.error fault) (.error fault)

theorem gains_mapM_job {j : Job} (hj : j.startTime.FourDigits) (l₁ l₂ : List Record) :
    Gains j ((l₁ ++ l₂).mapM Record.job) ((l₁ ++ recordFor j :: l₂).mapM Record.job) := by
  rw [List.mapM_append, List.mapM_append, List.mapM_cons, job_recordFor hj]
  cases l₁.mapM Record.job with
  | error fault => exact .failed fault
  | ok newer =>
    cases l₂.mapM Record.job with
    | error fault => exact .failed fault
    | ok older => exact .listed newer older

/-! ## A registry with any rows -/

/-- The registry with rows in it that need not be those of jobs. -/
def withRows (rows : List Row) : Table := { table with rows := rows }

/-- A row with a cell for each column, each in the form of its column. -/
structure Fits (row : Row) : Prop where
  width : row.cells.length = columns.length
  stored : List.zipWith (fun c v => v.stored c.affinity) columns row.cells = row.cells

variable {s s' : Store} {rows : List Row} {j : Job}

theorem recordOf?_withRows (rows : List Row) (e : Int × Job) :
    recordOf? (withRows rows) (rowOf e) = some (recordFor e.2) :=
  recordOf?_rowOf [] e

theorem meets_withRows_id (rows : List Row) (e : Int × Job) (id : Uuid) :
    (withRows rows).meets (rowOf e) [("id", .text id.text)] = decide (e.2.id = id) :=
  meets_id [] e id

theorem meets_withRows_owner (rows : List Row) (e : Int × Job) (owner : Int) :
    (withRows rows).meets (rowOf e) [("owner_id", .integer owner)] =
      decide (e.2.owner = owner) := by
  have hp : (withRows rows).place? "owner_id" = some (.cell 4) := place?_columns.2.2.2.2.1
  have ha : (withRows rows).asked (rowOf e) "owner_id" = ⟨some .integer, .integer e.2.owner⟩ := by
    unfold Table.asked
    rw [hp]
    rfl
  rw [Table.meets, List.all_cons, List.all_nil, Bool.and_true]
  dsimp only
  rw [ha, Bool.eq_iff_iff, decide_eq_true_eq]
  refine Operand.equals_iff.trans ?_
  change some (compare e.2.owner owner) = some .eq ↔ _
  rw [Option.some_inj, compare_eq_iff_eq]

theorem Fits.cells_eq {row : Row} (h : Fits row) :
    ∃ v rest, row.cells = v :: rest ∧ v.stored .text = v := by
  obtain ⟨hwidth, hstored⟩ := h
  cases hc : row.cells with
  | nil =>
    rw [hc] at hwidth
    exact absurd hwidth (by decide)
  | cons v rest =>
    rw [hc] at hstored
    exact ⟨v, rest, rfl, (List.cons.inj hstored).1⟩

theorem asked_id {row : Row} {v : Value} {rest : List Value} (h : row.cells = v :: rest) :
    (withRows rows).asked row "id" = ⟨some .text, v⟩ := by
  have hp : (withRows rows).place? "id" = some (.cell 0) := place?_columns.1
  unfold Table.asked
  rw [hp]
  simp only [Row.value, h, List.getD_cons_zero]
  rfl

/-- The row of a job clashes with a row before it if that is registered under the same id. -/
theorem clashes_of_fits {row : Row} (h : Fits row) {e : Int × Job} (hn : row.number < e.1) :
    (rowOf e).clashes (.unique 1) row =
      (withRows rows).meets row [("id", .text e.2.id.text)] := by
  obtain ⟨v, rest, hcells, hv⟩ := h.cells_eq
  have hne : ((rowOf e).number == row.number) = false := beq_eq_false_iff_ne.2 (Int.ne_of_gt hn)
  have hkey : (rowOf e).clashes (.unique 1) row =
      ((Value.text e.2.id.text).order v == some .eq) := by
    rw [Row.clashes, hne, Bool.false_or, hcells]
    exact Bool.and_true _
  rw [hkey, Table.meets, List.all_cons, List.all_nil, Bool.and_true]
  dsimp only
  rw [asked_id hcells]
  cases v with
  | null => rfl
  | integer i => exact absurd hv Value.noConfusion
  | real x => exact absurd hv Value.noConfusion
  | text s =>
    rw [compares_text, Bool.eq_iff_iff, beq_iff_eq, order_text, decide_eq_true_eq]
    exact eq_comm
  | blob bytes => rfl

/-! ## Creating -/

theorem isRegistered_withRows (h : s.table? Sql.jobsTable = some (withRows rows)) (id : Uuid) :
    Batch.isRegistered s id =
      rows.any ((withRows rows).meets · [("id", .text id.text)]) := by
  unfold Batch.isRegistered Store.rowsWith?
  rw [h]
  dsimp only [bind, Option.bind, pure]
  rw [Bool.eq_iff_iff, Bool.not_eq_true', ← Bool.not_eq_true, List.isEmpty_iff,
    List.filter_eq_nil_iff]
  simp [withRows]

theorem insert?_withRows (rows : List Row) (j : Job) :
    (withRows rows).insert? (cells j) =
      if rows.any ((rowOf ((withRows rows).nextNumber, j)).clashes (.unique 1)) = true then none
      else some (withRows (rows ++ [rowOf ((withRows rows).nextNumber, j)])) := by
  have hplaces : (withRows rows).places? (cells j) =
      some (((cells j).map Prod.snd).zipIdx.map fun x => (.cell x.2, x.1)) := places?_cells [] j
  have hdraft : (withRows rows).insert? (cells j) =
      (withRows rows).insertDraft? ⟨.null, (cells j).map Prod.snd⟩ := by
    unfold Table.insert?
    rw [hplaces]
    rfl
  have hrow (number : Int) : (withRows rows).row? (some number) ⟨.null, (cells j).map Prod.snd⟩ =
      some (rowOf (number, j)) := row?_cells [] (some number) .null j
  have hkey : (withRows rows).key = .unique 1 := rfl
  have hrows : (withRows rows).rows = rows := rfl
  have hplace : Table.place (.unique 1) (rowOf ((withRows rows).nextNumber, j)) rows =
      rows ++ [rowOf ((withRows rows).nextNumber, j)] :=
    Table.place_last fun row hr => Table.lt_nextNumber (t := withRows rows) hr
  rw [hdraft, Table.insertDraft?, hrow]
  dsimp only [bind, Option.bind]
  rw [hkey, hrows, hplace]
  rfl

theorem create_withRows (h : s.table? Sql.jobsTable = some (withRows rows))
    (hf : ∀ row ∈ rows, Fits row) (j : Job) :
    create s j = if Batch.isRegistered s j.id = true then .error .rejected
      else .ok (s.replace Sql.jobsTable
        (withRows (rows ++ [rowOf ((withRows rows).nextNumber, j)]))) := by
  have hclash : rows.any ((rowOf ((withRows rows).nextNumber, j)).clashes (.unique 1)) =
      Batch.isRegistered s j.id := by
    rw [isRegistered_withRows h]
    refine Bool.eq_iff_iff.2 ?_
    rw [List.any_eq_true, List.any_eq_true]
    refine exists_congr fun row => and_congr_right fun hr => ?_
    rw [clashes_of_fits (hf row hr) (Table.lt_nextNumber (t := withRows rows) hr)]
  have hinsert : s.insert? Sql.jobsTable (cells j) =
      ((withRows rows).insert? (cells j)).map (s.replace Sql.jobsTable) := by
    unfold Store.insert? Store.change?
    rw [h]
    dsimp only [bind, Option.bind]
    cases (withRows rows).insert? (cells j) <;> rfl
  unfold create
  rw [hinsert, insert?_withRows, hclash]
  split <;> rfl

/-! ## Reading behind a new row -/

variable {e : Int × Job}

theorem records_appended (h : s.table? Sql.jobsTable = some (withRows rows))
    (h' : s'.table? Sql.jobsTable = some (withRows (rows ++ [rowOf e])))
    (given : List (String × Value)) :
    records s' given = if (withRows rows).meets (rowOf e) given = true
      then (records s given).map (· ++ [recordFor e.2]) else records s given := by
  have hmeets : (withRows (rows ++ [rowOf e])).meets = (withRows rows).meets := rfl
  have hrecord : recordOf? (withRows (rows ++ [rowOf e])) = recordOf? (withRows rows) := rfl
  have hrows : (withRows (rows ++ [rowOf e])).rows = (withRows rows).rows ++ [rowOf e] := rfl
  unfold records
  rw [h, h']
  dsimp only [bind, Option.bind]
  rw [hmeets, hrecord, hrows, List.filter_append]
  split
  · rename_i hm
    have hone : [rowOf e].filter ((withRows rows).meets · given) = [rowOf e] :=
      List.filter_cons_of_pos hm
    rw [hone, List.mapM_append, List.mapM_cons, recordOf?_withRows]
    cases ((withRows rows).rows.filter ((withRows rows).meets · given)).mapM
      (recordOf? (withRows rows)) <;> rfl
  · rename_i hm
    have hnone : [rowOf e].filter ((withRows rows).meets · given) = [] :=
      List.filter_cons_of_neg hm
    rw [hnone, List.append_nil]

theorem records_appended_id (h : s.table? Sql.jobsTable = some (withRows rows))
    (h' : s'.table? Sql.jobsTable = some (withRows (rows ++ [rowOf e]))) {id : Uuid}
    (hid : id ≠ e.2.id) :
    records s' [("id", .text id.text)] = records s [("id", .text id.text)] := by
  rw [records_appended h h', meets_withRows_id, decide_eq_false hid.symm, if_neg Bool.false_ne_true]

theorem find_appended (h : s.table? Sql.jobsTable = some (withRows rows))
    (h' : s'.table? Sql.jobsTable = some (withRows (rows ++ [rowOf e])))
    (hid : Batch.isRegistered s e.2.id = false) (ht : e.2.startTime.FourDigits) :
    find s' e.2.id = .ok (some e.2) := by
  have hnone : records s [("id", .text e.2.id.text)] = .ok [] := by
    rw [isRegistered_withRows h, List.any_eq_false] at hid
    have hfilter : (withRows rows).rows.filter
        ((withRows rows).meets · [("id", .text e.2.id.text)]) = [] :=
      List.filter_eq_nil_iff.2 hid
    unfold records
    rw [h]
    dsimp only [bind, Option.bind]
    rw [hfilter]
    rfl
  unfold find
  rw [records_appended h h', meets_withRows_id, decide_eq_true rfl, if_pos rfl, hnone]
  dsimp only [bind, Except.bind, Except.map, List.nil_append]
  rw [job_recordFor ht]
  rfl

theorem find_appended_other (h : s.table? Sql.jobsTable = some (withRows rows))
    (h' : s'.table? Sql.jobsTable = some (withRows (rows ++ [rowOf e]))) {id : Uuid}
    (hid : id ≠ e.2.id) : find s' id = find s id := by
  unfold find
  rw [records_appended_id h h' hid]

theorem list_appended (h : s.table? Sql.jobsTable = some (withRows rows))
    (h' : s'.table? Sql.jobsTable = some (withRows (rows ++ [rowOf e])))
    (ht : e.2.startTime.FourDigits) : Gains e.2 (list s none) (list s' none) := by
  have hall : (withRows rows).meets (rowOf e) [] = true := rfl
  unfold list
  rw [records_appended h h', hall, if_pos rfl]
  cases records s [] with
  | error fault => exact .failed fault
  | ok rs =>
    dsimp only [Except.map, bind, Except.bind, pure, Except.pure]
    obtain ⟨m₁, m₂, hm, hm'⟩ := newerFirst_around (recordFor e.2) [] rs.reverse
    rw [List.nil_append] at hm hm'
    rw [List.reverse_append, List.reverse_singleton, List.singleton_append, hm, hm']
    exact gains_mapM_job ht m₁ m₂

theorem list_appended_owner (h : s.table? Sql.jobsTable = some (withRows rows))
    (h' : s'.table? Sql.jobsTable = some (withRows (rows ++ [rowOf e])))
    (ht : e.2.startTime.FourDigits) (owner : Int) :
    if owner = e.2.owner then Gains e.2 (list s (some owner)) (list s' (some owner))
    else list s' (some owner) = list s (some owner) := by
  unfold list
  dsimp only
  rw [records_appended h h', meets_withRows_owner]
  split
  · rename_i ho
    rw [decide_eq_true ho.symm, if_pos rfl]
    cases records s [("owner_id", .integer owner)] with
    | error fault => exact .failed fault
    | ok rs =>
      dsimp only [Except.map, bind, Except.bind, pure, Except.pure]
      obtain ⟨m₁, m₂, hm, hm'⟩ := newerFirst_around (recordFor e.2) rs []
      rw [List.append_nil] at hm
      rw [hm, hm']
      exact gains_mapM_job ht m₁ m₂
  · rename_i ho
    rw [decide_eq_false (Ne.symm ho), if_neg Bool.false_ne_true]

/-! ## Listing what is held -/

variable {jobs : List (Int × Job)}

theorem records_owner (h : Holds s jobs) (owner : Int) :
    records s [("owner_id", .integer owner)] =
      .ok (((jobs.map Prod.snd).filter fun j => j.owner = owner).map recordFor) := by
  have hrows : (holding jobs).rows = jobs.map rowOf := rfl
  have hfilter : (holding jobs).rows.filter
      ((holding jobs).meets · [("owner_id", .integer owner)]) =
        (jobs.filter fun e => e.2.owner = owner).map rowOf := by
    rw [hrows, List.filter_map]
    refine congrArg (List.map rowOf) (List.filter_congr fun e _ => ?_)
    exact meets_withRows_owner (jobs.map rowOf) e owner
  have hjobs : ((jobs.map Prod.snd).filter fun j => j.owner = owner).map recordFor =
      (jobs.filter fun e => e.2.owner = owner).map fun e => recordFor e.2 := by
    rw [List.filter_map, List.map_map]
    rfl
  unfold records
  rw [h.table]
  dsimp only [bind, Option.bind]
  rw [hfilter, mapM_recordOf?, hjobs]
  rfl

theorem list_mergeSort (h : Holds s jobs) (owner : Option Int) :
    ∃ found : List Job, found.Perm ((jobs.map Prod.snd).filter fun j => owner.all (· = j.owner)) ∧
      list s owner = .ok (found.mergeSort fun a b =>
        !decide (a.startTime.storedText < b.startTime.storedText)) := by
  cases owner with
  | none =>
    have hall : ((jobs.map Prod.snd).filter fun j => (none : Option Int).all (· = j.owner)) =
        jobs.map Prod.snd := List.filter_eq_self.2 fun _ _ => rfl
    rw [hall]
    exact ⟨_, List.reverse_perm _, list_eq h⟩
  | some owner =>
    have hown : ((jobs.map Prod.snd).filter fun j => (some owner).all (· = j.owner)) =
        (jobs.map Prod.snd).filter fun j => j.owner = owner :=
      List.filter_congr fun j _ => decide_eq_decide.2 eq_comm
    rw [hown]
    refine ⟨_, .refl _, ?_⟩
    unfold list
    dsimp only
    rw [records_owner h]
    dsimp only [bind, Except.bind, pure, Except.pure]
    refine mapM_newerFirst fun j hj => ?_
    obtain ⟨e, he, rfl⟩ := List.mem_map.1 (List.mem_filter.1 hj).1
    exact h.timed e he

theorem list_perm (h : Holds s jobs) (owner : Option Int) :
    ∃ listed, list s owner = .ok listed ∧
      listed.Perm ((jobs.map Prod.snd).filter fun j => owner.all (· = j.owner)) := by
  obtain ⟨found, hfound, hlist⟩ := list_mergeSort h owner
  exact ⟨_, hlist, (List.mergeSort_perm _ _).trans hfound⟩

/-! ## Changing the registry -/

inductive Change where
  | create (j : Job)
  | setStatus (id : Uuid) (status : Status)
  | delete (id : Uuid)
  | deleteAll

namespace Change

/-- The store after a change, and as it was if the change fails. -/
def after (s : Store) : Change → Store
  | create j =>
    match Registry.create s j with
    | .ok s' => s'
    | .error _ => s
  | setStatus id status => (s.run? .quiet (.setStatus id status)).getD s
  | delete id =>
    match Registry.delete s id with
    | .ok s' => s'
    | .error _ => s
  | deleteAll => (Registry.deleteAll s).1

def afterAll (s : Store) (changes : List Change) : Store := changes.foldl after s

/-- The job that a change puts into the registry, or tries to. -/
def job? : Change → Option Job
  | create j => some j
  | _ => none

end Change

/-- The registry holds jobs with certain tables, or one of these was the registry's own and has
gone with its job. -/
inductive Keeps (named : JobTables → Prop) (s : Store) : Prop
  | held {jobs : List (Int × Job)} (holds : Holds s jobs) (all : ∀ e ∈ jobs, named e.2.tables)
  | dropped {tables : JobTables} (gone : s.table? Sql.jobsTable = none) (one : named tables)
    (own : tables.Names Sql.jobsTable)

variable {named : JobTables → Prop}

theorem get_of_gone (h : s.table? Sql.jobsTable = none) (id : Uuid) :
    get s id = .error .rejected := by
  unfold get find records
  rw [h]
  rfl

theorem Keeps.create (h : Keeps named s) (ht : j.startTime.FourDigits) (hj : named j.tables) :
    Keeps named (Change.after s (.create j)) := by
  unfold Change.after
  dsimp only
  cases h with
  | held holds all =>
    rename_i jobs
    rw [create_eq holds]
    by_cases hc : (jobs.any fun e => e.2.id = j.id) = true
    · rw [if_pos hc]
      exact .held holds all
    · rw [if_neg hc]
      refine .held (holds.appended (Bool.not_eq_true _ ▸ hc) ht) fun e he => ?_
      rcases List.mem_append.1 he with he | he
      · exact all e he
      · rw [List.mem_singleton.1 he]
        exact hj
  | dropped gone one own =>
    have hfail : Registry.create s j = .error .rejected := by
      unfold Registry.create Store.insert? Store.change?
      rw [gone]
      rfl
    rw [hfail]
    exact .dropped gone one own

theorem Keeps.setStatus (h : Keeps named s) (id : Uuid) (status : Status) :
    Keeps named (Change.after s (.setStatus id status)) := by
  unfold Change.after
  dsimp only
  cases h with
  | held holds all =>
    rw [Batch.run?_setStatus holds id status]
    refine .held (holds.withStatus id status) fun e he => ?_
    obtain ⟨f, hf, rfl⟩ := List.mem_map.1 he
    have htables : (withStatus id status f).2.tables = f.2.tables := by
      unfold withStatus
      split <;> rfl
    rw [htables]
    exact all f hf
  | dropped gone one own =>
    have hfail : s.run? .quiet (.setStatus id status) = none := by
      unfold Store.run? Store.update? Store.change?
      rw [gone]
      split <;> rfl
    rw [hfail]
    exact .dropped gone one own

theorem Keeps.of_delete (h : Keeps named s) {id : Uuid} (hd : Registry.delete s id = .ok s') :
    Keeps named s' := by
  cases h with
  | held holds all =>
    rename_i jobs
    cases hf : jobs.find? fun e => e.2.id = id with
    | none =>
      rw [delete_of_absent holds hf] at hd
      exact absurd hd (by simp)
    | some e =>
      rw [delete_of_find holds hf] at hd
      obtain rfl := Except.ok.inj hd
      by_cases hown : e.2.tables.Names Sql.jobsTable
      · refine .dropped ?_ (all e (List.mem_of_find?_eq_some hf)) hown
        exact Service.table?_dropTables_own hown fun hr => absurd hr (by decide)
      · exact .held ((holds.filtered _).congr (Service.table?_dropTables_other hown))
          fun f hf => all f (List.mem_filter.1 hf).1
  | dropped gone one own =>
    unfold Registry.delete at hd
    rw [get_of_gone gone] at hd
    exact absurd hd (by simp [bind, Except.bind])

theorem Keeps.delete (h : Keeps named s) (id : Uuid) :
    Keeps named (Change.after s (.delete id)) := by
  unfold Change.after
  dsimp only
  cases hd : Registry.delete s id with
  | error fault => exact h
  | ok s' => exact h.of_delete hd

theorem Keeps.deleteEach (ids : List Uuid) (h : Keeps named s) (count : Nat) :
    Keeps named (Registry.deleteEach s count ids).1 := by
  induction ids generalizing s count with
  | nil => exact h
  | cons id ids ih =>
    unfold Registry.deleteEach
    split
    · exact ih (h.of_delete ‹_›) _
    · exact ih h _
    · exact h

theorem Keeps.deleteAll (h : Keeps named s) : Keeps named (Change.after s .deleteAll) := by
  unfold Change.after Registry.deleteAll
  dsimp only
  split
  · exact h.deleteEach _ _
  · exact h

theorem Keeps.after (h : Keeps named s) (change : Change)
    (hc : ∀ j ∈ change.job?, j.startTime.FourDigits ∧ named j.tables) :
    Keeps named (change.after s) := by
  cases change with
  | create j =>
    obtain ⟨ht, hj⟩ := hc j rfl
    exact h.create ht hj
  | setStatus id status => exact h.setStatus id status
  | delete id => exact h.delete id
  | deleteAll => exact h.deleteAll

theorem Keeps.afterAll (h : Keeps named s) (changes : List Change)
    (hc : ∀ j ∈ changes.filterMap Change.job?, j.startTime.FourDigits ∧ named j.tables) :
    Keeps named (Change.afterAll s changes) := by
  induction changes generalizing s with
  | nil => exact h
  | cons change changes ih =>
    refine ih (h.after change fun j hj => ?_) fun j hj => ?_
    · exact hc j (List.mem_filterMap.2 ⟨change, List.mem_cons_self, hj⟩)
    · obtain ⟨later, hlater, hj⟩ := List.mem_filterMap.1 hj
      exact hc j (List.mem_filterMap.2 ⟨later, List.mem_cons_of_mem _ hlater, hj⟩)

/-! ## Reading back -/

/-- The registry can be read: these are its jobs. -/
structure Reads (s : Store) (jobs : List Job) : Prop where
  find : ∀ id, Registry.find s id = .ok (jobs.find? fun j => j.id = id)
  list : ∀ owner : Option Int, ∃ listed, Registry.list s owner = .ok listed ∧
    listed.Perm (jobs.filter fun j => owner.all (· = j.owner))

theorem Holds.reads (h : Holds s jobs) : Reads s (jobs.map Prod.snd) where
  find id := by
    rw [find_eq h, List.find?_map]
    rfl
  list := list_perm h

theorem holds_nothing (h : s.table? Sql.jobsTable = some table) : Holds s [] :=
  ⟨h, .nil, .nil, fun _ he => absurd he List.not_mem_nil⟩

/-- A job whose id is new is created and read back as it was given, and nothing else that is read
changes. A job whose id is registered is refused. After any changes of an empty registry it can be
read, unless a job was created over the registry's own table, which a deletion then drops. -/
theorem stored_jobs_read_back :
    (∀ (s : Store) (rows : List Row) (j : Job), s.table? Sql.jobsTable = some (withRows rows) →
      (∀ row ∈ rows, Fits row) → j.startTime.FourDigits →
      (Batch.isRegistered s j.id = true → create s j = .error .rejected) ∧
      (Batch.isRegistered s j.id = false → ∃ s', create s j = .ok s' ∧
        find s' j.id = .ok (some j) ∧
        (∀ id, id ≠ j.id → find s' id = find s id) ∧
        Gains j (list s none) (list s' none) ∧
        (∀ owner, if owner = j.owner then Gains j (list s (some owner)) (list s' (some owner))
          else list s' (some owner) = list s (some owner)) ∧
        ∀ name, sameName Sql.jobsTable name = false → s'.table? name = s.table? name)) ∧
    ∀ (s : Store) (changes : List Change), s.table? Sql.jobsTable = some table →
      (∀ j ∈ changes.filterMap Change.job?, j.startTime.FourDigits) →
      (∃ jobs, Reads (Change.afterAll s changes) jobs) ∨
        (Change.afterAll s changes).table? Sql.jobsTable = none ∧
          ∃ j ∈ changes.filterMap Change.job?, j.tables.Names Sql.jobsTable := by
  refine ⟨fun s rows j h hf ht => ⟨fun hid => ?_, fun hid => ?_⟩, fun s changes h ht => ?_⟩
  · rw [create_withRows h hf, if_pos hid]
  · have hcreate := create_withRows h hf j
    rw [hid, if_neg Bool.false_ne_true] at hcreate
    generalize (withRows rows).nextNumber = n at hcreate
    have h' : (s.replace Sql.jobsTable (withRows (rows ++ [rowOf (n, j)]))).table?
        Sql.jobsTable = some (withRows (rows ++ [rowOf (n, j)])) :=
      Store.table?_replace_self h (sameName_self _)
    have hfind := find_appended (e := (n, j)) h h' hid ht
    have hlist := list_appended (e := (n, j)) h h' ht
    exact ⟨_, hcreate, hfind, fun id => find_appended_other h h', hlist,
      list_appended_owner h h' ht, fun name => Store.table?_replace_other (sameName_self _)⟩
  · have hkeeps : Keeps (fun tables => ∃ j ∈ changes.filterMap Change.job?, j.tables = tables)
        (Change.afterAll s changes) :=
      Keeps.afterAll (.held (holds_nothing h) fun _ he => absurd he List.not_mem_nil) changes
        fun j hj => ⟨ht j hj, j, hj, rfl⟩
    cases hkeeps with
    | held holds all => exact .inl ⟨_, holds.reads⟩
    | dropped gone one own =>
      obtain ⟨j, hj, rfl⟩ := one
      exact .inr ⟨gone, j, hj, own⟩

/-- A row that nobody can read as a job. -/
def strangerRow : Row :=
  ⟨1, [.text "?", .text "", .text "", .text "started", .integer 7, .text "", .text "?", .null]⟩

/-- A job that starts with a leap second. -/
def lateJob : Job :=
  ⟨.nil, ⟨"wp_csvexport_scratch_a1", "wp_csvexport_results_a1"⟩, .filteringEntities, 7, "post",
    ⟨⟨2015, 6, 30, by decide, by decide⟩, 23, 59, 60, 120000, by decide, by decide,
      Nat.le_refl 60, by decide⟩, some "SELECT 1"⟩

theorem stored_jobs_read_back_lateJob :
    (∃ s, create ⟨[withRows [strangerRow]]⟩ lateJob = .ok s ∧
      find s lateJob.id = .ok (some lateJob)) ∧
    ∃ jobs, Reads (Change.afterAll ⟨[table]⟩
      [.create lateJob, .create lateJob, .setStatus lateJob.id .done]) jobs := by
  obtain ⟨hcreate, hrun⟩ := stored_jobs_read_back
  constructor
  · obtain ⟨-, hnew⟩ := hcreate ⟨[withRows [strangerRow]]⟩ [strangerRow] lateJob rfl
      (fun row hr => List.mem_singleton.1 hr ▸ ⟨rfl, rfl⟩) (by decide)
    obtain ⟨s, hs, hfind, -⟩ := hnew (by decide)
    exact ⟨s, hs, hfind⟩
  · rcases hrun ⟨[table]⟩ [.create lateJob, .create lateJob, .setStatus lateJob.id .done] rfl
      (by decide) with hreads | ⟨-, hown⟩
    · exact hreads
    · exact absurd hown (by decide)

end SheetExport.Registry
