import SheetExport.Proofs.Lifecycle

/-!
# Backing tables over a run

Callers submit, look up, download and delete in any order. Over every such run the backing tables
of the store follow the registry, and a job that was used up stays gone.
-/

namespace SheetExport.Service

open Text (sameName)

/-! ## Runs -/

/-- One call of the service. -/
inductive Action where
  | submit (ticket : Ticket) (request : Request) (owner : Int)
  | get (id : Uuid)
  | list (owner : Option Int)
  | delete (id : Uuid)
  | download (id : Uuid) (sink : Sink)
  | purge

def after (s : Service) : Action → Service
  | .submit ticket request owner => (s.submit ticket request owner).1
  | .get _ => s
  | .list _ => s
  | .delete id => (s.deleteJob id).1
  | .download id sink => (s.download id sink).1
  | .purge => s.purge.1

def afterAll (s : Service) (actions : List Action) : Service := actions.foldl after s

def Action.draws : Action → List Ticket
  | .submit ticket _ _ => [ticket]
  | _ => []

/-- The tickets of a run. -/
def tickets (actions : List Action) : List Ticket := actions.flatMap Action.draws

/-- A call after which the job of an id must be gone. -/
def Ends (s : Service) (id : Uuid) : Action → Prop
  | .delete other => other = id
  | .download other _ => other = id ∧ ∃ j, s.getJob id = .ok j ∧ j.status = .done
  | .purge => True
  | _ => False

/-- The suffixes of two tickets differ, as names of tables do. -/
def Apart (a b : Ticket) : Prop := sameName a.suffix b.suffix = false

/-- Generated suffixes are in small letters, and then it is enough that they differ. -/
theorem apart_of_ne {a b : Ticket} (ha : Text.lowerAscii a.suffix = a.suffix)
    (hb : Text.lowerAscii b.suffix = b.suffix) (h : a.suffix ≠ b.suffix) : Apart a b := by
  rw [Apart, ← Bool.not_eq_true, sameName_iff, ha, hb]
  exact h

theorem eq_of_sameName {drawn : List Ticket} (hp : drawn.Pairwise Apart) {a b : Ticket}
    (ha : a ∈ drawn) (hb : b ∈ drawn) (h : sameName a.suffix b.suffix = true) : a = b := by
  have : Std.Symm Apart := ⟨fun a b hab => (sameName_comm _ _).trans hab⟩
  by_contra hne
  have hapart : sameName a.suffix b.suffix = false := hp.forall ha hb hne
  rw [h] at hapart
  exact Bool.noConfusion hapart

/-! ## One call -/

variable {s : Service} {drawn : List Ticket} {jobs : List (Int × Job)}

theorem finished_eq_ok {s : Store} {id : Uuid} {j : Job} :
    Download.finished s id = .ok j ↔ Registry.get s id = .ok j ∧ j.status = .done := by
  unfold Download.finished
  cases Registry.get s id with
  | error fault => simp [bind, Except.bind]
  | ok job =>
    have hdone : job.status.isDone = true ↔ job.status = .done := decide_eq_true_iff
    by_cases h : job.status = .done
    · simp only [bind, Except.bind, hdone.2 h, if_pos, pure, Except.pure, Except.ok.injEq]
      exact ⟨fun hj => ⟨hj, hj ▸ h⟩, fun hj => hj.1⟩
    · simp only [bind, Except.bind, if_neg (mt hdone.1 h)]
      refine ⟨fun hj => absurd hj (by simp [throw, throwThe, MonadExceptOf.throw]), fun hj => ?_⟩
      obtain rfl := Except.ok.inj hj.1
      exact absurd hj.2 h

theorem Sound.deleteJob (h : Sound s.schema drawn s.store jobs) (id : Uuid) :
    Sound s.schema drawn (s.deleteJob id).1.store (jobs.filter fun e => e.2.id ≠ id) := by
  obtain ⟨store, hstore, hdelete | ⟨hdelete, rfl⟩⟩ := h.delete id
  · unfold Service.deleteJob
    rw [hdelete]
    exact hstore
  · unfold Service.deleteJob
    rw [hdelete]
    exact hstore

theorem Sound.download (h : Sound s.schema drawn s.store jobs) (id : Uuid) (sink : Sink) :
    (∃ j, s.getJob id = .ok j ∧ j.status = .done) ∧
        Sound s.schema drawn (s.download id sink).1.store (jobs.filter fun e => e.2.id ≠ id) ∨
      (¬ ∃ j, s.getJob id = .ok j ∧ j.status = .done) ∧ (s.download id sink).1 = s := by
  unfold Service.download Download.run Download.runWith
  cases hf : Download.finished s.store id with
  | error fault =>
    refine .inr ⟨?_, rfl⟩
    rintro ⟨j, hj⟩
    rw [finished_eq_ok.2 hj] at hf
    exact absurd hf (by simp)
  | ok j =>
    refine .inl ⟨⟨j, finished_eq_ok.1 hf⟩, ?_⟩
    obtain ⟨store, hstore, hdelete | ⟨hdelete, rfl⟩⟩ := h.delete id
    · dsimp only [Download.Watch.ofStore]
      rw [hdelete]
      exact hstore
    · dsimp only [Download.Watch.ofStore]
      rw [hdelete]
      exact hstore

theorem Sound.purge (h : Sound s.schema drawn s.store jobs) :
    Sound s.schema drawn s.purge.1.store [] := by
  obtain ⟨store, n, hrun, hstore⟩ := h.deleteAll
  unfold Service.purge
  rw [hrun]
  exact hstore

theorem schema_submit (s : Service) (ticket : Ticket) (r : Request) (owner : Int) :
    (s.submit ticket r owner).1.schema = s.schema := by
  unfold Service.submit
  split
  · rfl
  · unfold submitExport
    split
    · rfl
    · split <;> rfl

theorem schema_deleteJob (s : Service) (id : Uuid) : (s.deleteJob id).1.schema = s.schema := by
  unfold Service.deleteJob
  split <;> rfl

theorem schema_after (s : Service) (a : Action) : (s.after a).schema = s.schema := by
  cases a with
  | submit ticket r owner => exact s.schema_submit ticket r owner
  | get id => rfl
  | list owner => rfl
  | delete id => exact s.schema_deleteJob id
  | download id sink => rfl
  | purge => rfl

/-- What one call makes of the jobs. -/
structure Follows (s : Service) (drawn : List Ticket) (jobs : List (Int × Job)) (a : Action)
    (jobs' : List (Int × Job)) : Prop where
  sound : Sound s.schema (drawn ++ a.draws) (s.after a).store jobs'
  known : ∀ e ∈ jobs', e ∈ jobs ∨ ∃ t ∈ a.draws, e.2.id = t.id
  ended : ∀ id, s.Ends id a → ∀ e ∈ jobs', e.2.id ≠ id

theorem Sound.after (h : Sound s.schema drawn s.store jobs) (a : Action)
    (hd : ∀ d ∈ drawn, ∀ t ∈ a.draws, Apart d t) (ht : ∀ t ∈ a.draws, t.time.FourDigits) :
    ∃ jobs', Follows s drawn jobs a jobs' := by
  have others {id : Uuid} : ∀ e ∈ jobs.filter (fun e => e.2.id ≠ id), e.2.id ≠ id :=
    fun e he => by simpa using (List.mem_filter.1 he).2
  cases a with
  | submit ticket r owner =>
    have hticket : ticket ∈ (Action.submit ticket r owner).draws := List.mem_singleton_self _
    obtain ⟨jobs', hsound, hknown⟩ :=
      h.submit (fun d hmem => hd d hmem ticket hticket) (ht ticket hticket) r owner
    exact ⟨jobs', hsound, fun e he => (hknown e he).imp_right fun hid => ⟨ticket, hticket, hid⟩,
      fun _ hends => hends.elim⟩
  | get id => exact ⟨jobs, h.draws _, fun _ => .inl, fun _ hends => hends.elim⟩
  | list owner => exact ⟨jobs, h.draws _, fun _ => .inl, fun _ hends => hends.elim⟩
  | delete id =>
    refine ⟨_, (h.deleteJob id).draws _, fun e he => .inl (List.mem_filter.1 he).1, ?_⟩
    rintro _ rfl
    exact others
  | download id sink =>
    obtain ⟨-, hsound⟩ | ⟨hundone, hstore⟩ := h.download id sink
    · refine ⟨_, hsound.draws _, fun e he => .inl (List.mem_filter.1 he).1, ?_⟩
      rintro _ ⟨rfl, -⟩
      exact others
    · refine ⟨jobs, ?_, fun _ => .inl, ?_⟩
      · have hafter : s.after (.download id sink) = s := hstore
        rw [hafter]
        exact h.draws _
      · rintro _ ⟨rfl, hdone⟩
        exact absurd hdone hundone
  | purge =>
    refine ⟨[], h.purge.draws _, ?_, ?_⟩
    · exact fun _ he => absurd he List.not_mem_nil
    · exact fun _ _ _ he => absurd he List.not_mem_nil

/-! ## Runs of calls -/

theorem afterAll_cons (s : Service) (a : Action) (actions : List Action) :
    s.afterAll (a :: actions) = (s.after a).afterAll actions := rfl

theorem afterAll_append (s : Service) (before later : List Action) :
    s.afterAll (before ++ later) = (s.afterAll before).afterAll later :=
  List.foldl_append

theorem tickets_cons (a : Action) (actions : List Action) :
    tickets (a :: actions) = a.draws ++ tickets actions := rfl

theorem tickets_append (before later : List Action) :
    tickets (before ++ later) = tickets before ++ tickets later :=
  List.flatMap_append

theorem schema_afterAll (s : Service) (actions : List Action) :
    (s.afterAll actions).schema = s.schema := by
  induction actions generalizing s with
  | nil => rfl
  | cons a actions ih => rw [afterAll_cons, ih, schema_after]

/-- The registry, the tickets and the tables agree after every run, and every job that is left was
there before or has the id of a ticket of the run. -/
theorem Sound.afterAll (h : Sound s.schema drawn s.store jobs) (actions : List Action)
    (hp : (drawn ++ tickets actions).Pairwise Apart)
    (ht : ∀ t ∈ tickets actions, t.time.FourDigits) :
    ∃ jobs', Sound s.schema (drawn ++ tickets actions) (s.afterAll actions).store jobs' ∧
      ∀ e ∈ jobs', e ∈ jobs ∨ ∃ t ∈ tickets actions, e.2.id = t.id := by
  induction actions generalizing s drawn jobs with
  | nil =>
    refine ⟨jobs, ?_, fun _ => .inl⟩
    rw [show tickets [] = [] from rfl, List.append_nil]
    exact h
  | cons a actions ih =>
    rw [tickets_cons] at ht ⊢
    rw [tickets_cons, ← List.append_assoc] at hp
    obtain ⟨hta, hts⟩ := List.forall_mem_append.1 ht
    obtain ⟨hpa, -, -⟩ := List.pairwise_append.1 hp
    obtain ⟨jobs₁, hstep⟩ := h.after a (fun d hd t ht => (List.pairwise_append.1 hpa).2.2 d hd t ht)
      hta
    have h₁ := hstep.sound
    rw [← schema_after s a] at h₁
    obtain ⟨jobs', h', hknown⟩ := ih h₁ hp hts
    rw [schema_after, List.append_assoc] at h'
    refine ⟨jobs', h', fun e he => ?_⟩
    rcases hknown e he with he | ⟨t, ht, hid⟩
    · exact (hstep.known e he).imp_right fun ⟨t, ht, hid⟩ => ⟨t, List.mem_append_left _ ht, hid⟩
    · exact .inr ⟨t, List.mem_append_right _ ht, hid⟩

/-! ## What callers see -/

/-- Backing tables and registered jobs belong together. -/
structure InOrder (s : Service) : Prop where
  readable : ∀ id, ∃ j, Registry.find s.store id = .ok j
  owned : ∀ name, s.schema.IsBacking name → (s.store.table? name).isSome = true →
    ∃! j : Job, s.getJob j.id = .ok j ∧ j.tables.Names name
  done : ∀ id j, s.getJob id = .ok j → j.status = .done →
    s.store.table? j.tables.scratch = none ∧ (s.store.table? j.tables.result).isSome = true
  stuck : ∀ id j, s.getJob id = .ok j → j.status ≠ .done → s.store.table? j.tables.result = none

/-- Nothing is known under an id, and asking for it changes nothing. -/
structure Gone (s : Service) (id : Uuid) : Prop where
  get : s.getJob id = .error (.notFound id)
  delete : s.deleteJob id = (s, .error (.notFound id))
  download : ∀ sink, s.download id sink = (s, sink, .error (.notFound id))

theorem Sound.inOrder (h : Sound s.schema drawn s.store jobs) : s.InOrder := by
  have mem {id : Uuid} {j : Job} (hj : s.getJob id = .ok j) : ∃ e ∈ jobs, e.2 = j :=
    have ⟨e, he, hej, _⟩ := (Registry.get_eq_ok h.holds).1 hj
    ⟨e, he, hej⟩
  refine ⟨fun id => ⟨_, Registry.find_eq h.holds id⟩, ?_, ?_, ?_⟩
  · intro name hb hsome
    obtain ⟨-, e, he, hn⟩ := h.owned name hb hsome
    refine ⟨e.2, ⟨(Registry.get_eq_ok h.holds).2 ⟨e, he, rfl, rfl⟩, hn⟩, ?_⟩
    rintro j ⟨hj, hnj⟩
    obtain ⟨f, hf, rfl⟩ := mem hj
    exact congrArg Prod.snd (h.eq_of_names hf he hnj hn)
  · intro id j hj hdone
    obtain ⟨e, he, rfl⟩ := mem hj
    exact h.done e he hdone
  · intro id j hj hdone
    obtain ⟨e, he, rfl⟩ := mem hj
    exact h.stuck e he hdone

theorem Sound.gone (h : Sound s.schema drawn s.store jobs) {id : Uuid}
    (hid : ∀ e ∈ jobs, e.2.id ≠ id) : s.Gone id := by
  have habsent := Registry.find?_eq_none_of_filtered hid
  have hget := Registry.get_of_absent h.holds habsent
  refine ⟨hget, ?_, fun sink => ?_⟩
  · unfold Service.deleteJob
    rw [Registry.delete_of_absent h.holds habsent]
  · have hf : Download.finished s.store id = .error (.notFound id) := by
      unfold Download.finished
      rw [hget]
      rfl
    unfold Service.download Download.run Download.runWith
    rw [hf]

/-- Nothing is registered, and the store holds no table of a job. Any other tables may be there. -/
structure StartsEmpty (s : Service) : Prop where
  registry : s.store.table? Sql.jobsTable = some Registry.table
  unbacked : ∀ name, s.schema.IsBacking name → s.store.table? name = none

theorem StartsEmpty.sound (h : s.StartsEmpty) : Sound s.schema [] s.store [] where
  holds := ⟨h.registry, .nil, .nil, fun _ he => absurd he List.not_mem_nil⟩
  named := fun _ he => absurd he List.not_mem_nil
  apart := .nil
  owned := fun name hb hsome => by
    rw [h.unbacked name hb] at hsome
    exact Bool.noConfusion hsome
  done := fun _ he => absurd he List.not_mem_nil
  stuck := fun _ he => absurd he List.not_mem_nil

theorem Sound.tables_gone {before after : Store} {known drawn : List Ticket}
    {jobs jobs' : List (Int × Job)} {schema : Schema} (h : Sound schema known before jobs)
    (h' : Sound schema drawn after jobs') (hp : drawn.Pairwise Apart)
    (hsub : ∀ t ∈ known, t ∈ drawn) {e : Int × Job} (he : e ∈ jobs)
    (hid : ∀ f ∈ jobs', f.2.id ≠ e.2.id) {name : String} (hn : e.2.tables.Names name) :
    after.table? name = none := by
  obtain ⟨t, ht, het, htables⟩ := h.named e he
  rw [htables] at hn
  by_contra hsome
  obtain ⟨-, f, hf, hfn⟩ := h'.owned name ⟨t.suffix, hn⟩ (Option.isSome_iff_ne_none.2 hsome)
  obtain ⟨u, hu, hfu, hutables⟩ := h'.named f hf
  rw [hutables] at hfn
  obtain rfl := eq_of_sameName hp hu (hsub t ht) (JobTables.sameName_of_names hfn hn)
  exact hid f hf (hfu.trans het.symm)

theorem StartsEmpty.ofSite {tables : List Store.Table}
    (hstore : s.store = ⟨Registry.table :: tables⟩)
    (h : ∀ t ∈ tables, ∃ name, t.name = s.schema.table name ∧
      ¬ "csvexport_".toList <+: (Text.lowerAscii name).toList) : s.StartsEmpty := by
  refine ⟨by rw [hstore]; rfl, fun name hb => ?_⟩
  rw [hstore]
  refine List.find?_eq_none.2 fun t ht hsame => ?_
  rcases List.mem_cons.1 ht with rfl | ht
  · rw [show Registry.table.name = Sql.jobsTable from rfl, hb.ne_registry] at hsame
    exact Bool.noConfusion hsame
  · obtain ⟨x, hx, hstart⟩ := h t ht
    rw [hx, sameName_comm] at hsame
    exact Schema.not_isBacking_table hstart (hb.congr hsame)

/-- Over every run from an empty registry the backing tables are those of the registered jobs, and
a job that was deleted, purged or downloaded stays gone with its tables, unless a later ticket has
its id again. -/
theorem backing_tables_follow_jobs (s : Service) (hs : s.StartsEmpty) (actions : List Action)
    (hsuffix : (tickets actions).Pairwise Apart)
    (htime : ∀ t ∈ tickets actions, t.time.FourDigits) :
    (s.afterAll actions).InOrder ∧
      ∀ before action later, actions = before ++ action :: later →
        ∀ id, (s.afterAll before).Ends id action → (∀ t ∈ tickets later, t.id ≠ id) →
          (s.afterAll actions).Gone id ∧
            ∀ j, (s.afterAll before).getJob id = .ok j →
              (s.afterAll actions).store.table? j.tables.scratch = none ∧
                (s.afterAll actions).store.table? j.tables.result = none := by
  have sound (actions : List Action) (hp : (tickets actions).Pairwise Apart)
      (ht : ∀ t ∈ tickets actions, t.time.FourDigits) : ∃ jobs,
        Sound (s.afterAll actions).schema (tickets actions) (s.afterAll actions).store jobs := by
    obtain ⟨jobs, h, -⟩ := hs.sound.afterAll actions hp ht
    rw [schema_afterAll]
    exact ⟨jobs, h⟩
  refine ⟨?_, ?_⟩
  · obtain ⟨jobs, h⟩ := sound actions hsuffix htime
    exact h.inOrder
  · rintro before action later rfl id hends hlater
    rw [tickets_append, tickets_cons] at htime
    rw [tickets_append, tickets_cons, ← List.append_assoc] at hsuffix
    obtain ⟨htb, htime⟩ := List.forall_mem_append.1 htime
    obtain ⟨hta, htl⟩ := List.forall_mem_append.1 htime
    obtain ⟨hba, -, -⟩ := List.pairwise_append.1 hsuffix
    obtain ⟨hb, -, happart⟩ := List.pairwise_append.1 hba
    obtain ⟨jobs, h⟩ := sound before hb htb
    obtain ⟨jobs₁, hstep⟩ := h.after action happart hta
    have h₁ := hstep.sound
    rw [← schema_after] at h₁
    obtain ⟨jobs', h', hknown⟩ := h₁.afterAll later hsuffix htl
    have hnone : ∀ e ∈ jobs', e.2.id ≠ id := by
      intro e he
      rcases hknown e he with he | ⟨t, ht, hid⟩
      · exact hstep.ended id hends e he
      · exact hid ▸ hlater t ht
    rw [afterAll_append, afterAll_cons]
    refine ⟨Sound.gone (by rwa [schema_afterAll]) hnone, fun j hj => ?_⟩
    obtain ⟨e, he, rfl, rfl⟩ := (Registry.get_eq_ok h.holds).1 hj
    rw [schema_after] at h'
    have gone {name : String} (hn : e.2.tables.Names name) :=
      h.tables_gone h' hsuffix
        (fun t ht => List.mem_append_left _ (List.mem_append_left _ ht)) he hnone hn
    exact ⟨gone (.inl (sameName_self _)), gone (.inr (sameName_self _))⟩

/-! ## Two exports -/

def postTable : Store.Table :=
  ⟨"wp_posts", [.needed "ID" .integer, .free "post_type" .text], .integer,
    Store.Row.numbered [[.integer 1, .text "post"]]⟩

def site : Service := .ofStore ⟨"wp_"⟩ .standard 1000 ⟨[Registry.table, postTable]⟩

def noonOf (date : Date) : Instant :=
  ⟨date, 12, 0, 0, 0, by decide, by decide, by decide, by decide⟩

def idOf (digit : Nat) (h : digit < 16) : Uuid := ⟨List.replicate 32 ⟨digit, h⟩, rfl⟩

def firstTicket : Ticket :=
  ⟨idOf 1 (by decide), "a1", noonOf ⟨2024, 5, 6, by decide, by decide⟩, .quiet⟩

def secondTicket : Ticket :=
  ⟨idOf 2 (by decide), "b2", noonOf ⟨2024, 5, 7, by decide, by decide⟩, .quiet⟩

def posts : Request := ⟨"post", [⟨"default.ID", ""⟩], []⟩

/-- Of two exports the first is deleted. -/
def twoExports : List Action :=
  [.submit firstTicket posts 7, .submit secondTicket posts 7, .delete firstTicket.id]

theorem backing_tables_follow_jobs_twoExports :
    (site.afterAll twoExports).InOrder ∧
      (site.afterAll twoExports).Gone firstTicket.id := by
  have hstart : site.StartsEmpty := by
    refine StartsEmpty.ofSite rfl fun t ht => ⟨"posts", ?_, by decide⟩
    rw [List.mem_singleton.1 ht]
    decide
  have hsuffix : (tickets twoExports).Pairwise Apart := by
    refine List.pairwise_pair.2 (apart_of_ne ?_ ?_ ?_) <;> decide
  have htime : ∀ t ∈ tickets twoExports, t.time.FourDigits := by decide
  obtain ⟨horder, hgone⟩ := backing_tables_follow_jobs site hstart twoExports hsuffix htime
  have hends : (site.afterAll (twoExports.take 2)).Ends firstTicket.id
      (.delete firstTicket.id) := by rw [Ends]
  refine ⟨horder, (hgone _ _ [] rfl _ hends ?_).1⟩
  exact fun _ ht => absurd ht List.not_mem_nil

end SheetExport.Service
