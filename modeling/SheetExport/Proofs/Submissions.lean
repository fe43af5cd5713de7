import SheetExport.Proofs.BackingTables

/-!
# Submissions

A submission has its effect as a whole or not at all. What can stand in its way is known before
anything is written: a fault of the request, or a tag filter whose rule asks for an order.
-/

namespace SheetExport

open Registry (Holds)
open Sql (Statement)

/-! ## Valid requests -/

theorem Request.validate_eq_ok {r : Request} {e : Export} :
    r.validate = .ok e ↔
      Check.run "objectType" (some r.objectType) [.required, .atMost Export.typeNameLimit] =
          .ok () ∧ r.fields ≠ [] ∧ r.objectType = e.typeName ∧
        r.fields.mapM RequestedField.classify = .ok e.fields ∧
        r.filters.mapM RequestedFilter.classify = .ok e.filters := by
  obtain ⟨typeName, fields, filters⟩ := e
  unfold Request.validate
  cases Check.run "objectType" (some r.objectType) [.required, .atMost Export.typeNameLimit] with
  | error fault => simp [bind, Except.bind]
  | ok u =>
    cases hr : r.fields with
    | nil => simp [bind, Except.bind, throw, throwThe, MonadExceptOf.throw]
    | cons field rest =>
      simp only [bind, Except.bind, List.isEmpty_cons, Bool.false_eq_true, if_false, pure,
        Except.pure]
      cases (field :: rest).mapM RequestedField.classify with
      | error fault => simp
      | ok fields => cases r.filters.mapM RequestedFilter.classify <;> simp

theorem Request.fields_ne_nil_of_validate {r : Request} {e : Export} (h : r.validate = .ok e) :
    e.fields ≠ [] := by
  obtain ⟨-, hne, -, hfields, -⟩ := validate_eq_ok.1 h
  cases hr : r.fields with
  | nil => exact absurd hr hne
  | cons field rest =>
    rw [hr, List.mapM_cons] at hfields
    cases hf : field.classify with
    | error fault => simp [hf, bind, Except.bind] at hfields
    | ok first =>
      cases hm : rest.mapM RequestedField.classify with
      | error fault => simp [hf, hm, bind, Except.bind] at hfields
      | ok others =>
        simp only [hf, hm, bind, Except.bind, pure, Except.pure, Except.ok.injEq] at hfields
        rw [← hfields]
        exact List.cons_ne_nil _ _

/-! ## The batch of a new job -/

/-- However far a batch comes, no job but its own has changed. -/
theorem Batch.Along.run {s₀ s : Store} {o : Store.Occasion} {jobs : List (Int × Job)} {id : Uuid}
    {tables : JobTables} {status : Status} (h : Along s₀ jobs id tables s status)
    (hs : tables.Separate) (hid : (jobs.any fun e => e.2.id = id) = true) {t : EntityType}
    {q : Sql.Selection} {p : Sql.Projection} : ∀ {statements : List Statement},
    statements ⊆ (Plan.ofSelection t tables q p).statements id →
    ∃ status', Along s₀ jobs id tables (Batch.run s o id statements) status' := by
  intro statements
  induction statements generalizing s status with
  | nil => exact fun _ => ⟨status, h⟩
  | cons statement rest ih =>
    intro hsub
    cases hstep : Batch.step? s o id statement with
    | none => exact ⟨status, by rw [run_cons_of_none hstep]; exact h⟩
    | some s' =>
      obtain ⟨status', h'⟩ := h.statement hs hid (hsub List.mem_cons_self)
        ((h.step? hid statement).symm.trans hstep)
      rw [run_cons_of_some hstep]
      exact ih h' fun x hx => hsub (List.mem_cons_of_mem _ hx)

namespace Service

/-- The registry is there with the jobs it holds, and takes a job with the id and time of a
ticket. -/
structure Writable (s : Service) (ticket : Ticket) (jobs : List (Int × Job)) : Prop where
  holds : Holds s.store jobs
  unknown : ∀ e ∈ jobs, e.2.id ≠ ticket.id
  timed : ticket.time.FourDigits

/-- A plan is compiled for an export and its job registered. The others are as they were, also when
the batch of the plan has ended. -/
structure Registers (s : Service) (ticket : Ticket) (e : Export) (owner : Int)
    (jobs : List (Int × Job)) (plan : Plan) (n : Int) (j : Job) (store : Store) : Prop where
  compiled : s.compile ticket e = .ok plan
  id : j.id = ticket.id
  owner : j.owner = owner
  label : j.label = (s.schema.entityType e.typeName).label
  tables : j.tables = plan.tables
  created : Registry.create s.store j = .ok store
  holds : Holds store (jobs ++ [(n, j)])
  ended : ∃ status, Holds (Batch.run store ticket.occasion ticket.id (plan.statements ticket.id))
    (jobs ++ [(n, { j with status := status })])

variable {s : Service} {ticket : Ticket} {r : Request} {e : Export} {owner : Int}

theorem submit_invalid {fault : RequestFault} (h : r.validate = .error fault) :
    s.submit ticket r owner = (s, .error (.request fault)) := by
  simp only [submit, h]

theorem submit_uncompiled (h : r.validate = .ok e) {fault : JobFault}
    (hc : s.compile ticket e = .error fault) : s.submit ticket r owner = (s, .error fault) := by
  simp only [submit, h, submitExport, hc]

theorem compile_supported (s : Service) (ticket : Ticket) (h : r.validate = .ok e)
    (hf : ∀ f ∈ e.filters, ¬ f.Unsupported) :
    ∃ q p, s.compile ticket e = .ok (Plan.ofSelection (s.schema.entityType e.typeName)
      (.ofSuffix s.schema ticket.suffix) q p) := by
  obtain ⟨parts, hparts⟩ : ∃ parts, (s.schema.entityType e.typeName).fragmentsFrom
      s.schema.tagTables 0 e.filters = .ok parts := EntityType.fragmentsFrom_supported hf 0
  exact ⟨_, _, Plan.compile_eq_ok.2 ⟨Request.fields_ne_nil_of_validate h, parts, hparts, rfl⟩⟩

theorem compile_unsupported (h : r.validate = .ok e) {before after : List Filter} {f : Filter}
    (he : e.filters = before ++ f :: after) (hf : f.Unsupported)
    (hb : ∀ g ∈ before, ¬ g.Unsupported) :
    s.compile ticket e = .error (.unsupportedRule f.field.key f.rule.text) := by
  have hfields : e.fields.isEmpty = false := by
    simpa using Request.fields_ne_nil_of_validate h
  unfold compile Plan.compile
  rw [hfields, he]
  dsimp only [Bool.false_eq_true, if_false]
  rw [EntityType.fragmentsFrom_unsupported hf hb 0]
  rfl

theorem submit_unchanged {fault : JobFault} (h : (s.submit ticket r owner).2 = .error fault) :
    (s.submit ticket r owner).1 = s := by
  unfold submit at h ⊢
  cases hv : r.validate with
  | error cause => rfl
  | ok e =>
    simp only [hv, submitExport] at h ⊢
    cases hc : s.compile ticket e with
    | error cause => rfl
    | ok plan =>
      simp only [hc] at h ⊢
      cases hs : Registry.create s.store (jobOf plan ticket owner) with
      | error cause => rfl
      | ok store => simp [hs] at h

theorem Writable.registers {jobs : List (Int × Job)} (h : s.Writable ticket jobs)
    {q : Sql.Selection} {p : Sql.Projection} {plan : Plan}
    (hp : plan = .ofSelection (s.schema.entityType e.typeName)
      (.ofSuffix s.schema ticket.suffix) q p)
    (hc : s.compile ticket e = .ok plan) (owner : Int) :
    ∃ n store, s.Registers ticket e owner jobs plan n (jobOf plan ticket owner) store := by
  subst hp
  have hlabel : (jobOf (Plan.ofSelection (s.schema.entityType e.typeName)
      (.ofSuffix s.schema ticket.suffix) q p) ticket owner).label =
        (s.schema.entityType e.typeName).label := rfl
  have howner : (jobOf (Plan.ofSelection (s.schema.entityType e.typeName)
      (.ofSuffix s.schema ticket.suffix) q p) ticket owner).owner = owner := rfl
  obtain ⟨hid, htables, hstatus, htime⟩ := jobOf_ofSelection (s.schema.entityType e.typeName)
    (.ofSuffix s.schema ticket.suffix) q p ticket owner
  generalize jobOf _ ticket owner = j at hid htables hstatus htime hlabel howner ⊢
  have hnew : (jobs.any fun e => e.2.id = j.id) = false := by
    rw [List.any_eq_false, hid]
    simpa using h.unknown
  have happended := h.holds.appended hnew (htime ▸ h.timed)
  have hcreated := Registry.create_eq h.holds j
  rw [hnew] at hcreated
  obtain ⟨status, halong⟩ := (Batch.along_start happended
    (List.mem_append_right jobs (List.mem_singleton_self _)) (.ofSuffix s.schema ticket.suffix)).run
      (JobTables.separate_ofSuffix s.schema ticket.suffix) (by simp)
      (List.Subset.refl ((Plan.ofSelection (s.schema.entityType e.typeName) _ q p).statements j.id))
  have hended := halong.holds
  rw [map_withStatus_new hnew] at hended
  exact ⟨_, _, hc, hid, howner, hlabel, htables, hcreated, happended, status, hid ▸ hended⟩

theorem exists_first_unsupported {filters : List Filter} (h : ∃ f ∈ filters, f.Unsupported) :
    ∃ before f after, filters = before ++ f :: after ∧ f.Unsupported ∧
      ∀ g ∈ before, ¬ g.Unsupported := by
  induction filters with
  | nil => simp at h
  | cons f rest ih =>
    by_cases hf : f.Unsupported
    · exact ⟨[], f, rest, rfl, hf, by simp⟩
    · obtain ⟨before, g, after, hrest, hg, hb⟩ := ih (by simpa [hf] using h)
      exact ⟨f :: before, g, after, by rw [hrest]; rfl, hg, List.forall_mem_cons.2 ⟨hf, hb⟩⟩

theorem submit_unsupported (h : r.validate = .ok e) {before after : List Filter} {f : Filter}
    (he : e.filters = before ++ f :: after) (hf : f.Unsupported)
    (hb : ∀ g ∈ before, ¬ g.Unsupported) : s.submit ticket r owner =
      (s, .error (.unsupportedRule ("tag." ++ f.field.name) f.rule.text)) := by
  have hkey : f.field.key = "tag." ++ f.field.name := by
    rw [Field.key, hf.1]
    rfl
  rw [← hkey]
  exact submit_uncompiled h (compile_unsupported h he hf hb)

theorem submit_supported (owner : Int) {jobs : List (Int × Job)} (hw : s.Writable ticket jobs)
    (h : r.validate = .ok e) (hf : ∀ f ∈ e.filters, ¬ f.Unsupported) :
    ∃ plan n j store, s.Registers ticket e owner jobs plan n j store ∧ s.submit ticket r owner =
      ({ s with store := Batch.run store ticket.occasion ticket.id (plan.statements ticket.id) },
        .ok ticket.id) := by
  obtain ⟨q, p, hc⟩ := compile_supported s ticket h hf
  obtain ⟨n, store, hreg⟩ := hw.registers rfl hc owner
  refine ⟨_, n, _, store, hreg, ?_⟩
  simp only [submit, h, submitExport, hc, hreg.created]

/-- A submission fails for a fault of its request, or else for its first unsupported filter, and
then nothing has changed. Otherwise it registers one job and changes no other. -/
theorem submit_all_or_nothing (s : Service) (ticket : Ticket) (r : Request) (owner : Int) :
    (∀ fault, (s.submit ticket r owner).2 = .error fault → (s.submit ticket r owner).1 = s) ∧
    (∀ fault, r.validate = .error fault →
      s.submit ticket r owner = (s, .error (.request fault))) ∧
    (∀ e before f after, r.validate = .ok e → e.filters = before ++ f :: after →
      f.Unsupported → (∀ g ∈ before, ¬ g.Unsupported) → s.submit ticket r owner =
        (s, .error (.unsupportedRule ("tag." ++ f.field.name) f.rule.text))) ∧
    ∀ jobs, s.Writable ticket jobs →
      ((∃ fault, (s.submit ticket r owner).2 = .error fault) ↔
        (∃ fault, r.validate = .error fault) ∨
          ∃ e, r.validate = .ok e ∧ ∃ f ∈ e.filters, f.Unsupported) ∧
      ∀ e, r.validate = .ok e → (∀ f ∈ e.filters, ¬ f.Unsupported) →
        ∃ plan n j store, s.Registers ticket e owner jobs plan n j store ∧
          s.submit ticket r owner =
            ({ s with
                store := Batch.run store ticket.occasion ticket.id (plan.statements ticket.id) },
              .ok ticket.id) := by
  refine ⟨fun _ h => submit_unchanged h, fun _ h => submit_invalid h,
    fun _ _ _ _ hv he hf hb => submit_unsupported hv he hf hb,
    fun jobs hw => ⟨⟨fun ⟨fault, hfault⟩ => ?_, ?_⟩,
      fun e hv hf => submit_supported owner hw hv hf⟩⟩
  · cases hv : r.validate with
    | error cause => exact .inl ⟨cause, rfl⟩
    | ok e =>
      refine .inr ⟨e, rfl, ?_⟩
      by_contra hnone
      obtain ⟨_, _, _, _, -, hok⟩ := submit_supported owner hw hv
        fun f hf hu => hnone ⟨f, hf, hu⟩
      rw [hok] at hfault
      exact absurd hfault (by simp)
  · rintro (⟨fault, hv⟩ | ⟨e, hv, hex⟩)
    · exact ⟨_, congrArg Prod.snd (submit_invalid hv)⟩
    · obtain ⟨before, f, after, he, hf, hb⟩ := exists_first_unsupported hex
      exact ⟨_, congrArg Prod.snd (submit_unsupported hv he hf hb)⟩

/-! ## Submissions to a site -/

theorem writable_site : site.Writable firstTicket [] where
  holds := ⟨rfl, List.Pairwise.nil, List.Pairwise.nil, by simp⟩
  unknown := by simp
  timed := by decide

/-- Posts of a colour, whose shade is asked for by a rule of its own. -/
def redPosts (rule : String) : Request :=
  ⟨"post", [⟨"default.ID", ""⟩],
    [⟨"tag.color", "contains", some "red", none⟩, ⟨"taxonomy.shade", rule, some "red", none⟩]⟩

def redExport (rule : Rule) : Export :=
  ⟨"post", [⟨.fixed, "ID", ""⟩],
    [⟨⟨.tag, "color", ""⟩, .contains, some "red", none⟩,
      ⟨⟨.tag, "shade", ""⟩, rule, some "red", none⟩]⟩

theorem submit_all_or_nothing_site :
    site.submit firstTicket ⟨"post", [], []⟩ 7 = (site, .error (.request (.required "fields"))) ∧
    site.submit firstTicket (redPosts "=") 7 = (site, .error (.unsupportedRule "tag.shade" "eq")) ∧
    ∃ plan n j store, site.Registers firstTicket (redExport .contains) 7 [] plan n j store ∧
      site.submit firstTicket (redPosts "LIKE") 7 =
        ({ site with
            store := Batch.run store .quiet firstTicket.id (plan.statements firstTicket.id) },
          .ok firstTicket.id) := by
  obtain ⟨-, hinvalid, -, -⟩ := submit_all_or_nothing site firstTicket ⟨"post", [], []⟩ 7
  obtain ⟨-, -, hunsupported, -⟩ := submit_all_or_nothing site firstTicket (redPosts "=") 7
  obtain ⟨-, -, -, hregisters⟩ := submit_all_or_nothing site firstTicket (redPosts "LIKE") 7
  have hordering : (redPosts "=").validate = .ok (redExport (.compare .eq)) := by decide
  have hcontains : (redPosts "LIKE").validate = .ok (redExport .contains) := by decide
  exact ⟨hinvalid _ (by decide), hunsupported _ [_] _ [] hordering rfl (by decide) (by decide),
    (hregisters [] writable_site).2 _ hcontains (by decide)⟩

end Service

end SheetExport
