import FormIntake.Proofs.Submission.Clients
/-!
# Interleaved clients

What every order of the clients' steps preserves. Ids are new when they are
stamped, so drafts and appended submissions never share one, and the ids deleted
with success tell which of the appended submissions are still held. That is the
invariant of a run, and what each step answers is read off it.
-/

namespace FormIntake

/-! ## Deleting from distinct ids -/

namespace MemoryStore

theorem split_of_delete {m rest : MemoryStore} {id : Text} (h : m.delete id = (true, rest)) :
    ∃ before s after, s.id.text = id ∧ m.submissions = before ++ s :: after ∧
      rest.submissions = before ++ after := by
  unfold delete at h
  split at h
  · rename_i fewer hfewer
    obtain ⟨before, s, after, hall, hrest, hid, -⟩ := (removal_of_withoutId? hfewer).split
    refine ⟨before, s, after, hid, hall, ?_⟩
    rw [← (Prod.mk.inj h).2, hrest]
  · cases h

theorem forall_ne_of_delete {m rest : MemoryStore} {id : Text} (h : m.delete id = (false, rest)) :
    (∀ s ∈ m.submissions, s.id.text ≠ id) ∧ rest = m := by
  unfold delete at h
  split at h
  · cases h
  · rename_i hnone
    exact ⟨(withoutId?_eq_none_iff _ _).1 hnone, (Prod.mk.inj h).2.symm⟩

theorem filter_text_ne {before after : List Submission} {s : Submission}
    (h : (Table.ids (before ++ s :: after)).Nodup) :
    (before ++ s :: after).filter (fun q => q.id.text ≠ s.id.text) = before ++ after := by
  rw [Table.ids, List.map_append, List.map_cons, List.nodup_middle, ← List.map_append,
    List.nodup_cons] at h
  have hothers : (before ++ after).filter (fun q => q.id.text ≠ s.id.text) = before ++ after := by
    rw [List.filter_eq_self]
    intro q hq
    apply decide_eq_true
    intro htext
    exact h.1 (Uuid.text_injective htext ▸ List.mem_map_of_mem hq)
  rw [List.filter_append, List.filter_cons_of_neg (by simp), ← List.filter_append, hothers]

end MemoryStore

/-! ## Runs of one store -/

namespace Store

def afterAll (store : Store) (steps : List StoreStep) : Store :=
  steps.foldl (fun before step => (before.answer step).2) store

theorem answers_concat (store : Store) (steps : List StoreStep) (step : StoreStep) :
    store.answers (steps ++ [step]) =
      store.answers steps ++ [((store.afterAll steps).answer step).1] := by
  induction steps generalizing store with
  | nil => rfl
  | cons first rest ih =>
      rw [List.cons_append, answers, answers, ih, List.cons_append]
      rfl

theorem afterAll_concat (store : Store) (steps : List StoreStep) (step : StoreStep) :
    store.afterAll (steps ++ [step]) = ((store.afterAll steps).answer step).2 := by
  rw [afterAll, List.foldl_append]
  rfl

end Store

namespace SharedStore

variable {κ : Type} {events : List (Event κ)}

/-! ## One more event -/

theorem appended_concat (events : List (Event κ)) (e : Event κ) :
    appended (events ++ [e]) = appended events ++ e.appended?.toList := by
  rw [appended, List.filterMap_append]
  cases e <;> rfl

theorem removed_concat (events : List (Event κ)) (e : Event κ) :
    removed (events ++ [e]) = removed events ++ e.removed?.toList := by
  rw [removed, List.filterMap_append]
  rcases e with _ | _ | _ | _ | ⟨_, _, _ | _⟩ | _ <;> rfl

theorem locked_concat (events : List (Event κ)) (e : Event κ) :
    locked (events ++ [e]) = locked events ++ e.locked?.toList := by
  rw [locked, List.filterMap_append]
  cases e <;> rfl

theorem held_concat_of_none (events : List (Event κ)) {e : Event κ} (happended : e.appended? = none)
    (hremoved : e.removed? = none) : held (events ++ [e]) = held events := by
  rw [held, appended_concat, removed_concat, happended, hremoved, Option.toList_none,
    Option.toList_none, List.append_nil, List.append_nil, held]

theorem held_concat_appended (client : κ) {s : Submission} (h : s.id.text ∉ removed events) :
    held (events ++ [.appended client s]) = held events ++ [s] := by
  rw [held, appended_concat, removed_concat]
  simp only [Event.appended?, Event.removed?, Option.toList_some, Option.toList_none,
    List.append_nil, List.filter_append, held]
  simp only [List.filter_cons, List.filter_nil, decide_eq_true h, if_true]

theorem held_concat_deleted (client : κ) (id : Text) :
    held (events ++ [.deleted client id true]) =
      (held events).filter fun s => s.id.text ≠ id := by
  rw [held, appended_concat, removed_concat, held, List.filter_filter]
  simp only [Event.appended?, Event.removed?, Option.toList_some, Option.toList_none,
    List.append_nil]
  refine List.filter_congr fun s _ => ?_
  simp only [List.mem_append, List.mem_singleton, not_or, Bool.decide_and, Bool.and_comm]

theorem held_sublist (events : List (Event κ)) : (held events).Sublist (appended events) :=
  List.filter_sublist

/-! ## Ids -/

/-- No id is used twice: not among the appended submissions, nor among the drafts, nor between
them; and every id in use has been given out. -/
structure Apart (rows : List Submission) (drafts : κ → Option Submission) (taken : List Uuid) :
    Prop where
  row_nodup : (Table.ids rows).Nodup
  row_taken : ∀ id ∈ Table.ids rows, id ∈ taken
  draft_taken : ∀ client s, drafts client = some s → s.id ∈ taken
  draft_new : ∀ client s, drafts client = some s → s.id ∉ Table.ids rows
  draft_owner : ∀ client other s s', drafts client = some s → drafts other = some s' →
    s.id = s'.id → client = other

theorem Apart.start : Apart [] (fun _ : κ => none) [] where
  row_nodup := List.nodup_nil
  row_taken id hid := absurd hid List.not_mem_nil
  draft_taken client s hs := by cases hs
  draft_new client s hs := by cases hs
  draft_owner client other s s' hs hs' := by cases hs

section Drafts

variable [DecidableEq κ] {drafts : κ → Option Submission} {client other : κ} {s s' : Submission}
  {rows : List Submission} {taken : List Uuid}

theorem draft_of_update_some (h : Function.update drafts client (some s) other = some s') :
    other = client ∧ s' = s ∨ drafts other = some s' := by
  by_cases hother : other = client
  · subst hother
    rw [Function.update_self, Option.some.injEq] at h
    exact Or.inl ⟨rfl, h.symm⟩
  · rw [Function.update_of_ne hother] at h
    exact Or.inr h

theorem draft_of_update_none (h : Function.update drafts client none other = some s') :
    other ≠ client ∧ drafts other = some s' := by
  by_cases hother : other = client
  · subst hother
    rw [Function.update_self] at h
    cases h
  · rw [Function.update_of_ne hother] at h
    exact ⟨hother, h⟩

theorem Apart.stamp (h : Apart rows drafts taken) (hfresh : s.id ∉ taken) :
    Apart rows (Function.update drafts client (some s)) (s.id :: taken) where
  row_nodup := h.row_nodup
  row_taken id hid := List.mem_cons_of_mem _ (h.row_taken id hid)
  draft_taken other s' hs' := by
    rcases draft_of_update_some hs' with ⟨-, rfl⟩ | hs'
    · exact List.mem_cons_self
    · exact List.mem_cons_of_mem _ (h.draft_taken other s' hs')
  draft_new other s' hs' := by
    rcases draft_of_update_some hs' with ⟨-, rfl⟩ | hs'
    · exact fun hmem => hfresh (h.row_taken _ hmem)
    · exact h.draft_new other s' hs'
  draft_owner first second s₁ s₂ hs₁ hs₂ hid := by
    rcases draft_of_update_some hs₁ with ⟨hfirst, rfl⟩ | hold₁
    · rcases draft_of_update_some hs₂ with ⟨hsecond, rfl⟩ | hold₂
      · rw [hfirst, hsecond]
      · exact absurd (hid ▸ h.draft_taken second s₂ hold₂) hfresh
    · rcases draft_of_update_some hs₂ with ⟨hsecond, rfl⟩ | hold₂
      · exact absurd (hid ▸ h.draft_taken first s₁ hold₁) hfresh
      · exact h.draft_owner first second s₁ s₂ hold₁ hold₂ hid

theorem Apart.append (h : Apart rows drafts taken) (hdraft : drafts client = some s) :
    Apart (rows ++ [s]) (Function.update drafts client none) taken := by
  have hmem : ∀ id, id ∈ Table.ids (rows ++ [s]) → id ∈ Table.ids rows ∨ id = s.id := by
    intro id hid
    rw [Table.ids, List.map_append, List.mem_append] at hid
    exact hid.imp_right List.mem_singleton.1
  constructor
  case row_nodup =>
    rw [Table.ids, List.map_append, List.map_singleton, ← List.concat_eq_append]
    exact h.row_nodup.concat (h.draft_new client s hdraft)
  case row_taken =>
    intro id hid
    rcases hmem id hid with hid | rfl
    · exact h.row_taken id hid
    · exact h.draft_taken client s hdraft
  case draft_taken =>
    exact fun other s' hs' => h.draft_taken other s' (draft_of_update_none hs').2
  case draft_new =>
    intro other s' hs' hid
    obtain ⟨hother, hs'⟩ := draft_of_update_none hs'
    rcases hmem s'.id hid with hid | hid
    · exact h.draft_new other s' hs' hid
    · exact hother (h.draft_owner other client s' s hs' hdraft hid)
  case draft_owner =>
    exact fun first second s₁ s₂ hs₁ hs₂ => h.draft_owner first second s₁ s₂
      (draft_of_update_none hs₁).2 (draft_of_update_none hs₂).2

end Drafts

variable {st st' : SharedStore κ} {e : Event κ}

/-! ## What is held -/

/-- The store in memory holds what the events tell, and its ids are distinct. -/
structure Kept (events : List (Event κ)) (st : SharedStore κ) : Prop where
  apart : Apart (appended events) st.drafts st.taken
  holds : st.memory.submissions = held events
  removed_nodup : (removed events).Nodup
  removed_appended : ∀ id ∈ removed events, ∃ s ∈ appended events, s.id.text = id
  count : (held events).length + (removed events).length = (appended events).length

theorem Kept.text_not_removed (h : Kept events st) {key : Uuid}
    (hkey : key ∉ Table.ids (appended events)) : key.text ∉ removed events := by
  intro hmem
  obtain ⟨s, hs, htext⟩ := h.removed_appended _ hmem
  exact hkey (Uuid.text_injective htext ▸ List.mem_map_of_mem hs)

theorem Kept.held_nodup (h : Kept events st) : (Table.ids (held events)).Nodup :=
  h.apart.row_nodup.sublist ((held_sublist events).map _)

theorem Kept.of_unchanged (h : Kept events st) (happended : e.appended? = none)
    (hremoved : e.removed? = none) (hmemory : st'.memory = st.memory)
    (hapart : Apart (appended events) st'.drafts st'.taken) : Kept (events ++ [e]) st' := by
  have hsame : appended (events ++ [e]) = appended events := by
    rw [appended_concat, happended, Option.toList_none, List.append_nil]
  have hsame' : removed (events ++ [e]) = removed events := by
    rw [removed_concat, hremoved, Option.toList_none, List.append_nil]
  have hheld := held_concat_of_none events happended hremoved
  refine ⟨?_, ?_, ?_, ?_, ?_⟩
  · rwa [hsame]
  · rw [hheld, hmemory, h.holds]
  · rw [hsame']
    exact h.removed_nodup
  · rw [hsame, hsame']
    exact h.removed_appended
  · rw [hsame, hsame', hheld]
    exact h.count

theorem Kept.of_appended (h : Kept events st) {client : κ} {s : Submission}
    (hdraft : st.drafts client = some s) (hmemory : st'.memory = st.memory.append s)
    (hapart : Apart (appended events ++ [s]) st'.drafts st'.taken) :
    Kept (events ++ [.appended client s]) st' := by
  have hmore : appended (events ++ [.appended client s]) = appended events ++ [s] :=
    appended_concat events _
  have hsame : removed (events ++ [.appended client s]) = removed events := by
    rw [removed_concat]
    exact List.append_nil _
  have hheld := held_concat_appended client
    (h.text_not_removed (h.apart.draft_new client s hdraft))
  refine ⟨?_, ?_, ?_, ?_, ?_⟩
  · rwa [hmore]
  · rw [hheld, hmemory, MemoryStore.append, h.holds]
  · rw [hsame]
    exact h.removed_nodup
  · rw [hsame, hmore]
    intro id hid
    obtain ⟨q, hq, htext⟩ := h.removed_appended id hid
    exact ⟨q, List.mem_append_left _ hq, htext⟩
  · have hcount := h.count
    rw [hheld, hsame, hmore, List.length_append, List.length_append]
    omega

theorem Kept.of_deleted (h : Kept events st) (client : κ) {s : Submission}
    {before after : List Submission} (hsplit : st.memory.submissions = before ++ s :: after)
    (hrest : st'.memory.submissions = before ++ after)
    (hapart : Apart (appended events) st'.drafts st'.taken) :
    Kept (events ++ [.deleted client s.id.text true]) st' := by
  have hsame : appended (events ++ [.deleted client s.id.text true]) = appended events := by
    rw [appended_concat]
    exact List.append_nil _
  have hmore : removed (events ++ [.deleted client s.id.text true]) =
      removed events ++ [s.id.text] :=
    removed_concat events _
  have hheld : held (events ++ [.deleted client s.id.text true]) = before ++ after := by
    have hnodup := h.held_nodup
    rw [← h.holds, hsplit] at hnodup
    rw [held_concat_deleted, ← h.holds, hsplit, MemoryStore.filter_text_ne hnodup]
  have hmem : s ∈ held events := by
    rw [← h.holds, hsplit]
    exact List.mem_append_right _ List.mem_cons_self
  have hnot : s.id.text ∉ removed events := of_decide_eq_true (List.mem_filter.1 hmem).2
  refine ⟨?_, ?_, ?_, ?_, ?_⟩
  · rwa [hsame]
  · rw [hheld, hrest]
  · rw [hmore, ← List.concat_eq_append]
    exact h.removed_nodup.concat hnot
  · rw [hmore, hsame, List.forall_mem_append, List.forall_mem_singleton]
    exact ⟨h.removed_appended, s, (held_sublist events).mem hmem, rfl⟩
  · have hcount := h.count
    rw [← h.holds, hsplit] at hcount
    rw [hheld, hmore, hsame]
    simp only [List.length_append, List.length_cons, List.length_nil] at hcount ⊢
    omega

variable [DecidableEq κ]

theorem Kept.step (h : Kept events st) (hstep : Step st e st') : Kept (events ++ [e]) st' := by
  cases hstep with
  | edits client document => exact h.of_unchanged rfl rfl rfl h.apart
  | stamps hidle hfresh hdata hcopied =>
      exact h.of_unchanged rfl rfl rfl (h.apart.stamp hfresh)
  | refuses hidle hdeep => exact h.of_unchanged rfl rfl rfl h.apart
  | appends hdraft => exact h.of_appended hdraft rfl (h.apart.append hdraft)
  | @deletes client id found rest hidle hdelete =>
      cases found with
      | true =>
          obtain ⟨before, s, after, rfl, hsplit, hrest⟩ := MemoryStore.split_of_delete hdelete
          exact h.of_deleted client hsplit hrest h.apart
      | false =>
          obtain ⟨-, rfl⟩ := MemoryStore.forall_ne_of_delete hdelete
          exact h.of_unchanged rfl rfl rfl h.apart
  | lists r hidle => exact h.of_unchanged rfl rfl rfl h.apart

theorem Run.kept (h : Run events st) : Kept events st := by
  induction h with
  | start documents =>
      exact ⟨Apart.start, rfl, List.nodup_nil, fun id hid => absurd hid List.not_mem_nil, rfl⟩
  | step hrun hstep ih => exact ih.step hstep

/-- What a step answers is right for what the store holds at that step. -/
theorem Step.outcome (h : Step st e st') (hkept : Kept events st) :
    e.Outcome st.memory.submissions st'.memory.submissions := by
  cases h with
  | edits client document => exact rfl
  | stamps hidle hfresh hdata hcopied => exact rfl
  | refuses hidle hdeep => exact rfl
  | @appends client s hdraft =>
      refine ⟨fun hmem => hkept.apart.draft_new client s hdraft ?_, rfl⟩
      rw [hkept.holds] at hmem
      exact ((held_sublist events).map Submission.id).mem hmem
  | @deletes client id found rest hidle hdelete =>
      cases found with
      | true => exact MemoryStore.split_of_delete hdelete
      | false =>
          obtain ⟨hnone, rfl⟩ := MemoryStore.forall_ne_of_delete hdelete
          exact ⟨hnone, rfl⟩
  | lists r hidle => exact ⟨rfl, rfl, _, r.order.sorts_sort _, rfl⟩

/-! ## Drafts -/

theorem Step.draft_or_stamped {client : κ} {s : Submission} (h : Step st e st')
    (hdraft : st'.drafts client = some s) :
    st.drafts client = some s ∨ e = .stamped client s := by
  cases h with
  | edits _ _ | refuses _ _ | deletes _ _ | lists _ _ => exact Or.inl hdraft
  | stamps hidle hfresh hdata hcopied =>
      rcases draft_of_update_some hdraft with ⟨rfl, rfl⟩ | hold
      · exact Or.inr rfl
      · exact Or.inl hold
  | appends _ => exact Or.inl (draft_of_update_none hdraft).2

/-- A client that has a draft does not use the store but to append it. -/
theorem Step.draft_or_appended {client : κ} {s : Submission} (h : Step st e st')
    (hdraft : st.drafts client = some s) :
    st'.drafts client = some s ∧ e.caller? ≠ some client ∨ e = .appended client s := by
  have hbusy : ∀ {other}, st.drafts other = none → client ≠ other := by
    rintro other hidle rfl
    rw [hidle] at hdraft
    cases hdraft
  cases h with
  | edits _ _ => exact Or.inl ⟨hdraft, nofun⟩
  | refuses hidle _ | deletes hidle _ | lists _ hidle =>
      exact Or.inl ⟨hdraft, fun hcaller => hbusy hidle (Option.some.inj hcaller).symm⟩
  | stamps hidle hfresh hdata hcopied =>
      refine Or.inl ⟨?_, fun hcaller => hbusy hidle (Option.some.inj hcaller).symm⟩
      exact (Function.update_of_ne (hbusy hidle) _ _).trans hdraft
  | @appends other s' hother =>
      by_cases hclient : client = other
      · subst hclient
        rw [hother, Option.some.injEq] at hdraft
        exact Or.inr (hdraft ▸ rfl)
      · refine Or.inl ⟨?_, fun hcaller => hclient (Option.some.inj hcaller).symm⟩
        exact (Function.update_of_ne hclient _ _).trans hdraft

theorem Stamped.concat {client : κ} {s : Submission} (h : Stamped events client s)
    (hother : e.caller? ≠ some client) : Stamped (events ++ [e]) client s := by
  obtain ⟨before, since, mid, next, hsplit, hrun, hstep, hfresh, hdata, hsince⟩ := h
  refine ⟨before, since ++ [e], mid, next, ?_, hrun, hstep, hfresh, hdata, ?_⟩
  · rw [hsplit, List.append_assoc, List.cons_append]
  · rw [List.forall_mem_append, List.forall_mem_singleton]
    exact ⟨hsince, hother⟩

theorem Run.stamped_of_draft (h : Run events st) {client : κ} {s : Submission}
    (hdraft : st.drafts client = some s) : Stamped events client s := by
  induction h with
  | start documents => cases hdraft
  | @step events st st' e hrun hstep ih =>
      rcases hstep.draft_or_stamped hdraft with hold | rfl
      · rcases hstep.draft_or_appended hold with ⟨-, hother⟩ | rfl
        · exact (ih hold).concat hother
        · cases hstep with
          | appends _ => exact absurd rfl (draft_of_update_none hdraft).1
      · refine ⟨events, [], st, st', rfl, hrun, hstep, ?_⟩
        cases hstep with
        | stamps hidle hfresh hdata hcopied =>
            exact ⟨hfresh, hdata, fun e he => absurd he List.not_mem_nil⟩

theorem Run.appended_or_draft (h : Run events st) {client : κ} {s : Submission}
    (hstamped : .stamped client s ∈ events) :
    s ∈ appended events ∨ st.drafts client = some s := by
  induction h with
  | start documents => cases hstamped
  | @step events st st' e hrun hstep ih =>
      rw [appended_concat, List.mem_append]
      rcases List.mem_append.1 hstamped with hbefore | hlast
      · rcases ih hbefore with happended | hdraft
        · exact Or.inl (Or.inl happended)
        · rcases hstep.draft_or_appended hdraft with ⟨hdraft', -⟩ | rfl
          · exact Or.inr hdraft'
          · exact Or.inl (Or.inr List.mem_cons_self)
      · obtain rfl := List.mem_singleton.1 hlast
        cases hstep with
        | stamps hidle hfresh hdata hcopied => exact Or.inr (Function.update_self _ _ _)

/-- Only what could be copied becomes a draft. -/
theorem Run.nesting_of_draft (h : Run events st) {client : κ} {s : Submission}
    (hdraft : st.drafts client = some s) : s.data.nesting ≤ Json.copyDepth := by
  obtain ⟨before, since, mid, next, -, -, hstep, -⟩ := h.stamped_of_draft hdraft
  cases hstep with
  | stamps hidle hfresh hdata hcopied => exact hcopied

/-! ## The moments of a run -/

theorem Run.moment (h : Run events st) {before after : List (Event κ)}
    (hsplit : events = before ++ e :: after) :
    ∃ mid next, Run before mid ∧ Step mid e next := by
  induction h generalizing after with
  | start documents =>
      exact absurd hsplit.symm (List.append_ne_nil_of_right_ne_nil _ (List.cons_ne_nil _ _))
  | @step events st st' last hrun hstep ih =>
      rcases List.eq_nil_or_concat after with rfl | ⟨fewer, final, rfl⟩
      · obtain ⟨rfl, hlast⟩ := List.append_inj' hsplit rfl
        obtain rfl := (List.cons.inj hlast).1
        exact ⟨st, st', hrun, hstep⟩
      · rw [List.concat_eq_append, ← List.cons_append, ← List.append_assoc] at hsplit
        exact ih (List.append_inj' hsplit rfl).1

/-! ## One client in place of all -/

/-- A step under the lock is a step of the store, and every other step leaves the store alone. -/
theorem Step.locked (h : Step st e st')
    (hshallow : ∀ client s, st.drafts client = some s → s.data.nesting ≤ Json.copyDepth) :
    e.locked? = none ∧ st'.memory = st.memory ∨
      ∃ step answer, e.locked? = some (step, answer) ∧
        (Store.memory st.memory).answer step = (answer, .memory st'.memory) := by
  cases h with
  | edits _ _ | stamps _ _ _ _ | refuses _ _ => exact Or.inl ⟨rfl, rfl⟩
  | @appends client s hdraft =>
      refine Or.inr ⟨_, _, rfl, ?_⟩
      simp only [Store.answer, Store.create, MemoryStore.create, if_pos (hshallow client s hdraft)]
      rfl
  | lists _ _ => exact Or.inr ⟨_, _, rfl, rfl⟩
  | deletes hidle hdelete =>
      refine Or.inr ⟨_, _, rfl, ?_⟩
      simp only [Store.answer, Store.delete, hdelete]

theorem Run.sequential (h : Run events st) :
    (Store.memory .empty).answers ((SharedStore.locked events).map Prod.fst) =
        (SharedStore.locked events).map Prod.snd ∧
      (Store.memory .empty).afterAll ((SharedStore.locked events).map Prod.fst) =
        .memory st.memory := by
  induction h with
  | start documents => exact ⟨rfl, rfl⟩
  | @step events st st' e hrun hstep ih =>
      obtain ⟨hanswers, hafter⟩ := ih
      rw [locked_concat]
      rcases hstep.locked fun _ _ => hrun.nesting_of_draft with
        ⟨hnone, hmemory⟩ | ⟨step, answer, hsome, hstore⟩
      · rw [hnone, Option.toList_none, List.append_nil, hmemory]
        exact ⟨hanswers, hafter⟩
      · rw [hsome, Option.toList_some, List.map_append, List.map_append, List.map_singleton,
          List.map_singleton, Store.answers_concat, Store.afterAll_concat, hanswers, hafter, hstore]
        exact ⟨rfl, rfl⟩

/-- However the steps of the clients come, the store in memory behaves as if one client had asked
for one thing after the other. -/
theorem interleaved_run_linearizes (h : Run events st) : Linearized events st := by
  have hkept := h.kept
  constructor
  case holds => exact hkept.holds
  case ids_nodup => exact hkept.apart.row_nodup
  case appends =>
    intro before client s after hsplit
    obtain ⟨mid, next, hrun, hstep⟩ := h.moment hsplit
    cases hstep with
    | appends hdraft => exact hrun.stamped_of_draft hdraft
  case keeps => exact fun client s hstamped => h.appended_or_draft hstamped
  case each =>
    intro before e after hsplit
    obtain ⟨mid, next, hrun, hstep⟩ := h.moment hsplit
    exact ⟨mid, next, hrun, hstep, hrun.kept.holds, (hrun.step hstep).kept.holds,
      hstep.outcome hrun.kept⟩
  case removed_nodup => exact hkept.removed_nodup
  case total =>
    intro r
    have hcount := hkept.count
    rw [← hkept.holds] at hcount
    exact hcount
  case sequential => exact h.sequential.1

/-! ## Two clients -/

def early (id : Uuid) : Submission :=
  ⟨id, 10, .bool false⟩

def late (id : Uuid) : Submission :=
  ⟨id, 20, .bool true⟩

/-- Two clients get in each other's way: one stamps, changes its document and appends while the
other one creates, and both delete the same id. -/
def twoClients (first second : Uuid) : List (Event Bool) :=
  [.stamped false (early first), .stamped true (late second), .edited false .null,
    .appended true (late second), .appended false (early first),
    .listed true (MemoryStore.list ⟨[late second, early first]⟩
      ⟨.number 1, .number 1, .ascending⟩),
    .deleted false second.text true, .deleted true second.text false]

theorem two_clients_linearize :
    ∃ st, Run (twoClients 1 2) st ∧ st.memory.submissions = [early 1] ∧
      Linearized (twoClients 1 2) st := by
  have hdelete : MemoryStore.delete ⟨[late 2, early 1]⟩ (Uuid.text 2) = (true, ⟨[early 1]⟩) := by
    simp [MemoryStore.delete, MemoryStore.withoutId?, late]
  have hmiss : MemoryStore.delete ⟨[early 1]⟩ (Uuid.text 2) = (false, ⟨[early 1]⟩) := by
    have hne : Uuid.text 1 ≠ Uuid.text 2 := fun h => absurd (Uuid.text_injective h) (by decide)
    simp [MemoryStore.delete, MemoryStore.withoutId?, early, hne]
  have hstart := Run.start fun client : Bool => .bool client
  have hstamped := hstart.step
    (.stamps rfl (by decide) rfl (by decide) : Step _ (.stamped false (early 1)) _)
  have hboth := hstamped.step
    (.stamps rfl (by decide) rfl (by decide) : Step _ (.stamped true (late 2)) _)
  have hedited := hboth.step (.edits false .null)
  have hlate := hedited.step (.appends rfl : Step _ (.appended true (late 2)) _)
  have hearly := hlate.step (.appends rfl : Step _ (.appended false (early 1)) _)
  have hlisted := hearly.step
    (.lists ⟨.number 1, .number 1, .ascending⟩ rfl : Step _ (.listed true _) _)
  have hdeleted := hlisted.step (.deletes rfl hdelete : Step _ (.deleted false _ _) _)
  have hrun := hdeleted.step (.deletes rfl hmiss : Step _ (.deleted true _ _) _)
  exact ⟨_, hrun, rfl, interleaved_run_linearizes hrun⟩

end SharedStore

end FormIntake
