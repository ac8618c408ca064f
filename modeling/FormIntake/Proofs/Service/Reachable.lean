import FormIntake.Proofs.Json.Reader
import FormIntake.Proofs.Json.Texts
import FormIntake.Proofs.Onboarding
import FormIntake.Proofs.Service.Step
import FormIntake.Proofs.Uuid
/-!
# Reachable states

The states that a service comes to by answering requests, and what holds in all
of them: the form is the onboarding form, the keys of the database are
distinct, the submissions have ids that were taken, in the order in which they
were taken, and no object in their data has a key twice.
-/

namespace FormIntake

namespace Request

variable {r : Request} {json : Json}

theorem read_of_payload (h : r.payload = .ok json) :
    json = .null ∨ ∃ t, Json.read .guarded t = .ok json := by
  unfold payload at h
  split at h
  · exact Or.inl (Except.ok.inj h).symm
  split at h
  · cases h
  split at h
  · rename_i hread
    rw [← Except.ok.inj h]
    exact Or.inr ⟨_, hread⟩
  · cases h
  · cases h

theorem integerDigits_of_payload (h : r.payload = .ok json) :
    json.integerDigits ≤ Numeral.digitLimit := by
  obtain rfl | ⟨t, hread⟩ := read_of_payload h
  · exact Nat.zero_le _
  · exact Json.integerDigits_of_read hread

theorem distinctKeys_of_payload (h : r.payload = .ok json) : json.DistinctKeys := by
  obtain rfl | ⟨t, hread⟩ := read_of_payload h
  · exact .null
  · exact Json.distinctKeys_of_read hread

end Request

theorem Store.distinctKeys_kept (store : Store) {data : Json} (h : data.DistinctKeys) :
    (store.kept data).DistinctKeys := by
  cases store with
  | memory m => exact h
  | database table? => exact Json.distinctKeys_mapTexts _ _ data

namespace App

theorem distinctKeys_recordOf {payload : Json} (h : payload.DistinctKeys) :
    (recordOf payload).DistinctKeys := by
  cases payload with
  | obj members => exact h
  | null | bool | number | str | arr => exact .obj List.nodup_nil (List.forall_mem_nil _)

/-- A service that has not yet taken an id and holds no submissions. -/
structure IsFresh (app : App) : Prop where
  form_eq : app.form = onboardingForm
  submissions_eq : app.store.submissions = []
  idsTaken_eq : app.idsTaken = 0

def next (app : App) (r : Request) : App :=
  (app.handle r).2.2

def answer (app : App) (r : Request) : Response :=
  (app.handle r).1

inductive Reachable : App → Prop where
  | fresh {app : App} (h : app.IsFresh) : Reachable app
  | next {app : App} (h : Reachable app) (r : Request) : Reachable (app.next r)

def takenIds (app : App) : List Uuid :=
  (List.range app.idsTaken).map app.idSource

structure Sound (app : App) : Prop where
  form_eq : app.form = onboardingForm
  keyed : app.store.Keyed
  ids_sublist : (app.store.submissions.map Submission.id).Sublist app.takenIds
  distinctKeys : ∀ s ∈ app.store.submissions, s.data.DistinctKeys

theorem start_isFresh (settings : Settings) (zone : Int) (ids : Nat → Uuid) :
    (start settings zone ids).IsFresh := by
  refine ⟨rfl, ?_, rfl⟩
  unfold start newStore
  cases settings.store with
  | memory => rfl
  | database =>
      simp only
      split <;> rfl

variable {app : App} {r : Request}

/-! ## One request -/

theorem next_eq (app : App) (r : Request) : app.next r = (app.serve r).app := by
  unfold next handle
  simp only
  cases (app.serve r).answer <;> rfl

theorem answer_eq (app : App) (r : Request) :
    app.answer r = withoutBodyOf r ((app.serve r).answer.getD internalError) := by
  unfold answer handle
  simp only
  cases (app.serve r).answer <;> rfl

/-- An endpoint gives the answer and the state by itself, once the rate limiter has counted the
request. -/
theorem answer_of_endpoint {e : Endpoint} (hmeter : (app.meter r).1 = none)
    (hroute : Route.resolve r.method (Path.decode r.path) = .endpoint e) :
    app.answer r = ((app.meter r).2.run r e).answer.getD internalError ∧
      app.next r = ((app.meter r).2.run r e).app := by
  rw [answer_eq, next_eq, serve_of_endpoint hmeter hroute]
  exact ⟨withoutBodyOf_of_endpoint hroute _, rfl⟩

theorem internalError_plain : internalError.Plain :=
  ⟨by decide, by decide⟩

theorem isFresh_sound (h : app.IsFresh) : app.Sound := by
  refine ⟨h.form_eq, ?_, ?_, ?_⟩
  · have hrows := h.submissions_eq
    cases hstore : app.store with
    | memory m => trivial
    | database table? =>
        cases table? with
        | none => trivial
        | some table =>
            rw [hstore] at hrows
            have hempty : table.rows = [] := hrows
            simp only [Store.Keyed, Table.Keyed, hempty, List.map_nil, List.nodup_nil]
  · rw [h.submissions_eq]
    exact List.nil_sublist _
  · rw [h.submissions_eq]
    exact List.forall_mem_nil _

theorem takenIds_succ (app : App) (store : Store) :
    takenIds { app with idsTaken := app.idsTaken + 1, store := store } =
      app.takenIds ++ [app.idSource app.idsTaken] := by
  simp only [takenIds, List.range_succ, List.map_append, List.map_cons, List.map_nil]

theorem sound_meter (h : app.Sound) (r : Request) : (app.meter r).2.Sound := by
  rw [meter_eq]
  exact ⟨h.form_eq, h.keyed, h.ids_sublist, h.distinctKeys⟩

theorem sound_of_does (h : app.Sound) {e : Effect} (he : Does app r e) : e.app.Sound := by
  cases he with
  | keeps _ => exact h
  | refuses _ =>
      refine ⟨h.form_eq, h.keyed, ?_, h.distinctKeys⟩
      have htaken := takenIds_succ app app.store
      rw [htaken]
      exact h.ids_sublist.trans (List.sublist_append_left _ _)
  | creates _ hpayload _ hcreate =>
      have htakes := Store.takes_of_create hcreate
      refine ⟨h.form_eq, htakes.keyed h.keyed, ?_, ?_⟩
      · rw [takenIds_succ]
        simp only [htakes.submissions_eq, List.map_append, List.map_cons, List.map_nil]
        exact h.ids_sublist.append (List.Sublist.refl _)
      · simp only [htakes.submissions_eq]
        refine List.forall_mem_append.2 ⟨h.distinctKeys, List.forall_mem_singleton.2 ?_⟩
        exact Store.distinctKeys_kept _
          (distinctKeys_recordOf (Request.distinctKeys_of_payload hpayload))
  | deletes _ hdelete =>
      obtain ⟨hremoval, hkeyed⟩ := Store.delete_spec h.keyed hdelete
      exact ⟨h.form_eq, hkeyed, (hremoval.sublist.map _).trans h.ids_sublist,
        fun s hs => h.distinctKeys s (hremoval.sublist.subset hs)⟩

theorem sound_next (h : app.Sound) (r : Request) : (app.next r).Sound := by
  rw [next_eq]
  exact sound_of_does (sound_meter h r) (serve_does app r)

theorem Reachable.sound (h : app.Reachable) : app.Sound := by
  induction h with
  | fresh h => exact isFresh_sound h
  | next _ r ih => exact sound_next ih r

end App

end FormIntake
