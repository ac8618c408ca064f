import FormIntake.Proofs.Onboarding.ReadBack
import FormIntake.Proofs.Service.Frame
/-!
# Runs of the service

What the store holds after any run of requests: records that the onboarding
form took on the day of their request. And every such record that is posted is
stored, unless the rate limiter refuses the request or the record is nested
deeper than the store can take it.
-/

namespace FormIntake

theorem RateLimiter.consume_start {κ τ : Type} [DecidableEq κ] [Sub τ] [LE τ] [DecidableLE τ]
    [NatCast τ] {points : τ} (h : ¬ points ≤ ((0 : Nat) : τ)) (duration opened now : τ) (key : κ) :
    ((start points duration opened).consume now key).1 = none := by
  have hpoints : ((start points duration opened : RateLimiter κ τ).sweep now).points = points := by
    unfold sweep
    split <;> rfl
  have hwindow : (start points duration opened : RateLimiter κ τ).windowAt key now = ⟨now, 0⟩ := rfl
  simp only [consume, hwindow, hpoints, if_neg h]

namespace Store

/-- The store can take submissions: a database has its table. -/
def Ready : Store → Prop
  | database none => False
  | _ => True

/-- The id is a key of the database; the store in memory has no keys. -/
def HasKey : Store → Uuid → Prop
  | database (some table), id => id ∈ table.rows.map Submission.id
  | _, _ => False

instance (store : Store) : Decidable store.Ready :=
  match store with
  | memory _ => isTrue trivial
  | database (some _) => isTrue trivial
  | database none => isFalse id

instance (store : Store) (id : Uuid) : Decidable (store.HasKey id) :=
  match store with
  | memory _ => isFalse fun h => h
  | database none => isFalse fun h => h
  | database (some table) => inferInstanceAs (Decidable (id ∈ table.rows.map Submission.id))

variable {store store' : Store}

theorem ready_of_create {s : Submission} (hready : store.Ready)
    (h : store.create s = .ok store') : store'.Ready := by
  match store with
  | memory m =>
      simp only [create] at h
      split at h
      · rw [← Except.ok.inj h]
        trivial
      · cases h
  | database none => cases hready
  | database (some table) =>
      simp only [create] at h
      split at h
      · rw [← Except.ok.inj h]
        trivial
      · cases h

theorem ready_of_delete {t : Text} {found : Bool} (hready : store.Ready)
    (h : store.delete t = .ok (found, store')) : store'.Ready := by
  match store with
  | memory m =>
      rw [← (Prod.mk.inj (Except.ok.inj h)).2]
      trivial
  | database none => cases hready
  | database (some table) =>
      simp only [delete] at h
      split at h
      · rw [← (Prod.mk.inj (Except.ok.inj h)).2]
        trivial
      · rw [← (Prod.mk.inj (Except.ok.inj h)).2]
        trivial

/-- A store that is ready takes every record with a new key, as deep as it can and with no number
beyond the limit. -/
theorem create_of_ready {s : Submission} (hready : store.Ready)
    (hdigits : s.data.integerDigits ≤ Numeral.digitLimit)
    (hnesting : s.data.nesting ≤ store.depth) (hnew : ¬ store.HasKey s.id) :
    ∃ store', store.create s = .ok store' := by
  match store with
  | memory m =>
      have hcopied : s.data.nesting ≤ Json.copyDepth := hnesting
      exact ⟨memory (m.append s), by simp only [create, MemoryStore.create, if_pos hcopied]⟩
  | database none => cases hready
  | database (some table) =>
      have hwritable : Table.Writable s.data := ⟨hdigits, hnesting⟩
      have hrow : ¬ (table.row? s.id).isSome = true := by
        rw [Table.row?_isSome_iff]
        exact hnew
      refine ⟨database (some ⟨table.rows ++ [Table.stored s]⟩), ?_⟩
      simp only [create, Table.insert, if_neg (not_not.2 hwritable), if_neg hrow]

theorem create_of_deep {s : Submission} (h : store.depth < s.data.nesting) :
    ∃ fault, store.create s = .error fault := by
  cases hcreate : store.create s with
  | error fault => exact ⟨fault, rfl⟩
  | ok store' => exact absurd (takes_of_create hcreate).nesting_le (Nat.not_le.2 h)

end Store

namespace App

open Onboarding

structure IsDeployed (app : App) : Prop extends app.IsFresh where
  ready : app.store.Ready

def after (app : App) (requests : List Request) : App :=
  requests.foldl next app

/-- A request is answered with 201 and what it holds is stored at the end. -/
structure Creates (app : App) (r : Request) (s : Submission) : Prop where
  answer_eq : app.answer r = ⟨201, some (createdAnswer s), none⟩
  submissions_eq : (app.next r).store.submissions = app.store.submissions ++ [s]
  createdAt_eq : s.createdAt = r.time
  data_eq : ∃ payload, r.payload = .ok payload ∧ s.data = app.store.kept payload

variable {app : App} {r : Request}

theorem after_nil (app : App) : app.after [] = app := rfl

theorem after_append_singleton (app : App) (requests : List Request) (r : Request) :
    app.after (requests ++ [r]) = (app.after requests).next r := by
  rw [after, List.foldl_append]
  rfl

/-! ## One request -/

theorem zone_of_does {e : Effect} (he : Does app r e) : e.app.zone = app.zone := by
  cases he <;> rfl

theorem zone_next (app : App) (r : Request) : (app.next r).zone = app.zone := by
  rw [next_eq, zone_of_does (serve_does app r), meter_eq]

theorem zone_after (app : App) (requests : List Request) :
    (app.after requests).zone = app.zone := by
  induction requests using List.reverseRecOn with
  | nil => rfl
  | append_singleton requests r ih => rw [after_append_singleton, zone_next, ih]

theorem ready_of_does (hready : app.store.Ready) {e : Effect} (he : Does app r e) :
    e.app.store.Ready := by
  cases he with
  | keeps _ => exact hready
  | refuses _ => exact hready
  | creates _ _ _ hcreate => exact Store.ready_of_create hready hcreate
  | deletes _ hdelete => exact Store.ready_of_delete hready hdelete

theorem ready_next (hready : app.store.Ready) (r : Request) : (app.next r).store.Ready := by
  have hmeter : (app.meter r).2.store.Ready := by
    rw [meter_store]
    exact hready
  rw [next_eq]
  exact ready_of_does hmeter (serve_does app r)

theorem IsDeployed.ready_after (h : app.IsDeployed) (requests : List Request) :
    (app.after requests).store.Ready := by
  induction requests using List.reverseRecOn with
  | nil => exact h.ready
  | append_singleton requests r ih =>
      rw [after_append_singleton]
      exact ready_next ih r

theorem IsFresh.reachable_after (h : app.IsFresh) (requests : List Request) :
    (app.after requests).Reachable := by
  induction requests using List.reverseRecOn with
  | nil => exact .fresh h
  | append_singleton requests r ih =>
      rw [after_append_singleton]
      exact .next ih r

theorem creates_of_effect {s : Submission} {store : Store} {e : Effect} (hserve : app.serve r = e)
    (hanswer : e.answer = Response.ofJson? 201 (createdAnswer s))
    (hcreate : app.store.create s = .ok store) (hstore : e.app.store = store)
    (hmethod : r.method = Text.ofString "POST") (htime : s.createdAt = r.time)
    (hpayload : r.payload = .ok s.data) :
    app.Creates r { s with data := app.store.kept s.data } where
  answer_eq := by
    rw [answer_eq, hserve, hanswer, created_answer s hmethod]
    rfl
  submissions_eq := by
    rw [next_eq, hserve, hstore, (Store.takes_of_create hcreate).submissions_eq]
  createdAt_eq := htime
  data_eq := ⟨s.data, hpayload, rfl⟩

/-- What the form takes it takes also as a store holds it. -/
theorem accepts_kept (store : Store) {zone : Int} {today : Date} {members : List (Text × Json)}
    (hdistinct : (Json.obj members).DistinctKeys) (h : Accepts zone today (.obj members)) :
    Accepts zone today (store.kept (.obj members)) := by
  cases store with
  | memory m => exact h
  | database table? => exact accepts_readBack hdistinct h

/-- A submission held after a request was held before, or the request created it. -/
theorem held_next (h : app.Sound) {s : Submission} (hs : s ∈ (app.next r).store.submissions) :
    s ∈ app.store.submissions ∨ app.Creates r s ∧ Accepts app.zone r.today s.data := by
  have hdoes := serve_does app r
  have hform : (app.meter r).2.form = onboardingForm := (sound_meter h r).form_eq
  rw [next_eq] at hs
  generalize hserve : app.serve r = e at hdoes hs
  rw [meter_eq] at hdoes hform
  cases hdoes with
  | keeps _ => exact Or.inl hs
  | refuses _ => exact Or.inl hs
  | creates hroute hpayload hvalid hcreate =>
      simp only [(Store.takes_of_create hcreate).submissions_eq, List.mem_append,
        List.mem_singleton] at hs
      rcases hs with hs | rfl
      · exact Or.inl hs
      · have haccepts := accepts_of_valid hform hvalid
        obtain ⟨members, rfl, -⟩ := obj_of_accepts haccepts
        refine Or.inr ⟨?_, accepts_kept _ (Request.distinctKeys_of_payload hpayload) haccepts⟩
        refine creates_of_effect hserve ?_ hcreate ?_ (Route.method_of_endpoint hroute) ?_ hpayload
        · dsimp only
        · rfl
        · rfl
  | deletes _ hdelete =>
      have hremoval := (Store.delete_spec h.keyed hdelete).1
      exact Or.inl (hremoval.sublist.subset hs)

/-! ## Runs -/

/-- Every submission held after a run was created by one of its requests. -/
theorem held_after (h : app.IsFresh) (requests : List Request) {s : Submission}
    (hs : s ∈ (app.after requests).store.submissions) :
    ∃ first r rest, requests = first ++ r :: rest ∧ (app.after first).Creates r s ∧
      Accepts app.zone r.today s.data := by
  -- from the end of the run: its last request created the submission, or it was held before
  induction requests using List.reverseRecOn with
  | nil =>
      rw [after_nil, h.submissions_eq] at hs
      cases hs
  | append_singleton requests r ih =>
      rw [after_append_singleton] at hs
      rcases held_next (h.reachable_after requests).sound hs with hs | ⟨hcreates, haccepts⟩
      · obtain ⟨first, q, rest, rfl, hfound⟩ := ih hs
        refine ⟨first, q, rest ++ [r], ?_, hfound⟩
        rw [List.append_assoc, List.cons_append]
      · rw [zone_after] at haccepts
        exact ⟨requests, r, [], rfl, hcreates, haccepts⟩

theorem resolve_submissions :
    Route.resolve (Text.ofString "POST") Resource.submissionsPath = .endpoint .create := by
  decide +kernel

section

variable {members : List (Text × Json)}

/-- A posted record that the form takes comes to the store, unless the rate limiter refuses it. -/
theorem serve_of_accepts (h : app.Sound) (hmethod : r.method = Text.ofString "POST")
    (hpath : Path.decode r.path = Resource.submissionsPath)
    (hpayload : r.payload = .ok (.obj members))
    (haccepts : Accepts app.zone r.today (.obj members)) (hmeter : (app.meter r).1 = none) :
    app.serve r = (app.meter r).2.accept r (.obj members) := by
  obtain ⟨errors, herrors, hiff⟩ := validate_onboardingForm app.zone r.today (.obj members)
  rw [hiff.2 haccepts, ← h.form_eq] at herrors
  have hroute : Route.resolve r.method (Path.decode r.path) = .endpoint .create := by
    rw [hmethod, hpath]
    exact resolve_submissions
  rw [serve_of_endpoint hmeter hroute, meter_eq]
  simp only [run, withBody, hpayload, create, recordOf, herrors]

theorem creates_of_accepts (h : app.Sound) (hready : app.store.Ready)
    (hmethod : r.method = Text.ofString "POST")
    (hpath : Path.decode r.path = Resource.submissionsPath)
    (hpayload : r.payload = .ok (.obj members))
    (haccepts : Accepts app.zone r.today (.obj members)) (hmeter : (app.meter r).1 = none)
    (hnew : ¬ app.store.HasKey (app.idSource app.idsTaken))
    (hnesting : (Json.obj members).nesting ≤ app.store.depth) :
    app.Creates r ⟨app.idSource app.idsTaken, r.time, app.store.kept (.obj members)⟩ := by
  obtain ⟨store, hcreate⟩ := Store.create_of_ready
    (s := ⟨app.idSource app.idsTaken, r.time, .obj members⟩) hready
    (Request.integerDigits_of_payload hpayload) hnesting hnew
  have hserve := serve_of_accepts h hmethod hpath hpayload haccepts hmeter
  rw [meter_eq] at hserve
  refine creates_of_effect (s := ⟨app.idSource app.idsTaken, r.time, .obj members⟩) hserve ?_
    hcreate ?_ hmethod rfl hpayload
  · simp only [accept, hcreate]
  · simp only [accept, hcreate]

theorem accept_of_deep {payload : Json} (hdeep : app.store.depth < payload.nesting) :
    app.accept r payload = { app with idsTaken := app.idsTaken + 1 }.reply none := by
  obtain ⟨fault, hcreate⟩ := Store.create_of_deep
    (s := ⟨app.idSource app.idsTaken, r.time, payload⟩) hdeep
  simp only [accept, hcreate]

theorem answer_of_deep (h : app.Sound) (hmethod : r.method = Text.ofString "POST")
    (hpath : Path.decode r.path = Resource.submissionsPath)
    (hpayload : r.payload = .ok (.obj members))
    (haccepts : Accepts app.zone r.today (.obj members)) (hmeter : (app.meter r).1 = none)
    (hdeep : app.store.depth < (Json.obj members).nesting) :
    app.answer r = internalError ∧ (app.next r).store = app.store := by
  have hserve := serve_of_accepts h hmethod hpath hpayload haccepts hmeter
  have hroute : Route.resolve r.method (Path.decode r.path) = .endpoint .create := by
    rw [hmethod, hpath]
    exact resolve_submissions
  rw [← meter_store app r] at hdeep
  rw [answer_eq, next_eq, hserve, accept_of_deep hdeep, withoutBodyOf_of_endpoint hroute]
  exact ⟨rfl, meter_store app r⟩

end

theorem start_isDeployed {settings : Settings} (zone : Int) (ids : Nat → Uuid)
    (h : settings.store = .memory ∨ settings.appEnv = Settings.default.appEnv) :
    (start settings zone ids).IsDeployed := by
  refine ⟨start_isFresh settings zone ids, ?_⟩
  unfold start newStore
  cases hstore : settings.store with
  | memory => trivial
  | database =>
      rw [hstore] at h
      rcases h with h | h
      · cases h
      · simp only [h, if_true]
        trivial

theorem meter_start {settings : Settings} (zone : Int) (ids : Nat → Uuid) (r : Request)
    (h : ¬ Number.int settings.rateLimitPoints ≤ ((0 : Nat) : Number)) :
    ((start settings zone ids).meter r).1 = none := by
  simp only [meter, start, newLimiter]
  cases settings.rateLimitEnabled with
  | false => rfl
  | true => exact RateLimiter.consume_start h _ _ r.ticks r.client

theorem edge_accepts : Accepts 0 edgePost.today (.obj edgeRecord) := by
  have hletters : (Text.ofString "Al").all CodePoint.isAsciiLetter = true := by decide
  have hday : Calendar.readDay? 0 "2026-10-19" = some ⟨2026, 10, 19, by decide⟩ := by
    decide +kernel
  have hage : Number.ofJson? (.ofString "0x12") = some (.int 18) := by decide +kernel
  refine ⟨⟨_, rfl, by decide, by decide, ?_⟩, ⟨_, _, hage, rfl, ?_, ?_⟩, ⟨_, ?_, rfl⟩,
    Or.inl (Or.inl rfl), ⟨_, _, rfl, hday, ?_⟩, Or.inl (Or.inl rfl), rfl⟩
  · intro c hc
    exact Or.inl (List.all_eq_true.1 hletters c hc)
  · norm_cast
  · norm_cast
  · decide
  · simp [Date.Before, edgePost, missingDelete]

def deepBody : Text :=
  edgeBody.dropLast ++ Text.ofString ",\"note\":" ++
    List.replicate 600 (CodePoint.ofChar '[') ++ List.replicate 600 (CodePoint.ofChar ']') ++
    Text.ofString "\x7d"

def deepPost : Request :=
  { edgePost with body := deepBody.utf8 }

def isFaultless (r : Request) : Bool :=
  match r.payload with
  | .ok payload =>
    match Validation.validate 0 r.today onboardingForm payload with
    | .ok errors => errors.isEmpty
    | .error _ => false
  | .error _ => false

theorem accepts_of_isFaultless (h : isFaultless r = true) :
    ∃ members, r.payload = .ok (.obj members) ∧ Accepts 0 r.today (.obj members) := by
  unfold isFaultless at h
  split at h
  · rename_i payload hpayload
    obtain ⟨errors, hvalid, hiff⟩ := validate_onboardingForm 0 r.today payload
    rw [hvalid] at h
    have haccepts := hiff.1 (List.isEmpty_iff.1 h)
    cases payload with
    | obj members => exact ⟨members, hpayload, haccepts⟩
    | null | bool | number | str | arr =>
        have hterms := haccepts.termsAccepted
        cases hterms
  · cases h

end App

end FormIntake
