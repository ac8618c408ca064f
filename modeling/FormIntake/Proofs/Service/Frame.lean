import FormIntake.Proofs.Service.Reachable
/-!
# Requests that change the store

A status of 201 tells that one submission was added, 204 that one was removed,
and any other status that the store is as before. What is added is the object
that was sent, as far as the store gives it back: a database joins pairs of lone
surrogates in it.
-/

namespace FormIntake

namespace Store

theorem Names.unique {store : Store} {t : Text} {a b : Uuid} (ha : store.Names t a)
    (hb : store.Names t b) : a = b := by
  cases store with
  | memory m => exact Uuid.text_injective (ha.trans hb.symm)
  | database table? => exact Option.some.inj (ha.symm.trans hb)

theorem kept_of_encodable (store : Store) {data : Json} (hdistinct : data.DistinctKeys)
    (h : data.hasSurrogate = false) : store.kept data = data := by
  cases store with
  | memory m => rfl
  | database table? => exact Json.readBack_eq_self hdistinct h

end Store

namespace App

open Onboarding

theorem member_nil (name : String) : member (.obj []) name = .null := rfl

theorem obj_of_accepts {zone : Int} {today : Date} {payload : Json}
    (h : Accepts zone today (recordOf payload)) :
    ∃ members, payload = .obj members ∧ recordOf payload = payload := by
  cases payload with
  | obj members => exact ⟨members, rfl, rfl⟩
  | null | bool | number | str | arr =>
      have hterms := h.termsAccepted
      simp only [recordOf, member_nil] at hterms
      cases hterms

variable {app : App} {r : Request}

theorem accepts_of_valid (hform : app.form = onboardingForm) {record : Json}
    (h : Validation.validate app.zone r.today app.form record = .ok []) :
    Accepts app.zone r.today record := by
  obtain ⟨errors, herrors, hiff⟩ := validate_onboardingForm app.zone r.today record
  rw [hform, herrors] at h
  exact hiff.1 (Except.ok.inj h)

/-! ## The three cases -/

theorem plain_answer {response? : Option Response}
    (h : ∀ response ∈ response?, response.Plain) (r : Request) :
    (withoutBodyOf r (response?.getD internalError)).Plain := by
  unfold Response.Plain
  rw [status_withoutBodyOf]
  cases response? with
  | none => exact internalError_plain
  | some response => exact h response rfl

theorem created_answer (s : Submission) (hmethod : r.method = Text.ofString "POST") :
    withoutBodyOf r ((Response.ofJson? 201 (createdAnswer s)).getD internalError) =
      ⟨201, some (createdAnswer s), none⟩ := by
  have hhead : ¬ r.method = Text.ofString "HEAD" := by
    rw [hmethod]
    decide
  rw [createdAnswer_sent, Option.getD_some, withoutBodyOf, if_neg hhead]

theorem meter_store (app : App) (r : Request) : (app.meter r).2.store = app.store := by
  rw [meter_eq]

/-- In a sound state the submissions have distinct ids if the ids taken are distinct. -/
theorem Sound.ids_nodup (h : app.Sound) (htaken : app.takenIds.Nodup) :
    (app.store.submissions.map Submission.id).Nodup :=
  htaken.sublist h.ids_sublist

theorem removed_alone {store : Store} {t : Text} {before after : List Submission}
    {s : Submission} (hids : ((before ++ s :: after).map Submission.id).Nodup)
    (hs : store.Names t s.id) : ∀ q ∈ before ++ after, ¬ store.Names t q.id := by
  intro q hq hnames
  have hid : q.id = s.id := hnames.unique hs
  rw [List.map_append, List.map_cons, List.nodup_middle, List.nodup_cons] at hids
  apply hids.1
  rw [← List.map_append, ← hid]
  exact List.mem_map_of_mem hq

/-- One submission is added at the end, with the id and the time that the answer tells and the
object that was sent. A database holds it as it reads it back, which is the object itself if there
are no lone surrogates in it. -/
def Adds (app : App) (r : Request) (answer : Response) (after : Store) : Prop :=
  ∃ s members, after.submissions = app.store.submissions ++ [s] ∧
    answer.body = some (createdAnswer s) ∧ s.id = app.idSource app.idsTaken ∧
    s.createdAt = r.time ∧ r.payload = .ok (.obj members) ∧
    s.data = app.store.kept (.obj members) ∧
    ((Json.obj members).hasSurrogate = false → s.data = .obj members)

/-- One submission is taken out, the first one that the id in the path names, and the others stay
in order. It is the only one of that name if the ids taken are distinct. -/
def Removes (app : App) (r : Request) (after : Store) : Prop :=
  ∃ id first s last, Route.resolve r.method (Path.decode r.path) = .endpoint (.delete id) ∧
    app.store.submissions = first ++ s :: last ∧ after.submissions = first ++ last ∧
    app.store.Names id s.id ∧ (∀ q ∈ first, ¬ app.store.Names id q.id) ∧
    (app.takenIds.Nodup → ∀ q ∈ first ++ last, ¬ app.store.Names id q.id)

/-- The change of the store is the one that the status tells. -/
def ChangesAsTold (app : App) (r : Request) (answer : Response) (after : Store) : Prop :=
  (answer.status = 201 → app.Adds r answer after) ∧
    (answer.status = 204 → app.Removes r after) ∧
    (answer.status ≠ 201 → answer.status ≠ 204 → after = app.store)

theorem changes_of_plain {answer : Response} (h : answer.Plain) :
    app.ChangesAsTold r answer app.store :=
  ⟨fun h201 => absurd h201 h.1, fun h204 => absurd h204 h.2, fun _ _ => rfl⟩

theorem changes_of_does (h : app.Sound) {e : Effect} (he : Does app r e) :
    app.ChangesAsTold r (withoutBodyOf r (e.answer.getD internalError)) e.app.store := by
  cases he with
  | keeps hplain => exact changes_of_plain (plain_answer hplain r)
  | refuses _ =>
      apply changes_of_plain
      apply plain_answer
      intro response hresponse
      exact absurd hresponse (Option.not_mem_none _)
  | creates hroute hpayload hvalid hcreate =>
      rw [created_answer _ (Route.method_of_endpoint hroute)]
      refine ⟨fun _ => ?_, fun h204 => by simp at h204, fun h201 => absurd rfl h201⟩
      obtain ⟨members, rfl, -⟩ := obj_of_accepts (accepts_of_valid h.form_eq hvalid)
      exact ⟨_, members, (Store.takes_of_create hcreate).submissions_eq, rfl, rfl, rfl, hpayload,
        rfl, Store.kept_of_encodable _ (Request.distinctKeys_of_payload hpayload)⟩
  | deletes hroute hdelete =>
      have hstatus : (withoutBodyOf r (Response.empty 204)).status = 204 :=
        status_withoutBodyOf r _
      refine ⟨fun h201 => ?_, fun _ => ?_, fun _ h204 => absurd hstatus h204⟩
      · rw [Option.getD_some, hstatus] at h201
        cases h201
      · obtain ⟨first, s, last, hall, hrest, hnames, hfirst⟩ :=
          (Store.delete_spec h.keyed hdelete).1.split
        refine ⟨_, first, s, last, hroute, hall, hrest, hnames, hfirst, fun htaken => ?_⟩
        -- the ids held are among the ids taken, so no other submission has this name
        have hids := h.ids_nodup htaken
        rw [hall] at hids
        exact removed_alone hids hnames

/-- In every reachable state a request changes the store as its status tells: 201 adds one
submission, 204 removes one, and nothing else changes anything. -/
theorem store_changes_as_told (h : app.Reachable) (r : Request) :
    app.ChangesAsTold r (app.answer r) (app.next r).store := by
  have hchanges := changes_of_does (sound_meter h.sound r) (serve_does app r)
  rw [meter_eq] at hchanges
  rw [answer_eq, next_eq]
  exact hchanges

/-! ### Requests to a service that holds two submissions -/

def countedId (n : Nat) : Uuid :=
  ⟨n % Nat.pow 2 128, Nat.mod_lt n (Nat.two_pow_pos 128)⟩

def unlimited (kind : StoreKind) : App :=
  start { Settings.default with rateLimitEnabled := false, store := kind } 0 countedId

def missingDelete : Request :=
  ⟨"DELETE", "/api/submissions/none", [], [], "client", 0, .int 0, ⟨2026, 10, 19, by decide⟩⟩

/-- A record at the edge of what the form takes, and the body that holds it. -/
def edgeRecord : List (Text × Json) :=
  [("fullName", .ofString "Al"), ("age", .ofString "0x12"), ("department", .ofString "HR"),
    ("dateOfJoining", .ofString "2026-10-19"), ("termsAccepted", .bool true)]

def edgeBody : Text :=
  Text.ofString "\x7b\"fullName\":\"Al\",\"age\":\"0x12\",\"department\":\"HR\"," ++
    Text.ofString "\"dateOfJoining\":\"2026-10-19\",\"termsAccepted\":true\x7d"

def edgePost : Request :=
  { missingDelete with method := "POST", path := "/api/submissions", body := edgeBody.utf8 }

def stocked (kind : StoreKind) : App :=
  ((unlimited kind).next edgePost).next edgePost

def firstDelete : Request :=
  { missingDelete with path := "/api/submissions/00000000-0000-0000-0000-000000000000" }

theorem unlimited_isFresh (kind : StoreKind) : (unlimited kind).IsFresh :=
  start_isFresh _ 0 countedId

theorem stocked_reachable (kind : StoreKind) : (stocked kind).Reachable :=
  .next (.next (.fresh (unlimited_isFresh kind)) edgePost) edgePost

theorem limiter_of_does {e : Effect} (he : Does app r e) : e.app.limiter = app.limiter := by
  cases he <;> rfl

theorem meter_of_unlimited (h : app.limiter = none) (r : Request) :
    app.meter r = (none, app) := by
  rw [meter, h]

theorem limiter_next (h : app.limiter = none) (r : Request) : (app.next r).limiter = none := by
  have hdoes := serve_does app r
  rw [meter_of_unlimited h] at hdoes
  rw [next_eq, limiter_of_does hdoes, h]

theorem limiter_stocked (kind : StoreKind) : (stocked kind).limiter = none :=
  limiter_next (limiter_next rfl edgePost) edgePost

theorem stocked_changes_as_told :
    (stocked .database).Reachable ∧
      (stocked .database).store.submissions.map Submission.id = [countedId 0, countedId 1] ∧
      (stocked .database).Adds edgePost ((stocked .database).answer edgePost)
        ((stocked .database).next edgePost).store ∧
      (stocked .database).Removes firstDelete ((stocked .database).next firstDelete).store ∧
      ((stocked .database).next missingDelete).store = (stocked .database).store := by
  have hreachable := stocked_reachable .database
  have hposted : ((stocked .database).answer edgePost).status = 201 := by decide +kernel
  have hdeleted : ((stocked .database).answer firstDelete).status = 204 := by decide +kernel
  have hmissed : ((stocked .database).answer missingDelete).status = 404 := by decide +kernel
  refine ⟨hreachable, by decide +kernel, (store_changes_as_told hreachable edgePost).1 hposted,
    (store_changes_as_told hreachable firstDelete).2.1 hdeleted,
    (store_changes_as_told hreachable missingDelete).2.2 ?_ ?_⟩
  · rw [hmissed]
    decide
  · rw [hmissed]
    decide

/-- A record in UTF-16 whose biography is an escaped high surrogate and a plain low one. -/
def pairPost : Request :=
  { edgePost with
    body := (edgeBody.dropLast ++ Text.ofString ",\"bio\":\"\\ud800" ++
      CodePoint.ofNat 0xDC41 :: Text.ofString "\"\x7d").flatMap fun c =>
        [c.val.toUInt8, (c.val / 256).toUInt8] }

def bioText? (data : Json) : Option Text :=
  match member data "bio" with
  | .str t => some t
  | _ => none

/-- The database takes the two surrogates and gives back the code point that they make. -/
theorem joined_pair_is_not_what_was_sent :
    ((unlimited .database).answer pairPost).status = 201 ∧
      pairPost.payload.toOption.bind bioText? =
        some [CodePoint.ofNat 0xD800, CodePoint.ofNat 0xDC41] ∧
      ((unlimited .database).next pairPost).store.submissions.map (fun s => bioText? s.data) =
        [some [CodePoint.ofNat 0x10041]] :=
  ⟨by decide +kernel, by decide +kernel, by decide +kernel⟩

end App

end FormIntake
