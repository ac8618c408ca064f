import FormIntake.Proofs.Submission.Store
import FormIntake.Proofs.Text.Surrogates
import FormIntake.Service.App
/-!
# What a request does

All that can happen to the state of the service in one request: nothing, an
accepted record is stored, the store refuses it after its id was taken, or a
submission is removed. Every statement about runs starts from here.
-/

namespace FormIntake

namespace Response

theorem of_ofJson? {status : Nat} {body : Json} {response : Response}
    (h : ofJson? status body = some response) : response = ⟨status, some body, none⟩ := by
  unfold ofJson? at h
  split at h
  · cases h
  · exact (Option.some.inj h).symm

theorem ofJson?_of_encodable {status : Nat} {body : Json} (h : body.hasSurrogate = false) :
    ofJson? status body = some ⟨status, some body, none⟩ := by
  rw [ofJson?, h]
  rfl

def Plain (response : Response) : Prop :=
  response.status ≠ 201 ∧ response.status ≠ 204

theorem plain_of_ofJson? {status : Nat} {body : Json} (h201 : status ≠ 201)
    (h204 : status ≠ 204) : ∀ response ∈ ofJson? status body, response.Plain := by
  intro response h
  rw [of_ofJson? (Option.mem_def.1 h)]
  exact ⟨h201, h204⟩

end Response

def Endpoint.method : Endpoint → Text
  | describe | checkHealth | showForm | list => "GET"
  | preview | create => "POST"
  | delete _ => "DELETE"

theorem Resource.method_of_endpoint? {resource : Resource} {method : Text} {e : Endpoint}
    (h : resource.endpoint? method = some e) : method = e.method := by
  cases resource with
  | root | health | form | preview | submission _ =>
      simp only [endpoint?, Option.ite_none_right_eq_some, Option.some.injEq] at h
      obtain ⟨hmethod, rfl⟩ := h
      exact hmethod
  | submissions =>
      simp only [endpoint?] at h
      split at h
      · cases h
        assumption
      · simp only [Option.ite_none_right_eq_some, Option.some.injEq] at h
        obtain ⟨hmethod, rfl⟩ := h
        exact hmethod

theorem Route.method_of_endpoint {method path : Text} {e : Endpoint}
    (h : resolve method path = .endpoint e) : method = e.method := by
  unfold resolve at h
  split at h
  · split at h
    · rename_i he
      rw [← Route.endpoint.inj h]
      exact Resource.method_of_endpoint? he
    · cases h
  · simp only at h
    split at h <;> cases h

theorem Endpoint.method_ne_head (e : Endpoint) : e.method ≠ Text.ofString "HEAD" := by
  cases e with
  | describe | checkHealth | showForm | list | preview | create => decide
  | delete _ => exact (by decide : Text.ofString "DELETE" ≠ Text.ofString "HEAD")

namespace App

/-- What a service does on a request, before the outcome is logged. -/
inductive Does (app : App) (r : Request) : Effect → Prop where
  | keeps {answer : Option Response} {log : List LogEntry}
      (hplain : ∀ response ∈ answer, response.Plain) : Does app r ⟨answer, log, app⟩
  | refuses {s : Submission} {fault : TableFault} {log : List LogEntry}
      (hcreate : app.store.create s = .error fault) :
      Does app r ⟨none, log, { app with idsTaken := app.idsTaken + 1 }⟩
  | creates {payload : Json} {store : Store} {log : List LogEntry}
      (hroute : Route.resolve r.method (Path.decode r.path) = .endpoint .create)
      (hpayload : r.payload = .ok payload)
      (hvalid : Validation.validate app.zone r.today app.form (recordOf payload) = .ok [])
      (hcreate : app.store.create ⟨app.idSource app.idsTaken, r.time, recordOf payload⟩ =
        .ok store) :
      Does app r
        ⟨Response.ofJson? 201
          (createdAnswer ⟨app.idSource app.idsTaken, r.time, recordOf payload⟩), log,
          { app with idsTaken := app.idsTaken + 1, store := store }⟩
  | deletes {id : Text} {store : Store} {log : List LogEntry}
      (hroute : Route.resolve r.method (Path.decode r.path) = .endpoint (.delete id))
      (hdelete : app.store.delete id = .ok (true, store)) :
      Does app r ⟨some (.empty 204), log, { app with store := store }⟩

variable {app : App} {r : Request}

/-! ## The endpoints -/

theorem does_reply_none : Does app r (app.reply none) :=
  .keeps fun _ h => absurd h (Option.not_mem_none _)

theorem does_reply_some {response : Response} (h : response.Plain) :
    Does app r (app.reply (some response)) := by
  refine .keeps fun answer hanswer => ?_
  rw [← Option.mem_some.1 hanswer]
  exact h

theorem does_reply_json {status : Nat} {body : Json} (h201 : status ≠ 201)
    (h204 : status ≠ 204) : Does app r (app.reply (Response.ofJson? status body)) :=
  .keeps (Response.plain_of_ofJson? h201 h204)

theorem preview_does (payload : Json) : Does app r (app.preview r payload) := by
  unfold preview
  split
  · exact does_reply_none
  · exact does_reply_json (by decide) (by decide)

theorem create_does {payload : Json}
    (hroute : Route.resolve r.method (Path.decode r.path) = .endpoint .create)
    (hpayload : r.payload = .ok payload) : Does app r (app.create r payload) := by
  unfold create
  split
  · exact does_reply_none
  · rename_i hvalid
    simp only [accept]
    split
    · rename_i hcreate
      exact .refuses hcreate
    · rename_i hcreate
      exact .creates hroute hpayload hvalid hcreate
  · exact .keeps (Response.plain_of_ofJson? (by decide) (by decide))

theorem list_does : Does app r (app.list r) := by
  unfold list
  split
  · exact does_reply_none
  · split
    · exact does_reply_none
    · split
      · exact does_reply_none
      · split
        · exact does_reply_none
        · exact does_reply_json (by decide) (by decide)

theorem delete_does {id : Text}
    (hroute : Route.resolve r.method (Path.decode r.path) = .endpoint (.delete id)) :
    Does app r (app.delete id) := by
  unfold delete
  split
  · exact does_reply_none
  · rename_i hdelete
    exact .deletes hroute hdelete
  · exact does_reply_json (by decide) (by decide)

theorem withBody_does {use : Json → Effect}
    (h : ∀ payload, r.payload = .ok payload → Does app r (use payload)) :
    Does app r (app.withBody r use) := by
  unfold withBody
  split
  · rename_i hpayload
    exact h _ hpayload
  · rename_i fault _
    apply does_reply_some
    cases fault <;> exact ⟨by decide, by decide⟩

theorem run_does {e : Endpoint}
    (hroute : Route.resolve r.method (Path.decode r.path) = .endpoint e) :
    Does app r (app.run r e) := by
  cases e with
  | describe | checkHealth | showForm => exact does_reply_json (by decide) (by decide)
  | preview => exact withBody_does fun payload _ => preview_does payload
  | list => exact list_does
  | create => exact withBody_does fun payload hpayload => create_does hroute hpayload
  | delete id => exact delete_does hroute

theorem follow_does : Does app r (app.follow r (.resolve r.method (Path.decode r.path))) := by
  cases hroute : Route.resolve r.method (Path.decode r.path) with
  | endpoint e => exact run_does hroute
  | wrongMethod | redirect | unknown => exact does_reply_some ⟨by decide, by decide⟩

/-! ## The rate limiter -/

theorem refuse_does (wait : Number) : Does app r (app.refuse r wait) := by
  unfold refuse
  split
  · refine .keeps fun answer hanswer => ?_
    rw [← Option.mem_some.1 hanswer]
    exact ⟨show 429 ≠ 201 by decide, show 429 ≠ 204 by decide⟩
  · exact does_reply_none

theorem meter_eq (app : App) (r : Request) :
    (app.meter r).2 = { app with limiter := (app.meter r).2.limiter } := by
  unfold meter
  split <;> rfl

/-- Once the rate limiter has counted the request, one of these things happens. -/
theorem serve_does (app : App) (r : Request) : Does (app.meter r).2 r (app.serve r) := by
  unfold serve
  split
  · rename_i wait metered h
    rw [h]
    exact refuse_does wait
  · rename_i metered h
    rw [h]
    exact follow_does

/-- A request that the rate limiter lets through comes to its endpoint. -/
theorem serve_of_endpoint {e : Endpoint} (hmeter : (app.meter r).1 = none)
    (hroute : Route.resolve r.method (Path.decode r.path) = .endpoint e) :
    app.serve r = (app.meter r).2.run r e := by
  have hpair : app.meter r = (none, (app.meter r).2) := Prod.ext hmeter rfl
  rw [serve, hpair, hroute]
  rfl

/-! ## Answers -/

theorem withoutBodyOf_of_endpoint {e : Endpoint}
    (hroute : Route.resolve r.method (Path.decode r.path) = .endpoint e) (response : Response) :
    withoutBodyOf r response = response := by
  rw [withoutBodyOf, if_neg]
  rw [Route.method_of_endpoint hroute]
  exact e.method_ne_head

theorem createdAnswer_hasSurrogate (s : Submission) : (createdAnswer s).hasSurrogate = false := by
  have hz : (Text.ofString "Z").hasSurrogate = false := Text.hasSurrogate_ofString "Z"
  simp [createdAnswer, Json.object, Json.hasSurrogate, Json.hasSurrogateMembers,
    Calendar.hasSurrogate_instantText hz]

theorem createdAnswer_sent (s : Submission) :
    Response.ofJson? 201 (createdAnswer s) = some ⟨201, some (createdAnswer s), none⟩ :=
  Response.ofJson?_of_encodable (createdAnswer_hasSurrogate s)

theorem status_withoutBodyOf (r : Request) (response : Response) :
    (withoutBodyOf r response).status = response.status := by
  unfold withoutBodyOf
  split <;> rfl

end App

end FormIntake
