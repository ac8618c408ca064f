import FormIntake.Proofs.Service.Run
import FormIntake.Proofs.Validation.Reports
/-!
# Previews

A preview tells of a body what becomes of it when it is submitted: a body with
errors is refused with these errors, and one without is stored, unless it is
nested deeper than the store can take it. Nothing is stored by a preview.
-/

namespace FormIntake

/-! ## What the form reports can be sent -/

namespace Onboarding

theorem fields_encodable : ∀ f ∈ onboardingForm.fields, f.IsEncodable := by
  have hdepartments : ∀ t ∈ departments, t.hasSurrogate = false := by decide
  have hfields : onboardingForm.fields =
      [fullName, age, department, skills, dateOfJoining, bio, termsAccepted] := rfl
  rw [hfields]
  simp only [List.forall_mem_cons, List.not_mem_nil, false_implies, implies_true, and_true]
  have hdepartment : department.IsEncodable := by
    refine ⟨by decide, by decide, ?_⟩
    intro options hoptions
    rw [← FieldKind.select.inj hoptions]
    exact hdepartments
  refine ⟨⟨by decide, by decide, ?_⟩, ⟨by decide, by decide, ?_⟩, hdepartment,
    ⟨by decide, by decide, ?_⟩, ⟨by decide, by decide, ?_⟩, ⟨by decide, by decide, ?_⟩,
    ⟨by decide, by decide, ?_⟩⟩ <;> exact fun options h => by cases h

end Onboarding

namespace App

open Validation

theorem errorsObject_hasSurrogate {errors : Errors}
    (h : ∀ error ∈ errors, error.1.hasSurrogate = false ∧ error.2.hasSurrogate = false) :
    (errorsObject errors).hasSurrogate = false := by
  unfold errorsObject
  rw [Json.hasSurrogate]
  induction errors with
  | nil => rfl
  | cons error rest ih =>
      obtain ⟨⟨hname, hmessage⟩, hrest⟩ := List.forall_mem_cons.1 h
      simp only [List.map_cons, Json.hasSurrogateMembers, Json.hasSurrogate, hname, hmessage,
        ih hrest, Bool.or_self]

theorem errors_hasSurrogate {zone : Int} {today : Date} {record : Json} {errors : Errors}
    (h : validate zone today onboardingForm record = .ok errors) :
    (errorsObject errors).hasSurrogate = false := by
  apply errorsObject_hasSurrogate
  intro error herror
  obtain ⟨f, hf, hreport⟩ := isReport_of_mem Onboarding.fields_checkable h herror
  exact hreport.encodable (Onboarding.fields_encodable f hf)

/-! ## The two endpoints -/

/-- A value that is no object is checked like an empty object. -/
theorem validate_recordOf (zone : Int) (today : Date) (schema : Schema) (payload : Json) :
    validate zone today schema (recordOf payload) = validate zone today schema payload := by
  cases payload <;> rfl

def previewAnswer (errors : Errors) : Json :=
  .object [("isValid", .bool errors.isEmpty), ("errors", errorsObject errors)]

variable {app : App} {r : Request} {payload : Json} {errors : Errors}

theorem preview_of_errors (hform : app.form = onboardingForm)
    (herrors : validate app.zone r.today onboardingForm payload = .ok errors) :
    app.preview r payload = app.reply (some ⟨200, some (previewAnswer errors), none⟩) := by
  have hencodable : (previewAnswer errors).hasSurrogate = false := by
    simp [previewAnswer, Json.object, Json.hasSurrogate, Json.hasSurrogateMembers,
      errors_hasSurrogate herrors]
  simp only [preview, hform, herrors]
  exact congrArg app.reply (Response.ofJson?_of_encodable hencodable)

theorem create_of_errors (hform : app.form = onboardingForm)
    (herrors : validate app.zone r.today onboardingForm payload = .ok errors)
    (hne : errors ≠ []) :
    (app.create r payload).answer = some ⟨400, some (errorsObject errors), none⟩ := by
  have hvalid : validate app.zone r.today app.form (recordOf payload) = .ok errors := by
    rw [hform, validate_recordOf, herrors]
  obtain ⟨error, rest, rfl⟩ := List.exists_cons_of_ne_nil hne
  simp only [create, hvalid]
  exact Response.ofJson?_of_encodable (errors_hasSurrogate herrors)

theorem recordOf_of_no_errors
    (herrors : validate app.zone r.today onboardingForm payload = .ok []) :
    recordOf payload = payload := by
  obtain ⟨errors, hvalid, hiff⟩ :=
    Onboarding.validate_onboardingForm app.zone r.today (recordOf payload)
  rw [validate_recordOf, herrors] at hvalid
  exact (obj_of_accepts (hiff.1 (Except.ok.inj hvalid).symm)).choose_spec.2

theorem create_of_no_errors (hform : app.form = onboardingForm)
    (herrors : validate app.zone r.today onboardingForm payload = .ok []) :
    app.create r payload = app.accept r payload := by
  have hvalid : validate app.zone r.today app.form payload = .ok [] := by
    rw [hform, herrors]
  simp only [create, recordOf_of_no_errors herrors, hvalid]

theorem accept_of_shallow (hready : app.store.Ready)
    (hnew : ¬ app.store.HasKey (app.idSource app.idsTaken)) (hpayload : r.payload = .ok payload)
    (hnesting : payload.nesting ≤ app.store.depth) :
    (app.accept r payload).answer =
      some ⟨201, some (createdAnswer ⟨app.idSource app.idsTaken, r.time, payload⟩), none⟩ := by
  obtain ⟨store, hcreate⟩ := Store.create_of_ready
    (s := ⟨app.idSource app.idsTaken, r.time, payload⟩) hready
    (Request.integerDigits_of_payload hpayload) hnesting hnew
  simp only [accept, hcreate]
  exact createdAnswer_sent _

/-- What becomes of a body in which the form finds these errors, when it is submitted. -/
structure Submits (app : App) (r : Request) (payload : Json) (errors : Errors) : Prop where
  refused : errors ≠ [] → app.answer r = ⟨400, some (errorsObject errors), none⟩
  stored : errors = [] → payload.nesting ≤ app.store.depth → (app.answer r).status = 201
  failed : errors = [] → app.store.depth < payload.nesting →
    app.answer r = internalError ∧ (app.next r).store = app.store

theorem submits_of_errors (h : app.Reachable) (hready : app.store.Ready)
    (hnew : ¬ app.store.HasKey (app.idSource app.idsTaken))
    (hroute : Route.resolve r.method (Path.decode r.path) = .endpoint .create)
    (hserved : (app.meter r).1 = none) (hpayload : r.payload = .ok payload)
    (herrors : validate app.zone r.today onboardingForm payload = .ok errors) :
    app.Submits r payload errors := by
  obtain ⟨hanswer, hnext⟩ := answer_of_endpoint hserved hroute
  -- the rate limiter has counted the request, which changes nothing else
  have hform := (sound_meter h.sound r).form_eq
  have hstore := meter_store app r
  have hmetered : validate (app.meter r).2.zone r.today onboardingForm payload = .ok errors := by
    rw [meter_eq]
    exact herrors
  have hunused :
      ¬ (app.meter r).2.store.HasKey ((app.meter r).2.idSource (app.meter r).2.idsTaken) := by
    rw [meter_eq]
    exact hnew
  simp only [run, withBody, hpayload] at hanswer hnext
  refine ⟨fun hne => ?_, ?_, ?_⟩
  · rw [hanswer, create_of_errors hform hmetered hne]
    rfl
  · rintro rfl hnesting
    rw [← hstore] at hready hnesting
    rw [hanswer, create_of_no_errors hform hmetered,
      accept_of_shallow hready hunused hpayload hnesting]
    rfl
  · rintro rfl hdeep
    rw [← hstore] at hdeep
    rw [hanswer, hnext, create_of_no_errors hform hmetered, accept_of_deep hdeep]
    exact ⟨rfl, hstore⟩

def edgePreview : Request :=
  { edgePost with path := "/api/form-schema/validate" }

def bodilessPreview : Request :=
  { edgePreview with body := [] }

def bodilessPost : Request :=
  { edgePost with body := [] }

def deepPreview : Request :=
  { deepPost with path := "/api/form-schema/validate" }

def saysValid (response : Response) : Bool :=
  match response.body.bind (·.get? "isValid") with
  | some (.bool valid) => valid
  | _ => false

end App

end FormIntake
