import FormIntake.Proofs.Json.Encoding
import FormIntake.Proofs.Service.Run
import FormIntake.Proofs.Submission.PageCount
import FormIntake.Proofs.Submission.Paging
/-!
# Listings

A request for a page is answered with the submissions on it, as they are held.
Four things stand in the way: a page number or a limit with too many digits, a
selection that the database cannot bind, a string that has no encoding, and
data that is nested too deep to be written. Each ends in an internal error.
-/

namespace FormIntake

/-- A store that can take submissions can show them, within the words of the database. -/
theorem Store.Ready.selects {store : Store} {r : PageRequest} (h : store.Ready)
    (hoffset : r.offset < Table.boundLimit) (hlimit : r.limit.value < Table.boundLimit) :
    store.Selects r := by
  match store with
  | memory m => trivial
  | database none => cases h
  | database (some table) => exact ⟨hoffset, hlimit⟩

instance (store : Store) (r : PageRequest) : Decidable (store.Selects r) :=
  match store with
  | .memory _ => isTrue trivial
  | .database none => isFalse fun h => h
  | .database (some _) =>
    inferInstanceAs (Decidable (r.offset < Table.boundLimit ∧ r.limit.value < Table.boundLimit))

namespace App

/-! ## Submissions as they are told -/

def told (s : Submission) : Submission :=
  { s with data := listedData s.data }

structure IsSendable (s : Submission) : Prop where
  encodable : (told s).data.hasSurrogate = false
  shallow : s.data.nesting ≤ Json.answerDepth

instance (s : Submission) : Decidable (IsSendable s) :=
  decidable_of_iff ((told s).data.hasSurrogate = false ∧ s.data.nesting ≤ Json.answerDepth)
    ⟨fun h => ⟨h.1, h.2⟩, fun h => ⟨h.1, h.2⟩⟩

def entry (s : Submission) : Json :=
  .object [("id", .str s.id.text), ("createdAt", .str (Calendar.instantText "Z" s.createdAt)),
    ("data", s.data)]

def pageAnswer (items : List Submission) (total p : Nat) (pages : Int) : Json :=
  .object [("success", .bool true), ("data", .array entry items),
    ("meta", .object [("total", .ofNat total), ("page", .ofNat p), ("totalPages", .ofInt pages)])]

theorem hasSurrogate_finiteOrNull (x : Double) : (finiteOrNull x).hasSurrogate = false := by
  cases x <;> rfl

theorem finiteOrNull_of_isFinite (x : Double) (h : x.isFinite = true) :
    finiteOrNull x = .number (.double x) := by
  cases x with
  | finite => rfl
  | nan | infinite => cases h

theorem told_of_isPlain {s : Submission} (hdistinct : s.data.DistinctKeys) (h : s.data.IsPlain) :
    told s = s := by
  rw [told, listedData, Json.replaceKeySurrogates_eq_self hdistinct h.encodable,
    Json.mapDoubles_of_isFinite finiteOrNull_of_isFinite s.data h.finite]

theorem told_encodable {s : Submission} (h : s.data.EncodableTexts) :
    (told s).data.hasSurrogate = false :=
  (Json.hasSurrogate_mapDoubles hasSurrogate_finiteOrNull _).trans
    h.hasSurrogate_replaceKeySurrogates

theorem isSendable_of_isPlain {s : Submission} (hdistinct : s.data.DistinctKeys)
    (h : s.data.IsPlain) (hnesting : s.data.nesting ≤ Json.answerDepth) : IsSendable s := by
  refine ⟨?_, hnesting⟩
  rw [told_of_isPlain hdistinct h]
  exact h.encodable

/-- Only the data of a submission can keep it from being sent. -/
theorem hasSurrogate_entry (s : Submission) : (entry s).hasSurrogate = s.data.hasSurrogate := by
  have hz : (Text.ofString "Z").hasSurrogate = false := Text.hasSurrogate_ofString "Z"
  simp [entry, Json.object, Json.hasSurrogate, Json.hasSurrogateMembers,
    Calendar.hasSurrogate_instantText hz]

theorem hasSurrogate_pageAnswer (items : List Submission) (total p : Nat) (pages : Int) :
    (pageAnswer items total p pages).hasSurrogate = items.any fun s => s.data.hasSurrogate := by
  simp [pageAnswer, Json.object, Json.array, Json.ofNat, Json.ofInt, Json.hasSurrogate,
    Json.hasSurrogateMembers, Json.hasSurrogateItems_map, hasSurrogate_entry]

/-! ## Requests for a page -/

/-- The text of a query parameter, the last one if it is repeated. -/
def queryText? (r : Request) (name : Text) : Option Text :=
  (r.query.reverse.find? fun (key, _) => key = name).map Prod.snd

theorem parameter_eq (r : Request) (name : Text) :
    parameter r name = .optional .str (queryText? r name) := rfl

def orderOf (r : Request) : SortOrder :=
  .ofJson (parameter r "sortOrder")

variable {app : App} {r : Request}

def AsksTooLong (r : Request) : Prop :=
  Count.TooLong (queryText? r "page") ∨ Count.TooLong (queryText? r "limit")

structure Asks (app : App) (r : Request) (p n : Nat) : Prop where
  page : Count.Denotes 1 (queryText? r "page") p
  limit : Count.Denotes app.settings.defaultPageSize (queryText? r "limit") n

/-- Every query asks for one page, whatever its texts are. -/
theorem exists_asks (app : App) (r : Request) :
    ∃ p n, ∀ p' n', app.Asks r p' n' ↔ p' = p ∧ n' = n := by
  obtain ⟨p, hp⟩ := Count.exists_denotes 1 (queryText? r "page")
  obtain ⟨n, hn⟩ := Count.exists_denotes app.settings.defaultPageSize (queryText? r "limit")
  refine ⟨p, n, fun p' n' => ⟨?_, ?_⟩⟩
  · rintro ⟨hp', hn'⟩
    exact ⟨hp'.unique hp, hn'.unique hn⟩
  · rintro ⟨rfl, rfl⟩
    exact ⟨hp, hn⟩

theorem asks_of_spells {p n : Nat} {page limit : Text} (hpage : queryText? r "page" = some page)
    (hlimit : queryText? r "limit" = some limit) (hpageSpelt : Count.Spells page p)
    (hlimitSpelt : Count.Spells limit n) (hp : 1 ≤ p) (hn : 1 ≤ n) :
    app.Asks r p n ∧ ¬ AsksTooLong r := by
  refine ⟨⟨?_, ?_⟩, ?_⟩
  · rw [hpage]
    exact (hpageSpelt.denotes hp 1).1
  · rw [hlimit]
    exact (hlimitSpelt.denotes hn _).1
  · rw [AsksTooLong, hpage, hlimit]
    rintro (hlong | hlong)
    · exact (hpageSpelt.denotes hp 1).2 hlong
    · exact (hlimitSpelt.denotes hn 1).2 hlong

theorem pageRequest_of_asks {p n : Nat} (h : app.Asks r p n) (hshort : ¬ AsksTooLong r) :
    app.pageRequest r = .ok ⟨.number p, .number n, orderOf r⟩ := by
  have hpage : ¬ Count.TooLong (queryText? r "page") := fun hlong => hshort (Or.inl hlong)
  have hlimit : ¬ Count.TooLong (queryText? r "limit") := fun hlong => hshort (Or.inr hlong)
  rw [pageRequest, parameter_eq, parameter_eq]
  exact PageRequest.ofQuery_of_denotes h.page h.limit hpage hlimit

/-- A way through all submissions, sorted as the request asks for. Those of one time stand in order
of creation in memory; a database may bring them in any order. -/
structure GoesThrough (app : App) (r : Request) (ordered : List Submission) : Prop where
  arranges : (orderOf r).Arranges app.store.submissions ordered
  stable : ∀ m, app.store = .memory m → ordered = (orderOf r).sort m.submissions

/-- The submissions in the order in which a request for page `p` goes through them. -/
def ordered (app : App) (r : Request) (p n : Nat) : List Submission :=
  app.store.arranged app.rowOrder ⟨.number p, .number n, orderOf r⟩

theorem goesThrough_ordered (app : App) (r : Request) (p n : Nat) :
    app.GoesThrough r (app.ordered r p n) := by
  refine ⟨app.store.arranges_arranged app.rowOrder ⟨.number p, .number n, orderOf r⟩,
    fun m hmemory => ?_⟩
  rw [ordered, hmemory]
  rfl

def page (app : App) (r : Request) (p n : Nat) : List Submission :=
  slice ((p - 1) * n) n (app.ordered r p n)

theorem GoesThrough.mem_of_mem_slice {ordered : List Submission} (h : app.GoesThrough r ordered)
    {offset n : Nat} {s : Submission} (hs : s ∈ slice offset n ordered) :
    s ∈ app.store.submissions :=
  h.arranges.perm.mem_iff.1 (List.mem_of_mem_drop (List.mem_of_mem_take hs))

theorem GoesThrough.slice_eq_nil {ordered : List Submission} (h : app.GoesThrough r ordered)
    {offset n : Nat} (hpast : app.store.submissions.length ≤ offset) :
    slice offset n ordered = [] := by
  rw [← h.arranges.perm.length_eq] at hpast
  exact FormIntake.slice_eq_nil n hpast

/-! ## The answer to a request -/

theorem listAnswer_listing (app : App) (r : Request) (p n : Nat) (pages : Int) :
    listAnswer (app.store.listing app.rowOrder ⟨.number p, .number n, orderOf r⟩) pages =
      pageAnswer ((app.page r p n).map told) app.store.submissions.length p pages := by
  rw [listAnswer, pageAnswer, Json.array, Json.array, List.map_map]
  rfl

structure Lists (app : App) (r : Request) : Prop where
  route_eq : Route.resolve r.method (Path.decode r.path) = .endpoint .list
  served : (app.meter r).1 = none

theorem list_metered (app : App) (r : Request) :
    ((app.meter r).2.list r).answer = (app.list r).answer := by
  have hrequest : App.pageRequest { app with limiter := (app.meter r).2.limiter } r =
      app.pageRequest r := rfl
  rw [meter_eq]
  simp only [list, hrequest]
  cases app.pageRequest r with
  | error fault => rfl
  | ok request =>
      simp only
      cases app.store.listBy app.rowOrder request with
      | error fault => rfl
      | ok listing =>
          simp only
          cases listing.totalPages with
          | error fault => rfl
          | ok pages =>
              simp only
              split <;> rfl

theorem answer_of_lists (h : app.Lists r) :
    app.answer r = (app.list r).answer.getD internalError := by
  rw [(answer_of_endpoint h.served h.route_eq).1, ← list_metered]
  rfl

theorem answer_of_tooLong (h : app.Lists r) (hlong : AsksTooLong r) :
    app.answer r = internalError := by
  obtain ⟨fault, hfault⟩ := PageRequest.ofQuery_of_tooLong (parameter r "sortOrder")
    app.settings.defaultPageSize hlong
  have hrequest : app.pageRequest r = .error fault := hfault
  rw [answer_of_lists h, list, hrequest]
  rfl

theorem answer_of_not_selects {p n : Nat} (h : app.Lists r) (hasks : app.Asks r p n)
    (hshort : ¬ AsksTooLong r)
    (hselects : ¬ app.store.Selects ⟨.number p, .number n, orderOf r⟩) :
    app.answer r = internalError := by
  obtain ⟨fault, hfault⟩ := Store.listBy_of_not_selects app.rowOrder hselects
  rw [answer_of_lists h, list, pageRequest_of_asks hasks hshort]
  simp only [hfault]
  rfl

section

variable {p n : Nat} (h : app.Lists r) (hasks : app.Asks r p n) (hshort : ¬ AsksTooLong r)
  (hselects : app.store.Selects ⟨.number p, .number n, orderOf r⟩)
  (hmany : app.store.submissions.length < countLimit)

include h hasks hshort hselects hmany

/-- A page that is selected is written, unless something on it is nested too deep, and then sent,
unless something on it has no encoding. -/
theorem answer_of_selects :
    ∃ pages, totalPages app.store.submissions.length n = .ok pages ∧
      app.answer r =
        if (app.page r p n).any fun s => Json.answerDepth < s.data.nesting then internalError
        else (Response.ofJson? 200 (pageAnswer ((app.page r p n).map told)
          app.store.submissions.length p pages)).getD internalError := by
  obtain ⟨pages, hpages⟩ := exists_totalPages hmany hasks.limit.pos
  have hquotient : (app.store.listing app.rowOrder
      ⟨.number p, .number n, orderOf r⟩).totalPages = .ok pages := hpages
  refine ⟨pages, hpages, ?_⟩
  rw [answer_of_lists h, list, pageRequest_of_asks hasks hshort]
  simp only [Store.listBy_of_selects app.rowOrder hselects, hquotient, listAnswer_listing]
  -- what is left to decide is whether the page can be written
  change Option.getD (Effect.answer (if _ then _ else _)) _ = _
  split
  · rename_i hdeep
    exact (if_pos hdeep).symm
  · rename_i hshallow
    exact (if_neg hshallow).symm

theorem answer_of_sendable (hsendable : ∀ s ∈ app.page r p n, IsSendable s) :
    ∃ pages, totalPages app.store.submissions.length n = .ok pages ∧
      app.answer r = ⟨200, some (pageAnswer ((app.page r p n).map told)
        app.store.submissions.length p pages), none⟩ := by
  obtain ⟨pages, hpages, hanswer⟩ := answer_of_selects h hasks hshort hselects hmany
  have hshallow : ¬ ((app.page r p n).any fun s => Json.answerDepth < s.data.nesting) = true := by
    rw [Bool.not_eq_true, List.any_eq_false]
    intro s hs
    simpa using (hsendable s hs).shallow
  have hencodable : (pageAnswer ((app.page r p n).map told)
      app.store.submissions.length p pages).hasSurrogate = false := by
    rw [hasSurrogate_pageAnswer, List.any_map, List.any_eq_false]
    intro s hs
    simpa using (hsendable s hs).encodable
  refine ⟨pages, hpages, ?_⟩
  rw [hanswer, if_neg hshallow, Response.ofJson?_of_encodable hencodable, Option.getD_some]

theorem answer_of_not_sendable {s : Submission} (hs : s ∈ app.page r p n)
    (hnot : ¬ IsSendable s) : app.answer r = internalError := by
  obtain ⟨pages, -, hanswer⟩ := answer_of_selects h hasks hshort hselects hmany
  rw [hanswer]
  split
  · rfl
  · rename_i hshallow
    rw [Bool.not_eq_true, List.any_eq_false] at hshallow
    have hlost : (pageAnswer ((app.page r p n).map told)
        app.store.submissions.length p pages).hasSurrogate = true := by
      rw [hasSurrogate_pageAnswer, List.any_map, List.any_eq_true]
      refine ⟨s, hs, ?_⟩
      by_contra hencodable
      exact hnot ⟨Bool.eq_false_iff.2 hencodable, by simpa using hshallow s hs⟩
    rw [Response.ofJson?, hlost]
    rfl

end

/-! ## Every query -/

/-- While all data held is plain, every query has its answer: the one page that it denotes, with
the true total, and an internal error only if a number has too many digits, if the database cannot
bind the selection, or if some data on the page is nested too deep. A page past the end is
empty. -/
theorem every_query_is_answered (hreachable : app.Reachable) (h : app.Lists r)
    (hplain : ∀ s ∈ app.store.submissions, s.data.IsPlain)
    (hmany : app.store.submissions.length < countLimit) :
    ∃ p n ordered, (∀ p' n', app.Asks r p' n' ↔ p' = p ∧ n' = n) ∧ app.GoesThrough r ordered ∧
      (AsksTooLong r → app.answer r = internalError) ∧
      (¬ AsksTooLong r → ¬ app.store.Selects ⟨.number p, .number n, orderOf r⟩ →
        app.answer r = internalError) ∧
      (¬ AsksTooLong r → app.store.Selects ⟨.number p, .number n, orderOf r⟩ →
        ((∀ s ∈ slice ((p - 1) * n) n ordered, s.data.nesting ≤ Json.answerDepth) →
          ∃ pages, totalPages app.store.submissions.length n = .ok pages ∧
            app.answer r = ⟨200, some (pageAnswer (slice ((p - 1) * n) n ordered)
              app.store.submissions.length p pages), none⟩) ∧
        ((∃ s ∈ slice ((p - 1) * n) n ordered, Json.answerDepth < s.data.nesting) →
          app.answer r = internalError)) ∧
      (app.store.submissions.length ≤ (p - 1) * n → slice ((p - 1) * n) n ordered = []) := by
  obtain ⟨p, n, hone⟩ := exists_asks app r
  have hasks : app.Asks r p n := (hone p n).2 ⟨rfl, rfl⟩
  have hthrough := goesThrough_ordered app r p n
  have hdistinct : ∀ s ∈ app.page r p n, s.data.DistinctKeys :=
    fun s hs => hreachable.sound.distinctKeys s (hthrough.mem_of_mem_slice hs)
  have hshown : ∀ s ∈ app.page r p n, s.data.IsPlain :=
    fun s hs => hplain s (hthrough.mem_of_mem_slice hs)
  refine ⟨p, n, app.ordered r p n, hone, hthrough, answer_of_tooLong h,
    answer_of_not_selects h hasks, fun hshort hselects => ⟨fun hshallow => ?_, ?_⟩,
    hthrough.slice_eq_nil⟩
  · have hanswer := answer_of_sendable h hasks hshort hselects hmany fun s hs =>
      isSendable_of_isPlain (hdistinct s hs) (hshown s hs) (hshallow s hs)
    -- plain data is told as it is, so the page shows the submissions themselves
    have htold : (app.page r p n).map told = app.page r p n := by
      rw [List.map_congr_left fun s hs => told_of_isPlain (hdistinct s hs) (hshown s hs),
        List.map_id']
    rwa [htold] at hanswer
  · rintro ⟨s, hs, hdeep⟩
    exact answer_of_not_sendable h hasks hshort hselects hmany hs fun hsendable =>
      absurd hsendable.shallow (Nat.not_le.2 hdeep)

def pageGet (query : List (Text × Text)) : Request :=
  { missingDelete with method := "GET", path := "/api/submissions", query := query }

theorem lists_pageGet (app : App) (h : app.limiter = none) (query : List (Text × Text)) :
    app.Lists (pageGet query) where
  route_eq := by
    show Route.resolve (Text.ofString "GET") (Path.decode (Text.ofString "/api/submissions")) = _
    decide +kernel
  served := by rw [meter_of_unlimited h]

theorem spells_one : Count.Spells "1" 1 :=
  ⟨[1], by decide, by decide, by decide, by decide, by decide⟩

theorem spells_three : Count.Spells "3" 3 :=
  ⟨[3], by decide, by decide, by decide, by decide, by decide⟩

theorem spells_ten : Count.Spells "010" 10 :=
  ⟨[0, 1, 0], by decide, by decide, by decide, by decide, by decide⟩

def wholePage : Request :=
  pageGet [("page", "1"), ("limit", "010")]

def pastPage : Request :=
  pageGet [("page", "3"), ("limit", "1")]

theorem stocked_shown (kind : StoreKind) : (stocked kind).store.submissions.length = 2 ∧
    ∀ s ∈ (stocked kind).store.submissions, s.data.IsPlain ∧ IsSendable s := by
  -- one evaluation of the run for all that is asked of what it stores
  have hheld : ((stocked kind).store.submissions.length == 2 &&
      (stocked kind).store.submissions.all fun s =>
        s.data.isFinite && !s.data.hasSurrogate && decide (IsSendable s)) = true := by
    cases kind <;> decide +kernel
  rw [Bool.and_eq_true, beq_iff_eq, List.all_eq_true] at hheld
  refine ⟨hheld.1, fun s hs => ?_⟩
  have hs := hheld.2 s hs
  rw [Bool.and_eq_true, Bool.and_eq_true, Bool.not_eq_true', decide_eq_true_eq] at hs
  exact ⟨⟨hs.1.1, hs.1.2⟩, hs.2⟩

theorem stocked_length_lt (kind : StoreKind) :
    (stocked kind).store.submissions.length < countLimit := by
  rw [(stocked_shown kind).1]
  decide +kernel

theorem stored_pages_are_answered :
    (stocked .database).Reachable ∧
      (∃ ordered pages, (stocked .database).GoesThrough wholePage ordered ∧
        (stocked .database).answer wholePage =
          ⟨200, some (pageAnswer (slice 0 10 ordered) 2 1 pages), none⟩) ∧
      ∃ pages, (stocked .database).answer pastPage =
        ⟨200, some (pageAnswer [] 2 3 pages), none⟩ := by
  have hreachable := stocked_reachable .database
  have hlimiter := limiter_stocked .database
  obtain ⟨hlength, hshown⟩ := stocked_shown .database
  have hplain : ∀ s ∈ (stocked .database).store.submissions, s.data.IsPlain :=
    fun s hs => (hshown s hs).1
  have hmany := stocked_length_lt .database
  refine ⟨hreachable, ?_, ?_⟩
  · obtain ⟨p, n, ordered, hone, hthrough, -, -, hanswer, -⟩ :=
      every_query_is_answered (r := wholePage) hreachable (lists_pageGet _ hlimiter _) hplain hmany
    obtain ⟨hasks, hshort⟩ : (stocked .database).Asks wholePage 1 10 ∧ ¬ AsksTooLong wholePage :=
      asks_of_spells rfl rfl spells_one spells_ten (by decide) (by decide)
    obtain ⟨hp, hn⟩ := (hone 1 10).1 hasks
    rw [← hp, ← hn] at hanswer
    obtain ⟨pages, -, hsent⟩ := (hanswer hshort (by decide +kernel)).1 fun s hs =>
      (hshown s (hthrough.mem_of_mem_slice hs)).2.shallow
    rw [hlength, Nat.sub_self, Nat.zero_mul] at hsent
    exact ⟨ordered, pages, hthrough, hsent⟩
  · obtain ⟨p, n, ordered, hone, hthrough, -, -, hanswer, hpast⟩ :=
      every_query_is_answered (r := pastPage) hreachable (lists_pageGet _ hlimiter _) hplain hmany
    obtain ⟨hasks, hshort⟩ : (stocked .database).Asks pastPage 3 1 ∧ ¬ AsksTooLong pastPage :=
      asks_of_spells rfl rfl spells_three spells_one (by decide) (by decide)
    obtain ⟨hp, hn⟩ := (hone 3 1).1 hasks
    rw [← hp, ← hn] at hanswer hpast
    have hempty := hpast (by rw [hlength])
    obtain ⟨pages, -, hsent⟩ := (hanswer hshort (by decide +kernel)).1 fun s hs => by
      rw [hempty] at hs
      exact absurd hs List.not_mem_nil
    rw [hempty, hlength] at hsent
    exact ⟨pages, hsent⟩

/-- A page beyond the words of the database and a limit beyond the digit limit are not answered,
although the page is past the end. -/
theorem large_numbers_are_not_answered :
    (stocked .database).answer (pageGet [("page", "99999999999999999999")]) = internalError ∧
      (stocked .memory).answer
        (pageGet [("limit", Count.spelt (List.replicate 4301 9))]) = internalError := by
  constructor
  · have hshort : ¬ AsksTooLong (pageGet [("page", "99999999999999999999")]) := by
      rintro (hlong | ⟨t, negative, digits, hnone, -⟩)
      · exact Count.not_tooLong_of_length (by decide) hlong
      · cases hnone
    have hspelt : Count.Spells "99999999999999999999" 99999999999999999999 :=
      ⟨List.replicate 20 9, by decide, by decide, by decide, by decide, by decide⟩
    have hdefault : (stocked .database).settings.defaultPageSize = 10 := by decide +kernel
    have hasks : (stocked .database).Asks (pageGet [("page", "99999999999999999999")])
        99999999999999999999 10 := by
      refine ⟨(hspelt.denotes (by decide) 1).1, ?_⟩
      rw [hdefault]
      exact .absent
    exact answer_of_not_selects (lists_pageGet _ (limiter_stocked .database) _) hasks hshort
      (by decide +kernel)
  · have hnines : ∀ d ∈ List.replicate 4301 9, d < 10 := by
      intro d hd
      rw [List.eq_of_mem_replicate hd]
      decide
    have hne : List.replicate 4301 9 ≠ [] := List.cons_ne_nil 9 (List.replicate 4300 9)
    have hleads := Count.leads_spelt hne hnines
    have hlong : Numeral.digitLimit < (List.replicate 4301 9).length := by
      rw [List.length_replicate]
      decide
    exact answer_of_tooLong (lists_pageGet _ (limiter_stocked .memory) _)
      (Or.inr ⟨_, false, _, rfl, hleads, hlong⟩)

/-! ## Listings after a run -/

/-- After any run a page shows submissions that the run has created. It is sent, with null in the
place of doubles that are not finite and other keys in the place of those with lone surrogates,
unless a string on it has a lone surrogate or some data is nested too deep; then the answer is an
internal error. Plain data is shown as it is. -/
theorem created_submissions_are_listed (h : app.IsDeployed) (requests : List Request) {p n : Nat}
    {page limit : Text} (hlists : (app.after requests).Lists r) (hp : 1 ≤ p) (hn : 1 ≤ n)
    (hpage : queryText? r "page" = some page) (hlimit : queryText? r "limit" = some limit)
    (hpageSpelt : Count.Spells page p) (hlimitSpelt : Count.Spells limit n)
    (hoffset : (p - 1) * n < Table.boundLimit) (hword : n < Table.boundLimit)
    (hmany : (app.after requests).store.submissions.length < countLimit) :
    ∃ ordered, (app.after requests).GoesThrough r ordered ∧
      (∀ s ∈ slice ((p - 1) * n) n ordered,
        (∃ first q rest, requests = first ++ q :: rest ∧ (app.after first).Creates q s) ∧
        (s.data.IsPlain → told s = s) ∧
        (s.data.EncodableTexts → (told s).data.hasSurrogate = false)) ∧
      ((∀ s ∈ slice ((p - 1) * n) n ordered, IsSendable s) →
        ∃ pages, totalPages (app.after requests).store.submissions.length n = .ok pages ∧
          (app.after requests).answer r = ⟨200,
            some (pageAnswer ((slice ((p - 1) * n) n ordered).map told)
              (app.after requests).store.submissions.length p pages), none⟩) ∧
      ((∃ s ∈ slice ((p - 1) * n) n ordered, ¬ IsSendable s) →
        (app.after requests).answer r = internalError) := by
  obtain ⟨hasks, hshort⟩ : (app.after requests).Asks r p n ∧ ¬ AsksTooLong r :=
    asks_of_spells hpage hlimit hpageSpelt hlimitSpelt hp hn
  have hselects : (app.after requests).store.Selects ⟨.number p, .number n, orderOf r⟩ :=
    (h.ready_after requests).selects hoffset hword
  have hthrough := goesThrough_ordered (app.after requests) r p n
  refine ⟨_, hthrough, fun s hs => ?_, answer_of_sendable hlists hasks hshort hselects hmany, ?_⟩
  · have hheld := hthrough.mem_of_mem_slice hs
    have hdistinct := (h.toIsFresh.reachable_after requests).sound.distinctKeys s hheld
    obtain ⟨first, q, rest, hrun, hcreates, -⟩ := held_after h.toIsFresh requests hheld
    exact ⟨⟨first, q, rest, hrun, hcreates⟩, told_of_isPlain hdistinct, told_encodable⟩
  · rintro ⟨s, hs, hnot⟩
    exact answer_of_not_sendable hlists hasks hshort hselects hmany hs hnot

theorem edge_record_is_listed :
    (unlimited .database).IsDeployed ∧
      ∃ ordered pages, (stocked .database).GoesThrough wholePage ordered ∧
        ordered.length = 2 ∧
        (stocked .database).answer wholePage =
          ⟨200, some (pageAnswer (slice 0 10 ordered) 2 1 pages), none⟩ := by
  have hdeployed : (unlimited .database).IsDeployed := start_isDeployed 0 countedId (Or.inr rfl)
  have hafter : (unlimited .database).after [edgePost, edgePost] = stocked .database := rfl
  have hlists : ((unlimited .database).after [edgePost, edgePost]).Lists wholePage := by
    rw [hafter]
    exact lists_pageGet _ (limiter_stocked .database) _
  have hmany : ((unlimited .database).after [edgePost, edgePost]).store.submissions.length <
      countLimit := by
    rw [hafter]
    exact stocked_length_lt .database
  obtain ⟨ordered, hthrough, hshown, hanswer, -⟩ := created_submissions_are_listed hdeployed
    [edgePost, edgePost] hlists (by decide) (by decide) rfl rfl spells_one spells_ten
    (by decide +kernel) (by decide +kernel) hmany
  rw [hafter] at hthrough hanswer
  obtain ⟨hlength, hheld⟩ := stocked_shown .database
  obtain ⟨pages, -, hsent⟩ := hanswer fun s hs => (hheld s (hthrough.mem_of_mem_slice hs)).2
  rw [Nat.sub_self, Nat.zero_mul] at hshown
  have htold : (slice 0 10 ordered).map told = slice 0 10 ordered := by
    rw [List.map_congr_left fun s hs => (hshown s hs).2.1
      (hheld s (hthrough.mem_of_mem_slice hs)).1, List.map_id']
  rw [hlength, Nat.sub_self, Nat.zero_mul, htold] at hsent
  exact ⟨hdeployed, ordered, pages, hthrough, hthrough.arranges.perm.length_eq.trans hlength,
    hsent⟩

def surrogateBody : Text :=
  edgeBody.dropLast ++ Text.ofString ",\"bio\":\"\\ud800\"\x7d"

def surrogatePost : Request :=
  { edgePost with body := surrogateBody.utf8 }

/-- A submission that was taken keeps a later listing from being sent. -/
theorem taken_surrogate_is_not_listed :
    ((unlimited .database).answer surrogatePost).status = 201 ∧
      (((unlimited .database).next surrogatePost).answer wholePage).status = 500 :=
  ⟨by decide +kernel, by decide +kernel⟩

end App

end FormIntake
