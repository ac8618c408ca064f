import FormIntake.Proofs.Assoc
import FormIntake.Proofs.Json.Parts
import FormIntake.Proofs.Text.Surrogates
/-!
# Values with other texts

What becomes of a value when its texts are rewritten. Its objects then have
distinct keys, whether or not they had them before. A value without lone
surrogates and with distinct keys stays as it is, and a look-up by a key of
ASCII characters finds the rewritten value.
-/

namespace FormIntake.Json

variable {key text : Text → Text} {json : Json}

theorem distinctKeys_mapTexts (key text : Text → Text) (json : Json) :
    (json.mapTexts key text).DistinctKeys := by
  induction json using byParts with
  | null => exact .null
  | bool b => exact .bool b
  | number x => exact .number x
  | str t => exact .str (text t)
  | arr items ih =>
      rw [mapTexts_arr]
      refine .arr fun item hitem => ?_
      obtain ⟨source, hsource, rfl⟩ := List.mem_map.1 hitem
      exact ih source hsource
  | obj members ih =>
      rw [mapTexts_obj]
      refine .obj (Assoc.nodup_keys_ofPairs _) fun member hmember => ?_
      obtain ⟨source, hsource, rfl⟩ := List.mem_map.1 (Assoc.mem_of_mem_ofPairs hmember)
      exact ih source hsource

/-- If nothing becomes of texts without lone surrogates, nothing becomes of values without them. -/
theorem mapTexts_eq_self (hkey : ∀ t : Text, t.hasSurrogate = false → key t = t)
    (htext : ∀ t : Text, t.hasSurrogate = false → text t = t) (hdistinct : json.DistinctKeys)
    (h : json.hasSurrogate = false) : json.mapTexts key text = json := by
  induction hdistinct with
  | null | bool _ | number _ => rfl
  | str t => exact congrArg str (htext t h)
  | @arr items _ ih =>
      rw [hasSurrogate_arr_eq_false_iff] at h
      have hitems : items.map (mapTexts key text) = items.map id :=
        List.map_congr_left fun item hitem => ih item hitem (h item hitem)
      rw [mapTexts_arr, hitems, List.map_id]
  | @obj members hkeys _ ih =>
      rw [hasSurrogate_obj_eq_false_iff] at h
      have hmembers : members.map (fun member => (key member.1, member.2.mapTexts key text)) =
          members.map id := by
        refine List.map_congr_left fun member hmember => ?_
        obtain ⟨hname, hvalue⟩ := h member hmember
        exact Prod.ext (hkey _ hname) (ih member hmember hvalue)
      rw [mapTexts_obj, hmembers, List.map_id, Assoc.ofPairs_eq_self hkeys]

theorem readBack_eq_self (hdistinct : json.DistinctKeys) (h : json.hasSurrogate = false) :
    json.readBack = json :=
  mapTexts_eq_self (fun _ => Text.joinSurrogates_eq_self) (fun _ => Text.joinSurrogates_eq_self)
    hdistinct h

theorem replaceKeySurrogates_eq_self (hdistinct : json.DistinctKeys)
    (h : json.hasSurrogate = false) : json.replaceKeySurrogates = json :=
  mapTexts_eq_self (fun _ => Text.replaceSurrogates_eq_self) (fun _ _ => rfl) hdistinct h

/-- Nothing keeps a value from being sent once its keys are replaced, if its strings do not. -/
theorem EncodableTexts.hasSurrogate_replaceKeySurrogates (h : json.EncodableTexts) :
    json.replaceKeySurrogates.hasSurrogate = false := by
  unfold replaceKeySurrogates
  induction h with
  | null | bool _ | number _ => rfl
  | str h => exact h
  | arr _ ih =>
      rw [mapTexts_arr, hasSurrogate_arr_eq_false_iff]
      intro item hitem
      obtain ⟨source, hsource, rfl⟩ := List.mem_map.1 hitem
      exact ih source hsource
  | obj _ ih =>
      rw [mapTexts_obj, hasSurrogate_obj_eq_false_iff]
      intro member hmember
      obtain ⟨source, hsource, rfl⟩ := List.mem_map.1 (Assoc.mem_of_mem_ofPairs hmember)
      exact ⟨Text.hasSurrogate_replaceSurrogates _, ih source hsource⟩

theorem DistinctKeys.keys {members : List (Text × Json)} (h : (Json.obj members).DistinctKeys) :
    (Assoc.keys members).Nodup := by
  cases h with
  | obj hkeys _ => exact hkeys

theorem get?_readBack {members : List (Text × Json)} (h : (obj members).DistinctKeys) {name : Text}
    (hname : name.all (fun c => c.val < 0x80) = true) :
    (obj members).readBack.get? name = ((obj members).get? name).map readBack := by
  have hascii : ∀ c ∈ name, c.val < 0x80 :=
    fun c hc => of_decide_eq_true (List.all_eq_true.1 hname c hc)
  have hplain : name.hasSurrogate = false := by
    rw [Text.hasSurrogate_eq_false_iff]
    intro c hc
    have hval := hascii c hc
    simp only [CodePoint.isSurrogate, Bool.and_eq_false_iff, decide_eq_false_iff_not]
    omega
  have hself := Text.joinSurrogates_eq_self hplain
  have honly : ∀ k ∈ Assoc.keys members,
      Text.joinSurrogates k = Text.joinSurrogates name → k = name := by
    intro k _ hk
    rw [hself] at hk
    exact Text.eq_of_joinSurrogates_eq (fun c hc => Nat.lt_trans (hascii c hc) (by decide)) hk
  have hget : Assoc.get? (Assoc.ofPairs (members.map fun member =>
      (Text.joinSurrogates member.1, member.2.readBack))) (Text.joinSurrogates name) =
        (Assoc.get? members name).map readBack :=
    Assoc.get?_ofPairs_map h.keys honly
  rw [hself] at hget
  rw [readBack, mapTexts_obj]
  exact hget

end FormIntake.Json
