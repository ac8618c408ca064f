import FormIntake.Proofs.Text.Blank
import FormIntake.Proofs.Text.Split
import FormIntake.Settings
/-!
# Lists of origins

The origins that a text lists are in normal form, and a list in normal form is
what its text is read as, with any padding around the origins and any blank
parts among them. So no origin is lost, made up or merged with its neighbour.
-/

namespace FormIntake.Settings

def comma : CodePoint :=
  CodePoint.ofChar ','

/-- A part that stands for itself: it is not empty, and it has no comma and no padding. -/
structure IsOrigin (o : Text) : Prop where
  ne_nil : o ≠ []
  no_comma : comma ∉ o
  first : ∀ c ∈ o.head?, c.isBlank = false
  last : ∀ c ∈ o.getLast?, c.isBlank = false

/-- A row of parts that lists some origins: each of them with padding of its own, in order, and
any number of blank parts before, between and behind them. -/
inductive Lists : List Text → List Text → Prop
  | nil : Lists [] []
  | blank {part : Text} {parts origins : List Text} (hblank : part.isBlank = true)
      (rest : Lists parts origins) : Lists (part :: parts) origins
  | origin {before o after : Text} {parts origins : List Text} (ho : IsOrigin o)
      (hbefore : before.isBlank = true) (hafter : after.isBlank = true)
      (rest : Lists parts origins) : Lists ((before ++ o ++ after) :: parts) (o :: origins)

variable {t o : Text} {parts origins : List Text}

/-- The star needs no rule of its own: it is a part like others. -/
theorem originsOf_eq (t : Text) :
    originsOf t = ((t.splitOn comma).map Text.strip).filter fun o => !o.isEmpty := by
  unfold originsOf
  split
  · rename_i hstar
    rw [hstar]
    rfl
  · rfl

theorem comma_not_mem_of_isBlank (h : t.isBlank = true) : comma ∉ t := by
  intro hmem
  have hcomma : comma.isBlank = false := by decide
  rw [List.all_eq_true.1 h comma hmem] at hcomma
  cases hcomma

/-! ## What is listed -/

theorem isOrigin_of_mem (h : o ∈ originsOf t) : IsOrigin o := by
  rw [originsOf_eq, List.mem_filter, List.mem_map] at h
  obtain ⟨⟨part, hpart, rfl⟩, hne⟩ := h
  obtain ⟨before, after, hpadded, -, -⟩ := Text.exists_padding CodePoint.isBlank part
  obtain ⟨hfirst, hlast⟩ := Text.trim_ends CodePoint.isBlank part
  refine ⟨?_, ?_, hfirst, hlast⟩
  · intro hnil
    rw [hnil] at hne
    cases hne
  · intro hmem
    apply Text.not_mem_of_mem_splitOn hpart
    rw [hpadded]
    exact List.mem_append_left _ (List.mem_append_right _ hmem)

/-! ## Reading a list -/

namespace Lists

theorem no_comma (h : Lists parts origins) : ∀ part ∈ parts, comma ∉ part := by
  induction h with
  | nil => simp
  | blank hblank _ ih => exact List.forall_mem_cons.2 ⟨comma_not_mem_of_isBlank hblank, ih⟩
  | origin ho hbefore hafter _ ih =>
      refine List.forall_mem_cons.2 ⟨?_, ih⟩
      simp only [List.mem_append, not_or]
      exact ⟨⟨comma_not_mem_of_isBlank hbefore, ho.no_comma⟩, comma_not_mem_of_isBlank hafter⟩

theorem stripped (h : Lists parts origins) :
    (parts.map Text.strip).filter (fun o => !o.isEmpty) = origins := by
  induction h with
  | nil => rfl
  | blank hblank _ ih =>
      rw [List.map_cons, (Text.strip_eq_nil_iff _).2 hblank, List.filter_cons_of_neg (by decide), ih]
  | @origin before o after _ _ ho hbefore hafter _ ih =>
      have hstrip : Text.strip (before ++ o ++ after) = o :=
        Text.trim_padded_of_ends (List.all_eq_true.1 hbefore) (List.all_eq_true.1 hafter)
          ho.first ho.last
      have hfull : (!o.isEmpty) = true := by simp [ho.ne_nil]
      rw [List.map_cons, hstrip, List.filter_cons, if_pos hfull, ih]

theorem originsOf_joined (h : Lists parts origins) :
    originsOf (Text.joined [comma] parts) = origins := by
  rw [originsOf_eq]
  by_cases hne : parts = []
  · subst hne
    cases h
    rfl
  · rw [Text.splitOn_joined hne h.no_comma, h.stripped]

theorem of_isOrigin (h : ∀ o ∈ origins, IsOrigin o) : Lists origins origins := by
  induction origins with
  | nil => exact .nil
  | cons o origins ih =>
      rw [List.forall_mem_cons] at h
      have horigin := @Lists.origin [] o [] origins origins h.1 rfl rfl (ih h.2)
      rwa [List.nil_append, List.append_nil] at horigin

end Lists

/-- The origins of the settings are normal parts of the text. Written in a row they are read as
they are, and so is every list of normal parts, whatever padding and blank parts are added. -/
theorem origins_are_normalised (s : Settings) :
    (∀ o ∈ s.corsOriginList, IsOrigin o) ∧
    originsOf (Text.joined [comma] s.corsOriginList) = s.corsOriginList ∧
    ∀ parts origins, Lists parts origins →
      { s with corsOrigins := Text.joined [comma] parts }.corsOriginList = origins := by
  have hnormal : ∀ o ∈ s.corsOriginList, IsOrigin o := fun o => isOrigin_of_mem
  exact ⟨hnormal, (Lists.of_isOrigin hnormal).originsOf_joined, fun _ _ => Lists.originsOf_joined⟩

def starParts : List Text :=
  [Text.ofString " " ++ Text.ofString "*" ++ [], [CodePoint.ofNat 0x2003],
    [] ++ Text.ofString "http://localhost" ++ Text.ofString "\t", [],
    [] ++ Text.ofString "*" ++ []]

def starOrigins : List Text :=
  ["*", "http://localhost", "*"]

/-- A star among other parts is one of the origins, also when it stands there twice. -/
theorem padded_star_is_listed :
    Lists starParts starOrigins ∧ Text.ofString "http://localhost" ∈ starOrigins ∧
      { default with
        corsOrigins := Text.joined [comma] starParts }.corsOriginList = starOrigins ∧
      IsOrigin "http://localhost" := by
  have hlocal : IsOrigin "http://localhost" := by
    refine ⟨by decide, by decide, ?_, ?_⟩ <;> rintro c hc <;> rw [← Option.some.inj hc] <;> decide
  have hstar : IsOrigin "*" := by
    refine ⟨by decide, by decide, ?_, ?_⟩ <;> rintro c hc <;> rw [← Option.some.inj hc] <;> decide
  have hlists : Lists starParts starOrigins :=
    .origin hstar (by decide) (by decide) <| .blank (by decide) <|
      .origin hlocal (by decide) (by decide) <| .blank (by decide) <|
      .origin hstar (by decide) (by decide) .nil
  have hmem : Text.ofString "http://localhost" ∈ starOrigins :=
    List.mem_cons_of_mem _ List.mem_cons_self
  have hlisted := (origins_are_normalised default).2.2 starParts starOrigins hlists
  refine ⟨hlists, hmem, hlisted, ?_⟩
  apply (origins_are_normalised
    { default with corsOrigins := Text.joined [comma] starParts }).1
  rw [hlisted]
  exact hmem

end FormIntake.Settings
