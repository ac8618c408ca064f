import FormIntake.Proofs.Submission.Paging
/-!
# Numbers in queries

The number that a query text begins with is the longest beginning of the text
that is a number. A page and a limit are that number if it is positive. What is
put in place of it otherwise is 1 for a page; for a limit it is the default,
but 1 if the number is negative.
-/

namespace FormIntake

namespace Count

open Numeral

/-- Blanks, a sign and digits of any script, and the number that they stand for. -/
inductive Figure : Text → Int → Prop
  | mk {blanks sign run : Text} {negative : Bool} {digits : List Nat}
      (hblanks : ∀ c ∈ blanks, c.isBlank = true) (hsign : Sign sign negative)
      (hrun : run.map CodePoint.decimalValue? = digits.map some) (hne : digits ≠ []) :
      Figure (blanks ++ (sign ++ run)) (signed negative (Numeral.value 10 digits))

structure LongestFigure (t head : Text) (k : Int) : Prop where
  begins : head <+: t
  figure : Figure head k
  longest : ∀ other k', other <+: t → Figure other k' → other.length ≤ head.length

inductive Reads : Option Text → Option Int → Prop
  | absent : Reads none none
  | unreadable {t : Text} (h : ∀ head k, head <+: t → ¬ Figure head k) : Reads (some t) none
  | figure {t head : Text} {k : Int} (h : LongestFigure t head k) : Reads (some t) (some k)

/-! ## The longest number -/

/-- A number at the beginning of a text reaches no further than the digits that are taken. -/
theorem Figure.lead_append {head : Text} {k : Int} (h : Figure head k) (tail : Text) :
    (lead (head ++ tail)).2.1 ≠ [] ∧ (lead (head ++ tail)).2.2.length ≤ tail.length := by
  cases h with
  | @mk blanks sign run negative digits hblanks hsign hrun hne =>
      -- the digits may go on in what follows
      obtain ⟨more, htail, hmore, hrest⟩ := exists_takeDigits CodePoint.decimalValue? tail
      generalize (takeDigits CodePoint.decimalValue? tail).1 = others at hmore
      generalize (takeDigits CodePoint.decimalValue? tail).2 = rest at htail hrest
      have hall : (run ++ more).map CodePoint.decimalValue? = (digits ++ others).map some := by
        rw [List.map_append, List.map_append, hrun, hmore]
      have hboth : digits ++ others ≠ [] := List.append_ne_nil_of_left_ne_nil hne others
      have hlead := Count.lead_append hblanks hsign hall hboth hrest
      rw [htail, List.append_assoc, List.append_assoc, ← List.append_assoc run, hlead]
      refine ⟨hboth, ?_⟩
      rw [List.length_append]
      exact Nat.le_add_left _ _

theorem Figure.exists_leads {t head : Text} {k : Int} (h : Figure head k) (hbegins : head <+: t) :
    ∃ negative digits, Leads t negative digits := by
  obtain ⟨tail, rfl⟩ := hbegins
  exact ⟨_, _, leads_lead (h.lead_append tail).1⟩

theorem Leads.exists_longest {t : Text} {negative : Bool} {digits : List Nat}
    (h : Leads t negative digits) :
    ∃ head, LongestFigure t head (signed negative (Numeral.value 10 digits)) := by
  cases h with
  | @mk blanks sign run rest _ _ hblanks hsign hrun hne hrest =>
      have hlead := lead_append hblanks hsign hrun hne hrest
      refine ⟨blanks ++ (sign ++ run), ⟨rest, by simp only [List.append_assoc]⟩,
        .mk hblanks hsign hrun hne, ?_⟩
      rintro other k' ⟨tail, htext⟩ hother
      have hreach := (hother.lead_append tail).2
      rw [htext, hlead] at hreach
      have hlength := congrArg List.length htext
      simp only [List.length_append] at hlength ⊢
      simp only at hreach
      omega

theorem Figure.unique {head : Text} {k k' : Int} (h : Figure head k) (h' : Figure head k') :
    k = k' := by
  have hleads : ∀ {k}, Figure head k →
      ∃ negative digits, Leads head negative digits ∧
        k = signed negative (Numeral.value 10 digits) := by
    intro k h
    cases h with
    | @mk blanks sign run negative digits hblanks hsign hrun hne =>
        refine ⟨negative, digits, ?_, rfl⟩
        have hend : Leads (blanks ++ (sign ++ (run ++ []))) negative digits :=
          .mk hblanks hsign hrun hne fun c hc => nomatch hc
        rwa [List.append_nil] at hend
  obtain ⟨negative, digits, hfirst, rfl⟩ := hleads h
  obtain ⟨negative', digits', hsecond, rfl⟩ := hleads h'
  obtain ⟨rfl, rfl⟩ := hfirst.unique hsecond
  rfl

theorem LongestFigure.unique {t head head' : Text} {k k' : Int} (h : LongestFigure t head k)
    (h' : LongestFigure t head' k') : k = k' := by
  have hlength : head.length = head'.length :=
    Nat.le_antisymm (h'.longest head k h.begins h.figure) (h.longest head' k' h'.begins h'.figure)
  have hsame : head = head' :=
    (List.prefix_of_prefix_length_le h.begins h'.begins hlength.le).eq_of_length hlength
  subst hsame
  exact h.figure.unique h'.figure

/-! ## What is read -/

theorem Reads.unique {text? : Option Text} {k? l? : Option Int} (h : Reads text? k?)
    (h' : Reads text? l?) : k? = l? := by
  cases h with
  | absent =>
      cases h'
      rfl
  | unreadable hnone =>
      cases h' with
      | unreadable _ => rfl
      | figure hlongest => exact absurd hlongest.figure (hnone _ _ hlongest.begins)
  | figure hlongest =>
      cases h' with
      | unreadable hnone => exact absurd hlongest.figure (hnone _ _ hlongest.begins)
      | figure hlongest' => rw [hlongest.unique hlongest']

theorem reads_of_unreadable {t : Text} (h : Unreadable t) : Reads (some t) none := by
  apply Reads.unreadable
  intro head k hbegins hfigure
  obtain ⟨negative, digits, hleads⟩ := hfigure.exists_leads hbegins
  exact h negative digits hleads

theorem Leads.reads {t : Text} {negative : Bool} {digits : List Nat} (h : Leads t negative digits) :
    Reads (some t) (some (signed negative (Numeral.value 10 digits))) := by
  obtain ⟨head, hlongest⟩ := h.exists_longest
  exact .figure hlongest

theorem exists_reads (text? : Option Text) : ∃ k?, Reads text? k? := by
  cases text? with
  | none => exact ⟨_, .absent⟩
  | some t =>
      rcases exists_leads_or_unreadable t with ⟨negative, digits, hleads⟩ | hunreadable
      · exact ⟨_, hleads.reads⟩
      · exact ⟨_, reads_of_unreadable hunreadable⟩

theorem exists_reads_iff (text? : Option Text) : ∃ k?, ∀ l?, Reads text? l? ↔ l? = k? := by
  obtain ⟨k?, hreads⟩ := exists_reads text?
  refine ⟨k?, fun l? => ⟨fun h => h.unique hreads, ?_⟩⟩
  rintro rfl
  exact hreads

/-- What stands for the number that was read: the default in place of nothing and of zero, and
1 in place of a negative number. -/
def settled (default : Int) : Option Int → Nat
  | none => (max default 1).toNat
  | some k => if k = 0 then (max default 1).toNat else (max k 1).toNat

theorem Reads.denotes {text? : Option Text} {k? : Option Int} (h : Reads text? k?)
    (default : Int) : Denotes default text? (settled default k?) := by
  cases h with
  | absent => exact .absent
  | @unreadable t hnone =>
      apply Denotes.unreadable
      intro negative digits hleads
      obtain ⟨head, hlongest⟩ := hleads.exists_longest
      exact hnone head _ hlongest.begins hlongest.figure
  | figure hlongest =>
      obtain ⟨negative, digits, hleads⟩ := hlongest.figure.exists_leads hlongest.begins
      obtain ⟨head, hlongest'⟩ := hleads.exists_longest
      rw [hlongest.unique hlongest', settled]
      split
      · rename_i hzero
        exact .zero hleads ((signed_eq_zero_iff _ _).1 hzero)
      · rename_i hne
        exact .number hleads (mt (signed_eq_zero_iff _ _).2 hne)

theorem settled_of_pos (default : Int) {k : Int} (h : 1 ≤ k) :
    settled default (some k) = k.toNat := by
  rw [settled, if_neg (by omega), max_eq_left h]

theorem settled_of_neg (default : Int) {k : Int} (h : k < 0) : settled default (some k) = 1 := by
  rw [settled, if_neg h.ne, max_eq_right (by omega)]
  rfl

theorem settled_pos (default : Int) (k? : Option Int) : 1 ≤ settled default k? := by
  have hmax : ∀ n : Int, 1 ≤ (max n 1).toNat := by
    intro n
    omega
  cases k? with
  | none => exact hmax default
  | some k =>
      rw [settled]
      split
      · exact hmax default
      · exact hmax k

theorem settled_otherwise {default : Int} (hdefault : 1 ≤ default) {k? : Option Int}
    (h : ∀ k, k? = some k → k = 0) : settled default k? = default.toNat := by
  cases k? with
  | none => rw [settled, max_eq_left hdefault]
  | some k => rw [settled, if_pos (h k rfl), max_eq_left hdefault]

theorem settled_one {k? : Option Int} (h : ∀ k, k? = some k → k < 1) : settled 1 k? = 1 := by
  by_cases hneg : ∃ k, k? = some k ∧ k < 0
  · obtain ⟨k, rfl, hk⟩ := hneg
    exact settled_of_neg 1 hk
  · apply settled_otherwise le_rfl
    intro k hk
    have hless := h k hk
    have hnonneg : ¬ k < 0 := fun hk' => hneg ⟨k, hk, hk'⟩
    omega

end Count

/-! ## Page requests -/

namespace PageRequest

open FormIntake.Count

structure Normalised (page? limit? : Option Int) (order : Json) (defaultLimit : Int)
    (r : PageRequest) : Prop where
  page_of_pos : ∀ k, page? = some k → 1 ≤ k → r.page = .number k.toNat
  page_otherwise : (∀ k, page? = some k → k < 1) → r.page = .number 1
  limit_of_pos : ∀ k, limit? = some k → 1 ≤ k → r.limit = .number k.toNat
  /-- The default is not put in place of a negative number. -/
  limit_of_neg : ∀ k, limit? = some k → k < 0 → r.limit = .number 1
  limit_otherwise : (∀ k, limit? = some k → k = 0) → r.limit = .number defaultLimit.toNat
  ascending_iff : r.order = .ascending ↔ order = .str "asc"
  sortKey_eq : sortKey = ("createdAt" : Text)
  offset_eq : (r.offset : Int) = ((r.page.value : Int) - 1) * r.limit.value

theorem ascending_iff (order : Json) :
    SortOrder.ofJson order = .ascending ↔ order = .str "asc" := by
  cases order with
  | str t =>
      rw [SortOrder.ofJson, Json.str.injEq]
      split
      · rename_i hasc
        exact iff_of_true rfl hasc
      · rename_i hother
        exact iff_of_false (by decide) hother
  | _ => exact iff_of_false (fun h => nomatch h) (fun h => nomatch h)

theorem normalised_settled (k? l? : Option Int) (order : Json) {defaultLimit : Int}
    (hdefault : 1 ≤ defaultLimit) :
    Normalised k? l? order defaultLimit
      ⟨.number (settled 1 k?), .number (settled defaultLimit l?), .ofJson order⟩ where
  page_of_pos := by
    rintro k rfl hk
    rw [settled_of_pos 1 hk]
  page_otherwise := by
    intro hless
    rw [settled_one hless]
  limit_of_pos := by
    rintro k rfl hk
    rw [settled_of_pos defaultLimit hk]
  limit_of_neg := by
    rintro k rfl hk
    rw [settled_of_neg defaultLimit hk]
  limit_otherwise := by
    intro hzero
    rw [settled_otherwise hdefault hzero]
  ascending_iff := ascending_iff order
  sortKey_eq := rfl
  offset_eq := by
    have hpage := settled_pos 1 k?
    simp only [offset, Count.value]
    push_cast [hpage]
    rfl

theorem query_is_normalised {page? limit? : Option Text} (order : Json) {defaultLimit : Int}
    (hdefault : 1 ≤ defaultLimit) (hpage : ¬ TooLong page?) (hlimit : ¬ TooLong limit?) :
    ∃ k? l? r, (∀ read?, Reads page? read? ↔ read? = k?) ∧
      (∀ read?, Reads limit? read? ↔ read? = l?) ∧
      ofQuery (.optional .str page?) (.optional .str limit?) order defaultLimit = .ok r ∧
      Normalised k? l? order defaultLimit r := by
  obtain ⟨k?, hk⟩ := exists_reads_iff page?
  obtain ⟨l?, hl⟩ := exists_reads_iff limit?
  have hpageDenotes := ((hk k?).2 rfl).denotes 1
  have hlimitDenotes := ((hl l?).2 rfl).denotes defaultLimit
  exact ⟨k?, l?, _, hk, hl, ofQuery_of_denotes hpageDenotes hlimitDenotes hpage hlimit,
    normalised_settled k? l? order hdefault⟩

theorem padded_page_is_read :
    ¬ TooLong (some " +٣x") ∧ ¬ TooLong none ∧
      ∃ r, ofQuery (.str " +٣x") .null (.str "asc") 10 = .ok r ∧
        r.page = .number 3 ∧ r.limit = .number 10 ∧ r.order = .ascending := by
  have hshort : ¬ TooLong (some " +٣x") := not_tooLong_of_length (by decide)
  have habsent : ¬ TooLong none := fun ⟨_, _, _, hnone, _⟩ => nomatch hnone
  have hleads : Leads ((" " : Text) ++ (("+" : Text) ++ (("٣" : Text) ++ ("x" : Text)))) false [3] := by
    refine .mk (List.all_eq_true.1 (by decide)) .plus (by decide +kernel) (by decide) ?_
    rintro _ ⟨⟩
    decide +kernel
  obtain ⟨k?, l?, r, hk, hl, hok, hr⟩ :=
    query_is_normalised (.str "asc") (by decide : (1 : Int) ≤ 10) hshort habsent
  have hpage : some 3 = k? := (hk _).1 hleads.reads
  have hlimit : none = l? := (hl _).1 .absent
  refine ⟨hshort, habsent, r, hok, hr.page_of_pos 3 hpage.symm (by decide), ?_,
    hr.ascending_iff.2 rfl⟩
  apply hr.limit_otherwise
  rintro k rfl
  cases hlimit

/-- A negative limit is a limit of 1, whatever the default is. -/
theorem negative_limit_is_not_the_default :
    Reads (some "-1") (some (-1)) ∧
      ofQuery .null (.str "-1") .null 10 = .ok ⟨.number 1, .number 1, .descending⟩ := by
  have hleads : Leads (([] : Text) ++ (("-" : Text) ++ (("1" : Text) ++ []))) true [1] :=
    .mk (fun c hc => nomatch hc) .minus (by decide +kernel) (by decide) fun c hc => nomatch hc
  exact ⟨hleads.reads, by decide +kernel⟩

end PageRequest

end FormIntake
