import FormIntake.Proofs.Double.Whole
import FormIntake.Proofs.Submission.Paging
/-!
# The number of pages

How many pages a listing has, said without a division, and what is answered for
it. The quotient is rounded to a double before it is rounded up: the answer is
right as long as this does not move it to another pair of neighbouring whole
numbers. The first rounding is seen when next to nothing is left for the last
page, and beyond the numbers that doubles tell apart.
-/

namespace FormIntake

open Double

/-- The number of pages for some entries: the least one with room for all of them, and one page
if there are none. -/
structure PageCount (total limit pages : Nat) : Prop where
  pos : 1 ≤ pages
  room : total ≤ pages * limit
  least : ∀ q, 1 ≤ q → total ≤ q * limit → pages ≤ q

namespace PageCount

variable {total limit pages : Nat}

/-- The pages that begin before the end of the listing are those up to the last one. -/
theorem begins_inside_iff (h : PageCount total limit pages) (htotal : 0 < total) {p : Nat}
    (hp : 1 ≤ p) : (p - 1) * limit < total ↔ p ≤ pages := by
  constructor
  · intro hinside
    by_contra hbeyond
    have hless : pages ≤ p - 1 := by omega
    have hroom := h.room.trans (Nat.mul_le_mul_right limit hless)
    omega
  · intro hle
    by_contra houtside
    have hroom : total ≤ (p - 1) * limit := Nat.le_of_not_lt houtside
    have hpos : 1 ≤ p - 1 := by
      by_contra hfirst
      rw [Nat.eq_zero_of_not_pos hfirst, Nat.zero_mul] at hroom
      omega
    have hleast := h.least (p - 1) hpos hroom
    omega

theorem exists_pageCount (total : Nat) {limit : Nat} (hlimit : 1 ≤ limit) :
    ∃ pages, PageCount total limit pages := by
  have hroom : ∃ pages, 1 ≤ pages ∧ total ≤ pages * limit :=
    ⟨total + 1, by omega, Nat.le_trans (Nat.le_succ total) (Nat.le_mul_of_pos_right _ hlimit)⟩
  exact ⟨Nat.find hroom, (Nat.find_spec hroom).1, (Nat.find_spec hroom).2,
    fun q hq hfits => Nat.find_min' hroom ⟨hq, hfits⟩⟩

theorem le_total (h : PageCount total limit pages) (hlimit : 1 ≤ limit) (htotal : 1 ≤ total) :
    pages ≤ total :=
  h.least total htotal (Nat.le_mul_of_pos_right total hlimit)

theorem totalPages_empty (h : PageCount 0 limit pages) : totalPages 0 limit = .ok pages := by
  have hone : pages = 1 := Nat.le_antisymm (h.least 1 Nat.one_pos (Nat.zero_le _)) h.pos
  rw [hone]
  rfl

end PageCount

/-! ## What is answered -/

structure PagesAnswered (total limit pages : Nat) : Prop where
  /-- Without entries no quotient is taken. -/
  empty : total = 0 → totalPages total limit = .ok 1
  /-- Otherwise the quotient is rounded to the nearest double, and that is rounded up. -/
  rounded : 0 < total → total < quotientBound * limit → ∃ n units : Nat,
    totalPages total limit = .ok n ∧ Rounds false ((total : ℚ) / limit) (finite false units) ∧
      n * one < units + one ∧ units ≤ n * one
  tooLarge : quotientBound * limit ≤ total → totalPages total limit = .error .quotientTooLarge
  /-- The answer is the number of pages if the double lies between the same whole numbers as the
  quotient. -/
  exact_iff : totalPages total limit = .ok pages ↔
    total = 0 ∨ ∃ units, Rounds false ((total : ℚ) / limit) (finite false units) ∧
      (pages - 1) * one < units ∧ units ≤ pages * one
  /-- Up to `2 ^ 53` pages, no more than one of them is lost. -/
  near : pages ≤ exactBound →
    totalPages total limit = .ok pages ∨ totalPages total limit = .ok (pages - 1 : Nat)
  /-- Of fewer than `2 ^ 53` entries none is lost, unless the quotient is rounded to zero. -/
  exact_iff_of_lt : total < exactBound →
    (totalPages total limit = .ok pages ↔ total = 0 ∨ limit < 2 ^ 1075 * total)

theorem totalPages_eq_ceil? {total limit : Nat} (htotal : total ≠ 0) (hlimit : 1 ≤ limit) :
    totalPages total limit =
      (ofRatio false total limit).ceil?.elim (.error .quotientTooLarge) .ok := by
  have htotalInt : (total : Int) ≠ 0 := by omega
  have hlimitInt : (limit : Int) ≠ 0 := by omega
  have hsign : ∀ n : Nat, decide ((n : Int) < 0) = false :=
    fun n => decide_eq_false (Int.not_lt.2 (Int.natCast_nonneg n))
  rw [totalPages, if_neg htotalInt, if_neg hlimitInt, hsign, hsign, bne_self_eq_false,
    Int.natAbs_natCast, Int.natAbs_natCast]
  cases (ofRatio false total limit).ceil? with
  | none => rfl
  | some pages => rfl

section Answers

variable {total limit pages : Nat} (hlimit : 1 ≤ limit)

include hlimit

theorem rounds_quotient (hrange : total < quotientBound * limit) :
    Rounds false ((total : ℚ) / limit) (finite false (roundUnits (total * one) limit)) := by
  apply Rounds.finite (nearest_quotient total hlimit)
  rwa [← Nat.not_le, bound_le_roundUnits_iff total hlimit, Nat.not_le]

theorem totalPages_of_rounds {units : Nat} (htotal : 0 < total)
    (h : Rounds false ((total : ℚ) / limit) (finite false units))
    (hlow : pages * one < units + one) (hhigh : units ≤ pages * one) :
    totalPages total limit = .ok pages := by
  rw [totalPages_eq_ceil? htotal.ne' hlimit, (rounds_ofRatio false total hlimit).unique h,
    ceil?_finite hlow hhigh, Option.elim_some]

theorem totalPages_of_quotientBound_le (h : quotientBound * limit ≤ total) :
    totalPages total limit = .error .quotientTooLarge := by
  have htotal : total ≠ 0 := by
    have hpos : 0 < quotientBound * limit := Nat.mul_pos (by decide +kernel) hlimit
    omega
  have hinfinite : Rounds false ((total : ℚ) / limit) (infinite false) :=
    .infinite (nearest_quotient total hlimit) ((bound_le_roundUnits_iff total hlimit).2 h)
  rw [totalPages_eq_ceil? htotal hlimit, (rounds_ofRatio false total hlimit).unique hinfinite]
  rfl

theorem exists_totalPages_rounded (htotal : 0 < total) (hrange : total < quotientBound * limit) :
    ∃ n units : Nat, totalPages total limit = .ok n ∧
      Rounds false ((total : ℚ) / limit) (finite false units) ∧
      n * one < units + one ∧ units ≤ n * one := by
  have hrounds := rounds_quotient hlimit hrange
  generalize roundUnits (total * one) limit = units at hrounds
  -- the least whole number that is not below the units
  have hsplit := Nat.div_add_mod (units + one - 1) one
  have hrest := Nat.mod_lt (units + one - 1) Double.zero_lt_one
  rw [Nat.mul_comm] at hsplit
  have hlow : (units + one - 1) / one * one < units + one := by omega
  have hhigh : units ≤ (units + one - 1) / one * one := by omega
  exact ⟨_, units, totalPages_of_rounds hlimit htotal hrounds hlow hhigh, hrounds, hlow, hhigh⟩

theorem totalPages_eq_ok_iff (hpages : 1 ≤ pages) (htotal : 0 < total) :
    totalPages total limit = .ok pages ↔
      ∃ units, Rounds false ((total : ℚ) / limit) (finite false units) ∧
        (pages - 1) * one < units ∧ units ≤ pages * one := by
  have hsucc : pages * one = (pages - 1) * one + one := by
    rw [← Nat.succ_mul, Nat.succ_eq_add_one, Nat.sub_add_cancel hpages]
  constructor
  · intro hok
    have hrange : total < quotientBound * limit := by
      by_contra hlarge
      rw [totalPages_of_quotientBound_le hlimit (Nat.le_of_not_lt hlarge)] at hok
      cases hok
    obtain ⟨n, units, hn, hrounds, hlow, hhigh⟩ := exists_totalPages_rounded hlimit htotal hrange
    have hsame : n = pages := by
      rw [hn] at hok
      exact_mod_cast Except.ok.inj hok
    rw [hsame] at hlow hhigh
    exact ⟨units, hrounds, by omega, hhigh⟩
  · rintro ⟨units, hrounds, hlow, hhigh⟩
    exact totalPages_of_rounds hlimit htotal hrounds (by omega) hhigh

theorem totalPages_of_roundUnits (htotal : 0 < total) (hrange : total < quotientBound * limit)
    (hlow : pages * one < roundUnits (total * one) limit + one)
    (hhigh : roundUnits (total * one) limit ≤ pages * one) : totalPages total limit = .ok pages :=
  totalPages_of_rounds hlimit htotal (rounds_quotient hlimit hrange) hlow hhigh

end Answers

namespace PageCount

variable {total limit before : Nat} (h : PageCount total limit (before + 1)) (hlimit : 1 ≤ limit)

include h

theorem before_lt (htotal : 0 < total) : before * limit < total :=
  (h.begins_inside_iff htotal (Nat.succ_pos before)).2 le_rfl

include hlimit

theorem lt_quotientBound (hbefore : before < exactBound) : total < quotientBound * limit := by
  calc
    total ≤ (before + 1) * limit := h.room
    _ ≤ exactBound * limit := Nat.mul_le_mul_right _ hbefore
    _ < quotientBound * limit := Nat.mul_lt_mul_of_pos_right (by decide +kernel) hlimit

/-- Up to `2 ^ 53` pages the answer is right, or one less if the quotient is rounded to a whole
number below it. -/
theorem totalPages_cases (htotal : 0 < total) (hbefore : before < exactBound) :
    (before * one < roundUnits (total * one) limit ∧
      totalPages total limit = .ok (before + 1 : Nat)) ∨
    (roundUnits (total * one) limit = before * one ∧ totalPages total limit = .ok before) := by
  have hrange := h.lt_quotientBound hlimit hbefore
  obtain ⟨hlow, hhigh⟩ := roundUnits_between hlimit hbefore (h.before_lt htotal).le h.room
  rcases hlow.lt_or_eq with hless | heq
  · have hunits : (before + 1) * one < roundUnits (total * one) limit + one := by
      rw [Nat.succ_mul]
      exact Nat.add_lt_add_right hless one
    exact Or.inl ⟨hless, totalPages_of_roundUnits hlimit htotal hrange hunits hhigh⟩
  · have hunits : before * one < roundUnits (total * one) limit + one := by
      rw [← heq]
      exact Nat.lt_add_of_pos_right Double.zero_lt_one
    exact Or.inr ⟨heq.symm, totalPages_of_roundUnits hlimit htotal hrange hunits heq.ge⟩

theorem totalPages_of_lt_roundUnits (htotal : 0 < total) (hbefore : before < exactBound)
    (hless : before * one < roundUnits (total * one) limit) :
    totalPages total limit = .ok (before + 1 : Nat) := by
  rcases h.totalPages_cases hlimit htotal hbefore with ⟨-, hok⟩ | ⟨heq, -⟩
  · exact hok
  · exact absurd hless heq.le.not_gt

theorem before_lt_exactBound (htotal : 0 < total) (hsmall : total < exactBound) :
    before < exactBound :=
  (h.le_total hlimit htotal).trans hsmall.le

/-- With fewer than `2 ^ 53` entries nothing but zero is near enough to a quotient to be taken
for it. -/
theorem lt_roundUnits_iff (htotal : 0 < total) (hsmall : total < exactBound) :
    before * one < roundUnits (total * one) limit ↔ limit < 2 ^ 1075 * total := by
  rw [← roundUnits_pos_iff total hlimit]
  cases before with
  | zero => rw [Nat.zero_mul]
  | succ before =>
      have hbefore : (before + 1) * limit < total := h.before_lt htotal
      have hlimitSmall : limit < total :=
        Nat.lt_of_le_of_lt (Nat.le_mul_of_pos_left limit (Nat.succ_pos before)) hbefore
      have hbound : limit ≤ divisorBound :=
        ((hlimitSmall.trans hsmall).trans (by decide +kernel : exactBound < divisorBound)).le
      have hless := mul_one_lt_roundUnits hlimit hsmall (le_quotient htotal hlimit hbound) hbefore
      exact iff_of_true hless (Nat.zero_lt_of_lt hless)

theorem totalPages_exact_iff (htotal : 0 < total) (hsmall : total < exactBound) :
    totalPages total limit = .ok (before + 1 : Nat) ↔ limit < 2 ^ 1075 * total := by
  have hbefore := h.before_lt_exactBound hlimit htotal hsmall
  rw [← h.lt_roundUnits_iff hlimit htotal hsmall]
  rcases h.totalPages_cases hlimit htotal hbefore with ⟨hless, hok⟩ | ⟨heq, hok⟩
  · exact iff_of_true hok hless
  · refine iff_of_false ?_ heq.le.not_gt
    rw [hok]
    intro hsame
    have hpages : ((before : Nat) : Int) = (before + 1 : Nat) := Except.ok.inj hsame
    omega

theorem totalPages_of_small (hsmall : total < exactBound) (hbound : limit ≤ divisorBound) :
    totalPages total limit = .ok (before + 1 : Nat) := by
  rcases Nat.eq_zero_or_pos total with rfl | htotal
  · exact h.totalPages_empty
  · exact h.totalPages_of_lt_roundUnits hlimit htotal
      (h.before_lt_exactBound hlimit htotal hsmall)
      (mul_one_lt_roundUnits hlimit hsmall (le_quotient htotal hlimit hbound) (h.before_lt htotal))

theorem pagesAnswered : PagesAnswered total limit (before + 1) where
  empty := by
    intro hzero
    rw [hzero]
    rfl
  rounded := exists_totalPages_rounded hlimit
  tooLarge := totalPages_of_quotientBound_le hlimit
  exact_iff := by
    rcases Nat.eq_zero_or_pos total with rfl | htotal
    · exact iff_of_true h.totalPages_empty (Or.inl rfl)
    · rw [totalPages_eq_ok_iff hlimit h.pos htotal, or_iff_right htotal.ne']
  near := by
    intro hbefore
    rcases Nat.eq_zero_or_pos total with rfl | htotal
    · exact Or.inl h.totalPages_empty
    · rcases h.totalPages_cases hlimit htotal hbefore with ⟨-, hok⟩ | ⟨-, hok⟩
      · exact Or.inl hok
      · exact Or.inr hok
  exact_iff_of_lt := by
    intro hsmall
    rcases Nat.eq_zero_or_pos total with rfl | htotal
    · exact iff_of_true h.totalPages_empty (Or.inl rfl)
    · rw [h.totalPages_exact_iff hlimit htotal hsmall, or_iff_right htotal.ne']

end PageCount

theorem exists_totalPages {total limit : Nat} (htotal : total < countLimit) (hlimit : 1 ≤ limit) :
    ∃ pages, totalPages total limit = .ok pages := by
  rcases Nat.eq_zero_or_pos total with rfl | hpos
  · exact ⟨1, rfl⟩
  · have hrange : total < quotientBound * limit := by
      calc
        total < countLimit := htotal
        _ ≤ quotientBound := by decide +kernel
        _ ≤ quotientBound * limit := Nat.le_mul_of_pos_right _ hlimit
    obtain ⟨n, -, hn, -⟩ := exists_totalPages_rounded hlimit hpos hrange
    exact ⟨n, hn⟩

/-- Rounding does not change the number of pages. It is the least one with room for every entry;
without entries there is one page all the same. -/
theorem exists_totalPages_exact {total limit : Nat} (htotal : total < exactBound)
    (hlimit : 1 ≤ limit) (hbound : limit ≤ divisorBound) :
    ∃ pages : Nat, totalPages total limit = .ok (pages + 1 : Nat) ∧
      total ≤ (pages + 1) * limit ∧ (pages = 0 ∨ pages * limit < total) := by
  obtain ⟨pages, hcount⟩ := PageCount.exists_pageCount total hlimit
  obtain ⟨before, rfl⟩ := Nat.exists_eq_add_of_le' hcount.pos
  refine ⟨before, hcount.totalPages_of_small hlimit htotal hbound, hcount.room, ?_⟩
  rcases Nat.eq_zero_or_pos total with rfl | hpos
  · exact Or.inl (Nat.le_zero.1 (Nat.le_of_succ_le_succ (hcount.least 1 le_rfl (Nat.zero_le _))))
  · exact Or.inr (hcount.before_lt hpos)

/-- The number of pages is the least one with room for every entry, and what is answered for it is
the quotient rounded to a double and then up. -/
theorem page_count_is_rounded (total : Nat) {limit : Nat} (hlimit : 1 ≤ limit) :
    ∃ pages, PageCount total limit pages ∧
      (0 < total → ∀ p, 1 ≤ p → ((p - 1) * limit < total ↔ p ≤ pages)) ∧
      PagesAnswered total limit pages := by
  obtain ⟨pages, hcount⟩ := PageCount.exists_pageCount total hlimit
  obtain ⟨before, rfl⟩ := Nat.exists_eq_add_of_le' hcount.pos
  exact ⟨before + 1, hcount, fun htotal p hp => hcount.begins_inside_iff htotal hp,
    hcount.pagesAnswered hlimit⟩

theorem twentyFive_entries_on_three_pages :
    1 ≤ 10 ∧ PageCount 25 10 3 ∧ totalPages 25 10 = .ok 3 := by
  obtain ⟨pages, hcount, -, hanswered⟩ := page_count_is_rounded 25 (by decide : 1 ≤ 10)
  have hroom := hcount.room
  have hleast := hcount.least 3 (by decide) (by decide)
  have hpages : pages = 3 := by omega
  rw [hpages] at hcount hanswered
  exact ⟨by decide, hcount,
    (hanswered.exact_iff_of_lt (by decide)).2 (Or.inr (by decide +kernel))⟩

/-- The quotient may be rounded to zero, to the whole number below, or beyond the range. -/
theorem pages_are_lost :
    (PageCount 1 (10 ^ 324) 1 ∧ totalPages 1 (10 ^ 324 : Nat) = .ok 0) ∧
    (PageCount (2 ^ 53 + 1) (2 ^ 53) 2 ∧ totalPages (2 ^ 53 + 1 : Nat) (2 ^ 53 : Nat) = .ok 1) ∧
    (PageCount (10 ^ 309) 1 (10 ^ 309) ∧
      totalPages (10 ^ 309 : Nat) 1 = .error .quotientTooLarge) := by
  refine ⟨⟨⟨le_rfl, by decide +kernel, fun q hq _ => hq⟩, by decide +kernel⟩,
    ⟨⟨by decide, by decide, ?_⟩, by decide +kernel⟩,
    ⟨⟨by decide +kernel, (Nat.mul_one _).ge, ?_⟩, by decide +kernel⟩⟩
  · intro q _ hfits
    omega
  · intro q _ hfits
    rwa [Nat.mul_one] at hfits

end FormIntake
