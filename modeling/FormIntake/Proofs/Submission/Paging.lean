import FormIntake.Proofs.Numeral
import FormIntake.Proofs.Numeral.Grammar
import FormIntake.Submission.Store
/-!
# Pages

The numbers that query texts denote, said without the reader, and what the
stores answer to a request for a page. A page number or a limit is read unless
its digits are too many, and a page is selected unless the database cannot
bind its offset or its limit.
-/

namespace FormIntake

namespace Count

open Numeral

/-! ## Query texts -/

/-- The text begins with a whole number: blanks, a sign, digits of any script, and no digit
next. -/
inductive Leads : Text → Bool → List Nat → Prop
  | mk {blanks sign run rest : Text} {negative : Bool} {digits : List Nat}
      (hblanks : ∀ c ∈ blanks, c.isBlank = true) (hsign : Sign sign negative)
      (hrun : run.map CodePoint.decimalValue? = digits.map some) (hne : digits ≠ [])
      (hrest : ∀ c ∈ rest.head?, c.decimalValue? = none) :
      Leads (blanks ++ (sign ++ (run ++ rest))) negative digits

def Unreadable (t : Text) : Prop :=
  ∀ negative digits, ¬ Leads t negative digits

def TooLong (text? : Option Text) : Prop :=
  ∃ t negative digits, text? = some t ∧ Leads t negative digits ∧ digitLimit < digits.length

/-- The number that a query text denotes. What is missing, unreadable or zero is replaced by the
default, and nothing goes below 1. -/
inductive Denotes (default : Int) : Option Text → Nat → Prop
  | absent : Denotes default none (max default 1).toNat
  | unreadable {t : Text} (h : Unreadable t) : Denotes default (some t) (max default 1).toNat
  | zero {t : Text} {negative : Bool} {digits : List Nat} (h : Leads t negative digits)
      (hzero : Numeral.value 10 digits = 0) : Denotes default (some t) (max default 1).toNat
  | number {t : Text} {negative : Bool} {digits : List Nat} (h : Leads t negative digits)
      (hne : Numeral.value 10 digits ≠ 0) :
      Denotes default (some t) (max (signed negative (Numeral.value 10 digits)) 1).toNat

def lead (t : Text) : Bool × List Nat × Text :=
  ((takeSign (t.dropWhile CodePoint.isBlank)).1,
    takeDigits CodePoint.decimalValue? (takeSign (t.dropWhile CodePoint.isBlank)).2)

theorem lead_append {blanks sign run rest : Text} {negative : Bool} {digits : List Nat}
    (hblanks : ∀ c ∈ blanks, c.isBlank = true) (hsign : Sign sign negative)
    (hrun : run.map CodePoint.decimalValue? = digits.map some) (hne : digits ≠ [])
    (hrest : ∀ c ∈ rest.head?, c.decimalValue? = none) :
    lead (blanks ++ (sign ++ (run ++ rest))) = (negative, digits, rest) := by
  obtain ⟨d, digits, rfl⟩ := List.exists_cons_of_ne_nil hne
  obtain ⟨c, run, rfl⟩ : ∃ c others, run = c :: others := by
    cases run with
    | nil => cases hrun
    | cons c others => exact ⟨c, others, rfl⟩
  obtain ⟨hblank, hminus, hplus⟩ := CodePoint.plain_of_decimalValue? (List.cons.inj hrun).1
  have hbody : ∀ first ∈ (c :: run ++ rest).head?,
      first ≠ CodePoint.ofChar '-' ∧ first ≠ CodePoint.ofChar '+' := by
    intro first hfirst
    rw [← Option.some.inj hfirst]
    exact ⟨hminus, hplus⟩
  -- the sign ends the blanks, and the first digit does if there is no sign
  have hdrop : (blanks ++ (sign ++ (c :: run ++ rest))).dropWhile CodePoint.isBlank =
      sign ++ (c :: run ++ rest) := by
    rw [List.dropWhile_append_of_pos hblanks]
    cases hsign with
    | none => exact List.dropWhile_cons_of_neg (by rw [hblank]; decide)
    | plus | minus => exact List.dropWhile_cons_of_neg (by decide)
  rw [lead, hdrop, takeSign_append hsign hbody, takeDigits_append hrun hrest]

theorem lead_of_leads {t : Text} {negative : Bool} {digits : List Nat}
    (h : Leads t negative digits) : digits ≠ [] ∧ (lead t).1 = negative ∧ (lead t).2.1 = digits := by
  cases h with
  | mk hblanks hsign hrun hne hrest =>
      rw [lead_append hblanks hsign hrun hne hrest]
      exact ⟨hne, rfl, rfl⟩

theorem leads_lead {t : Text} (h : (lead t).2.1 ≠ []) : Leads t (lead t).1 (lead t).2.1 := by
  obtain ⟨sign, hsigned, hsign⟩ := exists_sign (t.dropWhile CodePoint.isBlank)
  obtain ⟨run, hbody, hrun, hrest⟩ := exists_takeDigits CodePoint.decimalValue?
    (takeSign (t.dropWhile CodePoint.isBlank)).2
  have hblanks : ∀ c ∈ t.takeWhile CodePoint.isBlank, c.isBlank = true :=
    fun c hc => List.all_eq_true.1 List.all_takeWhile c hc
  have hleads := Leads.mk hblanks hsign hrun h hrest
  rwa [← hbody, ← hsigned, List.takeWhile_append_dropWhile] at hleads

theorem Leads.unique {t : Text} {negative negative' : Bool} {digits digits' : List Nat}
    (h : Leads t negative digits) (h' : Leads t negative' digits') :
    negative = negative' ∧ digits = digits' := by
  obtain ⟨-, hsign, hdigits⟩ := lead_of_leads h
  obtain ⟨-, hsign', hdigits'⟩ := lead_of_leads h'
  exact ⟨hsign.symm.trans hsign', hdigits.symm.trans hdigits'⟩

theorem Leads.length_le {t : Text} {negative : Bool} {digits : List Nat}
    (h : Leads t negative digits) : digits.length ≤ t.length := by
  cases h with
  | @mk _ _ run _ _ _ _ _ hrun _ _ =>
      have hlength := congrArg List.length hrun
      rw [List.length_map, List.length_map] at hlength
      simp only [List.length_append]
      omega

theorem not_tooLong_of_length {t : Text} (h : t.length ≤ digitLimit) : ¬ TooLong (some t) := by
  rintro ⟨t', negative, digits, ht, hleads, hlong⟩
  obtain rfl := Option.some.inj ht
  exact absurd hlong (Nat.not_lt.2 (hleads.length_le.trans h))

theorem leadingInt?_of_leads {t : Text} {negative : Bool} {digits : List Nat}
    (h : Leads t negative digits) :
    leadingInt? t =
      if digitLimit < digits.length then .error (.numeralTooLong digits.length)
      else .ok (some (signed negative (Numeral.value 10 digits))) := by
  obtain ⟨hne, hsign, hdigits⟩ := lead_of_leads h
  obtain ⟨d, others, rfl⟩ := List.exists_cons_of_ne_nil hne
  simp only [lead] at hsign hdigits
  simp only [leadingInt?, hsign, hdigits]

theorem leadingInt?_of_unreadable {t : Text} (h : Unreadable t) : leadingInt? t = .ok none := by
  have hnone : (lead t).2.1 = [] := by
    by_contra hne
    exact h _ _ (leads_lead hne)
  simp only [lead] at hnone
  simp only [leadingInt?, hnone]

theorem exists_leads_or_unreadable (t : Text) :
    (∃ negative digits, Leads t negative digits) ∨ Unreadable t := by
  by_cases h : ∃ negative digits, Leads t negative digits
  · exact Or.inl h
  · exact Or.inr fun negative digits hleads => h ⟨negative, digits, hleads⟩

theorem exists_denotes (default : Int) (text? : Option Text) : ∃ n, Denotes default text? n := by
  cases text? with
  | none => exact ⟨_, .absent⟩
  | some t =>
      rcases exists_leads_or_unreadable t with ⟨negative, digits, hleads⟩ | hunreadable
      · by_cases hzero : Numeral.value 10 digits = 0
        · exact ⟨_, .zero hleads hzero⟩
        · exact ⟨_, .number hleads hzero⟩
      · exact ⟨_, .unreadable hunreadable⟩

theorem Denotes.pos {default : Int} {text? : Option Text} {n : Nat} (h : Denotes default text? n) :
    1 ≤ n := by
  have hmax : ∀ k : Int, 1 ≤ (max k 1).toNat := by
    intro k
    omega
  cases h with
  | absent | unreadable _ | zero _ _ | number _ _ => exact hmax _

theorem ofText_of_leads (default : Int) {t : Text} {negative : Bool} {digits : List Nat}
    (h : Leads t negative digits) (hlength : digits.length ≤ digitLimit) :
    ofText default t = .ok (orDefault default (signed negative (Numeral.value 10 digits))) := by
  rw [ofText, leadingInt?_of_leads h, if_neg (Nat.not_lt.2 hlength)]

/-- A query text is read as the number that it denotes, unless that has too many digits. -/
theorem ofJson_of_denotes {default : Int} {text? : Option Text} {n : Nat}
    (h : Denotes default text? n) (hshort : ¬ TooLong text?) :
    ofJson default (.optional .str text?) = .ok (.number n) := by
  have hlength : ∀ {t negative digits}, text? = some t → Leads t negative digits →
      digits.length ≤ digitLimit :=
    fun ht hleads => Nat.le_of_not_lt fun hlt => hshort ⟨_, _, _, ht, hleads, hlt⟩
  cases h with
  | absent => rfl
  | unreadable hunreadable =>
      show ofText default _ = _
      rw [ofText, leadingInt?_of_unreadable hunreadable]
      rfl
  | zero hleads hzero =>
      show ofText default _ = _
      rw [ofText_of_leads default hleads (hlength rfl hleads), orDefault,
        if_pos ((signed_eq_zero_iff _ _).2 hzero)]
      rfl
  | number hleads hne =>
      show ofText default _ = _
      rw [ofText_of_leads default hleads (hlength rfl hleads), orDefault,
        if_neg (mt (signed_eq_zero_iff _ _).1 hne)]
      rfl

theorem ofJson_of_tooLong (default : Int) {text? : Option Text} (h : TooLong text?) :
    ∃ fault, ofJson default (.optional .str text?) = .error fault := by
  obtain ⟨t, negative, digits, rfl, hleads, hlong⟩ := h
  refine ⟨.numeralTooLong digits.length, ?_⟩
  show ofText default t = _
  rw [ofText, leadingInt?_of_leads hleads, if_pos hlong]

theorem Denotes.unique {default : Int} {text? : Option Text} {n n' : Nat}
    (h : Denotes default text? n) (h' : Denotes default text? n') : n = n' := by
  cases h with
  | absent =>
      cases h'
      rfl
  | unreadable hnone =>
      cases h' with
      | unreadable _ => rfl
      | zero hleads _ | number hleads _ => exact absurd hleads (hnone _ _)
  | zero hleads hzero =>
      cases h' with
      | unreadable hnone => exact absurd hleads (hnone _ _)
      | zero _ _ => rfl
      | number hleads' hne =>
          obtain ⟨rfl, rfl⟩ := hleads.unique hleads'
          exact absurd hzero hne
  | number hleads hne =>
      cases h' with
      | unreadable hnone => exact absurd hleads (hnone _ _)
      | zero hleads' hzero =>
          obtain ⟨rfl, rfl⟩ := hleads.unique hleads'
          exact absurd hzero hne
      | number hleads' _ =>
          obtain ⟨rfl, rfl⟩ := hleads.unique hleads'
          rfl

/-! ### Plain numerals -/

def spelt (digits : List Nat) : Text :=
  digits.map fun d => CodePoint.ofChar d.digitChar

/-- The text is a plain numeral of a number: ASCII digits and nothing else, no more than are
read. -/
def Spells (t : Text) (n : Nat) : Prop :=
  ∃ digits, t = spelt digits ∧ digits ≠ [] ∧ (∀ d ∈ digits, d < 10) ∧
    digits.length ≤ digitLimit ∧ Numeral.value 10 digits = n

theorem leads_spelt {digits : List Nat} (hne : digits ≠ []) (hten : ∀ d ∈ digits, d < 10) :
    Leads (spelt digits) false digits := by
  have hrun : (spelt digits).map CodePoint.decimalValue? = digits.map some := by
    rw [spelt, List.map_map]
    exact List.map_congr_left fun d hd => CodePoint.decimalValue?_digitChar d (hten d hd)
  have hleads : Leads ([] ++ ([] ++ (spelt digits ++ []))) false digits :=
    .mk (fun c hc => absurd hc List.not_mem_nil) .none hrun hne fun c hc => by cases hc
  rwa [List.nil_append, List.nil_append, List.append_nil] at hleads

theorem Spells.denotes {t : Text} {n : Nat} (h : Spells t n) (hn : 1 ≤ n) (default : Int) :
    Denotes default (some t) n ∧ ¬ TooLong (some t) := by
  obtain ⟨digits, rfl, hne, hten, hlength, rfl⟩ := h
  have hleads := leads_spelt hne hten
  have hnonzero : Numeral.value 10 digits ≠ 0 := by omega
  have hvalue : (max (signed false (Numeral.value 10 digits)) 1).toNat =
      Numeral.value 10 digits := by
    simp only [signed, Bool.false_eq_true, if_false]
    omega
  refine ⟨?_, ?_⟩
  · rw [← hvalue]
    exact .number hleads hnonzero
  · rintro ⟨t', negative, digits', ht, hleads', hlong⟩
    obtain ⟨rfl⟩ := Option.some.inj ht
    obtain ⟨-, rfl⟩ := hleads.unique hleads'
    exact absurd hlong (Nat.not_lt.2 hlength)

theorem spells_ofNat {n : Nat} (h : (Nat.toDigits 10 n).length ≤ digitLimit) :
    Spells (Text.ofNat n) n := by
  obtain ⟨digits, hdigits, hten, hvalue⟩ := exists_toDigits (by decide : 1 < 10) n
  refine ⟨digits, ?_, ?_, hten, ?_, hvalue⟩
  · rw [Text.ofNat, hdigits, List.map_map, spelt]
    rfl
  · rintro rfl
    have hpos := Nat.length_toDigits_pos (b := 10) (n := n)
    rw [hdigits] at hpos
    cases hpos
  · rwa [hdigits, List.length_map] at h

end Count

/-! ## Page requests -/

theorem PageRequest.ofQuery_of_denotes {page? limit? : Option Text} {order : Json}
    {defaultLimit : Int} {page limit : Nat} (hpage : Count.Denotes 1 page? page)
    (hlimit : Count.Denotes defaultLimit limit? limit) (hpageShort : ¬ Count.TooLong page?)
    (hlimitShort : ¬ Count.TooLong limit?) :
    ofQuery (.optional .str page?) (.optional .str limit?) order defaultLimit =
      .ok ⟨.number page, .number limit, .ofJson order⟩ := by
  rw [ofQuery, Count.ofJson_of_denotes hpage hpageShort, Count.ofJson_of_denotes hlimit hlimitShort]

theorem PageRequest.ofQuery_of_tooLong {page? limit? : Option Text} (order : Json)
    (defaultLimit : Int) (h : Count.TooLong page? ∨ Count.TooLong limit?) :
    ∃ fault, ofQuery (.optional .str page?) (.optional .str limit?) order defaultLimit =
      .error fault := by
  rw [ofQuery]
  rcases h with hpage | hlimit
  · obtain ⟨fault, hfault⟩ := Count.ofJson_of_tooLong 1 hpage
    exact ⟨fault, by rw [hfault]⟩
  · obtain ⟨fault, hfault⟩ := Count.ofJson_of_tooLong defaultLimit hlimit
    rw [hfault]
    cases Count.ofJson 1 (.optional .str page?) with
    | error other => exact ⟨other, rfl⟩
    | ok page => exact ⟨fault, rfl⟩

/-! ## The number of pages -/

def countLimit : Nat := Nat.pow 2 1023

/-! ## Selections -/

namespace Store

/-- The store can answer a request for a page: the offset and the limit are bound to words of 64
bits in the database, and to nothing in memory. -/
def Selects : Store → PageRequest → Prop
  | memory _, _ => True
  | database none, _ => False
  | database (some _), r => r.offset < Table.boundLimit ∧ r.limit.value < Table.boundLimit

def arranged (s : Store) (rowOrder : RowOrder) (r : PageRequest) : List Submission :=
  match s with
  | memory m => r.order.sort m.submissions
  | database (some table) => rowOrder.arrange r table.rows
  | database none => []

theorem arranges_arranged (s : Store) (rowOrder : RowOrder) (r : PageRequest) :
    r.order.Arranges s.submissions (s.arranged rowOrder r) := by
  match s with
  | memory m => exact r.order.arranges_sort m.submissions
  | database (some table) => exact rowOrder.arranged r table.rows
  | database none => exact ⟨List.Perm.refl _, List.Pairwise.nil⟩

def listing (s : Store) (rowOrder : RowOrder) (r : PageRequest) : Listing :=
  ⟨slice r.offset r.limit.value (s.arranged rowOrder r), s.submissions.length, r⟩

theorem listBy_of_selects {s : Store} {r : PageRequest} (rowOrder : RowOrder) (h : s.Selects r) :
    s.listBy rowOrder r = .ok (s.listing rowOrder r) := by
  match s with
  | memory m => rfl
  | database none => cases h
  | database (some table) =>
      have hbounds : ¬ (Table.boundLimit ≤ r.offset ∨ Table.boundLimit ≤ r.limit.value) := by
        have hwords : r.offset < Table.boundLimit ∧ r.limit.value < Table.boundLimit := h
        omega
      simp only [listBy, Table.select, if_neg hbounds]
      rfl

theorem listBy_of_not_selects {s : Store} {r : PageRequest} (rowOrder : RowOrder)
    (h : ¬ s.Selects r) : ∃ fault, s.listBy rowOrder r = .error fault := by
  match s with
  | memory m => exact absurd trivial h
  | database none => exact ⟨.noTable, rfl⟩
  | database (some table) =>
      have hbounds : Table.boundLimit ≤ r.offset ∨ Table.boundLimit ≤ r.limit.value := by
        have hwords : ¬ (r.offset < Table.boundLimit ∧ r.limit.value < Table.boundLimit) := h
        omega
      exact ⟨.boundTooLarge, by simp only [listBy, Table.select, if_pos hbounds]⟩

end Store

theorem slice_eq_nil {α : Type} {offset : Nat} {entries : List α} (limit : Nat)
    (h : entries.length ≤ offset) : slice offset limit entries = [] := by
  rw [slice, List.drop_of_length_le h, List.take_nil]

end FormIntake
