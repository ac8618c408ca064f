import FormIntake.Pattern.Reader
import FormIntake.Proofs.Numeral.Grammar
import FormIntake.Proofs.Pattern.Recognition
/-!
# The notation of regular patterns

Which texts are patterns that are put together from characters, classes, rows,
alternatives, groups and greedy repetition, and which languages they denote,
said without the reader. A part of a pattern stands at the beginning of a text,
and the rest of the text comes after it.
-/

namespace FormIntake.Pattern

namespace Notation

open CodePoint (ofChar)

def backslash : CodePoint := ofChar '\\'

def Next (p : CodePoint → Prop) (t : Text) : Prop :=
  ∀ c ∈ t.head?, p c

theorem next_nil (p : CodePoint → Prop) : Next p [] := by
  intro c hc
  cases hc

theorem next_cons {p : CodePoint → Prop} {c : CodePoint} (h : p c) (t : Text) :
    Next p (c :: t) := by
  intro d hd
  obtain rfl := Option.some.inj hd
  exact h

abbrev Run (base : Nat) (t : Text) (digits : List Nat) : Prop :=
  t.map (·.digitValue? base) = digits.map some

/-! ## Escapes -/

def controls : List (Char × Nat) :=
  [('a', 0x07), ('f', 0x0C), ('n', 0x0A), ('r', 0x0D), ('t', 0x09), ('v', 0x0B)]

/-- Letters that so many hexadecimal digits follow. -/
def hexMarks : List (Char × Nat) :=
  [('x', 2), ('u', 4), ('U', 8)]

/-- Letters that stand for a class of characters or for all others. -/
def classes : List (Char × ClassKind × Bool) :=
  [('d', .digit, false), ('D', .digit, true), ('s', .space, false), ('S', .space, true),
    ('w', .word, false), ('W', .word, true)]

/-- What follows a backslash and writes one code point, in brackets as well as outside. -/
inductive Escaped : Text → CodePoint → Text → Prop
  | control {mark : Char} {n : Nat} {rest : Text} (hmark : (mark, n) ∈ controls) :
      Escaped (ofChar mark :: rest) (CodePoint.ofNat n) rest
  | hex {mark : Char} {width : Nat} {t rest : Text} {digits : List Nat} {c : CodePoint}
      (hmark : (mark, width) ∈ hexMarks) (hdigits : Run 16 t digits)
      (hwidth : digits.length = width) (hvalue : c.val = Numeral.value 16 digits) :
      Escaped (ofChar mark :: (t ++ rest)) c rest
  | sign {c : CodePoint} {rest : Text} (hletter : c.isAsciiLetter = false)
      (hdigit : c.isAsciiDigit = false) : Escaped (c :: rest) c rest

/-- A code point written with octal digits: as many as there are, but three at most. -/
inductive Octal : Text → List Nat → CodePoint → Text → Prop
  | mk {t rest : Text} {digits : List Nat} {c : CodePoint} (hdigits : Run 8 t digits)
      (hne : digits ≠ []) (hmost : digits.length ≤ 3)
      (hall : digits.length = 3 ∨ Next (fun d => d.digitValue? 8 = none) rest)
      (hvalue : c.val = Numeral.value 8 digits) (hlimit : c.val ≤ 0o377) :
      Octal (t ++ rest) digits c rest

/-! ## Sets -/

inductive Member : Text → SetItem → Text → Prop
  | plain {c : CodePoint} {rest : Text} (hc : c ≠ backslash) : Member (c :: rest) (.single c) rest
  | backspace {rest : Text} :
      Member (backslash :: ofChar 'b' :: rest) (.single (CodePoint.ofNat 0x08)) rest
  | kind {mark : Char} {kind : ClassKind} {negated : Bool} {rest : Text}
      (hmark : (mark, kind, negated) ∈ classes) :
      Member (backslash :: ofChar mark :: rest) (.kind kind false negated) rest
  | octal {input rest : Text} {digits : List Nat} {c : CodePoint}
      (h : Octal input digits c rest) : Member (backslash :: input) (.single c) rest
  | escaped {input rest : Text} {c : CodePoint} (h : Escaped input c rest) :
      Member (backslash :: input) (.single c) rest

/-- The members of a set up to the closing bracket. A bracket that comes first is a member. -/
inductive Members : Bool → Text → List SetItem → Text → Prop
  | close {rest : Text} : Members false (ofChar ']' :: rest) [] rest
  | one {first : Bool} {input mid rest : Text} {item : SetItem} {items : List SetItem}
      (hopen : first = false → Next (· ≠ ofChar ']') input) (hitem : Member input item mid)
      (hdash : Next (· ≠ ofChar '-') mid) (hitems : Members false mid items rest) :
      Members first input (item :: items) rest
  | range {first : Bool} {input mid mid' rest : Text} {low high : CodePoint} {items : List SetItem}
      (hopen : first = false → Next (· ≠ ofChar ']') input)
      (hlow : Member input (.single low) (ofChar '-' :: mid))
      (hmid : Next (· ≠ ofChar ']') mid) (hhigh : Member mid (.single high) mid')
      (hle : low ≤ high) (hitems : Members false mid' items rest) :
      Members first input (.range low high :: items) rest
  | dash {first : Bool} {input rest : Text} {item : SetItem}
      (hopen : first = false → Next (· ≠ ofChar ']') input)
      (hitem : Member input item (ofChar '-' :: ofChar ']' :: rest)) :
      Members first input [item, .single (ofChar '-')] rest

/-! ## Repetition -/

/-- The digits of the counts in braces, the opening brace left out. A single count is both. -/
inductive Braces : Text → List Nat → List Nat → Text → Prop
  | exactly {t rest : Text} {digits : List Nat} (hdigits : Run 10 t digits) (hne : digits ≠ []) :
      Braces (t ++ ofChar '\x7d' :: rest) digits digits rest
  | between {t u rest : Text} {low high : List Nat} (hlow : Run 10 t low) (hhigh : Run 10 u high) :
      Braces (t ++ ofChar ',' :: (u ++ ofChar '\x7d' :: rest)) low high rest

def Countable (digits : List Nat) : Prop :=
  digits.length ≤ Numeral.digitLimit ∧ Numeral.value 10 digits < countLimit

/-- A mark of repetition: how often at least, and how often at most. -/
inductive Quantifier : Text → Nat → Option Nat → Text → Prop
  | star {rest : Text} : Quantifier (ofChar '*' :: rest) 0 none rest
  | plus {rest : Text} : Quantifier (ofChar '+' :: rest) 1 none rest
  | optional {rest : Text} : Quantifier (ofChar '?' :: rest) 0 (some 1) rest
  | atLeast {input rest : Text} {low : List Nat} (hbraces : Braces input low [] rest)
      (hlow : Countable low) :
      Quantifier (ofChar '\x7b' :: input) (Numeral.value 10 low) none rest
  | between {input rest : Text} {low high : List Nat} (hbraces : Braces input low high rest)
      (hne : high ≠ []) (hlow : Countable low) (hhigh : Countable high)
      (hle : Numeral.value 10 low ≤ Numeral.value 10 high) :
      Quantifier (ofChar '\x7b' :: input) (Numeral.value 10 low) (some (Numeral.value 10 high)) rest

/-! ## Patterns -/

def repetitionMarks : Text :=
  Text.ofString "*+?"

def marks : Text :=
  repetitionMarks ++ Text.ofString ".^$\x7b[\\|()"

inductive Part where
  | regex
  | row
  | piece
  | atom

/-- A part of a pattern, the language that it denotes and the names of the groups in it. -/
inductive Denotes : Part → Text → Language CodePoint → List Text → Text → Prop
  | last {input rest : Text} {L : Language CodePoint} {names : List Text}
      (h : Denotes .row input L names rest) (hbar : Next (· ≠ ofChar '|') rest) :
      Denotes .regex input L names rest
  | alt {input mid rest : Text} {L M : Language CodePoint} {names others : List Text}
      (h : Denotes .row input L names (ofChar '|' :: mid))
      (hmore : Denotes .regex mid M others rest) :
      Denotes .regex input (L + M) (names ++ others) rest
  | nil {rest : Text} (hends : Next (fun c => c = ofChar '|' ∨ c = ofChar ')') rest) :
      Denotes .row rest 1 [] rest
  | cons {input mid rest : Text} {L M : Language CodePoint} {names others : List Text}
      (h : Denotes .piece input L names mid) (hmore : Denotes .row mid M others rest) :
      Denotes .row input (L * M) (names ++ others) rest
  | once {input rest : Text} {L : Language CodePoint} {names : List Text}
      (h : Denotes .atom input L names rest) : Denotes .piece input L names rest
  | repeated {input mid rest : Text} {L : Language CodePoint} {names : List Text} {least : Nat}
      {most : Option Nat} (h : Denotes .atom input L names mid)
      (hmark : Quantifier mid least most rest) :
      Denotes .piece input (repeated L least most) names rest
  | char {c : CodePoint} {rest : Text} (hc : c ∉ marks) : Denotes .atom (c :: rest) {[c]} [] rest
  | brace {rest : Text} (hbraces : ∀ low high rest', ¬ Braces rest low high rest') :
      Denotes .atom (ofChar '\x7b' :: rest) {[ofChar '\x7b']} [] rest
  | dot {rest : Text} : Denotes .atom (ofChar '.' :: rest) (oneOf (· != ofChar '\n')) [] rest
  | escaped {input rest : Text} {c : CodePoint} (h : Escaped input c rest) :
      Denotes .atom (backslash :: input) {[c]} [] rest
  | octal {input rest : Text} {digits : List Nat} {c : CodePoint} (h : Octal input digits c rest)
      (hdigits : digits.head? = some 0 ∨ digits.length = 3) :
      Denotes .atom (backslash :: input) {[c]} [] rest
  | kind {mark : Char} {kind : ClassKind} {negated : Bool} {rest : Text}
      (hmark : (mark, kind, negated) ∈ classes) :
      Denotes .atom (backslash :: ofChar mark :: rest)
        (oneOf fun c => kind.holds false c != negated) [] rest
  | set {input rest : Text} {items : List SetItem} (hinput : Next (· ≠ ofChar '^') input)
      (h : Members true input items rest) :
      Denotes .atom (ofChar '[' :: input) (oneOf fun c => items.any (·.holds c)) [] rest
  | others {input rest : Text} {items : List SetItem} (h : Members true input items rest) :
      Denotes .atom (ofChar '[' :: ofChar '^' :: input)
        (oneOf fun c => !items.any (·.holds c)) [] rest
  | group {input rest : Text} {L : Language CodePoint} {names : List Text}
      (h : Denotes .regex input L names (ofChar ')' :: rest)) :
      Denotes .atom (ofChar '(' :: input) L names rest
  | bare {input rest : Text} {L : Language CodePoint} {names : List Text}
      (h : Denotes .regex input L names (ofChar ')' :: rest)) :
      Denotes .atom (ofChar '(' :: ofChar '?' :: ofChar ':' :: input) L names rest
  | named {name input rest : Text} {L : Language CodePoint} {names : List Text}
      (hname : Reader.isIdentifier name = true)
      (h : Denotes .regex input L names (ofChar ')' :: rest)) :
      Denotes .atom
        (ofChar '(' :: ofChar '?' :: ofChar 'P' :: ofChar '<' :: (name ++ ofChar '>' :: input)) L
        (name :: names) rest

/-! ## The beginning of a part -/

/-- No part is a lone backslash, or begins with a mark of repetition. -/
def Starts (t : Text) : Prop :=
  t ≠ [backslash] ∧ Next (· ∉ repetitionMarks) t

theorem Escaped.ne_nil {input rest : Text} {c : CodePoint} (h : Escaped input c rest) :
    input ≠ [] := by
  cases h <;> exact List.cons_ne_nil _ _

theorem Octal.ne_nil {input rest : Text} {digits : List Nat} {c : CodePoint}
    (h : Octal input digits c rest) : input ≠ [] := by
  cases h with
  | mk hdigits hne _ _ _ _ =>
      intro hnil
      rw [(List.append_eq_nil_iff.1 hnil).1] at hdigits
      exact hne (List.map_eq_nil_iff.1 hdigits.symm)

theorem starts_cons {c : CodePoint} (hmark : c ∉ repetitionMarks) (hc : c ≠ backslash)
    (t : Text) : Starts (c :: t) := by
  constructor
  · intro h
    exact hc (List.cons.inj h).1
  · intro d hd
    obtain rfl := Option.some.inj hd
    exact hmark

theorem starts_escape {t : Text} (ht : t ≠ []) : Starts (backslash :: t) := by
  constructor
  · intro h
    exact ht (List.cons.inj h).2
  · intro d hd
    obtain rfl := Option.some.inj hd
    decide

theorem not_repetition_of_not_mark {c : CodePoint} (hc : c ∉ marks) :
    c ∉ repetitionMarks ∧ c ≠ backslash := by
  constructor
  · intro h
    exact hc (List.mem_append_left _ h)
  · rintro rfl
    exact hc (by decide)

theorem Starts.next_ne {t : Text} (h : Starts t) {c : CodePoint} (hc : c ∈ repetitionMarks) :
    Next (· ≠ c) t := by
  rintro d hd rfl
  exact h.2 d hd hc

variable {part : Part} {input rest : Text} {L : Language CodePoint} {names : List Text}

theorem Denotes.starts (h : Denotes part input L names rest) : Starts input := by
  induction h with
  | last _ _ ih => exact ih
  | alt _ _ ih _ => exact ih
  | @nil rest hends =>
      cases rest with
      | nil => exact ⟨by simp, next_nil _⟩
      | cons c rest =>
          rcases hends c rfl with rfl | rfl
          · exact starts_cons (by decide) (by decide) rest
          · exact starts_cons (by decide) (by decide) rest
  | cons _ _ ih _ => exact ih
  | once _ ih => exact ih
  | repeated _ _ ih => exact ih
  | char hc =>
      obtain ⟨hmark, hbackslash⟩ := not_repetition_of_not_mark hc
      exact starts_cons hmark hbackslash _
  | brace _ => exact starts_cons (by decide) (by decide) _
  | dot => exact starts_cons (by decide) (by decide) _
  | escaped h => exact starts_escape h.ne_nil
  | octal h _ => exact starts_escape h.ne_nil
  | kind _ => exact starts_escape (List.cons_ne_nil _ _)
  | set _ _ => exact starts_cons (by decide) (by decide) _
  | others _ => exact starts_cons (by decide) (by decide) _
  | group _ _ => exact starts_cons (by decide) (by decide) _
  | bare _ _ => exact starts_cons (by decide) (by decide) _
  | named _ _ _ => exact starts_cons (by decide) (by decide) _

/-! ## Parts of a longer text -/

section Closed

variable (more : Text)

/-- A text that a closing parenthesis and more come after. -/
def closed (t more : Text) : Text :=
  t ++ ofChar ')' :: more

theorem Next.closed {p : CodePoint → Prop} {t : Text} (h : Next p t) (hp : p (ofChar ')')) :
    Next p (closed t more) := by
  cases t with
  | nil =>
      intro c hc
      obtain rfl := Option.some.inj hc
      exact hp
  | cons c t => exact h

theorem Escaped.closed {input rest : Text} {c : CodePoint} (h : Escaped input c rest) :
    Escaped (closed input more) c (closed rest more) := by
  cases h with
  | control hmark => exact .control hmark
  | hex hmark hdigits hwidth hvalue =>
      rw [Notation.closed, List.cons_append, List.append_assoc]
      exact .hex hmark hdigits hwidth hvalue
  | sign hletter hdigit => exact .sign hletter hdigit

theorem Octal.closed {input rest : Text} {digits : List Nat} {c : CodePoint}
    (h : Octal input digits c rest) : Octal (closed input more) digits c (closed rest more) := by
  cases h with
  | mk hdigits hne hmost hall hvalue hlimit =>
      rw [Notation.closed, List.append_assoc]
      exact .mk hdigits hne hmost (hall.imp_right fun h => h.closed more (by decide)) hvalue hlimit

theorem Member.closed {input rest : Text} {item : SetItem} (h : Member input item rest) :
    Member (closed input more) item (closed rest more) := by
  cases h with
  | plain hc => exact .plain hc
  | backspace => exact .backspace
  | kind hmark => exact .kind hmark
  | octal h => exact .octal (h.closed more)
  | escaped h => exact .escaped (h.closed more)

theorem Members.closed {first : Bool} {input rest : Text} {items : List SetItem}
    (h : Members first input items rest) :
    Members first (closed input more) items (closed rest more) := by
  induction h with
  | close => exact .close
  | one hopen hitem hdash _ ih =>
      exact .one (fun hfirst => (hopen hfirst).closed more (by decide)) (hitem.closed more)
        (hdash.closed more (by decide)) ih
  | range hopen hlow hmid hhigh hle _ ih =>
      exact .range (fun hfirst => (hopen hfirst).closed more (by decide)) (hlow.closed more)
        (hmid.closed more (by decide)) (hhigh.closed more) hle ih
  | dash hopen hitem =>
      exact .dash (fun hfirst => (hopen hfirst).closed more (by decide)) (hitem.closed more)

theorem Braces.closed {input rest : Text} {low high : List Nat} (h : Braces input low high rest) :
    Braces (closed input more) low high (closed rest more) := by
  cases h with
  | exactly hdigits hne =>
      rw [Notation.closed, List.append_assoc]
      exact .exactly hdigits hne
  | between hlow hhigh =>
      rw [Notation.closed, List.append_assoc, List.cons_append, List.append_assoc]
      exact .between hlow hhigh

/-- A text without a closing parenthesis at the beginning of the longer text is one of `t`. -/
theorem exists_of_append_eq_closed {u rest t : Text} (h : u ++ rest = closed t more)
    (hu : ofChar ')' ∉ u) : ∃ rest', t = u ++ rest' := by
  rcases List.append_eq_append_iff.1 h with ⟨rest', ht, -⟩ | ⟨extra, hsplit, hclose⟩
  · exact ⟨rest', ht⟩
  · cases extra with
    | nil => exact ⟨[], by rw [hsplit, List.append_nil, List.append_nil]⟩
    | cons c extra =>
        obtain ⟨rfl, -⟩ := List.cons.inj hclose
        rw [hsplit] at hu
        exact absurd (List.mem_append_right t List.mem_cons_self) hu

theorem close_not_mem_run {t : Text} {digits : List Nat} (h : Run 10 t digits) :
    ofChar ')' ∉ t := by
  intro hmem
  obtain ⟨d, hd⟩ := Numeral.exists_of_mem_run h hmem
  cases hd

/-- Counts in braces are not there unless the braces close before the parenthesis does. -/
theorem exists_braces_of_closed {t rest : Text} {low high : List Nat}
    (h : Braces (closed t more) low high rest) : ∃ rest', Braces t low high rest' := by
  generalize htext : closed t more = input at h
  cases h with
  | @exactly u rest digits hdigits hne =>
      have hclose : ofChar ')' ∉ u ++ [ofChar '\x7d'] := by
        rw [List.mem_append, not_or]
        exact ⟨close_not_mem_run hdigits, by decide⟩
      have hsplit : (u ++ [ofChar '\x7d']) ++ rest = closed t more := by
        rw [htext, List.append_assoc, List.singleton_append]
      obtain ⟨rest', rfl⟩ := exists_of_append_eq_closed more hsplit hclose
      rw [List.append_assoc]
      exact ⟨rest', .exactly hdigits hne⟩
  | @between u v rest low high hlow hhigh =>
      have hclose : ofChar ')' ∉ u ++ ofChar ',' :: (v ++ [ofChar '\x7d']) := by
        rw [List.mem_append, List.mem_cons, List.mem_append, not_or, not_or, not_or]
        exact ⟨close_not_mem_run hlow, by decide, close_not_mem_run hhigh, by decide⟩
      have hsplit : (u ++ ofChar ',' :: (v ++ [ofChar '\x7d'])) ++ rest = closed t more := by
        rw [htext, List.append_assoc, List.cons_append, List.append_assoc, List.singleton_append]
      obtain ⟨rest', rfl⟩ := exists_of_append_eq_closed more hsplit hclose
      rw [List.append_assoc, List.cons_append, List.append_assoc]
      exact ⟨rest', .between hlow hhigh⟩

theorem Quantifier.closed {input rest : Text} {least : Nat} {most : Option Nat}
    (h : Quantifier input least most rest) :
    Quantifier (closed input more) least most (closed rest more) := by
  cases h with
  | star => exact .star
  | plus => exact .plus
  | optional => exact .optional
  | atLeast hbraces hlow => exact .atLeast (hbraces.closed more) hlow
  | between hbraces hne hlow hhigh hle =>
      exact .between (hbraces.closed more) hne hlow hhigh hle

/-- What a part denotes does not change if a closing parenthesis and more come after the text. -/
theorem Denotes.closed (h : Denotes part input L names rest) :
    Denotes part (closed input more) L names (closed rest more) := by
  induction h with
  | last _ hbar ih => exact .last ih (hbar.closed more (by decide))
  | alt _ _ ih ih' => exact .alt ih ih'
  | nil hends => exact .nil (hends.closed more (by decide))
  | cons _ _ ih ih' => exact .cons ih ih'
  | once _ ih => exact .once ih
  | repeated _ hmark ih => exact .repeated ih (hmark.closed more)
  | char hc => exact .char hc
  | brace hbraces =>
      refine .brace fun low high rest' h => ?_
      obtain ⟨rest'', h⟩ := exists_braces_of_closed more h
      exact hbraces low high rest'' h
  | dot => exact .dot
  | escaped h => exact .escaped (h.closed more)
  | octal h hdigits => exact .octal (h.closed more) hdigits
  | kind hmark => exact .kind hmark
  | set hinput h => exact .set (hinput.closed more (by decide)) (h.closed more)
  | others h => exact .others (h.closed more)
  | group _ ih => exact .group ih
  | bare _ ih => exact .bare ih
  | named hname _ ih =>
      have hnamed := Denotes.named hname ih
      simp only [Notation.closed, List.cons_append, List.append_assoc] at hnamed ⊢
      exact hnamed

end Closed

end Notation

open Notation in
/-- The text is the notation of a regular pattern for the language. No two of its groups have the
same name. -/
def Regular (source : Text) (L : Language CodePoint) : Prop :=
  ∃ names, Denotes .regex source L names [] ∧ names.Nodup

end FormIntake.Pattern
