import Mathlib.Data.List.Chain
import SqlGateway.Json.Basic
import SqlGateway.Json.Token
import SqlGateway.Proofs.Number.Numeral
import SqlGateway.Proofs.Text.Basic

/-!
# Texts of tokens

The grammar of tokens, and the texts that consist of them with white space between. A text comes to
the tokens of which it consists, and to no others, unless two of them run together.
-/

namespace SqlGateway.Json

open Number Text

/-! ## Grammar -/

/-- Digits, the first of them a zero only if it is the only one. -/
inductive Whole : List Char → Prop
  | zero : Whole ['0']
  | digits {ds : List Char} (hds : DigitRun ds) (hne : ds ≠ []) (hzero : ds.head? ≠ some '0') :
      Whole ds

inductive Fraction : List Char → Prop
  | absent : Fraction []
  | present {ds : List Char} (hds : DigitRun ds) (hne : ds ≠ []) : Fraction ('.' :: ds)

inductive Magnitude : List Char → Prop
  | intro {whole fraction exponent : List Char} (hwhole : Whole whole)
      (hfraction : Fraction fraction) (hexponent : Exponent exponent) :
      Magnitude (whole ++ (fraction ++ exponent))

inductive NumberText : List Char → Prop
  | positive {s : List Char} (h : Magnitude s) : NumberText s
  | negative {s : List Char} (h : Magnitude s) : NumberText ('-' :: s)

/-- A character that stands for itself in a string. -/
def isPlain (c : Char) : Bool :=
  0x20 ≤ c.toNat && c != '"' && c != '\\'

/-- What stands between the quotes of a string with the codes. -/
inductive StringText : List Char → List Nat → Prop
  | nil : StringText [] []
  | plain {c : Char} {s : List Char} {codes : List Nat} (hc : isPlain c = true)
      (h : StringText s codes) : StringText (c :: s) (c.toNat :: codes)
  | escape {e : Char} {code : Nat} {s : List Char} {codes : List Nat} (he : escape? e = some code)
      (h : StringText s codes) : StringText ('\\' :: e :: s) (code :: codes)
  | unicode {a b c d : Char} {code : Nat} {s : List Char} {codes : List Nat}
      (hcode : hexCode? a b c d = some code) (h : StringText s codes) :
      StringText ('\\' :: 'u' :: a :: b :: c :: d :: s) (code :: codes)

inductive Lexeme : Token → List Char → Prop
  | openArray : Lexeme .openArray ['[']
  | closeArray : Lexeme .closeArray [']']
  | openObject : Lexeme .openObject ['{']
  | closeObject : Lexeme .closeObject ['}']
  | comma : Lexeme .comma [',']
  | colon : Lexeme .colon [':']
  | null : Lexeme .null "null".toList
  | bool (b : Bool) : Lexeme (.bool b) (cond b "true".toList "false".toList)
  | number {s : List Char} (h : NumberText s) : Lexeme (.number s) s
  | string {s : List Char} {codes : List Nat} (h : StringText s codes) :
      Lexeme (.string codes) ('"' :: (s ++ ['"']))

/-- The text consists of the tokens, one after another, with white space before, between and after
them. -/
inductive Renders : List Char → List Token → Prop
  | nil : Renders [] []
  | space {c : Char} {s : List Char} {ts : List Token} (hc : isSpace c = true) (h : Renders s ts) :
      Renders (c :: s) ts
  | token {t : Token} {x s : List Char} {ts : List Token} (ht : Lexeme t x) (h : Renders s ts) :
      Renders (x ++ s) (t :: ts)

variable {c : Char} {s rest x : List Char} {t token : Token} {ts ts' : List Token}
  {codes : List Nat}

/-! ## Numbers -/

theorem isExponent_cons (e : Char) (s : List Char) : isExponent (e :: s) =
    ((e == 'e' || e == 'E') && !(Numeral.readSign s).2.isEmpty &&
      (Numeral.readSign s).2.all Char.isDigit) := by
  unfold isExponent
  dsimp only
  split
  · rfl
  · rfl
  · rename_i hplus hminus
    rw [Numeral.readSign]
    · exact hminus
    · exact hplus

theorem isExponent_iff : isExponent s = true ↔ Exponent s := by
  rw [← readExponent?_isSome_iff]
  cases s with
  | nil => simp [isExponent, Numeral.readExponent?]
  | cons e s => rw [isExponent_cons, Numeral.readExponent?, Option.isSome_ite]

theorem isFraction_iff : isFraction s = true ↔
    ∃ fraction exponent, Fraction fraction ∧ Exponent exponent ∧ s = fraction ++ exponent := by
  constructor
  · intro h
    unfold isFraction at h
    split at h
    · rename_i r
      simp only [Bool.and_eq_true, Bool.not_eq_true', List.isEmpty_eq_false_iff,
        isExponent_iff] at h
      refine ⟨_, _, .present (digitRun_takeWhile r) h.1, h.2, ?_⟩
      simp
    · exact ⟨[], s, .absent, isExponent_iff.mp h, rfl⟩
  · rintro ⟨fraction, exponent, hfraction, hexponent, rfl⟩
    cases hfraction with
    | absent =>
        unfold isFraction
        split
        · rename_i r hr
          exact absurd rfl (hexponent.head '.' (by rw [List.nil_append] at hr; rw [hr]; rfl)).2
        · exact isExponent_iff.mpr hexponent
    | present hds hne =>
        have hstops : Stops Char.isDigit exponent := fun c hc => (hexponent.head c hc).1
        simp [isFraction, hstops.takeWhile_append hds, hstops.dropWhile_append hds, hne,
          isExponent_iff.mpr hexponent]

theorem whole_iff : (s == ['0'] || !s.isEmpty && s.head? != some '0') = true ∧ DigitRun s ↔
    Whole s := by
  simp only [Bool.or_eq_true, Bool.and_eq_true, Bool.not_eq_true', beq_iff_eq, bne_iff_ne,
    List.isEmpty_eq_false_iff]
  constructor
  · rintro ⟨rfl | ⟨hne, hzero⟩, hds⟩
    · exact .zero
    · exact .digits hds hne hzero
  · intro h
    cases h with
    | zero => exact ⟨.inl rfl, List.forall_mem_singleton.mpr (by decide)⟩
    | digits hds hne hzero => exact ⟨.inr ⟨hne, hzero⟩, hds⟩

/-- What comes after the digits of a number begins with none. -/
theorem stops_digits {fraction exponent : List Char} (hfraction : Fraction fraction)
    (hexponent : Exponent exponent) : Stops Char.isDigit (fraction ++ exponent) := by
  cases hfraction with
  | absent => exact fun c hc => (hexponent.head c hc).1
  | present => exact .cons (by decide)

theorem magnitude_iff :
    ((s.takeWhile Char.isDigit == ['0'] || !(s.takeWhile Char.isDigit).isEmpty &&
      (s.takeWhile Char.isDigit).head? != some '0') &&
      isFraction (s.dropWhile Char.isDigit)) = true ↔ Magnitude s := by
  rw [Bool.and_eq_true, isFraction_iff]
  constructor
  · rintro ⟨hwhole, fraction, exponent, hfraction, hexponent, hrest⟩
    have hs := List.takeWhile_append_dropWhile (p := Char.isDigit) (l := s)
    rw [hrest] at hs
    rw [← hs]
    exact .intro (whole_iff.mp ⟨hwhole, digitRun_takeWhile s⟩) hfraction hexponent
  · rintro ⟨hwhole, hfraction, hexponent⟩
    have hstops := stops_digits hfraction hexponent
    obtain ⟨hdigits, hds⟩ := whole_iff.mpr hwhole
    rw [hstops.takeWhile_append hds, hstops.dropWhile_append hds]
    exact ⟨hdigits, _, _, hfraction, hexponent, rfl⟩

theorem Magnitude.head (h : Magnitude s) : ∃ c s', s = c :: s' ∧ c.isDigit = true := by
  obtain ⟨hwhole, -, -⟩ := h
  cases hwhole with
  | zero => exact ⟨'0', _, rfl, by decide⟩
  | @digits ds hds hne hzero =>
      obtain ⟨c, ds, rfl⟩ := List.exists_cons_of_ne_nil hne
      exact ⟨c, _, rfl, hds c List.mem_cons_self⟩

theorem isNumber_iff : isNumber s = true ↔ NumberText s := by
  unfold isNumber
  dsimp only
  split
  · rename_i r
    rw [magnitude_iff]
    refine ⟨.negative, fun h => ?_⟩
    cases h with
    | positive h =>
        obtain ⟨c, s', hs, hc⟩ := h.head
        cases hs
        simp at hc
    | negative h => exact h
  · rename_i hsign
    rw [magnitude_iff]
    refine ⟨.positive, fun h => ?_⟩
    cases h with
    | positive h => exact h
    | negative h => exact absurd rfl (hsign _)

theorem numberText_digits (n : Nat) : NumberText (digits n) := by
  have hwhole : Whole (digits n) := by
    obtain rfl | hn := eq_or_ne n 0
    · rw [digits]
      exact .zero
    · exact .digits (digitRun_digits n) (digits_ne_nil n) (head_digits hn)
  have hmagnitude := Magnitude.intro hwhole .absent .absent
  rw [List.append_nil, List.append_nil] at hmagnitude
  exact .positive hmagnitude

theorem isNumberChar_of_isDigit (h : c.isDigit = true) : isNumberChar c = true := by
  simp [isNumberChar, h]

theorem isNumberChar_of_sign {sign : List Char} (h : Sign sign) :
    ∀ c ∈ sign, isNumberChar c = true := by
  refine List.all_eq_true.mp ?_
  cases h <;> decide

theorem Magnitude.isNumberChar (h : Magnitude s) : ∀ c ∈ s, isNumberChar c = true := by
  obtain ⟨hwhole, hfraction, hexponent⟩ := h
  have run {ds : List Char} (hds : DigitRun ds) : ∀ c ∈ ds, Json.isNumberChar c = true :=
    fun c hc => isNumberChar_of_isDigit (hds c hc)
  refine List.forall_mem_append.mpr
    ⟨run (whole_iff.mpr hwhole).2, List.forall_mem_append.mpr ⟨?_, ?_⟩⟩
  · cases hfraction with
    | absent => exact List.forall_mem_nil _
    | present hds => exact List.forall_mem_cons.mpr ⟨by decide, run hds⟩
  · cases hexponent with
    | absent => exact List.forall_mem_nil _
    | present he hsign hds =>
        refine List.forall_mem_cons.mpr
          ⟨?_, List.forall_mem_append.mpr ⟨isNumberChar_of_sign hsign, run hds⟩⟩
        obtain rfl | rfl := he <;> decide

theorem NumberText.isNumberChar (h : NumberText s) : ∀ c ∈ s, isNumberChar c = true := by
  cases h with
  | positive h => exact h.isNumberChar
  | negative h => exact List.forall_mem_cons.mpr ⟨by decide, h.isNumberChar⟩

theorem NumberText.head (h : NumberText s) : ∃ c s', s = c :: s' ∧ c.isAlpha = false := by
  cases h with
  | positive h =>
      obtain ⟨c, s', hs, hc⟩ := h.head
      exact ⟨c, s', hs, not_isAlpha_of_isDigit hc⟩
  | negative => exact ⟨'-', _, rfl, by decide⟩

/-! ## Strings -/

theorem string?_plain (hc : isPlain c = true) :
    string? (c :: s) = (string? s).map fun (codes, rest) => (c.toNat :: codes, rest) := by
  simp only [isPlain, Bool.and_eq_true, decide_eq_true_eq, bne_iff_ne] at hc
  obtain ⟨⟨hcontrol, hquote⟩, hbackslash⟩ := hc
  have haccepted : ¬ (decide (c.toNat < 0x20) || c == '\\') = true := by
    simp [hbackslash, hcontrol]
  rw [string?, if_neg haccepted]
  · cases string? s <;> rfl
  · exact hquote
  · exact fun _ _ _ _ _ h _ => hbackslash h
  · exact fun _ _ h _ => hbackslash h

theorem string?_escape {e : Char} {code : Nat} (he : escape? e = some code) :
    string? ('\\' :: e :: s) = (string? s).map fun (codes, rest) => (code :: codes, rest) := by
  have hunicode : e ≠ 'u' := by
    rintro rfl
    cases he
  rw [string?, he]
  · cases string? s <;> rfl
  · rintro _ _ _ _ _ rfl
    exact absurd rfl hunicode

theorem string?_unicode {a b c d : Char} {code : Nat} (h : hexCode? a b c d = some code) :
    string? ('\\' :: 'u' :: a :: b :: c :: d :: s) =
      (string? s).map fun (codes, rest) => (code :: codes, rest) := by
  rw [string?, h]
  cases string? s <;> rfl

theorem StringText.string? (h : StringText s codes) (rest : List Char) :
    string? (s ++ '"' :: rest) = some (codes, rest) := by
  induction h with
  | nil => rfl
  | plain hc _ ih =>
      rw [List.cons_append, string?_plain hc, ih]
      rfl
  | escape he _ ih =>
      rw [List.cons_append, List.cons_append, string?_escape he, ih]
      rfl
  | unicode hcode _ ih =>
      simp only [List.cons_append]
      rw [string?_unicode hcode, ih]
      rfl

theorem exists_stringText (h : string? s = some (codes, rest)) :
    ∃ x, StringText x codes ∧ s = x ++ '"' :: rest := by
  fun_induction string? s generalizing codes rest with
  | case1 s =>
      cases h
      exact ⟨[], .nil, rfl⟩
  | case2 a b c d s ih =>
      simp only [Option.bind_eq_bind, Option.bind_eq_some_iff] at h
      obtain ⟨code, hcode, ⟨codes, rest⟩, hs, h⟩ := h
      cases h
      obtain ⟨x, hx, rfl⟩ := ih hs
      exact ⟨_, .unicode hcode hx, rfl⟩
  | case3 e s _ ih =>
      simp only [Option.bind_eq_bind, Option.bind_eq_some_iff] at h
      obtain ⟨code, hcode, ⟨codes, rest⟩, hs, h⟩ := h
      cases h
      obtain ⟨x, hx, rfl⟩ := ih hs
      exact ⟨_, .escape hcode hx, rfl⟩
  | case4 => cases h
  | case5 c s hquote _ _ hplain ih =>
      simp only [Option.bind_eq_bind, Option.bind_eq_some_iff] at h
      obtain ⟨⟨codes, rest⟩, hs, h⟩ := h
      cases h
      obtain ⟨x, hx, rfl⟩ := ih hs
      refine ⟨_, .plain ?_ hx, rfl⟩
      simp only [Bool.or_eq_true, decide_eq_true_eq, beq_iff_eq, not_or, not_lt] at hplain
      have hne : c ≠ '"' := hquote
      simp [isPlain, hplain, hne]
  | case6 => cases h

theorem stringText_plain {name : List Char} (h : ∀ c ∈ name, isPlain c = true) :
    StringText name (name.map Char.toNat) := by
  induction name with
  | nil => exact .nil
  | cons c name ih =>
      obtain ⟨hc, hname⟩ := List.forall_mem_cons.mp h
      exact .plain hc (ih hname)

theorem not_surrogate (c : Char) :
    isHighSurrogate c.toNat = false ∧ isLowSurrogate c.toNat = false := by
  have hvalid := c.valid
  simp only [UInt32.isValidChar, Nat.isValidChar] at hvalid
  simp only [isHighSurrogate, isLowSurrogate, Char.toNat, Bool.and_eq_false_iff,
    decide_eq_false_iff_not]
  omega

theorem characters?_toNat (cs : List Char) : characters? (cs.map Char.toNat) = some cs := by
  induction cs with
  | nil => rfl
  | cons c cs ih =>
      obtain ⟨hhigh, hlow⟩ := not_surrogate c
      cases cs with
      | nil => simp [characters?, hhigh, hlow]
      | cons d cs => simp_all [characters?]

theorem text?_toNat (s : String) : text? (s.toList.map Char.toNat) = some s := by
  simp [text?, characters?_toNat]

/-! ## One token -/

theorem wordChar_of_isSpace (h : isSpace c = true) :
    isNumberChar c = false ∧ c.isAlpha = false := by
  simp only [isSpace, Bool.or_eq_true, beq_iff_eq] at h
  obtain ((rfl | rfl) | rfl) | rfl := h <;> decide

theorem of_punctuation? (h : punctuation? c = some token) :
    isSpace c = false ∧ c ≠ '"' ∧ isNumberChar c = false ∧ c.isAlpha = false := by
  unfold punctuation? at h
  split at h
  case h_7 => cases h
  all_goals decide

theorem tokens?_nil : tokens? [] = some [] := by
  rw [tokens?]

theorem tokens?_space (h : isSpace c = true) : tokens? (c :: rest) = tokens? rest := by
  rw [tokens?, if_pos h]

theorem tokens?_string (h : string? s = some (codes, rest)) :
    tokens? ('"' :: s) = (tokens? rest).map (.string codes :: ·) := by
  rw [tokens?, if_neg (by decide), if_pos rfl]
  split
  · rename_i h'
    rw [h] at h'
    cases h'
    rfl
  · rename_i h'
    rw [h] at h'
    cases h'

theorem tokens?_punctuation (h : punctuation? c = some token) :
    tokens? (c :: rest) = (tokens? rest).map (token :: ·) := by
  obtain ⟨hspace, hquote, hnumber, halpha⟩ := of_punctuation? h
  rw [tokens?, if_neg (by simp [hspace]), if_neg hquote, if_neg (by simp [hnumber]),
    if_neg (by simp [halpha]), h]
  cases tokens? rest <;> rfl

theorem tokens?_number (h : NumberText s) (hrest : Stops isNumberChar rest) :
    tokens? (s ++ rest) = (tokens? rest).map (.number s :: ·) := by
  obtain ⟨c, s, rfl, hc⟩ := h.head
  obtain ⟨hnumber, hrun⟩ := List.forall_mem_cons.mp h.isNumberChar
  have hspace : ¬ isSpace c = true := fun hspace => by
    simp [(wordChar_of_isSpace hspace).1] at hnumber
  have hquote : c ≠ '"' := by
    rintro rfl
    simp [isNumberChar] at hnumber
  rw [List.cons_append, tokens?, if_neg hspace, if_neg hquote, if_pos (by simp [hnumber, hc]),
    hrest.takeWhile_append hrun, hrest.dropWhile_append hrun]
  simp only [number?, isNumber_iff.mpr h]
  cases tokens? rest <;> rfl

theorem tokens?_word (hs : s.all Char.isAlpha = true) (h : word? s = some token)
    (hrest : Stops Char.isAlpha rest) :
    tokens? (s ++ rest) = (tokens? rest).map (token :: ·) := by
  cases s with
  | nil => cases h
  | cons c s =>
      obtain ⟨halpha, hrun⟩ := List.forall_mem_cons.mp (List.all_eq_true.mp hs)
      have hspace : ¬ isSpace c = true := fun hspace => by
        simp [(wordChar_of_isSpace hspace).2] at halpha
      have hquote : c ≠ '"' := by
        rintro rfl
        simp at halpha
      rw [List.cons_append, tokens?, if_neg hspace, if_neg hquote, if_neg (by simp [halpha]),
        if_pos halpha, hrest.takeWhile_append hrun, hrest.dropWhile_append hrun, h]
      cases tokens? rest <;> rfl

/-- A character that may go on a number or a word. -/
def isWordChar (c : Char) : Bool :=
  isNumberChar c || c.isAlpha

/-- A token that other characters may go on. -/
def Token.isWord : Token → Bool
  | .null | .bool _ | .number _ => true
  | _ => false

theorem Lexeme.tokens?_append (h : Lexeme t x) (hrest : t.isWord = true → Stops isWordChar rest) :
    tokens? (x ++ rest) = (tokens? rest).map (t :: ·) := by
  have stops {p : Char → Bool} (hp : ∀ c, isWordChar c = false → p c = false)
      (hword : t.isWord = true) : Stops p rest := fun c hc => hp c (hrest hword c hc)
  have letters : ∀ c, isWordChar c = false → c.isAlpha = false := fun c hc =>
    (Bool.or_eq_false_iff.mp hc).2
  have numbers : ∀ c, isWordChar c = false → isNumberChar c = false := fun c hc =>
    (Bool.or_eq_false_iff.mp hc).1
  cases h with
  | openArray | closeArray | openObject | closeObject | comma | colon =>
      exact tokens?_punctuation rfl
  | null => exact tokens?_word rfl rfl (stops letters rfl)
  | bool b => cases b <;> exact tokens?_word rfl rfl (stops letters rfl)
  | number h => exact tokens?_number h (stops numbers rfl)
  | string h =>
      rw [List.cons_append, List.append_assoc]
      exact tokens?_string (h.string? rest)

theorem lexeme_of_punctuation? (h : punctuation? c = some token) : Lexeme token [c] := by
  unfold punctuation? at h
  split at h <;> cases h <;> constructor

theorem lexeme_of_word? (h : word? s = some token) : Lexeme token s := by
  unfold word? at h
  split at h
  · cases h
    subst s
    exact .null
  · split at h
    · cases h
      subst s
      exact .bool true
    · split at h
      · cases h
        subst s
        exact .bool false
      · cases h

theorem lexeme_of_number? (h : number? s = some token) : Lexeme token s := by
  obtain ⟨hs, h⟩ := Option.ite_none_right_eq_some.mp h
  cases h
  exact .number (isNumber_iff.mp hs)

/-! ## All tokens -/

namespace Renders

theorem lexeme (h : Lexeme t x) : Renders x [t] := by
  simpa using token h nil

theorem mark (ht : Lexeme t [c]) (h : Renders s ts) : Renders (c :: s) (t :: ts) :=
  token ht h

theorem string {name : List Char} (hname : ∀ c ∈ name, isPlain c = true) (h : Renders s ts) :
    Renders ('"' :: (name ++ '"' :: s)) (.string (name.map Char.toNat) :: ts) := by
  have hs := token (.string (stringText_plain hname)) h
  rwa [List.cons_append, List.append_assoc] at hs

theorem append (h : Renders s ts) (h' : Renders rest ts') : Renders (s ++ rest) (ts ++ ts') := by
  induction h with
  | nil => exact h'
  | space hc _ ih => exact .space hc ih
  | token ht _ ih =>
      rw [List.append_assoc]
      exact .token ht ih

theorem of_tokens? (h : tokens? s = some ts) : Renders s ts := by
  fun_induction tokens? s generalizing ts with
  | case1 =>
      cases h
      exact .nil
  | case2 c s hspace ih => exact .space hspace (ih h)
  | case3 s codes rest hstring _ ih =>
      obtain ⟨ts, hts, rfl⟩ := Option.map_eq_some_iff.mp h
      obtain ⟨x, hx, rfl⟩ := exists_stringText hstring
      have hs := Renders.token (.string hx) (ih hts)
      rwa [List.cons_append, List.append_assoc] at hs
  | case4 => cases h
  | case5 c s _ _ _ ih =>
      simp only [Option.bind_eq_bind, Option.bind_eq_some_iff] at h
      obtain ⟨token, htoken, ts, hts, h⟩ := h
      cases h
      have hs := Renders.token (lexeme_of_number? htoken) (ih hts)
      rwa [List.cons_append, List.takeWhile_append_dropWhile] at hs
  | case6 c s _ _ _ _ ih =>
      simp only [Option.bind_eq_bind, Option.bind_eq_some_iff] at h
      obtain ⟨token, htoken, ts, hts, h⟩ := h
      cases h
      have hs := Renders.token (lexeme_of_word? htoken) (ih hts)
      rwa [List.cons_append, List.takeWhile_append_dropWhile] at hs
  | case7 c s _ _ _ _ ih =>
      simp only [Option.bind_eq_bind, Option.bind_eq_some_iff] at h
      obtain ⟨token, htoken, ts, hts, h⟩ := h
      cases h
      exact .token (lexeme_of_punctuation? htoken) (ih hts)

/-- A text whose first token no character goes on goes on no token itself. -/
theorem stops (h : Renders s ts) (hts : ∀ t ∈ ts.head?, t.isWord = false) : Stops isWordChar s := by
  cases h with
  | nil => exact .nil
  | space hc =>
      obtain ⟨hnumber, halpha⟩ := wordChar_of_isSpace hc
      exact .cons (by simp [isWordChar, hnumber, halpha])
  | token ht =>
      have hword := hts _ rfl
      cases ht with
      | null | bool | number => cases hword
      | openArray | closeArray | openObject | closeObject | comma | colon | string =>
          exact .cons (by decide)

end Renders

/-- No two tokens stand side by side that run together without white space. -/
def Apart (ts : List Token) : Prop :=
  ts.IsChain fun t u => t.isWord = false ∨ u.isWord = false

theorem Renders.tokens? (h : Renders s ts) (hts : Apart ts) : Json.tokens? s = some ts := by
  induction h with
  | nil => exact tokens?_nil
  | space hc _ ih => rw [tokens?_space hc, ih hts]
  | token ht h ih =>
      obtain ⟨hnext, hts⟩ := List.isChain_cons.mp hts
      have hstops (hword : Token.isWord _ = true) := h.stops fun u hu =>
        (hnext u hu).resolve_left (by rw [hword]; exact Bool.noConfusion)
      rw [ht.tokens?_append hstops, ih hts]
      rfl

end SqlGateway.Json
