import Mathlib.Data.List.Chain
import Mathlib.Data.List.TakeWhile
import RemoteStaking.Json.Basic
import RemoteStaking.Proofs.Json.Strings

/-!
# `RemoteStaking.Proofs.Json.Words` — words come back from a text

A word can be written in several ways if it is a string, and between words there may be any white space. Reading finds
the words again: every word but a number shows its own end, and a number ends where something begins that cannot
continue it.

## Contents
- **Numerals.** `IsNumeral`: what may be written as a number. `scanNumeral_of_isNumeral`: it is read up to what cannot
  continue it (`Ends`). `isNumeral_toDigits`: the digits of a number are one.
- **One word.** `Token.SpelledBy`: the ways to write it. `first?_of_spelledBy`: it is read from each. `Token.Plain`,
  `spelledBy_text`: the way in which it is written here is one of them.
- **All words.** `Spells`: a text of words with white space between them. `Spaced`, **`tokenizeUpTo_of_spells`**,
  `tokenize_of_spells`, `spells_spell`.
-/

namespace RemoteStaking.Json

/-! ## Numerals -/

/-- One digit or more. -/
def IsDigits (ds : List Char) : Prop :=
  ds ≠ [] ∧ ∀ c ∈ ds, c.isDigit = true

/-- The digits before the point: a zero alone, or digits that do not begin with zero. -/
inductive IsWhole : List Char → Prop where
  | zero : IsWhole ['0']
  | digits {d : Char} {ds : List Char} (hd : d ≠ '0') (h : IsDigits (d :: ds)) : IsWhole (d :: ds)

/-- Nothing, or a point with digits. -/
inductive IsFraction : List Char → Prop where
  | none : IsFraction []
  | some {ds : List Char} (h : IsDigits ds) : IsFraction ('.' :: ds)

/-- Nothing, or a mark, perhaps a sign, and digits. -/
inductive IsExponent : List Char → Prop where
  | none : IsExponent []
  | some {mark : Char} {sign ds : List Char} (hmark : mark = 'e' ∨ mark = 'E')
      (hsign : sign = [] ∨ sign = ['+'] ∨ sign = ['-']) (h : IsDigits ds) : IsExponent (mark :: (sign ++ ds))

/-- **What may be written as a number.** -/
inductive IsNumeral : List Char → Prop where
  | mk {minus whole fraction exponent : List Char} (hminus : minus = [] ∨ minus = ['-']) (hwhole : IsWhole whole)
      (hfraction : IsFraction fraction) (hexponent : IsExponent exponent) :
      IsNumeral (minus ++ (whole ++ (fraction ++ exponent)))

/-- Nothing here continues a run of digits. -/
def EndsDigits (rest : List Char) : Prop :=
  ∀ c ∈ rest.head?, c.isDigit = false

/-- Nothing here continues a numeral. -/
def Ends (rest : List Char) : Prop :=
  ∀ c ∈ rest.head?, c.isDigit = false ∧ c ≠ '.' ∧ c ≠ 'e' ∧ c ≠ 'E'

section Numerals

variable {ds rest : List Char}

theorem Ends.endsDigits (h : Ends rest) : EndsDigits rest :=
  fun c hc => (h c hc).1

/-- A run of digits is read up to its end. -/
theorem scanDigits_append (hds : IsDigits ds) (hrest : EndsDigits rest) :
    scanDigits (ds ++ rest) = some (ds, rest) := by
  have hstop : rest.takeWhile Char.isDigit = [] ∧ rest.dropWhile Char.isDigit = rest := by
    cases rest with
    | nil => exact ⟨rfl, rfl⟩
    | cons c cs =>
      have hc : ¬ c.isDigit = true := Bool.eq_false_iff.1 (hrest c rfl)
      exact ⟨List.takeWhile_cons_of_neg hc, List.dropWhile_cons_of_neg hc⟩
  unfold scanDigits
  rw [List.takeWhile_append_of_pos hds.2, List.dropWhile_append_of_pos hds.2, hstop.1, hstop.2, List.append_nil]
  cases ds with
  | nil => exact absurd rfl hds.1
  | cons d ds => rfl

theorem scanWhole_append {whole : List Char} (h : IsWhole whole) (hrest : EndsDigits rest) :
    scanWhole (whole ++ rest) = some (whole, rest) := by
  cases h with
  | zero => rfl
  | digits hd h =>
    -- digits that do not begin with the zero that would have to stand alone
    have hdigits := scanDigits_append h hrest
    rw [List.cons_append] at hdigits ⊢
    rw [scanWhole, hdigits]
    rintro _ ⟨⟩
    exact hd rfl

theorem scanFraction_append {fraction : List Char} (h : IsFraction fraction) (hrest : EndsDigits rest)
    (hpoint : rest.head? ≠ some '.') : scanFraction (fraction ++ rest) = some (fraction, rest) := by
  cases h with
  | some h =>
    rw [List.cons_append, scanFraction, scanDigits_append h hrest]
    rfl
  | none =>
    rw [List.nil_append, scanFraction.eq_def]
    split
    · exact absurd rfl hpoint
    · rfl

/-- A sign is read before digits, and none where there is none. -/
theorem scanSign_append {sign : List Char} (hsign : sign = [] ∨ sign = ['+'] ∨ sign = ['-']) (h : IsDigits ds)
    (rest : List Char) : scanSign (sign ++ (ds ++ rest)) = (sign, ds ++ rest) := by
  rcases hsign with rfl | rfl | rfl
  · obtain ⟨hne, hdigit⟩ := h
    cases ds with
    | nil => exact absurd rfl hne
    | cons d ds =>
      have hd : d.isDigit = true := hdigit d List.mem_cons_self
      rw [List.nil_append, List.cons_append, scanSign.eq_def]
      split
      · rename_i heq
        cases heq
        cases hd
      · rename_i heq
        cases heq
        cases hd
      · rfl
  · rfl
  · rfl

theorem scanExponent_append {exponent : List Char} (h : IsExponent exponent) (hrest : Ends rest) :
    scanExponent (exponent ++ rest) = some (exponent, rest) := by
  cases h with
  | some hmark hsign h =>
    rw [List.cons_append, List.append_assoc, scanExponent, if_pos hmark]
    simp only [scanSign_append hsign h, scanDigits_append h hrest.endsDigits, Option.map_some, List.cons_append]
  | none =>
    cases rest with
    | nil => rfl
    | cons c cs =>
      rw [List.nil_append, scanExponent, if_neg]
      rintro (heq | heq)
      · exact (hrest c rfl).2.2.1 heq
      · exact (hrest c rfl).2.2.2 heq

/-- What comes before digits ends where an exponent begins, or where the numeral ends. -/
theorem head?_exponent_append {exponent : List Char} (h : IsExponent exponent) (hrest : Ends rest) :
    EndsDigits (exponent ++ rest) ∧ (exponent ++ rest).head? ≠ some '.' := by
  cases h with
  | some hmark hsign h =>
    constructor
    · rintro _ ⟨⟩
      rcases hmark with rfl | rfl <;> rfl
    · rintro ⟨⟩
      rcases hmark with hmark | hmark <;> cases hmark
  | none =>
    refine ⟨hrest.endsDigits, fun hpoint => ?_⟩
    exact (hrest '.' hpoint).2.1 rfl

theorem scanUnsigned_append {whole fraction exponent : List Char} (hwhole : IsWhole whole)
    (hfraction : IsFraction fraction) (hexponent : IsExponent exponent) (hrest : Ends rest) :
    scanUnsigned (whole ++ (fraction ++ exponent) ++ rest) = some (whole ++ (fraction ++ exponent), rest) := by
  obtain ⟨hdigits, hpoint⟩ := head?_exponent_append hexponent hrest
  have hafter : EndsDigits (fraction ++ (exponent ++ rest)) := by
    cases hfraction with
    | none => exact hdigits
    | some h =>
      rintro _ ⟨⟩
      rfl
  unfold scanUnsigned
  simp only [List.append_assoc, scanWhole_append hwhole hafter, scanFraction_append hfraction hdigits hpoint,
    scanExponent_append hexponent hrest]

/-- A numeral without sign begins with a digit. -/
theorem exists_digit_of_isWhole {whole : List Char} (h : IsWhole whole) :
    ∃ d ds, whole = d :: ds ∧ d.isDigit = true := by
  cases h with
  | zero => exact ⟨'0', [], rfl, rfl⟩
  | digits hd h => exact ⟨_, _, rfl, h.2 _ List.mem_cons_self⟩

/-- **A numeral is read up to its end.** -/
theorem scanNumeral_of_isNumeral {n : List Char} (h : IsNumeral n) (hrest : Ends rest) :
    scanNumeral (n ++ rest) = some (n, rest) := by
  obtain ⟨hminus, hwhole, hfraction, hexponent⟩ := h
  have hunsigned := scanUnsigned_append hwhole hfraction hexponent hrest
  rcases hminus with rfl | rfl
  · obtain ⟨d, ds, rfl, hd⟩ := exists_digit_of_isWhole hwhole
    rw [List.nil_append, scanNumeral, hunsigned]
    rintro _ ⟨⟩
    cases hd
  · rw [List.append_assoc, List.singleton_append, scanNumeral, hunsigned]
    rfl

end Numerals

/-- The digits of a number other than zero do not begin with zero. -/
theorem toDigits_eq_cons {n : Nat} (h : n ≠ 0) : ∃ d ds, Nat.toDigits 10 n = d :: ds ∧ d ≠ '0' := by
  induction n using Nat.strongRecOn with
  | ind n ih =>
    rw [Nat.toDigits_eq_if (by decide)]
    by_cases hn : n < 10
    · rw [if_pos hn]
      exact ⟨_, [], rfl, fun hd => h (Nat.digitChar_eq_zero.1 hd)⟩
    · rw [if_neg hn]
      obtain ⟨d, ds, hds, hd⟩ := ih (n / 10) (by omega) (by omega)
      rw [hds]
      exact ⟨d, ds ++ _, rfl, hd⟩

theorem isDigit_of_mem_toDigits {n : Nat} {c : Char} (h : c ∈ Nat.toDigits 10 n) : c.isDigit = true :=
  Nat.isDigit_of_mem_toDigits (by decide) (by decide) h

/-- Any number begins with a digit. -/
theorem exists_digit_toDigits (n : Nat) : ∃ d ds, Nat.toDigits 10 n = d :: ds ∧ d.isDigit = true := by
  cases hds : Nat.toDigits 10 n with
  | nil => exact absurd hds Nat.toDigits_ne_nil
  | cons d ds =>
    refine ⟨d, ds, rfl, isDigit_of_mem_toDigits (n := n) ?_⟩
    rw [hds]
    exact List.mem_cons_self

theorem isNumeral_toDigits (n : Nat) : IsNumeral (Nat.toDigits 10 n) := by
  have hwhole : IsWhole (Nat.toDigits 10 n) := by
    by_cases hn : n = 0
    · subst hn
      exact .zero
    · have hdigits : IsDigits (Nat.toDigits 10 n) := ⟨Nat.toDigits_ne_nil, fun _ => isDigit_of_mem_toDigits⟩
      obtain ⟨d, ds, hds, hd⟩ := toDigits_eq_cons hn
      rw [hds] at hdigits ⊢
      exact .digits hd hdigits
  have hnumeral := IsNumeral.mk (.inl rfl) hwhole .none .none
  rwa [List.append_nil, List.append_nil] at hnumeral

/-! ## One word -/

namespace Token

/-- Whether the word is a number. -/
def isNumber : Token → Bool
  | number _ => true
  | _ => false

/-- Whether the word is written in one way only. -/
def isFixed : Token → Bool
  | number _ | string _ => false
  | _ => true

/-- **The ways to write a word.** A string is written as any body whose units spell it, and one that spells nothing as
    any body whose units spell no text. -/
inductive SpelledBy : Token → List Char → Prop where
  | fixed {t : Token} (h : t.isFixed = true) : SpelledBy t t.text
  | number {n : List Char} (h : IsNumeral n) : SpelledBy (number n) n
  | string {us : List Nat} {s : String} {body : List Char} (hbody : Body us body) (hs : Units us s.toList) :
      SpelledBy (string (some s)) ('"' :: (body ++ ['"']))
  | nothing {us : List Nat} {body : List Char} (hbody : Body us body) (hs : ∀ cs, ¬ Units us cs) :
      SpelledBy (string none) ('"' :: (body ++ ['"']))

/-- A number that is written as its digits, or any other word. -/
def Plain : Token → Prop
  | number numeral => ∃ n, numeral = Nat.toDigits 10 n
  | _ => True

section Spelling

variable {t : Token} {text : List Char}

/-- The way in which a word is written here is one of those in which it can be. -/
theorem spelledBy_text (h : t.Plain) : t.SpelledBy t.text := by
  cases t with
  | number numeral =>
    obtain ⟨n, rfl⟩ := h
    exact .number (isNumeral_toDigits n)
  | string s =>
    cases s with
    | some s => exact .string (body_escape s.toList) (units_toNat s.toList)
    | none =>
      -- the escape of half a pair of surrogates
      have digit (n : Nat) (c : Char) (hc : n < 16 ∧ c = n.digitChar) : IsHexDigit n c := ⟨hc.1, .inl hc.2⟩
      have hbody := Body.digits (digit 13 'd' (by decide)) (digit 8 '8' (by decide)) (digit 0 '0' (by decide))
        (digit 0 '0' (by decide)) .nil
      refine .nothing hbody fun cs hcs => ?_
      have hjoin := joinUnits_of_units hcs
      cases hjoin
  | _ => exact .fixed rfl

/-- A word that is no number ends the one before it. -/
theorem ends_of_spelledBy (h : t.SpelledBy text) (ht : t.isNumber = false) (rest : List Char) :
    Ends (text ++ rest) := by
  have hends {c : Char} {cs : List Char} (hc : c.isDigit = false ∧ c ≠ '.' ∧ c ≠ 'e' ∧ c ≠ 'E') : Ends (c :: cs) := by
    rintro _ ⟨⟩
    exact hc
  cases h with
  | number => cases ht
  | string => exact hends (by decide)
  | nothing => exact hends (by decide)
  | fixed h =>
    cases t with
    | number => cases h
    | string => cases h
    | bool b => cases b <;> exact hends (by decide)
    | _ => exact hends (by decide)

/-- What begins with a digit or a minus sign can only begin with a number. -/
theorem first?_numeral {c : Char} (hc : c.isDigit = true ∨ c = '-') (cs : List Char) :
    first? (c :: cs) = (scanNumeral (c :: cs)).map fun (numeral, rest) => (number numeral, rest) := by
  unfold first?
  split
  -- the other words begin with other characters
  all_goals first
    | rfl
    | rename_i heq
      cases heq
      rcases hc with hc | hc <;> cases hc

/-- A numeral begins with a digit or a minus sign. -/
theorem exists_head_of_isNumeral {n : List Char} (h : IsNumeral n) :
    ∃ c cs, n = c :: cs ∧ (c.isDigit = true ∨ c = '-') := by
  obtain ⟨hminus, hwhole, hfraction, hexponent⟩ := h
  rcases hminus with rfl | rfl
  · obtain ⟨d, ds, rfl, hd⟩ := exists_digit_of_isWhole hwhole
    exact ⟨d, _, rfl, .inl hd⟩
  · exact ⟨'-', _, rfl, .inr rfl⟩

theorem isSpace_eq_false {c : Char} (hc : c.isDigit = true ∨ c = '-') : isSpace c = false := by
  rw [Bool.eq_false_iff]
  intro hspace
  simp only [isSpace, Bool.or_eq_true, decide_eq_true_eq] at hspace
  obtain ((rfl | rfl) | rfl) | rfl := hspace <;> rcases hc with hc | hc <;> cases hc

/-- A word begins with a character that is no space. -/
theorem eq_cons_of_spelledBy (h : t.SpelledBy text) : ∃ c cs, text = c :: cs ∧ isSpace c = false := by
  cases h with
  | number h =>
    obtain ⟨c, cs, rfl, hc⟩ := exists_head_of_isNumeral h
    exact ⟨c, cs, rfl, isSpace_eq_false hc⟩
  | string => exact ⟨_, _, rfl, rfl⟩
  | nothing => exact ⟨_, _, rfl, rfl⟩
  | fixed h =>
    cases t with
    | number => cases h
    | string => cases h
    | bool b => cases b <;> exact ⟨_, _, rfl, rfl⟩
    | _ => exact ⟨_, _, rfl, rfl⟩

/-- A string is read up to the quote behind it. -/
theorem first?_body {us : List Nat} {body : List Char} (h : Body us body) (rest : List Char) :
    first? ('"' :: (body ++ ['"']) ++ rest) = some (string ((joinUnits us).map String.ofList), rest) := by
  rw [List.cons_append, List.append_assoc, List.singleton_append, first?, scanBody_of_body h]
  rfl

/-- **A word is read from each of the ways to write it.** After a number there has to be something that ends it. -/
theorem first?_of_spelledBy (h : t.SpelledBy text) {rest : List Char} (hrest : t.isNumber = true → Ends rest) :
    first? (text ++ rest) = some (t, rest) := by
  cases h with
  | number h =>
    have hscan := scanNumeral_of_isNumeral h (hrest rfl)
    obtain ⟨c, cs, rfl, hc⟩ := exists_head_of_isNumeral h
    rw [List.cons_append] at hscan ⊢
    rw [first?_numeral hc, hscan]
    rfl
  | @string us s body hbody hs =>
    rw [first?_body hbody, joinUnits_of_units hs, Option.map_some, String.ofList_toList]
  | @nothing us body hbody hs =>
    have hjoin : joinUnits us = none := by
      cases hjoin : joinUnits us with
      | none => rfl
      | some cs => exact absurd (units_of_joinUnits (lt_of_body hbody) hjoin) (hs cs)
    rw [first?_body hbody, hjoin, Option.map_none]
  | fixed h =>
    cases t with
    | number => cases h
    | string => cases h
    | bool b => cases b <;> rfl
    | _ => rfl

end Spelling

end Token

/-! ## All words -/

/-- **The text spells the words**: each in one of the ways to write it, with any white space before it. -/
inductive Spells : List Token → List Char → Prop where
  | nil : Spells [] []
  | cons {t : Token} {ts : List Token} {space text rest : List Char} (hspace : ∀ c ∈ space, isSpace c = true)
      (ht : t.SpelledBy text) (hts : Spells ts rest) : Spells (t :: ts) (space ++ (text ++ rest))

/-- No number comes right after another. -/
def Spaced (ts : List Token) : Prop :=
  ts.IsChain fun t u => t.isNumber = true → u.isNumber = false

/-- What follows after the words ends the last one. -/
def EndsWords (ts : List Token) (tail : List Char) : Prop :=
  ∀ t ∈ ts.getLast?, t.isNumber = true → Ends tail

section Words

variable {t : Token} {ts : List Token} {cs tail : List Char}

theorem ends_of_space {c : Char} (hc : isSpace c = true) (cs : List Char) : Ends (c :: cs) := by
  rintro _ ⟨⟩
  simp only [isSpace, Bool.or_eq_true, decide_eq_true_eq] at hc
  obtain ((rfl | rfl) | rfl) | rfl := hc <;> decide

/-- White space ends what comes before it, and so does what ends it without white space. -/
theorem ends_append {space rest : List Char} (hspace : ∀ c ∈ space, isSpace c = true) (hrest : Ends rest) :
    Ends (space ++ rest) := by
  cases space with
  | nil => exact hrest
  | cons c cs => exact ends_of_space (hspace c List.mem_cons_self) _

/-- What follows a number among spaced words ends it. -/
theorem ends_of_spells (hspaced : Spaced (t :: ts)) (ht : t.isNumber = true) (h : Spells ts cs)
    (htail : EndsWords (t :: ts) tail) : Ends (cs ++ tail) := by
  cases h with
  | nil => exact htail t rfl ht
  | @cons u us space text rest hspace hu hus =>
    have hnumber : u.isNumber = false := (List.isChain_cons.1 hspaced).1 u rfl ht
    rw [List.append_assoc, List.append_assoc]
    exact ends_append hspace (Token.ends_of_spelledBy hu hnumber _)

theorem EndsWords.of_cons (h : EndsWords (t :: ts) tail) : EndsWords ts tail := by
  cases ts with
  | nil => exact nofun
  | cons u us => exact h

/-- **Words come back from a text that spells them**, whatever follows that ends the last one. -/
theorem tokenizeUpTo_of_spells (h : Spells ts cs) (hspaced : Spaced ts) (htail : EndsWords ts tail) (fuel : Nat) :
    tokenizeUpTo (ts.length + fuel) (cs ++ tail) = (tokenizeUpTo fuel tail).map (ts ++ ·) := by
  -- by induction on the words: what follows the first is the text of the others
  induction h with
  | nil =>
    rw [List.length_nil, Nat.zero_add]
    exact Option.map_id'.symm
  | @cons t ts space text rest hspace ht hts ih =>
    have hfirst : Token.first? (text ++ (rest ++ tail)) = some (t, rest ++ tail) :=
      Token.first?_of_spelledBy ht fun hnumber => ends_of_spells hspaced hnumber hts htail
    have hrest : tokenizeUpTo (ts.length + fuel) (rest ++ tail) = (tokenizeUpTo fuel tail).map (ts ++ ·) :=
      ih (List.isChain_cons.1 hspaced).2 htail.of_cons
    obtain ⟨c, cs, rfl, hc⟩ := Token.eq_cons_of_spelledBy ht
    have hdrop : (space ++ (c :: cs ++ rest) ++ tail).dropWhile isSpace = c :: (cs ++ (rest ++ tail)) := by
      rw [List.append_assoc, List.dropWhile_append_of_pos hspace, List.append_assoc]
      exact List.dropWhile_cons_of_neg (Bool.eq_false_iff.1 hc)
    rw [List.cons_append] at hfirst
    rw [List.length_cons, Nat.add_right_comm]
    simp only [tokenizeUpTo, hdrop, hfirst, hrest, Option.map_map]
    rfl

/-- Every word takes at least one character. -/
theorem length_le_of_spells (h : Spells ts cs) : ts.length ≤ cs.length := by
  induction h with
  | nil => exact Nat.le_refl 0
  | @cons t ts space text rest hspace ht hts ih =>
    obtain ⟨c, cs, rfl, -⟩ := Token.eq_cons_of_spelledBy ht
    simp only [List.length_append, List.length_cons]
    omega

/-- There are no words in white space. -/
theorem tokenizeUpTo_space {space : List Char} (h : ∀ c ∈ space, isSpace c = true) (fuel : Nat) :
    tokenizeUpTo fuel space = some [] := by
  cases fuel with
  | zero => exact if_pos (List.all_eq_true.2 h)
  | succ fuel => rw [tokenizeUpTo, List.dropWhile_eq_nil_iff.2 h]

/-- The words of a text that spells them, with white space behind them. -/
theorem tokenize_of_spells (h : Spells ts cs) (hspaced : Spaced ts) {space : List Char}
    (hspace : ∀ c ∈ space, isSpace c = true) : tokenize (cs ++ space) = some ts := by
  have hends : EndsWords ts space := by
    intro t _ _
    have hspaces : Ends (space ++ []) := ends_append hspace nofun
    rwa [List.append_nil] at hspaces
  obtain ⟨fuel, hfuel⟩ : ∃ fuel, (cs ++ space).length = ts.length + fuel := by
    refine Nat.exists_eq_add_of_le (Nat.le_trans (length_le_of_spells h) ?_)
    rw [List.length_append]
    exact Nat.le_add_right ..
  rw [tokenize, hfuel, tokenizeUpTo_of_spells h hspaced hends, tokenizeUpTo_space hspace, Option.map_some,
    List.append_nil]

/-- The words one after the other are spelled. -/
theorem spells_spell (hplain : ∀ t ∈ ts, t.Plain) : Spells ts (spell ts) := by
  induction ts with
  | nil => exact .nil
  | cons t ts ih =>
    obtain ⟨ht, hts⟩ := List.forall_mem_cons.1 hplain
    have hspells : Spells (t :: ts) ([] ++ (t.text ++ spell ts)) := .cons nofun (Token.spelledBy_text ht) (ih hts)
    exact hspells

end Words

end RemoteStaking.Json
