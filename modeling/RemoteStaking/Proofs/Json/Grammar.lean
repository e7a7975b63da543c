import RemoteStaking.Proofs.Json.Documents

/-!
# `RemoteStaking.Proofs.Json.Grammar` — what is read is what was spelled

The other direction: a text from which a document is read spells it. The readers of words are gone through one by one;
the machine that puts words together is shown to keep, in what is open and what it expects, all the words that it took
in (`Reader.written`).

## Contents
- **Strings.** `body_of_scanBody`.
- **Numerals.** `isNumeral_of_scanNumeral`.
- **Words.** `Token.spelledBy_of_first?`, `spells_of_tokenize`.
- **The machine.** `Reader.written`, `written_step`, `written_feed`.
- **`parse_eq_some_iff`**: the texts from which a document is read are those that spell it.
-/

namespace RemoteStaking.Json

/-! ## Strings -/

theorem isHexDigit_of_nibbleOfChar? {c : Char} {n : Hex.Nibble} (h : Hex.nibbleOfChar? c = some n) :
    IsHexDigit n.val c := by
  have hall : ∀ code : Fin 256, ∀ n, Hex.nibbleOfChar? (Char.ofNat code.val) = some n →
      IsHexDigit n.val (Char.ofNat code.val) := by
    unfold IsHexDigit
    decide +kernel
  have hc : c.toNat < 256 := by
    by_contra hc
    rw [Hex.nibbleOfChar?, if_neg hc] at h
    cases h
  have hchar := hall ⟨c.toNat, hc⟩ n
  rw [Char.ofNat_toNat] at hchar
  exact hchar h

theorem digits_of_unit? {a b c d : Char} {u : Nat} (h : unit? a b c d = some u) :
    ∃ k l m n, IsHexDigit k a ∧ IsHexDigit l b ∧ IsHexDigit m c ∧ IsHexDigit n d ∧
      u = k * 4096 + l * 256 + m * 16 + n := by
  unfold unit? at h
  split at h
  · rename_i k l m n ha hb hc hd
    cases h
    exact ⟨k.val, l.val, m.val, n.val, isHexDigit_of_nibbleOfChar? ha, isHexDigit_of_nibbleOfChar? hb,
      isHexDigit_of_nibbleOfChar? hc, isHexDigit_of_nibbleOfChar? hd, rfl⟩
  · cases h

theorem letter_of_escaped? {e c : Char} (h : escaped? e = some c) : (e, c) ∈ letters := by
  unfold escaped? at h
  split at h
  · rename_i he
    cases h
    rcases he with rfl | rfl | rfl <;> decide
  -- the letters for control characters
  iterate 5
    split at h
    · subst e
      cases h
      decide
  cases h

theorem eq_of_consUnit {u : Nat} {r : Option (List Nat × List Char)} {us : List Nat} {rest : List Char}
    (h : consUnit u r = some (us, rest)) : ∃ us', us = u :: us' ∧ r = some (us', rest) := by
  obtain ⟨⟨us', rest'⟩, rfl, heq⟩ := Option.map_eq_some_iff.1 h
  cases heq
  exact ⟨us', rfl, rfl⟩

/-- **What is read up to a closing quote may stand between quotes.** -/
theorem body_of_scanBody {cs : List Char} {us : List Nat} {rest : List Char} (h : scanBody cs = some (us, rest)) :
    ∃ body, cs = body ++ '"' :: rest ∧ Body us body := by
  fun_induction scanBody cs generalizing us with
  | case1 => cases h
  | case2 rest =>
    cases h
    exact ⟨[], rfl, .nil⟩
  | case3 a b c d rest u hunit ih =>
    obtain ⟨us', rfl, hrest⟩ := eq_of_consUnit h
    obtain ⟨body, rfl, hbody⟩ := ih hrest
    obtain ⟨k, l, m, n, ha, hb, hc, hd, rfl⟩ := digits_of_unit? hunit
    exact ⟨_, rfl, .digits ha hb hc hd hbody⟩
  | case4 => cases h
  | case5 c rest _ e hescaped ih =>
    obtain ⟨us', rfl, hrest⟩ := eq_of_consUnit h
    obtain ⟨body, rfl, hbody⟩ := ih hrest
    exact ⟨_, rfl, .letter (letter_of_escaped? hescaped) hbody⟩
  | case6 => cases h
  | case7 => cases h
  | case8 c cs hquote _ _ hplain ih =>
    obtain ⟨us', rfl, hrest⟩ := eq_of_consUnit h
    obtain ⟨body, rfl, hbody⟩ := ih hrest
    rw [not_or] at hplain
    exact ⟨_, rfl, .plain hquote hplain.1 hplain.2 hbody⟩

/-! ## Numerals -/

section Numerals

variable {cs rest : List Char}

theorem isDigits_of_scanDigits {ds : List Char} (h : scanDigits cs = some (ds, rest)) :
    cs = ds ++ rest ∧ IsDigits ds := by
  unfold scanDigits at h
  split at h
  · cases h
  · rename_i hne
    cases h
    refine ⟨List.takeWhile_append_dropWhile.symm, hne, fun c hc => ?_⟩
    exact List.mem_takeWhile_imp hc

theorem isWhole_of_scanWhole {whole : List Char} (h : scanWhole cs = some (whole, rest)) :
    cs = whole ++ rest ∧ IsWhole whole := by
  unfold scanWhole at h
  split at h
  · cases h
    exact ⟨rfl, .zero⟩
  · rename_i hzero
    obtain ⟨rfl, hdigits⟩ := isDigits_of_scanDigits h
    refine ⟨rfl, ?_⟩
    cases whole with
    | nil => exact absurd rfl hdigits.1
    | cons d ds =>
      refine .digits ?_ hdigits
      rintro rfl
      exact hzero _ rfl

theorem isFraction_of_scanFraction {fraction : List Char} (h : scanFraction cs = some (fraction, rest)) :
    cs = fraction ++ rest ∧ IsFraction fraction := by
  unfold scanFraction at h
  split at h
  · obtain ⟨⟨ds, rest'⟩, hdigits, heq⟩ := Option.map_eq_some_iff.1 h
    cases heq
    obtain ⟨rfl, hds⟩ := isDigits_of_scanDigits hdigits
    exact ⟨rfl, .some hds⟩
  · cases h
    exact ⟨rfl, .none⟩

theorem scanSign_cases (cs : List Char) :
    cs = (scanSign cs).1 ++ (scanSign cs).2 ∧
      ((scanSign cs).1 = [] ∨ (scanSign cs).1 = ['+'] ∨ (scanSign cs).1 = ['-']) := by
  unfold scanSign
  split
  · exact ⟨rfl, .inr (.inl rfl)⟩
  · exact ⟨rfl, .inr (.inr rfl)⟩
  · exact ⟨rfl, .inl rfl⟩

theorem isExponent_of_scanExponent {exponent : List Char} (h : scanExponent cs = some (exponent, rest)) :
    cs = exponent ++ rest ∧ IsExponent exponent := by
  unfold scanExponent at h
  split at h
  · rename_i c cs
    split at h
    · rename_i hmark
      obtain ⟨hcs, hsign⟩ := scanSign_cases cs
      generalize scanSign cs = signed at h hcs hsign
      obtain ⟨⟨ds, rest'⟩, hdigits, heq⟩ := Option.map_eq_some_iff.1 h
      cases heq
      obtain ⟨hrest, hds⟩ := isDigits_of_scanDigits hdigits
      refine ⟨?_, .some hmark hsign hds⟩
      rw [hcs, hrest, List.cons_append, List.cons_append, List.append_assoc]
    · cases h
      exact ⟨rfl, .none⟩
  · cases h
    exact ⟨rfl, .none⟩

theorem isNumeral_of_scanUnsigned {n minus : List Char} (hminus : minus = [] ∨ minus = ['-'])
    (h : scanUnsigned cs = some (n, rest)) : cs = n ++ rest ∧ IsNumeral (minus ++ n) := by
  unfold scanUnsigned at h
  split at h
  · cases h
  · rename_i whole cs₁ hscan
    obtain ⟨rfl, hwhole⟩ := isWhole_of_scanWhole hscan
    split at h
    · cases h
    · rename_i fraction cs₂ hscan
      obtain ⟨rfl, hfraction⟩ := isFraction_of_scanFraction hscan
      split at h
      · cases h
      · rename_i exponent cs₃ hscan
        obtain ⟨rfl, hexponent⟩ := isExponent_of_scanExponent hscan
        cases h
        have hnumeral := IsNumeral.mk hminus hwhole hfraction hexponent
        simp only [List.append_assoc] at hnumeral ⊢
        exact ⟨trivial, hnumeral⟩

/-- **What is read as a number may be written as one.** -/
theorem isNumeral_of_scanNumeral {n : List Char} (h : scanNumeral cs = some (n, rest)) :
    cs = n ++ rest ∧ IsNumeral n := by
  unfold scanNumeral at h
  split at h
  · obtain ⟨⟨n', rest'⟩, hunsigned, heq⟩ := Option.map_eq_some_iff.1 h
    cases heq
    obtain ⟨rfl, hn⟩ := isNumeral_of_scanUnsigned (.inr rfl) hunsigned
    exact ⟨rfl, hn⟩
  · exact isNumeral_of_scanUnsigned (.inl rfl) h

end Numerals

/-! ## Words -/

/-- **What is read as a word is one of the ways to write it.** -/
theorem Token.spelledBy_of_first? {cs rest : List Char} {t : Token} (h : first? cs = some (t, rest)) :
    ∃ text, cs = text ++ rest ∧ t.SpelledBy text := by
  unfold first? at h
  split at h
  case h_10 =>
    obtain ⟨⟨us, rest'⟩, hscan, heq⟩ := Option.map_eq_some_iff.1 h
    cases heq
    obtain ⟨body, rfl, hbody⟩ := body_of_scanBody hscan
    refine ⟨'"' :: (body ++ ['"']), ?_, ?_⟩
    · rw [List.cons_append, List.append_assoc]
      rfl
    · cases hjoin : joinUnits us with
      | none =>
        refine .nothing hbody fun cs hcs => ?_
        rw [joinUnits_of_units hcs] at hjoin
        cases hjoin
      | some cs =>
        refine .string hbody ?_
        rw [String.toList_ofList]
        exact units_of_joinUnits (lt_of_body hbody) hjoin
  case h_11 =>
    obtain ⟨⟨n, rest'⟩, hscan, heq⟩ := Option.map_eq_some_iff.1 h
    cases heq
    obtain ⟨rfl, hn⟩ := isNumeral_of_scanNumeral hscan
    exact ⟨n, rfl, .number hn⟩
  all_goals
    cases h
    exact ⟨_, rfl, .fixed rfl⟩

theorem spells_of_tokenizeUpTo {fuel : Nat} {cs : List Char} {ts : List Token} (h : tokenizeUpTo fuel cs = some ts) :
    ∃ words space, cs = words ++ space ∧ Spells ts words ∧ ∀ c ∈ space, isSpace c = true := by
  induction fuel generalizing cs ts with
  | zero =>
    rw [tokenizeUpTo] at h
    split at h
    · rename_i hspace
      cases h
      exact ⟨[], cs, rfl, .nil, List.all_eq_true.1 hspace⟩
    · cases h
  | succ fuel ih =>
    rw [tokenizeUpTo] at h
    have hcs := List.takeWhile_append_dropWhile (p := isSpace) (l := cs)
    have hspace : ∀ c ∈ cs.takeWhile isSpace, isSpace c = true := fun _ => List.mem_takeWhile_imp
    split at h
    · rename_i hdrop
      cases h
      exact ⟨[], cs, rfl, .nil, List.dropWhile_eq_nil_iff.1 hdrop⟩
    · rename_i c cs' hdrop
      split at h
      · cases h
      · rename_i t rest hfirst
        obtain ⟨ts, hts, rfl⟩ := Option.map_eq_some_iff.1 h
        obtain ⟨text, htext, ht⟩ := Token.spelledBy_of_first? hfirst
        obtain ⟨words, space, rfl, hwords, hend⟩ := ih hts
        refine ⟨cs.takeWhile isSpace ++ (text ++ words), space, ?_, .cons hspace ht hwords, hend⟩
        rw [List.append_assoc, List.append_assoc, ← htext, ← hdrop]
        exact hcs.symm

/-- **The words that are read from a text are spelled in it.** -/
theorem spells_of_tokenize {cs : List Char} {ts : List Token} (h : tokenize cs = some ts) :
    ∃ words space, cs = words ++ space ∧ Spells ts words ∧ ∀ c ∈ space, isSpace c = true :=
  spells_of_tokenizeUpTo h

/-! ## The machine -/

/-- The words of items, each with the comma behind it. -/
def itemsBefore (js : List Json) : List Token :=
  js.flatMap fun j => j.tokens ++ [.comma]

/-- The words of members, each with the comma behind it. -/
def membersBefore (ms : List (Option String × Json)) : List Token :=
  ms.flatMap fun m => .string m.1 :: .colon :: (m.2.tokens ++ [.comma])

/-- The words that were read since the bracket of the frame was opened. -/
@[simp] def Frame.written : Frame → List Token
  | .items before => .openBracket :: itemsBefore before.reverse
  | .members before k => .openBrace :: (membersBefore before.reverse ++ [.string k, .colon])

/-- The words that were read since the last bracket that is still open. -/
@[simp] def Expect.written : Expect → List Token
  | .value => []
  | .firstItem => [.openBracket]
  | .firstKey => [.openBrace]
  | .key before => .openBrace :: membersBefore before.reverse
  | .colon before k => .openBrace :: (membersBefore before.reverse ++ [.string k])
  | .next v => v.tokens

/-- The words of all that was read: the innermost frame is the first. -/
@[simp] def writtenIn : List Frame → List Token
  | [] => []
  | frame :: stack => writtenIn stack ++ frame.written

/-- **All words that were read so far.** -/
@[simp] def Reader.written (r : Reader) : List Token :=
  writtenIn r.stack ++ r.expect.written

/-- The words of an array, by its last item. -/
theorem itemTokens_concat (first : Bool) (js : List Json) (j : Json) :
    itemTokens first (js ++ [j]) = separated first (itemsBefore js ++ (j.tokens ++ [.closeBracket])) := by
  induction js generalizing first with
  | nil => rfl
  | cons j' js ih =>
    have hcons : itemsBefore (j' :: js) = j'.tokens ++ [.comma] ++ itemsBefore js := rfl
    rw [List.cons_append, itemTokens, ih false, hcons, List.append_assoc, List.append_assoc]
    rfl

/-- The words of an object, by its last member. -/
theorem memberTokens_concat (first : Bool) (ms : List (Option String × Json)) (k : Option String) (j : Json) :
    memberTokens first (ms ++ [(k, j)]) =
      separated first (membersBefore ms ++ (.string k :: .colon :: (j.tokens ++ [.closeBrace]))) := by
  induction ms generalizing first with
  | nil => rfl
  | cons m ms ih =>
    obtain ⟨k', j'⟩ := m
    have hcons : membersBefore ((k', j') :: ms) =
        .string k' :: .colon :: (j'.tokens ++ [.comma]) ++ membersBefore ms := rfl
    rw [List.cons_append, memberTokens, ih false, hcons]
    simp only [List.cons_append, List.append_assoc]
    rfl

/-- A word that begins a value is written behind what is open. -/
theorem written_stepValue {stack : List Frame} {t : Token} {r : Reader} (h : Reader.stepValue stack t = some r) :
    r.written = writtenIn stack ++ [t] := by
  cases t <;> cases h <;> rfl

/-- **Taking in a word adds it to what was read.** -/
theorem written_step {r r' : Reader} {t : Token} (h : r.step t = some r') : r'.written = r.written ++ [t] := by
  obtain ⟨expect, stack⟩ := r
  cases expect with
  | value =>
    rw [written_stepValue h, Reader.written, Expect.written, List.append_nil]
  | firstItem =>
    by_cases ht : t = .closeBracket
    · subst ht
      cases h
      simp [tokens, itemTokens]
    · rw [Reader.step_firstItem ht] at h
      exact written_stepValue h
  | firstKey =>
    cases t with
    | closeBrace | string =>
      cases h
      simp [tokens, memberTokens, membersBefore]
    | _ => cases h
  | key before =>
    cases t with
    | string k =>
      cases h
      simp
    | _ => cases h
  | colon before k =>
    cases t with
    | colon =>
      cases h
      simp
    | _ => cases h
  | next v =>
    -- a comma is added to what is before, and a closing bracket makes it all one document
    cases stack with
    | nil => cases h
    | cons frame stack =>
      cases frame with
      | items before =>
        cases t with
        | comma =>
          cases h
          simp [itemsBefore]
        | closeBracket =>
          cases h
          simp [tokens, itemTokens_concat, separated]
        | _ => cases h
      | members before k =>
        cases t with
        | comma =>
          cases h
          simp [membersBefore]
        | closeBrace =>
          cases h
          simp [tokens, memberTokens_concat, separated]
        | _ => cases h

/-- **Nothing that was taken in is lost.** -/
theorem written_feed {r r' : Reader} {ts : List Token} (h : r.feed ts = some r') : r'.written = r.written ++ ts := by
  induction ts generalizing r with
  | nil =>
    cases h
    exact (List.append_nil _).symm
  | cons t ts ih =>
    rw [Reader.feed, List.foldlM_cons] at h
    obtain ⟨r₁, hstep, hrest⟩ := Option.bind_eq_some_iff.1 h
    rw [ih hrest, written_step hstep, List.append_assoc]
    rfl

theorem tokens_of_ofTokens? {ts : List Token} {j : Json} (h : ofTokens? ts = some j) : j.tokens = ts := by
  obtain ⟨r, hfeed, hresult⟩ := Option.bind_eq_some_iff.1 h
  have hwritten : r.written = ts := written_feed hfeed
  rw [← hwritten]
  unfold Reader.result? at hresult
  split at hresult
  · cases hresult
    rfl
  · cases hresult

/-! ## All together -/

/-- The words of a document in a text, told apart, are all that there is to spelling it. -/
theorem spelledBy_of_tokenize {j : Json} {text : String} (h : tokenize text.toList = some j.tokens) :
    j.SpelledBy text := by
  obtain ⟨words, space, htext, hwords, hspace⟩ := spells_of_tokenize h
  exact ⟨words, space, htext, hwords, hspace⟩

/-- **A document is read from the texts that spell it, and from no other.** -/
theorem parse_eq_some_iff {j : Json} {text : String} : parse text = some j ↔ j.SpelledBy text := by
  refine ⟨fun h => ?_, parse_of_spelledBy⟩
  obtain ⟨ts, hts, hj⟩ := Option.bind_eq_some_iff.1 h
  rw [← tokens_of_ofTokens? hj] at hts
  exact spelledBy_of_tokenize hts

end RemoteStaking.Json
