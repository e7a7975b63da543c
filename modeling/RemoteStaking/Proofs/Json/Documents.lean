import RemoteStaking.Proofs.Json.Words

/-!
# `RemoteStaking.Proofs.Json.Documents` — a document comes back from the texts that spell it

The words of a document are told apart (`spaced_tokens`), and the machine that takes them in builds the document they
were made from (`feed_tokens`). Both go by induction on the document, with one statement each for a document, the items
of an array from one on, and the members of an object from one on.

## Contents
- **Words.** `mem_itemTokens`, `mem_memberTokens`, `spaced_tokens`.
- **The machine.** `Reader.feed`, `feed_tokens`, `ofTokens?_tokens`.
- **Both together.** `SpelledBy`: the texts that spell a document. **`parse_of_spelledBy`**, `parse_render`.
- **Behind a document.** **`parse_append_eq_none`**.
-/

namespace RemoteStaking.Json

/-! ## Words -/

theorem mem_separated {first : Bool} {t : Token} {ts : List Token} (h : t ∈ separated first ts) :
    t = .comma ∨ t ∈ ts := by
  cases first with
  | true => exact .inr h
  | false => exact List.mem_cons.1 h

/-- A word of an array is one of an item, or no number. -/
theorem mem_itemTokens {first : Bool} {js : List Json} {t : Token} (h : t ∈ itemTokens first js) :
    t.Plain ∨ ∃ j ∈ js, t ∈ j.tokens := by
  induction js generalizing first with
  | nil =>
    cases List.mem_singleton.1 h
    exact .inl trivial
  | cons j js ih =>
    rcases mem_separated h with rfl | h
    · exact .inl trivial
    rcases List.mem_append.1 h with h | h
    · exact .inr ⟨j, List.mem_cons_self, h⟩
    · exact (ih h).imp_right fun ⟨j', hj', ht⟩ => ⟨j', List.mem_cons_of_mem j hj', ht⟩

/-- A word of an object is one of the value of a member, or no number. -/
theorem mem_memberTokens {first : Bool} {ms : List (Option String × Json)} {t : Token}
    (h : t ∈ memberTokens first ms) : t.Plain ∨ ∃ m ∈ ms, t ∈ m.2.tokens := by
  induction ms generalizing first with
  | nil =>
    cases List.mem_singleton.1 h
    exact .inl trivial
  | cons m ms ih =>
    obtain ⟨k, j⟩ := m
    rcases mem_separated h with rfl | h
    · exact .inl trivial
    rcases List.mem_cons.1 h with rfl | h
    · exact .inl trivial
    rcases List.mem_cons.1 h with rfl | h
    · exact .inl trivial
    rcases List.mem_append.1 h with h | h
    · exact .inr ⟨(k, j), List.mem_cons_self, h⟩
    · exact (ih h).imp_right fun ⟨m', hm', ht⟩ => ⟨m', List.mem_cons_of_mem _ hm', ht⟩

/-- A word that is no number may come before any. -/
theorem spaced_cons {t : Token} (ht : t.isNumber = false) {ts : List Token} (h : Spaced ts) : Spaced (t :: ts) :=
  List.isChain_cons.2 ⟨fun _ _ hn => absurd hn (Bool.eq_false_iff.1 ht), h⟩

/-- The words do not begin with a number. -/
def EndsNumber (ts : List Token) : Prop :=
  ∀ u ∈ ts.head?, u.isNumber = false

theorem endsNumber_cons {t : Token} (ht : t.isNumber = false) (ts : List Token) : EndsNumber (t :: ts) := by
  rintro _ ⟨⟩
  exact ht

theorem endsNumber_itemTokens (js : List Json) (rest : List Token) : EndsNumber (itemTokens false js ++ rest) := by
  cases js <;> exact endsNumber_cons rfl _

theorem endsNumber_memberTokens (ms : List (Option String × Json)) (rest : List Token) :
    EndsNumber (memberTokens false ms ++ rest) := by
  cases ms <;> exact endsNumber_cons rfl _

theorem spaced_separated (first : Bool) {ts : List Token} (h : Spaced ts) : Spaced (separated first ts) := by
  cases first with
  | true => exact h
  | false => exact spaced_cons rfl h

theorem separated_append (first : Bool) (ts rest : List Token) :
    separated first ts ++ rest = separated first (ts ++ rest) := by
  cases first <;> rfl

mutual

/-- **The words of a document are told apart**, also from words that follow it and do not begin with a number. -/
theorem spaced_tokens {rest : List Token} (hrest : Spaced rest) (hends : EndsNumber rest) :
    ∀ j : Json, Spaced (j.tokens ++ rest)
  | .null => spaced_cons rfl hrest
  | .bool _ => spaced_cons rfl hrest
  | .number _ => List.isChain_cons.2 ⟨fun u hu _ => hends u hu, hrest⟩
  | .string _ => spaced_cons rfl hrest
  | .array items => spaced_cons rfl (spaced_itemTokens hrest true items)
  | .object members => spaced_cons rfl (spaced_memberTokens hrest true members)

theorem spaced_itemTokens {rest : List Token} (hrest : Spaced rest) :
    ∀ (first : Bool) (js : List Json), Spaced (itemTokens first js ++ rest)
  | _, [] => spaced_cons rfl hrest
  | first, j :: js => by
    have hj : Spaced (j.tokens ++ (itemTokens false js ++ rest)) :=
      spaced_tokens (spaced_itemTokens hrest false js) (endsNumber_itemTokens js rest) j
    rw [itemTokens, separated_append, List.append_assoc]
    exact spaced_separated first hj

theorem spaced_memberTokens {rest : List Token} (hrest : Spaced rest) :
    ∀ (first : Bool) (ms : List (Option String × Json)), Spaced (memberTokens first ms ++ rest)
  | _, [] => spaced_cons rfl hrest
  | first, (k, j) :: ms => by
    have hj : Spaced (j.tokens ++ (memberTokens false ms ++ rest)) :=
      spaced_tokens (spaced_memberTokens hrest false ms) (endsNumber_memberTokens ms rest) j
    rw [memberTokens, separated_append, List.cons_append, List.cons_append, List.append_assoc]
    exact spaced_separated first (spaced_cons rfl (spaced_cons rfl hj))

end

/-! ## The machine -/

namespace Reader

/-- Take in words, one after the other. -/
def feed (r : Reader) (ts : List Token) : Option Reader :=
  ts.foldlM step r

theorem feed_cons {r r' : Reader} {t : Token} (h : r.step t = some r') (ts : List Token) :
    r.feed (t :: ts) = r'.feed ts := by
  rw [feed, List.foldlM_cons, h]
  rfl

theorem feed_congr {r r' : Reader} {t : Token} (h : r.step t = r'.step t) (ts : List Token) :
    r.feed (t :: ts) = r'.feed (t :: ts) := by
  rw [feed, feed, List.foldlM_cons, List.foldlM_cons, h]

/-- Right after the opening bracket, a word that does not close it begins the first item. -/
theorem step_firstItem {stack : List Frame} {t : Token} (h : t ≠ .closeBracket) :
    step ⟨.firstItem, stack⟩ t = step ⟨.value, .items [] :: stack⟩ t := by
  cases t with
  | closeBracket => exact absurd rfl h
  | _ => rfl

theorem feed_firstItem (stack : List Frame) (j : Json) (rest : List Token) :
    feed ⟨.firstItem, stack⟩ (j.tokens ++ rest) = feed ⟨.value, .items [] :: stack⟩ (j.tokens ++ rest) := by
  cases j <;> exact feed_congr (step_firstItem (by nofun)) _

mutual

/-- **The machine builds the document whose words it takes in**, whatever is open around it and whatever follows. -/
theorem feed_tokens (stack : List Frame) (rest : List Token) :
    ∀ j : Json, feed ⟨.value, stack⟩ (j.tokens ++ rest) = feed ⟨.next j, stack⟩ rest
  | .null => feed_cons rfl rest
  | .bool _ => feed_cons rfl rest
  | .number _ => feed_cons rfl rest
  | .string _ => feed_cons rfl rest
  | .array [] => (feed_cons rfl _).trans (feed_cons rfl rest)
  | .array (j :: js) => by
    -- inside the bracket the first item is read as a value, the others as what is next after one
    have hj := feed_tokens (.items [] :: stack) (itemTokens false js ++ rest) j
    calc feed ⟨.value, stack⟩ ((array (j :: js)).tokens ++ rest)
        = feed ⟨.firstItem, stack⟩ (j.tokens ++ (itemTokens false js ++ rest)) := by
          rw [← List.append_assoc]
          exact feed_cons rfl _
      _ = feed ⟨.next j, .items [] :: stack⟩ (itemTokens false js ++ rest) := by rw [feed_firstItem, hj]
      _ = feed ⟨.next (.array (j :: js)), stack⟩ rest := feed_itemTokens stack rest [] j js
  | .object [] => (feed_cons rfl _).trans (feed_cons rfl rest)
  | .object ((k, j) :: ms) => by
    have hj := feed_tokens (.members [] k :: stack) (memberTokens false ms ++ rest) j
    calc feed ⟨.value, stack⟩ ((object ((k, j) :: ms)).tokens ++ rest)
        = feed ⟨.value, .members [] k :: stack⟩ (j.tokens ++ (memberTokens false ms ++ rest)) := by
          rw [← List.append_assoc]
          exact ((feed_cons rfl _).trans (feed_cons rfl _)).trans (feed_cons rfl _)
      _ = feed ⟨.next j, .members [] k :: stack⟩ (memberTokens false ms ++ rest) := hj
      _ = feed ⟨.next (.object ((k, j) :: ms)), stack⟩ rest := feed_memberTokens stack rest [] k j ms

theorem feed_itemTokens (stack : List Frame) (rest : List Token) :
    ∀ (before : List Json) (j : Json) (js : List Json),
      feed ⟨.next j, .items before :: stack⟩ (itemTokens false js ++ rest) =
        feed ⟨.next (.array ((j :: before).reverse ++ js)), stack⟩ rest
  | before, j, [] => by
    rw [List.append_nil]
    exact feed_cons rfl rest
  | before, j, j' :: js => by
    have hj := feed_tokens (.items (j :: before) :: stack) (itemTokens false js ++ rest) j'
    -- the frame holds the items before in reverse, so the next goes in front of them
    calc feed ⟨.next j, .items before :: stack⟩ (itemTokens false (j' :: js) ++ rest)
        = feed ⟨.value, .items (j :: before) :: stack⟩ (j'.tokens ++ (itemTokens false js ++ rest)) := by
          rw [← List.append_assoc]
          exact feed_cons rfl _
      _ = feed ⟨.next j', .items (j :: before) :: stack⟩ (itemTokens false js ++ rest) := hj
      _ = feed ⟨.next (.array ((j' :: j :: before).reverse ++ js)), stack⟩ rest :=
          feed_itemTokens stack rest (j :: before) j' js
      _ = feed ⟨.next (.array ((j :: before).reverse ++ j' :: js)), stack⟩ rest := by
          rw [List.reverse_cons, List.append_assoc, List.singleton_append]

theorem feed_memberTokens (stack : List Frame) (rest : List Token) :
    ∀ (before : List (Option String × Json)) (k : Option String) (j : Json) (ms : List (Option String × Json)),
      feed ⟨.next j, .members before k :: stack⟩ (memberTokens false ms ++ rest) =
        feed ⟨.next (.object (((k, j) :: before).reverse ++ ms)), stack⟩ rest
  | before, k, j, [] => by
    rw [List.append_nil]
    exact feed_cons rfl rest
  | before, k, j, (k', j') :: ms => by
    have hj := feed_tokens (.members ((k, j) :: before) k' :: stack) (memberTokens false ms ++ rest) j'
    calc feed ⟨.next j, .members before k :: stack⟩ (memberTokens false ((k', j') :: ms) ++ rest)
        = feed ⟨.value, .members ((k, j) :: before) k' :: stack⟩ (j'.tokens ++ (memberTokens false ms ++ rest)) := by
          rw [← List.append_assoc]
          exact ((feed_cons rfl _).trans (feed_cons rfl _)).trans (feed_cons rfl _)
      _ = feed ⟨.next j', .members ((k, j) :: before) k' :: stack⟩ (memberTokens false ms ++ rest) := hj
      _ = feed ⟨.next (.object (((k', j') :: (k, j) :: before).reverse ++ ms)), stack⟩ rest :=
          feed_memberTokens stack rest ((k, j) :: before) k' j' ms
      _ = feed ⟨.next (.object (((k, j) :: before).reverse ++ (k', j') :: ms)), stack⟩ rest := by
          rw [List.reverse_cons, List.append_assoc, List.singleton_append]

end

end Reader

theorem ofTokens?_tokens (j : Json) : ofTokens? j.tokens = some j := by
  have h := Reader.feed_tokens [] [] j
  rw [List.append_nil] at h
  show (Reader.start.feed j.tokens).bind Reader.result? = _
  rw [Reader.start, h]
  rfl

/-! ## Both together -/

/-- **The text spells the document**: its words, each in one of the ways to write it, with any white space before,
    between and behind them. -/
def SpelledBy (j : Json) (text : String) : Prop :=
  ∃ cs space, text.toList = cs ++ space ∧ Spells j.tokens cs ∧ ∀ c ∈ space, isSpace c = true

theorem spaced_words (j : Json) : Spaced j.tokens := by
  have hj : Spaced (j.tokens ++ []) := spaced_tokens List.isChain_nil nofun j
  rwa [List.append_nil] at hj

/-- **A document comes back from every text that spells it.** -/
theorem parse_of_spelledBy {j : Json} {text : String} (h : j.SpelledBy text) : parse text = some j := by
  obtain ⟨cs, space, htext, hcs, hspace⟩ := h
  rw [parse, htext, tokenize_of_spells hcs j.spaced_words hspace]
  exact ofTokens?_tokens j

/-- Every number in the document is written as its digits. -/
def Plain (j : Json) : Prop :=
  ∀ t ∈ j.tokens, t.Plain

/-- The text of a document is one of those that spell it. -/
theorem spelledBy_render {j : Json} (h : j.Plain) : j.SpelledBy j.render := by
  refine ⟨spell j.tokens, [], ?_, spells_spell h, nofun⟩
  rw [render, String.toList_ofList, List.append_nil]

/-- **A document comes back from its text.** -/
theorem parse_render {j : Json} (h : j.Plain) : parse j.render = some j :=
  parse_of_spelledBy (spelledBy_render h)

/-! ## Behind a document -/

/-- A text in which not all is white space has a word, or none can be read from it. -/
theorem tokenizeUpTo_ne_nil {tail : List Char} (h : ∃ c ∈ tail, isSpace c = false) (fuel : Nat) :
    tokenizeUpTo fuel tail ≠ some [] := by
  obtain ⟨c, hc, hspace⟩ := h
  have hnot : ¬ ∀ c ∈ tail, isSpace c = true := fun hall => Bool.eq_false_iff.1 hspace (hall c hc)
  cases fuel with
  | zero =>
    rw [tokenizeUpTo, if_neg (mt List.all_eq_true.1 hnot)]
    exact (Option.some_ne_none _).symm
  | succ fuel =>
    have hdrop : tail.dropWhile isSpace ≠ [] := mt List.dropWhile_eq_nil_iff.1 hnot
    rw [tokenizeUpTo]
    split
    · contradiction
    · split
      · exact (Option.some_ne_none _).symm
      · intro hmap
        obtain ⟨ts, -, hts⟩ := Option.map_eq_some_iff.1 hmap
        cases hts

/-- After the last word of a document the machine takes in no other. -/
theorem ofTokens?_append (j : Json) {ts : List Token} (h : ts ≠ []) : ofTokens? (j.tokens ++ ts) = none := by
  show (Reader.start.feed (j.tokens ++ ts)).bind Reader.result? = none
  rw [Reader.start, Reader.feed_tokens]
  cases ts with
  | nil => exact absurd rfl h
  | cons t ts => rfl

theorem getLast?_memberTokens (first : Bool) (ms : List (Option String × Json)) :
    (memberTokens first ms).getLast? = some .closeBrace := by
  induction ms generalizing first with
  | nil => rfl
  | cons m ms ih =>
    obtain ⟨k, j⟩ := m
    have happend (before : List Token) : (before ++ memberTokens false ms).getLast? = some .closeBrace := by
      rw [List.getLast?_append, ih false, Option.some_or]
    cases first with
    | true => exact happend (.string k :: .colon :: j.tokens)
    | false => exact happend (.comma :: .string k :: .colon :: j.tokens)

/-- **Nothing may stand behind an object** but white space. -/
theorem parse_append_eq_none {members : List (Option String × Json)} {text tail : String}
    (h : (object members).SpelledBy text) (htail : ∃ c ∈ tail.toList, isSpace c = false) :
    parse (text ++ tail) = none := by
  obtain ⟨cs, space, htext, hcs, -⟩ := h
  -- the closing brace ends the last word, whatever comes behind it
  have hends : EndsWords (object members).tokens (space ++ tail.toList) := by
    intro t ht hnumber
    rw [tokens, List.getLast?_cons, getLast?_memberTokens] at ht
    cases ht
    cases hnumber
  have hrest : ∃ c ∈ space ++ tail.toList, isSpace c = false := by
    obtain ⟨c, hc, hspace⟩ := htail
    exact ⟨c, List.mem_append_right space hc, hspace⟩
  obtain ⟨fuel, hfuel⟩ : ∃ fuel, (text ++ tail).toList.length = (object members).tokens.length + fuel := by
    refine Nat.exists_eq_add_of_le (Nat.le_trans (length_le_of_spells hcs) ?_)
    rw [String.toList_append, htext, List.append_assoc, List.length_append]
    exact Nat.le_add_right ..
  rw [parse, tokenize, hfuel, String.toList_append, htext, List.append_assoc,
    tokenizeUpTo_of_spells hcs (spaced_words _) hends]
  cases hts : tokenizeUpTo fuel (space ++ tail.toList) with
  | none => rfl
  | some ts =>
    have hne : ts ≠ [] := by
      rintro rfl
      exact tokenizeUpTo_ne_nil hrest fuel hts
    exact ofTokens?_append (object members) hne

end RemoteStaking.Json
