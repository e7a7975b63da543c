import RemoteStaking.Json.Text

/-!
# `RemoteStaking.Proofs.Json.Strings` — a text comes back from between the quotes

Between quotes a character can be written in several ways, and a text of many characters in any mixture of them.
However it is written, reading stops at the quote that was put behind it, and what was read is the text.

## Contents
- **`Body`**: what may stand between quotes, and the units that it spells. `scanBody_of_body`: these are the units read.
- **`Units`**: the text that units spell, with pairs of surrogates for characters beyond U+FFFF.
  `joinUnits_of_units`, `units_of_joinUnits`: this is the text that they are put together to, or there is none.
- **Writing.** `body_escape`, `units_toNat`: a text that was written stands between quotes, and its units spell it.
-/

namespace RemoteStaking.Json

/-! ## What stands between quotes -/

/-- The letters that stand for a character behind a backslash, each with its character. -/
def letters : List (Char × Char) :=
  [('"', '"'), ('\\', '\\'), ('/', '/'), ('b', '\x08'), ('f', '\x0c'), ('n', '\n'), ('r', '\r'), ('t', '\t')]

/-- The hexadecimal digit of a number, in lower case or in upper case. -/
def IsHexDigit (n : Nat) (c : Char) : Prop :=
  n < 16 ∧ (c = n.digitChar ∨ c = n.digitChar.toUpper)

/-- **What may stand between quotes**, with the units that it spells: a character for itself, or behind a backslash a
    letter or four digits. -/
inductive Body : List Nat → List Char → Prop where
  | nil : Body [] []
  | plain {c : Char} {us : List Nat} {cs : List Char} (hquote : c ≠ '"') (hslash : c ≠ '\\')
      (hcontrol : ¬ c.toNat < 0x20) (h : Body us cs) : Body (c.toNat :: us) (c :: cs)
  | letter {e c : Char} {us : List Nat} {cs : List Char} (hletter : (e, c) ∈ letters) (h : Body us cs) :
      Body (c.toNat :: us) ('\\' :: e :: cs)
  | digits {k l m n : Nat} {a b c d : Char} {us : List Nat} {cs : List Char} (ha : IsHexDigit k a)
      (hb : IsHexDigit l b) (hc : IsHexDigit m c) (hd : IsHexDigit n d) (h : Body us cs) :
      Body ((k * 4096 + l * 256 + m * 16 + n) :: us) ('\\' :: 'u' :: a :: b :: c :: d :: cs)

theorem escaped?_of_letter {e c : Char} (h : (e, c) ∈ letters) : escaped? e = some c := by
  have hall : ∀ p ∈ letters, escaped? p.1 = some p.2 := by decide
  exact hall (e, c) h

theorem nibbleOfChar?_of_isHexDigit {n : Nat} {c : Char} (h : IsHexDigit n c) :
    ∃ nibble, Hex.nibbleOfChar? c = some nibble ∧ nibble.val = n := by
  have hlower : ∀ n : Fin 16, Hex.nibbleOfChar? n.val.digitChar = some n := by decide
  have hupper : ∀ n : Fin 16, Hex.nibbleOfChar? n.val.digitChar.toUpper = some n := by decide
  obtain ⟨hn, rfl | rfl⟩ := h
  · exact ⟨⟨n, hn⟩, hlower ⟨n, hn⟩, rfl⟩
  · exact ⟨⟨n, hn⟩, hupper ⟨n, hn⟩, rfl⟩

theorem unit?_of_isHexDigit {k l m n : Nat} {a b c d : Char} (ha : IsHexDigit k a) (hb : IsHexDigit l b)
    (hc : IsHexDigit m c) (hd : IsHexDigit n d) : unit? a b c d = some (k * 4096 + l * 256 + m * 16 + n) := by
  obtain ⟨_, ha', rfl⟩ := nibbleOfChar?_of_isHexDigit ha
  obtain ⟨_, hb', rfl⟩ := nibbleOfChar?_of_isHexDigit hb
  obtain ⟨_, hc', rfl⟩ := nibbleOfChar?_of_isHexDigit hc
  obtain ⟨_, hd', rfl⟩ := nibbleOfChar?_of_isHexDigit hd
  simp only [unit?, ha', hb', hc', hd']

theorem scanBody_unit {a b c d : Char} {u : Nat} (h : unit? a b c d = some u) (rest : List Char) :
    scanBody ('\\' :: 'u' :: a :: b :: c :: d :: rest) = consUnit u (scanBody rest) := by
  rw [scanBody, h]

theorem scanBody_escaped {c e : Char} (h : escaped? c = some e) (rest : List Char) :
    scanBody ('\\' :: c :: rest) = consUnit e.toNat (scanBody rest) := by
  rw [scanBody, h]
  rintro a b c' d rest' rfl
  cases h

theorem scanBody_plain {c : Char} (hquote : c ≠ '"') (hslash : c ≠ '\\') (hcontrol : ¬ c.toNat < 0x20)
    (rest : List Char) : scanBody (c :: rest) = consUnit c.toNat (scanBody rest) := by
  rw [scanBody, if_neg]
  · rintro (h | h)
    · exact hslash h
    · exact hcontrol h
  · exact hquote
  · intro _ _ _ _ _ h
    exact absurd h hslash
  · intro _ _ h
    exact absurd h hslash

/-- **A text ends where it was made to end.** Up to the closing quote its units are read. -/
theorem scanBody_of_body {us : List Nat} {body : List Char} (h : Body us body) (rest : List Char) :
    scanBody (body ++ '"' :: rest) = some (us, rest) := by
  induction h with
  | nil => rfl
  | plain hquote hslash hcontrol _ ih =>
    rw [List.cons_append, scanBody_plain hquote hslash hcontrol, ih]
    rfl
  | letter hletter _ ih =>
    rw [List.cons_append, List.cons_append, scanBody_escaped (escaped?_of_letter hletter), ih]
    rfl
  | digits ha hb hc hd _ ih =>
    simp only [List.cons_append]
    rw [scanBody_unit (unit?_of_isHexDigit ha hb hc hd), ih]
    rfl

theorem lt_codePoints (c : Char) : c.toNat < 0x110000 := by
  have hvalid : c.toNat < 0xD800 ∨ 0xDFFF < c.toNat ∧ c.toNat < 0x110000 := c.valid
  omega

/-- A unit is a code point, or has sixteen bits. -/
theorem lt_of_body {us : List Nat} {body : List Char} (h : Body us body) : ∀ u ∈ us, u < 0x110000 := by
  induction h with
  | nil => exact fun _ hu => absurd hu List.not_mem_nil
  | plain _ _ _ _ ih => exact List.forall_mem_cons.2 ⟨lt_codePoints _, ih⟩
  | letter _ _ ih => exact List.forall_mem_cons.2 ⟨lt_codePoints _, ih⟩
  | digits ha hb hc hd _ ih =>
    obtain ⟨ha, -⟩ := ha
    obtain ⟨hb, -⟩ := hb
    obtain ⟨hc, -⟩ := hc
    obtain ⟨hd, -⟩ := hd
    exact List.forall_mem_cons.2 ⟨by omega, ih⟩

/-! ## What units spell -/

/-- The first half of the pair of surrogates for a character beyond U+FFFF. -/
def highHalf (c : Char) : Nat := 0xD800 + (c.toNat - 0x10000) / 0x400

/-- The second half of the pair. -/
def lowHalf (c : Char) : Nat := 0xDC00 + (c.toNat - 0x10000) % 0x400

/-- **The text that units spell**: each character by its code point, or beyond U+FFFF by the two halves of its pair. -/
inductive Units : List Nat → List Char → Prop where
  | nil : Units [] []
  | one {c : Char} {us : List Nat} {cs : List Char} (h : Units us cs) : Units (c.toNat :: us) (c :: cs)
  | pair {c : Char} {us : List Nat} {cs : List Char} (hc : 0xFFFF < c.toNat) (h : Units us cs) :
      Units (highHalf c :: lowHalf c :: us) (c :: cs)

/-- No character is half of a pair of surrogates. -/
theorem not_surrogate (c : Char) : isHighSurrogate c.toNat = false ∧ isLowSurrogate c.toNat = false := by
  have hvalid : c.toNat < 0xD800 ∨ 0xDFFF < c.toNat ∧ c.toNat < 0x110000 := c.valid
  unfold isHighSurrogate isLowSurrogate
  constructor
  · rw [Bool.and_eq_false_iff, decide_eq_false_iff_not, decide_eq_false_iff_not]
    omega
  · rw [Bool.and_eq_false_iff, decide_eq_false_iff_not, decide_eq_false_iff_not]
    omega

theorem isHighSurrogate_iff {u : Nat} : isHighSurrogate u = true ↔ 0xD800 ≤ u ∧ u < 0xDC00 := by
  rw [isHighSurrogate, Bool.and_eq_true, decide_eq_true_eq, decide_eq_true_eq]

theorem isLowSurrogate_iff {u : Nat} : isLowSurrogate u = true ↔ 0xDC00 ≤ u ∧ u < 0xE000 := by
  rw [isLowSurrogate, Bool.and_eq_true, decide_eq_true_eq, decide_eq_true_eq]

/-- The halves of a pair are put together to its character. -/
theorem joinUnits_pair {c : Char} (hc : 0xFFFF < c.toNat) (us : List Nat) :
    joinUnits (highHalf c :: lowHalf c :: us) = (joinUnits us).map (c :: ·) := by
  have hvalid : c.toNat < 0xD800 ∨ 0xDFFF < c.toNat ∧ c.toNat < 0x110000 := c.valid
  have hhigh : isHighSurrogate (highHalf c) = true := isHighSurrogate_iff.2 (by unfold highHalf; omega)
  have hlow : isLowSurrogate (lowHalf c) = true := isLowSurrogate_iff.2 (by unfold lowHalf; omega)
  have hcode : 0x10000 + (highHalf c - 0xD800) * 0x400 + (lowHalf c - 0xDC00) = c.toNat := by
    unfold highHalf lowHalf
    omega
  rw [joinUnits.eq_def]
  simp only [hhigh, hlow, if_true, hcode, Char.ofNat_toNat]

theorem joinUnits_one (c : Char) (us : List Nat) : joinUnits (c.toNat :: us) = (joinUnits us).map (c :: ·) := by
  obtain ⟨hhigh, hlow⟩ := not_surrogate c
  rw [joinUnits.eq_def]
  simp only [hhigh, hlow, Bool.false_eq_true, if_false, Char.ofNat_toNat]

theorem joinUnits_of_units {us : List Nat} {cs : List Char} (h : Units us cs) : joinUnits us = some cs := by
  induction h with
  | nil => rfl
  | one _ ih =>
    rw [joinUnits_one, ih]
    rfl
  | pair hc _ ih =>
    rw [joinUnits_pair hc, ih]
    rfl

/-- A code point that is half of no pair is that of a character. -/
theorem toNat_ofNat {n : Nat} (h : n < 0xD800 ∨ 0xDFFF < n ∧ n < 0x110000) : (Char.ofNat n).toNat = n := by
  rw [Char.ofNat, dif_pos h]
  rfl

/-- Any first half and second half are those of a character. -/
theorem units_pair {u v : Nat} (hhigh : isHighSurrogate u = true) (hlow : isLowSurrogate v = true) {us : List Nat}
    {cs : List Char} (h : Units us cs) :
    Units (u :: v :: us) (Char.ofNat (0x10000 + (u - 0xD800) * 0x400 + (v - 0xDC00)) :: cs) := by
  rw [isHighSurrogate_iff] at hhigh
  rw [isLowSurrogate_iff] at hlow
  obtain ⟨code, hcode⟩ : ∃ code, code = 0x10000 + (u - 0xD800) * 0x400 + (v - 0xDC00) := ⟨_, rfl⟩
  have hchar : (Char.ofNat code).toNat = code := toNat_ofNat (by omega)
  have hu : highHalf (Char.ofNat code) = u := by
    rw [highHalf, hchar]
    omega
  have hv : lowHalf (Char.ofNat code) = v := by
    rw [lowHalf, hchar]
    omega
  have hpair := Units.pair (c := Char.ofNat code) (by rw [hchar]; omega) h
  rwa [hu, hv, hcode] at hpair

/-- **Units that are put together spell what they are put together to.** -/
theorem units_of_joinUnits {us : List Nat} (hus : ∀ u ∈ us, u < 0x110000) {cs : List Char}
    (h : joinUnits us = some cs) : Units us cs := by
  fun_induction joinUnits us generalizing cs with
  | case1 =>
    cases h
    exact .nil
  | case2 u hhigh v rest hlow ih =>
    obtain ⟨cs', hcs', rfl⟩ := Option.map_eq_some_iff.1 h
    have hrest : Units rest cs' := ih (fun w hw => hus w (List.mem_cons_of_mem _ (List.mem_cons_of_mem _ hw))) hcs'
    exact units_pair hhigh hlow hrest
  | case3 => cases h
  | case4 => cases h
  | case5 => cases h
  | case6 u us hhigh hlow ih =>
    obtain ⟨cs', hcs', rfl⟩ := Option.map_eq_some_iff.1 h
    have hrest : Units us cs' := ih (fun w hw => hus w (List.mem_cons_of_mem _ hw)) hcs'
    have hone := Units.one (c := Char.ofNat u) hrest
    have hu := hus u List.mem_cons_self
    rw [isHighSurrogate_iff] at hhigh
    rw [isLowSurrogate_iff] at hlow
    rwa [toNat_ofNat (by omega)] at hone

/-! ## Writing -/

/-- A character is written behind a backslash by a letter of its own, or by the four digits of its code, or it stands
    for itself. -/
theorem escapeChar_cases (c : Char) :
    (∃ e, escapeChar c = ['\\', e] ∧ (e, c) ∈ letters) ∨
      (c.toNat < 0x20 ∧ escapeChar c = '\\' :: 'u' :: unitDigits c.toNat) ∨
      (c ≠ '"' ∧ c ≠ '\\' ∧ ¬ c.toNat < 0x20 ∧ escapeChar c = [c]) := by
  unfold escapeChar
  by_cases hquote : c = '"'
  · subst hquote
    exact .inl ⟨'"', rfl, by decide⟩
  rw [if_neg hquote]
  by_cases hslash : c = '\\'
  · subst hslash
    exact .inl ⟨'\\', rfl, by decide⟩
  rw [if_neg hslash]
  -- the control characters that have a letter
  iterate 5
    split
    · subst c
      exact .inl ⟨_, rfl, by decide⟩
  split
  · rename_i hcontrol
    exact .inr (.inl ⟨hcontrol, rfl⟩)
  · rename_i hcontrol
    exact .inr (.inr ⟨hquote, hslash, hcontrol, rfl⟩)

/-- A character, as it is written, stands for itself. -/
theorem body_escapeChar (c : Char) {us : List Nat} {cs : List Char} (h : Body us cs) :
    Body (c.toNat :: us) (escapeChar c ++ cs) := by
  rcases escapeChar_cases c with ⟨e, heq, he⟩ | ⟨hcontrol, heq⟩ | ⟨hquote, hslash, hcontrol, heq⟩
  · rw [heq]
    exact .letter he h
  · have digit (m : Nat) : IsHexDigit (m % 16) (Nat.digitChar (m % 16)) := ⟨Nat.mod_lt _ (by decide), .inl rfl⟩
    have hbody := Body.digits (digit (c.toNat / 4096)) (digit (c.toNat / 256)) (digit (c.toNat / 16)) (digit c.toNat) h
    have hcode : c.toNat / 4096 % 16 * 4096 + c.toNat / 256 % 16 * 256 + c.toNat / 16 % 16 * 16 + c.toNat % 16 =
        c.toNat := by
      omega
    rw [hcode] at hbody
    rw [heq]
    exact hbody
  · rw [heq]
    exact .plain hquote hslash hcontrol h

theorem body_escape (cs : List Char) : Body (cs.map Char.toNat) (escape cs) := by
  induction cs with
  | nil => exact .nil
  | cons c cs ih => exact body_escapeChar c ih

theorem units_toNat (cs : List Char) : Units (cs.map Char.toNat) cs := by
  induction cs with
  | nil => exact .nil
  | cons c cs ih => exact .one ih

end RemoteStaking.Json
