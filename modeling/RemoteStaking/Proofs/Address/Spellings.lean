import RemoteStaking.Chain.Basic
import RemoteStaking.Proofs.Text.Hex

/-!
# `RemoteStaking.Proofs.Address.Spellings` — which texts name an account

An account is read from the bytes of a text: their number is looked at first, and then each of them. Forty bytes need not
be forty characters. But the first byte of a character that takes several is no digit, so of what is accepted every byte is
a character; and no digit is an `x`, so a mark in front is never taken for digits nor digits for a mark. What comes out are
the forty digits, of either case, with a mark or without, and the written form of an account is one of its spellings.

## Contents
- **Marks.** **`Address.Spelled`**: 40 digits, with a mark or without. `withoutMark_of_spelled`, `eq_mark_append`.
- **Reading.** `parse_eq_ok_iff`, `parse_of_spelled`, `message_of_parse_error`.
- **Writing.** `toHex_of_spells`, `parse_toHex`, `parse_eq_parse_iff`.
- **`Address.read_from_spellings`**.
-/

namespace RemoteStaking.Address

/-! ## Marks -/

/-- **A text is a spelling with some digits**: 40 of them, of either case, with a mark in front or without. -/
structure Spelled (text digits : String) : Prop where
  mark : text = digits ∨ text = "0x" ++ digits ∨ text = "0X" ++ digits
  length : digits.length = 40
  isHex : ∀ d ∈ digits.toList, IsHex d

theorem not_isHex_mark : ¬ IsHex 'x' ∧ ¬ IsHex 'X' := by
  constructor <;> rw [← isHexDigit_iff] <;> decide

/-- Digits have no mark that could be taken off. -/
theorem withoutMark_of_isHex {cs : List Char} (h : ∀ c ∈ cs, IsHex c) : withoutMark cs = cs := by
  unfold withoutMark
  split
  · exact absurd (h 'x' (by simp)) not_isHex_mark.1
  · exact absurd (h 'X' (by simp)) not_isHex_mark.2
  · rfl

theorem withoutMark_of_spelled {text digits : String} (h : Spelled text digits) :
    withoutMark text.toList = digits.toList := by
  obtain ⟨rfl | rfl | rfl, -, hhex⟩ := h
  · exact withoutMark_of_isHex hhex
  · rw [String.toList_append]
    rfl
  · rw [String.toList_append]
    rfl

/-- What is left of a text is behind one of the marks, or there was none. -/
theorem eq_mark_append (text : String) : text = String.ofList (withoutMark text.toList) ∨
    text = "0x" ++ String.ofList (withoutMark text.toList) ∨
    text = "0X" ++ String.ofList (withoutMark text.toList) := by
  have hmark (cs : List Char) : cs = withoutMark cs ∨ cs = "0x".toList ++ withoutMark cs ∨
      cs = "0X".toList ++ withoutMark cs := by
    unfold withoutMark
    split
    · exact .inr (.inl rfl)
    · exact .inr (.inr rfl)
    · exact .inl rfl
  simp only [← String.toList_inj, String.toList_append, String.toList_ofList]
  exact hmark text.toList

/-! ## Reading -/

section Reading

variable {text digits : String} {a : Address} {e : AddressError}

/-- The account is made of the bytes that the digits behind the mark spell. -/
theorem parse_eq_ok_iff_spells : parse text = .ok a ↔ Hex.Spells (withoutMark text.toList) a.bytes := by
  have hread {ns : List Hex.Nibble} (hns : Hex.nibblesFrom 0 (Utf8.encode (withoutMark text.toList)) = .ok ns) :
      (Utf8.encode (withoutMark text.toList)).length = ns.length :=
    (Hex.length_of_nibblesFrom hns).symm
  rw [Hex.spells_iff, ← Hex.nibblesFrom_encode_iff 0]
  unfold parse
  simp only
  split
  · rename_i hlength
    split
    · rename_i bad hbad
      simp [hbad]
    · rename_i ns hns
      have hpairs : Hex.unpack (Hex.pack ns) = ns := Hex.unpack_pack (by rw [← hread hns, hlength])
      constructor
      · intro h
        cases h
        rw [hpairs]
        exact hns
      · intro h
        obtain rfl : ns = Hex.unpack a.bytes := Except.ok.inj (hns.symm.trans h)
        simp
  · rename_i hlength
    constructor
    · nofun
    · intro h
      have h40 := hread h
      rw [Hex.length_unpack, a.length_bytes] at h40
      exact absurd h40 hlength

/-- **Accounts are read from spellings**, and are made of the bytes that the digits spell. -/
theorem parse_eq_ok_iff : parse text = .ok a ↔ ∃ digits, Spelled text digits ∧ Hex.Spells digits.toList a.bytes := by
  rw [parse_eq_ok_iff_spells]
  constructor
  · intro h
    obtain ⟨hlength, hhex⟩ := Hex.exists_spells_iff.1 ⟨a.bytes, h, a.length_bytes⟩
    refine ⟨String.ofList (withoutMark text.toList), ⟨eq_mark_append text, ?_, ?_⟩, ?_⟩
    · rw [String.length_ofList, hlength]
    · rwa [String.toList_ofList]
    · rwa [String.toList_ofList]
  · rintro ⟨digits, hspelled, hdigits⟩
    rwa [withoutMark_of_spelled hspelled]

theorem parse_of_spelled (h : Spelled text digits) : ∃ a, parse text = .ok a ∧ Hex.Spells digits.toList a.bytes := by
  obtain ⟨bs, hbs, hlength⟩ := Hex.exists_spells_iff.2 ⟨(String.length_toList.trans h.length : _ = 2 * 20), h.isHex⟩
  exact ⟨⟨bs, hlength⟩, parse_eq_ok_iff.2 ⟨digits, h, hbs⟩, hbs⟩

/-- What is wrong with a text is said after the whole text. -/
theorem message_of_parse_error (h : parse text = .error e) :
    ∃ detail, e.message = "Generic error: invalid address `" ++ text ++ "`: " ++ detail := by
  have hcount : "`: expected 40 hex characters, got " = "`: " ++ "expected 40 hex characters, got " := by decide
  have hdigit : "`: Invalid character " = "`: " ++ "Invalid character " := by decide
  have hassoc (front first rest behind : String) : front ++ (first ++ rest) ++ behind =
      front ++ first ++ (rest ++ behind) := by
    rw [String.append_assoc, String.append_assoc, String.append_assoc]
  unfold parse at h
  simp only at h
  split at h
  · split at h
    · rename_i bad _
      obtain rfl := Except.error.inj h
      have hmessage : (AddressError.badDigit text bad).message = "Generic error: invalid address `" ++ text ++
          ("`: " ++ "Invalid character ") ++ (quotedLatin1 bad.byte ++ " at position " ++ toString bad.position) := by
        rw [← hdigit, ← String.append_assoc, ← String.append_assoc]
        rfl
      exact ⟨_, hmessage.trans (hassoc ..)⟩
    · cases h
  · obtain rfl := Except.error.inj h
    have hmessage (found : Nat) : (AddressError.wrongLength text found).message =
        "Generic error: invalid address `" ++ text ++ ("`: " ++ "expected 40 hex characters, got ") ++
          toString found := by
      rw [← hcount]
      rfl
    exact ⟨_, (hmessage _).trans (hassoc ..)⟩

end Reading

/-! ## Writing -/

theorem toList_toLower (s : String) : s.toLower.toList = s.toList.map Char.toLower :=
  String.toList_map

theorem toHex_of_spells {a : Address} {digits : String} (h : Hex.Spells digits.toList a.bytes) :
    a.toHex = "0x" ++ digits.toLower := by
  rw [toHex, Hex.encode_of_spells h, ← toList_toLower, String.ofList_toList]

theorem spelled_toHex (a : Address) : Spelled a.toHex (Hex.encode a.bytes) := by
  obtain ⟨hlength, hhex⟩ := Hex.exists_spells_iff.1 ⟨a.bytes, Hex.spells_encode a.bytes, a.length_bytes⟩
  exact ⟨.inr (.inl rfl), String.length_toList.symm.trans hlength, hhex⟩

/-- **What is written is read back.** -/
theorem parse_toHex (a : Address) : parse a.toHex = .ok a :=
  parse_eq_ok_iff.2 ⟨_, spelled_toHex a, Hex.spells_encode a.bytes⟩

theorem toHex_inj {a b : Address} (h : a.toHex = b.toHex) : a = b := by
  have hread := parse_toHex a
  rw [h, parse_toHex] at hread
  exact (Except.ok.inj hread).symm

/-- Two spellings are of one account if and only if their digits are the same up to case. -/
theorem parse_eq_parse_iff {text text' digits digits' : String} (h : Spelled text digits) (h' : Spelled text' digits') :
    parse text = parse text' ↔ digits.toLower = digits'.toLower := by
  obtain ⟨a, ha, hbytes⟩ := parse_of_spelled h
  obtain ⟨a', ha', hbytes'⟩ := parse_of_spelled h'
  have hhex := toHex_of_spells hbytes
  have hhex' := toHex_of_spells hbytes'
  rw [ha, ha']
  constructor
  · rintro heq
    cases heq
    rw [hhex] at hhex'
    exact (String.append_right_inj "0x").1 hhex'
  · intro heq
    rw [← heq, ← hhex] at hhex'
    rw [toHex_inj hhex']

/-- **Accounts are read from their spellings.** A text names an account if and only if it is 40 hexadecimal digits of
    either case, behind `0x`, `0X` or nothing; any other is refused with an error that says so of the text. The bytes of
    the account are the pairs of digits in order, and it is written as `0x` and the digits in lower case, from which it is
    read back. So the contracts of two registered tokens are the same if and only if their spellings agree up to case and
    mark. -/
theorem read_from_spellings :
    (∀ text, (∃ a, parse text = .ok a) ↔ ∃ digits, Spelled text digits) ∧
    (∀ text, (¬ ∃ digits, Spelled text digits) →
      ∃ e detail, parse text = .error e ∧
        e.message = "Generic error: invalid address `" ++ text ++ "`: " ++ detail) ∧
    (∀ text digits a, Spelled text digits → parse text = .ok a →
      Hex.Spells digits.toList a.bytes ∧ a.toHex = "0x" ++ digits.toLower) ∧
    (∀ a, parse a.toHex = .ok a) ∧
    ∀ (pair pair' : TokenPair) digits digits', Spelled pair.contract digits → Spelled pair'.contract digits' →
      (pair.address = pair'.address ↔ digits.toLower = digits'.toLower) := by
  have hsome (text : String) : (∃ a, parse text = .ok a) ↔ ∃ digits, Spelled text digits := by
    constructor
    · rintro ⟨a, ha⟩
      obtain ⟨digits, hspelled, -⟩ := parse_eq_ok_iff.1 ha
      exact ⟨digits, hspelled⟩
    · rintro ⟨digits, hspelled⟩
      obtain ⟨a, ha, -⟩ := parse_of_spelled hspelled
      exact ⟨a, ha⟩
  refine ⟨hsome, fun text hnone => ?_, fun text digits a hspelled ha => ?_, parse_toHex,
    fun pair pair' digits digits' => parse_eq_parse_iff⟩
  · cases hparse : parse text with
    | ok a => exact absurd ((hsome text).1 ⟨a, hparse⟩) hnone
    | error e =>
      obtain ⟨detail, hmessage⟩ := message_of_parse_error hparse
      exact ⟨e, detail, rfl, hmessage⟩
  · obtain ⟨a', ha', hbytes⟩ := parse_of_spelled hspelled
    obtain rfl : a = a' := Except.ok.inj (ha.symm.trans ha')
    exact ⟨hbytes, toHex_of_spells hbytes⟩

/-- The account of 18 zeros and two other bytes. -/
def deadAccount : Address :=
  ⟨List.replicate 18 0 ++ [0xde, 0xad], by decide⟩

theorem isHex_of_all {digits : String} (h : digits.toList.all isHexDigit = true) : ∀ d ∈ digits.toList, IsHex d :=
  fun d hd => isHexDigit_iff.1 (List.all_eq_true.1 h d hd)

/-- Its digits in mixed case behind a capital mark, and in capitals without a mark, register the same contract; twenty
    characters of two bytes each register none. -/
theorem deadSpellings_read :
    Spelled "0X000000000000000000000000000000000000dEaD" "000000000000000000000000000000000000dEaD" ∧
    Spelled "000000000000000000000000000000000000DEAD" "000000000000000000000000000000000000DEAD" ∧
    parse "0X000000000000000000000000000000000000dEaD" = .ok deadAccount ∧
    deadAccount.toHex = "0x" ++ "000000000000000000000000000000000000dEaD".toLower ∧
    (TokenPair.mk "0X000000000000000000000000000000000000dEaD" "uosmo").address =
      (TokenPair.mk "000000000000000000000000000000000000DEAD" "uosmo").address ∧
    (¬ ∃ digits, Spelled "éééééééééééééééééééé" digits) ∧
    ∃ e, parse "éééééééééééééééééééé" = .error e := by
  have hmixed : Spelled "0X000000000000000000000000000000000000dEaD" "000000000000000000000000000000000000dEaD" :=
    ⟨.inr (.inr (by decide)), by decide, isHex_of_all (by decide)⟩
  have hcapitals : Spelled "000000000000000000000000000000000000DEAD" "000000000000000000000000000000000000DEAD" :=
    ⟨.inl rfl, by decide, isHex_of_all (by decide)⟩
  have hparse : parse "0X000000000000000000000000000000000000dEaD" = .ok deadAccount := rfl
  obtain ⟨hsome, herror, hok, -, hpairs⟩ := read_from_spellings
  have hwide : ¬ ∃ digits, Spelled "éééééééééééééééééééé" digits := by
    rw [← hsome]
    rintro ⟨a, ha⟩
    have hfails : (parse "éééééééééééééééééééé").toOption = none := by decide
    rw [ha] at hfails
    cases hfails
  obtain ⟨e, -, he, -⟩ := herror _ hwide
  have hlower : "000000000000000000000000000000000000dEaD".toLower =
      "000000000000000000000000000000000000DEAD".toLower := by
    apply String.toList_injective
    rw [toList_toLower, toList_toLower]
    decide
  have hsame := (hpairs ⟨"0X000000000000000000000000000000000000dEaD", "uosmo"⟩
    ⟨"000000000000000000000000000000000000DEAD", "uosmo"⟩ _ _ hmixed hcapitals).2 hlower
  exact ⟨hmixed, hcapitals, hparse, (hok _ _ _ hmixed hparse).2, hsame, hwide, e, he⟩

end RemoteStaking.Address
