import Mathlib.Algebra.GroupWithZero.Nat
import RemoteStaking.Transfer.Identifier

/-!
# `RemoteStaking.Proofs.Transfer.Grammar` — well-formed names, character by character

Names of ports, channels and tokens are checked in three passes of different kinds: for white space of any script, for
their length in bytes, and for their characters. What comes out is a grammar that knows characters alone. A name that
passes the last one has characters of one byte each and no white space, so for it bytes are characters and the first pass
is idle; and a name that does not is refused in any case.

## Contents
- **Characters.** `IsLetter`, `IsNumber`, `IsHex`, `InIdentifier`, `InDenom`, and that the tests are for them. `IsVisible`:
  all of these take one byte and are no white space.
- **Bytes.** `utf8ByteSize_of_narrow`: names of ASCII have as many bytes as characters.
- **Identifiers.** `Identifies`: their grammar, and `IdentifierKind.check_eq_ok_iff`. `IdentifierKind.Blames`: what is
  wrong first, and `IdentifierKind.check_eq_error_iff`.
- **Denominations.** `Denominates`: their grammar, and `isDenom_iff`.
-/

namespace RemoteStaking

/-! ## Characters -/

/-- A letter of ASCII. -/
def IsLetter (c : Char) : Prop :=
  ('a' ≤ c ∧ c ≤ 'z') ∨ ('A' ≤ c ∧ c ≤ 'Z')

/-- A digit of ASCII. -/
def IsNumber (c : Char) : Prop :=
  '0' ≤ c ∧ c ≤ '9'

/-- A hexadecimal digit of either case. -/
def IsHex (c : Char) : Prop :=
  IsNumber c ∨ ('a' ≤ c ∧ c ≤ 'f') ∨ ('A' ≤ c ∧ c ≤ 'F')

/-- A character of names of ports and channels. -/
def InIdentifier (c : Char) : Prop :=
  IsLetter c ∨ IsNumber c ∨ c ∈ ['.', '-', '_', '+', '#', '[', ']', '<', '>']

/-- A character of denominations. -/
def InDenom (c : Char) : Prop :=
  IsLetter c ∨ IsNumber c ∨ c ∈ ['/', ':', '.', '_', '-']

/-- A character that shows, of ASCII. -/
def IsVisible (c : Char) : Prop :=
  '!' ≤ c ∧ c ≤ '~'

instance (c : Char) : Decidable (IsVisible c) :=
  inferInstanceAs (Decidable ('!' ≤ c ∧ c ≤ '~'))

section Characters

variable {c : Char}

theorem isUpper_iff : c.isUpper = true ↔ 'A' ≤ c ∧ c ≤ 'Z' := by
  show decide ('A' ≤ c ∧ c ≤ 'Z') = true ↔ _
  exact decide_eq_true_iff

theorem isLower_iff : c.isLower = true ↔ 'a' ≤ c ∧ c ≤ 'z' := by
  show (decide ('a' ≤ c) && decide (c ≤ 'z')) = true ↔ _
  rw [Bool.and_eq_true, decide_eq_true_iff, decide_eq_true_iff]

theorem isAlpha_iff : c.isAlpha = true ↔ IsLetter c := by
  show (c.isUpper || c.isLower) = true ↔ _
  rw [Bool.or_eq_true, isUpper_iff, isLower_iff]
  exact or_comm

theorem isDigit_iff : c.isDigit = true ↔ IsNumber c := by
  simp [Char.isDigit, IsNumber, Char.le_def]

theorem isHexDigit_iff : isHexDigit c = true ↔ IsHex c := by
  simp [isHexDigit, IsHex, isDigit_iff, or_assoc]

theorem isIdentifierChar_iff : isIdentifierChar c = true ↔ InIdentifier c := by
  simp [isIdentifierChar, identifierSigns, InIdentifier, Char.isAlphanum, isAlpha_iff, isDigit_iff, or_assoc]

theorem isDenomChar_iff : isDenomChar c = true ↔ InDenom c := by
  simp [isDenomChar, denomSigns, InDenom, Char.isAlphanum, isAlpha_iff, isDigit_iff, or_assoc]

theorem IsLetter.isVisible (h : IsLetter c) : IsVisible c := by
  rcases h with ⟨hlow, hhigh⟩ | ⟨hlow, hhigh⟩
  · exact ⟨Char.le_trans (by decide) hlow, Char.le_trans hhigh (by decide)⟩
  · exact ⟨Char.le_trans (by decide) hlow, Char.le_trans hhigh (by decide)⟩

theorem IsNumber.isVisible (h : IsNumber c) : IsVisible c :=
  ⟨Char.le_trans (by decide) h.1, Char.le_trans h.2 (by decide)⟩

/-- Letters, numbers and signs are visible if the signs are. -/
theorem isVisible_of_signs {signs : List Char} (hsigns : signs.all (fun sign => IsVisible sign) = true)
    (h : IsLetter c ∨ IsNumber c ∨ c ∈ signs) : IsVisible c := by
  rcases h with hletter | hnumber | hsign
  · exact hletter.isVisible
  · exact hnumber.isVisible
  · exact of_decide_eq_true (List.all_eq_true.1 hsigns c hsign)

theorem InIdentifier.isVisible (h : InIdentifier c) : IsVisible c :=
  isVisible_of_signs (by decide) h

theorem InDenom.isVisible (h : InDenom c) : IsVisible c :=
  isVisible_of_signs (by decide) h

theorem IsVisible.utf8Size (h : IsVisible c) : c.utf8Size = 1 := by
  rw [Char.utf8Size_eq_one_iff]
  have hhigh : c.val ≤ '~'.val := h.2
  exact UInt32.le_trans hhigh (by decide)

theorem IsVisible.isBlank (h : IsVisible c) : isBlank c = false := by
  have hlow : 33 ≤ c.toNat := h.1
  have hhigh : c.toNat ≤ 126 := h.2
  simp only [RemoteStaking.isBlank, blankRanges, List.any_cons, List.any_nil, Bool.or_false, Bool.or_eq_false_iff,
    Bool.and_eq_false_iff, decide_eq_false_iff_not]
  omega

end Characters

/-! ## Bytes -/

/-- The bytes of a text are those of its characters. -/
theorem utf8ByteSize_eq_sum (s : String) : s.utf8ByteSize = (s.toList.map Char.utf8Size).sum := by
  have hlist (cs : List Char) : (String.ofList cs).utf8ByteSize = (cs.map Char.utf8Size).sum := by
    induction cs with
    | nil => rfl
    | cons c cs ih =>
      have hsplit : String.ofList (c :: cs) = String.singleton c ++ String.ofList cs := by
        rw [String.singleton_eq_ofList, ← String.ofList_append]
        rfl
      rw [hsplit, String.utf8ByteSize_append, String.utf8ByteSize_singleton, ih, List.map_cons, List.sum_cons]
  have hs := hlist s.toList
  rwa [String.ofList_toList] at hs

/-- A text of characters of one byte each has as many bytes as characters. -/
theorem utf8ByteSize_of_narrow {s : String} (h : ∀ c ∈ s.toList, c.utf8Size = 1) : s.utf8ByteSize = s.length := by
  have hsum (cs : List Char) (hcs : ∀ c ∈ cs, c.utf8Size = 1) : (cs.map Char.utf8Size).sum = cs.length := by
    induction cs with
    | nil => rfl
    | cons c cs ih =>
      rw [List.map_cons, List.sum_cons, hcs c List.mem_cons_self, ih fun d hd => hcs d (List.mem_cons_of_mem c hd),
        List.length_cons, Nat.add_comm]
  rw [utf8ByteSize_eq_sum, hsum s.toList h, String.length_toList]

/-! ## Identifiers -/

/-- The grammar of identifiers: so many characters, all of them fit for identifiers. -/
def Identifies (least most : Nat) (id : String) : Prop :=
  least ≤ id.length ∧ id.length ≤ most ∧ ∀ c ∈ id.toList, InIdentifier c

/-- Something in the text is no white space. -/
def IsWritten (s : String) : Prop :=
  ∃ c ∈ s.toList, isBlank c = false

theorem allBlank_eq_false_iff {s : String} : allBlank s = false ↔ IsWritten s := by
  simp [allBlank, IsWritten]

/-- What is wrong with an identifier first. -/
inductive IdentifierKind.Blames (kind : IdentifierKind) (id : String) : IdentifierFlaw → Prop where
  | blank (h : ¬ IsWritten id) : Blames kind id .blank
  | badLength (hwritten : IsWritten id) (h : id.utf8ByteSize < kind.least ∨ kind.most < id.utf8ByteSize) :
      Blames kind id (.badLength kind.least kind.most id.utf8ByteSize)
  | badCharacter (hwritten : IsWritten id) (hleast : kind.least ≤ id.utf8ByteSize) (hmost : id.utf8ByteSize ≤ kind.most)
      (h : ∃ c ∈ id.toList, ¬ InIdentifier c) : Blames kind id .badCharacter

section Identifiers

variable {kind : IdentifierKind} {id : String}

theorem isWritten_of_identifies {least most : Nat} (hleast : 0 < least) (h : Identifies least most id) : IsWritten id := by
  obtain ⟨hmin, -, hchars⟩ := h
  cases hid : id.toList with
  | nil =>
    have hzero : id.length = 0 := by rw [← String.length_toList, hid, List.length_nil]
    omega
  | cons c cs =>
    have hc : c ∈ id.toList := hid ▸ List.mem_cons_self
    exact ⟨c, hc, (hchars c hc).isVisible.isBlank⟩

theorem utf8ByteSize_of_identifiers (h : ∀ c ∈ id.toList, InIdentifier c) : id.utf8ByteSize = id.length :=
  utf8ByteSize_of_narrow fun c hc => (h c hc).isVisible.utf8Size

/-- A check of an identifier that fails says what is wrong first. -/
theorem IdentifierKind.check_of_blames {flaw : IdentifierFlaw} (h : kind.Blames id flaw) : kind.check id = .error flaw := by
  unfold IdentifierKind.check
  cases h with
  | blank h =>
    have hblank : allBlank id = true := by
      simpa using mt allBlank_eq_false_iff.1 h
    rw [if_pos hblank]
  | badLength hwritten h => rw [allBlank_eq_false_iff.2 hwritten, if_neg Bool.false_ne_true, if_pos h]
  | badCharacter hwritten hleast hmost h =>
    have hlength : ¬ (id.utf8ByteSize < kind.least ∨ kind.most < id.utf8ByteSize) := by omega
    have hchars : ¬ id.toList.all isIdentifierChar = true := by
      obtain ⟨c, hc, hbad⟩ := h
      intro hall
      exact hbad (isIdentifierChar_iff.1 (List.all_eq_true.1 hall c hc))
    rw [allBlank_eq_false_iff.2 hwritten, if_neg Bool.false_ne_true, if_neg hlength, if_neg hchars]

/-- The grammar is what the check lets pass. -/
theorem IdentifierKind.check_of_identifies (h : Identifies kind.least kind.most id) : kind.check id = .ok () := by
  have hpos : 0 < kind.least := by cases kind <;> decide
  have hwritten : IsWritten id := isWritten_of_identifies hpos h
  obtain ⟨hleast, hmost, hchars⟩ := h
  have hlength : ¬ (id.utf8ByteSize < kind.least ∨ kind.most < id.utf8ByteSize) := by
    rw [utf8ByteSize_of_identifiers hchars]
    omega
  have hall : id.toList.all isIdentifierChar = true :=
    List.all_eq_true.2 fun c hc => isIdentifierChar_iff.2 (hchars c hc)
  unfold IdentifierKind.check
  rw [allBlank_eq_false_iff.2 hwritten, if_neg Bool.false_ne_true, if_neg hlength, if_pos hall]

/-- An identifier is in the grammar, or something is wrong with it first. -/
theorem identifies_or_blames (kind : IdentifierKind) (id : String) :
    Identifies kind.least kind.most id ∨ ∃ flaw, kind.Blames id flaw := by
  by_cases hwritten : IsWritten id
  · by_cases hlength : id.utf8ByteSize < kind.least ∨ kind.most < id.utf8ByteSize
    · exact .inr ⟨_, .badLength hwritten hlength⟩
    · by_cases hchars : ∀ c ∈ id.toList, InIdentifier c
      · rw [utf8ByteSize_of_identifiers hchars] at hlength
        exact .inl ⟨by omega, by omega, hchars⟩
      · simp only [Classical.not_forall] at hchars
        obtain ⟨c, hc, hbad⟩ := hchars
        exact .inr ⟨_, .badCharacter hwritten (by omega) (by omega) ⟨c, hc, hbad⟩⟩
  · exact .inr ⟨_, .blank hwritten⟩

theorem IdentifierKind.check_eq_ok_iff : kind.check id = .ok () ↔ Identifies kind.least kind.most id := by
  constructor
  · intro h
    rcases identifies_or_blames kind id with hid | ⟨flaw, hflaw⟩
    · exact hid
    · rw [IdentifierKind.check_of_blames hflaw] at h
      cases h
  · exact IdentifierKind.check_of_identifies

theorem IdentifierKind.check_eq_error_iff {flaw : IdentifierFlaw} : kind.check id = .error flaw ↔ kind.Blames id flaw := by
  constructor
  · intro h
    rcases identifies_or_blames kind id with hid | ⟨flaw', hflaw⟩
    · rw [IdentifierKind.check_of_identifies hid] at h
      cases h
    · rw [IdentifierKind.check_of_blames hflaw] at h
      cases h
      exact hflaw
  · exact IdentifierKind.check_of_blames

end Identifiers

/-! ## Denominations -/

/-- The grammar of denominations: a letter and from 2 to 127 characters fit for denominations, where exactly 64
    hexadecimal digits follow if it begins like that of a voucher. -/
def Denominates (denom : String) : Prop :=
  (∃ c cs, denom.toList = c :: cs ∧ IsLetter c ∧ 2 ≤ cs.length ∧ cs.length ≤ 127 ∧ ∀ d ∈ cs, InDenom d) ∧
    ∀ digest : String, denom = "ibc/" ++ digest → digest.length = 64 ∧ ∀ d ∈ digest.toList, IsHex d

theorem voucherDigestOk_iff {cs : List Char} : voucherDigestOk cs = true ↔
    ∀ digest, cs = 'i' :: 'b' :: 'c' :: '/' :: digest → digest.length = 64 ∧ ∀ d ∈ digest, IsHex d := by
  unfold voucherDigestOk
  split
  · rename_i digest
    simp [isHexDigit_iff]
  · rename_i hother
    simp only [true_iff]
    intro digest hdigest
    exact (hother digest hdigest).elim

theorem voucherDigestOk_toList_iff {denom : String} : voucherDigestOk denom.toList = true ↔
    ∀ digest : String, denom = "ibc/" ++ digest → digest.length = 64 ∧ ∀ d ∈ digest.toList, IsHex d := by
  rw [voucherDigestOk_iff]
  constructor
  · intro h digest hdigest
    rw [← String.length_toList]
    apply h
    simp [hdigest]
  · intro h digest hdigest
    have hdenom : denom = "ibc/" ++ String.ofList digest := by
      apply String.toList_injective
      simp [hdigest]
    simpa using h (String.ofList digest) hdenom

theorem isDenom_iff {denom : String} : isDenom denom = true ↔ Denominates denom := by
  unfold Denominates
  rw [← voucherDigestOk_toList_iff]
  unfold isDenom
  cases hdenom : denom.toList with
  | nil => simp
  | cons c cs =>
    have hsize : IsLetter c → (∀ d ∈ cs, InDenom d) → denom.utf8ByteSize = cs.length + 1 := by
      intro hc hcs
      have hnarrow : ∀ d ∈ denom.toList, d.utf8Size = 1 := by
        rw [hdenom]
        intro d hd
        rcases List.mem_cons.1 hd with rfl | hd
        · exact hc.isVisible.utf8Size
        · exact (hcs d hd).isVisible.utf8Size
      rw [utf8ByteSize_of_narrow hnarrow, ← String.length_toList, hdenom, List.length_cons]
    simp only [Bool.and_eq_true, decide_eq_true_eq, isAlpha_iff, List.all_eq_true, isDenomChar_iff]
    constructor
    · rintro ⟨⟨⟨⟨hc, hleast⟩, hmost⟩, hcs⟩, hdigest⟩
      rw [hsize hc hcs] at hleast hmost
      exact ⟨⟨c, cs, rfl, hc, by omega, by omega, hcs⟩, hdigest⟩
    · rintro ⟨⟨c', cs', heq, hc, hleast, hmost, hcs⟩, hdigest⟩
      obtain ⟨rfl, rfl⟩ := List.cons.inj heq
      rw [hsize hc hcs]
      exact ⟨⟨⟨⟨hc, by omega⟩, by omega⟩, hcs⟩, hdigest⟩

end RemoteStaking
