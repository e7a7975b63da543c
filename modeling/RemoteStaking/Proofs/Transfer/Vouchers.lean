import RemoteStaking.Proofs.Transfer.Grammar
import RemoteStaking.Voucher

/-!
# `RemoteStaking.Proofs.Transfer.Vouchers` — vouchers have well-formed denominations, made from unambiguous paths

A digest has 32 bytes whatever it is of, and a byte is written in two digits. So the denomination of a voucher is in the
grammar of denominations, whatever the way of the token and its base denomination are.

What is digested is a text in which a base denomination, with any slashes it may have, stands behind two slashes more. No
identifier has a slash, so the first two are the ones that were put there, and the text can be taken apart again.

## Contents
- **Digits.** `Hex.length_encodeUpper`, `Hex.isHex_of_mem_encodeUpper`.
- **Denominations.** `denominates_digest`, **`Voucher.denominates_denom`**.
- **Paths.** `Identifies.no_slash`, `Voucher.toList_fullPath_ofRoute`, **`Voucher.fullPath_ofRoute_inj`**.
-/

namespace RemoteStaking

/-! ## Digits -/

theorem Hex.isHex_upperDigit (n : Hex.Nibble) : IsHex (Hex.upperDigit n) := by
  have hall : ∀ n : Hex.Nibble, isHexDigit (Hex.upperDigit n) = true := by decide
  exact isHexDigit_iff.1 (hall n)

theorem Hex.length_encodeUpper (bs : List UInt8) : (Hex.encodeUpper bs).length = 2 * bs.length := by
  rw [Hex.encodeUpper, String.length_ofList, List.length_map, Hex.length_unpack]

theorem Hex.isHex_of_mem_encodeUpper {bs : List UInt8} {c : Char} (h : c ∈ (Hex.encodeUpper bs).toList) : IsHex c := by
  rw [Hex.encodeUpper, String.toList_ofList] at h
  obtain ⟨n, -, rfl⟩ := List.mem_map.1 h
  exact Hex.isHex_upperDigit n

/-! ## Denominations -/

theorem IsHex.inDenom {c : Char} (h : IsHex c) : InDenom c := by
  rcases h with hnumber | ⟨hlow, hhigh⟩ | ⟨hlow, hhigh⟩
  · exact .inr (.inl hnumber)
  · exact .inl (.inl ⟨hlow, Char.le_trans hhigh (by decide)⟩)
  · exact .inl (.inr ⟨hlow, Char.le_trans hhigh (by decide)⟩)

/-- 64 digits after `ibc/` are a denomination. -/
theorem denominates_digest {digest : String} (hlength : digest.length = 64) (hdigits : ∀ c ∈ digest.toList, IsHex c) :
    Denominates ("ibc/" ++ digest) := by
  have hsize : digest.toList.length = 64 := by rw [String.length_toList, hlength]
  constructor
  · refine ⟨'i', 'b' :: 'c' :: '/' :: digest.toList, by simp, .inl (by decide), ?_, ?_, ?_⟩
    · simp
    · simp only [List.length_cons, hsize]
      decide
    · intro c hc
      simp only [List.mem_cons] at hc
      rcases hc with rfl | rfl | rfl | hc
      · exact .inl (.inl (by decide))
      · exact .inl (.inl (by decide))
      · exact .inr (.inr (by decide))
      · exact (hdigits c hc).inDenom
  · -- what follows the four characters is the one thing that can follow them
    intro digest' heq
    obtain rfl : digest = digest' := by simpa using heq
    exact ⟨hlength, hdigits⟩

/-- A voucher that came over some way is named by the digest of its full path. -/
theorem Voucher.denom_of_path {v : Voucher} (h : v.path ≠ "") :
    v.denom = "ibc/" ++ Hex.encodeUpper (Hash.sha256 (utf8 v.fullPath)) := by
  have hway : ¬ v.path.isEmpty = true := by simpa using h
  rw [denom, if_neg hway]

/-- **A voucher that came over some way** has a denomination, whatever the way and the base denomination are. -/
theorem Voucher.denominates_denom {v : Voucher} (h : v.path ≠ "") : Denominates v.denom := by
  rw [Voucher.denom_of_path h]
  apply denominates_digest
  · rw [Hex.length_encodeUpper, Hash.length_sha256]
  · exact fun c hc => Hex.isHex_of_mem_encodeUpper hc

/-- What comes over a route comes over some way. -/
theorem Voucher.path_ofRoute_ne_empty (route : Route) (baseDenom : String) : (Voucher.ofRoute route baseDenom).path ≠ "" := by
  intro h
  have hlist := congrArg String.toList h
  simp [Voucher.ofRoute, Route.toText] at hlist

/-! ## Paths -/

theorem InIdentifier.ne_slash {c : Char} (h : InIdentifier c) : c ≠ '/' := by
  rintro rfl
  have hslash : isIdentifierChar '/' = false := by decide
  rw [isIdentifierChar_iff.2 h] at hslash
  cases hslash

theorem Identifies.no_slash {least most : Nat} {id : String} (h : Identifies least most id) : '/' ∉ id.toList := by
  obtain ⟨-, -, hchars⟩ := h
  exact fun hmem => (hchars '/' hmem).ne_slash rfl

/-- Two texts that are equal are the same up to the first slash, and behind it. -/
theorem eq_and_eq_of_append_slash {xs xs' ys ys' : List Char} (h : '/' ∉ xs) (h' : '/' ∉ xs')
    (heq : xs ++ '/' :: ys = xs' ++ '/' :: ys') : xs = xs' ∧ ys = ys' := by
  induction xs generalizing xs' with
  | nil =>
    cases xs' with
    | nil => exact ⟨rfl, (List.cons.inj heq).2⟩
    | cons x xs' => exact absurd (List.mem_cons.2 (.inl (List.cons.inj heq).1)) h'
  | cons x xs ih =>
    cases xs' with
    | nil => exact absurd (List.mem_cons.2 (.inl (List.cons.inj heq).1.symm)) h
    | cons x' xs' =>
      obtain ⟨rfl, htail⟩ := List.cons.inj heq
      obtain ⟨rfl, hys⟩ := ih (mt (List.mem_cons_of_mem x) h) (mt (List.mem_cons_of_mem x) h') htail
      exact ⟨rfl, hys⟩

/-- The port, the channel and the base denomination, with a slash after each of the first two. -/
theorem Voucher.toList_fullPath_ofRoute (route : Route) (baseDenom : String) : (ofRoute route baseDenom).fullPath.toList =
    route.port.toList ++ '/' :: (route.channel.toList ++ '/' :: baseDenom.toList) := by
  have hway : ¬ (ofRoute route baseDenom).path.isEmpty = true := by
    simpa using path_ofRoute_ne_empty route baseDenom
  rw [fullPath, if_neg hway]
  simp [ofRoute, Route.toText]

/-- **A full path can be taken apart again**: the two identifiers end where the first two slashes are, whatever the base
    denomination looks like. -/
theorem Voucher.fullPath_ofRoute_inj {route route' : Route} {base base' : String} {least most least' most' : Nat}
    (hport : Identifies least most route.port) (hport' : Identifies least most route'.port)
    (hchannel : Identifies least' most' route.channel) (hchannel' : Identifies least' most' route'.channel)
    (h : (ofRoute route base).fullPath = (ofRoute route' base').fullPath) : route = route' ∧ base = base' := by
  have hlist := congrArg String.toList h
  rw [toList_fullPath_ofRoute, toList_fullPath_ofRoute] at hlist
  obtain ⟨hportEq, hrest⟩ := eq_and_eq_of_append_slash hport.no_slash hport'.no_slash hlist
  obtain ⟨hchannelEq, hbaseEq⟩ := eq_and_eq_of_append_slash hchannel.no_slash hchannel'.no_slash hrest
  constructor
  · cases route
    cases route'
    cases String.toList_injective hportEq
    cases String.toList_injective hchannelEq
    rfl
  · exact String.toList_injective hbaseEq

end RemoteStaking
