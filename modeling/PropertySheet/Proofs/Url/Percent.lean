import PropertySheet.Proofs.Expression.Scan
import PropertySheet.Url.Percent

/-!
# Percent-encoding read back

A percent-encoded text stands for octets: each `%` with two digits for one, and each other character
for its own. `octets_percentEncode` says that these are the octets of the text that was encoded,
unless a `%` has been kept in it. A kept `%` may be one of the text, and then `%20` and a space are
written alike.
-/

namespace PropertySheet

theorem Text.encode_injective : Function.Injective Text.encode := by
  intro xs ys h
  refine String.ofList_inj.mp (String.toByteArray_inj.mp ?_)
  rw [String.toByteArray_ofList, String.toByteArray_ofList]
  exact congrArg List.toByteArray h

theorem Text.hexValue?_upperHexDigit (n : Nat) : hexValue? (upperHexDigit n) = some (n % 16) := by
  have h : ∀ m < 16, hexValue? (Nat.digitChar m).toUpper = some m := by decide
  exact h _ (Nat.mod_lt n (by decide))

namespace Url

/-! ## Octets -/

/-- The octets that an encoded text stands for. -/
def octets : List Char → List UInt8
  | '%' :: a :: b :: rest =>
    UInt8.ofNat ((Text.hexValue? a).getD 0 * 16 + (Text.hexValue? b).getD 0) :: octets rest
  | c :: rest => c.toUInt8 :: octets rest
  | [] => []

theorem octets_percentOctet (b : UInt8) (rest : List Char) :
    octets (percentOctet b ++ rest) = b :: octets rest := by
  show UInt8.ofNat ((Text.hexValue? (Text.upperHexDigit (b.toNat / 16))).getD 0 * 16 +
    (Text.hexValue? (Text.upperHexDigit b.toNat)).getD 0) :: octets rest = _
  rw [Text.hexValue?_upperHexDigit, Text.hexValue?_upperHexDigit, Option.getD_some,
    Option.getD_some]
  have hb : b.toNat < 256 := b.toNat_lt
  have hdigits : b.toNat / 16 % 16 * 16 + b.toNat % 16 = b.toNat := by omega
  rw [hdigits, UInt8.ofNat_toNat]

theorem octets_flatMap (bs : List UInt8) (rest : List Char) :
    octets (bs.flatMap percentOctet ++ rest) = bs ++ octets rest := by
  induction bs with
  | nil => rfl
  | cons b bs ih =>
    rw [List.flatMap_cons, List.append_assoc, octets_percentOctet, ih, List.cons_append]

theorem octets_cons {c : Char} (hc : c ≠ '%') (rest : List Char) :
    octets (c :: rest) = c.toUInt8 :: octets rest := by
  rw [octets]
  rintro a b rest rfl
  exact absurd rfl hc

variable {keep : Char → Bool}

/-- Where ASCII alone is kept, and no `%` of the text. -/
theorem octets_percentEncode (hkeep : ∀ c, keep c = true → c.toNat < 128) {cs : List Char}
    (hcs : ∀ c ∈ cs, keep c = true → c ≠ '%') :
    octets (percentEncode keep cs) = Text.encode cs := by
  induction cs with
  | nil => rfl
  | cons c cs ih =>
    have hrest := ih fun d hd => hcs d (List.mem_cons_of_mem c hd)
    rw [percentEncode, List.flatMap_cons, Text.encode_cons]
    split
    · next hc =>
      rw [List.singleton_append, octets_cons (hcs c List.mem_cons_self hc),
        Text.utf8EncodeChar_of_lt (hkeep c hc), List.singleton_append]
      exact congrArg _ hrest
    · rw [percentChar, octets_flatMap]
      exact congrArg _ hrest

theorem eq_of_percentEncode_eq (hkeep : ∀ c, keep c = true → c.toNat < 128) {cs ds : List Char}
    (hcs : '%' ∉ cs) (hds : '%' ∉ ds) (h : percentEncode keep cs = percentEncode keep ds) :
    cs = ds := by
  have hoctets := congrArg octets h
  rw [octets_percentEncode hkeep fun c hc _ => ne_of_mem_of_not_mem hc hcs,
    octets_percentEncode hkeep fun c hc _ => ne_of_mem_of_not_mem hc hds] at hoctets
  exact Text.encode_injective hoctets

theorem lt_of_keptInPath {c : Char} (h : keptInPath c = true) : c.toNat < 128 := by
  simp only [keptInPath, printableBut, Bool.and_eq_true, decide_eq_true_eq] at h
  omega

/-! ## Lengths -/

theorem percentEncode_cons (c : Char) (cs : List Char) :
    percentEncode keep (c :: cs) = percentEncode keep [c] ++ percentEncode keep cs :=
  (List.flatMap_append : ([c] ++ cs).flatMap _ = _)

theorem percentEncode_singleton_ne_nil (keep : Char → Bool) (c : Char) :
    percentEncode keep [c] ≠ [] := by
  rw [percentEncode, List.flatMap_singleton]
  split
  · exact List.cons_ne_nil c []
  · obtain ⟨b, bs, hbytes, -⟩ := Text.exists_utf8EncodeChar c
    rw [percentChar, hbytes]
    exact List.cons_ne_nil _ _

/-- Each character takes place. -/
theorem length_percentEncode_le_of_sublist (keep : Char → Bool) {xs ys : List Char}
    (h : xs.Sublist ys) :
    (percentEncode keep xs).length + ys.length ≤ (percentEncode keep ys).length + xs.length := by
  induction h with
  | slnil => exact Nat.le_refl _
  | @cons xs ys c _ ih =>
    have hc := List.length_pos_iff.mpr (percentEncode_singleton_ne_nil keep c)
    rw [percentEncode_cons, List.length_append, List.length_cons]
    omega
  | @cons_cons xs ys c _ ih =>
    rw [percentEncode_cons c xs, percentEncode_cons c ys, List.length_append, List.length_append,
      List.length_cons, List.length_cons]
    omega

/-- A part of a text that is written like the whole is the whole. -/
theorem eq_of_sublist_of_percentEncode_eq {xs ys : List Char} (hsub : xs.Sublist ys)
    (h : percentEncode keep xs = percentEncode keep ys) : xs = ys := by
  have hlength := length_percentEncode_le_of_sublist keep hsub
  rw [h] at hlength
  exact hsub.eq_of_length_le (Nat.le_of_add_le_add_left hlength)

end Url

end PropertySheet
