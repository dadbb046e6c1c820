import PropertySheet.Proofs.Editor.Bytes
import PropertySheet.Proofs.Expression.Segmentation

/-!
# Expressions in a text of bytes

A text in memory is bytes, and whoever looks for expressions goes over the bytes with an index. The
characters that count are a dollar sign, the braces and the quotes. All of them take one byte, which
is below 128, and a character of several bytes has none of those.

`Segment.scan?` goes over the bytes in this way. It fails where it would close a brace that is not
open, and where it would cut a text in the middle of a character. `Segment.segments_of_text` says
that it never does, and that it finds the segments of the text.
-/

namespace PropertySheet

/-! ## Bytes of characters -/

namespace Text

/-- The bytes of characters. -/
def encode (cs : List Char) : List UInt8 := cs.flatMap String.utf8EncodeChar

/-- The text from one byte to another, unless one of them is in the middle of a character. -/
def slice? (s : String) (i j : Nat) : Option String :=
  if h : (⟨i⟩ : String.Pos.Raw).IsValid s ∧ (⟨j⟩ : String.Pos.Raw).IsValid s ∧ i ≤ j then
    some (s.extract ⟨⟨i⟩, h.1⟩ ⟨⟨j⟩, h.2.1⟩)
  else none

theorem encode_append (xs ys : List Char) : encode (xs ++ ys) = encode xs ++ encode ys :=
  List.flatMap_append

theorem encode_cons (c : Char) (cs : List Char) :
    encode (c :: cs) = String.utf8EncodeChar c ++ encode cs := rfl

theorem length_encode_append (xs ys : List Char) :
    (encode (xs ++ ys)).length = (encode xs).length + (encode ys).length := by
  rw [encode_append, List.length_append]

theorem length_encode (cs : List Char) : (encode cs).length = (String.ofList cs).utf8ByteSize := by
  simp [encode, ← String.size_toByteArray, List.utf8Encode]

theorem slice?_append (xs ys zs : List Char) :
    slice? (String.ofList (xs ++ ys ++ zs)) (encode xs).length (encode (xs ++ ys)).length =
      some (String.ofList ys) := by
  have hstart : (String.ofList xs).rawEndPos.IsValid (String.ofList (xs ++ ys ++ zs)) := by
    rw [List.append_assoc]
    exact (splits_ofList_append xs (ys ++ zs)).1
  have hend := (splits_ofList_append (xs ++ ys) zs).1
  have hle : (String.ofList xs).utf8ByteSize ≤ (String.ofList (xs ++ ys)).utf8ByteSize := by
    rw [String.ofList_append, String.utf8ByteSize_append]
    omega
  rw [length_encode, length_encode, slice?, dif_pos ⟨hstart, hend, hle⟩]
  refine congrArg some (String.toByteArray_inj.mp ?_)
  show (String.ofList (xs ++ ys ++ zs)).toByteArray.extract (String.ofList xs).utf8ByteSize
    (String.ofList (xs ++ ys)).utf8ByteSize = _
  simp only [String.ofList_append, String.toByteArray_append, ← String.size_toByteArray]
  rw [ByteArray.size_append, ByteArray.extract_append, ByteArray.extract_append_eq_right rfl rfl]
  simp

theorem utf8EncodeChar_of_lt {c : Char} (h : c.toNat < 128) :
    String.utf8EncodeChar c = [c.toUInt8] := by
  have hle : c.val.toNat ≤ 127 := Nat.le_of_lt_succ h
  simp only [String.utf8EncodeChar, hle, if_true]
  rfl

theorem le_of_mem_utf8EncodeChar {c : Char} (h : 128 ≤ c.toNat) {b : UInt8}
    (hb : b ∈ String.utf8EncodeChar c) : 128 ≤ b.toNat := by
  have hlong : ¬ c.val.toNat ≤ 127 := Nat.not_le_of_lt h
  simp only [String.utf8EncodeChar, hlong, if_false] at hb
  split at hb
  · simp only [List.mem_cons, List.not_mem_nil, or_false] at hb
    rcases hb with rfl | rfl <;> simp <;> omega
  · split at hb
    · simp only [List.mem_cons, List.not_mem_nil, or_false] at hb
      rcases hb with rfl | rfl | rfl <;> simp <;> omega
    · simp only [List.mem_cons, List.not_mem_nil, or_false] at hb
      rcases hb with rfl | rfl | rfl | rfl <;> simp <;> omega

/-- The first byte of a character tells it from one of a single byte, and the bytes that follow are
not to be taken for one. -/
theorem exists_utf8EncodeChar (c : Char) : ∃ b bs, String.utf8EncodeChar c = b :: bs ∧
    (∀ k : Char, k.toNat < 128 → (b = k.toUInt8 ↔ c = k)) ∧ ∀ x ∈ bs, 128 ≤ x.toNat := by
  have hcode : ∀ k : Char, k.toUInt8.toNat = k.toNat % 256 := fun _ => rfl
  by_cases hc : c.toNat < 128
  · refine ⟨_, [], utf8EncodeChar_of_lt hc, fun k hk => ?_, fun x hx => absurd hx List.not_mem_nil⟩
    rw [← UInt8.toNat_inj, ← Char.toNat_inj, hcode, hcode]
    omega
  · have hall := fun b => le_of_mem_utf8EncodeChar (b := b) (Nat.le_of_not_lt hc)
    cases hbytes : String.utf8EncodeChar c with
    | nil => exact absurd hbytes String.utf8EncodeChar_ne_nil
    | cons b bs =>
      rw [hbytes] at hall
      refine ⟨b, bs, rfl, fun k hk => ?_, fun x hx => hall x (List.mem_cons_of_mem b hx)⟩
      have hfirst := hall b List.mem_cons_self
      rw [← UInt8.toNat_inj, ← Char.toNat_inj, hcode]
      omega

theorem head?_encode {k : Char} (hk : k.toNat < 128) (cs : List Char) :
    (encode cs).head? = some k.toUInt8 ↔ cs.head? = some k := by
  cases cs with
  | nil => simp [encode]
  | cons c cs =>
    obtain ⟨b, bs, hbytes, hfirst, -⟩ := exists_utf8EncodeChar c
    rw [encode_cons, hbytes, List.cons_append, List.head?_cons, List.head?_cons,
      Option.some.injEq, Option.some.injEq, hfirst k hk]

end Text

namespace Segment

open Text

/-! ## Going over the bytes -/

/-- The byte behind an expression, and the bytes from there on. None where a brace is closed that is
not open. -/
def close? (depth : Nat) (quote : Option UInt8) (i : Nat) : List UInt8 → Option (Nat × List UInt8)
  | [] => some (i, [])
  | b :: rest =>
    match quote with
    | some q => close? depth (if b = q then none else some q) (i + 1) rest
    | none =>
      if b = '\''.toUInt8 ∨ b = '"'.toUInt8 then close? depth (some b) (i + 1) rest
      else if b = '\x7b'.toUInt8 then close? (depth + 1) none (i + 1) rest
      else if b = '\x7d'.toUInt8 then
        if depth = 0 then none
        else if depth - 1 = 0 then some (i + 1, rest)
        else close? (depth - 1) none (i + 1) rest
      else close? depth none (i + 1) rest

/-- The segment from one byte to another. -/
def slice? (s : String) (i j : Nat) (isExpression : Bool) : Option Segment :=
  (Text.slice? s i j).map fun t => ⟨t.toList, isExpression⟩

/-- The literal run from one byte to another; there is none where both are the same. -/
def literal? (s : String) (i j : Nat) : Option (List Segment) :=
  if i < j then (slice? s i j false).map ([·]) else some []

theorem length_of_close? {depth : Nat} {quote : Option UInt8} {i : Nat} {bytes : List UInt8}
    {j : Nat} {rest : List UInt8} (h : close? depth quote i bytes = some (j, rest)) :
    rest.length ≤ bytes.length := by
  fun_induction close? depth quote i bytes with
  | case1 =>
    cases h
    exact Nat.le_refl 0
  | case5 => cases h
  | case6 =>
    cases h
    exact Nat.le_succ _
  | case2 | case3 | case4 | case7 | case8 =>
    rename_i ih
    exact Nat.le_succ_of_le (ih h)

/-- The segments from a byte on, where a literal run is open since another one. -/
def scanFrom? (s : String) (start i : Nat) : List UInt8 → Option (List Segment)
  | [] => literal? s start s.utf8ByteSize
  | b :: rest =>
    if b = '$'.toUInt8 ∧ rest.head? = some '$'.toUInt8 then
      scanFrom? s start (i + 2) rest.tail
    else if b = '$'.toUInt8 ∧ rest.head? = some '\x7b'.toUInt8 then
      match _hclose : close? 0 none (i + 1) rest with
      | none => none
      | some (j, behind) => do
        let literal ← literal? s start i
        let expression ← slice? s i j true
        let segs ← scanFrom? s j j behind
        some (literal ++ expression :: segs)
    else scanFrom? s start (i + 1) rest
termination_by bytes => bytes.length
decreasing_by
  · rw [List.length_tail, List.length_cons]
    omega
  · have hle := length_of_close? _hclose
    rw [List.length_cons]
    omega
  · exact Nat.lt_succ_self _

/-- The segments of a text, by its bytes. -/
def scan? (s : String) : Option (List Segment) := scanFrom? s 0 0 s.toByteArray.data.toList

/-! ## Bytes and characters -/

/-- Bytes of a character of several are passed inside of an expression. -/
theorem close?_skip {bs : List UInt8} (h : ∀ b ∈ bs, 128 ≤ b.toNat) {quote : Option UInt8}
    (hquote : ∀ q ∈ quote, q.toNat < 128) (depth i : Nat) (bytes : List UInt8) :
    close? depth quote i (bs ++ bytes) = close? depth quote (i + bs.length) bytes := by
  induction bs generalizing i with
  | nil => rfl
  | cons b bs ih =>
    have hother : ∀ k : UInt8, k.toNat < 128 → b ≠ k := by
      rintro k hk rfl
      exact absurd (h b List.mem_cons_self) (Nat.not_le_of_lt hk)
    have hrest := ih (fun x hx => h x (List.mem_cons_of_mem b hx)) (i + 1)
    rw [List.cons_append, List.length_cons, Nat.add_comm bs.length, ← Nat.add_assoc]
    cases quote with
    | some q =>
      rw [close?, if_neg (hother q (hquote q rfl))]
      exact hrest
    | none =>
      have hnone : ¬ (b = '\''.toUInt8 ∨ b = '"'.toUInt8) :=
        not_or.mpr ⟨hother _ (by decide), hother _ (by decide)⟩
      rw [close?, if_neg hnone, if_neg (hother _ (by decide)), if_neg (hother _ (by decide))]
      exact hrest

/-- What holds of a nesting while an expression is read. -/
structure Nesting.Sound (n : Nesting) : Prop where
  depth : 0 < n.depth
  quote : ∀ q ∈ n.quote, q.toNat < 128

theorem Nesting.sound_default : ({} : Nesting).Sound where
  depth := by decide
  quote q hq := by cases hq

theorem Nesting.Sound.next {n n' : Nesting} (h : n.Sound) {c : Char} (hnext : n.next c = some n') :
    n'.Sound := by
  rw [next_eq h.depth, Option.ite_none_left_eq_some, Option.some.injEq] at hnext
  obtain ⟨hzero, rfl⟩ := hnext
  have hbound := neg_one_le_depthFrom n.quote c
  have hpositive := h.depth
  refine ⟨by show 0 < Int.toNat _; omega, fun q hq => ?_⟩
  change q ∈ quoteAfter n.quote c at hq
  unfold quoteAfter at hq
  split at hq
  · split at hq
    next hc =>
      obtain rfl := Option.some.inj hq
      rcases hc with rfl | rfl <;> decide
    · cases hq
  next q' hquote =>
    split at hq
    · cases hq
    · exact h.quote q (hquote ▸ hq)

/-- The bytes of a character do to the depth and the quote what the character does. -/
theorem close?_char {n : Nesting} (h : n.Sound) (c : Char) (cs : List Char) (i : Nat) :
    close? n.depth (n.quote.map Char.toUInt8) i (encode (c :: cs)) =
      match n.next c with
      | none => some (i + (encode [c]).length, encode cs)
      | some n' =>
        close? n'.depth (n'.quote.map Char.toUInt8) (i + (encode [c]).length) (encode cs) := by
  obtain ⟨b, bs, hbytes, hfirst, hothers⟩ := exists_utf8EncodeChar c
  have hlength : i + (encode [c]).length = i + 1 + bs.length := by
    rw [encode_cons, hbytes, encode, List.flatMap_nil, List.append_nil, List.length_cons]
    omega
  have hskip : ∀ {n : Nesting}, n.Sound →
      close? n.depth (n.quote.map Char.toUInt8) (i + 1) (bs ++ encode cs) =
        close? n.depth (n.quote.map Char.toUInt8) (i + (encode [c]).length) (encode cs) := by
    intro n hn
    rw [hlength]
    refine close?_skip hothers (fun q hq => ?_) _ _ _
    obtain ⟨k, hk, rfl⟩ := Option.map_eq_some_iff.mp hq
    exact Nat.lt_of_le_of_lt (Nat.mod_le _ _) (hn.quote k hk)
  obtain ⟨depth, quote⟩ := n
  rw [encode_cons, hbytes, List.cons_append]
  cases quote with
  | some q =>
    have hq : b = q.toUInt8 ↔ c = q := hfirst q (h.quote q rfl)
    rw [Option.map_some, close?]
    by_cases hc : c = q
    · have hnext : (⟨depth, some q⟩ : Nesting).next c = some ⟨depth, none⟩ := if_pos hc
      rw [if_pos (hq.mpr hc), hnext]
      exact hskip (h.next hnext)
    · have hnext : (⟨depth, some q⟩ : Nesting).next c = some ⟨depth, some q⟩ := if_neg hc
      rw [if_neg (mt hq.mp hc), hnext]
      exact hskip h
  | none =>
    rw [Option.map_none, close?]
    simp only [hfirst '\'' (by decide), hfirst '"' (by decide), hfirst '\x7b' (by decide),
      hfirst '\x7d' (by decide)]
    by_cases hquote : c = '\'' ∨ c = '"'
    · have hnext : (⟨depth, none⟩ : Nesting).next c = some ⟨depth, some c⟩ := if_pos hquote
      have hb : b = c.toUInt8 := (hfirst c (by rcases hquote with rfl | rfl <;> decide)).mpr rfl
      rw [if_pos hquote, hnext, hb]
      exact hskip (h.next hnext)
    rw [if_neg hquote]
    by_cases hopens : c = '\x7b'
    · have hnext : (⟨depth, none⟩ : Nesting).next c = some ⟨depth + 1, none⟩ :=
        (if_neg hquote).trans (if_pos hopens)
      rw [if_pos hopens, hnext]
      exact hskip (h.next hnext)
    rw [if_neg hopens]
    by_cases hcloses : c = '\x7d'
    · have hnext : (⟨depth, none⟩ : Nesting).next c =
          if depth = 1 then none else some ⟨depth - 1, none⟩ :=
        (if_neg hquote).trans ((if_neg hopens).trans (if_pos hcloses))
      have hdepth : depth ≠ 0 := Nat.ne_of_gt h.depth
      rw [if_pos hcloses, if_neg hdepth, hnext]
      by_cases hlast : depth = 1
      · -- a brace has no second byte
        subst hcloses
        obtain ⟨-, rfl⟩ := List.cons.inj (hbytes.symm.trans (utf8EncodeChar_of_lt (by decide)))
        rw [if_pos hlast, if_pos (by omega), hlength]
        rfl
      · rw [if_neg hlast] at hnext ⊢
        rw [if_neg (by omega)]
        exact hskip (h.next hnext)
    · have hnext : (⟨depth, none⟩ : Nesting).next c = some ⟨depth, none⟩ :=
        (if_neg hquote).trans ((if_neg hopens).trans (if_neg hcloses))
      rw [if_neg hcloses, hnext]
      exact hskip h

/-- Inside of an expression the bytes are read through where the characters are. -/
theorem close?_of_read? {n n' : Nesting} (h : n.Sound) {body : List Char}
    (hread : n.read? body = some n') (cs : List Char) (i : Nat) : n'.Sound ∧
      close? n.depth (n.quote.map Char.toUInt8) i (encode (body ++ cs)) =
        close? n'.depth (n'.quote.map Char.toUInt8) (i + (encode body).length) (encode cs) := by
  induction body generalizing n i with
  | nil =>
    cases hread
    exact ⟨h, rfl⟩
  | cons c body ih =>
    rw [Nesting.read?_cons] at hread
    obtain ⟨m, hnext, hbody⟩ := Option.bind_eq_some_iff.mp hread
    obtain ⟨hsound, hrest⟩ := ih (h.next hnext) hbody (i + (encode [c]).length)
    refine ⟨hsound, ?_⟩
    have hlength := length_encode_append [c] body
    rw [List.singleton_append] at hlength
    rw [List.cons_append, close?_char h, hnext, hlength, ← Nat.add_assoc]
    exact hrest

/-- The bytes of an expression are over where the expression is. -/
theorem close?_expression {expression rest : List Char}
    (h : Closed expression ∨ Unclosed expression ∧ rest = []) (i : Nat) :
    close? 0 none (i + 1) (encode (expression.tail ++ rest)) =
      some (i + (encode expression).length, encode rest) := by
  have hopens : ∀ cs, close? 0 none (i + 1) (encode ('\x7b' :: cs)) =
      close? 1 none (i + 2) (encode cs) := fun _ => rfl
  have hlength : ∀ cs, i + (encode (opening ++ cs)).length = i + 2 + (encode cs).length := by
    intro cs
    rw [length_encode_append, ← Nat.add_assoc]
    rfl
  rcases h with hclosed | ⟨hunclosed, rfl⟩
  · obtain ⟨body, rfl, -⟩ := id hclosed
    rw [List.append_assoc] at hclosed
    obtain ⟨n, hread, hnext⟩ := closed_iff.mp hclosed
    obtain ⟨hsound, hbody⟩ :=
      close?_of_read? Nesting.sound_default hread ('\x7d' :: rest) (i + 2)
    rw [close?_char hsound, hnext] at hbody
    rw [List.append_assoc, hlength, length_encode_append, ← Nat.add_assoc]
    refine Eq.trans ?_ hbody
    show close? 0 none (i + 1) (encode ('\x7b' :: (body ++ ['\x7d'] ++ rest))) = _
    rw [hopens, List.append_assoc]
    rfl
  · obtain ⟨body, rfl, -⟩ := id hunclosed
    obtain ⟨n, hread⟩ := unclosed_iff.mp hunclosed
    obtain ⟨-, hbody⟩ := close?_of_read? Nesting.sound_default hread [] (i + 2)
    rw [hlength]
    exact (hopens _).trans hbody

/-- Bytes of a character of several are passed in a literal run. -/
theorem scanFrom?_skip {bs : List UInt8} (h : ∀ b ∈ bs, 128 ≤ b.toNat) (s : String)
    (start i : Nat) (bytes : List UInt8) :
    scanFrom? s start i (bs ++ bytes) = scanFrom? s start (i + bs.length) bytes := by
  induction bs generalizing i with
  | nil => rfl
  | cons b bs ih =>
    have hdollar : b ≠ '$'.toUInt8 := by
      rintro rfl
      exact absurd (h _ List.mem_cons_self) (by decide)
    rw [List.cons_append, scanFrom?, if_neg (fun hb => hdollar hb.1),
      if_neg (fun hb => hdollar hb.1), ih (fun x hx => h x (List.mem_cons_of_mem b hx)),
      List.length_cons, Nat.add_comm bs.length, ← Nat.add_assoc]

/-- The bytes of a literal run are over where the run is. -/
theorem scanFrom?_reads {literal rest : List Char} (h : Reads rest literal) (s : String)
    (start i : Nat) : scanFrom? s start i (encode (literal ++ rest)) =
      scanFrom? s start (i + (encode literal).length) (encode rest) := by
  induction h generalizing i with
  | nil hrest => rfl
  | @pair literal _ ih =>
    have hstep : scanFrom? s start i (encode ('$' :: '$' :: (literal ++ rest))) =
        scanFrom? s start (i + 2) (encode (literal ++ rest)) := by
      show scanFrom? s start i ('$'.toUInt8 :: '$'.toUInt8 :: encode (literal ++ rest)) = _
      rw [scanFrom?, if_pos ⟨rfl, rfl⟩, List.tail_cons]
    have hlength : (encode ('$' :: '$' :: literal)).length = 2 + (encode literal).length := by
      rw [Nat.add_comm]
      rfl
    rw [hlength, ← Nat.add_assoc, ← ih]
    exact hstep
  | @passes c literal hpasses _ ih =>
    -- a first byte that is a dollar sign is all of its character, so the next byte tells as much as
    -- the next character
    obtain ⟨b, bs, hbytes, hfirst, hothers⟩ := exists_utf8EncodeChar c
    have hdollar : b = '$'.toUInt8 → bs = [] ∧ c = '$' := by
      intro hb
      obtain rfl := (hfirst '$' (by decide)).mp hb
      exact ⟨(List.cons.inj (hbytes.symm.trans (utf8EncodeChar_of_lt (by decide)))).2, rfl⟩
    have hnext : ∀ k : Char, k.toNat < 128 →
        (c = '$' → (literal ++ rest).head? ≠ some k) →
        ¬ (b = '$'.toUInt8 ∧ (bs ++ encode (literal ++ rest)).head? = some k.toUInt8) := by
      rintro k hk hother ⟨hb, hhead⟩
      obtain ⟨rfl, hc⟩ := hdollar hb
      exact hother hc ((head?_encode hk _).mp hhead)
    rw [List.cons_append, encode_cons, encode_cons, hbytes, List.cons_append, scanFrom?,
      if_neg (hnext '$' (by decide) fun hc => (hpasses hc).1),
      if_neg (hnext '\x7b' (by decide) fun hc => (hpasses hc).2), scanFrom?_skip hothers, ih,
      List.cons_append, List.length_cons, List.length_append]
    congr 1
    omega

theorem slice?_append (xs ys zs : List Char) (isExpression : Bool) :
    slice? (String.ofList (xs ++ ys ++ zs)) (encode xs).length (encode (xs ++ ys)).length
      isExpression = some ⟨ys, isExpression⟩ := by
  rw [slice?, Text.slice?_append, Option.map_some, String.toList_ofList]

theorem literal?_append (xs ys zs : List Char) :
    literal? (String.ofList (xs ++ ys ++ zs)) (encode xs).length (encode (xs ++ ys)).length =
      some (Run.literal ys.reverse).finish := by
  cases ys with
  | nil =>
    rw [List.append_nil, literal?, if_neg (Nat.lt_irrefl _)]
    rfl
  | cons c ys =>
    have hnonempty : 0 < (encode (c :: ys)).length := by
      rw [encode_cons, List.length_append]
      exact Nat.add_pos_left (List.length_pos_iff.mpr String.utf8EncodeChar_ne_nil) _
    rw [literal?, if_pos (by rw [length_encode_append]; omega), slice?_append, Option.map_some]
    simp [Run.finish]

/-- At an expression, the literal run is over and another one begins behind the expression. -/
theorem scanFrom?_expression {expression rest : List Char}
    (h : Closed expression ∨ Unclosed expression ∧ rest = []) (s : String) (start i : Nat) :
    let j := i + (encode expression).length
    scanFrom? s start i (encode (expression ++ rest)) = (do
      let literal ← literal? s start i
      let segment ← slice? s i j true
      let segs ← scanFrom? s j j (encode rest)
      some (literal ++ segment :: segs)) := by
  intro j
  have hclose := close?_expression h i
  obtain ⟨tail, rfl⟩ := opens_of_expression h
  have hbytes : encode (opening ++ tail ++ rest) =
      '$'.toUInt8 :: encode ((opening ++ tail).tail ++ rest) := rfl
  have hbrace : (encode ((opening ++ tail).tail ++ rest)).head? = some '\x7b'.toUInt8 := rfl
  rw [hbytes, scanFrom?, hbrace, if_neg (by decide), if_pos ⟨rfl, rfl⟩]
  split
  next hnone => cases hclose.symm.trans hnone
  next j behind hsome =>
    cases hclose.symm.trans hsome
    rfl

/-- Going over the bytes behind an unfinished literal run comes to the reading behind it. -/
theorem scanFrom?_encode (pre pending cs : List Char) :
    scanFrom? (String.ofList (pre ++ pending ++ cs)) (encode pre).length
        (encode (pre ++ pending)).length (encode cs) =
      some (cut (.literal pending.reverse) cs) := by
  -- the text is one up to the scanned byte: what is cut off, what is pending and what is to come
  induction hlength : cs.length using Nat.strongRecOn generalizing pre pending cs with
  | _ length ih =>
    obtain ⟨literal, rest, rfl, hreads⟩ := exists_reads cs
    rw [scanFrom?_reads hreads, cut_of_reads hreads, ← length_encode_append, ← List.append_assoc,
      List.append_assoc pre, ← List.reverse_append]
    rw [List.length_append] at hlength
    generalize pending ++ literal = pending
    rcases hreads.rest with rfl | hopening
    · have hlast := literal?_append pre pending []
      have hover : encode [] = [] := rfl
      rw [length_encode (pre ++ pending), List.append_nil] at hlast
      rw [List.append_nil, hover, scanFrom?, hlast]
      exact congrArg some (List.append_nil _).symm
    · obtain ⟨expression, behind, rfl, hexpression⟩ := exists_expression hopening
      have hlong : 2 ≤ expression.length := (opens_of_expression hexpression).length_le
      have hbehind := ih behind.length (by rw [List.length_append] at hlength; omega)
        (pre ++ pending ++ expression) [] behind rfl
      have hsegment := slice?_append (pre ++ pending) expression behind true
      rw [List.append_nil] at hbehind
      rw [scanFrom?_expression hexpression, literal?_append, ← length_encode_append,
        ofChars_expression hexpression, ← List.append_assoc, hsegment, hbehind]
      rfl

/-- Going over the bytes of a text comes to the reading of its characters. -/
theorem scan?_eq (s : String) : scan? s = some (ofText s) := by
  have hbytes : s.toByteArray.data.toList = encode s.toList := by
    rw [← String.ofList_toList (s := s), String.toByteArray_ofList, String.toList_ofList]
    exact List.toList_data_toByteArray
  have hscan := scanFrom?_encode [] [] s.toList
  rw [List.nil_append, List.nil_append, String.ofList_toList] at hscan
  rw [scan?, hbytes]
  exact hscan

/-- The segments of every text. They are one after the other the text, none is empty, no two
literal runs meet, a literal run is over exactly where an odd number of dollar signs leads up to a
brace, and an expression is over at the first brace outside quotes that closes the one it opens
with, or else at the end of the text: no other segments meet these conditions. Each segment is the
only one of its own text. Inside of an expression there is always a brace to close, and who goes
over the bytes, and fails where there is none and in the middle of a character, never fails and
finds the same segments. -/
theorem segments_of_text (s : String) :
    (∀ segs, ofText s = segs ↔ Segmentation s.toList segs) ∧
    (∀ segment ∈ ofText s, ofText segment.text = [segment]) ∧
    (∀ body n, Nesting.read? {} body = some n → 0 < n.depth) ∧
    scan? s = some (ofText s) := by
  refine ⟨fun segs => ofChars_eq_iff, fun segment hsegment => ?_,
    fun body n => depth_pos_of_read?, scan?_eq s⟩
  have halone := (ofChars_eq_iff.mp rfl).singleton hsegment
  rw [ofText, text, String.toList_ofList]
  exact halone.ofChars_eq

/-- Braces in quotes stay inside. -/
example : (ofText "$\x7ba:replace('\x7d', '\x7b')\x7dx").map (·.text) =
    ["$\x7ba:replace('\x7d', '\x7b')\x7d", "x"] := by
  decide +kernel

end Segment

end PropertySheet
