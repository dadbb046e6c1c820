import PropertySheet.Expression

/-!
# Where literal runs and expressions end

The reading of a text goes through it once and looks at most one character ahead. Here is said
without any reading where its runs end. For a literal run it is a matter of how many dollar signs
lead up to a brace (`EndsAt`), for an expression one of the braces outside quotes (`Closed` and
`Unclosed`), and the reading ends them there (`cut_of_reads`, `ofChars_expression`).

Each of the two has its own argument. A literal run is read from the front, two dollar signs at a
time, while the condition counts them from the end; `endsAt_append` says what may be cut from the
front without a change to the count modulo two. In an expression the nesting that the reading
carries is the depth of what it has read (`read?_eq_some_iff`).
-/

namespace PropertySheet

namespace Segment

/-- What an expression begins with. -/
def opening : List Char := ['$', '\x7b']

/-! ## Literal runs -/

/-- How many dollar signs a text ends in. -/
def dollars (cs : List Char) : Nat := (cs.reverse.takeWhile (· = '$')).length

/-- Where a literal run ends in a text that goes on with `rest`: among the openings in the run and
behind it, the one behind it is the one that an odd number of dollar signs leads up to. -/
def EndsAt (literal rest : List Char) : Prop :=
  ∀ u v, literal ++ rest = u ++ opening ++ v → u.length ≤ literal.length →
    (u.length = literal.length ↔ dollars (u ++ ['$']) % 2 = 1)

theorem dollars_le (cs : List Char) : dollars cs ≤ cs.length := by
  have hle := (List.takeWhile_sublist (· = '$') (l := cs.reverse)).length_le
  rwa [List.length_reverse] at hle

theorem dollars_append (xs ys : List Char) :
    dollars (xs ++ ys) = if dollars ys = ys.length then ys.length + dollars xs else dollars ys := by
  unfold dollars
  rw [List.reverse_append, List.takeWhile_append, List.length_reverse]
  split
  · rw [List.length_append, List.length_reverse]
  · rfl

/-- An even number of dollar signs in front does not count. -/
theorem dollars_append_mod_two {xs : List Char} (h : dollars xs % 2 = 0) (ys : List Char) :
    dollars (xs ++ ys) % 2 = dollars ys % 2 := by
  rw [dollars_append]
  split
  · omega
  · rfl

/-- What is before any other character does not count. -/
theorem dollars_append_cons (xs ys : List Char) {c : Char} (hc : c ≠ '$') :
    dollars (xs ++ c :: ys) = dollars ys := by
  have hcons : dollars (c :: ys) = dollars ys := by
    have happend := dollars_append [c] ys
    have hnone : dollars [c] = 0 := by simp [dollars, hc]
    rw [hnone, Nat.add_zero] at happend
    rw [show c :: ys = [c] ++ ys from rfl, happend]
    split
    next hall => exact hall.symm
    · rfl
  have hle := dollars_le ys
  rw [dollars_append, hcons, List.length_cons, if_neg (by omega)]

/-- What may be cut from the front of a literal run. -/
theorem endsAt_append (xs : List Char) {literal rest : List Char}
    (hinside : ∀ u v, xs ++ (literal ++ rest) = u ++ opening ++ v → u.length < xs.length →
      dollars (u ++ ['$']) % 2 = 0)
    (hbehind : ∀ u v, literal ++ rest = u ++ opening ++ v →
      dollars (xs ++ (u ++ ['$'])) % 2 = dollars (u ++ ['$']) % 2) :
    EndsAt (xs ++ literal) rest ↔ EndsAt literal rest := by
  constructor
  · intro h u v heq hle
    have hends := h (xs ++ u) v (by rw [List.append_assoc, heq]; simp) (by simpa using hle)
    rw [List.append_assoc, hbehind u v heq] at hends
    simpa using hends
  · intro h u v heq hle
    rw [List.append_assoc] at heq
    by_cases hlt : u.length < xs.length
    · have heven := hinside u v heq hlt
      exact iff_of_false (by simp; omega) (by omega)
    · obtain ⟨u', rfl⟩ : xs <+: u := by
        rw [List.append_assoc] at heq
        exact List.prefix_of_prefix_length_le ⟨_, heq⟩ ⟨_, rfl⟩ (Nat.le_of_not_lt hlt)
      have hrest : literal ++ rest = u' ++ opening ++ v := by
        rw [List.append_assoc xs, List.append_assoc xs] at heq
        exact List.append_cancel_left heq
      have hends := h u' v hrest (by simpa using hle)
      rw [List.append_assoc, hbehind u' v hrest, ← hends]
      simp

/-- Two dollar signs stand for one, and open nothing. -/
theorem endsAt_pair (literal rest : List Char) :
    EndsAt ('$' :: '$' :: literal) rest ↔ EndsAt literal rest := by
  refine endsAt_append ['$', '$'] (fun u v heq hlt => ?_)
    fun u v _ => dollars_append_mod_two (by decide) _
  match u, hlt with
  | [], _ => cases heq
  | [c], _ =>
    obtain rfl : '$' = c := (List.cons.inj heq).1
    decide

/-- A character that is no dollar sign stands for itself. -/
theorem endsAt_cons {c : Char} (hc : c ≠ '$') (literal rest : List Char) :
    EndsAt (c :: literal) rest ↔ EndsAt literal rest := by
  refine endsAt_append [c] (fun u v heq hlt => ?_) fun u v _ => ?_
  · match u, hlt with
    | [], _ => exact absurd (List.cons.inj heq).1 hc
  · exact dollars_append_mod_two (by simp [dollars, hc]) _

/-- So does a dollar sign with neither another one nor a brace behind it. -/
theorem endsAt_dollar {literal rest : List Char} (hdollar : (literal ++ rest).head? ≠ some '$')
    (hbrace : (literal ++ rest).head? ≠ some '\x7b') :
    EndsAt ('$' :: literal) rest ↔ EndsAt literal rest := by
  refine endsAt_append ['$'] (fun u v heq hlt => ?_) fun u v heq => ?_
  · match u, hlt with
    | [], _ =>
      have htail : literal ++ rest = '\x7b' :: v := (List.cons.inj heq).2
      rw [htail] at hbrace
      exact absurd rfl hbrace
  · rw [heq] at hdollar
    cases u with
    | nil => exact absurd rfl hdollar
    | cons d u =>
      have hd : d ≠ '$' := fun h => hdollar (congrArg some h)
      show dollars (['$'] ++ d :: (u ++ ['$'])) % 2 = dollars ([] ++ d :: (u ++ ['$'])) % 2
      rw [dollars_append_cons _ _ hd, dollars_append_cons _ _ hd]

/-- The run before an opening is over at once. -/
theorem endsAt_nil (rest : List Char) : EndsAt [] rest := by
  intro u v _ hle
  obtain rfl : u = [] := List.length_eq_zero_iff.mp (Nat.le_zero.mp hle)
  decide

/-! ## Reading a literal run -/

/-- A character that the reading of a literal run passes on its own. -/
def Passes (c : Char) (rest : List Char) : Prop :=
  c = '$' → rest.head? ≠ some '$' ∧ rest.head? ≠ some '\x7b'

theorem cut_of_passes {c : Char} {rest : List Char} (h : Passes c rest) (reversed : List Char) :
    cut (.literal reversed) (c :: rest) = cut (.literal (c :: reversed)) rest := by
  rw [cut]
  · rintro rest' rfl rfl
    exact (h rfl).1 rfl
  · rintro rest' rfl rfl
    exact (h rfl).2 rfl

theorem endsAt_of_passes {c : Char} {literal rest : List Char} (h : Passes c (literal ++ rest)) :
    EndsAt (c :: literal) rest ↔ EndsAt literal rest := by
  by_cases hc : c = '$'
  · obtain ⟨hdollar, hbrace⟩ := h hc
    rw [hc]
    exact endsAt_dollar hdollar hbrace
  · exact endsAt_cons hc literal rest

/-- How a text may begin, as far as the reading of a literal run looks. -/
inductive Begins : List Char → Prop
  | nil : Begins []
  | pair (rest : List Char) : Begins ('$' :: '$' :: rest)
  | opening (rest : List Char) : Begins (opening ++ rest)
  | passes {c : Char} {rest : List Char} : Passes c rest → Begins (c :: rest)

theorem begins (cs : List Char) : Begins cs := by
  match cs with
  | [] => exact .nil
  | c :: rest =>
    by_cases hdollar : c = '$' ∧ rest.head? = some '$'
    · obtain ⟨rfl, hhead⟩ := hdollar
      obtain ⟨rest', rfl⟩ := List.head?_eq_some_iff.mp hhead
      exact .pair rest'
    · by_cases hbrace : c = '$' ∧ rest.head? = some '\x7b'
      · obtain ⟨rfl, hhead⟩ := hbrace
        obtain ⟨rest', rfl⟩ := List.head?_eq_some_iff.mp hhead
        exact .opening rest'
      · exact .passes fun hc => ⟨fun h => hdollar ⟨hc, h⟩, fun h => hbrace ⟨hc, h⟩⟩

/-- A literal run as the reading takes it, one or two characters at a time, in a text that goes on
with `rest`. -/
inductive Reads (rest : List Char) : List Char → Prop
  | nil : rest = [] ∨ opening <+: rest → Reads rest []
  | pair {literal : List Char} : Reads rest literal → Reads rest ('$' :: '$' :: literal)
  | passes {c : Char} {literal : List Char} :
    Passes c (literal ++ rest) → Reads rest literal → Reads rest (c :: literal)

theorem Reads.rest {literal rest : List Char} (h : Reads rest literal) :
    rest = [] ∨ opening <+: rest := by
  induction h with
  | nil hrest => exact hrest
  | pair _ ih => exact ih
  | passes _ _ ih => exact ih

/-- A text begins with a literal run, which may be empty. -/
theorem exists_reads (cs : List Char) :
    ∃ literal rest, cs = literal ++ rest ∧ Reads rest literal := by
  induction hlength : cs.length using Nat.strongRecOn generalizing cs with
  | _ length ih =>
    obtain ⟨⟩ | ⟨cs⟩ | ⟨cs⟩ | ⟨hpasses⟩ := begins cs
    · exact ⟨[], [], rfl, .nil (.inl rfl)⟩
    · simp only [List.length_cons] at hlength
      obtain ⟨literal, rest, rfl, hreads⟩ := ih cs.length (by omega) cs rfl
      exact ⟨'$' :: '$' :: literal, rest, rfl, .pair hreads⟩
    · exact ⟨[], _, rfl, .nil (.inr (List.prefix_append _ _))⟩
    next c cs =>
      rw [List.length_cons] at hlength
      obtain ⟨literal, rest, rfl, hreads⟩ := ih cs.length (by omega) cs rfl
      exact ⟨c :: literal, rest, rfl, .passes hpasses hreads⟩

theorem Reads.endsAt {literal rest : List Char} (h : Reads rest literal) : EndsAt literal rest := by
  induction h with
  | nil => exact endsAt_nil rest
  | pair _ ih => exact (endsAt_pair _ rest).mpr ih
  | passes hpasses _ ih => exact (endsAt_of_passes hpasses).mpr ih

/-- A literal run is read to where it ends. -/
theorem EndsAt.reads {literal rest : List Char} (h : EndsAt literal rest)
    (hrest : rest = [] ∨ opening <+: rest) : Reads rest literal := by
  -- the run gets shorter by one or two characters, as the reading takes them
  induction hlength : literal.length using Nat.strongRecOn generalizing literal with
  | _ length ih =>
    cases literal with
    | nil => exact .nil hrest
    | cons c literal =>
      -- an opening inside of the run, or behind an odd dollar sign at its end, is none
      have hinside : ∀ v, c :: literal ++ rest ≠ opening ++ v := by
        intro v heq
        have hend := (h [] v heq (Nat.zero_le _)).mpr (by decide)
        cases hend
      have hlast : ∀ v, c = '$' → literal = [] → rest ≠ opening ++ v := by
        rintro v rfl rfl rfl
        exact absurd ((h ['$'] v rfl (Nat.le_refl _)).mp rfl) (by decide)
      generalize hcs : c :: literal ++ rest = cs at hinside
      have hbegins := begins cs
      cases hbegins with
      | nil => cases hcs
      | pair cs =>
        obtain ⟨rfl, htail⟩ := List.cons.inj hcs
        cases literal with
        | nil =>
          rcases hrest with rfl | ⟨v, rfl⟩
          · cases htail
          · exact absurd rfl (hlast v rfl rfl)
        | cons d literal =>
          obtain ⟨rfl, -⟩ := List.cons.inj htail
          simp only [List.length_cons] at hlength
          exact .pair (ih literal.length (by omega) ((endsAt_pair literal rest).mp h) rfl)
      | opening v => exact absurd rfl (hinside v)
      | passes hpasses =>
        obtain ⟨rfl, rfl⟩ := List.cons.inj hcs
        rw [List.length_cons] at hlength
        exact .passes hpasses (ih literal.length (by omega) ((endsAt_of_passes hpasses).mp h) rfl)

theorem cut_of_reads {literal rest : List Char} (h : Reads rest literal) (reversed : List Char) :
    cut (.literal reversed) (literal ++ rest) =
      (Run.literal (literal.reverse ++ reversed)).finish ++ ofChars rest := by
  induction h generalizing reversed with
  | nil hrest =>
    rcases hrest with rfl | ⟨rest, rfl⟩
    · exact (List.append_nil _).symm
    · rfl
  | pair _ ih =>
    refine (ih ('$' :: '$' :: reversed)).trans ?_
    simp
  | passes hpasses _ ih =>
    rw [List.cons_append, cut_of_passes hpasses, ih]
    simp

/-! ## Expressions -/

/-- The quote that a text is inside of after a character. A quote ends at the next of its kind. -/
def quoteAfter (quote : Option Char) (c : Char) : Option Char :=
  match quote with
  | none => if c = '\'' ∨ c = '"' then some c else none
  | some q => if c = q then none else some q

/-- The characters that stand outside quotes, in a text that begins inside of a quote or outside. -/
def unquoted (quote : Option Char) : List Char → List Char
  | [] => []
  | c :: rest =>
    if quote = none ∧ quoteAfter quote c = none then c :: unquoted (quoteAfter quote c) rest
    else unquoted (quoteAfter quote c) rest

/-- How many braces outside quotes a text opens, less those that it closes. -/
def depthFrom (quote : Option Char) (cs : List Char) : Int :=
  (unquoted quote cs).count '\x7b' - (unquoted quote cs).count '\x7d'

/-- The depth of the braces at the end of a text. -/
def depth (cs : List Char) : Int := depthFrom none cs

/-- An expression that ends in the first closing brace at which the depth is zero again. -/
def Closed (cs : List Char) : Prop :=
  ∃ body, cs = opening ++ body ++ ['\x7d'] ∧ depth cs = 0 ∧
    ∀ p, p <+: body → 0 < depth (opening ++ p)

/-- An expression in which the depth is never zero again. -/
def Unclosed (cs : List Char) : Prop :=
  ∃ body, cs = opening ++ body ∧ ∀ p, p <+: body → 0 < depth (opening ++ p)

theorem unquoted_append (quote : Option Char) (xs ys : List Char) :
    unquoted quote (xs ++ ys) = unquoted quote xs ++ unquoted (xs.foldl quoteAfter quote) ys := by
  induction xs generalizing quote with
  | nil => rfl
  | cons c xs ih =>
    rw [List.cons_append, unquoted, unquoted, ih, List.foldl_cons]
    split
    · rfl
    · rfl

theorem depthFrom_append (quote : Option Char) (xs ys : List Char) :
    depthFrom quote (xs ++ ys) = depthFrom quote xs + depthFrom (xs.foldl quoteAfter quote) ys := by
  simp only [depthFrom, unquoted_append, List.count_append]
  omega

theorem depthFrom_cons (quote : Option Char) (c : Char) (cs : List Char) :
    depthFrom quote (c :: cs) = depthFrom quote [c] + depthFrom (quoteAfter quote c) cs :=
  depthFrom_append quote [c] cs

/-- A character closes one brace at most. -/
theorem neg_one_le_depthFrom (quote : Option Char) (c : Char) : -1 ≤ depthFrom quote [c] := by
  have hlength : (unquoted quote [c]).length ≤ 1 := by
    rw [unquoted]
    split
    · exact Nat.le_refl 1
    · exact Nat.zero_le 1
  have hcount := List.count_le_length (l := unquoted quote [c]) (a := '\x7d')
  unfold depthFrom
  omega

@[simp]
theorem depthFrom_nil (quote : Option Char) : depthFrom quote [] = 0 := rfl

theorem depth_opening_append (cs : List Char) : depth (opening ++ cs) = 1 + depth cs :=
  depthFrom_append none opening cs

namespace Nesting

variable {n n' : Nesting}

/-- The nesting after a text; none when the text closes the expression before it ends. -/
def read? (n : Nesting) (cs : List Char) : Option Nesting := cs.foldlM next n

theorem read?_cons (n : Nesting) (c : Char) (cs : List Char) :
    n.read? (c :: cs) = (n.next c).bind (·.read? cs) := rfl

/-- A character closes an expression exactly if the depth is zero after it. -/
theorem next_eq (h : 0 < n.depth) (c : Char) : n.next c =
    if n.depth + depthFrom n.quote [c] = 0 then none
    else some ⟨(n.depth + depthFrom n.quote [c]).toNat, quoteAfter n.quote c⟩ := by
  obtain ⟨depth, quote⟩ := n
  have hdepth : depth ≠ 0 := Nat.ne_of_gt h
  cases quote with
  | some q =>
    -- nothing inside of a quote counts, its end included
    have hsame : depthFrom (some q) [c] = 0 := by simp [depthFrom, unquoted]
    rw [hsame, if_neg (by simpa using hdepth)]
    simp only [next, quoteAfter, Int.add_zero, Int.toNat_natCast]
    split
    · rfl
    · rfl
  | none =>
    by_cases hquote : c = '\'' ∨ c = '"'
    · have hsame : depthFrom none [c] = 0 := by simp [depthFrom, unquoted, quoteAfter, hquote]
      rw [hsame, if_neg (by simpa using hdepth)]
      simp [next, quoteAfter, hquote]
    · have hbare : depthFrom none [c] = [c].count '\x7b' - [c].count '\x7d' := by
        simp [depthFrom, unquoted, quoteAfter, hquote]
      simp only [next, quoteAfter, if_neg hquote, hbare]
      by_cases hopens : c = '\x7b'
      · simp [hopens]
        omega
      · by_cases hcloses : c = '\x7d'
        · have hone : ([c].count '\x7b' : Int) - ([c].count '\x7d' : Int) = -1 := by
            rw [hcloses]
            decide
          rw [if_neg hopens, if_pos hcloses, hone]
          by_cases hlast : depth = 1
          · simp [hlast]
          · rw [if_neg hlast, if_neg (by omega)]
            simp
            omega
        · simp [hopens, hcloses, hdepth]

/-- A text is read through exactly if the depth is never zero on the way, and the nesting is then
the depth and the quote at its end. -/
theorem read?_eq_some_iff (h : 0 < n.depth) {cs : List Char} : n.read? cs = some n' ↔
    (∀ p, p <+: cs → 0 < n.depth + depthFrom n.quote p) ∧
      n' = ⟨(n.depth + depthFrom n.quote cs).toNat, cs.foldl quoteAfter n.quote⟩ := by
  induction cs generalizing n with
  | nil =>
    have hself : (⟨(n.depth + depthFrom n.quote []).toNat, [].foldl quoteAfter n.quote⟩ : Nesting) =
        n := by simp
    rw [hself]
    show some n = some n' ↔ _
    simp only [Option.some.injEq, List.prefix_nil, forall_eq, depthFrom_nil, Int.add_zero]
    exact ⟨fun heq => ⟨Int.natCast_pos.mpr h, heq.symm⟩, fun heq => heq.2.symm⟩
  | cons c cs ih =>
    -- the depth is zero behind the first character, or it is the nesting for the others
    have hfirst := next_eq h c
    rw [read?_cons, hfirst]
    split
    next hzero =>
      refine iff_of_false (by simp) fun hpositive => ?_
      have hhead := hpositive.1 [c] ⟨cs, rfl⟩
      omega
    next hopen =>
      have hbound := neg_one_le_depthFrom n.quote c
      rw [Option.bind_some, ih (by show 0 < Int.toNat _; omega), Int.toNat_of_nonneg (by omega),
        depthFrom_cons n.quote c cs, ← Int.add_assoc, List.foldl_cons]
      refine and_congr_left fun _ => ?_
      constructor
      · intro hrest p hp
        rcases List.prefix_cons_iff.mp hp with rfl | ⟨tail, rfl, htail⟩
        · rw [depthFrom_nil]
          omega
        · rw [depthFrom_cons n.quote c tail, ← Int.add_assoc]
          exact hrest tail htail
      · intro hall p hp
        have hpositive := hall (c :: p) (List.cons_prefix_cons.mpr ⟨rfl, hp⟩)
        rwa [depthFrom_cons n.quote c p, ← Int.add_assoc] at hpositive

/-- A text that is not read through has a character that closes the expression. -/
theorem exists_next_eq_none {cs : List Char} (h : n.read? cs = none) :
    ∃ body c rest n', cs = body ++ c :: rest ∧ n.read? body = some n' ∧ n'.next c = none := by
  induction cs generalizing n with
  | nil => cases h
  | cons c cs ih =>
    cases hnext : n.next c with
    | none => exact ⟨[], c, cs, n, rfl, rfl, hnext⟩
    | some m =>
      rw [read?_cons, hnext, Option.bind_some] at h
      obtain ⟨body, d, rest, n', rfl, hread, hcloses⟩ := ih h
      refine ⟨c :: body, d, rest, n', rfl, ?_, hcloses⟩
      rw [read?_cons, hnext, Option.bind_some, hread]

theorem eq_of_next_eq_none {c : Char} (h : n.next c = none) : c = '\x7d' := by
  unfold next at h
  split at h
  · split at h <;> cases h
  · split at h
    · cases h
    · split at h
      · cases h
      · split at h
        next hc => exact hc
        · cases h

end Nesting

/-! ## Reading an expression -/

/-- The nesting inside of an expression is the depth of what is read of it, opening included. -/
theorem read?_opening {n : Nesting} {body : List Char} : Nesting.read? {} body = some n ↔
    (∀ p, p <+: body → 0 < depth (opening ++ p)) ∧
      n = ⟨(depth (opening ++ body)).toNat, body.foldl quoteAfter none⟩ := by
  simp only [depth_opening_append]
  exact Nesting.read?_eq_some_iff (by decide)

/-- So there is always a brace left to close. -/
theorem depth_pos_of_read? {n : Nesting} {body : List Char} (h : Nesting.read? {} body = some n) :
    0 < n.depth := by
  obtain ⟨hpositive, rfl⟩ := read?_opening.mp h
  have hdepth := hpositive body (List.prefix_refl body)
  show 0 < Int.toNat _
  omega

theorem unclosed_iff {body : List Char} :
    Unclosed (opening ++ body) ↔ ∃ n, Nesting.read? {} body = some n := by
  constructor
  · rintro ⟨body', heq, hpositive⟩
    obtain rfl := List.append_cancel_left heq
    exact ⟨_, read?_opening.mpr ⟨hpositive, rfl⟩⟩
  · rintro ⟨n, hread⟩
    exact ⟨body, rfl, (read?_opening.mp hread).1⟩

theorem closed_iff {body : List Char} {c : Char} : Closed (opening ++ (body ++ [c])) ↔
    ∃ n, Nesting.read? {} body = some n ∧ n.next c = none := by
  -- what the character adds to the depth
  have hdepth : depth (opening ++ (body ++ [c])) =
      depth (opening ++ body) + depthFrom (body.foldl quoteAfter none) [c] := by
    rw [← List.append_assoc]
    exact depthFrom_append none (opening ++ body) [c]
  have hcloses : ∀ {n : Nesting}, Nesting.read? {} body = some n →
      (n.next c = none ↔ depth (opening ++ (body ++ [c])) = 0) := by
    intro n hread
    rw [Nesting.next_eq (depth_pos_of_read? hread), hdepth]
    obtain ⟨hpositive, rfl⟩ := read?_opening.mp hread
    have hinside := hpositive body (List.prefix_refl body)
    simp only [Int.toNat_of_nonneg (Int.le_of_lt hinside), ite_eq_left_iff, reduceCtorEq, imp_false,
      Decidable.not_not]
  constructor
  · rintro ⟨body', heq, hzero, hpositive⟩
    rw [List.append_assoc] at heq
    obtain ⟨rfl, -⟩ := List.append_inj' (List.append_cancel_left heq) rfl
    have hread := read?_opening.mpr ⟨hpositive, rfl⟩
    exact ⟨_, hread, (hcloses hread).mpr hzero⟩
  · rintro ⟨n, hread, hnext⟩
    obtain rfl := Nesting.eq_of_next_eq_none hnext
    refine ⟨body, (List.append_assoc ..).symm, (hcloses hread).mp hnext, (read?_opening.mp hread).1⟩

/-- What begins with an opening begins with an expression. -/
theorem exists_expression {cs : List Char} (h : opening <+: cs) :
    ∃ expression rest, cs = expression ++ rest ∧
      (Closed expression ∨ Unclosed expression ∧ rest = []) := by
  obtain ⟨inside, rfl⟩ := h
  cases hread : Nesting.read? {} inside with
  | some n => exact ⟨_, [], (List.append_nil _).symm, .inr ⟨unclosed_iff.mpr ⟨n, hread⟩, rfl⟩⟩
  | none =>
    obtain ⟨body, c, rest, n, rfl, hbody, hnext⟩ := Nesting.exists_next_eq_none hread
    exact ⟨opening ++ (body ++ [c]), rest, by simp, .inl (closed_iff.mpr ⟨n, hbody, hnext⟩)⟩

theorem cut_of_read? {n n' : Nesting} {body : List Char} (h : n.read? body = some n')
    (reversed rest : List Char) : cut (.expression reversed n) (body ++ rest) =
      cut (.expression (body.reverse ++ reversed) n') rest := by
  induction body generalizing n reversed with
  | nil =>
    cases h
    rfl
  | cons c body ih =>
    rw [Nesting.read?_cons] at h
    obtain ⟨m, hnext, hbody⟩ := Option.bind_eq_some_iff.mp h
    rw [List.cons_append, cut, hnext]
    refine (ih hbody _).trans ?_
    simp

/-- The reading cuts an expression where it ends. -/
theorem ofChars_closed {expression : List Char} (h : Closed expression) (rest : List Char) :
    ofChars (expression ++ rest) = ⟨expression, true⟩ :: ofChars rest := by
  obtain ⟨body, rfl, -⟩ := id h
  rw [List.append_assoc] at h
  obtain ⟨n, hread, hnext⟩ := closed_iff.mp h
  show cut (.expression ['\x7b', '$'] {}) (body ++ ['\x7d'] ++ rest) = _
  rw [List.append_assoc, cut_of_read? hread]
  show cut (.expression _ n) ('\x7d' :: rest) = _
  rw [cut, hnext]
  simp [opening, ofChars]

theorem ofChars_unclosed {expression : List Char} (h : Unclosed expression) :
    ofChars expression = [⟨expression, true⟩] := by
  obtain ⟨body, rfl, -⟩ := id h
  obtain ⟨n, hread⟩ := unclosed_iff.mp h
  have hcut := cut_of_read? hread ['\x7b', '$'] []
  rw [List.append_nil] at hcut
  refine hcut.trans ?_
  simp [cut, Run.finish, opening]

theorem ofChars_expression {expression rest : List Char}
    (h : Closed expression ∨ Unclosed expression ∧ rest = []) :
    ofChars (expression ++ rest) = ⟨expression, true⟩ :: ofChars rest := by
  rcases h with hclosed | ⟨hunclosed, rfl⟩
  · exact ofChars_closed hclosed rest
  · rw [List.append_nil]
    exact ofChars_unclosed hunclosed

end Segment

end PropertySheet
