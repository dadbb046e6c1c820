import Mathlib.Data.List.Chain
import PropertySheet.Proofs.Expression.Grammar

/-!
# The segmentation of a text

`Segmentation` puts the conditions on literal runs and on expressions together. They leave one
choice of segments for each text, and that is the one which the reading comes to (`ofChars_eq_iff`).
A segment on its own meets the same conditions, so it is read as itself.
-/

namespace PropertySheet

namespace Segment

/-- The text of segments, one after the other. -/
def join (segs : List Segment) : List Char := segs.flatMap (·.chars)

/-- What the segments of a text are. -/
structure Segmentation (cs : List Char) (segs : List Segment) : Prop where
  text : join segs = cs
  nonempty : ∀ s ∈ segs, s.chars ≠ []
  /-- No two literal runs meet. -/
  alternate : segs.IsChain fun s t => s.isExpression ∨ t.isExpression
  literal : ∀ before s after, segs = before ++ s :: after → s.isExpression = false →
    EndsAt s.chars (join after)
  expression : ∀ before s after, segs = before ++ s :: after → s.isExpression = true →
    Closed s.chars ∨ Unclosed s.chars ∧ after = []

/-- What the first segment has to be for those behind it. -/
structure Leads (s : Segment) (segs : List Segment) : Prop where
  nonempty : s.chars ≠ []
  alternate : ∀ t ∈ segs.head?, s.isExpression ∨ t.isExpression
  literal : s.isExpression = false → EndsAt s.chars (join segs)
  expression : s.isExpression = true → Closed s.chars ∨ Unclosed s.chars ∧ segs = []

theorem join_cons (s : Segment) (segs : List Segment) : join (s :: segs) = s.chars ++ join segs :=
  rfl

/-- A condition on what is behind each element, by the elements one after the other. -/
theorem forall_split_cons {α : Type} {p : α → List α → Prop} {x : α} {xs : List α} :
    (∀ before y after, x :: xs = before ++ y :: after → p y after) ↔
      p x xs ∧ ∀ before y after, xs = before ++ y :: after → p y after := by
  constructor
  · intro h
    exact ⟨h [] x xs rfl, fun before y after heq => h (x :: before) y after (congrArg _ heq)⟩
  · rintro ⟨hhead, htail⟩ before y after heq
    cases before with
    | nil =>
      obtain ⟨rfl, rfl⟩ := List.cons.inj heq
      exact hhead
    | cons z before => exact htail before y after (List.cons.inj heq).2

theorem Segmentation.nil : Segmentation [] [] where
  text := rfl
  nonempty _ hs := absurd hs List.not_mem_nil
  alternate := .nil
  literal before s after heq := by simp at heq
  expression before s after heq := by simp at heq

theorem segmentation_cons {cs : List Char} {s : Segment} {segs : List Segment} :
    Segmentation cs (s :: segs) ↔
      ∃ rest, cs = s.chars ++ rest ∧ Segmentation rest segs ∧ Leads s segs := by
  constructor
  · rintro ⟨rfl, hnonempty, halternate, hliteral, hexpression⟩
    obtain ⟨hfirst, hnonempty⟩ := List.forall_mem_cons.mp hnonempty
    obtain ⟨hnext, halternate⟩ := List.isChain_cons.mp halternate
    obtain ⟨hends, hliteral⟩ :=
      (forall_split_cons (p := fun (s : Segment) after => s.isExpression = false →
        EndsAt s.chars (join after))).mp hliteral
    obtain ⟨hcloses, hexpression⟩ :=
      (forall_split_cons (p := fun (s : Segment) after => s.isExpression = true →
        Closed s.chars ∨ Unclosed s.chars ∧ after = [])).mp hexpression
    exact ⟨join segs, join_cons s segs, ⟨rfl, hnonempty, halternate, hliteral, hexpression⟩,
      ⟨hfirst, hnext, hends, hcloses⟩⟩
  · rintro ⟨_, rfl, ⟨rfl, hnonempty, halternate, hliteral, hexpression⟩, hleads⟩
    exact
      { text := join_cons s segs
        nonempty := List.forall_mem_cons.mpr ⟨hleads.nonempty, hnonempty⟩
        alternate := List.isChain_cons.mpr ⟨hleads.alternate, halternate⟩
        literal := forall_split_cons.mpr ⟨hleads.literal, hliteral⟩
        expression := forall_split_cons.mpr ⟨hleads.expression, hexpression⟩ }

theorem opens_of_expression {expression : List Char} {p : Prop}
    (h : Closed expression ∨ Unclosed expression ∧ p) : opening <+: expression := by
  rcases h with ⟨body, rfl, -⟩ | ⟨⟨body, rfl, -⟩, -⟩
  · exact ⟨body ++ ['\x7d'], by simp⟩
  · exact List.prefix_append _ _

/-- Behind a literal run the text is over or begins with an opening. -/
theorem Leads.eq_nil_or_opens {cs : List Char} {s : Segment} {segs : List Segment}
    (h : Leads s segs) (hliteral : s.isExpression = false) (hrest : Segmentation cs segs) :
    cs = [] ∨ opening <+: cs := by
  cases segs with
  | nil => exact .inl hrest.text.symm
  | cons t segs =>
    have hexpression : t.isExpression = true := by
      simpa [hliteral] using h.alternate t rfl
    obtain ⟨rest, rfl, -, hleads⟩ := segmentation_cons.mp hrest
    have hopens := opens_of_expression (hleads.expression hexpression)
    exact .inr (hopens.trans (List.prefix_append _ _))

/-- The reading comes to the segmentation of the text. -/
theorem Segmentation.ofChars_eq {cs : List Char} {segs : List Segment} (h : Segmentation cs segs) :
    ofChars cs = segs := by
  induction segs generalizing cs with
  | nil =>
    obtain rfl := h.text
    rfl
  | cons s segs ih =>
    obtain ⟨rest, rfl, hrest, hleads⟩ := segmentation_cons.mp h
    obtain ⟨chars, isExpression⟩ := s
    cases isExpression with
    | false =>
      have hends : EndsAt chars rest := hrest.text ▸ hleads.literal rfl
      have hreads := hends.reads (hleads.eq_nil_or_opens rfl hrest)
      refine (cut_of_reads hreads []).trans ?_
      rw [ih hrest]
      simp [Run.finish, hleads.nonempty]
    | true =>
      have hexpression : Closed chars ∨ Unclosed chars ∧ rest = [] :=
        (hleads.expression rfl).imp_right fun hlast =>
          ⟨hlast.1, by rw [← hrest.text, hlast.2]; rfl⟩
      rw [ofChars_expression hexpression, ih hrest]

/-- Only an expression begins with an opening. -/
theorem Segmentation.isExpression_head {cs : List Char} {segs : List Segment}
    (h : Segmentation cs segs) (hcs : cs = [] ∨ opening <+: cs) :
    ∀ s ∈ segs.head?, s.isExpression := by
  cases segs with
  | nil => exact fun s hs => by cases hs
  | cons s segs =>
    rintro s ⟨⟩
    obtain ⟨rest, rfl, hrest, hleads⟩ := segmentation_cons.mp h
    by_contra hliteral
    rw [Bool.not_eq_true] at hliteral
    rcases hcs with hnil | ⟨v, hv⟩
    · exact hleads.nonempty (List.append_eq_nil_iff.mp hnil).1
    · have hends := hleads.literal hliteral [] v (hrest.text ▸ hv.symm) (Nat.zero_le _)
      exact hleads.nonempty (List.length_eq_zero_iff.mp (hends.mpr (by decide)).symm)

/-- Every text has a segmentation. -/
theorem exists_segmentation (cs : List Char) : ∃ segs, Segmentation cs segs := by
  -- a literal run in front leaves a text that begins with an expression, and one that is empty
  -- leaves the expression itself
  induction hlength : cs.length using Nat.strongRecOn generalizing cs with
  | _ length ih =>
    obtain ⟨literal, rest, rfl, hreads⟩ := exists_reads cs
    by_cases hliteral : literal = []
    · subst hliteral
      cases hreads with
      | nil hrest =>
      obtain rfl | hopening := hrest
      · exact ⟨[], .nil⟩
      · obtain ⟨expression, rest, rfl, hexpression⟩ := exists_expression hopening
        have hlong : 2 ≤ expression.length := (opens_of_expression hexpression).length_le
        have hnonempty : expression ≠ [] := List.ne_nil_of_length_pos (by omega)
        rw [List.nil_append, List.length_append] at hlength
        obtain ⟨segs, hsegs⟩ := ih rest.length (by omega) rest rfl
        refine ⟨⟨expression, true⟩ :: segs, segmentation_cons.mpr ⟨rest, rfl, hsegs, ?_⟩⟩
        exact
          { nonempty := hnonempty
            alternate := fun _ _ => .inl rfl
            literal := fun h => Bool.noConfusion h
            expression := fun _ => hexpression.imp_right fun hlast =>
              ⟨hlast.1, by rw [← hsegs.ofChars_eq, hlast.2]; rfl⟩ }
    · have hlong := List.length_pos_iff.mpr hliteral
      rw [List.length_append] at hlength
      obtain ⟨segs, hsegs⟩ := ih rest.length (by omega) rest rfl
      refine ⟨⟨literal, false⟩ :: segs, segmentation_cons.mpr ⟨rest, rfl, hsegs, ?_⟩⟩
      exact
        { nonempty := hliteral
          alternate := fun t ht => .inr (hsegs.isExpression_head hreads.rest t ht)
          literal := fun _ => hsegs.text ▸ hreads.endsAt
          expression := fun h => Bool.noConfusion h }

/-- The segments that the reading comes to are the only ones that meet the conditions. -/
theorem ofChars_eq_iff {cs : List Char} {segs : List Segment} :
    ofChars cs = segs ↔ Segmentation cs segs := by
  refine ⟨fun h => ?_, Segmentation.ofChars_eq⟩
  obtain ⟨segs', hsegs⟩ := exists_segmentation cs
  rwa [← h, hsegs.ofChars_eq]

/-- The end of a literal run does not depend on what the text goes on with. -/
theorem EndsAt.alone {literal rest : List Char} (h : EndsAt literal rest) : EndsAt literal [] := by
  intro u v heq hle
  rw [List.append_nil] at heq
  exact h u (v ++ rest) (by rw [heq, List.append_assoc]) hle

/-- A segment of a text is the only segment of its own text. -/
theorem Segmentation.singleton {cs : List Char} {segs : List Segment} (h : Segmentation cs segs)
    {s : Segment} (hs : s ∈ segs) : Segmentation s.chars [s] := by
  obtain ⟨before, after, hsplit⟩ := List.append_of_mem hs
  refine segmentation_cons.mpr ⟨[], (List.append_nil _).symm, .nil, ?_⟩
  exact
    { nonempty := h.nonempty s hs
      alternate := fun t ht => by cases ht
      literal := fun hliteral => (h.literal before s after hsplit hliteral).alone
      expression := fun hexpression =>
        (h.expression before s after hsplit hexpression).imp_right fun hlast => ⟨hlast.1, rfl⟩ }

end Segment

end PropertySheet
