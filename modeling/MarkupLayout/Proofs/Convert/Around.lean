import MarkupLayout.Proofs.Convert.Bare
import MarkupLayout.Proofs.Convert.Drafted
import MarkupLayout.Proofs.Layout.Site

/-!
# Drafting around a site

Of a child that makes a node, the element around it looks at no more than a run, a row or a grid does. So
as long as the node stays alike, what is drafted above the child is always the same, or it has the node in
one site.
-/

namespace MarkupLayout.Convert

open Layout

/-- Markup with a place for a piece, outside of drawings; the elements are those around the piece, outermost
first. -/
inductive Within (piece : Markup) : List Element → (Markup → Markup) → Prop where
  | here : Within piece [] id
  | inside {outer : Tag} {above : List Element} {place : Markup → Markup} (before after : List Markup)
      (hKind : Kind.of outer ≠ .drawing) (h : Within piece above place) :
      Within piece (⟨outer, before ++ place piece :: after⟩ :: above) fun m =>
        .element outer (before ++ place m :: after)

section Around

variable (d : Design) {path : List Tag} {tag : Tag} {site : Node Source → Node Source} {base : Node Source}

/-- What is made of nodes one of which may vary: always the same, or a node with a site in it. -/
def MadeAround (base : Node Source) (result : Node Source → Except Fault (Node Source)) : Prop :=
  (∃ fixed, ∀ n, Twins n base → result n = fixed) ∨
    ∃ frame wrap left inner right, Wraps wrap ∧ Site inner ∧
      ∀ n, Twins n base → result n = .ok (.node frame (wrap (left ++ inner n :: right)))

theorem Design.plainFrame_beside (hSite : Site site) {n : Node Source} (h : Twins n base)
    (path : List Tag) (frame : Frame) (children : List Markup) (before after : List (Node Source)) :
    d.plainFrame path frame children (before ++ site n :: after) =
      d.plainFrame path frame children (before ++ site base :: after) := by
  rw [plainFrame, plainFrame, anyBlock_beside (hSite.alike h.toAlike).block]

theorem Design.table_around (hSite : Site site) (base : Node Source) (before after : List (Node Source))
    (frame : Frame) (notes : SortedMap Json) :
    MadeAround base fun n =>
      let grid := expandSpans (rowsOf (before ++ site n :: after))
      .ok (.node frame (.table grid (d.tableForm grid notes))) := by
  rcases hSite.rowsAround base before after with
    ⟨rows, hRows⟩ | ⟨above, left, inner, right, below, hInner, hRows⟩
  · let grid := expandSpans rows
    refine .inl ⟨.ok (.node frame (.table grid (d.tableForm grid notes))), fun n hn => ?_⟩
    simp only [hRows n hn, grid]
  · obtain ⟨upper, first, last, lower, hGrid⟩ :=
      exists_expandSpans_around (inner base) above left right below
    let form := d.tableForm (upper ++ (first ++ inner base :: last) :: lower) notes
    refine .inr ⟨frame, _, first, inner, last, .table upper lower form, hInner, fun n hn => ?_⟩
    have hAlike := hInner.alike hn.toAlike
    obtain ⟨hColumns, hHeights⟩ := hAlike.tracks upper first last lower
    have hForm : d.tableForm (upper ++ (first ++ inner n :: last) :: lower) notes = form := by
      simp only [form, tableForm, hColumns, hHeights]
    simp only [hRows n hn, hGrid _ hAlike, hForm]

theorem Design.assemble_around (hSite : Site site) (hTag : base.frame.tag.isSome) (path : List Tag)
    (tag : Tag) (children : List Markup) (before after : List (Node Source)) :
    MadeAround base fun n => d.assemble path tag children (before ++ site n :: after) := by
  obtain ⟨wrap, hWraps, hBody⟩ := hSite.exists_wraps_collapse hTag before after
  have hPlain {n : Node Source} (h : Twins n base) (frame : Frame) :=
    d.plainFrame_beside hSite h path frame children before after
  have hRun {frame : Node Source → Frame} (hFrame : ∀ n, Twins n base → frame n = frame base) :
      MadeAround base fun n =>
        .ok (.node (frame n) (Body.ofChildren (before ++ site n :: after)).collapse) := by
    refine .inr ⟨frame base, wrap, before, site, after, hWraps, hSite, fun n hn => ?_⟩
    simp only [hFrame n hn, hBody n hn.toAlike]
  have hFixed {result : Node Source → Except Fault (Node Source)}
      (h : ∀ n, Twins n base → result n = result base) : MadeAround base result :=
    .inl ⟨result base, h⟩
  simp only [assemble]
  cases Kind.of tag with
  | table => exact d.table_around hSite base before after _ _
  | cell => exact hRun fun n hn => rfl
  | font => exact hRun fun n hn => rfl
  | list ordered => exact .inr ⟨_, _, before, site, after, .list ordered _, hSite, fun n hn => rfl⟩
  | picture => exact hFixed fun n hn => rfl
  | divider => exact hFixed fun n hn => by simp only [hPlain hn]
  | lineBreak => exact hFixed fun n hn => by simp only [hPlain hn]
  | _ => exact hRun fun n hn => by simp only [hPlain hn]

end Around

section Drafting

variable (d : Design) {path : List Element} {depth : Nat} {tag : Tag}

theorem Design.draftAll_beside (path : List Element) (parent : Tag) (depth : Nat) (before after : List Markup)
    (m : Markup) : d.draftAll path parent depth (before ++ m :: after) =
      ((d.draftAll path parent depth before).1 ++ made (d.draft path depth m).1 ++
          (d.draftAll path parent depth after).1,
        (d.draftAll path parent depth before).2 ++ ((d.draft path depth m).2 ++
          reported parent (childName m) (d.draft path depth m).1) ++
          (d.draftAll path parent depth after).2) := by
  apply Prod.ext
  · rw [d.draftAll_append, d.draftAll_cons, List.append_assoc]
  · rw [d.steps_draftAll_append, d.steps_draftAll_cons]
    simp only [List.append_assoc]

/-- What taking a finished body asks for, if there is one. -/
def finished : Except Fault (Node Source) → List Step
  | .ok n => requestSteps n.body
  | .error _ => []

theorem Design.draft_eq_assembled (hDepth : depth ≤ d.maxDepth)
    (hKind : Kind.of tag ≠ .ignored ∧ Kind.of tag ≠ .drawing) (children : List Markup) :
    d.draft path depth (.element tag children) =
      let drafted := d.draftAll (path ++ [⟨tag, children⟩]) tag (depth + 1) children
      let assembled := d.assemble (tags path ++ [tag]) tag children drafted.1
      (assembled.map some, drafted.2 ++ finished assembled) := by
  rw [draft, if_neg (Nat.not_lt.mpr hDepth)]
  split
  · next h => exact absurd h hKind.1
  · next h => exact absurd h hKind.2
  · dsimp only
    split
    · next h => rw [h]; simp [finished, Except.map]
    · next h => rw [h]; rfl

section Beside

variable {d} (hHook : d.HookBare) (before after : List Markup) {m other shown : Markup}

include hHook

theorem Design.draftAll_bare_beside (hBare : m.bare = shown.bare) (children : List Markup) :
    d.draftAll (path ++ [⟨tag, before ++ m :: after⟩]) tag (depth + 1) children =
      d.draftAll (path ++ [⟨tag, before ++ shown :: after⟩]) tag (depth + 1) children :=
  draftAll_eq_of_seesAlike (seesAlike_beside hHook path tag before after hBare) rfl (depth + 1) children

theorem Design.draft_beside (hDepth : depth ≤ d.maxDepth)
    (hKind : Kind.of tag ≠ .ignored ∧ Kind.of tag ≠ .drawing) (hBare : m.bare = shown.bare)
    {n : Node Source} {steps : List Step}
    (h : d.draft (path ++ [⟨tag, before ++ shown :: after⟩]) (depth + 1) m = (.ok (some n), steps)) :
    d.draft path depth (.element tag (before ++ m :: after)) =
      let inner := path ++ [⟨tag, before ++ shown :: after⟩]
      let first := d.draftAll inner tag (depth + 1) before
      let last := d.draftAll inner tag (depth + 1) after
      let assembled := d.assemble (tags path ++ [tag]) tag (before ++ m :: after)
        (first.1 ++ n.settle :: last.1)
      (assembled.map some, first.2 ++ steps ++ last.2 ++ finished assembled) := by
  rw [d.draft_eq_assembled hDepth hKind, draftAll_bare_beside hHook before after hBare, d.draftAll_beside, h]
  simp only [made, reported, List.append_nil, List.append_assoc, List.singleton_append]

theorem Design.draft_beside_congr (hKind : Kind.of tag ≠ .drawing) (hm : m.bare = shown.bare)
    (hOther : other.bare = shown.bare)
    (h : d.draft (path ++ [⟨tag, before ++ shown :: after⟩]) (depth + 1) m =
      d.draft (path ++ [⟨tag, before ++ shown :: after⟩]) (depth + 1) other) :
    d.draft path depth (.element tag (before ++ m :: after)) =
      d.draft path depth (.element tag (before ++ other :: after)) := by
  have hName : childName m = childName other := (childName_of_bare hm).trans (childName_of_bare hOther).symm
  have hAll : d.draftAll (path ++ [⟨tag, before ++ m :: after⟩]) tag (depth + 1) (before ++ m :: after) =
      d.draftAll (path ++ [⟨tag, before ++ other :: after⟩]) tag (depth + 1) (before ++ other :: after) := by
    rw [draftAll_bare_beside hHook before after hm, draftAll_bare_beside hHook before after hOther,
      d.draftAll_beside, d.draftAll_beside, h, hName]
  have hEmpty : (before ++ m :: after).isEmpty = (before ++ other :: after).isEmpty := by
    rw [isEmpty_append_cons, isEmpty_append_cons]
  exact Prod.ext (d.draft_congr hKind hEmpty (congrArg Prod.fst hAll)) (d.steps_congr hAll hEmpty)

end Beside

section Within

variable {d} {piece : Markup} {above : List Element} {place : Markup → Markup}

theorem Within.bare_eq (hPlace : Within piece above place) {m other : Markup} (h : m.bare = other.bare) :
    (place m).bare = (place other).bare := by
  induction hPlace with
  | here => exact h
  | inside before after hKind hPlace ih =>
    simp only [Markup.bare, Markup.bareAll_append, Markup.bareAll, ih]

theorem Within.draft_congr (hHook : d.HookBare) (hPlace : Within piece above place) {m other : Markup}
    (hm : m.bare = piece.bare) (hOther : other.bare = piece.bare) {inner : List Element} {deep : Nat}
    (hInner : inner = path ++ above) (hDeep : deep = depth + above.length)
    (h : d.draft inner deep m = d.draft inner deep other) :
    d.draft path depth (place m) = d.draft path depth (place other) := by
  induction hPlace generalizing path depth with
  | here =>
    obtain rfl : inner = path := hInner.trans (List.append_nil path)
    obtain rfl : deep = depth := hDeep
    exact h
  | @inside outer above place before after hKind hPlace ih =>
    refine Design.draft_beside_congr hHook before after hKind (hPlace.bare_eq hm) (hPlace.bare_eq hOther)
      (ih ?_ ?_)
    · rw [hInner, List.append_assoc, List.singleton_append]
    · rw [hDeep, List.length_cons, Nat.add_assoc, Nat.add_comm 1]

/-- Markup that has the place of a piece and drafts to a node, which settles into a twin of another. -/
structure Stands (d : Design) (path : List Element) (depth : Nat) (piece : Markup) (steps : List Step)
    (base : Node Source) (m : Markup) (whole : Node Source) : Prop where
  bare : m.bare = piece.bare
  draft : d.draft path depth m = (.ok (some whole), steps)
  twins : Twins whole.settle base

/-- What is drafted around such pieces: always the same, or a node with a site in it. -/
def DraftedAround (stands : Markup → Node Source → Prop)
    (result : Markup → Except Fault (Option (Node Source)) × List Step) : Prop :=
  (∃ fixed, ∀ m whole, stands m whole → result m = fixed) ∨
    ∃ frame wrap left site right steps, Wraps wrap ∧ Site site ∧ ∀ m whole, stands m whole →
      result m = (.ok (some (.node frame (wrap (left ++ site whole.settle :: right)))), steps)

theorem finished_wraps {wrap : List (Node Source) → Body Source} (hWraps : Wraps wrap) (frame : Frame)
    (nodes : List (Node Source)) : finished (.ok (.node frame (wrap nodes))) = [] := by
  cases hWraps <;> rfl

theorem DraftedAround.of_same {stands : Markup → Node Source → Prop}
    {result : Markup → Except Fault (Option (Node Source)) × List Step}
    (h : ∀ m whole other otherWhole, stands m whole → stands other otherWhole → result m = result other) :
    DraftedAround stands result := by
  by_cases hAny : ∃ m whole, stands m whole
  · obtain ⟨other, otherWhole, hOther⟩ := hAny
    exact .inl ⟨result other, fun m whole hm => h m whole other otherWhole hm hOther⟩
  · exact .inl ⟨(.ok none, []), fun m whole hm => absurd ⟨m, whole, hm⟩ hAny⟩

theorem Design.draft_around (hHook : d.HookBare) {stands : Markup → Node Source → Prop} {base : Node Source}
    (hTwins : ∀ m whole, stands m whole → Twins whole.settle base) (hTag : base.frame.tag.isSome)
    (hKind : Kind.of tag ≠ .drawing) (before after : List Markup) {site : Node Source → Node Source}
    (hSite : Site site) (steps : List Step) {shown : Markup}
    (hBare : ∀ m whole, stands m whole → (place m).bare = shown.bare)
    (hDraft : ∀ m whole, stands m whole → ∃ n,
      d.draft (path ++ [⟨tag, before ++ shown :: after⟩]) (depth + 1) (place m) = (.ok (some n), steps) ∧
        n.settle = site whole.settle) :
    DraftedAround stands fun m => d.draft path depth (.element tag (before ++ place m :: after)) := by
  by_cases hDepth : depth ≤ d.maxDepth
  case neg =>
    refine .inl ⟨(.error (.nestingTooDeep d.maxDepth), []), fun m whole _ => ?_⟩
    dsimp only
    rw [draft, if_pos (Nat.lt_of_not_le hDepth)]
  by_cases hIgnored : Kind.of tag = .ignored
  · refine .inl ⟨(.ok none, []), fun m whole _ => ?_⟩
    dsimp only
    rw [draft, if_neg (Nat.not_lt.mpr hDepth), hIgnored]
  let inner := path ++ [⟨tag, before ++ shown :: after⟩]
  let first := d.draftAll inner tag (depth + 1) before
  let last := d.draftAll inner tag (depth + 1) after
  -- assembling only looks at whether there are children, so any may stand for the one that varies
  let children : List Markup := before ++ .text "" :: after
  let assembled (n : Node Source) :=
    d.assemble (tags path ++ [tag]) tag children (first.1 ++ site n :: last.1)
  have hResult (m : Markup) (whole : Node Source) (h : stands m whole) :
      d.draft path depth (.element tag (before ++ place m :: after)) =
        ((assembled whole.settle).map some,
          first.2 ++ steps ++ last.2 ++ finished (assembled whole.settle)) := by
    obtain ⟨n, hChild, hSettle⟩ := hDraft m whole h
    have hEmpty : (before ++ place m :: after).isEmpty = children.isEmpty := by
      rw [isEmpty_append_cons, isEmpty_append_cons]
    rw [draft_beside hHook before after hDepth ⟨hIgnored, hKind⟩ (hBare m whole h) hChild, hSettle]
    dsimp only
    rw [d.assemble_congr hEmpty]
  rcases d.assemble_around hSite hTag (tags path ++ [tag]) tag children first.1 last.1 with
    ⟨fixed, hFixed⟩ | ⟨frame, wrap, left, inside, right, hWraps, hInside, hMade⟩
  · refine .inl ⟨(fixed.map some, first.2 ++ steps ++ last.2 ++ finished fixed), fun m whole h => ?_⟩
    have hSame : assembled whole.settle = fixed := hFixed _ (hTwins m whole h)
    exact (hResult m whole h).trans (by rw [hSame])
  · refine .inr ⟨frame, wrap, left, inside, right, first.2 ++ steps ++ last.2, hWraps, hInside,
      fun m whole h => ?_⟩
    have hSame : assembled whole.settle = _ := hMade _ (hTwins m whole h)
    refine (hResult m whole h).trans ?_
    rw [hSame, finished_wraps hWraps, List.append_nil]
    rfl

/-- Whatever twin stands in a place below an element, it leaves what is drafted around it as it is. -/
theorem Within.draftedAround (hHook : d.HookBare) (hPlace : Within piece above place) {inner : List Element}
    {deep : Nat} {steps : List Step} {base : Node Source} (hTag : base.frame.tag.isSome)
    (hKind : Kind.of tag ≠ .drawing) (before after : List Markup)
    (hInner : inner = path ++ ⟨tag, before ++ place piece :: after⟩ :: above)
    (hDeep : deep = depth + (above.length + 1)) :
    DraftedAround (Stands d inner deep piece steps base) fun m =>
      d.draft path depth (.element tag (before ++ place m :: after)) := by
  induction hPlace generalizing path depth tag before after with
  | here =>
    subst hInner hDeep
    exact Design.draft_around hHook (fun m whole h => h.twins) hTag hKind before after .here steps
      (fun m whole h => h.bare) fun m whole h => ⟨whole, h.draft, rfl⟩
  | @inside outer above place first last hOuter hPlace ih =>
    have hBare (m : Markup) (whole : Node Source) (h : Stands d inner deep piece steps base m whole) :
        (Markup.element outer (first ++ place m :: last)).bare =
          (Markup.element outer (first ++ place piece :: last)).bare :=
      (Within.inside first last hOuter hPlace).bare_eq h.bare
    have hBelow : inner =
        (path ++ [⟨tag, before ++ .element outer (first ++ place piece :: last) :: after⟩]) ++
          ⟨outer, first ++ place piece :: last⟩ :: above := by
      rw [hInner, List.append_assoc, List.singleton_append]
    have hDeeper : deep = (depth + 1) + (above.length + 1) := by
      rw [hDeep, List.length_cons, Nat.add_assoc depth, Nat.add_comm 1]
    rcases ih hOuter first last hBelow hDeeper with
      ⟨fixed, hFixed⟩ | ⟨frame, wrap, left, site, right, others, hWraps, hSite, hDraft⟩
    · apply DraftedAround.of_same
      intro m whole other otherWhole hm hOther
      exact Design.draft_beside_congr hHook before after hKind (hBare m whole hm)
        (hBare other otherWhole hOther) ((hFixed m whole hm).trans (hFixed other otherWhole hOther).symm)
    · refine Design.draft_around hHook (fun m whole h => h.twins) hTag hKind before after
        (.inside frame hWraps left right hSite) others hBare fun m whole h => ⟨_, hDraft m whole h, ?_⟩
      exact hWraps.settle frame (List.append_ne_nil_of_right_ne_nil _ (List.cons_ne_nil _ _))

end Within

end Drafting

end MarkupLayout.Convert
