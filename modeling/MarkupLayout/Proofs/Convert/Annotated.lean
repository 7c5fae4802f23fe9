import MarkupLayout.Proofs.Convert.Around
import MarkupLayout.Proofs.Convert.Bare
import MarkupLayout.Proofs.Convert.Taking

/-!
# Annotations stay with their node

The node of an element has its annotations for overrides; a table keeps them with its form, and a
dividing line is drawn by them. What is around a node does not look at any of that, so that whatever the
annotations of an element are, the layout is the same around a site, and what is in the site differs
in its annotations only.
-/

namespace MarkupLayout

theorem SortedMap.insert_insert {α : Type} (map : SortedMap α) (key : String) (value last : α) :
    (map.insert key value).insert key last = map.insert key last := by
  apply ext_get?
  intro other
  simp only [get?_insert]
  split <;> rfl

namespace Convert

open Layout

/-- The node with other annotations; the kind is that of its element. -/
def annotate {Picture : Type} (kind : Kind) (notes : SortedMap Json) : Node Picture → Node Picture
  | .node frame body =>
    match kind, body with
    | .table, .table grid form =>
      .node { frame with layout := notes.get? "layout" }
        (.table grid { form with extra := notes.erase "layout" })
    | .divider, .line _ =>
      let divider := Divider.ofAnnotations notes
      let margin := Style.Value.ofJson "margin" divider.margin
      .node { frame with style := frame.style.insert "margin" margin } (.line divider.line)
    | _, body => .node { frame with overrides := notes } body

section Annotate

variable {Picture Other : Type} (kind : Kind) (notes : SortedMap Json)

theorem twins_annotate (n : Node Picture) : Twins (annotate kind notes n) n := by
  fun_cases annotate kind notes n with
  | case1 frame grid form => exact ⟨⟨rfl, rfl, rfl, rfl, rfl, rfl⟩, rfl⟩
  | case2 frame segment divider margin =>
    have hSize {key : String} (hKey : key ≠ "margin") :
        StyleMap.number? (frame.style.insert "margin" margin) key = frame.style.number? key := by
      rw [StyleMap.number?, SortedMap.get?_insert_of_ne hKey, StyleMap.number?]
    refine ⟨⟨rfl, rfl, rfl, rfl, ?_, ?_⟩, rfl⟩
    · exact congrArg (Option.map _) (hSize (by decide))
    · exact congrArg (Option.map _) (hSize (by decide))
  | case3 frame body => exact ⟨⟨rfl, rfl, rfl, rfl, rfl, rfl⟩, rfl⟩

theorem settle_annotate (n : Node Picture) :
    (annotate kind notes n).settle = annotate kind notes n.settle := by
  obtain ⟨frame, body⟩ := n
  cases body with
  | inline nodes => cases nodes <;> cases kind <;> rfl
  | _ => cases kind <;> rfl

theorem mapPicture_annotate (f : Picture → Other) (n : Node Picture) :
    (annotate kind notes n).mapPicture f = annotate kind notes (n.mapPicture f) := by
  obtain ⟨frame, body⟩ := n
  cases body <;> cases kind <;> rfl

theorem requestSteps_annotate (n : Node Source) :
    requestSteps (annotate kind notes n).body = requestSteps n.body := by
  obtain ⟨frame, body⟩ := n
  cases body <;> cases kind <;> rfl

theorem rootContent_annotate (drafted : Except Fault (Option (Node Source))) :
    rootContent (drafted.map (Option.map (annotate kind notes))) = rootContent drafted := by
  rcases drafted with fault | _ | ⟨frame, body⟩
  · rfl
  · rfl
  · cases body <;> cases kind <;> rfl

end Annotate

namespace Design

variable (d : Design) {tag other : Tag}

theorem assemble_annotate (h : other.bare = tag.bare) (path : List Tag) (children : List Markup)
    (nodes : List (Node Source)) : d.assemble path other children nodes =
      (d.assemble path tag children nodes).map (annotate (Kind.of tag) (annotations other)) := by
  have hKind : Kind.of other = Kind.of tag := Kind.of_eq_of_bare h
  have hName : other.name = tag.name := (Tag.mk.inj h).1
  have hAttr {key : String} (hKey : key ≠ annotationAttr) : other.attr? key = tag.attr? key := by
    rw [← other.attr?_bare hKey, h, tag.attr?_bare hKey]
  have hPresent {key : String} (hKey : key ≠ annotationAttr) : other.present? key = tag.present? key := by
    rw [Tag.present?, hAttr hKey, Tag.present?]
  have hSpan {key : String} (hKey : key ≠ annotationAttr) : spanAttr? other key = spanAttr? tag key := by
    rw [spanAttr?, hPresent hKey, spanAttr?]
  have hFont : d.fontStyle other = d.fontStyle tag := by
    rw [fontStyle, hPresent (by decide), hPresent (by decide), fontStyle]
  rw [assemble, assemble, hKind, hName, hFont, hSpan (by decide), hSpan (by decide), hAttr (by decide),
    hPresent (by decide)]
  cases Kind.of tag with
  | picture =>
    dsimp only
    cases tag.present? "src" <;> rfl
  | divider =>
    simp only [Except.map, annotate, SortedMap.insert_insert]
  | _ => rfl

theorem draft_annotate (hHook : d.HookBare) (h : other.bare = tag.bare) (hKind : Kind.of tag ≠ .drawing)
    (path : List Element) (depth : Nat) (children : List Markup) :
    d.draft path depth (.element other children) =
      ((d.draft path depth (.element tag children)).1.map
        (Option.map (annotate (Kind.of tag) (annotations other))),
      (d.draft path depth (.element tag children)).2) := by
  have hElement : (Element.mk other children).bare = (Element.mk tag children).bare := by
    rw [Element.bare, h, Element.bare]
  have hNodes := draftAll_eq_of_seesAlike (seesAlike_concat hHook path hElement) (kind_eq_of_bare h)
    (depth + 1) children
  have hPath := map_bare_concat (Eq.refl ((tags path).map Tag.bare)) h
  rw [draft, draft, Kind.of_eq_of_bare h]
  split
  · rfl
  split
  · rfl
  · next hDrawing => exact absurd hDrawing hKind
  · dsimp only
    rw [hNodes, d.assemble_eq_of_bare hPath, d.assemble_annotate h]
    cases d.assemble (tags path ++ [tag]) tag children
        (d.draftAll (path ++ [⟨tag, children⟩]) tag (depth + 1) children).1 with
    | error fault => rfl
    | ok n =>
      simp only [Except.map, requestSteps_annotate]
      rfl

end Design

section Conversions

variable (d : Design) {path : List Element} {depth : Nat} {tag : Tag}

variable (hHook : d.HookBare) (hKind : Kind.of tag ≠ .drawing) {children : List Markup}

theorem element_bare {other : Tag} (h : other.bare = tag.bare) (children : List Markup) :
    (Markup.element other children).bare = (Markup.element tag children).bare := by
  rw [Markup.bare, h, Markup.bare]

theorem Design.tag_isSome_of_draft {n : Node Source}
    (h : n ∈ made (d.draft path depth (.element tag children)).1) : n.frame.tag.isSome := by
  by_cases hDepth : depth ≤ d.maxDepth
  · rw [(d.makes_draft hDepth).frame_tag n h]
    rfl
  · rw [d.made_deep hDepth] at h
    cases h

theorem exists_whole_of_made {drafted : Except Fault (Option (Node Source)) × List Step}
    (h : made drafted.1 ≠ []) : ∃ whole, drafted = (.ok (some whole), drafted.2) := by
  rcases drafted with ⟨fault | _ | whole, steps⟩
  · exact absurd rfl h
  · exact absurd rfl h
  · exact ⟨whole, rfl⟩

include hHook hKind

theorem Design.draft_annotate_of_unmade (hMade : made (d.draft path depth (.element tag children)).1 = [])
    {other : Tag} (h : other.bare = tag.bare) :
    d.draft path depth (.element other children) = d.draft path depth (.element tag children) := by
  rw [d.draft_annotate hHook h hKind]
  rcases hDraft : d.draft path depth (.element tag children) with ⟨fault | _ | whole, steps⟩
  · rfl
  · rfl
  · rw [hDraft] at hMade
    cases hMade

theorem Design.stands_annotate {whole : Node Source} {steps : List Step}
    (hDraft : d.draft path depth (.element tag children) = (.ok (some whole), steps)) {other : Tag}
    (h : other.bare = tag.bare) :
    Stands d path depth (.element tag children) steps whole.settle (.element other children)
      (annotate (Kind.of tag) (annotations other) whole) where
  bare := element_bare h children
  draft := by
    rw [d.draft_annotate hHook h hKind, hDraft]
    rfl
  twins := by
    rw [settle_annotate]
    exact twins_annotate ..

variable {above : List Element} {place : Markup → Markup}

theorem Within.draft_annotated (hPlace : Within (.element tag children) above place) {outer : Tag}
    (hOuter : Kind.of outer ≠ .drawing) (before after : List Markup) :
    let around : Element := ⟨outer, before ++ place (.element tag children) :: after⟩
    (∃ fixed, ∀ other, other.bare = tag.bare →
      d.draft [] 0 (.element outer (before ++ place (.element other children) :: after)) = fixed) ∨
    ∃ n frame wrap left site right steps,
      made (d.draft (around :: above) (above.length + 1) (.element tag children)).1 = [n] ∧
      Wraps wrap ∧ Site site ∧ ∀ other, other.bare = tag.bare →
        d.draft [] 0 (.element outer (before ++ place (.element other children) :: after)) =
          (.ok (some (.node frame
            (wrap (left ++ site (annotate (Kind.of tag) (annotations other) n) :: right)))), steps) := by
  intro around
  by_cases hMade : made (d.draft (around :: above) (above.length + 1) (.element tag children)).1 = []
  · have hAround : Within (.element tag children) (around :: above) fun m =>
        .element outer (before ++ place m :: after) :=
      .inside before after hOuter hPlace
    refine .inl ⟨d.draft [] 0 (.element outer (before ++ place (.element tag children) :: after)),
      fun other hOther => ?_⟩
    have hSame := d.draft_annotate_of_unmade hHook hKind hMade hOther
    exact hAround.draft_congr hHook (element_bare hOther children) rfl (List.nil_append _).symm
      (Nat.zero_add _).symm hSame
  obtain ⟨whole, hDraft⟩ := exists_whole_of_made hMade
  have hOwn : made (d.draft (around :: above) (above.length + 1) (.element tag children)).1 =
      [whole.settle] := by
    rw [hDraft]
    rfl
  have hTag : whole.settle.frame.tag.isSome := by
    apply d.tag_isSome_of_draft
    rw [hOwn]
    exact List.mem_singleton_self _
  have hStands (other : Tag) (hOther : other.bare = tag.bare) :=
    d.stands_annotate hHook hKind hDraft hOther
  rcases hPlace.draftedAround hHook hTag hOuter before after rfl (Nat.zero_add _).symm with
    ⟨fixed, hResult⟩ | ⟨frame, wrap, left, site, right, others, hWraps, hSite, hResult⟩
  · exact .inl ⟨fixed, fun other hOther => hResult _ _ (hStands other hOther)⟩
  · refine .inr ⟨whole.settle, frame, wrap, left, site, right, others, hOwn, hWraps, hSite,
      fun other hOther => ?_⟩
    rw [← settle_annotate]
    exact hResult _ _ (hStands other hOther)

/-- Whatever the annotations of an element are, the draft of a tree takes the same steps, and it has the
same content or the node of the element in one site. -/
theorem Design.draftRoot_annotated (hPlace : Within (.element tag children) above place) :
    (∃ drafted, ∀ other root, other.bare = tag.bare → root.toMarkup = place (.element other children) →
      d.draftRoot root = drafted) ∨
    ∃ n before site behind steps, made (d.draft above above.length (.element tag children)).1 = [n] ∧
      Site site ∧ ∀ other root, other.bare = tag.bare → root.toMarkup = place (.element other children) →
        d.draftRoot root =
          (.nodes (before ++ site (annotate (Kind.of tag) (annotations other) n) :: behind), steps) := by
  cases hPlace with
  | here =>
    refine .inl ⟨d.draftRoot ⟨tag, children⟩, fun other root hOther hRoot => ?_⟩
    rw [draftRoot, hRoot, id, d.draft_annotate hHook hOther hKind]
    dsimp only
    rw [rootContent_annotate]
    rfl
  | @inside outer above place before after hOuter hPlace =>
    rcases hPlace.draft_annotated d hHook hKind hOuter before after with
      ⟨fixed, hFixed⟩ | ⟨n, frame, wrap, left, site, right, steps, hMade, hWraps, hSite, hDraft⟩
    · refine .inl ⟨(rootContent fixed.1, fixed.2), fun other root hOther hRoot => ?_⟩
      rw [draftRoot, hRoot, hFixed other hOther]
    · cases hWraps with
      | inline | stack =>
        refine .inr ⟨n, left, site, right, steps, hMade, hSite, fun other root hOther hRoot => ?_⟩
        rw [draftRoot, hRoot, hDraft other hOther]
        rfl
      | list | table =>
        refine .inl ⟨(.nodes [], steps), fun other root hOther hRoot => ?_⟩
        rw [draftRoot, hRoot, hDraft other hOther]
        rfl

omit hHook hKind

/-- The annotations of an element outside of drawings, whatever they are, leave a conversion and its
ledger as they are, except that they are shown in the one node of the element, if it is in the layout. -/
theorem Converter.convertMarkup_annotated (c : Converter) (hHook : c.design.HookBare)
    {children : List Markup} (hPlace : Within (.element tag children) above place)
    (hKind : Kind.of tag ≠ .drawing) (now : UInt64) (ledger : Ledger) : ∃ after,
      (∃ answer, ∀ other root, other.bare = tag.bare → root.toMarkup = place (.element other children) →
        c.convertMarkup now root ledger = (answer, after)) ∨
      ∃ n pictures before site behind,
        made (c.design.draft above above.length (.element tag children)).1 = [n] ∧ Site site ∧
        ∀ other root, other.bare = tag.bare → root.toMarkup = place (.element other children) →
          c.convertMarkup now root ledger =
            (.ok (.nodes (before ++
              site (annotate (Kind.of tag) (annotations other) (n.mapPicture pictures)) :: behind)),
            after) := by
  let closed (ledger : Ledger) : Ledger :=
    { ledger with journal := c.close "convert_markup" ledger.journal }
  have hConvert {root : Element} {content : Content Source} {steps : List Step}
      (h : c.design.draftRoot root = (content, steps)) : c.convertMarkup now root ledger =
        ((c.take now steps ledger).1.map fun answers => content.mapPicture (pictureText answers),
          closed (c.take now steps ledger).2) := by
    rw [convertMarkup, finish, convertRoot, h]
  rcases c.design.draftRoot_annotated hHook hKind hPlace with
    ⟨⟨content, steps⟩, hSame⟩ | ⟨n, before, site, behind, steps, hMade, hSite, hShown⟩
  · exact ⟨_, .inl ⟨_, fun other root hOther hRoot => hConvert (hSame other root hOther hRoot)⟩⟩
  refine ⟨closed (c.take now steps ledger).2, ?_⟩
  cases hTaken : (c.take now steps ledger).1 with
  | error failure =>
    refine .inl ⟨.error failure, fun other root hOther hRoot => ?_⟩
    rw [hConvert (hShown other root hOther hRoot), hTaken]
    rfl
  | ok answers =>
    obtain ⟨outer, hOuter, hInner⟩ := hSite.exists_mapPicture (pictureText answers)
    refine .inr ⟨n, pictureText answers, mapPictures (pictureText answers) before, outer,
      mapPictures (pictureText answers) behind, hMade, hOuter, fun other root hOther hRoot => ?_⟩
    rw [hConvert (hShown other root hOther hRoot), hTaken, Except.map, Content.mapPicture,
      mapPictures_beside, hInner, mapPicture_annotate]

end Conversions

/-- A converter whose hook numbers texts by the children beside them. -/
def countingConverter : Converter :=
  { plainConverter with
    design :=
      { plainConverter.design with
        hook := some fun text path => text ++ toString (path.getLast?.map (·.children.length)) } }

theorem countingConverter_hookBare : countingConverter.design.HookBare := by
  intro hook hGiven text path
  obtain rfl := Option.some.inj hGiven
  have hLength (e : Element) : e.bare.children.length = e.children.length := Markup.length_bareAll e.children
  simp only [List.getLast?_map, Option.map_map, Function.comp_def, hLength]

def annotatedCell (notes : String) : Tag where
  name := "td"
  attrs := .ofList [("rowspan", "2"), ("style", "width: 10pt"), (annotationAttr, notes)]

def filledCell : Markup :=
  .element (annotatedCell "") [.text "a"]

def cellRow (cell : Markup) : Element :=
  ⟨{ name := "tr" }, [.element { name := "td" } []] ++ cell :: []⟩

def cellTable (cell : Markup) : Element :=
  ⟨{ name := "table" },
    [] ++ (cellRow cell).toMarkup :: [.element { name := "tr" } [.element { name := "td" } [.text "last"]]]⟩

def cellPage (cell : Markup) : Element :=
  ⟨{ name := "body" },
    [.text "Table"] ++ (cellTable cell).toMarkup :: [.element { name := "p" } [.text "end"]]⟩

theorem annotatedCell_annotated : countingConverter.design.HookBare ∧
    Within filledCell [cellPage filledCell, cellTable filledCell, cellRow filledCell]
      (fun m => (cellPage m).toMarkup) ∧
    Kind.of (annotatedCell "") ≠ .drawing ∧
    (annotatedCell "\x7b'width': [1]\x7d").bare = (annotatedCell "").bare ∧
    ∃ after,
      (∃ answer, ∀ other root, other.bare = (annotatedCell "").bare →
        root.toMarkup = (cellPage (.element other [.text "a"])).toMarkup →
        countingConverter.convertMarkup 0 root {} = (answer, after)) ∨
      ∃ n pictures before site behind,
        made (countingConverter.design.draft
          [cellPage filledCell, cellTable filledCell, cellRow filledCell] 3 filledCell).1 = [n] ∧ Site site ∧
        ∀ other root, other.bare = (annotatedCell "").bare →
          root.toMarkup = (cellPage (.element other [.text "a"])).toMarkup →
          countingConverter.convertMarkup 0 root {} =
            (.ok (.nodes (before ++ site (annotate (Kind.of (annotatedCell "")) (annotations other)
              (n.mapPicture pictures)) :: behind)), after) := by
  have hPlace : Within filledCell [cellPage filledCell, cellTable filledCell, cellRow filledCell]
      (fun m => (cellPage m).toMarkup) :=
    .inside _ _ (by decide) (.inside _ _ (by decide) (.inside _ _ (by decide) .here))
  have hKind : Kind.of (annotatedCell "") ≠ .drawing := by decide
  exact ⟨countingConverter_hookBare, hPlace, hKind, by decide,
    countingConverter.convertMarkup_annotated countingConverter_hookBare hPlace hKind 0 {}⟩

end Convert

end MarkupLayout
