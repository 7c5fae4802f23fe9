import MarkupLayout.Proofs.Convert.Drafted
import MarkupLayout.Proofs.Convert.Taking

/-!
# Converting in one pass

A conversion can resolve every picture on the way, before it goes on to the next node: the parts
that it has put together have their texts already when an element around them is assembled. Since
assembling does not look at them, this gives what drafting first and taking the steps afterwards
gives, with the same failure and the same ledger.
-/

namespace MarkupLayout.Convert

open Layout

section Assemble

variable (d : Design) {path : List Tag} {tag : Tag} {children : List Markup}
  {nodes : List (Node Source)}

theorem Design.plainFrame_mapPictures (f : Source → Source) (path : List Tag) (frame : Frame)
    (children : List Markup) (nodes : List (Node Source)) :
    d.plainFrame path frame children (mapPictures f nodes) = d.plainFrame path frame children nodes := by
  rw [plainFrame, plainFrame, anyBlock_mapPictures]

theorem Design.tableForm_mapGrid (f : Source → Source) (grid : List (List (Node Source)))
    (notes : SortedMap Json) : d.tableForm (mapGrid f grid) notes = d.tableForm grid notes := by
  rw [tableForm, tableForm, columnTracks_mapGrid, rowTracks_mapGrid]

theorem Design.assemble_mapPictures (f : Source → Source) (hKind : Kind.of tag ≠ .picture) :
    d.assemble path tag children (mapPictures f nodes) =
      (d.assemble path tag children nodes).map (Node.mapPicture f) := by
  rw [assemble, assemble, plainFrame_mapPictures, Body.ofChildren_mapPictures, Body.collapse_mapPicture,
    rowsOf_mapPictures, expandSpans_mapGrid]
  cases hTag : Kind.of tag with
  | picture => exact absurd hTag hKind
  | table =>
    dsimp only
    rw [tableForm_mapGrid]
    rfl
  | _ => rfl

theorem Design.assemble_picture (hKind : Kind.of tag = .picture) (others : List (Node Source)) :
    d.assemble path tag children others = d.assemble path tag children nodes := by
  rw [assemble, assemble, hKind]

theorem Design.exists_picture_of_assemble {n : Node Source} (hKind : Kind.of tag = .picture)
    (h : d.assemble path tag children nodes = .ok n) :
    ∃ frame source, n = .node frame (.picture source) := by
  rw [assemble, hKind] at h
  dsimp only at h
  split at h
  · cases h
  · exact ⟨_, _, (Except.ok.inj h).symm⟩

theorem Design.assemble_mapPictures_error {fault : Fault} (f : Source → Source)
    (h : d.assemble path tag children nodes = .error fault) :
    d.assemble path tag children (mapPictures f nodes) = .error fault := by
  by_cases hKind : Kind.of tag = .picture
  · rwa [d.assemble_picture hKind]
  · rw [d.assemble_mapPictures f hKind, h]
    rfl

end Assemble

abbrev Drafted := Except Fault (Option (Node Source))

def Converter.resolvePicture (c : Converter) (now : UInt64) : Node Source → Work (Node Source)
  | .node frame (.picture (.remote request)) =>
    Work.andThen (c.answer now request) fun text => .pure (.node frame (.picture (.given text)))
  | n => .pure n

/-- What comes of an element once its children are walked. -/
def Converter.complete (c : Converter) (now : UInt64) (path : List Tag) (tag : Tag)
    (children : List Markup) (nodes : List (Node Source)) : Work Drafted :=
  match c.design.assemble path tag children nodes with
  | .error fault => .pure (.error fault)
  | .ok n => (c.resolvePicture now n).andThen fun n => .pure (.ok (some n))

mutual

def Converter.walk (c : Converter) (now : UInt64) (path : List Element) (depth : Nat) :
    Markup → Work Drafted
  | .text raw => .pure (.ok (c.design.textLeaf? path raw))
  | .element tag children =>
    if c.design.maxDepth < depth then .pure (.error (.nestingTooDeep c.design.maxDepth))
    else match Kind.of tag with
      | .ignored => .pure (.ok none)
      | .drawing => .pure (.ok (some (Design.drawing tag children)))
      | _ =>
        (c.walkAll now (path ++ [⟨tag, children⟩]) tag (depth + 1) children).andThen
          (c.complete now (tags path ++ [tag]) tag children)

def Converter.walkAll (c : Converter) (now : UInt64) (path : List Element) (parent : Tag) (depth : Nat) :
    List Markup → Work (List (Node Source))
  | [] => .pure []
  | child :: rest =>
    (c.walk now path depth child).andThen fun
      | .ok (some n) =>
        (c.walkAll now path parent depth rest).andThen fun nodes => .pure (n.settle :: nodes)
      | .ok none => c.walkAll now path parent depth rest
      | .error fault =>
        (c.report parent.kind (childName child) fault).andThen fun _ =>
          c.walkAll now path parent depth rest

end

/-- Texts that could stand for requests. -/
abbrev Texts := Picture.Request → String

def Texts.of (answers : List (Picture.Request × String)) : Texts :=
  fun request => Converter.pictureText answers (.remote request)

def Source.filled (fill : Texts) : Source → Source
  | .given address => .given address
  | .remote request => .given (fill request)

def Drafted.filled (fill : Texts) (drafted : Drafted) : Drafted :=
  drafted.map (Option.map (Node.mapPicture (Source.filled fill)))

/-- Work does what taking the steps does, and its result is made from the answers. -/
structure Follows {α : Type} (c : Converter) (now : UInt64) (w : Work α) (steps : List Step)
    (value : Texts → α) : Prop where
  error : ∀ ledger failure, (c.take now steps ledger).1 = .error failure →
    w ledger = (.error failure, (c.take now steps ledger).2)
  ok : ∀ ledger answers, (c.take now steps ledger).1 = .ok answers →
    ∀ fill, (∀ answered ∈ answers, fill answered.1 = answered.2) →
      w ledger = (.ok (value fill), (c.take now steps ledger).2)

namespace Follows

variable {α β : Type} {c : Converter} {now : UInt64} {w : Work α} {steps others : List Step}
  {value : Texts → α}

theorem pure (a : α) : Follows c now (.pure a) [] fun _ => a where
  error _ _ := nofun
  ok _ _ _ _ _ := rfl

theorem andThen (h : Follows c now w steps value) (next : α → Work β)
    (last : Texts → Texts → β)
    (hNext : ∀ fill, Follows c now (next (value fill)) others (last fill)) :
    Follows c now (w.andThen next) (steps ++ others) fun fill => last fill fill where
  error ledger failure hTaken := by
    rw [Converter.take_append] at hTaken ⊢
    cases hSteps : (c.take now steps ledger).1 with
    | error first =>
      rw [Work.andThen_error hSteps] at hTaken ⊢
      rw [Work.andThen, h.error ledger first hSteps, ← Except.error.inj hTaken]
    | ok answers =>
      have hDone := h.ok ledger answers hSteps (.of answers) fun _ hMem =>
        Converter.pictureText_of_mem hSteps hMem
      rw [Work.andThen_ok hSteps] at hTaken ⊢
      cases hOthers : (c.take now others (c.take now steps ledger).2).1 with
      | ok after =>
        rw [Work.andThen_ok hOthers] at hTaken
        cases hTaken
      | error last =>
        rw [Work.andThen_error hOthers] at hTaken ⊢
        rw [Work.andThen, hDone, ← Except.error.inj hTaken]
        exact (hNext _).error _ last hOthers
  ok ledger answers hTaken fill hFill := by
    rw [Converter.take_append] at hTaken ⊢
    obtain ⟨before, hBefore, hOthers⟩ := Work.andThen_eq_ok_iff.mp hTaken
    obtain ⟨after, hAfter, hPure⟩ := Work.andThen_eq_ok_iff.mp hOthers
    obtain rfl := Except.ok.inj hPure
    have hDone := h.ok ledger before hBefore fill fun answered hMem =>
      hFill answered (List.mem_append_left after hMem)
    have hLast := (hNext fill).ok _ after hAfter fill fun answered hMem =>
      hFill answered (List.mem_append_right before hMem)
    rw [Work.andThen_ok hBefore, Work.andThen_ok hAfter, Work.andThen, hDone]
    exact hLast

theorem map (h : Follows c now w steps value) (f : α → β) :
    Follows c now (w.andThen fun a => .pure (f a)) steps fun fill => f (value fill) := by
  have hPure := h.andThen (fun a => .pure (f a)) (fun fill _ => f (value fill)) fun fill =>
    pure (f (value fill))
  rwa [List.append_nil] at hPure

theorem answer (c : Converter) (now : UInt64) (request : Picture.Request) :
    Follows c now (c.answer now request) [.resolve request] fun fill => fill request where
  error ledger failure hTaken := by
    cases hAnswer : (c.answer now request ledger).1 with
    | error first =>
      rw [Converter.take_resolve_error hAnswer] at hTaken ⊢
      obtain rfl := Except.error.inj hTaken
      exact Prod.ext hAnswer rfl
    | ok text =>
      rw [Converter.take_resolve_ok hAnswer] at hTaken
      cases hTaken
  ok ledger answers hTaken fill hFill := by
    cases hAnswer : (c.answer now request ledger).1 with
    | error first =>
      rw [Converter.take_resolve_error hAnswer] at hTaken
      cases hTaken
    | ok text =>
      rw [Converter.take_resolve_ok hAnswer] at hTaken ⊢
      obtain rfl := Except.ok.inj hTaken
      have hText : fill request = text := hFill (request, text) (List.mem_singleton_self _)
      rw [hText]
      exact Prod.ext hAnswer rfl

theorem report (c : Converter) (now : UInt64) (parent child : String) (fault : Fault) :
    Follows c now (c.report parent child fault) [.drop parent child fault] fun _ => () where
  error _ _ := nofun
  ok _ _ _ _ _ := rfl

end Follows

section Walk

variable {c : Converter} {now : UInt64} {n : Node Source}

theorem Converter.follows_resolvePicture (frame : Frame) (source : Source) :
    Follows c now (c.resolvePicture now (.node frame (.picture source)))
      (requestSteps (.picture source))
      fun fill => Node.mapPicture (Source.filled fill) (.node frame (.picture source)) := by
  cases source with
  | given address => exact .pure _
  | remote request => exact (Follows.answer c now request).map _

theorem Converter.resolvePicture_of_ne (h : ∀ source, n.body ≠ .picture source) :
    c.resolvePicture now n = .pure n := by
  obtain ⟨frame, body⟩ := n
  cases body with
  | picture source => exact absurd rfl (h source)
  | _ => rfl

theorem requestSteps_of_ne (h : ∀ source, n.body ≠ .picture source) : requestSteps n.body = [] := by
  cases hBody : n.body with
  | picture source => exact absurd hBody (h source)
  | _ => rfl

theorem mapPicture_ne_picture (f : Source → Source) (h : ∀ source, n.body ≠ .picture source)
    (source : Source) : (n.mapPicture f).body ≠ .picture source := by
  obtain ⟨frame, body⟩ := n
  cases body with
  | picture source => exact absurd rfl (h source)
  | _ => nofun

theorem Design.textLeaf?_map_mapPicture (d : Design) (f : Source → Source) (path : List Element)
    (raw : String) : (d.textLeaf? path raw).map (Node.mapPicture f) = d.textLeaf? path raw := by
  rw [textLeaf?]
  split <;> rfl

section Element

variable {path : List Tag} {tag : Tag} {children : List Markup} {nodes : List (Node Source)}
  {walked : Work (List (Node Source))} {steps : List Step}

theorem Converter.follows_complete_error {fault : Fault}
    (hNodes : Follows c now walked steps fun fill => mapPictures (Source.filled fill) nodes)
    (hFault : c.design.assemble path tag children nodes = .error fault) :
    Follows c now (walked.andThen (c.complete now path tag children)) steps
      fun fill => Drafted.filled fill (.error fault) := by
  rw [← List.append_nil steps]
  refine hNodes.andThen _ (fun fill _ => Drafted.filled fill (.error fault)) fun fill => ?_
  rw [complete, c.design.assemble_mapPictures_error _ hFault]
  exact .pure _

theorem Converter.follows_complete_ok
    (hNodes : Follows c now walked steps fun fill => mapPictures (Source.filled fill) nodes)
    (hMade : c.design.assemble path tag children nodes = .ok n) :
    Follows c now (walked.andThen (c.complete now path tag children)) (steps ++ requestSteps n.body)
      fun fill => Drafted.filled fill (.ok (some n)) := by
  have hBody := (c.design.assembled_of_assemble hMade).2
  -- a picture is filled in by its own step, everything else by the steps of the children
  by_cases hKind : Kind.of tag = .picture
  · refine hNodes.andThen _ (fun _ fill => Drafted.filled fill (.ok (some n))) fun fill => ?_
    rw [complete, c.design.assemble_picture hKind, hMade]
    obtain ⟨frame, source, rfl⟩ := c.design.exists_picture_of_assemble hKind hMade
    exact (follows_resolvePicture frame source).map _
  · have hPicture := hBody.ne_picture hKind
    rw [requestSteps_of_ne hPicture]
    refine hNodes.andThen _ (fun fill _ => Drafted.filled fill (.ok (some n))) fun fill => ?_
    rw [complete, c.design.assemble_mapPictures _ hKind, hMade]
    dsimp only [Except.map]
    rw [resolvePicture_of_ne (mapPicture_ne_picture _ hPicture)]
    exact .pure _

end Element

mutual

theorem Converter.follows_walk (c : Converter) (now : UInt64) (path : List Element) (depth : Nat)
    (m : Markup) : Follows c now (c.walk now path depth m) (c.design.draft path depth m).2
      fun fill => Drafted.filled fill (c.design.draft path depth m).1 := by
  cases m with
  | text raw =>
    rw [walk, Design.draft]
    have hLeaf (fill : Texts) :=
      c.design.textLeaf?_map_mapPicture (Source.filled fill) path raw
    simp only [Drafted.filled, Except.map, hLeaf]
    exact .pure _
  | element tag children =>
    rw [walk, Design.draft]
    split
    · exact .pure _
    have hNodes := follows_walkAll c now (path ++ [⟨tag, children⟩]) tag (depth + 1) children
    cases hKind : Kind.of tag with
    | ignored => exact .pure _
    | drawing => exact .pure _
    | _ =>
      dsimp only
      split
      · next fault hFault => exact follows_complete_error hNodes hFault
      · next n hMade => exact follows_complete_ok hNodes hMade

theorem Converter.follows_walkAll (c : Converter) (now : UInt64) (path : List Element) (parent : Tag)
    (depth : Nat) (children : List Markup) :
    Follows c now (c.walkAll now path parent depth children)
      (c.design.draftAll path parent depth children).2
      fun fill => mapPictures (Source.filled fill) (c.design.draftAll path parent depth children).1 := by
  cases children with
  | nil => 
    rw [walkAll, Design.draftAll]
    exact .pure _
  | cons child rest =>
    have hFirst := follows_walk c now path depth child
    have hRest := follows_walkAll c now path parent depth rest
    rw [walkAll, Design.draftAll]
    cases hConverted : (c.design.draft path depth child).1 with
    | error fault =>
      rw [hConverted] at hFirst
      refine hFirst.andThen _ (fun _ fill => mapPictures (Source.filled fill) _) fun _ => ?_
      have hReport := Follows.report c now parent.kind (childName child) fault
      exact hReport.andThen (fun _ => c.walkAll now path parent depth rest) (fun _ => _) fun _ => hRest
    | ok converted =>
      rw [hConverted] at hFirst
      cases converted with
      | none =>
        exact hFirst.andThen _ (fun _ fill => mapPictures (Source.filled fill) _) fun _ => hRest
      | some n =>
        refine hFirst.andThen _ (fun first fill =>
          n.settle.mapPicture (Source.filled first) :: mapPictures (Source.filled fill) _) fun fill => ?_
        rw [← Node.settle_mapPicture]
        exact hRest.map _

end

end Walk

theorem rootContent_map (f : Source → Source) (drafted : Drafted) :
    rootContent (drafted.map (Option.map (Node.mapPicture f))) = (rootContent drafted).mapPicture f := by
  cases drafted with
  | error fault => rfl
  | ok converted =>
    cases converted with
    | none => rfl
    | some n =>
      obtain ⟨frame, body⟩ := n
      cases body <;> rfl

/-- Converting in one pass and in two gives the same content or failure and the same ledger. -/
theorem Converter.convertRoot_eq_walk (c : Converter) (now : UInt64) (root : Element)
    (ledger : Ledger) : c.convertRoot now root ledger =
      ((c.walk now [] 0 root.toMarkup ledger).1.map fun drafted =>
        (rootContent drafted).mapPicture (pictureText []), (c.walk now [] 0 root.toMarkup ledger).2) := by
  have hWalk := c.follows_walk now [] 0 root.toMarkup
  rw [convertRoot, Design.draftRoot]
  dsimp only
  cases hTaken : (c.take now (c.design.draft [] 0 root.toMarkup).2 ledger).1 with
  | error failure =>
    rw [hWalk.error ledger failure hTaken]
    rfl
  | ok answers =>
    have hDone := hWalk.ok ledger answers hTaken (.of answers) fun _ hMem =>
      pictureText_of_mem hTaken hMem
    have hTexts : pictureText [] ∘ Source.filled (.of answers) = pictureText answers := by
      funext source
      cases source <;> rfl
    rw [hDone]
    dsimp only [Except.map]
    rw [Drafted.filled, rootContent_map, Content.mapPicture_mapPicture, hTexts]

end MarkupLayout.Convert
