import MarkupLayout.Convert.Conversion
import MarkupLayout.Proofs.Convert.Drafted
import MarkupLayout.Proofs.Convert.Paths

/-!
# Cutting below the depth limit

An element below the depth limit is left out before its children are looked at, and an element at the
limit knows of its children only that they are there. So taking the children from everything that lies
deeper changes no conversion, unless they are part of a drawing or the text hook looks at them.
-/

namespace MarkupLayout

namespace Markup

mutual

/-- Takes the children from every element at depth `limit` or deeper; the root is at `depth`. -/
def cut (limit depth : Nat) : Markup → Markup
  | .text content => .text content
  | .element tag children =>
    .element tag (if depth < limit then cutAll limit (depth + 1) children else [])

def cutAll (limit depth : Nat) : List Markup → List Markup
  | [] => []
  | child :: rest => cut limit depth child :: cutAll limit depth rest

end

variable {limit : Nat}

theorem childName_cut (depth : Nat) (m : Markup) :
    Convert.childName (m.cut limit depth) = Convert.childName m := by
  cases m <;> rfl

theorem isEmpty_cutAll (limit depth : Nat) (children : List Markup) :
    (cutAll limit depth children).isEmpty = children.isEmpty := by
  cases children <;> rfl

mutual

theorem prune_eq_cut (depth : Nat) (m : Markup) : m.prune depth = m.cut pruneDepth depth := by
  cases m with
  | text content => rfl
  | element tag children => rw [prune, cut, pruneAll_eq_cutAll (depth + 1) children]

theorem pruneAll_eq_cutAll (depth : Nat) (children : List Markup) :
    pruneAll depth children = cutAll pruneDepth depth children := by
  cases children with
  | nil => rfl
  | cons child rest => rw [pruneAll, cutAll, prune_eq_cut depth child, pruneAll_eq_cutAll depth rest]

end

end Markup

def Element.cut (limit : Nat) (e : Element) : Element :=
  ⟨e.tag, if 0 < limit then Markup.cutAll limit 1 e.children else []⟩

theorem Element.toMarkup_cut (limit : Nat) (e : Element) :
    (e.cut limit).toMarkup = e.toMarkup.cut limit 0 :=
  rfl

theorem Element.prune_eq_cut (e : Element) : e.prune = e.cut Markup.pruneDepth := by
  rw [prune, cut, if_pos (by decide), Markup.pruneAll_eq_cutAll]

namespace Convert

open Layout

section Draft

variable {d : Design} {limit : Nat}

mutual

/-- At the depth limit the children of an element are still counted, one level below it they are not. -/
theorem Design.draft_cut (hHook : d.HookBlind) (hLimit : d.maxDepth < limit) (path : List Element)
    (depth : Nat) (m : Markup) (hPlain : ∀ tag ∈ tagsOf m, Kind.of tag ≠ .drawing) :
    d.draft path depth (m.cut limit depth) = d.draft path depth m := by
  cases m with
  | text raw => rfl
  | element tag children =>
    obtain ⟨hTag, hChildren⟩ := List.forall_mem_cons.mp hPlain
    rw [Markup.cut]
    by_cases hDepth : depth ≤ d.maxDepth
    · rw [if_pos (Nat.lt_of_le_of_lt hDepth hLimit)]
      have hInside := draftAll_inside hHook path tag (Markup.cutAll limit (depth + 1) children) children
      have hNodes := (hInside ..).trans
        (draftAll_cut hHook hLimit (path ++ [⟨tag, children⟩]) tag (depth + 1) children hChildren)
      have hEmpty := Markup.isEmpty_cutAll limit (depth + 1) children
      exact Prod.ext (d.draft_congr hTag hEmpty (congrArg Prod.fst hNodes))
        (d.steps_congr hNodes hEmpty)
    · rw [draft, draft, if_pos (Nat.lt_of_not_le hDepth), if_pos (Nat.lt_of_not_le hDepth)]

theorem Design.draftAll_cut (hHook : d.HookBlind) (hLimit : d.maxDepth < limit) (path : List Element)
    (parent : Tag) (depth : Nat) (children : List Markup)
    (hPlain : ∀ tag ∈ tagsAmong children, Kind.of tag ≠ .drawing) :
    d.draftAll path parent depth (Markup.cutAll limit depth children) =
      d.draftAll path parent depth children := by
  cases children with
  | nil => rfl
  | cons child rest =>
    obtain ⟨hChild, hOthers⟩ := List.forall_mem_append.mp hPlain
    rw [Markup.cutAll, draftAll, draftAll, draft_cut hHook hLimit path depth child hChild,
      draftAll_cut hHook hLimit path parent depth rest hOthers, Markup.childName_cut]

end

theorem Design.draftRoot_cut (hHook : d.HookBlind) (hLimit : d.maxDepth < limit) (root : Element)
    (hPlain : ∀ tag ∈ tagsOf root.toMarkup, Kind.of tag ≠ .drawing) :
    d.draftRoot (root.cut limit) = d.draftRoot root := by
  rw [draftRoot, draftRoot, Element.toMarkup_cut, draft_cut hHook hLimit [] 0 root.toMarkup hPlain]

end Draft

namespace Converter

theorem convertRoot_cut (c : Converter) (hHook : c.design.HookBlind) {limit : Nat}
    (hLimit : c.design.maxDepth < limit) (now : UInt64) (root : Element)
    (hPlain : ∀ tag ∈ tagsOf root.toMarkup, Kind.of tag ≠ .drawing) (ledger : Ledger) :
    c.convertRoot now (root.cut limit) ledger = c.convertRoot now root ledger := by
  rw [convertRoot, convertRoot, Design.draftRoot_cut hHook hLimit root hPlain]

/-- If the text hook sees the tags only, a tree without drawings is converted the same, with the same ledger
left behind, when everything below the depth limit of the converter loses its children. What pruning takes
is below the limit of every converter, so a document is converted as if it had not been pruned. -/
theorem convertMarkup_cut (c : Converter) (hHook : c.design.HookBlind) (now : UInt64) (root : Element)
    (hPlain : ∀ tag ∈ tagsOf root.toMarkup, Kind.of tag ≠ .drawing) (ledger : Ledger) :
    (∀ limit, c.design.maxDepth < limit →
        c.convertMarkup now (root.cut limit) ledger = c.convertMarkup now root ledger) ∧
      c.convertMarkup now root.prune ledger = c.convertMarkup now root ledger ∧
      ∀ html, Html.bodyOf? html = some root.prune →
        c.convertHtml now html ledger = c.finish "convert_html" (c.convertRoot now root ledger) := by
  have hPrune : c.design.maxDepth < Markup.pruneDepth := Nat.lt_succ_of_le c.design.maxDepth_le
  have hRoot := c.convertRoot_cut hHook hPrune now root hPlain ledger
  rw [← Element.prune_eq_cut] at hRoot
  refine ⟨fun limit hLimit => ?_, ?_, fun html hBody => ?_⟩
  · rw [convertMarkup, convertMarkup, c.convertRoot_cut hHook hLimit now root hPlain]
  · rw [convertMarkup, convertMarkup, hRoot]
  · rw [convertHtml, hBody]
    dsimp only
    rw [hRoot]

end Converter

def nestedDivisions (inner : List Markup) : Nat → Markup
  | 0 => .element { name := "p" } inner
  | count + 1 => .element { name := "div" } [nestedDivisions inner count]

def deepPage : Element where
  tag := { name := "body" }
  children :=
    [nestedDivisions
      [.text "deep",
        .element { name := "em" }
          [.element { name := "img", attrs := .ofList [("src", "http://ab.cd/e.png")] } [],
            .element { name := "ul" } [.element { name := "li" } [.text "deeper"]]]] 7]

/-- The emphasis is too deep for the converter and may lose what is in it. If the paragraph around it
loses its children, the text is gone. -/
theorem deepPage_cut : namingConverter.design.HookBlind ∧ namingConverter.design.maxDepth = 8 ∧
    (∀ tag ∈ tagsOf deepPage.toMarkup, Kind.of tag ≠ .drawing) ∧
    (tagsOf deepPage.toMarkup).length = 13 ∧
    (tagsOf (deepPage.cut 9).toMarkup).length = 10 ∧
    namingConverter.convertMarkup 0 (deepPage.cut 9) {} = namingConverter.convertMarkup 0 deepPage {} ∧
    namingConverter.convertMarkup 0 deepPage.prune {} = namingConverter.convertMarkup 0 deepPage {} ∧
    (namingConverter.design.draftRoot deepPage).1.words = "deep in p" ∧
    (namingConverter.design.draftRoot (deepPage.cut 8)).1.words = "" := by
  have hPlain : ∀ tag ∈ tagsOf deepPage.toMarkup, Kind.of tag ≠ .drawing := by decide +kernel
  obtain ⟨hCut, hPrune, -⟩ :=
    namingConverter.convertMarkup_cut namingConverter_hookBlind 0 deepPage hPlain {}
  exact ⟨namingConverter_hookBlind, rfl, hPlain, by decide +kernel, by decide +kernel, hCut 9 (by decide),
    hPrune, by decide +kernel, by decide +kernel⟩

end Convert

end MarkupLayout
