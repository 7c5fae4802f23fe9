import Mathlib.Data.List.Dedup
import Mathlib.Data.List.Induction
import MarkupLayout.Convert.Draft

/-!
# Theme classes

The class list of a node names the kinds of all tags on its path but the body, each once, and then has
the classes of these tags as they stand. Where no class of a tag looks like a theme class the two parts do
not touch. Texts and elements have the same list, whatever the default styles are.
-/

namespace MarkupLayout

namespace Style

/-- The kinds on a path from the inside out. Of tags of one kind the outermost counts, which in this
direction is the last. -/
def themedKinds (path : List Tag) : List String :=
  ((path.reverse.map Tag.kind).filter (· ≠ "body")).dedup

def themes (path : List Tag) : List String :=
  (themedKinds path).map ("html-" ++ ·)

/-- No class of a tag looks like a theme class. -/
def Unthemed (path : List Tag) : Prop :=
  ∀ tag ∈ path, ∀ token ∈ tag.classes, ¬Text.startsWith token "html-"

section Classes

variable {path : List Tag} {tag : Tag}

theorem themedKinds_concat (path : List Tag) (tag : Tag) : themedKinds (path ++ [tag]) =
    if tag.kind ≠ "body" ∧ tag.kind ∉ themedKinds path then tag.kind :: themedKinds path
    else themedKinds path := by
  rw [themedKinds, List.reverse_append, List.reverse_singleton, List.singleton_append, List.map_cons]
  by_cases hBody : tag.kind = "body"
  · rw [List.filter_cons_of_neg (by simpa using hBody), if_neg fun h => h.1 hBody, themedKinds]
  rw [List.filter_cons_of_pos (by simpa using hBody)]
  by_cases hMem : tag.kind ∈ themedKinds path
  · rw [if_neg fun h => h.2 hMem, List.dedup_cons_of_mem (List.mem_dedup.mp hMem), themedKinds]
  · rw [if_pos ⟨hBody, hMem⟩, List.dedup_cons_of_notMem fun h => hMem (List.mem_dedup.mpr h), themedKinds]

theorem themes_concat (path : List Tag) (tag : Tag) : themes (path ++ [tag]) =
    if tag.kind ≠ "body" ∧ tag.kind ∉ themedKinds path then themeClass tag :: themes path
    else themes path := by
  rw [themes, themedKinds_concat]
  split <;> rfl

theorem nodup_themes (path : List Tag) : (themes path).Nodup :=
  (List.nodup_dedup _).map fun _ _ h => (String.append_right_inj "html-").mp h

theorem startsWith_themeClass (tag : Tag) : Text.startsWith (themeClass tag) "html-" := by
  rw [Text.startsWith, themeClass, String.toList_append]
  exact List.isPrefixOf_iff_prefix.mpr (List.prefix_append _ _)

theorem mem_themes_iff : themeClass tag ∈ themes path ↔ tag.kind ∈ themedKinds path := by
  rw [themes, themeClass, List.mem_map]
  simp only [String.append_right_inj, exists_eq_right]

theorem themeClass_mem_iff (h : Unthemed path) :
    themeClass tag ∈ themes path ++ path.flatMap Tag.classes ↔ tag.kind ∈ themedKinds path := by
  have hToken : themeClass tag ∉ path.flatMap Tag.classes := by
    intro hMem
    obtain ⟨outer, hOuter, hClass⟩ := List.mem_flatMap.mp hMem
    exact h outer hOuter _ hClass (startsWith_themeClass tag)
  rw [List.mem_append, or_iff_left hToken, mem_themes_iff]

theorem classesAlong_eq (h : Unthemed path) :
    classesAlong path = themes path ++ path.flatMap Tag.classes := by
  induction path using List.reverseRecOn with
  | nil => rfl
  | append_singleton outer last ih =>
    have hOuter : Unthemed outer := fun tag hTag => h tag (List.mem_append_left _ hTag)
    have hStep : classesAlong (outer ++ [last]) = addClasses (classesAlong outer) last :=
      List.foldl_append
    rw [hStep, ih hOuter, addClasses, themes_concat, List.flatMap_append, List.flatMap_singleton,
      ← List.append_assoc]
    simp only [themeClass_mem_iff hOuter]
    split <;> rfl

end Classes

end Style

namespace Convert

open Layout Style

/-- The classes of a path are the theme classes, which are all different, and then the classes of the
tags. Elements and texts have them, with any default styles. -/
theorem Design.classes_of_path {path : List Tag} (hUnthemed : Unthemed path) :
    classesAlong path = themes path ++ path.flatMap Tag.classes ∧ (themes path).Nodup ∧
    (∀ (d : Design) (frame : Frame), (d.styled path frame).classes =
      nonempty? (themes path ++ path.flatMap Tag.classes)) ∧
    ∀ (d : Design) (around : List Element) (raw : String) (leaf : Node Source), tags around = path →
      d.textLeaf? around raw = some leaf →
      leaf.frame.classes = nonempty? (themes path ++ path.flatMap Tag.classes) := by
  have hClasses := classesAlong_eq hUnthemed
  refine ⟨hClasses, nodup_themes path, ?_, ?_⟩
  · intro d frame
    rw [styled, hClasses]
  · intro d around raw leaf hTags hLeaf
    rw [textLeaf?, hTags] at hLeaf
    split at hLeaf
    · cases hLeaf
    · rw [← Option.some.inj hLeaf, ← hClasses]
      rfl

def repeatedKinds : List Tag :=
  [{ name := "body", attrs := .ofList [("class", "page")] },
    { name := "DIV", attrs := .ofList [("class", "a  b")] }, { name := "p" },
    { name := "Div", attrs := .ofList [("class", "html p page")] }]

/-- Each kind has its theme class once, the innermost first, while the classes of the tags are repeated. -/
theorem repeatedKinds_classes : Unthemed repeatedKinds ∧ classesAlong repeatedKinds =
    ["html-p", "html-div", "page", "a", "b", "html", "p", "page"] := by
  have hUnthemed : Unthemed repeatedKinds := by
    simp only [Unthemed]
    decide +kernel
  refine ⟨hUnthemed, (Design.classes_of_path hUnthemed).1.trans ?_⟩
  decide +kernel

end Convert

end MarkupLayout
