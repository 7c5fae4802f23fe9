import MarkupLayout.Proofs.Convert.Paths

/-!
# Markup without annotations

The annotations of an element are for its own node. Styles, classes and texts do not look at those of
the tags around them, so what comes of a piece of markup depends on the elements around it without their
annotations, as long as the text hook does not read these at any depth.
-/

namespace MarkupLayout

/-- The tag without its annotations. -/
def Tag.bare (tag : Tag) : Tag :=
  { tag with attrs := tag.attrs.erase Convert.annotationAttr }

namespace Tag

variable (tag : Tag)

theorem attr?_bare {key : String} (hKey : key ≠ Convert.annotationAttr) :
    tag.bare.attr? key = tag.attr? key := by
  rw [attr?, bare, SortedMap.get?_erase, if_neg hKey, attr?]

theorem present?_bare {key : String} (hKey : key ≠ Convert.annotationAttr) :
    tag.bare.present? key = tag.present? key := by
  rw [present?, tag.attr?_bare hKey, present?]

theorem kind_bare : tag.bare.kind = tag.kind :=
  rfl

theorem classes_bare : tag.bare.classes = tag.classes := by
  rw [classes, tag.attr?_bare (by decide), classes]

end Tag

namespace Markup

mutual

/-- The markup without annotations at any depth. -/
def bare : Markup → Markup
  | .text content => .text content
  | .element tag children => .element tag.bare (bareAll children)

def bareAll : List Markup → List Markup
  | [] => []
  | child :: rest => bare child :: bareAll rest

end

theorem bareAll_append (before after : List Markup) :
    bareAll (before ++ after) = bareAll before ++ bareAll after := by
  induction before with
  | nil => rfl
  | cons child rest ih => rw [List.cons_append, bareAll, bareAll, ih, List.cons_append]

theorem length_bareAll (children : List Markup) : (bareAll children).length = children.length := by
  induction children with
  | nil => rfl
  | cons child rest ih => rw [bareAll, List.length_cons, ih, List.length_cons]

end Markup

def Element.bare (e : Element) : Element :=
  ⟨e.tag.bare, Markup.bareAll e.children⟩

namespace Style

theorem declarations_bare (tag : Tag) : declarations tag.bare = declarations tag := by
  have hSize {property : String} (hKey : property ≠ Convert.annotationAttr) :
      sizeDeclaration tag.bare property = sizeDeclaration tag property := by
    rw [sizeDeclaration, tag.present?_bare hKey, sizeDeclaration]
  rw [declarations, hSize (by decide), hSize (by decide), styleDeclarations, tag.attr?_bare (by decide),
    declarations, styleDeclarations]

theorem rules_bare (scope : Scope) (tag : Tag) : rules scope tag.bare = rules scope tag := by
  have hRule (d : Declaration) : d.ruleIn? scope tag.bare = d.ruleIn? scope tag := rfl
  simp only [rules, declarations_bare, hRule]

theorem rulesAt_bare (styles : DefaultStyles) (scope : Scope) (tag : Tag) :
    rulesAt styles scope tag.bare = rulesAt styles scope tag := by
  rw [rulesAt, rules_bare]
  rfl

theorem rulesAlong_bare (styles : DefaultStyles) (last : Scope) (path : List Tag) :
    rulesAlong styles last (path.map Tag.bare) = rulesAlong styles last path := by
  induction path with
  | nil => rfl
  | cons tag rest ih =>
    cases rest with
    | nil => exact rulesAt_bare styles last tag
    | cons inner rest =>
      rw [List.map_cons] at ih ⊢
      rw [List.map_cons, rulesAlong, ih, rulesAt_bare, rulesAlong]

theorem cascade_bare (styles : DefaultStyles) (last : Scope) (path : List Tag) (style : StyleMap) :
    cascade styles last (path.map Tag.bare) style = cascade styles last path style := by
  rw [cascade, rulesAlong_bare, cascade]

theorem classesAlong_bare (path : List Tag) : classesAlong (path.map Tag.bare) = classesAlong path := by
  have hAdd (classes : List String) (tag : Tag) : addClasses classes tag.bare = addClasses classes tag := by
    rw [addClasses, tag.classes_bare]
    rfl
  rw [classesAlong, List.foldl_map]
  simp only [hAdd, classesAlong]

theorem preservesSpaces_bare (path : List Tag) :
    preservesSpaces (path.map Tag.bare) = preservesSpaces path := by
  rw [preservesSpaces, preservesSpaces, ← List.map_reverse, List.findSome?_map]
  simp only [Function.comp_def, rules_bare]

end Style

namespace Convert

theorem Kind.of_bare (tag : Tag) : Kind.of tag.bare = Kind.of tag :=
  rfl

namespace Design

/-- Whether the text hook, if any, passes over the annotations in the elements around a text. -/
def HookBare (d : Design) : Prop :=
  ∀ hook, d.hook = some hook → ∀ text path, hook text (path.map Element.bare) = hook text path

theorem tags_bare (path : List Element) : tags (path.map Element.bare) = (tags path).map Tag.bare := by
  rw [tags, tags, List.map_map, List.map_map]
  rfl

theorem map_bare_tags {path other : List Element} (h : path.map Element.bare = other.map Element.bare) :
    (tags path).map Tag.bare = (tags other).map Tag.bare := by
  rw [← tags_bare, h, tags_bare]

variable (d : Design)

theorem finalText_bare (hHook : d.HookBare) (path : List Element) (raw : String) :
    d.finalText (path.map Element.bare) raw = d.finalText path raw := by
  have hTrimmed (text : String) : trimmed ((tags path).map Tag.bare) text = trimmed (tags path) text := by
    rw [trimmed, List.getLast?_map, Option.any_map, trimmed]
    rfl
  have hNormalized : normalized ((tags path).map Tag.bare) raw = normalized (tags path) raw := by
    rw [normalized, Style.preservesSpaces_bare, normalized]
  rw [finalText, finalText, tags_bare, hNormalized]
  cases hGiven : d.hook with
  | none => simp only [hTrimmed, Option.elim_none]
  | some hook => simp only [hTrimmed, Option.elim_some, hHook hook hGiven]

theorem textLeaf?_bare (hHook : d.HookBare) (path : List Element) (raw : String) :
    d.textLeaf? (path.map Element.bare) raw = d.textLeaf? path raw := by
  rw [textLeaf?, d.finalText_bare hHook, tags_bare, Style.cascade_bare, Style.classesAlong_bare, textLeaf?]

theorem styled_bare (path : List Tag) (frame : Layout.Frame) :
    d.styled (path.map Tag.bare) frame = d.styled path frame := by
  rw [styled, Style.cascade_bare, Style.classesAlong_bare, styled]

variable {path other : List Tag}

theorem styled_eq_of_bare (h : path.map Tag.bare = other.map Tag.bare) : d.styled path = d.styled other := by
  funext frame
  rw [← d.styled_bare path, h, d.styled_bare]

theorem assemble_eq_of_bare (h : path.map Tag.bare = other.map Tag.bare) (tag : Tag)
    (children : List Markup) (nodes : List (Layout.Node Source)) :
    d.assemble path tag children nodes = d.assemble other tag children nodes := by
  simp only [assemble, plainFrame, d.styled_eq_of_bare h]

theorem map_bare_concat (h : path.map Tag.bare = other.map Tag.bare) {tag inner : Tag}
    (hTag : tag.bare = inner.bare) : (path ++ [tag]).map Tag.bare = (other ++ [inner]).map Tag.bare := by
  rw [List.map_append, List.map_append, h, List.map_singleton, List.map_singleton, hTag]

variable {d}

theorem seesAlike_of_bare {path other : List Element} (hHook : d.HookBare)
    (h : path.map Element.bare = other.map Element.bare) : d.SeesAlike path other := by
  have hBelow (below : List Element) :
      (path ++ below).map Element.bare = (other ++ below).map Element.bare := by
    rw [List.map_append, List.map_append, h]
  constructor
  · intro below raw
    rw [← d.textLeaf?_bare hHook, hBelow below, d.textLeaf?_bare hHook]
  · intro below tag children nodes
    exact d.assemble_eq_of_bare (map_bare_concat (map_bare_tags (hBelow below)) rfl) tag children nodes

theorem seesAlike_concat (hHook : d.HookBare) (path : List Element) {e other : Element}
    (h : e.bare = other.bare) : d.SeesAlike (path ++ [e]) (path ++ [other]) := by
  apply seesAlike_of_bare hHook
  rw [List.map_append, List.map_append, List.map_singleton, List.map_singleton, h]

theorem seesAlike_beside (hHook : d.HookBare) (path : List Element) (tag : Tag) (before after : List Markup)
    {m shown : Markup} (h : m.bare = shown.bare) :
    d.SeesAlike (path ++ [⟨tag, before ++ m :: after⟩]) (path ++ [⟨tag, before ++ shown :: after⟩]) := by
  apply seesAlike_concat hHook
  simp only [Element.bare, Markup.bareAll_append, Markup.bareAll, h]

end Design

theorem Kind.of_eq_of_bare {tag other : Tag} (h : other.bare = tag.bare) : Kind.of other = Kind.of tag := by
  rw [← Kind.of_bare, h, Kind.of_bare]

theorem kind_eq_of_bare {tag other : Tag} (h : other.bare = tag.bare) : other.kind = tag.kind := by
  rw [← other.kind_bare, h, tag.kind_bare]

theorem childName_of_bare {m shown : Markup} (h : m.bare = shown.bare) : childName m = childName shown := by
  have hName (m : Markup) : childName m.bare = childName m := by cases m <;> rfl
  rw [← hName m, h, hName]

end Convert

end MarkupLayout
