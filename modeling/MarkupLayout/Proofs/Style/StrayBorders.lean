import Mathlib.Data.List.Induction
import MarkupLayout.Proofs.Style.PropertyName
import MarkupLayout.Proofs.Style.RuleKey
import MarkupLayout.Proofs.Text.Fields

/-!
# Declarations that stray into the borders

A property is taken for a border by its beginning, and one that is not is written as one word, which
may be the key of the border colors. So other declarations than those about borders change borders:
one of `border-color` always, and one whose property begins like that of a side unless the others
make up for it.
-/

namespace MarkupLayout.Style

def Declaration.means (d : Declaration) (side : Side) : Bool :=
  (Side.ofProperty? d.property).all (· = side)

theorem exists_means (d : Declaration) : ∃ side, d.means side := by
  simp only [Declaration.means]
  cases Side.ofProperty? d.property with
  | none => exact ⟨.left, rfl⟩
  | some side => exact ⟨side, decide_eq_true rfl⟩

def Side.pick {α : Type} (sides : Sides α) : Side → α
  | .left => sides.left
  | .top => sides.top
  | .right => sides.right
  | .bottom => sides.bottom

section Sides

variable {α β : Type}

theorem Side.pick_ext {sides others : Sides α} (h : ∀ side, Side.pick sides side = Side.pick others side) :
    sides = others := by
  cases sides
  cases others
  exact Sides.mk.injEq .. ▸ ⟨h .left, h .top, h .right, h .bottom⟩

theorem Side.pick_map (f : α → β) (sides : Sides α) (side : Side) :
    Side.pick (sides.map f) side = f (Side.pick sides side) := by
  cases side <;> rfl

theorem Side.any_toList (sides : Sides α) (p : α → Bool) :
    sides.toList.any p ↔ ∃ side, p (Side.pick sides side) := by
  constructor
  · intro h
    obtain ⟨value, hMem, hValue⟩ := List.any_eq_true.mp h
    simp only [Sides.toList, List.mem_cons, List.not_mem_nil, or_false] at hMem
    rcases hMem with rfl | rfl | rfl | rfl
    · exact ⟨.left, hValue⟩
    · exact ⟨.top, hValue⟩
    · exact ⟨.right, hValue⟩
    · exact ⟨.bottom, hValue⟩
  · rintro ⟨side, hSide⟩
    refine List.any_eq_true.mpr ⟨Side.pick sides side, ?_, hSide⟩
    cases side <;> simp [Sides.toList, Side.pick]

theorem pick_setSides (d : Declaration) (value : α) (sides : Sides α) (side : Side) :
    Side.pick (setSides (Side.ofProperty? d.property) value sides) side =
      if d.means side then value else Side.pick sides side := by
  rw [Declaration.means]
  cases Side.ofProperty? d.property with
  | none => cases side <;> rfl
  | some named => cases named <;> cases side <;> rfl

end Sides

section Given

variable {α : Type} (value? : Declaration → Option α) (fallback : α)

/-- What declarations about borders give a side, in order. -/
def given (side : Side) (ds : List Declaration) : List α :=
  ds.filterMap fun d => if isBorderProperty d.property ∧ d.means side then value? d else none

def latest (ds : List Declaration) : Sides (Option α) where
  left := (given value? .left ds).getLast?
  top := (given value? .top ds).getLast?
  right := (given value? .right ds).getLast?
  bottom := (given value? .bottom ds).getLast?

/-- A declaration between others is idle if what it gives its sides, if anything, is given by a later
one anew or is what they have without it, and there is a rule without it. -/
def Declaration.Idle (before after : List Declaration) (d : Declaration) : Prop :=
  ∀ value, value? d = some value →
    (∃ side, given value? side (before ++ after) ≠ []) ∧
    ∀ side, d.means side → given value? side after ≠ [] ∨
      (given value? side before).getLast?.getD fallback = value

theorem pick_latest (ds : List Declaration) (side : Side) :
    Side.pick (latest value? ds) side = (given value? side ds).getLast? := by
  cases side <;> rfl

theorem given_nil (side : Side) : given value? side [] = [] :=
  rfl

theorem given_append (side : Side) (ds others : List Declaration) :
    given value? side (ds ++ others) = given value? side ds ++ given value? side others :=
  List.filterMap_append

variable {value? fallback} {d : Declaration} {ds : List Declaration} {side : Side}

theorem given_cons_of_eq (hBorder : isBorderProperty d.property) (hMeans : d.means side) :
    given value? side (d :: ds) = (value? d).toList ++ given value? side ds := by
  rw [given, List.filterMap_cons, if_pos ⟨hBorder, hMeans⟩]
  cases value? d <;> rfl

theorem given_cons_of_ne (h : ¬(isBorderProperty d.property ∧ d.means side)) :
    given value? side (d :: ds) = given value? side ds := by
  rw [given, List.filterMap_cons, if_neg h]
  rfl

theorem given_cons_of_none (h : value? d = none) :
    given value? side (d :: ds) = given value? side ds := by
  rw [given, List.filterMap_cons, h, ite_self]
  rfl

theorem latest_concat (ds : List Declaration) (hBorder : isBorderProperty d.property) :
    latest value? (ds ++ [d]) = match value? d with
      | some value => setSides (Side.ofProperty? d.property) (some value) (latest value? ds)
      | none => latest value? ds := by
  apply Side.pick_ext
  intro side
  rw [pick_latest, given_append]
  cases hValue : value? d with
  | none => rw [given_cons_of_none hValue, given_nil, List.append_nil, pick_latest]
  | some value =>
    rw [pick_setSides]
    by_cases hMeans : d.means side
    · rw [if_pos hMeans, given_cons_of_eq hBorder hMeans, hValue]
      exact List.getLast?_concat
    · rw [if_neg hMeans, given_cons_of_ne fun h => hMeans h.2, given_nil, List.append_nil, pick_latest]

theorem latest_concat_of_not (ds : List Declaration) (h : ¬isBorderProperty d.property) :
    latest value? (ds ++ [d]) = latest value? ds := by
  apply Side.pick_ext
  intro side
  rw [pick_latest, pick_latest, given_append, given_cons_of_ne fun hBoth => h hBoth.1, given_nil,
    List.append_nil]

/-- The sides of a rule, if there is one: a side that is given nothing has the fallback. -/
def shown? (value? : Declaration → Option α) (fallback : α) (ds : List Declaration) : Option (Sides α) :=
  if (latest value? ds).toList.any Option.isSome then some ((latest value? ds).map (·.getD fallback))
  else none

theorem any_latest (ds : List Declaration) : (latest value? ds).toList.any Option.isSome ↔
    ∃ side, given value? side ds ≠ [] := by
  rw [Side.any_toList]
  simp only [pick_latest, List.getLast?_isSome]

theorem shown?_eq_iff_of_given {ds others : List Declaration}
    (h : ∃ side, given value? side others ≠ []) :
    shown? value? fallback others = shown? value? fallback ds ↔
      (∃ side, given value? side ds ≠ []) ∧ ∀ side,
        (given value? side others).getLast?.getD fallback =
          (given value? side ds).getLast?.getD fallback := by
  rw [shown?, if_pos (any_latest others |>.mpr h), shown?]
  constructor
  · intro hSame
    split at hSame
    · next hAny =>
      refine ⟨(any_latest ds).mp hAny, fun side => ?_⟩
      have hSide := congrArg (Side.pick · side) (Option.some.inj hSame)
      simpa only [Side.pick_map, pick_latest] using hSide
    · cases hSame
  · rintro ⟨hAny, hSides⟩
    rw [if_pos ((any_latest ds).mpr hAny)]
    apply congrArg some
    apply Side.pick_ext
    intro side
    rw [Side.pick_map, Side.pick_map, pick_latest, pick_latest]
    exact hSides side

theorem shown?_insert_of_given {ds others : List Declaration} (before : List Declaration)
    (h : ∀ side, given value? side others = given value? side ds) :
    shown? value? fallback (before ++ others) = shown? value? fallback (before ++ ds) := by
  have hLatest : latest value? (before ++ others) = latest value? (before ++ ds) := by
    apply Side.pick_ext
    intro side
    rw [pick_latest, pick_latest, given_append, given_append, h]
  rw [shown?, shown?, hLatest]

section Insert

variable {value : α} (before after : List Declaration)

theorem given_insert_of_means (hBorder : isBorderProperty d.property) (hValue : value? d = some value)
    (hMeans : d.means side) : given value? side (before ++ d :: after) =
      given value? side before ++ value :: given value? side after := by
  rw [given_append, given_cons_of_eq hBorder hMeans, hValue]
  rfl

theorem given_insert_of_not_means (hMeans : ¬d.means side) :
    given value? side (before ++ d :: after) = given value? side (before ++ after) := by
  rw [given_append, given_append, given_cons_of_ne fun h => hMeans h.2]

/-- One more value for a side makes no difference if a later one takes its place or if the side has
it anyway. -/
theorem getLast?_given_insert_iff (hBorder : isBorderProperty d.property) (hValue : value? d = some value)
    (hMeans : d.means side) :
    (given value? side (before ++ d :: after)).getLast?.getD fallback =
        (given value? side (before ++ after)).getLast?.getD fallback ↔
      given value? side after ≠ [] ∨ (given value? side before).getLast?.getD fallback = value := by
  rw [given_insert_of_means before after hBorder hValue hMeans, given_append]
  cases hAfter : given value? side after with
  | nil =>
    rw [List.append_nil, List.getLast?_concat, Option.getD_some, eq_comm]
    exact (or_iff_right (not_not_intro rfl)).symm
  | cons first rest =>
    refine iff_of_true ?_ (.inl (List.cons_ne_nil _ _))
    rw [List.getLast?_append, List.getLast?_append, List.getLast?_cons_cons, List.getLast?_cons,
      Option.some_or]

theorem shown?_insert_iff (hBorder : isBorderProperty d.property) :
    shown? value? fallback (before ++ d :: after) = shown? value? fallback (before ++ after) ↔
      d.Idle value? fallback before after := by
  cases hValue : value? d with
  | none =>
    refine iff_of_true (shown?_insert_of_given before fun side => given_cons_of_none hValue) ?_
    intro value hSome
    rw [hValue] at hSome
    cases hSome
  | some value =>
    obtain ⟨side, hMeans⟩ := exists_means d
    have hGiven : ∃ side, given value? side (before ++ d :: after) ≠ [] := by
      refine ⟨side, ?_⟩
      rw [given_insert_of_means before after hBorder hValue hMeans]
      exact List.append_ne_nil_of_right_ne_nil _ (List.cons_ne_nil _ _)
    rw [shown?_eq_iff_of_given hGiven]
    constructor
    · rintro ⟨hAny, hSame⟩ other hSome
      rw [hValue] at hSome
      obtain rfl := Option.some.inj hSome
      refine ⟨hAny, fun side hMeans => ?_⟩
      exact (getLast?_given_insert_iff before after hBorder hValue hMeans).mp (hSame side)
    · intro hIdle
      obtain ⟨hAny, hSides⟩ := hIdle value hValue
      refine ⟨hAny, fun side => ?_⟩
      by_cases hMeans : d.means side
      · exact (getLast?_given_insert_iff before after hBorder hValue hMeans).mpr (hSides side hMeans)
      · rw [given_insert_of_not_means before after hMeans]

end Insert

end Given

def Rule.isOfBorder (rule : Rule) : Bool :=
  rule.key == "border" || rule.key == "borderColor"

def borderRules (tag : Tag) : List Rule :=
  (rules .own tag).filter Rule.isOfBorder

theorem latest_ofDeclarations (ds : List Declaration) : Borders.ofDeclarations ds =
    { flags := latest Declaration.borderFlag? ds, colors := latest Declaration.borderColor? ds } := by
  induction ds using List.reverseRecOn with
  | nil => rfl
  | append_singleton ds d ih =>
    rw [Borders.ofDeclarations, List.filter_append, List.filter_cons]
    by_cases hBorder : isBorderProperty d.property
    · rw [if_pos hBorder, List.filter_nil, List.foldl_append, ← Borders.ofDeclarations, ih,
        List.foldl_cons, List.foldl_nil, Borders.add, latest_concat ds hBorder, latest_concat ds hBorder]
      cases d.borderFlag? <;> cases d.borderColor? <;> rfl
    · rw [if_neg hBorder, List.filter_nil, List.append_nil, ← Borders.ofDeclarations, ih,
        latest_concat_of_not ds hBorder, latest_concat_of_not ds hBorder]

def sideRules (ds : List Declaration) : List Rule :=
  ((shown? Declaration.borderFlag? true ds).map fun flags => ⟨"border", .sides flags⟩).toList ++
    ((shown? Declaration.borderColor? "#000000" ds).map fun colors =>
      ⟨"borderColor", .sideColors colors⟩).toList

theorem rules_own (tag : Tag) :
    rules .own tag = (declarations tag).filterMap (·.rule? tag) ++ sideRules (declarations tag) := by
  have hRule (d : Declaration) : d.ruleIn? .own tag = d.rule? tag :=
    if_neg fun h => by cases h.1
  simp only [rules, hRule, latest_ofDeclarations, sideRules, shown?, Borders.flagRules,
    Borders.colorRules]
  congr 2 <;> split <;> rfl

theorem isOfBorder_of_mem_sideRules {ds : List Declaration} {rule : Rule} (h : rule ∈ sideRules ds) :
    rule.isOfBorder := by
  rw [sideRules] at h
  rcases List.mem_append.mp h with h | h
  all_goals
    obtain ⟨sides, -, rfl⟩ := Option.map_eq_some_iff.mp (Option.mem_toList.mp h)
    rfl

theorem find?_sideRules (ds : List Declaration) :
    (sideRules ds).find? (·.key = "border") =
        (shown? Declaration.borderFlag? true ds).map (⟨"border", .sides ·⟩) ∧
      (sideRules ds).find? (·.key = "borderColor") =
        (shown? Declaration.borderColor? "#000000" ds).map (⟨"borderColor", .sideColors ·⟩) := by
  rw [sideRules]
  cases shown? Declaration.borderFlag? true ds <;>
  cases shown? Declaration.borderColor? "#000000" ds <;>
  exact ⟨rfl, rfl⟩

theorem sideRules_eq_iff (ds others : List Declaration) : sideRules others = sideRules ds ↔
    shown? Declaration.borderFlag? true others = shown? Declaration.borderFlag? true ds ∧
      shown? Declaration.borderColor? "#000000" others =
        shown? Declaration.borderColor? "#000000" ds := by
  constructor
  · intro h
    obtain ⟨hFlags, hColors⟩ := find?_sideRules others
    rw [h, (find?_sideRules ds).1] at hFlags
    rw [h, (find?_sideRules ds).2] at hColors
    constructor
    · refine Option.map_injective ?_ hFlags.symm
      exact fun flags other hRule => Value.sides.inj (Rule.mk.inj hRule).2
    · refine Option.map_injective ?_ hColors.symm
      exact fun colors other hRule => Value.sideColors.inj (Rule.mk.inj hRule).2
  · rintro ⟨hFlags, hColors⟩
    rw [sideRules, sideRules, hFlags, hColors]

theorem named_ne_border :
    ∀ named ∈ namedProperties, ¬(named.2 = "border" ∨ named.2 = "borderColor") := by
  decide

/-- The rules about borders that declarations make one by one. -/
def ownRules (tag : Tag) (ds : List Declaration) : List Rule :=
  (ds.filterMap (·.rule? tag)).filter Rule.isOfBorder

theorem borderRules_eq (tag : Tag) :
    borderRules tag = ownRules tag (declarations tag) ++ sideRules (declarations tag) := by
  rw [borderRules, rules_own, List.filter_append,
    List.filter_eq_self.mpr fun rule hRule => isOfBorder_of_mem_sideRules hRule, ownRules]

theorem ownRules_append (tag : Tag) (ds others : List Declaration) :
    ownRules tag (ds ++ others) = ownRules tag ds ++ ownRules tag others := by
  rw [ownRules, List.filterMap_append, List.filter_append, ownRules, ownRules]

theorem ownRules_singleton_of_border_color {tag : Tag} {d : Declaration}
    (hProperty : d.property = "border-color") (hValue : d.value ≠ "") : ownRules tag [d] ≠ [] := by
  have hNamed : namedKey? tag d.property = none := by
    rw [hProperty]
    rfl
  have hBorder : isBorderProperty "border-color" = false := by decide
  have hPadding : Text.startsWith "border-color" "padding" = false := by decide
  have hCamel : camelCase "border-color" = "borderColor" := by decide
  have hRule : d.rule? tag =
      some ⟨"borderColor", ((length? d.value).map Value.number).getD (.text d.value)⟩ := by
    rw [Declaration.rule?_of_unnamed hNamed, plainRule?, hProperty, hBorder, hPadding, hCamel]
    simp [hValue]
  rw [ownRules, List.filterMap_cons_some hRule]
  exact List.cons_ne_nil _ _

theorem ownRules_singleton_eq_nil_iff {tag : Tag} {d : Declaration} (h : d ∈ declarations tag) :
    ownRules tag [d] = [] ↔ ¬(d.property = "border-color" ∧ d.value ≠ "") := by
  constructor
  · rintro hNone ⟨hProperty, hValue⟩
    exact ownRules_singleton_of_border_color hProperty hValue hNone
  · intro hOther
    rw [ownRules, List.filter_eq_nil_iff]
    rintro rule hMem hKey
    obtain ⟨made, hMade, hRule⟩ := List.mem_filterMap.mp hMem
    obtain rfl := List.mem_singleton.mp hMade
    simp only [Rule.isOfBorder, Bool.or_eq_true, beq_iff_eq] at hKey
    rcases made.named_or_hyphenated h hRule with hNamed | ⟨hNamed, hProperty⟩
    · exact named_ne_border _ hNamed hKey
    · -- the word is the camel case of one property alone
      rw [Declaration.rule?_of_unnamed hNamed] at hRule
      rcases hKey with hKey | hKey
      · rw [hProperty, hKey] at hRule
        cases hRule
      · rw [hKey] at hProperty
        refine hOther ⟨hProperty, fun hEmpty => ?_⟩
        rw [plainRule?, hEmpty] at hRule
        simp at hRule

end Style

open Style

/-- The tag with one more declaration in its style, in front of the field at a position. -/
def Tag.declaring (tag : Tag) (position : Nat) (text : List Char) : Tag :=
  let fields := styleDeclarations tag
  let style := fields.take position ++ text :: fields.drop position
  { tag with attrs := tag.attrs.insert "style" (String.ofList ([';'].intercalate style)) }

namespace Style

def declaredBefore (tag : Tag) (position : Nat) : List Declaration :=
  (sizeDeclaration tag "height" ++ sizeDeclaration tag "width" ++
    (styleDeclarations tag).take position).filterMap Declaration.ofText?

def declaredAfter (tag : Tag) (position : Nat) : List Declaration :=
  ((styleDeclarations tag).drop position).filterMap Declaration.ofText?

theorem declarations_eq (tag : Tag) (position : Nat) :
    declarations tag = declaredBefore tag position ++ declaredAfter tag position := by
  rw [declaredBefore, declaredAfter, ← List.filterMap_append, List.append_assoc,
    List.take_append_drop, declarations]

section Declaring

variable {text : List Char} {d : Declaration}

theorem not_mem_of_mem_styleDeclarations {tag : Tag} {part : List Char}
    (h : part ∈ styleDeclarations tag) : ';' ∉ part := by
  rw [styleDeclarations] at h
  split at h
  · exact Text.not_mem_of_mem_fields h
  · cases h

theorem styleDeclarations_declaring (hText : ';' ∉ text) (tag : Tag) (position : Nat) :
    styleDeclarations (tag.declaring position text) =
      (styleDeclarations tag).take position ++ text :: (styleDeclarations tag).drop position := by
  have hStyle : (tag.declaring position text).attr? "style" = some _ :=
    SortedMap.get?_insert_self tag.attrs "style" _
  rw [styleDeclarations, hStyle]
  dsimp only
  rw [String.toList_ofList, Text.fields_intercalate]
  · exact List.append_ne_nil_of_right_ne_nil _ (List.cons_ne_nil _ _)
  · intro part hPart
    rcases List.mem_append.mp hPart with hPart | hPart
    · exact not_mem_of_mem_styleDeclarations (List.mem_of_mem_take hPart)
    · rcases List.mem_cons.mp hPart with rfl | hPart
      · exact hText
      · exact not_mem_of_mem_styleDeclarations (List.mem_of_mem_drop hPart)

theorem declarations_declaring (hText : ';' ∉ text) (hRead : Declaration.ofText? text = some d)
    (tag : Tag) (position : Nat) : declarations (tag.declaring position text) =
      declaredBefore tag position ++ d :: declaredAfter tag position := by
  have hSize {property : String} (hStyle : property ≠ "style") :
      sizeDeclaration (tag.declaring position text) property = sizeDeclaration tag property := by
    rw [sizeDeclaration, sizeDeclaration, Tag.present?, Tag.present?, Tag.attr?, Tag.attr?,
      Tag.declaring, SortedMap.get?_insert_of_ne hStyle]
  rw [declarations, hSize (by decide), hSize (by decide), styleDeclarations_declaring hText,
    declaredBefore, declaredAfter, ← List.append_assoc, List.filterMap_append, List.filterMap_cons, hRead]

theorem ownRules_declaring (tag : Tag) (position : Nat) (text : List Char) (ds : List Declaration) :
    ownRules (tag.declaring position text) ds = ownRules tag ds :=
  rfl

def borderProperties : List String :=
  "border" :: ["left", "top", "right", "bottom"].flatMap fun side =>
    ["", "-width", "-style", "-color"].map fun ending => "border-" ++ side ++ ending

/-- A property that is taken for one about the border of a side by its beginning. -/
def IsStray (property : String) : Prop :=
  isBorderProperty property ∧ property ∉ borderProperties

theorem ownRules_insert_iff (tag : Tag) (before after : List Declaration) :
    ownRules tag (before ++ d :: after) = ownRules tag (before ++ after) ↔ ownRules tag [d] = [] := by
  rw [ownRules_append, ownRules_append, List.append_right_inj, ← List.singleton_append, ownRules_append,
    List.append_left_eq_self]

theorem sideRules_insert_iff (before after : List Declaration) :
    sideRules (before ++ d :: after) = sideRules (before ++ after) ↔
      (isBorderProperty d.property → d.Idle Declaration.borderFlag? true before after ∧
        d.Idle Declaration.borderColor? "#000000" before after) := by
  rw [sideRules_eq_iff]
  by_cases hBorder : isBorderProperty d.property
  · rw [shown?_insert_iff before after hBorder, shown?_insert_iff before after hBorder,
      imp_iff_right hBorder]
  · refine iff_of_true ⟨?_, ?_⟩ (fun h => absurd h hBorder)
    all_goals
      apply shown?_insert_of_given before
      intro side
      exact given_cons_of_ne fun h => hBorder h.1

/-- One more declaration of a property that is not about borders leaves the rules about borders as
they are, unless it is `border-color` with a value, or strays and is not idle. -/
theorem borderRules_declaring_iff (hText : ';' ∉ text) (hRead : Declaration.ofText? text = some d)
    (hProperty : d.property ∉ borderProperties) (tag : Tag) (position : Nat) :
    borderRules (tag.declaring position text) = borderRules tag ↔
      ¬(d.property = "border-color" ∧ d.value ≠ "") ∧
      (IsStray d.property →
        d.Idle Declaration.borderFlag? true (declaredBefore tag position) (declaredAfter tag position) ∧
        d.Idle Declaration.borderColor? "#000000" (declaredBefore tag position)
          (declaredAfter tag position)) := by
  let before := declaredBefore tag position
  let after := declaredAfter tag position
  have hDeclared : declarations (tag.declaring position text) = before ++ d :: after :=
    declarations_declaring hText hRead tag position
  have hStray : IsStray d.property ↔ isBorderProperty d.property :=
    and_iff_left hProperty
  have hMem : d ∈ declarations (tag.declaring position text) := by
    rw [hDeclared]
    exact List.mem_append_right before (List.mem_cons_self ..)
  have hOwn : ownRules tag (before ++ d :: after) = ownRules tag (before ++ after) ↔
      ¬(d.property = "border-color" ∧ d.value ≠ "") := by
    rw [ownRules_insert_iff, ← ownRules_declaring tag position text]
    exact ownRules_singleton_eq_nil_iff hMem
  rw [borderRules_eq, borderRules_eq, hDeclared, declarations_eq tag position, ownRules_declaring, hStray]
  by_cases hColor : d.property = "border-color" ∧ d.value ≠ ""
  · -- such a declaration gives no sides anything
    have hPlain : ¬isBorderProperty d.property := by
      rw [hColor.1]
      decide
    have hSides : sideRules (before ++ d :: after) = sideRules (before ++ after) :=
      sideRules_insert_iff before after |>.mpr fun hBorder => absurd hBorder hPlain
    rw [hSides, List.append_left_inj, hOwn]
    exact (and_iff_left fun hBorder => absurd hBorder hPlain).symm
  · rw [hOwn.mpr hColor, List.append_right_inj, sideRules_insert_iff]
    exact (and_iff_right hColor).symm

end Declaring

/-- A border after the place of one more declaration makes up for a rounded corner. -/
theorem roundedFrame_keeps_border :
    let tag : Tag := { name := "div", attrs := .ofList [("style", "color: blue; border: none")] }
    let text := " Border-Left-Radius: 5px".toList
    ';' ∉ text ∧ Declaration.ofText? text = some ⟨"border-left-radius", "5px"⟩ ∧
      "border-left-radius" ∉ borderProperties ∧ IsStray "border-left-radius" ∧
      borderRules (tag.declaring 1 text) = borderRules tag := by
  intro tag text
  have hText : ';' ∉ text := by decide
  have hRead : Declaration.ofText? text = some ⟨"border-left-radius", "5px"⟩ := by decide +kernel
  have hProperty : "border-left-radius" ∉ borderProperties := by decide
  refine ⟨hText, hRead, hProperty, ⟨by decide, hProperty⟩, ?_⟩
  refine (borderRules_declaring_iff hText hRead hProperty tag 1).mpr ⟨by decide, fun _ => ⟨?_, nofun⟩⟩
  rintro flag -
  refine ⟨⟨.left, by decide +kernel⟩, fun side _ => .inl ?_⟩
  cases side <;> decide +kernel

/-- A rounded corner gives an element without any border one on the other sides. -/
theorem roundedBlock_gains_border :
    let tag : Tag := { name := "div", attrs := .ofList [("style", "color: blue")] }
    let text := "border-top-left-radius: 4px".toList
    ';' ∉ text ∧ Declaration.ofText? text = some ⟨"border-top-left-radius", "4px"⟩ ∧
      "border-top-left-radius" ∉ borderProperties ∧ borderRules (tag.declaring 1 text) ≠ borderRules tag := by
  intro tag text
  refine ⟨by decide, by decide +kernel, by decide, fun hSame => ?_⟩
  have hLength : (borderRules (tag.declaring 1 text)).length = 1 := by decide +kernel
  have hBare : (borderRules tag).length = 0 := by decide +kernel
  rw [hSame, hBare] at hLength
  cases hLength

end MarkupLayout.Style
