import MarkupLayout.Convert.Draft
import MarkupLayout.Proofs.Layout.Occurrence

/-!
# What drafting makes

The body of an assembled node is one of six, and only a picture element makes a picture. So a
property of nodes holds of every drafted node if texts and drawings have it and assembling keeps it
for the tags of the tree.
-/

namespace MarkupLayout.Convert

open Layout

/-- Kinds that assembling gives a run or a stack of the children. -/
def Kind.gathers : Kind → Bool
  | .table | .list _ | .picture | .divider | .lineBreak => false
  | _ => true

theorem Kind.eq_of_gathers {kind : Kind} (h : kind.gathers)
    (hKinds : kind ≠ .ignored ∧ kind ≠ .drawing) :
    kind = .cell ∨ kind = .link ∨ (∃ script, kind = .script script) ∨ kind = .font ∨ kind = .other := by
  cases kind with
  | ignored => exact absurd rfl hKinds.1
  | drawing => exact absurd rfl hKinds.2
  | table | list | picture | divider | lineBreak => cases h
  | _ => simp

/-- The bodies that an element with these nodes for its children may get. -/
inductive Assembled (tag : Tag) (nodes : List (Node Source)) : Body Source → Prop where
  | children (hKind : (Kind.of tag).gathers) : Assembled tag nodes (Body.ofChildren nodes).collapse
  | table (form : TableForm) (hKind : Kind.of tag = .table) :
      Assembled tag nodes (.table (expandSpans (rowsOf nodes)) form)
  | list {ordered : Bool} (marker : Option String) (hKind : Kind.of tag = .list ordered) :
      Assembled tag nodes (.list ordered nodes marker)
  | picture {address : String} (style : StyleMap) (hKind : Kind.of tag = .picture)
      (hAddress : tag.present? "src" = some address) : Assembled tag nodes (.picture (.of address style))
  | line (segment : Line) (hKind : Kind.of tag = .divider) : Assembled tag nodes (.line segment)
  | lineBreak (hKind : Kind.of tag = .lineBreak) : Assembled tag nodes (.text "\n")

theorem isTag_iff {n : Node Source} {tag : Tag} {name : String}
    (h : n.frame.tag = some (Text.asciiUpper tag.name)) (hName : Text.asciiLower name = name) :
    n.isTag name ↔ tag.kind = name := by
  rw [Node.isTag, h, Option.any_some, Text.sameIgnoringCase, Text.asciiLower_asciiUpper, hName, beq_iff_eq,
    Tag.kind]

variable (d : Design) {path : List Tag} {tag : Tag} {children : List Markup}
  {nodes : List (Node Source)} {n : Node Source}

theorem Design.tag_plainFrame (path : List Tag) (frame : Frame) (children : List Markup)
    (nodes : List (Node Source)) : (d.plainFrame path frame children nodes).tag = frame.tag := by
  rw [plainFrame]
  split <;> rfl

theorem Design.assembled_of_assemble (h : d.assemble path tag children nodes = .ok n) :
    n.frame.tag = some (Text.asciiUpper tag.name) ∧ Assembled tag nodes n.body := by
  have hPlain := d.tag_plainFrame path { tag := some (Text.asciiUpper tag.name) } children nodes
  rw [assemble] at h
  cases hKind : Kind.of tag <;> rw [hKind] at h
  case picture =>
    dsimp only at h
    split at h
    · cases h
    · next address hAddress =>
      obtain rfl := Except.ok.inj h
      exact ⟨rfl, .picture _ hKind hAddress⟩
  all_goals obtain rfl := Except.ok.inj h
  case table => exact ⟨rfl, .table _ hKind⟩
  case list => exact ⟨rfl, .list _ hKind⟩
  case divider => exact ⟨hPlain, .line _ hKind⟩
  case lineBreak => exact ⟨hPlain, .lineBreak hKind⟩
  case cell => exact ⟨rfl, .children (by rw [hKind]; rfl)⟩
  case font => exact ⟨rfl, .children (by rw [hKind]; rfl)⟩
  all_goals exact ⟨hPlain, .children (by rw [hKind]; rfl)⟩

theorem Design.kind_of_assemble_error {fault : Fault}
    (h : d.assemble path tag children nodes = .error fault) :
    Kind.of tag = .picture ∧ tag.present? "src" = none := by
  rw [assemble] at h
  cases hKind : Kind.of tag <;> rw [hKind] at h
  case picture =>
    dsimp only at h
    split at h
    · next hSource => exact ⟨rfl, hSource⟩
    · cases h
  all_goals cases h

theorem Design.assemble_congr {others : List Markup} (hEmpty : others.isEmpty = children.isEmpty) :
    d.assemble path tag others nodes = d.assemble path tag children nodes := by
  rw [assemble, assemble, plainFrame, plainFrame, hEmpty]

theorem eq_picture_of_collapse {body : Body Source} {source : Source}
    (h : body.collapse = .picture source) : body = .picture source := by
  revert h
  fun_cases Body.collapse body with
  | case1 =>
    intro h
    cases h
  | case2 =>
    intro h
    cases h
  | case3 => exact id

theorem collapse_ofChildren_ne_picture (nodes : List (Node Source)) (source : Source) :
    (Body.ofChildren nodes).collapse ≠ .picture source := by
  intro h
  have hBody := eq_picture_of_collapse h
  rw [Body.ofChildren] at hBody
  split at hBody <;> cases hBody

theorem Assembled.ne_picture {body : Body Source} (hBody : Assembled tag nodes body)
    (hKind : Kind.of tag ≠ .picture) (source : Source) : body ≠ .picture source := by
  cases hBody with
  | children => exact collapse_ofChildren_ne_picture nodes source
  | picture style hPicture => exact absurd hPicture hKind
  | _ => nofun

theorem Assembled.eq_filler_or_occurs {body : Body Source} (hBody : Assembled tag nodes body)
    (h : Occurs n body.members) : n = .filler ∨ Occurs n nodes := by
  cases hBody with
  | children =>
    have hSub := members_collapse_subset (Body.ofChildren nodes)
    rw [members_ofChildren] at hSub
    exact .inr (h.mono hSub)
  | table => exact eq_filler_or_occurs_of_grid h
  | list => exact .inr h
  | picture => exact absurd h not_occurs_nil
  | line => exact absurd h not_occurs_nil
  | lineBreak => exact absurd h not_occurs_nil

def made : Except Fault (Option (Node Source)) → List (Node Source)
  | .ok (some n) => [n.settle]
  | _ => []

/-- The report that a child could not be drafted. -/
def reported (parent : Tag) (child : String) : Except Fault (Option (Node Source)) → List Step
  | .error fault => [.drop parent.kind child fault]
  | .ok _ => []

/-- What an element may make, with these nodes for its children. -/
inductive Makes (tag : Tag) (children : List Markup) (nodes : List (Node Source)) :
    List (Node Source) → Prop where
  | nothing (h : Kind.of tag = .ignored ∨ Kind.of tag = .picture ∧ tag.present? "src" = none) :
      Makes tag children nodes []
  | drawing (h : Kind.of tag = .drawing) : Makes tag children nodes [Design.drawing tag children]
  | assembled {frame : Frame} {body : Body Source} (hTag : frame.tag = some (Text.asciiUpper tag.name))
      (hBody : Assembled tag nodes body) (hKind : Kind.of tag ≠ .ignored ∧ Kind.of tag ≠ .drawing) :
      Makes tag children nodes [(Node.node frame body).settle]

section Made

variable {path : List Element} {parent : Tag} {depth : Nat} {child : Markup} {rest : List Markup}

theorem Design.draftAll_cons : (d.draftAll path parent depth (child :: rest)).1 =
    made (d.draft path depth child).1 ++ (d.draftAll path parent depth rest).1 := by
  rw [draftAll]
  split
  · next h => rw [h]; rfl
  · next h => rw [h]; rfl
  · next h => rw [h]; rfl

theorem Design.steps_draftAll_cons : (d.draftAll path parent depth (child :: rest)).2 =
    (d.draft path depth child).2 ++ reported parent (childName child) (d.draft path depth child).1 ++
      (d.draftAll path parent depth rest).2 := by
  rw [draftAll]
  split
  · next h => rw [h, reported, List.append_nil]
  · next h => rw [h, reported, List.append_nil]
  · next h => rw [h, reported, List.append_assoc, List.singleton_append]

theorem Design.draftAll_append (path : List Element) (parent : Tag) (depth : Nat)
    (before after : List Markup) : (d.draftAll path parent depth (before ++ after)).1 =
      (d.draftAll path parent depth before).1 ++ (d.draftAll path parent depth after).1 := by
  induction before with
  | nil => rfl
  | cons child rest ih =>
    rw [List.cons_append, draftAll_cons, draftAll_cons, ih, List.append_assoc]

theorem Design.steps_draftAll_append (path : List Element) (parent : Tag) (depth : Nat)
    (before after : List Markup) : (d.draftAll path parent depth (before ++ after)).2 =
      (d.draftAll path parent depth before).2 ++ (d.draftAll path parent depth after).2 := by
  induction before with
  | nil => rfl
  | cons child rest ih =>
    rw [List.cons_append, steps_draftAll_cons, steps_draftAll_cons, ih, ← List.append_assoc]

theorem isEmpty_append_cons (before after : List Markup) (child : Markup) :
    (before ++ child :: after).isEmpty = false := by
  cases before <;> rfl

theorem Design.made_text (raw : String) : made (d.draft path depth (.text raw)).1 = [] ∨
    ∃ frame content, frame.tag = none ∧
      made (d.draft path depth (.text raw)).1 = [.node frame (.text content)] := by
  rw [draft, textLeaf?]
  split
  · exact .inl rfl
  · exact .inr ⟨_, _, rfl, rfl⟩

theorem Design.made_deep (hDepth : ¬depth ≤ d.maxDepth) :
    made (d.draft path depth (.element tag children)).1 = [] := by
  rw [draft, if_pos (Nat.lt_of_not_le hDepth)]
  rfl

theorem Design.of_draft_eq_ok (h : (d.draft path depth (.element tag children)).1 = .ok (some n)) :
    Kind.of tag = .drawing ∧ n = Design.drawing tag children ∨
      (Kind.of tag ≠ .ignored ∧ Kind.of tag ≠ .drawing) ∧ d.assemble (tags path ++ [tag]) tag children
        (d.draftAll (path ++ [⟨tag, children⟩]) tag (depth + 1) children).1 = .ok n := by
  rw [draft] at h
  split at h
  · cases h
  split at h
  · cases h
  · next hKind => exact .inl ⟨hKind, (Option.some.inj (Except.ok.inj h)).symm⟩
  · next hIgnored hDrawing =>
    dsimp only at h
    split at h
    · cases h
    · next hMade =>
      rw [hMade]
      exact .inr ⟨⟨hIgnored, hDrawing⟩, congrArg _ (Option.some.inj (Except.ok.inj h))⟩

theorem Design.makes_draft (hDepth : depth ≤ d.maxDepth) :
    Makes tag children (d.draftAll (path ++ [⟨tag, children⟩]) tag (depth + 1) children).1
      (made (d.draft path depth (.element tag children)).1) := by
  rw [draft, if_neg (Nat.not_lt.mpr hDepth)]
  split
  · next hKind => exact .nothing (.inl hKind)
  · next hKind => exact .drawing hKind
  · next hIgnored hDrawing =>
    dsimp only
    split
    · next hFault => exact .nothing (.inr (d.kind_of_assemble_error hFault))
    · next n hMade =>
      obtain ⟨frame, body⟩ := n
      obtain ⟨hTag, hBody⟩ := d.assembled_of_assemble hMade
      exact .assembled hTag hBody ⟨hIgnored, hDrawing⟩

theorem Design.draft_congr {others : List Markup} (hKind : Kind.of tag ≠ .drawing)
    (hEmpty : others.isEmpty = children.isEmpty)
    (hNodes : (d.draftAll (path ++ [⟨tag, others⟩]) tag (depth + 1) others).1 =
      (d.draftAll (path ++ [⟨tag, children⟩]) tag (depth + 1) children).1) :
    (d.draft path depth (.element tag others)).1 = (d.draft path depth (.element tag children)).1 := by
  rw [draft, draft]
  split
  · rfl
  split
  · rfl
  · next hDrawing => exact absurd hDrawing hKind
  · dsimp only
    rw [hNodes, d.assemble_congr hEmpty]
    split <;> rfl

theorem Design.steps_congr {others : List Markup}
    (hNodes : d.draftAll (path ++ [⟨tag, others⟩]) tag (depth + 1) others =
      d.draftAll (path ++ [⟨tag, children⟩]) tag (depth + 1) children)
    (hEmpty : others.isEmpty = children.isEmpty) :
    (d.draft path depth (.element tag others)).2 = (d.draft path depth (.element tag children)).2 := by
  rw [draft, draft]
  split
  · rfl
  split
  · rfl
  · rfl
  · dsimp only
    rw [hNodes, d.assemble_congr hEmpty]

theorem Makes.frame_tag {others : List (Node Source)} (h : Makes tag children nodes others) :
    ∀ n ∈ others, n.frame.tag = some (Text.asciiUpper tag.name) := by
  intro n hn
  cases h with
  | nothing => cases hn
  | drawing =>
    rw [List.mem_singleton.mp hn]
    rfl
  | assembled hTag =>
    rw [List.mem_singleton.mp hn, frame_settle]
    exact hTag

theorem members_rootContent (drafted : Except Fault (Option (Node Source))) :
    (rootContent drafted).members = (made drafted).flatMap fun n => n.children?.getD [] := by
  rcases drafted with fault | _ | ⟨frame, body⟩
  · rfl
  · rfl
  · cases body with
    | inline nodes =>
      cases nodes with
      | nil => rfl
      | cons n nodes => exact (List.append_nil _).symm
    | stack nodes => exact (List.append_nil _).symm
    | _ => rfl

theorem occurs_made_of_rootContent {drafted : Except Fault (Option (Node Source))}
    (h : Occurs n (rootContent drafted).members) : Occurs n (made drafted) := by
  rw [members_rootContent] at h
  obtain ⟨member, hMember, hOccurs⟩ := occurs_iff.mp h
  obtain ⟨outer, hOuter, hInside⟩ := List.mem_flatMap.mp hMember
  have hMembers : member ∈ outer.body.members := by
    cases hChildren : outer.children? with
    | none =>
      rw [hChildren] at hInside
      cases hInside
    | some members =>
      rw [hChildren] at hInside
      rwa [members_of_children? hChildren]
  exact .inside hOuter (occurs_iff.mpr ⟨member, hMembers, hOccurs⟩)

end Made

/-- A property that texts and drawings have and that assembling keeps for some tags. -/
structure Kept (among : Tag → Prop) (P : Node Source → Prop) : Prop where
  text : ∀ frame content, P (.node frame (.text content))
  drawing : ∀ tag children, Kind.of tag = .drawing → P (Design.drawing tag children)
  assembled : ∀ frame tag nodes body, among tag → frame.tag = some (Text.asciiUpper tag.name) →
    (∀ m, Occurs m nodes → P m) → Assembled tag nodes body → P (Node.node frame body).settle

mutual

def tagsOf : Markup → List Tag
  | .text _ => []
  | .element tag children => tag :: tagsAmong children

def tagsAmong : List Markup → List Tag
  | [] => []
  | child :: rest => tagsOf child ++ tagsAmong rest

end

section Keeping

variable {among : Tag → Prop} {P : Node Source → Prop}

theorem Kept.occurs_text (hP : Kept among P) (frame : Frame) (content : String) :
    ∀ m, Occurs m [.node frame (.text content)] → P m := by
  intro m hm
  rcases occurs_singleton_iff.mp hm with rfl | hm
  · exact hP.text ..
  · exact absurd hm not_occurs_nil

theorem Kept.occurs_makes {others : List (Node Source)} (hP : Kept among P) (hTag : among tag)
    (hNodes : ∀ m, Occurs m nodes → P m) (h : Makes tag children nodes others) :
    ∀ m, Occurs m others → P m := by
  intro m hm
  cases h with
  | nothing => exact absurd hm not_occurs_nil
  | drawing hKind =>
    rcases occurs_singleton_iff.mp hm with rfl | hm
    · exact hP.drawing tag children hKind
    · exact absurd hm not_occurs_nil
  | assembled hFrame hBody =>
    rcases occurs_singleton_iff.mp hm with rfl | hm
    · exact hP.assembled _ tag nodes _ hTag hFrame hNodes hBody
    · rw [members_settle] at hm
      rcases hBody.eq_filler_or_occurs hm with rfl | hm
      · exact hP.text ..
      · exact hNodes m hm

mutual

theorem Design.kept_made (hP : Kept among P) (path : List Element) (depth : Nat) (m : Markup)
    (hTags : ∀ tag ∈ tagsOf m, among tag) : ∀ n, Occurs n (made (d.draft path depth m).1) → P n := by
  cases m with
  | text raw =>
    rcases d.made_text raw with hNone | ⟨frame, content, -, hLeaf⟩
    · rw [hNone]
      exact fun n hn => absurd hn not_occurs_nil
    · rw [hLeaf]
      exact hP.occurs_text frame content
  | element tag children =>
    obtain ⟨hTag, hChildren⟩ := List.forall_mem_cons.mp hTags
    have hNodes := kept_draftAll hP (path ++ [⟨tag, children⟩]) tag (depth + 1) children hChildren
    by_cases hDepth : depth ≤ d.maxDepth
    · exact hP.occurs_makes hTag hNodes (d.makes_draft hDepth)
    · rw [d.made_deep hDepth]
      exact fun n hn => absurd hn not_occurs_nil

theorem Design.kept_draftAll (hP : Kept among P) (path : List Element) (parent : Tag) (depth : Nat)
    (children : List Markup) (hTags : ∀ tag ∈ tagsAmong children, among tag) :
    ∀ n, Occurs n (d.draftAll path parent depth children).1 → P n := by
  cases children with
  | nil => exact fun n hn => absurd hn not_occurs_nil
  | cons child rest =>
    obtain ⟨hChild, hOthers⟩ := List.forall_mem_append.mp hTags
    have hFirst := kept_made hP path depth child hChild
    have hRest := kept_draftAll hP path parent depth rest hOthers
    rw [draftAll_cons]
    intro n hn
    rcases occurs_append_iff.mp hn with hn | hn
    · exact hFirst n hn
    · exact hRest n hn

end

/-- What is kept for the tags of a tree holds at every depth of its draft. -/
theorem Design.kept_draftRoot {root : Element} (hP : Kept (· ∈ tagsOf root.toMarkup) P) :
    ∀ m, Occurs m (d.draftRoot root).1.members → P m :=
  fun m hm => d.kept_made hP [] 0 root.toMarkup (fun _ hTag => hTag) m (occurs_made_of_rootContent hm)

end Keeping

end MarkupLayout.Convert
