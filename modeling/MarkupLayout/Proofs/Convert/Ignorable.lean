import Mathlib.Logic.Relation
import MarkupLayout.Proofs.Convert.FirstFailure
import MarkupLayout.Proofs.Convert.Paths

/-!
# Ignorable children

Some markup makes no node and asks for no picture wherever it stands. Of the other children of an element
it can only be told that there are any, and of the steps of a conversion the result depends on the
requests alone. So such markup can stand beside other children anywhere in a tree and leaves no trace, or
at most a report that a child was dropped, unless the text hook looks at children.
-/

namespace MarkupLayout.Convert

open Layout Picture

/-- Empty text, columns with anything in them, and childless pictures without an address. -/
inductive Ignorable : Markup → Prop where
  | blank : Ignorable (.text "")
  | column {tag : Tag} (hKind : Kind.of tag = .ignored) (children : List Markup) :
      Ignorable (.element tag children)
  | picture {tag : Tag} (hKind : Kind.of tag = .picture) (hSource : tag.present? "src" = none) :
      Ignorable (.element tag [])

/-- A tree and the same with one ignorable child more, beside other children and outside of drawings. -/
inductive Padded : Markup → Markup → Prop where
  | here {tag : Tag} (before : List Markup) {after : List Markup} {child : Markup}
      (hKind : Kind.of tag ≠ .drawing) (hBeside : before ++ after ≠ []) (hChild : Ignorable child) :
      Padded (.element tag (before ++ after)) (.element tag (before ++ child :: after))
  | inside {tag : Tag} (before : List Markup) {after : List Markup} {child padded : Markup}
      (hKind : Kind.of tag ≠ .drawing) (h : Padded child padded) :
      Padded (.element tag (before ++ child :: after)) (.element tag (before ++ padded :: after))

section Draft

variable (d : Design) {path : List Tag} {depth : Nat} {m other : Markup}

theorem Ignorable.made (h : Ignorable m) (path : List Element) : made (d.draft path depth m).1 = [] := by
  cases h with
  | blank => rfl
  | column hKind children =>
    rw [Design.draft]
    split
    · rfl
    · rw [hKind]
      rfl
  | picture hKind hSource =>
    rw [Design.draft]
    split
    · rfl
    · rw [hKind]
      dsimp only
      rw [Design.assemble, hKind]
      dsimp only
      rw [hSource]
      rfl

theorem Ignorable.requests (h : Ignorable m) :
    (visits d.maxDepth path depth m).filterMap d.request? = [] := by
  cases h with
  | blank => rfl
  | column hKind children =>
    rw [visits, if_pos (.inr (.inl hKind))]
    rfl
  | @picture tag hKind hSource =>
    have hRequest : d.request? (path ++ [tag]) = none := by
      rw [d.request?_of_picture hKind, hSource]
      rfl
    rw [visits]
    split
    · rfl
    · rw [visitsAmong, List.nil_append, List.filterMap_cons, hRequest]
      rfl

theorem visitsAmong_append (limit : Nat) (path : List Tag) (depth : Nat) (before after : List Markup) :
    visitsAmong limit path depth (before ++ after) =
      visitsAmong limit path depth before ++ visitsAmong limit path depth after := by
  induction before with
  | nil => rfl
  | cons child rest ih => rw [List.cons_append, visitsAmong, visitsAmong, ih, List.append_assoc]

theorem Padded.draft (hHook : d.HookBlind) (h : Padded m other) (path : List Element) (depth : Nat) :
    (d.draft path depth other).1 = (d.draft path depth m).1 := by
  induction h generalizing path depth with
  | @here tag before after child hKind hBeside hChild =>
    refine d.draft_congr hKind ?_ ?_
    · rw [isEmpty_append_cons, List.isEmpty_eq_false_iff.mpr hBeside]
    · rw [Design.draftAll_inside hHook path tag _ (before ++ after), d.draftAll_append, d.draftAll_append,
        d.draftAll_cons, hChild.made, List.nil_append]
  | @inside tag before after child padded hKind h ih =>
    refine d.draft_congr hKind ?_ ?_
    · rw [isEmpty_append_cons, isEmpty_append_cons]
    · rw [Design.draftAll_inside hHook path tag _ (before ++ child :: after), d.draftAll_append,
        d.draftAll_append, d.draftAll_cons, d.draftAll_cons, ih]

theorem Padded.requests (h : Padded m other) (path : List Tag) (depth : Nat) :
    (visits d.maxDepth path depth other).filterMap d.request? =
      (visits d.maxDepth path depth m).filterMap d.request? := by
  induction h generalizing path depth with
  | here before hKind hBeside hChild =>
    rw [visits, visits]
    split
    · rfl
    · simp only [visitsAmong_append, visitsAmong, List.filterMap_append, hChild.requests d,
        List.nil_append]
  | inside before hKind h ih =>
    rw [visits, visits]
    split
    · rfl
    · simp only [visitsAmong_append, visitsAmong, List.filterMap_append, ih]

theorem Design.draft_of_padded (hHook : d.HookBlind) (h : Relation.ReflTransGen Padded m other) :
    (d.draft [] 0 other).1 = (d.draft [] 0 m).1 ∧
      (visits d.maxDepth [] 0 other).filterMap d.request? =
        (visits d.maxDepth [] 0 m).filterMap d.request? := by
  induction h with
  | refl => exact ⟨rfl, rfl⟩
  | tail _ hLast ih =>
    obtain ⟨hDraft, hVisits⟩ := ih
    exact ⟨(hLast.draft d hHook [] 0).trans hDraft, (hLast.requests d [] 0).trans hVisits⟩

end Draft

namespace Converter

variable (c : Converter) (now : UInt64)

theorem journal_answer (hSilent : c.journaled = false) (request : Request) (ledger : Ledger) :
    (c.answer now request ledger).2.journal = ledger.journal := by
  rw [answer]
  cases ((c.resolver ledger.fetched).resolve now c.tolerant request ledger.cache).outcome with
  | none => rfl
  | some outcome =>
    dsimp only
    rw [note, hSilent]
    rfl

theorem alike_answer (request : Request) {first second : Ledger} (h : Ledger.Alike first second) :
    (c.answer now request first).1 = (c.answer now request second).1 ∧
      Ledger.Alike (c.answer now request first).2 (c.answer now request second).2 := by
  refine ⟨by rw [answer, answer, h.cache, h.fetched], ?_, ?_, ?_⟩
  · rw [answer, answer, h.cache, h.fetched]
  · rw [answer, answer, h.cache, h.fetched]
  · cases hJournaled : c.journaled with
    | false => rw [c.journal_answer now hJournaled, c.journal_answer now hJournaled, h.lookups]
    | true => rw [lookupsOf_answer hJournaled, lookupsOf_answer hJournaled, h.cache, h.fetched, h.lookups]

theorem take_requests (steps : List Step) {first second : Ledger} (h : Ledger.Alike first second) :
    (c.take now steps first).1 =
        (c.take now ((steps.filterMap Step.request?).map .resolve) second).1 ∧
      Ledger.Alike (c.take now steps first).2
        (c.take now ((steps.filterMap Step.request?).map .resolve) second).2 := by
  induction steps generalizing first second with
  | nil => exact ⟨rfl, h⟩
  | cons step rest ih =>
    cases step with
    | drop parent child fault =>
      rw [take_drop]
      exact ih ((c.alike_report parent child fault first).trans h)
    | resolve request =>
      obtain ⟨hSame, hAlike⟩ := c.alike_answer now request h
      have hRequests : ((Step.resolve request :: rest).filterMap Step.request?).map Step.resolve =
          .resolve request :: (rest.filterMap Step.request?).map .resolve := rfl
      rw [hRequests]
      cases hAnswer : (c.answer now request first).1 with
      | error failure =>
        rw [take_resolve_error hAnswer, take_resolve_error (hSame.symm.trans hAnswer)]
        exact ⟨rfl, hAlike⟩
      | ok text =>
        obtain ⟨hRest, hLast⟩ := ih hAlike
        rw [take_resolve_ok hAnswer, take_resolve_ok (hSame.symm.trans hAnswer), hRest]
        exact ⟨rfl, hLast⟩

/-- Two lists of steps with the same requests come to the same. -/
theorem take_congr {steps others : List Step}
    (h : steps.filterMap Step.request? = others.filterMap Step.request?) (ledger : Ledger) :
    (c.take now steps ledger).1 = (c.take now others ledger).1 ∧
      Ledger.Alike (c.take now steps ledger).2 (c.take now others ledger).2 := by
  obtain ⟨hFirst, hAlike⟩ := c.take_requests now steps (.refl ledger)
  obtain ⟨hSecond, hOther⟩ := c.take_requests now others (.refl ledger)
  rw [h] at hFirst hAlike
  exact ⟨hFirst.trans hSecond.symm, hAlike.trans hOther.symm⟩

/-- If the text hook sees the tags only, any number of ignorable children beside others, anywhere outside of
drawings, change neither what a conversion comes to nor what it fetches, caches and looks up. -/
theorem convertMarkup_padded (hHook : c.design.HookBlind) (root other : Element)
    (h : Relation.ReflTransGen Padded root.toMarkup other.toMarkup) (ledger : Ledger) :
    (c.convertMarkup now other ledger).1 = (c.convertMarkup now root ledger).1 ∧
      Ledger.Alike (c.convertMarkup now other ledger).2 (c.convertMarkup now root ledger).2 := by
  obtain ⟨hDraft, hVisits⟩ := c.design.draft_of_padded hHook h
  have hContent : (c.design.draftRoot other).1 = (c.design.draftRoot root).1 :=
    congrArg rootContent hDraft
  have hRequests : (c.design.draftRoot other).2.filterMap Step.request? =
      (c.design.draftRoot root).2.filterMap Step.request? := by
    rw [c.design.requests_draftRoot, c.design.requests_draftRoot]
    exact hVisits
  obtain ⟨hTaken, hAlike⟩ := c.take_congr now hRequests ledger
  have hFinish (e : Element) : Ledger.Alike (c.convertMarkup now e ledger).2
      (c.take now (c.design.draftRoot e).2 ledger).2 :=
    c.alike_finish "convert_markup" (c.convertRoot now e ledger)
  rw [answer_convertMarkup, answer_convertMarkup, hTaken, hContent]
  exact ⟨rfl, ((hFinish other).trans hAlike).trans (hFinish root).symm⟩

end Converter

def pictureRow (above besides behind : List Markup) : Element where
  tag := { name := "body" }
  children :=
    [.element { name := "table" }
      (above ++ [.element { name := "tr" }
        (.element { name := "td" } (.text "a" :: besides) ::
          .element { name := "td" }
            [.element { name := "img", attrs := .ofList [("src", "http://ab.cd/e.png")] } []] ::
          behind)])]

def columns : Markup :=
  .element { name := "colgroup" } [.element { name := "IMG" } [], .text "b"]

def noPicture : Markup :=
  .element { name := "img", attrs := .ofList [("src", "")] } []

/-- Columns above the row, an empty text in a cell and a picture without an address behind the cells
leave no trace. -/
theorem pictureRow_padded : strictConverter.design.HookBlind ∧
    Relation.ReflTransGen Padded (pictureRow [] [] []).toMarkup
      (pictureRow [columns] [.text ""] [noPicture]).toMarkup ∧
    ((strictConverter.convertMarkup 0 (pictureRow [columns] [.text ""] [noPicture]) {}).1 =
        (strictConverter.convertMarkup 0 (pictureRow [] [] []) {}).1 ∧
      Ledger.Alike (strictConverter.convertMarkup 0 (pictureRow [columns] [.text ""] [noPicture]) {}).2
        (strictConverter.convertMarkup 0 (pictureRow [] [] []) {}).2) ∧
    (strictConverter.convertMarkup 0 (pictureRow [] [] []) {}).1.isOk ∧
    (strictConverter.convertMarkup 0 (pictureRow [] [] []) {}).2.fetched = ["http://ab.cd/e.png"] := by
  have hColumns : Padded (pictureRow [] [] []).toMarkup (pictureRow [columns] [] []).toMarkup :=
    .inside [] (by decide) (.here [] (by decide) nofun (.column (by decide) _))
  have hBlank : Padded (pictureRow [columns] [] []).toMarkup
      (pictureRow [columns] [.text ""] []).toMarkup :=
    .inside [] (by decide) (.inside [columns] (by decide) (.inside [] (by decide)
      (.here [.text "a"] (by decide) nofun .blank)))
  have hPicture : Padded (pictureRow [columns] [.text ""] []).toMarkup
      (pictureRow [columns] [.text ""] [noPicture]).toMarkup :=
    .inside [] (by decide) (.inside [columns] (by decide)
      (.here [_, _] (by decide) nofun (.picture (by decide) (by decide))))
  have hPadded := ((Relation.ReflTransGen.single hColumns).tail hBlank).tail hPicture
  exact ⟨namingConverter_hookBlind, hPadded,
    strictConverter.convertMarkup_padded 0 namingConverter_hookBlind _ _ hPadded {}, by decide +kernel,
    by decide +kernel⟩

end MarkupLayout.Convert
