import MarkupLayout.Proofs.Convert.Faults

/-!
# The first failure

A conversion comes to the remote pictures of a tree in a fixed order: children before their element
and siblings in document order, whatever becomes of the nodes. It looks them up one after the other
until one fails, and fails with that one. If every failure is tolerated, it never fails.
-/

namespace MarkupLayout.Convert

open Layout Picture

mutual

/-- The elements that a conversion comes to, each as the path to it. One that is ignored, drawn or
nested too deep is passed over with everything in it. -/
def visits (limit : Nat) (path : List Tag) (depth : Nat) : Markup → List (List Tag)
  | .text _ => []
  | .element tag children =>
    if limit < depth ∨ Kind.of tag = .ignored ∨ Kind.of tag = .drawing then []
    else visitsAmong limit (path ++ [tag]) (depth + 1) children ++ [path ++ [tag]]

def visitsAmong (limit : Nat) (path : List Tag) (depth : Nat) : List Markup → List (List Tag)
  | [] => []
  | child :: rest => visits limit path depth child ++ visitsAmong limit path depth rest

end

namespace Design

/-- What an element at the end of a path asks for, if it is a picture with a remote address. -/
def request? (d : Design) (path : List Tag) : Option Request :=
  (path.getLast?.filter (Kind.of · = .picture)).bind fun tag =>
    ((tag.present? "src").filter (Text.startsWith · "http")).map fun address =>
      let style := Style.cascade d.styles .own path ∅
      .of address ((style.number? "width").bind pixels?) ((style.number? "height").bind pixels?)

/-- The remote pictures of a tree in the order of a conversion. -/
def remotePictures (d : Design) (root : Element) : List Request :=
  (visits d.maxDepth [] 0 root.toMarkup).filterMap d.request?

end Design

def Step.request? : Step → Option Request
  | .resolve request => some request
  | .drop .. => none

section Order

variable (d : Design) {path : List Tag} {tag : Tag} {children : List Markup}
  {nodes : List (Node Source)}

theorem Design.request?_of_ne (hKind : Kind.of tag ≠ .picture) : d.request? (path ++ [tag]) = none := by
  rw [request?, List.getLast?_concat, Option.filter_some, if_neg (by simpa using hKind)]
  rfl

theorem Design.request?_of_picture (hKind : Kind.of tag = .picture) : d.request? (path ++ [tag]) =
    ((tag.present? "src").filter (Text.startsWith · "http")).map fun address =>
      let style := Style.cascade d.styles .own (path ++ [tag]) ∅
      .of address ((style.number? "width").bind pixels?) ((style.number? "height").bind pixels?) := by
  rw [request?, List.getLast?_concat, Option.filter_some, if_pos (by simpa using hKind)]
  rfl

theorem Design.request?_of_fault {fault : Fault}
    (h : d.assemble (path ++ [tag]) tag children nodes = .error fault) :
    d.request? (path ++ [tag]) = none := by
  obtain ⟨hKind, hSource⟩ := d.kind_of_assemble_error h
  rw [d.request?_of_picture hKind, hSource]
  rfl

theorem Design.requestSteps_of_assemble {n : Node Source}
    (h : d.assemble (path ++ [tag]) tag children nodes = .ok n) :
    (requestSteps n.body).filterMap Step.request? = (d.request? (path ++ [tag])).toList := by
  by_cases hKind : Kind.of tag = .picture
  · rw [d.request?_of_picture hKind]
    rw [assemble, hKind] at h
    dsimp only at h
    split at h
    · cases h
    · next address hAddress =>
      obtain rfl := Except.ok.inj h
      rw [hAddress, Option.filter_some]
      show (requestSteps (.picture (.of address _))).filterMap Step.request? = _
      rw [Source.of]
      split <;> rfl
  · rw [d.request?_of_ne hKind, requestSteps_of_ne ((d.assembled_of_assemble h).2.ne_picture hKind)]
    rfl

mutual

/-- The requests of a draft are those of the elements that it comes to. -/
theorem Design.requests_draft (path : List Element) (depth : Nat) (m : Markup) :
    (d.draft path depth m).2.filterMap Step.request? =
      (visits d.maxDepth (tags path) depth m).filterMap d.request? := by
  cases m with
  | text raw => rfl
  | element tag children =>
    have hNodes := requests_draftAll (path ++ [⟨tag, children⟩]) tag (depth + 1) children
    rw [tags_concat] at hNodes
    rw [draft, visits]
    split
    · next hDepth =>
      rw [if_pos (.inl hDepth)]
      rfl
    next hDepth =>
    split
    · next hKind =>
      rw [if_pos (.inr (.inl hKind))]
      rfl
    · next hKind =>
      rw [if_pos (.inr (.inr hKind))]
      rfl
    · next hIgnored hDrawing =>
      have hVisited : ¬(d.maxDepth < depth ∨ Kind.of tag = .ignored ∨ Kind.of tag = .drawing) := by
        rintro (h | h | h)
        · exact hDepth h
        · exact hIgnored h
        · exact hDrawing h
      rw [if_neg hVisited, List.filterMap_append, ← hNodes]
      dsimp only
      split
      · next hFault => simp [d.request?_of_fault hFault]
      · next n hMade =>
        rw [List.filterMap_append, d.requestSteps_of_assemble hMade]
        rfl

theorem Design.requests_draftAll (path : List Element) (parent : Tag) (depth : Nat)
    (children : List Markup) :
    (d.draftAll path parent depth children).2.filterMap Step.request? =
      (visitsAmong d.maxDepth (tags path) depth children).filterMap d.request? := by
  cases children with
  | nil => rfl
  | cons child rest =>
    have hFirst := requests_draft path depth child
    have hRest := requests_draftAll path parent depth rest
    rw [draftAll, visitsAmong, List.filterMap_append, ← hFirst, ← hRest]
    split
    · exact List.filterMap_append
    · exact List.filterMap_append
    · exact List.filterMap_append

end

theorem Design.requests_draftRoot (root : Element) :
    (d.draftRoot root).2.filterMap Step.request? = d.remotePictures root :=
  d.requests_draft [] 0 root.toMarkup

end Order

def fetchedIn (resolved : List ((Resolver × Call) × Resolution)) : List String :=
  resolved.flatMap fun (_, resolution) => resolution.fetched

def lookupsIn (resolved : List ((Resolver × Call) × Resolution)) : List (String × Outcome) :=
  resolved.flatMap fun (step, resolution) => (resolution.outcome.map (step.2.url, ·)).toList

def lookupsOf (journal : Journal) : List (String × Outcome) :=
  journal.records.filterMap fun
    | .resolved url outcome => some (url, outcome)
    | _ => none

/-- Two ledgers tell the same of pictures. -/
structure Ledger.Alike (first second : Ledger) : Prop where
  cache : first.cache = second.cache
  fetched : first.fetched = second.fetched
  lookups : lookupsOf first.journal = lookupsOf second.journal

theorem Ledger.Alike.refl (ledger : Ledger) : Ledger.Alike ledger ledger :=
  ⟨rfl, rfl, rfl⟩

theorem Ledger.Alike.symm {first second : Ledger} (h : Ledger.Alike first second) :
    Ledger.Alike second first :=
  ⟨h.cache.symm, h.fetched.symm, h.lookups.symm⟩

theorem Ledger.Alike.trans {first second third : Ledger} (h : Ledger.Alike first second)
    (hOther : Ledger.Alike second third) : Ledger.Alike first third :=
  ⟨h.cache.trans hOther.cache, h.fetched.trans hOther.fetched, h.lookups.trans hOther.lookups⟩

namespace Converter

/-- The calls that a conversion makes for some requests, each with the resolver of its moment. -/
def calls (c : Converter) (now : UInt64) (cache : Cache) (fetched : List String) :
    List Request → List (Resolver × Call)
  | [] => []
  | request :: rest =>
    let step := (c.resolver fetched, Call.of now c.tolerant request)
    let resolution := step.1.answer step.2 cache
    step :: c.calls now resolution.cache (fetched ++ resolution.fetched) rest

/-- What a conversion is given for some requests, one after the other. -/
def lookUp (c : Converter) (now : UInt64) (requests : List Request) (ledger : Ledger) :
    List ((Resolver × Call) × Resolution) :=
  run ledger.cache (c.calls now ledger.cache ledger.fetched requests)

/-- Between two ledgers some requests were looked up one after the other, and no others. -/
structure LooksUp (c : Converter) (now : UInt64) (requests : List Request) (first last : Ledger) :
    Prop where
  cache : last.cache = cacheAfter first.cache (c.calls now first.cache first.fetched requests)
  fetched : last.fetched = first.fetched ++ fetchedIn (c.lookUp now requests first)
  lookups : c.journaled = true →
    lookupsOf last.journal = lookupsOf first.journal ++ lookupsIn (c.lookUp now requests first)

/-- Of some requests and one more, the last is the first to fail. Nothing else is looked up. -/
structure FailsAt (c : Converter) (now : UInt64) (earlier : List Request) (request : Request)
    (failure : Failure) (first last : Ledger) : Prop where
  answered : ∀ resolved ∈ c.lookUp now earlier first, ∃ text, resolved.2.answer = .ok text
  fails : ∃ resolved ∈ (c.lookUp now (earlier ++ [request]) first).getLast?,
    resolved.2.answer = .error failure
  lookups : c.LooksUp now (earlier ++ [request]) first last

/-- Of some requests one is the first to fail, and none after it is looked up. -/
def FailsAmong (c : Converter) (now : UInt64) (requests : List Request) (failure : Failure)
    (first last : Ledger) : Prop :=
  ∃ earlier request later, requests = earlier ++ request :: later ∧
    c.FailsAt now earlier request failure first last

section LooksUp

variable {c : Converter} {now : UInt64} {requests earlier : List Request} {request : Request}
  {failure : Failure} {ledger first last : Ledger}

theorem lookupsOf_answer (hJournaled : c.journaled = true) (request : Request) (ledger : Ledger) :
    lookupsOf (c.answer now request ledger).2.journal = lookupsOf ledger.journal ++
      (((c.resolver ledger.fetched).resolve now c.tolerant request ledger.cache).outcome.map
        (request.url, ·)).toList := by
  rw [answer]
  cases ((c.resolver ledger.fetched).resolve now c.tolerant request ledger.cache).outcome with
  | none => exact (List.append_nil _).symm
  | some outcome =>
    dsimp only
    rw [note, if_pos hJournaled]
    exact List.filterMap_append

theorem alike_report (parent child : String) (fault : Fault) (ledger : Ledger) :
    Ledger.Alike (c.report parent child fault ledger).2 ledger where
  cache := rfl
  fetched := rfl
  lookups := by
    rw [report, note]
    split
    · exact List.filterMap_append.trans (List.append_nil _)
    · rfl

theorem alike_finish {α : Type} (context : String) (result : α × Ledger) :
    Ledger.Alike (c.finish context result).2 result.2 where
  cache := rfl
  fetched := rfl
  lookups := by
    rw [finish, close]
    split
    · exact List.filterMap_append.trans (List.append_nil _)
    · rfl

theorem lookUp_cons (c : Converter) (now : UInt64) (request : Request) (requests : List Request)
    (ledger : Ledger) : c.lookUp now (request :: requests) ledger =
      ((c.resolver ledger.fetched, .of now c.tolerant request),
        (c.resolver ledger.fetched).resolve now c.tolerant request ledger.cache) ::
        c.lookUp now requests (c.answer now request ledger).2 :=
  rfl

theorem getLast?_lookUp (other : Request) : (c.lookUp now (other :: (earlier ++ [request])) first).getLast? =
    (c.lookUp now (earlier ++ [request]) (c.answer now other first).2).getLast? := by
  rw [lookUp_cons]
  cases earlier with
  | nil => exact List.getLast?_cons_cons
  | cons next earlier => exact List.getLast?_cons_cons

theorem LooksUp.nil (ledger : Ledger) : c.LooksUp now [] ledger ledger where
  cache := rfl
  fetched := (List.append_nil _).symm
  lookups _ := (List.append_nil _).symm

theorem looksUp_cons_iff : c.LooksUp now (request :: requests) first last ↔
    c.LooksUp now requests (c.answer now request first).2 last := by
  have hFetched : first.fetched ++ fetchedIn (c.lookUp now (request :: requests) first) =
      (c.answer now request first).2.fetched ++
        fetchedIn (c.lookUp now requests (c.answer now request first).2) :=
    (List.append_assoc ..).symm
  have hLookups (hJournaled : c.journaled = true) : lookupsOf first.journal ++
        lookupsIn (c.lookUp now (request :: requests) first) =
      lookupsOf (c.answer now request first).2.journal ++
        lookupsIn (c.lookUp now requests (c.answer now request first).2) := by
    rw [lookupsOf_answer hJournaled]
    exact (List.append_assoc ..).symm
  constructor
  · intro h
    exact ⟨h.cache, h.fetched.trans hFetched, fun hJournaled =>
      (h.lookups hJournaled).trans (hLookups hJournaled)⟩
  · intro h
    exact ⟨h.cache, h.fetched.trans hFetched.symm, fun hJournaled =>
      (h.lookups hJournaled).trans (hLookups hJournaled).symm⟩

theorem lookUp_congr {start : Ledger} (h : Ledger.Alike start first) (requests : List Request) :
    c.lookUp now requests start = c.lookUp now requests first := by
  rw [lookUp, h.cache, h.fetched, lookUp]

theorem LooksUp.congr {start stop : Ledger} (h : c.LooksUp now requests first last)
    (hStart : Ledger.Alike start first) (hStop : Ledger.Alike stop last) :
    c.LooksUp now requests start stop where
  cache := by rw [hStop.cache, hStart.cache, hStart.fetched, h.cache]
  fetched := by rw [hStop.fetched, hStart.fetched, lookUp_congr hStart, h.fetched]
  lookups hJournaled := by rw [hStop.lookups, hStart.lookups, lookUp_congr hStart, h.lookups hJournaled]

theorem FailsAt.congr {start stop : Ledger} (h : c.FailsAt now earlier request failure first last)
    (hStart : Ledger.Alike start first) (hStop : Ledger.Alike stop last) :
    c.FailsAt now earlier request failure start stop where
  answered := by
    rw [lookUp_congr hStart]
    exact h.answered
  fails := by
    rw [lookUp_congr hStart]
    exact h.fails
  lookups := h.lookups.congr hStart hStop

theorem failsAt_nil (h : (c.answer now request ledger).1 = .error failure) :
    c.FailsAt now [] request failure ledger (c.answer now request ledger).2 where
  answered _ hMem := absurd hMem List.not_mem_nil
  fails := ⟨_, rfl, h⟩
  lookups := looksUp_cons_iff.mpr (.nil _)

theorem FailsAt.answer_eq (h : c.FailsAt now [] request failure first last) :
    (c.answer now request first).1 = .error failure := by
  obtain ⟨_, ⟨⟩, hFails⟩ := h.fails
  exact hFails

theorem failsAt_cons_iff {other : Request} : c.FailsAt now (other :: earlier) request failure first last ↔
    (∃ text, (c.answer now other first).1 = .ok text) ∧
      c.FailsAt now earlier request failure (c.answer now other first).2 last := by
  constructor
  · intro h
    obtain ⟨hFirst, hRest⟩ := List.forall_mem_cons.mp h.answered
    exact ⟨hFirst, hRest, getLast?_lookUp other ▸ h.fails, looksUp_cons_iff.mp h.lookups⟩
  · rintro ⟨hFirst, h⟩
    exact ⟨List.forall_mem_cons.mpr ⟨hFirst, h.answered⟩, getLast?_lookUp other ▸ h.fails,
      looksUp_cons_iff.mpr h.lookups⟩

theorem not_failsAmong_nil : ¬c.FailsAmong now [] failure first last := by
  rintro ⟨earlier, request, later, hNil, -⟩
  cases (List.append_eq_nil_iff.mp hNil.symm).2

theorem FailsAmong.congr {start stop : Ledger} (h : c.FailsAmong now requests failure first last)
    (hStart : Ledger.Alike start first) (hStop : Ledger.Alike stop last) :
    c.FailsAmong now requests failure start stop := by
  obtain ⟨earlier, request, later, hSplit, hFails⟩ := h
  exact ⟨earlier, request, later, hSplit, hFails.congr hStart hStop⟩

theorem failsAmong_cons_of_error {other : Failure} (h : (c.answer now request ledger).1 = .error other) :
    c.FailsAmong now (request :: requests) failure ledger (c.answer now request ledger).2 ↔
      other = failure := by
  constructor
  · rintro ⟨earlier, found, later, hSplit, hFails⟩
    cases earlier with
    | nil =>
      obtain ⟨rfl, -⟩ := List.cons.inj hSplit
      exact Except.error.inj (h.symm.trans hFails.answer_eq)
    | cons next earlier =>
      obtain ⟨rfl, -⟩ := List.cons.inj hSplit
      obtain ⟨⟨text, hText⟩, -⟩ := failsAt_cons_iff.mp hFails
      cases h.symm.trans hText
  · rintro rfl
    exact ⟨[], request, requests, rfl, failsAt_nil h⟩

theorem failsAmong_cons_of_ok {text : String} (h : (c.answer now request first).1 = .ok text) :
    c.FailsAmong now (request :: requests) failure first last ↔
      c.FailsAmong now requests failure (c.answer now request first).2 last := by
  constructor
  · rintro ⟨earlier, found, later, hSplit, hFails⟩
    cases earlier with
    | nil =>
      obtain ⟨rfl, -⟩ := List.cons.inj hSplit
      cases h.symm.trans hFails.answer_eq
    | cons next earlier =>
      obtain ⟨rfl, hRest⟩ := List.cons.inj hSplit
      exact ⟨earlier, found, later, hRest, (failsAt_cons_iff.mp hFails).2⟩
  · rintro ⟨earlier, found, later, rfl, hFails⟩
    exact ⟨request :: earlier, found, later, rfl, failsAt_cons_iff.mpr ⟨⟨text, h⟩, hFails⟩⟩

/-- Taking steps fails if and only if one of the requests fails, and then with the first of them. -/
theorem take_eq_error_iff (steps : List Step) (ledger : Ledger) :
    (c.take now steps ledger).1 = .error failure ↔
      c.FailsAmong now (steps.filterMap Step.request?) failure ledger (c.take now steps ledger).2 := by
  induction steps generalizing ledger with
  | nil => exact iff_of_false nofun not_failsAmong_nil
  | cons step rest ih =>
    cases step with
    | drop parent child fault =>
      have hReport := c.alike_report parent child fault ledger
      rw [take_drop]
      refine (ih (c.report parent child fault ledger).2).trans ?_
      constructor
      · exact fun h => h.congr hReport.symm (.refl _)
      · exact fun h => h.congr hReport (.refl _)
    | resolve request =>
      show _ ↔ c.FailsAmong now (request :: rest.filterMap Step.request?) failure ledger _
      cases hAnswer : (c.answer now request ledger).1 with
      | error other =>
        rw [take_resolve_error hAnswer, failsAmong_cons_of_error hAnswer, Except.error.injEq]
      | ok text =>
        rw [take_resolve_ok hAnswer, failsAmong_cons_of_ok hAnswer, ← ih, map_eq_error_iff]

end LooksUp

theorem exists_answer_of_mem_lookUp {c : Converter} (hTolerant : c.tolerant = true) {now : UInt64}
    {requests : List Request} {ledger : Ledger} {resolved : (Resolver × Call) × Resolution}
    (h : resolved ∈ c.lookUp now requests ledger) : ∃ text, resolved.2.answer = .ok text := by
  induction requests generalizing ledger with
  | nil => cases h
  | cons request rest ih =>
    rw [lookUp_cons] at h
    rcases List.mem_cons.mp h with rfl | hLater
    · rw [hTolerant]
      exact exists_answer_of_tolerant _ now request ledger.cache
    · exact ih hLater

theorem tolerant_of_failsAmong {c : Converter} {now : UInt64} {requests : List Request}
    {failure : Failure} {first last : Ledger} (h : c.FailsAmong now requests failure first last) :
    c.tolerant = false := by
  obtain ⟨earlier, request, later, -, hFails⟩ := h
  cases hTolerant : c.tolerant with
  | false => rfl
  | true =>
    obtain ⟨resolved, hLast, hFailed⟩ := hFails.fails
    obtain ⟨text, hText⟩ := exists_answer_of_mem_lookUp hTolerant (List.mem_of_getLast? hLast)
    cases hText.symm.trans hFailed

theorem convertMarkup_eq_error_iff (c : Converter) (now : UInt64) (root : Element) (ledger : Ledger)
    (failure : Failure) : (c.convertMarkup now root ledger).1 = .error failure ↔
      c.FailsAmong now (c.design.remotePictures root) failure ledger
        (c.convertMarkup now root ledger).2 := by
  have hLast : Ledger.Alike (c.convertMarkup now root ledger).2
      (c.take now (c.design.draftRoot root).2 ledger).2 :=
    c.alike_finish "convert_markup" (c.convertRoot now root ledger)
  rw [answer_convertMarkup, map_eq_error_iff, take_eq_error_iff, c.design.requests_draftRoot]
  constructor
  · exact fun h => h.congr (.refl _) hLast
  · exact fun h => h.congr (.refl _) hLast.symm

/-- No fault of a child comes out of a conversion, and where failures are tolerated nothing does.
Otherwise a conversion fails with the first remote picture of the tree that can not be resolved, and
looks up none that comes after it. -/
theorem convertMarkup_fails_first (c : Converter) (now : UInt64) (root : Element) (ledger : Ledger) :
    c.attemptMarkup now root ledger =
        ((c.convertMarkup now root ledger).1.mapError .picture, (c.convertMarkup now root ledger).2) ∧
      (c.tolerant = true → ∃ content, (c.convertMarkup now root ledger).1 = .ok content) ∧
      ∀ failure, (c.convertMarkup now root ledger).1 = .error failure ↔
        c.tolerant = false ∧ c.FailsAmong now (c.design.remotePictures root) failure ledger
          (c.convertMarkup now root ledger).2 := by
  have hError := c.convertMarkup_eq_error_iff now root ledger
  refine ⟨c.attemptMarkup_eq now root ledger, fun hTolerant => ?_, fun failure => ?_⟩
  · cases hContent : (c.convertMarkup now root ledger).1 with
    | ok content => exact ⟨content, rfl⟩
    | error failure =>
      have hStrict := tolerant_of_failsAmong ((hError failure).mp hContent)
      cases hTolerant.symm.trans hStrict
  · rw [hError]
    exact ⟨fun h => ⟨tolerant_of_failsAmong h, h⟩, fun h => h.2⟩

end Converter

def strictConverter : Converter :=
  { namingConverter with
    fetcher := some fun _ url =>
      if url = "http://ab.cd/lost.png" then .error "gone" else .ok url.toByteArray }

def pictureTrail : Element where
  tag := { name := "body" }
  children :=
    [.element { name := "img" }
        [.element { name := "img", attrs := .ofList [("src", "http://ab.cd/e.png")] } []],
      .element { name := "hr" }
        [.element { name := "img", attrs := .ofList [("src", "http://ab.cd/lost.png")] } []],
      .element { name := "img", attrs := .ofList [("src", "http://ab.cd/f.png")] } []]

/-- The picture inside the line fails, and the last one is not looked up. If failures are tolerated,
the tree is converted. -/
theorem pictureTrail_fails : ∃ failure,
    (strictConverter.convertMarkup 0 pictureTrail {}).1 = .error failure ∧
      (strictConverter.convertMarkup 0 pictureTrail {}).2.fetched =
        ["http://ab.cd/e.png", "http://ab.cd/lost.png"] ∧
      (strictConverter.design.remotePictures pictureTrail).map Request.url =
        ["http://ab.cd/e.png", "http://ab.cd/lost.png", "http://ab.cd/f.png"] ∧
      strictConverter.FailsAmong 0 (strictConverter.design.remotePictures pictureTrail) failure {}
        (strictConverter.convertMarkup 0 pictureTrail {}).2 ∧
      ∃ content, ({ strictConverter with tolerant := true }.convertMarkup 0 pictureTrail {}).1 =
        .ok content := by
  have hFails : (strictConverter.convertMarkup 0 pictureTrail {}).1.isOk = false := by decide +kernel
  cases hResult : (strictConverter.convertMarkup 0 pictureTrail {}).1 with
  | ok content =>
    rw [hResult] at hFails
    cases hFails
  | error failure =>
    have hFirst := (strictConverter.convertMarkup_fails_first 0 pictureTrail {}).2.2 failure
    have hTolerant :=
      ({ strictConverter with tolerant := true }.convertMarkup_fails_first 0 pictureTrail {}).2.1
    exact ⟨failure, rfl, by decide +kernel, by decide +kernel, (hFirst.mp hResult).2, hTolerant rfl⟩

end MarkupLayout.Convert
