import MarkupLayout.Convert.Conversion
import MarkupLayout.Proofs.Picture.Settled

/-!
# Taking steps

A piece of work on a ledger gives a result or fails, and work can follow on work that succeeds.
Taking steps is such work: it stops at the first request that fails. Requests that were answered
stay settled, so in the end every answer is settled in the cache that is left, and a request that
occurs twice has been answered twice with one text.
-/

namespace MarkupLayout.Convert

open Picture

theorem exists_ok_of_isOk {α : Type} {result : Except Failure α} (h : result.isOk) :
    ∃ a, result = .ok a := by
  cases result with
  | error failure => cases h
  | ok a => exact ⟨a, rfl⟩

section Map

variable {α β : Type} {f : α → β} {result : Except Failure α}

theorem map_eq_error_iff {failure : Failure} : result.map f = .error failure ↔ result = .error failure := by
  cases result with
  | error other => rw [Except.map, Except.error.injEq, Except.error.injEq]
  | ok a => exact iff_of_false nofun nofun

theorem map_eq_ok_iff {b : β} : result.map f = .ok b ↔ ∃ a, result = .ok a ∧ b = f a := by
  cases result with
  | error failure => exact iff_of_false nofun nofun
  | ok a =>
    constructor
    · rintro ⟨⟩
      exact ⟨a, rfl, rfl⟩
    · rintro ⟨_, ⟨⟩, rfl⟩
      rfl

end Map

abbrev Work (α : Type) := Ledger → Except Failure α × Ledger

namespace Work

variable {α β γ : Type}

def pure (a : α) : Work α :=
  fun ledger => (.ok a, ledger)

def andThen (w : Work α) (next : α → Work β) : Work β :=
  fun ledger =>
    match w ledger with
    | (.error failure, after) => (.error failure, after)
    | (.ok a, after) => next a after

variable {w : Work α} {next : α → Work β} {ledger : Ledger}

theorem andThen_error {failure : Failure} (h : (w ledger).1 = .error failure) :
    w.andThen next ledger = (.error failure, (w ledger).2) := by
  rcases hDone : w ledger with ⟨result, after⟩
  obtain rfl : result = .error failure := by rw [← h, hDone]
  rw [andThen, hDone]

theorem andThen_ok {a : α} (h : (w ledger).1 = .ok a) :
    w.andThen next ledger = next a (w ledger).2 := by
  rcases hDone : w ledger with ⟨result, after⟩
  obtain rfl : result = .ok a := by rw [← h, hDone]
  rw [andThen, hDone]

theorem andThen_eq_ok_iff {b : β} : (w.andThen next ledger).1 = .ok b ↔
    ∃ a, (w ledger).1 = .ok a ∧ (next a (w ledger).2).1 = .ok b := by
  cases hDone : (w ledger).1 with
  | error failure =>
    rw [andThen_error hDone]
    exact iff_of_false nofun nofun
  | ok a =>
    rw [andThen_ok hDone]
    constructor
    · intro h
      exact ⟨a, rfl, h⟩
    · rintro ⟨_, ⟨⟩, h⟩
      exact h

theorem andThen_assoc (w : Work α) (next : α → Work β) (last : β → Work γ) :
    (w.andThen next).andThen last = w.andThen fun a => (next a).andThen last := by
  funext ledger
  cases hDone : (w ledger).1 with
  | error failure => rw [andThen_error hDone, andThen, andThen_error hDone]
  | ok a => rw [andThen_ok hDone, andThen, andThen_ok hDone, andThen]

theorem pure_andThen (a : α) (next : α → Work β) : (pure a).andThen next = next a :=
  rfl

theorem andThen_pure (w : Work α) : w.andThen pure = w := by
  funext ledger
  rcases hDone : w ledger with ⟨_ | _, after⟩ <;> rw [andThen, hDone]
  rfl

end Work

namespace Converter

section Steps

variable {c : Converter} {now : UInt64} {request : Request} {rest steps : List Step} {ledger : Ledger}

def report (c : Converter) (parent child : String) (fault : Fault) : Work Unit :=
  fun ledger =>
    (.ok (), { ledger with journal := c.note (.childDropped parent child fault.message) ledger.journal })

theorem take_drop (c : Converter) (now : UInt64) (parent child : String) (fault : Fault)
    (rest : List Step) : c.take now (.drop parent child fault :: rest) =
      (c.report parent child fault).andThen fun _ => c.take now rest :=
  rfl

theorem take_resolve (c : Converter) (now : UInt64) (request : Request) (rest : List Step) :
    c.take now (.resolve request :: rest) = Work.andThen (c.answer now request) fun text =>
      Work.andThen (c.take now rest) fun answers => .pure ((request, text) :: answers) := by
  funext ledger
  rcases hAnswer : c.answer now request ledger with ⟨_ | text, after⟩
  · rw [take, Work.andThen, hAnswer]
  · rw [take, Work.andThen, hAnswer]
    dsimp only
    rcases hRest : c.take now rest after with ⟨_ | answers, last⟩
    · rw [Work.andThen, hRest]
    · rw [Work.andThen, hRest]
      rfl

theorem take_resolve_error {failure : Failure} (h : (c.answer now request ledger).1 = .error failure) :
    c.take now (.resolve request :: rest) ledger =
      (.error failure, (c.answer now request ledger).2) := by
  rw [take_resolve, Work.andThen_error h]

theorem take_resolve_ok {text : String} (h : (c.answer now request ledger).1 = .ok text) :
    c.take now (.resolve request :: rest) ledger =
      ((c.take now rest (c.answer now request ledger).2).1.map ((request, text) :: ·),
        (c.take now rest (c.answer now request ledger).2).2) := by
  rw [take_resolve, Work.andThen_ok h]
  cases hRest : (c.take now rest (c.answer now request ledger).2).1 with
  | error failure => rw [Work.andThen_error hRest]; rfl
  | ok answers => rw [Work.andThen_ok hRest]; rfl

theorem take_append (c : Converter) (now : UInt64) (steps others : List Step) :
    c.take now (steps ++ others) = Work.andThen (c.take now steps) fun before =>
      Work.andThen (c.take now others) fun after => .pure (before ++ after) := by
  induction steps with
  | nil => exact (Work.andThen_pure _).symm
  | cons step rest ih =>
    cases step with
    | drop parent child fault =>
      rw [List.cons_append, take_drop, take_drop, ih, Work.andThen_assoc]
    | resolve request =>
      rw [List.cons_append, take_resolve, take_resolve, ih]
      simp only [Work.andThen_assoc, Work.pure_andThen, List.cons_append]

theorem extends_take (c : Converter) (now : UInt64) (steps : List Step) (ledger : Ledger) :
    Cache.Extends (c.take now steps ledger).2.cache ledger.cache := by
  induction steps generalizing ledger with
  | nil => exact .refl _
  | cons step rest ih =>
    cases step with
    | drop parent child fault => exact ih _
    | resolve request =>
      have hAnswer : Cache.Extends (c.answer now request ledger).2.cache ledger.cache :=
        extends_resolve (c.resolver ledger.fetched) now c.tolerant request ledger.cache
      cases hOk : (c.answer now request ledger).1 with
      | error failure => rwa [take_resolve_error hOk]
      | ok text =>
        rw [take_resolve_ok hOk]
        exact (ih _).trans hAnswer

theorem settled_of_take {answers : List (Request × String)}
    (h : (c.take now steps ledger).1 = .ok answers) : ∀ answered ∈ answers,
      c.policy.Settled c.tolerant answered.1 (c.take now steps ledger).2.cache answered.2 := by
  induction steps generalizing ledger answers with
  | nil =>
    obtain rfl := Except.ok.inj h
    exact fun answered hMem => absurd hMem List.not_mem_nil
  | cons step rest ih =>
    cases step with
    | drop parent child fault => exact ih h
    | resolve request =>
      rw [take_resolve] at h
      obtain ⟨text, hText, hOthers⟩ := Work.andThen_eq_ok_iff.mp h
      obtain ⟨others, hRest, hPure⟩ := Work.andThen_eq_ok_iff.mp hOthers
      obtain rfl := Except.ok.inj hPure
      rw [take_resolve_ok hText]
      intro answered hMem
      rcases List.mem_cons.mp hMem with rfl | hMem
      · exact (settled_of_resolve (c.resolver ledger.fetched) hText).mono (c.extends_take now rest _)
      · exact ih hRest answered hMem

theorem pictureText_of_mem {answers : List (Request × String)}
    (h : (c.take now steps ledger).1 = .ok answers) {text : String} (hMem : (request, text) ∈ answers) :
    pictureText answers (.remote request) = text := by
  have hSome : (answers.lookup request).isSome :=
    List.lookup_isSome_iff.mpr ⟨_, hMem, beq_self_eq_true request⟩
  obtain ⟨found, hFound⟩ := Option.isSome_iff_exists.mp hSome
  obtain ⟨before, after, hAnswers, -⟩ := List.lookup_eq_some_iff.mp hFound
  have hMemFound : (request, found) ∈ answers := by
    rw [hAnswers]
    exact List.mem_append_right before (List.mem_cons_self ..)
  rw [pictureText, hFound, Option.getD_some]
  exact (settled_of_take h _ hMemFound).unique (settled_of_take h _ hMem)

end Steps

variable (c : Converter) (now : UInt64) (root : Element) (ledger : Ledger)

theorem answer_convertMarkup : (c.convertMarkup now root ledger).1 =
    (c.take now (c.design.draftRoot root).2 ledger).1.map fun answers =>
      (c.design.draftRoot root).1.mapPicture (pictureText answers) := by
  rw [convertMarkup, finish, convertRoot]

theorem cache_convertMarkup : (c.convertMarkup now root ledger).2.cache =
    (c.take now (c.design.draftRoot root).2 ledger).2.cache := by
  rw [convertMarkup, finish, convertRoot]

theorem fetched_convertMarkup : (c.convertMarkup now root ledger).2.fetched =
    (c.take now (c.design.draftRoot root).2 ledger).2.fetched := by
  rw [convertMarkup, finish, convertRoot]

variable {c now root ledger}

theorem convertMarkup_eq_ok_iff {content : Layout.Content String} :
    (c.convertMarkup now root ledger).1 = .ok content ↔
      ∃ answers, (c.take now (c.design.draftRoot root).2 ledger).1 = .ok answers ∧
        content = (c.design.draftRoot root).1.mapPicture (pictureText answers) := by
  rw [answer_convertMarkup, map_eq_ok_iff]

end Converter

end MarkupLayout.Convert
