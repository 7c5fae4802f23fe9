import MarkupLayout.Proofs.Convert.OnePass

/-!
# Faults stay local

A conversion can be written with a single kind of error: faults of children and failures of pictures
are raised alike, at whatever depth, and each level leaves out a child whose error is local and passes
on every other. That is the conversion in one pass, with the same journal, and all that gets through to
the top is the failure of a picture.
-/

namespace MarkupLayout.Convert

open Layout

inductive ConversionError where
  | fault (fault : Fault)
  | picture (failure : Picture.Failure)
deriving DecidableEq

namespace ConversionError

/-- Errors that concern one child only. -/
def isLocal : ConversionError → Bool
  | fault _ => true
  | picture _ => false

def message : ConversionError → String
  | fault missed => missed.message
  | picture failure => failure.message

end ConversionError

abbrev Attempt (α : Type) := Ledger → Except ConversionError α × Ledger

namespace Attempt

variable {α β γ : Type}

def pure (a : α) : Attempt α :=
  fun ledger => (.ok a, ledger)

def fail (e : ConversionError) : Attempt α :=
  fun ledger => (.error e, ledger)

def andThen (w : Attempt α) (next : α → Attempt β) : Attempt β :=
  fun ledger =>
    match w ledger with
    | (.error e, after) => (.error e, after)
    | (.ok a, after) => next a after

/-- Leaves out what ends in a local error, and reports it. -/
def confine (w : Attempt (Option α)) (report : ConversionError → Attempt Unit) : Attempt (Option α) :=
  fun ledger =>
    match w ledger with
    | (.error e, after) =>
      if e.isLocal then (report e).andThen (fun _ => .pure none) after else (.error e, after)
    | (.ok a, after) => (.ok a, after)

def ofExcept : Except Fault α → Attempt α
  | .error fault => fail (.fault fault)
  | .ok a => pure a

/-- Work on pictures, which fails with the failure of a picture. -/
def ofWork (w : Work α) : Attempt α :=
  fun ledger => ((w ledger).1.mapError .picture, (w ledger).2)

theorem pure_andThen (a : α) (next : α → Attempt β) : (pure a).andThen next = next a :=
  rfl

theorem andThen_assoc (w : Attempt α) (next : α → Attempt β) (last : β → Attempt γ) :
    (w.andThen next).andThen last = w.andThen fun a => (next a).andThen last := by
  funext ledger
  simp only [andThen]
  rcases w ledger with ⟨_ | _, _⟩ <;> rfl

theorem andThen_pure (w : Attempt α) : w.andThen pure = w := by
  funext ledger
  rcases hDone : w ledger with ⟨_ | _, _⟩ <;> rw [andThen, hDone]
  rfl

theorem ofWork_andThen (w : Work α) (next : α → Work β) :
    ofWork (w.andThen next) = (ofWork w).andThen fun a => ofWork (next a) := by
  funext ledger
  simp only [ofWork, andThen, Work.andThen]
  rcases w ledger with ⟨_ | _, _⟩ <;> rfl

theorem confine_ofWork (w : Work (Except Fault (Option α))) (report : ConversionError → Attempt Unit) :
    ((ofWork w).andThen ofExcept).confine report = (ofWork w).andThen fun
      | .error fault => (report (.fault fault)).andThen fun _ => .pure none
      | .ok a => .pure a := by
  funext ledger
  simp only [confine, andThen, ofWork]
  rcases w ledger with ⟨_ | _ | _, _⟩ <;> rfl

end Attempt

namespace Converter

def reportError (c : Converter) (parent child : String) (e : ConversionError) : Attempt Unit :=
  fun ledger =>
    (.ok (), { ledger with journal := c.note (.childDropped parent child e.message) ledger.journal })

mutual

def attempt (c : Converter) (now : UInt64) (path : List Element) (depth : Nat) :
    Markup → Attempt (Option (Node Source))
  | .text raw => .pure (c.design.textLeaf? path raw)
  | .element tag children =>
    if c.design.maxDepth < depth then .fail (.fault (.nestingTooDeep c.design.maxDepth))
    else match Kind.of tag with
      | .ignored => .pure none
      | .drawing => .pure (some (Design.drawing tag children))
      | _ =>
        (c.attemptAll now (path ++ [⟨tag, children⟩]) tag (depth + 1) children).andThen fun nodes =>
          (Attempt.ofExcept (c.design.assemble (tags path ++ [tag]) tag children nodes)).andThen fun n =>
            (Attempt.ofWork (c.resolvePicture now n)).andThen fun n => .pure (some n)

def attemptAll (c : Converter) (now : UInt64) (path : List Element) (parent : Tag) (depth : Nat) :
    List Markup → Attempt (List (Node Source))
  | [] => .pure []
  | child :: rest =>
    ((c.attempt now path depth child).confine (c.reportError parent.kind (childName child))).andThen
      fun first => (c.attemptAll now path parent depth rest).andThen fun nodes =>
        .pure ((first.map Node.settle).toList ++ nodes)

end

/-- The conversion of a tree with a single kind of error. A root that is left out is not reported. -/
def attemptMarkup (c : Converter) (now : UInt64) (root : Element) : Attempt (Content String) :=
  fun ledger => c.finish "convert_markup" <|
    ((c.attempt now [] 0 root.toMarkup).confine fun _ => .pure ()).andThen
      (fun n => .pure ((rootContent (.ok n)).mapPicture (pictureText []))) ledger

section Levels

variable (c : Converter) (now : UInt64) (path : List Tag)

theorem attempt_complete (tag : Tag) (children : List Markup) (nodes : List (Node Source)) :
    ((Attempt.ofExcept (c.design.assemble path tag children nodes)).andThen fun n =>
        (Attempt.ofWork (c.resolvePicture now n)).andThen fun n => .pure (some n)) =
      (Attempt.ofWork (c.complete now path tag children nodes)).andThen .ofExcept := by
  rw [complete]
  cases c.design.assemble path tag children nodes with
  | error fault => rfl
  | ok n =>
    dsimp only
    rw [Attempt.ofWork_andThen, Attempt.andThen_assoc]
    rfl

mutual

theorem attempt_eq_walk (path : List Element) (depth : Nat) (m : Markup) :
    c.attempt now path depth m = (Attempt.ofWork (c.walk now path depth m)).andThen .ofExcept := by
  cases m with
  | text raw =>
    rw [attempt, walk]
    rfl
  | element tag children =>
    have hNodes := attemptAll_eq_walkAll (path ++ [⟨tag, children⟩]) tag (depth + 1) children
    rw [attempt, walk]
    split
    · rfl
    cases Kind.of tag with
    | ignored => rfl
    | drawing => rfl
    | _ =>
      dsimp only
      rw [hNodes, Attempt.ofWork_andThen, Attempt.andThen_assoc]
      simp only [attempt_complete]

theorem attemptAll_eq_walkAll (path : List Element) (parent : Tag) (depth : Nat)
    (children : List Markup) : c.attemptAll now path parent depth children =
      Attempt.ofWork (c.walkAll now path parent depth children) := by
  cases children with
  | nil =>
    rw [attemptAll, walkAll]
    rfl
  | cons child rest =>
    rw [attemptAll, walkAll, attempt_eq_walk path depth child, Attempt.confine_ofWork,
      Attempt.andThen_assoc, Attempt.ofWork_andThen, attemptAll_eq_walkAll path parent depth rest]
    have hRest := Attempt.andThen_pure (Attempt.ofWork (c.walkAll now path parent depth rest))
    congr 1
    funext walked
    cases walked with
    | error fault =>
      funext ledger
      exact congrFun hRest _
    | ok converted =>
      cases converted with
      | none => exact hRest
      | some n =>
        rw [Attempt.pure_andThen, Attempt.ofWork_andThen]
        rfl

end

end Levels

/-- With a single kind of error a conversion gives the same content and the same ledger, and no error
but the failure of a picture. -/
theorem attemptMarkup_eq (c : Converter) (now : UInt64) (root : Element) (ledger : Ledger) :
    c.attemptMarkup now root ledger =
      ((c.convertMarkup now root ledger).1.mapError .picture, (c.convertMarkup now root ledger).2) := by
  rw [attemptMarkup, convertMarkup, attempt_eq_walk, Attempt.confine_ofWork, Attempt.andThen_assoc,
    convertRoot_eq_walk]
  simp only [Attempt.andThen, Attempt.ofWork]
  rcases c.walk now [] 0 root.toMarkup ledger with ⟨_ | _ | _, _⟩ <;> rfl

end Converter

end MarkupLayout.Convert
