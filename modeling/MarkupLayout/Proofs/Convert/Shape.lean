import MarkupLayout.Proofs.Convert.Drafted
import MarkupLayout.Proofs.Convert.Taking
import MarkupLayout.Proofs.Layout.WellShaped

/-!
# The shape of a conversion

Whatever is converted, the layout is well-shaped at every depth: runs hide no block, stacks show
one, and no run is empty.
-/

namespace MarkupLayout.Convert

open Layout

theorem kept_wellShaped (among : Tag → Prop) : Kept among fun n => n.body.WellShaped where
  text _ _ := Body.wellShaped_of_ne nofun nofun
  drawing _ _ _ := Body.wellShaped_of_ne nofun nofun
  assembled frame tag nodes body _ _ hNodes hBody := by
    cases hBody with
    | children => exact wellShaped_settle_ofChildren hNodes frame
    | _ => exact Body.wellShaped_of_ne nofun nofun

theorem Design.wellShaped_draftRoot (d : Design) (root : Element) :
    WellShaped (d.draftRoot root).1.members :=
  d.kept_draftRoot (kept_wellShaped _)

/-- Every node of a conversion, at whatever depth, is well-shaped. -/
theorem Converter.convertMarkup_wellShaped (c : Converter) (now : UInt64) (root : Element)
    (ledger : Ledger) (content : Content String)
    (h : (c.convertMarkup now root ledger).1 = .ok content) :
    ∀ n, Occurs n content.members → n.body.WellShaped := by
  obtain ⟨answers, -, rfl⟩ := convertMarkup_eq_ok_iff.mp h
  rw [Content.members_mapPicture]
  exact (c.design.wellShaped_draftRoot root).mapPictures (pictureText answers)

theorem pictureBook_wellShaped : ∃ content,
    (tolerantConverter.convertMarkup 0 pictureBook {}).1 = .ok content ∧ content.members.length = 4 ∧
      ∀ n, Occurs n content.members → n.body.WellShaped := by
  have hLength : (tolerantConverter.convertMarkup 0 pictureBook {}).1.toOption.map
      (·.members.length) = some 4 := by
    decide +kernel
  cases hContent : (tolerantConverter.convertMarkup 0 pictureBook {}).1 with
  | error failure =>
    rw [hContent] at hLength
    cases hLength
  | ok content =>
    rw [hContent] at hLength
    refine ⟨content, rfl, Option.some.inj hLength, ?_⟩
    exact tolerantConverter.convertMarkup_wellShaped 0 pictureBook {} content hContent

end MarkupLayout.Convert
