import MarkupLayout.Proofs.Convert.Drafted
import MarkupLayout.Proofs.Convert.Taking

/-!
# Remote pictures

A conversion is a draft with its pictures filled in. The draft depends on the tree and the design
alone, and tells the pictures that are remote from those that are not. So two conversions of a tree
with one design differ at most in the texts of remote pictures.
-/

namespace MarkupLayout.Convert

open Layout

/-- A source stands for a picture element of a tree: a request if the address is remote. -/
def Source.IsFrom (root : Element) (source : Source) : Prop :=
  ∃ tag ∈ tagsOf root.toMarkup, Kind.of tag = .picture ∧ ∃ address, tag.present? "src" = some address ∧
    if Text.startsWith address "http" then ∃ size, source = .remote ⟨address, size⟩
    else source = .given address

theorem body_of_settle_picture {n : Node Source} {source : Source}
    (h : n.settle.body = .picture source) : n.body = .picture source := by
  revert h
  fun_cases Node.settle n with
  | case1 =>
    intro h
    cases h
  | case2 => exact id

theorem kept_isFrom (root : Element) : Kept (· ∈ tagsOf root.toMarkup) fun n =>
    ∀ source, n.body = .picture source → source.IsFrom root where
  text _ _ := nofun
  drawing _ _ _ := nofun
  assembled frame tag nodes body hTag _ _ hBody := by
    intro source hPicture
    cases hBody with
    | children => exact absurd (body_of_settle_picture hPicture) (collapse_ofChildren_ne_picture _ _)
    | @picture address style hKind hAddress =>
      obtain rfl := Body.picture.inj hPicture
      refine ⟨tag, hTag, hKind, address, hAddress, ?_⟩
      rw [Source.of]
      split
      · exact ⟨_, rfl⟩
      · rfl
    | _ => cases hPicture

theorem Design.isFrom_draftRoot (d : Design) (root : Element) :
    ∀ n, Occurs n (d.draftRoot root).1.members → ∀ source, n.body = .picture source →
      source.IsFrom root :=
  d.kept_draftRoot (kept_isFrom root)

/-- A content is a draft in which requests are replaced by texts, and nothing else. -/
def Fills (draft : Content Source) (content : Content String) : Prop :=
  ∃ f : Source → String, (∀ address, f (.given address) = address) ∧ content = draft.mapPicture f

theorem Converter.fills_draftRoot {c : Converter} {now : UInt64} {root : Element} {ledger : Ledger}
    {content : Content String} (h : (c.convertMarkup now root ledger).1 = .ok content) :
    Fills (c.design.draftRoot root).1 content := by
  obtain ⟨answers, -, rfl⟩ := convertMarkup_eq_ok_iff.mp h
  exact ⟨pictureText answers, fun _ => rfl, rfl⟩

/-- Two conversions with one design fill in the same draft, whatever they are given for requests, and
every picture in it stands for a picture element. -/
theorem Converter.convertMarkup_alike (c₁ c₂ : Converter) (hDesign : c₁.design = c₂.design)
    (now₁ now₂ : UInt64) (root : Element) (ledger₁ ledger₂ : Ledger) (content₁ content₂ : Content String)
    (h₁ : (c₁.convertMarkup now₁ root ledger₁).1 = .ok content₁)
    (h₂ : (c₂.convertMarkup now₂ root ledger₂).1 = .ok content₂) :
    Fills (c₁.design.draftRoot root).1 content₁ ∧ Fills (c₁.design.draftRoot root).1 content₂ ∧
      ∀ n, Occurs n (c₁.design.draftRoot root).1.members → ∀ source, n.body = .picture source →
        source.IsFrom root := by
  refine ⟨fills_draftRoot h₁, ?_, c₁.design.isFrom_draftRoot root⟩
  rw [hDesign]
  exact fills_draftRoot h₂

def offlineConverter : Converter :=
  { plainConverter with tolerant := true }

theorem pictureBook_alike : offlineConverter.design = tolerantConverter.design ∧
    ∃ offline online, (offlineConverter.convertMarkup 7 pictureBook {}).1 = .ok offline ∧
      (tolerantConverter.convertMarkup 0 pictureBook {}).1 = .ok online ∧
      Fills (offlineConverter.design.draftRoot pictureBook).1 offline ∧
      Fills (offlineConverter.design.draftRoot pictureBook).1 online ∧
      ∀ n, Occurs n (offlineConverter.design.draftRoot pictureBook).1.members →
        ∀ source, n.body = .picture source → source.IsFrom pictureBook := by
  obtain ⟨offline, hOffline⟩ := exists_ok_of_isOk
    (show (offlineConverter.convertMarkup 7 pictureBook {}).1.isOk by decide +kernel)
  obtain ⟨online, hOnline⟩ := exists_ok_of_isOk
    (show (tolerantConverter.convertMarkup 0 pictureBook {}).1.isOk by decide +kernel)
  refine ⟨rfl, offline, online, hOffline, hOnline, ?_⟩
  exact Converter.convertMarkup_alike offlineConverter tolerantConverter rfl 7 0 pictureBook {} {}
    offline online hOffline hOnline

end MarkupLayout.Convert
