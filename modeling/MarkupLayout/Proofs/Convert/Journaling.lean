import MarkupLayout.Proofs.Convert.Taking

/-!
# Journals that balance

Whatever a converter puts into its journal is counted at the same time, and a summary takes the counts
and starts anew. So the counts that are open always tell what was put in since the last summary, and
with each conversion, failed or not, the journal gains some records and then one summary of them.
-/

namespace MarkupLayout

namespace Journal

def Record.isSummary : Record → Bool
  | .summary .. => true
  | _ => false

def Record.isResolved (outcome : Picture.Outcome) : Record → Bool
  | .resolved _ other => other = outcome
  | _ => false

def Record.isDrop : Record → Bool
  | .childDropped .. => true
  | _ => false

/-- The records behind the last summary. -/
def sinceSummary (records : List Record) : List Record :=
  (records.reverse.takeWhile (!·.isSummary)).reverse

def shownCount (count : Nat) : Option Nat :=
  if count = 0 then none else some count

/-- Counts have a key for each outcome among some records and one for dropped children, if there are
such records, with their number, and no other keys. -/
structure Balances (counts : SortedMap Nat) (records : List Record) : Prop where
  resolved : ∀ outcome : Picture.Outcome,
    counts.get? ("image." ++ outcome.name) = shownCount (records.countP (·.isResolved outcome))
  dropped : counts.get? "convert.child_dropped" = shownCount (records.countP (·.isDrop))
  other : ∀ key, (∀ outcome : Picture.Outcome, key ≠ "image." ++ outcome.name) →
    key ≠ "convert.child_dropped" → counts.get? key = none

/-- Each counter has the number of its records. -/
def Tallies (counts : SortedMap Nat) (records : List Record) : Prop :=
  ∀ counter, counts.get? counter = shownCount (records.countP (·.counter? = some counter))

theorem tallies_nil : Tallies ∅ [] :=
  fun _ => rfl

theorem Tallies.concat {counts : SortedMap Nat} {records : List Record} (h : Tallies counts records)
    {record : Record} {counter : String} (hCounter : record.counter? = some counter) :
    Tallies (counts.insert counter ((counts.get? counter).getD 0 + 1)) (records ++ [record]) := by
  intro key
  rw [SortedMap.get?_insert, List.countP_append, List.countP_singleton, hCounter, h counter, h key]
  by_cases hKey : key = counter
  · rw [if_pos hKey, hKey, if_pos (decide_eq_true rfl), shownCount, shownCount]
    split
    · next hZero => rw [hZero]; rfl
    · rfl
  · rw [if_neg hKey, if_neg (by simpa using Ne.symm hKey), Nat.add_zero]

theorem name_injective {outcome other : Picture.Outcome}
    (h : "image." ++ other.name = "image." ++ outcome.name) : other = outcome := by
  revert h
  cases outcome <;> cases other <;> decide

theorem image_ne_dropped (outcome : Picture.Outcome) : "image." ++ outcome.name ≠ "convert.child_dropped" := by
  cases outcome <;> decide

theorem counter?_eq_image_iff (record : Record) (outcome : Picture.Outcome) :
    record.counter? = some ("image." ++ outcome.name) ↔ record.isResolved outcome := by
  cases record with
  | resolved url other =>
    rw [Record.counter?, Option.some.injEq, Record.isResolved, decide_eq_true_iff]
    exact ⟨name_injective, fun h => h ▸ rfl⟩
  | childDropped parent child error =>
    exact iff_of_false (fun h => image_ne_dropped outcome (Option.some.inj h).symm) Bool.false_ne_true
  | summary context counts => exact iff_of_false nofun nofun

theorem counter?_eq_dropped_iff (record : Record) :
    record.counter? = some "convert.child_dropped" ↔ record.isDrop := by
  cases record with
  | resolved url outcome =>
    exact iff_of_false (fun h => image_ne_dropped outcome (Option.some.inj h)) Bool.false_ne_true
  | childDropped parent child error => exact iff_of_true rfl rfl
  | summary context counts => exact iff_of_false nofun nofun

theorem Tallies.balances {counts : SortedMap Nat} {records : List Record} (h : Tallies counts records) :
    Balances counts records where
  resolved outcome := by
    rw [h]
    simp only [counter?_eq_image_iff, Bool.decide_eq_true]
  dropped := by
    rw [h]
    simp only [counter?_eq_dropped_iff, Bool.decide_eq_true]
  other key hImage hDrop := by
    rw [h, shownCount, if_pos]
    rw [List.countP_eq_zero]
    rintro record - hCounter
    have hName := of_decide_eq_true hCounter
    cases record with
    | resolved url outcome => exact hImage outcome (Option.some.inj hName).symm
    | childDropped parent child error => exact hDrop (Option.some.inj hName).symm
    | summary context counts => cases hName

theorem sinceSummary_concat (records : List Record) (record : Record) :
    sinceSummary (records ++ [record]) =
      if record.isSummary then [] else sinceSummary records ++ [record] := by
  rw [sinceSummary, List.reverse_concat, List.takeWhile_cons]
  cases record.isSummary with
  | true => rfl
  | false => exact List.reverse_cons

/-- The open counts and those of every summary tell what was put in since the summary before. -/
structure Sound (journal : Journal) : Prop where
  counters : Tallies journal.counters (sinceSummary journal.records)
  summaries : ∀ before context counts after,
    journal.records = before ++ .summary context counts :: after → Tallies counts (sinceSummary before)

theorem sound_empty : Sound {} where
  counters := tallies_nil
  summaries before context counts after h := by
    cases before <;> cases h

theorem last_or_before {records before after : List Record} {record last : Record}
    (h : records ++ [last] = before ++ record :: after) :
    (before = records ∧ record = last) ∨ ∃ others, records = before ++ record :: others := by
  rcases after.eq_nil_or_concat with rfl | ⟨others, other, rfl⟩
  · obtain ⟨rfl, rfl⟩ := List.append_singleton_inj.mp h
    exact .inl ⟨rfl, rfl⟩
  · rw [List.concat_eq_append, ← List.cons_append, ← List.append_assoc] at h
    exact .inr ⟨others, (List.append_singleton_inj.mp h).1⟩

variable {journal : Journal}

theorem Sound.note (h : Sound journal) {record : Record} {counter : String}
    (hCounter : record.counter? = some counter) : Sound (journal.note record) := by
  have hEvent : record.isSummary = false := by
    cases record with
    | summary => cases hCounter
    | _ => rfl
  rw [Journal.note, hCounter]
  constructor
  · show Tallies _ (sinceSummary (journal.records ++ [record]))
    rw [sinceSummary_concat, hEvent]
    exact h.counters.concat hCounter
  · intro before context counts after hRecords
    rcases last_or_before hRecords with ⟨-, rfl⟩ | ⟨others, hBefore⟩
    · cases hEvent
    · exact h.summaries before context counts others hBefore

theorem Sound.summarize (h : Sound journal) (context : String) : Sound (journal.summarize context) := by
  have hRecords : (journal.summarize context).records =
      journal.records ++ [.summary context journal.counters] := rfl
  constructor
  · rw [hRecords, sinceSummary_concat]
    exact tallies_nil
  · intro before other counts after hSplit
    rw [hRecords] at hSplit
    rcases last_or_before hSplit with ⟨rfl, hLast⟩ | ⟨others, hBefore⟩
    · obtain ⟨-, rfl⟩ := Record.summary.inj hLast
      exact h.counters
    · exact h.summaries before other counts others hBefore

/-- Records other than summaries were put in, and counted. -/
inductive Gains : Journal → Journal → Prop where
  | refl (journal : Journal) : Gains journal journal
  | note {journal after : Journal} (h : Gains journal after) {record : Record} {counter : String}
      (hCounter : record.counter? = some counter) : Gains journal (after.note record)

theorem Gains.trans {first second third : Journal} (h : Gains first second) (hNext : Gains second third) :
    Gains first third := by
  induction hNext with
  | refl => exact h
  | note _ hCounter ih => exact ih.note hCounter

theorem Gains.sound {after : Journal} (h : Gains journal after) (hSound : Sound journal) : Sound after := by
  induction h with
  | refl => exact hSound
  | note _ hCounter ih => exact ih.note hCounter

theorem Gains.records {after : Journal} (h : Gains journal after) :
    ∃ events, after.records = journal.records ++ events ∧ ∀ record ∈ events, ¬record.isSummary := by
  induction h with
  | refl => exact ⟨[], (List.append_nil _).symm, fun record hMem => absurd hMem List.not_mem_nil⟩
  | @note after _ record counter hCounter ih =>
    obtain ⟨events, hRecords, hEvents⟩ := ih
    refine ⟨events ++ [record], ?_, ?_⟩
    · rw [Journal.note, hCounter, ← List.append_assoc, ← hRecords]
      rfl
    · rintro other hOther
      rcases List.mem_append.mp hOther with hOther | hOther
      · exact hEvents other hOther
      · rw [List.mem_singleton.mp hOther]
        cases record with
        | summary => cases hCounter
        | _ => exact Bool.false_ne_true

end Journal

namespace Convert

open Journal Picture

/-- What is handed to a converter: markup that is at hand, or a document to be read. -/
inductive Input where
  | markup (root : Element)
  | html (text : String)

def Input.context : Input → String
  | markup _ => "convert_markup"
  | html _ => "convert_html"

/-- One conversion out of several; `meanwhile` is what others did to the shared cache before it. -/
structure Job where
  input : Input
  now : UInt64
  meanwhile : Cache → Cache

namespace Converter

def convert (c : Converter) (job : Job) (ledger : Ledger) :
    Except Failure (Layout.Content String) × Ledger :=
  let found := { ledger with cache := job.meanwhile ledger.cache }
  match job.input with
  | .markup root => c.convertMarkup job.now root found
  | .html text => c.convertHtml job.now text found

def session (c : Converter) (jobs : List Job) (ledger : Ledger) : Ledger :=
  jobs.foldl (fun ledger job => (c.convert job ledger).2) ledger

variable (c : Converter)

theorem gains_note {record : Record} {counter : String} (hCounter : record.counter? = some counter)
    (journal : Journal) : Gains journal (c.note record journal) := by
  rw [note]
  split
  · exact (Gains.refl journal).note hCounter
  · exact .refl journal

theorem gains_answer (now : UInt64) (request : Request) (ledger : Ledger) :
    Gains ledger.journal (c.answer now request ledger).2.journal := by
  rw [answer]
  dsimp only
  split
  · exact c.gains_note rfl ledger.journal
  · exact .refl _

theorem gains_take (now : UInt64) (steps : List Step) (ledger : Ledger) :
    Gains ledger.journal (c.take now steps ledger).2.journal := by
  induction steps generalizing ledger with
  | nil => exact .refl _
  | cons step rest ih =>
    cases step with
    | drop parent child fault =>
      have hCounter : (Record.childDropped parent child fault.message).counter? =
          some "convert.child_dropped" := rfl
      have hNote := c.gains_note hCounter ledger.journal
      exact hNote.trans (ih { ledger with journal := _ })
    | resolve request =>
      have hAnswer := c.gains_answer now request ledger
      cases hOk : (c.answer now request ledger).1 with
      | error failure => rwa [take_resolve_error hOk]
      | ok text =>
        rw [take_resolve_ok hOk]
        exact hAnswer.trans (ih _)

theorem gains_convertRoot (now : UInt64) (root : Element) (ledger : Ledger) :
    Gains ledger.journal (c.convertRoot now root ledger).2.journal :=
  c.gains_take now (c.design.draftRoot root).2 ledger

theorem journal_finish (hJournaled : c.journaled) {α : Type} (context : String) (result : α × Ledger) :
    (c.finish context result).2.journal = result.2.journal.summarize context :=
  if_pos hJournaled

/-- A conversion puts records into the journal and then closes it, whether it fails or not. -/
theorem exists_gains_of_convert (hJournaled : c.journaled) (job : Job) (ledger : Ledger) :
    ∃ journal, Gains ledger.journal journal ∧
      (c.convert job ledger).2.journal = journal.summarize job.input.context := by
  let found := { ledger with cache := job.meanwhile ledger.cache }
  rw [convert]
  split
  · next root hInput =>
    rw [convertMarkup, journal_finish c hJournaled, hInput]
    exact ⟨_, c.gains_convertRoot job.now root found, rfl⟩
  · next text hInput =>
    rw [convertHtml, journal_finish c hJournaled, hInput]
    split
    · next body hBody => exact ⟨_, c.gains_convertRoot job.now body found, rfl⟩
    · exact ⟨_, .refl ledger.journal, rfl⟩

theorem sound_convert (hJournaled : c.journaled) (job : Job) {ledger : Ledger}
    (h : Sound ledger.journal) : Sound (c.convert job ledger).2.journal := by
  obtain ⟨journal, hGains, hJournal⟩ := c.exists_gains_of_convert hJournaled job ledger
  rw [hJournal]
  exact (hGains.sound h).summarize _

theorem sound_session (hJournaled : c.journaled) (jobs : List Job) {ledger : Ledger}
    (h : Sound ledger.journal) : Sound (c.session jobs ledger).journal := by
  induction jobs generalizing ledger with
  | nil => exact h
  | cons job jobs ih => exact ih (c.sound_convert hJournaled job h)

/-- After any conversions of a converter with a new journal every summary in it balances with the
records since the one before, and one more conversion ends with a summary and writes no other. -/
theorem session_balances (hJournaled : c.journaled) (jobs : List Job) (cache : Cache) :
    (∀ before context counts after,
      (c.session jobs { cache }).journal.records = before ++ .summary context counts :: after →
        Balances counts (sinceSummary before)) ∧
    ∀ job, ∃ events counts,
      (c.session (jobs ++ [job]) { cache }).journal.records =
        (c.session jobs { cache }).journal.records ++ events ++ [.summary job.input.context counts] ∧
      ∀ record ∈ events, ¬record.isSummary := by
  constructor
  · intro before context counts after hRecords
    have hStart : Sound (Ledger.journal { cache }) := sound_empty
    have hSound := c.sound_session hJournaled jobs hStart
    exact (hSound.summaries before context counts after hRecords).balances
  · intro job
    obtain ⟨journal, hGains, hJournal⟩ := c.exists_gains_of_convert hJournaled job (c.session jobs { cache })
    obtain ⟨events, hRecords, hEvents⟩ := hGains.records
    refine ⟨events, journal.counters, ?_, hEvents⟩
    rw [session, List.foldl_append, ← hRecords]
    exact congrArg Journal.records hJournal

end Converter

/-- A conversion that drops an image and stops at one that can not be fetched, and then a document
with that image twice, which by then is in the cache, an image without an address and an empty one. -/
def twoJobs : List Job :=
  [{ input := .markup
      { tag := { name := "body" }
        children :=
          [.element { name := "img" } [],
            .element { name := "img", attrs := .ofList [("src", "http://ab.cd/e.png")] } [],
            .element { name := "img" } []] }
     now := 0
     meanwhile := id },
   { input := .html "<img src='http://ab.cd/e.png'><p><img src='http://ab.cd/e.png'><img><img src=''></p>"
     now := 1
     meanwhile := fun cache =>
      cache.insert (Cache.key "http://ab.cd/e.png" defaultSize) (.new "data:," 0 defaultTtl) }]

theorem twoJobs_balance : plainConverter.journaled = true ∧
    (plainConverter.session twoJobs {}).journal.records.countP (·.isSummary) = 2 ∧
    (∀ before context counts after,
      (plainConverter.session twoJobs {}).journal.records = before ++ .summary context counts :: after →
        Balances counts (sinceSummary before)) ∧
    ∀ job, ∃ events counts,
      (plainConverter.session (twoJobs ++ [job]) {}).journal.records =
        (plainConverter.session twoJobs {}).journal.records ++ events ++
          [.summary job.input.context counts] ∧
      ∀ record ∈ events, ¬record.isSummary :=
  ⟨rfl, by decide +kernel, plainConverter.session_balances rfl twoJobs ∅⟩

end Convert

end MarkupLayout
