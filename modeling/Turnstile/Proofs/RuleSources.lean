import Turnstile.Proofs.CacheEntries
import Turnstile.Proofs.Deciding
import Turnstile.Proofs.EscapedText
import Turnstile.Proofs.LineEnds
import Turnstile.Service.Handling

/-!
# Files and remote stores as sources of rules

A file and a remote store are read in different ways: the file as bytes, with line ends of
all kinds, the store through a connection and with nothing made of the empty text.  What
they have in common is the document, and the rules that are *written* in it.

**What goes wrong.**  A file always gives rules, if only none.  A remote store gives none
before it is opened, which is a failure of the source that callers are told of, and none
while its connection is broken, which is a fault that nobody expects.

**Results.**
* `raws_remote` and `raws_file_encode`: both give the rules of the text.
* `file_and_store_agree`: one text gives one list of rules and one load.
* `raws_eq_error_iff`: the two ways in which a source gives no rules.
* `rules_are_given_or_refused_unless_cut_off`: what callers of a source get to see.
* `broken_connection_is_no_source_failure`: what they are not told.
-/

namespace Turnstile
namespace RuleSource

section Documents

/-- The rules that are written in a text: its list, the list under `rules`, or none. -/
inductive Writes
    (cs : List Char) : List Json → Prop where
  | list {items : List Json} :
      Json.readChars cs = some (.array items) → Writes cs items
  | member {members : Members Json} {items : List Json} :
      Json.readChars cs = some (.object members) →
      Members.get? members "rules" = some (.array items) → Writes cs items
  | nothing :
      (∀ items, Json.readChars cs ≠ some (.array items)) →
      (∀ members items, Json.readChars cs = some (.object members) →
        Members.get? members "rules" ≠ some (.array items)) → Writes cs []

/-- Every text has rules written in it, if only none. -/
theorem writes_rulesOfText
    (cs : List Char) :
    Writes cs (rulesOfText cs) := by
  unfold rulesOfText
  cases hread : Json.readChars cs with
  | none => exact .nothing (by simp [hread]) (by simp [hread])
  | some document =>
      cases document with
      | array items => exact .list hread
      | object members =>
          by_cases hrules : ∃ items, Members.get? members "rules" = some (.array items)
          · obtain ⟨items, hitems⟩ := hrules
            simp only [Rule.documentRules, hitems]
            exact .member hread hitems
          · have hnone : Rule.documentRules (.object members) = [] := by
              rw [Rule.documentRules]
              split
              · rename_i items hitems
                exact absurd ⟨items, hitems⟩ hrules
              · rfl
            simp only [hnone]
            refine .nothing (by simp [hread]) fun members' items hread' hitems => ?_
            obtain rfl : members = members' := by simpa [hread] using hread'
            exact hrules ⟨items, hitems⟩
      | _ => exact .nothing (by simp [hread]) (by simp [hread])

theorem rulesOfText_withLineFeeds
    (cs : List Char) :
    rulesOfText (Text.withLineFeeds cs) = rulesOfText cs := by
  rw [rulesOfText, rulesOfText, Json.readChars_withLineFeeds]

end Documents

section Readings

variable {store : Remote} {source : RuleSource}

/-- A file that holds a text gives the rules written in it. -/
theorem raws_file_encode
    (text : String)
    (hasParent : Bool) :
    (file (.file (Utf8.encode text.toList)) hasParent).raws = .ok (rulesOfText text.toList) := by
  rw [raws, rulesOfFile, charsOfFile?, Utf8.decode?_encode]
  simp only [Option.map_some, Option.getD_some, rulesOfText_withLineFeeds]

/-- A store that answers gives the rules written in the text under its key. -/
theorem raws_remote
    (key : String)
    (hanswers : store.fault? = none) :
    (remote key store).raws =
      .ok (((store.values.get? key).map fun text => rulesOfText text.toList).getD []) := by
  rw [raws, Remote.text?_eq, hanswers]
  cases store.values.get? key with
  | none => rfl
  | some text =>
      -- The empty text is passed over as no text at all.
      by_cases hempty : text = ""
      · subst hempty
        rfl
      · simp [Option.filter_some, hempty]

/-- Sources of the same rules load the same. -/
theorem load_congr
    {source' : RuleSource}
    (hraws : source.raws = source'.raws)
    (now : Moment) :
    source.load now = source'.load now := by
  rw [load, load, hraws]

theorem fault?_of_isOpen
    (hopen : store.isOpen = true)
    (hunbroken : store.isBroken = false) :
    store.fault? = none := by
  simp [Remote.fault?, hopen, hunbroken]

/-- A file that holds a text and an open store with the text under its key give the same
rules, those written in the text, and load the same; so do no file and no text. -/
theorem file_and_store_agree
    (key : String)
    (store : Remote)
    (hopen : store.isOpen = true)
    (hunbroken : store.isBroken = false)
    (hasParent : Bool)
    (now : Moment) :
    (∀ text, store.values.get? key = some text →
      ∃ items, Writes text.toList items ∧
        (file (.file (Utf8.encode text.toList)) hasParent).raws = .ok items ∧
        (remote key store).raws = .ok items ∧
        (file (.file (Utf8.encode text.toList)) hasParent).load now =
          (remote key store).load now) ∧
    (store.values.get? key = none →
      (file .absent hasParent).raws = .ok [] ∧
        (remote key store).raws = .ok [] ∧
        (file .absent hasParent).load now = (remote key store).load now) := by
  have hremote := raws_remote key (fault?_of_isOpen hopen hunbroken)
  constructor
  · intro text htext
    have hfile := raws_file_encode text hasParent
    rw [htext] at hremote
    exact ⟨rulesOfText text.toList, writes_rulesOfText _, hfile, hremote,
      load_congr (hfile.trans hremote.symm) now⟩
  · intro habsent
    rw [habsent] at hremote
    have hfile : (file .absent hasParent).raws = .ok [] := rfl
    exact ⟨hfile, hremote, load_congr (hfile.trans hremote.symm) now⟩

/-- A text with line ends of three kinds under the key. -/
def mixedText : String := "\x7b\r\n\"rules\": [\r\x7b\x7d,\n7]\x7d\r"

theorem mixed_line_ends_agree :
    ((Remote.initial [("gate:rules", mixedText)]).start.1.isOpen = true ∧
      (Remote.initial [("gate:rules", mixedText)]).start.1.isBroken = false) ∧
    ∃ items, Writes mixedText.toList items ∧
      (file (.file (Utf8.encode mixedText.toList)) true).raws = .ok items ∧
      (remote "gate:rules" (Remote.initial [("gate:rules", mixedText)]).start.1).raws =
        .ok items := by
  obtain ⟨items, hwrites, hfile, hremote, -⟩ :=
    (file_and_store_agree "gate:rules" (Remote.initial [("gate:rules", mixedText)]).start.1 rfl rfl
      true .first).1 mixedText (by decide)
  exact ⟨⟨rfl, rfl⟩, items, hwrites, hfile, hremote⟩

end Readings

section Faults

variable {source : RuleSource}

/-- The remote store was not opened. -/
def IsUnopened : RuleSource → Prop
  | .file _ _ => False
  | .remote _ store => store.isOpen = false

/-- The remote store was opened, and its connection is broken. -/
def IsCutOff : RuleSource → Prop
  | .file _ _ => False
  | .remote _ store => store.isOpen = true ∧ store.isBroken = true

/-- What it is that keeps the rules from being read. -/
def Withholds
    (source : RuleSource) : SourceFault → Prop
  | .notStarted => source.IsUnopened
  | .disconnected => source.IsCutOff

/-- A source gives no rules before it is opened and while it is cut off. -/
theorem raws_eq_error_iff
    {fault : SourceFault} :
    source.raws = .error fault ↔ source.Withholds fault := by
  cases source with
  | file content hasParent => cases fault <;> simp [raws, Withholds, IsUnopened, IsCutOff]
  | remote key store =>
      simp only [raws, Remote.text?_eq, Remote.fault?]
      cases hopen : store.isOpen with
      | false => cases fault <;> simp [Withholds, IsUnopened, IsCutOff, hopen]
      | true =>
          cases hbroken : store.isBroken with
          | false => cases fault <;> simp [Withholds, IsUnopened, IsCutOff, hopen, hbroken]
          | true => cases fault <;> simp [Withholds, IsUnopened, IsCutOff, hopen, hbroken]

/-- A source gives a list or says that it was not started, unless it is cut off. -/
theorem given_or_notStarted_iff :
    ((∃ items, source.raws = .ok items) ∨ source.raws = .error .notStarted) ↔
      ¬ source.IsCutOff := by
  have hcut : source.raws = .error .disconnected ↔ source.IsCutOff := raws_eq_error_iff
  rw [← hcut]
  rcases source.raws with (_ | _) | items <;> simp

/-- Loading passes on what kept the rules from being read. -/
theorem load_eq_error_source_iff
    {now : Moment}
    {fault : SourceFault} :
    source.load now = .error (.source fault) ↔ source.raws = .error fault := by
  unfold load
  cases source.raws with
  | error fault' => simp
  | ok items => cases hnormal : Rule.normalize now items <;> simp [hnormal]

end Faults

end RuleSource

namespace Decision

variable {s : Surroundings} {criterion : String} {privileged : Bool}

theorem inContext_eq_error_load_iff
    {c : Context}
    {fault : LoadFault} :
    inContext s criterion privileged c = .error (.load fault) ↔
      s.rules.load s.now = .error fault := by
  unfold inContext
  cases s.rules.load s.now with
  | error fault' => simp
  | ok rules =>
      cases hscan : (Rule.scan criterion c rules).result with
      | error fault' => simp [hscan]
      | ok found =>
          cases found with
          | none => simp [hscan]
          | some r =>
              cases hr : ofRule s privileged c.server.address
                (Rule.scan criterion c rules).looked r <;> simp [hscan, hr]

/-- A decision whose address is resolved passes on what kept the rules from being read. -/
theorem result_eq_error_source_iff
    {memory : Memory}
    {request : Request}
    {record : Record}
    (hrecord : (Resolver.resolve s.api s.lookup memory.cache
      (Context.addressOf request)).record = some record)
    {fault : SourceFault} :
    (decide s memory request criterion privileged).result = .error (.load (.source fault)) ↔
      s.rules.raws = .error fault := by
  let c := Context.ofRequest request (Context.addressOf request) record
  have hcontext : inContext s criterion privileged c = .error (.load (.source fault)) ↔
      s.rules.load s.now = .error (.source fault) := inContext_eq_error_load_iff
  rw [result_decide, hrecord, ← RuleSource.load_eq_error_source_iff, ← hcontext]
  change Prod.snd <$> inContext s criterion privileged c = _ ↔ _
  cases inContext s criterion privileged c <;> simp

end Decision

namespace RuleSource

section Callers

variable {source : RuleSource}

/-- A fault is reported as a failure of the source unless it is that of a broken connection. -/
theorem reported_iff_not_isCutOff
    {fault : SourceFault}
    (hwithholds : source.Withholds fault) :
    (∃ f, Handling.ofLoadFault (.source fault) = .failed f ∧ f.kind = .ruleSource) ↔
      ¬ source.IsCutOff := by
  have hraws := raws_eq_error_iff.mpr hwithholds
  have hcut : source.raws = .error .disconnected ↔ source.IsCutOff := raws_eq_error_iff
  rw [← hcut, hraws]
  cases fault with
  | notStarted => exact iff_of_true ⟨_, rfl, rfl⟩ (by simp)
  | disconnected =>
      refine iff_of_false ?_ (by simp)
      rintro ⟨f, hfailed, -⟩
      cases hfailed

/-- A source gives a list or says that it was not started, unless its connection is broken.
What keeps the rules from being read is all that reaches loads and decisions, and is reported
as a failure of the source unless it is the broken connection. -/
theorem rules_are_given_or_refused_unless_cut_off
    (source : RuleSource) :
    (((∃ items, source.raws = .ok items) ∨ source.raws = .error .notStarted) ↔
      ¬ source.IsCutOff) ∧
    (∀ fault, source.raws = .error fault ↔ source.Withholds fault) ∧
    (∀ fault now, source.load now = .error (.source fault) ↔ source.Withholds fault) ∧
    (∀ fault (s : Surroundings) memory request criterion privileged record, s.rules = source →
      (Resolver.resolve s.api s.lookup memory.cache (Context.addressOf request)).record =
        some record →
      ((Decision.decide s memory request criterion privileged).result =
        .error (.load (.source fault)) ↔ source.Withholds fault)) ∧
    (∀ fault, source.Withholds fault →
      ((∃ f, Handling.ofLoadFault (.source fault) = .failed f ∧ f.kind = .ruleSource) ↔
        ¬ source.IsCutOff)) := by
  refine ⟨given_or_notStarted_iff, fun fault => raws_eq_error_iff,
    fun fault now => load_eq_error_source_iff.trans raws_eq_error_iff, ?_,
    fun fault => reported_iff_not_isCutOff⟩
  rintro fault s memory request criterion privileged record rfl hrecord
  exact (Decision.result_eq_error_source_iff hrecord).trans raws_eq_error_iff

/-- A source whose connection broke after its store was opened. -/
def brokenSource : RuleSource :=
  .remote "gate:rules" { (Remote.initial []).start.1 with isBroken := true }

theorem broken_connection_is_no_source_failure :
    ¬ ((∃ items, brokenSource.raws = .ok items) ∨ brokenSource.raws = .error .notStarted) ∧
      brokenSource.raws = .error .disconnected ∧
      Handling.ofLoadFault (.source .disconnected) = .broken := by
  have hraws : brokenSource.raws = .error .disconnected := rfl
  refine ⟨?_, hraws, rfl⟩
  rw [hraws]
  rintro (⟨items, h⟩ | h)
  · cases h
  · cases h

/-- A source before its store is opened. -/
def unopenedSource : RuleSource := .remote "gate:rules" (Remote.initial [])

/-- A visit without an address. -/
def unaddressed : Request := ⟨"GET", "/", "", "", [], [], [], [], "", none⟩

/-- A source before it is opened keeps decisions from being made, and callers are told so. -/
theorem unopened_source_is_reported :
    (Resolver.resolve (Surroundings.offline unopenedSource).api
      (Surroundings.offline unopenedSource).lookup .unavailable
      (Context.addressOf unaddressed)).record = some (Record.fallback "" none) ∧
    (Decision.decide (.offline unopenedSource) ⟨.unavailable, none⟩ unaddressed Rule.serverSide
      false).result = .error (.load (.source .notStarted)) ∧
    ∃ f, Handling.ofLoadFault (.source .notStarted) = .failed f ∧ f.kind = .ruleSource := by
  obtain ⟨-, -, -, hdecide, hreported⟩ :=
    rules_are_given_or_refused_unless_cut_off unopenedSource
  have hrecord : (Resolver.resolve (Surroundings.offline unopenedSource).api
      (Surroundings.offline unopenedSource).lookup .unavailable
      (Context.addressOf unaddressed)).record = some (Record.fallback "" none) := rfl
  have hunopened : unopenedSource.IsUnopened := rfl
  refine ⟨hrecord, ?_, ?_⟩
  · exact (hdecide .notStarted _ ⟨.unavailable, none⟩ _ _ _ _ rfl hrecord).mpr hunopened
  · refine (hreported .notStarted hunopened).mpr ?_
    rintro ⟨hopen, -⟩
    cases hopen

end Callers

end RuleSource
end Turnstile
