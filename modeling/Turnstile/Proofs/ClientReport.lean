import Turnstile.Proofs.Deciding
import Turnstile.Proofs.FirstMatch

/-!
# What a client can influence

A client reports fields of its own, which shadow the server's signals in the flat view
of a context.  Named conditions do not look at that view: they read what the server
observed, and of the client's report the server takes only the address of the page.  So
a document whose conditions are all named gives the same decision for any two reports
with the same page.
-/

namespace Turnstile

namespace Rule

section NamedConditions

/-- All conditions of the entry, if it has any, are named ones. -/
def hasNamedConditions
    (raw : Json) : Bool :=
  match raw.member "conditions" with
  | .object members =>
      members.all fun member => (NamedCondition.all.map NamedCondition.key).contains member.1
  | _ => true

/-- Reading conditions keeps their keys. -/
theorem mem_keys_of_decodeConditions
    {v : Json}
    {conditions : Members Expectation}
    (hread : decodeConditions v = .ok conditions)
    {condition : String × Expectation}
    (hmem : condition ∈ conditions) :
    ∃ members, v = .object members ∧ ∃ member ∈ members, member.1 = condition.1 := by
  cases v with
  | object members =>
      refine ⟨members, rfl, ?_⟩
      rw [decodeConditions, mapM_eq_ok_iff] at hread
      induction hread with
      | nil =>
          simp at hmem
      | @cons member found rest readRest hfound _ ih =>
          rcases List.mem_cons.mp hmem with rfl | hmem
          · obtain ⟨e, -, he⟩ := bind_eq_ok_iff.mp hfound
            have hkey := congrArg Prod.fst (pure_eq_ok_iff.mp he)
            exact ⟨member, by simp, hkey⟩
          · obtain ⟨other, hother, hkey⟩ := ih hmem
            exact ⟨other, List.mem_cons_of_mem _ hother, hkey⟩
  | _ =>
      obtain rfl : [] = conditions := by simpa [decodeConditions] using hread
      simp at hmem

/-- The keys of the conditions that an entry has. -/
def conditionNames
    (raw : Json) : List String :=
  match raw.member "conditions" with
  | .object members => members.map Prod.fst
  | _ => []

/-- The conditions of the rules of a document have the keys that its entries give them. -/
theorem mem_conditionNames_of_normalize
    {now : Moment}
    {raws : List Json}
    {rules : List Rule}
    (hnormal : normalize now raws = .ok rules)
    {r : Rule}
    (hr : r ∈ rules)
    {condition : String × Expectation}
    (hmem : condition ∈ r.conditions) :
    ∃ raw ∈ raws, condition.1 ∈ conditionNames raw := by
  obtain ⟨hraw, -, hdecode⟩ := entry_of_mem_normalize hnormal hr
  obtain ⟨-, -, -, hconditions, -⟩ := decode_eq_ok_iff.mp hdecode
  obtain ⟨authored, hauthored, member, hmember, hkey⟩ :=
    mem_keys_of_decodeConditions hconditions hmem
  refine ⟨.object r.raw, hraw, ?_⟩
  rw [conditionNames, hauthored]
  exact List.mem_map.mpr ⟨member, hmember, hkey⟩

/-- A key of a named condition names one. -/
theorem exists_ofKey?
    {key : String}
    (hkey : key ∈ NamedCondition.all.map NamedCondition.key) :
    ∃ named, NamedCondition.ofKey? key = some named := by
  obtain ⟨named, hnamed, rfl⟩ := List.mem_map.mp hkey
  rw [← Option.isSome_iff_exists, NamedCondition.ofKey?, List.find?_isSome]
  exact ⟨named, hnamed, by simp⟩

/-- Named conditions only: each key of the entry names one. -/
theorem exists_ofKey?_of_hasNamedConditions
    {raw : Json}
    (hnamed : hasNamedConditions raw = true)
    {key : String}
    (hkey : key ∈ conditionNames raw) :
    ∃ named, NamedCondition.ofKey? key = some named := by
  apply exists_ofKey?
  unfold hasNamedConditions at hnamed
  unfold conditionNames at hkey
  cases hauthored : raw.member "conditions" with
  | object members =>
      rw [hauthored] at hnamed hkey
      obtain ⟨member, hmember, rfl⟩ := List.mem_map.mp hkey
      simpa using List.all_eq_true.mp hnamed member hmember
  | _ =>
      rw [hauthored] at hkey
      cases hkey

/-- The rules of a document with named conditions only have named conditions only. -/
theorem exists_named_of_normalize
    {now : Moment}
    {raws : List Json}
    {rules : List Rule}
    (hnormal : normalize now raws = .ok rules)
    (hnamed : ∀ raw ∈ raws, hasNamedConditions raw = true)
    {r : Rule}
    (hr : r ∈ rules)
    {condition : String × Expectation}
    (hmem : condition ∈ r.conditions) :
    ∃ named, NamedCondition.ofKey? condition.1 = some named := by
  obtain ⟨raw, hraw, hkey⟩ := mem_conditionNames_of_normalize hnormal hr hmem
  exact exists_ofKey?_of_hasNamedConditions (hnamed raw hraw) hkey

/-- Named conditions look at what the server observed. -/
theorem conditionHolds_congr_of_named
    {c c' : Context}
    (hserver : c.server = c'.server)
    {key : String}
    (hkey : ∃ named, NamedCondition.ofKey? key = some named)
    (e : Expectation) :
    conditionHolds c key e = conditionHolds c' key e := by
  obtain ⟨named, hnamed⟩ := hkey
  simp only [conditionHolds, hnamed, hserver]

end NamedConditions

end Rule

section Reports

/--
**Clients cannot spoof what the server observed.**  Two visits that differ only in what
the client reports, and whose reports have the same page, are decided alike by rules
with named conditions only: the same rule, action, directive and criteria after looking
at as many rules, the same lookups, and the same memory.
-/
theorem decide_eq_of_same_page
    (s : Surroundings)
    (memory : Memory)
    (request : Request)
    (report report' : Option (Members Json))
    (criterion : String)
    (privileged : Bool)
    (hpage : Context.pageUrl (report.getD []) = Context.pageUrl (report'.getD []))
    (hnamed : ∀ raws, s.rules.raws = .ok raws →
      ∀ raw ∈ raws, Rule.hasNamedConditions raw = true) :
    Decision.decide s memory { request with client := report } criterion privileged =
      Decision.decide s memory { request with client := report' } criterion privileged := by
  apply Decision.decide_congr memory
  · rfl
  intro record
  have hserver :
      (Context.ofRequest { request with client := report }
          (Context.addressOf { request with client := report }) record).server =
        (Context.ofRequest { request with client := report' }
          (Context.addressOf { request with client := report' }) record).server := by
    simp only [Context.ofRequest, Context.assemble, hpage]
    rfl
  apply Decision.inContext_congr (congrArg Observed.address hserver)
  intro rules hload
  obtain ⟨raws, hraws, hnormal⟩ := RuleSource.load_eq_ok_iff.mp hload
  apply Rule.scan_congr
  intro r hr condition hmem
  apply Rule.conditionHolds_congr_of_named hserver
  exact Rule.exists_named_of_normalize hnormal (hnamed raws hraws) hr hmem

/-- A rule with two named conditions. -/
def namedRule : Json :=
  .object
    [("id", .string "offer"),
      ("criteria", .array [.string Rule.serverSide]),
      ("conditions", .object
        [("ip_country", .string "localhost"),
          ("query_params", .object [("q", .string "is_not_empty")])]),
      ("action", .object
        [("type", .string "js-exec"), ("data", .object [("script", .string "go()")])])]

/-- Surroundings with that rule. -/
def namedSurroundings : Surroundings :=
  .offline (.holding (.array [namedRule]))

theorem raws_namedSurroundings :
    namedSurroundings.rules.raws = .ok [namedRule] :=
  RuleSource.raws_holding (by simp [namedRule])

/-- A visit without a report, from an address that is not public. -/
def localVisit : Request :=
  ⟨"GET", "/", "", "", [], [], [], [], "127.0.0.1", none⟩

/-- A report of nothing but the page. -/
def honestReport : Members Json :=
  [("url", .string "https://shop.example/?q=1")]

/-- A report that also claims what only the server can observe. -/
def forgedReport : Members Json :=
  [("ip", .string "192.0.2.1"), ("url", .string "https://shop.example/?q=1"),
    ("fp_initial", .object [("ip_country", .string "XX"), ("url", .string "/")])]

/-- A forged report does not change a decision by named conditions. -/
theorem forged_report_changes_nothing :
    Context.pageUrl honestReport = Context.pageUrl forgedReport ∧
    (∀ raws, namedSurroundings.rules.raws = .ok raws →
      ∀ raw ∈ raws, Rule.hasNamedConditions raw = true) ∧
    Decision.decide namedSurroundings ⟨.folder .initial, none⟩
        { localVisit with client := some honestReport } Rule.serverSide true =
      Decision.decide namedSurroundings ⟨.folder .initial, none⟩
        { localVisit with client := some forgedReport } Rule.serverSide true := by
  have hpage : Context.pageUrl honestReport = Context.pageUrl forgedReport := by
    decide
  have hnamed : ∀ raws, namedSurroundings.rules.raws = .ok raws →
      ∀ raw ∈ raws, Rule.hasNamedConditions raw = true := by
    intro raws h raw hraw
    obtain rfl : [namedRule] = raws := Except.ok.inj (raws_namedSurroundings.symm.trans h)
    obtain rfl : raw = namedRule := List.mem_singleton.mp hraw
    decide
  exact ⟨hpage, hnamed,
    decide_eq_of_same_page namedSurroundings ⟨.folder .initial, none⟩ localVisit
      (some honestReport) (some forgedReport) Rule.serverSide true hpage hnamed⟩

end Reports

end Turnstile
