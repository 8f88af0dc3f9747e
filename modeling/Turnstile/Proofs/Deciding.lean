import Turnstile.Decision
import Turnstile.Proofs.JsonText
import Turnstile.Proofs.RuleReading

/-!
# The steps of a decision

A decision looks at a request only through the visitor's address and the context that
the address' record gives.  These lemmas say when two decisions come out alike, so that
later modules compare contexts and rules instead of whole decisions.
-/

namespace Turnstile

namespace RuleSource

/-- Rules are loaded iff the source can be read and its entries can be normalized. -/
theorem load_eq_ok_iff
    {source : RuleSource}
    {now : Moment}
    {rules : List Rule} :
    source.load now = .ok rules ↔
      ∃ raws, source.raws = .ok raws ∧ Rule.normalize now raws = .ok rules := by
  unfold load
  cases hraws : source.raws with
  | error fault =>
      simp
  | ok raws =>
      cases hnormal : Rule.normalize now raws with
      | error fault => simp [hnormal]
      | ok found => simp [hnormal]

/-- A remote store that holds a document. -/
def holding
    (document : Json) : RuleSource :=
  .remote "rules" ⟨[("rules", Json.write .compact document)], .ok true, false, true⟩

theorem raws_holding
    {document : Json}
    (hdocument : document.Readable) :
    (holding document).raws = .ok (Rule.documentRules document) := by
  have hread := Json.read?_write Json.isPlain_compact hdocument
  have hne : Json.write .compact document ≠ "" := by
    intro h
    rw [h] at hread
    cases hread
  have hrules : rulesOfText (Json.write .compact document).toList =
      Rule.documentRules document := by
    unfold Json.read? at hread
    simp [rulesOfText, hread]
  have htext : (Remote.mk [("rules", Json.write .compact document)] (.ok true) false true).text?
      "rules" = .ok (some (Json.write .compact document)) := by
    simp [Remote.text?, Remote.get?, Members.get?, Option.filter, hne]
  simp [holding, raws, htext, hrules]

end RuleSource

/-- Surroundings with these rules, in which no lookup succeeds. -/
def Surroundings.offline
    (rules : RuleSource) : Surroundings where
  api := ⟨"http://lookup.example", none, .null⟩
  lookup := fun _ => .failed
  includeRoot := none
  rules := rules
  now := .first
  elapsed := Double.zero

namespace Decision

section Congruence

variable {s : Surroundings} {criterion : String} {privileged : Bool}

/-- Contexts with one address that look alike to the loaded rules give one decision. -/
theorem inContext_congr
    {c c' : Context}
    (haddress : c.server.address = c'.server.address)
    (hscan : ∀ rules, s.rules.load s.now = .ok rules →
      Rule.scan criterion c rules = Rule.scan criterion c' rules) :
    inContext s criterion privileged c = inContext s criterion privileged c' := by
  unfold inContext
  cases hload : s.rules.load s.now with
  | error fault =>
      rfl
  | ok rules =>
      simp only [hscan rules hload, haddress]

/-- Requests of one address whose contexts give one decision are decided alike. -/
theorem decide_congr
    {request request' : Request}
    (memory : Memory)
    (haddress : Context.addressOf request = Context.addressOf request')
    (hcontext : ∀ record,
      inContext s criterion privileged
          (Context.ofRequest request (Context.addressOf request) record) =
        inContext s criterion privileged
          (Context.ofRequest request' (Context.addressOf request') record)) :
    decide s memory request criterion privileged =
      decide s memory request' criterion privileged := by
  rw [haddress] at hcontext
  simp only [decide, haddress, hcontext]

/-- A decision depends on what was remembered only through the record of the address. -/
theorem result_decide
    (s : Surroundings)
    (memory : Memory)
    (request : Request)
    (criterion : String)
    (privileged : Bool) :
    (decide s memory request criterion privileged).result =
      match (Resolver.resolve s.api s.lookup memory.cache (Context.addressOf request)).record with
      | none => .error .lookupRefused
      | some record =>
          Prod.snd <$> inContext s criterion privileged
            (Context.ofRequest request (Context.addressOf request) record) := by
  simp only [decide]
  cases (Resolver.resolve s.api s.lookup memory.cache (Context.addressOf request)).record with
  | none =>
      rfl
  | some record =>
      cases hd : inContext s criterion privileged
          (Context.ofRequest request (Context.addressOf request) record) with
      | error fault => simp [hd]
      | ok decided => simp [hd]

/-- What is cached after a decision is what is cached after resolving the address. -/
theorem cache_decide
    (s : Surroundings)
    (memory : Memory)
    (request : Request)
    (criterion : String)
    (privileged : Bool) :
    (decide s memory request criterion privileged).memory.cache =
      (Resolver.resolve s.api s.lookup memory.cache (Context.addressOf request)).cache := by
  simp only [decide]
  cases (Resolver.resolve s.api s.lookup memory.cache (Context.addressOf request)).record with
  | none =>
      rfl
  | some record =>
      cases hd : inContext s criterion privileged
          (Context.ofRequest request (Context.addressOf request) record) with
      | error fault => simp [hd]
      | ok decided => simp [hd]

/-- When the rules are loaded and scanned without a fault, the rule found decides. -/
theorem inContext_eq_ok_iff
    {c : Context}
    {found : Option Rule}
    {d : Decision} :
    inContext s criterion privileged c = .ok (found, d) ↔
      ∃ rules, s.rules.load s.now = .ok rules ∧
        (Rule.scan criterion c rules).result = .ok found ∧
        match found with
        | none => d = noMatch (Rule.scan criterion c rules).looked
        | some r =>
            ofRule s privileged c.server.address (Rule.scan criterion c rules).looked r = .ok d := by
  unfold inContext
  cases s.rules.load s.now with
  | error fault =>
      simp
  | ok rules =>
      cases hscan : (Rule.scan criterion c rules).result with
      | error fault =>
          simp [hscan]
      | ok result =>
          cases result with
          | none =>
              simp only [hscan, Except.ok.injEq, Prod.mk.injEq, exists_eq_left']
              constructor
              · rintro ⟨rfl, rfl⟩
                exact ⟨rfl, rfl⟩
              · rintro ⟨rfl, rfl⟩
                exact ⟨rfl, rfl⟩
          | some r =>
              simp only [hscan, Except.ok.injEq, exists_eq_left']
              cases hr : ofRule s privileged c.server.address
                  (Rule.scan criterion c rules).looked r with
              | error fault =>
                  constructor
                  · simp
                  · rintro ⟨rfl, hd⟩
                    simp [hr] at hd
              | ok d' =>
                  constructor
                  · intro h
                    obtain ⟨rfl, rfl⟩ := Prod.mk.inj (Except.ok.inj h)
                    exact ⟨rfl, hr⟩
                  · rintro ⟨rfl, hd⟩
                    obtain rfl : d' = d := by simpa [hr] using hd
                    rfl

end Congruence

end Decision

end Turnstile
