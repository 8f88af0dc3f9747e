import Turnstile.Proofs.Overlay
import Turnstile.Rule.Condition

/-!
# The layers of the flat view

A free condition sees one flat view of a visit.  It has three layers: what the client's
fingerprint says, what else the client reports, and what the server observed.  The first
layer that has a key gives its value.  The keys of the server come first and stay where they
are; those that only the client reports follow, those of the fingerprint last.  The view
takes nothing from the server's own signals, which named conditions read.

**Results.**
* `clientFields_eq`, `get?_clientFields`, `names_clientFields`: the two layers of the client.
* `get?_flat`, `names_flat`: the three layers.
* `layers_shadow_downwards`: what conditions see of them.
-/

namespace Turnstile

namespace Observed

section Signals

variable (o : Observed)

/-- The names of the server's signals, in order. -/
def signalNames : List String :=
  ["method", "path", "referrer", "user_agent", "browser", "os", "is_bot", "headers", "cookies",
    "query_params", "post_params", "ip", "country", "country_code", "org", "isp", "proxy",
    "hosting", "ip_hostname", "ip_country", "proxy_ip", "vpn_name"]

theorem names_signals :
    o.signals.map Prod.fst = signalNames :=
  rfl

/-- Other query parameters change one signal. -/
theorem signals_withQuery
    (query : Members Json) :
    { o with query := query }.signals = o.signals.set "query_params" (.view query) := by
  simp only [signals, Members.set, String.reduceBEq, Bool.false_eq_true, ↓reduceIte]
  rfl

end Signals

end Observed

namespace Context

section Client

variable {report : Members Json}

/-- The members of the client's fingerprint; there are none if it is no object. -/
def fingerprintOf
    (report : Members Json) : Members Json :=
  match report.get? fingerprintName with
  | some (.object members) => members
  | _ => []

/-- What the client reports besides the fingerprint. -/
def besideFingerprint
    (report : Members Json) : Members Json :=
  report.erase fingerprintName

/-- Reports as they are read: no name twice, neither in the report nor in the fingerprint. -/
structure HasDistinctNames
    (report : Members Json) : Prop where
  names : (report.map Prod.fst).Nodup
  fingerprint : ((fingerprintOf report).map Prod.fst).Nodup

theorem clientFields_eq
    (report : Members Json) :
    clientFields report = Members.overlay (besideFingerprint report) (fingerprintOf report) := by
  unfold clientFields fingerprintOf besideFingerprint
  cases report.get? fingerprintName with
  | none => rfl
  | some v =>
      cases v with
      | object members => rfl
      | _ => rfl

theorem HasDistinctNames.beside
    (h : HasDistinctNames report) :
    ((besideFingerprint report).map Prod.fst).Nodup := by
  rw [besideFingerprint, Members.names_erase]
  exact h.names.filter _

theorem get?_clientFields
    (h : HasDistinctNames report)
    (key : String) :
    (clientFields report).get? key =
      ((fingerprintOf report).get? key).or
        (if key = fingerprintName then none else report.get? key) := by
  rw [clientFields_eq, Members.get?_overlay, Members.last?_of_nodup h.fingerprint,
    besideFingerprint, Members.get?_erase]

theorem names_clientFields
    (h : HasDistinctNames report) :
    (clientFields report).map Prod.fst =
      (besideFingerprint report).map Prod.fst ++
        ((fingerprintOf report).map Prod.fst).filter
          (· ∉ (besideFingerprint report).map Prod.fst) := by
  rw [clientFields_eq, Members.names_overlay_of_nodup h.fingerprint]

theorem HasDistinctNames.clientFields
    (h : HasDistinctNames report) :
    ((clientFields report).map Prod.fst).Nodup := by
  rw [clientFields_eq]
  exact Members.nodup_overlay h.beside (fingerprintOf report)

end Client

section Flat

variable {request : Request} {address : String} {record : Record} {report : Members Json}

/--
The value that the first layer with a key gives: the fingerprint, then what the client reports
besides, then the server.
-/
def layered
    (server : Members Rule.Signal)
    (report : Members Json)
    (key : String) : Option Rule.Signal :=
  let reported := if key = fingerprintName then none else report.get? key
  (((fingerprintOf report).get? key).map .value).or ((reported.map .value).or (server.get? key))

theorem flat_eq
    (c : Context) :
    c.flat = Members.overlay c.server.signals
      (c.client.map fun member => (member.1, .value member.2)) :=
  rfl

/-- Values keep their names when they are taken as signals. -/
theorem names_values
    (fields : Members Json) :
    (fields.map fun member => (member.1, Rule.Signal.value member.2)).map Prod.fst =
      fields.map Prod.fst := by
  rw [List.map_map]
  rfl

theorem get?_flat
    (h : HasDistinctNames report)
    (key : String) :
    (assemble request address record report).flat.get? key =
      layered (assemble request address record report).server.signals report key := by
  have hnames := h.clientFields
  rw [← names_values] at hnames
  rw [flat_eq, Members.get?_overlay, assemble, Members.last?_of_nodup hnames,
    Members.get?_map fun _ v => Rule.Signal.value v, get?_clientFields h, layered,
    ← Option.or_assoc]
  cases (fingerprintOf report).get? key with
  | none => rfl
  | some v => rfl

theorem names_flat
    (h : HasDistinctNames report) :
    (assemble request address record report).flat.map Prod.fst =
      (assemble request address record report).server.signals.map Prod.fst ++
        ((clientFields report).map Prod.fst).filter
          (· ∉ (assemble request address record report).server.signals.map Prod.fst) := by
  have hnames := h.clientFields
  rw [← names_values] at hnames
  rw [flat_eq, assemble, Members.names_overlay_of_nodup hnames, names_values]

theorem observe_withPage
    (page page' : String) :
    observe request page' address record =
      { observe request page address record with query := queryOf page' request.query } := by
  simp only [observe]

/-- The server's signals depend on the page that the client reports in one place only. -/
theorem get?_signals_observe
    {page page' key : String}
    (h : key ≠ "query_params" ∨ page' = page) :
    (observe request page' address record).signals.get? key =
      (observe request page address record).signals.get? key := by
  rcases h with hkey | rfl
  · rw [observe_withPage page page', Observed.signals_withQuery, Members.get?_set, if_neg hkey]
  · rfl

end Flat

section Layers

/--
**Each layer shadows the ones below it, and nothing else.**  The flat view has the keys of the
server in their order, then the new ones of the client's report, then the new ones of the
fingerprint, each once; under each key stands what the first layer with the key says.  A
signal of the server is the same whatever the client reports, but for the query parameters,
which are those of the page that it reports.  A condition that is not a named one compares
what stands under its key, and holds if the key is not there.
-/
theorem layers_shadow_downwards
    (request : Request)
    (address : String)
    (record : Record)
    (report : Members Json)
    (h : HasDistinctNames report) :
    let c := assemble request address record report
    let serverNames := c.server.signals.map Prod.fst
    let reportNames := (report.map Prod.fst).filter (· != fingerprintName)
    (∀ key, c.flat.get? key = layered c.server.signals report key) ∧
    c.flat.map Prod.fst =
      serverNames ++ reportNames.filter (· ∉ serverNames) ++
        ((fingerprintOf report).map Prod.fst).filter
          (fun name => name ∉ serverNames ∧ name ∉ reportNames) ∧
    (c.flat.map Prod.fst).Nodup ∧
    (∀ report' key, key ≠ "query_params" ∨ pageUrl report' = pageUrl report →
      (assemble request address record report').server.signals.get? key =
        c.server.signals.get? key) ∧
    (∀ key e, Rule.NamedCondition.ofKey? key = none →
      Rule.conditionHolds c key e =
        match layered c.server.signals report key with
        | some signal => e.matches signal
        | none => .ok true) := by
  refine ⟨get?_flat h, ?_, ?_, fun report' key => get?_signals_observe, ?_⟩
  · rw [names_flat h, names_clientFields h, List.filter_append, List.append_assoc,
      List.filter_filter, besideFingerprint, Members.names_erase]
    simp only [Bool.decide_and]
  · exact Members.nodup_overlay (by rw [Observed.names_signals]; decide) _
  · intro key e hkey
    rw [Rule.conditionHolds, hkey, ← get?_flat h]
    rfl

/-- A report whose fingerprint overlaps with it, with the server, and with its own name. -/
def overlappingReport : Members Json :=
  [("screen", .string "wide"), ("ip", .string "192.0.2.1"),
    ("fp_initial", .object
      [("fp_initial", .string "inner"), ("screen", .null), ("os", .string "Plan 9")])]

/-- The fingerprint goes first, then the report, and the server's own signals stay. -/
theorem overlapping_report_is_layered :
    HasDistinctNames overlappingReport ∧
      let c := assemble ⟨"GET", "/", "", "", [], [], [], [], "8.8.8.8", none⟩ "8.8.8.8"
        (unknownRecord "8.8.8.8") overlappingReport
      c.flat.map Prod.fst = Observed.signalNames ++ ["screen", "fp_initial"] ∧
      Rule.conditionHolds c "screen" (.comparison (.literal (.string "wide"))) = .ok false := by
  have hnames : HasDistinctNames overlappingReport := ⟨by decide, by decide⟩
  obtain ⟨hflat, hkeys, -, -, hfree⟩ := layers_shadow_downwards
    ⟨"GET", "/", "", "", [], [], [], [], "8.8.8.8", none⟩ "8.8.8.8" (unknownRecord "8.8.8.8")
    overlappingReport hnames
  refine ⟨hnames, ?_, ?_⟩
  · rw [hkeys]
    decide
  · rw [hfree "screen" _ (by decide)]
    decide

end Layers

end Context
end Turnstile
