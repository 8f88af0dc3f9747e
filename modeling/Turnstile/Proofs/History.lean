import Turnstile.Proofs.CacheEntries
import Turnstile.Proofs.Deciding
import Turnstile.Proofs.FirstMatch
import Turnstile.Proofs.RecordText

/-!
# Decisions do not depend on history

All that a decision leaves behind is what the cache keeps of the visitor's address.  A
folder that only visits have written to is *faithful*: a document stands under the file
name of an address only if a lookup of that address gives its record.  The record in the
document equals the one looked up in all members that conditions look at, so a decision
comes out as if its visit were the first.

Addresses whose safe forms are the same share a file, so the visited addresses must have
safe forms of their own.
-/

namespace Turnstile

section DeclaredMembers

/-- The record without its further members. -/
def Record.bare
    (r : Record) : Record :=
  { r with extra := [] }

@[simp] theorem Record.bare_withoutNulls
    (r : Record) :
    r.withoutNulls.bare = r.bare :=
  rfl

/-- Conditions look at the declared members of a record only. -/
theorem Rule.conditionHolds_bare
    (request : Request)
    (address : String)
    (r : Record)
    (key : String)
    (e : Expectation) :
    conditionHolds (Context.ofRequest request address r) key e =
      conditionHolds (Context.ofRequest request address r.bare) key e := by
  unfold conditionHolds
  cases NamedCondition.ofKey? key with
  | none => rfl
  | some named => cases named <;> rfl

/-- Decisions depend on the declared members of a record only. -/
theorem Decision.inContext_bare
    (s : Surroundings)
    (criterion : String)
    (privileged : Bool)
    (request : Request)
    (address : String)
    (r : Record) :
    inContext s criterion privileged (Context.ofRequest request address r) =
      inContext s criterion privileged (Context.ofRequest request address r.bare) := by
  apply inContext_congr
  · rfl
  intro rules _
  apply Rule.scan_congr
  intro _ _ condition _
  exact Rule.conditionHolds_bare request address r condition.1 condition.2

theorem Decision.result_decide_bare
    (s : Surroundings)
    (memory : Memory)
    (request : Request)
    (criterion : String)
    (privileged : Bool) :
    (decide s memory request criterion privileged).result =
      match (Resolver.resolve s.api s.lookup memory.cache
          (Context.addressOf request)).record.map Record.bare with
      | none => .error .lookupRefused
      | some r =>
          Prod.snd <$> inContext s criterion privileged
            (Context.ofRequest request (Context.addressOf request) r) := by
  rw [result_decide]
  cases (Resolver.resolve s.api s.lookup memory.cache (Context.addressOf request)).record with
  | none => rfl
  | some r => simp only [Option.map_some, inContext_bare s criterion privileged request _ r]

end DeclaredMembers

section Caching

variable {lookup : String → LookupOutcome} {addresses : List String} {f : CacheFolder}

/-- Documents stand under the names of addresses only if lookups of them give the records. -/
def CacheFolder.Faithful
    (lookup : String → LookupOutcome)
    (addresses : List String)
    (f : CacheFolder) : Prop :=
  ∀ address ∈ addresses, ∀ entry, f.entries.get? (fileName address) = some entry →
    ∃ r, Resolver.looked? address (lookup address) = some r ∧
      entry = .file (documentText (.object r.document))

/-- Addresses have safe forms of their own. -/
def SafelyNamed
    (addresses : List String) : Prop :=
  ∀ address ∈ addresses, ∀ address' ∈ addresses,
    safeName address = safeName address' → address = address'

instance
    (addresses : List String) :
    Decidable (SafelyNamed addresses) :=
  inferInstanceAs (Decidable (∀ address ∈ addresses, ∀ address' ∈ addresses,
    safeName address = safeName address' → address = address'))

/-- The record of an address that was not resolved before. -/
def Resolver.first?
    (lookup : String → LookupOutcome)
    (address : String) : Option Record :=
  if address = "" then some (Record.fallback "" none) else looked? address (lookup address)

/-- A folder gives the document in the file of the address. -/
theorem CacheFolder.get_eq_some_iff
    {address : String}
    {document : Members Json} :
    f.get address = .ok (some document) ↔
      f.readFault? address = none ∧
        ∃ text, f.entries.get? (fileName address) = some (.file text) ∧
          readObject? text = some document := by
  rw [get_eq]
  cases f.readFault? address with
  | some fault =>
      simp
  | none =>
      cases f.entries.get? (fileName address) with
      | none => simp [Entry.document?]
      | some entry => cases entry <;> simp [Entry.document?]

/-- A record is cached in a folder iff the folder gives its document. -/
theorem Resolver.cached?_folder_eq_some_iff
    {address : String}
    {kept : Record} :
    cached? (.folder f) address = some kept ↔
      ∃ document, f.get address = .ok (some document) ∧
        Record.ofMembers document = .ok kept := by
  unfold cached? Cache.get
  simp only
  cases f.get address with
  | error fault =>
      simp
  | ok found =>
      cases found with
      | none =>
          simp
      | some document =>
          cases hrecord : Record.ofMembers document with
          | error flaws => simp [hrecord, Except.toOption]
          | ok record => simp [hrecord, Except.toOption]

theorem Resolver.written_folder
    (f : CacheFolder)
    (address : String)
    (r : Record) :
    written (.folder f) address r = .folder (f.set address (.object r.document)).1 := by
  simp only [written, Cache.set]

namespace CacheFolder

theorem faithful_of_empty
    (hempty : f.entries = []) :
    f.Faithful lookup addresses := by
  intro address _ entry hentry
  rw [hempty] at hentry
  cases hentry

/-- The folder stays faithful when the record of a lookup is written. -/
theorem Faithful.set
    (hf : f.Faithful lookup addresses)
    (hnames : SafelyNamed addresses)
    {address : String}
    (hmem : address ∈ addresses)
    {r : Record}
    (hr : Resolver.looked? address (lookup address) = some r) :
    (f.set address (.object r.document)).1.Faithful lookup addresses := by
  intro address' hmem' entry hentry
  rw [set_eq] at hentry
  simp only [get?_entriesAfter (isFresh_freshName f)] at hentry
  split at hentry
  next hwritten =>
    obtain rfl := hnames address' hmem' address hmem (fileName_inj.mp hwritten.2)
    exact ⟨r, hr, (Option.some.inj hentry).symm⟩
  next =>
    exact hf address' hmem' entry hentry

/-- A faithful folder holds the record of the lookup, but for nulls. -/
theorem Faithful.looked?_of_cached?
    (hf : f.Faithful lookup addresses)
    {address : String}
    (hmem : address ∈ addresses)
    {kept : Record}
    (hkept : Resolver.cached? (.folder f) address = some kept) :
    ∃ r, Resolver.looked? address (lookup address) = some r ∧ kept = r.withoutNulls := by
  obtain ⟨document, hget, hrecord⟩ := Resolver.cached?_folder_eq_some_iff.mp hkept
  obtain ⟨-, text, hentry, hdocument⟩ := get_eq_some_iff.mp hget
  obtain ⟨r, hr, hfile⟩ := hf address hmem _ hentry
  obtain rfl := Entry.file.inj hfile
  have hreads := Record.readsBack_of_looked? hr
  obtain rfl : r.document = document := by
    exact Option.some.inj (hreads.readObject?_cached.1.symm.trans hdocument)
  refine ⟨r, hr, ?_⟩
  rw [hreads.ofMembers_document] at hrecord
  exact (Except.ok.inj hrecord).symm

/-- Resolving keeps the folder faithful and gives the record of a first visit. -/
theorem Faithful.resolve
    (hf : f.Faithful lookup addresses)
    (hnames : SafelyNamed addresses)
    (api : LookupApi)
    {address : String}
    (hmem : address ∈ addresses) :
    ∃ f' : CacheFolder,
      (Resolver.resolve api lookup (.folder f) address).cache = .folder f' ∧
      f'.Faithful lookup addresses ∧
      (Resolver.resolve api lookup (.folder f) address).record.map Record.bare =
        (Resolver.first? lookup address).map Record.bare := by
  unfold Resolver.resolve Resolver.first?
  by_cases hempty : address = ""
  · rw [if_pos hempty, if_pos hempty]
    exact ⟨f, rfl, hf, rfl⟩
  rw [if_neg hempty, if_neg hempty]
  cases hkept : Resolver.cached? (.folder f) address with
  | some kept =>
      -- Nothing is looked up, but the lookup gave the record that was kept.
      obtain ⟨r, hr, rfl⟩ := hf.looked?_of_cached? hmem hkept
      refine ⟨f, rfl, hf, ?_⟩
      rw [hr]
      rfl
  | none =>
      simp only [Resolver.lookUp]
      cases hr : Resolver.looked? address (lookup address) with
      | none =>
          exact ⟨f, rfl, hf, rfl⟩
      | some r =>
          simp only [Resolver.written_folder]
          exact ⟨_, rfl, hf.set hnames hmem hr, trivial⟩

end CacheFolder

end Caching

section Visits

/-- A visit on which a decision is made. -/
structure Visit where
  request : Request
  criterion : String
  privileged : Bool
  /-- The time that the decision takes, in seconds. -/
  elapsed : Double

/-- The address of the visitor. -/
def Visit.address
    (v : Visit) : String :=
  Context.addressOf v.request

/-- Decides on a visit. -/
def Visit.decide
    (s : Surroundings)
    (memory : Memory)
    (v : Visit) : Deciding :=
  Decision.decide { s with elapsed := v.elapsed } memory v.request v.criterion v.privileged

/-- The answers to visits, each decided with what the visits before it left behind. -/
def answers
    (s : Surroundings)
    (memory : Memory) : List Visit → List (Except DecisionFault Decision)
  | [] => []
  | v :: rest => (v.decide s memory).result :: answers s (v.decide s memory).memory rest

variable {s : Surroundings} {addresses : List String} {f f' : CacheFolder}

/-- Faithful folders lead to one answer. -/
theorem Visit.result_eq_of_faithful
    {v : Visit}
    (hnames : SafelyNamed addresses)
    (hmem : v.address ∈ addresses)
    (hf : f.Faithful s.lookup addresses)
    (hf' : f'.Faithful s.lookup addresses)
    (tally tally' : Option Tally) :
    (v.decide s ⟨.folder f, tally⟩).result = (v.decide s ⟨.folder f', tally'⟩).result := by
  obtain ⟨-, -, -, hrecord⟩ := hf.resolve hnames s.api hmem
  obtain ⟨-, -, -, hrecord'⟩ := hf'.resolve hnames s.api hmem
  unfold Visit.decide
  rw [Decision.result_decide_bare, Decision.result_decide_bare]
  unfold Visit.address at hrecord hrecord'
  simp only [hrecord, hrecord']

/-- A visit leaves a faithful folder behind. -/
theorem Visit.exists_faithful
    {v : Visit}
    (hnames : SafelyNamed addresses)
    (hmem : v.address ∈ addresses)
    (hf : f.Faithful s.lookup addresses)
    (tally : Option Tally) :
    ∃ (f' : CacheFolder) (tally' : Option Tally),
      (v.decide s ⟨.folder f, tally⟩).memory = ⟨.folder f', tally'⟩ ∧
        f'.Faithful s.lookup addresses := by
  obtain ⟨f', hcache, hf', -⟩ := hf.resolve hnames s.api hmem
  refine ⟨f', (v.decide s ⟨.folder f, tally⟩).memory.tally, ?_, hf'⟩
  have hkept : (v.decide s ⟨.folder f, tally⟩).memory.cache = .folder f' :=
    (Decision.cache_decide _ _ _ _ _).trans hcache
  rw [← hkept]

/-- From a faithful folder on, each visit is answered as by another faithful folder. -/
theorem answers_of_faithful
    (hnames : SafelyNamed addresses)
    (hf' : f'.Faithful s.lookup addresses)
    (tally' : Option Tally)
    {visits : List Visit}
    (hmem : ∀ v ∈ visits, v.address ∈ addresses)
    (hf : f.Faithful s.lookup addresses)
    (tally : Option Tally) :
    answers s ⟨.folder f, tally⟩ visits =
      visits.map fun v => (v.decide s ⟨.folder f', tally'⟩).result := by
  -- The folder and the tally change from visit to visit; that the folder is faithful stays.
  induction visits generalizing f tally with
  | nil =>
      rfl
  | cons v rest ih =>
      have hv := hmem v List.mem_cons_self
      obtain ⟨later, counted, hmemory, hlater⟩ := Visit.exists_faithful hnames hv hf tally
      have hrest := ih (fun w hw => hmem w (List.mem_cons_of_mem v hw)) hlater counted
      rw [answers, hmemory, hrest, List.map_cons,
        Visit.result_eq_of_faithful hnames hv hf hf' tally tally']

/--
**Decisions do not depend on history.**  When visitors with different addresses have
different safe addresses, a folder that starts empty answers each of their visits as an
empty folder answers it first.  So the order of the visits, and how often an address was
seen before, change no answer.
-/
theorem answers_eq_first_answers
    (s : Surroundings)
    {start fresh : CacheFolder}
    (hstart : start.entries = [])
    (hfresh : fresh.entries = [])
    (tally tally' : Option Tally)
    {visits : List Visit}
    (hnames : SafelyNamed (visits.map Visit.address)) :
    answers s ⟨.folder start, tally⟩ visits =
        visits.map (fun v => (v.decide s ⟨.folder fresh, tally'⟩).result) ∧
      ∀ visits', visits.Perm visits' →
        (visits.zip (answers s ⟨.folder start, tally⟩ visits)).Perm
          (visits'.zip (answers s ⟨.folder start, tally⟩ visits')) := by
  have hany : ∀ visits', (∀ v ∈ visits', v ∈ visits) →
      answers s ⟨.folder start, tally⟩ visits' =
        visits'.map fun v => (v.decide s ⟨.folder fresh, tally'⟩).result := by
    intro visits' hvisits
    apply answers_of_faithful hnames (CacheFolder.faithful_of_empty hfresh) tally'
    · exact fun v hv => List.mem_map.mpr ⟨v, hvisits v hv, rfl⟩
    · exact CacheFolder.faithful_of_empty hstart
  have hvisits := hany visits fun _ hv => hv
  refine ⟨hvisits, ?_⟩
  intro visits' hperm
  have hvisits' := hany visits' fun _ hv => hperm.mem_iff.mpr hv
  rw [hvisits, hvisits', ← List.map_prod_left_eq_zip, ← List.map_prod_left_eq_zip]
  exact hperm.map _

/-- An unprivileged visit from an address. -/
def visitFrom
    (address : String) : Visit :=
  ⟨⟨"GET", "/", "", "", [], [], [], [], address, none⟩, Rule.serverSide, false, Double.zero⟩

/-- A visitor who returns after another visitor gets the answer of a first visit. -/
theorem returning_visitor_answered_as_first :
    SafelyNamed ([visitFrom "198.51.100.7", visitFrom "2001:db8::1",
        visitFrom "198.51.100.7"].map Visit.address) ∧
      answers (.offline (.holding (.array []))) ⟨.folder .initial, none⟩
          [visitFrom "198.51.100.7", visitFrom "2001:db8::1", visitFrom "198.51.100.7"] =
        [visitFrom "198.51.100.7", visitFrom "2001:db8::1", visitFrom "198.51.100.7"].map
          fun v => (v.decide (.offline (.holding (.array []))) ⟨.folder .initial, none⟩).result := by
  have hnames : SafelyNamed ([visitFrom "198.51.100.7", visitFrom "2001:db8::1",
      visitFrom "198.51.100.7"].map Visit.address) := by
    decide
  exact ⟨hnames, (answers_eq_first_answers (.offline (.holding (.array []))) rfl rfl none none
    hnames).1⟩

end Visits

end Turnstile
