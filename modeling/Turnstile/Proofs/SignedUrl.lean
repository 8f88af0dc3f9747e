import Turnstile.Proofs.EscapedText
import Turnstile.Proofs.SignedMessage

/-!
# Verifying a signed URL

A signed URL tells all that was signed.  Whoever knows the account's key divides it at
the separators, reads the escapes of each part, writes the sixteen fields anew and signs
them: no escaped text holds a separator, so each part comes back as it was, and the
signature in the URL is the signature of what the URL says.

**Results.**
* `Divides`, `Presented`: a URL in its three parts, and what a verifier reads there.
* `Divides.unique`: a URL is divided in one way.
* `readParameters?_parameterText`: the parameters come back in their order.
* `url_rebuilds_signed_message`: the message of the presented fields is the one signed.
-/

namespace Turnstile
namespace SharedAccess

section Reading

/-- A URL consists of a host, a path and a query, at the separators of these. -/
structure Divides
    (url : String)
    (host path query : List Char) : Prop where
  text : url.toList = "https://".toList ++ (host ++ '/' :: (path ++ '?' :: query))
  host_free : ∀ c ∈ host, c ≠ '/' ∧ c ≠ '?' ∧ c ≠ '#'
  path_free : ∀ c ∈ path, c ≠ '?' ∧ c ≠ '#'
  query_free : '#' ∉ query

/-- Name and value of a parameter, divided by its only equals sign. -/
def readParameter? (cs : List Char) : Option (String × String) :=
  match Text.pieces '=' cs with
  | [name, value] => some (String.ofList name, String.ofList (Percent.decode value))
  | _ => none

/-- The parameters of a query. -/
def readParameters? (query : List Char) : Option (Members String) :=
  (Text.pieces '&' query).mapM readParameter?

/-- What a URL asks for: an entry of a container, with parameters. -/
structure Presented where
  container : String
  entry : String
  parameters : Members String

/-- Reads path and query: the first segment is the container, all that follows is the entry. -/
def Presented.read? (path query : List Char) : Option Presented :=
  match Text.cut '/' path, readParameters? query with
  | (container, some entry), some parameters =>
      some ⟨String.ofList (Percent.decode container), String.ofList (Percent.decode entry),
        parameters⟩
  | _, _ => none

/-- The text of a parameter, empty if it is not there. -/
def Presented.parameter (presented : Presented) (name : String) : String :=
  (Members.get? presented.parameters name).getD ""

/-- The signed fields that the owner of an account reads. -/
def Presented.fields (presented : Presented) (account : String) : SignedFields where
  permission := presented.parameter "sp"
  start := presented.parameter "st"
  expiry := presented.parameter "se"
  resource := resource account presented.container
  address := presented.parameter "sip"
  protocol := presented.parameter "spr"
  version := presented.parameter "sv"
  scope := presented.parameter "sr"

end Reading

section Parts

variable {access : SharedAccess} {address : String} {now : Moment} {fields : SignedFields}

/-- The path is the escaped container before the escaped segments of the entry. -/
theorem toList_path
    (access : SharedAccess) :
    access.path.toList =
      Percent.encodeChars access.container.toList ++ '/' ::
        ['/'].intercalate ((Text.pieces '/' access.entry.toList).map Percent.encodeChars) := by
  simp [path, Percent.encode, Text.joined, String.toList_append, String.toList_intercalate,
    Function.comp_def]

theorem path_free
    (access : SharedAccess) :
    ∀ c ∈ access.path.toList, c ≠ '?' ∧ c ≠ '#' := by
  have hsegment : ∀ text, ∀ c ∈ Percent.encodeChars text, c ≠ '?' ∧ c ≠ '#' := by
    intro text c hc
    constructor
    · rintro rfl
      exact Percent.not_mem_encodeChars (by decide) text hc
    · rintro rfl
      exact Percent.not_mem_encodeChars (by decide) text hc
  intro c hc
  rw [toList_path, List.mem_append, List.mem_cons] at hc
  rcases hc with hcontainer | rfl | hentry
  · exact hsegment _ c hcontainer
  · decide
  · rcases Text.eq_or_mem_of_mem_intercalate hentry with rfl | ⟨part, hpart, hmem⟩
    · decide
    · obtain ⟨segment, -, rfl⟩ := List.mem_map.mp hpart
      exact hsegment segment c hmem

/-- A name that is written as it is. -/
def isPlainName (name : String) : Bool :=
  name.toList.all Percent.isEscapedChar

/-- The text of one parameter. -/
def parameterChars (parameter : String × String) : List Char :=
  parameter.1.toList ++ '=' :: Percent.encodeChars parameter.2.toList

theorem toList_parameterText
    (ps : Members String) :
    (parameterText ps).toList = ['&'].intercalate (ps.map parameterChars) := by
  rw [parameterText, Text.toList_joined rfl, List.map_map]
  congr 2
  funext ⟨name, value⟩
  simp [parameterChars, Percent.encode]

theorem not_mem_parameterChars
    {c : Char}
    {parameter : String × String}
    (hname : isPlainName parameter.1 = true)
    (hseparator : Percent.isEscapedChar c = false)
    (hequals : c ≠ '=') :
    c ∉ parameterChars parameter := by
  intro hmem
  rw [parameterChars, List.mem_append, List.mem_cons] at hmem
  rcases hmem with hmem | rfl | hmem
  · rw [List.all_eq_true.mp hname c hmem] at hseparator
    cases hseparator
  · exact hequals rfl
  · exact Percent.not_mem_encodeChars hseparator _ hmem

/-- A parameter is read as its name and its value, whatever the value is. -/
theorem readParameter?_parameterChars
    {parameter : String × String}
    (hname : isPlainName parameter.1 = true) :
    readParameter? (parameterChars parameter) = some parameter := by
  have hfree : '=' ∉ parameter.1.toList := by
    intro hmem
    have hchar := List.all_eq_true.mp hname _ hmem
    cases hchar
  have hvalue : '=' ∉ Percent.encodeChars parameter.2.toList :=
    Percent.not_mem_encodeChars (by decide) _
  rw [readParameter?, parameterChars, Text.pieces_append_cons hfree,
    Text.pieces_of_not_mem hvalue]
  simp only [Percent.decode_encodeChars, String.ofList_toList]

/-- Parameters under plain names come back in their order. -/
theorem readParameters?_parameterText
    {ps : Members String}
    (hps : ps ≠ [])
    (hnames : ∀ p ∈ ps, isPlainName p.1 = true) :
    readParameters? (parameterText ps).toList = some ps := by
  have hpieces : Text.pieces '&' (parameterText ps).toList = ps.map parameterChars := by
    rw [toList_parameterText]
    apply Text.pieces_intercalate
    · simpa using hps
    · rw [List.forall_mem_map]
      exact fun p hp => not_mem_parameterChars (hnames p hp) (by decide) (by decide)
  rw [readParameters?, hpieces]
  clear hps hpieces
  induction ps with
  | nil =>
      rfl
  | cons p more ih =>
      rw [List.forall_mem_cons] at hnames
      rw [List.map_cons, List.mapM_cons, readParameter?_parameterChars hnames.1, ih hnames.2]
      rfl

theorem not_mem_parameterText
    {ps : Members String}
    (hnames : ∀ p ∈ ps, isPlainName p.1 = true) :
    '#' ∉ (parameterText ps).toList := by
  intro hmem
  rw [toList_parameterText] at hmem
  rcases Text.eq_or_mem_of_mem_intercalate hmem with heq | ⟨part, hpart, hc⟩
  · cases heq
  · obtain ⟨p, hp, rfl⟩ := List.mem_map.mp hpart
    exact not_mem_parameterChars (hnames p hp) (by decide) (by decide) hc

theorem isPlainName_of_mem_parameters
    {signature : String}
    {p : String × String}
    (h : p ∈ parameters fields signature) :
    isPlainName p.1 = true := by
  have hname : p.1 ∈ ["sv", "se", "sr", "sp", "spr", "st", "sig", "sip"] := by
    unfold parameters at h
    split at h
    · simp only [List.append_nil, List.mem_cons, List.not_mem_nil, or_false] at h
      rcases h with rfl | rfl | rfl | rfl | rfl | rfl | rfl <;> simp
    · simp only [List.mem_append, List.mem_cons, List.not_mem_nil, or_false] at h
      rcases h with (rfl | rfl | rfl | rfl | rfl | rfl | rfl) | rfl <;> simp
  have hplain : ∀ name ∈ ["sv", "se", "sr", "sp", "spr", "st", "sig", "sip"],
      isPlainName name = true := by
    decide
  exact hplain p.1 hname

/-- There is an address parameter exactly when the URL admits one address, and there is one. -/
theorem parameters_eq
    {signature : String}
    (h : access.fieldsAt? address now = some fields) :
    parameters fields signature =
      [("sv", access.version), ("se", fields.expiry), ("sr", "c"), ("sp", "r"),
        ("spr", "https"), ("st", fields.start), ("sig", signature)] ++
      if access.locksAddress = true ∧ address ≠ "" then [("sip", address)] else [] := by
  obtain ⟨start, expiry, -, -, rfl⟩ := fieldsAt?_eq_some_iff.mp h
  unfold parameters signedAddress
  cases hlocks : access.locksAddress with
  | false =>
      rfl
  | true =>
      by_cases haddress : address = ""
      · simp [signedFields, haddress, secureProtocol, containerScope, readPermission]
      · simp [signedFields, haddress, secureProtocol, containerScope, readPermission]

end Parts

section Verification

variable {access : SharedAccess} {address : String} {now : Moment} {fields : SignedFields}

/-- A URL is divided in one way. -/
theorem Divides.unique
    {url : String}
    {host path query host' path' query' : List Char}
    (h : Divides url host path query)
    (h' : Divides url host' path' query') :
    host = host' ∧ path = path' ∧ query = query' := by
  have htext := h.text.symm.trans h'.text
  rw [List.append_cancel_left_eq] at htext
  have hslash : ∀ cs : List Char, (∀ c ∈ cs, c ≠ '/' ∧ c ≠ '?' ∧ c ≠ '#') → '/' ∉ cs :=
    fun cs hcs hmem => (hcs '/' hmem).1 rfl
  have hquestion : ∀ cs : List Char, (∀ c ∈ cs, c ≠ '?' ∧ c ≠ '#') → '?' ∉ cs :=
    fun cs hcs hmem => (hcs '?' hmem).1 rfl
  obtain ⟨hhost, hrest⟩ :=
    (Text.append_cons_inj (hslash host h.host_free) (hslash host' h'.host_free)).mp htext
  exact ⟨hhost,
    (Text.append_cons_inj (hquestion path h.path_free) (hquestion path' h'.path_free)).mp hrest⟩

/-- A signed URL divides into the host, the path and the parameters that it is written from. -/
theorem divides_url
    {signature : String}
    (hhost : ∀ c ∈ access.host.toList, c ≠ '/' ∧ c ≠ '?' ∧ c ≠ '#') :
    Divides
      ("https://" ++ access.host ++ "/" ++ access.path ++ "?" ++
        parameterText (parameters fields signature))
      access.host.toList access.path.toList
      (parameterText (parameters fields signature)).toList where
  text := by
    simp [String.toList_append]
  host_free := hhost
  path_free := path_free access
  query_free := not_mem_parameterText fun _ hp => isPlainName_of_mem_parameters hp

/-- Path and parameters are read as the container, the entry and the parameters. -/
theorem read?_path
    (access : SharedAccess)
    (fields : SignedFields)
    (signature : String) :
    Presented.read? access.path.toList (parameterText (parameters fields signature)).toList =
      some ⟨access.container, access.entry, parameters fields signature⟩ := by
  have hcontainer : '/' ∉ Percent.encodeChars access.container.toList :=
    Percent.not_mem_encodeChars (by decide) _
  have hparameters : readParameters? (parameterText (parameters fields signature)).toList =
      some (parameters fields signature) :=
    readParameters?_parameterText (by simp [parameters]) fun _ hp => isPlainName_of_mem_parameters hp
  have hentry : Percent.decode
      (['/'].intercalate ((Text.pieces '/' access.entry.toList).map Percent.encodeChars)) =
        access.entry.toList := by
    rw [Percent.decode_intercalate rfl (by decide), Text.intercalate_pieces]
  rw [Presented.read?, toList_path, Text.cut_append_cons hcontainer, hparameters]
  simp only [Percent.decode_encodeChars, hentry, String.ofList_toList]

/-- The owner of the account reads the fields that were signed. -/
theorem fields_presented
    {signature : String}
    (h : access.fieldsAt? address now = some fields) :
    Presented.fields ⟨access.container, access.entry, parameters fields signature⟩ access.account =
      fields := by
  obtain ⟨start, expiry, -, -, rfl⟩ := fieldsAt?_eq_some_iff.mp h
  unfold parameters
  by_cases haddress : access.signedAddress address = ""
  · simp [Presented.fields, Presented.parameter, Members.get?, signedFields, haddress]
  · simp [Presented.fields, Presented.parameter, Members.get?, signedFields, haddress]

theorem parameter_sig
    (access : SharedAccess)
    (fields : SignedFields)
    (signature : String) :
    Presented.parameter ⟨access.container, access.entry, parameters fields signature⟩ "sig" =
      signature := by
  simp [Presented.parameter, Members.get?, parameters]

/--
**A signed URL tells all that was signed.**  With an account, a key that decodes, Unicode
texts, a host free of separators and a window in range, a URL is made, and it divides into
host, path and query in one way.  What path and query present is the container, the entry and the
parameters in their order, the address among them iff the URL admits this address only;
the fields that the owner of the account reads there are the signed ones, and their
message has the signature that is presented.
-/
theorem url_rebuilds_signed_message
    {bytes : List Nat}
    (haccount : access.account ≠ "")
    (hkey : access.key ≠ "")
    (hdecoded : Base64.decode access.key = .ok bytes)
    (hhost : ∀ c ∈ access.host.toList, c ≠ '/' ∧ c ≠ '?' ∧ c ≠ '#')
    (hwindow : access.HasWindow now)
    (hunicode : access.isUnicode = true)
    (address : String) :
    ∃ url fields signature path query presented,
      access.url address now = .ok url ∧
      access.fieldsAt? address now = some fields ∧
      sign fields.message access.key = .ok signature ∧
      (∀ host' path' query', Divides url host' path' query' ↔
        host' = access.host.toList ∧ path' = path ∧ query' = query) ∧
      Presented.read? path query = some presented ∧
      presented.container = access.container ∧
      presented.entry = access.entry ∧
      presented.parameters =
        [("sv", access.version), ("se", fields.expiry), ("sr", "c"), ("sp", "r"),
          ("spr", "https"), ("st", fields.start), ("sig", signature)] ++
        (if access.locksAddress = true ∧ address ≠ "" then [("sip", address)] else []) ∧
      presented.fields access.account = fields ∧
      sign (presented.fields access.account).message access.key =
        .ok (presented.parameter "sig") := by
  obtain ⟨fields, hfields⟩ : ∃ fields, access.fieldsAt? address now = some fields :=
    exists_fieldsAt?_iff.mpr hwindow
  obtain ⟨signature, hsignature⟩ := exists_sign hdecoded fields.message
  have hdivides :
      Divides
        ("https://" ++ access.host ++ "/" ++ access.path ++ "?" ++
          parameterText (parameters fields signature))
        access.host.toList access.path.toList
        (parameterText (parameters fields signature)).toList :=
    divides_url hhost
  refine ⟨_, fields, signature, access.path.toList, _,
    ⟨access.container, access.entry, parameters fields signature⟩,
    url_eq haccount hkey hfields hsignature hunicode, hfields, hsignature, ?_,
    read?_path access fields signature, rfl, rfl, parameters_eq hfields,
    fields_presented hfields, ?_⟩
  · intro host' path' query'
    constructor
    · exact fun h => h.unique hdivides
    · rintro ⟨hhost', hpath', hquery'⟩
      rw [hhost', hpath', hquery']
      exact hdivides
  · rw [fields_presented hfields, parameter_sig]
    exact hsignature

/-- A configuration whose texts are full of separators, for a host of its own. -/
def separatorConfig : Members Json :=
  [("accountName", .string "shop"), ("accountKeyB64", .string "YQ=="),
    ("container", .string "a/b&c=d%2F#"), ("entryBlob", .string "/ä/ü+?.html"),
    ("sv", .string "2022&11=02"), ("lockByIP", .bool true),
    ("customDomain", .string "cdn.example/")]

/-- Containers, entries, versions and addresses full of separators are presented as they are. -/
theorem separator_texts_presented :
    (ofMembers separatorConfig).account ≠ "" ∧ (ofMembers separatorConfig).key ≠ "" ∧
    Base64.decode (ofMembers separatorConfig).key = .ok [97] ∧
    (ofMembers separatorConfig).host = "cdn.example" ∧
    (ofMembers separatorConfig).HasWindow newYearNoon ∧
    (ofMembers separatorConfig).isUnicode = true ∧
    ∃ url path query presented,
      (ofMembers separatorConfig).url "fe80::1%a/b" newYearNoon = .ok url ∧
      Divides url "cdn.example".toList path query ∧
      Presented.read? path query = some presented ∧
      presented.container = "a/b&c=d%2F#" ∧ presented.entry = "ä/ü+?.html" ∧
      presented.parameter "sv" = "2022&11=02" ∧ presented.parameter "sip" = "fe80::1%a/b" ∧
      sign (presented.fields "shop").message "YQ==" = .ok (presented.parameter "sig") := by
  have haccount : (ofMembers separatorConfig).account = "shop" := rfl
  have hkey : (ofMembers separatorConfig).key = "YQ==" := rfl
  have hdecoded : Base64.decode "YQ==" = .ok [97] := by decide
  have hhost : (ofMembers separatorConfig).host = "cdn.example" := by decide
  have hwindow : (ofMembers separatorConfig).HasWindow newYearNoon := by
    rw [HasWindow, show (ofMembers separatorConfig).seconds = 15 from rfl]
    decide
  have hfree : ∀ c ∈ "cdn.example".toList, c ≠ '/' ∧ c ≠ '?' ∧ c ≠ '#' := by
    simp
  obtain ⟨url, fields, signature, path, query, presented, hurl, -, -, hdivides, hread, hcontainer,
      hentry, hparameters, -, hsigned⟩ :=
    url_rebuilds_signed_message (by rw [haccount]; decide) (by rw [hkey]; decide)
      (by rw [hkey]; exact hdecoded) (by rw [hhost]; exact hfree) hwindow rfl "fe80::1%a/b"
  rw [hkey] at hsigned
  refine ⟨by decide, by decide, by rw [hkey]; exact hdecoded, hhost, hwindow, rfl, url, path,
    query, presented, hurl, (hdivides _ _ _).mpr ⟨by rw [hhost], rfl, rfl⟩, hread, ?_, ?_, ?_, ?_, ?_⟩
  · rw [hcontainer]
    decide
  · rw [hentry]
    decide
  · rw [Presented.parameter, hparameters]
    rfl
  · rw [Presented.parameter, hparameters]
    rfl
  · rw [haccount] at hsigned
    exact hsigned

end Verification

end SharedAccess
end Turnstile
