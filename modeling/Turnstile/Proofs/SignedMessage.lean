import Turnstile.Proofs.Disclosure
import Turnstile.Proofs.Pieces
import Turnstile.Proofs.RuleReading

/-!
# Signed messages

A message has sixteen fields on lines of their own.  Whoever reads it line by line finds
the fields that were signed, as long as none of them holds a line break: the stamps of
the window never do, but the account, the container, the version and the address are
texts that come from outside and are signed as they are.  A slash in the account blurs
where it ends and the container begins.

**Results.**
* `pieces_message_iff`: when the lines of a message are its fields.
* `message_tells_what_is_signed`: this, for the texts of a configuration and a visitor, and
  what two equal messages have in common.
* `line_break_and_slash_blur_messages`: messages that are equal and tell different things.
-/

namespace Turnstile

section Window

/-- Moved by some microseconds, both the local clock and that of universal time are in range. -/
def Moment.Reaches
    (m : Moment)
    (micros : Int) : Prop :=
  (0 ≤ m.wall + micros ∧ m.wall + micros < clockSpan) ∧
    0 ≤ m.instant + micros ∧ m.instant + micros < clockSpan

instance
    (m : Moment)
    (micros : Int) :
    Decidable (m.Reaches micros) :=
  inferInstanceAs (Decidable (_ ∧ _))

theorem Moment.exists_ofWall?_iff
    {wall offset : Int}
    (hoffset : offset.natAbs < microsPerDay) :
    (∃ m, ofWall? wall offset = some m) ↔ 0 ≤ wall ∧ wall < clockSpan := by
  unfold ofWall?
  constructor
  · rintro ⟨m, h⟩
    split at h
    · omega
    · cases h
  · intro hwall
    rw [dif_pos ⟨hwall.1, by omega, hoffset⟩]
    exact ⟨_, rfl⟩

theorem Moment.wall_of_ofWall?
    {wall offset : Int}
    {m : Moment}
    (h : ofWall? wall offset = some m) :
    (m.wall : Int) = wall ∧ m.offset = offset := by
  unfold ofWall? at h
  split at h
  · obtain rfl := Option.some.inj h
    simp only [and_true]
    omega
  · cases h

namespace SharedAccess

/-- There is a stamp some seconds after a moment iff these stay in range. -/
theorem exists_stampAfter?_iff
    {m : Moment}
    {seconds : Int} :
    (∃ text, stampAfter? m seconds = some text) ↔ m.Reaches (seconds * microsPerSecond) := by
  have hutc : ∀ shifted, m.shift? (seconds * microsPerSecond) = some shifted →
      ((∃ text, stamp? shifted = some text) ↔
        0 ≤ m.instant + seconds * microsPerSecond ∧
          m.instant + seconds * microsPerSecond < clockSpan) := by
    intro shifted hshifted
    obtain ⟨hwall, hoffset⟩ := Moment.wall_of_ofWall? hshifted
    have hinstant : shifted.instant = m.instant + seconds * microsPerSecond := by
      rw [Moment.instant, Moment.instant, hwall, hoffset]
      omega
    rw [← hinstant, ← Moment.exists_ofWall?_iff (show (0 : Int).natAbs < microsPerDay by decide)]
    simp [stamp?, Moment.toUtc?]
  unfold stampAfter? Moment.Reaches
  rw [← Moment.exists_ofWall?_iff m.offset_lt]
  constructor
  · rintro ⟨text, h⟩
    obtain ⟨shifted, hshifted, hstamp⟩ := Option.bind_eq_some_iff.mp h
    exact ⟨⟨shifted, hshifted⟩, (hutc shifted hshifted).mp ⟨text, hstamp⟩⟩
  · rintro ⟨⟨shifted, hshifted⟩, hrange⟩
    obtain ⟨text, hstamp⟩ := (hutc shifted hshifted).mpr hrange
    exact ⟨text, Option.bind_eq_some_iff.mpr ⟨shifted, hshifted, hstamp⟩⟩

/-- The window that is signed at a moment stays in range. -/
def HasWindow
    (access : SharedAccess)
    (now : Moment) : Prop :=
  now.Reaches (-skewSeconds * microsPerSecond) ∧ now.Reaches (access.seconds * microsPerSecond)

instance
    (access : SharedAccess)
    (now : Moment) :
    Decidable (access.HasWindow now) :=
  inferInstanceAs (Decidable (_ ∧ _))

end SharedAccess

end Window

namespace SharedAccess

section Stamps

/-- A character of a stamp. -/
def isStampChar
    (c : Char) : Bool :=
  c.isDigit || ['-', 'T', ':', 'Z'].contains c

theorem isStampChar_of_mem_toString
    {c : Char}
    {n : Nat}
    (h : c ∈ (toString n).toList) :
    isStampChar c = true := by
  have hdigits : (toString n).toList = Nat.toDigits 10 n := Nat.toList_repr
  rw [hdigits] at h
  rw [isStampChar, Nat.isDigit_of_mem_toDigits (by omega) (by omega) h, Bool.true_or]

theorem isStampChar_of_mem_padded
    {c : Char}
    {width n : Nat}
    (h : c ∈ (Moment.padded width n).toList) :
    isStampChar c = true := by
  rw [Moment.padded, String.toList_append, String.toList_ofList, List.mem_append] at h
  rcases h with hzero | hdigit
  · rw [List.eq_of_mem_replicate hzero]
    rfl
  · exact isStampChar_of_mem_toString hdigit

/-- A stamp is made of digits, dashes, colons and two letters. -/
theorem isStampChar_of_mem_stamp
    {c : Char}
    {m : Moment}
    (h : c ∈ (stamp m).toList) :
    isStampChar c = true := by
  have hsign : ∀ sign ∈ ["-", "T", ":", "Z"], ∀ d ∈ sign.toList, isStampChar d = true := by
    simp [isStampChar]
  simp only [stamp, String.toList_append, List.mem_append] at h
  rcases h with (((((((((((h | h) | h) | h) | h) | h) | h) | h) | h) | h) | h) | h)
  · exact isStampChar_of_mem_toString h
  · exact hsign "-" (by simp) c h
  · exact isStampChar_of_mem_padded h
  · exact hsign "-" (by simp) c h
  · exact isStampChar_of_mem_padded h
  · exact hsign "T" (by simp) c h
  · exact isStampChar_of_mem_padded h
  · exact hsign ":" (by simp) c h
  · exact isStampChar_of_mem_padded h
  · exact hsign ":" (by simp) c h
  · exact isStampChar_of_mem_padded h
  · exact hsign "Z" (by simp) c h

theorem not_mem_of_stampAfter?
    {m : Moment}
    {seconds : Int}
    {text : String}
    (h : stampAfter? m seconds = some text) :
    '\n' ∉ text.toList := by
  obtain ⟨shifted, -, hstamp⟩ := Option.bind_eq_some_iff.mp h
  obtain ⟨utc, -, rfl⟩ := Option.map_eq_some_iff.mp hstamp
  intro hmem
  have hchar := isStampChar_of_mem_stamp hmem
  cases hchar

end Stamps

section Fields

theorem fieldsAt?_eq_some_iff
    {access : SharedAccess}
    {address : String}
    {now : Moment}
    {fields : SignedFields} :
    access.fieldsAt? address now = some fields ↔
      ∃ start expiry, stampAfter? now (-skewSeconds) = some start ∧
        stampAfter? now access.seconds = some expiry ∧
        fields = signedFields start expiry (resource access.account access.container)
          (access.signedAddress address) access.version := by
  simp only [fieldsAt?, Option.bind_eq_bind, Option.bind_eq_some_iff, Option.pure_def,
    Option.some.injEq]
  constructor
  · rintro ⟨start, hstart, expiry, hexpiry, rfl⟩
    exact ⟨start, expiry, hstart, hexpiry, rfl⟩
  · rintro ⟨start, expiry, hstart, hexpiry, rfl⟩
    exact ⟨start, hstart, expiry, hexpiry, rfl⟩

theorem exists_fieldsAt?_iff
    {access : SharedAccess}
    {address : String}
    {now : Moment} :
    (∃ fields, access.fieldsAt? address now = some fields) ↔ access.HasWindow now := by
  simp only [HasWindow, ← exists_stampAfter?_iff, fieldsAt?_eq_some_iff]
  constructor
  · rintro ⟨_, start, expiry, hstart, hexpiry, -⟩
    exact ⟨⟨start, hstart⟩, expiry, hexpiry⟩
  · rintro ⟨⟨start, hstart⟩, expiry, hexpiry⟩
    exact ⟨_, start, expiry, hstart, hexpiry, rfl⟩

/-- The lines of a message are its fields iff no field holds a line break. -/
theorem pieces_message_iff
    (fields : SignedFields) :
    Text.pieces '\n' fields.message.toList = fields.toList.map String.toList ↔
      ∀ field ∈ fields.toList, '\n' ∉ field.toList := by
  constructor
  · intro h field hfield
    have hpiece : field.toList ∈ Text.pieces '\n' fields.message.toList := by
      rw [h]
      exact List.mem_map_of_mem hfield
    exact Text.not_mem_of_mem_pieces hpiece
  · exact Text.pieces_joined rfl (by simp [SignedFields.toList])

/-- A message of sixteen lines has no field with a line break. -/
theorem length_pieces_message_iff
    (fields : SignedFields) :
    (Text.pieces '\n' fields.message.toList).length = 16 ↔
      ∀ field ∈ fields.toList, '\n' ∉ field.toList := by
  have hjoined : fields.message.toList = ['\n'].intercalate (fields.toList.map String.toList) :=
    Text.toList_joined rfl fields.toList
  have hlength : (fields.toList.map String.toList).length = 16 := rfl
  rw [hjoined, ← hlength, Text.length_pieces_intercalate_iff '\n' (by simp [SignedFields.toList]),
    List.forall_mem_map]

/-- Messages of which one tells its fields are of the same fields. -/
theorem toList_eq_of_message_eq
    {fields fields' : SignedFields}
    (hfields : ∀ field ∈ fields.toList, '\n' ∉ field.toList)
    (h : fields.message = fields'.message) :
    fields.toList = fields'.toList := by
  have hfields' : ∀ field ∈ fields'.toList, '\n' ∉ field.toList := by
    rw [← length_pieces_message_iff, ← h, length_pieces_message_iff]
    exact hfields
  have hpieces := (pieces_message_iff fields).mpr hfields
  rw [h, (pieces_message_iff fields').mpr hfields'] at hpieces
  exact (List.map_injective_iff.mpr (fun _ _ hchars => String.toList_injective hchars) hpieces).symm

/-- A resource tells the account, which holds no slash, and the container. -/
theorem resource_inj
    {account account' container container' : String}
    (haccount : '/' ∉ account.toList)
    (haccount' : '/' ∉ account'.toList)
    (h : resource account container = resource account' container') :
    account = account' ∧ container = container' := by
  have hchars := congrArg String.toList h
  simp only [resource, String.toList_append, List.append_assoc, List.append_cancel_left_eq] at hchars
  have hparts := (Text.append_cons_inj haccount haccount').mp hchars
  exact ⟨String.toList_injective hparts.1, String.toList_injective hparts.2⟩

end Fields

section Messages

variable {access access' : SharedAccess} {address address' : String} {now now' : Moment}
  {fields fields' : SignedFields}

/-- A URL is made for an address at a moment, with a signature of these fields. -/
structure Signs
    (access : SharedAccess)
    (address : String)
    (now : Moment)
    (fields : SignedFields) : Prop where
  made : ∃ url, access.url address now = .ok url ∧ url ≠ ""
  signed : access.fieldsAt? address now = some fields

/-- The texts that are signed as they come hold no line break. -/
def IsUnbroken
    (access : SharedAccess)
    (address : String) : Prop :=
  ∀ text ∈ [access.account, access.container, access.version, access.signedAddress address],
    '\n' ∉ text.toList

instance
    (access : SharedAccess)
    (address : String) :
    Decidable (access.IsUnbroken address) :=
  inferInstanceAs (Decidable (∀ text ∈ _, _))

theorem isUnbroken_iff
    (h : access.fieldsAt? address now = some fields) :
    access.IsUnbroken address ↔ ∀ field ∈ fields.toList, '\n' ∉ field.toList := by
  obtain ⟨start, expiry, hstart, hexpiry, rfl⟩ := fieldsAt?_eq_some_iff.mp h
  have hstart' := not_mem_of_stampAfter? hstart
  have hexpiry' := not_mem_of_stampAfter? hexpiry
  simp [IsUnbroken, SignedFields.toList, signedFields, resource, readPermission, secureProtocol,
    containerScope, hstart', hexpiry']
  tauto

/--
**Unbroken messages tell what is signed.**  The lines of a message are its sixteen fields
iff the account, the container, the version and the address hold no line break.  If that
is so for one of two calls, these sign the same message only for the same window, address
and version, and the same account and container with a slash between them; so for the
same account and the same container if neither account holds a slash.
-/
theorem message_tells_what_is_signed
    (h : access.Signs address now fields)
    (h' : access'.Signs address' now' fields') :
    (access.IsUnbroken address ↔
      Text.pieces '\n' fields.message.toList =
        ["r", fields.start, fields.expiry, "/blob/" ++ access.account ++ "/" ++ access.container,
          "", access.signedAddress address, "https", access.version, "c",
          "", "", "", "", "", "", ""].map String.toList) ∧
    (access.IsUnbroken address → fields.message = fields'.message →
      fields.start = fields'.start ∧ fields.expiry = fields'.expiry ∧
      access.signedAddress address = access'.signedAddress address' ∧
      access.version = access'.version ∧
      access.account ++ "/" ++ access.container = access'.account ++ "/" ++ access'.container ∧
      ('/' ∉ access.account.toList → '/' ∉ access'.account.toList →
        access.account = access'.account ∧ access.container = access'.container)) := by
  have hunbroken := isUnbroken_iff h.signed
  obtain ⟨start, expiry, -, -, rfl⟩ := fieldsAt?_eq_some_iff.mp h.signed
  obtain ⟨start', expiry', -, -, rfl⟩ := fieldsAt?_eq_some_iff.mp h'.signed
  constructor
  · rw [hunbroken, ← pieces_message_iff]
    exact Iff.rfl
  · intro hfree hmessage
    have hlist := toList_eq_of_message_eq (hunbroken.mp hfree) hmessage
    simp only [SignedFields.toList, signedFields, List.cons.injEq, true_and, and_true] at hlist
    obtain ⟨hstart, hexpiry, hresource, haddress, hversion⟩ := hlist
    have hjoined : access.account ++ "/" ++ access.container =
        access'.account ++ "/" ++ access'.container := by
      simpa [resource, String.append_assoc] using hresource
    exact ⟨hstart, hexpiry, haddress, hversion, hjoined,
      fun haccount haccount' => resource_inj haccount haccount' hresource⟩

theorem exists_sign
    {key : String}
    {bytes : List Nat}
    (h : Base64.decode key = .ok bytes)
    (message : String) :
    ∃ signature, sign message key = .ok signature := by
  simp [sign, h, bind, Except.bind, pure, Except.pure]

/-- There are an account and a key. -/
theorem present_of_ne
    (haccount : access.account ≠ "")
    (hkey : access.key ≠ "") :
    ¬ (decide (access.account = "") || decide (access.key = "")) = true := by
  simp [haccount, hkey]

/-- The URL that is made from signed fields. -/
theorem url_eq
    {signature : String}
    (haccount : access.account ≠ "")
    (hkey : access.key ≠ "")
    (hfields : access.fieldsAt? address now = some fields)
    (hsignature : sign fields.message access.key = .ok signature)
    (hunicode : access.isUnicode = true) :
    access.url address now =
      .ok ("https://" ++ access.host ++ "/" ++ access.path ++ "?" ++
        parameterText (parameters fields signature)) := by
  unfold SharedAccess.url
  rw [if_neg (present_of_ne haccount hkey)]
  simp only [hfields, hsignature, hunicode, if_true]

/-- Fields are signed whenever there are an account, a key that decodes, a window and no halves. -/
theorem exists_signs
    {bytes : List Nat}
    (haccount : access.account ≠ "")
    (hkey : access.key ≠ "")
    (hdecoded : Base64.decode access.key = .ok bytes)
    (hwindow : access.HasWindow now)
    (hunicode : access.isUnicode = true)
    (address : String) :
    ∃ fields, access.Signs address now fields := by
  obtain ⟨fields, hfields⟩ : ∃ fields, access.fieldsAt? address now = some fields :=
    exists_fieldsAt?_iff.mpr hwindow
  obtain ⟨signature, hsignature⟩ := exists_sign hdecoded fields.message
  refine ⟨fields, ⟨_, url_eq haccount hkey hfields hsignature hunicode, ?_⟩, hfields⟩
  intro hempty
  have hchars := congrArg String.toList hempty
  simp at hchars

/-- A configuration that signs for one address only. -/
def lockedConfig
    (account container version : String) : Members Json :=
  [("accountName", .string account), ("accountKeyB64", .string "YQ=="),
    ("container", .string container), ("sv", .string version), ("lockByIP", .bool true)]

/-- Noon of the first day of 2024. -/
def newYearNoon : Moment :=
  { Moment.first with wall := 63839707200000000, wall_lt := by decide }

theorem exists_signs_lockedConfig
    {account container version : String}
    (haccount : (ofMembers (lockedConfig account container version)).account ≠ "")
    (address : String) :
    ∃ fields, (ofMembers (lockedConfig account container version)).Signs address newYearNoon
      fields := by
  have hkey : (ofMembers (lockedConfig account container version)).key = "YQ==" := rfl
  have hdecoded : Base64.decode "YQ==" = .ok [97] := by decide
  have hseconds : (ofMembers (lockedConfig account container version)).seconds = 15 := rfl
  have hwindow : (ofMembers (lockedConfig account container version)).HasWindow newYearNoon := by
    rw [HasWindow, hseconds]
    decide
  have hunicode : (ofMembers (lockedConfig account container version)).isUnicode = true := rfl
  exact exists_signs haccount (by rw [hkey]; decide) (by rw [hkey]; exact hdecoded) hwindow
    hunicode address

/-- The messages for two visitors with scoped addresses are told apart. -/
theorem scoped_addresses_sign_apart :
    ∃ fields fields',
      (ofMembers (lockedConfig "shop" "$web" "2022-11-02")).Signs "fe80::1%a/b" newYearNoon fields ∧
      (ofMembers (lockedConfig "shop" "$web" "2022-11-02")).Signs "fe80::1%a" newYearNoon fields' ∧
      (ofMembers (lockedConfig "shop" "$web" "2022-11-02")).IsUnbroken "fe80::1%a/b" ∧
      fields.message ≠ fields'.message := by
  obtain ⟨fields, hsigns⟩ :
      ∃ fields, (ofMembers (lockedConfig "shop" "$web" "2022-11-02")).Signs "fe80::1%a/b"
        newYearNoon fields :=
    exists_signs_lockedConfig (by decide) _
  obtain ⟨fields', hsigns'⟩ :
      ∃ fields, (ofMembers (lockedConfig "shop" "$web" "2022-11-02")).Signs "fe80::1%a"
        newYearNoon fields :=
    exists_signs_lockedConfig (by decide) _
  have hunbroken :
      (ofMembers (lockedConfig "shop" "$web" "2022-11-02")).IsUnbroken "fe80::1%a/b" := by
    decide
  refine ⟨fields, fields', hsigns, hsigns', hunbroken, ?_⟩
  intro hmessage
  have htold := (message_tells_what_is_signed hsigns hsigns').2 hunbroken hmessage
  exact absurd htold.2.2.1 (by decide)

theorem message_signedFields
    (start expiry resource address version : String) :
    (signedFields start expiry resource address version).message =
      "r\n" ++ start ++ "\n" ++ expiry ++ "\n" ++ resource ++ "\n\n" ++
        Text.joined "\n" [address, "https", version] ++ "\nc\n\n\n\n\n\n\n" := by
  apply String.toList_injective
  simp [SignedFields.message, SignedFields.toList, signedFields, Text.joined, readPermission,
    secureProtocol, containerScope]

/-- At one moment messages are equal if the resources are, and what stands from address to version. -/
theorem message_eq_of_joined_eq
    (h : access.fieldsAt? address now = some fields)
    (h' : access'.fieldsAt? address' now = some fields')
    (hseconds : access.seconds = access'.seconds)
    (hresource : resource access.account access.container =
      resource access'.account access'.container)
    (hjoined : Text.joined "\n" [access.signedAddress address, "https", access.version] =
      Text.joined "\n" [access'.signedAddress address', "https", access'.version]) :
    fields.message = fields'.message := by
  obtain ⟨start, expiry, hstart, hexpiry, rfl⟩ := fieldsAt?_eq_some_iff.mp h
  obtain ⟨start', expiry', hstart', hexpiry', rfl⟩ := fieldsAt?_eq_some_iff.mp h'
  rw [hseconds] at hexpiry
  obtain rfl := Option.some.inj (hstart.symm.trans hstart')
  obtain rfl := Option.some.inj (hexpiry.symm.trans hexpiry')
  rw [message_signedFields, message_signedFields, hresource, hjoined]

/--
A line break in the address and one in the version move the fields between them, and a
slash moves the end of the account: different things are signed with one message.
-/
theorem line_break_and_slash_blur_messages :
    (∃ fields fields',
      (ofMembers (lockedConfig "shop" "$web" "2022-11-02")).Signs "198.51.100.7\nhttps"
        newYearNoon fields ∧
      (ofMembers (lockedConfig "shop" "$web" "https\n2022-11-02")).Signs "198.51.100.7"
        newYearNoon fields' ∧
      (Text.pieces '\n' fields.message.toList).length ≠ 16 ∧
      fields.address ≠ fields'.address ∧ fields.version ≠ fields'.version ∧
      fields.message = fields'.message) ∧
    ∃ fields fields',
      (ofMembers (lockedConfig "shop/eu" "web" "2022-11-02")).Signs "198.51.100.7"
        newYearNoon fields ∧
      (ofMembers (lockedConfig "shop" "eu/web" "2022-11-02")).Signs "198.51.100.7"
        newYearNoon fields' ∧
      (ofMembers (lockedConfig "shop/eu" "web" "2022-11-02")).account ≠
        (ofMembers (lockedConfig "shop" "eu/web" "2022-11-02")).account ∧
      fields.message = fields'.message := by
  constructor
  · obtain ⟨fields, hsigns⟩ :
        ∃ fields, (ofMembers (lockedConfig "shop" "$web" "2022-11-02")).Signs
          "198.51.100.7\nhttps" newYearNoon fields :=
      exists_signs_lockedConfig (by decide) _
    obtain ⟨fields', hsigns'⟩ :
        ∃ fields, (ofMembers (lockedConfig "shop" "$web" "https\n2022-11-02")).Signs
          "198.51.100.7" newYearNoon fields :=
      exists_signs_lockedConfig (by decide) _
    have hmessage := message_eq_of_joined_eq hsigns.signed hsigns'.signed rfl rfl (by decide)
    refine ⟨fields, fields', hsigns, hsigns', ?_, ?_, ?_, hmessage⟩
    · rw [Ne, length_pieces_message_iff, ← isUnbroken_iff hsigns.signed]
      decide
    all_goals
      obtain ⟨start, expiry, -, -, rfl⟩ := fieldsAt?_eq_some_iff.mp hsigns.signed
      obtain ⟨start', expiry', -, -, rfl⟩ := fieldsAt?_eq_some_iff.mp hsigns'.signed
      simp only [signedFields]
      decide
  · obtain ⟨fields, hsigns⟩ :
        ∃ fields, (ofMembers (lockedConfig "shop/eu" "web" "2022-11-02")).Signs
          "198.51.100.7" newYearNoon fields :=
      exists_signs_lockedConfig (by decide) _
    obtain ⟨fields', hsigns'⟩ :
        ∃ fields, (ofMembers (lockedConfig "shop" "eu/web" "2022-11-02")).Signs
          "198.51.100.7" newYearNoon fields :=
      exists_signs_lockedConfig (by decide) _
    exact ⟨fields, fields', hsigns, hsigns', by decide,
      message_eq_of_joined_eq hsigns.signed hsigns'.signed rfl (by decide) rfl⟩

end Messages

end SharedAccess
end Turnstile
