import Turnstile.Action.IncludeRoot
import Turnstile.Action.SharedAccess
import Turnstile.Rule.Basic

/-!
# What an action comes to

The action of a matched rule comes to a *descriptor*, which a browser may see, and for a
privileged caller also to a *directive*.  Keys, texts to echo and names of files stay
out of descriptors.
-/

namespace Turnstile

/-- What a browser may know of an action. -/
structure Descriptor where
  kind : String
  data : Members Json
  ruleId : Option String

/-- What the server is to do. -/
inductive Directive where
  | redirect (status : Nat) (location : String)
  | echo (body : String)
  | includeFile (path : String)
  deriving DecidableEq, Repr

/-- The kinds of actions that are known. -/
inductive ActionKind where
  | browserRedirect
  | permanentRedirect
  | temporaryRedirect
  | includeFile
  | echo
  | html
  | script
  deriving DecidableEq, Repr

namespace ActionKind

/-- All kinds of actions. -/
def all : List ActionKind :=
  [.browserRedirect, .permanentRedirect, .temporaryRedirect, .includeFile, .echo, .html, .script]

/-- The name of a kind. -/
def name : ActionKind → String
  | .browserRedirect => "js-redirect"
  | .permanentRedirect => "server-301-redirect"
  | .temporaryRedirect => "server-302-redirect"
  | .includeFile => "server-include"
  | .echo => "server-echo-data"
  | .html => "js-includehtml"
  | .script => "js-exec"

/-- The kind of a name. -/
def ofName? (name : String) : Option ActionKind := all.find? fun kind => kind.name == name

end ActionKind

/-- Why it cannot be determined what an action comes to. -/
inductive ActionFault where
  /-- The name of the file is longer than names can be. -/
  | nameTooLong
  /-- UTF-8 has no form for a text of the URL to be signed. -/
  | notUnicode
  deriving DecidableEq, Repr

/-- What signing a URL comes to: the URL, which is empty after a failure that is reported. -/
def ActionFault.orUrl : Except SharedAccess.Flaw String → Except ActionFault String
  | .ok url => .ok url
  | .error .notUnicode => .error .notUnicode
  | .error _ => .ok ""

namespace Action

/-- A member of the data of an action. -/
def datum (a : Action) (name : String) : Json := (a.data.get? name).getD .null

/-- The URL of the action is to be signed. -/
def isSigned (a : Action) : Bool :=
  match a.datum "mode" with
  | .string mode => mode == "azure"
  | _ => false

/-- The signed URL of a redirect, empty after a failure that is reported. -/
def signedUrl (a : Action) (address : String) (now : Moment) : Except ActionFault String :=
  match a.datum "azure" with
  | .object ms => ActionFault.orUrl ((SharedAccess.ofMembers ms).url address now)
  | _ => .ok ""

/-- The URL that a redirect gives, empty if it gives none. -/
def plainUrl (a : Action) : String :=
  match a.datum "url" with
  | .null => ""
  | v => Text.trim v.display

/-- The target of a redirect, empty if there is none. -/
def target (a : Action) (address : String) (now : Moment) : Except ActionFault String :=
  if a.isSigned then a.signedUrl address now else .ok a.plainUrl

/-- The data of the descriptor of a redirect. -/
def redirectData (a : Action) (url : String) : Members Json :=
  ("url", .string url) :: if a.isSigned then [("resolved_url", .string url)] else []

/-- The descriptor of an action, for an address at a moment. -/
def descriptor (a : Action) (ruleId : Option String) (address : String) (now : Moment) :
    Except ActionFault (Option Descriptor) :=
  match ActionKind.ofName? a.kind with
  | some .browserRedirect | some .permanentRedirect | some .temporaryRedirect => do
    let url ← a.target address now
    return if url = "" then none
      else some ⟨ActionKind.browserRedirect.name, a.redirectData url, ruleId⟩
  | some .includeFile | some .echo => .ok (some ⟨a.kind, [], ruleId⟩)
  | some .html | some .script =>
    .ok (some ⟨a.kind, [("html", a.datum "html"), ("script", a.datum "script")], ruleId⟩)
  | none => .ok none

/-- The directive of a redirect with a status. -/
def redirectDirective (a : Action) (status : Nat) (address : String) (now : Moment) :
    Except ActionFault (Option Directive) := do
  let url ← a.target address now
  return if url = "" then none else some (.redirect status url)

/-- The directive of an echo: the text, if there is one. -/
def echoDirective (a : Action) : Option Directive :=
  match a.datum "text" with
  | .null => none
  | v => some (.echo v.display)

/-- The directive of an include: the file, if the root holds it. -/
def includeDirective (a : Action) : Option IncludeRoot → Except ActionFault (Option Directive)
  | none => .ok none
  | some root =>
    let file := a.datum "file"
    let path := root.pathOf file.display
    if !file.isTruthy then .ok none
    else
      match root.disk.isFile path with
      | .ok found => .ok (if found then some (.includeFile path) else none)
      | .error _ => .error .nameTooLong

/-- The directive of an action, for an address at a moment. -/
def directive (a : Action) (root : Option IncludeRoot) (address : String) (now : Moment) :
    Except ActionFault (Option Directive) :=
  match ActionKind.ofName? a.kind with
  | some .permanentRedirect => a.redirectDirective 301 address now
  | some .temporaryRedirect => a.redirectDirective 302 address now
  | some .echo => .ok a.echoDirective
  | some .includeFile => a.includeDirective root
  | _ => .ok none

end Action

namespace Rule

/-- The descriptor of the action of a rule. -/
def descriptor (r : Rule) (address : String) (now : Moment) :
    Except ActionFault (Option Descriptor) :=
  match r.action with
  | some a => a.descriptor r.id address now
  | none => .ok none

/-- The directive of the action of a rule. -/
def directive (r : Rule) (root : Option IncludeRoot) (address : String) (now : Moment) :
    Except ActionFault (Option Directive) :=
  match r.action with
  | some a => a.directive root address now
  | none => .ok none

end Rule

end Turnstile
