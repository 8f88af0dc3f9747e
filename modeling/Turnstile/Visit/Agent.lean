import Turnstile.Text.Blank
import Turnstile.Text.Case
import Turnstile.Pattern.Fold

/-!
# User agents

A user agent that holds a word of a robot is a robot; otherwise the first browser and
the first system whose mark it holds count.
-/

namespace Turnstile

/-- What a user agent says of a visitor. -/
structure Agent where
  browser : String
  system : String
  isRobot : Bool
  deriving DecidableEq, Repr

namespace Agent

/-- Words of robots. -/
def robotWords : List String :=
  ["bot", "crawler", "spider", "preview", "fetcher", "slurp", "facebookexternalhit",
    "twitterbot", "linkedinbot", "whatsapp", "telegram", "bingpreview", "curl", "wget",
    "python-requests", "golang", "httpclient", "axios", "vkshare"]

/-- The marks of browsers, and the browsers. -/
def browsers : List (String × String) :=
  [("edg", "Edge"), ("chrome", "Chrome"), ("safari", "Safari"), ("firefox", "Firefox")]

/-- The marks of systems, and the systems. -/
def systems : List (String × String) :=
  [("windows", "Windows"), ("android", "Android"), ("iphone", "iOS"), ("ipad", "iOS"),
    ("mac os", "macOS"), ("linux", "Linux")]

/-- The first entry whose mark a text holds. -/
def firstMarked (entries : List (String × String)) (text : String) : String :=
  match entries.find? fun entry => Text.isPart entry.1.toList text.toList with
  | some (_, name) => name
  | none => "Other"

/-- A text holds a word of a robot, without regard to case. -/
def namesRobot (text : String) : Bool :=
  let codes := text.toList.map (·.toNat)
  robotWords.any fun word => Pattern.holdsWord (word.toList.map (·.toNat)) codes

/-- Reads a user agent. -/
def ofText (text : String) : Agent :=
  let lowered := Text.lower text
  if namesRobot lowered then ⟨"Bot", "Bot", true⟩
  else ⟨firstMarked browsers lowered, firstMarked systems lowered, false⟩

end Agent

end Turnstile
